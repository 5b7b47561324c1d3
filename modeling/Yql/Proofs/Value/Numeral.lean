import Yql.Binary.Text
import Yql.Proofs.Text.Token

/-!
# Numerals

The texts of numbers. Whole numbers, finite floating numbers and numbers with
a fixed count of places are all written with digits, a minus sign and a point,
so that a numeral is a word of its own and never one of the named words.
-/

namespace Yql

def isNumeralChar (c : Char) : Bool :=
  c.isDigit || c = '-' || c = '.'

structure Numeral where
  text : String
  nonempty : text.toList ≠ []
  numeric : ∀ c ∈ text.toList, isNumeralChar c = true
  deriving DecidableEq

theorem isWordChar_of_isNumeralChar {c : Char} (h : isNumeralChar c = true) :
    isWordChar c = true := by
  simp only [isNumeralChar, Bool.or_eq_true, decide_eq_true_eq] at h
  rcases h with (h | rfl) | rfl
  · simp [isWordChar, isNameChar, Char.isAlphanum, h]
  · decide
  · decide

namespace Numeral

theorem legible (n : Numeral) : (Token.word n.text).Legible :=
  ⟨n.nonempty, fun c hc => isWordChar_of_isNumeralChar (n.numeric c hc)⟩

@[ext] theorem ext {m n : Numeral} (h : m.text = n.text) : m = n := by
  cases m
  cases n
  cases h
  rfl

theorem text_ne (n : Numeral) {text : String}
    (h : ∃ c ∈ text.toList, isNumeralChar c = false) : n.text ≠ text := by
  rintro rfl
  obtain ⟨c, hc, hnot⟩ := h
  rw [n.numeric c hc] at hnot
  exact Bool.noConfusion hnot

end Numeral

/-! ## Digits -/

theorem isNumeralChar_of_mem_toDigits {n : Nat} {c : Char} (h : c ∈ Nat.toDigits 10 n) :
    isNumeralChar c = true := by
  have hdigit := Nat.isDigit_of_mem_toDigits (by decide) (by decide) h
  simp [isNumeralChar, hdigit]

def Numeral.ofNat (n : Nat) : Numeral where
  text := toString n
  nonempty := by
    rw [Nat.toString_eq_repr, Nat.toList_repr]
    exact Nat.toDigits_ne_nil
  numeric := by
    intro c hc
    rw [Nat.toString_eq_repr, Nat.toList_repr] at hc
    exact isNumeralChar_of_mem_toDigits hc

theorem Numeral.ofNat_injective {m n : Nat} (h : Numeral.ofNat m = Numeral.ofNat n) : m = n := by
  have htext : toString m = toString n := congrArg Numeral.text h
  have hdigits : Nat.toDigits 10 m = Nat.toDigits 10 n := by
    simpa only [Nat.toString_eq_repr, Nat.toList_repr] using congrArg String.toList htext
  simpa using congrArg (Nat.ofDigitChars 10 · 0) hdigits

def Numeral.ofInt (n : Int) : Numeral where
  text := toString n
  nonempty := by
    cases n with
    | ofNat n => exact (Numeral.ofNat n).nonempty
    | negSucc n =>
        show ("-" ++ (n + 1).repr).toList ≠ []
        simp
  numeric := by
    intro c hc
    cases n with
    | ofNat n => exact (Numeral.ofNat n).numeric c hc
    | negSucc n =>
        have hc : c ∈ ("-" ++ (n + 1).repr).toList := hc
        rw [String.toList_append, List.mem_append, Nat.toList_repr] at hc
        rcases hc with hc | hc
        · obtain rfl : c = '-' := by simpa using hc
          decide
        · exact isNumeralChar_of_mem_toDigits hc

theorem Numeral.ofNat_ne_negative (m n : Nat) : toString m ≠ "-" ++ n.repr := by
  intro h
  have hminus : '-' ∈ Nat.toDigits 10 m := by
    rw [← Nat.toList_repr, ← Nat.toString_eq_repr, h]
    simp
  exact absurd (Nat.isDigit_of_mem_toDigits (by decide) (by decide) hminus) (by decide)

theorem Numeral.ofInt_injective {m n : Int} (h : Numeral.ofInt m = Numeral.ofInt n) : m = n := by
  have htext : toString m = toString n := congrArg Numeral.text h
  cases m with
  | ofNat m =>
      cases n with
      | ofNat n => rw [Numeral.ofNat_injective (Numeral.ext htext)]
      | negSucc n => exact absurd htext (Numeral.ofNat_ne_negative m (n + 1))
  | negSucc m =>
      cases n with
      | ofNat n => exact absurd htext.symm (Numeral.ofNat_ne_negative n (m + 1))
      | negSucc n =>
          have hrepr : toString (m + 1) = toString (n + 1) := by
            have htext : "-" ++ (m + 1).repr = "-" ++ (n + 1).repr := htext
            simpa only [Nat.toString_eq_repr, String.append_right_inj] using htext
          have hsucc : m + 1 = n + 1 := Numeral.ofNat_injective (Numeral.ext hrepr)
          rw [Nat.succ.inj hsucc]

/-! ## Floating numbers -/

theorem Decimal.pointed_ne_nil {digits : List Char} (h : digits ≠ []) (whole : Int) :
    Decimal.pointed digits whole ≠ [] := by
  unfold Decimal.pointed
  split
  · simp
  · split
    · simp [h]
    · simp

theorem Decimal.numeric_pointed {digits : List Char}
    (h : ∀ c ∈ digits, isNumeralChar c = true) (whole : Int) :
    ∀ c ∈ Decimal.pointed digits whole, isNumeralChar c = true := by
  have zeros (count : Nat) : ∀ c ∈ List.replicate count '0', isNumeralChar c = true := by
    intro c hc
    rw [List.eq_of_mem_replicate hc]
    decide
  intro c hc
  unfold Decimal.pointed at hc
  -- the point stands before the digits, behind them or among them
  split at hc
  · simp only [List.cons_append, List.mem_cons, List.mem_append] at hc
    rcases hc with rfl | rfl | hc | hc
    · decide
    · decide
    · exact zeros _ c hc
    · exact h c hc
  · split at hc
    · rcases List.mem_append.mp hc with hc | hc
      · exact h c hc
      · exact zeros _ c hc
    · rcases List.mem_append.mp hc with hc | hc
      · exact h c (List.mem_of_mem_take hc)
      · rcases List.mem_cons.mp hc with rfl | hc
        · decide
        · exact h c (List.mem_of_mem_drop hc)

def Decimal.numeral (d : Decimal) : Numeral where
  text := d.positional
  nonempty := by
    unfold positional
    split
    · decide
    · rw [String.toList_ofList]
      exact Decimal.pointed_ne_nil Nat.toDigits_ne_nil _
  numeric := by
    unfold positional
    split
    · exact List.all_eq_true.mp (by decide)
    · rw [String.toList_ofList]
      exact Decimal.numeric_pointed (fun c => isNumeralChar_of_mem_toDigits) _

namespace Binary

variable {format : BinaryFormat}

theorem numeric_signText (x : Binary format) :
    ∀ c ∈ x.signText.toList, isNumeralChar c = true := by
  intro c hc
  unfold signText at hc
  split at hc
  · obtain rfl : c = '-' := by simpa using hc
    decide
  · simp at hc

def signed (x : Binary format) (n : Numeral) : Numeral where
  text := x.signText ++ n.text
  nonempty := by simp [n.nonempty]
  numeric := by
    intro c hc
    rw [String.toList_append, List.mem_append] at hc
    rcases hc with hc | hc
    · exact x.numeric_signText c hc
    · exact n.numeric c hc

def numeral (x : Binary format) : Numeral :=
  x.signed (x.shortest .up).numeral

theorem text_numeral {x : Binary format} (h : x.isFinite = true) :
    x.numeral.text = x.plainText := by
  have hlt : x.pattern < format.infinity := by simpa [isFinite] using h
  have hnan : x.isNaN = false := by
    simpa [isNaN] using Nat.le_of_lt hlt
  have hinf : x.isInfinite = false := by
    simpa [isInfinite] using Nat.ne_of_lt hlt
  simp [plainText, hnan, hinf, numeral, signed, Decimal.numeral]

def fixedNumeral (x : Binary format) (places : Nat) : Numeral where
  text := x.fixedText places
  nonempty := by simp [fixedText]
  numeric := by
    intro c hc
    simp only [fixedText, String.toList_append, String.toList_ofList, List.mem_append] at hc
    rcases hc with ((hc | hc) | hc) | hc | hc
    · exact x.numeric_signText c hc
    · exact (Numeral.ofNat _).numeric c hc
    · obtain rfl : c = '.' := by simpa using hc
      decide
    · rw [List.eq_of_mem_replicate hc]
      decide
    · exact isNumeralChar_of_mem_toDigits hc

end Binary

end Yql
