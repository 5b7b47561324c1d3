import Yql.Proofs.Json.Grammar

/-!
# Reading lexemes back

What the grammar allows for a blank, a string or a whole number is read as just
that, whatever stands behind it. Only a number does not say by itself where it
ends: it must not be followed by a character that could belong to it.
-/

namespace Yql.Json

open Reader

variable {rest : List Char}

/-! ## Blanks -/

theorem Blanks.skipBlanks_append {blanks : List Char} (h : Blanks blanks) (rest : List Char) :
    skipBlanks (blanks ++ rest) = skipBlanks rest :=
  List.dropWhile_append_of_pos h

theorem skipBlanks_cons {c : Char} (h : isBlank c = false) (rest : List Char) :
    skipBlanks (c :: rest) = c :: rest :=
  List.dropWhile_cons_of_neg (by simp [h])

theorem head?_skipBlanks {input : List Char} {c : Char} (h : (skipBlanks input).head? = some c) :
    isBlank c = false := by
  have hnot := List.head?_dropWhile_not isBlank input
  rw [skipBlanks] at h
  rw [h] at hnot
  simpa using hnot

theorem skipBlanks_idem (input : List Char) :
    skipBlanks (skipBlanks input) = skipBlanks input := by
  cases h : skipBlanks input with
  | nil => rfl
  | cons c rest => exact skipBlanks_cons (head?_skipBlanks (by rw [h]; rfl)) rest

/-! ## Strings -/

theorem readHex_append {count before n : Nat} {digits : List Char}
    (h : readHex count before digits = some (n, [])) (rest : List Char) :
    readHex count before (digits ++ rest) = some (n, rest) := by
  induction count generalizing before digits with
  | zero =>
      simp only [readHex, Option.some.injEq, Prod.mk.injEq] at h ⊢
      obtain ⟨rfl, rfl⟩ := h
      exact ⟨rfl, rfl⟩
  | succ count ih =>
      cases digits with
      | nil => exact nomatch h
      | cons c digits =>
          simp only [readHex, List.cons_append] at h ⊢
          cases hc : hexValue? c with
          | none =>
              rw [hc] at h
              exact nomatch h
          | some digit =>
              rw [hc] at h
              exact ih h

theorem escapeOf?_u : escapeOf? 'u' = none := by decide

theorem CharText.readChar {c : Char} {text : List Char} (h : CharText c text) (rest : List Char) :
    readChar (text ++ rest) = some (c, rest) := by
  cases h with
  | plain hquote hslash hcontrol =>
      show Json.readChar (c :: rest) = some (c, rest)
      unfold Json.readChar
      split
      · contradiction
      · simp_all
      · simp_all
      · simp_all
  | @letter _ letter h =>
      show Json.readChar ('\\' :: letter :: rest) = some (c, rest)
      unfold Json.readChar
      split
      · contradiction
      · simp_all [escapeOf?_u]
      · simp_all
      · rename_i hplain heq
        obtain ⟨rfl, rfl⟩ := List.cons.inj heq
        exact absurd rfl (hplain _ _ rfl)
  | @number digits n h hsingle =>
      show readNumbered (digits ++ rest) = _
      rw [readNumbered, readHex_append h]
      have hlow : ¬(0xDC00 ≤ n ∧ n ≤ 0xDFFF) := by omega
      have hhigh : ¬(0xD800 ≤ n ∧ n ≤ 0xDBFF) := by omega
      simp [hlow, hhigh]
  | @pair first second high low hfirst hsecond hhigh hlow =>
      show readNumbered ((first ++ '\\' :: 'u' :: second) ++ rest) = _
      have hnot : ¬(0xDC00 ≤ high ∧ high ≤ 0xDFFF) := by omega
      rw [readNumbered, List.append_assoc, readHex_append hfirst]
      simp [hnot, hhigh, readHex_append hsecond, hlow]

theorem CharText.exists_cons {c : Char} {text : List Char} (h : CharText c text) :
    ∃ first more, text = first :: more ∧ first ≠ '"' := by
  cases h with
  | plain hquote _ _ => exact ⟨c, [], rfl, hquote⟩
  | letter _ => exact ⟨_, _, rfl, by decide⟩
  | number _ _ => exact ⟨_, _, rfl, by decide⟩
  | pair _ _ _ _ => exact ⟨_, _, rfl, by decide⟩

theorem CharsText.length_le {chars text : List Char} (h : CharsText chars text) :
    chars.length ≤ text.length := by
  induction h with
  | nil => exact Nat.le_refl _
  | cons h _ ih =>
      obtain ⟨first, more, rfl, -⟩ := h.exists_cons
      simp
      omega

theorem CharsText.readChars {chars text : List Char} (h : CharsText chars text) {room : Nat}
    (hroom : chars.length ≤ room) (rest : List Char) :
    readChars room (text ++ '"' :: rest) = some (chars, rest) := by
  induction h generalizing room with
  | nil => cases room <;> rfl
  | @cons c others text more h hothers ih =>
      obtain ⟨room, rfl⟩ : ∃ smaller, room = smaller + 1 :=
        Nat.exists_eq_succ_of_ne_zero (by rintro rfl; simp at hroom)
      obtain ⟨first, tail, rfl, hfirst⟩ := h.exists_cons
      have hchar := h.readChar (more ++ '"' :: rest)
      have hchars := ih (Nat.le_of_succ_le_succ hroom)
      simp only [List.cons_append, List.append_assoc] at hchar ⊢
      unfold Json.readChars
      split
      · simp_all
      · simp_all
      · simp_all

theorem CharsText.readString {string : String} {text : List Char}
    (h : CharsText string.toList text) {room : Nat} (hroom : text.length ≤ room)
    (rest : List Char) : readString room (text ++ '"' :: rest) = some (string, rest) := by
  rw [Json.readString, h.readChars (Nat.le_trans h.length_le hroom)]
  simp

/-! ## Whole numbers -/

/-- Nothing at the front of the text belongs to a number. -/
def Ends (rest : List Char) : Prop :=
  ∀ c ∈ rest.head?, c.isDigit = false ∧ c ≠ '.' ∧ c ≠ 'e' ∧ c ≠ 'E'

theorem Ends.digit (h : Ends rest) : ∀ c ∈ rest.head?, c.isDigit = false :=
  fun c hc => (h c hc).1

theorem ends_cons {c : Char} (h : c.isDigit = false ∧ c ≠ '.' ∧ c ≠ 'e' ∧ c ≠ 'E')
    (rest : List Char) : Ends (c :: rest) := by
  simpa [Ends] using h

theorem readDigits_append {digits : List Char} (hne : digits ≠ [])
    (hdigits : ∀ c ∈ digits, c.isDigit = true) (hrest : ∀ c ∈ rest.head?, c.isDigit = false) :
    readDigits (digits ++ rest) = some (digits, rest) := by
  have hstops : rest.takeWhile Char.isDigit = [] ∧ rest.dropWhile Char.isDigit = rest := by
    cases rest with
    | nil => exact ⟨rfl, rfl⟩
    | cons c rest => simp [hrest c rfl]
  rw [readDigits, readSome, List.takeWhile_append_of_pos hdigits,
    List.dropWhile_append_of_pos hdigits, hstops.1, hstops.2, List.append_nil]
  simp [hne]

theorem readFraction_of_ends (h : Ends rest) : readFraction rest = some (none, rest) := by
  unfold readFraction
  split
  · exact absurd rfl (h '.' rfl).2.1
  · rfl

theorem readExponent_of_ends (h : Ends rest) : readExponent rest = some (none, rest) := by
  cases rest with
  | nil => rfl
  | cons c rest =>
      obtain ⟨-, -, hsmall, hbig⟩ := h c rfl
      simp [readExponent, hsmall, hbig]

theorem toList_toString_ofNat (n : Nat) :
    (toString (Int.ofNat n)).toList = Nat.toDigits 10 n :=
  Nat.toList_repr

theorem toList_toString_negSucc (n : Nat) :
    (toString (Int.negSucc n)).toList = '-' :: Nat.toDigits 10 (n + 1) := by
  show ("-" ++ (n + 1).repr).toList = _
  simp

theorem head?_toDigits_ne {n : Nat} (h : 0 < n) : (Nat.toDigits 10 n).head? ≠ some '0' := by
  induction n using Nat.strongRecOn with
  | ind n ih =>
      by_cases hlt : n < 10
      · have hdigit : ∀ d < 10, 0 < d → [d.digitChar].head? ≠ some '0' := by decide
        rw [Nat.toDigits_of_lt_base hlt]
        exact hdigit n hlt h
      · have hdiv := ih (n / 10) (by omega) (by omega)
        obtain ⟨c, rest, hdigits⟩ := List.exists_cons_of_ne_nil
          (Nat.toDigits_ne_nil (b := 10) (n := n / 10))
        rw [Nat.toDigits_of_base_le (by decide) (by omega), hdigits]
        rw [hdigits] at hdiv
        exact hdiv

theorem length_toDigits_of_head? {n : Nat} (h : (Nat.toDigits 10 n).head? = some '0') :
    (Nat.toDigits 10 n).length = 1 := by
  rcases Nat.eq_zero_or_pos n with rfl | hpos
  · rfl
  · exact absurd h (head?_toDigits_ne hpos)

theorem toDigits_append_ne {n : Nat} {c : Char} (h : c.isDigit = false) (tail : List Char) :
    Nat.toDigits 10 n ++ rest ≠ c :: tail := by
  intro heq
  obtain ⟨d, more, hdigits⟩ := List.exists_cons_of_ne_nil (Nat.toDigits_ne_nil (b := 10) (n := n))
  have hd : d.isDigit = true :=
    Nat.isDigit_of_mem_toDigits (by decide) (by decide) (hdigits ▸ List.mem_cons_self)
  rw [hdigits] at heq
  rw [(List.cons.inj heq).1, h] at hd
  exact Bool.noConfusion hd

theorem readNumberText_toDigits (n : Nat) (hrest : Ends rest) :
    readNumberText (Nat.toDigits 10 n ++ rest)
        = some (⟨false, Nat.toDigits 10 n, none, none⟩, rest)
      ∧ readNumberText ('-' :: (Nat.toDigits 10 n ++ rest))
        = some (⟨true, Nat.toDigits 10 n, none, none⟩, rest) := by
  have hread : readDigits (Nat.toDigits 10 n ++ rest) = some (Nat.toDigits 10 n, rest) :=
    readDigits_append Nat.toDigits_ne_nil
      (fun c => Nat.isDigit_of_mem_toDigits (by decide) (by decide)) hrest.digit
  have hzero : ¬((Nat.toDigits 10 n).head? = some '0' ∧ (Nat.toDigits 10 n).length ≠ 1) := by
    rintro ⟨hhead, hlength⟩
    exact hlength (length_toDigits_of_head? hhead)
  have hminus : ∀ tail, Nat.toDigits 10 n ++ rest ≠ '-' :: tail :=
    toDigits_append_ne (by decide)
  constructor
  · simp [readNumberText, hread, hzero, readFraction_of_ends hrest, readExponent_of_ends hrest]
  · simp [readNumberText, hread, hzero, readFraction_of_ends hrest, readExponent_of_ends hrest]

theorem absorb_eq {digits : List Char} {n : Nat}
    (h : Nat.ofDigitChars 10 digits n < UInt64.size) :
    absorb n digits = (Nat.ofDigitChars 10 digits n, []) := by
  induction digits generalizing n with
  | nil => rfl
  | cons c digits ih =>
      rw [Nat.ofDigitChars_cons] at h ⊢
      -- more digits make the number no smaller
      have hnext : 10 * n + (c.toNat - '0'.toNat) < UInt64.size := by
        rw [Nat.ofDigitChars_eq_ofDigitChars_zero] at h
        have hpow : 0 < 10 ^ digits.length := Nat.pow_pos (by decide)
        have hle := Nat.le_mul_of_pos_left (10 * n + (c.toNat - '0'.toNat)) hpow
        omega
      simp only [absorb, hnext, if_true]
      exact ih h

theorem absorb_toDigits {n : Nat} (h : n < UInt64.size) :
    absorb 0 (Nat.toDigits 10 n) = (n, []) := by
  have hvalue : Nat.ofDigitChars 10 (Nat.toDigits 10 n) 0 = n := by simp
  rw [absorb_eq (by rwa [hvalue]), hvalue]

theorem readNumber_whole {n : Int} (h : IsWord n) (hrest : Ends rest) :
    readNumber ((toString n).toList ++ rest) = some (.whole n, rest) := by
  obtain ⟨hlow, hhigh⟩ := h
  cases n with
  | ofNat n =>
      have hn : n < UInt64.size := by
        simp only [Int.ofNat_eq_natCast] at hhigh
        simp [UInt64.size]
        omega
      rw [toList_toString_ofNat, readNumber, (readNumberText_toDigits n hrest).1]
      simp [NumberText.value?, absorb_toDigits hn]
  | negSucc m =>
      have hm : m + 1 < UInt64.size := by
        simp only [Int.negSucc_eq] at hlow
        simp [UInt64.size]
        omega
      have hword : ¬(Nat.pow 2 63 < m + 1) := by
        simp only [Int.negSucc_eq] at hlow
        simp
        omega
      rw [toList_toString_negSucc, readNumber, List.cons_append,
        (readNumberText_toDigits (m + 1) hrest).2]
      simp [NumberText.value?, absorb_toDigits hm, hword, Int.negSucc_eq]

end Yql.Json
