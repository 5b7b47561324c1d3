import Yql.Proofs.Json.Reading

/-!
# Skipping values

The grammar of JSON texts with nothing said about what they stand for. It has
numbers of any size and precision, escapes by number that make up no character,
members of the same name, and brackets of any depth. Whatever has this form is
skipped to its end (`Form.skips`); every text of a value has it
(`ValueText.form`).
-/

namespace Yql.Json

open Reader

variable {rest : List Char}

/-! ## The form of strings -/

inductive CharForm : List Char → Prop
  | plain {c : Char} (hquote : c ≠ '"') (hslash : c ≠ '\\') (hcontrol : 0x20 ≤ c.toNat) :
      CharForm [c]
  | letter {c letter : Char} (h : escapeOf? letter = some c) : CharForm ['\\', letter]
  | number {digits : List Char} {n : Nat} (h : readHex 4 0 digits = some (n, [])) :
      CharForm ('\\' :: 'u' :: digits)

inductive CharsForm : List Char → Prop
  | nil : CharsForm []
  | cons {text rest : List Char} (h : CharForm text) (hothers : CharsForm rest) :
      CharsForm (text ++ rest)

theorem CharForm.skipChar {text : List Char} (h : CharForm text) (rest : List Char) :
    skipChar (text ++ rest) = some ((), rest) := by
  cases h with
  | @plain c hquote hslash hcontrol =>
      show Json.skipChar (c :: rest) = some ((), rest)
      unfold Json.skipChar
      split
      · contradiction
      · simp_all
      · simp_all
      · simp_all
  | @letter _ letter h =>
      show Json.skipChar ('\\' :: letter :: rest) = some ((), rest)
      unfold Json.skipChar
      split
      · contradiction
      · simp_all [escapeOf?_u]
      · simp_all
      · rename_i hplain heq
        obtain ⟨rfl, rfl⟩ := List.cons.inj heq
        exact absurd rfl (hplain _ _ rfl)
  | @number digits n h =>
      show (readHex 4 0 (digits ++ rest)).map _ = some ((), rest)
      rw [readHex_append h]
      rfl

theorem CharForm.exists_cons {text : List Char} (h : CharForm text) :
    ∃ first more, text = first :: more ∧ first ≠ '"' := by
  cases h with
  | plain hquote _ _ => exact ⟨_, [], rfl, hquote⟩
  | letter _ => exact ⟨_, _, rfl, by decide⟩
  | number _ => exact ⟨_, _, rfl, by decide⟩

theorem CharsForm.skipString {text : List Char} (h : CharsForm text) {room : Nat}
    (hroom : text.length ≤ room) (rest : List Char) :
    skipString room (text ++ '"' :: rest) = some ((), rest) := by
  induction h generalizing room with
  | nil => cases room <;> rfl
  | @cons text more h _ ih =>
      obtain ⟨first, tail, rfl, hfirst⟩ := h.exists_cons
      simp only [List.cons_append, List.length_cons, List.length_append] at hroom
      obtain ⟨room, rfl⟩ : ∃ smaller, room = smaller + 1 :=
        Nat.exists_eq_succ_of_ne_zero (by omega)
      have hchar := h.skipChar (more ++ '"' :: rest)
      have hchars := ih (show more.length ≤ room by omega)
      simp only [List.cons_append, List.append_assoc] at hchar ⊢
      unfold Json.skipString
      split
      · simp_all
      · simp_all
      · simp_all

/-! ## The form of numbers -/

def Digits (text : List Char) : Prop :=
  text ≠ [] ∧ ∀ c ∈ text, c.isDigit = true

inductive FractionForm : List Char → Prop
  | absent : FractionForm []
  | present {digits : List Char} (h : Digits digits) : FractionForm ('.' :: digits)

inductive ExponentForm : List Char → Prop
  | absent : ExponentForm []
  | present {mark : Char} {sign digits : List Char} (hmark : mark = 'e' ∨ mark = 'E')
      (hsign : sign ∈ [[], ['+'], ['-']]) (h : Digits digits) :
      ExponentForm (mark :: (sign ++ digits))

/-- The form of a number: a sign or none, digits of which only a single one may
begin with zero, and possibly a fraction and an exponent. -/
inductive NumberForm : List Char → Prop
  | intro {sign whole fraction exponent : List Char} (hsign : sign ∈ [[], ['-']])
      (hwhole : Digits whole) (hzero : whole.head? = some '0' → whole.length = 1)
      (hfraction : FractionForm fraction) (hexponent : ExponentForm exponent) :
      NumberForm (sign ++ (whole ++ (fraction ++ exponent)))

theorem Digits.exists_cons {digits : List Char} (h : Digits digits) :
    ∃ c more, digits = c :: more ∧ c.isDigit = true := by
  obtain ⟨c, more, rfl⟩ := List.exists_cons_of_ne_nil h.1
  exact ⟨c, more, rfl, h.2 c List.mem_cons_self⟩

theorem afterSign_digits {digits : List Char} (h : Digits digits) (rest : List Char) :
    afterSign (digits ++ rest) = (false, digits ++ rest) := by
  obtain ⟨c, more, rfl, hc⟩ := h.exists_cons
  rw [List.cons_append]
  unfold afterSign
  split
  · rename_i heq
    rw [(List.cons.inj heq).1] at hc
    exact absurd hc (by decide)
  · rename_i heq
    rw [(List.cons.inj heq).1] at hc
    exact absurd hc (by decide)
  · rfl

theorem ExponentForm.readExponent {text : List Char} (h : ExponentForm text) (hrest : Ends rest) :
    ∃ exponent, readExponent (text ++ rest) = some (exponent, rest) := by
  cases h with
  | absent => exact ⟨none, readExponent_of_ends hrest⟩
  | @present mark sign digits hmark hsign h =>
      have hdigits := readDigits_append h.1 h.2 hrest.digit
      have hafter : ∃ negative,
          afterSign (sign ++ (digits ++ rest)) = (negative, digits ++ rest) := by
        simp only [List.mem_cons, List.not_mem_nil, or_false] at hsign
        rcases hsign with rfl | rfl | rfl
        · exact ⟨false, afterSign_digits h rest⟩
        · exact ⟨false, rfl⟩
        · exact ⟨true, rfl⟩
      obtain ⟨negative, hafter⟩ := hafter
      rw [List.cons_append, List.append_assoc]
      simp [Json.readExponent, hmark, hafter, hdigits]

theorem ExponentForm.head? {text : List Char} (h : ExponentForm text) (hrest : Ends rest) :
    ∀ c ∈ (text ++ rest).head?, c.isDigit = false ∧ c ≠ '.' := by
  cases h with
  | absent => exact fun c hc => ⟨(hrest c hc).1, (hrest c hc).2.1⟩
  | present hmark _ _ =>
      intro c hc
      obtain rfl := Option.some.inj hc
      rcases hmark with rfl | rfl <;> decide

theorem FractionForm.readFraction {text : List Char} (h : FractionForm text)
    (hrest : ∀ c ∈ rest.head?, c.isDigit = false ∧ c ≠ '.') :
    ∃ fraction, readFraction (text ++ rest) = some (fraction, rest) := by
  cases h with
  | absent =>
      refine ⟨none, ?_⟩
      show Json.readFraction rest = _
      unfold Json.readFraction
      split
      · exact absurd rfl (hrest '.' rfl).2
      · rfl
  | @present digits h =>
      refine ⟨some digits, ?_⟩
      show (readDigits (digits ++ rest)).map _ = _
      rw [readDigits_append h.1 h.2 fun c hc => (hrest c hc).1]
      rfl

theorem FractionForm.head? {text : List Char} (h : FractionForm text)
    (hrest : ∀ c ∈ rest.head?, c.isDigit = false ∧ c ≠ '.') :
    ∀ c ∈ (text ++ rest).head?, c.isDigit = false := by
  cases h with
  | absent => exact fun c hc => (hrest c hc).1
  | present _ =>
      intro c hc
      obtain rfl := Option.some.inj hc
      decide

theorem NumberForm.readNumberText {text : List Char} (h : NumberForm text) (hrest : Ends rest) :
    ∃ number, readNumberText (text ++ rest) = some (number, rest) := by
  obtain ⟨hsign, hwhole, hzero, hfraction, hexponent⟩ := h
  rename_i sign whole fraction exponent
  -- from the back, for each part ends where the next one begins
  obtain ⟨power, hpower⟩ := hexponent.readExponent hrest
  have hbehind := hexponent.head? hrest
  obtain ⟨places, hplaces⟩ := hfraction.readFraction hbehind
  have hdigits := readDigits_append hwhole.1 hwhole.2 (hfraction.head? hbehind)
  have hnozero : ¬(whole.head? = some '0' ∧ whole.length ≠ 1) := fun ⟨hhead, hlength⟩ =>
    hlength (hzero hhead)
  have hminus : ∀ tail, whole ++ (fraction ++ (exponent ++ rest)) ≠ '-' :: tail := by
    obtain ⟨c, more, rfl, hc⟩ := hwhole.exists_cons
    intro tail heq
    rw [(List.cons.inj heq).1] at hc
    exact absurd hc (by decide)
  simp only [List.mem_cons, List.not_mem_nil, or_false] at hsign
  simp only [List.append_assoc]
  rcases hsign with rfl | rfl
  · simp [Json.readNumberText, hdigits, hnozero, hplaces, hpower]
  · simp [Json.readNumberText, hdigits, hnozero, hplaces, hpower]

/-! ## The form of values -/

/-- The form of a value: what it looks like, whatever its numbers and strings
may stand for. -/
inductive Form : List Char → Prop
  | null : Form ['n', 'u', 'l', 'l']
  | bool (b : Bool) : Form (if b then ['t', 'r', 'u', 'e'] else ['f', 'a', 'l', 's', 'e'])
  | number {text : List Char} (h : NumberForm text) : Form text
  | string {text : List Char} (h : CharsForm text) : Form ('"' :: (text ++ ['"']))
  | array {cells : List (List Char)} {gap : List Char} (hcells : ∀ cell ∈ cells, Form cell)
      (hgap : Blanks gap) : Form (inBrackets '[' cells gap ']')
  | object {cells : List MemberForm} {gap : List Char} (hspaced : ∀ cell ∈ cells, cell.Spaced)
      (hlabels : ∀ cell ∈ cells, CharsForm cell.label) (hcells : ∀ cell ∈ cells, Form cell.text)
      (hgap : Blanks gap) : Form (inBrackets '\x7b' (cells.map (·.chars)) gap '\x7d')
  | spaced {before text after : List Char} (hbefore : Blanks before) (h : Form text)
      (hafter : Blanks after) : Form (before ++ (text ++ after))

theorem skipValue_skipBlanks (room levels : Nat) (input : List Char) :
    skipValue room levels (skipBlanks input) = skipValue room levels input := by
  cases levels with
  | zero => simp only [skipValue, skipBlanks_idem]
  | succ levels => simp only [skipValue, skipBlanks_idem]

theorem skipValue_eq_skipScalar {c : Char} (hblank : isBlank c = false) (hsquare : c ≠ '[')
    (hcurly : c ≠ '\x7b') (room levels : Nat) (rest : List Char) :
    skipValue room levels (c :: rest) = skipScalar room (c :: rest) := by
  cases levels with
  | zero => simp only [skipValue, skipBlanks_cons hblank]
  | succ levels =>
      simp only [skipValue, skipBlanks_cons hblank]
      split
      · rename_i heq
        exact absurd (List.cons.inj heq).1 hsquare
      · rename_i heq
        exact absurd (List.cons.inj heq).1 hcurly
      · rfl

theorem readsItems_skipValue (room levels : Nat) : ReadsItems (skipValue room levels) ']' where
  skips := skipValue_skipBlanks room levels
  empty := by cases levels <;> rfl
  closes := by
    intro rest
    rw [skipValue_eq_skipScalar (by decide) (by decide) (by decide)]
    rfl

theorem NumberForm.leads {text : List Char} (h : NumberForm text) :
    ∃ c more, text = c :: more ∧ Leads c := by
  obtain ⟨hsign, hwhole, -, -, -⟩ := h
  simp only [List.mem_cons, List.not_mem_nil, or_false] at hsign
  rcases hsign with rfl | rfl
  · obtain ⟨c, more, rfl, hc⟩ := hwhole.exists_cons
    exact ⟨c, _, rfl, .inl hc⟩
  · exact ⟨'-', _, rfl, .inr rfl⟩

theorem NumberForm.skips {text : List Char} (h : NumberForm text) (room levels : Nat) :
    Reads (skipValue room levels) () text := by
  intro rest hrest
  obtain ⟨number, hread⟩ := h.readNumberText hrest
  obtain ⟨c, more, rfl, hc⟩ := h.leads
  refine ⟨rest, ?_, rfl⟩
  rw [List.cons_append] at hread ⊢
  rw [skipValue_eq_skipScalar hc.isBlank (hc.ne (by decide)) (hc.ne (by decide))]
  unfold skipScalar
  split
  · rename_i heq
    exact absurd (List.cons.inj heq).1 (hc.ne (by decide))
  · rename_i heq
    exact absurd (List.cons.inj heq).1 (hc.ne (by decide))
  · rename_i heq
    exact absurd (List.cons.inj heq).1 (hc.ne (by decide))
  · rename_i heq
    exact absurd (List.cons.inj heq).1 (hc.ne (by decide))
  · rw [hread]
    rfl

/-- **What has the form of a value is skipped**, with as many levels as there are
characters. -/
theorem Form.skips {text : List Char} (h : Form text) {room levels : Nat}
    (hroom : text.length ≤ room) (hlevels : text.length ≤ levels) :
    Reads (skipValue room levels) () text := by
  induction h generalizing levels with
  | null =>
      intro rest _
      refine ⟨rest, ?_, rfl⟩
      exact skipValue_eq_skipScalar (by decide) (by decide) (by decide) _ _ _
  | bool b =>
      intro rest _
      refine ⟨rest, ?_, rfl⟩
      cases b
      · exact skipValue_eq_skipScalar (by decide) (by decide) (by decide) _ _ _
      · exact skipValue_eq_skipScalar (by decide) (by decide) (by decide) _ _ _
  | number h => exact h.skips room levels
  | @string text h =>
      intro rest _
      refine ⟨rest, ?_, rfl⟩
      simp only [List.length_cons, List.length_append, List.length_nil] at hroom
      rw [List.cons_append, skipValue_eq_skipScalar (by decide) (by decide) (by decide),
        List.append_assoc]
      exact h.skipString (by omega) rest
  | @array cells gap _ hgap ih =>
      intro rest _
      refine ⟨rest, ?_, rfl⟩
      have hcount := count_lt_inBrackets '[' cells gap ']'
      obtain ⟨levels, rfl⟩ : ∃ inner, levels = inner + 1 :=
        Nat.exists_eq_succ_of_ne_zero (by omega)
      have hcells : ∀ cell ∈ cells, Reads (skipValue room levels) () cell := by
        intro cell hcell
        have hlt := length_lt_inBrackets hcell '[' gap ']'
        exact ih cell hcell (by omega) (by omega)
      have hread := readBracket_row hcells hgap (readsItems_skipValue room levels) closes_square
        (show cells.length ≤ room by omega) rest
      rw [List.map_id'] at hread
      simp only [inBrackets, List.cons_append, List.append_assoc, List.nil_append, skipValue,
        skipBlanks_cons (c := '[') (by decide), hread]
      rfl
  | @object cells gap hspaced hlabels _ hgap ih =>
      intro rest _
      refine ⟨rest, ?_, rfl⟩
      have hcount := count_lt_inBrackets '\x7b' (cells.map (·.chars)) gap '\x7d'
      rw [List.length_map] at hcount
      obtain ⟨levels, rfl⟩ : ∃ inner, levels = inner + 1 :=
        Nat.exists_eq_succ_of_ne_zero (by omega)
      have hcells : ∀ cell ∈ cells,
          Reads (readMember (skipString room) (skipValue room levels)) ((), ()) cell.chars := by
        intro cell hcell
        have hmem := List.mem_map_of_mem (f := (·.chars)) hcell
        have hlt := length_lt_inBrackets hmem '\x7b' gap '\x7d'
        have hchars := cell.length_le_chars
        apply reads_readMember (hspaced cell hcell)
        · exact fun rest => (hlabels cell hcell).skipString (by omega) rest
        · exact ih cell hcell (by omega) (by omega)
      have hread := readBracket_row hcells hgap (readsItems_readMember _ _) closes_curly
        (show cells.length ≤ room by omega) rest
      simp only [inBrackets, List.cons_append, List.append_assoc, List.nil_append, skipValue,
        skipBlanks_cons (c := '\x7b') (by decide), hread]
      rfl
  | @spaced before text after hbefore _ hafter ih =>
      intro rest hrest
      simp only [List.length_append] at hroom hlevels
      have hskips : Reads (skipValue room levels) () text := ih (by omega) (by omega)
      obtain ⟨left, hread, hleft⟩ := hskips _ (hafter.ends_append hrest)
      rw [hafter.skipBlanks_append] at hleft
      refine ⟨left, ?_, hleft⟩
      rw [List.append_assoc, List.append_assoc, ← skipValue_skipBlanks,
        hbefore.skipBlanks_append, skipValue_skipBlanks]
      exact hread

/-! ## Texts of values -/

theorem CharsText.form {chars text : List Char} (h : CharsText chars text) : CharsForm text := by
  induction h with
  | nil => exact .nil
  | cons h _ ih =>
      cases h with
      | plain hquote hslash hcontrol => exact .cons (.plain hquote hslash hcontrol) ih
      | letter h => exact .cons (.letter h) ih
      | number h _ => exact .cons (.number h) ih
      | pair hfirst hsecond _ _ =>
          -- in form the two numbers are two characters
          have hpair := CharsForm.cons (.number hfirst) (.cons (.number hsecond) ih)
          simpa using hpair

theorem digits_toDigits (n : Nat) : Digits (Nat.toDigits 10 n) :=
  ⟨Nat.toDigits_ne_nil, fun _ => Nat.isDigit_of_mem_toDigits (by decide) (by decide)⟩

theorem numberForm_toDigits {sign : List Char} (hsign : sign ∈ [[], ['-']]) (n : Nat) :
    NumberForm (sign ++ Nat.toDigits 10 n) := by
  have hnumber :=
    NumberForm.intro hsign (digits_toDigits n) length_toDigits_of_head? .absent .absent
  rwa [List.append_nil, List.append_nil] at hnumber

theorem numberForm_toString (n : Int) : NumberForm (toString n).toList := by
  cases n with
  | ofNat n =>
      rw [toList_toString_ofNat]
      exact numberForm_toDigits List.mem_cons_self n
  | negSucc n =>
      have hnumber : NumberForm (['-'] ++ Nat.toDigits 10 (n + 1)) :=
        numberForm_toDigits (by simp) (n + 1)
      rw [toList_toString_negSucc]
      exact hnumber

/-- Every text of a value has the form of one. -/
theorem ValueText.form {levels : Nat} {value : Json} {text : List Char}
    (h : ValueText levels value text) : Form text := by
  induction h with
  | null => exact .null
  | bool b => exact .bool b
  | whole _ => exact .number (numberForm_toString _)
  | string h => exact .string h.form
  | array _ hgap ih =>
      refine .array ?_ hgap
      intro text htext
      obtain ⟨cell, hcell, rfl⟩ := List.mem_map.mp htext
      exact ih cell hcell
  | @object levels cells gap hnames _ hgap ih =>
      have hobject : Form (inBrackets '\x7b' ((cells.map (·.toMemberForm)).map (·.chars)) gap
          '\x7d') := by
        refine .object ?_ ?_ ?_ hgap
        · exact List.forall_mem_map.mpr fun cell hcell => (hnames cell hcell).spaced
        · exact List.forall_mem_map.mpr fun cell hcell => (hnames cell hcell).label.form
        · exact List.forall_mem_map.mpr ih
      rwa [List.map_map] at hobject
  | spaced hbefore _ hafter ih => exact .spaced hbefore ih hafter

end Yql.Json
