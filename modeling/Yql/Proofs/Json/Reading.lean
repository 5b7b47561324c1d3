import Yql.Json.Reading
import Yql.Proofs.Json.Lexeme

/-!
# Reading values back

The reader takes from a text the value that the text was written for
(`ValueText.reads`), as long as the text is no deeper than the reader may go and
what stands behind cannot belong to a number at its end. Blanks at the end of
the text may be left over; every reader passes over them before it goes on.

Rows in brackets are read the same way whatever their items are, values or
members, and so are stated for any reader of items. In the other direction, a
value that was read tells what the text begins with (`front_of_readValue`).
-/

namespace Yql.Json

open Reader

variable {α ι : Type}

/-- The reader takes the value from the text, whatever ends the text, and
leaves nothing of it but blanks. -/
def Reads (reader : Reader α) (value : α) (text : List Char) : Prop :=
  ∀ rest, Ends rest →
    ∃ left, reader (text ++ rest) = some (value, left) ∧ skipBlanks left = skipBlanks rest

theorem Blanks.ends_append {gap rest : List Char} (h : Blanks gap) (hrest : Ends rest) :
    Ends (gap ++ rest) := by
  cases gap with
  | nil => exact hrest
  | cons c gap =>
      have hc : isBlank c = true := h c (by simp)
      simp only [isBlank, Bool.or_eq_true, decide_eq_true_eq] at hc
      apply ends_cons
      rcases hc with ((rfl | rfl) | rfl) | rfl <;> decide

/-! ## Rows in brackets -/

/-- Readers of what stands in brackets pass over blanks, and take nothing from
an empty text or from the closing bracket. -/
structure ReadsItems (item : Reader α) (closing : Char) : Prop where
  skips : ∀ input, item (skipBlanks input) = item input
  empty : item [] = none
  closes : ∀ rest, item (closing :: rest) = none

namespace ReadsItems

variable {item : Reader α} {closing : Char} (h : ReadsItems item closing)
include h

theorem readItems_skipBlanks (room : Nat) (input : List Char) :
    readItems item closing room (skipBlanks input) = readItems item closing room input := by
  cases room with
  | zero => rfl
  | succ room => simp only [readItems, h.skips]

theorem readItems_nil (room : Nat) : readItems item closing room [] = none := by
  cases room with
  | zero => rfl
  | succ room => simp [readItems, h.empty]

theorem readItems_closing (room : Nat) (rest : List Char) :
    readItems item closing room (closing :: rest) = none := by
  cases room with
  | zero => rfl
  | succ room => simp [readItems, h.closes]

end ReadsItems

/-- A closing bracket is no blank and no comma, and belongs to no number. -/
structure Closes (closing : Char) : Prop where
  blank : isBlank closing = false
  comma : closing ≠ ','
  ends : ∀ rest, Ends (closing :: rest)

theorem closes_square : Closes ']' :=
  ⟨by decide, by decide, ends_cons (by decide)⟩

theorem closes_curly : Closes '\x7d' :=
  ⟨by decide, by decide, ends_cons (by decide)⟩

theorem row_cons_cons (first second : List Char) (rest : List (List Char)) :
    row (first :: second :: rest) = first ++ ',' :: row (second :: rest) := by
  simp [row]

theorem row_append_cons (texts : List (List Char)) (text : List Char) (rest : List (List Char)) :
    row (texts ++ text :: rest) = texts.flatMap (· ++ [',']) ++ row (text :: rest) := by
  induction texts with
  | nil => rfl
  | cons first texts ih =>
      cases texts with
      | nil => simp [row]
      | cons second texts =>
          rw [List.cons_append, List.cons_append, row_cons_cons, ← List.cons_append, ih]
          simp

theorem readItems_row {item : Reader α} {value : ι → α} {text : ι → List Char} {cells : List ι}
    (h : ∀ cell ∈ cells, Reads item (value cell) (text cell)) {gap : List Char}
    (hgap : Blanks gap) {closing : Char} (hclosing : Closes closing) {room : Nat}
    (hroom : cells.length ≤ room) (hne : cells ≠ []) (rest : List Char) :
    readItems item closing room (row (cells.map text) ++ (gap ++ closing :: rest))
      = some (cells.map value, rest) := by
  induction cells generalizing room with
  | nil => exact absurd rfl hne
  | cons cell others ih =>
      obtain ⟨room, rfl⟩ : ∃ smaller, room = smaller + 1 :=
        Nat.exists_eq_succ_of_ne_zero (by rintro rfl; simp at hroom)
      have hcell := h cell List.mem_cons_self
      cases others with
      | nil =>
          obtain ⟨left, hitem, hleft⟩ := hcell _ (hgap.ends_append (hclosing.ends rest))
          rw [hgap.skipBlanks_append, skipBlanks_cons hclosing.blank] at hleft
          have hrow : row ([cell].map text) = text cell := by simp [row]
          rw [hrow, readItems, hitem]
          simp [hleft, hclosing.comma]
      | cons next others =>
          have hrest := ih (fun c hc => h c (List.mem_cons_of_mem _ hc))
            (Nat.le_of_succ_le_succ hroom) (by simp)
          have hcomma : ∀ tail, Ends (',' :: tail) := ends_cons (by decide)
          obtain ⟨left, hitem, hleft⟩ := hcell _ (hcomma _)
          rw [skipBlanks_cons (by decide)] at hleft
          rw [List.map_cons, List.map_cons, row_cons_cons, List.append_assoc, List.cons_append,
            readItems, hitem]
          simp only [Option.bind_eq_bind, Option.bind_some, hleft, if_true]
          rw [← List.map_cons, hrest]
          rfl

theorem readBracket_row {item : Reader α} {value : ι → α} {text : ι → List Char} {cells : List ι}
    (h : ∀ cell ∈ cells, Reads item (value cell) (text cell)) {gap : List Char}
    (hgap : Blanks gap) {closing : Char} (hitems : ReadsItems item closing)
    (hclosing : Closes closing) {room : Nat} (hroom : cells.length ≤ room) (rest : List Char) :
    readBracket item closing room (row (cells.map text) ++ (gap ++ closing :: rest))
      = some (cells.map value, rest) := by
  cases cells with
  | nil =>
      show readBracket item closing room (gap ++ closing :: rest) = some ([], rest)
      rw [readBracket, hgap.skipBlanks_append, skipBlanks_cons hclosing.blank]
      simp
  | cons cell others =>
      have hread := readItems_row h hgap hclosing hroom (by simp) rest
      rw [← hitems.readItems_skipBlanks] at hread
      rw [readBracket]
      -- an item is read, so neither the end nor the closing bracket comes first
      cases hinput : skipBlanks (row ((cell :: others).map text) ++ (gap ++ closing :: rest)) with
      | nil =>
          rw [hinput, hitems.readItems_nil] at hread
          exact nomatch hread
      | cons c tail =>
          rw [hinput] at hread
          by_cases hc : c = closing
          · rw [hc, hitems.readItems_closing] at hread
            exact nomatch hread
          · simpa [hc] using hread

/-! ## Members -/

theorem readsItems_readMember {ν : Type} (name : Reader ν) (value : Reader α) :
    ReadsItems (readMember name value) '\x7d' where
  skips := by
    intro input
    rw [readMember, readMember, skipBlanks_idem]
  empty := rfl
  closes := fun _ => rfl

/-- A member begins with its name, and behind that stand its colon and its
value. -/
theorem MemberForm.Spaced.skipBlanks_chars {form : MemberForm} (h : form.Spaced)
    (rest : List Char) :
    skipBlanks (form.chars ++ rest)
      = '"' :: (form.label ++ '"' :: (form.between ++ ':' :: (form.text ++ rest))) := by
  rw [MemberForm.chars, List.append_assoc, h.before.skipBlanks_append]
  simp [skipBlanks_cons (c := '"') (by decide)]

theorem reads_readMember {ν : Type} {name : Reader ν} {value : Reader α} {form : MemberForm}
    (hspaced : form.Spaced) {called : ν}
    (hname : ∀ rest, name (form.label ++ '"' :: rest) = some (called, rest)) {a : α}
    (hvalue : Reads value a form.text) :
    Reads (readMember name value) (called, a) form.chars := by
  intro rest hrest
  obtain ⟨left, hread, hleft⟩ := hvalue rest hrest
  refine ⟨left, ?_, hleft⟩
  rw [readMember, hspaced.skipBlanks_chars]
  simp [hname, hspaced.between.skipBlanks_append, skipBlanks_cons (c := ':') (by decide), hread]

/-! ## Values -/

theorem readValue_skipBlanks (room levels : Nat) (input : List Char) :
    readValue room levels (skipBlanks input) = readValue room levels input := by
  cases levels with
  | zero => simp only [readValue, skipBlanks_idem]
  | succ levels => simp only [readValue, skipBlanks_idem]

theorem readValue_eq_readScalar {c : Char} (hblank : isBlank c = false) (hsquare : c ≠ '[')
    (hcurly : c ≠ '\x7b') (room levels : Nat) (rest : List Char) :
    readValue room levels (c :: rest) = readScalar room (c :: rest) := by
  cases levels with
  | zero => simp only [readValue, skipBlanks_cons hblank]
  | succ levels =>
      simp only [readValue, skipBlanks_cons hblank]
      split
      · rename_i heq
        exact absurd (List.cons.inj heq).1 hsquare
      · rename_i heq
        exact absurd (List.cons.inj heq).1 hcurly
      · rfl

theorem readsItems_readValue (room levels : Nat) : ReadsItems (readValue room levels) ']' where
  skips := readValue_skipBlanks room levels
  empty := by cases levels <;> rfl
  closes := by
    intro rest
    rw [readValue_eq_readScalar (by decide) (by decide) (by decide)]
    rfl

def Leads (c : Char) : Prop :=
  c.isDigit = true ∨ c = '-'

theorem Leads.ne {c d : Char} (h : Leads c) (hd : d.isDigit = false ∧ d ≠ '-') : c ≠ d := by
  rintro rfl
  rcases h with h | h
  · rw [h] at hd
    exact Bool.noConfusion hd.1
  · exact hd.2 h

theorem Leads.isBlank {c : Char} (h : Leads c) : isBlank c = false := by
  simp only [Json.isBlank, Bool.or_eq_false_iff, decide_eq_false_iff_not]
  exact ⟨⟨⟨h.ne (by decide), h.ne (by decide)⟩, h.ne (by decide)⟩, h.ne (by decide)⟩

theorem exists_cons_toString (n : Int) :
    ∃ c rest, (toString n).toList = c :: rest ∧ Leads c := by
  cases n with
  | ofNat n =>
      obtain ⟨c, rest, hdigits⟩ :=
        List.exists_cons_of_ne_nil (Nat.toDigits_ne_nil (b := 10) (n := n))
      refine ⟨c, rest, (toList_toString_ofNat n).trans hdigits, .inl ?_⟩
      exact Nat.isDigit_of_mem_toDigits (by decide) (by decide) (hdigits ▸ List.mem_cons_self)
  | negSucc n => exact ⟨'-', _, toList_toString_negSucc n, .inr rfl⟩

theorem readValue_eq_readNumber {c : Char} (h : Leads c) (room levels : Nat) (rest : List Char) :
    readValue room levels (c :: rest)
      = (readNumber (c :: rest)).map fun (n, rest) => (.number n, rest) := by
  rw [readValue_eq_readScalar h.isBlank (h.ne (by decide)) (h.ne (by decide))]
  unfold readScalar
  split
  · rename_i heq
    exact absurd (List.cons.inj heq).1 (h.ne (by decide))
  · rename_i heq
    exact absurd (List.cons.inj heq).1 (h.ne (by decide))
  · rename_i heq
    exact absurd (List.cons.inj heq).1 (h.ne (by decide))
  · rename_i heq
    exact absurd (List.cons.inj heq).1 (h.ne (by decide))
  · rfl

/-- **A value is read from every text of it**, by a reader that may go as deep
as the text does. -/
theorem ValueText.reads {levels : Nat} {value : Json} {text : List Char}
    (h : ValueText levels value text) {room : Nat} (hroom : text.length ≤ room) :
    Reads (readValue room levels) value text := by
  induction h with
  | null =>
      intro rest _
      refine ⟨rest, ?_, rfl⟩
      exact readValue_eq_readScalar (by decide) (by decide) (by decide) _ _ _
  | bool b =>
      intro rest _
      refine ⟨rest, ?_, rfl⟩
      cases b
      · exact readValue_eq_readScalar (by decide) (by decide) (by decide) _ _ _
      · exact readValue_eq_readScalar (by decide) (by decide) (by decide) _ _ _
  | whole h =>
      intro rest hrest
      refine ⟨rest, ?_, rfl⟩
      have hread := readNumber_whole h hrest
      obtain ⟨c, more, htext, hc⟩ := exists_cons_toString _
      rw [htext, List.cons_append] at hread ⊢
      rw [readValue_eq_readNumber hc, hread]
      rfl
  | @string levels string text h =>
      intro rest _
      refine ⟨rest, ?_, rfl⟩
      simp only [List.length_cons, List.length_append, List.length_nil] at hroom
      rw [List.cons_append, readValue_eq_readScalar (by decide) (by decide) (by decide),
        List.append_assoc]
      show (readString room (text ++ '"' :: rest)).map _ = _
      rw [h.readString (by omega)]
      rfl
  | @array levels cells gap _ hgap ih =>
      intro rest _
      refine ⟨rest, ?_, rfl⟩
      have hcount := count_lt_inBrackets '[' (cells.map Prod.snd) gap ']'
      rw [List.length_map] at hcount
      have hcells : ∀ cell ∈ cells, Reads (readValue room levels) cell.1 cell.2 := by
        intro cell hcell
        have hlt := length_lt_inBrackets (List.mem_map_of_mem (f := Prod.snd) hcell) '[' gap ']'
        exact ih cell hcell (by omega)
      have hread := readBracket_row hcells hgap (readsItems_readValue room levels) closes_square
        (show cells.length ≤ room by omega) rest
      simp only [inBrackets, List.cons_append, List.append_assoc, List.nil_append, readValue,
        skipBlanks_cons (c := '[') (by decide), hread]
      rfl
  | @object levels cells gap hnames _ hgap ih =>
      intro rest _
      refine ⟨rest, ?_, rfl⟩
      have hcount := count_lt_inBrackets '\x7b' (cells.map (·.chars)) gap '\x7d'
      rw [List.length_map] at hcount
      have hcells : ∀ cell ∈ cells,
          Reads (readMember (readString room) (readValue room levels)) cell.member cell.chars := by
        intro cell hcell
        have hmem := List.mem_map_of_mem (f := (·.chars)) hcell
        have hlt := length_lt_inBrackets hmem '\x7b' gap '\x7d'
        have hchars := cell.length_le_chars
        apply reads_readMember (hnames cell hcell).spaced
        · exact fun rest => (hnames cell hcell).label.readString (by omega) rest
        · exact ih cell hcell (by omega)
      have hread := readBracket_row hcells hgap (readsItems_readMember _ _) closes_curly
        (show cells.length ≤ room by omega) rest
      simp only [inBrackets, List.cons_append, List.append_assoc, List.nil_append, readValue,
        skipBlanks_cons (c := '\x7b') (by decide), hread]
      rfl
  | @spaced levels value before text after hbefore _ hafter ih =>
      intro rest hrest
      simp only [List.length_append] at hroom
      obtain ⟨left, hread, hleft⟩ := ih (by omega) _ (hafter.ends_append hrest)
      rw [hafter.skipBlanks_append] at hleft
      refine ⟨left, ?_, hleft⟩
      rw [List.append_assoc, List.append_assoc, ← readValue_skipBlanks,
        hbefore.skipBlanks_append, readValue_skipBlanks]
      exact hread

theorem read?_of_valueText {value : Json} {text : String}
    (h : ValueText levelLimit value text.toList) : read? text = some value := by
  have hends : Ends [] := by simp [Ends]
  obtain ⟨left, hread, hleft⟩ := h.reads (Nat.le_succ text.toList.length) [] hends
  rw [List.append_nil] at hread
  rw [read?, hread]
  exact if_pos hleft

/-! ## What a value was read from -/

section Front

variable {room levels : Nat} {input rest : List Char} {value : Json}

/-- What stood in front of a text, without blanks, that a value was read from. -/
inductive Front (room levels : Nat) (input rest : List Char) : Json → Prop
  | null {more : List Char} (hinput : input = 'n' :: more)
      (hread : afterWord ['u', 'l', 'l'] more = some rest) : Front room levels input rest .null
  | bool (b : Bool) : Front room levels input rest (.bool b)
  | number {n : JsonNumber} (hread : readNumber input = some (n, rest)) :
      Front room levels input rest (.number n)
  | string {text : String} {more : List Char} (hinput : input = '"' :: more)
      (hread : readString room more = some (text, rest)) :
      Front room levels input rest (.string text)
  | array (items : List Json) : Front room levels input rest (.array items)
  | object {inner : Nat} {members entries : List (String × Json)} {more : List Char}
      (hlevels : levels = inner + 1) (hinput : input = '\x7b' :: more)
      (hread : readBracket (readMember (readString room) (readValue room inner)) '\x7d' room more
        = some (members, rest))
      (hentries : entries = (KeyMap.ofList members).entries) :
      Front room levels input rest (.object entries)

theorem front_of_readScalar (h : readScalar room input = some (value, rest)) :
    Front room levels input rest value := by
  unfold readScalar at h
  split at h
  · obtain ⟨_, hread, heq⟩ := Option.map_eq_some_iff.mp h
    cases heq
    exact .string rfl hread
  · obtain ⟨_, hread, heq⟩ := Option.map_eq_some_iff.mp h
    cases heq
    exact .null rfl hread
  · obtain ⟨_, -, heq⟩ := Option.map_eq_some_iff.mp h
    cases heq
    exact .bool true
  · obtain ⟨_, -, heq⟩ := Option.map_eq_some_iff.mp h
    cases heq
    exact .bool false
  · obtain ⟨_, hread, heq⟩ := Option.map_eq_some_iff.mp h
    cases heq
    exact .number hread

theorem front_of_readValue (h : readValue room levels input = some (value, rest)) :
    Front room levels (skipBlanks input) rest value := by
  cases levels with
  | zero => exact front_of_readScalar h
  | succ levels =>
      simp only [readValue] at h
      split at h
      · obtain ⟨⟨items, _⟩, -, heq⟩ := Option.map_eq_some_iff.mp h
        cases heq
        exact .array items
      · rename_i more hinput
        obtain ⟨_, hread, heq⟩ := Option.map_eq_some_iff.mp h
        cases heq
        exact .object rfl hinput hread rfl
      · exact front_of_readScalar h

theorem exists_cons_of_readNumber {n : JsonNumber} (h : readNumber input = some (n, rest)) :
    ∃ c more, input = c :: more ∧ (c = '-' ∨ c.isDigit = true) := by
  cases input with
  | nil =>
      rw [readNumber, show readNumberText [] = none from rfl] at h
      simp at h
  | cons c more =>
      refine ⟨c, more, rfl, ?_⟩
      by_cases hminus : c = '-'
      · exact .inl hminus
      · cases hdigit : c.isDigit with
        | true => exact .inr rfl
        | false =>
            -- no digit stands in front, so there is no whole part to be read
            have hnone : readNumberText (c :: more) = none := by
              simp [readNumberText, hminus, readDigits, readSome, hdigit]
            rw [readNumber, hnone] at h
            simp at h

end Front

end Yql.Json
