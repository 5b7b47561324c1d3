import Yql.Json.Lexeme
import Yql.KeyMap

/-!
# How values are written

The grammar of JSON texts, as a relation between values and the texts that
stand for them. Blanks may stand around a value and around every sign between
values, a character of a string may be written as it is or escaped in several
ways, and the members of an object come in any order. The nesting of brackets
is counted in the text: what stands in a bracket has one level less.

Of numbers the grammar has the whole ones that a 64-bit word holds, and each of
them is written in one way.
-/

namespace Yql.Json

/-! ## Blanks and rows -/

def Blanks (text : List Char) : Prop :=
  ∀ c ∈ text, isBlank c = true

theorem blanks_nil : Blanks [] := by simp [Blanks]

def row : List (List Char) → List Char
  | [] => []
  | text :: rest => text ++ rest.flatMap (',' :: ·)

/-- A row of texts in brackets, with a gap before the closing one. -/
def inBrackets (opening : Char) (texts : List (List Char)) (gap : List Char)
    (closing : Char) : List Char :=
  opening :: (row texts ++ (gap ++ [closing]))

theorem length_le_length_row {text : List Char} {texts : List (List Char)} (h : text ∈ texts) :
    text.length ≤ (row texts).length := by
  cases texts with
  | nil => simp at h
  | cons first rest =>
      rw [row, List.length_append]
      rcases List.mem_cons.mp h with rfl | h
      · exact Nat.le_add_right _ _
      · obtain ⟨before, after, rfl⟩ := List.append_of_mem h
        simp
        omega

theorem length_le_length_row_succ (texts : List (List Char)) :
    texts.length ≤ (row texts).length + 1 := by
  cases texts with
  | nil => simp
  | cons first rest =>
      have hrest : rest.length ≤ (rest.flatMap (',' :: ·)).length := by
        induction rest with
        | nil => simp
        | cons text rest ih =>
            simp only [List.flatMap_cons, List.length_append, List.length_cons]
            omega
      simp only [row, List.length_append, List.length_cons]
      omega

theorem length_lt_inBrackets {text : List Char} {texts : List (List Char)} (h : text ∈ texts)
    (opening : Char) (gap : List Char) (closing : Char) :
    text.length < (inBrackets opening texts gap closing).length := by
  have hle := length_le_length_row h
  simp only [inBrackets, List.length_cons, List.length_append]
  omega

theorem count_lt_inBrackets (opening : Char) (texts : List (List Char)) (gap : List Char)
    (closing : Char) : texts.length < (inBrackets opening texts gap closing).length := by
  have hle := length_le_length_row_succ texts
  simp only [inBrackets, List.length_cons, List.length_append, List.length_nil]
  omega

/-! ## Strings -/

/-- How a character may be written inside a string: as it is, with a letter
behind a backslash, with its number to base sixteen, or with two numbers when
it lies beyond the first 65536 characters. -/
inductive CharText : Char → List Char → Prop
  | plain {c : Char} (hquote : c ≠ '"') (hslash : c ≠ '\\') (hcontrol : 0x20 ≤ c.toNat) :
      CharText c [c]
  | letter {c letter : Char} (h : escapeOf? letter = some c) : CharText c ['\\', letter]
  | number {digits : List Char} {n : Nat} (h : Reader.readHex 4 0 digits = some (n, []))
      (hsingle : n < 0xD800 ∨ 0xDFFF < n) : CharText (Char.ofNat n) ('\\' :: 'u' :: digits)
  | pair {first second : List Char} {high low : Nat}
      (hfirst : Reader.readHex 4 0 first = some (high, []))
      (hsecond : Reader.readHex 4 0 second = some (low, []))
      (hhigh : 0xD800 ≤ high ∧ high ≤ 0xDBFF) (hlow : 0xDC00 ≤ low ∧ low ≤ 0xDFFF) :
      CharText (Char.ofNat (0x10000 + (high - 0xD800) * 0x400 + (low - 0xDC00)))
        ('\\' :: 'u' :: (first ++ '\\' :: 'u' :: second))

inductive CharsText : List Char → List Char → Prop
  | nil : CharsText [] []
  | cons {c : Char} {others text rest : List Char} (h : CharText c text)
      (hothers : CharsText others rest) : CharsText (c :: others) (text ++ rest)

/-! ## Values -/

/-- A 64-bit word holds the number, with a sign if it is negative. -/
def IsWord (n : Int) : Prop :=
  -0x8000000000000000 ≤ n ∧ n ≤ 0xffffffffffffffff

/-- A member of an object as it stands in a text: the blanks before the name,
the name between its quotes, the blanks before the colon, and what stands behind
the colon. -/
structure MemberForm where
  before : List Char
  label : List Char
  between : List Char
  text : List Char

namespace MemberForm

def chars (form : MemberForm) : List Char :=
  form.before ++ '"' :: (form.label ++ '"' :: (form.between ++ ':' :: form.text))

theorem length_le_chars (form : MemberForm) :
    form.label.length + form.text.length ≤ form.chars.length := by
  simp only [chars, List.length_append, List.length_cons]
  omega

structure Spaced (form : MemberForm) : Prop where
  before : Blanks form.before
  between : Blanks form.between

end MemberForm

/-- A member of an object as it is written, with its name and its value. -/
structure MemberText extends MemberForm where
  name : String
  value : Json

namespace MemberText

def member (cell : MemberText) : String × Json :=
  (cell.name, cell.value)

structure Named (cell : MemberText) : Prop where
  before : Blanks cell.before
  label : CharsText cell.name.toList cell.label
  between : Blanks cell.between

theorem Named.spaced {cell : MemberText} (h : cell.Named) : cell.Spaced :=
  ⟨h.before, h.between⟩

end MemberText

/-- How a value may be written with at most that many levels of brackets. -/
inductive ValueText : (levels : Nat) → Json → List Char → Prop
  | null {levels : Nat} : ValueText levels .null ['n', 'u', 'l', 'l']
  | bool {levels : Nat} (b : Bool) :
      ValueText levels (.bool b) (if b then ['t', 'r', 'u', 'e'] else ['f', 'a', 'l', 's', 'e'])
  | whole {levels : Nat} {n : Int} (h : IsWord n) :
      ValueText levels (.number (.whole n)) (toString n).toList
  | string {levels : Nat} {string : String} {text : List Char} (h : CharsText string.toList text) :
      ValueText levels (.string string) ('"' :: (text ++ ['"']))
  | array {levels : Nat} {cells : List (Json × List Char)} {gap : List Char}
      (hcells : ∀ cell ∈ cells, ValueText levels cell.1 cell.2) (hgap : Blanks gap) :
      ValueText (levels + 1) (.array (cells.map Prod.fst))
        (inBrackets '[' (cells.map Prod.snd) gap ']')
  | object {levels : Nat} {cells : List MemberText} {gap : List Char}
      (hnames : ∀ cell ∈ cells, cell.Named)
      (hcells : ∀ cell ∈ cells, ValueText levels cell.value cell.text) (hgap : Blanks gap) :
      ValueText (levels + 1) (.ofMembers (cells.map MemberText.member))
        (inBrackets '\x7b' (cells.map (·.chars)) gap '\x7d')
  | spaced {levels : Nat} {value : Json} {before text after : List Char} (hbefore : Blanks before)
      (h : ValueText levels value text) (hafter : Blanks after) :
      ValueText levels value (before ++ (text ++ after))

/-- The text is an object with these members, in this order. -/
def ObjectText (levels : Nat) (members : List (String × Json)) (text : List Char) : Prop :=
  ∃ (cells : List MemberText) (gap : List Char), cells.map MemberText.member = members
    ∧ (∀ cell ∈ cells, cell.Named ∧ ValueText levels cell.value cell.text) ∧ Blanks gap
    ∧ text = inBrackets '\x7b' (cells.map (·.chars)) gap '\x7d'

end Yql.Json
