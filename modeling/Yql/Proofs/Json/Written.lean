import Yql.Json.Printer
import Yql.Proofs.Json.Grammar
import Yql.Proofs.KeyMap

/-!
# What is written is in the grammar

The compact and the wide text of a value are both texts of it. The wide one
has blanks where the compact one has none: a new line and the indentation
before every item, a blank behind every colon, and a new line before the
closing bracket unless the bracket is empty.
-/

namespace Yql.Json

variable {levels : Nat} {value : Json} {items : List Json} {members : List (String × Json)}

/-- A value that is written without loss: numbers are whole and fit a word, no
more than that many brackets stand inside one another, and members are in the
order of their names. -/
inductive Portable : (levels : Nat) → Json → Prop
  | null {levels : Nat} : Portable levels .null
  | bool {levels : Nat} (b : Bool) : Portable levels (.bool b)
  | whole {levels : Nat} {n : Int} (h : IsWord n) : Portable levels (.number (.whole n))
  | string {levels : Nat} (text : String) : Portable levels (.string text)
  | array {levels : Nat} {items : List Json} (h : ∀ item ∈ items, Portable levels item) :
      Portable (levels + 1) (.array items)
  | object {levels : Nat} {members : List (String × Json)}
      (hnames : members.Pairwise fun a b => a.1 < b.1)
      (h : ∀ member ∈ members, Portable levels member.2) :
      Portable (levels + 1) (.object members)

/-! ## Strings -/

def escapedLabel (text : String) : List Char :=
  text.toList.flatMap escapedChar

theorem readHex_control :
    ∀ n < 0x20, Reader.readHex 4 0 ['0', '0', hexDigit (n / 16), hexDigit (n % 16)]
      = some (n, []) := by
  decide

theorem charText_escapedChar (c : Char) : CharText c (escapedChar c) := by
  unfold escapedChar
  split_ifs with hquote hslash hbackspace htab hline hpage hreturn hcontrol
  · exact .letter (by rw [hquote]; decide)
  · exact .letter (by rw [hslash]; decide)
  · exact .letter (by rw [hbackspace]; decide)
  · exact .letter (by rw [htab]; decide)
  · exact .letter (by rw [hline]; decide)
  · exact .letter (by rw [hpage]; decide)
  · exact .letter (by rw [hreturn]; decide)
  · have htext := CharText.number (readHex_control c.toNat hcontrol) (.inl (by omega))
    rwa [Char.ofNat_toNat] at htext
  · exact .plain hquote hslash (by omega)

theorem charsText_flatMap (chars : List Char) : CharsText chars (chars.flatMap escapedChar) := by
  induction chars with
  | nil => exact .nil
  | cons c rest ih => exact .cons (charText_escapedChar c) ih

theorem toList_stringText (text : String) :
    (stringText text).toList = '"' :: (escapedLabel text ++ ['"']) := by
  simp [stringText, escapedLabel]

theorem valueText_stringText (levels : Nat) (text : String) :
    ValueText levels (.string text) (stringText text).toList := by
  rw [toList_stringText]
  exact .string (charsText_flatMap _)

/-! ## Brackets -/

theorem valueText_array {text : Json → List Char}
    (h : ∀ item ∈ items, ValueText levels item (text item)) {gap : List Char}
    (hgap : Blanks gap) :
    ValueText (levels + 1) (.array items) (inBrackets '[' (items.map text) gap ']') := by
  have hcells : ∀ cell ∈ items.map fun item => (item, text item),
      ValueText levels cell.1 cell.2 := by
    intro cell hcell
    obtain ⟨item, hitem, rfl⟩ := List.mem_map.mp hcell
    exact h item hitem
  have harray := ValueText.array hcells hgap
  simpa only [List.map_map, Function.comp_def, List.map_id'] using harray

theorem ObjectText.valueText {text : List Char}
    (h : ObjectText levels members text) (hnames : members.Pairwise fun a b => a.1 < b.1) :
    ValueText (levels + 1) (.object members) text := by
  obtain ⟨cells, gap, hmembers, hcells, hgap, rfl⟩ := h
  have hobject := ValueText.object (fun cell hcell => (hcells cell hcell).1)
    (fun cell hcell => (hcells cell hcell).2) hgap
  rwa [ofMembers, hmembers, KeyMap.entries_ofList hnames] at hobject

def memberCell (gap : List Char) (text : Json → List Char) (member : String × Json) :
    MemberText where
  name := member.1
  value := member.2
  before := gap
  label := escapedLabel member.1
  between := []
  text := text member.2

theorem objectText_memberCell {text : Json → List Char}
    (h : ∀ member ∈ members, ValueText levels member.2 (text member.2))
    {before gap : List Char} (hbefore : Blanks before) (hgap : Blanks gap) :
    ObjectText levels members
      (inBrackets '\x7b' (members.map fun member => (memberCell before text member).chars) gap
        '\x7d') := by
  refine ⟨members.map (memberCell before text), gap, ?_, ?_, hgap, by rw [List.map_map]; rfl⟩
  · rw [List.map_map]
    exact List.map_id' members
  · intro cell hcell
    obtain ⟨member, hmember, rfl⟩ := List.mem_map.mp hcell
    exact ⟨⟨hbefore, charsText_flatMap _, blanks_nil⟩, h member hmember⟩

/-! ## The compact layout -/

theorem toList_joined (texts : List String) :
    (Text.joined "," texts).toList = row (texts.map String.toList) := by
  cases texts with
  | nil => rfl
  | cons text rest => simp [Text.toList_joined_cons, row, List.flatMap_map]

theorem compactItems_eq_map (items : List Json) : compactItems items = items.map compact := by
  induction items with
  | nil => rfl
  | cons item rest ih => simp [compactItems, ih]

theorem compactMembers_eq_map (members : List (String × Json)) :
    compactMembers members
      = members.map fun member => stringText member.1 ++ ":" ++ compact member.2 := by
  induction members with
  | nil => rfl
  | cons member rest ih => simp [compactMembers, ih]

def compactChars (value : Json) : List Char :=
  value.compact.toList

theorem compactChars_array (items : List Json) :
    compactChars (.array items) = inBrackets '[' (items.map compactChars) [] ']' := by
  simp [compactChars, compact, compactItems_eq_map, toList_joined, inBrackets]
  rfl

theorem compactChars_object (members : List (String × Json)) :
    compactChars (.object members)
      = inBrackets '\x7b' (members.map fun member => (memberCell [] compactChars member).chars) []
          '\x7d' := by
  simp [compactChars, compact, compactMembers_eq_map, toList_joined, inBrackets, Function.comp_def,
    memberCell, MemberForm.chars, toList_stringText]

theorem objectText_compact
    (h : ∀ member ∈ members, ValueText levels member.2 (compactChars member.2)) :
    ObjectText levels members (compactChars (.object members)) := by
  rw [compactChars_object]
  exact objectText_memberCell h blanks_nil blanks_nil

/-- **The compact text of a value is one of its texts.** -/
theorem Portable.compact (h : Portable levels value) :
    ValueText levels value (compactChars value) := by
  induction h with
  | null => exact .null
  | bool b => cases b <;> exact .bool _
  | whole h => exact .whole h
  | string text => exact valueText_stringText _ text
  | array _ ih =>
      rw [compactChars_array]
      exact valueText_array ih blanks_nil
  | object hnames _ ih => exact (objectText_compact ih).valueText hnames

/-! ## The wide layout -/

/-- A new line, indented for that many brackets. -/
def newLine (depth : Nat) : List Char :=
  '\n' :: (Text.repeated "  " depth).toList

theorem blanks_newLine (depth : Nat) : Blanks (newLine depth) := by
  have hrepeated : Blanks (Text.repeated "  " depth).toList := by
    induction depth with
    | zero => exact blanks_nil
    | succ depth ih => simpa [Text.repeated, Blanks, isBlank] using ih
  simpa [newLine, Blanks, isBlank] using hrepeated

/-- What stands before the closing bracket of so many lines. -/
def lastGap {α : Type} (depth : Nat) (lines : List α) : List Char :=
  if lines.isEmpty then [] else newLine depth

theorem blanks_lastGap {α : Type} (depth : Nat) (lines : List α) :
    Blanks (lastGap depth lines) := by
  unfold lastGap
  split
  · exact blanks_nil
  · exact blanks_newLine depth

theorem toList_bracketed (opening closing : String) (depth : Nat) (lines : List String) :
    (bracketed opening closing depth lines).toList
      = opening.toList ++ (row (lines.map fun line => '\n' :: line.toList)
        ++ (lastGap depth lines ++ closing.toList)) := by
  cases lines with
  | nil => simp [bracketed, row, lastGap]
  | cons line rest =>
      simp [bracketed, Text.toList_joined_cons, row, lastGap, newLine, List.flatMap_map]

theorem wideItems_eq_map (depth : Nat) (items : List Json) :
    wideItems depth items = items.map fun item => Text.repeated "  " depth ++ wide depth item := by
  induction items with
  | nil => rfl
  | cons item rest ih => simp [wideItems, ih]

theorem wideMembers_eq_map (depth : Nat) (members : List (String × Json)) :
    wideMembers depth members
      = members.map fun member =>
          Text.repeated "  " depth ++ stringText member.1 ++ ": " ++ wide depth member.2 := by
  induction members with
  | nil => rfl
  | cons member rest ih => simp [wideMembers, ih]

def wideChars (depth : Nat) (value : Json) : List Char :=
  (wide depth value).toList

theorem wideChars_array (depth : Nat) (items : List Json) :
    wideChars depth (.array items)
      = inBrackets '[' (items.map fun item => newLine (depth + 1) ++ wideChars (depth + 1) item)
          (lastGap depth items) ']' := by
  simp [wideChars, wide, wideItems_eq_map, toList_bracketed, inBrackets, Function.comp_def, newLine,
    lastGap]

theorem wideChars_object (depth : Nat) (members : List (String × Json)) :
    wideChars depth (.object members)
      = inBrackets '\x7b'
          (members.map fun member =>
            (memberCell (newLine (depth + 1)) (fun value => ' ' :: wideChars (depth + 1) value)
              member).chars)
          (lastGap depth members) '\x7d' := by
  simp [wideChars, wide, wideMembers_eq_map, toList_bracketed, inBrackets, Function.comp_def,
    newLine, lastGap, memberCell, MemberForm.chars, toList_stringText]

theorem objectText_wide (depth : Nat)
    (h : ∀ member ∈ members, ValueText levels member.2 (wideChars (depth + 1) member.2)) :
    ObjectText levels members (wideChars depth (.object members)) := by
  have hblank : Blanks [' '] := by simp [Blanks, isBlank]
  rw [wideChars_object]
  apply objectText_memberCell _ (blanks_newLine _) (blanks_lastGap _ _)
  intro member hmember
  simpa using ValueText.spaced hblank (h member hmember) blanks_nil

/-- **The wide text of a value is one of its texts**, inside any number of
brackets. -/
theorem Portable.wide (h : Portable levels value) (depth : Nat) :
    ValueText levels value (wideChars depth value) := by
  induction h generalizing depth with
  | null =>
      rw [wideChars, Json.wide]
      exact .null
  | bool b =>
      rw [wideChars, Json.wide]
      cases b <;> exact .bool _
  | whole h => exact .whole h
  | string text => exact valueText_stringText _ text
  | array _ ih =>
      rw [wideChars_array]
      apply valueText_array _ (blanks_lastGap _ _)
      intro item hitem
      simpa using ValueText.spaced (blanks_newLine _) (ih item hitem (depth + 1)) blanks_nil
  | object hnames _ ih =>
      exact (objectText_wide depth fun member hmember => ih member hmember (depth + 1)).valueText
        hnames

end Yql.Json
