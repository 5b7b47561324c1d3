import Yql.Proofs.Json.Written
import Yql.Proofs.Request.Reading

/-!
# What reading a request does not depend on

The order of the members does not matter, nor whether an absent parameter is
missing or `null`, nor what members of other names hold, as long as it has the
form of a value (`read_tolerant`). What is not tolerated is a second member of a
parameter: wherever it stands behind the first one, the reader stops at its name,
so that neither its value nor anything behind it is looked at.
-/

namespace Yql.Request

open Json (MemberText Blanks row inBrackets)

variable {room : Nat} {request : Request} {parameter : Parameter}

/-! ## A second member of a parameter -/

theorem readMember_again {state : Gathered} (hmet : parameter ∈ state.seen) (size : Nat)
    (input : List Char) :
    readMember size parameter.name state input = .error (.invalid (.duplicate parameter)) := by
  rw [readMember, ofName?_name]
  exact if_pos hmet

theorem readMembers_again {size : Nat} {state final : Gathered} {texts : List (List Char)}
    (h : Run size state texts final) (hroom : texts.length < room) (hmet : parameter ∈ final.seen)
    {again : MemberText} (hnamed : again.Named) (hname : again.name = parameter.name)
    (hsize : again.chars.length ≤ size) (others : List (List Char)) (rest : List Char) :
    readMembers room size state (row (texts ++ again.chars :: others) ++ rest)
      = .error (.invalid (.duplicate parameter)) := by
  obtain ⟨room, rfl⟩ : ∃ more, room = texts.length + (more + 1) :=
    ⟨room - texts.length - 1, by omega⟩
  have hlength := again.length_le_chars
  have hlabel := hnamed.label.readString (show again.label.length ≤ size by omega)
  -- the name is all that is read of the row behind the run
  rw [Json.row_append_cons, List.append_assoc, readMembers_run h, row, List.append_assoc,
    readMembers, hnamed.spaced.skipBlanks_chars]
  simp only [hlabel, orMalformed, hname, readMember_again hmet, bind, Except.bind]

theorem Spelled.read_again {front others : List MemberText} (h : request.Spelled (front ++ others))
    (hmet : parameter ∈ parametersOf front) {again : MemberText} (hnamed : again.Named)
    (hname : again.name = parameter.name) {text : String}
    (htext : Written (front ++ again :: others) text.toList) :
    read text = .error (.invalid (.duplicate parameter)) := by
  have hsize : ∀ cell ∈ front ++ again :: others,
      cell.chars.length ≤ text.toList.length + 1 := fun cell hcell =>
    Nat.le_succ_of_le (htext.length_chars_le hcell)
  have hrun := h.run fun cell hcell => hsize cell (List.mem_append_left _ hcell)
  have hroom : (front.map (·.chars)).length < text.toList.length + 1 := by
    have hle := htext.length_le
    rw [List.length_append, List.length_cons] at hle
    rw [List.length_map]
    omega
  obtain ⟨before, gap, after, hbefore, -, -, htext⟩ := htext
  have hmembers := readMembers_again hrun hroom (List.mem_reverse.mpr hmet) hnamed hname
    (hsize again (by simp)) (others.map (·.chars)) (gap ++ '\x7d' :: after)
  rw [inBrackets, List.map_append, List.map_cons, List.cons_append, List.append_assoc,
    List.append_assoc, List.singleton_append] at htext
  rw [read_eq hbefore htext, readObject_eq (by simp [hmembers]), hmembers]
  rfl

/-! ## All that does not matter -/

/-- **Reading a request is tolerant.** It does not depend on the order of the
members, on `null` for what is absent, or on members of other names; and it
refuses a second member of any parameter. -/
theorem read_tolerant {cells : List MemberText} (h : request.Spelled cells) :
    (∀ text : String, Written cells text.toList → read text = .ok request)
      ∧ ∀ front others again parameter, cells = front ++ others →
          parameter ∈ parametersOf front → again.Named → again.name = parameter.name →
          ∀ text : String, Written (front ++ again :: others) text.toList →
            read text = .error (.invalid (.duplicate parameter)) := by
  constructor
  · intro text htext
    exact h.read_eq_ok htext
  · rintro front others again parameter rfl hmet hnamed hname text htext
    exact h.read_again hmet hnamed hname htext

def fiveHits : Request where
  yql := "q"
  hits := some 5

def plainCell (name : String) (value : Json) (text : String) : MemberText where
  before := [' ']
  label := Json.escapedLabel name
  between := []
  text := text.toList
  name := name
  value := value

def hitsCell : MemberText :=
  plainCell "hits" (Request.countJson 5) "5"

def nullCell : MemberText :=
  plainCell "ranking" .null "null"

/-- A member of another name, with a number that is too big and half of a
character. -/
def strayCell : MemberText :=
  plainCell "default_index" .null "[1e400,\"\\ud800\"]"

def yqlCell : MemberText where
  before := []
  label := "\\u0079ql".toList
  between := ['\t']
  text := "\"q\"".toList
  name := "yql"
  value := .string "q"

theorem named_plainCell (name : String) (value : Json) (text : String) :
    (plainCell name value text).Named :=
  ⟨by simp [Blanks, plainCell, Json.isBlank], Json.charsText_flatMap _, Json.blanks_nil⟩

theorem spells_hitsCell : fiveHits.Spells hitsCell := by
  have hmember : fiveHits.memberOf .hits = hitsCell.member := rfl
  exact spells_of_member hmember (named_plainCell _ _ _)
    (.whole ⟨by decide, by decide⟩)

theorem spells_nullCell : fiveHits.Spells nullCell := by
  have hmember : fiveHits.memberOf .ranking = nullCell.member := rfl
  exact spells_of_member hmember (named_plainCell _ _ _) .null

theorem spells_strayCell : fiveHits.Spells strayCell := by
  have hpower : Json.ExponentForm ('e' :: ([] ++ ['4', '0', '0'])) :=
    .present (.inl rfl) List.mem_cons_self (Json.digits_toDigits 400)
  have hnumber : Json.NumberForm ([] ++ (['1'] ++ ([] ++ ('e' :: ([] ++ ['4', '0', '0']))))) :=
    .intro List.mem_cons_self (Json.digits_toDigits 1) (by simp) .absent hpower
  have hhalf : Json.CharForm ('\\' :: 'u' :: ['d', '8', '0', '0']) := .number rfl
  have harray : Json.Form (inBrackets '[' ["1e400".toList, "\"\\ud800\"".toList] [] ']') := by
    refine .array ?_ Json.blanks_nil
    intro cell hcell
    simp only [List.mem_cons, List.not_mem_nil, or_false] at hcell
    rcases hcell with rfl | rfl
    · exact .number hnumber
    · exact .string (.cons hhalf .nil)
  exact ⟨named_plainCell _ _ _, nofun, fun _ => harray⟩

theorem spells_yqlCell : fiveHits.Spells yqlCell := by
  have hmember : fiveHits.memberOf .yql = yqlCell.member := rfl
  have hletter : Json.CharText 'y' ('\\' :: 'u' :: ['0', '0', '7', '9']) :=
    .number rfl (.inl (by decide))
  have hlabel : Json.CharsText "yql".toList yqlCell.label :=
    .cons hletter (Json.charsText_flatMap ['q', 'l'])
  have hvalue : Json.CharsText "q".toList ['q'] := Json.charsText_flatMap ['q']
  refine spells_of_member hmember ⟨Json.blanks_nil, hlabel, ?_⟩ (.string hvalue)
  simp [Blanks, yqlCell, Json.isBlank]

theorem spelled_mixed : fiveHits.Spelled [hitsCell, strayCell, nullCell, strayCell, yqlCell] where
  members := by
    simp only [List.forall_mem_cons]
    exact ⟨spells_hitsCell, spells_strayCell, spells_nullCell, spells_strayCell, spells_yqlCell,
      nofun⟩
  once := by decide
  whole := by
    intro parameter hvalue
    cases parameter with
    | yql | hits => decide
    | ranking | offset | defaultIndex | input | query => exact absurd rfl hvalue

def mixedText (more : String) : String :=
  "\x7b \"hits\":5, \"default_index\":[1e400,\"\\ud800\"], \"ranking\":null,"
    ++ " \"default_index\":[1e400,\"\\ud800\"]," ++ more ++ "\"\\u0079ql\"\t:\"q\"\x7d\n"

/-- A stray member that stands there twice, an absent parameter and a character
by number do not matter; a second count does. -/
theorem read_mixed :
    fiveHits.Spelled [hitsCell, strayCell, nullCell, strayCell, yqlCell]
      ∧ read (mixedText "") = .ok fiveHits
      ∧ read (mixedText " \"hits\":six,") = .error (.invalid (.duplicate .hits)) := by
  have hline : Blanks ['\n'] := by simp [Blanks, Json.isBlank]
  have hagain : (plainCell "hits" .null "six").Named := named_plainCell _ _ _
  obtain ⟨hread, hrefused⟩ := read_tolerant spelled_mixed
  refine ⟨spelled_mixed, ?_, ?_⟩
  · apply hread
    exact ⟨[], [], ['\n'], Json.blanks_nil, Json.blanks_nil, hline, by decide +kernel⟩
  · apply hrefused [hitsCell, strayCell, nullCell, strayCell] [yqlCell] _ .hits rfl (by decide)
      hagain rfl
    exact ⟨[], [], ['\n'], Json.blanks_nil, Json.blanks_nil, hline, by decide +kernel⟩

end Yql.Request
