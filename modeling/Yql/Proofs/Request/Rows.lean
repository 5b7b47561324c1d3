import Yql.Proofs.Json.Written
import Yql.Proofs.Query.History
import Yql.Proofs.Query.Refusal
import Yql.Proofs.Query.Members
import Yql.Proofs.Request.Reading
import Yql.Proofs.Value.Numeral
import Yql.Request.Rows

/-!
# Rows and the body

Table and body are two views of one row of members: the table shows the members
of the body one after another, a text as it is, a count in digits, and the
inputs in a row each (`rows_eq_flatMap`).

What a row is about can be read off its name only when no input is named like a
parameter. A request that was built of a query has no such input, nor an empty
map of inputs, so its rows fall apart into those of its parameters
(`filter_rows`), and these tell the parameters.
-/

namespace Yql.Request

open Query (isInputKey)

/-! ## Rows of members -/

def rowsOfMember : String × Json → List (String × String)
  | (name, .string text) => [(name, text)]
  | (name, .number (.whole n)) => [(name, toString n)]
  | (_, .object entries) => entries.map fun (key, value) => (key, value.compact)
  | _ => []

section

variable (request : Request)

theorem rowsOf_eq (parameter : Parameter) :
    request.rowsOf parameter
      = ((request.value? parameter).map (parameter.name, ·)).toList.flatMap rowsOfMember := by
  unfold rowsOf value?
  cases parameter with
  | yql => rfl
  | ranking => cases request.ranking <;> rfl
  | hits => cases request.hits <;> rfl
  | offset => cases request.offset <;> rfl
  | defaultIndex => cases request.defaultIndex <;> rfl
  | input => cases request.input <;> simp [rowsOfMember]
  | query => cases request.query <;> rfl

theorem rows_eq_flatMap : request.rows = request.members.flatMap rowsOfMember := by
  rw [rows, members, List.filterMap_eq_flatMap_toList, List.flatMap_assoc]
  apply List.flatMap_congr
  intro parameter _
  exact request.rowsOf_eq parameter

theorem getLast?_rows {text : String} (h : request.query = some text) :
    request.rows.getLast? = some ("query", text) := by
  have hrows : request.rowsOf .query = [("query", text)] := by
    unfold rowsOf
    rw [h]
    rfl
  have hsplit :
      Parameter.all = [.yql, .ranking, .hits, .offset, .defaultIndex, .input] ++ [.query] :=
    rfl
  rw [rows, hsplit, List.flatMap_append, List.flatMap_singleton, hrows]
  exact List.getLast?_concat

end

/-! ## What a row is about -/

namespace Parameter

theorem name_inj {p q : Parameter} (h : p.name = q.name) : p = q := by
  have hfound := ofName?_name p
  rw [h, ofName?_name] at hfound
  exact (Option.some.inj hfound).symm

theorem isInputKey_name (parameter : Parameter) : isInputKey parameter.name = false := by
  cases parameter <;> decide

def owns (parameter : Parameter) (name : String) : Bool :=
  if parameter = .input then isInputKey name else parameter.name = name

theorem owns_name {parameter : Parameter} (h : parameter ≠ .input) :
    parameter.owns parameter.name = true := by
  rw [owns, if_neg h]
  exact decide_eq_true rfl

theorem owns_unique {p q : Parameter} {name : String} (hp : p.owns name = true)
    (hq : q.owns name = true) : p = q := by
  unfold owns at hp hq
  split at hp
  · split at hq
    · rename_i hpinput hqinput
      rw [hpinput, hqinput]
    · rw [← of_decide_eq_true hq, isInputKey_name] at hp
      exact nomatch hp
  · split at hq
    · rw [← of_decide_eq_true hp, isInputKey_name] at hq
      exact nomatch hq
    · exact name_inj ((of_decide_eq_true hp).trans (of_decide_eq_true hq).symm)

theorem flatMap_all_ite {α : Type} (parameter : Parameter) (values : List α) :
    (all.flatMap fun other => if other = parameter then values else []) = values := by
  cases parameter <;> simp [all]

end Parameter

/-- What building sees to: there is no empty map of inputs, and the inputs have
names of their own. -/
structure Keyed (request : Request) : Prop where
  inhabited : ∀ inputs, request.input = some inputs → inputs.entries ≠ []
  keyed : ∀ inputs, request.input = some inputs → ∀ key ∈ inputs.keys, isInputKey key = true

theorem inputsIfAny_eq_some {inputs given : KeyMap Json}
    (h : Query.inputsIfAny inputs = some given) : given = inputs ∧ inputs.entries ≠ [] := by
  unfold Query.inputsIfAny at h
  split at h
  · cases h
  · rename_i hempty
    refine ⟨(Option.some.inj h).symm, ?_⟩
    intro hnil
    rw [KeyMap.isEmpty, hnil] at hempty
    exact hempty rfl

theorem keyed_of_request {query : Query} {request : Request} (h : query.request = .ok request) :
    request.Keyed := by
  obtain ⟨-, -, -, -, hinput, -⟩ := Query.request_eq_ok h
  obtain ⟨-, hkeys⟩ := query.rejection?_eq_none_iff.mp (Query.rejection?_eq_none_of_request h)
  constructor
  · intro inputs hinputs
    obtain ⟨rfl, hne⟩ := inputsIfAny_eq_some (hinput.symm.trans hinputs)
    exact hne
  · intro inputs hinputs
    obtain ⟨rfl, -⟩ := inputsIfAny_eq_some (hinput.symm.trans hinputs)
    exact hkeys

/-! ## The rows of a parameter among all -/

variable {request : Request}

theorem name_of_mem_rowsOf {parameter : Parameter} (hne : parameter ≠ .input)
    {row : String × String} (h : row ∈ request.rowsOf parameter) : row.1 = parameter.name := by
  cases parameter with
  | input => exact absurd rfl hne
  | yql =>
      obtain rfl := List.mem_singleton.mp h
      rfl
  | ranking | hits | offset | defaultIndex | query =>
      obtain ⟨_, -, rfl⟩ := List.mem_map.mp h
      rfl

theorem owns_of_mem_rowsOf (h : request.Keyed) {parameter : Parameter} {row : String × String}
    (hrow : row ∈ request.rowsOf parameter) : parameter.owns row.1 = true := by
  by_cases hparameter : parameter = .input
  · subst hparameter
    unfold rowsOf at hrow
    cases hinputs : request.input with
    | none =>
        rw [hinputs] at hrow
        exact absurd hrow List.not_mem_nil
    | some inputs =>
        rw [hinputs] at hrow
        obtain ⟨entry, hentry, rfl⟩ := List.mem_map.mp hrow
        exact h.keyed inputs hinputs entry.1 (List.mem_map_of_mem hentry)
  · rw [name_of_mem_rowsOf hparameter hrow]
    exact Parameter.owns_name hparameter

theorem filter_rows (h : request.Keyed) (parameter : Parameter) :
    (request.rows.filter fun row => parameter.owns row.1) = request.rowsOf parameter := by
  have hparts : ∀ other ∈ Parameter.all,
      (request.rowsOf other).filter (fun row => parameter.owns row.1)
        = if other = parameter then request.rowsOf parameter else [] := by
    intro other _
    split
    · rename_i heq
      rw [heq]
      exact List.filter_eq_self.mpr fun row hrow => owns_of_mem_rowsOf h hrow
    · rename_i hne
      apply List.filter_eq_nil_iff.mpr
      intro row hrow howns
      exact hne (Parameter.owns_unique (owns_of_mem_rowsOf h hrow) howns)
  rw [rows, List.filter_flatMap, List.flatMap_congr hparts, Parameter.flatMap_all_ite]

/-- Built requests with the same rows have the same rows for each parameter. -/
theorem rowsOf_eq_of_rows_eq {a b : Request} (ha : a.Keyed) (hb : b.Keyed)
    (h : a.rows = b.rows) (parameter : Parameter) :
    a.rowsOf parameter = b.rowsOf parameter := by
  rw [← filter_rows ha, h, filter_rows hb]

/-! ## Telling the parameters -/

theorem eq_of_map_toList_eq {α β : Type} {f : α → β} (hf : Function.Injective f)
    {a b : Option α} (h : a.toList.map f = b.toList.map f) : a = b := by
  cases a with
  | none =>
      cases b with
      | none => rfl
      | some _ => exact nomatch h
  | some _ =>
      cases b with
      | none => exact nomatch h
      | some _ => exact congrArg some (hf (List.singleton_inj.mp h))

theorem textRow_injective (name : String) :
    Function.Injective fun text : String => (name, text) := by
  intro text other h
  exact (Prod.mk.inj h).2

theorem countRow_injective (name : String) :
    Function.Injective fun n : UInt64 => (name, toString n.toNat) := by
  intro m n h
  have hdigits : toString m.toNat = toString n.toNat := (Prod.mk.inj h).2
  exact UInt64.toNat_inj.mp (Numeral.ofNat_injective (Numeral.ext hdigits))

theorem eq_of_getD_nil_eq {α : Type} {a b : Option (List α)} (ha : a ≠ some [])
    (hb : b ≠ some []) (h : a.getD [] = b.getD []) : a = b := by
  cases a with
  | none =>
      cases b with
      | none => rfl
      | some values => exact absurd (congrArg some h.symm) hb
  | some values =>
      cases b with
      | none => exact absurd (congrArg some h) ha
      | some others => exact congrArg some h

def shownInputs (request : Request) : Option (List (String × String)) :=
  request.input.map fun inputs => inputs.entries.map fun (key, value) => (key, value.compact)

theorem rowsOf_input (request : Request) :
    request.rowsOf .input = request.shownInputs.getD [] := by
  unfold rowsOf shownInputs
  cases request.input <;> rfl

theorem Keyed.shownInputs_ne (h : request.Keyed) : request.shownInputs ≠ some [] := by
  unfold shownInputs
  intro hshown
  obtain ⟨inputs, hinputs, hnil⟩ := Option.map_eq_some_iff.mp hshown
  exact h.inhabited inputs hinputs (List.map_eq_nil_iff.mp hnil)

/-- The table and the body are made of the same members. -/
theorem compact_eq (request : Request) :
    request.compact
      = "\x7b" ++ Text.joined "," (request.members.map fun member =>
          Json.stringText member.1 ++ ":" ++ member.2.compact) ++ "\x7d" := by
  rw [compact, toJson, Json.compact, Json.compactMembers_eq_map]

/-- **The table tells what the body tells.** The body is its members in a row,
and the table shows the same members one after another: a text as it is, a count
in digits, and of the inputs a row for each, in the order of the bytes of their
keys. The words of the user come last. Requests built of queries whose rows are
the same are the same, their inputs up to the texts of the values. -/
theorem rows_tell_body :
    (∀ request : Request,
      request.compact
          = "\x7b" ++ Text.joined "," (request.members.map fun member =>
              Json.stringText member.1 ++ ":" ++ member.2.compact) ++ "\x7d"
        ∧ request.table.rows
          = (request.members.flatMap rowsOfMember).map (fun row => [row.1, row.2])
        ∧ (∀ inputs, request.input = some inputs →
          inputs.keys.Pairwise fun a b => Text.bytes a < Text.bytes b)
        ∧ ∀ text, request.query = some text → request.rows.getLast? = some ("query", text))
      ∧ ∀ (first second : Query) (a b : Request), first.request = .ok a →
        second.request = .ok b → a.rows = b.rows →
          a.yql = b.yql ∧ a.ranking = b.ranking ∧ a.hits = b.hits ∧ a.offset = b.offset
            ∧ a.defaultIndex = b.defaultIndex ∧ a.query = b.query
            ∧ a.shownInputs = b.shownInputs := by
  constructor
  · intro request
    refine ⟨request.compact_eq, ?_, ?_, ?_⟩
    · exact congrArg (List.map fun row => [row.1, row.2]) request.rows_eq_flatMap
    · intro inputs _
      exact inputs.ascending_keys.imp Text.bytes_lt_iff.mpr
    · intro text htext
      exact request.getLast?_rows htext
  · intro first second a b ha hb hrows
    have hkeyed := keyed_of_request ha
    have hkeyed' := keyed_of_request hb
    have hsame := rowsOf_eq_of_rows_eq hkeyed hkeyed' hrows
    refine ⟨?_, ?_, ?_, ?_, ?_, ?_, ?_⟩
    · exact (Prod.mk.inj (List.singleton_inj.mp (hsame .yql))).2
    · exact eq_of_map_toList_eq (textRow_injective _) (hsame .ranking)
    · exact eq_of_map_toList_eq (countRow_injective _) (hsame .hits)
    · exact eq_of_map_toList_eq (countRow_injective _) (hsame .offset)
    · exact eq_of_map_toList_eq (textRow_injective _) (hsame .defaultIndex)
    · exact eq_of_map_toList_eq (textRow_injective _) (hsame .query)
    · apply eq_of_getD_nil_eq hkeyed.shownInputs_ne hkeyed'.shownInputs_ne
      rw [← rowsOf_input, ← rowsOf_input, hsame]

def composed : Query where
  sources := ["docs"]
  conditions := [.predicate "a" .greater (.int 1) .exact]
  hits := 10
  inputs := (({} : KeyMap Json).insert "input.query(b)" (.bool true)).insert "input.query(a)" .null
  text := "jazz"

def handwritten : Query where
  sources := ["docs"]
  conditions := [.verbatim "(a > 1)"]
  hits := 10
  inputs := (({} : KeyMap Json).insert "input.query(a)" .null).insert "input.query(b)" (.bool true)
  text := "jazz"

def commonRows : List (String × String) :=
  [("yql", "select * from sources docs where (a > 1)"), ("hits", "10"),
    ("input.query(a)", "null"), ("input.query(b)", "true"), ("query", "jazz")]

theorem rows_tell_body_composed :
    ∃ a b, composed.request = .ok a ∧ handwritten.request = .ok b ∧ a.rows = b.rows
      ∧ a.rows.getLast? = some ("query", "jazz")
      ∧ a.yql = b.yql ∧ a.hits = b.hits ∧ a.shownInputs = b.shownInputs := by
  obtain ⟨a, ha, hrows, hquery⟩ :
      ∃ a, composed.request = .ok a ∧ a.rows = commonRows ∧ a.query = some "jazz" :=
    ⟨_, rfl, rfl, rfl⟩
  obtain ⟨b, hb, hrows'⟩ : ∃ b, handwritten.request = .ok b ∧ b.rows = commonRows := ⟨_, rfl, rfl⟩
  have hsame : a.rows = b.rows := hrows.trans hrows'.symm
  obtain ⟨hshown, htold⟩ := rows_tell_body
  obtain ⟨-, -, -, hlast⟩ := hshown a
  obtain ⟨hyql, -, hhits, -, -, -, hinputs⟩ := htold composed handwritten a b ha hb hsame
  exact ⟨a, b, ha, hb, hsame, hlast "jazz" hquery, hyql, hhits, hinputs⟩

/-- Without a query to be built of, an input may pass for the words of the
user. -/
example : ({ yql := "", input := some (KeyMap.ofList [("query", .string "jazz")]) } : Request).rows
    = ({ yql := "", query := some "\"jazz\"" } : Request).rows := rfl

end Yql.Request
