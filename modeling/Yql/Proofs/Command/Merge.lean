import Yql.Command.Build
import Yql.Proofs.Condition.Operands
import Yql.Proofs.Query.Context
import Yql.Proofs.Query.Refusal

/-!
# Options over defaults

What the options make of the defaults is said here once, field by field: the
query without its inputs (`base_eq`), the inputs as a map, or else the first text
that is no input (`query_merge`), and the members of the query's condition
(`whereMembers_whole`). The condition has no more than two members. One is the
filters, each in brackets, and the words of the user, combined from the left;
the other is the rank clause.
-/

namespace Yql.Command

/-! ## Reading inputs -/

namespace Input

variable {raw : String} {raws : List String}

theorem splitAtEquals_eq_none_iff {chars : List Char} :
    splitAtEquals chars = none ↔ '=' ∉ chars := by
  induction chars with
  | nil => simp [splitAtEquals]
  | cons c rest ih =>
      by_cases hc : c = '='
      · simp [splitAtEquals, hc]
      · simp [splitAtEquals, hc, ih, Ne.symm hc]

theorem splitAtEquals_append {before : List Char} (h : '=' ∉ before) (after : List Char) :
    splitAtEquals (before ++ '=' :: after) = some (before, after) := by
  induction before with
  | nil => rfl
  | cons c before ih =>
      rw [List.mem_cons, not_or] at h
      rw [List.cons_append, splitAtEquals, if_neg (Ne.symm h.1), ih h.2]
      rfl

theorem read?_eq_none_iff : read? raw = none ↔ '=' ∉ raw.toList := by
  rw [read?, Option.map_eq_none_iff, splitAtEquals_eq_none_iff]

def firstMalformed? (raws : List String) : Option String :=
  raws.find? fun raw => (read? raw).isNone

theorem snd_readAll (raws : List String) : (readAll raws).2 = firstMalformed? raws := by
  induction raws with
  | nil => rfl
  | cons raw rest ih =>
      rw [readAll, firstMalformed?, List.find?_cons]
      cases read? raw with
      | none => rfl
      | some input => exact ih

theorem fst_readAll (h : firstMalformed? raws = none) :
    (readAll raws).1 = raws.filterMap read? := by
  induction raws with
  | nil => rfl
  | cons raw rest ih =>
      rw [firstMalformed?, List.find?_cons] at h
      rw [readAll, List.filterMap_cons]
      cases hread : read? raw with
      | none => simp [hread] at h
      | some input =>
          rw [hread] at h
          exact congrArg (input :: ·) (ih h)

theorem firstMalformed?_eq_none_iff :
    firstMalformed? raws = none ↔ ∀ raw ∈ raws, '=' ∈ raw.toList := by
  have hread (raw : String) : (read? raw).isNone = false ↔ '=' ∈ raw.toList := by
    rw [← Bool.not_eq_true, Option.isNone_iff_eq_none, read?_eq_none_iff, Decidable.not_not]
  simp only [firstMalformed?, List.find?_eq_none, Bool.not_eq_true, hread]

end Input

/-! ## The query without its inputs -/

section

variable (query : Query)

theorem applying_rankedBy (rank : Option Rank) :
    applying Query.rankedBy rank query = { query with rank := rank.or query.rank } := by
  cases rank <;> rfl

theorem applying_inProfile (profile : Option String) :
    applying Query.inProfile profile query
      = { query with ranking := profile.getD query.ranking } := by
  cases profile <;> rfl

theorem applying_limitedTo (hits : Option UInt64) :
    applying Query.limitedTo hits query = { query with hits := hits.getD query.hits } := by
  cases hits <;> rfl

theorem applying_startingAt (offset : Option UInt64) :
    applying Query.startingAt offset query
      = { query with offset := offset.getD query.offset } := by
  cases offset <;> rfl

theorem applying_inIndex (index : Option String) :
    applying Query.inIndex index query
      = { query with defaultIndex := index.getD query.defaultIndex } := by
  cases index <;> rfl

theorem applying_asking (text : Option String) :
    applying Query.asking text query = { query with text := text.getD query.text } := by
  cases text <;> rfl

end

namespace BuildFlags

variable (flags : BuildFlags) (defaults : Defaults)

def rankClause : Option Rank :=
  if flags.rank = [] then none else some (Rank.ofList (flags.rank.map Condition.verbatim))

theorem base_eq :
    flags.base defaults =
      { fields := orElse flags.select defaults.select
        sources := orElse flags.sources defaults.sources
        conditions := (Condition.allOf flags.conditions).toList
        rank := flags.rankClause
        ranking := (flags.ranking.or defaults.ranking).getD ""
        hits := (flags.hits.or defaults.hits).getD 0
        offset := flags.offset.getD 0
        defaultIndex := (flags.defaultIndex.or defaults.defaultIndex).getD ""
        text := flags.query.getD "" } := by
  simp only [base, applying_rankedBy, applying_inProfile, applying_limitedTo, applying_startingAt,
    applying_inIndex, applying_asking, Query.returning, Query.searching, Query.requiring,
    List.nil_append, Option.or_none, rankClause]

/-! ## The inputs -/

/-- The inputs of the options as a map; of inputs with the same key the last
counts. -/
def inputMap : KeyMap Json :=
  KeyMap.ofList ((flags.inputs.filterMap Input.read?).map fun input => (input.key, input.value))

def binding (query : Query) (input : Input) : Query :=
  query.binding input.key input.value

theorem foldl_binding (inputs : List Input) (query : Query) :
    inputs.foldl binding query
      = { query with
          inputs := inputs.foldl (fun map input => map.insert input.key input.value)
            query.inputs } := by
  induction inputs generalizing query with
  | nil => rfl
  | cons input rest ih => exact ih _

def whole : Query :=
  { flags.base defaults with inputs := flags.inputMap }

theorem query_merge :
    (flags.merge defaults).query =
      match Input.firstMalformed? flags.inputs with
      | some raw => .error raw
      | none => .ok (flags.whole defaults) := by
  show (match (Input.readAll flags.inputs).2 with
    | some raw => Except.error raw
    | none => .ok ((Input.readAll flags.inputs).1.foldl binding (flags.base defaults))) = _
  rw [Input.snd_readAll]
  cases hfirst : Input.firstMalformed? flags.inputs with
  | some raw => rfl
  | none =>
      have hinputs : (flags.base defaults).inputs = {} := by rw [base_eq]
      show Except.ok _ = Except.ok _
      rw [Input.fst_readAll hfirst, foldl_binding, hinputs, whole, inputMap, KeyMap.ofList,
        List.foldl_map]

theorem query_merge_eq_ok (h : ∀ raw ∈ flags.inputs, '=' ∈ raw.toList) :
    (flags.merge defaults).query = .ok (flags.whole defaults) := by
  rw [query_merge, Input.firstMalformed?_eq_none_iff.mpr h]

theorem eq_whole_of_merge {query : Query} (h : (flags.merge defaults).query = .ok query) :
    query = flags.whole defaults := by
  rw [query_merge] at h
  split at h
  · exact nomatch h
  · exact (Except.ok.inj h).symm

/-- What is built of the options over the defaults: a request or a rejection,
or else nothing but the first text that is no input. -/
def built : Except String (Except Rejection Request) :=
  (flags.merge defaults).query.map Query.request

theorem built_eq :
    flags.built defaults =
      match Input.firstMalformed? flags.inputs with
      | some raw => .error raw
      | none => .ok (flags.whole defaults).request := by
  rw [built, query_merge]
  cases Input.firstMalformed? flags.inputs <;> rfl

/-! ## The members of the condition -/

def userOperand : List String :=
  if flags.userQuery then ["userQuery()"] else []

def operands : List String :=
  flags.filters.map Condition.group ++ flags.userOperand

/-- The rank clause as it is written, if one of its entries says something. -/
def rankMember : List String :=
  match Text.nonEmpty flags.rank with
  | [] => []
  | entries => ["rank(" ++ Text.joined ", " entries ++ ")"]

theorem ne_empty_of_mem_operands {text : String} (h : text ∈ flags.operands) : text ≠ "" := by
  rcases List.mem_append.mp h with h | h
  · obtain ⟨filter, -, rfl⟩ := List.mem_map.mp h
    simp [← String.toList_eq_nil_iff, Condition.toList_group]
  · rw [userOperand] at h
    split at h
    · rw [List.mem_singleton.mp h]
      decide
    · exact absurd h List.not_mem_nil

theorem operands_ne_nil (h : flags.filters ≠ []) : flags.operands ≠ [] := by
  simp [operands, h]

theorem map_yql_conditions : flags.conditions.map Condition.yql = flags.operands := by
  rw [conditions, operands, userOperand, List.map_append, List.map_map]
  cases flags.userQuery <;> rfl

theorem nonEmpty_operands : Text.nonEmpty flags.operands = flags.operands :=
  List.filter_eq_self.mpr fun _ h => decide_eq_true (flags.ne_empty_of_mem_operands h)

theorem nonEmpty_allOf :
    Text.nonEmpty ((Condition.allOf flags.conditions).toList.map Condition.yql)
      = if flags.operands = [] then [] else [Condition.foldedText .and flags.operands] := by
  have htext := Condition.map_yql_combineAll .and flags.conditions
  have hnil : flags.conditions = [] ↔ flags.operands = [] := by
    rw [← map_yql_conditions, List.map_eq_nil_iff]
  rw [map_yql_conditions, nonEmpty_operands] at htext
  rw [← Option.toList_map, Condition.allOf, htext]
  simp only [hnil]
  split
  · rfl
  · rename_i hne
    have htext := Condition.foldedText_ne_empty .and (fun _ => flags.ne_empty_of_mem_operands) hne
    simp [Text.nonEmpty, htext]

theorem nonEmpty_rankClause :
    Text.nonEmpty (flags.rankClause.toList.map Rank.yql) = flags.rankMember := by
  rw [rankClause, rankMember]
  split
  · rename_i h
    rw [h]
    rfl
  · have htexts : (Rank.ofList (flags.rank.map Condition.verbatim)).conditions.map Condition.yql
        = flags.rank := by
      rw [Rank.conditions_ofList, List.map_map]
      exact List.map_id flags.rank
    show Text.nonEmpty [Rank.yql _] = _
    rw [Rank.yql, htexts]
    cases Text.nonEmpty flags.rank with
    | nil => rfl
    | cons entry rest => simp [Text.nonEmpty, ← String.toList_eq_nil_iff]

/-- The members of the condition, by the options alone. -/
def members : List String :=
  (if flags.operands = [] then [] else [Condition.foldedText .and flags.operands])
    ++ flags.rankMember

/-- What stands behind the word "where". -/
def conditionText : String :=
  if flags.members = [] then "true" else Text.joined " and " flags.members

theorem whereMembers_whole : (flags.whole defaults).whereMembers = flags.members := by
  rw [whole, base_eq]
  exact congrArg₂ (· ++ ·) flags.nonEmpty_allOf flags.nonEmpty_rankClause

theorem yql_whole (hrejection : (flags.whole defaults).rejection? = none) :
    (flags.whole defaults).yql = .ok ((flags.whole defaults).selectClause ++ " "
      ++ (flags.whole defaults).fromClause ++ " where " ++ flags.conditionText) := by
  rw [Query.yql_eq_ok hrejection, Query.whereClause, whereMembers_whole, conditionText]

section

variable {flags defaults} {request : Request}

theorem request_of_built (h : flags.built defaults = .ok (.ok request)) :
    (flags.whole defaults).request = .ok request := by
  rw [built_eq] at h
  split at h
  · exact nomatch h
  · exact Except.ok.inj h

theorem yql_of_built (h : flags.built defaults = .ok (.ok request)) :
    request.yql = (flags.whole defaults).selectClause ++ " "
      ++ (flags.whole defaults).fromClause ++ " where " ++ flags.conditionText := by
  have hyql := Query.map_yql_request (flags.whole defaults)
  have hrejection := Query.rejection?_eq_none_of_request (request_of_built h)
  rw [request_of_built h, flags.yql_whole defaults hrejection] at hyql
  exact Except.ok.inj hyql

end

/-- Options with the same inputs are built alike if their queries are the same
but for the way in which the members of the condition come about. -/
theorem built_congr {a b : BuildFlags} (hinputs : a.inputs = b.inputs)
    (hmembers : (a.whole defaults).whereMembers = (b.whole defaults).whereMembers)
    (hbare : (a.whole defaults).bare = (b.whole defaults).bare) :
    a.built defaults = b.built defaults := by
  rw [built, built, query_merge, query_merge, hinputs]
  cases Input.firstMalformed? b.inputs with
  | some raw => rfl
  | none => exact congrArg Except.ok (Query.request_congr hmembers hbare)

end BuildFlags

end Yql.Command
