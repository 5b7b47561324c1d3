import Mathlib.Data.List.Induction
import Yql.Proofs.KeyMap
import Yql.Query.Basic

/-!
# The history of a query

A query is put together by a run of calls, and may be built at any time in
between. What is built in the end depends on very little of the run: lists add
up, of everything else the last one counts, and of the inputs the last one of
each key. The calls of one kind may come in any order with respect to those of
another, and a list may be given in one call or in many.
-/

namespace Yql

/-! ## Rank clauses put together -/

inductive Rank.Addition where
  | one (condition : Condition)
  | many (conditions : List Condition)

/-- How a rank clause is put together: it is collected from conditions, none
for a new one, and more are added. -/
structure Rank.Draft where
  collected : List Condition := []
  additions : List Rank.Addition := []

namespace Rank

def adding (rank : Rank) : Addition → Rank
  | .one condition => rank.add condition
  | .many conditions => rank.addAll conditions

def Addition.conditions : Addition → List Condition
  | .one condition => [condition]
  | .many conditions => conditions

def Draft.rank (draft : Draft) : Rank :=
  draft.additions.foldl adding (ofList draft.collected)

/-- The conditions of a draft, in the order in which they were given. -/
def Draft.conditions (draft : Draft) : List Condition :=
  draft.collected ++ draft.additions.flatMap Addition.conditions

theorem conditions_foldl_adding (rank : Rank) (additions : List Addition) :
    (additions.foldl adding rank).conditions
      = rank.conditions ++ additions.flatMap Addition.conditions := by
  induction additions generalizing rank with
  | nil => simp
  | cons addition rest ih =>
      rw [List.foldl_cons, ih, List.flatMap_cons]
      cases addition <;> simp [adding, Addition.conditions]

/-- It does not matter how the conditions of a clause were given. -/
theorem Draft.conditions_rank (draft : Draft) : draft.rank.conditions = draft.conditions :=
  conditions_foldl_adding _ _

end Rank

namespace Query

/-! ## Runs -/

inductive Setter where
  | fields (names : List String)
  | sources (names : List String)
  | condition (added : Condition)
  | conditions (added : List Condition)
  | rank (draft : Rank.Draft)
  | ranking (profile : String)
  | hits (count : UInt64)
  | offset (count : UInt64)
  | defaultIndex (index : String)
  | input (key : String) (value : Json)
  | text (words : String)

/-- A call on a query: it changes the query or builds something of it. -/
inductive Call where
  | set (setter : Setter)
  | build
  | buildYql

def setting (query : Query) : Setter → Query
  | .fields names => query.returning names
  | .sources names => query.searching names
  | .condition added => query.requiring [added]
  | .conditions added => query.requiring added
  | .rank draft => query.rankedBy draft.rank
  | .ranking profile => query.inProfile profile
  | .hits count => query.limitedTo count
  | .offset count => query.startingAt count
  | .defaultIndex index => query.inIndex index
  | .input key value => query.binding key value
  | .text words => query.asking words

/-- A query with everything that was built of it so far. -/
structure Session where
  query : Query := {}
  requests : List (Except Rejection Request) := []
  texts : List (Except Rejection String) := []

def Session.step (session : Session) : Call → Session
  | .set setter => { session with query := session.query.setting setter }
  | .build => { session with requests := session.requests ++ [session.query.request] }
  | .buildYql => { session with texts := session.texts ++ [session.query.yql] }

/-- The session after a run of calls on a new query. -/
def run (calls : List Call) : Session :=
  calls.foldl Session.step {}

def Call.setter? : Call → Option Setter
  | .set setter => some setter
  | _ => none

/-- Building something leaves the query as it is. -/
theorem query_run (calls : List Call) :
    (run calls).query = (calls.filterMap Call.setter?).foldl setting {} := by
  induction calls using List.reverseRecOn with
  | nil => rfl
  | append_singleton calls call ih =>
      rw [run, List.foldl_append, List.filterMap_append, List.foldl_append, ← ih]
      cases call with
      | set setter => rfl
      | build => rfl
      | buildYql => rfl

/-! ## What a run comes to -/

namespace Setter

def addedFields : Setter → List String
  | fields names => names
  | _ => []

def addedSources : Setter → List String
  | sources names => names
  | _ => []

def addedConditions : Setter → List Condition
  | condition added => [added]
  | conditions added => added
  | _ => []

def rank? : Setter → Option (List Condition)
  | rank draft => some draft.conditions
  | _ => none

def ranking? : Setter → Option String
  | ranking profile => some profile
  | _ => none

def hits? : Setter → Option UInt64
  | hits count => some count
  | _ => none

def offset? : Setter → Option UInt64
  | offset count => some count
  | _ => none

def defaultIndex? : Setter → Option String
  | defaultIndex index => some index
  | _ => none

def input? (key : String) : Setter → Option Json
  | input other value => if key = other then some value else none
  | _ => none

def text? : Setter → Option String
  | text words => some words
  | _ => none

end Setter

def last {α : Type} (set? : Setter → Option α) (setters : List Setter) : Option α :=
  (setters.filterMap set?).getLast?

theorem last_concat {α : Type} (set? : Setter → Option α) (setters : List Setter)
    (setter : Setter) :
    last set? (setters ++ [setter]) = (set? setter).or (last set? setters) := by
  rw [last, last, List.filterMap_append]
  cases h : set? setter <;> simp [h]

/-- What a run of setters comes to, kind by kind. -/
structure Summary where
  fields : List String
  sources : List String
  conditions : List Condition
  rank : Option (List Condition)
  ranking : Option String
  hits : Option UInt64
  offset : Option UInt64
  defaultIndex : Option String
  input : String → Option Json
  text : Option String

def summarized (setters : List Setter) : Summary where
  fields := setters.flatMap Setter.addedFields
  sources := setters.flatMap Setter.addedSources
  conditions := setters.flatMap Setter.addedConditions
  rank := last Setter.rank? setters
  ranking := last Setter.ranking? setters
  hits := last Setter.hits? setters
  offset := last Setter.offset? setters
  defaultIndex := last Setter.defaultIndex? setters
  input := fun key => last (Setter.input? key) setters
  text := last Setter.text? setters

/-- The summary of a run of calls; what was built on the way does not
count. -/
def summary (calls : List Call) : Summary :=
  summarized (calls.filterMap Call.setter?)

/-! ## What one setter does -/

section

variable (query : Query) (setter : Setter)

theorem fields_setting :
    (query.setting setter).fields = query.fields ++ setter.addedFields := by
  cases setter with
  | fields names => rfl
  | _ => exact (List.append_nil _).symm

theorem sources_setting :
    (query.setting setter).sources = query.sources ++ setter.addedSources := by
  cases setter with
  | sources names => rfl
  | _ => exact (List.append_nil _).symm

theorem conditions_setting :
    (query.setting setter).conditions = query.conditions ++ setter.addedConditions := by
  cases setter with
  | condition added => rfl
  | conditions added => rfl
  | _ => exact (List.append_nil _).symm

theorem rank_setting :
    (query.setting setter).rank.map Rank.conditions
      = setter.rank?.or (query.rank.map Rank.conditions) := by
  cases setter with
  | rank draft => exact congrArg some draft.conditions_rank
  | _ => rfl

theorem ranking_setting :
    (query.setting setter).ranking = setter.ranking?.getD query.ranking := by
  cases setter <;> rfl

theorem hits_setting : (query.setting setter).hits = setter.hits?.getD query.hits := by
  cases setter <;> rfl

theorem offset_setting : (query.setting setter).offset = setter.offset?.getD query.offset := by
  cases setter <;> rfl

theorem defaultIndex_setting :
    (query.setting setter).defaultIndex = setter.defaultIndex?.getD query.defaultIndex := by
  cases setter <;> rfl

theorem inputs_setting (key : String) :
    (query.setting setter).inputs.get? key
      = (setter.input? key).or (query.inputs.get? key) := by
  cases setter with
  | input other value =>
      show (query.inputs.insert other value).get? key = _
      rw [KeyMap.get?_insert, Setter.input?]
      by_cases h : key = other
      · simp [h]
      · simp [h]
  | _ => rfl

theorem text_setting : (query.setting setter).text = setter.text?.getD query.text := by
  cases setter <;> rfl

end

/-! ## What a run does -/

/-- A query is what a summary says; what was never set is at its empty
value. -/
structure Follows (query : Query) (summary : Summary) : Prop where
  fields : query.fields = summary.fields
  sources : query.sources = summary.sources
  conditions : query.conditions = summary.conditions
  rank : query.rank.map Rank.conditions = summary.rank
  ranking : query.ranking = summary.ranking.getD ""
  hits : query.hits = summary.hits.getD 0
  offset : query.offset = summary.offset.getD 0
  defaultIndex : query.defaultIndex = summary.defaultIndex.getD ""
  inputs : ∀ key, query.inputs.get? key = summary.input key
  text : query.text = summary.text.getD ""

theorem follows_setting {query : Query} {setters : List Setter}
    (h : query.Follows (summarized setters)) (setter : Setter) :
    (query.setting setter).Follows (summarized (setters ++ [setter])) where
  fields := by rw [fields_setting, h.fields]; simp [summarized]
  sources := by rw [sources_setting, h.sources]; simp [summarized]
  conditions := by rw [conditions_setting, h.conditions]; simp [summarized]
  rank := by rw [rank_setting, h.rank]; simp [summarized, last_concat]
  ranking := by rw [ranking_setting, h.ranking]; simp [summarized, last_concat]
  hits := by rw [hits_setting, h.hits]; simp [summarized, last_concat]
  offset := by rw [offset_setting, h.offset]; simp [summarized, last_concat]
  defaultIndex := by rw [defaultIndex_setting, h.defaultIndex]; simp [summarized, last_concat]
  inputs := by
    intro key
    rw [inputs_setting, h.inputs]
    simp [summarized, last_concat]
  text := by rw [text_setting, h.text]; simp [summarized, last_concat]

theorem follows_foldl_setting (setters : List Setter) :
    (setters.foldl setting {}).Follows (summarized setters) := by
  induction setters using List.reverseRecOn with
  | nil =>
      constructor <;> first | rfl | exact KeyMap.get?_empty
  | append_singleton setters setter ih =>
      rw [List.foldl_append]
      exact follows_setting ih setter

/-- The query of a run is what its summary says. -/
theorem follows_run (calls : List Call) : (run calls).query.Follows (summary calls) := by
  rw [query_run]
  exact follows_foldl_setting _

theorem Follows.unique {first second : Query} {summary : Summary} (h : first.Follows summary)
    (h' : second.Follows summary) : first = second := by
  have hrank : first.rank = second.rank := by
    have hinjective : Function.Injective Rank.conditions := by
      rintro ⟨a⟩ ⟨b⟩ hab
      exact congrArg Rank.mk hab
    apply Option.map_injective hinjective
    rw [h.rank, h'.rank]
  have hinputs : first.inputs = second.inputs := by
    apply KeyMap.ext_get?
    intro key
    rw [h.inputs, h'.inputs]
  -- the fields that are left have one value in both, that of the summary
  cases first
  cases second
  congr
  · exact h.fields.trans h'.fields.symm
  · exact h.sources.trans h'.sources.symm
  · exact h.conditions.trans h'.conditions.symm
  · exact h.ranking.trans h'.ranking.symm
  · exact h.hits.trans h'.hits.symm
  · exact h.offset.trans h'.offset.symm
  · exact h.defaultIndex.trans h'.defaultIndex.symm
  · exact h.text.trans h'.text.symm

/-- The query that follows a summary. Its inputs are those that give every key
the value of the summary. -/
noncomputable def Summary.query (summary : Summary) : Query where
  fields := summary.fields
  sources := summary.sources
  conditions := summary.conditions
  rank := summary.rank.map Rank.mk
  ranking := summary.ranking.getD ""
  hits := summary.hits.getD 0
  offset := summary.offset.getD 0
  defaultIndex := summary.defaultIndex.getD ""
  inputs := Classical.epsilon fun inputs => ∀ key, inputs.get? key = summary.input key
  text := summary.text.getD ""

theorem query_run_eq (calls : List Call) : (run calls).query = (summary calls).query := by
  have h := follows_run calls
  have hinputs : ∃ inputs : KeyMap Json, ∀ key, inputs.get? key = (summary calls).input key :=
    ⟨_, h.inputs⟩
  have hquery : (summary calls).query.Follows (summary calls) :=
    { fields := rfl, sources := rfl, conditions := rfl, ranking := rfl, hits := rfl, offset := rfl,
      defaultIndex := rfl, text := rfl
      rank := by
        show ((summary calls).rank.map Rank.mk).map Rank.conditions = (summary calls).rank
        rw [Option.map_map]
        exact Option.map_id'
      inputs := Classical.epsilon_spec hinputs }
  exact h.unique hquery

/-! ## What is built in the end -/

theorem textIfAny_getD (text : Option String) :
    textIfAny (text.getD "") = text.filter (· ≠ "") := by
  cases text with
  | none => rfl
  | some text => by_cases h : text = "" <;> simp [textIfAny, Option.filter, h]

theorem countIfAny_getD (count : Option UInt64) :
    countIfAny (count.getD 0) = count.filter (· ≠ 0) := by
  cases count with
  | none => rfl
  | some count => by_cases h : count = 0 <;> simp [countIfAny, Option.filter, h]

theorem isSome_inputsIfAny_iff (inputs : KeyMap Json) :
    (inputsIfAny inputs).isSome = true ↔ ∃ key, (inputs.get? key).isSome = true := by
  have hempty := KeyMap.isEmpty_iff inputs
  rw [inputsIfAny]
  split
  · rename_i h
    simp [hempty.mp h]
  · rename_i h
    rw [hempty] at h
    obtain ⟨key, hkey⟩ := Classical.not_forall.mp h
    simpa using ⟨key, Option.isSome_iff_ne_none.mpr hkey⟩

theorem request_eq_ok {query : Query} {request : Request} (h : query.request = .ok request) :
    request.ranking = textIfAny query.ranking ∧ request.hits = countIfAny query.hits
      ∧ request.offset = countIfAny query.offset
      ∧ request.defaultIndex = textIfAny query.defaultIndex
      ∧ request.input = inputsIfAny query.inputs ∧ request.query = textIfAny query.text := by
  rw [Query.request] at h
  cases hyql : query.yql with
  | error rejection =>
      rw [hyql] at h
      exact nomatch h
  | ok yql =>
      rw [hyql] at h
      obtain rfl := Except.ok.inj h
      exact ⟨rfl, rfl, rfl, rfl, rfl, rfl⟩

/-- **A run comes to its summary.** What is built in the end is what would be
built of the summary of the run alone, the same for all runs with the same
summary, whether it is a request or a rejection. A parameter is part of the
request when the last value that was set says something, and the inputs are
when one was set. -/
theorem request_run (calls : List Call) :
    (run calls).query.request = (summary calls).query.request
      ∧ (∀ others, summary others = summary calls →
        (run others).query.request = (run calls).query.request)
      ∧ ∀ request, (run calls).query.request = .ok request →
        request.ranking = (summary calls).ranking.filter (· ≠ "")
          ∧ request.hits = (summary calls).hits.filter (· ≠ 0)
          ∧ request.offset = (summary calls).offset.filter (· ≠ 0)
          ∧ request.defaultIndex = (summary calls).defaultIndex.filter (· ≠ "")
          ∧ request.query = (summary calls).text.filter (· ≠ "")
          ∧ (request.input.isSome = true ↔ ∃ key, ((summary calls).input key).isSome = true)
          ∧ ∀ inputs ∈ request.input, ∀ key, inputs.get? key = (summary calls).input key := by
  refine ⟨by rw [query_run_eq], ?_, ?_⟩
  · intro others h
    rw [query_run_eq, query_run_eq, h]
  · intro request hrequest
    have h := follows_run calls
    obtain ⟨hranking, hhits, hoffset, hindex, hinput, htext⟩ := request_eq_ok hrequest
    rw [h.ranking, textIfAny_getD] at hranking
    rw [h.hits, countIfAny_getD] at hhits
    rw [h.offset, countIfAny_getD] at hoffset
    rw [h.defaultIndex, textIfAny_getD] at hindex
    rw [h.text, textIfAny_getD] at htext
    refine ⟨hranking, hhits, hoffset, hindex, htext, ?_, ?_⟩
    · rw [hinput, isSome_inputsIfAny_iff]
      simp only [h.inputs]
    · intro inputs hsome key
      have hgiven : inputs = (run calls).query.inputs := by
        rw [hinput, inputsIfAny] at hsome
        split at hsome
        · simp at hsome
        · exact (Option.some.inj hsome).symm
      rw [hgiven, h.inputs]

/-- A run that gives everything bit by bit, changes its mind and builds in
between. -/
def bitByBit : List Call :=
  [.buildYql, .set (.hits 5), .set (.input "input.query(b)" .null), .set (.sources ["music"]),
    .set (.rank ⟨[], [.one (.userQuery none), .many [.verbatim "x"]]⟩), .build,
    .set (.text "jazz"), .set (.sources ["books"]), .set (.input "input.query(a)" (.bool true)),
    .set (.hits 0), .set (.input "input.query(b)" (.bool false)), .set (.condition (.verbatim "y"))]

def atOnce : List Call :=
  [.set (.input "input.query(a)" (.bool true)), .set (.input "input.query(b)" (.bool false)),
    .set (.conditions [.verbatim "y"]), .set (.text "jazz"), .set (.hits 0),
    .set (.sources ["music", "books"]), .set (.rank ⟨[.userQuery none, .verbatim "x"], []⟩)]

theorem request_bitByBit : (run bitByBit).query.request = (run atOnce).query.request := by
  apply (request_run atOnce).2.1
  have hinput : (summary bitByBit).input = (summary atOnce).input := by
    funext key
    by_cases ha : key = "input.query(a)"
    · subst ha
      rfl
    · by_cases hb : key = "input.query(b)"
      · subst hb
        rfl
      · -- no setter of either run gives another key
        have hunset : ∀ setter ∈ bitByBit.filterMap Call.setter? ++ atOnce.filterMap Call.setter?,
            setter.input? key = none := by
          simp [bitByBit, atOnce, List.filterMap_cons, Call.setter?, Setter.input?, ha, hb]
        obtain ⟨hbits, honce⟩ := List.forall_mem_append.mp hunset
        simp only [summary, summarized, last, List.filterMap_eq_nil_iff.mpr hbits,
          List.filterMap_eq_nil_iff.mpr honce]
  show Summary.mk _ _ _ _ _ _ _ _ (summary bitByBit).input _ = summary atOnce
  rw [hinput]
  rfl

end Query

end Yql
