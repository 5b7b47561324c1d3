import Yql.Proofs.Command.Merge

/-!
# Defaults fill gaps

A setting that the options give is theirs, even when it takes something back,
and every other setting is that of the defaults. So the defaults could as well
have been given among the options, and a default can be told from what is built
only where the options leave a gap. Everything that no default speaks of is
settled by the options alone.
-/

namespace Yql.Command.BuildFlags

variable (flags : BuildFlags) (defaults : Defaults)

def completed : BuildFlags :=
  { flags with
    select := if flags.select = [] then defaults.select else flags.select
    sources := if flags.sources = [] then defaults.sources else flags.sources
    ranking := if flags.ranking = none then defaults.ranking else flags.ranking
    hits := if flags.hits = none then defaults.hits else flags.hits
    defaultIndex :=
      if flags.defaultIndex = none then defaults.defaultIndex else flags.defaultIndex }

/-- The defaults say the same about every setting that the options leave
open. -/
structure AgreeOnGaps (a b : Defaults) : Prop where
  select : flags.select = [] → a.select = b.select
  sources : flags.sources = [] → a.sources = b.sources
  ranking : flags.ranking = none → a.ranking = b.ranking
  hits : flags.hits = none → a.hits = b.hits
  defaultIndex : flags.defaultIndex = none → a.defaultIndex = b.defaultIndex

theorem ite_congr_of_imp {α : Type} {gap : Prop} [Decidable gap] {x y : α} (h : gap → x = y)
    (given : α) : (if gap then x else given) = if gap then y else given :=
  ite_congr rfl h fun _ => rfl

variable {flags} in
theorem AgreeOnGaps.completed_eq {a b : Defaults} (h : flags.AgreeOnGaps a b) :
    flags.completed a = flags.completed b := by
  unfold completed
  rw [ite_congr_of_imp h.select, ite_congr_of_imp h.sources, ite_congr_of_imp h.ranking,
    ite_congr_of_imp h.hits, ite_congr_of_imp h.defaultIndex]

/-! ## Built of the options alone -/

theorem orElse_nil (given : List String) : orElse given [] = given := by
  unfold orElse
  split
  · rename_i h
    exact h.symm
  · rfl

theorem or_eq_ite {α : Type} [DecidableEq α] (given default : Option α) :
    given.or default = if given = none then default else given := by
  cases given with
  | none => rfl
  | some value => rfl

/-- With the gaps filled the options come to the same query over no defaults. -/
theorem base_completed : (flags.completed defaults).base {} = flags.base defaults := by
  rw [base_eq, base_eq, or_eq_ite flags.ranking, or_eq_ite flags.hits,
    or_eq_ite flags.defaultIndex, orElse_nil, orElse_nil, Option.or_none, Option.or_none,
    Option.or_none]
  rfl

theorem built_completed : (flags.completed defaults).built {} = flags.built defaults := by
  rw [built_eq, built_eq, whole, whole, base_completed]
  rfl

variable {flags defaults}

theorem built_eq_of_agree {a b : Defaults} (h : flags.AgreeOnGaps a b) :
    flags.built a = flags.built b := by
  rw [← built_completed flags a, h.completed_eq, built_completed]

/-- What is wrong with an input is wrong over all defaults. -/
theorem built_eq_error {raw : String} (h : flags.built defaults = .error raw)
    (other : Defaults) : flags.built other = .error raw := by
  rw [built_eq] at h ⊢
  cases hfirst : Input.firstMalformed? flags.inputs with
  | none =>
      rw [hfirst] at h
      exact nomatch h
  | some first =>
      rw [hfirst] at h
      exact h

/-! ## The parameters of the request -/

variable {request : Request} (h : flags.built defaults = .ok (.ok request))

include h

theorem given_of_built :
    (∀ profile, flags.ranking = some profile → request.ranking = Query.textIfAny profile)
      ∧ (∀ hits, flags.hits = some hits → request.hits = Query.countIfAny hits)
      ∧ ∀ index, flags.defaultIndex = some index →
        request.defaultIndex = Query.textIfAny index := by
  obtain ⟨hranking, hhits, -, hindex, -⟩ := Query.request_eq_ok (request_of_built h)
  rw [whole, base_eq] at hranking hhits hindex
  refine ⟨?_, ?_, ?_⟩
  · intro profile hgiven
    rw [hranking, hgiven]
    rfl
  · intro hits hgiven
    rw [hhits, hgiven]
    rfl
  · intro index hgiven
    rw [hindex, hgiven]
    rfl

theorem settled_of_built :
    request.offset = Query.countIfAny (flags.offset.getD 0)
      ∧ request.query = Query.textIfAny (flags.query.getD "")
      ∧ request.input = Query.inputsIfAny flags.inputMap := by
  obtain ⟨-, -, hoffset, -, hinput, htext⟩ := Query.request_eq_ok (request_of_built h)
  rw [whole, base_eq] at hoffset hinput htext
  exact ⟨hoffset, htext, hinput⟩

/-- The fields and the sources may be those of the defaults; the condition
behind them is not. -/
theorem yql_of_built_completed :
    request.yql
      = Query.selectClause { fields := (flags.completed defaults).select } ++ " "
        ++ Query.fromClause { sources := (flags.completed defaults).sources }
        ++ " where " ++ flags.conditionText := by
  rw [yql_of_built h, whole, base_eq]
  rfl

omit h

/-- **Defaults fill gaps and nothing else.** What is built over defaults is what
is built over none once the gaps of the options are filled, so defaults that say
the same about every gap come to the same. A setting that is given hides its
default, and one that takes something back leaves the parameter out. The inputs
that are malformed, the condition, the offset, the words of the user and the
inputs of a request are the same over all defaults. -/
theorem defaults_fill_gaps (flags : BuildFlags) :
    (∀ defaults, flags.built defaults = (flags.completed defaults).built {})
      ∧ (∀ a b, flags.AgreeOnGaps a b → flags.built a = flags.built b)
      ∧ (∀ defaults request, flags.built defaults = .ok (.ok request) →
        (∀ profile, flags.ranking = some profile →
            request.ranking = if profile = "" then none else some profile)
          ∧ (∀ hits, flags.hits = some hits →
            request.hits = if hits = 0 then none else some hits)
          ∧ ∀ index, flags.defaultIndex = some index →
            request.defaultIndex = if index = "" then none else some index)
      ∧ (∀ a b raw, flags.built a = .error raw → flags.built b = .error raw)
      ∧ ∃ condition offset text inputs, ∀ defaults request,
        flags.built defaults = .ok (.ok request) →
          request.yql
              = Query.selectClause { fields := (flags.completed defaults).select } ++ " "
                ++ Query.fromClause { sources := (flags.completed defaults).sources }
                ++ " where " ++ condition
            ∧ request.offset = offset ∧ request.query = text ∧ request.input = inputs := by
  refine ⟨?_, ?_, ?_, ?_, ?_⟩
  · intro defaults
    exact (flags.built_completed defaults).symm
  · intro a b hagree
    exact built_eq_of_agree hagree
  · intro defaults request hrequest
    exact given_of_built hrequest
  · intro a b raw herror
    exact built_eq_error herror b
  · refine ⟨flags.conditionText, Query.countIfAny (flags.offset.getD 0),
      Query.textIfAny (flags.query.getD ""), Query.inputsIfAny flags.inputMap, ?_⟩
    intro defaults request hrequest
    exact ⟨yql_of_built_completed hrequest, settled_of_built hrequest⟩

/-- Options that take back three defaults and replace a fourth. -/
def insistent : BuildFlags where
  select := ["id"]
  filters := ["a = 1"]
  ranking := some ""
  hits := some 0
  defaultIndex := some ""
  offset := some 3

/-- Defaults that speak of everything. -/
def talkative : Defaults where
  sources := ["docs"]
  select := ["title", "price"]
  hits := some 25
  ranking := some "bm25"
  defaultIndex := some "title"

theorem agreeOnGaps_insistent : insistent.AgreeOnGaps talkative { sources := ["docs"] } where
  select := nofun
  sources := fun _ => rfl
  ranking := nofun
  hits := nofun
  defaultIndex := nofun

theorem defaults_fill_gaps_insistent :
    insistent.built talkative = insistent.built { sources := ["docs"] }
      ∧ (∃ request, insistent.built talkative = .ok (.ok request)
        ∧ request.yql = "select id from sources docs where (a = 1)" ∧ request.ranking = none
        ∧ request.hits = none ∧ request.defaultIndex = none)
      ∧ ({ insistent with inputs := ["q"] } : BuildFlags).built talkative = .error "q" := by
  obtain ⟨-, hagree, hgiven, -⟩ := defaults_fill_gaps insistent
  obtain ⟨-, -, -, herror, -⟩ := defaults_fill_gaps { insistent with inputs := ["q"] }
  refine ⟨hagree _ _ agreeOnGaps_insistent, ⟨_, rfl, by decide +kernel, ?_, ?_, ?_⟩, ?_⟩
  · exact (hgiven talkative _ rfl).1 "" rfl
  · exact (hgiven talkative _ rfl).2.1 0 rfl
  · exact (hgiven talkative _ rfl).2.2 "" rfl
  · exact herror {} _ _ rfl

end Yql.Command.BuildFlags
