import Yql.Proofs.Query.History
import Yql.Proofs.Text.ByteOrder

/-!
# Why a run is refused

Sources and keys that a run has given stay given, whatever calls follow. A run
is refused for want of sources just when it gave none, and otherwise for a key
just when it ever gave one that names no query input; of these the first in the
order of bytes is named, however the keys came in. Going on with the run mends
the want of sources for good and a misnamed key never: what is named can only
become a smaller key.
-/

namespace Yql.Query

/-! ## What a query is refused for -/

theorem yql_eq_error_iff {query : Query} {rejection : Rejection} :
    query.yql = .error rejection ↔ query.rejection? = some rejection := by
  rw [yql]
  cases query.rejection? with
  | none => simp
  | some other => simp

theorem request_of_rejection {query : Query} {rejection : Rejection}
    (h : query.rejection? = some rejection) : query.request = .error rejection := by
  rw [request, yql_eq_error_iff.mpr h]
  rfl

theorem rejection?_eq_none_of_request {query : Query} {request : Request}
    (h : query.request = .ok request) : query.rejection? = none := by
  apply Option.eq_none_iff_forall_ne_some.mpr
  intro rejection hrejection
  rw [request_of_rejection hrejection] at h
  cases h

theorem map_yql_request (query : Query) : query.request.map Request.yql = query.yql := by
  rw [request]
  cases query.yql <;> rfl

theorem field_malformedKey_ne (key : String) :
    (Rejection.malformedKey key inputKeyStart).field ≠ "sources" := by
  show "input" ≠ "sources"
  decide

theorem rejection?_of_sources_eq_nil {query : Query} (h : query.sources = []) :
    query.rejection? = some .missingSources :=
  if_pos h

theorem rejection?_of_sources_ne_nil {query : Query} (h : query.sources ≠ []) :
    query.rejection?
      = (query.inputs.keys.find? fun key => !isInputKey key).map fun key =>
        .malformedKey key inputKeyStart :=
  if_neg h

/-! ## What stays given -/

def Setter.key? : Setter → Option String
  | input key _ => some key
  | _ => none

def givenKeys (calls : List Call) : List String :=
  (calls.filterMap Call.setter?).filterMap Setter.key?

theorem givenKeys_append (calls more : List Call) :
    givenKeys (calls ++ more) = givenKeys calls ++ givenKeys more := by
  simp [givenKeys]

theorem mem_keys_setting (query : Query) (setter : Setter) (key : String) :
    key ∈ (query.setting setter).inputs.keys
      ↔ setter.key? = some key ∨ key ∈ query.inputs.keys := by
  cases setter with
  | input other value =>
      show key ∈ (query.inputs.insert other value).keys ↔ _
      rw [KeyMap.mem_keys_insert, Setter.key?, Option.some.injEq, eq_comm]
  | _ => exact (or_iff_right (nomatch ·)).symm

theorem mem_keys_run (calls : List Call) (key : String) :
    key ∈ (run calls).query.inputs.keys ↔ key ∈ givenKeys calls := by
  rw [query_run, givenKeys]
  induction calls.filterMap Call.setter? using List.reverseRecOn with
  | nil => exact Iff.rfl
  | append_singleton setters setter ih =>
      have hlast : key ∈ [setter].filterMap Setter.key? ↔ setter.key? = some key := by
        cases h : setter.key? <;> simp [h, eq_comm]
      rw [List.foldl_append, List.filterMap_append, List.mem_append, hlast, or_comm, ← ih]
      exact mem_keys_setting _ setter key

theorem sources_run (calls : List Call) :
    (run calls).query.sources = (summary calls).sources :=
  (follows_run calls).sources

theorem sources_summary_append (calls more : List Call) :
    (summary (calls ++ more)).sources = (summary calls).sources ++ (summary more).sources := by
  simp [summary, summarized]

/-! ## Misnamed keys -/

/-- A key that the run has given and that names no query input. -/
def Misnamed (calls : List Call) (key : String) : Prop :=
  key ∈ givenKeys calls ∧ isInputKey key = false

/-- The first misnamed key of the run in the order of bytes. -/
structure FirstMisnamed (calls : List Call) (key : String) : Prop where
  misnamed : Misnamed calls key
  least : ∀ other, Misnamed calls other → Text.bytes key ≤ Text.bytes other

theorem Misnamed.append {calls : List Call} {key : String} (h : Misnamed calls key)
    (more : List Call) : Misnamed (calls ++ more) key :=
  ⟨by rw [givenKeys_append]; exact List.mem_append_left _ h.1, h.2⟩

theorem firstMisnamed_of_find? {calls : List Call} {key : String}
    (h : (run calls).query.inputs.keys.find? (fun key => !isInputKey key) = some key) :
    FirstMisnamed calls key where
  misnamed := by
    have hmem := List.mem_of_find?_eq_some h
    exact ⟨(mem_keys_run calls key).mp hmem, by simpa using List.find?_some h⟩
  least := by
    rintro other ⟨hmem, hother⟩
    rw [Text.bytes_le_iff]
    exact KeyMap.le_of_find?_keys h ((mem_keys_run calls other).mpr hmem) (by simp [hother])

theorem exists_find?_of_misnamed {calls : List Call} {key : String} (h : Misnamed calls key) :
    ∃ first, (run calls).query.inputs.keys.find? (fun key => !isInputKey key) = some first := by
  rw [← Option.isSome_iff_exists, List.find?_isSome]
  exact ⟨key, (mem_keys_run calls key).mpr h.1, by simp [h.2]⟩

/-! ## What a run is refused for -/

theorem yql_run_of_no_sources {calls : List Call} (h : (summary calls).sources = []) :
    (run calls).query.yql = .error .missingSources := by
  rw [yql_eq_error_iff]
  apply rejection?_of_sources_eq_nil
  rw [sources_run, h]

/-- With a source, a misnamed key is what the run is refused for. -/
theorem yql_run_of_misnamed {calls : List Call} (hsources : (summary calls).sources ≠ [])
    {key : String} (h : Misnamed calls key) :
    ∃ first, FirstMisnamed calls first
      ∧ (run calls).query.yql = .error (.malformedKey first inputKeyStart) := by
  obtain ⟨first, hfirst⟩ := exists_find?_of_misnamed h
  refine ⟨first, firstMisnamed_of_find? hfirst, ?_⟩
  rw [← sources_run] at hsources
  rw [yql_eq_error_iff, rejection?_of_sources_ne_nil hsources, hfirst]
  rfl

/-- With a source, nothing but a misnamed key is what the run is refused for. -/
theorem firstMisnamed_of_yql_run {calls : List Call} (hsources : (summary calls).sources ≠ [])
    {rejection : Rejection} (h : (run calls).query.yql = .error rejection) :
    ∃ key, FirstMisnamed calls key ∧ rejection = .malformedKey key inputKeyStart := by
  rw [← sources_run] at hsources
  rw [yql_eq_error_iff, rejection?_of_sources_ne_nil hsources] at h
  obtain ⟨key, hkey, rfl⟩ := Option.map_eq_some_iff.mp h
  exact ⟨key, firstMisnamed_of_find? hkey, rfl⟩

theorem refused_for_sources_iff {calls : List Call} :
    (∃ rejection, (run calls).query.yql = .error rejection ∧ rejection.field = "sources")
      ↔ (summary calls).sources = [] := by
  constructor
  · rintro ⟨rejection, h, hfield⟩
    by_contra hsources
    obtain ⟨key, -, rfl⟩ := firstMisnamed_of_yql_run hsources h
    exact field_malformedKey_ne key hfield
  · intro h
    exact ⟨.missingSources, yql_run_of_no_sources h, rfl⟩

theorem refused_for_input_iff {calls : List Call} (hsources : (summary calls).sources ≠ []) :
    (∃ rejection, (run calls).query.yql = .error rejection ∧ rejection.field = "input")
      ↔ ∃ key, Misnamed calls key := by
  constructor
  · rintro ⟨rejection, h, -⟩
    obtain ⟨key, hfirst, -⟩ := firstMisnamed_of_yql_run hsources h
    exact ⟨key, hfirst.misnamed⟩
  · rintro ⟨key, h⟩
    obtain ⟨first, -, hyql⟩ := yql_run_of_misnamed hsources h
    exact ⟨_, hyql, rfl⟩

theorem named_of_refused {calls : List Call} (hsources : (summary calls).sources ≠ [])
    {rejection : Rejection} (h : (run calls).query.yql = .error rejection) :
    ∃ key, FirstMisnamed calls key ∧ rejection.field = "input"
      ∧ rejection.reason
        = "input parameter key '" ++ key ++ "' should start with '" ++ inputKeyStart ++ "'" := by
  obtain ⟨key, hfirst, rfl⟩ := firstMisnamed_of_yql_run hsources h
  exact ⟨key, hfirst, rfl, rfl⟩

/-! ## How a run goes on -/

theorem sources_summary_append_ne_nil {calls : List Call} (h : (summary calls).sources ≠ [])
    (more : List Call) : (summary (calls ++ more)).sources ≠ [] := by
  rw [sources_summary_append]
  exact List.append_ne_nil_of_left_ne_nil h _

theorem refused_append {calls : List Call} {key : String} (h : Misnamed calls key)
    (more : List Call) : ∃ rejection, (run (calls ++ more)).query.yql = .error rejection := by
  by_cases hsources : (summary (calls ++ more)).sources = []
  · exact ⟨_, yql_run_of_no_sources hsources⟩
  · obtain ⟨first, -, hyql⟩ := yql_run_of_misnamed hsources (h.append more)
    exact ⟨_, hyql⟩

theorem named_append_le {calls : List Call} {key : String}
    (h : (run calls).query.yql = .error (.malformedKey key inputKeyStart)) (more : List Call) :
    ∃ first, (run (calls ++ more)).query.yql = .error (.malformedKey first inputKeyStart)
      ∧ Text.bytes first ≤ Text.bytes key := by
  have hsources : (summary calls).sources ≠ [] := by
    intro hnone
    rw [yql_run_of_no_sources hnone] at h
    exact nomatch h
  obtain ⟨_, hkey, heq⟩ := firstMisnamed_of_yql_run hsources h
  obtain ⟨rfl, -⟩ := Rejection.malformedKey.inj heq
  have hstays := hkey.misnamed.append more
  obtain ⟨first, hfirst, hyql⟩ :=
    yql_run_of_misnamed (sources_summary_append_ne_nil hsources more) hstays
  exact ⟨first, hyql, hfirst.least key hstays⟩

theorem field_ne_sources_append {calls : List Call} (hsources : (summary calls).sources ≠ [])
    (more : List Call) {rejection : Rejection}
    (h : (run (calls ++ more)).query.yql = .error rejection) : rejection.field ≠ "sources" := by
  obtain ⟨key, -, rfl⟩ :=
    firstMisnamed_of_yql_run (sources_summary_append_ne_nil hsources more) h
  exact field_malformedKey_ne key

/-- **Why a run is refused.** The text and the request are refused together, and
the request holds the text. A run is refused for its sources just when it gave
none, and else for its inputs just when it gave a misnamed key; the message
names the first of these. However the run goes on, a misnamed key has it
refused, the key that is named does not become larger, and sources once given
are not missed. -/
theorem refusal_run (calls : List Call) :
    (run calls).query.request.map Request.yql = (run calls).query.yql
      ∧ ((∃ rejection, (run calls).query.yql = .error rejection ∧ rejection.field = "sources")
        ↔ (summary calls).sources = [])
      ∧ ((summary calls).sources ≠ [] →
        ((∃ rejection, (run calls).query.yql = .error rejection ∧ rejection.field = "input")
            ↔ ∃ key, Misnamed calls key)
          ∧ ∀ rejection, (run calls).query.yql = .error rejection →
            ∃ key, FirstMisnamed calls key ∧ rejection.field = "input"
              ∧ rejection.reason
                = "input parameter key '" ++ key ++ "' should start with '" ++ inputKeyStart ++ "'")
      ∧ ∀ more,
        ((∃ key, Misnamed calls key) →
            ∃ rejection, (run (calls ++ more)).query.yql = .error rejection)
          ∧ (∀ key, (run calls).query.yql = .error (.malformedKey key inputKeyStart) →
            ∃ first, (run (calls ++ more)).query.yql = .error (.malformedKey first inputKeyStart)
              ∧ Text.bytes first ≤ Text.bytes key)
          ∧ ((summary calls).sources ≠ [] →
            ∀ rejection, (run (calls ++ more)).query.yql = .error rejection →
              rejection.field ≠ "sources") := by
  refine ⟨map_yql_request _, refused_for_sources_iff, ?_, ?_⟩
  · intro hsources
    refine ⟨refused_for_input_iff hsources, ?_⟩
    intro rejection h
    exact named_of_refused hsources h
  · intro more
    refine ⟨?_, ?_, ?_⟩
    · rintro ⟨key, h⟩
      exact refused_append h more
    · intro key h
      exact named_append_le h more
    · intro hsources rejection h
      exact field_ne_sources_append hsources more h

/-- A run that gives a misnamed key before its source, and gives it twice. -/
def hasty : List Call :=
  [.set (.input "zeta" .null), .buildYql, .set (.input "input.query(a)" .null),
    .set (.sources ["music"]), .build, .set (.input "zeta" (.bool true))]

def afterthought : List Call :=
  [.set (.input "alpha" .null), .set (.sources []), .build]

theorem refusal_run_hasty :
    (∃ key, FirstMisnamed hasty key)
      ∧ (∃ first,
        (run (hasty ++ afterthought)).query.yql = .error (.malformedKey first inputKeyStart)
          ∧ Text.bytes first ≤ Text.bytes "zeta")
      ∧ ∃ rejection, (run (hasty ++ afterthought)).query.yql = .error rejection
        ∧ rejection.field ≠ "sources" := by
  have hsources : (summary hasty).sources ≠ [] := by decide
  have hmisnamed : Misnamed hasty "zeta" := by
    constructor
    · decide
    · decide
  have hyql : (run hasty).query.yql = .error (.malformedKey "zeta" inputKeyStart) := by rfl
  obtain ⟨-, -, hnamed, hmore⟩ := refusal_run hasty
  obtain ⟨key, hkey, -, -⟩ := (hnamed hsources).2 _ hyql
  obtain ⟨hrefused, hsmaller, hgiven⟩ := hmore afterthought
  obtain ⟨rejection, hrejection⟩ := hrefused ⟨_, hmisnamed⟩
  exact ⟨⟨key, hkey⟩, hsmaller _ hyql, rejection, hrejection,
    hgiven hsources rejection hrejection⟩

end Yql.Query
