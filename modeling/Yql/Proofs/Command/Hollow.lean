import Mathlib.Data.List.Flatten
import Yql.Proofs.Command.Merge

/-!
# Empty texts among the options

A rank entry that is empty leaves no trace, wherever it stands. An empty filter
does: it is put in brackets before anyone could see that it says nothing, and
the brackets stay. So what is built without the empty texts is what is built
with them just when no filter is empty or nothing is built anyway
(`built_withoutEmpty_iff`).
-/

namespace Yql.Command.BuildFlags

open Condition (foldedText group)

variable (flags : BuildFlags) (defaults : Defaults)

def withoutEmptyRank : BuildFlags :=
  { flags with rank := Text.nonEmpty flags.rank }

def withoutEmpty : BuildFlags :=
  { flags with filters := Text.nonEmpty flags.filters, rank := Text.nonEmpty flags.rank }

theorem nonEmpty_nonEmpty (texts : List String) :
    Text.nonEmpty (Text.nonEmpty texts) = Text.nonEmpty texts := by
  simp [Text.nonEmpty]

theorem rankMember_withoutEmpty : flags.withoutEmpty.rankMember = flags.rankMember := by
  rw [rankMember, rankMember, withoutEmpty, nonEmpty_nonEmpty]

/-! ## Empty rank entries -/

theorem built_withoutEmptyRank :
    flags.withoutEmptyRank.built defaults = flags.built defaults := by
  apply built_congr
  · rfl
  · rw [whereMembers_whole, whereMembers_whole]
    exact congrArg (_ ++ ·) flags.rankMember_withoutEmpty
  · rw [whole, whole, base_eq, base_eq]
    rfl

/-! ## Empty filters -/

theorem bare_withoutEmpty :
    (flags.withoutEmpty.whole defaults).bare = (flags.whole defaults).bare := by
  rw [whole, whole, base_eq, base_eq]
  rfl

theorem operands_withoutEmpty_sublist :
    flags.withoutEmpty.operands.Sublist flags.operands :=
  (List.filter_sublist.map group).append_right flags.userOperand

variable {flags}

theorem length_operands_withoutEmpty_lt (h : "" ∈ flags.filters) :
    flags.withoutEmpty.operands.length < flags.operands.length := by
  have hfewer : (Text.nonEmpty flags.filters).length < flags.filters.length :=
    List.length_filter_lt_length_iff_exists.mpr ⟨"", h, by decide⟩
  simp only [operands, List.length_append, List.length_map]
  exact Nat.add_lt_add_right hfewer _

/-- With an empty filter more is combined, and that takes more room. -/
theorem length_foldedText_lt (h : "" ∈ flags.filters) (hne : flags.withoutEmpty.operands ≠ []) :
    (foldedText .and flags.withoutEmpty.operands).toList.length
      < (foldedText .and flags.operands).toList.length := by
  have hmore := flags.operands_ne_nil (List.ne_nil_of_mem h)
  have hlength := Condition.length_foldedText .and hmore
  have hlength' := Condition.length_foldedText .and hne
  have hfewer := length_operands_withoutEmpty_lt h
  have hadditions := (flags.operands_withoutEmpty_sublist.flatMap
    (Condition.addition .and)).length_le
  omega

theorem head?_foldedText (h : flags.filters ≠ []) :
    (foldedText .and flags.operands).toList.head? = some '(' := by
  obtain ⟨first, rest, hfilters⟩ := List.exists_cons_of_ne_nil h
  rw [operands, hfilters, List.map_cons, List.cons_append, foldedText,
    Condition.toList_foldl_bracketed, Condition.toList_group]
  cases (rest.map group ++ flags.userOperand) <;> simp [List.replicate_succ]

/-- With operands, the condition is what they come to and then the rank
clause. -/
theorem toList_conditionText (h : flags.operands ≠ []) :
    flags.conditionText.toList
      = (foldedText .and flags.operands).toList
        ++ flags.rankMember.flatMap fun next => " and ".toList ++ next.toList := by
  rw [conditionText, members, if_neg h, List.singleton_append, if_neg (List.cons_ne_nil _ _),
    Text.toList_joined_cons]

theorem conditionText_withoutEmpty_ne (h : "" ∈ flags.filters) :
    flags.withoutEmpty.conditionText ≠ flags.conditionText := by
  intro heq
  have hfilters := List.ne_nil_of_mem h
  have htext := congrArg String.toList heq
  rw [toList_conditionText (flags.operands_ne_nil hfilters)] at htext
  by_cases hne : flags.withoutEmpty.operands = []
  · -- nothing but the rank clause is left, or not even that
    rw [conditionText, members, if_pos hne, List.nil_append, rankMember_withoutEmpty] at htext
    cases hrank : flags.rankMember with
    | nil =>
        rw [hrank, if_pos rfl] at htext
        have hhead := congrArg List.head? htext
        simp only [List.flatMap_nil, List.append_nil, head?_foldedText hfilters] at hhead
        exact absurd hhead (by decide)
    | cons clause more =>
        rw [hrank, if_neg (List.cons_ne_nil _ _), Text.toList_joined_cons] at htext
        have hlength := congrArg List.length htext
        simp only [List.length_append, List.flatMap_cons] at hlength
        have hjoint : " and ".toList.length = 5 := by decide
        omega
  · rw [toList_conditionText hne, rankMember_withoutEmpty, List.append_cancel_right_eq] at htext
    have hlength := length_foldedText_lt h hne
    rw [htext] at hlength
    exact absurd hlength (Nat.lt_irrefl _)

/-! ## What is built -/

variable (flags)

/-- Options that come to no request come to none without their empty texts,
and for the same reason. -/
theorem built_withoutEmpty_of_no_request
    (h : ∀ request, flags.built defaults ≠ .ok (.ok request)) :
    flags.withoutEmpty.built defaults = flags.built defaults := by
  have hinputs : flags.withoutEmpty.inputs = flags.inputs := rfl
  have hkept {α : Type} (f : Query → α) :
      f (flags.withoutEmpty.whole defaults).bare = f (flags.whole defaults).bare :=
    congrArg f (flags.bare_withoutEmpty defaults)
  rw [built_eq, hinputs, built_eq]
  rw [built_eq] at h
  cases hfirst : Input.firstMalformed? flags.inputs with
  | some raw => rfl
  | none =>
      rw [hfirst] at h
      cases hrejection : (flags.whole defaults).rejection? with
      | none =>
          have hyql := flags.yql_whole defaults hrejection
          exact absurd (congrArg Except.ok (by rw [Query.request, hyql]; rfl)) (h _)
      | some rejection =>
          have hrejection' : (flags.withoutEmpty.whole defaults).rejection? = some rejection :=
            (hkept Query.rejection?).trans hrejection
          show Except.ok (Query.request _) = Except.ok (Query.request _)
          rw [Query.request_of_rejection hrejection, Query.request_of_rejection hrejection']

variable {flags defaults}

theorem built_withoutEmpty_ne (h : "" ∈ flags.filters) {request : Request}
    (hrequest : flags.built defaults = .ok (.ok request)) :
    flags.withoutEmpty.built defaults ≠ flags.built defaults := by
  intro heq
  have hyql := yql_of_built hrequest
  rw [← heq] at hrequest
  have hyql' := yql_of_built hrequest
  have hkept {α : Type} (f : Query → α) :
      f (flags.withoutEmpty.whole defaults).bare = f (flags.whole defaults).bare :=
    congrArg f (flags.bare_withoutEmpty defaults)
  have hselect : (flags.withoutEmpty.whole defaults).selectClause
      = (flags.whole defaults).selectClause := hkept Query.selectClause
  have hfrom : (flags.withoutEmpty.whole defaults).fromClause
      = (flags.whole defaults).fromClause := hkept Query.fromClause
  rw [hyql, hselect, hfrom] at hyql'
  have htexts := congrArg String.toList hyql'
  simp only [String.toList_append, List.append_cancel_left_eq, String.toList_inj] at htexts
  exact conditionText_withoutEmpty_ne h htexts.symm

theorem conditionText_of_silent (hfilters : flags.filters = [])
    (hrank : ∀ entry ∈ flags.rank, entry = "") (huser : flags.userQuery = false) :
    flags.conditionText = "true" := by
  have hoperands : flags.operands = [] := by simp [operands, userOperand, hfilters, huser]
  have hmember : flags.rankMember = [] := by rw [rankMember, Text.nonEmpty_eq_nil_iff.mpr hrank]
  rw [conditionText, members, if_pos hoperands, hmember, List.nil_append, if_pos rfl]

variable (flags defaults)

/-- **Empty texts among the options.** Empty rank entries never change what is
built. Without the empty filters as well the same is built just when no filter
is empty or there is no request to be had. If there are no filters, the rank
entries are all empty and the words of the user are not asked for, every document
fits. -/
theorem built_withoutEmpty_iff :
    flags.withoutEmptyRank.built defaults = flags.built defaults
      ∧ (flags.withoutEmpty.built defaults = flags.built defaults
        ↔ "" ∉ flags.filters ∨ ∀ request, flags.built defaults ≠ .ok (.ok request))
      ∧ (flags.filters = [] → (∀ entry ∈ flags.rank, entry = "") → flags.userQuery = false →
        ∀ query, (flags.merge defaults).query = .ok query → query.rejection? = none →
          query.yql = .ok (query.selectClause ++ " " ++ query.fromClause ++ " where true")) := by
  refine ⟨flags.built_withoutEmptyRank defaults, ⟨?_, ?_⟩, ?_⟩
  · intro heq
    by_contra hnot
    push Not at hnot
    obtain ⟨hempty, request, hrequest⟩ := hnot
    exact built_withoutEmpty_ne hempty hrequest heq
  · rintro (hfilters | hnone)
    · have hkept : Text.nonEmpty flags.filters = flags.filters := by
        apply List.filter_eq_self.mpr
        intro filter hfilter
        apply decide_eq_true
        rintro rfl
        exact hfilters hfilter
      rw [withoutEmpty, hkept]
      exact flags.built_withoutEmptyRank defaults
    · exact flags.built_withoutEmpty_of_no_request defaults hnone
  · intro hfilters hrank huser query hquery hrejection
    obtain rfl := flags.eq_whole_of_merge defaults hquery
    have hword : " where " ++ "true" = " where true" := by decide
    rw [flags.yql_whole defaults hrejection, conditionText_of_silent hfilters hrank huser,
      String.append_assoc, hword]

/-- Options of which every filter and rank entry is empty. -/
def hollow : BuildFlags where
  sources := ["p"]
  filters := [""]
  rank := ["", ""]

theorem built_hollow :
    (∃ request, hollow.built {} = .ok (.ok request)
        ∧ request.yql = "select * from sources p where ()")
      ∧ ∃ request, hollow.withoutEmpty.built {} = .ok (.ok request)
        ∧ request.yql = "select * from sources p where true" := by
  constructor
  · exact ⟨_, rfl, by decide +kernel⟩
  · exact ⟨_, rfl, by decide +kernel⟩

/-- The brackets of an empty filter stay. -/
theorem built_withoutEmpty_hollow_ne : hollow.withoutEmpty.built {} ≠ hollow.built {} := by
  intro heq
  obtain ⟨⟨request, hrequest, hyql⟩, request', hrequest', hyql'⟩ := built_hollow
  rw [heq, hrequest] at hrequest'
  obtain rfl := Except.ok.inj (Except.ok.inj hrequest')
  rw [hyql] at hyql'
  exact absurd hyql' (by decide)

/-- With no filter, or with one that says something, the empty texts leave no
trace. -/
theorem built_withoutEmpty_iff_hollow :
    hollow.withoutEmptyRank.built {} = hollow.built {}
      ∧ ({ hollow with filters := ["a"] } : BuildFlags).withoutEmpty.built {}
        = ({ hollow with filters := ["a"] } : BuildFlags).built {}
      ∧ ∃ query, (({ hollow with filters := [] } : BuildFlags).merge {}).query = .ok query
        ∧ query.yql = .ok "select * from sources p where true" := by
  obtain ⟨hrank, -, -⟩ := built_withoutEmpty_iff hollow {}
  refine ⟨hrank, ?_, _, query_merge_eq_ok _ _ nofun, ?_⟩
  · exact (built_withoutEmpty_iff { hollow with filters := ["a"] } {}).2.1.mpr (.inl (by decide))
  · have hyql := (built_withoutEmpty_iff { hollow with filters := [] } {}).2.2 rfl
      (by simp [hollow]) rfl _ (query_merge_eq_ok _ _ nofun) (by rfl)
    rw [hyql]
    exact congrArg Except.ok (by decide +kernel)

end Yql.Command.BuildFlags
