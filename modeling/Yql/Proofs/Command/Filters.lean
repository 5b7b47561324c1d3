import Yql.Proofs.Command.Merge

/-!
# Filters from the command line

Every filter is one operand of the condition, whatever it holds. The brackets
that are put around a filter stay together in the finished condition if all
filters are balanced, so no operator of a filter takes part in what joins the
filters, and the filters can be told from the condition (`filters_apart`).

How many brackets are open says less. An operator of a filter further right can
have as many open brackets before it as a joining word further left
(`alternatives_as_deep`); the two are parted by the bracket that was closed in
between.
-/

namespace Yql.Command.BuildFlags

open Condition (foldedText group joint Enclosed)
open Text (Brackets)

variable (flags : BuildFlags) (defaults : Defaults)

def BalancedFilters (brackets : Brackets) : Prop :=
  ∀ filter ∈ flags.filters, brackets.Balanced filter.toList

variable {flags}

theorem operands_split {before after : List String} {filter : String}
    (h : flags.filters = before ++ filter :: after) :
    flags.operands
      = before.map group ++ group filter :: (after.map group ++ flags.userOperand) := by
  simp [operands, h]

theorem balanced_operands {brackets : Brackets} (h : flags.BalancedFilters brackets) :
    ∀ operand ∈ flags.operands, brackets.Balanced operand.toList := by
  intro operand hoperand
  rcases List.mem_append.mp hoperand with hmem | hmem
  · obtain ⟨filter, hfilter, rfl⟩ := List.mem_map.mp hmem
    exact Condition.balanced_group (h filter hfilter)
  · rw [userOperand] at hmem
    split at hmem
    · rw [List.mem_singleton.mp hmem]
      rfl
    · exact absurd hmem List.not_mem_nil

section

variable (hfilters : flags.filters ≠ []) (hrank : flags.rank = [])

include hfilters hrank

theorem members_eq_singleton : flags.members = [foldedText .and flags.operands] := by
  rw [members, if_neg (flags.operands_ne_nil hfilters), rankMember, hrank]
  rfl

theorem whereClause_whole :
    (flags.whole defaults).whereClause = foldedText .and flags.operands := by
  rw [Query.whereClause, whereMembers_whole, members_eq_singleton hfilters hrank,
    Text.joined_singleton]

theorem yql_whole_of_filters (hsources : orElse flags.sources defaults.sources ≠ [])
    (hkeys : ∀ key ∈ (flags.whole defaults).inputs.keys, Query.isInputKey key = true) :
    (flags.whole defaults).yql = .ok ((flags.whole defaults).selectClause ++ " "
      ++ (flags.whole defaults).fromClause ++ " where " ++ foldedText .and flags.operands) := by
  have hrejection : (flags.whole defaults).rejection? = none := by
    rw [Query.rejection?_eq_none_iff]
    refine ⟨?_, hkeys⟩
    rw [whole, base_eq]
    exact hsources
  rw [flags.yql_whole defaults hrejection, conditionText, members_eq_singleton hfilters hrank,
    if_neg (List.cons_ne_nil _ _), Text.joined_singleton]

end

variable (flags)

/-- **Every filter is one operand of the condition.** The condition of options
with filters and without a rank clause is the filters, each in brackets, and the
words of the user if they are asked for, combined from the left; the words that
join them are found behind what the operands before them come to. Whatever
brackets count: if they are balanced in every filter, the brackets around a
filter belong together in the condition, no place of the filter has the same
brackets around it as a joining word, and the joining words right before the
filter and behind it stand less deep. Options with as many filters that come to
the same condition have the same filters. -/
theorem filters_apart (hfilters : flags.filters ≠ []) (hrank : flags.rank = []) :
    (∀ query, (flags.merge defaults).query = .ok query →
        query.whereClause = foldedText .and flags.operands)
      ∧ ((∀ raw ∈ flags.inputs, '=' ∈ raw.toList) →
        ∃ query, (flags.merge defaults).query = .ok query
          ∧ (orElse flags.sources defaults.sources ≠ [] →
            (∀ key ∈ query.inputs.keys, Query.isInputKey key = true) →
            query.yql = .ok (query.selectClause ++ " " ++ query.fromClause ++ " where "
              ++ foldedText .and flags.operands)))
      ∧ (∀ front next rest, flags.operands = front ++ next :: rest → front ≠ [] →
        ∃ behind, (foldedText .and flags.operands).toList
          = joint .and front (rest.length + 1)
            ++ (" AND ".toList ++ (next.toList ++ ')' :: behind)))
      ∧ (∀ brackets, flags.BalancedFilters brackets →
        ∀ before filter after, flags.filters = before ++ filter :: after →
          ∃ later, later = after.map group ++ flags.userOperand
            ∧ flags.operands = before.map group ++ group filter :: later
            ∧ Enclosed .and brackets (before.map group) filter later)
      ∧ ∀ brackets (others : BuildFlags) (otherDefaults : Defaults) query other,
        others.rank = [] → others.filters.length = flags.filters.length →
        others.userQuery = flags.userQuery → flags.BalancedFilters brackets →
        others.BalancedFilters brackets → (flags.merge defaults).query = .ok query →
        (others.merge otherDefaults).query = .ok other →
        other.whereClause = query.whereClause → others.filters = flags.filters := by
  refine ⟨?_, ?_, ?_, ?_, ?_⟩
  · intro query hquery
    rw [flags.eq_whole_of_merge defaults hquery]
    exact whereClause_whole defaults hfilters hrank
  · intro hinputs
    exact ⟨_, flags.query_merge_eq_ok defaults hinputs,
      yql_whole_of_filters defaults hfilters hrank⟩
  · intro front next rest hsplit hfront
    rw [hsplit, Condition.toList_foldedText_joint .and hfront]
    refine ⟨rest.flatMap (Condition.addition .and), ?_⟩
    simp [Condition.addition, Connective.word]
  · intro brackets hbalanced before filter after hsplit
    have hoperands := operands_split hsplit
    refine ⟨_, rfl, hoperands, Condition.enclosed ?_ ?_⟩
    · rw [← hoperands]
      exact balanced_operands hbalanced
    · apply hbalanced
      simp [hsplit]
  · intro brackets others otherDefaults query other hrank' hlength huser hbalanced hbalanced'
      hquery hother hclause
    have hfilters' : others.filters ≠ [] := by
      rw [← List.length_pos_iff, hlength, List.length_pos_iff]
      exact hfilters
    rw [flags.eq_whole_of_merge defaults hquery, others.eq_whole_of_merge otherDefaults hother,
      whereClause_whole defaults hfilters hrank, whereClause_whole otherDefaults hfilters' hrank',
      operands, operands, userOperand, userOperand, huser] at hclause
    exact Condition.foldedText_group_inj hlength hbalanced' hbalanced hclause

/-- Three filters of which the last holds an operator. -/
def alternatives : BuildFlags where
  filters := ["a = 1", "b = 2", "c = 3 or d = 4"]

/-- The `or` of the last filter stands as deep as the first `AND` that was
added. -/
theorem alternatives_as_deep :
    (∃ query, (alternatives.merge { sources := ["p"] }).query = .ok query
        ∧ query.whereClause
          = "(((a = 1)" ++ " AND " ++ "(b = 2)) AND (c = 3" ++ " or " ++ "d = 4))")
      ∧ ∀ brackets : Brackets, alternatives.BalancedFilters brackets
        ∧ brackets.scan (.outside 0) "(((a = 1)".toList = .outside 2
        ∧ brackets.scan (.outside 0) ("(((a = 1)" ++ " AND " ++ "(b = 2)) AND (c = 3").toList
          = .outside 2 := by
  constructor
  · refine ⟨_, query_merge_eq_ok _ _ nofun, ?_⟩
    decide +kernel
  · rintro ⟨braces, squares⟩
    have hbalanced : ∀ filter ∈ alternatives.filters,
        (Brackets.mk braces squares).Balanced filter.toList := by
      cases braces <;> cases squares <;> decide +kernel
    refine ⟨hbalanced, ?_, ?_⟩
    · cases braces <;> cases squares <;> decide +kernel
    · cases braces <;> cases squares <;> decide +kernel

/-- Filters that hold operators, brackets in literals and brackets of their
own. -/
def tangled : BuildFlags where
  filters := ["a = 1 or b = 2", "title contains ')('", "(c = 3) AND d in (4, 5)"]
  userQuery := true

theorem filters_apart_tangled :
    (∃ query, (tangled.merge { sources := ["docs"] }).query = .ok query
        ∧ query.yql = .ok ("select * from sources docs where ((((a = 1 or b = 2) AND "
          ++ "(title contains ')(')) AND ((c = 3) AND d in (4, 5))) AND userQuery())"))
      ∧ (Brackets.mk true true).upToClosing (.outside 0)
          "(c = 3) AND d in (4, 5))) AND userQuery())".toList
        = some ("(c = 3) AND d in (4, 5)".toList, ") AND userQuery())".toList)
      ∧ ¬(Brackets.mk true true).SameBrackets
          "((((a = 1 or b = 2) AND (title contains ')(')) AND ((c = 3) ".toList
          "((((a = 1 or b = 2)".toList := by
  have hfilters : tangled.filters ≠ [] := by simp [tangled]
  have hbalanced : ∀ filter ∈ tangled.filters,
      (Brackets.mk true true).Balanced filter.toList := by
    decide +kernel
  obtain ⟨-, hquery, -, henclosed, -⟩ :=
    filters_apart tangled { sources := ["docs"] } hfilters rfl
  obtain ⟨query, hquery, hyql⟩ := hquery nofun
  obtain ⟨_, rfl, -, hthird⟩ := henclosed ⟨true, true⟩ hbalanced
    ["a = 1 or b = 2", "title contains ')('"] "(c = 3) AND d in (4, 5)" [] rfl
  refine ⟨⟨query, hquery, ?_⟩, ?_, ?_⟩
  · obtain rfl := tangled.eq_whole_of_merge _ hquery
    rw [hyql (by decide) nofun]
    exact congrArg Except.ok (by decide +kernel)
  · have hclosing := hthird.closing
    have hclosed : Condition.closed .and
        (["a = 1 or b = 2", "title contains ')('"].map group) ([].map group ++ tangled.userOperand)
          = ") AND userQuery())".toList := by
      decide +kernel
    rw [hclosed] at hclosing
    exact hclosing
  · have hopened : Condition.opened .and
        (["a = 1 or b = 2", "title contains ')('"].map group)
        ([].map group ++ tangled.userOperand).length ++ '(' :: "(c = 3) ".toList
          = "((((a = 1 or b = 2) AND (title contains ')(')) AND ((c = 3) ".toList := by
      decide +kernel
    have hapart := hthird.apart "(c = 3) ".toList "AND d in (4, 5)".toList rfl
      ⟨3, by rw [hopened]; decide +kernel⟩ [group "a = 1 or b = 2"] _ _ rfl (by simp)
    rw [hopened] at hapart
    exact hapart

end Yql.Command.BuildFlags
