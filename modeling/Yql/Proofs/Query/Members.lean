import Yql.Proofs.Condition.Contained
import Yql.Query.Basic

/-!
# The members of a query's condition

What a query asks for is written as a row of members: the texts of its
conditions and the rank clause. Members that stay inside their own brackets are
got back from the row by cutting it at the word between them, and so are the
entries of the rank clause from what stands in its brackets.
-/

namespace Yql

/-! ## When there is nothing to write -/

theorem Rank.yql_eq_empty_iff (rank : Rank) :
    rank.yql = "" ↔ ∀ condition ∈ rank.conditions, condition.yql = "" := by
  have hclauses : Text.nonEmpty (rank.conditions.map Condition.yql) = [] ↔ _ :=
    Text.nonEmpty_eq_nil_iff
  rw [List.forall_mem_map] at hclauses
  rw [← hclauses, yql]
  cases Text.nonEmpty (rank.conditions.map Condition.yql) with
  | nil => simp
  | cons clause rest => simp [← String.toList_eq_nil_iff]

theorem Rank.yql_of_nonEmpty {rank : Rank}
    (h : Text.nonEmpty (rank.conditions.map Condition.yql) ≠ []) :
    rank.yql
      = "rank(" ++ Text.joined ", " (Text.nonEmpty (rank.conditions.map Condition.yql)) ++ ")" := by
  rw [yql]
  split
  · contradiction
  · rfl

namespace Query

/-- The conditions of a query and the entries of its rank clause, in order. -/
def entries (query : Query) : List Condition :=
  query.conditions ++ query.rank.toList.flatMap Rank.conditions

theorem rejection?_eq_none_iff (query : Query) :
    query.rejection? = none
      ↔ query.sources ≠ [] ∧ ∀ key ∈ query.inputs.keys, isInputKey key = true := by
  unfold rejection?
  by_cases h : query.sources = []
  · simp [h]
  · simp [h]

theorem whereMembers_eq_nil_iff (query : Query) :
    query.whereMembers = [] ↔ ∀ condition ∈ query.entries, condition.yql = "" := by
  rw [whereMembers, List.append_eq_nil_iff, Text.nonEmpty_eq_nil_iff, Text.nonEmpty_eq_nil_iff,
    List.forall_mem_map, List.forall_mem_map, entries, List.forall_mem_append]
  apply and_congr_right
  intro _
  cases query.rank <;> simp [Rank.yql_eq_empty_iff]

theorem ne_empty_of_mem_whereMembers {query : Query} {text : String}
    (h : text ∈ query.whereMembers) : text ≠ "" := by
  rcases List.mem_append.mp h with h | h
  · exact Text.ne_empty_of_mem_nonEmpty h
  · exact Text.ne_empty_of_mem_nonEmpty h

theorem whereClause_eq_empty_iff (query : Query) :
    query.whereClause = "" ↔ query.whereMembers = [] :=
  Text.joined_eq_empty_iff fun _ => ne_empty_of_mem_whereMembers

/-- What stands behind the word "where": the members in a row, or the word for
everything when there are none. -/
theorem yql_eq_ok {query : Query} (h : query.rejection? = none) :
    query.yql = .ok (query.selectClause ++ " " ++ query.fromClause ++ " where "
      ++ if query.whereMembers = [] then "true" else query.whereClause) := by
  simp only [yql, h, assembled, whereClause_eq_empty_iff]

/-! ## Members stand apart -/

theorem separates_comma : Text.Separates [','] where
  nonempty := by decide
  plain := List.all_eq_true.mp (by decide)
  apart := by decide

theorem separates_and : Text.Separates [' ', 'a', 'n', 'd'] where
  nonempty := by decide
  plain := List.all_eq_true.mp (by decide)
  apart := by decide

/-- The entries of a rank clause are got back from what stands in its
brackets. -/
theorem cutAt_rank {rank : Rank} (h : ∀ condition ∈ rank.conditions, condition.Contained)
    (hne : rank.yql ≠ "") :
    ∃ inner, rank.yql = "rank(" ++ inner ++ ")"
      ∧ Text.cutAt ", " inner = Text.nonEmpty (rank.conditions.map Condition.yql) := by
  have hclauses : Text.nonEmpty (rank.conditions.map Condition.yql) ≠ [] := by
    intro hnil
    rw [Rank.yql, hnil] at hne
    exact hne rfl
  refine ⟨_, Rank.yql_of_nonEmpty hclauses, ?_⟩
  apply Text.cutAt_joined separates_comma rfl hclauses
  intro text htext
  obtain ⟨condition, hcondition, rfl⟩ := List.mem_map.mp (List.mem_of_mem_filter htext)
  have hfragment := (h condition hcondition).fragment
  exact ⟨hfragment.balanced, hfragment.comma⟩

theorem fragment_of_mem_whereMembers {query : Query}
    (h : ∀ condition ∈ query.entries, condition.Contained) {text : String}
    (htext : text ∈ query.whereMembers) : Text.Fragment text.toList := by
  rcases List.mem_append.mp htext with htext | htext
  · obtain ⟨condition, hcondition, rfl⟩ := List.mem_map.mp (List.mem_of_mem_filter htext)
    exact (h condition (List.mem_append_left _ hcondition)).fragment
  · obtain ⟨rank, hrank, rfl⟩ := List.mem_map.mp (List.mem_of_mem_filter htext)
    apply Rank.fragment_yql
    intro condition hcondition
    exact h condition (List.mem_append_right _ (List.mem_flatMap.mpr ⟨rank, hrank, hcondition⟩))

/-- **Every member stays inside its own brackets.** Of a query that is not
refused and whose conditions and rank entries are contained, every text is
balanced. Unless all of them are empty, cutting what stands behind "where" at
the word between members gives the texts of the conditions that say something
and then the rank clause, and cutting what stands in the brackets of that gives
the texts of its entries that say something. -/
theorem members_apart {query : Query} (hsources : query.sources ≠ [])
    (hkeys : ∀ key ∈ query.inputs.keys, isInputKey key = true)
    (h : ∀ condition ∈ query.entries, condition.Contained) :
    (∀ condition ∈ query.entries, Text.Balanced condition.yql.toList)
      ∧ ((∃ condition ∈ query.entries, condition.yql ≠ "") →
        ∃ clause,
          query.yql = .ok (query.selectClause ++ " " ++ query.fromClause ++ " where " ++ clause)
          ∧ Text.cutAt " and " clause
            = Text.nonEmpty (query.conditions.map Condition.yql)
              ++ Text.nonEmpty (query.rank.toList.map Rank.yql)
          ∧ ∀ rank ∈ query.rank, rank.yql ≠ "" →
            ∃ inner, rank.yql = "rank(" ++ inner ++ ")"
              ∧ Text.cutAt ", " inner = Text.nonEmpty (rank.conditions.map Condition.yql)) := by
  constructor
  · intro condition hcondition
    exact (h condition hcondition).fragment.balanced
  · rintro ⟨condition, hcondition, hspeaks⟩
    have hmembers : query.whereMembers ≠ [] := by
      intro hnil
      exact hspeaks ((whereMembers_eq_nil_iff query).mp hnil condition hcondition)
    refine ⟨query.whereClause, ?_, ?_, ?_⟩
    · rw [yql_eq_ok ((rejection?_eq_none_iff query).mpr ⟨hsources, hkeys⟩), if_neg hmembers]
    · -- the separator begins with a blank, a fragment shows not even the word behind it
      apply Text.cutAt_joined separates_and rfl hmembers
      intro text htext
      have hfragment := fragment_of_mem_whereMembers h htext
      exact ⟨hfragment.balanced, hfragment.and.blank_cons⟩
    · intro rank hrank hne
      apply cutAt_rank _ hne
      intro entry hentry
      apply h entry
      exact List.mem_append_right _ (List.mem_flatMap.mpr ⟨rank, by simpa using hrank, hentry⟩)

/-- A query whose texts try to look like brackets and separators. -/
def crowded : Query where
  sources := ["music"]
  conditions :=
    [.predicate "title" .contains (.list [.string ") and (", .string "it's, ("]) .phrase,
      .sameElement "tags" [], .verbatim "x in (1, 2 and 3)"]
  rank := some ⟨[.userQuery none, .verbatim "", .range "year" (.string "', (") (.int 9)]⟩

theorem members_apart_crowded :
    ∃ clause,
      crowded.yql = .ok (crowded.selectClause ++ " " ++ crowded.fromClause ++ " where " ++ clause)
        ∧ Text.cutAt " and " clause
          = ["(title contains phrase(') and (', 'it\\'s, ('))", "x in (1, 2 and 3)",
            "rank(userQuery(), ((year >= '\\', (') and (year <= 9)))"] := by
  have heven : ∀ text ∈ [") and (", "it's, (", "', ("], Text.EvenBackslashes text.toList := by
    intro text htext
    apply Text.evenBackslashes_of_not_mem
    revert text
    decide
  simp only [List.forall_mem_cons] at heven
  obtain ⟨hbrackets, hcomma, hquote, -⟩ := heven
  have hcontained : ∀ condition ∈ crowded.entries, condition.Contained := by
    simp only [entries, crowded, Option.toList_some, List.flatMap_cons, List.flatMap_nil,
      List.append_nil, List.cons_append, List.nil_append, List.forall_mem_cons]
    refine ⟨.predicate (by decide) (.list ?_), .sameElement (by decide) (by simp),
      .verbatim (by decide), .userQuery (by simp), .verbatim (by decide),
      .range (by decide) (.string hquote) .int, by simp⟩
    exact List.forall_mem_cons.mpr ⟨.string hbrackets,
      List.forall_mem_cons.mpr ⟨.string hcomma, by simp⟩⟩
  have hspeaks : ∃ condition ∈ crowded.entries, condition.yql ≠ "" :=
    ⟨.userQuery none, by simp [entries, crowded], by decide⟩
  obtain ⟨clause, hyql, hcut, -⟩ :=
    (members_apart (by decide) (by decide) hcontained).2 hspeaks
  exact ⟨clause, hyql, hcut.trans (by decide)⟩

end Query

end Yql
