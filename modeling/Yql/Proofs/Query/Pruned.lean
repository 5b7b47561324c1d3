import Yql.Proofs.Condition.Prune
import Yql.Proofs.Query.Members

/-!
# Queries are written as if pruned

The condition of a query is written as if every condition and every entry of
the rank clause had been pruned first and then written by the templates alone.
No empty text, no brackets around nothing and no separator next to nothing can
come of it.
-/

namespace Yql

/-- The rank clause by the templates alone, if one of its entries is not
void. -/
def Rank.plainMember (rank : Rank) : List String :=
  match rank.conditions.filter fun entry => !entry.isVoid with
  | [] => []
  | entries => ["rank(" ++ Text.joined ", " (entries.map fun entry => entry.prune.plain) ++ ")"]

/-- The members of a query's condition by the templates alone: the conditions
that are not void, in order, and the rank clause last. -/
def Query.plainMembers (query : Query) : List String :=
  ((query.conditions.filter fun condition => !condition.isVoid).map fun condition =>
      condition.prune.plain)
    ++ query.rank.toList.flatMap Rank.plainMember

theorem Condition.nonEmpty_map_yql_eq_plain (conditions : List Condition) :
    Text.nonEmpty (conditions.map yql)
      = (conditions.filter fun condition => !condition.isVoid).map fun condition =>
        condition.prune.plain := by
  rw [nonEmpty_map_yql]
  apply List.map_congr_left
  intro condition hmem
  exact yql_eq_plain_prune (by simpa using (List.mem_filter.mp hmem).2)

theorem Rank.nonEmpty_yql (rank : Rank) : Text.nonEmpty [rank.yql] = rank.plainMember := by
  have hclauses := Condition.nonEmpty_map_yql_eq_plain rank.conditions
  rw [Rank.yql, plainMember, hclauses]
  cases rank.conditions.filter fun entry => !entry.isVoid with
  | nil => rfl
  | cons entry rest => simp [← String.toList_eq_nil_iff, Text.nonEmpty]

namespace Query

theorem whereMembers_eq_plainMembers (query : Query) :
    query.whereMembers = query.plainMembers := by
  rw [whereMembers, plainMembers, Condition.nonEmpty_map_yql_eq_plain]
  cases query.rank with
  | none => rfl
  | some rank => simp [← Rank.nonEmpty_yql]

/-- **Rendering prunes.** A condition is written as the empty text just when it
is void; any other is written as its pruned tree is by the templates alone, and
no node of the pruned tree is void. A query that is not refused asks for
everything when all of its conditions and rank entries are void, and else for
the row of its plain members. -/
theorem yql_prunes :
    (∀ condition : Condition,
      (condition.yql = "" ↔ condition.isVoid = true)
        ∧ (condition.isVoid = false →
          condition.yql = condition.prune.plain
            ∧ ∀ node ∈ condition.prune.nodes, node.isVoid = false))
      ∧ ∀ query : Query, query.rejection? = none →
        ((∀ condition ∈ query.entries, condition.isVoid = true) →
          query.yql = .ok (query.selectClause ++ " " ++ query.fromClause ++ " where " ++ "true"))
        ∧ ((∃ condition ∈ query.entries, condition.isVoid = false) →
          query.yql = .ok (query.selectClause ++ " " ++ query.fromClause ++ " where "
            ++ Text.joined " and " query.plainMembers)) := by
  constructor
  · intro condition
    refine ⟨condition.yql_eq_empty_iff_isVoid, ?_⟩
    intro h
    exact ⟨Condition.yql_eq_plain_prune h, Condition.isVoid_of_mem_nodes_prune h⟩
  · intro query hvalid
    rw [yql_eq_ok hvalid]
    constructor
    · intro hvoid
      have hmembers : query.whereMembers = [] := by
        rw [whereMembers_eq_nil_iff]
        intro condition hcondition
        exact condition.yql_eq_empty_iff_isVoid.mpr (hvoid condition hcondition)
      rw [if_pos hmembers]
    · rintro ⟨condition, hcondition, hspeaks⟩
      have hmembers : query.whereMembers ≠ [] := by
        intro hnil
        have hempty := (whereMembers_eq_nil_iff query).mp hnil condition hcondition
        exact Condition.yql_ne_empty hspeaks hempty
      rw [if_neg hmembers, whereClause, whereMembers_eq_plainMembers]

def sparse : Query where
  sources := ["music"]
  conditions :=
    [.verbatim "", .combined .or (.negated (.sameElement "tags" [.verbatim ""]))
      (.predicate "year" .greater (.int 1999) .exact)]
  rank := some ⟨[.negated (.verbatim ""), .sameElement "tags" []]⟩

theorem yql_sparse : sparse.yql = .ok "select * from sources music where (year > 1999)" :=
  ((yql_prunes.2 sparse rfl).2
    ⟨_, List.mem_append_left _ (List.mem_cons_of_mem _ List.mem_cons_self), rfl⟩).trans
      (congrArg Except.ok (by decide))

end Query

end Yql
