import Yql.Proofs.Condition.Context
import Yql.Proofs.Query.Members

/-!
# Texts in the place of subtrees

A query looks at nothing of its conditions and rank entries but their texts.
Queries that differ only in subtrees with the same texts are the same request,
or are refused alike, and so a text written by hand can stand in for any part of
any condition or rank entry (`text_stands_for_subtree`).
-/

namespace Yql

open Condition (AllAlike)

theorem Rank.yql_eq_of_allAlike {a b : Rank} (h : AllAlike a.conditions b.conditions) :
    a.yql = b.yql := by
  rw [Rank.yql, Rank.yql, h.map_yql_eq]

namespace Query

/-! ## Queries that are alike -/

def bare (query : Query) : Query :=
  { query with conditions := [], rank := none }

/-- The queries are the same but for subtrees of their conditions and rank
entries with the same texts. -/
structure Alike (a b : Query) : Prop where
  conditions : AllAlike a.conditions b.conditions
  rank : Option.Rel (fun r s => AllAlike r.conditions s.conditions) a.rank b.rank
  bare : a.bare = b.bare

theorem Alike.whereMembers_eq {a b : Query} (h : a.Alike b) :
    a.whereMembers = b.whereMembers := by
  have hrank : a.rank.toList.map Rank.yql = b.rank.toList.map Rank.yql := by
    have hranks := h.rank
    generalize a.rank = rank, b.rank = rank' at hranks
    cases hranks with
    | none => rfl
    | some hentries => exact congrArg (fun text => [text]) (Rank.yql_eq_of_allAlike hentries)
  rw [whereMembers, whereMembers, h.conditions.map_yql_eq, hrank]

/-- What is built of a query depends on the members of its condition and on what
is left without them. -/
theorem request_congr {a b : Query} (hmembers : a.whereMembers = b.whereMembers)
    (hbare : a.bare = b.bare) : a.request = b.request := by
  have hkept {α : Type} (f : Query → α) : f a.bare = f b.bare := congrArg f hbare
  have hrejection : a.rejection? = b.rejection? := hkept rejection?
  have hselect : a.selectClause = b.selectClause := hkept selectClause
  have hfrom : a.fromClause = b.fromClause := hkept fromClause
  have hwhere : a.whereClause = b.whereClause := congrArg (Text.joined " and ") hmembers
  have hassembled : a.assembled = b.assembled := by
    rw [assembled, assembled, hselect, hfrom, hwhere]
  have hyql : a.yql = b.yql := by rw [yql, yql, hrejection, hassembled]
  have hranking : a.ranking = b.ranking := hkept ranking
  have hhits : a.hits = b.hits := hkept hits
  have hoffset : a.offset = b.offset := hkept offset
  have hindex : a.defaultIndex = b.defaultIndex := hkept defaultIndex
  have hinputs : a.inputs = b.inputs := hkept inputs
  have htext : a.text = b.text := hkept text
  rw [request, request, hyql, hranking, hhits, hoffset, hindex, hinputs, htext]

theorem Alike.request_eq {a b : Query} (h : a.Alike b) : a.request = b.request :=
  request_congr h.whereMembers_eq h.bare

/-! ## Contexts -/

/-- A query with a hole in one of its conditions or of its rank entries. -/
inductive Context where
  | condition (query : Query) (before : List Condition) (context : Condition.Context)
      (after : List Condition)
  | rankEntry (query : Query) (before : List Condition) (context : Condition.Context)
      (after : List Condition)

def Context.fill : Context → Condition → Query
  | condition query before context after, subtree =>
      { query with conditions := before ++ context.fill subtree :: after }
  | rankEntry query before context after, subtree =>
      { query with rank := some ⟨before ++ context.fill subtree :: after⟩ }

theorem exists_fill_of_mem_entries {query : Query} {entry node : Condition}
    (hentry : entry ∈ query.entries) (hnode : node ∈ entry.nodes) :
    ∃ context : Context, context.fill node = query := by
  obtain ⟨context, hcontext⟩ := Condition.exists_fill_of_mem_nodes hnode
  rcases List.mem_append.mp hentry with hmem | hmem
  · obtain ⟨before, after, hconditions⟩ := List.append_of_mem hmem
    refine ⟨.condition query before context after, ?_⟩
    rw [Context.fill, hcontext, ← hconditions]
  · obtain ⟨rank, hrank, hmem⟩ := List.mem_flatMap.mp hmem
    obtain ⟨before, after, hconditions⟩ := List.append_of_mem hmem
    refine ⟨.rankEntry query before context after, ?_⟩
    rw [Context.fill, hcontext, ← hconditions, ← Option.mem_toList.mp hrank]

/-- Subtrees with the same text are alike in every context. -/
theorem Context.alike (context : Context) {a b : Condition} (h : a.yql = b.yql) :
    (context.fill a).Alike (context.fill b) := by
  cases context with
  | condition query before context after =>
      refine ⟨(context.alike h).among before after, ?_, rfl⟩
      show Option.Rel _ query.rank query.rank
      cases query.rank with
      | none => exact .none
      | some rank => exact .some (AllAlike.refl rank.conditions)
  | rankEntry query before context after =>
      exact ⟨AllAlike.refl query.conditions, .some ((context.alike h).among before after), rfl⟩

/-- **A text can stand in for any subtree.** In every place of a tree a condition
may be replaced by its text written by hand, and the text of the tree stays the
same; in every place of a query the request, or the rejection, stays the same. A
rank clause may be written by hand too. More generally, trees that differ only
in subtrees with the same texts have the same text, and queries that do are
built alike. -/
theorem text_stands_for_subtree :
    (∀ tree : Condition, ∀ node ∈ tree.nodes,
        ∃ context : Condition.Context, context.fill node = tree)
      ∧ (∀ (context : Condition.Context) (subtree : Condition),
          (context.fill (.verbatim subtree.yql)).yql = (context.fill subtree).yql)
      ∧ (∀ a b : Condition, a.Alike b → a.yql = b.yql)
      ∧ (∀ query : Query, ∀ entry ∈ query.entries, ∀ node ∈ entry.nodes,
          ∃ context : Context, context.fill node = query)
      ∧ (∀ (context : Context) (subtree : Condition),
          (context.fill (.verbatim subtree.yql)).request = (context.fill subtree).request)
      ∧ (∀ rank : Rank, (Condition.verbatim rank.yql).yql = rank.yql)
      ∧ ∀ a b : Query, a.Alike b → a.request = b.request := by
  have htext (subtree : Condition) : (Condition.verbatim subtree.yql).yql = subtree.yql := rfl
  refine ⟨?_, ?_, fun _ _ h => h.yql_eq, ?_, ?_, fun _ => rfl, fun _ _ h => h.request_eq⟩
  · intro tree node hnode
    exact Condition.exists_fill_of_mem_nodes hnode
  · intro context subtree
    exact (context.alike (htext subtree)).yql_eq
  · intro query entry hentry node hnode
    exact exists_fill_of_mem_entries hentry hnode
  · intro context subtree
    exact (context.alike (htext subtree)).request_eq

/-- A condition with nothing to say beside one that has, and a rank clause. -/
def nested : Query where
  sources := ["music"]
  conditions := [.negated (.combined .and (.sameElement "tags" []) (.userQuery none))]
  rank := some ⟨[.userQuery none, .negated (.userQuery (some "title"))]⟩

def byHand : Query where
  sources := ["music"]
  conditions := [.negated (.combined .and (.verbatim "") (.verbatim "userQuery()"))]
  rank := some
    ⟨[.verbatim "userQuery()", .negated (.verbatim "\x7bdefaultIndex:\"title\"\x7duserQuery()")]⟩

theorem alike_byHand : nested.Alike byHand where
  conditions := .cons (.negated (.combined (.text rfl) (.text rfl))) .nil
  rank := .some (.cons (.text rfl) (.cons (.negated (.text rfl)) .nil))
  bare := rfl

theorem request_byHand :
    nested.Alike byHand ∧ nested.request = byHand.request
      ∧ ∃ context : Context, context.fill (.sameElement "tags" []) = nested :=
  ⟨alike_byHand, text_stands_for_subtree.2.2.2.2.2.2 nested byHand alike_byHand,
    text_stands_for_subtree.2.2.2.1 nested _ List.mem_cons_self _
      (List.mem_cons_of_mem _ (List.mem_cons_of_mem _ List.mem_cons_self))⟩

end Query

end Yql
