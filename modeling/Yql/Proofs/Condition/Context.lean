import Mathlib.Data.List.Forall2
import Yql.Proofs.Condition.Prune

/-!
# Subtrees and their texts

Every node of a tree stands in a context, which is the tree with a hole in its
place. Nothing above a node looks at more of it than its text: conditions that
differ only in subtrees with the same texts are written alike
(`Alike.yql_eq`), and so a text written by hand can stand in for any subtree
with that text.
-/

namespace Yql.Condition

/-! ## Contexts -/

inductive Context where
  | here
  | left (connective : Connective) (context : Context) (sibling : Condition)
  | right (connective : Connective) (sibling : Condition) (context : Context)
  | negated (context : Context)
  | sameElement (field : String) (before : List Condition) (context : Context)
      (after : List Condition)

def Context.fill : Context → Condition → Condition
  | .here, subtree => subtree
  | .left connective context sibling, subtree => combined connective (context.fill subtree) sibling
  | .right connective sibling context, subtree =>
      combined connective sibling (context.fill subtree)
  | .negated context, subtree => Condition.negated (context.fill subtree)
  | .sameElement field before context after, subtree =>
      Condition.sameElement field (before ++ context.fill subtree :: after)

theorem exists_fill_of_mem_nodes {tree node : Condition} (h : node ∈ tree.nodes) :
    ∃ context : Context, context.fill node = tree := by
  induction tree using Condition.induction with
  | combined connective left right ihleft ihright =>
      rcases List.mem_cons.mp h with rfl | hbelow
      · exact ⟨.here, rfl⟩
      · rcases List.mem_append.mp hbelow with hnode | hnode
        · obtain ⟨context, rfl⟩ := ihleft hnode
          exact ⟨.left connective context right, rfl⟩
        · obtain ⟨context, rfl⟩ := ihright hnode
          exact ⟨.right connective left context, rfl⟩
  | negated inner ih =>
      rcases List.mem_cons.mp h with rfl | hbelow
      · exact ⟨.here, rfl⟩
      · obtain ⟨context, rfl⟩ := ih hbelow
        exact ⟨.negated context, rfl⟩
  | sameElement field conditions ih =>
      rcases List.mem_cons.mp h with rfl | hbelow
      · exact ⟨.here, rfl⟩
      · rw [allNodes_eq_flatMap] at hbelow
        obtain ⟨condition, hmem, hnode⟩ := List.mem_flatMap.mp hbelow
        obtain ⟨context, hcontext⟩ := ih condition hmem hnode
        obtain ⟨before, after, rfl⟩ := List.append_of_mem hmem
        exact ⟨.sameElement field before context after, by rw [Context.fill, hcontext]⟩
  | _ =>
      obtain rfl := List.mem_singleton.mp h
      exact ⟨.here, rfl⟩

/-! ## Conditions written alike -/

/-- The conditions are the same but for subtrees with the same texts. -/
inductive Alike : Condition → Condition → Prop
  | text {a b : Condition} (h : a.yql = b.yql) : Alike a b
  | combined {connective : Connective} {left left' right right' : Condition}
      (hleft : Alike left left') (hright : Alike right right') :
      Alike (.combined connective left right) (.combined connective left' right')
  | negated {inner inner' : Condition} (h : Alike inner inner') :
      Alike (.negated inner) (.negated inner')
  | sameElement {field : String} {pairs : List (Condition × Condition)}
      (h : ∀ pair ∈ pairs, Alike pair.1 pair.2) :
      Alike (.sameElement field (pairs.map Prod.fst)) (.sameElement field (pairs.map Prod.snd))

abbrev AllAlike : List Condition → List Condition → Prop :=
  List.Forall₂ Alike

theorem Alike.yql_eq {a b : Condition} (h : Alike a b) : a.yql = b.yql := by
  induction h with
  | text h => exact h
  | combined _ _ ihleft ihright => rw [yql, yql, ihleft, ihright]
  | negated _ ih => rw [yql, yql, ih]
  | @sameElement field pairs _ ih =>
      have htexts : (pairs.map Prod.fst).map yql = (pairs.map Prod.snd).map yql := by
        rw [List.map_map, List.map_map]
        exact List.map_congr_left ih
      rw [yql, yql, yqls_eq_map, yqls_eq_map, htexts]

theorem AllAlike.map_yql_eq {as bs : List Condition} (h : AllAlike as bs) :
    as.map yql = bs.map yql := by
  induction h with
  | nil => rfl
  | cons h _ ih => rw [List.map_cons, List.map_cons, h.yql_eq, ih]

theorem AllAlike.sameElement {field : String} {as bs : List Condition} (h : AllAlike as bs) :
    Alike (.sameElement field as) (.sameElement field bs) := by
  have hpairs : ∀ pair ∈ as.zip bs, Alike pair.1 pair.2 := fun _ => List.forall₂_zip h
  have halike : Alike (.sameElement field _) (.sameElement field _) := .sameElement hpairs
  rwa [List.map_fst_zip (Nat.le_of_eq h.length_eq),
    List.map_snd_zip (Nat.le_of_eq h.length_eq.symm)] at halike

theorem AllAlike.refl (conditions : List Condition) : AllAlike conditions conditions :=
  List.forall₂_same.mpr fun _ _ => .text rfl

theorem Alike.among {a b : Condition} (h : Alike a b) (before after : List Condition) :
    AllAlike (before ++ a :: after) (before ++ b :: after) :=
  List.rel_append (AllAlike.refl before) (.cons h (AllAlike.refl after))

/-- Subtrees with the same text are alike in every context. -/
theorem Context.alike (context : Context) {a b : Condition} (h : a.yql = b.yql) :
    Alike (context.fill a) (context.fill b) := by
  induction context with
  | here => exact .text h
  | left connective context sibling ih => exact .combined ih (.text rfl)
  | right connective sibling context ih => exact .combined (.text rfl) ih
  | negated context ih => exact .negated ih
  | sameElement field before context after ih => exact (ih.among before after).sameElement

end Yql.Condition
