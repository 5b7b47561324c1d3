import Yql.Proofs.Text.Token
import Yql.Text.Joined

/-!
# Rows of items

Items of a list, arguments and conditions of a same-element clause are all
written with a comma and a blank between neighbours, and a closing bracket after
the last. If every item shows where it ends and none begins with a closing
bracket, the row shows where each of its items ends (`row_inj`).
-/

namespace Yql

/-- Items behind separators, and a closing sign behind the last, are determined
by their text if every item shows where it ends and no separator begins with the
closing sign. -/
theorem Text.followers_inj {α β : Type} {write : α → List β} {as bs : List α} {s t : List β}
    {begin closing : β} (hbegin : begin ≠ closing) (separator : List β)
    (reads : ∀ a ∈ as, ∀ b ∈ bs, ∀ s t, write a ++ s = write b ++ t → a = b ∧ s = t)
    (h : as.flatMap (fun a => begin :: (separator ++ write a)) ++ closing :: s
      = bs.flatMap (fun b => begin :: (separator ++ write b)) ++ closing :: t) :
    as = bs ∧ s = t := by
  induction as generalizing bs with
  | nil =>
      cases bs with
      | nil => simpa using h
      | cons b bs =>
          simp only [List.flatMap_nil, List.flatMap_cons, List.nil_append, List.cons_append] at h
          exact absurd (List.cons.inj h).1.symm hbegin
  | cons a as ih =>
      cases bs with
      | nil =>
          simp only [List.flatMap_nil, List.flatMap_cons, List.nil_append, List.cons_append] at h
          exact absurd (List.cons.inj h).1 hbegin
      | cons b bs =>
          simp only [List.flatMap_cons, List.cons_append, List.append_assoc, List.cons.injEq,
            true_and] at h
          obtain ⟨rfl, hrest⟩ := reads a (by simp) b (by simp) _ _ (List.append_cancel_left h)
          obtain ⟨rfl, rfl⟩ :=
            ih (fun a ha b hb => reads a (by simp [ha]) b (by simp [hb])) hrest
          exact ⟨rfl, rfl⟩

namespace Token

/-- The items after the first, each behind a comma and a blank. -/
def followers (items : List (List Token)) : List Token :=
  items.flatMap fun item => .sign ',' :: .sign ' ' :: item

def row : List (List Token) → List Token
  | [] => []
  | item :: rest => item ++ followers rest

theorem followers_nil : followers [] = [] := rfl

theorem followers_cons (item : List Token) (rest : List (List Token)) :
    followers (item :: rest) = .sign ',' :: .sign ' ' :: (item ++ followers rest) := by
  simp [followers]

theorem toList_joined {texts : List String} {items : List (List Token)}
    (h : texts.map String.toList = items.map spelling) :
    (Text.joined ", " texts).toList = spelling (row items) := by
  cases texts with
  | nil =>
      obtain rfl : items = [] := by simpa using h.symm
      rfl
  | cons text rest =>
      cases items with
      | nil => simp at h
      | cons item others =>
          simp only [List.map_cons, List.cons.injEq] at h
          obtain ⟨htext, hrest⟩ := h
          have hfollowers : (rest.flatMap fun next => ", ".toList ++ next.toList)
              = spelling (followers others) := by
            rw [← List.flatMap_map, hrest, List.flatMap_map]
            simp [followers, spelling, List.flatMap_assoc, chars]
          rw [Text.toList_joined_cons, row, spelling_append, htext, hfollowers]

theorem spaced_append_followers {item : List Token} {rest : List (List Token)}
    (hitem : Spaced item) (hrest : ∀ other ∈ rest, Spaced other) :
    Spaced (item ++ followers rest) := by
  induction rest generalizing item with
  | nil => simpa [followers_nil] using hitem
  | cons other rest ih =>
      rw [followers_cons, spaced_append_sign, spaced_sign_cons]
      exact ⟨hitem, by decide, by decide,
        ih (hrest other (by simp)) fun o ho => hrest o (by simp [ho])⟩

theorem spaced_row {items : List (List Token)} (h : ∀ item ∈ items, Spaced item) :
    Spaced (row items) := by
  cases items with
  | nil => trivial
  | cons item rest =>
      exact spaced_append_followers (h item (by simp)) fun o ho => h o (by simp [ho])

/-! ## Reading a row -/

variable {α : Type} {write : α → List Token} {as bs : List α} {s t : List Token}

theorem followers_inj
    (reads : ∀ a ∈ as, ∀ b ∈ bs, ∀ s t, write a ++ s = write b ++ t → a = b ∧ s = t)
    (h : followers (as.map write) ++ .sign ')' :: s = followers (bs.map write) ++ .sign ')' :: t) :
    as = bs ∧ s = t := by
  have hbegin : Token.sign ',' ≠ .sign ')' := by simp
  rw [followers, followers, List.flatMap_map, List.flatMap_map] at h
  exact Text.followers_inj hbegin [.sign ' '] reads h

theorem row_inj
    (reads : ∀ a ∈ as, ∀ b ∈ bs, ∀ s t, write a ++ s = write b ++ t → a = b ∧ s = t)
    (opens : ∀ a s t, write a ++ s ≠ .sign ')' :: t)
    (h : row (as.map write) ++ .sign ')' :: s = row (bs.map write) ++ .sign ')' :: t) :
    as = bs ∧ s = t := by
  cases as with
  | nil =>
      cases bs with
      | nil => simpa [row] using h
      | cons b bs =>
          rw [List.map_nil, row, List.map_cons, row, List.append_assoc] at h
          exact absurd h.symm (opens b _ _)
  | cons a as =>
      cases bs with
      | nil =>
          rw [List.map_nil, row, List.map_cons, row, List.append_assoc] at h
          exact absurd h (opens a _ _)
      | cons b bs =>
          rw [List.map_cons, row, List.map_cons, row, List.append_assoc, List.append_assoc] at h
          obtain ⟨rfl, hrest⟩ := reads a (by simp) b (by simp) _ _ h
          obtain ⟨rfl, rfl⟩ :=
            followers_inj (fun a ha b hb => reads a (by simp [ha]) b (by simp [hb])) hrest
          exact ⟨rfl, rfl⟩

end Token

end Yql
