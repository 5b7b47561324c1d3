import Mathlib.Data.List.Infix
import Yql.Proofs.Text.Place
import Yql.Text.Joined

/-!
# Cutting joined texts

A row of texts with a separator between neighbours is cut again wherever the
separator stands outside of brackets and literals. Every text is got back as it
was, if it is balanced and does not show the separator's word outside of its
own brackets (`cutAt_joined`).
-/

namespace Yql.Text

/-- Outside of brackets and literals the text nowhere goes on with the word.
The scanner stands at the given place before the text. -/
def Avoids (word : List Char) : Place → List Char → Prop
  | _, [] => True
  | place, c :: rest =>
      (place = .outside 0 → ¬ word <+: c :: rest) ∧ Avoids word (place.step c) rest

instance decidableAvoids (word : List Char) :
    (place : Place) → (text : List Char) → Decidable (Avoids word place text)
  | _, [] => isTrue trivial
  | place, c :: rest =>
      have := decidableAvoids word (place.step c) rest
      inferInstanceAs (Decidable ((place = .outside 0 → ¬ word <+: c :: rest) ∧ _))

/-- The pieces of a text between the separators that stand outside of brackets
and literals. The scanner stands at the given place before the text, and the
first `skip` characters still belong to a separator. -/
def cut (separator : List Char) : Place → Nat → List Char → List (List Char)
  | _, _, [] => [[]]
  | place, skip + 1, c :: rest => cut separator (place.step c) skip rest
  | place, 0, c :: rest =>
      if place = .outside 0 ∧ separator <+: c :: rest then
        [] :: cut separator (place.step c) (separator.length - 1) rest
      else (cut separator (place.step c) 0 rest).modifyHead (c :: ·)

def cutAt (separator text : String) : List String :=
  (cut separator.toList (.outside 0) 0 text.toList).map String.ofList

/-! ## Words in brackets are out of sight -/

variable {word : List Char}

/-- One more open bracket around a text hides all of it. -/
theorem avoids_deeper_append {place : Place} {inner : List Char}
    (h : place.scan inner ≠ .lost) (rest : List Char) :
    Avoids word (place.deeper 1) (inner ++ rest)
      ↔ Avoids word ((place.scan inner).deeper 1) rest := by
  induction inner generalizing place with
  | nil => rfl
  | cons c inner ih =>
      have hstep := Place.step_ne_lost h
      have hdeep : place.deeper 1 ≠ .outside 0 := by
        cases place <;> simp [Place.deeper]
      rw [Place.scan_cons] at h
      -- one bracket deeper the scanner is never outside of all, so the word may begin anywhere
      rw [List.cons_append, Avoids, Place.step_deeper hstep, ih h, Place.scan_cons]
      exact and_iff_right fun houtside => absurd houtside hdeep

/-- What stands in brackets shows no word that begins with another
character. -/
theorem avoids_bracketed_append {opening closing c : Char} {inner : List Char}
    (hopening : isOpening opening = true) (hclosing : isClosing closing = true)
    (h : Balanced inner) (hne : c ≠ opening) (rest : List Char) :
    Avoids (c :: word) (.outside 0) (opening :: (inner ++ closing :: rest))
      ↔ Avoids (c :: word) (.outside 0) rest := by
  have hscan : (Place.outside 0).scan inner ≠ .lost := by
    rw [h]
    simp
  have hinner : Avoids (c :: word) _ (inner ++ closing :: rest) ↔ _ :=
    avoids_deeper_append hscan (closing :: rest)
  rw [h] at hinner
  rw [Avoids, Place.step_opening hopening]
  have hstart : ¬ c :: word <+: opening :: (inner ++ closing :: rest) := by
    intro hprefix
    exact hne (List.cons_prefix_cons.mp hprefix).1
  rw [and_iff_right fun _ => hstart]
  refine hinner.trans ?_
  show Avoids _ (.outside (0 + 1)) (closing :: rest) ↔ _
  rw [Avoids, Place.step_closing hclosing]
  exact and_iff_right fun houtside => by simp at houtside

theorem Avoids.blank_cons {text : List Char} {place : Place} {c : Char}
    (h : Avoids (c :: word) place text) : Avoids (' ' :: c :: word) place text := by
  induction text generalizing place with
  | nil => trivial
  | cons d rest ih =>
      obtain ⟨-, hrest⟩ := h
      refine ⟨?_, ih hrest⟩
      rintro rfl hprefix
      obtain ⟨rfl, hword⟩ := List.cons_prefix_cons.mp hprefix
      -- behind the blank the scanner is still outside, and there the word would begin
      cases rest with
      | nil => simp at hword
      | cons e rest => exact hrest.1 rfl hword

/-! ## Fragments -/

/-- A text that stays inside its own brackets: it is balanced, and outside of
brackets and literals it shows no comma and not the letters of "and". -/
structure Fragment (text : List Char) : Prop where
  balanced : Balanced text
  comma : Avoids [','] (.outside 0) text
  and : Avoids ['a', 'n', 'd'] (.outside 0) text

instance : DecidablePred Fragment := fun _ =>
  decidable_of_iff (Balanced _ ∧ Avoids _ _ _ ∧ Avoids _ _ _)
    ⟨fun ⟨balanced, comma, and⟩ => ⟨balanced, comma, and⟩, fun h => ⟨h.balanced, h.comma, h.and⟩⟩

/-- A text in brackets before a fragment makes a fragment, whatever the text in
the brackets shows. -/
theorem Fragment.bracketed_append {inner rest : List Char} (hrest : Fragment rest)
    (h : Balanced inner) {opening closing : Char} (hopening : isOpening opening = true)
    (hclosing : isClosing closing = true) :
    Fragment (opening :: (inner ++ closing :: rest)) := by
  have hne : ∀ c, isOpening c = false → c ≠ opening := by
    rintro c hc rfl
    rw [hc] at hopening
    exact Bool.noConfusion hopening
  constructor
  · have hbrackets := (h.bracketed hopening hclosing).append hrest.balanced
    simpa using hbrackets
  · rw [avoids_bracketed_append hopening hclosing h (hne ',' rfl)]
    exact hrest.comma
  · rw [avoids_bracketed_append hopening hclosing h (hne 'a' rfl)]
    exact hrest.and

theorem fragment_nil : Fragment [] := ⟨balanced_nil, trivial, trivial⟩

theorem fragment_bracketed {inner : List Char} (h : Balanced inner) :
    Fragment ('(' :: (inner ++ [')'])) :=
  fragment_nil.bracketed_append h rfl rfl

theorem Fragment.cons {c : Char} {text : List Char} (h : Fragment text) (hc : isPlain c = true)
    (hcomma : c ≠ ',') (hand : ¬ ['a', 'n', 'd'] <+: c :: text) : Fragment (c :: text) := by
  refine ⟨?_, ⟨?_, ?_⟩, ⟨fun _ => hand, ?_⟩⟩
  · rw [Balanced, Place.scan_cons, Place.step_plain hc]
    exact h.balanced
  · exact fun _ hprefix => hcomma (List.cons_prefix_cons.mp hprefix).1.symm
  · rw [Place.step_plain hc]
    exact h.comma
  · rw [Place.step_plain hc]
    exact h.and

theorem Fragment.negated {text : List Char} (h : Fragment text) : Fragment ('!' :: text) :=
  h.cons (by decide) (by decide) (by simp)

/-! ## Cutting -/

theorem cut_append_of_length {separator skipped : List Char} (place : Place)
    (rest : List Char) :
    cut separator place skipped.length (skipped ++ rest)
      = cut separator (place.scan skipped) 0 rest := by
  induction skipped generalizing place with
  | nil => rfl
  | cons c skipped ih => exact ih (place.step c)

/-- Nothing is cut off a text at whose places the separator does not begin. -/
theorem cut_append {separator text rest : List Char} {place : Place}
    (h : ∀ before c after, text = before ++ c :: after → place.scan before = .outside 0 →
      ¬ separator <+: c :: (after ++ rest)) :
    cut separator place 0 (text ++ rest)
      = (cut separator (place.scan text) 0 rest).modifyHead (text ++ ·) := by
  induction text generalizing place with
  | nil => cases hcut : cut separator place 0 rest <;> simp [hcut]
  | cons c text ih =>
      have hhere : ¬ (place = .outside 0 ∧ separator <+: c :: (text ++ rest)) := by
        rintro ⟨hplace, hprefix⟩
        exact h [] c text rfl hplace hprefix
      rw [List.cons_append, cut, if_neg hhere, ih, List.modifyHead_modifyHead]
      · rfl
      · intro before d after htext hplace
        exact h (c :: before) d after (by rw [htext]; rfl) hplace

theorem Avoids.not_prefix {text before after : List Char} {place : Place} {c : Char}
    (h : Avoids word place text) (htext : text = before ++ c :: after)
    (hplace : place.scan before = .outside 0) : ¬ word <+: c :: after := by
  induction before generalizing place text with
  | nil =>
      subst htext
      exact h.1 hplace
  | cons d before ih =>
      subst htext
      exact ih h.2 rfl hplace

/-- A plain word that, with a blank behind it, does not overlap itself. -/
structure Separates (word : List Char) : Prop where
  nonempty : word ≠ []
  plain : ∀ c ∈ word, isPlain c = true
  apart : ∀ n < word.length, 0 < n → ¬ (word ++ [' ']).drop n <+: word ++ [' ']

namespace Separates

theorem scan_separator (hword : Separates word) :
    (Place.outside 0).scan (word ++ [' ']) = .outside 0 := by
  apply balanced_of_plain
  intro c hc
  rcases List.mem_append.mp hc with hc | hc
  · exact hword.plain c hc
  · obtain rfl : c = ' ' := by simpa using hc
    decide

/-- Where a text ends and a separator follows, another separator begins no
earlier than the text ends. -/
theorem not_prefix_append (hword : Separates word) {c : Char} {after : List Char}
    (h : ¬ word <+: c :: after) (rest : List Char) :
    ¬ word ++ [' '] <+: c :: (after ++ (word ++ [' '] ++ rest)) := by
  intro hprefix
  rw [← List.cons_append] at hprefix
  rcases Nat.lt_or_ge (c :: after).length word.length with hlt | hge
  · -- the separator would begin again in the middle of itself
    have hdrop := List.IsPrefix.drop hprefix (c :: after).length
    rw [List.drop_left] at hdrop
    have hlength : ((word ++ [' ']).drop (c :: after).length).length ≤ (word ++ [' ']).length := by
      rw [List.length_drop]
      omega
    apply hword.apart (c :: after).length hlt (by simp)
    exact List.prefix_of_prefix_length_le hdrop (List.prefix_append _ _) hlength
  · exact h (List.prefix_of_prefix_length_le ((List.prefix_append _ _).trans hprefix)
      (List.prefix_append _ _) hge)

theorem cut_append_separator (hword : Separates word) {text : List Char} (h : Balanced text)
    (havoids : Avoids word (.outside 0) text) (rest : List Char) :
    cut (word ++ [' ']) (.outside 0) 0 (text ++ (word ++ [' '] ++ rest))
      = text :: cut (word ++ [' ']) (.outside 0) 0 rest := by
  have hscan := hword.scan_separator
  rw [cut_append, h]
  · obtain ⟨c, tail, rfl⟩ := List.exists_cons_of_ne_nil hword.nonempty
    have hhere : Place.outside 0 = .outside 0
        ∧ c :: tail ++ [' '] <+: c :: (tail ++ [' '] ++ rest) :=
      ⟨rfl, List.prefix_append (c :: tail ++ [' ']) rest⟩
    show List.modifyHead _ (cut (c :: tail ++ [' ']) _ 0 (c :: (tail ++ [' '] ++ rest))) = _
    rw [cut, if_pos hhere]
    -- the rest of the separator is skipped, and leaves the scanner where it was
    have hlength : (c :: tail ++ [' ']).length - 1 = (tail ++ [' ']).length := by simp
    rw [hlength, cut_append_of_length, ← Place.scan_cons, ← List.cons_append, hscan]
    simp
  · intro before d after htext hplace
    exact hword.not_prefix_append (havoids.not_prefix htext hplace) rest

theorem cut_of_avoids {text : List Char} (havoids : Avoids word (.outside 0) text) :
    cut (word ++ [' ']) (.outside 0) 0 text = [text] := by
  have hcut : cut (word ++ [' ']) (.outside 0) 0 (text ++ [])
      = List.modifyHead (text ++ ·) [[]] := by
    apply cut_append
    intro before d after htext hplace hprefix
    rw [List.append_nil] at hprefix
    exact havoids.not_prefix htext hplace ((List.prefix_append _ _).trans hprefix)
  simpa using hcut

theorem cut_row (hword : Separates word) {text : List Char} {rest : List (List Char)}
    (h : Balanced text ∧ Avoids word (.outside 0) text)
    (hrest : ∀ next ∈ rest, Balanced next ∧ Avoids word (.outside 0) next) :
    cut (word ++ [' ']) (.outside 0) 0 (text ++ rest.flatMap (word ++ [' '] ++ ·))
      = text :: rest := by
  induction rest generalizing text with
  | nil =>
      rw [List.flatMap_nil, List.append_nil]
      exact cut_of_avoids h.2
  | cons next rest ih =>
      obtain ⟨hnext, hothers⟩ := List.forall_mem_cons.mp hrest
      rw [List.flatMap_cons, List.append_assoc, hword.cut_append_separator h.1 h.2,
        ih hnext hothers]

end Separates

theorem balanced_joined {separator : String} {texts : List String}
    (hseparator : Balanced separator.toList) (h : ∀ text ∈ texts, Balanced text.toList) :
    Balanced (joined separator texts).toList := by
  cases texts with
  | nil => exact balanced_nil
  | cons text rest =>
      obtain ⟨htext, hrest⟩ := List.forall_mem_cons.mp h
      rw [toList_joined_cons]
      apply htext.append
      induction rest with
      | nil => exact balanced_nil
      | cons next rest ih =>
          obtain ⟨hnext, hothers⟩ := List.forall_mem_cons.mp hrest
          rw [List.flatMap_cons]
          refine (hseparator.append hnext).append (ih ?_ hothers)
          exact List.forall_mem_cons.mpr ⟨htext, hothers⟩

/-- **Joined texts are got back by cutting at the separator**, if each is
balanced and avoids the separator's word. -/
theorem cutAt_joined {separator : String} (hword : Separates word)
    (hseparator : separator.toList = word ++ [' ']) {texts : List String} (hne : texts ≠ [])
    (h : ∀ text ∈ texts, Balanced text.toList ∧ Avoids word (.outside 0) text.toList) :
    cutAt separator (joined separator texts) = texts := by
  obtain ⟨text, rest, rfl⟩ := List.exists_cons_of_ne_nil hne
  obtain ⟨htext, hrest⟩ := List.forall_mem_cons.mp h
  have htexts : ∀ next ∈ rest.map String.toList,
      Balanced next ∧ Avoids word (.outside 0) next := by
    simpa using hrest
  have hrow := hword.cut_row htext htexts
  rw [List.flatMap_map, ← hseparator] at hrow
  rw [cutAt, toList_joined_cons, hrow]
  simp

end Yql.Text
