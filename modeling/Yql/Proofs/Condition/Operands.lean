import Yql.Proofs.Condition.Folded
import Yql.Proofs.Text.Bracket

/-!
# Operands of a combined text

Texts that are combined from the left stand one behind the other, with the word
between them and all further brackets in front (`toList_foldl_bracketed`). A
balanced text that was put in brackets before it was combined with other
balanced texts keeps these brackets: the closing one closes the opening one, and
nothing in between has the brackets around it that a joining word has
(`enclosed`). So the texts are found again in what they were combined to
(`foldedText_group_inj`).
-/

namespace Yql.Condition

open Text (Brackets Place)
open Text.Place (outside)

variable (connective : Connective)

/-! ## Where the operands stand -/

/-- What one more operand adds behind the text that it is combined with. -/
def addition (text : String) : List Char :=
  ' ' :: (connective.word.toList ++ ' ' :: (text.toList ++ [')']))

/-- What stands before the word that joins the first operands to the next, when
so many more are to come. -/
def joint (front : List String) (count : Nat) : List Char :=
  List.replicate count '(' ++ (foldedText connective front).toList

/-- What stands before an operand with the operands `before` it and so many
behind it. -/
def opened (before : List String) (count : Nat) : List Char :=
  if before = [] then List.replicate count '('
  else joint connective before (count + 1) ++ ' ' :: (connective.word.toList ++ [' '])

/-- What stands behind an operand. -/
def closed (before after : List String) : List Char :=
  (if before = [] then [] else [')']) ++ after.flatMap (addition connective)

theorem toList_bracketed (left right : String) :
    (connective.bracketed left right).toList
      = '(' :: (left.toList ++ addition connective right) := by
  simp [Connective.bracketed, addition]

/-- All brackets are opened in front. -/
theorem toList_foldl_bracketed (first : String) (rest : List String) :
    (rest.foldl connective.bracketed first).toList
      = List.replicate rest.length '('
        ++ (first.toList ++ rest.flatMap (addition connective)) := by
  induction rest generalizing first with
  | nil => simp
  | cons next rest ih =>
      rw [List.foldl_cons, ih, toList_bracketed, List.length_cons, List.replicate_succ',
        List.flatMap_cons]
      simp

variable {before after front rest : List String}

theorem replicate_append_joint (more count : Nat) :
    List.replicate more '(' ++ joint connective front count
      = joint connective front (more + count) := by
  rw [joint, ← List.append_assoc, List.replicate_append_replicate]
  rfl

theorem toList_foldedText_joint (hfront : front ≠ []) (text : String) (rest : List String) :
    (foldedText connective (front ++ text :: rest)).toList
      = joint connective front (rest.length + 1)
        ++ (addition connective text ++ rest.flatMap (addition connective)) := by
  obtain ⟨first, others, rfl⟩ := List.exists_cons_of_ne_nil hfront
  rw [List.cons_append, foldedText, List.foldl_append, List.foldl_cons, toList_foldl_bracketed,
    toList_bracketed, joint, foldedText, List.replicate_succ']
  simp

theorem joint_append_cons (hfront : front ≠ []) (next : String) (more : List String)
    (count : Nat) :
    joint connective (front ++ next :: more) count
      = joint connective front (count + (more.length + 1))
        ++ (addition connective next ++ more.flatMap (addition connective)) := by
  rw [joint, toList_foldedText_joint connective hfront, ← List.append_assoc,
    replicate_append_joint]

theorem toList_foldedText_operand (before : List String) (text : String)
    (after : List String) :
    (foldedText connective (before ++ text :: after)).toList
      = opened connective before after.length
        ++ (text.toList ++ closed connective before after) := by
  by_cases hbefore : before = []
  · subst hbefore
    simp [foldedText, toList_foldl_bracketed, opened, closed]
  · rw [toList_foldedText_joint connective hbefore, opened, closed, if_neg hbefore,
      if_neg hbefore]
    simp [addition]

theorem replicate_append_opened (more count : Nat) :
    List.replicate more '(' ++ opened connective before count
      = opened connective before (more + count) := by
  unfold opened
  split
  · rw [List.replicate_append_replicate]
  · rw [← List.append_assoc, replicate_append_joint, Nat.add_assoc]

/-- Every operand takes its addition and a bracket in front, but for what is
not needed to join the first to anything. -/
theorem length_foldedText (hfront : front ≠ []) :
    (foldedText connective front).toList.length + (connective.word.toList.length + 4)
      = front.length + (front.flatMap (addition connective)).length := by
  obtain ⟨first, rest, rfl⟩ := List.exists_cons_of_ne_nil hfront
  rw [foldedText, toList_foldl_bracketed]
  simp [addition]
  omega

/-! ## Brackets around the operands -/

variable {brackets : Brackets} {text : String}

def group (text : String) : String :=
  "(" ++ text ++ ")"

theorem toList_group (text : String) : (group text).toList = '(' :: (text.toList ++ [')']) := by
  simp [group]

theorem balanced_group (h : brackets.Balanced text.toList) :
    brackets.Balanced (group text).toList := by
  rw [toList_group]
  exact h.bracketed

theorem balanced_word : brackets.Balanced (' ' :: (connective.word.toList ++ [' '])) := by
  cases connective <;> rfl

theorem balanced_bracketed {left right : String} (hleft : brackets.Balanced left.toList)
    (hright : brackets.Balanced right.toList) :
    brackets.Balanced (connective.bracketed left right).toList := by
  have hword : brackets.Balanced _ := balanced_word connective
  have hinner := ((hleft.append hword).append hright).bracketed
  simpa [Connective.bracketed] using hinner

theorem balanced_foldedText (h : ∀ text ∈ front, brackets.Balanced text.toList) :
    brackets.Balanced (foldedText connective front).toList := by
  cases front with
  | nil => rfl
  | cons first rest =>
      obtain ⟨hfirst, hrest⟩ := List.forall_mem_cons.mp h
      rw [foldedText]
      clear h
      induction rest generalizing first with
      | nil => exact hfirst
      | cons next rest ih =>
          obtain ⟨hnext, hothers⟩ := List.forall_mem_cons.mp hrest
          exact ih _ (balanced_bracketed connective hfirst hnext) hothers

theorem scan_replicate (count : Nat) :
    brackets.scan (outside 0) (List.replicate count '(') = outside count := by
  induction count with
  | zero => rfl
  | succ count ih =>
      rw [List.replicate_succ', Brackets.scan_append, ih]
      rfl

theorem scan_joint (h : ∀ text ∈ front, brackets.Balanced text.toList) (count : Nat) :
    brackets.scan (outside 0) (joint connective front count) = outside count := by
  rw [joint, Brackets.scan_append, scan_replicate,
    (balanced_foldedText connective h).scan_outside]

theorem scan_opened (h : ∀ text ∈ before, brackets.Balanced text.toList) (count : Nat) :
    brackets.scan (outside 0) (opened connective before count)
      = outside (if before = [] then count else count + 1) := by
  unfold opened
  split
  · exact scan_replicate count
  · rw [Brackets.scan_append, scan_joint connective h,
      (balanced_word connective).scan_outside]

/-! ## What is enclosed -/

/-- The brackets of a text that was combined with others hold together: the
closing bracket closes the opening one, and wherever a reader stands between
them outside of literals, the brackets around that place are other ones than
those around a joining word. Joining words stand less deep, except those further
left, which are shut away in brackets that were closed before. -/
structure Enclosed (brackets : Brackets) (before : List String) (text : String)
    (after : List String) : Prop where
  text_eq : (foldedText connective (before ++ group text :: after)).toList
    = opened connective before after.length
      ++ '(' :: (text.toList ++ ')' :: closed connective before after)
  closing : brackets.upToClosing (outside 0) (text.toList ++ ')' :: closed connective before after)
    = some (text.toList, closed connective before after)
  apart : ∀ inner outer, text.toList = inner ++ outer →
    brackets.Outside (opened connective before after.length ++ '(' :: inner) →
    ∀ front next rest, before ++ group text :: after = front ++ next :: rest → front ≠ [] →
      ¬brackets.SameBrackets (opened connective before after.length ++ '(' :: inner)
        (joint connective front (rest.length + 1))
  deeper : ∀ inner outer depth, text.toList = inner ++ outer →
    brackets.scan (outside 0) (opened connective before after.length ++ '(' :: inner)
      = outside depth →
    ∀ front next rest, before ++ group text :: after = front ++ next :: rest → front ≠ [] →
      before.length ≤ front.length →
      ∃ less < depth,
        brackets.scan (outside 0) (joint connective front (rest.length + 1)) = outside less

theorem split_cases {next : String} (h : before ++ text :: after = front ++ next :: rest) :
    (∃ more, before = front ++ next :: more ∧ rest = more ++ text :: after)
      ∨ (before = front ∧ after = rest)
      ∨ ∃ more, front = before ++ text :: more ∧ after = more ++ next :: rest := by
  obtain ⟨more, hfront, hmore⟩ | ⟨more, hbefore, hmore⟩ := List.append_eq_append_iff.mp h
  · cases more with
    | nil => exact .inr (.inl ⟨by simpa using hfront.symm, (List.cons.inj hmore).2⟩)
    | cons first more =>
        obtain ⟨rfl, hafter⟩ := List.cons.inj hmore
        exact .inr (.inr ⟨more, hfront, hafter⟩)
  · cases more with
    | nil => exact .inr (.inl ⟨by simpa using hbefore, (List.cons.inj hmore).2.symm⟩)
    | cons first more =>
        obtain ⟨rfl, hrest⟩ := List.cons.inj hmore
        exact .inl ⟨more, hbefore, hrest⟩

/-- A joining word that does not stand behind an operand stands before all that
is written before the operand. -/
theorem exists_opened_eq_joint_append (hfront : front ≠ []) {next : String}
    (h : (∃ more, before = front ++ next :: more ∧ rest = more ++ text :: after)
      ∨ (before = front ∧ after = rest)) :
    ∃ between, opened connective before after.length
      = joint connective front (rest.length + 1) ++ between := by
  rcases h with ⟨more, rfl, rfl⟩ | ⟨rfl, rfl⟩
  · have hbefore : front ++ next :: more ≠ [] := by simp
    have hcount : after.length + 1 + (more.length + 1)
        = (more ++ text :: after).length + 1 := by
      simp
      omega
    rw [opened, if_neg hbefore, joint_append_cons connective hfront, hcount, List.append_assoc]
    exact ⟨_, rfl⟩
  · rw [opened, if_neg hfront]
    exact ⟨_, rfl⟩

theorem joint_eq_opened_append (before : List String) (text : String)
    (more : List String) (next : String) (rest : List String) :
    joint connective (before ++ group text :: more) (rest.length + 1)
      = opened connective before (more ++ next :: rest).length
        ++ '(' :: (text.toList ++ ')' :: closed connective before more) := by
  have hcount : (more ++ next :: rest).length = rest.length + 1 + more.length := by
    simp
    omega
  rw [joint, toList_foldedText_operand, toList_group, ← List.append_assoc,
    replicate_append_opened, hcount]
  simp

section

variable {next : String}
  (hmembers : ∀ member ∈ before ++ group text :: after, brackets.Balanced member.toList)
  (htext : brackets.Balanced text.toList)
  (hsplit : before ++ group text :: after = front ++ next :: rest) (hfront : front ≠ [])

include hmembers htext

/-- Inside of its brackets a text is scanned as if it stood alone, only
deeper. -/
theorem scan_opened_append {inner outer : List Char} (hinner : text.toList = inner ++ outer) :
    brackets.scan (outside 0) (opened connective before after.length ++ '(' :: inner)
      = (brackets.scan (outside 0) inner).deeper
          ((if before = [] then after.length else after.length + 1) + 1) := by
  have hbefore : ∀ member ∈ before, brackets.Balanced member.toList := fun member hmember =>
    hmembers member (List.mem_append_left _ hmember)
  rw [Brackets.scan_append, scan_opened connective hbefore, Brackets.scan_cons]
  exact Brackets.scan_outside_of_ne_lost (htext.ne_lost hinner) _

include hsplit hfront

/-- A place inside of an operand has other brackets around it than any joining
word. -/
theorem not_sameBrackets_joint {inner outer : List Char} (hinner : text.toList = inner ++ outer)
    (houtside : brackets.Outside (opened connective before after.length ++ '(' :: inner)) :
    ¬brackets.SameBrackets (opened connective before after.length ++ '(' :: inner)
      (joint connective front (rest.length + 1)) := by
  have hscan : brackets.Outside inner := by
    obtain ⟨depth, hdepth⟩ := houtside
    rw [scan_opened_append connective hmembers htext hinner] at hdepth
    obtain ⟨k, hk, -⟩ := Place.exists_of_deeper_eq_outside hdepth
    exact ⟨k, hk⟩
  rintro ⟨between, hplaces, hbetween⟩
  rcases or_assoc.mpr (split_cases hsplit) with hleft | ⟨more, rfl, rfl⟩
  · -- the word stands before the operand
    obtain ⟨gap, hgap⟩ := exists_opened_eq_joint_append connective hfront hleft
    have hopened : brackets.Outside (joint connective front (rest.length + 1) ++ gap) := by
      rw [← hgap]
      exact ⟨_, scan_opened connective (fun member hmember =>
        hmembers member (List.mem_append_left _ hmember)) _⟩
    have hjoint : brackets.Outside (joint connective front (rest.length + 1)) := by
      refine ⟨_, scan_joint connective (fun member hmember => hmembers member ?_) _⟩
      rw [hsplit]
      exact List.mem_append_left _ hmember
    rw [hgap] at hplaces
    rcases hplaces with hplaces | hplaces
    · have hlength := congrArg List.length hplaces
      simp at hlength
    · rw [List.append_assoc, List.append_cancel_left_eq] at hplaces
      rw [← hplaces] at hbetween
      exact Brackets.not_balanced_opening hjoint hopened hscan hbetween
  · -- the word stands behind the operand
    rw [joint_eq_opened_append connective before text more next rest, hinner] at hplaces
    rcases hplaces with hplaces | hplaces
    · have hbehind : outer ++ ')' :: closed connective before more = between := by
        simpa using hplaces
      rw [← hbehind] at hbetween
      exact Brackets.not_balanced_closing htext hinner hscan hbetween
    · have hlength := congrArg List.length hplaces
      simp at hlength

/-- Right before an operand and anywhere behind it, a joining word stands less
deep than what is inside of the operand. -/
theorem exists_less {inner outer : List Char} {depth : Nat}
    (hinner : text.toList = inner ++ outer)
    (hdepth : brackets.scan (outside 0) (opened connective before after.length ++ '(' :: inner)
      = outside depth) (hle : before.length ≤ front.length) :
    ∃ less < depth,
      brackets.scan (outside 0) (joint connective front (rest.length + 1)) = outside less := by
  have hjoint : brackets.scan (outside 0) (joint connective front (rest.length + 1))
      = outside (rest.length + 1) := by
    refine scan_joint connective (fun member hmember => hmembers member ?_) _
    rw [hsplit]
    exact List.mem_append_left _ hmember
  rw [scan_opened_append connective hmembers htext hinner] at hdepth
  obtain ⟨k, -, rfl⟩ := Place.exists_of_deeper_eq_outside hdepth
  refine ⟨rest.length + 1, ?_, hjoint⟩
  rcases split_cases hsplit with ⟨more, rfl, -⟩ | ⟨rfl, rfl⟩ | ⟨more, -, rfl⟩
  · rw [List.length_append, List.length_cons] at hle
    omega
  · rw [if_neg hfront]
    omega
  · rw [List.length_append, List.length_cons]
    split <;> omega

end

variable {connective}

/-- A balanced text keeps its brackets in whatever it is combined with, if that
is balanced too. -/
theorem enclosed
    (hmembers : ∀ member ∈ before ++ group text :: after, brackets.Balanced member.toList)
    (htext : brackets.Balanced text.toList) : Enclosed connective brackets before text after where
  text_eq := by
    rw [toList_foldedText_operand, toList_group]
    simp
  closing := htext.upToClosing_eq _
  apart _ _ hinner houtside _ _ _ hsplit hfront :=
    not_sameBrackets_joint connective hmembers htext hsplit hfront hinner houtside
  deeper _ _ _ hinner hdepth _ _ _ hsplit hfront hle :=
    exists_less connective hmembers htext hsplit hfront hinner hdepth hle

/-! ## Finding the operands again -/

theorem flatMap_group_inj {firsts seconds : List String} {tail : List String}
    (hlength : firsts.length = seconds.length)
    (hfirsts : ∀ text ∈ firsts, brackets.Balanced text.toList)
    (hseconds : ∀ text ∈ seconds, brackets.Balanced text.toList)
    (heq : (firsts.map group ++ tail).flatMap (addition connective)
      = (seconds.map group ++ tail).flatMap (addition connective)) : firsts = seconds := by
  induction firsts generalizing seconds with
  | nil => exact (List.length_eq_zero_iff.mp hlength.symm).symm
  | cons first firsts ih =>
      obtain ⟨second, seconds, rfl⟩ := List.exists_cons_of_length_eq_add_one hlength.symm
      obtain ⟨hfirst, hfirsts⟩ := List.forall_mem_cons.mp hfirsts
      obtain ⟨hsecond, hseconds⟩ := List.forall_mem_cons.mp hseconds
      have hcount : firsts.length = seconds.length := by simpa using hlength
      -- behind the brackets of the operand stands that of the addition
      have hrows : first.toList
            ++ ')' :: ')' :: (firsts.map group ++ tail).flatMap (addition connective)
          = second.toList
            ++ ')' :: ')' :: (seconds.map group ++ tail).flatMap (addition connective) := by
        simpa [addition, toList_group] using heq
      obtain ⟨htext, hrest⟩ := hfirst.append_closing_inj hsecond hrows
      rw [String.toList_inj.mp htext, ih hcount hfirsts hseconds (List.cons.inj hrest).2]

/-- **Balanced texts in brackets are got back from what they were combined
to**, as long as it is known how many there are and what comes behind them. -/
theorem foldedText_group_inj {firsts seconds : List String} {tail : List String}
    (hlength : firsts.length = seconds.length)
    (hfirsts : ∀ text ∈ firsts, brackets.Balanced text.toList)
    (hseconds : ∀ text ∈ seconds, brackets.Balanced text.toList)
    (heq : foldedText connective (firsts.map group ++ tail)
      = foldedText connective (seconds.map group ++ tail)) : firsts = seconds := by
  cases firsts with
  | nil => exact (List.length_eq_zero_iff.mp hlength.symm).symm
  | cons first firsts =>
      obtain ⟨second, seconds, rfl⟩ := List.exists_cons_of_length_eq_add_one hlength.symm
      obtain ⟨hfirst, hfirsts⟩ := List.forall_mem_cons.mp hfirsts
      obtain ⟨hsecond, hseconds⟩ := List.forall_mem_cons.mp hseconds
      have hcount : firsts.length = seconds.length := by simpa using hlength
      have hrows := congrArg String.toList heq
      -- as many brackets are opened in front
      simp only [List.map_cons, List.cons_append, foldedText, toList_foldl_bracketed,
        List.length_append, List.length_map, hcount, List.append_cancel_left_eq, toList_group,
        List.cons.injEq, List.append_assoc, List.nil_append, true_and] at hrows
      obtain ⟨htext, hrest⟩ := hfirst.append_closing_inj hsecond hrows
      rw [String.toList_inj.mp htext, flatMap_group_inj hcount hfirsts hseconds hrest]

end Yql.Condition
