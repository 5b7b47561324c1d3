import Yql.Proofs.Text.Place

/-!
# Matching brackets

Round brackets always count; braces and square brackets count or not, as one
likes. However that is decided, a balanced text in round brackets is found again
from its opening bracket: the first bracket that closes nothing behind it is the
one that was put behind the text (`Balanced.upToClosing_eq`). So a place inside
such a text has other brackets around it than any place before or behind it
(`not_balanced_opening`, `not_balanced_closing`).
-/

namespace Yql.Text

open Place (outside lost)

namespace Place

/-- Where the scanner is outside of literals with more brackets around it, it
is outside without them. -/
theorem exists_of_deeper_eq_outside {place : Place} {more depth : Nat}
    (h : place.deeper more = outside depth) :
    ∃ k, place = outside k ∧ depth = k + more := by
  cases place with
  | outside k =>
      simp only [deeper, outside.injEq] at h
      exact ⟨k, rfl, h.symm⟩
  | inside k => simp [deeper] at h
  | skipping k => simp [deeper] at h
  | lost => simp [deeper] at h

end Place

/-- Which brackets count besides the round ones. -/
structure Brackets where
  braces : Bool
  squares : Bool

namespace Brackets

variable (brackets : Brackets)

/-- A character as it counts: a bracket that counts is as good as a round one,
and one that does not count is as good as a blank. -/
def seen (c : Char) : Char :=
  if c = '\x7b' then if brackets.braces then '(' else ' '
  else if c = '\x7d' then if brackets.braces then ')' else ' '
  else if c = '[' then if brackets.squares then '(' else ' '
  else if c = ']' then if brackets.squares then ')' else ' '
  else c

def scan (place : Place) (text : List Char) : Place :=
  place.scan (text.map brackets.seen)

@[simp] theorem scan_nil (place : Place) : brackets.scan place [] = place := rfl

@[simp] theorem scan_cons (place : Place) (c : Char) (rest : List Char) :
    brackets.scan place (c :: rest) = brackets.scan (place.step (brackets.seen c)) rest := rfl

@[simp] theorem scan_append (place : Place) (first second : List Char) :
    brackets.scan place (first ++ second) = brackets.scan (brackets.scan place first) second := by
  rw [scan, List.map_append, Place.scan_append]
  rfl

/-- A text begins and ends outside of brackets and literals, and closes no
bracket that it did not open. -/
def Balanced (text : List Char) : Prop :=
  brackets.scan (outside 0) text = outside 0

instance : DecidablePred brackets.Balanced := fun text =>
  inferInstanceAs (Decidable (brackets.scan (outside 0) text = outside 0))

variable {brackets}

theorem Balanced.scan_outside {text : List Char} (h : brackets.Balanced text) (depth : Nat) :
    brackets.scan (outside depth) text = outside depth :=
  Text.Balanced.scan_outside h depth

theorem Balanced.append {first second : List Char} (hfirst : brackets.Balanced first)
    (hsecond : brackets.Balanced second) : brackets.Balanced (first ++ second) := by
  rw [Balanced, scan_append, hfirst, hsecond]

theorem Balanced.bracketed {inner : List Char} (h : brackets.Balanced inner) :
    brackets.Balanced ('(' :: (inner ++ [')'])) := by
  rw [Balanced, scan_cons, scan_append]
  show brackets.scan (brackets.scan (outside 1) inner) [')'] = outside 0
  rw [h.scan_outside]
  rfl

/-! ## The closing bracket -/

/-- What stands before and behind the first bracket that closes nothing. The
scanner stands at the given place before the text. -/
def upToClosing (brackets : Brackets) : Place → List Char → Option (List Char × List Char)
  | _, [] => none
  | place, c :: rest =>
      let next := place.step (brackets.seen c)
      if next = lost then some ([], rest)
      else (upToClosing brackets next rest).map fun (inner, rest) => (c :: inner, rest)

theorem upToClosing_append {place : Place} {inner : List Char}
    (h : brackets.scan place inner = outside 0) (rest : List Char) :
    brackets.upToClosing place (inner ++ ')' :: rest) = some (inner, rest) := by
  induction inner generalizing place with
  | nil =>
      rw [scan_nil] at h
      rw [h]
      rfl
  | cons c inner ih =>
      have hscan : place.scan (brackets.seen c :: inner.map brackets.seen) ≠ lost := by
        show brackets.scan place (c :: inner) ≠ lost
        rw [h]
        simp
      have hne := Place.step_ne_lost hscan
      rw [List.cons_append, upToClosing, if_neg hne, ih h]
      rfl

/-- Behind an opening bracket a balanced text ends at the bracket that was put
behind it. -/
theorem Balanced.upToClosing_eq {inner : List Char} (h : brackets.Balanced inner)
    (rest : List Char) :
    brackets.upToClosing (outside 0) (inner ++ ')' :: rest) = some (inner, rest) :=
  upToClosing_append h rest

theorem Balanced.append_closing_inj {inner inner' rest rest' : List Char}
    (h : brackets.Balanced inner) (h' : brackets.Balanced inner')
    (heq : inner ++ ')' :: rest = inner' ++ ')' :: rest') : inner = inner' ∧ rest = rest' := by
  have hleft := h.upToClosing_eq rest
  rw [heq, h'.upToClosing_eq rest'] at hleft
  simpa using hleft.symm

/-! ## Places with the same brackets around them -/

/-- Two places of a text, each given by what stands before it, have the same
brackets around them: what stands between them is balanced. -/
def SameBrackets (brackets : Brackets) (before before' : List Char) : Prop :=
  ∃ between, (before' = before ++ between ∨ before = before' ++ between)
    ∧ brackets.Balanced between

def Outside (brackets : Brackets) (text : List Char) : Prop :=
  ∃ depth, brackets.scan (outside 0) text = outside depth

theorem Balanced.ne_lost {text first second : List Char} (h : brackets.Balanced text)
    (htext : text = first ++ second) : brackets.scan (outside 0) first ≠ lost := by
  intro hlost
  have hwhole : brackets.scan (outside 0) (first ++ second) = outside 0 := by
    rw [← htext]
    exact h
  rw [scan_append, hlost, scan, Place.scan_lost] at hwhole
  exact nomatch hwhole

/-- A text that closes no bracket that it did not open is scanned alike at every
depth. -/
theorem scan_outside_of_ne_lost {text : List Char} (h : brackets.scan (outside 0) text ≠ lost)
    (depth : Nat) :
    brackets.scan (outside depth) text = (brackets.scan (outside 0) text).deeper depth := by
  have hdeeper := Place.scan_deeper h depth
  rwa [Place.deeper, Nat.zero_add] at hdeeper

/-- A place in brackets has other brackets around it than a place before
them. -/
theorem not_balanced_opening {outer between inner : List Char} (houter : brackets.Outside outer)
    (hbetween : brackets.Outside (outer ++ between)) (hinner : brackets.Outside inner) :
    ¬brackets.Balanced (between ++ '(' :: inner) := by
  intro hbalanced
  obtain ⟨d, hd⟩ := houter
  obtain ⟨e, he⟩ := hbetween
  obtain ⟨k, hk⟩ := hinner
  -- what stands between leaves the scanner outside of literals, so the bracket opens
  have hne := hbalanced.ne_lost rfl
  rw [scan_append, hd, scan_outside_of_ne_lost hne] at he
  obtain ⟨m, hm, -⟩ := Place.exists_of_deeper_eq_outside he
  have hdeep : brackets.scan (outside (m + 1)) inner = outside (k + (m + 1)) := by
    rw [scan_outside_of_ne_lost (by rw [hk]; simp), hk]
    rfl
  have hwhole : brackets.scan (outside (m + 1)) inner = outside 0 := by
    have hscan := hbalanced
    rw [Balanced, scan_append, hm, scan_cons] at hscan
    exact hscan
  rw [hdeep] at hwhole
  simp at hwhole

/-- A place in brackets has other brackets around it than a place behind
them. -/
theorem not_balanced_closing {inner first second behind : List Char}
    (h : brackets.Balanced inner) (hinner : inner = first ++ second)
    (hfirst : brackets.Outside first) : ¬brackets.Balanced (second ++ ')' :: behind) := by
  intro hbalanced
  obtain ⟨k, hk⟩ := hfirst
  have hne := hbalanced.ne_lost rfl
  have hsecond : brackets.scan (outside k) second = outside 0 := by
    have hscan : brackets.Balanced (first ++ second) := by
      rw [← hinner]
      exact h
    rwa [Balanced, scan_append, hk] at hscan
  rw [scan_outside_of_ne_lost hne] at hsecond
  obtain ⟨m, hm, hzero⟩ := Place.exists_of_deeper_eq_outside hsecond
  obtain rfl : m = 0 := by omega
  -- so the second part closes nothing, and the bracket behind it has nothing to close
  have hscan := hbalanced
  rw [Balanced, scan_append, hm, scan_cons] at hscan
  have hlost : brackets.scan lost behind = lost := Place.scan_lost _
  exact absurd (hlost.symm.trans hscan) (by simp)

end Brackets

end Yql.Text
