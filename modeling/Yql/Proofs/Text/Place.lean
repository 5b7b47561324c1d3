import Mathlib.Algebra.Group.Nat.Even
import Yql.Text.Quoted

/-!
# Brackets and literals

A scanner reads query text from left to right and keeps its place: how many
brackets are open, and whether it stands in a literal, where a backslash makes
it skip the next character. A text that begins and ends outside of everything
and closes no bracket that it did not open is balanced.

The quotes of a literal are found again as long as no backslash of its text
meets a quote: a quote of the text is written with a backslash before it, and
one more backslash in front of that would take its meaning away. Rows of
backslashes of even length do no harm.
-/

namespace Yql.Text

def isOpening (c : Char) : Bool :=
  c = '(' || c = '\x7b'

def isClosing (c : Char) : Bool :=
  c = ')' || c = '\x7d'

def isPlain (c : Char) : Bool :=
  !isOpening c && !isClosing c && c ≠ '\''

/-- Where a scanner of query text stands: outside of literals, inside a
literal, right behind a backslash of a literal, or lost behind a bracket that
closes nothing. -/
inductive Place where
  | outside (depth : Nat)
  | inside (depth : Nat)
  | skipping (depth : Nat)
  | lost
  deriving DecidableEq

namespace Place

def step : Place → Char → Place
  | outside depth, c =>
      if isOpening c then outside (depth + 1)
      else if isClosing c then
        match depth with
        | 0 => lost
        | depth + 1 => outside depth
      else if c = '\'' then inside depth
      else outside depth
  | inside depth, c =>
      if c = '\\' then skipping depth else if c = '\'' then outside depth else inside depth
  | skipping depth, _ => inside depth
  | lost, _ => lost

def scan (place : Place) (text : List Char) : Place :=
  text.foldl step place

/-- The same place with more brackets open around it. -/
def deeper (more : Nat) : Place → Place
  | outside depth => outside (depth + more)
  | inside depth => inside (depth + more)
  | skipping depth => skipping (depth + more)
  | lost => lost

@[simp] theorem scan_nil (place : Place) : place.scan [] = place := rfl

@[simp] theorem scan_cons (place : Place) (c : Char) (rest : List Char) :
    place.scan (c :: rest) = (place.step c).scan rest := rfl

@[simp] theorem scan_append (place : Place) (first second : List Char) :
    place.scan (first ++ second) = (place.scan first).scan second :=
  List.foldl_append

theorem scan_lost (text : List Char) : lost.scan text = lost := by
  induction text with
  | nil => rfl
  | cons c rest ih => exact ih

theorem step_ne_lost {place : Place} {c : Char} {rest : List Char}
    (h : place.scan (c :: rest) ≠ lost) : place.step c ≠ lost := by
  intro hlost
  rw [scan_cons, hlost, scan_lost] at h
  exact h rfl

theorem step_opening {c : Char} (h : isOpening c = true) (depth : Nat) :
    (outside depth).step c = outside (depth + 1) := by
  simp [step, h]

theorem step_closing {c : Char} (h : isClosing c = true) (depth : Nat) :
    (outside (depth + 1)).step c = outside depth := by
  have hopening : isOpening c = false := by
    simp only [isClosing, Bool.or_eq_true, decide_eq_true_eq] at h
    rcases h with rfl | rfl <;> decide
  simp [step, h, hopening]

theorem step_plain {c : Char} (h : isPlain c = true) (depth : Nat) :
    (outside depth).step c = outside depth := by
  simp only [isPlain, Bool.and_eq_true, Bool.not_eq_true', decide_eq_true_eq] at h
  obtain ⟨⟨hopening, hclosing⟩, hquote⟩ := h
  simp [step, hopening, hclosing, hquote]

/-! ## More brackets around a text -/

/-- Brackets that are open around a text change nothing about it, as long as
it closes none of them. -/
theorem step_deeper {place : Place} {c : Char} (h : place.step c ≠ lost) (more : Nat) :
    (place.deeper more).step c = (place.step c).deeper more := by
  cases place with
  | outside depth =>
      by_cases hopening : isOpening c = true
      · simp [deeper, step, hopening, Nat.add_right_comm]
      · by_cases hclosing : isClosing c = true
        · cases depth with
          | zero => exact absurd (by simp [step, hopening, hclosing]) h
          | succ depth =>
              rw [step_closing hclosing, deeper, Nat.add_right_comm, step_closing hclosing, deeper]
        · by_cases hquote : c = '\''
          · subst hquote
            rfl
          · simp [deeper, step, hopening, hclosing, hquote]
  | inside depth =>
      by_cases hslash : c = '\\'
      · simp [deeper, step, hslash]
      · by_cases hquote : c = '\''
        · subst hquote
          rfl
        · simp [deeper, step, hslash, hquote]
  | skipping depth => rfl
  | lost => exact absurd rfl h

theorem scan_deeper {place : Place} {text : List Char} (h : place.scan text ≠ lost)
    (more : Nat) : (place.deeper more).scan text = (place.scan text).deeper more := by
  induction text generalizing place with
  | nil => rfl
  | cons c rest ih =>
      rw [scan_cons, step_deeper (step_ne_lost h), ih h, scan_cons]

end Place

/-! ## Balanced texts -/

/-- A text begins and ends outside of brackets and literals, and closes no
bracket that it did not open. -/
def Balanced (text : List Char) : Prop :=
  (Place.outside 0).scan text = .outside 0

instance : DecidablePred Balanced := fun text =>
  inferInstanceAs (Decidable ((Place.outside 0).scan text = .outside 0))

theorem Balanced.scan_outside {text : List Char} (h : Balanced text) (depth : Nat) :
    (Place.outside depth).scan text = .outside depth := by
  have hne : (Place.outside 0).scan text ≠ .lost := by
    rw [h]
    simp
  have hdeeper := Place.scan_deeper hne depth
  rw [h] at hdeeper
  simpa [Place.deeper] using hdeeper

theorem balanced_nil : Balanced [] := rfl

theorem Balanced.append {first second : List Char} (hfirst : Balanced first)
    (hsecond : Balanced second) : Balanced (first ++ second) := by
  rw [Balanced, Place.scan_append, hfirst, hsecond]

theorem Balanced.bracketed {inner : List Char} (h : Balanced inner) {opening closing : Char}
    (hopening : isOpening opening = true) (hclosing : isClosing closing = true) :
    Balanced (opening :: (inner ++ [closing])) := by
  rw [Balanced, Place.scan_cons, Place.step_opening hopening, Place.scan_append,
    h.scan_outside, Place.scan_cons, Place.step_closing hclosing, Place.scan_nil]

theorem balanced_of_plain {text : List Char} (h : ∀ c ∈ text, isPlain c = true) :
    Balanced text := by
  induction text with
  | nil => rfl
  | cons c rest ih =>
      obtain ⟨hc, hrest⟩ := List.forall_mem_cons.mp h
      rw [Balanced, Place.scan_cons, Place.step_plain hc]
      exact ih hrest

/-! ## Literals -/

/-- Every row of backslashes right before a single quote or the end of the
text has even length. -/
def EvenBackslashes (text : List Char) : Prop :=
  ∀ before count after, text = before ++ List.replicate count '\\' ++ after →
    before.getLast? ≠ some '\\' → after = [] ∨ after.head? = some '\'' → Even count

theorem evenBackslashes_of_not_mem {text : List Char} (h : '\\' ∉ text) :
    EvenBackslashes text := by
  intro before count after htext _ _
  cases count with
  | zero => exact Even.zero
  | succ count =>
      apply absurd _ h
      simp [htext, List.replicate_succ]

/-- What is behind a row of backslashes and one more character is even if the
whole is. -/
theorem EvenBackslashes.of_append_cons {count : Nat} {c : Char} {rest : List Char}
    (h : EvenBackslashes (List.replicate count '\\' ++ c :: rest)) (hc : c ≠ '\\') :
    EvenBackslashes rest := by
  intro before more after hrest hbefore hafter
  refine h (List.replicate count '\\' ++ c :: before) more after (by simp [hrest]) ?_ hafter
  rcases List.eq_nil_or_concat before with rfl | ⟨front, last, rfl⟩
  · simpa using hc
  · rw [List.concat_eq_append, ← List.cons_append, ← List.append_assoc, List.getLast?_concat]
    simpa using hbefore

/-- The scanner is still inside the literal behind the text of it. The
induction is on the text; `count` backslashes of it stand right before, and
an odd number of them makes the scanner skip. -/
theorem scan_escapedChars {count : Nat} {text : List Char}
    (h : EvenBackslashes (List.replicate count '\\' ++ text)) (depth : Nat) :
    (if Even count then Place.inside depth else .skipping depth).scan (escapedChars text)
      = .inside depth := by
  induction text generalizing count with
  | nil =>
      have heven : Even count := h [] count [] (by simp) (by simp) (.inl rfl)
      simp [heven, escapedChars]
  | cons c rest ih =>
      by_cases hslash : c = '\\'
      · subst hslash
        have hmore : EvenBackslashes (List.replicate (count + 1) '\\' ++ rest) := by
          rwa [List.replicate_succ', List.append_assoc]
        have ih := ih hmore
        rw [escapedChars_of_ne (by decide), Place.scan_cons]
        -- one backslash more: what was skipped is not, and the other way round
        by_cases heven : Even count
        · rw [if_neg (by simpa [Nat.even_add_one] using heven)] at ih
          rw [if_pos heven]
          exact ih
        · rw [if_pos (by simpa [Nat.even_add_one] using heven)] at ih
          rw [if_neg heven]
          exact ih
      · have hrest : EvenBackslashes (List.replicate 0 '\\' ++ rest) := h.of_append_cons hslash
        have ih := ih hrest
        rw [if_pos Even.zero] at ih
        by_cases hquote : c = '\''
        · -- the backslash written before the quote makes the scanner skip it
          subst hquote
          have heven : Even count :=
            h [] count ('\'' :: rest) (by simp) (by simp) (.inr rfl)
          rw [if_pos heven, escapedChars_quote]
          exact ih
        · rw [escapedChars_of_ne hquote, Place.scan_cons]
          split
          · simpa [Place.step, hslash, hquote] using ih
          · exact ih

theorem balanced_quoted {text : String} (h : EvenBackslashes text.toList) :
    Balanced (quoted text).toList := by
  have htext : EvenBackslashes (List.replicate 0 '\\' ++ text.toList) := h
  have hscan := scan_escapedChars htext 0
  rw [if_pos Even.zero] at hscan
  have hquoted : (quoted text).toList = '\'' :: (escapedChars text.toList ++ ['\'']) := by
    simp [quoted]
  rw [hquoted, Balanced, Place.scan_cons, Place.scan_append]
  show ((Place.inside 0).scan (escapedChars text.toList)).scan ['\''] = .outside 0
  rw [hscan]
  rfl

end Yql.Text
