import Mathlib.Algebra.Ring.Parity
import Mathlib.Data.List.Induction
import Yql.Proofs.Text.Place

/-!
# Where a literal ends

Read from left to right, a literal begins with a quote, a backslash takes the
next character with it, and the first quote that is not taken ends the literal.
The writer of literals knows nothing of this reader: it leaves the backslashes
of a text as they are and puts one more before every quote. The reader finds
the end that was written just when every row of backslashes before a quote or
the end of the text has even length. An odd row before a quote takes the
backslash that was written for the quote, and the literal ends there; an odd
row at the end takes the closing quote, and the literal goes on.
-/

namespace Yql.Text

/-! ## Reading a literal -/

/-- What is left behind the literal whose opening quote was read; `taken` says
whether a backslash has taken the next character. -/
def afterOpening (taken : Bool) : List Char → Option (List Char)
  | [] => none
  | c :: rest =>
      if taken then afterOpening false rest
      else if c = '\\' then afterOpening true rest
      else if c = '\'' then some rest
      else afterOpening false rest

def afterLiteral : List Char → Option (List Char)
  | [] => none
  | c :: rest => if c = '\'' then afterOpening false rest else none

theorem exists_of_afterOpening {taken : Bool} {text rest : List Char}
    (h : afterOpening taken text = some rest) : ∃ inner, text = inner ++ '\'' :: rest := by
  induction text generalizing taken with
  | nil => exact nomatch h
  | cons c others ih =>
      simp only [afterOpening] at h
      split at h
      · obtain ⟨inner, rfl⟩ := ih h
        exact ⟨c :: inner, rfl⟩
      · split at h
        · obtain ⟨inner, rfl⟩ := ih h
          exact ⟨c :: inner, rfl⟩
        · split at h
          · rename_i hquote
            obtain rfl := Option.some.inj h
            exact ⟨[], by rw [hquote]; rfl⟩
          · obtain ⟨inner, rfl⟩ := ih h
            exact ⟨c :: inner, rfl⟩

theorem afterOpening_ne_some (taken : Bool) (text : List Char) :
    afterOpening taken text ≠ some text := by
  intro h
  obtain ⟨inner, htext⟩ := exists_of_afterOpening h
  have hlength := congrArg List.length htext
  simp at hlength
  omega

/-! ## Rows of backslashes -/

/-- Whether the row of backslashes at the end of the text has odd length. -/
def endsOdd (text : List Char) : Bool :=
  text.foldl (fun odd c => c = '\\' && !odd) false

theorem endsOdd_concat (text : List Char) (c : Char) :
    endsOdd (text ++ [c]) = (decide (c = '\\') && !endsOdd text) := by
  simp [endsOdd]

theorem endsOdd_of_getLast? {text : List Char} (h : text.getLast? ≠ some '\\') :
    endsOdd text = false := by
  rcases List.eq_nil_or_concat text with rfl | ⟨front, c, rfl⟩
  · rfl
  · rw [List.concat_eq_append] at h ⊢
    have hc : c ≠ '\\' := by simpa using h
    simp [endsOdd_concat, hc]

theorem endsOdd_append_replicate {before : List Char} (h : before.getLast? ≠ some '\\')
    (count : Nat) : endsOdd (before ++ List.replicate count '\\') = decide (Odd count) := by
  induction count with
  | zero => simpa using endsOdd_of_getLast? h
  | succ count ih =>
      rw [List.replicate_succ', ← List.append_assoc, endsOdd_concat, ih]
      simp [Nat.odd_add_one, ← Nat.not_even_iff_odd]

theorem exists_row (text : List Char) :
    ∃ before count, text = before ++ List.replicate count '\\'
      ∧ before.getLast? ≠ some '\\' := by
  induction text using List.reverseRecOn with
  | nil => exact ⟨[], 0, rfl, by simp⟩
  | append_singleton text c ih =>
      by_cases hc : c = '\\'
      · subst hc
        obtain ⟨before, count, rfl, hbefore⟩ := ih
        exact ⟨before, count + 1, by rw [List.replicate_succ', List.append_assoc], hbefore⟩
      · exact ⟨text ++ [c], 0, by simp, by simpa using hc⟩

/-- Every row of backslashes right before a single quote has even length. -/
def EvenBeforeQuotes (text : List Char) : Prop :=
  ∀ before count after, text = before ++ List.replicate count '\\' ++ '\'' :: after →
    before.getLast? ≠ some '\\' → Even count

theorem evenBeforeQuotes_of_not_mem {text : List Char} (h : '\'' ∉ text) :
    EvenBeforeQuotes text := by
  intro before count after htext _
  exact absurd (by simp [htext]) h

theorem evenBeforeQuotes_iff {text : List Char} :
    EvenBeforeQuotes text
      ↔ ∀ front after, text = front ++ '\'' :: after → endsOdd front = false := by
  constructor
  · intro h front after htext
    obtain ⟨before, count, rfl, hbefore⟩ := exists_row front
    rw [endsOdd_append_replicate hbefore]
    simpa using h before count after htext hbefore
  · intro h before count after htext hbefore
    have hodd := h (before ++ List.replicate count '\\') after htext
    rw [endsOdd_append_replicate hbefore] at hodd
    simpa using hodd

/-- The rows before quotes are even, and so is the row at the end. -/
theorem evenBackslashes_iff {text : List Char} :
    EvenBackslashes text ↔ EvenBeforeQuotes text ∧ endsOdd text = false := by
  constructor
  · intro h
    constructor
    · intro before count after htext hbefore
      exact h before count ('\'' :: after) htext hbefore (.inr rfl)
    · obtain ⟨before, count, rfl, hbefore⟩ := exists_row text
      rw [endsOdd_append_replicate hbefore]
      simpa using h before count [] (by simp) hbefore (.inl rfl)
  · rintro ⟨hquotes, hend⟩ before count after htext hbefore hafter
    rcases hafter with rfl | hafter
    · rw [htext, List.append_nil, endsOdd_append_replicate hbefore] at hend
      simpa using hend
    · obtain ⟨rest, rfl⟩ := List.head?_eq_some_iff.mp hafter
      exact hquotes before count rest htext hbefore

/-- One more character: a quote needs an even row before it. -/
theorem evenBeforeQuotes_concat {text : List Char} {c : Char} :
    EvenBeforeQuotes (text ++ [c])
      ↔ EvenBeforeQuotes text ∧ (c = '\'' → endsOdd text = false) := by
  simp only [evenBeforeQuotes_iff]
  constructor
  · intro h
    constructor
    · rintro front after rfl
      exact h front (after ++ [c]) (by simp)
    · rintro rfl
      exact h text [] rfl
  · rintro ⟨htext, hlast⟩ front after heq
    rcases List.eq_nil_or_concat after with rfl | ⟨after, d, rfl⟩
    · obtain ⟨rfl, hc⟩ := List.append_inj' heq rfl
      exact hlast (List.singleton_inj.mp hc)
    · rw [List.concat_eq_append, ← List.cons_append, ← List.append_assoc] at heq
      exact htext front after (List.append_inj' heq rfl).1

theorem evenBeforeQuotes_append_replicate {text : List Char} (count : Nat) :
    EvenBeforeQuotes (text ++ List.replicate count '\\') ↔ EvenBeforeQuotes text := by
  induction count with
  | zero => simp
  | succ count ih =>
      rw [List.replicate_succ', ← List.append_assoc, evenBeforeQuotes_concat, ih]
      simp

/-! ## The first odd row before a quote -/

/-- The first quote of a text that stands behind an odd row of backslashes:
what stands before the row, the length of the row, and what stands behind the
quote. -/
structure FirstOddRow (text before : List Char) (count : Nat) (after : List Char) : Prop where
  text_eq : text = before ++ List.replicate count '\\' ++ '\'' :: after
  maximal : before.getLast? ≠ some '\\'
  odd : Odd count
  first : EvenBeforeQuotes before

theorem exists_firstOddRow {text : List Char} (h : ¬EvenBeforeQuotes text) :
    ∃ before count after, FirstOddRow text before count after := by
  induction text using List.reverseRecOn with
  | nil => exact absurd (evenBeforeQuotes_of_not_mem (by simp)) h
  | append_singleton text c ih =>
      by_cases htext : EvenBeforeQuotes text
      · -- only the last character can be the quote
        obtain ⟨rfl, hodd⟩ : c = '\'' ∧ endsOdd text = true := by
          simpa [evenBeforeQuotes_concat, htext] using h
        obtain ⟨before, count, rfl, hbefore⟩ := exists_row text
        rw [endsOdd_append_replicate hbefore] at hodd
        exact ⟨before, count, [], rfl, hbefore, by simpa using hodd,
          (evenBeforeQuotes_append_replicate count).mp htext⟩
      · obtain ⟨before, count, after, hfirst⟩ := ih htext
        exact ⟨before, count, after ++ [c],
          { hfirst with text_eq := by simp [hfirst.text_eq] }⟩

/-! ## Reading what was written -/

/-- Behind a text whose rows before quotes are even the reader is still inside
the literal. -/
theorem afterOpening_escapedChars {text : List Char} (h : EvenBeforeQuotes text)
    (rest : List Char) :
    afterOpening false (escapedChars text ++ rest) = afterOpening (endsOdd text) rest := by
  induction text using List.reverseRecOn generalizing rest with
  | nil => rfl
  | append_singleton text c ih =>
      obtain ⟨htext, hlast⟩ := evenBeforeQuotes_concat.mp h
      rw [escapedChars_append, List.append_assoc, ih htext, endsOdd_concat]
      by_cases hquote : c = '\''
      · -- the backslash of the quote is not taken, and takes the quote
        subst hquote
        rw [hlast rfl]
        rfl
      · rw [escapedChars_of_ne hquote]
        show afterOpening (endsOdd text) (c :: rest) = _
        by_cases hslash : c = '\\'
        · subst hslash
          cases endsOdd text <;> rfl
        · cases endsOdd text <;> simp [afterOpening, hslash, hquote]

theorem afterLiteral_quoted_eq (text : String) (rest : List Char) :
    afterLiteral ((quoted text).toList ++ rest)
      = afterOpening false (escapedChars text.toList ++ '\'' :: rest) := by
  simp [quoted, afterLiteral]

theorem afterLiteral_of_even {text : String} (h : EvenBackslashes text.toList)
    (rest : List Char) : afterLiteral ((quoted text).toList ++ rest) = some rest := by
  obtain ⟨hquotes, hend⟩ := evenBackslashes_iff.mp h
  rw [afterLiteral_quoted_eq, afterOpening_escapedChars hquotes, hend]
  rfl

/-- The backslash of the first quote behind an odd row is taken, and the quote
ends the literal. -/
theorem FirstOddRow.afterLiteral_eq {text : String} {before after : List Char} {count : Nat}
    (h : FirstOddRow text.toList before count after) (rest : List Char) :
    afterLiteral ((quoted text).toList ++ rest) = some (escapedChars after ++ '\'' :: rest) := by
  have hfront := (evenBeforeQuotes_append_replicate count).mpr h.first
  have hodd : endsOdd (before ++ List.replicate count '\\') = true := by
    rw [endsOdd_append_replicate h.maximal]
    simpa using h.odd
  rw [afterLiteral_quoted_eq, h.text_eq, escapedChars_append, List.append_assoc,
    afterOpening_escapedChars hfront, hodd]
  rfl

theorem afterLiteral_of_endsOdd {text : String} (h : EvenBeforeQuotes text.toList)
    (hodd : ¬EvenBackslashes text.toList) (rest : List Char) :
    afterLiteral ((quoted text).toList ++ rest) = afterOpening false rest := by
  have hend : endsOdd text.toList = true := by simpa [evenBackslashes_iff, h] using hodd
  rw [afterLiteral_quoted_eq, afterOpening_escapedChars h, hend]
  rfl

/-- **Which texts are safe inside a literal.** The reader stops at the closing
quote that was written just when every row of backslashes before a quote or the
end of the text has even length. Otherwise, if some row before a quote is odd,
the literal ends at the first quote behind such a row, and what the text holds
behind it is read as query text; if only the row at the end is odd, the closing
quote is taken and the literal goes on. -/
theorem afterLiteral_quoted (text : String) (rest : List Char) :
    (afterLiteral ((quoted text).toList ++ rest) = some rest ↔ EvenBackslashes text.toList)
      ∧ (¬EvenBeforeQuotes text.toList →
        ∃ before count after, FirstOddRow text.toList before count after)
      ∧ (∀ before count after, FirstOddRow text.toList before count after →
        afterLiteral ((quoted text).toList ++ rest)
          = some (escapedChars after ++ '\'' :: rest))
      ∧ (EvenBeforeQuotes text.toList → ¬EvenBackslashes text.toList →
        afterLiteral ((quoted text).toList ++ rest) = afterOpening false rest) := by
  refine ⟨⟨?_, fun h => afterLiteral_of_even h rest⟩, exists_firstOddRow,
    fun _ _ _ h => h.afterLiteral_eq rest, fun h hodd => afterLiteral_of_endsOdd h hodd rest⟩
  intro h
  by_contra hodd
  by_cases hquotes : EvenBeforeQuotes text.toList
  · rw [afterLiteral_of_endsOdd hquotes hodd] at h
    exact afterOpening_ne_some false rest h
  · -- what is left is longer than what should be
    obtain ⟨before, count, after, hfirst⟩ := exists_firstOddRow hquotes
    rw [hfirst.afterLiteral_eq] at h
    have hlength := congrArg List.length (Option.some.inj h)
    simp at hlength
    omega

/-- A backslash before a quote lets what follows out of the literal, and one at
the end lets what comes next into it. -/
theorem afterLiteral_quoted_backslash :
    (∃ before count after, FirstOddRow "a\\' or true".toList before count after)
      ∧ afterLiteral ((quoted "a\\' or true").toList ++ [')']) = some " or true')".toList
      ∧ afterLiteral ((quoted "C:\\").toList ++ ", 'D:')".toList) = some "D:')".toList := by
  refine ⟨?_, ?_, ?_⟩
  · have hodd : ¬EvenBeforeQuotes "a\\' or true".toList := by
      intro h
      exact absurd (h ['a'] 1 " or true".toList (by decide) (by decide)) (by decide)
    exact (afterLiteral_quoted "a\\' or true" []).2.1 hodd
  · have hfirst : FirstOddRow "a\\' or true".toList ['a'] 1 " or true".toList :=
      { text_eq := by decide, maximal := by decide, odd := by decide
        first := evenBeforeQuotes_of_not_mem (by decide) }
    exact ((afterLiteral_quoted "a\\' or true" [')']).2.2.1 _ _ _ hfirst).trans (by decide)
  · have hquotes : EvenBeforeQuotes "C:\\".toList := evenBeforeQuotes_of_not_mem (by decide)
    have hodd : ¬EvenBackslashes "C:\\".toList := by
      rw [evenBackslashes_iff]
      exact fun h => absurd h.2 (by decide)
    exact ((afterLiteral_quoted "C:\\" ", 'D:')".toList).2.2.2 hquotes hodd).trans (by decide)

end Yql.Text
