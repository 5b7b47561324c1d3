import Mathlib.Logic.Function.Iterate
import Yql.Text.Quoted

/-!
# Undoing the escapes

The backslash before a quote is put there without a look at what stands before
it, and so it can be taken away again without a look: leaving out whatever
stands right before a quote gives the text back, also where backslashes of the
text itself meet the one that was added. What can come out of escaping is known
by its quotes alone: each of them has a backslash right before it.
-/

namespace Yql.Text

/-- The character right before every single quote is left out. -/
def unescapedChars : List Char → List Char
  | [] => []
  | c :: rest =>
      if rest.head? = some '\'' then unescapedChars rest else c :: unescapedChars rest

def unescaped (text : String) : String :=
  String.ofList (unescapedChars text.toList)

@[simp] theorem toList_unescaped (text : String) :
    (unescaped text).toList = unescapedChars text.toList := by
  simp [unescaped]

theorem unescapedChars_of_head? {rest : List Char} (h : rest.head? = some '\'') (c : Char) :
    unescapedChars (c :: rest) = unescapedChars rest :=
  if_pos h

theorem unescapedChars_of_head?_ne {rest : List Char} (h : rest.head? ≠ some '\'') (c : Char) :
    unescapedChars (c :: rest) = c :: unescapedChars rest :=
  if_neg h

/-! ## Escaping and back -/

theorem head?_escapedChars (text : List Char) : (escapedChars text).head? ≠ some '\'' := by
  cases text with
  | nil => simp [escapedChars]
  | cons c rest =>
      by_cases hc : c = '\''
      · simp [escapedChars, hc]
      · simp [escapedChars, hc]

theorem unescapedChars_escapedChars (text : List Char) :
    unescapedChars (escapedChars text) = text := by
  induction text with
  | nil => rfl
  | cons c rest ih =>
      have hplain : unescapedChars (c :: escapedChars rest) = c :: rest := by
        rw [unescapedChars_of_head?_ne (head?_escapedChars rest), ih]
      by_cases hc : c = '\''
      · subst hc
        rw [escapedChars_quote, unescapedChars_of_head? rfl, hplain]
      · rw [escapedChars_of_ne hc, hplain]

theorem leftInverse_unescaped : Function.LeftInverse unescaped escaped := by
  intro text
  rw [unescaped, toList_escaped, unescapedChars_escapedChars, String.ofList_toList]

theorem escaped_append (first second : String) :
    escaped (first ++ second) = escaped first ++ escaped second := by
  apply String.toList_injective
  simp

/-! ## What comes out of escaping -/

def QuotesEscaped (text : List Char) : Prop :=
  ∀ front after, text = front ++ '\'' :: after → front.getLast? = some '\\'

/-- Every single quote stands right behind a backslash, but for one that has
nothing before it. -/
def LaterQuotesEscaped (text : List Char) : Prop :=
  ∀ front after, text = front ++ '\'' :: after → front ≠ [] → front.getLast? = some '\\'

theorem quotesEscaped_iff {text : List Char} :
    QuotesEscaped text ↔ text.head? ≠ some '\'' ∧ LaterQuotesEscaped text := by
  constructor
  · intro h
    constructor
    · intro hhead
      obtain ⟨after, rfl⟩ := List.head?_eq_some_iff.mp hhead
      exact absurd (h [] after rfl) (by simp)
    · intro front after htext _
      exact h front after htext
  · rintro ⟨hhead, hlater⟩ front after rfl
    apply hlater front after rfl
    rintro rfl
    exact hhead rfl

theorem laterQuotesEscaped_cons {c : Char} {rest : List Char} :
    LaterQuotesEscaped (c :: rest)
      ↔ (rest.head? = some '\'' → c = '\\') ∧ LaterQuotesEscaped rest := by
  constructor
  · intro h
    constructor
    · intro hhead
      obtain ⟨after, rfl⟩ := List.head?_eq_some_iff.mp hhead
      simpa using h [c] after rfl
    · rintro front after rfl hfront
      have hlast := h (c :: front) after rfl (List.cons_ne_nil c front)
      rwa [List.getLast?_cons_of_ne_nil hfront] at hlast
  · rintro ⟨hnext, hrest⟩ front after htext hfront
    obtain ⟨d, front, rfl⟩ := List.exists_cons_of_ne_nil hfront
    obtain ⟨rfl, rfl⟩ := List.cons.inj htext
    by_cases hnil : front = []
    · subst hnil
      rw [hnext rfl]
      rfl
    · rw [List.getLast?_cons_of_ne_nil hnil]
      exact hrest front after rfl hnil

theorem quotesEscaped_escapedChars (text : List Char) : QuotesEscaped (escapedChars text) := by
  refine quotesEscaped_iff.mpr ⟨head?_escapedChars text, ?_⟩
  induction text with
  | nil => simp [LaterQuotesEscaped, escapedChars]
  | cons c rest ih =>
      have hnone (d : Char) : (escapedChars rest).head? = some '\'' → d = '\\' :=
        fun hquote => absurd hquote (head?_escapedChars rest)
      by_cases hc : c = '\''
      · subst hc
        rw [escapedChars_quote, laterQuotesEscaped_cons, laterQuotesEscaped_cons]
        exact ⟨fun _ => rfl, hnone _, ih⟩
      · rw [escapedChars_of_ne hc, laterQuotesEscaped_cons]
        exact ⟨hnone c, ih⟩

/-- Escaping puts back what was left out; a quote at the front gets a backslash
it did not have. -/
theorem escapedChars_unescapedChars_of_later {text : List Char} (h : LaterQuotesEscaped text) :
    escapedChars (unescapedChars text)
      = if text.head? = some '\'' then '\\' :: text else text := by
  induction text with
  | nil => rfl
  | cons c rest ih =>
      obtain ⟨hnext, hrest⟩ := laterQuotesEscaped_cons.mp h
      by_cases hhead : rest.head? = some '\''
      · -- the character is the backslash of the next quote
        obtain rfl := hnext hhead
        rw [unescapedChars_of_head? hhead, ih hrest, if_pos hhead, if_neg (by simp)]
      · have ih := ih hrest
        rw [if_neg hhead] at ih
        rw [unescapedChars_of_head?_ne hhead]
        by_cases hc : c = '\''
        · subst hc
          rw [escapedChars_quote, ih, List.head?_cons, if_pos rfl]
        · rw [escapedChars_of_ne hc, ih, if_neg (by simpa using hc)]

theorem escapedChars_unescapedChars {text : List Char} (h : QuotesEscaped text) :
    escapedChars (unescapedChars text) = text := by
  obtain ⟨hhead, hlater⟩ := quotesEscaped_iff.mp h
  rw [escapedChars_unescapedChars_of_later hlater, if_neg hhead]

theorem escaped_unescaped_iff (text : String) :
    escaped (unescaped text) = text ↔ QuotesEscaped text.toList := by
  constructor
  · intro h
    have hquotes := quotesEscaped_escapedChars (unescaped text).toList
    rwa [← toList_escaped, h] at hquotes
  · intro h
    rw [escaped, toList_unescaped, escapedChars_unescapedChars h, String.ofList_toList]

/-- **Escaping can be undone.** Leaving out the character before every single
quote gives the text back that was escaped. The texts that come out of escaping
are those in which every single quote stands right behind a backslash, and they
are also the texts that are escaped from what they are without those backslashes.
Texts may be escaped piece by piece, and a text that was escaped several times
loses one layer each time it is undone. -/
theorem escaped_undone (text : String) :
    unescaped (escaped text) = text
      ∧ ((∃ source, escaped source = text) ↔ QuotesEscaped text.toList)
      ∧ (QuotesEscaped text.toList ↔ escaped (unescaped text) = text)
      ∧ (∀ more, escaped (text ++ more) = escaped text ++ escaped more)
      ∧ ∀ undone left, unescaped^[undone] (escaped^[undone + left] text) = escaped^[left] text := by
  refine ⟨leftInverse_unescaped text, ⟨?_, ?_⟩, (escaped_unescaped_iff text).symm,
    escaped_append text, ?_⟩
  · rintro ⟨source, rfl⟩
    rw [toList_escaped]
    exact quotesEscaped_escapedChars source.toList
  · intro h
    exact ⟨unescaped text, (escaped_unescaped_iff text).mpr h⟩
  · intro undone left
    rw [Function.iterate_add_apply]
    exact leftInverse_unescaped.iterate undone _

/-- Of two backslashes before a quote the one that was added is left out. -/
example : escaped "C:\\'" = "C:\\\\'" ∧ unescaped "C:\\\\'" = "C:\\'" := by decide

end Yql.Text
