import Mathlib.Data.List.Induction
import Yql.Text.Quoted

/-!
# Tokens of the query language

Query text is a row of words, quoted literals and signs. Inside a literal only
the single quote is escaped, so a backslash at the end of a literal makes its
closing quote look like an escaped one, and a reader that goes from left to
right cannot tell where the literal ends. Read from the right every quote
explains itself: outside of literals stands no backslash, so a quote with a
backslash before it belongs to the literal's text and any other quote opens the
literal. Two rows of tokens with the same text are therefore the same
(`spelling_injective`), as long as no two words stand side by side.
-/

namespace Yql

/-- The characters of names: letters, digits, the underscore and the point.
Every character beyond ASCII counts as a letter. -/
def isNameChar (c : Char) : Bool :=
  c.isAlphanum || c = '_' || c = '.' || 128 ≤ c.toNat

/-- The characters of words: those of names, and the minus sign of numbers. -/
def isWordChar (c : Char) : Bool :=
  isNameChar c || c = '-'

def IsName (text : String) : Prop :=
  text.toList ≠ [] ∧ ∀ c ∈ text.toList, isNameChar c = true

instance : DecidablePred IsName := fun text =>
  decidable_of_iff (text.toList ≠ [] ∧ text.toList.all isNameChar = true)
    (and_congr_right' List.all_eq_true)

inductive Token where
  | word (text : String)
  | literal (text : String)
  | sign (c : Char)

namespace Token

def chars : Token → List Char
  | word text => text.toList
  | literal text => '\'' :: (Text.escapedChars text.toList ++ ['\''])
  | sign c => [c]

def isWord : Token → Bool
  | word _ => true
  | _ => false

/-- A word consists of word characters and is not empty; a sign is no part of
a word and has nothing to do with quoting. -/
def Legible : Token → Prop
  | word text => text.toList ≠ [] ∧ ∀ c ∈ text.toList, isWordChar c = true
  | literal _ => True
  | sign c => isWordChar c = false ∧ c ≠ '\'' ∧ c ≠ '\\'

instance : DecidablePred Legible
  | word text =>
      decidable_of_iff (text.toList ≠ [] ∧ text.toList.all isWordChar = true)
        (and_congr_right' List.all_eq_true)
  | literal _ => isTrue trivial
  | sign c => inferInstanceAs (Decidable (isWordChar c = false ∧ c ≠ '\'' ∧ c ≠ '\\'))

end Token

theorem IsName.legible {text : String} (h : IsName text) : (Token.word text).Legible :=
  ⟨h.1, fun c hc => by simp [isWordChar, h.2 c hc]⟩

def spelling (tokens : List Token) : List Char :=
  tokens.flatMap Token.chars

/-- Every token is legible and no two words stand side by side. -/
def Spaced : List Token → Prop
  | [] => True
  | token :: rest =>
      token.Legible ∧ (token.isWord = true → ∀ next ∈ rest.head?, next.isWord = false) ∧ Spaced rest

instance decidableSpaced : DecidablePred Spaced
  | [] => isTrue trivial
  | token :: rest =>
      have := decidableSpaced rest
      inferInstanceAs (Decidable (token.Legible
        ∧ (token.isWord = true → ∀ next ∈ rest.head?, next.isWord = false) ∧ Spaced rest))

@[simp] theorem spelling_nil : spelling [] = [] := rfl

@[simp] theorem spelling_cons (token : Token) (rest : List Token) :
    spelling (token :: rest) = token.chars ++ spelling rest := rfl

@[simp] theorem spelling_append (first second : List Token) :
    spelling (first ++ second) = spelling first ++ spelling second :=
  List.flatMap_append

/-! ## Spacing -/

@[simp] theorem spaced_nil : Spaced [] := trivial

theorem spaced_word {text : String} (h : (Token.word text).Legible) : Spaced [.word text] := by
  simp [Spaced, h]

@[simp] theorem spaced_literal_cons (text : String) (rest : List Token) :
    Spaced (.literal text :: rest) ↔ Spaced rest := by
  simp [Spaced, Token.Legible, Token.isWord]

@[simp] theorem spaced_sign_cons (c : Char) (rest : List Token) :
    Spaced (.sign c :: rest) ↔ (Token.sign c).Legible ∧ Spaced rest := by
  simp [Spaced, Token.isWord]

@[simp] theorem spaced_word_sign_cons (text : String) (c : Char) (rest : List Token) :
    Spaced (.word text :: .sign c :: rest)
      ↔ (Token.word text).Legible ∧ (Token.sign c).Legible ∧ Spaced rest := by
  simp [Spaced, Token.isWord]

/-- A sign keeps what stands before it apart from what stands after it. -/
@[simp] theorem spaced_append_sign (before : List Token) (c : Char) (after : List Token) :
    Spaced (before ++ .sign c :: after)
      ↔ Spaced before ∧ (Token.sign c).Legible ∧ Spaced after := by
  induction before with
  | nil => simp
  | cons token rest ih =>
      cases rest with
      | nil => simp [Spaced, Token.isWord]
      | cons next rest =>
          simp only [List.cons_append] at ih
          simp [Spaced] at ih ⊢
          tauto

theorem spaced_concat {tokens : List Token} {token : Token} (h : Spaced (tokens ++ [token])) :
    Spaced tokens ∧ token.Legible
      ∧ (token.isWord = true → ∀ last ∈ tokens.getLast?, last.isWord = false) := by
  induction tokens with
  | nil => simpa [Spaced] using h.1
  | cons first rest ih =>
      obtain ⟨hfirst, hnext, hrest⟩ := h
      obtain ⟨hspaced, hlegible, hlast⟩ := ih hrest
      cases rest with
      | nil =>
          refine ⟨by simp [Spaced, hfirst], hlegible, ?_⟩
          intro hword last hmem
          obtain rfl : first = last := by simpa using hmem
          -- a word before a word would have to be followed by something else
          by_contra hne
          have := hnext (by simpa using hne) token (by simp)
          rw [hword] at this
          exact Bool.noConfusion this
      | cons next rest =>
          exact ⟨⟨hfirst, by simpa using hnext, hspaced⟩, hlegible, by simpa using hlast⟩

/-! ## Reading from the right -/

theorem isWordChar_quote : isWordChar '\'' = false := by decide

theorem isWordChar_backslash : isWordChar '\\' = false := by decide

/-- The characters of one class at the end of a text, and what stands before
them, are determined by the text. -/
theorem append_run_inj {p : Char → Bool} {x y u v : List Char}
    (hx : ∀ c ∈ x.getLast?, p c = false) (hy : ∀ c ∈ y.getLast?, p c = false)
    (hu : ∀ c ∈ u, p c = true) (hv : ∀ c ∈ v, p c = true) (h : x ++ u = y ++ v) :
    x = y ∧ u = v := by
  -- the runs are taken off from the right; the first to end meets a character of the other class
  induction u using List.reverseRecOn generalizing v with
  | nil =>
      rcases List.eq_nil_or_concat v with rfl | ⟨v, d, rfl⟩
      · simpa using h
      · rw [List.concat_eq_append, ← List.append_assoc, List.append_nil] at h
        have hd : p d = false := hx d (by simp [h])
        rw [hv d (by simp)] at hd
        exact Bool.noConfusion hd
  | append_singleton u c ih =>
      rcases List.eq_nil_or_concat v with rfl | ⟨v, d, rfl⟩
      · rw [List.append_nil, ← List.append_assoc] at h
        have hc : p c = false := hy c (by simp [← h])
        rw [hu c (by simp)] at hc
        exact Bool.noConfusion hc
      · rw [List.concat_eq_append] at h hv ⊢
        rw [← List.append_assoc, ← List.append_assoc] at h
        obtain ⟨hrest, hlast⟩ := List.append_inj' h rfl
        obtain ⟨rfl, rfl⟩ := ih (fun c hc => hu c (by simp [hc]))
          (fun c hc => hv c (by simp [hc])) hrest
        exact ⟨rfl, by rw [List.singleton_inj.mp hlast]⟩

/-- An escaped text ends with the last character of the text, and before it
stands a backslash if that is a quote. -/
theorem escapedChars_concat (s : List Char) (c : Char) :
    Text.escapedChars (s ++ [c])
      = Text.escapedChars s ++ (if c = '\'' then ['\\'] else []) ++ [c] := by
  rw [Text.escapedChars_append, List.append_assoc]
  by_cases hc : c = '\'' <;> simp [Text.escapedChars, hc]

/-- What ends right after an opening quote does not end in the middle of a
literal: there the quote would have a backslash before it. -/
theorem append_quote_ne {x y s : List Char} {c : Char} (hx : x.getLast? ≠ some '\\') :
    x ++ ['\''] ≠ y ++ '\'' :: Text.escapedChars (s ++ [c]) := by
  intro h
  rw [escapedChars_concat, ← List.cons_append, ← List.append_assoc] at h
  obtain ⟨hrest, hlast⟩ := List.append_inj' h rfl
  rw [List.singleton_inj] at hlast
  subst hlast
  apply hx
  rw [hrest, if_pos rfl, ← List.cons_append, ← List.append_assoc, List.getLast?_concat]

/-- What stands before a literal and the text of the literal are determined by
what is written up to its closing quote. -/
theorem append_quote_escaped_inj {x y s t : List Char}
    (hx : x.getLast? ≠ some '\\') (hy : y.getLast? ≠ some '\\')
    (h : x ++ '\'' :: Text.escapedChars s = y ++ '\'' :: Text.escapedChars t) :
    x = y ∧ s = t := by
  induction s using List.reverseRecOn generalizing t with
  | nil =>
      rcases List.eq_nil_or_concat t with rfl | ⟨t, d, rfl⟩
      · obtain ⟨rfl, -⟩ := List.append_inj' h rfl
        exact ⟨rfl, rfl⟩
      · rw [List.concat_eq_append] at h
        exact absurd h (append_quote_ne hx)
  | append_singleton s c ih =>
      rcases List.eq_nil_or_concat t with rfl | ⟨t, d, rfl⟩
      · exact absurd h.symm (append_quote_ne hy)
      · rw [List.concat_eq_append] at h ⊢
        -- the texts end alike, and so a backslash stands before both ends or before none
        have h' : (x ++ '\'' :: Text.escapedChars s ++ if c = '\'' then ['\\'] else []) ++ [c]
            = (y ++ '\'' :: Text.escapedChars t ++ if d = '\'' then ['\\'] else []) ++ [d] := by
          simpa only [escapedChars_concat, List.append_assoc, List.cons_append] using h
        obtain ⟨hrest, hlast⟩ := List.append_inj' h' rfl
        rw [List.singleton_inj] at hlast
        subst hlast
        obtain ⟨rfl, rfl⟩ := ih (List.append_cancel_right hrest)
        exact ⟨rfl, rfl⟩

/-! ## One row of tokens for each text -/

/-- Which characters the text of a token may end with. -/
def Token.EndsWith : Token → Char → Prop
  | .word _, c => isWordChar c = true
  | .literal _, c => c = '\''
  | .sign d, c => c = d

theorem Token.exists_last {token : Token} (h : token.Legible) :
    ∃ front c, token.chars = front ++ [c] ∧ token.EndsWith c := by
  cases token with
  | word text =>
      obtain ⟨front, c, hfront⟩ := (List.eq_nil_or_concat text.toList).resolve_left h.1
      rw [List.concat_eq_append] at hfront
      exact ⟨front, c, hfront, h.2 c (by simp [hfront])⟩
  | literal text => exact ⟨'\'' :: Text.escapedChars text.toList, '\'', rfl, rfl⟩
  | sign c => exact ⟨[], c, rfl, rfl⟩

/-- The text of a spaced row ends with no backslash, and with a word character
only if its last token is a word. -/
theorem getLast?_spelling {tokens : List Token} (h : Spaced tokens) :
    (spelling tokens).getLast? ≠ some '\\'
      ∧ ((∀ last ∈ tokens.getLast?, last.isWord = false) →
          ∀ c ∈ (spelling tokens).getLast?, isWordChar c = false) := by
  induction tokens using List.reverseRecOn with
  | nil => simp
  | append_singleton tokens token _ =>
      obtain ⟨-, hlegible, -⟩ := spaced_concat h
      obtain ⟨front, c, hfront, hc⟩ := Token.exists_last hlegible
      have hlast : (spelling (tokens ++ [token])).getLast? = some c := by
        simp [hfront, ← List.append_assoc]
      simp only [hlast, List.getLast?_concat, Option.mem_some_iff, forall_eq', ne_eq,
        Option.some.injEq]
      cases token with
      | word text =>
          refine ⟨?_, by simp [Token.isWord]⟩
          rintro rfl
          rw [Token.EndsWith, isWordChar_backslash] at hc
          exact Bool.noConfusion hc
      | literal text =>
          obtain rfl : c = '\'' := hc
          exact ⟨by decide, fun _ => isWordChar_quote⟩
      | sign d =>
          obtain rfl : c = d := hc
          exact ⟨hlegible.2.2, fun _ => hlegible.1⟩

/-- The last token of a row and the text before it are determined by the text,
if what stands before cannot be taken for a part of the token. -/
theorem Token.append_chars_inj {x y : List Char} {a b : Token} (ha : a.Legible)
    (hb : b.Legible) (hx : x.getLast? ≠ some '\\') (hy : y.getLast? ≠ some '\\')
    (hxword : a.isWord = true → ∀ c ∈ x.getLast?, isWordChar c = false)
    (hyword : b.isWord = true → ∀ c ∈ y.getLast?, isWordChar c = false)
    (h : x ++ a.chars = y ++ b.chars) : x = y ∧ a = b := by
  -- the tokens end with the same character, which leaves only tokens of one kind
  have hlast : ∃ c, a.EndsWith c ∧ b.EndsWith c := by
    obtain ⟨front, c, hfront, hc⟩ := Token.exists_last ha
    obtain ⟨front', d, hfront', hd⟩ := Token.exists_last hb
    rw [hfront, hfront', ← List.append_assoc, ← List.append_assoc] at h
    obtain ⟨-, hcd⟩ := List.append_inj' h rfl
    rw [List.singleton_inj] at hcd
    exact ⟨c, hc, hcd ▸ hd⟩
  obtain ⟨c, hac, hbc⟩ := hlast
  cases a with
  | word s =>
      cases b with
      | word t =>
          obtain ⟨rfl, hst⟩ := append_run_inj (hxword rfl) (hyword rfl) ha.2 hb.2 h
          exact ⟨rfl, by rw [String.toList_inj.mp hst]⟩
      | literal t =>
          obtain rfl : c = '\'' := hbc
          exact absurd hac (by simp [Token.EndsWith, isWordChar_quote])
      | sign d =>
          obtain rfl : c = d := hbc
          exact absurd hac (by simp [Token.EndsWith, hb.1])
  | literal s =>
      obtain rfl : c = '\'' := hac
      cases b with
      | word t => exact absurd hbc (by simp [Token.EndsWith, isWordChar_quote])
      | literal t =>
          have h' : (x ++ '\'' :: Text.escapedChars s.toList) ++ ['\'']
              = (y ++ '\'' :: Text.escapedChars t.toList) ++ ['\''] := by
            simpa [Token.chars] using h
          obtain ⟨rfl, hst⟩ :=
            append_quote_escaped_inj hx hy (List.append_cancel_right h')
          exact ⟨rfl, by rw [String.toList_inj.mp hst]⟩
      | sign d => exact absurd hbc.symm hb.2.1
  | sign d =>
      obtain rfl : c = d := hac
      cases b with
      | word t => exact absurd hbc (by simp [Token.EndsWith, ha.1])
      | literal t => exact absurd hbc ha.2.1
      | sign e =>
          obtain rfl : c = e := hbc
          exact ⟨(List.append_inj' h rfl).1, rfl⟩

theorem spelling_ne_nil {tokens : List Token} (h : Spaced tokens) (hne : tokens ≠ []) :
    spelling tokens ≠ [] := by
  obtain ⟨front, token, rfl⟩ := (List.eq_nil_or_concat tokens).resolve_left hne
  rw [List.concat_eq_append] at h ⊢
  obtain ⟨-, hlegible, -⟩ := spaced_concat h
  obtain ⟨_, _, hlast, -⟩ := Token.exists_last hlegible
  simp [hlast]

/-- **Spaced rows of tokens with the same text are the same.** -/
theorem spelling_injective {first second : List Token} (hfirst : Spaced first)
    (hsecond : Spaced second) (h : spelling first = spelling second) : first = second := by
  induction first using List.reverseRecOn generalizing second with
  | nil =>
      by_contra hne
      exact spelling_ne_nil hsecond (Ne.symm hne) h.symm
  | append_singleton first a ih =>
      rcases List.eq_nil_or_concat second with rfl | ⟨second, b, rfl⟩
      · exact absurd h (spelling_ne_nil hfirst (by simp))
      · rw [List.concat_eq_append] at hsecond h ⊢
        obtain ⟨hs, ha, hsa⟩ := spaced_concat hfirst
        obtain ⟨ht, hb, htb⟩ := spaced_concat hsecond
        obtain ⟨hx, hxword⟩ := getLast?_spelling hs
        obtain ⟨hy, hyword⟩ := getLast?_spelling ht
        obtain ⟨hrest, rfl⟩ := Token.append_chars_inj ha hb hx hy
          (fun hword => hxword (hsa hword)) (fun hword => hyword (htb hword))
          (by simpa using h)
        rw [ih hs ht hrest]

end Yql
