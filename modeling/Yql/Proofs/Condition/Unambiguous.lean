import Yql.Proofs.Condition.Spelling

/-!
# Rendering is unambiguous

The text of a condition tells its shape and nothing else. The tokens of a shape
say what the shape is and where it ends (`Shape.readable`); only in one place
does that take more than the next two tokens: a range and a combination of two
conditions both begin with a bracket and a first part, and differ in the word
after it.
-/

namespace Yql

theorem Relation.tokens_inj {a b : Relation} {s t : List Token}
    (h : a.tokens ++ .sign ' ' :: s = b.tokens ++ .sign ' ' :: t) : a = b ∧ s = t := by
  cases a <;> cases b <;> simp_all [Relation.tokens]

namespace Condition

/-! ## Predicates -/

/-- The names of what may stand behind `contains` in place of a literal. -/
def clauseNames : List String :=
  ["phrase", "fuzzy", "sameElement"]

theorem value_ne_clause (shape : Value.Shape) {name : String} (h : name ∈ clauseNames)
    (s t : List Token) : shape.tokens ++ s ≠ .word name :: t := by
  simp only [clauseNames, List.mem_cons, List.not_mem_nil, or_false] at h
  cases shape with
  | number n =>
      apply Value.Shape.number_ne_word n
      rcases h with rfl | rfl | rfl
      · exact ⟨'p', by decide, by decide⟩
      · exact ⟨'f', by decide, by decide⟩
      · exact ⟨'s', by decide, by decide⟩
  | bool b => cases b <;> rcases h with rfl | rfl | rfl <;> simp [Value.Shape.tokens]
  | _ => rcases h with rfl | rfl | rfl <;> simp [Value.Shape.tokens]

theorem Operand.tokens_ne_sameElement (operand : Operand) (s t : List Token) :
    operand.tokens ++ s ≠ .word "sameElement" :: t := by
  cases operand with
  | value shape => exact value_ne_clause shape (by decide) s t
  | phrase words => simp [tokens]
  | fuzzy shape => simp [tokens]

theorem Operand.tokens_inj {a b : Operand} {s t : List Token} (h : a.tokens ++ s = b.tokens ++ t) :
    a = b ∧ s = t := by
  cases a with
  | value x =>
      cases b with
      | value y =>
          obtain ⟨rfl, rfl⟩ := Value.Shape.tokens_inj h
          exact ⟨rfl, rfl⟩
      | phrase words => exact absurd h (value_ne_clause x (by decide) _ _)
      | fuzzy y => exact absurd h (value_ne_clause x (by decide) _ _)
  | phrase words =>
      cases b with
      | value y => exact absurd h.symm (value_ne_clause y (by decide) _ _)
      | phrase words' =>
          simp only [tokens, List.cons_append, List.append_assoc, List.nil_append, List.cons.injEq,
            true_and] at h
          obtain ⟨rfl, rfl⟩ :=
            Token.row_inj (by simp) (by simp) h
          exact ⟨rfl, rfl⟩
      | fuzzy y => simp [tokens] at h
  | fuzzy x =>
      cases b with
      | value y => exact absurd h.symm (value_ne_clause y (by decide) _ _)
      | phrase words => simp [tokens] at h
      | fuzzy y =>
          simp only [tokens, List.cons_append, List.append_assoc, List.nil_append, List.cons.injEq,
            true_and] at h
          obtain ⟨rfl, hrest⟩ := Value.Shape.tokens_inj h
          exact ⟨rfl, by simpa using hrest⟩

theorem predicateTokens_inj {field field' : String} {relation relation' : Relation}
    {operand operand' : Operand} {s t : List Token}
    (h : predicateTokens field relation operand ++ s
      = predicateTokens field' relation' operand' ++ t) :
    (field = field' ∧ relation = relation' ∧ operand = operand') ∧ s = t := by
  simp only [predicateTokens, List.cons_append, List.append_assoc, List.nil_append,
    List.cons.injEq, true_and, Token.word.injEq] at h
  obtain ⟨rfl, hrelation⟩ := h
  obtain ⟨rfl, hoperand⟩ := Relation.tokens_inj hrelation
  obtain ⟨rfl, hrest⟩ := Operand.tokens_inj hoperand
  exact ⟨⟨rfl, rfl, rfl⟩, by simpa using hrest⟩

/-! ## Annotations -/

/-- An annotation is read off, if what comes after it is not one of the same
name. -/
theorem annotationTokens_inj {name : String} {x y : Option Token} {s t : List Token}
    (hs : ∀ u, s ≠ .sign ',' :: .word name :: u) (ht : ∀ u, t ≠ .sign ',' :: .word name :: u)
    (h : annotationTokens name x ++ s = annotationTokens name y ++ t) : x = y ∧ s = t := by
  cases x with
  | none =>
      cases y with
      | none => exact ⟨rfl, h⟩
      | some y => exact absurd h (hs _)
  | some x =>
      cases y with
      | none => exact absurd h.symm (ht _)
      | some y => simpa [annotationTokens] using h

theorem truthWord_inj {a b : Bool} (h : truthWord a = truthWord b) : a = b := by
  cases a <;> cases b <;> simp_all [truthWord]

/-! ## What conditions do not begin with -/

namespace Shape

theorem tokens_ne_close (a : Shape) (s t : List Token) : a.tokens ++ s ≠ .sign ')' :: t := by
  rcases a.tokens_begin with ⟨u, hu⟩ | ⟨u, hu⟩ | ⟨u, hu⟩ | ⟨u, hu⟩ <;> simp [hu]

theorem tokens_ne_field (a : Shape) (field : String) (s t : List Token) :
    a.tokens ++ s ≠ .word field :: .sign ' ' :: t := by
  rcases a.tokens_begin with ⟨u, hu⟩ | ⟨u, hu⟩ | ⟨u, hu⟩ | ⟨u, hu⟩ <;> simp [hu]

theorem tokens_ne_target (a : Shape) (s t : List Token) :
    a.tokens ++ s ≠ .sign '\x7b' :: .word "targetHits" :: t := by
  rcases a.tokens_begin with ⟨u, hu⟩ | ⟨u, hu⟩ | ⟨u, hu⟩ | ⟨u, hu⟩ <;> simp [hu]

/-! ## Reading a shape -/

/-- The tokens of the shape tell it from every other, and where it ends. -/
def Readable (a : Shape) : Prop :=
  ∀ ⦃b : Shape⦄ ⦃s t : List Token⦄, a.tokens ++ s = b.tokens ++ t → a = b ∧ s = t

theorem readable_predicate (field : String) (relation : Relation) (operand : Operand) :
    (predicate field relation operand).Readable := by
  intro b s t h
  cases b with
  | predicate field' relation' operand' =>
      obtain ⟨⟨rfl, rfl, rfl⟩, rfl⟩ := predicateTokens_inj h
      exact ⟨rfl, rfl⟩
  | combined connective left right =>
      simp only [predicateTokens, tokens, List.cons_append, List.append_assoc, List.cons.injEq,
        true_and] at h
      exact absurd h.symm (left.tokens_ne_field field _ _)
  | sameElement field' conditions =>
      -- both begin with a field, and no operand is written like a clause
      simp only [predicateTokens, tokens, List.cons_append, List.append_assoc, List.cons.injEq,
        true_and] at h
      obtain ⟨rfl, hoperand⟩ := Relation.tokens_inj (b := .contains) h.2
      exact absurd hoperand (operand.tokens_ne_sameElement _ _)
  | userQuery index => cases index <;> simp [predicateTokens, tokens] at h
  | _ => simp [predicateTokens, tokens] at h

theorem readable_excluded (field text : String) : (excluded field text).Readable := by
  intro b s t h
  cases b with
  | excluded field' text' =>
      simp only [tokens, List.cons_append, List.cons.injEq, true_and] at h
      obtain ⟨⟨rfl, -, htext⟩, rfl⟩ := predicateTokens_inj h
      cases htext
      exact ⟨rfl, rfl⟩
  | negated inner =>
      -- behind the two brackets of a negation stands a condition, not a field
      simp only [tokens, predicateTokens, List.cons_append, List.append_assoc, List.cons.injEq,
        true_and] at h
      exact absurd h.symm (inner.tokens_ne_field field _ _)
  | userQuery index => cases index <;> simp [tokens] at h
  | _ => simp [tokens, predicateTokens] at h

/-- A range is read as one: a combination of two conditions that begins like it
goes on with another word. -/
theorem readable_range (field : String) (low high : Value.Shape) :
    (range field low high).Readable := by
  intro b s t h
  cases b with
  | range field' low' high' =>
      simp only [tokens, List.cons_append, List.append_assoc, List.cons.injEq, true_and] at h
      obtain ⟨⟨rfl, -, hlow⟩, hrest⟩ := predicateTokens_inj h
      simp only [List.cons.injEq, true_and] at hrest
      obtain ⟨⟨-, -, hhigh⟩, hend⟩ := predicateTokens_inj hrest
      cases hlow
      cases hhigh
      exact ⟨rfl, by simpa using hend⟩
  | combined connective left right =>
      -- the left side is the lower bound; the range goes on with `and`, a connective with `AND`
      simp only [tokens, List.cons_append, List.append_assoc, List.cons.injEq, true_and] at h
      obtain ⟨-, hrest⟩ := readable_predicate _ _ _ h
      cases connective <;> simp [Connective.word] at hrest
  | userQuery index => cases index <;> simp [tokens] at h
  | _ => simp [tokens, predicateTokens] at h

theorem readable_nearest (field vector : String) (targetHits : UInt32) (label : Option String)
    (threshold : Option Numeral) (approximate : Option Bool) :
    (nearest field vector targetHits label threshold approximate).Readable := by
  intro b s t h
  cases b with
  | nearest field' vector' targetHits' label' threshold' approximate' =>
      simp only [tokens, List.cons_append, List.append_assoc, List.nil_append, List.cons.injEq,
        true_and, Token.word.injEq] at h
      obtain ⟨hhits, hlabel⟩ := h
      obtain rfl : targetHits = targetHits' :=
        UInt32.toNat_inj.mp (Numeral.ofNat_injective (Numeral.ext hhits))
      -- an absent annotation is not taken from those behind it, which have other names
      have stops (threshold : Option Numeral) (approximate : Option Bool) (u v : List Token) :
          annotationTokens "distanceThreshold" (threshold.map fun n => .word n.text)
              ++ (annotationTokens "approximate" (approximate.map truthWord) ++ .sign '\x7d' :: u)
            ≠ .sign ',' :: .word "label" :: v := by
        cases threshold <;> cases approximate <;> simp [annotationTokens]
      obtain ⟨hlabel, hthreshold⟩ := annotationTokens_inj (stops _ _ _) (stops _ _ _) hlabel
      have stops (approximate : Option Bool) (u v : List Token) :
          annotationTokens "approximate" (approximate.map truthWord) ++ .sign '\x7d' :: u
            ≠ .sign ',' :: .word "distanceThreshold" :: v := by
        cases approximate <;> simp [annotationTokens]
      obtain ⟨hthreshold, happroximate⟩ := annotationTokens_inj (stops _ _) (stops _ _) hthreshold
      obtain ⟨happroximate, hrest⟩ := annotationTokens_inj (by simp) (by simp) happroximate
      obtain rfl : label = label' := Option.map_injective (fun _ _ h => Token.literal.inj h) hlabel
      obtain rfl : threshold = threshold' :=
        Option.map_injective (fun _ _ h => Numeral.ext (Token.word.inj h)) hthreshold
      obtain rfl : approximate = approximate' :=
        Option.map_injective (fun _ _ h => truthWord_inj h) happroximate
      simp only [List.cons.injEq, true_and, Token.word.injEq] at hrest
      obtain ⟨rfl, rfl, rfl⟩ := hrest
      exact ⟨rfl, rfl⟩
  | combined connective left right =>
      simp only [tokens, List.cons_append, List.append_assoc, List.cons.injEq, true_and] at h
      exact absurd h.symm (left.tokens_ne_target _ _)
  | userQuery index => cases index <;> simp [tokens] at h
  | _ => simp [tokens, predicateTokens] at h

theorem readable_userQuery (index : Option String) : (userQuery index).Readable := by
  intro b s t h
  cases b with
  | userQuery index' =>
      cases index <;> cases index' <;> simp_all [tokens]
  | _ => cases index <;> simp [tokens, predicateTokens] at h

theorem readable_negated {inner : Shape} (hinner : inner.Readable) :
    (negated inner).Readable := by
  intro b s t h
  cases b with
  | negated inner' =>
      simp only [tokens, List.cons_append, List.append_assoc, List.nil_append, List.cons.injEq,
        true_and] at h
      obtain ⟨rfl, hend⟩ := hinner h
      exact ⟨rfl, by simpa using hend⟩
  | excluded field text => exact absurd (readable_excluded _ _ h.symm).1 (by simp)
  | userQuery index => cases index <;> simp [tokens] at h
  | _ => simp [tokens, predicateTokens] at h

theorem readable_sameElement {field : String} {conditions : List Shape}
    (hconditions : ∀ condition ∈ conditions, condition.Readable) :
    (sameElement field conditions).Readable := by
  intro b s t h
  cases b with
  | sameElement field' conditions' =>
      simp only [tokens, rows_eq_map, List.cons_append, List.append_assoc, List.nil_append,
        List.cons.injEq, true_and, Token.word.injEq] at h
      obtain ⟨rfl, hrow⟩ := h
      obtain ⟨rfl, hend⟩ :=
        Token.row_inj (fun a ha b _ s t hab => hconditions a ha hab) tokens_ne_close hrow
      exact ⟨rfl, by simpa using hend⟩
  | predicate field' relation operand => exact absurd (readable_predicate _ _ _ h.symm).1 (by simp)
  | combined connective left right =>
      simp only [tokens, List.cons_append, List.append_assoc, List.cons.injEq, true_and] at h
      exact absurd h.symm (left.tokens_ne_field field _ _)
  | userQuery index => cases index <;> simp [tokens] at h
  | _ => simp [tokens, predicateTokens] at h

/-- A combination is read side by side. Whatever else begins with a bracket has
been read above. -/
theorem readable_combined {connective : Connective} {left right : Shape}
    (hleft : left.Readable) (hright : right.Readable) :
    (combined connective left right).Readable := by
  intro b s t h
  cases b with
  | combined connective' left' right' =>
      simp only [tokens, List.cons_append, List.append_assoc, List.nil_append, List.cons.injEq,
        true_and] at h
      obtain ⟨rfl, hrest⟩ := hleft h
      simp only [List.cons.injEq, true_and, Token.word.injEq] at hrest
      obtain ⟨hword, hrest⟩ := hrest
      obtain ⟨rfl, hend⟩ := hright hrest
      obtain rfl : connective = connective' := by
        cases connective <;> cases connective' <;> simp_all [Connective.word]
      exact ⟨rfl, by simpa using hend⟩
  | predicate field relation operand => exact absurd (readable_predicate _ _ _ h.symm).1 (by simp)
  | range field low high => exact absurd (readable_range _ _ _ h.symm).1 (by simp)
  | sameElement field conditions =>
      simp only [tokens, List.cons_append, List.append_assoc, List.cons.injEq, true_and] at h
      exact absurd h (left.tokens_ne_field field _ _)
  | nearest field vector targetHits label threshold approximate =>
      exact absurd (readable_nearest _ _ _ _ _ _ h.symm).1 (by simp)
  | userQuery index => exact absurd (readable_userQuery _ h.symm).1 (by simp)
  | _ => simp [tokens, predicateTokens] at h

/-- **The text of a condition tells its shape and where it ends.** -/
theorem readable (a : Shape) : a.Readable := by
  induction a using Shape.induction with
  | predicate field relation operand => exact readable_predicate field relation operand
  | excluded field text => exact readable_excluded field text
  | combined connective left right ihleft ihright => exact readable_combined ihleft ihright
  | negated inner ih => exact readable_negated ih
  | range field low high => exact readable_range field low high
  | sameElement field conditions ih => exact readable_sameElement ih
  | nearest field vector targetHits label threshold approximate =>
      exact readable_nearest field vector targetHits label threshold approximate
  | userQuery index => exact readable_userQuery index

end Shape

/-- **Rendering is unambiguous.** Conditions of names have the same text just
when they have the same shape, whatever the values in them are. -/
theorem yql_eq_iff_shape?_eq {a b : Condition} (ha : a.Named) (hb : b.Named) :
    a.yql = b.yql ↔ a.shape? = b.shape? := by
  constructor
  · intro h
    cases hs : a.shape? with
    | none =>
        have hempty : b.yql = "" := by rw [← h, ha.yql_eq_empty_iff, hs]
        exact (hb.yql_eq_empty_iff.mp hempty).symm
    | some s =>
        cases ht : b.shape? with
        | none =>
            have hempty : a.yql = "" := by rw [h, hb.yql_eq_empty_iff, ht]
            rw [ha.yql_eq_empty_iff, hs] at hempty
            contradiction
        | some t =>
            have htext : spelling s.tokens = spelling t.tokens := by
              have hwritten : written a.shape? = written b.shape? := by
                rw [← ha.toList_yql, ← hb.toList_yql, h]
              rwa [hs, ht] at hwritten
            -- the same text is spelled by the same tokens, and these have one shape
            have htokens := spelling_injective (ha.spaced_tokens s hs) (hb.spaced_tokens t ht) htext
            obtain ⟨rfl, -⟩ := s.readable (congrArg (· ++ []) htokens)
            rfl
  · intro h
    rw [← String.toList_inj, ha.toList_yql, hb.toList_yql, h]

/-- The closing quote of the text looks escaped, and still tells where the text
ends. -/
theorem yql_eq_yql_of_empty_side :
    (combined .and (negated (sameElement "tags" []))
        (predicate "title" .equal (.string "it's \\") .fuzzy)).yql
      = (predicate "title" .contains (.string "it's \\") .exact).yql :=
  (yql_eq_iff_shape?_eq
    (.combined (.negated (.sameElement (by decide) (by simp))) (.predicate (by decide)))
    (.predicate (by decide))).mpr rfl

end Condition

end Yql
