import Yql.Proofs.Text.TokenRow
import Yql.Proofs.Value.Numeral
import Yql.Value.Literal

/-!
# What a literal tells

The literal of a value does not tell everything about it: a whole number and a
floating one may be written alike, and what is not finite is written like a
text. The shape of a value is what is left, and the literal tells all of it:
literals of different shapes differ, and of two literals with something behind
them neither is the beginning of the other (`tokens_inj`). Without floating
numbers nothing is lost, and the literal tells the value itself.
-/

namespace Yql.Value

/-- What the literal of a value tells. -/
inductive Shape where
  | null
  | bool (b : Bool)
  | number (n : Numeral)
  | text (s : String)
  | list (items : List Shape)

mutual

/-- The shape of a value: numbers are their numerals, and a number that is not
finite is the text of its name. -/
def shape : Value → Shape
  | null => .null
  | bool b => .bool b
  | int n => .number (.ofInt n.toInt)
  | float x => if x.isFinite then .number x.numeral else .text x.plainText
  | string text => .text text
  | list items => .list (shapes items)

def shapes : List Value → List Shape
  | [] => []
  | item :: rest => shape item :: shapes rest

end

theorem shapes_eq_map (items : List Value) : shapes items = items.map shape := by
  induction items with
  | nil => rfl
  | cons item rest ih => simp [shapes, ih]

/-- Induction on values, over all items of a list at once. -/
theorem induction {motive : Value → Prop} (null : motive null) (bool : ∀ b, motive (bool b))
    (int : ∀ n, motive (int n)) (float : ∀ x, motive (float x))
    (string : ∀ text, motive (string text))
    (list : ∀ items, (∀ item ∈ items, motive item) → motive (list items)) (value : Value) :
    motive value :=
  @Value.rec motive (fun items => ∀ item ∈ items, motive item) null bool int float string
    list (by simp) (fun _ _ hitem hrest => List.forall_mem_cons.mpr ⟨hitem, hrest⟩) value

namespace Shape

theorem induction {motive : Shape → Prop} (null : motive null) (bool : ∀ b, motive (bool b))
    (number : ∀ n, motive (number n)) (text : ∀ s, motive (text s))
    (list : ∀ items, (∀ item ∈ items, motive item) → motive (list items)) (shape : Shape) :
    motive shape :=
  @Shape.rec motive (fun items => ∀ item ∈ items, motive item) null bool number text
    list (by simp) (fun _ _ hitem hrest => List.forall_mem_cons.mpr ⟨hitem, hrest⟩) shape

mutual

def tokens : Shape → List Token
  | null => [.word "null"]
  | bool b => [.word (if b then "true" else "false")]
  | number n => [.word n.text]
  | text s => [.literal s]
  | list items => .sign '(' :: (Token.row (rows items) ++ [.sign ')'])

def rows : List Shape → List (List Token)
  | [] => []
  | item :: rest => tokens item :: rows rest

end

theorem rows_eq_map (items : List Shape) : rows items = items.map tokens := by
  induction items with
  | nil => rfl
  | cons item rest ih => simp [rows, ih]

theorem spaced_tokens (shape : Shape) : Spaced shape.tokens := by
  induction shape using Shape.induction with
  | null => exact spaced_word (by decide)
  | bool b =>
      cases b
      · exact spaced_word (by decide)
      · exact spaced_word (by decide)
  | number n => exact spaced_word n.legible
  | text s => simp [tokens]
  | list items ih =>
      have hrow : Spaced (Token.row (rows items)) := by
        apply Token.spaced_row
        intro item hitem
        rw [rows_eq_map, List.mem_map] at hitem
        obtain ⟨s, hs, rfl⟩ := hitem
        exact ih s hs
      rw [tokens, spaced_sign_cons, spaced_append_sign]
      exact ⟨by decide, hrow, by decide, trivial⟩

theorem tokens_ne_close (shape : Shape) (s t : List Token) :
    shape.tokens ++ s ≠ .sign ')' :: t := by
  cases shape <;> simp [tokens]

theorem number_ne_word (n : Numeral) {name : String} {s t : List Token}
    (h : ∃ c ∈ name.toList, isNumeralChar c = false) :
    (number n).tokens ++ s ≠ .word name :: t := by
  intro heq
  simp only [tokens, List.cons_append, List.nil_append, List.cons.injEq, Token.word.injEq] at heq
  exact n.text_ne h heq.1

/-- **A literal tells its shape and where it ends.** -/
theorem tokens_inj {a b : Shape} {s t : List Token} (h : a.tokens ++ s = b.tokens ++ t) :
    a = b ∧ s = t := by
  induction a using Shape.induction generalizing b s t with
  | null =>
      cases b with
      | null => simpa [tokens] using h
      | bool b => cases b <;> simp [tokens] at h
      | number n => exact absurd h.symm (number_ne_word n ⟨'n', by decide, by decide⟩)
      | text y => simp [tokens] at h
      | list items => simp [tokens] at h
  | bool a =>
      cases b with
      | null => cases a <;> simp [tokens] at h
      | bool b => cases a <;> cases b <;> simp_all [tokens]
      | number n =>
          cases a
          · exact absurd h.symm (number_ne_word n ⟨'f', by decide, by decide⟩)
          · exact absurd h.symm (number_ne_word n ⟨'t', by decide, by decide⟩)
      | text y => simp [tokens] at h
      | list items => simp [tokens] at h
  | number m =>
      cases b with
      | null => exact absurd h (number_ne_word m ⟨'n', by decide, by decide⟩)
      | bool b =>
          cases b
          · exact absurd h (number_ne_word m ⟨'f', by decide, by decide⟩)
          · exact absurd h (number_ne_word m ⟨'t', by decide, by decide⟩)
      | number n =>
          simp only [tokens, List.cons_append, List.nil_append, List.cons.injEq,
            Token.word.injEq] at h
          exact ⟨by rw [Numeral.ext h.1], h.2⟩
      | text y => simp [tokens] at h
      | list items => simp [tokens] at h
  | text x =>
      cases b with
      | text y => simpa [tokens] using h
      | null => simp [tokens] at h
      | bool b => simp [tokens] at h
      | number n => simp [tokens] at h
      | list items => simp [tokens] at h
  | list as ih =>
      cases b with
      | list bs =>
          simp only [tokens, rows_eq_map, List.cons_append, List.append_assoc, List.nil_append,
            List.cons.injEq, true_and] at h
          obtain ⟨rfl, rfl⟩ :=
            Token.row_inj (fun a ha b _ s t hab => ih a ha hab) tokens_ne_close h
          exact ⟨rfl, rfl⟩
      | null => simp [tokens] at h
      | bool b => simp [tokens] at h
      | number n => simp [tokens] at h
      | text y => simp [tokens] at h

end Shape

theorem toList_literal (value : Value) : value.literal.toList = spelling value.shape.tokens := by
  have quoted (text : String) :
      (Text.quoted text).toList = spelling (Shape.text text).tokens := by
    simp [Text.quoted, Shape.tokens, Token.chars]
  induction value using Value.induction with
  | null => rfl
  | bool b => cases b <;> rfl
  | int n => simp [literal, shape, Shape.tokens, Token.chars, Numeral.ofInt]
  | float x =>
      rw [literal, shape]
      split
      · rename_i h
        simp [Shape.tokens, Token.chars, Binary.text_numeral h]
      · exact quoted x.plainText
  | string text => exact quoted text
  | list items ih =>
      have hrow : (Text.joined ", " (literals items)).toList
          = spelling (Token.row (Shape.rows (shapes items))) := by
        apply Token.toList_joined
        rw [literals_eq_map, Shape.rows_eq_map, shapes_eq_map, List.map_map, List.map_map,
          List.map_map]
        exact List.map_congr_left ih
      simp [literal, shape, Shape.tokens, hrow, Token.chars]

/-- **Values have the same literal just when they have the same shape.** -/
theorem literal_eq_iff_shape_eq (a b : Value) : a.literal = b.literal ↔ a.shape = b.shape := by
  constructor
  · intro h
    have hspelling : spelling a.shape.tokens = spelling b.shape.tokens := by
      rw [← toList_literal, ← toList_literal, h]
    have htokens :=
      spelling_injective a.shape.spaced_tokens b.shape.spaced_tokens hspelling
    exact (Shape.tokens_inj (congrArg (· ++ []) htokens)).1
  · intro h
    rw [← String.toList_inj, toList_literal, toList_literal, h]

/-! ## Values without floating numbers -/

inductive FloatFree : Value → Prop
  | null : FloatFree null
  | bool (b : Bool) : FloatFree (bool b)
  | int (n : Int64) : FloatFree (int n)
  | string (text : String) : FloatFree (string text)
  | list {items : List Value} (h : ∀ item ∈ items, FloatFree item) : FloatFree (list items)

theorem eq_of_shapes_eq {as bs : List Value}
    (h : ∀ a ∈ as, ∀ b ∈ bs, a.shape = b.shape → a = b) (hshapes : shapes as = shapes bs) :
    as = bs := by
  induction as generalizing bs with
  | nil =>
      cases bs with
      | nil => rfl
      | cons b bs => exact nomatch hshapes
  | cons a as ih =>
      cases bs with
      | nil => exact nomatch hshapes
      | cons b bs =>
          simp only [shapes, List.cons.injEq] at hshapes
          obtain rfl := h a (by simp) b (by simp) hshapes.1
          rw [ih (fun a ha b hb => h a (by simp [ha]) b (by simp [hb])) hshapes.2]

theorem FloatFree.eq_of_shape_eq {a b : Value} (ha : FloatFree a) (hb : FloatFree b)
    (h : a.shape = b.shape) : a = b := by
  induction ha generalizing b with
  | null => cases hb <;> simp_all [shape]
  | bool x => cases hb <;> simp_all [shape]
  | int m =>
      cases hb with
      | int n =>
          simp only [shape, Shape.number.injEq] at h
          rw [Int64.toInt_inj.mp (Numeral.ofInt_injective h)]
      | _ => simp [shape] at h
  | string x => cases hb <;> simp_all [shape]
  | list _ ih =>
      cases hb with
      | list hbs =>
          simp only [shape, Shape.list.injEq] at h
          rw [eq_of_shapes_eq (fun a ha b hb => ih a ha (hbs b hb)) h]
      | _ => simp [shape] at h

/-- **Literals are unambiguous.** Two values are written alike just when they
have the same shape: the same texts, names and lists, and numbers with the same
digits, one that is not finite being the text of its name. Values without
floating numbers that are written alike are the same. -/
theorem literal_unambiguous (a b : Value) :
    (a.literal = b.literal ↔ a.shape = b.shape)
      ∧ (FloatFree a → FloatFree b → a.literal = b.literal → a = b) := by
  have hshape := literal_eq_iff_shape_eq a b
  refine ⟨hshape, ?_⟩
  intro ha hb h
  exact ha.eq_of_shape_eq hb (hshape.mp h)

/-- A number that no word holds and the text of its digits are the same value,
also next to a text that looks like the end of a list. -/
theorem literal_unambiguous_ofInt :
    list [ofInt 100000000000000000000, string "\\', ')"]
      = list [string "100000000000000000000", string "\\', ')"] := by
  have hlarge : FloatFree (ofInt 100000000000000000000) := .string _
  have hquote : FloatFree (string "\\', ')") := .string _
  have hpair (first : Value) (h : FloatFree first) :
      FloatFree (list [first, string "\\', ')"]) :=
    .list (List.forall_mem_cons.mpr ⟨h, List.forall_mem_cons.mpr ⟨hquote, by simp⟩⟩)
  exact (literal_unambiguous _ _).2 (hpair _ hlarge) (hpair _ (.string _)) (by decide)

end Yql.Value
