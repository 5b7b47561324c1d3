import Mathlib.Data.List.Forall2
import Yql.Proofs.Value.Shape

/-!
# Values that are equal

Floating numbers compare as numbers: the two zeros are equal, and what is no
number is not equal to itself. Everything else compares as it is, at any depth.
So two values are equal just when no number is missing in them and they are the
same value once both zeros are one (`equal_iff`). All that can be said of this
equality follows from that, and it is said once for everything that holds
floating numbers (`ComparedAsNumbers`).
-/

namespace Yql

/-! ## Numbers -/

namespace Binary

variable {format : BinaryFormat}

def isNegativeZero (x : Binary format) : Bool :=
  x.negative && x.isZero

/-- The number, but the zero without a sign for the one with a minus sign. -/
def unifyZero (x : Binary format) : Binary format :=
  if x.isNegativeZero then x.negate else x

theorem unifyZero_of_not {x : Binary format} (h : x.isNegativeZero = false) :
    x.unifyZero = x := by
  rw [unifyZero, h, if_neg Bool.false_ne_true]

@[simp] theorem pattern_unifyZero (x : Binary format) : x.unifyZero.pattern = x.pattern := by
  unfold unifyZero
  split
  · rfl
  · rfl

@[simp] theorem isNaN_unifyZero (x : Binary format) : x.unifyZero.isNaN = x.isNaN := by
  rw [isNaN, pattern_unifyZero, isNaN]

theorem unifyZero_of_isZero {x : Binary format} (h : x.isZero = true) :
    x.unifyZero = ⟨false, 0, format.patterns_pos⟩ := by
  obtain ⟨negative, pattern, hlt⟩ := x
  obtain rfl : pattern = 0 := by simpa [isZero] using h
  cases negative
  · rfl
  · rfl

theorem equal_iff {x y : Binary format} :
    equal x y = true ↔ x.isNaN = false ∧ x.unifyZero = y.unifyZero := by
  constructor
  · intro h
    simp only [equal, Bool.and_eq_true, Bool.or_eq_true, Bool.not_eq_true', decide_eq_true_eq] at h
    obtain ⟨⟨hx, -⟩, rfl | ⟨hzero, hzero'⟩⟩ := h
    · exact ⟨hx, rfl⟩
    · exact ⟨hx, by rw [unifyZero_of_isZero hzero, unifyZero_of_isZero hzero']⟩
  · rintro ⟨hx, h⟩
    have hpattern : x.pattern = y.pattern := by
      simpa using congrArg pattern h
    have hy : y.isNaN = false := by
      rw [isNaN, ← hpattern]
      exact hx
    by_cases hzero : x.pattern = 0
    · have hzero' : y.pattern = 0 := hpattern ▸ hzero
      simp [equal, hx, hy, isZero, hzero, hzero']
    · -- away from zero nothing was changed
      have hsame (z : Binary format) (hz : z.pattern = x.pattern) : z.unifyZero = z :=
        unifyZero_of_not (by simp [isNegativeZero, isZero, hz, hzero])
      rw [hsame x rfl, hsame y hpattern.symm] at h
      simp [equal, h, hy]

end Binary

/-! ## Things that hold numbers -/

/-- How equality, the floating numbers in a thing and its text go together.
Equality can be turned round and chained; what holds a missing number is not
equal to itself, and everything else is; and equal things are written alike,
unless a zero with a minus sign is in them. -/
structure ComparedAsNumbers {α : Type} [BEq α] (floats : α → List Double)
    (mapFloats : (Double → Double) → α → α) (text : α → String) : Prop where
  symm {a b : α} : (a == b) = true → (b == a) = true
  trans {a b c : α} : (a == b) = true → (b == c) = true → (a == c) = true
  self_iff (a : α) : (a == a) = true ↔ ∀ x ∈ floats a, x.isNaN = false
  text_eq {a b : α} : (a == b) = true → (∀ x ∈ floats a, x.isNegativeZero = false) →
    (∀ x ∈ floats b, x.isNegativeZero = false) → text a = text b
  text_unified {a b : α} : (a == b) = true →
    text (mapFloats Binary.unifyZero a) = text (mapFloats Binary.unifyZero b)

/-- All of it follows from what equality comes to when both zeros are one. -/
theorem comparedAsNumbers_of_beq_iff {α : Type} [BEq α] {floats : α → List Double}
    {mapFloats : (Double → Double) → α → α} {text : α → String}
    (hfloats : ∀ f a, floats (mapFloats f a) = (floats a).map f)
    (hmap : ∀ f a, (∀ x ∈ floats a, f x = x) → mapFloats f a = a)
    (hbeq : ∀ a b : α, (a == b) = true
      ↔ (∀ x ∈ floats a, x.isNaN = false)
        ∧ mapFloats Binary.unifyZero a = mapFloats Binary.unifyZero b) :
    ComparedAsNumbers floats mapFloats text := by
  -- the numbers of equal things are missing together
  have hmissing {a b : α} (h : mapFloats Binary.unifyZero a = mapFloats Binary.unifyZero b)
      (ha : ∀ x ∈ floats a, x.isNaN = false) : ∀ x ∈ floats b, x.isNaN = false := by
    have hunified : (floats a).map Binary.unifyZero = (floats b).map Binary.unifyZero := by
      rw [← hfloats, ← hfloats, h]
    intro x hx
    have hmem : x.unifyZero ∈ (floats a).map Binary.unifyZero :=
      hunified ▸ List.mem_map_of_mem hx
    obtain ⟨y, hy, hxy⟩ := List.mem_map.mp hmem
    rw [← Binary.isNaN_unifyZero, ← hxy, Binary.isNaN_unifyZero]
    exact ha y hy
  have hunsigned {a : α} (ha : ∀ x ∈ floats a, x.isNegativeZero = false) :
      mapFloats Binary.unifyZero a = a :=
    hmap _ a fun x hx => Binary.unifyZero_of_not (ha x hx)
  constructor
  case symm =>
    intro a b h
    obtain ⟨ha, hab⟩ := (hbeq a b).mp h
    exact (hbeq b a).mpr ⟨hmissing hab ha, hab.symm⟩
  case trans =>
    intro a b c h h'
    obtain ⟨ha, hab⟩ := (hbeq a b).mp h
    obtain ⟨-, hbc⟩ := (hbeq b c).mp h'
    exact (hbeq a c).mpr ⟨ha, hab.trans hbc⟩
  case self_iff =>
    intro a
    rw [hbeq]
    exact and_iff_left rfl
  case text_eq =>
    intro a b h ha hb
    obtain ⟨-, hab⟩ := (hbeq a b).mp h
    rw [hunsigned ha, hunsigned hb] at hab
    rw [hab]
  case text_unified =>
    intro a b h
    obtain ⟨-, hab⟩ := (hbeq a b).mp h
    rw [hab]

theorem forall₂_iff_of_forall_mem {α β : Type} {R : α → α → Prop} {p : α → Prop} {f : α → β}
    {as : List α} (h : ∀ a ∈ as, ∀ b, R a b ↔ p a ∧ f a = f b) (bs : List α) :
    List.Forall₂ R as bs ↔ (∀ a ∈ as, p a) ∧ as.map f = bs.map f := by
  induction as generalizing bs with
  | nil => cases bs <;> simp
  | cons a as ih =>
      obtain ⟨ha, has⟩ := List.forall_mem_cons.mp h
      cases bs with
      | nil => simp
      | cons b bs =>
          rw [List.forall₂_cons, ha, ih has, List.forall_mem_cons, List.map_cons, List.map_cons,
            List.cons.injEq]
          exact and_and_and_comm

/-! ## Values -/

namespace Value

mutual

/-- The floating numbers in a value, in order. -/
def floats : Value → List Double
  | float x => [x]
  | list items => allFloats items
  | _ => []

def allFloats : List Value → List Double
  | [] => []
  | item :: rest => floats item ++ allFloats rest

end

mutual

def mapFloats (f : Double → Double) : Value → Value
  | float x => float (f x)
  | list items => list (mapAllFloats f items)
  | other => other

def mapAllFloats (f : Double → Double) : List Value → List Value
  | [] => []
  | item :: rest => mapFloats f item :: mapAllFloats f rest

end

theorem allFloats_eq_flatMap (items : List Value) : allFloats items = items.flatMap floats := by
  induction items with
  | nil => rfl
  | cons item rest ih => simp [allFloats, ih]

theorem mapAllFloats_eq_map (f : Double → Double) (items : List Value) :
    mapAllFloats f items = items.map (mapFloats f) := by
  induction items with
  | nil => rfl
  | cons item rest ih => simp [mapAllFloats, ih]

theorem floats_mapFloats (f : Double → Double) (value : Value) :
    (value.mapFloats f).floats = value.floats.map f := by
  induction value using Value.induction with
  | list items ih =>
      rw [mapFloats, floats, floats, mapAllFloats_eq_map, allFloats_eq_flatMap,
        allFloats_eq_flatMap, List.flatMap_map, List.map_flatMap]
      exact List.flatMap_congr ih
  | _ => rfl

theorem mapFloats_eq_self {f : Double → Double} {value : Value}
    (h : ∀ x ∈ value.floats, f x = x) : value.mapFloats f = value := by
  induction value using Value.induction with
  | float x => rw [mapFloats, h x (List.mem_singleton_self x)]
  | list items ih =>
      rw [floats, allFloats_eq_flatMap] at h
      have hitems : ∀ item ∈ items, item.mapFloats f = item := by
        intro item hitem
        apply ih item hitem
        intro x hx
        exact h x (List.mem_flatMap_of_mem hitem hx)
      rw [mapFloats, mapAllFloats_eq_map, List.map_congr_left hitems, List.map_id']
  | _ => rfl

theorem equalAll_iff_forall₂ (as bs : List Value) :
    equalAll as bs = true ↔ List.Forall₂ (fun a b => equal a b = true) as bs := by
  induction as generalizing bs with
  | nil => cases bs <;> simp [equalAll]
  | cons a as ih => cases bs <;> simp [equalAll, ih]

/-- **Equality of values.** Values are equal just when no number is missing in
the one and both are the same value once both zeros are one. -/
theorem equal_iff (a b : Value) :
    equal a b = true
      ↔ (∀ x ∈ a.floats, x.isNaN = false)
        ∧ a.mapFloats Binary.unifyZero = b.mapFloats Binary.unifyZero := by
  induction a using Value.induction generalizing b with
  | float x =>
      cases b with
      | float y => simp [equal, floats, mapFloats, Binary.equal_iff]
      | _ => simp [equal, mapFloats]
  | list items ih =>
      cases b with
      | list others =>
          rw [equal, equalAll_iff_forall₂, forall₂_iff_of_forall_mem ih, mapFloats, mapFloats,
            mapAllFloats_eq_map, mapAllFloats_eq_map, list.injEq, floats, allFloats_eq_flatMap,
            List.forall_mem_flatMap]
      | _ => simp [equal, mapFloats]
  | _ => cases b <;> simp [equal, floats, mapFloats]

theorem comparedAsNumbers : ComparedAsNumbers floats mapFloats literal :=
  comparedAsNumbers_of_beq_iff floats_mapFloats (fun _ _ => mapFloats_eq_self) equal_iff

end Value

end Yql
