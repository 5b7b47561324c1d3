import Mathlib.Data.List.Basic

/-!
# The order of texts is the order of their bytes

Texts are compared character by character, and on the wire they are compared
byte by byte. The two comparisons agree (`bytes_lt_iff`): the first byte of a
character tells how many bytes it has and grows with that count, and among
characters with the same count the bytes are the digits of the number.
-/

namespace Yql.Text

def bytes (text : String) : List UInt8 :=
  text.toUTF8.data.toList

theorem bytes_eq_flatMap (text : String) :
    bytes text = text.toList.flatMap String.utf8EncodeChar := by
  rw [bytes, String.toUTF8_eq_toByteArray, ← String.ofList_toList (s := text),
    String.toByteArray_ofList]
  simp [List.utf8Encode]

theorem ofNat_lt_ofNat {m n : Nat} (hm : m < 256) (hn : n < 256) :
    UInt8.ofNat m < UInt8.ofNat n ↔ m < n := by
  rw [UInt8.lt_iff_toNat_lt, UInt8.toNat_ofNat_of_lt' hm, UInt8.toNat_ofNat_of_lt' hn]

theorem ofNat_eq_ofNat {m n : Nat} (hm : m < 256) (hn : n < 256) :
    UInt8.ofNat m = UInt8.ofNat n ↔ m = n := by
  rw [← UInt8.toNat_inj, UInt8.toNat_ofNat_of_lt' hm, UInt8.toNat_ofNat_of_lt' hn]

/-- The bytes of the bigger character come later, whatever follows them. -/
theorem utf8EncodeChar_append_lt {c d : Char} (h : c < d) (x y : List UInt8) :
    String.utf8EncodeChar c ++ x < String.utf8EncodeChar d ++ y := by
  have hlt : c.val.toNat < d.val.toNat := h
  have hbound : d.val.toNat < 0x110000 := by
    rcases d.valid with hd | hd <;> omega
  unfold String.utf8EncodeChar
  generalize c.val.toNat = m at hlt
  generalize d.val.toNat = n at hlt hbound
  -- the digits to base 64, each taken off the one before
  have hdigits {k : Nat} (hk : k < 0x110000) :
      k / 64 / 64 = k / 4096 ∧ k / 4096 / 64 = k / 262144
        ∧ k / 262144 % 8 = k / 262144 := by
    omega
  have hm := hdigits (Nat.lt_trans hlt hbound)
  have hn := hdigits hbound
  -- one case for each pair of counts of bytes
  simp only
  split_ifs <;>
    simp (disch := omega) only [List.cons_append, List.nil_append, List.cons_lt_cons_iff,
      ofNat_lt_ofNat, ofNat_eq_ofNat] <;>
    omega

theorem nil_lt_bytes (c : Char) (y : List UInt8) : [] < String.utf8EncodeChar c ++ y := by
  cases hbytes : String.utf8EncodeChar c with
  | nil => exact absurd hbytes String.utf8EncodeChar_ne_nil
  | cons b rest => exact List.nil_lt_cons _ _

theorem flatMap_lt_of_lt {first second : List Char} (h : first < second) :
    first.flatMap String.utf8EncodeChar < second.flatMap String.utf8EncodeChar := by
  induction first generalizing second with
  | nil =>
      cases second with
      | nil => exact absurd h (List.lt_irrefl _)
      | cons d rest => exact nil_lt_bytes d _
  | cons c first ih =>
      cases second with
      | nil => exact absurd h (List.not_lt_nil _)
      | cons d second =>
          rw [List.flatMap_cons, List.flatMap_cons]
          rcases List.cons_lt_cons_iff.mp h with hcd | ⟨rfl, hrest⟩
          · exact utf8EncodeChar_append_lt hcd _ _
          · exact List.append_left_lt (ih hrest)

/-- **Texts are ordered like their bytes.** -/
theorem bytes_lt_iff {first second : String} : bytes first < bytes second ↔ first < second := by
  have hmono {a b : String} (h : a < b) : bytes a < bytes b := by
    rw [bytes_eq_flatMap, bytes_eq_flatMap]
    exact flatMap_lt_of_lt h
  refine ⟨?_, hmono⟩
  intro h
  by_contra hnot
  by_cases hlt : second < first
  · exact List.lt_asymm h (hmono hlt)
  · obtain rfl := String.le_antisymm (String.not_lt.mp hlt) (String.not_lt.mp hnot)
    exact List.lt_irrefl _ h

theorem bytes_le_iff {first second : String} : bytes first ≤ bytes second ↔ first ≤ second := by
  rw [← List.not_lt, bytes_lt_iff, String.not_lt]

end Yql.Text
