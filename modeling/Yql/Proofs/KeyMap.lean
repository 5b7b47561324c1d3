import Mathlib.Data.List.Induction
import Yql.KeyMap

/-!
# Maps are what they hold

A map holds its entries in ascending order, so each key has one entry and two
maps that give the same value to every key are the same map.
-/

namespace Yql.KeyMap

variable {α : Type}

instance : Inhabited (KeyMap α) := ⟨{}⟩

theorem find?_of_mem {entries : List (String × α)} {key : String} {value : α}
    (hascending : entries.Pairwise fun a b => a.1 < b.1) (h : (key, value) ∈ entries) :
    entries.find? (·.1 = key) = some (key, value) := by
  induction entries with
  | nil => simp at h
  | cons head rest ih =>
      obtain ⟨hhead, hrest⟩ := List.pairwise_cons.mp hascending
      rcases List.mem_cons.mp h with rfl | h
      · simp
      · have hlt : head.1 < key := hhead _ h
        have hne : head.1 ≠ key := by
          intro heq
          rw [heq] at hlt
          exact String.lt_irrefl _ hlt
        rw [List.find?_cons_of_neg (by simpa using hne)]
        exact ih hrest h

theorem mem_entries_iff (map : KeyMap α) (key : String) (value : α) :
    (key, value) ∈ map.entries ↔ map.get? key = some value := by
  constructor
  · intro h
    rw [get?, find?_of_mem map.ascending h]
    rfl
  · intro h
    obtain ⟨entry, hentry, rfl⟩ := Option.map_eq_some_iff.mp h
    have hkey : entry.1 = key := by simpa using List.find?_some hentry
    rw [← hkey]
    exact List.mem_of_find?_eq_some hentry

theorem nodup_entries (map : KeyMap α) : map.entries.Nodup := by
  apply map.ascending.imp
  rintro a b hlt rfl
  exact String.lt_irrefl _ hlt

/-- **Maps that give the same value to every key are the same.** -/
theorem ext_get? {first second : KeyMap α} (h : ∀ key, first.get? key = second.get? key) :
    first = second := by
  have hentries : first.entries.Perm second.entries := by
    rw [List.perm_ext_iff_of_nodup first.nodup_entries second.nodup_entries]
    rintro ⟨key, value⟩
    rw [mem_entries_iff, mem_entries_iff, h]
  -- both lists are in ascending order, and there is only one order of that kind
  have heq : first.entries = second.entries := by
    apply List.Perm.eq_of_pairwise _ first.ascending second.ascending hentries
    intro a b _ _ hab hba
    exact absurd (String.lt_trans hab hba) (String.lt_irrefl _)
  cases first
  cases second
  cases heq
  rfl

theorem get?_empty (key : String) : ({} : KeyMap α).get? key = none := rfl

theorem isEmpty_iff (map : KeyMap α) : map.isEmpty = true ↔ ∀ key, map.get? key = none := by
  rw [isEmpty, List.isEmpty_iff]
  constructor
  · intro h key
    rw [get?, h]
    rfl
  · intro h
    apply List.eq_nil_iff_forall_not_mem.mpr
    rintro ⟨key, value⟩ hmem
    rw [mem_entries_iff, h] at hmem
    simp at hmem

/-! ## Maps of entries in order -/

theorem insertEntry_of_lt {key : String} {entries : List (String × α)}
    (h : ∀ entry ∈ entries, entry.1 < key) (value : α) :
    insertEntry key value entries = entries ++ [(key, value)] := by
  induction entries with
  | nil => rfl
  | cons head rest ih =>
      have hlt : head.1 < key := h head List.mem_cons_self
      have hne : key ≠ head.1 := by
        intro heq
        rw [heq] at hlt
        exact String.lt_irrefl _ hlt
      rw [insertEntry, if_neg (String.lt_asymm hlt), if_neg hne,
        ih fun entry hentry => h entry (List.mem_cons_of_mem _ hentry)]
      rfl

theorem ofList_concat (entries : List (String × α)) (entry : String × α) :
    ofList (entries ++ [entry]) = (ofList entries).insert entry.1 entry.2 := by
  rw [ofList, List.foldl_append]
  rfl

theorem entries_ofList {entries : List (String × α)}
    (h : entries.Pairwise fun a b => a.1 < b.1) : (ofList entries).entries = entries := by
  induction entries using List.reverseRecOn with
  | nil => rfl
  | append_singleton entries entry ih =>
      obtain ⟨hentries, -, hlast⟩ := List.pairwise_append.mp h
      rw [ofList_concat]
      show insertEntry entry.1 entry.2 (ofList entries).entries = _
      rw [ih hentries]
      exact insertEntry_of_lt (fun other hother => hlast other hother entry (by simp)) _

/-! ## Keys -/

theorem mem_keys_iff (map : KeyMap α) (key : String) :
    key ∈ map.keys ↔ (map.get? key).isSome = true := by
  rw [keys, List.mem_map, Option.isSome_iff_exists]
  constructor
  · rintro ⟨⟨_, value⟩, hmem, rfl⟩
    exact ⟨value, (mem_entries_iff map _ value).mp hmem⟩
  · rintro ⟨value, hvalue⟩
    exact ⟨(key, value), (mem_entries_iff map key value).mpr hvalue, rfl⟩

theorem mem_keys_insert (map : KeyMap α) (key other : String) (value : α) :
    other ∈ (map.insert key value).keys ↔ other = key ∨ other ∈ map.keys := by
  rw [mem_keys_iff, mem_keys_iff, get?_insert]
  by_cases h : other = key <;> simp [h]

theorem mem_keys_ofList (entries : List (String × α)) (key : String) :
    key ∈ (ofList entries).keys ↔ ∃ entry ∈ entries, entry.1 = key := by
  induction entries using List.reverseRecOn with
  | nil => simp [ofList, keys]
  | append_singleton entries entry ih =>
      rw [ofList_concat, mem_keys_insert, ih]
      simp [or_and_right, exists_or, or_comm, eq_comm]

/-- Of the entries with the same key the last counts. -/
theorem get?_ofList {key : String} {after : List (String × α)}
    (h : ∀ entry ∈ after, entry.1 ≠ key) (before : List (String × α)) (value : α) :
    (ofList (before ++ (key, value) :: after)).get? key = some value := by
  induction after using List.reverseRecOn with
  | nil => rw [ofList_concat, get?_insert, if_pos rfl]
  | append_singleton after entry ih =>
      obtain ⟨hafter, hentry⟩ := List.forall_mem_append.mp h
      have hne : key ≠ entry.1 := fun heq => hentry entry (by simp) heq.symm
      rw [← List.cons_append, ← List.append_assoc, ofList_concat, get?_insert, if_neg hne,
        ih hafter]

theorem ascending_keys (map : KeyMap α) : map.keys.Pairwise (· < ·) :=
  List.pairwise_map.mpr map.ascending

/-- The first key that meets a condition is the least one that does. -/
theorem le_of_find?_keys {map : KeyMap α} {p : String → Bool} {key other : String}
    (h : map.keys.find? p = some key) (hmem : other ∈ map.keys) (hother : p other = true) :
    key ≤ other := by
  obtain ⟨_, before, after, hkeys, hbefore⟩ := List.find?_eq_some_iff_append.mp h
  rw [hkeys, List.mem_append, List.mem_cons] at hmem
  rcases hmem with hmem | rfl | hmem
  · have hnot := hbefore other hmem
    rw [hother] at hnot
    exact nomatch hnot
  · exact String.le_refl _
  · have hascending := map.ascending_keys
    rw [hkeys, List.pairwise_append] at hascending
    exact String.not_lt.mp (String.lt_asymm ((List.pairwise_cons.mp hascending.2.1).1 other hmem))

end Yql.KeyMap
