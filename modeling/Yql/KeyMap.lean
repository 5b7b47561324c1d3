/-!
# Maps with text keys

A map is a list of entries in ascending order of their keys, so that equal
maps hold equal lists and every reading of a map meets the keys in the same
order. Texts are ordered by their characters' code points, which is also the
order of their bytes.
-/

namespace Yql

theorem ascending_nil {α : Type} :
    ([] : List (String × α)).Pairwise (fun a b => a.1 < b.1) :=
  List.Pairwise.nil

/-- A map from texts, its entries in ascending order of their keys. -/
structure KeyMap (α : Type) where
  entries : List (String × α) := []
  ascending : entries.Pairwise (fun a b => a.1 < b.1) := by exact ascending_nil

namespace KeyMap

variable {α : Type}

/-- The entries with one more, which replaces an entry of the same key. -/
def insertEntry (key : String) (value : α) : List (String × α) → List (String × α)
  | [] => [(key, value)]
  | (other, kept) :: rest =>
      if key < other then (key, value) :: (other, kept) :: rest
      else if key = other then (key, value) :: rest
      else (other, kept) :: insertEntry key value rest

theorem mem_keys_insertEntry {key : String} {value : α} {entries : List (String × α)}
    {entry : String × α} (h : entry ∈ insertEntry key value entries) :
    entry.1 = key ∨ entry ∈ entries := by
  induction entries with
  | nil => simp [insertEntry] at h; simp [h]
  | cons head rest ih =>
      obtain ⟨other, kept⟩ := head
      simp only [insertEntry] at h
      split at h
      · rcases List.mem_cons.1 h with rfl | h
        · exact Or.inl rfl
        · exact Or.inr h
      · split at h
        · rcases List.mem_cons.1 h with rfl | h
          · exact Or.inl rfl
          · exact Or.inr (List.mem_cons_of_mem _ h)
        · rcases List.mem_cons.1 h with rfl | h
          · exact Or.inr List.mem_cons_self
          · exact (ih h).imp_right (List.mem_cons_of_mem _)

theorem ascending_insertEntry (key : String) (value : α) {entries : List (String × α)}
    (h : entries.Pairwise (fun a b => a.1 < b.1)) :
    (insertEntry key value entries).Pairwise (fun a b => a.1 < b.1) := by
  induction entries with
  | nil => simp [insertEntry]
  | cons head rest ih =>
      obtain ⟨other, kept⟩ := head
      have hrest := List.pairwise_cons.1 h
      simp only [insertEntry]
      split
      · rename_i hlt
        refine List.pairwise_cons.2 ⟨fun entry hentry => ?_, h⟩
        rcases List.mem_cons.1 hentry with rfl | hentry
        · exact hlt
        · exact String.lt_trans hlt (hrest.1 entry hentry)
      · split
        · rename_i heq
          subst heq
          exact List.pairwise_cons.2 ⟨hrest.1, hrest.2⟩
        · rename_i hnlt hne
          have hlt : other < key := by
            rcases String.le_total key other with hle | hle
            · exact absurd (String.le_antisymm hle (String.not_lt.1 hnlt)) hne
            · exact Decidable.byContradiction fun hn =>
                hne (String.le_antisymm (String.not_lt.1 hn) hle)
          refine List.pairwise_cons.2 ⟨fun entry hentry => ?_, ih hrest.2⟩
          rcases mem_keys_insertEntry hentry with heq | hentry
          · exact heq ▸ hlt
          · exact hrest.1 entry hentry

/-- The map with one more entry, which replaces an entry of the same key. -/
def insert (map : KeyMap α) (key : String) (value : α) : KeyMap α :=
  ⟨insertEntry key value map.entries, ascending_insertEntry key value map.ascending⟩

/-- The map of a list of entries; of entries with the same key the last
counts. -/
def ofList (entries : List (String × α)) : KeyMap α :=
  entries.foldl (fun map entry => map.insert entry.1 entry.2) {}

def keys (map : KeyMap α) : List String :=
  map.entries.map (·.1)

def isEmpty (map : KeyMap α) : Bool :=
  map.entries.isEmpty

def get? (map : KeyMap α) (key : String) : Option α :=
  (map.entries.find? (·.1 = key)).map (·.2)

theorem find?_insertEntry (key other : String) (value : α) (entries : List (String × α)) :
    ((insertEntry key value entries).find? (·.1 = other)).map (·.2)
      = if other = key then some value else (entries.find? (·.1 = other)).map (·.2) := by
  induction entries with
  | nil => grind [insertEntry]
  | cons head rest ih => grind [insertEntry]

/-- Insertion changes what stands at its key and nothing else. -/
theorem get?_insert (map : KeyMap α) (key other : String) (value : α) :
    (map.insert key value).get? other = if other = key then some value else map.get? other :=
  find?_insertEntry key other value map.entries

end KeyMap

end Yql
