import Yql.Command.Run
import Yql.Proofs.Command.Merge
import Yql.Proofs.Json.Written
import Yql.Proofs.Json.Reading
import Yql.Proofs.Text.Trimmed

/-!
# Inputs from the command line

What a raw input stands for is said without a reader: a key with blanks around
it, the first equals sign, and a text that is JSON or is taken as it is
(`Denotes`). The first raw input without an equals sign stops the command before
anything else about the query is looked at. Otherwise the inputs make up a map,
in which the last input of each key counts (`inputs_last`).
-/

namespace Yql.Command

namespace Input

variable {raw key : String} {value : Json}

/-! ## What a raw input stands for -/

/-- The value that is written behind the equals sign: JSON, or else the text
itself. -/
def valueOf (text : String) : Json :=
  (Json.read? text).getD (.string text)

/-- The raw input stands for the key and the value. -/
def Denotes (raw key : String) (value : Json) : Prop :=
  ∃ (left right : List Char) (after : String),
    raw.toList = left ++ (key.toList ++ right) ++ '=' :: after.toList
      ∧ Text.Blank left ∧ Text.Blank right ∧ Text.Tight key.toList ∧ '=' ∉ key.toList
      ∧ value = valueOf after

theorem not_mem_of_blank {chars : List Char} (h : Text.Blank chars) : '=' ∉ chars := by
  intro hmem
  exact absurd (h '=' hmem) (by decide)

theorem read?_of_split {before : List Char} {after : String} (h : '=' ∉ before)
    (hraw : raw.toList = before ++ '=' :: after.toList) :
    read? raw = some
      ⟨Text.trimmed (String.ofList before), valueOf after, (Json.read? after).isSome⟩ := by
  rw [read?, hraw, splitAtEquals_append h, Option.map_some]
  simp only [String.ofList_toList, valueOf]
  cases Json.read? after <;> rfl

theorem denotes_iff :
    Denotes raw key value
      ↔ ∃ input, read? raw = some input ∧ input.key = key ∧ input.value = value := by
  constructor
  · rintro ⟨left, right, after, hraw, hleft, hright, htight, hkey, rfl⟩
    have hbefore : '=' ∉ left ++ (key.toList ++ right) := by
      simp [not_mem_of_blank hleft, not_mem_of_blank hright, hkey]
    refine ⟨_, read?_of_split hbefore hraw, ?_, rfl⟩
    show Text.trimmed _ = key
    rw [Text.trimmed, String.toList_ofList, htight.trimmedChars_eq hleft hright,
      String.ofList_toList]
  · rintro ⟨input, hread, rfl, rfl⟩
    have hequals : '=' ∈ raw.toList := by
      by_contra hnone
      rw [read?_eq_none_iff.mpr hnone] at hread
      exact nomatch hread
    obtain ⟨before, after, hraw, hbefore⟩ := List.eq_append_cons_of_mem hequals
    obtain ⟨left, right, haround, hleft, hright, htight⟩ :=
      Text.exists_around_trimmedChars before
    rw [← String.toList_ofList (l := after)] at hraw
    rw [read?_of_split hbefore hraw] at hread
    obtain rfl := Option.some.inj hread
    refine ⟨left, right, String.ofList after, ?_, hleft, hright, ?_, ?_, rfl⟩
    · rw [Text.trimmed, String.toList_ofList, String.toList_ofList, ← haround, hraw]
    · rwa [Text.trimmed, String.toList_ofList, String.toList_ofList]
    · intro hmem
      apply hbefore
      rw [Text.trimmed, String.toList_ofList, String.toList_ofList] at hmem
      rw [haround]
      exact List.mem_append_right _ (List.mem_append_left _ hmem)

theorem Denotes.unique {key' : String} {value' : Json} (h : Denotes raw key value)
    (h' : Denotes raw key' value') : key' = key ∧ value' = value := by
  obtain ⟨input, hread, rfl, rfl⟩ := denotes_iff.mp h
  obtain ⟨input', hread', rfl, rfl⟩ := denotes_iff.mp h'
  rw [hread] at hread'
  obtain rfl := Option.some.inj hread'
  exact ⟨rfl, rfl⟩

theorem valueOf_compact (h : Json.Portable Json.levelLimit value) :
    valueOf value.compact = value := by
  have hread : Json.read? value.compact = some value := Json.read?_of_valueText h.compact
  rw [valueOf, hread]
  rfl

/-- A key and the compact text of a value with an equals sign between them stand
for the key and the value, whatever signs the value holds. -/
theorem denotes_compact (hkey : '=' ∉ key.toList) (htight : Text.Tight key.toList)
    (hvalue : Json.Portable Json.levelLimit value) :
    Denotes (key ++ "=" ++ value.compact) key value := by
  refine ⟨[], [], value.compact, ?_, nofun, nofun, htight, hkey, (valueOf_compact hvalue).symm⟩
  simp

/-! ## The first input that is none -/

variable {raws : List String}

/-- The text stands in the list, has no equals sign, and every text before it
has one. -/
def FirstWithout (raws : List String) (raw : String) : Prop :=
  ∃ before after, raws = before ++ raw :: after ∧ '=' ∉ raw.toList
    ∧ ∀ other ∈ before, '=' ∈ other.toList

theorem firstMalformed?_eq_some_iff :
    firstMalformed? raws = some raw ↔ FirstWithout raws raw := by
  have hnone (raw : String) : (read? raw).isNone = true ↔ '=' ∉ raw.toList := by
    rw [Option.isNone_iff_eq_none, read?_eq_none_iff]
  rw [firstMalformed?, List.find?_eq_some_iff_append, hnone]
  constructor
  · rintro ⟨hraw, before, after, hraws, hbefore⟩
    refine ⟨before, after, hraws, hraw, ?_⟩
    intro other hother
    have hread := hbefore other hother
    rw [Bool.not_eq_true', ← Bool.not_eq_true, hnone, Decidable.not_not] at hread
    exact hread
  · rintro ⟨before, after, hraws, hraw, hbefore⟩
    refine ⟨hraw, before, after, hraws, ?_⟩
    intro other hother
    rw [Bool.not_eq_true', ← Bool.not_eq_true, hnone, Decidable.not_not]
    exact hbefore other hother

end Input

open Input

/-! ## The map of the inputs -/

namespace BuildFlags

variable (flags : BuildFlags) (defaults : Defaults)

theorem mem_keys_inputMap (key : String) :
    key ∈ flags.inputMap.keys ↔ ∃ raw ∈ flags.inputs, ∃ value, Denotes raw key value := by
  rw [inputMap, KeyMap.mem_keys_ofList]
  constructor
  · rintro ⟨_, hentry, rfl⟩
    obtain ⟨input, hinput, rfl⟩ := List.mem_map.mp hentry
    obtain ⟨raw, hraw, hread⟩ := List.mem_filterMap.mp hinput
    exact ⟨raw, hraw, input.value, denotes_iff.mpr ⟨input, hread, rfl, rfl⟩⟩
  · rintro ⟨raw, hraw, value, hdenotes⟩
    obtain ⟨input, hread, rfl, rfl⟩ := denotes_iff.mp hdenotes
    have hinput : input ∈ flags.inputs.filterMap read? := List.mem_filterMap.mpr ⟨raw, hraw, hread⟩
    exact ⟨_, List.mem_map_of_mem hinput, rfl⟩

theorem get?_inputMap {before after : List String} {raw key : String} {value : Json}
    (hinputs : flags.inputs = before ++ raw :: after) (h : Denotes raw key value)
    (hlast : ∀ other ∈ after, ∀ value, ¬Denotes other key value) :
    flags.inputMap.get? key = some value := by
  obtain ⟨input, hread, rfl, rfl⟩ := denotes_iff.mp h
  rw [inputMap, hinputs, List.filterMap_append, List.filterMap_cons_some hread, List.map_append,
    List.map_cons]
  apply KeyMap.get?_ofList
  intro entry hentry
  obtain ⟨other, hother, rfl⟩ := List.mem_map.mp hentry
  obtain ⟨text, htext, hread'⟩ := List.mem_filterMap.mp hother
  intro hkey
  exact hlast text htext other.value (denotes_iff.mpr ⟨other, hread', hkey, rfl⟩)

/-! ## What the options come to -/

theorem query_merge_eq_error_iff (raw : String) :
    (flags.merge defaults).query = .error raw ↔ FirstWithout flags.inputs raw := by
  rw [query_merge, ← firstMalformed?_eq_some_iff]
  cases firstMalformed? flags.inputs with
  | none => simp
  | some first => simp

theorem exists_error_iff :
    (∃ raw, (flags.merge defaults).query = .error raw)
      ↔ ∃ raw ∈ flags.inputs, '=' ∉ raw.toList := by
  constructor
  · rintro ⟨raw, hraw⟩
    obtain ⟨before, after, hinputs, hequals, -⟩ :=
      (flags.query_merge_eq_error_iff defaults raw).mp hraw
    exact ⟨raw, by simp [hinputs], hequals⟩
  · rintro ⟨raw, hraw, hequals⟩
    cases hfirst : firstMalformed? flags.inputs with
    | none => exact absurd (firstMalformed?_eq_none_iff.mp hfirst raw hraw) hequals
    | some first => exact ⟨first, by rw [query_merge, hfirst]⟩

/-- A malformed input is the one error that is reported, and it is reported in
these words. -/
theorem reportOver_of_error {raw : String} (settings : Settings) (screen : Terminal.Screen)
    {loaded : Config.Loaded} (h : (flags.merge loaded.defaults).query = .error raw) :
    ∃ messages, reportOver settings screen flags loaded
        = failure messages ("input '" ++ raw ++ "' must have the form key=<json>")
      ∧ ∀ message ∈ messages, ∀ text, message ≠ .status .error text := by
  refine ⟨configNote loaded :: (flags.merge loaded.defaults).notJson.map notJsonWarning, ?_, ?_⟩
  · rw [reportOver]
    simp only [h, malformedInputMessage]
  · intro message hmessage text
    rcases List.mem_cons.mp hmessage with rfl | hwarning
    · exact nofun
    · obtain ⟨key, -, rfl⟩ := List.mem_map.mp hwarning
      exact nofun

/-- **The last input of each key counts.** The options give no query just when a
raw input has no equals sign. The first one that has none is reported then, and
nothing is wrong with the query that would be reported instead. Otherwise the
keys of the query's inputs are those that the raw inputs stand for, each with
the value of the last one that stands for it. Every key without an equals sign
and without blanks at its ends, written before an equals sign and the compact
text of a value, stands for itself and the value and for nothing else. -/
theorem inputs_last :
    ((∃ raw, (flags.merge defaults).query = .error raw)
        ↔ ∃ raw ∈ flags.inputs, '=' ∉ raw.toList)
      ∧ (∀ raw, (flags.merge defaults).query = .error raw →
        FirstWithout flags.inputs raw
          ∧ ∀ (settings : Settings) (screen : Terminal.Screen) (loaded : Config.Loaded),
            loaded.defaults = defaults →
            ∃ messages, reportOver settings screen flags loaded
                = failure messages ("input '" ++ raw ++ "' must have the form key=<json>")
              ∧ ∀ message ∈ messages, ∀ text, message ≠ .status .error text)
      ∧ ((∀ raw ∈ flags.inputs, '=' ∈ raw.toList) →
        ∃ query, (flags.merge defaults).query = .ok query
          ∧ (∀ key, key ∈ query.inputs.keys
            ↔ ∃ raw ∈ flags.inputs, ∃ value, Denotes raw key value)
          ∧ ∀ before raw after key value, flags.inputs = before ++ raw :: after →
            Denotes raw key value → (∀ other ∈ after, ∀ value, ¬Denotes other key value) →
            query.inputs.get? key = some value)
      ∧ ∀ (key : String) (value : Json), '=' ∉ key.toList → Text.Tight key.toList →
        Json.Portable Json.levelLimit value →
        ∀ key' value', Denotes (key ++ "=" ++ value.compact) key' value'
          ↔ key' = key ∧ value' = value := by
  refine ⟨flags.exists_error_iff defaults, ?_, ?_, ?_⟩
  · intro raw hraw
    refine ⟨(flags.query_merge_eq_error_iff defaults raw).mp hraw, ?_⟩
    rintro settings screen loaded rfl
    exact flags.reportOver_of_error settings screen hraw
  · intro hwell
    refine ⟨_, flags.query_merge_eq_ok defaults hwell, flags.mem_keys_inputMap, ?_⟩
    intro before raw after key value hinputs hdenotes hlast
    exact flags.get?_inputMap hinputs hdenotes hlast
  · intro key value hkey htight hvalue key' value'
    have hdenotes := denotes_compact hkey htight hvalue
    constructor
    · exact hdenotes.unique
    · rintro ⟨rfl, rfl⟩
      exact hdenotes

def equation : Json :=
  .object [("k", .string "=")]

/-- Inputs of which two meet under one key when their blanks are taken away, and
one is no JSON. -/
def repeated : BuildFlags where
  inputs := ["input.query(a) =[1]", "input.query(b)=x=y",
    "\u00a0input.query(a)=" ++ equation.compact]

/-- Inputs of which two have no equals sign. -/
def unsigned : BuildFlags where
  inputs := ["input.query(a)=1", "input.query(b)", "", "c=2"]

theorem inputs_last_repeated :
    (∃ query, (repeated.merge {}).query = .ok query
        ∧ query.inputs.get? "input.query(a)" = some equation
        ∧ query.inputs.get? "input.query(b)" = some (.string "x=y"))
      ∧ FirstWithout unsigned.inputs "input.query(b)"
      ∧ (∃ messages, reportOver {} ⟨String.length, fun _ text => text⟩ unsigned {}
          = failure messages "input 'input.query(b)' must have the form key=<json>")
      ∧ Denotes ("input.query(a)" ++ "=" ++ equation.compact) "input.query(a)" equation := by
  have hportable : Json.Portable Json.levelLimit equation :=
    .object (by simp) (by simpa using .string "=")
  have hkey : Text.Tight "input.query(a)".toList := ⟨by decide, by decide⟩
  have hblank : Text.Blank ['\u00a0'] := by
    intro c hc
    rw [List.mem_singleton.mp hc]
    decide
  have hfirst : Denotes ("\u00a0input.query(a)=" ++ equation.compact) "input.query(a)" equation :=
    ⟨['\u00a0'], [], equation.compact, by simp, hblank, nofun, hkey, by decide,
      (valueOf_compact hportable).symm⟩
  have hsecond : Denotes "input.query(b)=x=y" "input.query(b)" (.string "x=y") := by
    have hnone : Json.read? "x=y" = none := Option.isNone_iff_eq_none.mp (by decide +kernel)
    refine ⟨[], [], "x=y", by decide, nofun, nofun, ⟨by decide, by decide⟩, by decide, ?_⟩
    rw [valueOf, hnone]
    rfl
  have herror : (unsigned.merge {}).query = .error "input.query(b)" :=
    (query_merge_eq_error_iff _ _ _).mpr
      ⟨["input.query(a)=1"], ["", "c=2"], rfl, by decide, by decide⟩
  obtain ⟨query, hquery, -, hlast⟩ := (inputs_last repeated {}).2.2.1 (by decide)
  obtain ⟨hwithout, hreport⟩ := (inputs_last unsigned {}).2.1 _ herror
  obtain ⟨messages, hmessages, -⟩ := hreport {} _ {} rfl
  refine ⟨⟨query, hquery, ?_, ?_⟩, hwithout, ⟨messages, hmessages⟩, ?_⟩
  · exact hlast ["input.query(a) =[1]", "input.query(b)=x=y"] _ [] _ _ rfl hfirst nofun
  · apply hlast ["input.query(a) =[1]"] _ _ _ _ rfl hsecond
    intro other hother value hdenotes
    rw [List.mem_singleton.mp hother] at hdenotes
    exact absurd (hfirst.unique hdenotes).1 (by decide)
  · exact ((inputs_last unsigned {}).2.2.2 "input.query(a)" _ (by decide) hkey hportable _ _).mpr
      ⟨rfl, rfl⟩

end BuildFlags

end Yql.Command
