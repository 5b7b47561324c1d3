import Yql.Toml.Reading

/-!
# Configuration

A configuration gives defaults for the queries that are built. It is a TOML
document with a table `defaults`; what it does not know it ignores. The
defaults may also be given as an array, in the order of their definition, and
an entry that is a date says nothing.
-/

namespace Yql

/-- What a query gets where nothing else is asked for. -/
structure Defaults where
  sources : List String := []
  select : List String := []
  hits : Option UInt64 := none
  ranking : Option String := none
  defaultIndex : Option String := none

namespace Config

def fileName : String := ".vespa-yql.toml"

/-- The environment variable that names a configuration file. -/
def environmentVariable : String := "VESPA_YQL_CONFIG"

def text? : Toml → Option String
  | .string text => some text
  | _ => none

def texts? : Toml → Option (List String)
  | .array items => items.mapM text?
  | _ => none

def count? : Toml → Option UInt64
  | .integer n => if 0 ≤ n then some (UInt64.ofNat n.toNat) else none
  | _ => none

/-- What a value says, or a default when there is no value; nothing when the
value is of the wrong type. -/
def orDefault {α : Type} (read? : Toml → Option α) (default : α) : Option Toml → Option α
  | some value => read? value
  | none => some default

def ofValues? (sources select hits ranking defaultIndex : Option Toml) : Option Defaults := do
  let sources ← orDefault texts? [] sources
  let select ← orDefault texts? [] select
  let hits ← orDefault (fun value => (count? value).map some) none hits
  let ranking ← orDefault (fun value => (text? value).map some) none ranking
  let defaultIndex ← orDefault (fun value => (text? value).map some) none defaultIndex
  some ⟨sources, select, hits, ranking, defaultIndex⟩

def defaultsOf? : Toml → Option Defaults
  | .table entries =>
      ofValues? (Toml.entry? "sources" entries) (Toml.entry? "select" entries)
        (Toml.entry? "hits" entries) (Toml.entry? "ranking" entries)
        (Toml.entry? "default_index" entries)
  | .array items => ofValues? items[0]? items[1]? items[2]? items[3]? items[4]?
  | .moment _ => some {}
  | _ => none

def read? (text : String) : Option Defaults := do
  let entries ← Toml.read? text
  match Toml.entry? "defaults" entries with
  | some value => defaultsOf? value
  | none => some {}

end Config

end Yql
