import Yql.Binary.Reading

/-!
# TOML values

Values of the configuration format. A table is a list of entries with
different keys, in the order they were defined.
-/

namespace Yql

/-- A TOML value; a date or time is kept as it is written. -/
inductive Toml where
  | string (text : String)
  | integer (n : Int)
  | float (x : Double)
  | boolean (b : Bool)
  | moment (text : String)
  | array (items : List Toml)
  | table (entries : List (String × Toml))
  deriving Inhabited

namespace Toml

def entry? (key : String) (entries : List (String × Toml)) : Option Toml :=
  (entries.find? (·.1 = key)).map (·.2)

end Toml

end Yql
