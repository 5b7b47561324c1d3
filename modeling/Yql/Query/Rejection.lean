/-!
# Rejections

Why a query is refused: the field that is at fault and what is wrong with it.
Two rejections are equal when they say the same.
-/

namespace Yql

/-- Why a query is refused. -/
inductive Rejection where
  | missingSources
  | malformedKey (key required : String)
  | other (field reason : String)

namespace Rejection

def field : Rejection → String
  | missingSources => "sources"
  | malformedKey _ _ => "input"
  | other field _ => field

def reason : Rejection → String
  | missingSources => "at least one source must be specified"
  | malformedKey key required =>
      "input parameter key '" ++ key ++ "' should start with '" ++ required ++ "'"
  | other _ reason => reason

def message (rejection : Rejection) : String :=
  "validation error in field '" ++ rejection.field ++ "': " ++ rejection.reason

/-- Whether two rejections say the same. -/
def equal (a b : Rejection) : Bool :=
  a.field = b.field && a.reason = b.reason

instance : BEq Rejection := ⟨equal⟩

end Rejection

end Yql
