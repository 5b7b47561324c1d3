import Yql.Condition.Render

/-!
# Rank clauses

An ordered collection of conditions that score a document: the first selects,
the others only contribute to the rank. Conditions that have nothing to say
are left out, and a clause without any is not written.
-/

namespace Yql

structure Rank where
  conditions : List Condition := []
  deriving Inhabited

namespace Rank

def add (rank : Rank) (condition : Condition) : Rank :=
  ⟨rank.conditions ++ [condition]⟩

def addAll (rank : Rank) (conditions : List Condition) : Rank :=
  ⟨rank.conditions ++ conditions⟩

def ofList (conditions : List Condition) : Rank :=
  addAll {} conditions

/-- How many conditions there are, those with nothing to say included. -/
def size (rank : Rank) : Nat :=
  rank.conditions.length

def isEmpty (rank : Rank) : Bool :=
  rank.conditions.isEmpty

def equal (a b : Rank) : Bool :=
  Condition.equalAll a.conditions b.conditions

instance : BEq Rank := ⟨equal⟩

def yql (rank : Rank) : String :=
  match Text.nonEmpty (rank.conditions.map Condition.yql) with
  | [] => ""
  | clauses => "rank(" ++ Text.joined ", " clauses ++ ")"

instance : ToString Rank := ⟨yql⟩

@[simp] theorem conditions_add (rank : Rank) (condition : Condition) :
    (rank.add condition).conditions = rank.conditions ++ [condition] := rfl

@[simp] theorem conditions_addAll (rank : Rank) (conditions : List Condition) :
    (rank.addAll conditions).conditions = rank.conditions ++ conditions := rfl

@[simp] theorem conditions_ofList (conditions : List Condition) :
    (ofList conditions).conditions = conditions := rfl

end Rank

end Yql
