import Yql.Toml.Basic

/-!
# Documents under construction

A document is a tree of tables that grows line by line. A header opens a
table, or an element of an array of tables, once; keys with points make tables
on the way, and only keys with points may add to those. A value that has been
given, an inline table included, is closed.
-/

namespace Yql.Toml

/-- How a table came to be: by its own header, by the header of a table inside
it, or by a key with points. -/
inductive Origin
  | header
  | implied
  | dotted
  deriving DecidableEq

/-- What stands at a key. -/
inductive Node where
  | value (value : Toml)
  | table (origin : Origin) (entries : List (String × Node))
  | elements (elements : List (List (String × Node)))

abbrev Entries := List (String × Node)

/-- Changes what stands at a key, or puts something there; nothing when the
change is refused. -/
def alter (key : String) (change : Option Node → Option Node) : Entries → Option Entries
  | [] => (change none).map fun node => [(key, node)]
  | (other, node) :: rest =>
      if other = key then (change (some node)).map fun node => (other, node) :: rest
      else (alter key change rest).map ((other, node) :: ·)

def alterLast (change : Entries → Option Entries) : List Entries → Option (List Entries)
  | [] => none
  | [element] => (change element).map ([·])
  | element :: next :: rest => (alterLast change (next :: rest)).map (element :: ·)

/-- Gives a key its value. `fits` says whether the table at hand takes keys
now: only keys with points add to a table that they made. -/
def define (value : Toml) : (path : List String) → (fits : Bool) → Entries → Option Entries
  | [], _, _ => none
  | [key], fits, entries =>
      if fits then
        alter key (fun
          | none => some (.value value)
          | some _ => none) entries
      else none
  | key :: next :: rest, _, entries =>
      alter key (fun
        | none => (define value (next :: rest) true []).map (.table .dotted)
        | some (.table origin inner) =>
            if origin = .header then none
            else (define value (next :: rest) (origin = .dotted) inner).map (.table origin)
        | some (.elements elements) =>
            (alterLast (define value (next :: rest) false) elements).map .elements
        | some (.value _) => none) entries

/-- Changes what stands at the last key of a header, the tables on the way
being made as they are needed. -/
def alterAt (change : Option Node → Option Node) : (path : List String) → Entries →
    Option Entries
  | [], _ => none
  | [key], entries => alter key change entries
  | key :: next :: rest, entries =>
      alter key (fun
        | none => (alterAt change (next :: rest) []).map (.table .implied)
        | some (.table origin inner) =>
            (alterAt change (next :: rest) inner).map (.table origin)
        | some (.elements elements) =>
            (alterLast (alterAt change (next :: rest)) elements).map .elements
        | some (.value _) => none) entries

/-- Opens the table of a header. Only a table that another header implied may
already be there. -/
def openTable (path : List String) (root : Entries) : Option Entries :=
  alterAt (fun
    | none => some (.table .header [])
    | some (.table .implied inner) => some (.table .header inner)
    | some _ => none) path root

def openElement (path : List String) (root : Entries) : Option Entries :=
  alterAt (fun
    | none => some (.elements [[]])
    | some (.elements elements) => some (.elements (elements ++ [[]]))
    | some _ => none) path root

def within (change : Entries → Option Entries) (path : List String) (root : Entries) :
    Option Entries :=
  match path with
  | [] => change root
  | path =>
      alterAt (fun
        | some (.table origin inner) => (change inner).map (.table origin)
        | some (.elements elements) => (alterLast change elements).map .elements
        | _ => none) path root

mutual

def Node.toToml : Node → Toml
  | .value value => value
  | .table _ entries => .table (entriesToToml entries)
  | .elements elements => .array (elementsToToml elements)

def entriesToToml : List (String × Node) → List (String × Toml)
  | [] => []
  | (key, node) :: rest => (key, node.toToml) :: entriesToToml rest

def elementsToToml : List (List (String × Node)) → List Toml
  | [] => []
  | element :: rest => .table (entriesToToml element) :: elementsToToml rest

end

end Yql.Toml
