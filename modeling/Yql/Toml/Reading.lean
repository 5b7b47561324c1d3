import Yql.Toml.Document
import Yql.Toml.Lexeme

/-!
# Reading TOML

A document is read line by line: a header opens a table, a key gets a value,
and anything else but blanks and comments is refused. Arrays may span lines,
inline tables may not. Brackets inside brackets have a limited depth, which is
what the reader of values recurses on.
-/

namespace Yql.Toml

/-- How many keys a key with points may have, and how deep brackets may be. -/
def levelLimit : Nat := 79

def readPath (room : Nat) : Reader (List String) := fun input => do
  let (path, rest) ← readKey room input
  if path.length ≤ levelLimit then some (path, rest) else none

/-- The items of an array up to its closing bracket, the text standing where an
item or the bracket may stand. -/
def readItems (item : Reader Toml) (size : Nat) : (room : Nat) → Reader (List Toml)
  | 0, _ => none
  | room + 1, input =>
      match skipLines size input with
      | ']' :: rest => some ([], rest)
      | input => do
          let (value, rest) ← item input
          match skipLines size rest with
          | ',' :: rest => do
              let (others, rest) ← readItems item size room rest
              some (value :: others, rest)
          | ']' :: rest => some ([value], rest)
          | _ => none

def readKeyValue (value : Reader Toml) (room : Nat) : Reader (List String × Toml) :=
  fun input => do
    let (path, rest) ← readPath room input
    match rest with
    | '=' :: rest => do
        let (value, rest) ← value (skipBlanks rest)
        some ((path, value), rest)
    | _ => none

def readEntries (value : Reader Toml) (size : Nat) : (room : Nat) → Entries → Reader Entries
  | 0, _, _ => none
  | room + 1, entries, input => do
      let ((path, value'), rest) ← readKeyValue value size input
      let entries ← define value' path true entries
      match skipBlanks rest with
      | ',' :: rest => readEntries value size room entries rest
      | '\x7d' :: rest => some (entries, rest)
      | _ => none

def readInline (value : Reader Toml) (room : Nat) : Reader Toml := fun input =>
  match skipBlanks input with
  | '\x7d' :: rest => some (.table [], rest)
  | input =>
      (readEntries value room room [] input).map fun (entries, rest) =>
        (.table (entriesToToml entries), rest)

/-- A value with at most that many levels of brackets. -/
def readValue (room : Nat) : (levels : Nat) → Reader Toml
  | 0 => readScalar room
  | levels + 1 => fun input =>
      match input with
      | '[' :: rest =>
          (readItems (readValue room levels) room room rest).map fun (items, rest) =>
            (.array items, rest)
      | '\x7b' :: rest => readInline (readValue room levels) room rest
      | input => readScalar room input

/-- A document that is being read: its tables so far, and the header of the
table that keys belong to. -/
structure State where
  root : Entries := []
  header : List String := []

def readLine (room : Nat) (state : State) (input : List Char) : Option (State × List Char) :=
  match skipBlanks input with
  | '[' :: '[' :: rest => do
      let (path, rest) ← readPath room rest
      match rest with
      | ']' :: ']' :: rest => do
          let root ← openElement path state.root
          some (⟨root, path⟩, rest)
      | _ => none
  | '[' :: rest => do
      let (path, rest) ← readPath room rest
      match rest with
      | ']' :: rest => do
          let root ← openTable path state.root
          some (⟨root, path⟩, rest)
      | _ => none
  | [] => some (state, [])
  | c :: rest =>
      if c = '#' ∨ (afterNewline? (c :: rest)).isSome then some (state, c :: rest)
      else do
        let ((path, value), rest) ← readKeyValue (readValue room levelLimit) room (c :: rest)
        let root ← within (define value path true) state.header state.root
        some ({ state with root := root }, rest)

def readLines (size : Nat) : (room : Nat) → State → List Char → Option State
  | 0, _, _ => none
  | room + 1, state, input => do
      let (state, rest) ← readLine size state input
      match skipComment (skipBlanks rest) with
      | [] => some state
      | rest => do
          let rest ← afterNewline? rest
          readLines size room state rest

/-- The entries of the document that a text holds; a mark of byte order may
stand before it. -/
def read? (text : String) : Option (List (String × Toml)) :=
  let input :=
    match text.toList with
    | '\uFEFF' :: rest => rest
    | input => input
  let room := input.length + 1
  (readLines room room {} input).map fun state => entriesToToml state.root

end Yql.Toml
