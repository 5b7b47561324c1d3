import Yql.Json.Reading
import Yql.Request.Basic
import Yql.Text.Shown

/-!
# Reading requests

A request is read from its JSON text in one pass from left to right, and the
first problem met is the one reported: a parameter of the wrong type is
refused before anything after it is looked at. A request is an object, in any
order and with members of other names, which are skipped; or an array that
gives the parameters in the order of the wire, the last of which may be
missing. Where a parameter need not be given, `null` stands for its absence.
-/

namespace Yql.Request

open Json (skipBlanks)
open Reader (afterWord)

/-- What was met where a value of some type was wanted. -/
inductive Found
  | null
  | bool (b : Bool)
  | number (n : JsonNumber)
  | string (text : String)
  | sequence
  | map

inductive Wanted
  | text
  | count
  | map
  | request
  deriving DecidableEq

/-- What is wrong with a text that is JSON so far. -/
inductive Problem
  | wrongType (found : Found) (wanted : Wanted)
  | negative (n : Int)
  | duplicate (parameter : Parameter)
  | missing (parameter : Parameter)
  | empty

/-- Why a text is no request. -/
inductive ReadError
  | malformed
  | invalid (problem : Problem)

namespace Found

def message : Found → String
  | null => "null"
  | bool b => "boolean `" ++ (if b then "true" else "false") ++ "`"
  | number (.whole n) => "integer `" ++ toString n ++ "`"
  | number (.floating x) => "floating point `" ++ x.wireText ++ "`"
  | string text => "string " ++ Text.shown text
  | sequence => "sequence"
  | map => "map"

end Found

namespace Wanted

def message : Wanted → String
  | text => "a string"
  | count => "u64"
  | map => "a map"
  | request => "struct VespaQuery"

end Wanted

namespace Problem

def message : Problem → String
  | wrongType found wanted =>
      "invalid type: " ++ found.message ++ ", expected " ++ wanted.message
  | negative n =>
      "invalid value: " ++ (Found.number (.whole n)).message ++ ", expected "
        ++ Wanted.count.message
  | duplicate parameter => "duplicate field `" ++ parameter.name ++ "`"
  | missing parameter => "missing field `" ++ parameter.name ++ "`"
  | empty =>
      "invalid length 0, expected " ++ Wanted.request.message ++ " with "
        ++ toString Parameter.all.length ++ " elements"

end Problem

/-- What a reader of JSON read; where it read nothing the text is
malformed. -/
def orMalformed {α : Type} : Option α → Except ReadError α
  | some result => .ok result
  | none => .error .malformed

/-- The error that a value of the wrong type gives. The value is read as far
as its message needs it, and a bracket is not looked into. -/
def wrongType (room : Nat) (wanted : Wanted) (input : List Char) : ReadError :=
  let report (found : Option Found) : ReadError :=
    match found with
    | some found => .invalid (.wrongType found wanted)
    | none => .malformed
  match input with
  | 'n' :: rest => report ((afterWord ['u', 'l', 'l'] rest).map fun _ => .null)
  | 't' :: rest => report ((afterWord ['r', 'u', 'e'] rest).map fun _ => .bool true)
  | 'f' :: rest => report ((afterWord ['a', 'l', 's', 'e'] rest).map fun _ => .bool false)
  | '"' :: rest => report ((Json.readString room rest).map fun (text, _) => .string text)
  | '[' :: _ => report (some .sequence)
  | '\x7b' :: _ => report (some .map)
  | input => report ((Json.readNumber input).map fun (n, _) => .number n)

def readText (room : Nat) (input : List Char) : Except ReadError (String × List Char) :=
  match skipBlanks input with
  | '"' :: rest => orMalformed (Json.readString room rest)
  | input => .error (wrongType room .text input)

def readCount (room : Nat) (input : List Char) : Except ReadError (UInt64 × List Char) :=
  match skipBlanks input with
  | [] => .error .malformed
  | c :: rest =>
      if c = '-' ∨ c.isDigit then
        match Json.readNumber (c :: rest) with
        | some (.whole n, rest) =>
            if n < 0 then .error (.invalid (.negative n))
            else .ok (UInt64.ofNat n.toNat, rest)
        | some (.floating x, _) =>
            .error (.invalid (.wrongType (.number (.floating x)) .count))
        | none => .error .malformed
      else .error (wrongType room .count (c :: rest))

/-- The inputs of a request, inside the brackets of the request and their
own. -/
def readInputs (room : Nat) (input : List Char) : Except ReadError (KeyMap Json × List Char) :=
  match skipBlanks input with
  | '\x7b' :: rest =>
      let value := Json.readValue room (Json.levelLimit - 2)
      orMalformed
        ((Json.readBracket (Json.readMember (Json.readString room) value) '\x7d' room rest).map
          fun (members, rest) => (KeyMap.ofList members, rest))
  | input => .error (wrongType room .map input)

def readOptional {α : Type} (read : List Char → Except ReadError (α × List Char))
    (input : List Char) : Except ReadError (Option α × List Char) :=
  match skipBlanks input with
  | 'n' :: rest => orMalformed ((afterWord ['u', 'l', 'l'] rest).map (none, ·))
  | input => (read input).map fun (value, rest) => (some value, rest)

def readParameter (room : Nat) (parameter : Parameter) (request : Request)
    (input : List Char) : Except ReadError (Request × List Char) :=
  match parameter with
  | .yql => (readText room input).map fun (text, rest) => ({ request with yql := text }, rest)
  | .ranking =>
      (readOptional (readText room) input).map fun (text, rest) =>
        ({ request with ranking := text }, rest)
  | .hits =>
      (readOptional (readCount room) input).map fun (count, rest) =>
        ({ request with hits := count }, rest)
  | .offset =>
      (readOptional (readCount room) input).map fun (count, rest) =>
        ({ request with offset := count }, rest)
  | .defaultIndex =>
      (readOptional (readText room) input).map fun (text, rest) =>
        ({ request with defaultIndex := text }, rest)
  | .input =>
      (readOptional (readInputs room) input).map fun (inputs, rest) =>
        ({ request with input := inputs }, rest)
  | .query =>
      (readOptional (readText room) input).map fun (text, rest) =>
        ({ request with query := text }, rest)

def blank : Request := { yql := "" }

/-! ## Objects -/

/-- A request that is being read, and the parameters met so far. -/
structure Gathered where
  request : Request := blank
  seen : List Parameter := []

/-- The value of a member of that name, the text standing after the name. A
second member of a parameter is refused before its value is looked at. -/
def readMember (room : Nat) (name : String) (state : Gathered) (input : List Char) :
    Except ReadError (Gathered × List Char) :=
  match Parameter.ofName? name with
  | some parameter =>
      if parameter ∈ state.seen then .error (.invalid (.duplicate parameter))
      else
        match skipBlanks input with
        | ':' :: rest =>
            (readParameter room parameter state.request rest).map fun (request, rest) =>
              (⟨request, parameter :: state.seen⟩, rest)
        | _ => .error .malformed
  | none =>
      match skipBlanks input with
      | ':' :: rest =>
          (orMalformed (Json.skipValue room room rest)).map fun (_, rest) => (state, rest)
      | _ => .error .malformed

/-- The members up to the closing bracket, at least one. -/
def readMembers : (room : Nat) → (size : Nat) → Gathered → List Char →
    Except ReadError (Gathered × List Char)
  | 0, _, _, _ => .error .malformed
  | room + 1, size, state, input =>
      match skipBlanks input with
      | '"' :: rest => do
          let (name, rest) ← orMalformed (Json.readString size rest)
          let (state, rest) ← readMember size name state rest
          match skipBlanks rest with
          | ',' :: rest => readMembers room size state rest
          | '\x7d' :: rest => .ok (state, rest)
          | _ => .error .malformed
      | _ => .error .malformed

def readObject (room : Nat) (input : List Char) : Except ReadError (Request × List Char) := do
  let (state, rest) ←
    match skipBlanks input with
    | '\x7d' :: rest => .ok ({}, rest)
    | input => readMembers room room {} input
  if Parameter.yql ∈ state.seen then .ok (state.request, rest)
  else .error (.invalid (.missing .yql))

/-! ## Arrays -/

/-- The parameters in the order of the wire, those at the end possibly
missing; the text after the first begins with a comma. -/
def readPositions (room : Nat) : List Parameter → Request → List Char →
    Except ReadError (Request × List Char)
  | [], request, input =>
      match skipBlanks input with
      | ']' :: rest => .ok (request, rest)
      | _ => .error .malformed
  | parameter :: others, request, input =>
      match skipBlanks input with
      | ']' :: rest => .ok (request, rest)
      | ',' :: rest => do
          let (request, rest) ←
            match skipBlanks rest with
            | ']' :: _ => .error .malformed
            | [] => .error .malformed
            | input => readParameter room parameter request input
          readPositions room others request rest
      | _ => .error .malformed

def readArray (room : Nat) (input : List Char) : Except ReadError (Request × List Char) :=
  match skipBlanks input with
  | [] => .error .malformed
  | ']' :: _ => .error (.invalid .empty)
  | input => do
      let (request, rest) ← readParameter room .yql blank input
      readPositions room (Parameter.all.drop 1) request rest

/-- The request that a text holds, with nothing but blanks around it. -/
def read (text : String) : Except ReadError Request := do
  let input := text.toList
  let room := input.length + 1
  let (request, rest) ←
    match skipBlanks input with
    | '[' :: rest => readArray room rest
    | '\x7b' :: rest => readObject room rest
    | input => .error (wrongType room .request input)
  if skipBlanks rest = [] then .ok request else .error .malformed

end Yql.Request
