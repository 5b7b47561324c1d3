/-!
# Quoted literals

A string literal of the query language stands between single quotes, and a
single quote inside it is written with a backslash before it. Nothing else is
escaped: a backslash of the text itself is written as it is.
-/

namespace Yql.Text

/-- A backslash is put before every single quote. -/
def escapedChars : List Char → List Char
  | [] => []
  | c :: rest =>
      if c = '\'' then '\\' :: '\'' :: escapedChars rest else c :: escapedChars rest

def escaped (text : String) : String :=
  String.ofList (escapedChars text.toList)

def quoted (text : String) : String :=
  "'" ++ escaped text ++ "'"

theorem escapedChars_quote (rest : List Char) :
    escapedChars ('\'' :: rest) = '\\' :: '\'' :: escapedChars rest := rfl

theorem escapedChars_of_ne {c : Char} (h : c ≠ '\'') (rest : List Char) :
    escapedChars (c :: rest) = c :: escapedChars rest :=
  if_neg h

@[simp] theorem escapedChars_append (first second : List Char) :
    escapedChars (first ++ second) = escapedChars first ++ escapedChars second := by
  induction first with
  | nil => rfl
  | cons c rest ih => by_cases h : c = '\'' <;> simp [escapedChars, h, ih]

theorem escapedChars_of_not_mem {chars : List Char} (h : '\'' ∉ chars) :
    escapedChars chars = chars := by
  induction chars with
  | nil => rfl
  | cons c rest ih =>
      simp only [List.mem_cons, not_or] at h
      simp [escapedChars, Ne.symm h.1, ih h.2]

@[simp] theorem toList_escaped (text : String) :
    (escaped text).toList = escapedChars text.toList := by
  simp [escaped]

end Yql.Text
