/-!
# Accents

Terminal text has an accent, which decides its colour and the icon in front of
it. Colour is switched on by a control sequence before the text and off by one
after it; a text that switches colour off by itself gets its accent back at
once.
-/

namespace Yql.Terminal

/-- The role of a piece of terminal text. -/
inductive Accent
  | success
  | error
  | warning
  | info
  | muted
  | heading
  | literal
  deriving DecidableEq, Inhabited

namespace Accent

def icon : Accent → String
  | success => "✓"
  | error => "✗"
  | warning => "⚠"
  | info => "ℹ"
  | muted => "→"
  | heading => "•"
  | literal => "→"

def code : Accent → String
  | success => "32"
  | error => "31"
  | warning => "33"
  | info => "34"
  | muted => "90"
  | heading => "94"
  | literal => "35"

def opening (accent : Accent) (bold : Bool) : String :=
  "\x1b[" ++ (if bold then "1;" else "") ++ accent.code ++ "m"

end Accent

def closing : String := "\x1b[0m"

/-- The text with the accent switched on again wherever the text switches
colour off. -/
def resumed (opening : List Char) : List Char → List Char
  | '\x1b' :: '[' :: '0' :: 'm' :: rest =>
      '\x1b' :: '[' :: '0' :: 'm' :: (opening ++ resumed opening rest)
  | c :: rest => c :: resumed opening rest
  | [] => []

theorem resumed_of_not_mem {opening text : List Char} (h : '\x1b' ∉ text) :
    resumed opening text = text := by
  induction text with
  | nil => rfl
  | cons c rest ih =>
      obtain ⟨hc, hrest⟩ := not_or.mp (mt List.mem_cons.mpr h)
      rw [resumed, ih hrest]
      rintro more hc' -
      exact hc hc'.symm

/-- A text in the colour of an accent, or as it is when colour is not wanted. -/
def painted (text : String) (accent : Accent) (bold coloured : Bool) : String :=
  if coloured then
    let opening := accent.opening bold
    opening ++ String.ofList (resumed opening.toList text.toList) ++ closing
  else text

theorem painted_plain (text : String) (accent : Accent) (bold : Bool) :
    painted text accent bold false = text := rfl

/-- A text without control sequences is painted as it is. -/
theorem painted_coloured {text : String} (h : '\x1b' ∉ text.toList) (accent : Accent)
    (bold : Bool) : painted text accent bold true = accent.opening bold ++ text ++ closing := by
  show accent.opening bold ++ String.ofList (resumed _ text.toList) ++ closing = _
  rw [resumed_of_not_mem h, String.ofList_toList]

end Yql.Terminal
