/-!
# Blanks

The characters that the Unicode standard gives the property White_Space, and
texts without such characters at their ends.
-/

namespace Yql.Text

/-- The numbers of the characters with the property White_Space, first and
last of each range. -/
def blankRanges : List (Nat × Nat) :=
  [(0x09, 0x0D), (0x20, 0x20), (0x85, 0x85), (0xA0, 0xA0), (0x1680, 0x1680),
    (0x2000, 0x200A), (0x2028, 0x2029), (0x202F, 0x202F), (0x205F, 0x205F),
    (0x3000, 0x3000)]

def isBlank (c : Char) : Bool :=
  blankRanges.any fun (first, last) => first ≤ c.toNat && c.toNat ≤ last

def trimmedChars (chars : List Char) : List Char :=
  (((chars.dropWhile isBlank).reverse).dropWhile isBlank).reverse

def trimmed (text : String) : String :=
  String.ofList (trimmedChars text.toList)

end Yql.Text
