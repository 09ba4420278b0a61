/-!
Contract: white space at the ends of texts.

Owns: the white-space class of Unicode, trimming, and blank texts.
-/

namespace Telemetry.Text

/-- The code points with the property White_Space. -/
def isWhiteSpace (character : Char) : Bool :=
  let codePoint := character.toNat
  (0x9 ≤ codePoint && codePoint ≤ 0xd) || codePoint == 0x20 || codePoint == 0x85 ||
    codePoint == 0xa0 || codePoint == 0x1680 || (0x2000 ≤ codePoint && codePoint ≤ 0x200a) ||
    codePoint == 0x2028 || codePoint == 0x2029 || codePoint == 0x202f || codePoint == 0x205f ||
    codePoint == 0x3000

def trimStart (text : List Char) : List Char :=
  text.dropWhile isWhiteSpace

def trimmed (text : List Char) : List Char :=
  (trimStart (trimStart text).reverse).reverse

def trim (text : String) : String :=
  String.ofList (trimmed text.toList)

/-- Nothing but white space. -/
def isBlank (text : String) : Bool :=
  text.toList.all isWhiteSpace

end Telemetry.Text
