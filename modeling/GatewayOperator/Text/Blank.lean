/-
This file says which characters are white space and trims them from both ends of a text. The
table is the Unicode property `White_Space`, which is wider than the ASCII blanks: a value that
was pasted with a no-break space around it is trimmed as well.
-/

namespace GatewayOperator.Text

/-- The characters of the Unicode property `White_Space`. -/
def isBlank (character : Char) : Bool :=
  let code := character.toNat
  (0x09 ≤ code && code ≤ 0x0D) || code == 0x20 || code == 0x85 || code == 0xA0 ||
    code == 0x1680 || (0x2000 ≤ code && code ≤ 0x200A) || code == 0x2028 || code == 0x2029 ||
    code == 0x202F || code == 0x205F || code == 0x3000

/-- Drops the trailing characters that satisfy a test. -/
def dropTrailing (test : Char → Bool) (text : List Char) : List Char :=
  (text.reverse.dropWhile test).reverse

/-- Drops white space at both ends. -/
def trim (text : List Char) : List Char :=
  dropTrailing isBlank (text.dropWhile isBlank)

end GatewayOperator.Text
