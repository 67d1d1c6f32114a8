/-
This file writes texts as YAML scalars. A text stands plain where nothing in it could be taken for
structure or for a value of another type; otherwise it is put between single quotes. A text of
several lines is written as a block, line by line, and one that no other style can hold is escaped.
-/

import GatewayOperator.Json.Printer
import GatewayOperator.Text.Ranges

namespace GatewayOperator.Yaml

/-! ### What a text may be taken for -/

/-- The words that some reader takes for a truth value, for nothing, or for no number. -/
def reservedWords : List String :=
  ["y", "yes", "n", "no", "on", "off", "true", "false", "null", "nil", "~", "nan", ".nan", ".inf",
    "+.inf", "-.inf"]

/-- Drops a sign. -/
def unsigned : List Char → List Char
  | '+' :: rest => rest
  | '-' :: rest => rest
  | text => text

/-- Whether a text is an exponent or empty. -/
def isExponent : List Char → Bool
  | [] => true
  | mark :: rest =>
    (mark = 'e' || mark = 'E') && !(unsigned rest).isEmpty && (unsigned rest).all Char.isDigit

/-- Whether a text has the form of a number. -/
def isNumeral (text : List Char) : Bool :=
  let whole := (unsigned text).takeWhile Char.isDigit
  match (unsigned text).dropWhile Char.isDigit with
  | '.' :: rest =>
    let places := rest.takeWhile Char.isDigit
    !(whole.isEmpty && places.isEmpty) && isExponent (rest.dropWhile Char.isDigit)
  | rest => !whole.isEmpty && isExponent rest

/-- Whether a text could be taken for a value of another type. A text that starts with a digit
counts, since some readers know dates and numbers in other bases. -/
def isAmbiguous (text : List Char) : Bool :=
  reservedWords.contains (String.ofList (text.map Char.toLower)) || isNumeral text ||
    match text with
    | [] => true
    | first :: _ => first.isDigit

/-! ### What may stand where -/

/-- Whether a character ends a line. -/
def isBreak (character : Char) : Bool :=
  ['\n', '\r', '\u0085', '\u2028', '\u2029'].contains character

/-- Whether a character separates words. -/
def isGap (character : Char) : Bool :=
  character = ' ' || character = '\t' || isBreak character

/-- Whether a character can be shown as it is. -/
def isShown (character : Char) : Bool :=
  let code := character.toNat
  code = 0x0A || (0x20 ≤ code && code ≤ 0x7E) ||
    (0xA0 ≤ code && code ≤ 0xFFFD && code ≠ 0xFEFF)

/-- The characters that mean structure at the start of a text. -/
def openers : List Char := "#,[]&*!|>'\"%@\x60\x7b\x7d".toList

/-- Whether a text starts like structure. -/
def startsStructure : List Char → Bool
  | [] => false
  | first :: rest =>
    openers.contains first ||
      (['?', ':', '-'].contains first && rest.head?.all isGap) ||
      ['-', '-', '-'].isPrefixOf (first :: rest) || ['.', '.', '.'].isPrefixOf (first :: rest)

/-- Whether structure could be seen behind the start: a colon before a gap, or a number sign
behind one. -/
def holdsStructure : List Char → Bool
  | first :: second :: rest =>
    (second = ':' && rest.head?.all isGap) || (second = '#' && isGap first) ||
      holdsStructure (second :: rest)
  | _ => false

/-- Whether one of two neighbours satisfies the first test and the other one the second. -/
def hasNeighbours (before after : Char → Bool) : List Char → Bool
  | first :: second :: rest =>
    (before first && after second) || hasNeighbours before after (second :: rest)
  | _ => false

/-- Whether a text of one line can stand plain. -/
def standsPlain (text : List Char) : Bool :=
  !isAmbiguous text && !startsStructure text && !holdsStructure text &&
    text.head? ≠ some ' ' && text.getLast? ≠ some ' '

/-- Whether a text can be written as a block. -/
def standsAsBlock (text : List Char) : Bool :=
  text.all isShown && text.getLast? ≠ some ' ' && !hasNeighbours (· = ' ') isBreak text

/-! ### Writing -/

/-- The styles of a scalar. -/
inductive Style where
  | plain
  | quoted
  | block
  | escaped
  deriving DecidableEq

/-- The style of a text. -/
def Style.ofText (text : List Char) : Style :=
  if text.contains '\n' then if standsAsBlock text then block else escaped
  else if !text.all isShown then escaped
  else if standsPlain text then plain
  else quoted

/-- A text between single quotes, with the quotes in it doubled. -/
def quote (text : List Char) : String :=
  String.ofList ('\'' :: text.flatMap (fun character =>
    if character = '\'' then ['\'', '\''] else [character]) ++ ['\''])

/-- The first line of a block: it says how the first line is indented, where that cannot be seen,
and whether the breaks at the end belong to the text. -/
def blockHeader (text : List Char) : String :=
  let indentation := if text.head?.all fun first => first = ' ' || first = '\n' then "2" else ""
  let ending := match text.reverse with
    | '\n' :: '\n' :: _ => "+"
    | ['\n'] => "+"
    | '\n' :: _ => ""
    | _ => "-"
  "|" ++ indentation ++ ending

/-- The lines of a text. A break at the end ends the last line. -/
def linesOf (text : List Char) : List (List Char) :=
  let lines := Text.splitAt '\n' text
  if lines.getLast? = some [] then lines.dropLast else lines

/-- Indents a line, unless it is empty. -/
def indent (line : String) : String :=
  if line.isEmpty then line else "  " ++ line

/-- The lines of a text as a scalar. The first one stands behind a key or a dash, and the others
are indented against it. -/
def scalarLines (text : String) : List String :=
  match Style.ofText text.toList with
  | .plain => [text]
  | .quoted => [quote text.toList]
  | .escaped => [String.ofList (Json.writeString text)]
  | .block =>
    blockHeader text.toList :: (linesOf text.toList).map fun line => indent (String.ofList line)

/-- The text of a key, which takes one line. -/
def keyText (key : String) : String :=
  match Style.ofText key.toList with
  | .plain => key
  | .quoted => quote key.toList
  | .escaped | .block => String.ofList (Json.writeString key)

end GatewayOperator.Yaml
