/-
This file holds messages about JSON documents that may say at which place of the document they
arose. The place stands at the end of the text, so a text that ends like a place is read as one;
there is no line zero, and a message that tells of it has no place.
-/

import GatewayOperator.Decimal.Text

namespace GatewayOperator.Json

/-- A message, with the line and the column it is about; line zero stands for no place. -/
structure LocatedMessage where
  message : String
  line : Nat := 0
  column : Nat := 0
  deriving DecidableEq

namespace LocatedMessage

/-- What stands before the number of the line. -/
def lineMark : String := " at line "

/-- What stands before the number of the column. -/
def columnMark : String := " column "

/-- Takes a mark off the end of a text that is given backwards. -/
def takeMark (mark : String) (reversed : List Char) : Option (List Char) :=
  mark.toList.reverse.isPrefixOf? reversed

/-- Takes a number of at most 64 bits off the end of a text that is given backwards. -/
def takeNumber (reversed : List Char) : Option (Nat × List Char) :=
  let digits := (reversed.takeWhile Char.isDigit).reverse
  let number := digits.foldl (fun number digit => number * 10 + (digit.toNat - '0'.toNat)) 0
  if digits.isEmpty || UInt64.size ≤ number then none
  else some (number, reversed.dropWhile Char.isDigit)

/-- Splits a text that ends with a place. -/
def split? (text : String) : Option LocatedMessage := do
  let (column, rest) ← takeNumber text.toList.reverse
  let (line, rest) ← takeNumber (← takeMark columnMark rest)
  let rest ← takeMark lineMark rest
  return ⟨String.ofList rest.reverse, line, column⟩

/-- Reads a message from its text. -/
def ofText (text : String) : LocatedMessage := (split? text).getD { message := text }

/-- The text of a message. -/
def text (located : LocatedMessage) : String :=
  if located.line = 0 then located.message
  else
    located.message ++ lineMark ++ Decimal.integerText located.line ++ columnMark ++
      Decimal.integerText located.column

end LocatedMessage

end GatewayOperator.Json
