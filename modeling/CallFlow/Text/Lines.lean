/-!
# Lines of a text

A line ends at a line feed; a carriage return directly before the line feed belongs to the line
end, any other carriage return to the line.  A text that ends in a line feed has no empty line
behind it.
-/

namespace CallFlow.Text

/-- Puts a character in front of the first line. -/
def extendFirstLine (c : Char) : List (List Char) → List (List Char)
  | [] => [[c]]
  | line :: rest => (c :: line) :: rest

/-- The lines of a list of characters. -/
def linesOfChars : List Char → List (List Char)
  | [] => []
  | '\r' :: '\n' :: cs => [] :: linesOfChars cs
  | '\n' :: cs => [] :: linesOfChars cs
  | c :: cs => extendFirstLine c (linesOfChars cs)

/-- The lines of a text. -/
def lines (s : String) : List String :=
  (linesOfChars s.toList).map String.ofList

/-- Cuts a list of characters at the first period that a space follows: what stands before the
period and what stands behind the space. -/
def cutAtPeriod : List Char → Option (List Char × List Char)
  | '.' :: ' ' :: cs => some ([], cs)
  | c :: cs => (cutAtPeriod cs).map fun (before, after) => (c :: before, after)
  | [] => none

end CallFlow.Text
