import CallFlow.Json.NumberText

/-!
# Writing JSON

A value is written either compactly, without any space, or laid out with one member or item per line
and two spaces per level.  In strings only quotes, backslashes and control characters are escaped.
-/

namespace CallFlow.Json

/-- The lower-case hexadecimal digit of a number below sixteen. -/
def hexDigit (n : Nat) : Char :=
  Nat.digitChar n

/-- How a character is written inside a string. -/
def escapeChar (c : Char) : List Char :=
  match c with
  | '"' => ['\\', '"']
  | '\\' => ['\\', '\\']
  | '\x08' => ['\\', 'b']
  | '\x0c' => ['\\', 'f']
  | '\n' => ['\\', 'n']
  | '\r' => ['\\', 'r']
  | '\t' => ['\\', 't']
  | c =>
    if c < ' ' then ['\\', 'u', '0', '0', hexDigit (c.toNat / 16), hexDigit (c.toNat % 16)] else [c]

/-- A string between quotes. -/
def stringText (s : String) : List Char :=
  '"' :: s.toList.flatMap escapeChar ++ ['"']

mutual

/-- The compact text of a value. -/
def compactChars : Json → List Char
  | .null => ['n', 'u', 'l', 'l']
  | .bool true => ['t', 'r', 'u', 'e']
  | .bool false => ['f', 'a', 'l', 's', 'e']
  | .number n => (numberText n).toList
  | .string s => stringText s
  | .array [] => ['[', ']']
  | .array (item :: items) => '[' :: compactChars item ++ compactItems items
  | .object [] => ['{', '}']
  | .object ((key, value) :: members) =>
    '{' :: stringText key ++ ':' :: compactChars value ++ compactMembers members

/-- The items behind the first one, and the end of the array. -/
def compactItems : List Json → List Char
  | [] => [']']
  | item :: items => ',' :: compactChars item ++ compactItems items

/-- The members behind the first one, and the end of the object. -/
def compactMembers : List (String × Json) → List Char
  | [] => ['}']
  | (key, value) :: members =>
    ',' :: stringText key ++ ':' :: compactChars value ++ compactMembers members

end

/-- A new line at a level. -/
def newLine (level : Nat) : List Char :=
  '\n' :: List.replicate (2 * level) ' '

mutual

/-- The text of a value laid out at a level. -/
def prettyChars (level : Nat) : Json → List Char
  | .null => ['n', 'u', 'l', 'l']
  | .bool true => ['t', 'r', 'u', 'e']
  | .bool false => ['f', 'a', 'l', 's', 'e']
  | .number n => (numberText n).toList
  | .string s => stringText s
  | .array [] => ['[', ']']
  | .array (item :: items) =>
    '[' :: newLine (level + 1) ++ prettyChars (level + 1) item ++ prettyItems level items
  | .object [] => ['{', '}']
  | .object ((key, value) :: members) =>
    '{' :: newLine (level + 1) ++ stringText key ++ ':' :: ' ' :: prettyChars (level + 1) value ++
      prettyMembers level members

/-- The items behind the first one, and the end of the array. -/
def prettyItems (level : Nat) : List Json → List Char
  | [] => newLine level ++ [']']
  | item :: items =>
    ',' :: newLine (level + 1) ++ prettyChars (level + 1) item ++ prettyItems level items

/-- The members behind the first one, and the end of the object. -/
def prettyMembers (level : Nat) : List (String × Json) → List Char
  | [] => newLine level ++ ['}']
  | (key, value) :: members =>
    ',' :: newLine (level + 1) ++ stringText key ++ ':' :: ' ' :: prettyChars (level + 1) value ++
      prettyMembers level members

end

/-- The compact text of a value. -/
def compact (value : Json) : String :=
  String.ofList (compactChars value)

/-- The text of a value laid out over lines. -/
def pretty (value : Json) : String :=
  String.ofList (prettyChars 0 value)

end CallFlow.Json
