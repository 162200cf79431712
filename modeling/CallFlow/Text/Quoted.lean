import CallFlow.Text.Printable

/-!
# Quoted text

Texts inside messages and log lines stand between double quotes, with quotes, backslashes, control
characters and every character that does not show by itself escaped.
-/

namespace CallFlow.Text

/-- The escape of a character by its code point. -/
def codePointEscape (c : Char) : List Char :=
  '\\' :: 'u' :: '\x7b' :: Nat.toDigits 16 c.toNat ++ ['\x7d']

/-- How a character is written between quotes. -/
def quotedChar (c : Char) : List Char :=
  match c with
  | '"' => ['\\', '"']
  | '\\' => ['\\', '\\']
  | '\n' => ['\\', 'n']
  | '\r' => ['\\', 'r']
  | '\t' => ['\\', 't']
  | '\x00' => ['\\', '0']
  | c => if isPrintable c then [c] else codePointEscape c

/-- A text between double quotes. -/
def quoted (s : String) : String :=
  String.ofList ('"' :: s.toList.flatMap quotedChar ++ ['"'])

end CallFlow.Text
