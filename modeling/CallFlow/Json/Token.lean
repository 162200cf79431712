import CallFlow.Json.Numeral
import CallFlow.Text.Digits

/-!
# Tokens of JSON text

`tokens` cuts a text into punctuation and leaves.  A token that breaks off or breaks a rule of its
own is the last one.  Two faults leave the end of a token where it is, and so keep the tokens behind
it: a number that is too large, and a string with half of a surrogate pair.
-/

namespace CallFlow.Json

/-- A token of JSON text. -/
inductive Token where
  | arrayStart
  | arrayEnd
  | objectStart
  | objectEnd
  | colon
  | comma
  | null
  | bool (b : Bool)
  /-- A number; `none` when it is too large. -/
  | number (n : Option JsonNumber)
  /-- A string; an error when its escapes do not pair up to characters. -/
  | string (s : Except Malformed String)
  /-- A string that breaks off or breaks a rule. -/
  | brokenString (why : Malformed)
  /-- Anything else that is no token. -/
  | broken (why : Malformed)

/-- A part of a string: a character, or a UTF-16 unit written as an escape. -/
inductive Piece where
  | char (c : Char)
  | unit (n : Nat)

/-- The value of four hexadecimal digits. -/
def hexValue? (a b c d : Char) : Option Nat := do
  let a ← Text.hexDigit? a
  let b ← Text.hexDigit? b
  let c ← Text.hexDigit? c
  let d ← Text.hexDigit? d
  some (((a * 16 + b) * 16 + c) * 16 + d)

/-- The character that a letter behind a backslash stands for. -/
def shortEscape? : Char → Option Char
  | '"' => some '"'
  | '\\' => some '\\'
  | '/' => some '/'
  | 'b' => some '\x08'
  | 'f' => some '\x0c'
  | 'n' => some '\n'
  | 'r' => some '\r'
  | 't' => some '\t'
  | _ => none

/-- Reads a string behind its opening quote: its parts and the text behind the closing quote.  The
parts read so far come first, newest first. -/
def scanPieces (read : List Piece) : List Char → Except Malformed (List Piece × List Char)
  | [] => .error .endInString
  | '"' :: cs => .ok (read.reverse, cs)
  | '\\' :: 'u' :: a :: b :: c :: d :: cs =>
    match hexValue? a b c d with
    | some n => scanPieces (.unit n :: read) cs
    | none => .error .invalidEscape
  | '\\' :: 'u' :: _ => .error .endInString
  | '\\' :: e :: cs =>
    match shortEscape? e with
    | some c => scanPieces (.char c :: read) cs
    | none => .error .invalidEscape
  | '\\' :: [] => .error .endInString
  | c :: cs => if c < ' ' then .error .controlCharacter else scanPieces (.char c :: read) cs

/-- The character of a surrogate pair. -/
def pairChar (high low : Nat) : Char :=
  Char.ofNat (0x10000 + (high - 0xD800) * 0x400 + (low - 0xDC00))

/-- Whether a UTF-16 unit is the first half of a pair. -/
def isHighSurrogate (n : Nat) : Bool :=
  0xD800 ≤ n && n ≤ 0xDBFF

/-- Whether a UTF-16 unit is the second half of a pair. -/
def isLowSurrogate (n : Nat) : Bool :=
  0xDC00 ≤ n && n ≤ 0xDFFF

/-- The characters of a string: a high surrogate needs a low one directly behind it. -/
def joinPieces : List Piece → Except Malformed (List Char)
  | [] => .ok []
  | .char c :: pieces => (joinPieces pieces).map (c :: ·)
  | .unit high :: .unit low :: pieces =>
    if isLowSurrogate high then .error .loneSurrogate
    else if isHighSurrogate high then
      if isLowSurrogate low then (joinPieces pieces).map (pairChar high low :: ·)
      else .error .loneSurrogate
    else (joinPieces (.unit low :: pieces)).map (Char.ofNat high :: ·)
  | .unit n :: pieces =>
    if isLowSurrogate n then .error .loneSurrogate
    else if isHighSurrogate n then .error .unfinishedSurrogatePair
    else (joinPieces pieces).map (Char.ofNat n :: ·)

/-- The string token behind an opening quote. -/
def scanString (cs : List Char) : Token × List Char :=
  match scanPieces [] cs with
  | .ok (pieces, rest) => (.string ((joinPieces pieces).map String.ofList), rest)
  | .error why => (.brokenString why, [])

/-- The token of a literal whose first letter was read, given the letters that must follow. -/
def scanLiteral (token : Token) : List Char → List Char → Token × List Char
  | [], cs => (token, cs)
  | _ :: _, [] => (.broken .endInValue, [])
  | e :: expected, c :: cs =>
    if c = e then scanLiteral token expected cs else (.broken .expectedLiteral, [])

/-- The number token at the front of a text. -/
def scanNumber (cs : List Char) : Token × List Char :=
  match Numeral.scan cs with
  | .ok (numeral, rest) => (.number numeral.value, rest)
  | .error why => (.broken why, [])

/-- The characters that may stand between tokens. -/
def isSpace (c : Char) : Bool :=
  c == ' ' || c == '\n' || c == '\t' || c == '\r'

/-- The first token of a text that starts with `c`, and the rest. -/
def scanToken (c : Char) (cs : List Char) : Token × List Char :=
  match c with
  | '[' => (.arrayStart, cs)
  | ']' => (.arrayEnd, cs)
  | '{' => (.objectStart, cs)
  | '}' => (.objectEnd, cs)
  | ':' => (.colon, cs)
  | ',' => (.comma, cs)
  | '"' => scanString cs
  | 'n' => scanLiteral .null ['u', 'l', 'l'] cs
  | 't' => scanLiteral (.bool true) ['r', 'u', 'e'] cs
  | 'f' => scanLiteral (.bool false) ['a', 'l', 's', 'e'] cs
  | c => if c == '-' || c.isDigit then scanNumber (c :: cs) else (.broken .expectedValue, [])

/-- Reading the pieces of a string leaves no more than there was. -/
theorem length_le_of_scanPieces {read : List Piece} {cs : List Char} {result}
    (h : scanPieces read cs = .ok result) : result.2.length ≤ cs.length := by
  fun_induction scanPieces read cs <;> simp_all <;> first | omega | (subst h; simp)

/-- A string token leaves no more than there was behind its quote. -/
theorem length_scanString_le (cs : List Char) : (scanString cs).2.length ≤ cs.length := by
  unfold scanString
  split
  · rename_i h
    exact length_le_of_scanPieces h
  · simp

/-- A literal leaves no more than there was. -/
theorem length_scanLiteral_le (token : Token) (expected cs : List Char) :
    (scanLiteral token expected cs).2.length ≤ cs.length := by
  fun_induction scanLiteral token expected cs with
  | case1 cs => exact Nat.le_refl _
  | case2 e expected => exact Nat.le_refl _
  | case3 expected c cs ih => exact Nat.le_succ_of_le ih
  | case4 e expected c cs hne => exact Nat.zero_le _

/-- A number token takes at least one character. -/
theorem length_scanNumber_lt (c : Char) (cs : List Char) :
    (scanNumber (c :: cs)).2.length < (c :: cs).length := by
  unfold scanNumber
  split
  · rename_i h
    exact Numeral.length_lt_of_scan h
  · simp

/-- Every token takes at least one character. -/
theorem length_scanToken_le (c : Char) (cs : List Char) :
    (scanToken c cs).2.length ≤ cs.length := by
  unfold scanToken
  split <;> try simp
  · exact length_scanString_le cs
  · exact length_scanLiteral_le _ _ cs
  · exact length_scanLiteral_le _ _ cs
  · exact length_scanLiteral_le _ _ cs
  · split
    · exact Nat.le_of_lt_succ (length_scanNumber_lt _ cs)
    · simp

/-- The tokens of a text. -/
def tokens : List Char → List Token
  | [] => []
  | c :: cs =>
    if isSpace c then tokens cs
    else (scanToken c cs).1 :: tokens (scanToken c cs).2
termination_by cs => cs.length
decreasing_by
  · simp
  · exact Nat.lt_succ_of_le (length_scanToken_le c cs)

end CallFlow.Json
