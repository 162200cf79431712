import CallFlow.Text.Ends

/-!
# Blank characters, trimming and words

Author texts are compared, tested and laid out up to their white space.  This module holds the
Unicode property `White_Space` and the three operations built on it: `trim` removes it at both
ends, `words` splits at every run of it, and `singleLine` joins the words again with one space
each, so that its result holds no line break whatever the author wrote.
-/

namespace CallFlow.Text

/-- The characters with the Unicode property `White_Space`. -/
def isBlank (c : Char) : Bool :=
  let n := c.toNat
  (0x09 ≤ n && n ≤ 0x0D) || n == 0x20 || n == 0x85 || n == 0xA0 || n == 0x1680 ||
    (0x2000 ≤ n && n ≤ 0x200A) || n == 0x2028 || n == 0x2029 || n == 0x202F ||
    n == 0x205F || n == 0x3000

/-- A list of characters without the blank ones at its two ends. -/
def trimChars (cs : List Char) : List Char :=
  trimWhile isBlank cs

/-- A text without the blank characters at its two ends. -/
def trim (s : String) : String :=
  String.ofList (trimChars s.toList)

/-- Whether a text holds nothing but blank characters. -/
def blank (s : String) : Bool :=
  s.toList.all isBlank

/-- Puts the word that was being read in front of the words behind it, if it has a character. -/
def flushWord (word : List Char) (behind : List (List Char)) : List (List Char) :=
  if word.isEmpty then behind else word :: behind

/-- Reads the words of `cs` from its end: the word that starts at the first character, possibly
empty, and the words behind it. -/
def wordsFrom : List Char → List Char × List (List Char)
  | [] => ([], [])
  | c :: cs =>
    let (word, behind) := wordsFrom cs
    if isBlank c then ([], flushWord word behind) else (c :: word, behind)

/-- The maximal runs of characters that are not blank, in order. -/
def wordsOfChars (cs : List Char) : List (List Char) :=
  let (word, behind) := wordsFrom cs
  flushWord word behind

/-- The words of a text. -/
def words (s : String) : List String :=
  (wordsOfChars s.toList).map String.ofList

/-- The words of a text on one line, one space between any two. -/
def singleLine (s : String) : String :=
  " ".intercalate (words s)

/-- The trimmed content of an optional text; a blank text counts as missing. -/
def nonBlank (s : Option String) : Option String :=
  match s with
  | none => none
  | some s => if blank s then none else some (trim s)

end CallFlow.Text
