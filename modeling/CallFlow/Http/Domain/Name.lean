import CallFlow.Http.Domain.Fold
import CallFlow.Http.Domain.Joiner
import CallFlow.Http.Domain.Punycode
import CallFlow.Text.Fields

/-!
# Domain names

A domain name is a row of labels with dots between them.  A label with other than ASCII letters has
a coded form, which starts with `xn--`.  Whichever form a label is given in, the letters that it
stands for must be fit to be shown; a label may be empty.
-/

namespace CallFlow.Http.Domain

/-- The mark at the front of a coded label. -/
def codeMark : List Char := ['x', 'n', '-', '-']

/-- Whether a text has no characters but ASCII ones. -/
def isAscii (cs : List Char) : Bool := cs.all fun c => c.toNat < 0x80

/-- The letters that a label stands for.  A code must be needed, and must not write another spelling
of what it stands for. -/
def decodeLabel? (label : List Char) : Option (List Char) :=
  if codeMark.isPrefixOf label then
    (Punycode.decode? (label.drop codeMark.length)).filter
      fun letters => !isAscii letters && letters.all isSettled
  else some label

/-- A label in ASCII. -/
def encodeLabel (label : List Char) : List Char :=
  if isAscii label then label else codeMark ++ Punycode.encode label

/-- Whether a label can be read for itself: it does not start with a mark, and it has joiners only
where they make a difference. -/
def isSound (label : List Char) : Bool :=
  !label.head?.any isMark && joinersFit [] label

/-- Whether the labels of a name do not mix directions. -/
def directionsFit (labels : List (List Char)) : Bool :=
  !labels.any (·.any Direction.isSensitive) ||
    labels.all fun label => Direction.fit (label.map Direction.ofChar)

/-- Reads the labels of a name, in the spelling to which it folds. -/
def labels? (cs : List Char) : Option (List (List Char)) := do
  let labels := Text.fields (· == '.') (← fold? cs)
  let decoded ← labels.mapM decodeLabel?
  if decoded.all isSound && directionsFit decoded then some labels else none

end CallFlow.Http.Domain
