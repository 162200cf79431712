import CallFlow.Http.Domain.Name
import CallFlow.Text.Digits

/-!
# Hosts

The part of an address that tells the server: a domain name, or one of the two kinds of numeric
addresses.  A numeric address has many spellings, which all come to the same number.
-/

namespace CallFlow.Http

/-- The server of an address. -/
inductive Host where
  /-- The labels of a domain name. -/
  | domain (labels : List String)
  /-- An address of 32 bits. -/
  | short (address : Nat)
  /-- An address of eight pieces of 16 bits. -/
  | long (pieces : List Nat)
  deriving DecidableEq

namespace Host

/-! ## Short addresses -/

/-- Reads a part of a short address: a number in base 16 behind `0x`, in base 8 behind a zero, and
in base 10 otherwise.  The mark of base 16 alone stands for zero. -/
def part? : List Char → Option Nat
  | [] => none
  | '0' :: 'x' :: digits => Text.valueInBase? 16 digits
  | '0' :: digits => Text.valueInBase? 8 digits
  | digits => Text.valueInBase? 10 digits

/-- The labels of a name without an empty one at its end. -/
def withoutRoot (labels : List (List Char)) : List (List Char) :=
  if labels.getLast? = some [] then labels.dropLast else labels

/-- Whether a name ends in a number, so that it can only be a short address. -/
def endsInNumber (labels : List (List Char)) : Bool :=
  (withoutRoot labels).getLast?.any fun label =>
    (!label.isEmpty && label.all Char.isDigit) || (part? label).isSome

/-- The address of four parts or fewer: each but the last is a byte, and the last one fills the
bytes that are left. -/
def ofParts? : (bytesLeft : Nat) → List Nat → Option Nat
  | bytesLeft + 1, [last] => if last < Nat.pow 256 (bytesLeft + 1) then some last else none
  | bytesLeft + 1, byte :: parts =>
    if byte < 256 then (ofParts? bytesLeft parts).map (byte * Nat.pow 256 bytesLeft + ·) else none
  | _, _ => none

/-- Reads a short address. -/
def short? (labels : List (List Char)) : Option Nat :=
  ((withoutRoot labels).mapM part?).bind (ofParts? 4)

/-- The four bytes of a short address with points between them. -/
def shortText (address : Nat) : String :=
  ".".intercalate ([0x1000000, 0x10000, 0x100, 1].map fun unit => toString (address / unit % 256))

/-! ## Long addresses -/

/-- Reads a piece of a long address: at most four digits in base 16. -/
def piece? (cs : List Char) : Option Nat :=
  if !cs.isEmpty && cs.length ≤ 4 then Text.valueInBase? 16 cs else none

/-- Reads a byte in base 10, without zeros in front. -/
def byte? (cs : List Char) : Option Nat :=
  if cs.isEmpty || (cs.head? = some '0' && 1 < cs.length) then none
  else (Text.valueInBase? 10 cs).filter (· < 256)

/-- Reads the last two pieces of a long address when they are written as four bytes. -/
def twoPieces? (cs : List Char) : Option (List Nat) := do
  match ← (Text.fields (· == '.') cs).mapM byte? with
  | [a, b, c, d] => some [256 * a + b, 256 * c + d]
  | _ => none

/-- Reads the pieces at the end of a long address. -/
def lastPieces? : List (List Char) → Option (List Nat)
  | [] => some []
  | [last] => ((piece? last).map ([·])).or (twoPieces? last)
  | first :: rest => do return (← piece? first) :: (← lastPieces? rest)

/-- What stands before and behind the first pair of colons. -/
def cutAtGap : List Char → Option (List Char × List Char)
  | ':' :: ':' :: cs => some ([], cs)
  | c :: cs => (cutAtGap cs).map fun (before, after) => (c :: before, after)
  | [] => none

/-- The texts between colons; an empty text has none. -/
def pieceTexts (cs : List Char) : List (List Char) :=
  if cs.isEmpty then [] else Text.fields (· == ':') cs

/-- Reads a long address.  A pair of colons stands for at least one piece that is zero. -/
def long? (cs : List Char) : Option (List Nat) :=
  match cutAtGap cs with
  | none => (lastPieces? (pieceTexts cs)).filter (·.length = 8)
  | some (before, after) => do
    let front ← (pieceTexts before).mapM piece?
    let back ← lastPieces? (pieceTexts after)
    let count := front.length + back.length
    if count < 8 then some (front ++ List.replicate (8 - count) 0 ++ back) else none

/-- Pieces in base 16 with colons between them. -/
def piecesText (pieces : List Nat) : String :=
  ":".intercalate (pieces.map fun piece => String.ofList (Nat.toDigits 16 piece))

/-- Where the longest run of zeros starts, and how long it is; the first of them counts, and a run
of one does not. -/
def longestGap (pieces : List Nat) : Nat × Nat :=
  (List.range pieces.length).foldl (fun best start =>
    let size := ((pieces.drop start).takeWhile (· == 0)).length
    if best.2 < size then (start, size) else best) (0, 1)

/-- The pieces of a long address with the longest run of zeros left out. -/
def longText (pieces : List Nat) : String :=
  let (start, size) := longestGap pieces
  if 1 < size then
    piecesText (pieces.take start) ++ "::" ++ piecesText (pieces.drop (start + size))
  else piecesText pieces

/-! ## Any host -/

/-- The bytes of a text in which a percent sign and two digits stand for a byte. -/
def decodeBytes : List Char → List UInt8
  | '%' :: a :: b :: cs =>
    match Text.hexDigit? a, Text.hexDigit? b with
    | some a, some b => UInt8.ofNat (16 * a + b) :: decodeBytes cs
    | _, _ => '%'.toUInt8 :: decodeBytes (a :: b :: cs)
  | c :: cs => String.utf8EncodeChar c ++ decodeBytes cs
  | [] => []

/-- A text with its encoded bytes put in. -/
def decodeText? (cs : List Char) : Option String :=
  String.fromUTF8? (ByteArray.mk (decodeBytes cs).toArray)

/-- Reads a host that is not in brackets. -/
def ofName? (cs : List Char) : Option Host := do
  let labels ← Domain.labels? (← decodeText? cs).toList
  if labels = [[]] then none
  else if endsInNumber labels then (short? labels).map .short
  else some (.domain (labels.map String.ofList))

/-- Reads a host: a long address stands in brackets. -/
def ofChars? : List Char → Option Host
  | '[' :: cs => if cs.getLast? = some ']' then (long? cs.dropLast).map .long else none
  | cs => ofName? cs

/-- A host in ASCII. -/
def text : Host → String
  | .domain labels =>
    ".".intercalate (labels.map fun label => String.ofList (Domain.encodeLabel label.toList))
  | .short address => shortText address
  | .long pieces => "[" ++ longText pieces ++ "]"

end Host

end CallFlow.Http
