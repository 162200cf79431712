import CallFlow.Http.Host
import CallFlow.Text.Ends

/-!
# Web addresses

Reading an address brings it to one form: the host in its shortest spelling, without a user name,
the path with its dot segments resolved, and the characters that may not stand in an address
percent-encoded, while what is already encoded is kept.  A request shows its server the path and the
query only.
-/

namespace CallFlow.Http

/-- The schemes of the web. -/
inductive Scheme where
  | http
  | https
  deriving DecidableEq

/-- A web address. -/
structure Url where
  scheme : Scheme
  host : Host
  /-- The number of the service, if it is not the usual one of the scheme. -/
  service : Option Nat
  /-- The segments of the path, encoded. -/
  path : List String
  /-- The query behind the question mark, encoded. -/
  query : Option String
  /-- The part of the document that is meant, behind the number sign, encoded. -/
  fragment : Option String
  deriving DecidableEq

/-- The name of a scheme. -/
def Scheme.name : Scheme → String
  | .http => "http"
  | .https => "https"

/-- The usual service of a scheme. -/
def Scheme.service : Scheme → Nat
  | .http => 80
  | .https => 443

namespace Url

/-- The sixteen digits of percent-encoding. -/
def hexDigit (n : Nat) : Char :=
  (Nat.digitChar n).toUpper

/-- The encoding of a byte. -/
def encodeByte (b : UInt8) : List Char :=
  ['%', hexDigit (b.toNat / 16), hexDigit (b.toNat % 16)]

/-- Whether a character is a control character or not an ASCII character. -/
def isControlOrForeign (c : Char) : Bool :=
  c.toNat < 0x20 || 0x7e < c.toNat

/-- Whether a character is encoded in a path. -/
def isEncodedInPath (c : Char) : Bool :=
  isControlOrForeign c || [' ', '"', '<', '>', '`', '#', '?', '\x7b', '\x7d'].contains c

/-- Whether a character is encoded in a query. -/
def isEncodedInQuery (c : Char) : Bool :=
  isControlOrForeign c || [' ', '"', '#', '<', '>', '\''].contains c

/-- Whether a character is encoded in a fragment. -/
def isEncodedInFragment (c : Char) : Bool :=
  isControlOrForeign c || [' ', '"', '<', '>', '`'].contains c

/-- A text with the chosen characters encoded. -/
def encode (isEncoded : Char → Bool) (cs : List Char) : List Char :=
  cs.flatMap fun c => if isEncoded c then (String.utf8EncodeChar c).flatMap encodeByte else [c]

/-- Whether a character separates segments. -/
def isSlash (c : Char) : Bool :=
  c == '/' || c == '\\'

/-- A segment with encoded dots written out, if it consists of dots. -/
def dots : List Char → List Char
  | '%' :: '2' :: c :: cs => if c == 'e' || c == 'E' then '.' :: dots cs else '%' :: '2' :: c :: cs
  | '.' :: cs => '.' :: dots cs
  | cs => cs

/-- Whether a segment stands for its own place. -/
def isSingleDot (segment : List Char) : Bool :=
  dots segment == ['.']

/-- Whether a segment takes back the one in front of it. -/
def isDoubleDot (segment : List Char) : Bool :=
  dots segment == ['.', '.']

/-- The path of segments behind the segments so far. -/
def resolve (resolved : List (List Char)) : List (List Char) → List (List Char)
  | [] => resolved
  | segment :: rest =>
    let ending := if rest.isEmpty then [[]] else []
    if isDoubleDot segment then resolve (resolved.dropLast ++ ending) rest
    else if isSingleDot segment then resolve (resolved ++ ending) rest
    else resolve (resolved ++ [segment]) rest

/-- The path of a text that starts with a slash, or is empty. -/
def pathOfChars (cs : List Char) : List String :=
  (resolve [] (Text.fields isSlash (encode isEncodedInPath (cs.drop 1)))).map String.ofList

/-- A text without what surrounds an address, and without line breaks and tabs. -/
def clean (cs : List Char) : List Char :=
  let isOuter (c : Char) := c.toNat ≤ 0x20
  (Text.trimWhile isOuter cs).filter fun c => !(c == '\t' || c == '\n' || c == '\r')

/-- The scheme of a text, and what stands behind it and the slashes that follow it. -/
def cutScheme? (cs : List Char) : Option (Scheme × List Char) :=
  let name := (cs.takeWhile (· != ':')).map Char.toLower
  let rest := ((cs.dropWhile (· != ':')).drop 1).dropWhile isSlash
  if !cs.contains ':' then none
  else if name == "http".toList then some (.http, rest)
  else if name == "https".toList then some (.https, rest)
  else none

/-- The host of the part of an address that names the server, and what stands behind it: in brackets
a colon belongs to the host. -/
def cutHost (isBracketed : Bool) : List Char → List Char × List Char
  | [] => ([], [])
  | c :: cs =>
    if c == ':' && !isBracketed then ([], c :: cs)
    else
      let (host, rest) := cutHost (c == '[' || (isBracketed && c != ']')) cs
      (c :: host, rest)

/-- Reads the number of a service behind a host: a colon and a number.  Both may be missing, and the
usual number of the scheme counts as missing. -/
def readService? (scheme : Scheme) : List Char → Option (Option Nat)
  | [] => some none
  | ':' :: digits => do
    let service ← Text.valueInBase? 10 digits
    if 65535 < service then none
    else if digits.isEmpty || service = scheme.service then some none
    else some (some service)
  | _ => none

/-- Reads a web address. -/
def ofText? (text : String) : Option Url := do
  let (scheme, rest) ← cutScheme? (clean text.toList)
  let isEnd (c : Char) := isSlash c || c == '?' || c == '#'
  let server := Text.takeEndWhile (· != '@') (rest.takeWhile fun c => !isEnd c)
  let (hostText, serviceText) := cutHost false server
  let host ← Host.ofChars? hostText
  let service ← readService? scheme serviceText
  let rest := rest.dropWhile fun c => !isEnd c
  let resource := rest.takeWhile (· != '#')
  let query := (resource.dropWhile (· != '?')).tail?
  let fragment := (rest.dropWhile (· != '#')).tail?
  return {
    scheme
    host
    service
    path := pathOfChars (resource.takeWhile (· != '?'))
    query := query.map fun cs => String.ofList (encode isEncodedInQuery cs)
    fragment := fragment.map fun cs => String.ofList (encode isEncodedInFragment cs) }

/-- The path of an address as a request shows it. -/
def pathText (url : Url) : String :=
  String.join (url.path.map ("/" ++ ·))

/-- What a request shows of an address: the path and the query. -/
def target (url : Url) : String :=
  match url.query with
  | some query => url.pathText ++ "?" ++ query
  | none => url.pathText

/-- An address in full. -/
def text (url : Url) : String :=
  let service := (url.service.map fun service => ":" ++ toString service).getD ""
  let fragment := (url.fragment.map ("#" ++ ·)).getD ""
  url.scheme.name ++ "://" ++ url.host.text ++ service ++ url.target ++ fragment

/-- The most characters that an address in a request may have. -/
def longestText : Nat := 65534

/-- Whether a character of a host cannot be sent, though an address may have it. -/
def isUnsendable (c : Char) : Bool :=
  ['"', '`', '\x7b', '\x7d'].contains c

/-- Whether an address can be sent in a request. -/
def isSendable (url : Url) : Bool :=
  url.text.length ≤ longestText && !url.host.text.toList.any isUnsendable

end Url

end CallFlow.Http
