import CallFlow.Json.Token

/-!
# Documents

A document is what a text holds up to the first point at which it stops being JSON.  A reader walks
it from the front, so that a problem of meaning early in a text is found before a malformed part
behind it.  `Document.ofTokens` builds the document in one pass over the tokens, with a stack of the
containers that are still open; `Document.ofJson` is the document of a value that was read before.
-/

namespace CallFlow.Json

/-- A JSON text, complete or up to where it breaks off. -/
inductive Document where
  | null
  | bool (b : Bool)
  /-- A number; `none` when it is too large. -/
  | number (n : Option JsonNumber)
  /-- A string; an error when its escapes do not pair up to characters. -/
  | string (s : Except Malformed String)
  /-- An array, and why its end is missing. -/
  | array (items : List Document) (missingEnd : Option Malformed)
  /-- An object, and why its end is missing. -/
  | object (members : List (Except Malformed String × Document)) (missingEnd : Option Malformed)
  /-- The text stops being JSON here. -/
  | broken (why : Malformed)

namespace Document

/-- The key of a member. -/
abbrev Key := Except Malformed String

/-- A container that is still open, with what was read of it, newest first. -/
inductive Frame where
  | array (items : List Document)
  /-- An object, and the key whose value is being read. -/
  | object (members : List (Key × Document)) (key : Option Key)

/-- What may come next. -/
inductive Due where
  /-- A value. -/
  | value
  /-- The first item of an array, or its end. -/
  | firstItem
  /-- An item of an array behind a comma. -/
  | nextItem
  /-- The first key of an object, or its end. -/
  | firstKey
  /-- A key of an object behind a comma. -/
  | nextKey
  /-- The colon behind a key. -/
  | colon
  /-- A comma, or the end of the innermost container. -/
  | comma
  deriving DecidableEq

/-- What a token leads to. -/
inductive Step where
  /-- More tokens are needed. -/
  | proceed (due : Due) (stack : List Frame)
  /-- The document is complete. -/
  | complete (document : Document)
  /-- The text broke. -/
  | stop (document : Document)

/-- Adds a value to an open container. -/
def Frame.add (value : Document) : Frame → Frame
  | .array items => .array (value :: items)
  | .object members (some key) => .object ((key, value) :: members) none
  | .object members none => .object members none

/-- An open container whose end is missing. -/
def Frame.breakOff (why : Malformed) : Frame → Document
  | .array items => .array items.reverse (some why)
  | .object members (some key) =>
    .object ((key, .broken why) :: members).reverse (some why)
  | .object members none => .object members.reverse (some why)

/-- Closes every open container around a value behind which the text breaks off. -/
def breakOffAround (why : Malformed) : Document → List Frame → Document
  | inner, [] => inner
  | inner, frame :: stack => breakOffAround why ((frame.add inner).breakOff why) stack

/-- The text breaks where a value was due. -/
def breakAtValue (why : Malformed) (stack : List Frame) : Step :=
  .stop (breakOffAround why (.broken why) stack)

/-- The text breaks inside the innermost container. -/
def breakInside (why : Malformed) : List Frame → Step
  | [] => .stop (.broken why)
  | frame :: stack => .stop (breakOffAround why (frame.breakOff why) stack)

/-- A value is complete. -/
def settle (value : Document) : List Frame → Step
  | [] => .complete value
  | frame :: stack => .proceed .comma (frame.add value :: stack)

/-- A token where a value is due. -/
def stepValue (stack : List Frame) : Token → Step
  | .arrayStart => .proceed .firstItem (.array [] :: stack)
  | .objectStart => .proceed .firstKey (.object [] none :: stack)
  | .null => settle .null stack
  | .bool b => settle (.bool b) stack
  | .number n => settle (.number n) stack
  | .string s => settle (.string s) stack
  | .brokenString why => breakAtValue why stack
  | .broken why => breakAtValue why stack
  | .arrayEnd | .objectEnd | .colon | .comma => breakAtValue .expectedValue stack

/-- The end of the innermost container. -/
def close : List Frame → Step
  | .array items :: stack => settle (.array items.reverse none) stack
  | .object members _ :: stack => settle (.object members.reverse none) stack
  | [] => .stop (.broken .expectedValue)

/-- A token where a key is due. -/
def stepKey (stack : List Frame) : Token → Step
  | .string key =>
    match stack with
    | .object members _ :: stack => .proceed .colon (.object members (some key) :: stack)
    | stack => breakInside .keyNotString stack
  | .brokenString why => breakInside why stack
  | _ => breakInside .keyNotString stack

/-- What one token leads to. -/
def step (due : Due) (stack : List Frame) (token : Token) : Step :=
  match due with
  | .value => stepValue stack token
  | .firstItem =>
    match token with
    | .arrayEnd => close stack
    | token => stepValue stack token
  | .nextItem =>
    match token with
    | .arrayEnd => breakInside .trailingComma stack
    | token => stepValue stack token
  | .firstKey =>
    match token with
    | .objectEnd => close stack
    | token => stepKey stack token
  | .nextKey =>
    match token with
    | .objectEnd => breakInside .trailingComma stack
    | token => stepKey stack token
  | .colon =>
    match token with
    | .colon => .proceed .value stack
    | _ => breakInside .expectedColon stack
  | .comma =>
    match token, stack with
    | .comma, .array items :: stack => .proceed .nextItem (.array items :: stack)
    | .comma, .object members key :: stack => .proceed .nextKey (.object members key :: stack)
    | .arrayEnd, .array items :: stack => close (.array items :: stack)
    | .objectEnd, .object members key :: stack => close (.object members key :: stack)
    | _, .array items :: stack => breakInside .expectedCommaOrArrayEnd (.array items :: stack)
    | _, stack => breakInside .expectedCommaOrObjectEnd stack

/-- The document of a text that ends where more was due. -/
def breakAtEnd (due : Due) (stack : List Frame) : Step :=
  match due with
  | .value | .nextItem => breakAtValue .endInValue stack
  | .firstItem => breakInside .endInArray stack
  | .firstKey => breakInside .endInObject stack
  | .nextKey => breakInside .endInValue stack
  | .colon => breakInside .endInObject stack
  | .comma =>
    match stack with
    | .array items :: stack => breakInside .endInArray (.array items :: stack)
    | stack => breakInside .endInObject stack

/-- The document that the last step holds. -/
def Step.document : Step → Document
  | .complete document => document
  | .stop document => document
  | .proceed _ _ => .broken .endInValue

/-- Builds the document of a list of tokens, given what is due and the containers that are open.
The second part tells whether tokens are left behind a complete document. -/
def build (due : Due) (stack : List Frame) : List Token → Document × Bool
  | [] => ((breakAtEnd due stack).document, false)
  | token :: tokens =>
    match step due stack token with
    | .proceed due stack => build due stack tokens
    | .complete document => (document, !tokens.isEmpty)
    | .stop document => (document, false)

/-- The document of a text, and whether more than white space stands behind it. -/
def ofText (text : String) : Document × Bool :=
  build .value [] (tokens text.toList)

mutual

/-- The document of a value. -/
def ofJson : Json → Document
  | .null => .null
  | .bool b => .bool b
  | .number n => .number (some n)
  | .string s => .string (.ok s)
  | .array items => .array (ofItems items) none
  | .object members => .object (ofMembers members) none

/-- The documents of the items of an array. -/
def ofItems : List Json → List Document
  | [] => []
  | item :: items => ofJson item :: ofItems items

/-- The documents of the members of an object. -/
def ofMembers : List (String × Json) → List (Key × Document)
  | [] => []
  | (key, value) :: members => (.ok key, ofJson value) :: ofMembers members

end

end Document

end CallFlow.Json
