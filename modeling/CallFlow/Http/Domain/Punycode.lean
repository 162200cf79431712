/-!
# Punycode

A way to write any text with ASCII letters, digits and hyphens.  The ASCII characters come first,
then a hyphen, then numbers that tell which other characters to put in, and where.  A number is
written in a base of 36 whose digits end by themselves: a digit below the threshold of its place is
the last one.  `decode?` reads what `encode` writes.
-/

namespace CallFlow.Http.Punycode

/-- The digit of a value below 36: a letter, then a decimal digit. -/
def digit (n : Nat) : Char :=
  if n < 26 then Char.ofNat ('a'.toNat + n) else Char.ofNat ('0'.toNat + (n - 26))

/-- The value of a digit. -/
def digitValue? (c : Char) : Option Nat :=
  if 'a' ≤ c ∧ c ≤ 'z' then some (c.toNat - 'a'.toNat)
  else if '0' ≤ c ∧ c ≤ '9' then some (c.toNat - '0'.toNat + 26)
  else none

/-- The threshold of a place, given the bias: at least 1 and at most 26. -/
def threshold (place bias : Nat) : Nat :=
  if place ≤ bias then 1 else if bias + 26 ≤ place then 26 else place - bias

/-- A threshold is positive. -/
theorem threshold_pos (place bias : Nat) : 0 < threshold place bias := by
  unfold threshold
  split
  · omega
  · split <;> omega

/-- The bias that a number leaves behind once it is brought down to 455, given the places that were
passed on the way. -/
def settleBias (number places : Nat) : Nat :=
  if 455 < number then settleBias (number / 35) (places + 36)
  else places + 36 * number / (number + 38)
termination_by number
decreasing_by exact Nat.div_lt_self (by omega) (by omega)

/-- The bias behind a number, given how many characters there are then. -/
def nextBias (number count : Nat) (isFirst : Bool) : Nat :=
  let share := if isFirst then number / 700 else number / 2
  settleBias (share + share / count) 0

/-- Where the next character goes: the least character that it can be, the least place for it, and
the bias of the next number. -/
structure State where
  character : Nat
  place : Nat
  bias : Nat

/-- The state before the first number. -/
def State.initial : State := ⟨128, 0, 72⟩

/-- The state behind a number by which a character comes to a position; `count` is how many
characters there are then. -/
def State.next (state : State) (character position number count : Nat) : State :=
  ⟨character, position + 1, nextBias number count (state.place == 0)⟩

/-! ## Reading -/

/-- Reads a number from its digits, given the place and the weight of the first digit: the number
and the text behind it. -/
def readNumber (bias place weight : Nat) : List Char → Option (Nat × List Char)
  | [] => none
  | c :: cs =>
    match digitValue? c with
    | none => none
    | some digit =>
      if digit < threshold place bias then some (digit * weight, cs)
      else
        (readNumber bias (place + 36) (weight * (36 - threshold place bias)) cs).map
          fun (number, rest) => (digit * weight + number, rest)

/-- A number takes at least one character. -/
theorem length_lt_of_readNumber {bias place weight : Nat} {cs : List Char} {result}
    (h : readNumber bias place weight cs = some result) : result.2.length < cs.length := by
  induction cs generalizing place weight result with
  | nil => simp [readNumber] at h
  | cons c cs ih =>
    unfold readNumber at h
    split at h
    · simp at h
    · split at h
      · simp only [Option.some.injEq] at h
        simp [← h]
      · obtain ⟨⟨number, rest⟩, hinner, rfl⟩ := Option.map_eq_some_iff.1 h
        have := ih hinner
        simpa using Nat.lt_succ_of_lt this

/-- The text with the character that a number stands for, and the state behind it. -/
def insert? (text : List Char) (state : State) (number : Nat) : Option (List Char × State) :=
  let count := text.length + 1
  let position := state.place + number
  let character := state.character + position / count
  if character.isValidChar then
    some (text.insertIdx (position % count) (Char.ofNat character),
      state.next character (position % count) number count)
  else none

/-- Puts in the characters of the numbers of a text. -/
def insertAll? (text : List Char) (state : State) (cs : List Char) : Option (List Char) :=
  if cs.isEmpty then some text
  else
    match h : readNumber state.bias 36 1 cs with
    | none => none
    | some (number, rest) =>
      have : rest.length < cs.length := length_lt_of_readNumber h
      match insert? text state number with
      | none => none
      | some (text, state) => insertAll? text state rest
termination_by cs.length

/-- Reads a text.  The last hyphen stands behind the ASCII characters, if there are any. -/
def decode? (cs : List Char) : Option (List Char) :=
  let numbers := (cs.reverse.takeWhile (· != '-')).reverse
  let basic := (cs.reverse.dropWhile (· != '-')).reverse.dropLast
  if basic.isEmpty then insertAll? [] .initial cs else insertAll? basic .initial numbers

/-! ## Writing -/

/-- The digits of a number, from a place on. -/
def writeNumber (bias place number : Nat) : List Char :=
  let limit := threshold place bias
  if number < limit then [digit number]
  else
    digit (limit + (number - limit) % (36 - limit)) ::
      writeNumber bias (place + 36) ((number - limit) / (36 - limit))
termination_by number
decreasing_by
  have := threshold_pos place bias
  have : (number - threshold place bias) / (36 - threshold place bias) ≤
      number - threshold place bias := Nat.div_le_self _ _
  omega

/-- The numbers that put in the listed characters of a text, each with its index there; `count` is
how many characters there are with the first of them. -/
def writeNumbers (text : List Char) (state : State) (count : Nat) : List (Char × Nat) → List Char
  | [] => []
  | (c, index) :: rest =>
    let position := (text.take index).countP (· ≤ c)
    let number := (c.toNat - state.character) * count + position - state.place
    writeNumber state.bias 36 number ++
      writeNumbers text (state.next c.toNat position number count) (count + 1) rest

/-- Writes a text: its ASCII characters, then the others by their numbers in Unicode. -/
def encode (text : List Char) : List Char :=
  let basic := text.filter fun c => c.toNat < 128
  let others := (text.zipIdx.filter fun (c, _) => 128 ≤ c.toNat).mergeSort fun a b => a.1 ≤ b.1
  basic ++ (if basic.isEmpty then [] else ['-']) ++
    writeNumbers text .initial (basic.length + 1) others

end CallFlow.Http.Punycode
