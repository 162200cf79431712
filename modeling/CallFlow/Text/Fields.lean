/-!
# Fields of a text

Separators cut a text into fields.  There is one more field than separators, and any of them may be
empty.
-/

namespace CallFlow.Text

/-- The fields between the characters that pass a test. -/
def fields (isSeparator : Char → Bool) : List Char → List (List Char)
  | [] => [[]]
  | c :: cs =>
    if isSeparator c then [] :: fields isSeparator cs
    else
      match fields isSeparator cs with
      | first :: rest => (c :: first) :: rest
      | [] => [[c]]

end CallFlow.Text
