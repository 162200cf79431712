/-!
# The two ends of a text

What a text keeps when a run of characters is taken off one of its ends, or off both.
-/

namespace CallFlow.Text

/-- A list of characters without the run at its end whose characters pass a test. -/
def dropEndWhile (test : Char → Bool) (cs : List Char) : List Char :=
  (cs.reverse.dropWhile test).reverse

/-- The run at the end of a list of characters whose characters pass a test. -/
def takeEndWhile (test : Char → Bool) (cs : List Char) : List Char :=
  (cs.reverse.takeWhile test).reverse

/-- A list of characters without the runs at its two ends whose characters pass a test. -/
def trimWhile (test : Char → Bool) (cs : List Char) : List Char :=
  dropEndWhile test (cs.dropWhile test)

/-- A text without the slashes at its end. -/
def dropTrailingSlashes (s : String) : String :=
  String.ofList (dropEndWhile (· == '/') s.toList)

end CallFlow.Text
