/-!
# Stages of a deploy

A deploy goes through its stages in one order.  It may fail in the last two steps; what goes wrong
while the present tools are discovered does not end it.
-/

namespace CallFlow

/-- The stages of a deploy. -/
inductive Stage where
  | loaded
  | discovering
  | compiling
  | merging
  | pushing
  | committed
  | failed
  deriving DecidableEq

namespace Stage

/-- The name of a stage. -/
def name : Stage → String
  | .loaded => "loaded"
  | .discovering => "discovering"
  | .compiling => "compiling"
  | .merging => "merging"
  | .pushing => "pushing"
  | .committed => "committed"
  | .failed => "failed"

/-- Whether a deploy ends with a stage. -/
def isTerminal : Stage → Bool
  | .committed | .failed => true
  | _ => false

/-- The stages of a deploy that succeeds, in order. -/
def successful : List Stage :=
  [.loaded, .discovering, .compiling, .merging, .pushing, .committed]

end Stage

end CallFlow
