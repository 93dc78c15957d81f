/-!
# Nesting

Work on nested things goes down one level after another, and gives up where there is no room for one more level. How
much room there is, and how much of it a level takes, is said where the work is done.
-/

namespace StructForge

/-- The failure of work on something that is nested too deep for it. -/
inductive TooDeep where
  | tooDeep
  deriving DecidableEq

end StructForge
