/-!
# Error reports

An error is reported as a message for its outermost context, followed by the messages of its
causes, the nearest cause first.
-/

namespace FlashCartridge

/-- The texts that describe one error. -/
structure Report where
  /-- The outermost context. -/
  message : String
  /-- What led to it, from the outermost cause to the root. -/
  causes : List String
  deriving DecidableEq, Repr

namespace Report

/-- An error without a further cause. -/
def root (message : String) : Report := ⟨message, []⟩

/-- The same error seen in a wider context. -/
def within (context : String) (report : Report) : Report :=
  ⟨context, report.message :: report.causes⟩

end Report

end FlashCartridge
