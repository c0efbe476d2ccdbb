import DocumentStore.Condition.Evaluation
import DocumentStore.Condition.Scan
import DocumentStore.Filter.Building

/-!
# Conditions

A condition is compiled once from its text and can then be matched against records and turned into
a filter any number of times.
-/

namespace DocumentStore

/-- The text of a condition and its program. -/
structure Condition where
  source : String
  program : Program
deriving DecidableEq

namespace Condition

/-- Compiles a condition under strict or permissive scanning. -/
def ofText (strict : Bool) (source : String) : Except ConditionError Condition := do
  return ⟨source, ← Program.ofTokens (← Token.ofText strict source)⟩

/-- Whether every record satisfies the condition because it says nothing. -/
def isMatchAll (condition : Condition) : Bool := condition.program.isEmpty

/-- Whether a record satisfies the condition. -/
def matchRecord (condition : Condition) (record : Record) : Except ConditionError Bool :=
  condition.program.evaluate record

/-- The filter of the condition. -/
def filter? {φ : Type} (condition : Condition) (capability : Option (Capability φ)) :
    Except ConditionError (Option φ) :=
  condition.program.filter? capability

end Condition

end DocumentStore
