import DocumentStore.Filter.Basic

/-!
# Building filters

A filter is built from a program by the stack machine of programs. How the parts of a filter are
made is up to the capability of the store that receives it. Building is strict: a comparison needs
a field before a literal, a connective needs two filters, and the whole must be a filter.
-/

namespace DocumentStore

/-- How a store makes filters; it may refuse a comparison. -/
structure Capability (φ : Type) where
  compare : String → Comparison → Literal → Except ConditionError φ
  join : Connective → φ → φ → φ

/-- Makes filters of the type `Filter` and refuses nothing. -/
def Capability.documents : Capability Filter where
  compare field op literal := .ok (.compare field op literal)
  join := .join

/-- An operand of a filter under construction. -/
inductive Operand (φ : Type)
  | field (name : String)
  | literal (l : Literal)
  | filter (f : φ)

/-- What an operand stands for. -/
def Operand.role {φ : Type} : Operand φ → Role
  | .field name => .field name
  | .literal l => .literal l
  | .filter _ => .filter

/-- Builds filters with a capability. -/
def Interpretation.builder {φ : Type} (capability : Capability φ) :
    Interpretation (Operand φ) where
  name s := .ok (.field s)
  literal l := .ok (.literal l)
  compare op left right :=
    match left, right with
    | .field name, .literal l => (capability.compare name op l).map .filter
    | left, right => .error (.comparedRoles op left.role right.role)
  join op left right :=
    match left, right with
    | .filter f, .filter g => .ok (.filter (capability.join op f g))
    | left, right => .error (.joinedRoles op left.role right.role)
  missing := refuseMissing
  finish := finishSingle

/-- The filter of a program, if it has an instruction. Without a capability there is none to
build. -/
def Program.filter? {φ : Type} (program : Program) (capability : Option (Capability φ)) :
    Except ConditionError (Option φ) := do
  let some capability := capability | .error .capabilityUnavailable
  match ← (Interpretation.builder capability).run program with
  | none => return none
  | some (.filter f) => return some f
  | some operand => .error (.bareRole operand.role)

end DocumentStore
