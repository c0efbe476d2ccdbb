import DocumentStore.Condition.Program

/-!
# What assembly emits

Operators that wait are emitted in three places: before an incoming operator, at a closing
parenthesis and at the end. In all three the innermost one goes first and nothing else is emitted,
so whatever one such move keeps is kept by the whole assembly.
-/

namespace DocumentStore.Program.Assembly

/-- An assembly after operators that wait have been emitted, the innermost first. -/
inductive Emits : Assembly → Assembly → Prop
  | none (assembly : Assembly) : Emits assembly assembly
  | operator {op : Operator} {emitted : List Token} {waiting : List Pending} {after : Assembly} :
    Emits ⟨.operator op :: emitted, waiting⟩ after →
    Emits ⟨emitted, .operator op :: waiting⟩ after

theorem emits_release (incoming : Operator) (emitted : List Token) (waiting : List Pending) :
    Emits ⟨emitted, waiting⟩ (release incoming emitted waiting) := by
  induction waiting generalizing emitted with
  | nil => exact .none _
  | cons pending rest ih =>
    cases pending with
    | openParen => exact .none _
    | operator op =>
      rw [release]
      split
      · exact .operator (ih _)
      · exact .none _

/-- A closing parenthesis emits the operators above the innermost open one, and takes that off. -/
theorem emits_of_close {emitted : List Token} {waiting : List Pending} {after : Assembly}
    (closed : close emitted waiting = .ok after) :
    Emits ⟨emitted, waiting⟩ ⟨after.emitted, .openParen :: after.waiting⟩ := by
  induction waiting generalizing emitted with
  | nil => cases closed
  | cons pending rest ih =>
    cases pending with
    | openParen =>
      cases closed
      exact .none _
    | operator op => exact .operator (ih closed)

theorem emits_of_finish {emitted instructions : List Token} {waiting : List Pending}
    (finished : finish emitted waiting = .ok instructions) :
    Emits ⟨emitted, waiting⟩ ⟨instructions.reverse, []⟩ := by
  induction waiting generalizing emitted with
  | nil =>
    cases finished
    rw [List.reverse_reverse]
    exact .none _
  | cons pending rest ih =>
    cases pending with
    | openParen => cases finished
    | operator op => exact .operator (ih finished)

end DocumentStore.Program.Assembly
