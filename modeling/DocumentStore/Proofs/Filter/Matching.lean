import DocumentStore.Filter.Basic
import Mathlib.Logic.Relation

/-!
# What the matching loop computes

The loop visits a filter and leaves one more result than before: whether the record satisfies the
filter. It never lacks a result to join, so the spare value is without effect. That it is never
asked for is said round by round: the steps still to do and the results so far come to the truth of
the filter (`due?`) after every round, and they would come to nothing if a result were lacking.
-/

namespace DocumentStore.Filter

open Relation (ReflTransGen)

/-- The meaning of a filter can be computed by recursion on the filter. -/
def decideHolds (record : Record) : (filter : Filter) → Decidable (filter.Holds record)
  | .compare field op literal =>
    inferInstanceAs (Decidable (op.holds (record field) (.ofLiteral literal) = true))
  | .join .and left right =>
    have := decideHolds record left
    have := decideHolds record right
    inferInstanceAs (Decidable (left.Holds record ∧ right.Holds record))
  | .join .or left right =>
    have := decideHolds record left
    have := decideHolds record right
    inferInstanceAs (Decidable (left.Holds record ∨ right.Holds record))

instance (record : Record) (filter : Filter) : Decidable (filter.Holds record) :=
  decideHolds record filter

theorem decide_holds_compare (record : Record) (field : String) (op : Comparison)
    (literal : Literal) :
    decide ((compare field op literal).Holds record) =
      op.holds (record field) (.ofLiteral literal) := by
  rw [Bool.eq_iff_iff, decide_eq_true_iff]
  rfl

theorem decide_holds_join (record : Record) (op : Connective) (left right : Filter) :
    decide ((join op left right).Holds record) =
      op.truth (decide (left.Holds record)) (decide (right.Holds record)) := by
  rw [Bool.eq_iff_iff, decide_eq_true_iff]
  cases op with
  | and => simp [Holds, Connective.truth]
  | or => simp [Holds, Connective.truth]

/-- Visiting a filter leaves its truth on top of the results, whatever else is still to do. -/
theorem runSteps_visit (record : Record) (spare : Bool) (filter : Filter) (steps : List Step)
    (results : List Bool) :
    runSteps record spare (.visit filter :: steps) results =
      runSteps record spare steps (decide (filter.Holds record) :: results) := by
  induction filter generalizing steps results with
  | compare field op literal => rw [runSteps, decide_holds_compare]
  | join op left right ihLeft ihRight =>
    rw [runSteps, ihLeft, ihRight, runSteps, decide_holds_join]
    rfl

theorem satisfiedBy_eq_decide (filter : Filter) (record : Record) :
    filter.satisfiedBy record = decide (filter.Holds record) := by
  rw [satisfiedBy, runSteps_visit, runSteps]
  rfl

theorem satisfiedBy_compare (record : Record) (field : String) (op : Comparison)
    (literal : Literal) :
    (compare field op literal).satisfiedBy record =
      op.holds (record field) (.ofLiteral literal) := by
  rw [satisfiedBy_eq_decide, decide_holds_compare]

theorem satisfiedBy_join (record : Record) (op : Connective) (left right : Filter) :
    (join op left right).satisfiedBy record =
      op.truth (left.satisfiedBy record) (right.satisfiedBy record) := by
  simp only [satisfiedBy_eq_decide, decide_holds_join]

/-- One round of the loop, on the steps that are still to do and the results so far. -/
inductive Round (record : Record) (spare : Bool) :
    List Step × List Bool → List Step × List Bool → Prop
  | compare (field : String) (op : Comparison) (literal : Literal) (steps : List Step)
      (results : List Bool) :
    Round record spare (.visit (.compare field op literal) :: steps, results)
      (steps, op.holds (record field) (.ofLiteral literal) :: results)
  | join (op : Connective) (left right : Filter) (steps : List Step) (results : List Bool) :
    Round record spare (.visit (.join op left right) :: steps, results)
      (.visit left :: .visit right :: .combine op :: steps, results)
  | combine (op : Connective) (steps : List Step) (results : List Bool) :
    Round record spare (.combine op :: steps, results) (steps, Filter.combine spare op results)

/-- What the steps come to as long as none of them lacks a result: a visit yields the truth of its
filter, a combination takes two results, and one result is left in the end. -/
def due? (record : Record) : List Step → List Bool → Option Bool
  | [], [result] => some result
  | .visit filter :: steps, results => due? record steps (decide (filter.Holds record) :: results)
  | .combine op :: steps, right :: left :: results =>
    due? record steps (op.truth left right :: results)
  | _, _ => none

section

variable {record : Record} {spare : Bool}

theorem runSteps_of_round {before after : List Step × List Bool}
    (round : Round record spare before after) :
    runSteps record spare before.1 before.2 = runSteps record spare after.1 after.2 := by
  cases round with
  | compare field op literal steps results => rw [runSteps]
  | join op left right steps results => rw [runSteps]
  | combine op steps results => rw [runSteps]

/-- A combination that is due finds its two results. -/
theorem eq_cons_cons_of_due? {op : Connective} {steps : List Step} {results : List Bool}
    {truth : Bool} (due : due? record (.combine op :: steps) results = some truth) :
    ∃ right left others, results = right :: left :: others := by
  rcases results with _ | ⟨right, _ | ⟨left, others⟩⟩
  · simp [due?] at due
  · simp [due?] at due
  · exact ⟨right, left, others, rfl⟩

theorem eq_singleton_of_due? {results : List Bool} {truth : Bool}
    (due : due? record [] results = some truth) : results = [truth] := by
  rcases results with _ | ⟨result, _ | ⟨next, others⟩⟩
  · simp [due?] at due
  · simpa [due?] using due
  · simp [due?] at due

/-- A round leaves what the steps come to as it is. -/
theorem due?_of_round {before after : List Step × List Bool} {truth : Bool}
    (round : Round record spare before after)
    (due : due? record before.1 before.2 = some truth) :
    due? record after.1 after.2 = some truth := by
  cases round with
  | compare field op literal steps results =>
    rw [due?, decide_holds_compare] at due
    exact due
  | join op left right steps results =>
    rw [due?, decide_holds_join] at due
    simpa only [due?] using due
  | combine op steps results =>
    obtain ⟨right, left, others, rfl⟩ := eq_cons_cons_of_due? due
    simpa only [due?, Filter.combine] using due

/-- After any number of rounds the steps come to the truth of the filter. -/
theorem due?_of_rounds {filter : Filter} {state : List Step × List Bool}
    (reached : ReflTransGen (Round record spare) ([.visit filter], []) state) :
    due? record state.1 state.2 = some (decide (filter.Holds record)) := by
  induction reached with
  | refl => simp only [due?]
  | tail _ round ih => exact due?_of_round round ih

theorem runSteps_of_rounds {before after : List Step × List Bool}
    (reached : ReflTransGen (Round record spare) before after) :
    runSteps record spare before.1 before.2 = runSteps record spare after.1 after.2 := by
  induction reached with
  | refl => rfl
  | tail _ round ih => exact ih.trans (runSteps_of_round round)

/-- The rounds that a filter takes leave its truth on top of the results. -/
theorem rounds_visit (filter : Filter) (steps : List Step) (results : List Bool) :
    ReflTransGen (Round record spare) (.visit filter :: steps, results)
      (steps, decide (filter.Holds record) :: results) := by
  induction filter generalizing steps results with
  | compare field op literal =>
    rw [decide_holds_compare]
    exact .single (.compare ..)
  | join op left right ihLeft ihRight =>
    rw [decide_holds_join]
    refine .head (.join ..) ?_
    refine (ihLeft _ _).trans ?_
    refine (ihRight _ _).trans ?_
    exact .single (.combine ..)

end

/-- The matching loop finds the meaning of a filter on a record: a comparison holds between the
field and the literal, AND is conjunction and OR is disjunction. It never makes use of a spare value:
from the first round on, a combination that comes next finds two results, and when there is nothing
left to do, the one result is the meaning. -/
theorem satisfiedBy_without_spare (filter : Filter) (record : Record) :
    filter.satisfiedBy record = decide (filter.Holds record) ∧
    ∀ spare,
      ReflTransGen (Round record spare) ([.visit filter], []) ([], [decide (filter.Holds record)]) ∧
      ∀ steps results,
        ReflTransGen (Round record spare) ([.visit filter], []) (steps, results) →
          runSteps record spare steps results = [decide (filter.Holds record)] ∧
          (∀ op later, steps = .combine op :: later →
            ∃ right left others, results = right :: left :: others) ∧
          (steps = [] → results = [decide (filter.Holds record)]) := by
  refine ⟨satisfiedBy_eq_decide filter record, fun spare => ⟨rounds_visit filter [] [], ?_⟩⟩
  intro steps results reached
  have due : due? record steps results = some (decide (filter.Holds record)) :=
    due?_of_rounds reached
  refine ⟨?_, ?_, ?_⟩
  · rw [← runSteps_of_rounds reached, runSteps_visit, runSteps]
  · rintro op later rfl
    exact eq_cons_cons_of_due? due
  · rintro rfl
    exact eq_singleton_of_due? due

/-- The last combination of a filter of three comparisons, the first of which fails. -/
theorem satisfiedBy_without_spare_of_tasks :
    let record : Record := Record.ofEntries [("done", .bool true), ("owner", .text "me")]
    let left : Filter := .compare "done" .eq (.text "no")
    let right : Filter := .join .and (.compare "owner" .eq (.text "me"))
      (.compare "due" .ne (.text "today"))
    let filter : Filter := .join .or left right
    ReflTransGen (Round record false) ([.visit filter], []) ([.combine .or], [true, false]) ∧
    runSteps record false [.combine .or] [true, false] = [true] ∧
    filter.satisfiedBy record = true := by
  intro record left right filter
  have first : decide (left.Holds record) = false := by decide +kernel
  have second : decide (right.Holds record) = true := by decide +kernel
  have meaning : decide (filter.Holds record) = true := by
    rw [decide_holds_join, first, second]
    rfl
  have reached : ReflTransGen (Round record false) ([.visit filter], [])
      ([.combine .or], [true, false]) := by
    refine .head (.join ..) ?_
    rw [← first, ← second]
    exact (rounds_visit left _ _).trans (rounds_visit right _ _)
  obtain ⟨matched, steady⟩ := satisfiedBy_without_spare filter record
  obtain ⟨result, -, -⟩ := (steady false).2 _ _ reached
  rw [meaning] at matched result
  exact ⟨reached, result, matched⟩

end DocumentStore.Filter
