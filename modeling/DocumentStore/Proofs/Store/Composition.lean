import DocumentStore.Condition.Basic
import DocumentStore.Proofs.Condition.Grouping
import DocumentStore.Proofs.Condition.Reduction
import DocumentStore.Proofs.Condition.Scanning
import DocumentStore.Proofs.Store.Finding

/-!
# Conditions that are put together

Two complete conditions, each in parentheses, can be joined by a connective in their text. The
parentheses keep the tokens of the two apart and the compiler keeps their operators apart, so the
whole is true where the connective says so, whatever values the two conditions have.
-/

namespace DocumentStore

/-- The text of a condition that has one value: strict scanning accepts it, it is not empty, and no
operator lacks an operand and no operand is left over, for the machine would refuse to print it
otherwise. -/
def Condition.IsComplete (text : String) : Prop :=
  ∃ condition shown, Condition.ofText true text = .ok condition ∧
    condition.program.parenthesized = .ok (some shown)

theorem Condition.isComplete_of_shown {text : String} (shown : String)
    (printed : (ofText true text >>= fun condition => condition.program.parenthesized) =
      .ok (some shown)) : IsComplete text := by
  obtain ⟨condition, compiled, printed⟩ := bind_eq_ok_iff.1 printed
  exact ⟨condition, shown, compiled, printed⟩

/-- Two texts in parentheses with a connective between them. -/
def Condition.joined (op : Connective) (left right : String) : String :=
  "(" ++ left ++ ") " ++ op.symbol ++ " (" ++ right ++ ")"

theorem Condition.joined_and (left right : String) :
    joined .and left right = "(" ++ left ++ ") AND (" ++ right ++ ")" := by
  simp [joined, Connective.symbol, String.append_assoc]

theorem Condition.joined_or (left right : String) :
    joined .or left right = "(" ++ left ++ ") OR (" ++ right ++ ")" := by
  simp [joined, Connective.symbol, String.append_assoc]

namespace Token

/-- A text in parentheses is scanned to the closing one, if it is scanned to its end on its own. -/
theorem scan_group {text : List Char} {tokens : List Token} (scanned : scan text = (tokens, []))
    (next : List Char) :
    scan ('(' :: (text ++ ')' :: next)) =
      (.openParen :: (tokens ++ .closeParen :: (scan next).1), (scan next).2) := by
  rw [scan_openParen, scan_append scanned]

theorem scan_connective (op : Connective) (next : List Char) :
    scan (' ' :: (op.symbol.toList ++ ' ' :: '(' :: next)) =
      (.operator (.connective op) :: (scan ('(' :: next)).1, (scan ('(' :: next)).2) := by
  have spelled : scan (op.symbol.toList ++ ' ' :: '(' :: next) =
      (.operator (.connective op) :: (scan (' ' :: '(' :: next)).1,
        (scan (' ' :: '(' :: next)).2) := by
    cases op <;> exact scan_token (by decide) rfl
  rw [scan_blank (by decide), spelled, scan_blank (by decide)]

theorem scan_joined {left right : String} {leftTokens rightTokens : List Token}
    (leftScanned : scan left.toList = (leftTokens, []))
    (rightScanned : scan right.toList = (rightTokens, [])) (op : Connective) :
    scan (Condition.joined op left right).toList =
      (enclosed leftTokens ++ .operator (.connective op) :: enclosed rightTokens, []) := by
  have text : (Condition.joined op left right).toList =
      '(' :: (left.toList ++ ')' :: (' ' :: (op.symbol.toList ++ ' ' :: '(' ::
        (right.toList ++ [')'])))) := by
    simp [Condition.joined]
  rw [text, scan_group leftScanned, scan_connective, scan_group rightScanned, scan_nil]
  simp [enclosed]

end Token

namespace Condition

theorem ofText_joined {left right : String} {leftCondition rightCondition : Condition}
    (leftCompiled : ofText true left = .ok leftCondition)
    (rightCompiled : ofText true right = .ok rightCondition) (op : Connective) (strict : Bool) :
    ofText strict (joined op left right) =
      .ok ⟨joined op left right, ⟨leftCondition.program.instructions ++
        rightCondition.program.instructions ++ [.operator (.connective op)]⟩⟩ := by
  obtain ⟨leftTokens, leftScanned, leftCompiled⟩ := bind_eq_ok_iff.1 leftCompiled
  obtain ⟨leftProgram, leftAssembled, same⟩ := bind_eq_ok_iff.1 leftCompiled
  cases same
  obtain ⟨rightTokens, rightScanned, rightCompiled⟩ := bind_eq_ok_iff.1 rightCompiled
  obtain ⟨rightProgram, rightAssembled, same⟩ := bind_eq_ok_iff.1 rightCompiled
  cases same
  have scanned := Token.scan_joined (Token.scanStrict_eq_ok_iff.1 leftScanned)
    (Token.scanStrict_eq_ok_iff.1 rightScanned) op
  exact bind_eq_ok_iff.2 ⟨_, Token.ofText_of_scan scanned strict,
    bind_eq_ok_iff.2 ⟨_, Program.ofTokens_joined leftAssembled rightAssembled op, rfl⟩⟩

/-- A complete condition lists an expression. -/
theorem exists_expression {text : String} (complete : IsComplete text) :
    ∃ condition e, (∀ strict, ofText strict text = .ok condition) ∧
      condition.program.instructions = Expression.postorder e := by
  obtain ⟨condition, shown, compiled, printed⟩ := complete
  obtain ⟨e, lists⟩ := Program.exists_expression rfl rfl printed
  refine ⟨condition, e, fun strict => ?_, lists⟩
  cases strict with
  | true => exact compiled
  | false => exact ofText_permissive compiled

end Condition

namespace Database

/-- Of the documents of a collection, the conjunction of two complete conditions finds those that
both find, and their disjunction those that one of them finds, in the order of the collection. -/
theorem find_joined {database : Database} {name left right : String} {stored : List Document}
    (found : database.documents name = .ok stored) (leftComplete : Condition.IsComplete left)
    (rightComplete : Condition.IsComplete right) :
    ∃ onLeft onRight : Document → Bool,
      database.find name left = .ok (stored.filter onLeft) ∧
      database.find name right = .ok (stored.filter onRight) ∧
      database.find name ("(" ++ left ++ ") AND (" ++ right ++ ")") =
        .ok (stored.filter fun document => onLeft document && onRight document) ∧
      database.find name ("(" ++ left ++ ") OR (" ++ right ++ ")") =
        .ok (stored.filter fun document => onLeft document || onRight document) := by
  obtain ⟨leftCondition, e, leftCompiled, leftLists⟩ := Condition.exists_expression leftComplete
  obtain ⟨rightCondition, e', rightCompiled, rightLists⟩ :=
    Condition.exists_expression rightComplete
  have joined : ∀ op, database.find name (Condition.joined op left right) =
      .ok (stored.filter fun document => op.truth (e.value document.record).isTruthy
        (e'.value document.record).isTruthy) := by
    intro op
    have compiled := Condition.ofText_joined (leftCompiled true) (rightCompiled true) op
      database.strict
    rw [leftLists, rightLists] at compiled
    exact find_of_holds found compiled (Program.evaluate_joined op e e')
  refine ⟨_, _, find_of_holds found (leftCompiled _) (Program.evaluate_postorder leftLists),
    find_of_holds found (rightCompiled _) (Program.evaluate_postorder rightLists), ?_, ?_⟩
  · have both := joined .and
    rw [Condition.joined_and] at both
    exact both
  · have either := joined .or
    rw [Condition.joined_or] at either
    exact either

/-- A text beside a number at the seam, and a bare field joined with a comparison of comparisons. -/
theorem find_joined_of_tasks :
    let task : List (String × Json) → Document := Document.ofFields
    let stored := [task [("_id", .string "a"), ("done", .bool true), ("rank", .number (.integer 3))],
      task [("_id", .string "b"), ("owner", .string "me"), ("rank", .number (.integer 5))],
      task [("_id", .string "c"), ("done", .bool true), ("rank", .number (.integer 7))]]
    let database : Database :=
      ⟨Memory.ofSnapshot ⟨[("tasks", stored)], List.pairwise_singleton ..⟩, none, false⟩
    ∃ onLeft onRight : Document → Bool,
      database.find "tasks" "done OR owner = \"me\"" = .ok (stored.filter onLeft) ∧
      database.find "tasks" "rank>=5" = .ok (stored.filter onRight) ∧
      database.find "tasks" "(done OR owner = \"me\") AND (rank>=5)" =
        .ok (stored.filter fun document => onLeft document && onRight document) ∧
      database.find "tasks" "(done OR owner = \"me\") OR (rank>=5)" =
        .ok (stored.filter fun document => onLeft document || onRight document) := by
  intro task stored database
  have found : database.documents "tasks" = .ok stored := rfl
  have leftComplete : Condition.IsComplete "done OR owner = \"me\"" :=
    Condition.isComplete_of_shown "(done OR (owner = \"me\"))" (by decide +kernel)
  have rightComplete : Condition.IsComplete "rank>=5" :=
    Condition.isComplete_of_shown "(rank >= 5)" (by decide +kernel)
  exact find_joined found leftComplete rightComplete

end Database

end DocumentStore
