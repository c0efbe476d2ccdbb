import DocumentStore.Condition.Evaluation
import DocumentStore.Proofs.Condition.Assembly
import DocumentStore.Proofs.Condition.Machine
import Mathlib.Data.List.Induction
import Mathlib.Data.List.Pairwise
import Mathlib.Data.List.Sort

/-!
# What becomes of the tokens

Assembly moves every token but the parentheses into the program, once. To tell tokens apart that are
alike, each is taken with its place in the source. An operand is emitted when it is read, so whatever
stands before it in the program was read before it; only operators are kept back.
-/

namespace DocumentStore.Program

/-- The tokens that are not parentheses, each with its place in the source. -/
def places (tokens : List Token) : List (Token × Nat) :=
  tokens.zipIdx.filter fun place => !place.1.isParenthesis

theorem places_concat {token : Token} (plain : token.isParenthesis = false) (tokens : List Token) :
    places (tokens ++ [token]) = places tokens ++ [(token, tokens.length)] := by
  simp [places, List.zipIdx_append, plain]

theorem places_concat_parenthesis {token : Token} (parenthesis : token.isParenthesis = true)
    (tokens : List Token) : places (tokens ++ [token]) = places tokens := by
  simp [places, List.zipIdx_append, parenthesis]

theorem lt_of_mem_places {tokens : List Token} {place : Token × Nat}
    (inside : place ∈ places tokens) : place.2 < tokens.length :=
  List.snd_lt_of_mem_zipIdx (List.mem_filter.1 inside).1

theorem map_fst_places (tokens : List Token) :
    (places tokens).map Prod.fst = tokens.filter fun token => !token.isParenthesis := by
  have all : tokens.zipIdx.map Prod.fst = tokens := List.zipIdx_map_fst 0 tokens
  conv_rhs => rw [← all, List.filter_map]
  rfl

theorem pairwise_places (tokens : List Token) :
    (places tokens).Pairwise fun earlier later => earlier.2 < later.2 := by
  have numbers : (tokens.zipIdx.map Prod.snd).Pairwise (· < ·) := by
    rw [List.zipIdx_map_snd]
    exact List.pairwise_lt_range' 1
  exact (List.pairwise_map.1 numbers).filter _

/-- The token that waits, if it will be emitted. -/
def Pending.token? : Pending → Option Token
  | .operator op => some (.operator op)
  | .openParen => none

namespace Assembly

/-- The tokens read so far are shared out between those that have been emitted, the last one first,
and those that wait. Nothing was emitted before an operand that does not stand before it in the
source. -/
structure Shares (tokens : List Token) (assembly : Assembly)
    (emitted waiting : List (Token × Nat)) : Prop where
  lists : emitted.map Prod.fst = assembly.emitted
  holds : waiting.map Prod.fst = assembly.waiting.filterMap Pending.token?
  complete : (waiting ++ emitted).Perm (places tokens)
  inOrder : emitted.Pairwise fun later earlier => later.1.isOperand → earlier.2 < later.2

variable {tokens : List Token} {before after : Assembly} {emitted waiting : List (Token × Nat)}

namespace Shares

theorem parenthesis (shares : Shares tokens before emitted waiting) (token : Token)
    (parenthesis : token.isParenthesis = true) :
    Shares (tokens ++ [token]) before emitted waiting := by
  refine ⟨shares.lists, shares.holds, ?_, shares.inOrder⟩
  rw [places_concat_parenthesis parenthesis]
  exact shares.complete

theorem operator (shares : Shares tokens before emitted waiting) (op : Operator) :
    Shares (tokens ++ [.operator op]) ⟨before.emitted, .operator op :: before.waiting⟩ emitted
      ((.operator op, tokens.length) :: waiting) := by
  refine ⟨shares.lists, ?_, ?_, shares.inOrder⟩
  · rw [List.map_cons, shares.holds]
    rfl
  · rw [places_concat rfl]
    exact (shares.complete.cons _).trans (List.perm_append_singleton _ _).symm

theorem operand (shares : Shares tokens before emitted waiting) {token : Token}
    (plain : token.isParenthesis = false) :
    Shares (tokens ++ [token]) ⟨token :: before.emitted, before.waiting⟩
      ((token, tokens.length) :: emitted) waiting := by
  refine ⟨?_, shares.holds, ?_, List.pairwise_cons.2 ⟨fun earlier inside _ => ?_, shares.inOrder⟩⟩
  · rw [List.map_cons, shares.lists]
  · rw [places_concat plain]
    exact List.perm_middle.trans
      ((shares.complete.cons _).trans (List.perm_append_singleton _ _).symm)
  · exact lt_of_mem_places (shares.complete.mem_iff.1 (List.mem_append_right waiting inside))

end Shares

theorem Emits.shares (emits : Emits before after) (shares : Shares tokens before emitted waiting) :
    ∃ emitted waiting, Shares tokens after emitted waiting := by
  induction emits generalizing emitted waiting with
  | none => exact ⟨_, _, shares⟩
  | @operator op _ rest _ _ ih =>
    obtain ⟨place, others, rfl, same, more⟩ := List.map_eq_cons_iff.1 shares.holds
    have moved : (others ++ place :: emitted).Perm ((place :: others) ++ emitted) :=
      List.perm_middle
    refine @ih (place :: emitted) others ⟨?_, more, moved.trans shares.complete, ?_⟩
    · rw [List.map_cons, same, shares.lists]
    · refine List.pairwise_cons.2 ⟨fun earlier _ operand => ?_, shares.inOrder⟩
      rw [same] at operand
      cases operand

theorem step_shares (shares : Shares tokens before emitted waiting) {token : Token}
    (stepped : step before token = .ok after) :
    ∃ emitted waiting, Shares (tokens ++ [token]) after emitted waiting := by
  cases token with
  | operator op =>
    obtain ⟨emitted, waiting, released⟩ :=
      (emits_release op before.emitted before.waiting).shares shares
    cases stepped
    exact ⟨_, _, released.operator op⟩
  | openParen =>
    cases stepped
    have opened := shares.parenthesis .openParen rfl
    exact ⟨_, _, opened.lists, opened.holds, opened.complete, opened.inOrder⟩
  | closeParen =>
    obtain ⟨emitted, waiting, released⟩ := (emits_of_close stepped).shares shares
    have closed := released.parenthesis .closeParen rfl
    exact ⟨_, _, closed.lists, closed.holds, closed.complete, closed.inOrder⟩
  | name s | literal l =>
    cases stepped
    exact ⟨_, _, shares.operand rfl⟩

theorem foldlM_shares (read : tokens.foldlM step ⟨[], []⟩ = .ok after) :
    ∃ emitted waiting, Shares tokens after emitted waiting := by
  induction tokens using List.reverseRecOn generalizing after with
  | nil =>
    cases read
    exact ⟨[], [], rfl, rfl, .refl _, .nil⟩
  | append_singleton tokens token ih =>
    obtain ⟨middle, read, stepped⟩ := foldlM_concat_eq_ok_iff.1 read
    obtain ⟨emitted, waiting, shares⟩ := ih read
    exact step_shares shares stepped

end Assembly

/-- The instructions of a program with the places of their tokens: each token but the parentheses
stands there once, and nothing stands before an operand that does not stand before it in the
source. -/
structure Traces (tokens : List Token) (program : Program) (listing : List (Token × Nat)) :
    Prop where
  instructions : listing.map Prod.fst = program.instructions
  complete : listing.Perm (places tokens)
  inOrder : listing.Pairwise fun earlier later => later.1.isOperand → earlier.2 < later.2

theorem exists_traces {tokens : List Token} {program : Program}
    (assembled : ofTokens tokens = .ok program) : ∃ listing, Traces tokens program listing := by
  obtain ⟨last, read, assembled⟩ := bind_eq_ok_iff.1 assembled
  obtain ⟨instructions, finished, assembled⟩ := bind_eq_ok_iff.1 assembled
  cases assembled
  obtain ⟨emitted, waiting, shares⟩ := Assembly.foldlM_shares read
  obtain ⟨emitted, waiting, shares⟩ := (Assembly.emits_of_finish finished).shares shares
  have nothing : waiting = [] := List.map_eq_nil_iff.1 shares.holds
  refine ⟨emitted.reverse, ?_, ?_, List.pairwise_reverse.2 shares.inOrder⟩
  · rw [List.map_reverse, shares.lists, List.reverse_reverse]
  · have complete := shares.complete
    rw [nothing, List.nil_append] at complete
    exact (List.reverse_perm emitted).trans complete

namespace Traces

variable {tokens : List Token} {program : Program} {listing : List (Token × Nat)}

theorem perm (traces : Traces tokens program listing) :
    program.instructions.Perm (tokens.filter fun token => !token.isParenthesis) := by
  rw [← traces.instructions, ← map_fst_places]
  exact traces.complete.map _

/-- Whatever comes after an operand in the source comes after it in the program. -/
theorem sublist (traces : Traces tokens program listing) {operand later : Token × Nat}
    (first : operand ∈ places tokens) (second : later ∈ places tokens)
    (isOperand : operand.1.isOperand = true) (lt : operand.2 < later.2) :
    [operand, later].Sublist listing := by
  have either : listing.Pairwise fun x y => [x, y].Sublist listing ∨ [y, x].Sublist listing :=
    List.pairwise_iff_forall_sublist.2 .inl
  have differ : operand ≠ later := by
    rintro rfl
    exact Nat.lt_irrefl _ lt
  have symm : Std.Symm fun x y => [x, y].Sublist listing ∨ [y, x].Sublist listing :=
    ⟨fun _ _ => Or.symm⟩
  rcases either.forall (traces.complete.mem_iff.2 first) (traces.complete.mem_iff.2 second) differ
    with kept | swapped
  · exact kept
  · have before := List.pairwise_iff_forall_sublist.1 traces.inOrder swapped isOperand
    exact absurd before (Nat.lt_asymm lt)

/-- Operands follow each other in the program as they do in the source. -/
theorem operands (traces : Traces tokens program listing) :
    program.instructions.filter Token.isOperand = tokens.filter Token.isOperand := by
  have sorted : (listing.filter fun place => place.1.isOperand).Pairwise
      fun earlier later => earlier.2 < later.2 :=
    List.pairwise_filter.2 (traces.inOrder.imp fun earlier _ operand => earlier operand)
  have same : (listing.filter fun place => place.1.isOperand) =
      (places tokens).filter fun place => place.1.isOperand :=
    List.Perm.eq_of_pairwise (fun x y _ _ less more => absurd more (Nat.lt_asymm less)) sorted
      ((pairwise_places tokens).filter _) (traces.complete.filter _)
  have plain : tokens.filter Token.isOperand =
      (tokens.filter fun token => !token.isParenthesis).filter Token.isOperand := by
    rw [List.filter_filter]
    refine List.filter_congr fun token _ => ?_
    cases token <;> rfl
  rw [← traces.instructions, plain, ← map_fst_places, List.filter_map, List.filter_map]
  exact congrArg _ same

theorem isParenthesis_eq_false (traces : Traces tokens program listing) {token : Token}
    (inside : token ∈ program.instructions) : token.isParenthesis = false := by
  have kept := (List.mem_filter.1 (traces.perm.mem_iff.1 inside)).2
  simpa using kept

end Traces

/-- No parenthesis is left in a program. -/
theorem plain_of_ofTokens {tokens : List Token} {program : Program}
    (assembled : ofTokens tokens = .ok program) :
    ∀ token ∈ program.instructions, token.isParenthesis = false := by
  intro token inside
  obtain ⟨listing, traces⟩ := exists_traces assembled
  exact traces.isParenthesis_eq_false inside

theorem answers_evaluator (record : Record) : (Interpretation.evaluator record).Answers where
  name _ := ⟨_, rfl⟩
  literal _ := ⟨_, rfl⟩
  compare _ _ _ := ⟨_, rfl⟩
  join _ _ _ := ⟨_, rfl⟩

/-- The empty program is true on every record. -/
theorem evaluate_of_isEmpty {program : Program} (isEmpty : program.isEmpty)
    (record : Record) : program.evaluate record = .ok true := by
  have noInstruction : program.instructions = [] := List.isEmpty_iff.1 isEmpty
  rw [evaluate, value?, Interpretation.run, noInstruction]
  rfl

/-- A program without parentheses comes to a truth on every record. -/
theorem exists_evaluate {program : Program}
    (plain : ∀ token ∈ program.instructions, token.isParenthesis = false) (record : Record) :
    ∃ truth, program.evaluate record = .ok truth := by
  obtain ⟨last, ran⟩ :=
    (answers_evaluator record).exists_foldlM (fun _ => ⟨_, rfl⟩) plain []
  refine ⟨last.getLast?.all Scalar.isTruthy, ?_⟩
  rw [evaluate, value?, Interpretation.run, ran]
  rfl

/-- The instructions of a program are its tokens without the parentheses, in another order. Operands
keep their order. Each instruction can be traced to a place of its own in the source, so that whatever
comes after an operand in the source comes after it in the program. No parenthesis is left, and
evaluation finds none. -/
theorem ofTokens_conserves {tokens : List Token} {program : Program}
    (assembled : ofTokens tokens = .ok program) :
    program.instructions.Perm (tokens.filter fun token => !token.isParenthesis) ∧
    program.instructions.filter Token.isOperand = tokens.filter Token.isOperand ∧
    (∃ listing : List (Token × Nat), listing.map Prod.fst = program.instructions ∧
      listing.Perm (places tokens) ∧
      ∀ operand ∈ places tokens, ∀ later ∈ places tokens, operand.1.isOperand = true →
        operand.2 < later.2 → [operand, later].Sublist listing) ∧
    (∀ token ∈ program.instructions, token.isParenthesis = false) ∧
    ∀ record, program.evaluate record ≠ .error .mismatchedParentheses := by
  obtain ⟨listing, traces⟩ := exists_traces assembled
  have plain := plain_of_ofTokens assembled
  refine ⟨traces.perm, traces.operands, ⟨listing, traces.instructions, traces.complete, ?_⟩, plain,
    ?_⟩
  · intro operand first later second isOperand lt
    exact traces.sublist first second isOperand lt
  · intro record
    obtain ⟨truth, evaluated⟩ := exists_evaluate plain record
    rw [evaluated]
    nofun

/-- Operators without operands, and the same operator and the same operand twice. -/
theorem ofTokens_conserves_of_repeated :
    let equals : Token := .operator (.comparison .eq)
    let tokens : List Token := [.openParen, equals, .name "a", .closeParen, equals, .name "a",
      .operator (.connective .and)]
    let program : Program := ⟨[.name "a", equals, .name "a", equals, .operator (.connective .and)]⟩
    ofTokens tokens = .ok program ∧
      (∃ listing : List (Token × Nat), listing.map Prod.fst = program.instructions ∧
        listing.Perm (places tokens) ∧ [(.name "a", 2), (equals, 4)].Sublist listing) ∧
      ∀ record, program.evaluate record ≠ .error .mismatchedParentheses := by
  intro equals tokens program
  have assembled : ofTokens tokens = .ok program := rfl
  obtain ⟨_, _, ⟨listing, instructions, complete, inOrder⟩, _, evaluated⟩ :=
    ofTokens_conserves assembled
  refine ⟨assembled, ⟨listing, instructions, complete, inOrder _ ?_ _ ?_ rfl ?_⟩, evaluated⟩
  · decide
  · decide
  · decide

end DocumentStore.Program
