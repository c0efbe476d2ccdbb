import DocumentStore.Condition.Basic
import DocumentStore.Document
import DocumentStore.Proofs.Catalog
import DocumentStore.Proofs.Filter.Matching

/-!
# What programs and filters see of a record

A program asks a record for the fields that it names and for nothing else, whatever operands it
lacks or leaves over; so does a filter. What it is told of a field is a scalar, and an array, an
object and a field that is not there are told alike: a document with such fields, the same document
without them and the map of its scalars are one record.
-/

namespace DocumentStore

/-- A program names a field. -/
def Program.Mentions (program : Program) (name : String) : Prop :=
  Token.name name ∈ program.instructions

namespace Interpretation

variable {α : Type} {i j : Interpretation α} {tokens : List Token}

theorem foldlM_congr (alike : ∀ token ∈ tokens, ∀ stack, i.step stack token = j.step stack token)
    (stack : List α) : tokens.foldlM i.step stack = tokens.foldlM j.step stack := by
  induction tokens generalizing stack with
  | nil => rfl
  | cons token rest ih =>
    obtain ⟨first, others⟩ := List.forall_mem_cons.1 alike
    rw [List.foldlM_cons, List.foldlM_cons, first stack]
    exact bind_congr fun next => ih others next

/-- A step asks a record for the field that its token names. -/
theorem evaluator_step_congr {first second : Record} {token : Token}
    (agree : ∀ name, token = .name name → first name = second name) (stack : List Scalar) :
    (evaluator first).step stack token = (evaluator second).step stack token := by
  cases token with
  | name s => simp only [step, evaluator, agree s rfl]
  | literal l => rfl
  | operator op => rfl
  | openParen | closeParen => rfl

end Interpretation

section

variable {first second : Record} {program : Program} {filter : Filter}

theorem Program.value?_congr
    (agree : ∀ name, program.Mentions name → first name = second name) :
    program.value? first = program.value? second := by
  have alike : ∀ token ∈ program.instructions, ∀ stack,
      (Interpretation.evaluator first).step stack token =
        (Interpretation.evaluator second).step stack token := by
    intro token inside
    apply Interpretation.evaluator_step_congr
    rintro name rfl
    exact agree name inside
  rw [value?, value?, Interpretation.run, Interpretation.run, Interpretation.foldlM_congr alike]
  rfl

theorem Program.evaluate_congr
    (agree : ∀ name, program.Mentions name → first name = second name) :
    program.evaluate first = program.evaluate second := by
  rw [evaluate, evaluate, value?_congr agree]

/-- A filter names a field in one of its comparisons. -/
def Filter.Mentions (name : String) : Filter → Prop
  | .compare field _ _ => field = name
  | .join _ left right => left.Mentions name ∨ right.Mentions name

theorem Filter.satisfiedBy_congr
    (agree : ∀ name, filter.Mentions name → first name = second name) :
    filter.satisfiedBy first = filter.satisfiedBy second := by
  induction filter with
  | compare field op literal =>
    rw [satisfiedBy_compare, satisfiedBy_compare, agree field rfl]
  | join op left right ihLeft ihRight =>
    rw [satisfiedBy_join, satisfiedBy_join, ihLeft fun name named => agree name (.inl named),
      ihRight fun name named => agree name (.inr named)]

/-- No program, condition or filter tells two records apart. -/
structure Record.Indistinguishable (first second : Record) : Prop where
  value : ∀ program : Program, program.value? first = program.value? second
  evaluated : ∀ program : Program, program.evaluate first = program.evaluate second
  matched : ∀ condition : Condition, condition.matchRecord first = condition.matchRecord second
  satisfied : ∀ filter : Filter, filter.satisfiedBy first = filter.satisfiedBy second

theorem Record.indistinguishable_of_forall (agree : ∀ name, first name = second name) :
    Indistinguishable first second where
  value _ := Program.value?_congr fun name _ => agree name
  evaluated _ := Program.evaluate_congr fun name _ => agree name
  matched _ := Program.evaluate_congr fun name _ => agree name
  satisfied _ := Filter.satisfiedBy_congr fun name _ => agree name

end

/-- An array or an object. -/
def Json.IsNested : Json → Prop
  | .array _ | .object _ => True
  | _ => False

theorem Scalar.ofJson_of_isNested {value : Json} (nested : value.IsNested) :
    ofJson value = .absent := by
  cases value with
  | array | object => rfl
  | null | bool | number | string => exact nested.elim

namespace Document

/-- The scalars in the fields of a document. -/
def scalars (document : Document) : List (String × Scalar) :=
  document.fields.map fun field => (field.1, Scalar.ofJson field.2)

/-- A document without some of its fields. -/
def without (document : Document) (removed : String → Bool) : Document where
  fields := document.fields.filter fun field => !removed field.1
  ordered := ⟨document.ordered.1.filter _, Json.valuesOrdered_iff.2 fun field inside =>
    Json.valuesOrdered_iff.1 document.ordered.2 field ((List.mem_filter.1 inside).1)⟩

theorem nodup_names (document : Document) : (document.fields.map (·.1)).Nodup :=
  (Entries.ordered_iff_names.1 document.ordered.1).imp fun less => String.ne_of_lt less

/-- The scalars of a document tell all that its record tells, in whatever order they are kept. -/
theorem ofEntries_of_perm {document : Document} {entries : List (String × Scalar)}
    (perm : entries.Perm document.scalars) (name : String) :
    Record.ofEntries entries name = document.record name := by
  have distinct : (entries.map (·.1)).Nodup := by
    rw [(perm.map _).nodup_iff, scalars, List.map_map]
    exact document.nodup_names
  rw [Record.ofEntries, Entries.get?_of_perm perm distinct, scalars, Entries.get?_map]
  rfl

theorem record_without {document : Document} {removed : String → Bool}
    (nested : ∀ name value, removed name = true → document.get? name = some value →
      value.IsNested) (name : String) :
    (document.without removed).record name = document.record name := by
  have kept := Entries.get?_filter (fun name => !removed name) name document.fields
  rw [record, record, Record.ofFields, Record.ofFields, without, kept]
  by_cases gone : removed name = true
  · have same : Entries.get? name document.fields = document.get? name := rfl
    rw [gone, same]
    cases found : document.get? name with
    | none => rfl
    | some value => exact (Scalar.ofJson_of_isNested (nested name value gone found)).symm
  · simp [gone]

end Document

/-- Programs and filters ask a record for the fields that they name and for nothing else, also where
an instruction lacks operands. So none of them tells a document from the map of its scalars or from
what is left of it without some of its arrays and objects. -/
theorem reads_only_mentioned :
    (∀ (program : Program) (first second : Record),
      (∀ name, program.Mentions name → first name = second name) →
        program.value? first = program.value? second ∧
          program.evaluate first = program.evaluate second) ∧
    (∀ (filter : Filter) (first second : Record),
      (∀ name, filter.Mentions name → first name = second name) →
        filter.satisfiedBy first = filter.satisfiedBy second) ∧
    ∀ document : Document,
      (∀ entries : List (String × Scalar), entries.Perm document.scalars →
        (Record.ofEntries entries).Indistinguishable document.record) ∧
      ∀ removed : String → Bool,
        (∀ name value, removed name = true → document.get? name = some value → value.IsNested) →
          (document.without removed).record.Indistinguishable document.record := by
  refine ⟨fun program first second agree => ?programs, fun filter first second agree => ?filters,
    fun document => ⟨fun entries perm => ?scalars, fun removed nested => ?smaller⟩⟩
  case programs => exact ⟨Program.value?_congr agree, Program.evaluate_congr agree⟩
  case filters => exact Filter.satisfiedBy_congr agree
  case scalars => exact Record.indistinguishable_of_forall (Document.ofEntries_of_perm perm)
  case smaller => exact Record.indistinguishable_of_forall (Document.record_without nested)

/-- The program joins the only field that it names to an operand that is not there, and the document
has tags beside this field. -/
theorem reads_only_mentioned_of_tags :
    let program : Program := ⟨[.name "done", .operator (.connective .or)]⟩
    let filter : Filter := .compare "done" .ne (.text "")
    let done : String × Scalar := ("done", .bool true)
    let first := Record.ofEntries [done]
    let second := Record.ofEntries [done, ("owner", .text "b")]
    let document := (Document.ofFields [("done", .bool true), ("tags", .array [.string "a"])])
    program.value? first = program.value? second ∧
      filter.satisfiedBy first = filter.satisfiedBy second ∧
      (Record.ofEntries [("tags", .absent), done]).Indistinguishable document.record ∧
      (document.without fun name => name == "tags").record.Indistinguishable document.record := by
  intro program filter done first second document
  obtain ⟨programs, filters, documents⟩ := reads_only_mentioned
  refine ⟨(programs program first second fun name mentioned => ?program).1,
    filters filter first second fun name mentioned => ?filter,
    (documents document).1 _ ?scalars,
    (documents document).2 _ fun name value removed found => ?smaller⟩
  case program =>
    obtain rfl : name = "done" := by simpa [program, Program.Mentions] using mentioned
    rfl
  case filter =>
    obtain rfl : name = "done" := Eq.symm mentioned
    rfl
  case scalars =>
    have scalars : document.scalars = [done, ("tags", .absent)] := by rfl
    rw [scalars]
    exact List.Perm.swap _ _ _
  case smaller =>
    obtain rfl : name = "tags" := by simpa using removed
    have tags : document.get? "tags" = some (.array [.string "a"]) := by rfl
    cases tags.symm.trans found
    trivial

end DocumentStore
