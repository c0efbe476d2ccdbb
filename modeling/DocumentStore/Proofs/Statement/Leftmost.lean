import DocumentStore.Proofs.Statement.Clauses
import Mathlib.Order.Nat

/-!
# The leftmost clauses

What a statement is read as, told without the search: the first place at which a clause begins
decides, and from there on the clause goes as far as it can. The text of a clause is described as it
is written, by a relation of its own for each clause, and a clause is found exactly where its
relation holds.
-/

namespace DocumentStore.Statement

open Text

/-- A text is a keyword in any letter case, one blank or more, and a rest that does not begin with a
blank. -/
def Introduces (keyword : String) (text rest : List Char) : Prop :=
  ∃ word blanks, text = word ++ (blanks ++ rest) ∧ word.map Char.toLower = keyword.toList ∧
    blanks ≠ [] ∧ (∀ b ∈ blanks, isBlank b = true) ∧ ∀ c ∈ rest.head?, isBlank c = false

/-- A text begins with a FROM clause: the keyword, one blank or more and a character of a name. -/
def BeginsFrom (text : List Char) : Prop :=
  ∃ word blanks c rest, text = word ++ (blanks ++ c :: rest) ∧
    word.map Char.toLower = "from".toList ∧ blanks ≠ [] ∧ (∀ b ∈ blanks, isBlank b = true) ∧
    isNameChar c = true

/-- A text begins with a WHERE clause: the keyword and a blank. -/
def BeginsWhere (text : List Char) : Prop :=
  ∃ word b rest, text = word ++ b :: rest ∧ word.map Char.toLower = "where".toList ∧
    isBlank b = true

/-- The name in a FROM clause is made of all characters of names that follow the blanks. -/
def NamesCollection (text name : List Char) : Prop :=
  ∃ rest, Introduces "from" text (name ++ rest) ∧ name ≠ [] ∧
    (∀ c ∈ name, isNameChar c = true) ∧ ∀ c ∈ rest.head?, isNameChar c = false

/-- The condition in a WHERE clause is what stands on the line after the blanks, without the blanks
at its end. The blanks may go over several lines. -/
def Restricts (text condition : List Char) : Prop :=
  ∃ line rest, Introduces "where" text (line ++ rest) ∧ '\n' ∉ line ∧
    (∀ c ∈ rest.head?, c = '\n') ∧ condition = trim line

variable {keyword : String} {text rest name condition found : List Char}

theorem afterKeyword?_eq_some_iff :
    afterKeyword? keyword text = some rest ↔ Introduces keyword text rest := by
  constructor
  · intro after
    simp only [afterKeyword?] at after
    split at after
    · rename_i keywordAndBlank
      obtain ⟨spelled, blank⟩ := Bool.and_eq_true_iff.1 keywordAndBlank
      obtain ⟨blanks, whole, all⟩ := exists_trimStart (text.drop keyword.length)
      cases after
      refine ⟨text.take keyword.length, blanks, ?_, map_toLower_of_spells spelled, ?_, all,
        head_trimStart _⟩
      · rw [← whole, List.take_append_drop]
      · -- the character after the keyword is a blank, which trimming would have taken
        rintro rfl
        obtain ⟨b, first, isBlank⟩ := (Option.any_eq_true _ _).1 blank
        rw [List.nil_append] at whole
        rw [whole] at first
        simp [head_trimStart _ b first] at isBlank
    · cases after
  · rintro ⟨word, blanks, rfl, spelled, some, all, solid⟩
    have length : word.length = keyword.length := by
      rw [← String.length_toList, ← spelled, List.length_map]
    have dropped : trimStart (blanks ++ rest) = rest := by
      rw [trimStart, List.dropWhile_append_of_pos all, ← trimStart, trimStart_of_head solid]
    obtain ⟨b, more, rfl⟩ := List.exists_cons_of_ne_nil some
    have blank : isBlank b = true := all b List.mem_cons_self
    have spells : spells keyword word = true := by simp [spells, spelled]
    simp only [afterKeyword?, List.take_left' length, List.drop_left' length, spells, dropped]
    simp [blank]

theorem isBlank_of_isNameChar {c : Char} (named : isNameChar c = true) : isBlank c = false := by
  simp only [isNameChar, Bool.or_eq_true, beq_iff_eq] at named
  rcases named with (part | rfl) | rfl
  · apply isBlank_of_isWordPart
    simpa [isWordPart] using part
  · decide
  · decide

theorem fromClause?_eq_some_iff :
    fromClause? text = some name ↔ NamesCollection text name := by
  simp only [fromClause?_eq, Option.bind_eq_some_iff, afterKeyword?_eq_some_iff, collectionName?]
  constructor
  · rintro ⟨rest, introduced, read⟩
    split at read
    · cases read
    · rename_i some
      have taken := Option.some.inj read
      rw [taken] at some
      obtain ⟨left, rfl, all, stops⟩ := takeWhile_eq_iff.1 taken
      exact ⟨left, introduced, by simpa using some, all, stops⟩
  · rintro ⟨left, introduced, some, all, stops⟩
    refine ⟨name ++ left, introduced, ?_⟩
    rw [takeWhile_eq_iff.2 ⟨left, rfl, all, stops⟩, if_neg (by simpa using some)]

theorem whereClause?_eq_some_iff :
    whereClause? text = some condition ↔ Restricts text condition := by
  have newline : ∀ c : Char, (c != '\n') = false ↔ c = '\n' := by simp
  simp only [whereClause?_eq, Option.bind_eq_some_iff, afterKeyword?_eq_some_iff, Option.some.injEq]
  constructor
  · rintro ⟨after, introduced, rfl⟩
    obtain ⟨left, whole, all, stops⟩ := takeWhile_eq_iff.1 (rfl : after.takeWhile (· != '\n') = _)
    refine ⟨_, left, whole ▸ introduced, fun inside => ?_, fun c first => ?_, rfl⟩
    · simpa using all '\n' inside
    · simpa using stops c first
  · rintro ⟨line, left, introduced, oneLine, stops, rfl⟩
    refine ⟨line ++ left, introduced, ?_⟩
    rw [takeWhile_eq_iff.2 ⟨left, rfl, fun c inside => ?_, fun c first => ?_⟩]
    · rw [bne_iff_ne]
      rintro rfl
      exact oneLine inside
    · simp [stops c first]

theorem isSome_fromClause?_iff : (fromClause? text).isSome = true ↔ BeginsFrom text := by
  simp only [Option.isSome_iff_exists, fromClause?_eq_some_iff]
  constructor
  · rintro ⟨name, left, ⟨word, blanks, rfl, spelled, some, all, -⟩, named, nameChars, -⟩
    obtain ⟨c, more, rfl⟩ := List.exists_cons_of_ne_nil named
    exact ⟨word, blanks, c, more ++ left, rfl, spelled, some, all,
      nameChars c List.mem_cons_self⟩
  · rintro ⟨word, blanks, c, rest, rfl, spelled, some, all, named⟩
    obtain ⟨left, whole, nameChars, stops⟩ :=
      takeWhile_eq_iff.1 (rfl : (c :: rest).takeWhile isNameChar = _)
    refine ⟨_, left, ⟨word, blanks, by rw [← whole], spelled, some, all, ?_⟩, ?_, nameChars, stops⟩
    · rw [← whole]
      rintro _ ⟨⟩
      exact isBlank_of_isNameChar named
    · simp [named]

theorem isSome_whereClause?_iff : (whereClause? text).isSome = true ↔ BeginsWhere text := by
  simp only [whereClause?, Option.isSome_map, Option.isSome_iff_exists, afterKeyword?_eq_some_iff]
  constructor
  · rintro ⟨rest, word, blanks, rfl, spelled, some, all, -⟩
    obtain ⟨b, more, rfl⟩ := List.exists_cons_of_ne_nil some
    exact ⟨word, b, more ++ rest, rfl, spelled, all b List.mem_cons_self⟩
  · rintro ⟨word, b, rest, rfl, spelled, blank⟩
    obtain ⟨blanks, whole, all⟩ := exists_trimStart rest
    refine ⟨trimStart rest, word, b :: blanks, ?_, spelled, List.cons_ne_nil b blanks,
      List.forall_mem_cons.2 ⟨blank, all⟩, head_trimStart rest⟩
    rw [List.cons_append, ← whole]

instance (text : List Char) : Decidable (BeginsFrom text) :=
  decidable_of_iff _ isSome_fromClause?_iff

instance (text : List Char) : Decidable (BeginsWhere text) :=
  decidable_of_iff _ isSome_whereClause?_iff

section

variable {clause? : List Char → Option (List Char)} (atEnd : clause? [] = none)

include atEnd

theorem leftmost?_eq_none_iff :
    leftmost? clause? text = none ↔ ∀ n, clause? (text.drop n) = none := by
  induction text with
  | nil => simp [leftmost?, atEnd]
  | cons c rest ih =>
    rw [leftmost?_cons, Option.or_eq_none_iff, ih]
    constructor
    · rintro ⟨here, later⟩ (_ | n)
      · exact here
      · exact later n
    · intro nowhere
      exact ⟨nowhere 0, fun n => nowhere (n + 1)⟩

/-- The search stops at the first place at which a clause begins. -/
theorem leftmost?_of_isLeast {n : Nat}
    (first : IsLeast {n | (clause? (text.drop n)).isSome = true} n) :
    leftmost? clause? text = clause? (text.drop n) := by
  induction text generalizing n with
  | nil => rw [List.drop_nil, atEnd, leftmost?]
  | cons c rest ih =>
    rw [leftmost?_cons]
    by_cases here : (clause? (c :: rest)).isSome = true
    · obtain rfl : n = 0 := Nat.le_zero.1 (first.2 here)
      rw [List.drop_zero, Option.or_of_isSome here]
    · obtain ⟨m, rfl⟩ : ∃ m, n = m + 1 := by
        apply Nat.exists_eq_succ_of_ne_zero
        rintro rfl
        exact here first.1
      have firstOfRest : IsLeast {n | (clause? (rest.drop n)).isSome = true} m :=
        ⟨first.1, fun k found => Nat.le_of_succ_le_succ (first.2 (show k + 1 ∈ _ from found))⟩
      rw [Option.not_isSome_iff_eq_none.1 here, Option.none_or, ih firstOfRest, List.drop_succ_cons]

end

section

variable {query : String} {statement : Statement} {n : Nat}

theorem read_eq_ok_iff :
    read query = .ok statement ↔
      leftmost? fromClause? query.toList = some statement.collection.toList ∧
        statement.condition.toList = (leftmost? whereClause? query.toList).getD [] := by
  rw [read]
  cases leftmost? fromClause? query.toList with
  | none => simp
  | some name =>
    constructor
    · intro found
      cases found
      simp
    · rintro ⟨named, restricted⟩
      cases named
      rw [← restricted]
      simp

theorem read_eq_error_iff :
    read query = .error .missingFromClause ↔ ∀ n, ¬BeginsFrom (query.toList.drop n) := by
  simp only [← isSome_fromClause?_iff, Option.not_isSome_iff_eq_none]
  rw [← leftmost?_eq_none_iff rfl, read]
  cases leftmost? fromClause? query.toList <;> simp

theorem exists_read_of_isLeast (first : IsLeast {n | BeginsFrom (query.toList.drop n)} n) :
    ∃ statement, read query = .ok statement ∧
      NamesCollection (query.toList.drop n) statement.collection.toList := by
  simp only [← isSome_fromClause?_iff] at first
  obtain ⟨name, named⟩ := Option.isSome_iff_exists.1 first.1
  have found : leftmost? fromClause? query.toList = some name := by
    rw [leftmost?_of_isLeast rfl first, named]
  refine ⟨⟨String.ofList name, _⟩, by rw [read, found], ?_⟩
  rw [String.toList_ofList]
  exact fromClause?_eq_some_iff.1 named

theorem collection_ne_empty (found : read query = .ok statement) : statement.collection ≠ "" := by
  intro nameless
  have somewhere : ¬∀ n, ¬BeginsFrom (query.toList.drop n) := by
    rw [← read_eq_error_iff, found]
    exact nofun
  have first := Nat.isLeast_find (not_forall_not.1 somewhere)
  obtain ⟨_, again, -, -, named, -⟩ := exists_read_of_isLeast first
  cases found.symm.trans again
  exact named (by rw [nameless]; rfl)

theorem condition_eq_empty (found : read query = .ok statement)
    (nowhere : ∀ n, ¬BeginsWhere (query.toList.drop n)) : statement.condition = "" := by
  simp only [← isSome_whereClause?_iff, Option.not_isSome_iff_eq_none] at nowhere
  have empty := (read_eq_ok_iff.1 found).2
  rw [(leftmost?_eq_none_iff rfl).2 nowhere] at empty
  exact String.toList_eq_nil_iff.1 empty

theorem restricts_of_isLeast (found : read query = .ok statement)
    (first : IsLeast {n | BeginsWhere (query.toList.drop n)} n) :
    Restricts (query.toList.drop n) statement.condition.toList := by
  simp only [← isSome_whereClause?_iff] at first
  obtain ⟨condition, restricted⟩ := Option.isSome_iff_exists.1 first.1
  rw [(read_eq_ok_iff.1 found).2, leftmost?_of_isLeast rfl first, restricted]
  exact whereClause?_eq_some_iff.1 restricted

/-- A condition stays on one line and has no blank at its ends. -/
theorem condition_trimmed (found : read query = .ok statement) :
    '\n' ∉ statement.condition.toList ∧
      (∀ c ∈ statement.condition.toList.head?, isBlank c = false) ∧
      ∀ c ∈ statement.condition.toList.getLast?, isBlank c = false := by
  by_cases nowhere : ∀ n, ¬BeginsWhere (query.toList.drop n)
  · rw [condition_eq_empty found nowhere]
    exact ⟨by simp, nofun, nofun⟩
  · have first := Nat.isLeast_find (not_forall_not.1 nowhere)
    obtain ⟨line, rest, -, oneLine, -, trimmed⟩ := restricts_of_isLeast found first
    rw [trimmed]
    exact ⟨fun inside => oneLine (mem_of_mem_trim inside), ends_trim line⟩

end

/-- A statement is read as its leftmost clauses say. Where no FROM clause begins it is refused, and
else the first one names the collection. The condition is looked for on its own: where no WHERE
clause begins it is empty, and else the first one gives it. So a collection has a name, and a
condition stays on one line and has no blank at its ends. -/
theorem read_leftmost (query : String) :
    (read query = .error .missingFromClause ↔ ∀ n, ¬BeginsFrom (query.toList.drop n)) ∧
      (∀ n, IsLeast {n | BeginsFrom (query.toList.drop n)} n → ∃ statement,
        read query = .ok statement ∧
          NamesCollection (query.toList.drop n) statement.collection.toList) ∧
      ∀ statement, read query = .ok statement →
        ((∀ n, ¬BeginsWhere (query.toList.drop n)) → statement.condition = "") ∧
          (∀ n, IsLeast {n | BeginsWhere (query.toList.drop n)} n →
            Restricts (query.toList.drop n) statement.condition.toList) ∧
          statement.collection ≠ "" ∧ '\n' ∉ statement.condition.toList ∧
          (∀ c ∈ statement.condition.toList.head?, isBlank c = false) ∧
          ∀ c ∈ statement.condition.toList.getLast?, isBlank c = false := by
  refine ⟨read_eq_error_iff, fun n => exists_read_of_isLeast, fun statement found => ?_⟩
  exact ⟨condition_eq_empty found, fun n => restricts_of_isLeast found, collection_ne_empty found,
    condition_trimmed found⟩

/-- The first word begins no clause, since it goes on after the keyword, and another word ends in a
keyword. The blanks before the name and the condition are not only spaces. -/
theorem read_leftmost_of_blanks :
    let query := "fromage FROM\u00A0\nlong\u017F-x everywhere\t\n a = 1\u3000\nwhere b"
    read query = .ok ⟨"long\u017F", "a = 1"⟩ ∧
      IsLeast {n | BeginsFrom (query.toList.drop n)} 8 ∧
      IsLeast {n | BeginsWhere (query.toList.drop n)} 27 ∧
      NamesCollection (query.toList.drop 8) "long\u017F".toList ∧
      Restricts (query.toList.drop 27) "a = 1".toList := by
  intro query
  have isLeast {p : Nat → Prop} {n : Nat} (here : p n) (nowhere : ∀ m < n, ¬p m) :
      IsLeast {n | p n} n :=
    ⟨here, fun m holds => Nat.le_of_not_lt fun earlier => nowhere m earlier holds⟩
  have read : read query = .ok ⟨"long\u017F", "a = 1"⟩ := by decide +kernel
  have firstFrom : IsLeast {n | BeginsFrom (query.toList.drop n)} 8 :=
    isLeast (by decide +kernel) (by decide +kernel)
  have firstWhere : IsLeast {n | BeginsWhere (query.toList.drop n)} 27 :=
    isLeast (by decide +kernel) (by decide +kernel)
  obtain ⟨-, named, restricted⟩ := read_leftmost query
  obtain ⟨statement, found, collection⟩ := named 8 firstFrom
  cases read.symm.trans found
  exact ⟨read, firstFrom, firstWhere, collection, (restricted _ found).2.1 27 firstWhere⟩

end DocumentStore.Statement
