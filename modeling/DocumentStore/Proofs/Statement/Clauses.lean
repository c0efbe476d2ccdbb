import DocumentStore.Statement
import DocumentStore.Proofs.Text.Words

/-!
# Where clauses are found

A clause begins at the first place at which its keyword stands before a blank. This place may be
the end of a longer word: a column or a collection whose name ends in a keyword is taken for the
keyword itself. A statement is therefore gone through word by word, and each word matters only by
its end.
-/

namespace DocumentStore.Statement

open Text

/-- Whether a word ends in a keyword, in any letter case. -/
def endsIn (keyword : String) : List Char → Bool
  | [] => false
  | c :: rest => spells keyword (c :: rest) || endsIn keyword rest

/-- The first line of a text that is not blank, without the blanks at its two ends. -/
def firstLine (text : List Char) : List Char :=
  trim ((trimStart text).takeWhile fun c => c != '\n')

theorem firstLine_eq_trim {text : List Char} (oneLine : '\n' ∉ trim text) :
    firstLine text = trim text := by
  obtain ⟨blanks, whole, all⟩ := exists_trimEnd (trimStart text)
  rw [← trim] at whole
  have kept : ∀ c ∈ trim text, (c != '\n') = true := by
    intro c inside
    rw [bne_iff_ne]
    rintro rfl
    exact oneLine inside
  have allTaken : ∀ c ∈ blanks.takeWhile (fun c => c != '\n'), isBlank c = true := by
    intro c inside
    exact all c ((List.takeWhile_sublist _).subset inside)
  rw [firstLine, whole, List.takeWhile_append_of_pos kept]
  cases left : trim text with
  | nil =>
    rw [List.nil_append, trim, trimStart_of_blanks allTaken]
    rfl
  | cons c rest =>
    have solid : isBlank c = false := head_trimStart text c (by rw [whole, left]; rfl)
    rw [trim, trimStart_of_head (by simpa using solid), trimEnd_append allTaken, ← left, trim,
      trimEnd_trimEnd]

variable {keyword : String} {word : List Char}

theorem map_toLower_of_spells (spelled : spells keyword word = true) :
    word.map Char.toLower = keyword.toList := by
  simpa [spells] using spelled

theorem spells_of_length_ne (other : word.length ≠ keyword.length) :
    spells keyword word = false := by
  rw [Bool.eq_false_iff]
  intro spelled
  apply other
  rw [← String.length_toList, ← map_toLower_of_spells spelled, List.length_map]

/-- A keyword has no character that is no part of a word. -/
theorem spells_of_other (isWord : IsWord keyword.toList) {c : Char} (inside : c ∈ word)
    (other : isWordPart c = false) : spells keyword word = false := by
  rw [Bool.eq_false_iff]
  intro spelled
  have member : c.toLower ∈ keyword.toList := by
    rw [← map_toLower_of_spells spelled]
    exact List.mem_map_of_mem inside
  rw [toLower_of_not_isWordPart other] at member
  simp [isWord.2 c member] at other

theorem endsIn_of_other (isWord : IsWord keyword.toList) {c : Char} (other : isWordPart c = false)
    (word : List Char) : endsIn keyword (word ++ [c]) = false := by
  induction word with
  | nil => simp [endsIn, spells_of_other isWord (List.mem_singleton_self c) other]
  | cons d rest ih =>
    have inside : c ∈ d :: (rest ++ [c]) := by simp
    simp [endsIn, spells_of_other isWord inside other, ih]

/-- Before a blank there is the whole word or no keyword. -/
theorem afterKeyword?_word (isWord : IsWord keyword.toList) (solid : IsSolid word) {b : Char}
    (blank : isBlank b = true) (rest : List Char) :
    afterKeyword? keyword (word ++ b :: rest) =
      if spells keyword word then some (trimStart rest) else none := by
  rcases Nat.lt_trichotomy word.length keyword.length with shorter | same | longer
  · have taken : b ∈ (word ++ b :: rest).take keyword.length := by
      obtain ⟨n, more⟩ : ∃ n, keyword.length - word.length = n + 1 :=
        ⟨keyword.length - word.length - 1, by omega⟩
      simp [List.take_append, more]
    have notWord := spells_of_length_ne (Nat.ne_of_lt shorter)
    simp [afterKeyword?, spells_of_other isWord taken (isWordPart_of_isBlank blank), notWord]
  · simp [afterKeyword?, List.take_left' same, List.drop_left' same, blank, trimStart_cons blank]
  · have notWord := spells_of_length_ne (Nat.ne_of_gt longer)
    obtain ⟨c, more, left⟩ : ∃ c more, word.drop keyword.length = c :: more :=
      List.exists_cons_of_length_pos (by rw [List.length_drop]; omega)
    have inside : c ∈ word := List.mem_of_mem_drop (left ▸ List.mem_cons_self)
    have dropped : (word ++ b :: rest).drop keyword.length = c :: (more ++ b :: rest) := by
      rw [List.drop_append_of_le_length (Nat.le_of_lt longer), left, List.cons_append]
    simp [afterKeyword?, dropped, solid c inside, notWord]

/-- A keyword without a blank after it begins no clause. -/
theorem afterKeyword?_of_solid {text : List Char} (solid : IsSolid text) :
    afterKeyword? keyword text = none := by
  have noBlank : (text.drop keyword.length).head?.any isBlank = false := by
    rw [Option.any_eq_false]
    intro c first
    have inside : c ∈ text.drop keyword.length := List.mem_of_mem_head? first
    simp [solid c (List.mem_of_mem_drop inside)]
  simp only [afterKeyword?, noBlank, Bool.and_false, Bool.false_eq_true, if_false]

/-! ## The leftmost place -/

theorem leftmost?_cons (clause? : List Char → Option (List Char)) (c : Char) (rest : List Char) :
    leftmost? clause? (c :: rest) = (clause? (c :: rest)).or (leftmost? clause? rest) := by
  rw [leftmost?]
  cases clause? (c :: rest) <;> rfl

section

variable {clause? found? : List Char → Option (List Char)}
  (clause : ∀ text, clause? text = (afterKeyword? keyword text).bind found?)

include clause

theorem leftmost?_of_solid {text : List Char} (solid : IsSolid text) :
    leftmost? clause? text = none := by
  induction text with
  | nil => rfl
  | cons c rest ih =>
    rw [leftmost?_cons, clause, afterKeyword?_of_solid solid,
      ih fun d inside => solid d (List.mem_cons_of_mem c inside)]
    rfl

end

section

variable {clause? found? : List Char → Option (List Char)} (isWord : IsWord keyword.toList)
  (clause : ∀ text, clause? text = (afterKeyword? keyword text).bind found?)

include isWord clause

/-- A word before a blank is passed over, unless it ends in the keyword. -/
theorem leftmost?_word (solid : IsSolid word) {b : Char}
    (blank : isBlank b = true) (rest : List Char) :
    leftmost? clause? (word ++ b :: rest) =
      (if endsIn keyword word then found? (trimStart rest) else none).or
        (leftmost? clause? rest) := by
  induction word with
  | nil =>
    have nothing : spells keyword [] = false := by
      simpa [spells] using isWord.1.symm
    have passed := afterKeyword?_word isWord solid blank rest
    rw [List.nil_append] at passed
    simp [leftmost?_cons, clause, passed, nothing, endsIn]
  | cons c word ih =>
    have passed := afterKeyword?_word isWord solid blank rest
    rw [List.cons_append] at passed
    rw [List.cons_append, leftmost?_cons, clause, passed,
      ih fun d inside => solid d (List.mem_cons_of_mem c inside), endsIn]
    by_cases spelled : spells keyword (c :: word) = true
    · simp only [spelled, if_true, Option.bind_some, Bool.true_or]
      cases found? (trimStart rest) <;> simp
    · simp [spelled]

/-- Of a list of columns only the last one can be taken for a keyword: a comma follows the
others. -/
theorem leftmost?_columns {columns : List String} (nonempty : columns ≠ [])
    (identifiers : ∀ column ∈ columns, IsIdentifier column.toList) (rest : List Char) :
    leftmost? clause? ((", ".intercalate columns).toList ++ ' ' :: rest) =
      leftmost? clause? ((columns.getLast nonempty).toList ++ ' ' :: rest) := by
  induction columns with
  | nil => exact absurd rfl nonempty
  | cons column others ih =>
    cases others with
    | nil => simp
    | cons next others =>
      have isSolid := (identifiers column List.mem_cons_self).isWord.isSolid
      have comma : IsSolid [','] := by decide
      have solid : IsSolid (column.toList ++ [',']) := List.forall_mem_append.2 ⟨isSolid, comma⟩
      have listed : (", ".intercalate (column :: next :: others)).toList ++ ' ' :: rest =
          (column.toList ++ [',']) ++ ' ' ::
            ((", ".intercalate (next :: others)).toList ++ ' ' :: rest) := by
        simp [String.toList_intercalate, List.intercalate]
      have notKeyword := endsIn_of_other isWord (c := ',') rfl column.toList
      rw [listed, leftmost?_word isWord clause solid rfl, notKeyword, List.getLast_cons_cons]
      exact ih (List.cons_ne_nil _ _) fun other inside =>
        identifiers other (List.mem_cons_of_mem column inside)

end

/-! ## The two clauses of a statement -/

/-- The collection name with which a text begins. -/
def collectionName? (text : List Char) : Option (List Char) :=
  let name := text.takeWhile isNameChar
  if name.isEmpty then none else some name

theorem fromClause?_eq (text : List Char) :
    fromClause? text = (afterKeyword? "from" text).bind collectionName? := by
  rw [fromClause?]
  cases afterKeyword? "from" text <;> rfl

theorem whereClause?_eq (text : List Char) :
    whereClause? text = (afterKeyword? "where" text).bind
      fun rest => some (trim (rest.takeWhile fun c => c != '\n')) := by
  rw [whereClause?]
  cases afterKeyword? "where" text <;> rfl

theorem leftmost?_fromClause? (solid : IsSolid word) (rest : List Char) :
    leftmost? fromClause? (word ++ ' ' :: rest) =
      (if endsIn "from" word then collectionName? (trimStart rest) else none).or
        (leftmost? fromClause? rest) :=
  leftmost?_word (by decide) fromClause?_eq solid rfl rest

theorem leftmost?_whereClause? (solid : IsSolid word) (rest : List Char) :
    leftmost? whereClause? (word ++ ' ' :: rest) =
      if endsIn "where" word then some (firstLine rest) else leftmost? whereClause? rest := by
  rw [leftmost?_word (by decide) whereClause?_eq solid rfl rest]
  by_cases ends : endsIn "where" word = true
  · simp [ends, firstLine]
  · simp [ends]

theorem isNameChar_of_isWordPart {c : Char} (part : isWordPart c = true) : isNameChar c = true := by
  simp only [isWordPart, Bool.or_eq_true] at part
  rcases part with alphanum | underscore
  · simp [isNameChar, alphanum]
  · simp [isNameChar, underscore]

theorem not_isNameChar_blank (rest : List Char) :
    ∀ c ∈ (' ' :: rest).head?, isNameChar c = false := by
  rintro c ⟨⟩
  rfl

theorem collectionName?_word {name rest : List Char} (named : IsWord name)
    (ends : ∀ c ∈ rest.head?, isNameChar c = false) :
    collectionName? (trimStart (name ++ rest)) = some name := by
  have all : ∀ c ∈ name, isNameChar c = true := fun c inside =>
    isNameChar_of_isWordPart (named.2 c inside)
  have front : trimStart (name ++ rest) = name ++ rest := by
    apply trimStart_of_head
    intro c first
    cases name with
    | nil => exact absurd rfl named.1
    | cons d more =>
      obtain rfl : d = c := by simpa using first
      exact isBlank_of_isWordPart (named.2 d List.mem_cons_self)
  have taken : (name ++ rest).takeWhile isNameChar = name :=
    takeWhile_eq_iff.2 ⟨rest, rfl, all, ends⟩
  simp [collectionName?, front, taken, named.1]

/-- A statement that takes all columns of a collection and has no condition. -/
theorem read_all {name : String} (named : IsWord name.toList) :
    read ("SELECT * FROM " ++ name) = .ok ⟨name, ""⟩ := by
  have written : ("SELECT * FROM " ++ name).toList =
      "SELECT".toList ++ ' ' :: ("*".toList ++ ' ' :: ("FROM".toList ++ ' ' :: name.toList)) := by
    simp
  have keyword : endsIn "from" "FROM".toList = true := by decide
  have found : leftmost? fromClause? ("SELECT * FROM " ++ name).toList = some name.toList := by
    have notSelect : endsIn "from" "SELECT".toList = false := by decide
    have notStar : endsIn "from" "*".toList = false := by decide
    have last : collectionName? (trimStart (name.toList ++ [])) = some name.toList :=
      collectionName?_word named nofun
    rw [List.append_nil] at last
    rw [written, leftmost?_fromClause? (by decide), leftmost?_fromClause? (by decide),
      leftmost?_fromClause? (by decide), notSelect, notStar, keyword, if_pos rfl, last]
    rfl
  have none : leftmost? whereClause? ("SELECT * FROM " ++ name).toList = none := by
    have notSelect : endsIn "where" "SELECT".toList = false := by decide
    have notStar : endsIn "where" "*".toList = false := by decide
    have notFrom : endsIn "where" "FROM".toList = false := by decide
    rw [written, leftmost?_whereClause? (by decide), leftmost?_whereClause? (by decide),
      leftmost?_whereClause? (by decide), notSelect, notStar, notFrom,
      leftmost?_of_solid whereClause?_eq named.isSolid]
    rfl
  rw [read, found, none]
  simp only [String.ofList_toList]
  rfl

/-! ## Statements with a projection -/

theorem toList_select (projection name condition : String) :
    ("SELECT " ++ projection ++ " FROM " ++ name ++ " WHERE " ++ condition).toList =
      "SELECT".toList ++ ' ' :: (projection.toList ++ ' ' :: ("FROM".toList ++ ' ' ::
        (name.toList ++ ' ' :: ("WHERE".toList ++ ' ' :: condition.toList)))) := by
  simp

section

variable {last name : String} (solid : IsSolid last.toList)
  (named : IsWord name.toList)

include solid named

theorem leftmost?_fromClause?_select (rest : List Char) :
    leftmost? fromClause? (last.toList ++ ' ' :: ("FROM".toList ++ ' ' ::
        (name.toList ++ ' ' :: rest))) =
      some (if endsIn "from" last.toList then "FROM" else name).toList := by
  have keyword : endsIn "from" "FROM".toList = true := by decide
  have isWord : IsWord "FROM".toList := by decide
  rw [leftmost?_fromClause? solid, leftmost?_fromClause? (by decide),
    collectionName?_word isWord (not_isNameChar_blank _),
    collectionName?_word named (not_isNameChar_blank _), keyword]
  by_cases ends : endsIn "from" last.toList = true
  · simp [ends]
  · simp [ends]

theorem leftmost?_whereClause?_select (condition : String) :
    leftmost? whereClause? (last.toList ++ ' ' :: ("FROM".toList ++ ' ' ::
        (name.toList ++ ' ' :: ("WHERE".toList ++ ' ' :: condition.toList)))) =
      some (firstLine (if endsIn "where" last.toList then "FROM " ++ name ++ " WHERE " ++ condition
        else if endsIn "where" name.toList then "WHERE " ++ condition else condition).toList) := by
  have other : endsIn "where" "FROM".toList = false := by decide
  have keyword : endsIn "where" "WHERE".toList = true := by decide
  rw [leftmost?_whereClause? solid, leftmost?_whereClause? (by decide), other,
    leftmost?_whereClause? named.isSolid, leftmost?_whereClause? (by decide), keyword]
  by_cases ends : endsIn "where" last.toList = true
  · simp [ends]
  · by_cases endsName : endsIn "where" name.toList = true
    · simp [ends, endsName]
    · simp [ends, endsName]

/-- A statement is read by the last column of its projection alone. -/
theorem read_select {projection condition : String}
    (lastDecides : ∀ clause?, clause? = fromClause? ∨ clause? = whereClause? → ∀ rest,
      leftmost? clause? (projection.toList ++ ' ' :: rest) =
        leftmost? clause? (last.toList ++ ' ' :: rest)) :
    read ("SELECT " ++ projection ++ " FROM " ++ name ++ " WHERE " ++ condition) =
      .ok ⟨if endsIn "from" last.toList then "FROM" else name,
        String.ofList (firstLine (if endsIn "where" last.toList then
            "FROM " ++ name ++ " WHERE " ++ condition
          else if endsIn "where" name.toList then "WHERE " ++ condition else condition).toList)⟩ := by
  have notFrom : endsIn "from" "SELECT".toList = false := by decide
  have notWhere : endsIn "where" "SELECT".toList = false := by decide
  have found : leftmost? fromClause?
      ("SELECT " ++ projection ++ " FROM " ++ name ++ " WHERE " ++ condition).toList =
      some (if endsIn "from" last.toList then "FROM" else name).toList := by
    rw [toList_select, leftmost?_fromClause? (by decide), notFrom, lastDecides _ (.inl rfl),
      leftmost?_fromClause?_select solid named]
    rfl
  have restricted : leftmost? whereClause?
      ("SELECT " ++ projection ++ " FROM " ++ name ++ " WHERE " ++ condition).toList =
      some (firstLine (if endsIn "where" last.toList then "FROM " ++ name ++ " WHERE " ++ condition
        else if endsIn "where" name.toList then "WHERE " ++ condition else condition).toList) := by
    rw [toList_select, leftmost?_whereClause? (by decide), notWhere, lastDecides _ (.inr rfl),
      leftmost?_whereClause?_select solid named]
    rfl
  rw [read, found, restricted]
  simp only [String.ofList_toList, Option.getD_some]

end

/-- A statement with a projection is read as it is written, unless its last column ends in a keyword
or its collection name ends in the keyword of the WHERE clause, in any letter case. A last column
that ends in FROM makes FROM itself the name of the collection. After a last column that ends in
WHERE the rest of the statement is the condition, and after a collection name that ends so, the
rest from the true WHERE on. -/
theorem read_columns {columns : List String} {name condition : String} (nonempty : columns ≠ [])
    (identifiers : ∀ column ∈ columns, IsIdentifier column.toList) (named : IsWord name.toList)
    (oneLine : '\n' ∉ condition.toList) :
    let last := (columns.getLast nonempty).toList
    read ("SELECT " ++ ", ".intercalate columns ++ " FROM " ++ name ++ " WHERE " ++ condition) =
      .ok ⟨if endsIn "from" last then "FROM" else name,
        String.ofList (trim (if endsIn "where" last then "FROM " ++ name ++ " WHERE " ++ condition
          else if endsIn "where" name.toList then "WHERE " ++ condition else condition).toList)⟩ := by
  intro last
  have solid : IsSolid last := (identifiers _ (List.getLast_mem nonempty)).isWord.isSolid
  have noLine : '\n' ∉ name.toList := fun inside => absurd (named.2 _ inside) (by decide)
  have lastDecides : ∀ clause?, clause? = fromClause? ∨ clause? = whereClause? → ∀ rest,
      leftmost? clause? ((", ".intercalate columns).toList ++ ' ' :: rest) =
        leftmost? clause? (last ++ ' ' :: rest) := by
    rintro clause? (rfl | rfl) rest
    · exact leftmost?_columns (by decide) fromClause?_eq nonempty identifiers rest
    · exact leftmost?_columns (by decide) whereClause?_eq nonempty identifiers rest
  rw [read_select solid named lastDecides, firstLine_eq_trim]
  intro inside
  have member := mem_of_mem_trim inside
  split at member
  · simp [noLine, oneLine] at member
  · split at member
    · simp [oneLine] at member
    · exact oneLine member

/-- Columns and a collection that only begin with a keyword do no harm, but the last column of a
projection may, and the collection may. -/
theorem read_columns_of_users :
    read "SELECT from_date, whereabouts FROM fromage WHERE  since = 1 " =
      .ok ⟨"fromage", "since = 1"⟩ ∧
    read "SELECT name, nowhere FROM users WHERE a = 1" =
      .ok ⟨"users", "FROM users WHERE a = 1"⟩ ∧
    read "SELECT name FROM elsewhere WHERE a = 1" = .ok ⟨"elsewhere", "WHERE a = 1"⟩ := by
  have inFront := @read_columns ["from_date", "whereabouts"] "fromage" " since = 1 "
    (by decide) (by decide) (by decide) (by decide)
  have inColumn := @read_columns ["name", "nowhere"] "users" "a = 1"
    (by decide) (by decide) (by decide) (by decide)
  have inName := @read_columns ["name"] "elsewhere" "a = 1"
    (by decide) (by decide) (by decide) (by decide)
  exact ⟨inFront, inColumn, inName⟩

/-- Not every statement is read as it is written: the end of a column is taken for a keyword. -/
theorem read_captures_column :
    ¬ ∀ (columns : List String) (name condition : String), columns ≠ [] →
      (∀ column ∈ columns, IsIdentifier column.toList) → IsWord name.toList →
      '\n' ∉ condition.toList →
      read ("SELECT " ++ ", ".intercalate columns ++ " FROM " ++ name ++ " WHERE " ++ condition) =
        .ok ⟨name, String.ofList (trim condition.toList)⟩ := by
  intro asWritten
  have claimed := asWritten ["valid_from"] "users" "a = 1" (by decide) (by decide) (by decide)
    (by decide)
  have captured : read "SELECT valid_from FROM users WHERE a = 1" = .ok ⟨"FROM", "a = 1"⟩ := rfl
  have written : read "SELECT valid_from FROM users WHERE a = 1" = .ok ⟨"users", "a = 1"⟩ := claimed
  rw [captured] at written
  simp at written

end DocumentStore.Statement
