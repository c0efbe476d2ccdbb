import DocumentStore.Path
import DocumentStore.Text.Ascii
import DocumentStore.Text.Blank

/-!
# Settings

The settings of a database are looked up by name, for instance among the environment variables of
a process. What is not set has a default.
-/

namespace DocumentStore

/-- Whether the text of a flag switches it on: the digit 1, or the words true and yes in any
letter case, with blanks around them. -/
def flagIsOn (text : String) : Bool :=
  let word := Text.trim text.toList
  word == ['1'] || Text.spells "true" word || Text.spells "yes" word

/-- The settings of a database. -/
structure Settings where
  /-- The directory that holds the data file. -/
  directory : String
  /-- Whether every change is written to the data file. -/
  persistent : Bool
  /-- Whether a character that begins no token makes a condition invalid. -/
  strict : Bool
deriving DecidableEq, Repr

namespace Settings

/-- The settings where nothing is set. -/
def default : Settings := ⟨"lite_data", true, false⟩

/-- The settings that a lookup by name gives. -/
def ofLookup (lookup : String → Option String) : Settings where
  directory := (lookup "TISSDB_DATA_DIR").getD default.directory
  persistent := (lookup "TISSDB_PERSISTENCE").elim default.persistent flagIsOn
  strict := (lookup "TISSDB_STRICT_LEXING").elim default.strict flagIsOn

/-- Settings under which nothing is written to disk. -/
def inMemory : Settings := ⟨default.directory, false, default.strict⟩

/-- The name of the data file in its directory. -/
def dataFileName : String := "tissdb.json"

/-- The path of the data file. -/
def dataFile (settings : Settings) : String := Path.join settings.directory dataFileName

/-- Whether two settings agree; directories are compared as paths. -/
def same (left right : Settings) : Bool :=
  Path.same left.directory right.directory && left.persistent == right.persistent &&
    left.strict == right.strict

end Settings

end DocumentStore
