import DocumentStore.Catalog
import DocumentStore.Decimal.Layout

/-!
# JSON values

A JSON value keeps the fields of an object as they are listed, repeated names included. A value is
ordered when every object in it lists each name once and in increasing order; `Json.arrange` puts
any value into that form, the last of several fields with one name standing for all of them.
-/

namespace DocumentStore

/-- A JSON number: a whole number written without point and exponent, or a double. -/
inductive Number
  | integer (n : Int)
  | float (x : Float)
deriving DecidableEq

/-- The double nearest to a number. -/
def Number.toFloat : Number → Float
  | .integer (.ofNat n) => (Decimal.mk n 0).toFloat
  | .integer (.negSucc n) => -(Decimal.mk (n + 1) 0).toFloat
  | .float x => x

/-- A JSON value. -/
inductive Json
  | null
  | bool (b : Bool)
  | number (n : Number)
  | string (s : String)
  | array (items : List Json)
  | object (fields : List (String × Json))

namespace Json

/-- The text of a string value. -/
def text? : Json → Option String
  | .string s => some s
  | _ => none

mutual

/-- The number of arrays and objects that enclose the innermost value, the value itself included
if it is one. -/
def depth : Json → Nat
  | .array items => depthOfItems items + 1
  | .object fields => depthOfFields fields + 1
  | _ => 0

/-- The greatest depth of the items of an array. -/
def depthOfItems : List Json → Nat
  | [] => 0
  | item :: rest => max (depth item) (depthOfItems rest)

/-- The greatest depth of the values of an object. -/
def depthOfFields : List (String × Json) → Nat
  | [] => 0
  | (_, value) :: rest => max (depth value) (depthOfFields rest)

end

mutual

/-- Every object in the value lists each name once, in increasing order. -/
def Ordered : Json → Prop
  | .array items => ItemsOrdered items
  | .object fields => Entries.Ordered fields ∧ ValuesOrdered fields
  | _ => True

/-- Every item of an array is ordered. -/
def ItemsOrdered : List Json → Prop
  | [] => True
  | item :: rest => Ordered item ∧ ItemsOrdered rest

/-- Every value of an object is ordered. -/
def ValuesOrdered : List (String × Json) → Prop
  | [] => True
  | (_, value) :: rest => Ordered value ∧ ValuesOrdered rest

end

theorem itemsOrdered_iff {items : List Json} :
    ItemsOrdered items ↔ ∀ item ∈ items, Ordered item := by
  induction items with
  | nil => simp [ItemsOrdered]
  | cons item rest ih => simp [ItemsOrdered, ih]

theorem valuesOrdered_iff {fields : List (String × Json)} :
    ValuesOrdered fields ↔ ∀ field ∈ fields, Ordered field.2 := by
  induction fields with
  | nil => simp [ValuesOrdered]
  | cons field rest ih => obtain ⟨name, value⟩ := field; simp [ValuesOrdered, ih]

mutual

/-- Puts the fields of every object in order; of fields with the same name the last one counts. -/
def arrange : Json → Json
  | .array items => .array (arrangeItems items)
  | .object fields => .object (Entries.gather (arrangeValues fields))
  | .null => .null
  | .bool b => .bool b
  | .number n => .number n
  | .string s => .string s

/-- Arranges every item of an array. -/
def arrangeItems : List Json → List Json
  | [] => []
  | item :: rest => arrange item :: arrangeItems rest

/-- Arranges every value of an object and leaves the fields where they are. -/
def arrangeValues : List (String × Json) → List (String × Json)
  | [] => []
  | (name, value) :: rest => (name, arrange value) :: arrangeValues rest

end

theorem valuesOrdered_put {name : String} {value : Json} {fields : List (String × Json)}
    (hv : Ordered value) (hf : ValuesOrdered fields) :
    ValuesOrdered (Entries.put name value fields) := by
  rw [valuesOrdered_iff] at hf ⊢
  intro field inside
  rcases Entries.mem_put inside with rfl | inside
  · exact hv
  · exact hf field inside

theorem valuesOrdered_foldl_put {entries gathered : List (String × Json)}
    (he : ValuesOrdered entries) (hg : ValuesOrdered gathered) :
    ValuesOrdered (entries.foldl (fun gathered entry => Entries.put entry.1 entry.2 gathered)
      gathered) := by
  induction entries generalizing gathered with
  | nil => exact hg
  | cons entry rest ih => exact ih he.2 (valuesOrdered_put he.1 hg)

theorem valuesOrdered_gather {entries : List (String × Json)} (h : ValuesOrdered entries) :
    ValuesOrdered (Entries.gather entries) :=
  valuesOrdered_foldl_put h (by simp [ValuesOrdered])

mutual

theorem ordered_arrange : ∀ value : Json, Ordered (arrange value)
  | .array items => by
    simp only [arrange, Ordered]
    exact itemsOrdered_arrangeItems items
  | .object fields => by
    simp only [arrange, Ordered]
    exact ⟨Entries.ordered_gather _, valuesOrdered_gather (valuesOrdered_arrangeValues fields)⟩
  | .null | .bool _ | .number _ | .string _ => by simp [arrange, Ordered]

theorem itemsOrdered_arrangeItems : ∀ items : List Json, ItemsOrdered (arrangeItems items)
  | [] => by simp [arrangeItems, ItemsOrdered]
  | item :: rest => by
    simp only [arrangeItems, ItemsOrdered]
    exact ⟨ordered_arrange item, itemsOrdered_arrangeItems rest⟩

theorem valuesOrdered_arrangeValues :
    ∀ fields : List (String × Json), ValuesOrdered (arrangeValues fields)
  | [] => by simp [arrangeValues, ValuesOrdered]
  | (_, value) :: rest => by
    simp only [arrangeValues, ValuesOrdered]
    exact ⟨ordered_arrange value, valuesOrdered_arrangeValues rest⟩

end

end Json

end DocumentStore
