import DocumentStore.Condition.Error
import DocumentStore.Disk.Error

/-!
# Errors of the store

Each error says why an operation was rejected; `StoreError.message` puts it into words.
-/

namespace DocumentStore

/-- Why the store rejects an operation. -/
inductive StoreError
  | collectionNotFound (name : String)
  | itemNotFound (id collection : String)
  /-- The changes of an update do not tell which document they are for. -/
  | missingId
  | condition (error : ConditionError)
  | disk (error : DiskError)
deriving DecidableEq

/-- An error in words. -/
def StoreError.message : StoreError → String
  | .collectionNotFound name => "Collection '" ++ name ++ "' does not exist."
  | .itemNotFound id collection =>
    "Item with id '" ++ id ++ "' not found in collection '" ++ collection ++ "'."
  | .missingId => "Item must contain a string '_id' field."
  | .condition error => error.message
  | .disk error => "storage I/O error: " ++ error.message

end DocumentStore
