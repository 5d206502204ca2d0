import Gazette.Uuid.Basic

/-!
# What can go wrong with stored articles

`StoreError` has the reasons why an operation on articles gives no result.
-/

namespace Gazette

inductive StoreError
  | notFound (entity id : String)
  | alreadyExists (entity id : String)
  | connectionFailed (reason : String)
  | queryFailed (reason : String)
  | invalidData (reason : String)
  | cancelled
  deriving DecidableEq, Repr

namespace StoreError

def message : StoreError → String
  | notFound entity id => s!"{entity} not found: {id}"
  | alreadyExists entity id => s!"{entity} already exists: {id}"
  | connectionFailed reason => "Connection failed: " ++ reason
  | queryFailed reason => "Query failed: " ++ reason
  | invalidData reason => "Invalid data: " ++ reason
  | cancelled => "Operation cancelled"

def isNotFound : StoreError → Bool
  | notFound _ _ => true
  | _ => false

def isCancelled : StoreError → Bool
  | cancelled => true
  | _ => false

def articleNotFound (id : Uuid) : StoreError := notFound "Article" id.toText

end StoreError

end Gazette
