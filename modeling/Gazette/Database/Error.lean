import Gazette.Store.Error

/-!
# What can go wrong with a database

`DatabaseError` has what a database may report, and `DatabaseError.toStoreError` what that means for the entity
that was being stored or looked for.
-/

namespace Gazette.Database

inductive DatabaseError
  /-- A statement failed. The low eight bits of the code are its class. -/
  | failure (code : Nat) (text : String)
  /-- The text in a column does not write what is kept there. -/
  | malformed (column : Nat) (cause : String)
  /-- A column holds a value of the wrong kind. -/
  | wrongKind (kind : String) (column : Nat) (name : String)
  | missingColumn (column : Nat)
  | noRows
  | closed
  | notClosed (text : String)
  | other (text : String)
  deriving DecidableEq, Repr

namespace DatabaseError

def duplicateKey : Nat := 1555

def danglingReference : Nat := 787

def cannotOpen : Nat := 14

def readOnly : DatabaseError := .failure 8 "attempt to write a readonly database"

def message : DatabaseError → String
  | failure _ text => text
  | malformed column cause => s!"Conversion error from type Text at index: {column}, {cause}"
  | wrongKind kind column name => s!"Invalid column type {kind} at index: {column}, name: {name}"
  | missingColumn column => s!"Invalid column index: {column}"
  | noRows => "Query returned no rows"
  | closed => "ConnectionClosed"
  | notClosed text => s!"Close((Connection, \"{text}\"))"
  | other text => s!"Other(\"{text}\")"

/-- What an error means for an entity, whose identifier is given if it is known. -/
def toStoreError (error : DatabaseError) (entity : String) (id : Option String) : StoreError :=
  match error with
  | failure code text =>
    if code = duplicateKey then .alreadyExists entity (id.getD "unknown")
    else if code = danglingReference then .invalidData s!"{entity} references an unknown author"
    else if code % 256 = cannotOpen then .connectionFailed ("Cannot open database: " ++ text)
    else .queryFailed text
  | malformed _ _ => .invalidData s!"Malformed {entity} row: {error.message}"
  | wrongKind _ _ _ => .invalidData s!"Malformed {entity} row: {error.message}"
  | missingColumn _ => .queryFailed error.message
  | noRows => .queryFailed error.message
  | closed => .connectionFailed "Connection closed"
  | notClosed text => .connectionFailed ("Failed to close connection: " ++ text)
  | other _ => .queryFailed error.message

end DatabaseError

end Gazette.Database
