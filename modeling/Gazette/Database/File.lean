import Gazette.Database.Location
import Gazette.Database.Tables

/-!
# Opening a database

* `openAt` tells what comes of opening the database at a path, given what is found at its location.
* `keptAt?` is the path of the file that keeps what is changed in it.
-/

namespace Gazette.Database

inductive FileContent
  /-- Neither a file nor a place for one. -/
  | unreachable
  /-- No file, but a place for one. -/
  | missing
  /-- A file in which nothing has been kept so far. -/
  | empty
  | database (tables : Tables)
  /-- Octets that are no database. -/
  | other
  deriving DecidableEq, Repr

/-- What a file without a database has. A file of one octet counts as empty, for it may just have been made. -/
def FileContent.ofLength (octets : Nat) : FileContent := if octets ≤ 1 then .empty else .other

structure OpenDatabase where
  tables : Tables
  isReadOnly : Bool
  deriving DecidableEq, Repr

def openingReason (text : String) : String := s!"Rusqlite(\"{text}\")"

def prepare (isReadOnly : Bool) (tables : Tables) : Except StoreError OpenDatabase :=
  if isReadOnly && tables.create ≠ tables then
    .error (.queryFailed (openingReason DatabaseError.readOnly.message))
  else .ok ⟨tables.create, isReadOnly⟩

def notReached (path : String) : StoreError :=
  .connectionFailed (openingReason ("unable to open database file: " ++ path))

/-- Opens the database at a path, at whose location `content` is found. -/
def openAt (path : String) (content : FileContent) : Except StoreError OpenDatabase :=
  match Location.ofPath path with
  | .error fault => .error (.connectionFailed (openingReason fault.message))
  | .ok location =>
    match location.place, content with
    | .memory, _ => prepare location.isReadOnly .empty
    | .nowhere, _ => .error (notReached path)
    | .file _, .unreachable => .error (notReached path)
    | .file _, .missing =>
      if location.access = .create then prepare location.isReadOnly .empty else .error (notReached path)
    | .file _, .empty => prepare location.isReadOnly .empty
    | .file _, .database tables => prepare location.isReadOnly tables
    | .file _, .other => .error (.queryFailed (openingReason "file is not a database"))

def fileAt? (path : String) : Option String :=
  match Location.ofPath path with
  | .ok ⟨.file path, _, _⟩ => some path
  | _ => none

def keptAt? (path : String) : Option String :=
  match Location.ofPath path with
  | .ok location => if location.isReadOnly then none else fileAt? path
  | .error _ => none

end Gazette.Database
