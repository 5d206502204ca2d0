import Gazette.Database.Tables
import Gazette.Store.Request

/-!
# The store in a database

* `Tables.backend` answers the requests to a store of articles from the tables of a database.
* `Tables.readOnlyBackend` answers those that change nothing, and refuses the others.
-/

namespace Gazette.Database

def articleError (id : Option Uuid) (error : DatabaseError) : StoreError :=
  error.toStoreError "Article" (id.map Uuid.toText)

/-- A count of rows in a query is a number of 63 bits. Larger ones count as the largest. -/
def rowCount (n : UInt64) : Nat := min n.toNat 0x7FFFFFFFFFFFFFFF

namespace Tables

def addAuthor (author : Author) (tables : Tables) : Except StoreError Unit × Tables :=
  match tables.insertAuthor (.ofAuthor author) with
  | .ok tables => (.ok (), tables)
  | .error error => (.error (error.toStoreError "Author" (some author.id.toText)), tables)

def insert (world : Surroundings) (draft : Draft) (tables : Tables) : StoreOutcome Article × Tables :=
  match world.clock.timestamp with
  | .error crash => (.error crash, tables)
  | .ok now =>
    let article := draft.toArticle (.random world.random) now
    match tables.insertArticle (.ofArticle article) with
    | .ok tables => (.ok (.ok article), tables)
    | .error error => (.ok (.error (articleError (some article.id) error)), tables)

/-- Replaces the parts of an article that may change. The row stays changed even if it cannot be read. -/
def update (world : Surroundings) (revision : Revision) (tables : Tables) :
    StoreOutcome (Option Article) × Tables :=
  match world.clock.timestamp with
  | .error crash => (.error crash, tables)
  | .ok now =>
    match tables.updateArticle revision now with
    | .error error => (.ok (.error (articleError (some revision.id) error)), tables)
    | .ok (none, tables) => (.ok (.ok none), tables)
    | .ok (some row, tables) =>
      match readArticle row.columns with
      | .ok article => (.ok (.ok (some article)), tables)
      | .error error => (.ok (.error (articleError (some revision.id) error)), tables)

def delete (id : Uuid) (tables : Tables) : Except StoreError UInt64 × Tables :=
  match tables.deleteArticle id with
  | .ok (count, tables) => (.ok count.toUInt64, tables)
  | .error error => (.error (articleError (some id) error), tables)

def get (id : Uuid) (tables : Tables) : Except DatabaseError (Option BylinedArticle) := do
  match ← tables.findBylined id with
  | none => .ok none
  | some columns => (readBylinedArticle columns).map some

def readRows (rows : List ArticleRow) : Except DatabaseError (List Article) :=
  rows.mapM fun row => readArticle row.columns

def list (offset limit : UInt64) (tables : Tables) : Except DatabaseError (List Article) := do
  let rows ← tables.articleRows
  readRows (((sortRows rows).drop (rowCount offset)).take (rowCount limit))

def search (needle : String) (offset limit : UInt64) (tables : Tables) :
    Except DatabaseError (List Article) := do
  let rows ← tables.pageMatching (Pattern.containing needle) (rowCount offset) (rowCount limit)
  readRows rows

def answer {α : Type} (id : Option Uuid) (result : Except DatabaseError α) (tables : Tables) :
    StoreOutcome α × Tables :=
  (.ok (result.mapError (articleError id)), tables)

def backend : StoreBackend Tables := fun world request tables =>
  match request with
  | .insert draft => tables.insert world draft
  | .update revision => tables.update world revision
  | .delete id =>
    let (result, tables) := tables.delete id
    (.ok result, tables)
  | .get id => answer (some id) (tables.get id) tables
  | .count => answer none (tables.articleRows.map fun rows => rows.length.toUInt64) tables
  | .list offset limit => answer none (tables.list offset limit) tables
  | .countByTitle needle =>
    answer none ((tables.rowsMatching (Pattern.containing needle)).map fun rows => rows.length.toUInt64) tables
  | .search needle offset limit => answer none (tables.search needle offset limit) tables

def refusal : StoreError := articleError none .readOnly

/-- What becomes of a change, which is stamped with the time before it is refused. -/
def refuse {α : Type} (world : Surroundings) : StoreOutcome α := world.clock.timestamp.map fun _ => .error refusal

def readOnlyBackend : StoreBackend Tables := fun world request tables =>
  match request with
  | .insert _ => (refuse world, tables)
  | .update _ => (refuse world, tables)
  | .delete _ => (.ok (.error refusal), tables)
  | request => backend world request tables

end Tables

end Gazette.Database
