import Gazette.Database.Pattern
import Gazette.Database.Row

/-!
# Tables

* `Tables` are the two tables of a database, each of which may be missing. `Tables.create` makes those that are.
* Statements insert, update, delete and find rows. They fail when a table is missing, a key is taken or a reference
  leads nowhere.
-/

namespace Gazette.Database

structure Tables where
  authors : Option (List AuthorRow)
  articles : Option (List ArticleRow)
  deriving DecidableEq, Repr

namespace Tables

def empty : Tables := ⟨none, none⟩

def create (tables : Tables) : Tables := ⟨some (tables.authors.getD []), some (tables.articles.getD [])⟩

def missingTable (name : String) : DatabaseError := .failure 1 ("no such table: " ++ name)

def authorRows (tables : Tables) (name : String) : Except DatabaseError (List AuthorRow) :=
  match tables.authors with
  | some rows => .ok rows
  | none => .error (missingTable name)

def articleRows (tables : Tables) : Except DatabaseError (List ArticleRow) :=
  match tables.articles with
  | some rows => .ok rows
  | none => .error (missingTable "articles")

/-! ## Changing -/

def insertAuthor (tables : Tables) (row : AuthorRow) : Except DatabaseError Tables := do
  let rows ← tables.authorRows "authors"
  if rows.any fun other => other.id.same row.id then
    .error (.failure DatabaseError.duplicateKey "UNIQUE constraint failed: authors.id")
  else .ok { tables with authors := some (rows ++ [row]) }

def insertArticle (tables : Tables) (row : ArticleRow) : Except DatabaseError Tables := do
  let rows ← tables.articleRows
  let authors ← tables.authorRows "main.authors"
  if rows.any fun other => other.id.same row.id then
    .error (.failure DatabaseError.duplicateKey "UNIQUE constraint failed: articles.id")
  else if authors.any fun author => author.id.same row.authorId then
    .ok { tables with articles := some (rows ++ [row]) }
  else .error (.failure DatabaseError.danglingReference "FOREIGN KEY constraint failed")

def updateArticle (tables : Tables) (revision : Revision) (now : Timestamp) :
    Except DatabaseError (Option ArticleRow × Tables) := do
  let rows ← tables.articleRows
  let isMeant (row : ArticleRow) : Bool := row.id.same (idCell revision.id)
  let rows := rows.map fun row => if isMeant row then row.revise revision now else row
  .ok (rows.find? isMeant, { tables with articles := some rows })

/-- Removes an article and tells how many there were. The table of authors is looked at for references. -/
def deleteArticle (tables : Tables) (id : Uuid) : Except DatabaseError (Nat × Tables) := do
  let rows ← tables.articleRows
  let _ ← tables.authorRows "main.authors"
  let left := rows.filter fun row => !row.id.same (idCell id)
  .ok (rows.length - left.length, { tables with articles := some left })

/-! ## Finding -/

def findBylined (tables : Tables) (id : Uuid) : Except DatabaseError (Option (List Value)) := do
  let rows ← tables.articleRows
  let authors ← tables.authorRows "authors"
  .ok do
    let row ← rows.find? fun row => row.id.same (idCell id)
    let author ← authors.find? fun author => author.id.same row.authorId
    return row.columnsWith author

def sortRows (rows : List ArticleRow) : List ArticleRow :=
  rows.mergeSort fun left right => (left.compare right).isLE

/-- The rows whose titles fit a pattern. A pattern that is too long fails on the first row. -/
def rowsMatching (tables : Tables) (pattern : String) : Except DatabaseError (List ArticleRow) := do
  let rows ← tables.articleRows
  let pattern := Utf8.encode pattern
  if Pattern.maxLength < pattern.length && !rows.isEmpty then
    .error (.failure 1 "LIKE or GLOB pattern too complex")
  else .ok (rows.filter fun row => Pattern.accepts pattern row.title.octets)

/-- The rows of a page whose titles fit a pattern. No row is looked at for a page without room. -/
def pageMatching (tables : Tables) (pattern : String) (offset limit : Nat) :
    Except DatabaseError (List ArticleRow) := do
  let _ ← tables.articleRows
  if limit = 0 then .ok []
  else
    let rows ← tables.rowsMatching pattern
    .ok (((sortRows rows).drop offset).take limit)

end Tables

end Gazette.Database
