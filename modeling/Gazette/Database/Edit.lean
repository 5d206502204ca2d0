import Gazette.Database.Tables

/-!
# Edits by others

A database file is open to other programs. `Tables.setCells`, `Tables.removeAuthor` and `Tables.drop` are what they
may do to it; they keep no rule but that columns are columns of text.
-/

namespace Gazette.Database

inductive TableName
  | authors
  | articles
  deriving DecidableEq, Repr

def TableName.ofName? : String → Option TableName
  | "authors" => some .authors
  | "articles" => some .articles
  | _ => none

def AuthorRow.set? (row : AuthorRow) (cell : Cell) : String → Option AuthorRow
  | "id" => some { row with id := cell }
  | "first_name" => some { row with firstName := cell }
  | "last_name" => some { row with lastName := cell }
  | _ => none

def ArticleRow.set? (row : ArticleRow) (cell : Cell) : String → Option ArticleRow
  | "id" => some { row with id := cell }
  | "author_id" => some { row with authorId := cell }
  | "title" => some { row with title := cell }
  | "content" => some { row with content := cell }
  | "image_url" => some { row with imageUrl := cell }
  | "category" => some { row with category := cell }
  | "created_at" => some { row with createdAt := cell }
  | "updated_at" => some { row with updatedAt := cell }
  | _ => none

namespace Tables

def editRows {α : Type} (rows : List α) (isMeant : α → Bool) (edit : α → Option α) : List α × Nat :=
  (rows.map fun row => if isMeant row then (edit row).getD row else row,
    (rows.filter fun row => isMeant row && (edit row).isSome).length)

def setCells (tables : Tables) (table : TableName) (column : String) (id : String) (value : Value) :
    Tables × Nat :=
  let key := Cell.ofString id
  match table with
  | .authors =>
    let (rows, count) :=
      editRows (tables.authors.getD []) (fun row => row.id.same key) fun row => row.set? value.toCell column
    ({ tables with authors := tables.authors.map fun _ => rows }, count)
  | .articles =>
    let (rows, count) :=
      editRows (tables.articles.getD []) (fun row => row.id.same key) fun row => row.set? value.toCell column
    ({ tables with articles := tables.articles.map fun _ => rows }, count)

/-- Removes an author, though articles may refer to it, and counts the rows. -/
def removeAuthor (tables : Tables) (id : String) : Tables × Nat :=
  let key := Cell.ofString id
  let rows := tables.authors.getD []
  let left := rows.filter fun row => !row.id.same key
  ({ tables with authors := tables.authors.map fun _ => left }, rows.length - left.length)

def drop (tables : Tables) : TableName → Tables
  | .authors => { tables with authors := none }
  | .articles => { tables with articles := none }

end Tables

end Gazette.Database
