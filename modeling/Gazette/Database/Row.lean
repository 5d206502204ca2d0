import Gazette.Article.Basic
import Gazette.Database.Error
import Gazette.Database.Value
import Gazette.Time.Parser
import Gazette.Time.Printer
import Gazette.Uuid.Parser

/-!
# Rows

* `AuthorRow` and `ArticleRow` are the rows of the two tables.
* `ArticleRow.ofArticle` writes an article as a row. `readArticle` and `readBylinedArticle` read the columns that
  a query finds.
-/

namespace Gazette.Database

/-! ## Tables' rows -/

@[ext] structure AuthorRow where
  id : Cell
  firstName : Cell
  lastName : Cell
  deriving DecidableEq, Repr

@[ext] structure ArticleRow where
  id : Cell
  authorId : Cell
  title : Cell
  content : Cell
  imageUrl : Cell
  category : Cell
  createdAt : Cell
  updatedAt : Cell
  deriving DecidableEq, Repr

def idCell (id : Uuid) : Cell := .ofString id.toText

/-- The cell of a moment. Its text has a fixed width, so that cells are sorted as moments are. -/
def timeCell (moment : Timestamp) : Cell := .ofString moment.toColumn

def optionalCell : Option String → Cell
  | some text => .ofString text
  | none => .null

def AuthorRow.ofAuthor (author : Author) : AuthorRow where
  id := idCell author.id
  firstName := .ofString author.firstName
  lastName := .ofString author.lastName

namespace ArticleRow

def ofArticle (article : Article) : ArticleRow where
  id := idCell article.id
  authorId := idCell article.authorId
  title := .ofString article.title
  content := .ofString article.content
  imageUrl := optionalCell article.imageUrl
  category := .ofString article.category
  createdAt := timeCell article.createdAt
  updatedAt := timeCell article.updatedAt

def revise (row : ArticleRow) (revision : Revision) (now : Timestamp) : ArticleRow :=
  { row with
    title := .ofString revision.title
    content := .ofString revision.content
    imageUrl := optionalCell revision.imageUrl
    category := .ofString revision.category
    updatedAt := timeCell now }

def columns (row : ArticleRow) : List Value :=
  [row.id, row.authorId, row.title, row.content, row.imageUrl, row.category, row.createdAt,
    row.updatedAt].map Cell.toValue

def columnsWith (row : ArticleRow) (author : AuthorRow) : List Value :=
  row.columns ++ [author.firstName.toValue, author.lastName.toValue]

def compare (left right : ArticleRow) : Ordering :=
  (left.createdAt.compare right.createdAt).then (left.id.compare right.id)

end ArticleRow

/-! ## Reading columns -/

def readText (column : Nat) (name : String) (value : Value) : Except DatabaseError String :=
  match value with
  | .text octets => (Utf8.decode octets).mapError fun fault => .malformed column fault.message
  | other => .error (.wrongKind other.kind column name)

def textAt (columns : List Value) (column : Nat) (name : String) : Except DatabaseError String :=
  match columns[column]? with
  | none => .error (.missingColumn column)
  | some value => readText column name value

def optionalTextAt (columns : List Value) (column : Nat) (name : String) :
    Except DatabaseError (Option String) :=
  match columns[column]? with
  | none => .error (.missingColumn column)
  | some .null => .ok none
  | some value => (readText column name value).map some

/-- The identifier that a text spells. A text that spells none is reported for the first column. -/
def readId (text : String) : Except DatabaseError Uuid :=
  (Uuid.parse text).mapError fun cause => .malformed 0 cause.message

def readTime (text : String) : Except DatabaseError Timestamp :=
  (Timestamp.parseStrict text).mapError fun cause => .malformed 0 cause.message

/-- The article in eight columns. All are fetched before any is understood. -/
def readArticle (columns : List Value) : Except DatabaseError Article := do
  let id ← textAt columns 0 "id"
  let authorId ← textAt columns 1 "author_id"
  let title ← textAt columns 2 "title"
  let content ← textAt columns 3 "content"
  let imageUrl ← optionalTextAt columns 4 "image_url"
  let category ← textAt columns 5 "category"
  let createdAt ← textAt columns 6 "created_at"
  let updatedAt ← textAt columns 7 "updated_at"
  let id ← readId id
  let authorId ← readId authorId
  let createdAt ← readTime createdAt
  let updatedAt ← readTime updatedAt
  .ok ⟨id, authorId, title, content, imageUrl, category, createdAt, updatedAt⟩

def readBylinedArticle (columns : List Value) : Except DatabaseError BylinedArticle := do
  let article ← readArticle columns
  let firstName ← textAt columns 8 "first_name"
  let lastName ← textAt columns 9 "last_name"
  .ok (article.withByline (firstName ++ " " ++ lastName))

end Gazette.Database
