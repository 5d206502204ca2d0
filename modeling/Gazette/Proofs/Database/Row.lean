import Gazette.Database.Row
import Gazette.Proofs.Time.Order
import Gazette.Proofs.Uuid.Text

/-!
# Rows that are read back

* `ArticleRow.Reads`: the article that can be read from a row, if its cells are texts of an article's parts.
* `ArticleRow.reads_ofArticle`: an article with moments that columns keep is read back from its row.
* `ArticleRow.Reads.revise`: a revised row reads as the article that it held, revised.
* `ArticleRow.compare_ofArticle`: rows are in the order of their articles.
-/

namespace Gazette.Database

open Fallible (bind_eq_ok)

/-! ## Cells -/

theorem Cell.ofString_inj {left right : String} : Cell.ofString left = Cell.ofString right ↔ left = right := by
  constructor
  · intro same
    exact Utf8.encode_injective (Cell.text.inj same)
  · rintro rfl
    rfl

@[simp] theorem idCell_inj {left right : Uuid} : idCell left = idCell right ↔ left = right := by
  rw [idCell, idCell, Cell.ofString_inj, Uuid.toText_inj]

theorem Cell.same_idCell {cell : Cell} {id : Uuid} : cell.same (idCell id) = true ↔ cell = idCell id := by
  rw [Cell.same, Bool.and_eq_true, bne_iff_ne, decide_eq_true_eq]
  -- Null is not the same as anything, but no identifier is null.
  constructor
  · exact And.right
  · rintro rfl
    exact ⟨nofun, rfl⟩

theorem Cell.same_refl_idCell (id : Uuid) : (idCell id).same (idCell id) = true := same_idCell.mpr rfl

@[simp] theorem Cell.same_idCell_idCell (left right : Uuid) :
    (idCell left).same (idCell right) = decide (left = right) := by
  rw [Bool.eq_iff_iff, same_idCell, idCell_inj, decide_eq_true_eq]

@[simp] theorem Cell.compare_ofString (left right : String) :
    (Cell.ofString left).compare (Cell.ofString right) = Ord.compare (Utf8.encode left) (Utf8.encode right) := by
  rw [Cell.compare]
  simp [Cell.ofString, rank, octets]

/-! ## Columns -/

@[simp] theorem readText_ofString (column : Nat) (name text : String) :
    readText column name (Cell.ofString text).toValue = .ok text := by
  simp only [Cell.ofString, Cell.toValue, readText, Utf8.decode_encode]
  rfl

@[simp] theorem readId_toText (id : Uuid) : readId id.toText = .ok id := by
  rw [readId, Uuid.parse_toText]
  rfl

theorem readTime_toColumn {moment : Timestamp} (columnar : moment.Columnar) :
    readTime moment.toColumn = .ok moment := by
  rw [readTime, columnar.parseStrict_toColumn]
  rfl

def readOptionalText (column : Nat) (name : String) : Value → Except DatabaseError (Option String)
  | .null => .ok none
  | value => (readText column name value).map some

@[simp] theorem readOptionalText_optionalCell (column : Nat) (name : String) (text : Option String) :
    readOptionalText column name (optionalCell text).toValue = .ok text := by
  cases text with
  | none => rfl
  | some text =>
    have read := readText_ofString column name text
    simp only [Cell.ofString, Cell.toValue] at read
    simp only [optionalCell, Cell.ofString, Cell.toValue, readOptionalText, read]
    rfl

theorem optionalTextAt_eq {columns : List Value} {column : Nat} {name : String} {value : Value}
    (there : columns[column]? = some value) :
    optionalTextAt columns column name = readOptionalText column name value := by
  cases value <;> simp only [optionalTextAt, there, readOptionalText]

theorem textAt_eq {columns : List Value} {column : Nat} {name : String} {value : Value}
    (there : columns[column]? = some value) : textAt columns column name = readText column name value := by
  simp only [textAt, there]

namespace ArticleRow

structure Reads (row : ArticleRow) (article : Article) : Prop where
  id : (readText 0 "id" row.id.toValue >>= readId) = .ok article.id
  authorId : (readText 1 "author_id" row.authorId.toValue >>= readId) = .ok article.authorId
  title : readText 2 "title" row.title.toValue = .ok article.title
  content : readText 3 "content" row.content.toValue = .ok article.content
  imageUrl : readOptionalText 4 "image_url" row.imageUrl.toValue = .ok article.imageUrl
  category : readText 5 "category" row.category.toValue = .ok article.category
  createdAt : (readText 6 "created_at" row.createdAt.toValue >>= readTime) = .ok article.createdAt
  updatedAt : (readText 7 "updated_at" row.updatedAt.toValue >>= readTime) = .ok article.updatedAt

/-- The texts of an article are those of its row's cells. What comes after the columns of the row is not looked at. -/
theorem readArticle_append_eq (row : ArticleRow) (others : List Value) :
    readArticle (row.columns ++ others) = (do
      let id ← readText 0 "id" row.id.toValue
      let authorId ← readText 1 "author_id" row.authorId.toValue
      let title ← readText 2 "title" row.title.toValue
      let content ← readText 3 "content" row.content.toValue
      let imageUrl ← readOptionalText 4 "image_url" row.imageUrl.toValue
      let category ← readText 5 "category" row.category.toValue
      let createdAt ← readText 6 "created_at" row.createdAt.toValue
      let updatedAt ← readText 7 "updated_at" row.updatedAt.toValue
      let id ← readId id
      let authorId ← readId authorId
      let createdAt ← readTime createdAt
      let updatedAt ← readTime updatedAt
      .ok ⟨id, authorId, title, content, imageUrl, category, createdAt, updatedAt⟩) := by
  have column (n : Nat) {value : Value} (there : row.columns[n]? = some value) :
      (row.columns ++ others)[n]? = some value := by
    obtain ⟨short, _⟩ := List.getElem?_eq_some_iff.mp there
    rw [List.getElem?_append_left short, there]
  rw [readArticle, textAt_eq (column 0 rfl), textAt_eq (column 1 rfl), textAt_eq (column 2 rfl),
    textAt_eq (column 3 rfl), optionalTextAt_eq (column 4 rfl), textAt_eq (column 5 rfl), textAt_eq (column 6 rfl),
    textAt_eq (column 7 rfl)]

theorem readArticle_append {row : ArticleRow} {others : List Value} {article : Article} :
    readArticle (row.columns ++ others) = .ok article ↔ row.Reads article := by
  rw [readArticle_append_eq]
  -- All texts are taken from their columns before the first of them is parsed.
  constructor
  · intro read
    obtain ⟨id, idText, read⟩ := bind_eq_ok.mp read
    obtain ⟨authorId, authorIdText, read⟩ := bind_eq_ok.mp read
    obtain ⟨title, titleText, read⟩ := bind_eq_ok.mp read
    obtain ⟨content, contentText, read⟩ := bind_eq_ok.mp read
    obtain ⟨imageUrl, imageUrlText, read⟩ := bind_eq_ok.mp read
    obtain ⟨category, categoryText, read⟩ := bind_eq_ok.mp read
    obtain ⟨createdAt, createdText, read⟩ := bind_eq_ok.mp read
    obtain ⟨updatedAt, updatedText, read⟩ := bind_eq_ok.mp read
    obtain ⟨_, idRead, read⟩ := bind_eq_ok.mp read
    obtain ⟨_, authorIdRead, read⟩ := bind_eq_ok.mp read
    obtain ⟨_, createdRead, read⟩ := bind_eq_ok.mp read
    obtain ⟨_, updatedRead, last⟩ := bind_eq_ok.mp read
    cases last
    exact ⟨bind_eq_ok.mpr ⟨id, idText, idRead⟩, bind_eq_ok.mpr ⟨authorId, authorIdText, authorIdRead⟩, titleText,
      contentText, imageUrlText, categoryText, bind_eq_ok.mpr ⟨createdAt, createdText, createdRead⟩,
      bind_eq_ok.mpr ⟨updatedAt, updatedText, updatedRead⟩⟩
  · intro reads
    obtain ⟨id, idText, idRead⟩ := bind_eq_ok.mp reads.id
    obtain ⟨authorId, authorIdText, authorIdRead⟩ := bind_eq_ok.mp reads.authorId
    obtain ⟨createdAt, createdText, createdRead⟩ := bind_eq_ok.mp reads.createdAt
    obtain ⟨updatedAt, updatedText, updatedRead⟩ := bind_eq_ok.mp reads.updatedAt
    simp only [idText, authorIdText, reads.title, reads.content, reads.imageUrl, reads.category, createdText,
      updatedText, idRead, authorIdRead, createdRead, updatedRead, Fallible.ok_bind]

theorem readArticle_columns {row : ArticleRow} {article : Article} :
    readArticle row.columns = .ok article ↔ row.Reads article := by
  have whole : readArticle (row.columns ++ []) = .ok article ↔ row.Reads article := readArticle_append
  rwa [List.append_nil] at whole

/-- The name of the author is read from the two columns after those of the article. -/
theorem readBylinedArticle_columnsWith {row : ArticleRow} {author : AuthorRow} {found : BylinedArticle} :
    readBylinedArticle (row.columnsWith author) = .ok found ↔
      ∃ article firstName lastName, row.Reads article ∧
        readText 8 "first_name" author.firstName.toValue = .ok firstName ∧
        readText 9 "last_name" author.lastName.toValue = .ok lastName ∧
        article.withByline (firstName ++ " " ++ lastName) = found := by
  have first : (row.columnsWith author)[8]? = some author.firstName.toValue := rfl
  have last : (row.columnsWith author)[9]? = some author.lastName.toValue := rfl
  simp only [readBylinedArticle, textAt_eq first, textAt_eq last]
  constructor
  · intro read
    obtain ⟨article, articleRead, read⟩ := bind_eq_ok.mp read
    obtain ⟨firstName, firstRead, read⟩ := bind_eq_ok.mp read
    obtain ⟨lastName, lastRead, read⟩ := bind_eq_ok.mp read
    exact ⟨article, firstName, lastName, readArticle_append.mp articleRead, firstRead, lastRead, Except.ok.inj read⟩
  · rintro ⟨article, firstName, lastName, reads, firstRead, lastRead, rfl⟩
    rw [columnsWith, readArticle_append.mpr reads]
    simp only [firstRead, lastRead, Fallible.ok_bind]

theorem reads_ofArticle {article : Article} (created : article.createdAt.Columnar)
    (updated : article.updatedAt.Columnar) : (ofArticle article).Reads article := by
  constructor <;>
    simp only [ofArticle, idCell, timeCell, readText_ofString, readOptionalText_optionalCell, Fallible.ok_bind,
      readId_toText, readTime_toColumn created, readTime_toColumn updated]

/-- A revision replaces cells by texts that can be read. -/
theorem Reads.revise {row : ArticleRow} {article : Article} {revision : Revision} {now : Timestamp}
    (columnar : now.Columnar) (reads : row.Reads article) :
    (row.revise revision now).Reads (article.revise revision now) where
  id := reads.id
  authorId := reads.authorId
  title := readText_ofString ..
  content := readText_ofString ..
  imageUrl := readOptionalText_optionalCell ..
  category := readText_ofString ..
  createdAt := reads.createdAt
  updatedAt := by
    simp only [ArticleRow.revise, timeCell, readText_ofString, Fallible.ok_bind, readTime_toColumn columnar]
    rfl

theorem Reads.id_eq {row : ArticleRow} {article : Article} {id : Uuid} (reads : row.Reads article)
    (key : row.id = idCell id) : article.id = id := by
  have read := reads.id
  rw [key, idCell, readText_ofString, Fallible.ok_bind, readId_toText] at read
  exact (Except.ok.inj read).symm

theorem leapEndsMinute_of_readTime {text : String} {moment : Timestamp} (read : readTime text = .ok moment) :
    moment.LeapEndsMinute := by
  rw [readTime] at read
  cases parsed : Timestamp.parseStrict text with
  | error cause =>
    rw [parsed] at read
    cases read
  | ok t =>
    rw [parsed] at read
    cases read
    exact Timestamp.leapEndsMinute_of_parseStrict parsed

theorem Reads.leapsEndMinutes {row : ArticleRow} {article : Article} (reads : row.Reads article) :
    article.LeapsEndMinutes := by
  obtain ⟨_, _, createdRead⟩ := bind_eq_ok.mp reads.createdAt
  obtain ⟨_, _, updatedRead⟩ := bind_eq_ok.mp reads.updatedAt
  exact ⟨leapEndsMinute_of_readTime createdRead, leapEndsMinute_of_readTime updatedRead⟩

theorem ofArticle_revise (article : Article) (revision : Revision) (now : Timestamp) :
    ofArticle (article.revise revision now) = (ofArticle article).revise revision now := rfl

/-- Articles of moments that a column keeps are in the order of their rows. -/
theorem compare_ofArticle {left right : Article} (columnar : left.createdAt.Columnar)
    (alsoColumnar : right.createdAt.Columnar) : (ofArticle left).compare (ofArticle right) = left.compare right := by
  simp only [ArticleRow.compare, Article.compare, ofArticle, timeCell, idCell, Cell.compare_ofString,
    Timestamp.compare_encode_toColumn columnar alsoColumnar, Uuid.compare_encode_toText]

end ArticleRow

end Gazette.Database
