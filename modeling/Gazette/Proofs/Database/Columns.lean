import Gazette.Proofs.Database.Row

/-!
# Columns that cannot be read

* `Value.Fits`: a column may hold the value. `Value.Reports`: what is reported if it does not.
* `readArticle_eq`: the texts of all columns are fetched before any of them is understood.
* `Legible`: an article with its byline can be read from columns.
* `read_or_malformed`: what is not legible is reported as malformed, and of values that do not fit the first one is.
-/

namespace Gazette.Database

open Fallible (bind_eq_ok bind_eq_error mapError_eq_ok)

/-! ## Values and columns -/

def columnNames : List String :=
  ["id", "author_id", "title", "content", "image_url", "category", "created_at", "updated_at", "first_name",
    "last_name"]

def columnName (column : Nat) : String := columnNames.getD column ""

namespace Value

/-- Columns hold UTF-8 text. The one of the image may hold nothing. -/
def Fits (column : Nat) (value : Value) : Prop := (∃ text, value = .text (Utf8.encode text)) ∨ column = 4 ∧ value = .null

/-- A value of the wrong kind is reported with its kind, and text that is not UTF-8 with where it stops being text. -/
inductive Reports (column : Nat) : Value → DatabaseError → Prop
  | kind {value : Value} (noText : ∀ octets, value ≠ .text octets) :
    Reports column value (.wrongKind value.kind column (columnName column))
  | encoding {octets : Bytes} {fault : Utf8.Fault} (notUtf8 : Utf8.decode octets = .error fault) :
    Reports column (.text octets) (.malformed column fault.message)

def Spells {ε α : Type} (read : String → Except ε α) (value : Value) : Prop :=
  ∃ text a, value = .text (Utf8.encode text) ∧ read text = .ok a

end Value

theorem readText_eq_ok {column : Nat} {name text : String} {value : Value} :
    readText column name value = .ok text ↔ value = .text (Utf8.encode text) := by
  cases value with
  | text octets =>
    rw [Value.text.injEq, ← Utf8.decode_eq_ok, readText]
    cases Utf8.decode octets <;> simp
  | null | integer _ | real _ _ | blob _ =>
    constructor
    · intro read
      cases read
    · intro same
      cases same

theorem reports_of_readText {column : Nat} {value : Value} {error : DatabaseError}
    (failed : readText column (columnName column) value = .error error) : value.Reports column error := by
  cases value with
  | text octets =>
    rw [readText] at failed
    cases decoded : Utf8.decode octets with
    | ok text =>
      rw [decoded] at failed
      cases failed
    | error fault =>
      rw [decoded] at failed
      cases failed
      exact .encoding decoded
  | null | integer _ | real _ _ | blob _ =>
    cases failed
    refine .kind ?_
    intro octets same
    cases same

/-! ## Fetching -/

def fetch (columns : List Value) (column : Nat) : Except DatabaseError (Option String) :=
  if column = 4 then optionalTextAt columns column (columnName column)
  else (textAt columns column (columnName column)).map some

theorem exists_fetch_of_fits {columns : List Value} {column : Nat} {value : Value}
    (there : columns[column]? = some value) (fits : value.Fits column) : ∃ text, fetch columns column = .ok text := by
  rw [fetch, textAt_eq there, optionalTextAt_eq there]
  rcases fits with ⟨text, rfl⟩ | ⟨rfl, rfl⟩
  · have read : readText column (columnName column) (.text (Utf8.encode text)) = .ok text := readText_eq_ok.mpr rfl
    refine ⟨some text, ?_⟩
    simp only [readOptionalText, read, Fallible.map_ok, ite_self]
  · exact ⟨none, rfl⟩

/-- A value that does not fit is reported. -/
theorem exists_reports_of_fetch {columns : List Value} {column : Nat} {value : Value}
    (there : columns[column]? = some value) (unfit : ¬value.Fits column) :
    ∃ error, value.Reports column error ∧ fetch columns column = .error error := by
  cases read : readText column (columnName column) value with
  | ok text => exact absurd (.inl ⟨text, readText_eq_ok.mp read⟩) unfit
  | error error =>
    refine ⟨error, reports_of_readText read, ?_⟩
    rw [fetch, textAt_eq there, optionalTextAt_eq there, read]
    split
    · rename_i image
      cases value with
      | null => exact absurd (.inr ⟨image, rfl⟩) unfit
      | integer _ | real _ _ | text _ | blob _ => simp only [readOptionalText, read, Fallible.map_error]
    · rfl

def understand (texts : List (Option String)) : Except DatabaseError Article := do
  let text (column : Nat) : String := (texts.getD column none).getD ""
  let id ← readId (text 0)
  let authorId ← readId (text 1)
  let createdAt ← readTime (text 6)
  let updatedAt ← readTime (text 7)
  .ok ⟨id, authorId, text 2, text 3, texts.getD 4 none, text 5, createdAt, updatedAt⟩

/-- The texts of all columns are fetched before any of them is understood. -/
theorem readArticle_eq (columns : List Value) :
    readArticle columns = (List.range 8).mapM (fetch columns) >>= understand := by
  simp [readArticle, List.range, List.range.loop, fetch, columnName, columnNames, understand, Fallible.map_bind]

/-- Of steps that are taken one after another the first that fails decides. -/
theorem mapM_range_eq_error {ε α : Type} {step : Nat → Except ε α} {count n : Nat} {error : ε} (inRange : n < count)
    (before : ∀ m < n, ∃ a, step m = .ok a) (failed : step n = .error error) :
    (List.range count).mapM step = .error error := by
  have upTo (m : Nat) (le : m ≤ n) : ∃ results, (List.range m).mapM step = .ok results := by
    induction m with
    | zero => exact ⟨[], rfl⟩
    | succ m inductionHypothesis =>
      obtain ⟨results, earlier⟩ := inductionHypothesis (Nat.le_of_succ_le le)
      obtain ⟨result, done⟩ := before m le
      rw [List.range_succ, List.mapM_append, earlier, List.mapM_cons, done]
      exact ⟨results ++ [result], rfl⟩
  obtain ⟨results, earlier⟩ := upTo n (Nat.le_refl n)
  obtain ⟨more, rfl⟩ := Nat.exists_eq_add_of_lt inRange
  rw [Nat.add_assoc, List.range_add, List.mapM_append, earlier, List.range_succ_eq_map, List.map_cons, List.mapM_cons,
    Nat.add_zero, failed]
  rfl

/-- Of the values that do not fit the columns of an article the first is reported, whatever the texts of others write. -/
theorem exists_reports_of_unfit {columns : List Value} {column : Nat} {value : Value} (ofArticle : column < 8)
    (there : columns[column]? = some value) (unfit : ¬value.Fits column)
    (before : ∀ earlier < column, ∃ other, columns[earlier]? = some other ∧ other.Fits earlier) :
    ∃ error, value.Reports column error ∧ readArticle columns = .error error := by
  obtain ⟨error, reports, failed⟩ := exists_reports_of_fetch there unfit
  have fetched (earlier : Nat) (less : earlier < column) : ∃ text, fetch columns earlier = .ok text := by
    obtain ⟨other, otherThere, fits⟩ := before earlier less
    exact exists_fetch_of_fits otherThere fits
  refine ⟨error, reports, ?_⟩
  rw [readArticle_eq, mapM_range_eq_error ofArticle fetched failed, Fallible.error_bind]

/-! ## What is malformed -/

namespace DatabaseError

/-- The value in a column is of the wrong kind, or is text that cannot be read. -/
inductive IsMalformed : DatabaseError → Prop
  | text (column : Nat) (cause : String) : IsMalformed (.malformed column cause)
  | kind (kind : String) (column : Nat) (name : String) : IsMalformed (.wrongKind kind column name)

theorem IsMalformed.exists_reason {error : DatabaseError} (malformed : error.IsMalformed) (entity : String)
    (id : Option String) : ∃ reason, error.toStoreError entity id = .invalidData reason := by
  cases malformed with
  | text column cause => exact ⟨_, rfl⟩
  | kind kind column name => exact ⟨_, rfl⟩

end DatabaseError

theorem Value.Reports.isMalformed {column : Nat} {value : Value} {error : DatabaseError}
    (reports : value.Reports column error) : error.IsMalformed := by
  cases reports with
  | kind noText => exact .kind ..
  | encoding notUtf8 => exact .text ..

theorem isMalformed_of_mapError {ε α : Type} {read : Except ε α} {column : Nat} {message : ε → String}
    {error : DatabaseError}
    (failed : read.mapError (fun cause => DatabaseError.malformed column (message cause)) = .error error) :
    error.IsMalformed := by
  cases read with
  | ok a => cases failed
  | error cause =>
    cases failed
    exact .text ..

theorem isMalformed_of_understand {texts : List (Option String)} {error : DatabaseError}
    (failed : understand texts = .error error) : error.IsMalformed := by
  rcases bind_eq_error.mp failed with id | ⟨_, _, failed⟩
  · exact isMalformed_of_mapError id
  rcases bind_eq_error.mp failed with authorId | ⟨_, _, failed⟩
  · exact isMalformed_of_mapError authorId
  rcases bind_eq_error.mp failed with created | ⟨_, _, failed⟩
  · exact isMalformed_of_mapError created
  rcases bind_eq_error.mp failed with updated | ⟨_, _, last⟩
  · exact isMalformed_of_mapError updated
  · cases last

theorem isMalformed_of_fetch {columns : List Value} {column : Nat} {error : DatabaseError}
    (within : column < columns.length) (failed : fetch columns column = .error error) : error.IsMalformed := by
  have there := List.getElem?_eq_getElem within
  by_cases fits : columns[column].Fits column
  · obtain ⟨text, fetched⟩ := exists_fetch_of_fits there fits
    cases fetched.symm.trans failed
  · obtain ⟨other, reports, alsoFailed⟩ := exists_reports_of_fetch there fits
    cases alsoFailed.symm.trans failed
    exact reports.isMalformed

theorem exists_of_mapM_eq_error {ε α β : Type} {step : α → Except ε β} {items : List α} {error : ε}
    (failed : items.mapM step = .error error) : ∃ item ∈ items, step item = .error error := by
  induction items with
  | nil => cases failed
  | cons item items inductionHypothesis =>
    rw [List.mapM_cons] at failed
    rcases bind_eq_error.mp failed with first | ⟨_, _, failed⟩
    · exact ⟨item, List.mem_cons_self, first⟩
    rcases bind_eq_error.mp failed with later | ⟨_, _, last⟩
    · obtain ⟨other, there, same⟩ := inductionHypothesis later
      exact ⟨other, List.mem_cons_of_mem item there, same⟩
    · cases last

/-- Of enough columns nothing but malformed values is reported. -/
theorem isMalformed_of_readBylinedArticle {columns : List Value} (enough : 10 ≤ columns.length) {error : DatabaseError}
    (failed : readBylinedArticle columns = .error error) : error.IsMalformed := by
  have ofName (column : Nat) (within : column < columns.length)
      (failed : textAt columns column (columnName column) = .error error) : error.IsMalformed := by
    rw [textAt_eq (List.getElem?_eq_getElem within)] at failed
    exact (reports_of_readText failed).isMalformed
  rcases bind_eq_error.mp failed with ofArticle | ⟨_, _, failed⟩
  · rw [readArticle_eq] at ofArticle
    rcases bind_eq_error.mp ofArticle with fetched | ⟨_, _, understood⟩
    · obtain ⟨column, there, failed⟩ := exists_of_mapM_eq_error fetched
      have few := List.mem_range.mp there
      exact isMalformed_of_fetch (by omega) failed
    · exact isMalformed_of_understand understood
  rcases bind_eq_error.mp failed with first | ⟨_, _, failed⟩
  · exact ofName 8 (by omega) first
  rcases bind_eq_error.mp failed with last | ⟨_, _, done⟩
  · exact ofName 9 (by omega) last
  · cases done

/-! ## What is legible -/

def Holds (columns : List Value) (column : Nat) (holds : Value → Prop) : Prop :=
  ∃ value, columns[column]? = some value ∧ holds value

/-- All columns hold values that fit, and the first two and the times of creation and of the last change write
identifiers and moments. -/
structure Legible (columns : List Value) : Prop where
  fits : ∀ column < 10, Holds columns column (Value.Fits column)
  ids : ∀ column ∈ [0, 1], Holds columns column (Value.Spells Uuid.parse)
  times : ∀ column ∈ [6, 7], Holds columns column (Value.Spells Timestamp.parseStrict)

theorem textAt_eq_ok {columns : List Value} {column : Nat} {name text : String} :
    textAt columns column name = .ok text ↔ columns[column]? = some (.text (Utf8.encode text)) := by
  rw [textAt]
  split
  · rename_i absent
    simp [absent]
  · rename_i value there
    rw [there, readText_eq_ok, Option.some_inj]

theorem exists_fetch_iff {columns : List Value} {column : Nat} :
    (∃ text, fetch columns column = .ok text) ↔ Holds columns column (Value.Fits column) := by
  constructor
  · rintro ⟨text, fetched⟩
    cases there : columns[column]? with
    | none =>
      simp only [fetch, textAt, optionalTextAt, there, Fallible.map_error, ite_self] at fetched
      cases fetched
    | some value =>
      refine ⟨value, there, Classical.byContradiction fun unfit => ?_⟩
      obtain ⟨error, _, failed⟩ := exists_reports_of_fetch there unfit
      cases fetched.symm.trans failed
  · rintro ⟨value, there, fits⟩
    exact exists_fetch_of_fits there fits

theorem legible_of_readBylinedArticle {columns : List Value} {found : BylinedArticle}
    (read : readBylinedArticle columns = .ok found) : Legible columns := by
  -- All ten cells are fetched, and then the four texts that stand for something else are understood.
  obtain ⟨article, ofArticle, read⟩ := bind_eq_ok.mp read
  obtain ⟨firstName, firstNameText, read⟩ := bind_eq_ok.mp read
  obtain ⟨lastName, lastNameText, _⟩ := bind_eq_ok.mp read
  obtain ⟨id, idText, read⟩ := bind_eq_ok.mp ofArticle
  obtain ⟨authorId, authorIdText, read⟩ := bind_eq_ok.mp read
  obtain ⟨title, titleText, read⟩ := bind_eq_ok.mp read
  obtain ⟨content, contentText, read⟩ := bind_eq_ok.mp read
  obtain ⟨imageUrl, imageUrlText, read⟩ := bind_eq_ok.mp read
  obtain ⟨category, categoryText, read⟩ := bind_eq_ok.mp read
  obtain ⟨createdAt, createdText, read⟩ := bind_eq_ok.mp read
  obtain ⟨updatedAt, updatedText, read⟩ := bind_eq_ok.mp read
  obtain ⟨_, idRead, read⟩ := bind_eq_ok.mp read
  obtain ⟨_, authorIdRead, read⟩ := bind_eq_ok.mp read
  obtain ⟨_, createdRead, read⟩ := bind_eq_ok.mp read
  obtain ⟨_, updatedRead, _⟩ := bind_eq_ok.mp read
  have fits {column : Nat} {name text : String} (read : textAt columns column name = .ok text) :
      Holds columns column (Value.Fits column) := ⟨_, textAt_eq_ok.mp read, .inl ⟨text, rfl⟩⟩
  have spells {column : Nat} {name text : String} {ε α : Type} {parse : String → Except ε α} {a : α}
      (read : textAt columns column name = .ok text) (parsed : parse text = .ok a) :
      Holds columns column (Value.Spells parse) := ⟨_, textAt_eq_ok.mp read, text, a, rfl, parsed⟩
  constructor
  · intro column few
    match column with
    | 0 => exact fits idText
    | 1 => exact fits authorIdText
    | 2 => exact fits titleText
    | 3 => exact fits contentText
    | 4 => exact exists_fetch_iff.mp ⟨imageUrl, imageUrlText⟩
    | 5 => exact fits categoryText
    | 6 => exact fits createdText
    | 7 => exact fits updatedText
    | 8 => exact fits firstNameText
    | 9 => exact fits lastNameText
  · simp only [List.forall_mem_cons]
    exact ⟨spells idText (mapError_eq_ok.mp idRead), spells authorIdText (mapError_eq_ok.mp authorIdRead), nofun⟩
  · simp only [List.forall_mem_cons]
    exact ⟨spells createdText (mapError_eq_ok.mp createdRead), spells updatedText (mapError_eq_ok.mp updatedRead),
      nofun⟩

theorem Legible.exists_article {columns : List Value} (legible : Legible columns) :
    ∃ article, readBylinedArticle columns = .ok article := by
  have text (column : Nat) (name : String) (few : column < 10) (notImage : column ≠ 4) :
      ∃ text, textAt columns column name = .ok text := by
    obtain ⟨value, there, ⟨text, rfl⟩ | ⟨image, _⟩⟩ := legible.fits column few
    · exact ⟨text, textAt_eq_ok.mpr there⟩
    · exact absurd image notImage
  have spelled {ε α : Type} {parse : String → Except ε α} {column : Nat} (name : String)
      (holds : Holds columns column (Value.Spells parse)) :
      ∃ text a, textAt columns column name = .ok text ∧ parse text = .ok a := by
    obtain ⟨_, there, text, a, rfl, parsed⟩ := holds
    exact ⟨text, a, textAt_eq_ok.mpr there, parsed⟩
  -- Each cell in turn gives what reading goes on with.
  obtain ⟨idText, id, idThere, idParsed⟩ := spelled "id" (legible.ids 0 (by decide))
  obtain ⟨authorIdText, authorId, authorIdThere, authorIdParsed⟩ := spelled "author_id" (legible.ids 1 (by decide))
  obtain ⟨title, titleThere⟩ := text 2 "title" (by decide) (by decide)
  obtain ⟨content, contentThere⟩ := text 3 "content" (by decide) (by decide)
  obtain ⟨imageUrl, imageUrlThere⟩ : ∃ url, optionalTextAt columns 4 "image_url" = .ok url :=
    exists_fetch_iff.mpr (legible.fits 4 (by decide))
  obtain ⟨category, categoryThere⟩ := text 5 "category" (by decide) (by decide)
  obtain ⟨createdText, createdAt, createdThere, createdParsed⟩ := spelled "created_at" (legible.times 6 (by decide))
  obtain ⟨updatedText, updatedAt, updatedThere, updatedParsed⟩ := spelled "updated_at" (legible.times 7 (by decide))
  obtain ⟨firstName, firstNameThere⟩ := text 8 "first_name" (by decide) (by decide)
  obtain ⟨lastName, lastNameThere⟩ := text 9 "last_name" (by decide) (by decide)
  obtain ⟨article, ofArticle⟩ : ∃ article, readArticle columns = .ok article := by
    refine ⟨⟨id, authorId, title, content, imageUrl, category, createdAt, updatedAt⟩, ?_⟩
    simp only [readArticle, idThere, authorIdThere, titleThere, contentThere, imageUrlThere, categoryThere, createdThere,
      updatedThere, readId, readTime, idParsed, authorIdParsed, createdParsed, updatedParsed, Fallible.ok_bind,
      Fallible.mapError_ok]
  refine ⟨article.withByline (firstName ++ " " ++ lastName), ?_⟩
  simp only [readBylinedArticle, ofArticle, firstNameThere, lastNameThere, Fallible.ok_bind]

/-! ## What is read or reported -/

/-- From enough columns an article is read, or one of them is reported as malformed, whatever entity they are read for.
It is read just if they are legible. Of values that do not fit the columns of the article itself the first is reported,
whatever is written in the others. -/
theorem read_or_malformed (entity : String) (id : Option String) {columns : List Value} (enough : 10 ≤ columns.length) :
    ((∃ article, readBylinedArticle columns = .ok article) ∨ ∃ error reason,
        readBylinedArticle columns = .error error ∧ error.toStoreError entity id = .invalidData reason) ∧
      ((∃ article, readBylinedArticle columns = .ok article) ↔ Legible columns) ∧
      ∀ column < 8, (∀ earlier < column, Holds columns earlier (Value.Fits earlier)) →
        ∀ value, columns[column]? = some value → ¬value.Fits column →
          ∃ error, value.Reports column error ∧ readBylinedArticle columns = .error error := by
  refine ⟨?_, ⟨fun ⟨_, read⟩ => legible_of_readBylinedArticle read, Legible.exists_article⟩, ?_⟩
  · cases read : readBylinedArticle columns with
    | ok article => exact .inl ⟨article, rfl⟩
    | error error =>
      obtain ⟨reason, invalid⟩ := (isMalformed_of_readBylinedArticle enough read).exists_reason entity id
      exact .inr ⟨error, reason, rfl, invalid⟩
  · intro column ofArticle before value there unfit
    obtain ⟨error, reports, failed⟩ := exists_reports_of_unfit ofArticle there unfit before
    refine ⟨error, reports, ?_⟩
    rw [readBylinedArticle, failed, Fallible.error_bind]

/-- The identifiers and the time of creation write nothing, and there are octets instead of the time of the last change. -/
def aSmearedRow : List Value :=
  ["seven", "Ada", "Notes", "On the engine", "notes.png", "science", "yesterday"].map (.text ∘ Utf8.encode)
    ++ .blob [0xFF] :: ["Ada", "Lovelace"].map (.text ∘ Utf8.encode)

/-- Of all that is wrong with the row the octets are reported. -/
theorem read_or_malformed_aSmearedRow :
    10 ≤ aSmearedRow.length ∧ readBylinedArticle aSmearedRow = .error (.wrongKind "Blob" 7 "updated_at") ∧
      ¬∃ article, readBylinedArticle aSmearedRow = .ok article := by
  have enough : 10 ≤ aSmearedRow.length := by decide
  have before : ∀ earlier < 7, Holds aSmearedRow earlier (Value.Fits earlier) := by
    intro earlier less
    match earlier with
    | 0 | 1 | 2 | 3 | 4 | 5 | 6 => exact ⟨_, rfl, .inl ⟨_, rfl⟩⟩
  have unfit : ¬(Value.blob [0xFF]).Fits 7 := by
    rintro (⟨_, same⟩ | ⟨image, _⟩)
    · cases same
    · cases image
  obtain ⟨error, reports, failed⟩ :=
    (read_or_malformed "Article" none enough).2.2 7 (by decide) before (.blob [0xFF]) rfl unfit
  cases reports with
  | kind =>
    refine ⟨enough, failed, ?_⟩
    rintro ⟨article, read⟩
    cases failed.symm.trans read

end Gazette.Database
