import Gazette.Proofs.Store.Mirror

/-!
# What a failure leaves in a database

* `ArticleRow.Legible`: what a revision leaves of a row can be read.
* `update_of_illegible`: an update that cannot read the row that it has revised fails, though the row is changed.
* `unchanged_or_illegible`: whatever else fails leaves the tables as they were.
-/

namespace Gazette.Database

/-! ## Rows that can be read -/

namespace ArticleRow

/-- The cells that a revision leaves as they are can be read, but for the identifier by which the row is found. -/
structure Legible (row : ArticleRow) : Prop where
  authorId : ∃ id, (readText 1 "author_id" row.authorId.toValue >>= readId) = .ok id
  createdAt : ∃ moment, (readText 6 "created_at" row.createdAt.toValue >>= readTime) = .ok moment

/-- A revised row can be read exactly if the cells that have stayed and its stamp can. -/
theorem exists_article_iff_legible {row : ArticleRow} {id : Uuid} {revision : Revision} {now : Timestamp}
    (key : row.id = idCell id) : (∃ article, readArticle (row.revise revision now).columns = .ok article) ↔
      row.Legible ∧ ∃ moment, readTime now.toColumn = .ok moment := by
  have stamp : (readText 7 "updated_at" (row.revise revision now).updatedAt.toValue >>= readTime)
      = readTime now.toColumn := by
    rw [revise, timeCell, readText_ofString, Fallible.ok_bind]
  simp only [readArticle_columns]
  constructor
  · rintro ⟨article, reads⟩
    exact ⟨⟨⟨_, reads.authorId⟩, ⟨_, reads.createdAt⟩⟩, _, stamp.symm.trans reads.updatedAt⟩
  · rintro ⟨⟨⟨authorId, authorRead⟩, ⟨createdAt, createdRead⟩⟩, updatedAt, stampRead⟩
    refine ⟨⟨id, authorId, revision.title, revision.content, revision.imageUrl, revision.category, createdAt,
      updatedAt⟩, ?_⟩
    exact {
      id := by simp only [revise, key, idCell, readText_ofString, Fallible.ok_bind, readId_toText]
      authorId := authorRead
      title := readText_ofString ..
      content := readText_ofString ..
      imageUrl := readOptionalText_optionalCell ..
      category := readText_ofString ..
      createdAt := createdRead
      updatedAt := stamp.trans stampRead }

end ArticleRow

/-! ## Tables -/

namespace Tables

variable {tables : Tables} {world : Surroundings} {revision : Revision} {rows : List ArticleRow} {now : Timestamp}

/-- The update finds a row that cannot be read when it has been revised. -/
structure Illegible (tables : Tables) (world : Surroundings) (revision : Revision) (rows : List ArticleRow)
    (now : Timestamp) : Prop where
  articles : tables.articles = some rows
  clock : world.clock.timestamp = .ok now
  found : ∃ row, rows.find? (isOf revision.id) = some row ∧
    ¬ (row.Legible ∧ ∃ moment, readTime now.toColumn = .ok moment)

/-- The error comes when the row has been changed. -/
theorem update_of_illegible (illegible : tables.Illegible world revision rows now) : ∃ error,
    tables.update world revision =
      (.ok (.error error), { tables with articles := some (rows.map (revised revision now)) }) := by
  obtain ⟨articles, clock, row, there, notRead⟩ := illegible
  obtain ⟨changed, answer⟩ : (tables.update world revision).2 = _ ∧ (tables.update world revision).1 = _ :=
    update_eq articles clock
  rw [there, Option.map_some] at answer
  cases read : readArticle (row.revise revision now).columns with
  | ok article =>
    have key : row.id = idCell revision.id := isOf_iff.mp (List.find?_some there)
    exact absurd ((ArticleRow.exists_article_iff_legible key).mp ⟨article, read⟩) notRead
  | error cause =>
    simp only [read] at answer
    exact ⟨_, Prod.ext answer changed⟩

theorem unchanged_addAuthor {author : Author} (failed : (tables.addAuthor author).1 ≠ .ok ()) :
    (tables.addAuthor author).2 = tables := by
  rw [addAuthor] at failed ⊢
  cases inserted : tables.insertAuthor (.ofAuthor author) with
  | ok after =>
    rw [inserted] at failed
    exact absurd rfl failed
  | error error => rfl

theorem unchanged_insert {draft : Draft} (failed : ∀ article, (tables.insert world draft).1 ≠ .ok (.ok article)) :
    (tables.insert world draft).2 = tables := by
  rw [insert] at failed ⊢
  cases clock : world.clock.timestamp with
  | error crash => rfl
  | ok now =>
    simp only [clock] at failed
    simp only
    cases inserted : tables.insertArticle (.ofArticle (draft.toArticle (.random world.random) now)) with
    | ok after =>
      rw [inserted] at failed
      exact absurd rfl (failed _)
    | error error => rfl

theorem unchanged_delete {id : Uuid} (failed : ∀ count, (tables.delete id).1 ≠ .ok count) :
    (tables.delete id).2 = tables := by
  rw [delete] at failed ⊢
  cases deleted : tables.deleteArticle id with
  | ok result =>
    rw [deleted] at failed
    exact absurd rfl (failed _)
  | error error => rfl

theorem unchanged_or_illegible_update (failed : ∀ answer, (tables.update world revision).1 ≠ .ok (.ok answer)) :
    (tables.update world revision).2 = tables ∨ ∃ rows now, tables.Illegible world revision rows now ∧
      (tables.update world revision).2 = { tables with articles := some (rows.map (revised revision now)) } := by
  cases articles : tables.articles with
  | none => exact .inl (update_without_articles articles).1
  | some rows =>
    cases clock : world.clock.timestamp with
    | error crash => exact .inl (by rw [update, clock])
    | ok now =>
      obtain ⟨changed, answer⟩ : (tables.update world revision).2 = _ ∧ (tables.update world revision).1 = _ :=
        update_eq articles clock
      cases there : rows.find? (isOf revision.id) with
      | none =>
        rw [there] at answer
        exact absurd answer (failed none)
      | some row =>
        rw [there, Option.map_some] at answer
        refine .inr ⟨rows, now, ⟨articles, clock, row, there, ?_⟩, changed⟩
        -- Had the row been read it would have been the answer.
        intro legible
        have key : row.id = idCell revision.id := isOf_iff.mp (List.find?_some there)
        obtain ⟨article, read⟩ : ∃ article, readArticle (row.revise revision now).columns = .ok article :=
          (ArticleRow.exists_article_iff_legible key).mpr legible
        simp only [read] at answer
        exact failed (some article) answer

/-- What fails leaves the tables as they were, unless it is an update that cannot read what it has changed. -/
theorem unchanged_or_illegible {demand : Demand}
    (failed : ∀ answer, (StoreKind.meet .database world tables demand).1 ≠ .ok (.ok answer)) :
    (StoreKind.meet .database world tables demand).2 = tables ∨
      ∃ revision rows now, demand = .request (.update revision) ∧ tables.Illegible world revision rows now ∧
        (StoreKind.meet .database world tables demand).2 =
          { tables with articles := some (rows.map (revised revision now)) } := by
  -- Reading changes nothing. An addition or deletion that fails has not been carried out.
  match demand with
  | .addAuthor author =>
    refine .inl (unchanged_addAuthor ?_)
    intro added
    exact failed () (congrArg Except.ok added)
  | .request (.insert draft) => exact .inl (unchanged_insert failed)
  | .request (.update revision) =>
    rcases unchanged_or_illegible_update failed with same | ⟨rows, now, illegible, changed⟩
    · exact .inl same
    · exact .inr ⟨revision, rows, now, rfl, illegible, changed⟩
  | .request (.delete id) =>
    refine .inl (unchanged_delete ?_)
    intro count deleted
    exact failed count (congrArg Except.ok deleted)
  | .request (.get id) => exact .inl rfl
  | .request .count => exact .inl rfl
  | .request (.list offset limit) => exact .inl rfl
  | .request (.countByTitle needle) => exact .inl rfl
  | .request (.search needle offset limit) => exact .inl rfl

def smudged : ArticleRow := ⟨idCell ⟨7⟩, idCell ⟨1⟩, .ofString "Notes", .ofString "On the engine", .null,
  .ofString "science", .ofString "yesterday", .ofString "2024-06-15T10:30:00.000000Z"⟩

def aSmudge : Tables := ⟨some [.ofAuthor ⟨⟨1⟩, "Ada", "Lovelace"⟩], some [smudged]⟩

def aCorrection : Revision := ⟨⟨7⟩, "Notes", "Corrected", none, "science"⟩

/-- 2024-06-15T10:30:00Z. -/
def oneMorning : Surroundings := ⟨⟨1718447400000000000⟩, 8⟩

theorem meet_aSmudge : ∃ now error, StoreKind.meet .database oneMorning aSmudge (.request (.update aCorrection)) =
    (.ok (.error error), { aSmudge with articles := some [smudged.revise aCorrection now] }) := by
  have inRange : oneMorning.clock.InRange := by decide
  obtain ⟨now, clock, _⟩ := inRange.timestamp_eq_ok
  have meant : isOf aCorrection.id smudged = true := isOf_iff.mpr rfl
  have illegible : aSmudge.Illegible oneMorning aCorrection [smudged] now := by
    refine ⟨rfl, clock, smudged, List.find?_cons_of_pos meant, ?_⟩
    rintro ⟨⟨_, moment, read⟩, _⟩
    have unread : readTime "yesterday" = .error _ := rfl
    rw [smudged, readText_ofString, Fallible.ok_bind, unread] at read
    cases read
  obtain ⟨error, updated⟩ := update_of_illegible illegible
  rw [List.map_singleton, revised, if_pos meant] at updated
  exact ⟨now, error, updated⟩

/-- The article is changed, and the answer is an error. -/
theorem changed_aSmudge :
    (∃ error, (StoreKind.meet .database oneMorning aSmudge (.request (.update aCorrection))).1 = .ok (.error error)) ∧
      (StoreKind.meet .database oneMorning aSmudge (.request (.update aCorrection))).2 ≠ aSmudge := by
  obtain ⟨now, error, met⟩ := meet_aSmudge
  rw [met]
  refine ⟨⟨error, rfl⟩, ?_⟩
  intro same
  have articles : some [smudged.revise aCorrection now] = some [smudged] := congrArg Tables.articles same
  rw [Option.some_inj, List.singleton_inj] at articles
  have content : Cell.ofString "Corrected" = Cell.ofString "On the engine" := congrArg ArticleRow.content articles
  exact absurd (Cell.ofString_inj.mp content) (by decide)

theorem unchanged_or_illegible_aSmudge :
    (∀ answer, (StoreKind.meet .database oneMorning aSmudge (.request (.update aCorrection))).1 ≠ .ok (.ok answer)) ∧
      ((StoreKind.meet .database oneMorning aSmudge (.request (.update aCorrection))).2 = aSmudge ∨
        ∃ revision rows now, Demand.request (.update aCorrection) = .request (.update revision) ∧
          aSmudge.Illegible oneMorning revision rows now ∧
          (StoreKind.meet .database oneMorning aSmudge (.request (.update aCorrection))).2 =
            { aSmudge with articles := some (rows.map (revised revision now)) }) := by
  obtain ⟨now, error, met⟩ := meet_aSmudge
  have failed : ∀ answer,
      (StoreKind.meet .database oneMorning aSmudge (.request (.update aCorrection))).1 ≠ .ok (.ok answer) := by
    intro answer answered
    rw [met] at answered
    cases answered
  exact ⟨failed, unchanged_or_illegible failed⟩

end Tables

end Gazette.Database
