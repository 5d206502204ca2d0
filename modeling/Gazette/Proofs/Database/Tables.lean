import Gazette.Database.Store
import Gazette.Proofs.Database.Row
import Gazette.Proofs.Store.Lists

/-!
# What requests do to the tables

For each change of `Tables`, what is found in them afterwards, and that no two articles get the same identifier.
-/

namespace Gazette.Database

namespace Tables

variable {tables after : Tables} {id : Uuid} {found : BylinedArticle}

def isOf (id : Uuid) (row : ArticleRow) : Bool := row.id.same (idCell id)

theorem isOf_iff {row : ArticleRow} : isOf id row = true ↔ row.id = idCell id := Cell.same_idCell

def Keyed (tables : Tables) : Prop :=
  (tables.articles.getD []).Pairwise fun left right => left.id.same right.id = false

theorem keyed_create_empty : empty.create.Keyed := List.Pairwise.nil

theorem get_eq {rows : List ArticleRow} {authors : List AuthorRow} (articles : tables.articles = some rows)
    (authorTable : tables.authors = some authors) (id : Uuid) : tables.get id =
      match (rows.find? (isOf id)).bind fun row => (authors.find? fun author => author.id.same row.authorId).bind
        fun author => some (row.columnsWith author) with
      | none => .ok none
      | some columns => (readBylinedArticle columns).map some := by
  obtain ⟨authorRows, articleRows⟩ := tables
  cases articles
  cases authorTable
  rfl

/-- An article is found if its row, and its author's, are there and can be read. -/
theorem get_eq_some : tables.get id = .ok (some found) ↔
    ∃ rows authors row author, tables.articles = some rows ∧ tables.authors = some authors ∧
      rows.find? (isOf id) = some row ∧ authors.find? (fun author => author.id.same row.authorId) = some author ∧
      readBylinedArticle (row.columnsWith author) = .ok found := by
  -- Nothing is found without both tables, the row and its author.
  cases articles : tables.articles with
  | none => simp [get, findBylined, articleRows, articles, bind, Except.bind]
  | some rows =>
    cases authorTable : tables.authors with
    | none => simp [get, findBylined, articleRows, authorRows, articles, authorTable, bind, Except.bind]
    | some authors =>
      rw [get_eq articles authorTable]
      cases rowThere : rows.find? (isOf id) with
      | none => simp [rowThere]
      | some row =>
        rw [Option.bind_some]
        cases authorThere : authors.find? fun author => author.id.same row.authorId with
        | none => simp [rowThere, authorThere]
        | some author =>
          rw [Option.bind_some]
          cases read : readBylinedArticle (row.columnsWith author) <;> simp [rowThere, authorThere, read]

/-- What is found stays where its row and the authors stay. -/
theorem get_of_kept
    (articles : ∀ {rows row}, tables.articles = some rows → rows.find? (isOf id) = some row →
      ∃ others, after.articles = some others ∧ others.find? (isOf id) = some row)
    (authors : ∀ {rows row cell}, tables.authors = some rows →
      rows.find? (fun author => author.id.same cell) = some row →
      ∃ others, after.authors = some others ∧ others.find? (fun author => author.id.same cell) = some row)
    (there : tables.get id = .ok (some found)) : after.get id = .ok (some found) := by
  obtain ⟨rows, authorRows, row, author, articleRows, authorTable, rowThere, authorThere, read⟩ := get_eq_some.mp there
  obtain ⟨rows, articleRows, rowThere⟩ := articles articleRows rowThere
  obtain ⟨authorRows, authorTable, authorThere⟩ := authors authorTable authorThere
  exact get_eq_some.mpr ⟨rows, authorRows, row, author, articleRows, authorTable, rowThere, authorThere, read⟩

theorem id_of_get (there : tables.get id = .ok (some found)) : found.id = id := by
  obtain ⟨_, _, row, _, _, _, rowThere, _, read⟩ := get_eq_some.mp there
  obtain ⟨article, _, _, reads, _, _, rfl⟩ := ArticleRow.readBylinedArticle_columnsWith.mp read
  exact reads.id_eq (isOf_iff.mp (List.find?_some rowThere))

theorem leapsEndMinutes_of_get (there : tables.get id = .ok (some found)) : found.LeapsEndMinutes := by
  obtain ⟨_, _, row, _, _, _, _, _, read⟩ := get_eq_some.mp there
  obtain ⟨article, _, _, reads, _, _, rfl⟩ := ArticleRow.readBylinedArticle_columnsWith.mp read
  exact reads.leapsEndMinutes

/-! ## Authors -/

theorem addAuthor_eq (author : Author) (tables : Tables) : (tables.addAuthor author).2 = tables ∨
    ∃ rows, tables.authors = some rows ∧
      (tables.addAuthor author).2 = { tables with authors := some (rows ++ [.ofAuthor author]) } := by
  simp only [addAuthor, insertAuthor, authorRows]
  cases tables.authors with
  | none => exact .inl rfl
  | some rows =>
    simp only [Fallible.ok_bind]
    split
    · rename_i added
      split at added
      · cases added
      · cases added
        exact .inr ⟨rows, rfl, rfl⟩
    · exact .inl rfl

theorem get_addAuthor {author : Author} (there : tables.get id = .ok (some found)) :
    (tables.addAuthor author).2.get id = .ok (some found) := by
  rcases addAuthor_eq author tables with same | ⟨rows, authors, added⟩
  · rw [same, there]
  · rw [added]
    refine get_of_kept ?_ ?_ there
    · intro rows row articles rowThere
      exact ⟨rows, articles, rowThere⟩
    · intro others row cell table rowThere
      cases authors.symm.trans table
      exact ⟨_, rfl, find?_append_of_some rowThere⟩

theorem keyed_addAuthor {author : Author} (keyed : tables.Keyed) : (tables.addAuthor author).2.Keyed := by
  rcases addAuthor_eq author tables with same | ⟨rows, _, added⟩
  · rw [same]
    exact keyed
  · rw [added]
    exact keyed

/-! ## New articles -/

theorem insert_eq (world : Surroundings) (draft : Draft) (tables : Tables) : (tables.insert world draft).2 = tables ∨
    ∃ rows row, tables.articles = some rows ∧ (rows.any fun other => other.id.same row.id) = false ∧
      (tables.insert world draft).2 = { tables with articles := some (rows ++ [row]) } := by
  simp only [insert]
  cases world.clock.timestamp with
  | error crash => exact .inl rfl
  | ok now =>
    simp only [insertArticle, articleRows]
    cases tables.articles with
    | none => exact .inl rfl
    | some rows =>
      simp only [Fallible.ok_bind, authorRows]
      cases tables.authors with
      | none => exact .inl rfl
      | some authors =>
        simp only [Fallible.ok_bind]
        -- Rows that are taken or have no author are refused.
        by_cases taken : rows.any fun other => other.id.same (idCell (.random world.random))
        · exact .inl (by simp [ArticleRow.ofArticle, Draft.toArticle, taken])
        · by_cases known : authors.any fun author => author.id.same (idCell draft.authorId)
          · refine .inr ⟨rows, .ofArticle (draft.toArticle (.random world.random) now), rfl, ?_, ?_⟩
            · simpa [ArticleRow.ofArticle, Draft.toArticle] using taken
            · simp [ArticleRow.ofArticle, Draft.toArticle, taken, known]
          · exact .inl (by simp [ArticleRow.ofArticle, Draft.toArticle, taken, known])

/-- With both tables there, the identifier is looked at before the author. -/
theorem insert_of_there {world : Surroundings} {rows : List ArticleRow} {authors : List AuthorRow} {now : Timestamp}
    (draft : Draft) (articles : tables.articles = some rows) (authorTable : tables.authors = some authors)
    (readable : world.clock.timestamp = .ok now) : tables.insert world draft =
      if rows.any (isOf (.random world.random)) then
        (.ok (.error (.alreadyExists "Article" (Uuid.random world.random).toText)), tables)
      else if authors.any fun author => author.id.same (idCell draft.authorId) then
        (.ok (.ok (draft.toArticle (.random world.random) now)),
          { tables with articles := some (rows ++ [.ofArticle (draft.toArticle (.random world.random) now)]) })
      else (.ok (.error (.invalidData "Article references an unknown author")), tables) := by
  have statement : tables.insertArticle (.ofArticle (draft.toArticle (.random world.random) now)) =
      if rows.any (isOf (.random world.random)) then
        .error (.failure DatabaseError.duplicateKey "UNIQUE constraint failed: articles.id")
      else if authors.any fun author => author.id.same (idCell draft.authorId) then
        .ok { tables with articles := some (rows ++ [.ofArticle (draft.toArticle (.random world.random) now)]) }
      else .error (.failure DatabaseError.danglingReference "FOREIGN KEY constraint failed") := by
    simp only [insertArticle, articleRows, authorRows, articles, authorTable, Fallible.ok_bind]
    rfl
  simp only [insert, readable, statement]
  -- The errors of the statement are told as those of the store.
  cases rows.any (isOf (.random world.random)) <;>
    cases authors.any (fun author => author.id.same (idCell draft.authorId)) <;> rfl

theorem get_insert {world : Surroundings} {draft : Draft} (there : tables.get id = .ok (some found)) :
    (tables.insert world draft).2.get id = .ok (some found) := by
  rcases insert_eq world draft tables with same | ⟨rows, row, articles, _, added⟩
  · rw [same, there]
  · rw [added]
    refine get_of_kept ?_ ?_ there
    · intro others other table rowThere
      cases articles.symm.trans table
      exact ⟨_, rfl, find?_append_of_some rowThere⟩
    · intro authors author cell table authorThere
      exact ⟨authors, table, authorThere⟩

theorem keyed_insert {world : Surroundings} {draft : Draft} (keyed : tables.Keyed) :
    (tables.insert world draft).2.Keyed := by
  rcases insert_eq world draft tables with same | ⟨rows, row, articles, new, added⟩
  · rw [same]
    exact keyed
  · rw [Keyed, articles] at keyed
    rw [added, Keyed, Option.getD_some, List.pairwise_append]
    refine ⟨keyed, List.pairwise_singleton _ _, ?_⟩
    intro left leftThere right rightThere
    rw [List.mem_singleton] at rightThere
    have none := List.any_eq_false.mp new left leftThere
    simpa [rightThere] using none

/-! ## Revisions -/

def revised (revision : Revision) (now : Timestamp) (row : ArticleRow) : ArticleRow :=
  if isOf revision.id row then row.revise revision now else row

theorem id_revised (revision : Revision) (now : Timestamp) (row : ArticleRow) :
    (revised revision now row).id = row.id := by
  simp only [revised]
  split <;> rfl

theorem find?_map_revised (rows : List ArticleRow) (revision : Revision) (now : Timestamp) (id : Uuid) :
    (rows.map (revised revision now)).find? (isOf id) = (rows.find? (isOf id)).map (revised revision now) := by
  apply find?_map_of_same
  intro row
  rw [isOf, id_revised, isOf]

theorem update_eq {world : Surroundings} {revision : Revision} {rows : List ArticleRow} {now : Timestamp}
    (articles : tables.articles = some rows) (clock : world.clock.timestamp = .ok now) :
    (tables.update world revision).2 = { tables with articles := some (rows.map (revised revision now)) } ∧
      (tables.update world revision).1 = .ok
        (match (rows.find? (isOf revision.id)).map fun row => row.revise revision now with
          | none => .ok none
          | some row => ((readArticle row.columns).map some).mapError (articleError (some revision.id))) := by
  -- The row that is read after the change is the one that was found before it.
  have same : (rows.map (revised revision now)).find? (isOf revision.id)
      = (rows.find? (isOf revision.id)).map fun row => row.revise revision now := by
    rw [find?_map_revised]
    apply Option.map_congr
    intro row there
    rw [revised, if_pos (List.find?_some there)]
  have statement : tables.updateArticle revision now
      = .ok ((rows.map (revised revision now)).find? (isOf revision.id),
        { tables with articles := some (rows.map (revised revision now)) }) := by
    simp only [updateArticle, articleRows, articles]
    rfl
  rw [same] at statement
  simp only [update, clock, statement]
  cases (rows.find? (isOf revision.id)).map fun row => row.revise revision now with
  | none => exact ⟨rfl, rfl⟩
  | some row =>
    simp only
    cases readArticle row.columns with
    | error error => simp
    | ok article => simp

theorem update_without_articles {world : Surroundings} {revision : Revision} (articles : tables.articles = none) :
    (tables.update world revision).2 = tables ∧
      ∀ article, (tables.update world revision).1 ≠ .ok (.ok (some article)) := by
  have statement {now : Timestamp} : tables.updateArticle revision now = .error (missingTable "articles") := by
    simp only [updateArticle, articleRows, articles]
    rfl
  cases stamped : world.clock.timestamp with
  | error crash => simp [update, stamped]
  | ok now => simp [update, stamped, statement]

theorem update_state (world : Surroundings) (revision : Revision) (tables : Tables) :
    (tables.update world revision).2 = tables ∨ ∃ rows now, tables.articles = some rows ∧
      (tables.update world revision).2 = { tables with articles := some (rows.map (revised revision now)) } := by
  cases articles : tables.articles with
  | none => exact .inl (update_without_articles articles).1
  | some rows =>
    cases clock : world.clock.timestamp with
    | error crash => exact .inl (by simp [update, clock])
    | ok now => exact .inr ⟨rows, now, rfl, (update_eq articles clock).1⟩

theorem get_update {world : Surroundings} {revision : Revision} (other : id ≠ revision.id)
    (there : tables.get id = .ok (some found)) : (tables.update world revision).2.get id = .ok (some found) := by
  rcases update_state world revision tables with same | ⟨rows, now, articles, changed⟩
  · rw [same, there]
  · rw [changed]
    refine get_of_kept ?_ ?_ there
    · intro others row table rowThere
      cases articles.symm.trans table
      refine ⟨_, rfl, ?_⟩
      -- The row that was found is not one of those that are revised.
      have apart : isOf revision.id row ≠ true := by
        intro meant
        have key := isOf_iff.mp (List.find?_some rowThere)
        exact other (idCell_inj.mp (key.symm.trans (isOf_iff.mp meant)))
      rw [find?_map_revised, rowThere, Option.map_some, revised, if_neg apart]
    · intro authors author cell table authorThere
      exact ⟨authors, table, authorThere⟩

theorem keyed_update {world : Surroundings} {revision : Revision} (keyed : tables.Keyed) :
    (tables.update world revision).2.Keyed := by
  rcases update_state world revision tables with same | ⟨rows, now, articles, changed⟩
  · rw [same]
    exact keyed
  · rw [Keyed, articles] at keyed
    rw [changed, Keyed, Option.getD_some, List.pairwise_map]
    simp only [id_revised]
    exact keyed

theorem id_of_update {world : Surroundings} {revision : Revision} {article : Article}
    (updated : (tables.update world revision).1 = .ok (.ok (some article))) : article.id = revision.id := by
  cases articles : tables.articles with
  | none => exact absurd updated ((update_without_articles articles).2 article)
  | some rows =>
    cases clock : world.clock.timestamp with
    | error crash => simp [update, clock] at updated
    | ok now =>
      rw [(update_eq articles clock).2] at updated
      cases there : rows.find? (isOf revision.id) with
      | none => simp [there] at updated
      | some row =>
        have found := List.find?_some there
        have key : (row.revise revision now).id = idCell revision.id := isOf_iff.mp found
        cases read : readArticle (row.revise revision now).columns with
        | error error => simp [there, read] at updated
        | ok revisedArticle =>
          obtain rfl : revisedArticle = article := by simpa [there, read] using updated
          exact (ArticleRow.readArticle_columns.mp read).id_eq key

/-- An article that could be read can be read when it is revised. -/
theorem exists_of_update {world : Surroundings} {revision : Revision} (inRange : world.clock.InRange)
    (there : tables.get revision.id = .ok (some found)) :
    ∃ article, (tables.update world revision).1 = .ok (.ok (some article)) := by
  obtain ⟨now, clock, columnar⟩ := inRange.timestamp_eq_ok
  obtain ⟨rows, _, row, _, articles, _, rowThere, _, read⟩ := get_eq_some.mp there
  obtain ⟨article, _, _, reads, _⟩ := ArticleRow.readBylinedArticle_columnsWith.mp read
  refine ⟨article.revise revision now, ?_⟩
  rw [(update_eq articles clock).2, rowThere, Option.map_some]
  simp only [ArticleRow.readArticle_columns.mpr (reads.revise columnar)]
  rfl

/-- An article that could be found is found as it was answered, with the byline that it had. -/
theorem get_of_update {world : Surroundings} {revision : Revision} {article : Article}
    (there : tables.get revision.id = .ok (some found))
    (updated : (tables.update world revision).1 = .ok (.ok (some article))) :
    (tables.update world revision).2.get revision.id = .ok (some (article.withByline found.author)) := by
  obtain ⟨rows, authors, row, author, articles, authorTable, rowThere, authorThere, read⟩ := get_eq_some.mp there
  obtain ⟨old, firstName, lastName, _, firstRead, lastRead, rfl⟩ := ArticleRow.readBylinedArticle_columnsWith.mp read
  cases clock : world.clock.timestamp with
  | error crash => simp [update, clock] at updated
  | ok now =>
    obtain ⟨changed, answer⟩ := update_eq articles clock
    rw [answer, rowThere, Option.map_some] at updated
    -- The answer is what the revised row reads as, and the row is found with the author that it had.
    cases revisedRead : readArticle (row.revise revision now).columns with
    | error error => simp [revisedRead] at updated
    | ok revisedArticle =>
      obtain rfl : revisedArticle = article := by simpa [revisedRead] using updated
      have reads := ArticleRow.readArticle_columns.mp revisedRead
      rw [changed]
      refine get_eq_some.mpr ⟨_, authors, row.revise revision now, author, rfl, authorTable, ?_, authorThere, ?_⟩
      · rw [find?_map_revised, rowThere, Option.map_some, revised, if_pos (List.find?_some rowThere)]
      · exact ArticleRow.readBylinedArticle_columnsWith.mpr
          ⟨revisedArticle, firstName, lastName, reads, firstRead, lastRead, rfl⟩

/-! ## Removals -/

theorem delete_of_there {rows : List ArticleRow} {authors : List AuthorRow} (id : Uuid)
    (articles : tables.articles = some rows) (authorTable : tables.authors = some authors) :
    tables.delete id = (.ok (rows.filter (isOf id)).length.toUInt64,
      { tables with articles := some (rows.filter fun row => !isOf id row) }) := by
  have count : rows.length - (rows.filter fun row => !isOf id row).length = (rows.filter (isOf id)).length :=
    length_sub_length_filter_not
  simp only [isOf] at count ⊢
  simp [delete, deleteArticle, articleRows, authorRows, articles, authorTable, count]

theorem delete_eq (id : Uuid) (tables : Tables) : (tables.delete id).2 = tables ∨
    ∃ rows authors, tables.articles = some rows ∧ tables.authors = some authors ∧
      tables.delete id = (.ok (rows.filter (isOf id)).length.toUInt64,
        { tables with articles := some (rows.filter fun row => !isOf id row) }) := by
  cases articles : tables.articles with
  | none => exact .inl (by simp [delete, deleteArticle, articleRows, articles, bind, Except.bind])
  | some rows =>
    cases authors : tables.authors with
    | none =>
      exact .inl (by simp [delete, deleteArticle, articleRows, authorRows, articles, authors, bind, Except.bind])
    | some authorRows =>
      refine .inr ⟨rows, authorRows, rfl, rfl, ?_⟩
      rw [delete_of_there id articles authors, authors]

theorem get_delete {other : Uuid} (apart : id ≠ other) (there : tables.get id = .ok (some found)) :
    (tables.delete other).2.get id = .ok (some found) := by
  rcases delete_eq other tables with same | ⟨rows, authors, articles, _, left⟩
  · rw [same, there]
  · rw [left]
    refine get_of_kept ?_ ?_ there
    · intro others row table rowThere
      cases articles.symm.trans table
      refine ⟨_, rfl, ?_⟩
      -- A row under another identifier is not removed.
      rw [find?_filter_of_imp, rowThere]
      intro row isFound
      rw [Bool.not_eq_true', Bool.eq_false_iff]
      intro meant
      exact apart (idCell_inj.mp ((isOf_iff.mp isFound).symm.trans (isOf_iff.mp meant)))
    · intro authors author cell table authorThere
      exact ⟨authors, table, authorThere⟩

theorem keyed_delete (keyed : tables.Keyed) : (tables.delete id).2.Keyed := by
  rcases delete_eq id tables with same | ⟨rows, authors, articles, _, left⟩
  · rw [same]
    exact keyed
  · rw [Keyed, articles] at keyed
    rw [left]
    exact keyed.sublist List.filter_sublist

theorem count_delete (keyed : tables.Keyed) (there : tables.get id = .ok (some found)) :
    (tables.delete id).1 = .ok 1 := by
  obtain ⟨rows, authors, row, _, articles, authorTable, rowThere, _, _⟩ := get_eq_some.mp there
  rw [Keyed, articles] at keyed
  have some := length_filter_pos (Option.isSome_of_mem rowThere)
  -- Two rows with this identifier would not be keyed apart.
  have one : (rows.filter (isOf id)).length ≤ 1 := by
    apply length_filter_le_one
    apply keyed.imp
    rintro left right apart ⟨isLeft, isRight⟩
    rw [isOf_iff.mp isLeft, isOf_iff.mp isRight, Cell.same_refl_idCell] at apart
    cases apart
  have exactly : (rows.filter (isOf id)).length = 1 := by omega
  rw [delete_of_there id articles authorTable, exactly]
  rfl

theorem get_of_delete (there : tables.get id = .ok (some found)) : (tables.delete id).2.get id = .ok none := by
  obtain ⟨rows, authors, _, _, articles, authorTable, _⟩ := get_eq_some.mp there
  have gone : (rows.filter fun row => !isOf id row).find? (isOf id) = none := by
    rw [List.find?_eq_none]
    intro row left
    simpa using (List.mem_filter.mp left).2
  have after := delete_of_there id articles authorTable
  have left : (tables.delete id).2.articles = some (rows.filter fun row => !isOf id row) := by rw [after]
  have same : (tables.delete id).2.authors = some authors := by rw [after, authorTable]
  rw [get_eq left same, gone]
  rfl

end Tables

end Gazette.Database
