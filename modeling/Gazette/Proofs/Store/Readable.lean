import Gazette.Proofs.Store.Creation

/-!
# Rows that can be read later

* `Tables.Changes`: what a demand may do to the rows of a database.
* `Tables.Sound`: rows written by demands are those of authors and of articles by them. Their stamps have in common what
  the stamps of all clocks had.
* `Readable`: no row is reported as malformed, whatever is asked for.
* `readable_run`: so it is exactly if every row is of years of four digits, and so if no clock showed a later one.
-/

namespace Gazette

open Database

namespace Database

/-! ## Rows -/

namespace ArticleRow

variable {good : Timestamp → Prop} {row : ArticleRow} {found : Article} {now : Timestamp}

def Stamped (good : Timestamp → Prop) (row : ArticleRow) : Prop :=
  ∃ article : Article, row = ofArticle article ∧ good article.createdAt ∧ good article.updatedAt

abbrev Dated (row : ArticleRow) : Prop := row.Stamped Timestamp.Columnar

theorem Stamped.revise (stamped : row.Stamped good) (revision : Revision) (stamp : good now) :
    (row.revise revision now).Stamped good := by
  obtain ⟨article, rfl, created, _⟩ := stamped
  exact ⟨article.revise revision now, (ofArticle_revise article revision now).symm, created, stamp⟩

theorem Dated.reads (dated : row.Dated) : ∃ article, row.Reads article := by
  obtain ⟨article, rfl, created, updated⟩ := dated
  exact ⟨article, reads_ofArticle created updated⟩

theorem readTime_eq_ok {text : String} {moment : Timestamp} :
    readTime text = .ok moment ↔ Timestamp.parseStrict text = .ok moment := by
  rw [readTime]
  cases Timestamp.parseStrict text <;> simp

/-- The row of an article is read as far as its two moments are. -/
theorem readArticle_ofArticle (article : Article) : readArticle (ofArticle article).columns =
    (readTime article.createdAt.toColumn >>= fun createdAt => readTime article.updatedAt.toColumn >>= fun updatedAt =>
      .ok { article with createdAt, updatedAt }) := by
  rw [← List.append_nil (ofArticle article).columns, readArticle_append_eq]
  simp only [ofArticle, idCell, timeCell, readText_ofString, readOptionalText_optionalCell, Fallible.ok_bind,
    readId_toText]

/-- Of the rows that clocks have stamped no others can be read. -/
theorem Stamped.dated_of_reads (stamped : row.Stamped Timestamp.IsStamp) (reads : row.Reads found) : row.Dated := by
  obtain ⟨article, rfl, created, updated⟩ := stamped
  have read := readArticle_columns.mpr reads
  rw [readArticle_ofArticle] at read
  obtain ⟨_, createdRead, read⟩ := Fallible.bind_eq_ok.mp read
  obtain ⟨_, updatedRead, _⟩ := Fallible.bind_eq_ok.mp read
  exact ⟨article, rfl, created.columnar_of_parseStrict (readTime_eq_ok.mp createdRead),
    updated.columnar_of_parseStrict (readTime_eq_ok.mp updatedRead)⟩

end ArticleRow

namespace Tables

variable {authors authorsAfter : List AuthorRow} {rows rowsAfter : List ArticleRow} {world : Surroundings}
  {good : Timestamp → Prop} {tables : Tables}

/-! ## What demands do -/

inductive Changes (world : Surroundings) (authors : List AuthorRow) (rows : List ArticleRow) :
    List AuthorRow → List ArticleRow → Prop
  | nothing : Changes world authors rows authors rows
  | registered (author : Author) : Changes world authors rows (authors ++ [.ofAuthor author]) rows
  | added {now : Timestamp} (draft : Draft) (readable : world.clock.timestamp = .ok now)
    (known : authors.any fun author => author.id.same (idCell draft.authorId)) :
    Changes world authors rows authors (rows ++ [.ofArticle (draft.toArticle (.random world.random) now)])
  | revised {now : Timestamp} (revision : Revision) (readable : world.clock.timestamp = .ok now) :
    Changes world authors rows authors (rows.map (revised revision now))
  | removed (id : Uuid) : Changes world authors rows authors (rows.filter fun row => !isOf id row)

theorem changes_insert (world : Surroundings) (draft : Draft) (authors : List AuthorRow) (rows : List ArticleRow) :
    ∃ rowsAfter, (insert world draft ⟨some authors, some rows⟩).2 = ⟨some authors, some rowsAfter⟩ ∧
      Changes world authors rows authors rowsAfter := by
  cases readable : world.clock.timestamp with
  | error crash => exact ⟨rows, by rw [insert, readable], .nothing⟩
  | ok now =>
    rw [insert_of_there draft rfl rfl readable]
    split
    · exact ⟨rows, rfl, .nothing⟩
    · split
      · rename_i known
        exact ⟨_, rfl, .added draft readable known⟩
      · exact ⟨rows, rfl, .nothing⟩

theorem changes_update (world : Surroundings) (revision : Revision) (authors : List AuthorRow)
    (rows : List ArticleRow) :
    ∃ rowsAfter, (update world revision ⟨some authors, some rows⟩).2 = ⟨some authors, some rowsAfter⟩ ∧
      Changes world authors rows authors rowsAfter := by
  cases readable : world.clock.timestamp with
  | error crash => exact ⟨rows, by rw [update, readable], .nothing⟩
  | ok now => exact ⟨_, (update_eq rfl readable).1, .revised revision readable⟩

theorem changes_meet (world : Surroundings) (demand : Demand) (authors : List AuthorRow) (rows : List ArticleRow) :
    ∃ authorsAfter rowsAfter,
      (StoreKind.database.meet world ⟨some authors, some rows⟩ demand).2 = ⟨some authorsAfter, some rowsAfter⟩ ∧
        Changes world authors rows authorsAfter rowsAfter := by
  match demand with
  | .addAuthor author =>
    rcases addAuthor_eq author ⟨some authors, some rows⟩ with same | ⟨_, there, added⟩
    · exact ⟨authors, rows, same, .nothing⟩
    · cases there
      exact ⟨_, rows, added, .registered author⟩
  | .request (.insert draft) => exact ⟨authors, changes_insert world draft authors rows⟩
  | .request (.update revision) => exact ⟨authors, changes_update world revision authors rows⟩
  | .request (.delete id) =>
    have left : delete id ⟨some authors, some rows⟩ = _ := delete_of_there id rfl rfl
    exact ⟨authors, _, congrArg Prod.snd left, .removed id⟩
  | .request (.get id) => exact ⟨authors, rows, rfl, .nothing⟩
  | .request .count => exact ⟨authors, rows, rfl, .nothing⟩
  | .request (.list offset limit) => exact ⟨authors, rows, rfl, .nothing⟩
  | .request (.countByTitle needle) => exact ⟨authors, rows, rfl, .nothing⟩
  | .request (.search needle offset limit) => exact ⟨authors, rows, rfl, .nothing⟩

/-! ## What stays -/

structure Sound (good : Timestamp → Prop) (authors : List AuthorRow) (rows : List ArticleRow) : Prop where
  named : ∀ author ∈ authors, ∃ known : Author, author = .ofAuthor known
  stamped : ∀ row ∈ rows, row.Stamped good
  attributed : ∀ row ∈ rows, (authors.any fun author => author.id.same row.authorId) = true

theorem sound_nil (good : Timestamp → Prop) : Sound good [] [] where
  named _ there := absurd there List.not_mem_nil
  stamped _ there := absurd there List.not_mem_nil
  attributed _ there := absurd there List.not_mem_nil

theorem Sound.changes (sound : Sound good authors rows)
    (stamps : ∀ now, world.clock.timestamp = .ok now → good now)
    (changes : Changes world authors rows authorsAfter rowsAfter) : Sound good authorsAfter rowsAfter := by
  -- What is added or changed carries the stamp of this time, and no row loses its author.
  cases changes with
  | nothing => exact sound
  | registered author =>
    refine ⟨?_, sound.stamped, ?_⟩
    · intro other there
      rcases List.mem_append.mp there with old | new
      · exact sound.named other old
      · exact ⟨author, List.mem_singleton.mp new⟩
    · intro row there
      rw [List.any_append, sound.attributed row there, Bool.true_or]
  | added draft readable known =>
    refine ⟨sound.named, ?_, ?_⟩
    · intro row there
      rcases List.mem_append.mp there with old | new
      · exact sound.stamped row old
      · exact ⟨_, List.mem_singleton.mp new, stamps _ readable, stamps _ readable⟩
    · intro row there
      rcases List.mem_append.mp there with old | new
      · exact sound.attributed row old
      · rw [List.mem_singleton.mp new]
        exact known
  | @revised now revision readable =>
    refine ⟨sound.named, ?_, ?_⟩
    · rintro _ there
      obtain ⟨row, old, rfl⟩ := List.mem_map.mp there
      rw [Tables.revised]
      split
      · exact (sound.stamped row old).revise revision (stamps _ readable)
      · exact sound.stamped row old
    · rintro _ there
      obtain ⟨row, old, rfl⟩ := List.mem_map.mp there
      have same : (Tables.revised revision now row).authorId = row.authorId := by
        rw [Tables.revised]
        split <;> rfl
      rw [same]
      exact sound.attributed row old
  | removed id =>
    exact ⟨sound.named, fun row there => sound.stamped row (List.mem_filter.mp there).1,
      fun row there => sound.attributed row (List.mem_filter.mp there).1⟩

theorem Sound.run (sound : Sound good authors rows) (demands : List (Surroundings × Demand))
    (stamps : ∀ step ∈ demands, ∀ now, step.1.clock.timestamp = .ok now → good now) :
    ∃ authorsAfter rowsAfter,
      StoreKind.database.run demands ⟨some authors, some rows⟩ = ⟨some authorsAfter, some rowsAfter⟩ ∧
        Sound good authorsAfter rowsAfter := by
  induction demands generalizing authors rows with
  | nil => exact ⟨authors, rows, rfl, sound⟩
  | cons step demands inductionHypothesis =>
    obtain ⟨authorsNext, rowsNext, next, changes⟩ := changes_meet step.1 step.2 authors rows
    rw [StoreKind.run, next]
    exact inductionHypothesis (sound.changes (stamps step List.mem_cons_self) changes)
      fun other there => stamps other (List.mem_cons_of_mem step there)

/-! ## Reading -/

/-- Whatever is asked for, no row is reported as malformed. -/
structure Readable (tables : Tables) : Prop where
  list : ∀ world offset limit, ∃ articles, (backend world (.list offset limit) tables).1 = .ok (.ok articles)
  search : ∀ world needle offset limit, (Utf8.encode (Pattern.containing needle)).length ≤ Pattern.maxLength →
    ∃ articles, (backend world (.search needle offset limit) tables).1 = .ok (.ok articles)
  get : ∀ world id, ∃ found, (backend world (.get id) tables).1 = .ok (.ok found) ∧
    found.isSome = StoreKind.database.holds id tables
  update : ∀ world revision, world.clock.InRange → StoreKind.database.holds revision.id tables = true →
    ∃ article, (backend world (.update revision) tables).1 = .ok (.ok (some article))

theorem readRows_of_reads (reads : ∀ row ∈ rows, ∃ article, row.Reads article) :
    ∃ articles, readRows rows = .ok articles := by
  induction rows with
  | nil => exact ⟨[], rfl⟩
  | cons row rows inductionHypothesis =>
    obtain ⟨article, first⟩ := reads row List.mem_cons_self
    obtain ⟨articles, others⟩ := inductionHypothesis fun other there => reads other (List.mem_cons_of_mem row there)
    refine ⟨article :: articles, ?_⟩
    rw [readRows] at others ⊢
    rw [List.mapM_cons, ArticleRow.readArticle_columns.mpr first, others]
    rfl

theorem readRows_page (reads : ∀ row ∈ rows, ∃ article, row.Reads article) (offset limit : Nat) :
    ∃ articles, readRows (((sortRows rows).drop offset).take limit) = .ok articles := by
  apply readRows_of_reads
  intro row there
  exact reads row (List.mem_mergeSort.mp (List.mem_of_mem_drop (List.mem_of_mem_take there)))

/-- The first row with an identifier is the only one. -/
theorem find?_of_keyed {row : ArticleRow} {id : Uuid}
    (keyed : rows.Pairwise fun left right => left.id.same right.id = false) (there : row ∈ rows)
    (key : row.id = idCell id) : rows.find? (isOf id) = some row := by
  induction rows with
  | nil => cases there
  | cons first rows inductionHypothesis =>
    obtain ⟨apart, keyed⟩ := List.pairwise_cons.mp keyed
    rcases List.mem_cons.mp there with rfl | later
    · rw [List.find?_cons_of_pos (isOf_iff.mpr key)]
    · have other : ¬isOf id first = true := by
        intro meant
        have same := apart row later
        rw [isOf_iff.mp meant, key, Cell.same_refl_idCell] at same
        cases same
      rw [List.find?_cons_of_neg other]
      exact inductionHypothesis keyed later

/-- A row of an author of whom everything is known gives a byline. -/
theorem Sound.exists_author {row : ArticleRow} (sound : Sound good authors rows) (there : row ∈ rows) :
    ∃ author : Author, (authors.find? fun author => author.id.same row.authorId) = some (.ofAuthor author) := by
  obtain ⟨author, found⟩ := Option.isSome_iff_exists.mp (List.find?_isSome.mpr (List.any_eq_true.mp
    (sound.attributed row there)))
  obtain ⟨known, rfl⟩ := sound.named author (List.mem_of_find?_eq_some found)
  exact ⟨known, found⟩

theorem readBylinedArticle_ofAuthor {row : ArticleRow} {author : Author} {article : Article}
    (reads : row.Reads article) :
    readBylinedArticle (row.columnsWith (.ofAuthor author)) = .ok (article.withByline author.displayName) :=
  ArticleRow.readBylinedArticle_columnsWith.mpr
    ⟨article, author.firstName, author.lastName, reads, readText_ofString .., readText_ofString .., rfl⟩

section Reading

variable (sound : Sound good authors rows) (reads : ∀ row ∈ rows, ∃ article, row.Reads article)

include reads

theorem exists_list (authors : List AuthorRow) (offset limit : UInt64) :
    ∃ articles, list offset limit ⟨some authors, some rows⟩ = .ok articles :=
  readRows_page reads (rowCount offset) (rowCount limit)

theorem exists_search {needle : String} (short : (Utf8.encode (Pattern.containing needle)).length ≤ Pattern.maxLength)
    (authors : List AuthorRow) (offset limit : UInt64) :
    ∃ articles, search needle offset limit ⟨some authors, some rows⟩ = .ok articles := by
  have matching : rowsMatching ⟨some authors, some rows⟩ (Pattern.containing needle)
      = .ok (rows.filter fun row => Pattern.accepts (Utf8.encode (Pattern.containing needle)) row.title.octets) := by
    rw [rowsMatching, articleRows]
    simp only [Fallible.ok_bind]
    rw [if_neg]
    simp [Nat.not_lt.mpr short]
  rw [search, pageMatching, articleRows, matching]
  simp only [Fallible.ok_bind]
  split
  · exact ⟨[], rfl⟩
  · exact readRows_page (fun row there => reads row (List.mem_filter.mp there).1) _ _

theorem exists_update {world : Surroundings} {revision : Revision} (inRange : world.clock.InRange)
    (held : rows.any (isOf revision.id) = true) :
    ∃ article, (update world revision ⟨some authors, some rows⟩).1 = .ok (.ok (some article)) := by
  obtain ⟨now, stamped, columnar⟩ := inRange.timestamp_eq_ok
  obtain ⟨row, rowThere⟩ := Option.isSome_iff_exists.mp (List.find?_isSome.mpr (List.any_eq_true.mp held))
  obtain ⟨article, read⟩ := reads row (List.mem_of_find?_eq_some rowThere)
  refine ⟨article.revise revision now, ?_⟩
  rw [(update_eq rfl stamped).2, rowThere, Option.map_some]
  simp only [ArticleRow.readArticle_columns.mpr (read.revise columnar)]
  rfl

include sound

theorem exists_get (id : Uuid) : ∃ found, get id ⟨some authors, some rows⟩ = .ok found ∧
    found.isSome = rows.any (isOf id) := by
  have held : (rows.find? (isOf id)).isSome = rows.any (isOf id) := by
    rw [Bool.eq_iff_iff, List.find?_isSome, List.any_eq_true]
  rw [get_eq rfl rfl, ← held]
  cases rowThere : rows.find? (isOf id) with
  | none => exact ⟨none, rfl, rfl⟩
  | some row =>
    have there : row ∈ rows := List.mem_of_find?_eq_some rowThere
    obtain ⟨author, authorThere⟩ := sound.exists_author there
    obtain ⟨article, read⟩ := reads row there
    rw [Option.bind_some, authorThere, Option.bind_some]
    refine ⟨some (article.withByline author.displayName), ?_, rfl⟩
    simp only [readBylinedArticle_ofAuthor read]
    rfl

theorem Sound.readable : Readable ⟨some authors, some rows⟩ where
  list world offset limit := by
    obtain ⟨articles, listed⟩ := exists_list reads authors offset limit
    exact ⟨articles, by rw [backend, answer, listed]; rfl⟩
  search world needle offset limit short := by
    obtain ⟨articles, found⟩ := exists_search reads short authors offset limit
    exact ⟨articles, by rw [backend, answer, found]; rfl⟩
  get world id := by
    obtain ⟨found, got, held⟩ := exists_get sound reads id
    exact ⟨found, by rw [backend, answer, got]; rfl, held⟩
  update world revision inRange held := exists_update reads inRange held

end Reading

/-- Looking up the row of a clock's stamps tells whether it can be read. -/
theorem Readable.dated (readable : Readable ⟨some authors, some rows⟩) (sound : Sound Timestamp.IsStamp authors rows)
    (keyed : Keyed ⟨some authors, some rows⟩) : ∀ row ∈ rows, row.Dated := by
  intro row there
  obtain ⟨article, same, _⟩ := sound.stamped row there
  have key : row.id = idCell article.id := by rw [same, ArticleRow.ofArticle]
  have rowThere : rows.find? (isOf article.id) = some row := find?_of_keyed keyed there key
  obtain ⟨author, authorThere⟩ := sound.exists_author there
  obtain ⟨found, got, _⟩ := readable.get ⟨⟨0⟩, 0⟩ article.id
  rw [backend, answer, get_eq rfl rfl, rowThere, Option.bind_some, authorThere, Option.bind_some] at got
  cases read : readBylinedArticle (row.columnsWith (.ofAuthor author)) with
  | error error =>
    simp only [read] at got
    cases got
  | ok bylined =>
    obtain ⟨article, _, _, reads, _⟩ := ArticleRow.readBylinedArticle_columnsWith.mp read
    exact (sound.stamped row there).dated_of_reads reads

/-- After whatever was done to a new database, it can be read exactly if all rows are of years of four digits, as they
are when no clock showed a later year. -/
theorem readable_run (demands : List (Surroundings × Demand)) :
    let tables := StoreKind.database.run demands StoreKind.database.new
    (Readable tables ↔ ∀ row ∈ StoreKind.database.rows tables, row.Dated) ∧
      ((∀ step ∈ demands, step.1.clock.nanoseconds / 1000000000 < Timestamp.secondAfter9999) → Readable tables) := by
  intro tables
  have keyed : tables.Keyed := StoreKind.keyed_run demands (StoreKind.keyed_new .database)
  have stamps (step : Surroundings × Demand) (_ : step ∈ demands) (now : Timestamp)
      (shown : step.1.clock.timestamp = .ok now) : now.IsStamp := WallClock.isStamp_of_timestamp shown
  -- Every stamp is good for a clock, though it may be of a year that cannot be read.
  obtain ⟨authors, rows, reached, sound⟩ := (sound_nil _).run demands stamps
  have same : tables = ⟨some authors, some rows⟩ := reached
  constructor
  · rw [same] at keyed ⊢
    constructor
    · intro readable
      exact readable.dated sound keyed
    · intro dated
      exact sound.readable fun row there => (dated row there).reads
  · intro early
    have columnar (step : Surroundings × Demand) (among : step ∈ demands) (now : Timestamp)
        (shown : step.1.clock.timestamp = .ok now) : now.Columnar :=
      WallClock.columnar_of_timestamp (early step among) shown
    obtain ⟨authors, rows, reached, sound⟩ := (sound_nil _).run demands columnar
    have same : tables = ⟨some authors, some rows⟩ := reached
    rw [same]
    exact sound.readable fun row there => ArticleRow.Dated.reads (sound.stamped row there)

def aLastSecond : Surroundings := ⟨⟨253402300799000000000⟩, 7⟩

def aMillennium : Surroundings := ⟨⟨253402300800000000000⟩, 7⟩

def newYear : Timestamp := ⟨253402300800, 0, by decide, by decide, by decide⟩

def aTimelyDraft : Draft := ⟨⟨1⟩, "Notes", "On the engine", none, "science"⟩

def aNoteIn (world : Surroundings) : List (Surroundings × Demand) :=
  [(world, .addAuthor ⟨⟨1⟩, "Ada", "Lovelace"⟩), (world, .request (.insert aTimelyDraft))]

theorem readable_run_aLastSecond :
    (∀ step ∈ aNoteIn aLastSecond, step.1.clock.nanoseconds / 1000000000 < Timestamp.secondAfter9999) ∧
      Readable (StoreKind.database.run (aNoteIn aLastSecond) StoreKind.database.new) := by
  have early : ∀ step ∈ aNoteIn aLastSecond, step.1.clock.nanoseconds / 1000000000 < Timestamp.secondAfter9999 := by
    decide
  exact ⟨early, (readable_run (aNoteIn aLastSecond)).2 early⟩

/-- A second later the article is accepted, and then in the way of every listing. -/
theorem malformed_aMillennium :
    (∃ article, (StoreKind.database.meet aMillennium
        (StoreKind.database.run ((aNoteIn aMillennium).take 1) StoreKind.database.new)
        (.request (.insert aTimelyDraft))).1 = .ok (.ok article)) ∧
      ∀ world, (StoreKind.database.backend world (.list 0 10)
        (StoreKind.database.run (aNoteIn aMillennium) StoreKind.database.new)).1 =
          .ok (.error (.invalidData ("Malformed Article row: Conversion error from type Text at index: 0, " ++
            "input contains invalid characters"))) := by
  have reached : StoreKind.database.run (aNoteIn aMillennium) StoreKind.database.new
      = ⟨some [.ofAuthor ⟨⟨1⟩, "Ada", "Lovelace"⟩],
        some [.ofArticle (aTimelyDraft.toArticle (.random 7) newYear)]⟩ := rfl
  have unread : readTime newYear.toColumn = .error (.malformed 0 "input contains invalid characters") := by rfl
  have listed : list 0 10 (StoreKind.database.run (aNoteIn aMillennium) StoreKind.database.new)
      = .error (.malformed 0 "input contains invalid characters") := by
    rw [reached, list, articleRows, Fallible.ok_bind, sortRows, List.mergeSort_singleton]
    show (readArticle (ArticleRow.ofArticle (aTimelyDraft.toArticle (.random 7) newYear)).columns >>= _) = _
    rw [ArticleRow.readArticle_ofArticle]
    show ((readTime newYear.toColumn >>= _) >>= _) = _
    rw [unread]
    rfl
  refine ⟨⟨_, rfl⟩, ?_⟩
  intro world
  show Except.ok ((list 0 10 _).mapError _) = _
  rw [listed]
  rfl

end Tables

end Database

end Gazette
