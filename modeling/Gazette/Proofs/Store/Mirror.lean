import Gazette.Proofs.Store.Kind

/-!
# A database that mirrors a store in memory

* `Mirrors`: the tables have a row for everything in the store, in the same order.
* For each request but those by title, the mirror answers as the store does and stays its mirror.
* `agree_of_fitting`: the two kinds of stores, both new, agree on whatever is asked of them.
-/

namespace Gazette

open Database (Tables AuthorRow ArticleRow idCell articleError rowCount)

/-! ## Rows -/

structure Mirrors (store : MemoryStore) (tables : Tables) : Prop where
  authors : tables.authors = some (store.authors.map AuthorRow.ofAuthor)
  articles : tables.articles = some (store.articles.map ArticleRow.ofArticle)
  keyed : store.Keyed
  created : ∀ article ∈ store.articles, article.createdAt.Columnar
  updated : ∀ article ∈ store.articles, article.updatedAt.Columnar

theorem mirrors_new : Mirrors .empty Tables.empty.create where
  authors := rfl
  articles := rfl
  keyed := MemoryStore.keyed_empty
  created := by simp [MemoryStore.empty]
  updated := by simp [MemoryStore.empty]

theorem isOf_ofArticle (id : Uuid) (article : Article) :
    Tables.isOf id (ArticleRow.ofArticle article) = decide (article.id = id) := by
  rw [Tables.isOf, ArticleRow.ofArticle, Database.Cell.same_idCell_idCell]

theorem find?_ofArticle (articles : List Article) (id : Uuid) :
    (articles.map ArticleRow.ofArticle).find? (Tables.isOf id)
      = (articles.find? fun article => article.id = id).map ArticleRow.ofArticle := by
  have same : Tables.isOf id ∘ ArticleRow.ofArticle = fun article => decide (article.id = id) := by
    funext article
    rw [Function.comp_apply, isOf_ofArticle]
  rw [List.find?_map, same]

theorem find?_ofAuthor (authors : List Author) (id : Uuid) :
    (authors.map AuthorRow.ofAuthor).find? (fun author => author.id.same (idCell id))
      = (authors.find? fun author => author.id = id).map AuthorRow.ofAuthor := by
  have same : (fun row : AuthorRow => row.id.same (idCell id)) ∘ AuthorRow.ofAuthor
      = fun author => decide (author.id = id) := by
    funext author
    rw [Function.comp_apply, AuthorRow.ofAuthor, Database.Cell.same_idCell_idCell]
  rw [List.find?_map, same]

theorem any_ofArticle (articles : List Article) (id : Uuid) :
    (articles.map ArticleRow.ofArticle).any (fun row => row.id.same (idCell id))
      = (articles.find? fun article => article.id = id).isSome := by
  rw [Bool.eq_iff_iff, List.find?_isSome]
  simp [ArticleRow.ofArticle]

theorem any_ofAuthor (authors : List Author) (id : Uuid) :
    (authors.map AuthorRow.ofAuthor).any (fun row => row.id.same (idCell id))
      = (authors.find? fun author => author.id = id).isSome := by
  rw [Bool.eq_iff_iff, List.find?_isSome]
  simp [AuthorRow.ofAuthor]

theorem readRows_ofArticle {articles : List Article} (created : ∀ article ∈ articles, article.createdAt.Columnar)
    (updated : ∀ article ∈ articles, article.updatedAt.Columnar) :
    Tables.readRows (articles.map ArticleRow.ofArticle) = .ok articles := by
  induction articles with
  | nil => rfl
  | cons article articles inductionHypothesis =>
    have first := ArticleRow.readArticle_columns.mpr
      (ArticleRow.reads_ofArticle (created article List.mem_cons_self) (updated article List.mem_cons_self))
    have others := inductionHypothesis (fun other there => created other (List.mem_cons_of_mem article there))
      fun other there => updated other (List.mem_cons_of_mem article there)
    rw [Tables.readRows] at others ⊢
    rw [List.map_cons, List.mapM_cons, first, others]
    rfl

/-- Among so few rows it makes no difference that larger counts count as the largest. -/
theorem drop_rowCount {α : Type} {rows : List α} (few : rows.length < 2 ^ 63) (n : UInt64) :
    rows.drop (rowCount n) = rows.drop n.toNat := by
  rw [rowCount]
  by_cases small : n.toNat ≤ 0x7FFFFFFFFFFFFFFF
  · rw [Nat.min_eq_left small]
  · rw [List.drop_eq_nil_of_le (by omega), List.drop_eq_nil_of_le (by omega)]

theorem take_rowCount {α : Type} {rows : List α} (few : rows.length < 2 ^ 63) (n : UInt64) :
    rows.take (rowCount n) = rows.take n.toNat := by
  rw [rowCount]
  by_cases small : n.toNat ≤ 0x7FFFFFFFFFFFFFFF
  · rw [Nat.min_eq_left small]
  · rw [List.take_of_length_le (by omega), List.take_of_length_le (by omega)]

/-- The first page has all rows if it is large enough. -/
theorem pageOf_of_length_le {α : Type} {rows : List α} {limit : UInt64} (enough : rows.length ≤ limit.toNat) :
    pageOf rows 0 limit = rows := by
  rw [pageOf, UInt64.toNat_zero, List.drop_zero, List.take_of_length_le enough]

theorem sortRows_ofArticle {articles : List Article} (created : ∀ article ∈ articles, article.createdAt.Columnar) :
    Tables.sortRows (articles.map ArticleRow.ofArticle) = (MemoryStore.sorted articles).map ArticleRow.ofArticle := by
  symm
  apply List.map_mergeSort
  intro left leftThere right rightThere
  rw [ArticleRow.compare_ofArticle (created left leftThere) (created right rightThere)]

/-- A window of the sorted rows is read as that of the sorted articles, whose rows they are. -/
theorem readRows_window {articles : List Article} (created : ∀ article ∈ articles, article.createdAt.Columnar)
    (updated : ∀ article ∈ articles, article.updatedAt.Columnar) (start length : Nat) :
    Tables.readRows (((Tables.sortRows (articles.map ArticleRow.ofArticle)).drop start).take length)
      = .ok (((MemoryStore.sorted articles).drop start).take length) := by
  have among (article : Article) (there : article ∈ ((MemoryStore.sorted articles).drop start).take length) :
      article ∈ articles :=
    List.mem_mergeSort.mp (List.mem_of_mem_drop (List.mem_of_mem_take there))
  rw [sortRows_ofArticle created, ← List.map_drop, ← List.map_take]
  exact readRows_ofArticle (fun article there => created article (among article there))
    fun article there => updated article (among article there)

/-- A page of the sorted rows is read as the page of the sorted articles. -/
theorem readRows_page {articles : List Article} (created : ∀ article ∈ articles, article.createdAt.Columnar)
    (updated : ∀ article ∈ articles, article.updatedAt.Columnar) (few : articles.length < 2 ^ 63)
    (offset limit : UInt64) :
    Tables.readRows (((Tables.sortRows (articles.map ArticleRow.ofArticle)).drop (rowCount offset)).take
        (rowCount limit))
      = .ok (pageOf (MemoryStore.sorted articles) offset limit) := by
  have length : (MemoryStore.sorted articles).length = articles.length := List.length_mergeSort _
  rw [readRows_window created updated, drop_rowCount, take_rowCount, pageOf]
  · rw [List.length_drop]
    omega
  · omega

/-! ## Answers -/

/-- The same error, but for what is said of invalid data. -/
inductive StoreError.Alike : StoreError → StoreError → Prop
  | same (error : StoreError) : Alike error error
  | invalidData (reason other : String) : Alike (.invalidData reason) (.invalidData other)

inductive AlikeReplies {α : Type} : Except StoreError α → Except StoreError α → Prop
  | answers (answer : α) : AlikeReplies (.ok answer) (.ok answer)
  | errors {error other : StoreError} (alike : error.Alike other) : AlikeReplies (.error error) (.error other)

inductive AlikeOutcomes {α : Type} : StoreOutcome α → StoreOutcome α → Prop
  | replies {reply other : Except StoreError α} (alike : AlikeReplies reply other) :
    AlikeOutcomes (.ok reply) (.ok other)
  | crashes (crash : Crash) : AlikeOutcomes (.error crash) (.error crash)

namespace Mirrors

variable {store : MemoryStore} {tables : Tables} {world : Surroundings}

/-! ## Reading -/

theorem articleRows (mirrors : Mirrors store tables) :
    tables.articleRows = .ok (store.articles.map ArticleRow.ofArticle) := by
  rw [Tables.articleRows, mirrors.articles]

theorem get (mirrors : Mirrors store tables) (id : Uuid) : tables.get id = .ok (store.bylined? id) := by
  have rowThere : _ = (store.article? id).map ArticleRow.ofArticle := find?_ofArticle store.articles id
  rw [Tables.get_eq mirrors.articles mirrors.authors, rowThere]
  -- A row is there for an article, and another for its author.
  cases there : store.article? id with
  | none =>
    rw [MemoryStore.bylined?, there]
    rfl
  | some article =>
    have authorRowThere : _ = (store.author? article.authorId).map AuthorRow.ofAuthor :=
      find?_ofAuthor store.authors article.authorId
    have sameAuthor : (ArticleRow.ofArticle article).authorId = idCell article.authorId := by rw [ArticleRow.ofArticle]
    rw [Option.map_some, Option.bind_some, sameAuthor, authorRowThere, MemoryStore.bylined?, there]
    cases authorThere : store.author? article.authorId with
    | none => simp [authorThere]
    | some author =>
      have reads := ArticleRow.reads_ofArticle (mirrors.created article (List.mem_of_find?_eq_some there))
        (mirrors.updated article (List.mem_of_find?_eq_some there))
      have read : Database.readBylinedArticle ((ArticleRow.ofArticle article).columnsWith (.ofAuthor author))
          = .ok (article.withByline author.displayName) :=
        ArticleRow.readBylinedArticle_columnsWith.mpr ⟨article, author.firstName, author.lastName, reads,
          Database.readText_ofString .., Database.readText_ofString .., rfl⟩
      simp [authorThere, read]

theorem list (mirrors : Mirrors store tables) (offset limit : UInt64) (few : store.articles.length < 2 ^ 63) :
    tables.list offset limit = .ok (pageOf (MemoryStore.sorted store.articles) offset limit) := by
  rw [Tables.list, mirrors.articleRows]
  rw [Fallible.ok_bind, readRows_page mirrors.created mirrors.updated few]

/-! ## Changing -/

theorem addAuthor (mirrors : Mirrors store tables) (author : Author) :
    AlikeReplies (store.insertAuthor author).1 (tables.addAuthor author).1 ∧
      Mirrors (store.insertAuthor author).2 (tables.addAuthor author).2 := by
  have same : ((store.authors.map AuthorRow.ofAuthor).any fun row => row.id.same (AuthorRow.ofAuthor author).id)
      = (store.author? author.id).isSome := any_ofAuthor store.authors author.id
  simp only [Tables.addAuthor, Tables.insertAuthor, Tables.authorRows, mirrors.authors, Fallible.ok_bind,
    MemoryStore.insertAuthor, same]
  by_cases taken : (store.author? author.id).isSome
  · rw [if_pos taken, if_pos taken]
    exact ⟨.errors (.same _), mirrors⟩
  · rw [if_neg taken, if_neg taken]
    refine ⟨.answers (), ?_⟩
    exact { mirrors with authors := by rw [List.map_append, List.map_singleton] }

theorem append {article : Article} (mirrors : Mirrors store tables) (absent : store.article? article.id = none)
    (timed : article.LeapsEndMinutes) (created : article.createdAt.Columnar) (updated : article.updatedAt.Columnar) :
    Mirrors (store.put article timed)
      { tables with articles := some (store.articles.map ArticleRow.ofArticle ++ [.ofArticle article]) } := by
  refine ⟨?_, ?_, MemoryStore.keyed_put mirrors.keyed, ?_, ?_⟩
  · rw [MemoryStore.authors_put]
    exact mirrors.authors
  · rw [MemoryStore.articles_put_of_absent timed absent, List.map_append, List.map_singleton]
  · intro other there
    rcases MemoryStore.mem_put there with rfl | old
    · exact created
    · exact mirrors.created other old
  · intro other there
    rcases MemoryStore.mem_put there with rfl | old
    · exact updated
    · exact mirrors.updated other old

theorem insert (mirrors : Mirrors store tables) (draft : Draft) (inRange : world.clock.InRange)
    (fresh : store.article? (.random world.random) = none) :
    AlikeOutcomes (store.insert world draft).1 (tables.insert world draft).1 ∧
      Mirrors (store.insert world draft).2 (tables.insert world draft).2 := by
  obtain ⟨now, clock, columnar⟩ := inRange.timestamp_eq_ok
  have new : (store.articles.map ArticleRow.ofArticle).any (Tables.isOf (.random world.random))
      = (store.article? (.random world.random)).isSome := any_ofArticle store.articles (.random world.random)
  have known : ((store.authors.map AuthorRow.ofAuthor).any fun row => row.id.same (idCell draft.authorId))
      = (store.author? draft.authorId).isSome := any_ofAuthor store.authors draft.authorId
  -- The identifier is new, so that the tables refuse an article only for want of its author.
  rw [Tables.insert_of_there draft mirrors.articles mirrors.authors clock, new, fresh, Option.isSome_none,
    if_neg Bool.false_ne_true, known]
  cases there : store.author? draft.authorId with
  | none =>
    rw [MemoryStore.insert_of_unknown world there]
    exact ⟨.replies (.errors (.invalidData _ _)), mirrors⟩
  | some author =>
    obtain ⟨timed, added⟩ := MemoryStore.insert_of_known there clock
    rw [added]
    exact ⟨.replies (.answers _), mirrors.append fresh timed columnar columnar⟩

/-- A revision replaces the rows of the articles that it replaces. -/
theorem map_revised {revision : Revision} {now : Timestamp} {article : Article} (keyed : store.Keyed)
    (there : store.article? revision.id = some article) :
    (store.articles.map ArticleRow.ofArticle).map (Tables.revised revision now)
      = (replaceIn (article.revise revision now) store.articles).map ArticleRow.ofArticle := by
  have sameId : article.id = revision.id := MemoryStore.id_of_article? there
  have meant : (article.revise revision now).id = revision.id := sameId
  rw [replaceIn, meant, List.map_map, List.map_map]
  apply List.map_congr_left
  intro other among
  rw [Function.comp_apply, Function.comp_apply, Tables.revised, isOf_ofArticle]
  by_cases same : other.id = revision.id
  · have found := MemoryStore.article?_of_mem keyed among
    rw [same, there] at found
    rw [if_pos (decide_eq_true same), if_pos same, Option.some.inj found, ArticleRow.ofArticle_revise]
  · rw [if_neg (by simpa using same), if_neg same]

theorem map_revised_of_absent {revision : Revision} {now : Timestamp} (absent : store.article? revision.id = none) :
    (store.articles.map ArticleRow.ofArticle).map (Tables.revised revision now)
      = store.articles.map ArticleRow.ofArticle := by
  rw [List.map_map]
  apply List.map_congr_left
  intro other among
  have apart := List.find?_eq_none.mp absent other among
  rw [Function.comp_apply, Tables.revised, isOf_ofArticle, if_neg apart]

theorem replace {revision : Revision} {now : Timestamp} {article : Article} (mirrors : Mirrors store tables)
    (there : store.article? revision.id = some article) (timed : (article.revise revision now).LeapsEndMinutes)
    (columnar : now.Columnar) : Mirrors (store.put (article.revise revision now) timed) { tables with
      articles := some ((store.articles.map ArticleRow.ofArticle).map (Tables.revised revision now)) } := by
  have sameId : article.id = revision.id := MemoryStore.id_of_article? there
  have meant : (article.revise revision now).id = revision.id := sameId
  have present : store.article? (article.revise revision now).id = some article := by rw [meant, there]
  refine ⟨?_, ?_, MemoryStore.keyed_put mirrors.keyed, ?_, ?_⟩
  · rw [MemoryStore.authors_put]
    exact mirrors.authors
  · rw [MemoryStore.articles_put_of_there timed present, map_revised mirrors.keyed there]
  · intro other among
    rcases MemoryStore.mem_put among with rfl | old
    · exact mirrors.created article (List.mem_of_find?_eq_some there)
    · exact mirrors.created other old
  · intro other among
    rcases MemoryStore.mem_put among with rfl | old
    · exact columnar
    · exact mirrors.updated other old

theorem update (mirrors : Mirrors store tables) (revision : Revision) (inRange : world.clock.InRange) :
    AlikeOutcomes (store.update world revision).1 (tables.update world revision).1 ∧
      Mirrors (store.update world revision).2 (tables.update world revision).2 := by
  obtain ⟨now, clock, columnar⟩ := inRange.timestamp_eq_ok
  obtain ⟨changed, answer⟩ := Tables.update_eq mirrors.articles clock
  have rowThere : _ = (store.article? revision.id).map ArticleRow.ofArticle :=
    find?_ofArticle store.articles revision.id
  rw [rowThere] at answer
  rw [changed, answer]
  cases there : store.article? revision.id with
  | none =>
    rw [MemoryStore.update_of_absent there, map_revised_of_absent there, ← mirrors.articles]
    exact ⟨.replies (.answers none), mirrors⟩
  | some article =>
    have reads := ArticleRow.reads_ofArticle (mirrors.created article (List.mem_of_find?_eq_some there))
      (mirrors.updated article (List.mem_of_find?_eq_some there))
    obtain ⟨timed, replaced⟩ := MemoryStore.update_of_there there clock
    rw [replaced]
    -- The clock shows a moment that columns keep, and the revised row is read back.
    refine ⟨?_, mirrors.replace there timed columnar⟩
    simp only [Option.map_some, ArticleRow.readArticle_columns.mpr (reads.revise columnar)]
    exact .replies (.answers _)

theorem delete (mirrors : Mirrors store tables) (id : Uuid) :
    (tables.delete id).1 = .ok (store.delete id).1 ∧ Mirrors (store.delete id).2 (tables.delete id).2 := by
  have isOf : Tables.isOf id ∘ ArticleRow.ofArticle = fun article => decide (article.id = id) := by
    funext article
    rw [Function.comp_apply, isOf_ofArticle]
  have isNotOf : (fun row => !Tables.isOf id row) ∘ ArticleRow.ofArticle = fun article => decide (article.id ≠ id) := by
    funext article
    rw [Function.comp_apply, isOf_ofArticle, decide_not]
  rw [Tables.delete_of_there id mirrors.articles mirrors.authors, List.filter_map, List.filter_map, isOf, isNotOf,
    List.length_map]
  cases there : store.article? id with
  | none =>
    have apart (article : Article) (among : article ∈ store.articles) : ¬decide (article.id = id) = true :=
      List.find?_eq_none.mp there article among
    have none : (store.articles.filter fun article => article.id = id) = [] := List.filter_eq_nil_iff.mpr apart
    have all : (store.articles.filter fun article => article.id ≠ id) = store.articles := by
      rw [List.filter_eq_self]
      intro article among
      simpa using apart article among
    have same : store.delete id = (0, store) := by
      rw [MemoryStore.delete, there]
      rfl
    rw [same, none, all, ← mirrors.articles]
    exact ⟨rfl, mirrors⟩
  | some article =>
    have present : (store.article? id).isSome = true := by rw [there, Option.isSome_some]
    have keyed : (store.delete id).2.Keyed := MemoryStore.keyed_delete mirrors.keyed
    have some := length_filter_pos present
    -- No two articles have the same identifier.
    have one : (store.articles.filter fun article => article.id = id).length ≤ 1 := by
      apply length_filter_le_one
      apply (List.pairwise_map.mp mirrors.keyed).imp
      rintro left right apart ⟨isLeft, isRight⟩
      exact apart ((of_decide_eq_true isLeft).trans (of_decide_eq_true isRight).symm)
    have exactly : (store.articles.filter fun article => article.id = id).length = 1 := by omega
    rw [MemoryStore.delete, if_pos present] at keyed ⊢
    rw [exactly]
    refine ⟨rfl, mirrors.authors, rfl, keyed, ?_, ?_⟩
    · intro other left
      exact mirrors.created other (List.mem_filter.mp left).1
    · intro other left
      exact mirrors.updated other (List.mem_filter.mp left).1

end Mirrors

/-! ## Runs -/

inductive Demand
  | addAuthor (author : Author)
  | request (request : StoreRequest)
  deriving DecidableEq, Repr

abbrev Demand.Answer : Demand → Type
  | .addAuthor _ => Unit
  | .request asked => asked.Answer

def StoreKind.meet (kind : StoreKind) (world : Surroundings) (store : kind.State) :
    (demand : Demand) → StoreOutcome demand.Answer × kind.State
  | .addAuthor author =>
    let (reply, store) := kind.addAuthor author store
    (.ok reply, store)
  | .request request => kind.backend world request store

def StoreRequest.isByTitle : StoreRequest → Bool
  | .countByTitle _ => true
  | .search _ _ _ => true
  | _ => false

/-- A demand that is not for articles by their titles, in the years from 1970 to 9999, when there are not too many
articles and a new one gets a new identifier. -/
structure Demand.Fitting (demand : Demand) (world : Surroundings) (store : MemoryStore) : Prop where
  inRange : world.clock.InRange
  few : store.articles.length < 2 ^ 63
  notByTitle : ∀ request, demand = .request request → request.isByTitle = false
  fresh : ∀ draft, demand = .request (.insert draft) → store.article? (.random world.random) = none

def Fitting : List (Surroundings × Demand) → MemoryStore → Prop
  | [], _ => True
  | (world, demand) :: demands, store =>
    demand.Fitting world store ∧ Fitting demands (StoreKind.meet .memory world store demand).2

/-- The store in memory and the one in a database answer every demand alike. -/
def Agree : List (Surroundings × Demand) → MemoryStore → Tables → Prop
  | [], _, _ => True
  | (world, demand) :: demands, store, tables =>
    AlikeOutcomes (StoreKind.meet .memory world store demand).1 (StoreKind.meet .database world tables demand).1 ∧
      Agree demands (StoreKind.meet .memory world store demand).2 (StoreKind.meet .database world tables demand).2

/-- The mirror gives what the store gives, and stays its mirror. -/
theorem Mirrors.meet {store : MemoryStore} {tables : Tables} {world : Surroundings} {demand : Demand}
    (mirrors : Mirrors store tables) (fitting : demand.Fitting world store) :
    AlikeOutcomes (StoreKind.meet .memory world store demand).1 (StoreKind.meet .database world tables demand).1 ∧
      Mirrors (StoreKind.meet .memory world store demand).2 (StoreKind.meet .database world tables demand).2 := by
  -- Requests that change something have lemmas of their own. The others leave the mirror as it is.
  cases demand with
  | addAuthor author =>
    obtain ⟨alike, stays⟩ := mirrors.addAuthor author
    exact ⟨.replies alike, stays⟩
  | request request =>
    cases request with
    | insert draft => exact mirrors.insert draft fitting.inRange (fitting.fresh draft rfl)
    | update revision => exact mirrors.update revision fitting.inRange
    | delete id =>
      obtain ⟨same, stays⟩ := mirrors.delete id
      refine ⟨.replies ?_, stays⟩
      show AlikeReplies (.ok (store.delete id).1) (Tables.delete id tables).1
      rw [same]
      exact .answers _
    | get id =>
      refine ⟨.replies ?_, mirrors⟩
      show AlikeReplies (.ok (store.bylined? id)) ((Tables.get id tables).mapError (articleError (some id)))
      rw [mirrors.get id]
      exact .answers _
    | count =>
      refine ⟨.replies ?_, mirrors⟩
      show AlikeReplies (.ok store.articles.length.toUInt64)
        ((Tables.articleRows tables |>.map fun rows => rows.length.toUInt64).mapError (articleError none))
      rw [mirrors.articleRows, Except.map, List.length_map]
      exact .answers _
    | list offset limit =>
      refine ⟨.replies ?_, mirrors⟩
      show AlikeReplies (.ok (pageOf (MemoryStore.sorted store.articles) offset limit))
        ((Tables.list offset limit tables).mapError (articleError none))
      rw [mirrors.list offset limit fitting.few]
      exact .answers _
    | countByTitle needle => cases fitting.notByTitle _ rfl
    | search needle offset limit => cases fitting.notByTitle _ rfl

theorem Mirrors.agree {demands : List (Surroundings × Demand)} {store : MemoryStore} {tables : Tables}
    (mirrors : Mirrors store tables) (fitting : Fitting demands store) : Agree demands store tables := by
  induction demands generalizing store tables with
  | nil => exact trivial
  | cons first demands inductionHypothesis =>
    obtain ⟨now, later⟩ := fitting
    obtain ⟨alike, stays⟩ := mirrors.meet now
    exact ⟨alike, inductionHypothesis stays later⟩

/-- The two kinds of stores, both new, agree on whatever is asked of them. -/
theorem agree_of_fitting {demands : List (Surroundings × Demand)} (fitting : Fitting demands .empty) :
    Agree demands .empty Tables.empty.create :=
  mirrors_new.agree fitting

/-- An author who comes twice, an article of hers and one of nobody, a revision and a listing. -/
def aDayAtTheDesk : List (Surroundings × Demand) :=
  let world : Surroundings := ⟨⟨1700000000123456789⟩, 7⟩
  [(world, .addAuthor ⟨⟨1⟩, "Ada", "Lovelace"⟩), (world, .addAuthor ⟨⟨1⟩, "Ada", "Byron"⟩),
    (world, .request (.insert ⟨⟨1⟩, "Notes", "On the engine", none, "science"⟩)),
    ({ world with random := 8 }, .request (.insert ⟨⟨2⟩, "Notes", "On nothing", none, "science"⟩)),
    (world, .request (.update ⟨.random 7, "Notes", "Revised", some "engine.png", "science"⟩)),
    (world, .request (.list 0 10))]

theorem agree_aDayAtTheDesk : Fitting aDayAtTheDesk .empty ∧ Agree aDayAtTheDesk .empty Tables.empty.create := by
  have fitting : Fitting aDayAtTheDesk .empty := by
    refine ⟨⟨by decide, by decide, ?_, nofun⟩, ⟨by decide, by decide, ?_, nofun⟩,
      ⟨by decide, by decide, ?_, fun _ _ => rfl⟩, ⟨by decide, by decide, ?_, fun _ _ => rfl⟩,
      ⟨by decide, by decide, ?_, nofun⟩, ⟨by decide, by decide, ?_, nofun⟩, trivial⟩ <;>
    rintro request ⟨⟩ <;> rfl
  exact ⟨fitting, agree_of_fitting fitting⟩

end Gazette
