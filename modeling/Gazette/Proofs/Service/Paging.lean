import Gazette.Proofs.Article.Page
import Gazette.Proofs.Service.Isolation
import Gazette.Proofs.Store.Run
import Gazette.Proofs.Store.Search

/-!
# Pages of what a query finds

* `StoreKind.Reached`: the states that a new store of either kind comes to. In each of them it keeps the articles of a
  store in memory, each with another identifier: `StoreKind.Reached.exists_mirrored`.
* `Query.Answers`: a store counts the articles that a query finds and gives any page of them.
* `exists_divides`: pages of one size divide what a query finds, in the order of listings, each article on one page.
-/

namespace Gazette

open Database (Tables ArticleRow Pattern.Contains)

/-! ## States that stores come to -/

namespace StoreKind

variable {kind : StoreKind} {store : kind.State} {world : Surroundings}

/-- A state that a new store comes to in the years from 1970 to 9999, with never too many articles to be numbered. -/
inductive Reached (kind : StoreKind) : kind.State → Prop
  | new : Reached kind kind.new
  | meet {store : kind.State} (before : Reached kind store) (world : Surroundings) (demand : Demand)
    (inRange : world.clock.InRange) (few : kind.articleCount (kind.meet world store demand).2 < 2 ^ 63) :
    Reached kind (kind.meet world store demand).2

theorem Reached.few (reached : kind.Reached store) : kind.articleCount store < 2 ^ 63 := by
  cases reached with
  | new => cases kind <;> decide
  | meet _ _ _ _ few => exact few

/-- What a store of either kind keeps is what a store in memory might keep. -/
theorem Reached.exists_mirrored (reached : kind.Reached store) : ∃ original, kind.Mirrored original store := by
  induction reached with
  | new => exact ⟨_, mirrored_new kind⟩
  | meet before world demand inRange few inductionHypothesis =>
    obtain ⟨original, mirrored⟩ := inductionHypothesis
    exact mirrored.exists_meet inRange

end StoreKind

/-! ## Queries -/

inductive Query
  | all
  | titled (needle : String)
  deriving DecidableEq, Repr

namespace Query

variable {kind : StoreKind} {query : Query} {store : kind.State} {original : MemoryStore}

def program : Query → Page → Program (Except StoreError Listing)
  | all, page => Service.list page
  | titled needle, page => Service.search needle page

def count (kind : StoreKind) (world : Surroundings) (store : kind.State) : Query → StoreOutcome UInt64
  | all => (kind.backend world .count store).1
  | titled needle => (kind.backend world (.countByTitle needle) store).1

def rows (kind : StoreKind) (world : Surroundings) (store : kind.State) (offset limit : UInt64) :
    Query → StoreOutcome (List Article)
  | all => (kind.backend world (.list offset limit) store).1
  | titled needle => (kind.backend world (.search needle offset limit) store).1

/-- Whether a store of some kind finds an article: the kinds differ in how they look for titles. -/
def finds : Query → StoreKind → Article → Bool
  | all, _, _ => true
  | titled needle, .memory, article => MemoryStore.titleContains article.title needle
  | titled needle, .database, article => Pattern.Contains article.title.toList needle.toList

structure Answers (query : Query) (kind : StoreKind) (store : kind.State) (found : List Article) : Prop where
  count : ∀ world, query.count kind world store = .ok (.ok found.length.toUInt64)
  rows : ∀ world offset limit, query.rows kind world store offset limit = .ok (.ok (pageOf found offset limit))

theorem filter_finds_all (kind : StoreKind) (articles : List Article) : articles.filter (all.finds kind) = articles :=
  List.filter_eq_self.mpr fun _ _ => rfl

theorem answers_all (mirrored : kind.Mirrored original store) (few : original.articles.length < 2 ^ 63) :
    all.Answers kind store (MemoryStore.sorted original.articles) where
  count world := by
    rw [MemoryStore.length_sorted]
    exact mirrored.count_eq world
  rows world offset limit := mirrored.list_of_few few world offset limit

theorem answers_titled_memory (needle : String) (store : MemoryStore) :
    (titled needle).Answers .memory store (MemoryStore.sorted (store.matching needle)) where
  count world := by
    rw [MemoryStore.length_sorted]
    rfl
  rows _ _ _ := rfl

theorem answers_titled_database {needle : String} {tables : Tables} (mirrors : Mirrors original tables)
    (few : original.articles.length < 2 ^ 63) (takes : Takes needle original.articles) :
    (titled needle).Answers .database tables (MemoryStore.sorted (accepted needle original.articles)) := by
  constructor
  · intro world
    rw [MemoryStore.length_sorted]
    exact mirrors.holds.count takes world
  · intro world offset limit
    exact mirrors.holds.page few takes world offset limit

theorem answers_titled {needle : String} (mirrored : kind.Mirrored original store)
    (few : original.articles.length < 2 ^ 63) (takes : kind = .database → Takes needle original.articles) :
    (titled needle).Answers kind store
      (MemoryStore.sorted (original.articles.filter ((titled needle).finds kind))) := by
  cases kind with
  | memory =>
    obtain ⟨rfl, _⟩ := mirrored
    exact answers_titled_memory needle store
  | database => exact answers_titled_database mirrored few (takes rfl)

/-- A needle that is counted is taken. -/
theorem takes_of_count {needle : String} {world : Surroundings} {total : UInt64}
    (mirrored : kind.Mirrored original store) (counted : (titled needle).count kind world store = .ok (.ok total)) :
    kind = .database → Takes needle original.articles := by
  rintro rfl
  by_contra refuses
  have refused := Mirrors.holds mirrored |>.count_of_not_takes refuses world
  cases refused.symm.trans counted

/-- A query that is counted is answered, with the articles that it finds in the order of listings. -/
theorem answers_of_count {world : Surroundings} {total : UInt64} (mirrored : kind.Mirrored original store)
    (few : original.articles.length < 2 ^ 63) (counted : query.count kind world store = .ok (.ok total)) :
    query.Answers kind store (MemoryStore.sorted (original.articles.filter (query.finds kind))) := by
  cases query with
  | all =>
    rw [filter_finds_all]
    exact answers_all mirrored few
  | titled needle => exact answers_titled mirrored few (takes_of_count mirrored counted)

end Query

/-! ## Pages -/

def StoreKind.Keeps : (kind : StoreKind) → kind.State → List Article → Prop
  | .memory, store, articles => store.articles = articles
  | .database, tables, articles => ∃ rows, tables.articles = some rows ∧ Tables.readRows rows = .ok articles

namespace Query

variable {kind : StoreKind} {query : Query} {store : kind.State} {original : MemoryStore} {found : List Article}

/-- Whatever the cache does, a caller who asks for a page and does not cancel gets this listing. The store stays. -/
def Shows (query : Query) (kind : StoreKind) (store : kind.State) (page : Page) (listing : Listing) : Prop :=
  ∀ {τ : Type} (cache : CacheBackend τ) (world : Surroundings) (now : Instant) (fates : (call : Call) → Fate call)
    (cached : τ), (∀ call, (fates call).Uncancelled) →
      let run := Session.run ⟨kind.backend, cache, world, now⟩ fates false (query.program page) store cached
      run.outcome = .ok (.ok listing) ∧ run.state.store = store

/-- How the pages of one size divide what a query finds. -/
structure Divides (query : Query) (kind : StoreKind) (store : kind.State) (size : UInt32) (found : List Article)
    (listings : Page → Listing) : Prop where
  shows : ∀ page, page.size = size → query.Shows kind store page (listings page)
  exactly : ∃ articles, kind.Keeps store articles ∧ found.Perm (articles.filter (query.finds kind))
  ascending : found.Pairwise fun left right => left.compare right = .lt
  joined : ((Page.upTo size (Page.filled size found.length)).flatMap fun page => (listings page).articles) = found
  counted : ∀ page, page.size = size → (listings page).totalCount.toNat = found.length ∧
    (listings page).totalPages.toNat = Page.filled size found.length
  length : ∀ page, page.size = size →
    (listings page).articles.length = min size.toNat (found.length - (page.number.toNat - 1) * size.toNat)
  beyond : ∀ page, page.size = size → Page.filled size found.length < page.number.toNat → (listings page).articles = []
  hasMore : ∀ page, page.size = size → ((listings page).hasMore = true ↔
    ∃ next : Page, next.size = size ∧ next.number.toNat = page.number.toNat + 1 ∧ (listings next).articles ≠ [])

theorem toNat_toUInt64_of_few {count : Nat} (few : count < 2 ^ 63) : count.toUInt64.toNat = count :=
  UInt64.toNat_ofNat_of_lt (Nat.lt_trans few (by decide))

def listing (found : List Article) (page : Page) : Listing :=
  page.listing found.length.toUInt64 (pageOf found page.offset page.limit)

/-- A page of a query is made of what the store counts and finds. -/
theorem fromStore_program {τ : Type} {cache : CacheBackend τ} {world : Surroundings} {now : Instant}
    {fates : (call : Call) → Fate call} {session : Session kind.State τ} (query : Query) (page : Page)
    (live : session.cancelled = false) (served : ∀ request, fates (.store request) = .served) :
    FromStore ((query.program page).final (Session.handler ⟨kind.backend, cache, world, now⟩ fates) session)
      (Operation.listing page (fun store => (query.rows kind world store page.offset page.limit, store))
        (query.count kind world session.store, session.store)) session.cache := by
  -- Both queries are counted and then read, by two requests that leave the store as it is.
  cases query with
  | all =>
    have counted : kind.backend world .count session.store = (all.count kind world session.store, session.store) :=
      StoreKind.backend_of_isReading world rfl _
    have read : kind.backend world (.list page.offset page.limit)
        = fun store => (all.rows kind world store page.offset page.limit, store) :=
      funext (StoreKind.backend_of_isReading world rfl)
    rw [← counted, ← read]
    exact Service.fromStore_list live served
  | titled needle =>
    have counted : kind.backend world (.countByTitle needle) session.store
        = ((titled needle).count kind world session.store, session.store) :=
      StoreKind.backend_of_isReading world rfl _
    have read : kind.backend world (.search needle page.offset page.limit)
        = fun store => ((titled needle).rows kind world store page.offset page.limit, store) :=
      funext (StoreKind.backend_of_isReading world rfl)
    rw [← counted, ← read]
    exact Service.fromStore_search live served

theorem Answers.shows (answers : query.Answers kind store found) (page : Page) :
    query.Shows kind store page (listing found page) := by
  intro τ cache world now fates cached uncancelled
  have given : FromStore ((query.program page).final (Session.handler ⟨kind.backend, cache, world, now⟩ fates)
      ⟨store, cached, false, []⟩) _ _ :=
    fromStore_program query page rfl fun request => uncancelled (.store request)
  simp only [answers.count, Operation.listing, answers.rows] at given
  exact ⟨given.outcome, given.store⟩

variable {size : UInt32}

theorem length_listing (found : List Article) (page : Page) :
    (listing found page).articles.length
      = min page.size.toNat (found.length - (page.number.toNat - 1) * page.size.toNat) := by
  show (pageOf found page.offset page.limit).length = _
  rw [Page.pageOf_eq, List.length_take, List.length_drop]

/-- There are no rows behind as many pages as are filled. -/
theorem articles_listing_of_beyond (sized : size ≠ 0) {page : Page} (same : page.size = size)
    (beyond : Page.filled size found.length < page.number.toNat) : (listing found page).articles = [] := by
  subst same
  show pageOf found page.offset page.limit = []
  rw [Page.pageOf_eq_nil]
  calc found.length
      ≤ Page.filled page.size found.length * page.size.toNat := Page.le_filled_mul sized found.length
    _ ≤ (page.number.toNat - 1) * page.size.toNat := Nat.mul_le_mul_right _ (by omega)

theorem hasMore_listing (few : found.length < 2 ^ 63) (sized : size ≠ 0)
    (fits : Page.filled size found.length < 2 ^ 32) {page : Page} (same : page.size = size) :
    (listing found page).hasMore = true ↔
      ∃ next : Page, next.size = size ∧ next.number.toNat = page.number.toNat + 1 ∧
        (listing found next).articles ≠ [] := by
  subst same
  have behind {next : Page} (size : next.size = page.size) (number : next.number.toNat = page.number.toNat + 1) :
      (listing found next).articles ≠ [] ↔ page.number.toNat * page.size.toNat < found.length := by
    show pageOf found next.offset next.limit ≠ [] ↔ _
    rw [Ne, Page.pageOf_eq_nil, size, number, Nat.add_sub_cancel, Nat.not_le]
  show page.hasMore found.length.toUInt64 = true ↔ _
  rw [Page.hasMore_iff, toNat_toUInt64_of_few few]
  constructor
  · intro more
    -- The next page is one of those that are filled, so that there is a number for it.
    have within : page.number.toNat < Page.filled page.size found.length := by
      have rows := Page.le_filled_mul sized found.length
      exact Nat.lt_of_mul_lt_mul_right (Nat.lt_of_lt_of_le more rows)
    have fewer : page.number.toNat + 1 < 2 ^ 32 := by omega
    obtain ⟨next, number, size, _⟩ := Page.upTo_succ sized fewer
    exact ⟨next, size, number, (behind size number).mpr more⟩
  · rintro ⟨next, size, number, some⟩
    exact (behind size number).mp some

/-- What a query finds is divided by its pages. -/
theorem Answers.divides (answers : query.Answers kind store found) (few : found.length < 2 ^ 63) (sized : size ≠ 0)
    (fits : Page.filled size found.length < 2 ^ 32)
    (exactly : ∃ articles, kind.Keeps store articles ∧ found.Perm (articles.filter (query.finds kind)))
    (ascending : found.Pairwise fun left right => left.compare right = .lt) :
    query.Divides kind store size found (listing found) where
  shows page _ := answers.shows page
  exactly := exactly
  ascending := ascending
  joined := by
    have rows := Page.flatMap_upTo sized fits found
    rwa [List.take_of_length_le (Page.le_filled_mul sized found.length)] at rows
  counted := by
    rintro page rfl
    have total : found.length.toUInt64.toNat = found.length := toNat_toUInt64_of_few few
    have pages := page.toNat_pageCount found.length.toUInt64
    rw [total] at pages
    exact ⟨total, pages⟩
  length := by
    rintro page rfl
    exact length_listing found page
  beyond page same := articles_listing_of_beyond sized same
  hasMore page same := hasMore_listing few sized fits same

end Query

theorem StoreKind.Mirrored.keeps {kind : StoreKind} {original : MemoryStore} {store : kind.State}
    (mirrored : kind.Mirrored original store) : kind.Keeps store original.articles := by
  cases kind with
  | memory =>
    obtain ⟨rfl, _⟩ := mirrored
    rfl
  | database =>
    have mirrors : Mirrors original store := mirrored
    exact ⟨_, mirrors.articles, readRows_ofArticle mirrors.created mirrors.updated⟩

/-- The pages of any size divide what a query finds in a store, as long as they can be numbered. -/
theorem exists_divides {kind : StoreKind} {store : kind.State} {query : Query} {world : Surroundings} {total : UInt64}
    {size : UInt32} (reached : kind.Reached store) (counted : query.count kind world store = .ok (.ok total))
    (sized : size ≠ 0) (fits : Page.filled size total.toNat < 2 ^ 32) :
    ∃ found listings, query.Divides kind store size found listings := by
  obtain ⟨original, mirrored⟩ := reached.exists_mirrored
  have few : original.articles.length < 2 ^ 63 := mirrored.articleCount_eq ▸ reached.few
  have answers := Query.answers_of_count mirrored few counted
  have fewer : (MemoryStore.sorted (original.articles.filter (query.finds kind))).length < 2 ^ 63 := by
    rw [MemoryStore.length_sorted]
    exact Nat.lt_of_le_of_lt (List.length_filter_le _ _) few
  -- The count is the one that was given.
  have same := answers.count world
  rw [counted] at same
  cases same
  rw [Query.toNat_toUInt64_of_few fewer] at fits
  refine ⟨_, _, answers.divides fewer sized fits ⟨original.articles, mirrored.keeps, MemoryStore.perm_sorted _⟩ ?_⟩
  exact MemoryStore.ascending_sorted (mirrored.keyed.sublist (List.filter_sublist.map _))

/-- Two articles of one author, created at the same time. -/
def aPair : MemoryStore :=
  let world : Surroundings := ⟨⟨1700000000123456789⟩, 7⟩
  let known := (StoreKind.memory.meet world StoreKind.memory.new (.addAuthor ⟨⟨1⟩, "Ada", "Lovelace"⟩)).2
  let first := (StoreKind.memory.meet world known
    (.request (.insert ⟨⟨1⟩, "Notes", "On the engine", none, "science"⟩))).2
  (StoreKind.memory.meet ⟨world.clock, 8⟩ first
    (.request (.insert ⟨⟨1⟩, "More notes", "On its cards", none, "science"⟩))).2

theorem exists_divides_aPair :
    StoreKind.memory.Reached aPair ∧
      (Query.titled "NOTES").count .memory ⟨⟨0⟩, 0⟩ aPair = .ok (.ok 2) ∧ Page.filled 1 (2 : UInt64).toNat < 2 ^ 32 ∧
      ∃ found listings, (Query.titled "NOTES").Divides .memory aPair 1 found listings := by
  have reached : StoreKind.memory.Reached aPair :=
    .meet (.meet (.meet .new _ _ (by decide) (by decide)) _ _ (by decide) (by decide)) _ _ (by decide) (by decide)
  have counted : (Query.titled "NOTES").count .memory ⟨⟨0⟩, 0⟩ aPair = .ok (.ok 2) := by decide
  have fits : Page.filled 1 (2 : UInt64).toNat < 2 ^ 32 := by decide
  exact ⟨reached, counted, fits, exists_divides reached counted (by decide) fits⟩

end Gazette
