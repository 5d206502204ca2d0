import Gazette.Proofs.Store.Mirror
import Gazette.Proofs.Store.Order

/-!
# What stores come to

* `StoreKind.run`: a store of either kind after demands, one after another.
* `StoreKind.Mirrored`: a store keeps what a store in memory keeps, and so answers as that one does.
* `StoreKind.Mirrored.exists_request`: that stays so whatever is asked for in the years from 1970 to 9999, be the
  identifier of a new article taken or not.
-/

namespace Gazette

open Database (Tables ArticleRow idCell rowCount articleError)

namespace StoreKind

variable {kind : StoreKind} {store : kind.State} {world : Surroundings} {original : MemoryStore}

def run (kind : StoreKind) : List (Surroundings × Demand) → kind.State → kind.State
  | [], store => store
  | (world, demand) :: demands, store => kind.run demands (kind.meet world store demand).2

theorem run_append (earlier later : List (Surroundings × Demand)) (store : kind.State) :
    kind.run (earlier ++ later) store = kind.run later (kind.run earlier store) := by
  induction earlier generalizing store with
  | nil => rfl
  | cons first earlier inductionHypothesis => exact inductionHypothesis _

/-! ## What is kept -/

abbrev Row : StoreKind → Type
  | memory => Article
  | database => ArticleRow

abbrev AuthorRow : StoreKind → Type
  | memory => Author
  | database => Database.AuthorRow

def row : (kind : StoreKind) → Article → kind.Row
  | memory, article => article
  | database, article => .ofArticle article

def authorRow : (kind : StoreKind) → Author → kind.AuthorRow
  | memory, author => author
  | database, author => .ofAuthor author

def rows : (kind : StoreKind) → kind.State → List kind.Row
  | memory, store => store.articles
  | database, tables => tables.articles.getD []

def authorRows : (kind : StoreKind) → kind.State → List kind.AuthorRow
  | memory, store => store.authors
  | database, tables => tables.authors.getD []

def knows : (kind : StoreKind) → Uuid → kind.State → Bool
  | memory, id, store => (store.author? id).isSome
  | database, id, tables => (tables.authors.getD []).any fun author => author.id.same (idCell id)

def articleCount : (kind : StoreKind) → kind.State → Nat
  | memory, store => store.articles.length
  | database, tables => (tables.articles.getD []).length

/-- A page as a store of some kind cuts it out. The database counts rows with a number of 63 bits. -/
def page : StoreKind → List Article → UInt64 → UInt64 → List Article
  | memory, articles, offset, limit => pageOf articles offset limit
  | database, articles, offset, limit => (articles.drop (rowCount offset)).take (rowCount limit)

theorem page_of_few {articles : List Article} (few : articles.length < 2 ^ 63) (offset limit : UInt64) :
    kind.page articles offset limit = pageOf articles offset limit := by
  cases kind with
  | memory => rfl
  | database =>
    rw [page, drop_rowCount few, take_rowCount, pageOf]
    rw [List.length_drop]
    omega

theorem page_map (kind : StoreKind) (change : Article → Article) (articles : List Article) (offset limit : UInt64) :
    kind.page (articles.map change) offset limit = (kind.page articles offset limit).map change := by
  cases kind with
  | memory => rw [page, page, pageOf, pageOf, List.map_take, List.map_drop]
  | database => rw [page, page, List.map_take, List.map_drop]

/-! ## Stores that keep the same -/

/-- A store that keeps what a store in memory keeps, which may be itself. -/
def Mirrored : (kind : StoreKind) → MemoryStore → kind.State → Prop
  | memory, original, store => store = original ∧ original.Keyed
  | database, original, tables => Mirrors original tables

theorem mirrored_new (kind : StoreKind) : kind.Mirrored .empty kind.new := by
  cases kind with
  | memory => exact ⟨rfl, MemoryStore.keyed_empty⟩
  | database => exact mirrors_new

end StoreKind

theorem AlikeReplies.refl {α : Type} (reply : Except StoreError α) : AlikeReplies reply reply := by
  cases reply with
  | error error => exact .errors (.same error)
  | ok answer => exact .answers answer

theorem AlikeOutcomes.refl {α : Type} (outcome : StoreOutcome α) : AlikeOutcomes outcome outcome := by
  cases outcome with
  | error crash => exact .crashes crash
  | ok reply => exact .replies (.refl reply)

/-- An answer is alike to itself only. -/
theorem AlikeOutcomes.eq_answer {α : Type} {answer : α} {outcome : StoreOutcome α}
    (alike : AlikeOutcomes (.ok (.ok answer)) outcome) : outcome = .ok (.ok answer) := by
  cases alike with
  | replies alike =>
    cases alike with
    | answers => rfl

theorem AlikeOutcomes.answer_eq {α : Type} {answer : α} {outcome : StoreOutcome α}
    (alike : AlikeOutcomes outcome (.ok (.ok answer))) : outcome = .ok (.ok answer) := by
  cases alike with
  | replies alike =>
    cases alike with
    | answers => rfl

namespace Mirrors

variable {original : MemoryStore} {tables : Tables} {world : Surroundings}

/-- An identifier that is taken is refused. -/
theorem insert_of_taken {draft : Draft} (mirrors : Mirrors original tables)
    (taken : (original.article? (.random world.random)).isSome) : (tables.insert world draft).2 = tables := by
  have there : (original.articles.map ArticleRow.ofArticle).any (Tables.isOf (.random world.random)) = true :=
    (any_ofArticle original.articles (.random world.random)).trans taken
  cases clock : world.clock.timestamp with
  | error crash => simp only [Tables.insert, clock]
  | ok now => rw [Tables.insert_of_there draft mirrors.articles mirrors.authors clock, if_pos there]

/-- After a request the tables mirror what the store in memory comes to by it, or what it was before. -/
theorem exists_request {request : StoreRequest} (mirrors : Mirrors original tables) (inRange : world.clock.InRange) :
    ∃ next, Mirrors next (Tables.backend world request tables).2 ∧
      (next = original ∨ next = (MemoryStore.backend world request original).2) := by
  by_cases reading : request.isReading
  · refine ⟨original, ?_, .inl rfl⟩
    show Mirrors original (StoreKind.database.backend world request tables).2
    rw [StoreKind.state_of_isReading reading]
    exact mirrors
  · cases request with
    | insert draft =>
      cases taken : original.article? (.random world.random) with
      | none => exact ⟨_, (mirrors.insert draft inRange taken).2, .inr rfl⟩
      | some article =>
        have same : (Tables.backend world (.insert draft) tables).2 = tables :=
          mirrors.insert_of_taken (Option.isSome_of_mem taken)
        rw [same]
        exact ⟨original, mirrors, .inl rfl⟩
    | update revision => exact ⟨_, (mirrors.update revision inRange).2, .inr rfl⟩
    | delete id => exact ⟨_, (mirrors.delete id).2, .inr rfl⟩
    | _ => exact absurd rfl reading

end Mirrors

namespace StoreKind.Mirrored

variable {kind : StoreKind} {store : kind.State} {world : Surroundings} {original : MemoryStore}

/-! ## Reading what is mirrored -/

theorem keyed (mirrored : kind.Mirrored original store) : original.Keyed := by
  cases kind with
  | memory => exact mirrored.2
  | database => exact Mirrors.keyed mirrored

theorem authorRows_eq (mirrored : kind.Mirrored original store) :
    kind.authorRows store = original.authors.map kind.authorRow := by
  cases kind with
  | memory =>
    obtain ⟨rfl, _⟩ := mirrored
    exact (List.map_id _).symm
  | database =>
    show (Tables.authors store).getD [] = _
    rw [Mirrors.authors mirrored]
    rfl

theorem articleCount_eq (mirrored : kind.Mirrored original store) :
    kind.articleCount store = original.articles.length := by
  cases kind with
  | memory =>
    obtain ⟨rfl, _⟩ := mirrored
    rfl
  | database =>
    show ((Tables.articles store).getD []).length = _
    rw [Mirrors.articles mirrored, Option.getD_some, List.length_map]

theorem holds_eq (mirrored : kind.Mirrored original store) (id : Uuid) :
    kind.holds id store = (original.article? id).isSome := by
  cases kind with
  | memory =>
    obtain ⟨rfl, _⟩ := mirrored
    rfl
  | database =>
    show ((Tables.articles store).getD []).any (Tables.isOf id) = _
    rw [Mirrors.articles mirrored, Option.getD_some]
    exact any_ofArticle original.articles id

theorem find_eq (mirrored : kind.Mirrored original store) (id : Uuid) :
    kind.find id store = .ok (original.bylined? id) := by
  cases kind with
  | memory =>
    obtain ⟨rfl, _⟩ := mirrored
    rfl
  | database =>
    show (Tables.get id store).mapError _ = _
    rw [Mirrors.get mirrored]
    rfl

theorem count_eq (mirrored : kind.Mirrored original store) (world : Surroundings) :
    (kind.backend world .count store).1 = .ok (.ok original.articles.length.toUInt64) := by
  cases kind with
  | memory =>
    obtain ⟨rfl, _⟩ := mirrored
    rfl
  | database =>
    show Except.ok (((Tables.articleRows store).map _).mapError _) = _
    rw [Mirrors.articleRows mirrored, Except.map, List.length_map]
    rfl

theorem list_eq (mirrored : kind.Mirrored original store) (world : Surroundings) (offset limit : UInt64) :
    (kind.backend world (.list offset limit) store).1
      = .ok (.ok (kind.page (MemoryStore.sorted original.articles) offset limit)) := by
  cases kind with
  | memory =>
    obtain ⟨rfl, _⟩ := mirrored
    rfl
  | database =>
    have mirrors : Mirrors original store := mirrored
    show Except.ok ((Tables.list offset limit store).mapError _) = _
    rw [Tables.list, mirrors.articleRows, Fallible.ok_bind, readRows_window mirrors.created mirrors.updated]
    rfl

theorem list_of_few (mirrored : kind.Mirrored original store) (few : original.articles.length < 2 ^ 63)
    (world : Surroundings) (offset limit : UInt64) : (kind.backend world (.list offset limit) store).1
      = .ok (.ok (pageOf (MemoryStore.sorted original.articles) offset limit)) := by
  rw [mirrored.list_eq, page_of_few]
  rwa [MemoryStore.length_sorted]

/-- Only one store of a kind keeps the same. -/
theorem unique {other : kind.State} (mirrored : kind.Mirrored original store) (also : kind.Mirrored original other) :
    store = other := by
  cases kind with
  | memory => exact mirrored.1.trans also.1.symm
  | database =>
    have authors : Tables.authors store = Tables.authors other :=
      (Mirrors.authors mirrored).trans (Mirrors.authors also).symm
    have articles : Tables.articles store = Tables.articles other :=
      (Mirrors.articles mirrored).trans (Mirrors.articles also).symm
    calc store
        = ⟨Tables.authors store, Tables.articles store⟩ := rfl
      _ = ⟨Tables.authors other, Tables.articles other⟩ := by rw [authors, articles]

/-! ## Changing what is mirrored -/

theorem addAuthor (mirrored : kind.Mirrored original store) (author : Author) :
    AlikeReplies (original.insertAuthor author).1 (kind.addAuthor author store).1 ∧
      kind.Mirrored (original.insertAuthor author).2 (kind.addAuthor author store).2 := by
  cases kind with
  | memory =>
    obtain ⟨rfl, keyed⟩ := mirrored
    exact ⟨.refl _, rfl, MemoryStore.keyed_insertAuthor keyed⟩
  | database => exact Mirrors.addAuthor mirrored author

theorem insert (mirrored : kind.Mirrored original store) (draft : Draft) (inRange : world.clock.InRange)
    (fresh : original.article? (.random world.random) = none) :
    AlikeOutcomes (original.insert world draft).1 (kind.backend world (.insert draft) store).1 ∧
      kind.Mirrored (original.insert world draft).2 (kind.backend world (.insert draft) store).2 := by
  cases kind with
  | memory =>
    obtain ⟨rfl, keyed⟩ := mirrored
    exact ⟨.refl _, rfl, MemoryStore.keyed_insert keyed⟩
  | database => exact Mirrors.insert mirrored draft inRange fresh

theorem update (mirrored : kind.Mirrored original store) (revision : Revision) (inRange : world.clock.InRange) :
    AlikeOutcomes (original.update world revision).1 (kind.backend world (.update revision) store).1 ∧
      kind.Mirrored (original.update world revision).2 (kind.backend world (.update revision) store).2 := by
  cases kind with
  | memory =>
    obtain ⟨rfl, keyed⟩ := mirrored
    exact ⟨.refl _, rfl, MemoryStore.keyed_update keyed⟩
  | database => exact Mirrors.update mirrored revision inRange

theorem exists_request {request : StoreRequest} (mirrored : kind.Mirrored original store)
    (inRange : world.clock.InRange) : ∃ next, kind.Mirrored next (kind.backend world request store).2 ∧
      (next = original ∨ next = (MemoryStore.backend world request original).2) := by
  cases kind with
  | memory =>
    obtain ⟨rfl, keyed⟩ := mirrored
    have after : StoreKind.memory.Keyed (StoreKind.memory.backend world request store).2 :=
      StoreKind.keyed_backend keyed
    exact ⟨_, ⟨rfl, after⟩, .inr rfl⟩
  | database => exact Mirrors.exists_request mirrored inRange

theorem exists_meet {demand : Demand} (mirrored : kind.Mirrored original store) (inRange : world.clock.InRange) :
    ∃ next, kind.Mirrored next (kind.meet world store demand).2 := by
  cases demand with
  | addAuthor author => exact ⟨_, (mirrored.addAuthor author).2⟩
  | request request =>
    obtain ⟨next, after, _⟩ := mirrored.exists_request inRange
    exact ⟨next, after⟩

end StoreKind.Mirrored

end Gazette
