import Gazette.Store.Request
import Gazette.Text.Case

/-!
# The store in memory

`MemoryStore` keeps authors and articles in lists, each with another identifier. Articles come in by requests alone, and
their moments are what a clock read then.
-/

namespace Gazette

def replaceIn (article : Article) (articles : List Article) : List Article :=
  articles.map fun other => if other.id = article.id then article else other

structure MemoryStore where
  authors : List Author
  articles : List Article
  timed : ∀ article ∈ articles, article.LeapsEndMinutes
  deriving DecidableEq, Repr

namespace MemoryStore

def empty : MemoryStore := ⟨[], [], List.forall_mem_nil _⟩

/-! ## Looking up -/

def author? (store : MemoryStore) (id : Uuid) : Option Author := store.authors.find? fun author => author.id = id

def article? (store : MemoryStore) (id : Uuid) : Option Article :=
  store.articles.find? fun article => article.id = id

theorem leapsEndMinutes_of_article? {store : MemoryStore} {id : Uuid} {article : Article}
    (there : store.article? id = some article) : article.LeapsEndMinutes :=
  store.timed article (List.mem_of_find?_eq_some there)

def bylined? (store : MemoryStore) (id : Uuid) : Option BylinedArticle := do
  let article ← store.article? id
  let author ← store.author? article.authorId
  return article.withByline author.displayName

/-! ## Listing -/

def sorted (articles : List Article) : List Article :=
  articles.mergeSort fun left right => (left.compare right).isLE

def occursIn (needle : List Char) : List Char → Bool
  | [] => needle.isEmpty
  | c :: rest => needle.isPrefixOf (c :: rest) || occursIn needle rest

def titleContains (title needle : String) : Bool := occursIn (Case.toLower needle) (Case.toLower title)

def matching (store : MemoryStore) (needle : String) : List Article :=
  store.articles.filter fun article => titleContains article.title needle

/-! ## Changing -/

/-- Puts an article in the place of the one with its identifier, or at the end. -/
def put (store : MemoryStore) (article : Article) (timed : article.LeapsEndMinutes) : MemoryStore :=
  if (store.article? article.id).isSome then
    { store with
      articles := replaceIn article store.articles
      timed := by
        intro other among
        obtain ⟨old, there, rfl⟩ := List.mem_map.mp among
        split
        · exact timed
        · exact store.timed old there }
  else
    { store with
      articles := store.articles ++ [article]
      timed := by
        intro other among
        rcases List.mem_append.mp among with there | new
        · exact store.timed other there
        · exact List.mem_singleton.mp new ▸ timed }

def insertAuthor (author : Author) (store : MemoryStore) : Except StoreError Unit × MemoryStore :=
  if (store.author? author.id).isSome then
    (.error (.alreadyExists "Author" author.id.toText), store)
  else (.ok (), { store with authors := store.authors ++ [author] })

/-- Adds an article by an author that is there. The identifier is taken as it comes. -/
def insert (world : Surroundings) (draft : Draft) (store : MemoryStore) : StoreOutcome Article × MemoryStore :=
  if (store.author? draft.authorId).isSome then
    match readable : world.clock.timestamp with
    | .error crash => (.error crash, store)
    | .ok now =>
      let article := draft.toArticle (.random world.random) now
      (.ok (.ok article),
        store.put article (draft.leapsEndMinutes_toArticle _ (WallClock.leapEndsMinute_of_timestamp readable)))
  else
    (.ok (.error (.invalidData s!"Unknown author {draft.authorId.toText} for Article")), store)

def update (world : Surroundings) (revision : Revision) (store : MemoryStore) :
    StoreOutcome (Option Article) × MemoryStore :=
  match there : store.article? revision.id with
  | none => (.ok (.ok none), store)
  | some article =>
    match readable : world.clock.timestamp with
    | .error crash => (.error crash, store)
    | .ok now =>
      let revised := article.revise revision now
      (.ok (.ok (some revised)), store.put revised
        ((leapsEndMinutes_of_article? there).revise revision (WallClock.leapEndsMinute_of_timestamp readable)))

def delete (id : Uuid) (store : MemoryStore) : UInt64 × MemoryStore :=
  if (store.article? id).isSome then
    (1, { store with
      articles := store.articles.filter fun article => article.id ≠ id
      timed := fun article among => store.timed article (List.mem_filter.mp among).1 })
  else (0, store)

def backend : StoreBackend MemoryStore := fun world request store =>
  match request with
  | .insert draft => store.insert world draft
  | .update revision => store.update world revision
  | .delete id =>
    let (count, store) := store.delete id
    (.ok (.ok count), store)
  | .get id => (.ok (.ok (store.bylined? id)), store)
  | .count => (.ok (.ok store.articles.length.toUInt64), store)
  | .list offset limit => (.ok (.ok (pageOf (sorted store.articles) offset limit)), store)
  | .countByTitle needle => (.ok (.ok (store.matching needle).length.toUInt64), store)
  | .search needle offset limit => (.ok (.ok (pageOf (sorted (store.matching needle)) offset limit)), store)

end MemoryStore

end Gazette
