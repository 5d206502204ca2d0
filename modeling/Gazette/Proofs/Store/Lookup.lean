import Gazette.Proofs.Store.Run

/-!
# Listings and look-ups

* `StoreKind.registered`: the authors whom a store has accepted.
* `StoreKind.Records`: a store keeps these authors and no article of anyone else.
* `consistent_of_run`: whatever a new store came to, it lists the articles that it finds, with the names of their
  authors, each of them once, and counts them.
-/

namespace Gazette

namespace StoreKind

variable {kind : StoreKind} {store : kind.State} {world : Surroundings} {original : MemoryStore}
  {authors : List Author}

/-! ## Authors -/

def newcomer (author : Author) : Except StoreError Unit → List Author
  | .ok () => [author]
  | .error _ => []

def accepted (kind : StoreKind) (store : kind.State) : Demand → List Author
  | .addAuthor author => newcomer author (kind.addAuthor author store).1
  | .request _ => []

/-- The authors whom a store accepts in the course of demands. -/
def registered (kind : StoreKind) : List (Surroundings × Demand) → kind.State → List Author
  | [], _ => []
  | (world, demand) :: demands, store =>
    kind.accepted store demand ++ kind.registered demands (kind.meet world store demand).2

theorem newcomer_of_alike {author : Author} {reply other : Except StoreError Unit} (alike : AlikeReplies reply other) :
    newcomer author other = newcomer author reply := by
  cases alike with
  | answers => rfl
  | errors => rfl

/-- A store keeps these authors, each with another identifier, and no article of anyone else. -/
structure Records (kind : StoreKind) (authors : List Author) (original : MemoryStore) (store : kind.State) :
    Prop where
  mirrored : kind.Mirrored original store
  attributed : original.Attributed
  authors_eq : original.authors = authors
  distinct : (authors.map Author.id).Nodup

theorem records_new (kind : StoreKind) : kind.Records [] .empty kind.new where
  mirrored := mirrored_new kind
  attributed := MemoryStore.attributed_empty
  authors_eq := rfl
  distinct := List.nodup_nil

namespace Records

theorem addAuthor (records : kind.Records authors original store) (author : Author) :
    kind.Records (authors ++ kind.accepted store (.addAuthor author)) (original.insertAuthor author).2
      (kind.addAuthor author store).2 := by
  obtain ⟨alike, mirrored⟩ := records.mirrored.addAuthor author
  have attributed : (original.insertAuthor author).2.Attributed :=
    MemoryStore.attributed_insertAuthor records.attributed
  have accepts : kind.accepted store (.addAuthor author) = newcomer author (original.insertAuthor author).1 :=
    newcomer_of_alike alike
  -- An author is accepted if nobody has the identifier, and only then joins the others.
  cases there : original.author? author.id with
  | some other =>
    have refused : original.insertAuthor author = (.error (.alreadyExists "Author" author.id.toText), original) := by
      rw [MemoryStore.insertAuthor, there]
      rfl
    rw [refused] at accepts mirrored ⊢
    rw [accepts, newcomer, List.append_nil]
    exact { records with mirrored }
  | none =>
    have added : original.insertAuthor author
        = (.ok (), { original with authors := original.authors ++ [author] }) := by
      rw [MemoryStore.insertAuthor, there]
      rfl
    rw [added] at accepts mirrored attributed ⊢
    refine ⟨mirrored, attributed, ?_, ?_⟩
    · rw [accepts, newcomer, records.authors_eq]
    · have apart : author.id ∉ authors.map Author.id := by
        intro among
        obtain ⟨other, isThere, same⟩ := List.mem_map.mp among
        have different := List.find?_eq_none.mp there other (records.authors_eq ▸ isThere)
        exact different (decide_eq_true same)
      rw [accepts, newcomer]
      exact nodup_map_append_singleton records.distinct apart

/-- Whatever is asked for, the authors that are accepted join the others. -/
theorem exists_meet (records : kind.Records authors original store) (demand : Demand)
    (inRange : world.clock.InRange) :
    ∃ next, kind.Records (authors ++ kind.accepted store demand) next (kind.meet world store demand).2 := by
  cases demand with
  | addAuthor author => exact ⟨_, records.addAuthor author⟩
  | request request =>
    obtain ⟨next, mirrored, same | same⟩ := records.mirrored.exists_request inRange
    · rw [same] at mirrored
      rw [accepted, List.append_nil]
      exact ⟨original, { records with mirrored }⟩
    · rw [same] at mirrored
      rw [accepted, List.append_nil]
      exact ⟨_, mirrored, MemoryStore.attributed_backend records.attributed,
        (MemoryStore.authors_backend world request original).trans records.authors_eq, records.distinct⟩

theorem exists_run {demands : List (Surroundings × Demand)} (records : kind.Records authors original store)
    (inRange : ∀ demand ∈ demands, demand.1.clock.InRange) :
    ∃ next, kind.Records (authors ++ kind.registered demands store) next (kind.run demands store) := by
  induction demands generalizing authors original store with
  | nil =>
    rw [registered, List.append_nil]
    exact ⟨original, records⟩
  | cons first demands inductionHypothesis =>
    obtain ⟨world, demand⟩ := first
    obtain ⟨next, after⟩ := records.exists_meet demand (inRange _ List.mem_cons_self)
    rw [registered, ← List.append_assoc]
    exact inductionHypothesis after fun later among => inRange later (List.mem_cons_of_mem _ among)

end Records

/-! ## What is listed and what is found -/

/-- The store lists these articles, each once, and finds these, with the names of their authors, who are among these. -/
structure Consistent (kind : StoreKind) (store : kind.State) (authors : List Author) (articles : List Article) :
    Prop where
  listed : ∀ world, (kind.backend world (.list 0 0xFFFFFFFFFFFFFFFF) store).1 = .ok (.ok articles)
  once : (articles.map Article.id).Nodup
  counted : ∀ world, ∃ count : UInt64, (kind.backend world .count store).1 = .ok (.ok count) ∧
    count.toNat = articles.length
  found : ∀ world id, ∃ found, (kind.backend world (.get id) store).1 = .ok (.ok found) ∧
    (found.isSome ↔ id ∈ articles.map Article.id)
  bylined : ∀ world, ∀ article ∈ articles, ∃ author ∈ authors, author.id = article.authorId ∧
    (kind.backend world (.get article.id) store).1 = .ok (.ok (some {
      id := article.id
      authorId := article.authorId
      author := author.firstName ++ " " ++ author.lastName
      title := article.title
      content := article.content
      imageUrl := article.imageUrl
      category := article.category
      createdAt := article.createdAt
      updatedAt := article.updatedAt }))
  distinct : (authors.map Author.id).Nodup

end StoreKind

/-- No article is missed for want of an author. -/
theorem MemoryStore.Attributed.exists_bylined? {original : MemoryStore} {article : Article}
    (attributed : original.Attributed) (keyed : original.Keyed) (there : article ∈ original.articles) :
    ∃ author ∈ original.authors, author.id = article.authorId ∧
      original.bylined? article.id = some (article.withByline author.displayName) := by
  obtain ⟨author, known⟩ := Option.isSome_iff_exists.mp (attributed article there)
  refine ⟨author, List.mem_of_find?_eq_some known, by simpa using List.find?_some known, ?_⟩
  exact bylined?_eq_some.mpr ⟨article, author, article?_of_mem keyed there, known, rfl⟩

namespace StoreKind.Records

variable {kind : StoreKind} {store : kind.State} {original : MemoryStore} {authors : List Author}

theorem get_eq (records : kind.Records authors original store) (world : Surroundings) (id : Uuid) :
    (kind.backend world (.get id) store).1 = .ok (.ok (original.bylined? id)) := by
  rw [backend_get, records.mirrored.find_eq]

theorem isSome_bylined?_iff (records : kind.Records authors original store) (id : Uuid) :
    (original.bylined? id).isSome ↔ id ∈ (MemoryStore.sorted original.articles).map Article.id := by
  rw [((MemoryStore.perm_sorted _).map _).mem_iff, List.mem_map]
  constructor
  · intro there
    obtain ⟨found, isFound⟩ := Option.isSome_iff_exists.mp there
    obtain ⟨article, _, articleThere, _, _⟩ := MemoryStore.bylined?_eq_some.mp isFound
    exact ⟨article, List.mem_of_find?_eq_some articleThere, MemoryStore.id_of_article? articleThere⟩
  · rintro ⟨article, there, rfl⟩
    obtain ⟨_, _, _, bylined⟩ := records.attributed.exists_bylined? records.mirrored.keyed there
    exact Option.isSome_of_mem bylined

theorem consistent (records : kind.Records authors original store) (few : original.articles.length < 2 ^ 63) :
    kind.Consistent store authors (MemoryStore.sorted original.articles) where
  listed world := by
    rw [records.mirrored.list_of_few few, pageOf_of_length_le]
    rw [MemoryStore.length_sorted]
    exact Nat.le_of_lt (Nat.lt_trans few (by decide))
  once := MemoryStore.nodup_sorted records.mirrored.keyed
  counted world := by
    refine ⟨_, records.mirrored.count_eq world, ?_⟩
    rw [MemoryStore.length_sorted]
    exact UInt64.toNat_ofNat_of_lt (Nat.lt_trans few (by decide))
  found world id := ⟨_, records.get_eq world id, records.isSome_bylined?_iff id⟩
  bylined world article there := by
    obtain ⟨author, known, same, bylined⟩ :=
      records.attributed.exists_bylined? records.mirrored.keyed ((MemoryStore.perm_sorted _).mem_iff.mp there)
    refine ⟨author, records.authors_eq ▸ known, same, ?_⟩
    rw [records.get_eq, bylined, Author.displayName, Article.withByline]
  distinct := records.distinct

end StoreKind.Records

/-- Whatever a new store came to in the years from 1970 to 9999, with not too many articles to be numbered, its listing
and its look-ups agree. -/
theorem consistent_of_run {kind : StoreKind} {demands : List (Surroundings × Demand)}
    (inRange : ∀ demand ∈ demands, demand.1.clock.InRange)
    (few : kind.articleCount (kind.run demands kind.new) < 2 ^ 63) :
    ∃ articles, kind.Consistent (kind.run demands kind.new) (kind.registered demands kind.new) articles := by
  obtain ⟨original, records⟩ := (StoreKind.records_new kind).exists_run inRange
  exact ⟨_, records.consistent (records.mirrored.articleCount_eq ▸ few)⟩

theorem consistent_of_aDayAtTheDesk : (∀ demand ∈ aDayAtTheDesk, demand.1.clock.InRange) ∧
    let tables := StoreKind.database.run aDayAtTheDesk StoreKind.database.new
    StoreKind.database.articleCount tables < 2 ^ 63 ∧
      ∃ articles, StoreKind.database.Consistent tables
        (StoreKind.database.registered aDayAtTheDesk StoreKind.database.new) articles := by
  have inRange : ∀ demand ∈ aDayAtTheDesk, demand.1.clock.InRange := by decide
  have few : StoreKind.database.articleCount (StoreKind.database.run aDayAtTheDesk StoreKind.database.new)
      < 2 ^ 63 := by
    decide +kernel
  exact ⟨inRange, few, consistent_of_run inRange few⟩

end Gazette
