import Gazette.Proofs.Store.Lookup

/-!
# Articles that are revised

* `StoreKind.Revises`: a revision replaces one article, of which it leaves the identifier, the author and the time of
  creation, and nothing else changes.
* `StoreKind.Orderly`: demands in the years from 1970 to 9999 of which none gives a new article an identifier that is
  taken.
* `steady_of_orderly`: from its creation to its deletion an article keeps what no revision changes.
-/

namespace Gazette

/-- What a revision makes of an article when the clock reads some time. -/
structure BylinedArticle.RevisedTo (old : BylinedArticle) (revision : Revision) (clock : WallClock)
    (article : Article) : Prop where
  id : article.id = old.id
  authorId : article.authorId = old.authorId
  createdAt : article.createdAt = old.createdAt
  title : article.title = revision.title
  content : article.content = revision.content
  imageUrl : article.imageUrl = revision.imageUrl
  category : article.category = revision.category
  updatedAt : article.updatedAt.second * 1000000000 + article.updatedAt.nano = clock.nanoseconds / 1000 * 1000 ∧
    article.updatedAt.nano < 1000000000

structure BylinedArticle.Persists (earlier later : BylinedArticle) : Prop where
  id : later.id = earlier.id
  authorId : later.authorId = earlier.authorId
  createdAt : later.createdAt = earlier.createdAt

theorem BylinedArticle.Persists.refl (found : BylinedArticle) : found.Persists found := ⟨rfl, rfl, rfl⟩

theorem BylinedArticle.Persists.trans {first second third : BylinedArticle} (earlier : first.Persists second)
    (later : second.Persists third) : first.Persists third :=
  ⟨later.id.trans earlier.id, later.authorId.trans earlier.authorId, later.createdAt.trans earlier.createdAt⟩

namespace MemoryStore

variable {store : MemoryStore} {article old : Article} {timed : article.LeapsEndMinutes}

/-- An article that replaces another is listed in its place. -/
theorem sorted_put (keyed : store.Keyed) (there : store.article? article.id = some old)
    (created : article.createdAt = old.createdAt) :
    sorted (store.put article timed).articles = replaceIn article (sorted store.articles) := by
  rw [articles_put_of_there timed there]
  apply sorted_map
  · intro other _
    split
    · rename_i same
      exact same.symm
    · rfl
  · intro other among
    split
    · rename_i same
      have found := article?_of_mem keyed among
      rw [same, there] at found
      rw [created, Option.some.inj found]
    · rfl

end MemoryStore

namespace StoreKind

variable {kind : StoreKind} {store : kind.State} {world : Surroundings} {original : MemoryStore}
  {authors : List Author} {revision : Revision}

/-! ## One revision -/

/-- What may become of a revision: there is no such article, or it is replaced and all else stays as it is. -/
inductive Revises (kind : StoreKind) (world : Surroundings) (revision : Revision) (store : kind.State) :
    StoreOutcome (Option Article) → kind.State → Prop
  | absent (missing : kind.holds revision.id store = false) :
    Revises kind world revision store (.ok (.ok none)) store
  | replaced {old : BylinedArticle} {article : Article} {after : kind.State}
    (held : kind.holds revision.id store = true) (there : kind.find revision.id store = .ok (some old))
    (revised : old.RevisedTo revision world.clock article)
    (found : kind.find revision.id after = .ok (some (article.withByline old.author)))
    (others : ∀ id, id ≠ revision.id → kind.find id after = kind.find id store)
    (authors : kind.authorRows after = kind.authorRows store)
    (listed : ∀ other offset limit, ∃ before now,
      (kind.backend other (.list offset limit) store).1 = .ok (.ok before) ∧
        (kind.backend other (.list offset limit) after).1 = .ok (.ok now) ∧
        now = replaceIn article before ∧ now.map Article.id = before.map Article.id) :
    Revises kind world revision store (.ok (.ok (some article))) after

/-- An article that replaces another is on the same page, at the same place. -/
theorem page_put (kind : StoreKind) {article old : Article} (timed : article.LeapsEndMinutes)
    (keyed : original.Keyed) (there : original.article? article.id = some old) (created : article.createdAt = old.createdAt)
    (offset limit : UInt64) : kind.page (MemoryStore.sorted (original.put article timed).articles) offset limit
      = replaceIn article (kind.page (MemoryStore.sorted original.articles) offset limit) := by
  rw [MemoryStore.sorted_put keyed there created, replaceIn, page_map, replaceIn]

theorem Records.revises (records : kind.Records authors original store) (revision : Revision)
    (inRange : world.clock.InRange) : kind.Revises world revision store
      (kind.backend world (.update revision) store).1 (kind.backend world (.update revision) store).2 := by
  obtain ⟨alike, mirrored⟩ := records.mirrored.update revision inRange
  -- The store in memory is looked at, and what it says is carried over to either kind.
  cases there : original.article? revision.id with
  | none =>
    rw [MemoryStore.update_of_absent there] at alike mirrored
    rw [alike.eq_answer, mirrored.unique records.mirrored]
    exact .absent (by rw [records.mirrored.holds_eq, there, Option.isSome_none])
  | some article =>
    obtain ⟨now, readable, _⟩ := inRange.timestamp_eq_ok
    have sameId : article.id = revision.id := MemoryStore.id_of_article? there
    obtain ⟨author, _, _, bylined⟩ :=
      records.attributed.exists_bylined? records.mirrored.keyed (List.mem_of_find?_eq_some there)
    rw [sameId] at bylined
    obtain ⟨timed, updated⟩ := MemoryStore.update_of_there there readable
    have found := MemoryStore.bylined?_of_update bylined (congrArg Prod.fst updated)
    rw [updated] at alike mirrored found
    rw [alike.eq_answer]
    refine .replaced ?_ (by rw [records.mirrored.find_eq, bylined]) ?_ (by rw [mirrored.find_eq, found]) ?_ ?_ ?_
    · rw [records.mirrored.holds_eq, there, Option.isSome_some]
    · exact ⟨rfl, rfl, rfl, rfl, rfl, rfl, rfl, WallClock.nanoseconds_of_timestamp readable⟩
    · intro id other
      have apart : (article.revise revision now).id ≠ id := fun same => other (same.symm.trans sameId)
      rw [mirrored.find_eq, records.mirrored.find_eq, MemoryStore.bylined?_put_of_ne apart]
    · rw [mirrored.authorRows_eq, records.mirrored.authorRows_eq, MemoryStore.authors_put]
    · intro other offset limit
      have same : original.article? (article.revise revision now).id = some article :=
        (congrArg original.article? sameId).trans there
      have replaced := kind.page_put timed records.mirrored.keyed same rfl offset limit
      exact ⟨_, _, records.mirrored.list_eq other offset limit, mirrored.list_eq other offset limit, replaced,
        replaced ▸ map_id_replaceIn _ _⟩

/-- The article that is found stays the same, whether it is the one that is revised or another. -/
theorem Revises.persists {outcome : StoreOutcome (Option Article)} {after : kind.State} {id : Uuid}
    {found : BylinedArticle} (revises : kind.Revises world revision store outcome after)
    (there : kind.find id store = .ok (some found)) :
    ∃ later, kind.find id after = .ok (some later) ∧ found.Persists later := by
  cases revises with
  | absent => exact ⟨found, there, .refl found⟩
  | replaced _ oldThere revised articleFound others =>
    by_cases meant : id = revision.id
    · subst meant
      rw [there] at oldThere
      cases oldThere
      exact ⟨_, articleFound, revised.id, revised.authorId, revised.createdAt⟩
    · exact ⟨found, (others id meant).trans there, .refl found⟩

/-! ## Runs -/

/-- A demand in the years from 1970 to 9999 that does not give a new article an identifier that is taken. -/
structure Timely (kind : StoreKind) (world : Surroundings) (demand : Demand) (store : kind.State) : Prop where
  inRange : world.clock.InRange
  fresh : ∀ draft, demand = .request (.insert draft) → kind.holds (.random world.random) store = false

def Orderly (kind : StoreKind) : List (Surroundings × Demand) → kind.State → Prop
  | [], _ => True
  | (world, demand) :: demands, store =>
    kind.Timely world demand store ∧ kind.Orderly demands (kind.meet world store demand).2

theorem orderly_append {earlier later : List (Surroundings × Demand)} :
    kind.Orderly (earlier ++ later) store ↔
      kind.Orderly earlier store ∧ kind.Orderly later (kind.run earlier store) := by
  induction earlier generalizing store with
  | nil => simp [Orderly, run]
  | cons first earlier inductionHypothesis =>
    obtain ⟨world, demand⟩ := first
    simp only [List.cons_append, Orderly, run, inductionHypothesis, and_assoc]

theorem Orderly.inRange {demands : List (Surroundings × Demand)} (orderly : kind.Orderly demands store) :
    ∀ demand ∈ demands, demand.1.clock.InRange := by
  induction demands generalizing store with
  | nil => nofun
  | cons first demands inductionHypothesis =>
    intro demand among
    rcases List.mem_cons.mp among with rfl | later
    · exact orderly.1.inRange
    · exact inductionHypothesis orderly.2 demand later

namespace Records

variable {id : Uuid} {found : BylinedArticle}

theorem find_of_insert {draft : Draft} {article : Article} (records : kind.Records authors original store)
    (timely : kind.Timely world (.request (.insert draft)) store)
    (inserted : (kind.backend world (.insert draft) store).1 = .ok (.ok article)) :
    ∃ byline, kind.find article.id (kind.backend world (.insert draft) store).2
      = .ok (some (article.withByline byline)) := by
  have absent : original.article? (.random world.random) = none := by
    have fresh := timely.fresh draft rfl
    rwa [records.mirrored.holds_eq, Option.isSome_eq_false_iff, Option.isNone_iff_eq_none] at fresh
  obtain ⟨alike, mirrored⟩ := records.mirrored.insert draft timely.inRange absent
  rw [inserted] at alike
  obtain ⟨author, bylined⟩ := MemoryStore.bylined?_of_insert alike.answer_eq
  exact ⟨author.displayName, by rw [mirrored.find_eq, bylined]⟩

/-- Only its deletion ends an article. -/
theorem persists_meet {demand : Demand} (records : kind.Records authors original store)
    (timely : kind.Timely world demand store) (kept : demand ≠ .request (.delete id))
    (there : kind.find id store = .ok (some found)) :
    ∃ later, kind.find id (kind.meet world store demand).2 = .ok (some later) ∧ found.Persists later := by
  cases demand with
  | addAuthor author => exact ⟨found, find_addAuthor there, .refl found⟩
  | request request =>
    by_cases reading : request.isReading
    · have same : (kind.meet world store (.request request)).2 = store := state_of_isReading reading
      rw [same]
      exact ⟨found, there, .refl found⟩
    · cases request with
      | insert draft => exact ⟨found, find_insert (fun _ => timely.fresh draft rfl) there, .refl found⟩
      | update revision => exact (records.revises revision timely.inRange).persists there
      | delete other =>
        have apart : id ≠ other := by
          rintro rfl
          exact kept rfl
        exact ⟨found, find_delete apart there, .refl found⟩
      | _ => exact absurd rfl reading

theorem persists_run {demands : List (Surroundings × Demand)} (records : kind.Records authors original store)
    (orderly : kind.Orderly demands store) (kept : ∀ world, (world, .request (.delete id)) ∉ demands)
    (there : kind.find id store = .ok (some found)) :
    ∃ later, kind.find id (kind.run demands store) = .ok (some later) ∧ found.Persists later := by
  induction demands generalizing authors original store found with
  | nil => exact ⟨found, there, .refl found⟩
  | cons first demands inductionHypothesis =>
    obtain ⟨world, demand⟩ := first
    obtain ⟨timely, others⟩ := orderly
    have other : demand ≠ .request (.delete id) := by
      rintro rfl
      exact kept world List.mem_cons_self
    obtain ⟨next, nextThere, persists⟩ := records.persists_meet timely other there
    obtain ⟨_, after⟩ := records.exists_meet demand timely.inRange
    obtain ⟨last, lastThere, persistsOn⟩ :=
      inductionHypothesis after others (fun world among => kept world (List.mem_cons_of_mem _ among)) nextThere
    exact ⟨last, lastThere, persists.trans persistsOn⟩

end Records

/-- What is added lasts until it is deleted, and a revision that comes next changes only what it may. -/
structure Steady (kind : StoreKind) (demands : List (Surroundings × Demand)) : Prop where
  lasting : ∀ {earlier later : List (Surroundings × Demand)} {world : Surroundings} {draft : Draft} {article : Article},
    demands = earlier ++ (world, .request (.insert draft)) :: later →
    (kind.backend world (.insert draft) (kind.run earlier kind.new)).1 = .ok (.ok article) →
    (∀ other, (other, .request (.delete article.id)) ∉ later) →
    ∃ found, kind.find article.id (kind.run demands kind.new) = .ok (some found) ∧ found.id = article.id ∧
      found.authorId = article.authorId ∧ found.createdAt = article.createdAt
  revised : ∀ (world : Surroundings) (revision : Revision), world.clock.InRange →
    kind.Revises world revision (kind.run demands kind.new)
      (kind.backend world (.update revision) (kind.run demands kind.new)).1
      (kind.backend world (.update revision) (kind.run demands kind.new)).2

end StoreKind

/-- From its creation to its deletion an article keeps what no revision changes, and revisions change nothing else. -/
theorem steady_of_orderly {kind : StoreKind} {demands : List (Surroundings × Demand)}
    (orderly : kind.Orderly demands kind.new) : kind.Steady demands where
  lasting := by
    rintro earlier later world draft article rfl inserted kept
    obtain ⟨before, timely, after⟩ := StoreKind.orderly_append.mp orderly
    obtain ⟨original, records⟩ := (StoreKind.records_new kind).exists_run before.inRange
    obtain ⟨byline, there⟩ := records.find_of_insert timely inserted
    obtain ⟨next, recordsNext⟩ := records.exists_meet (.request (.insert draft)) timely.inRange
    obtain ⟨found, foundThere, persists⟩ := recordsNext.persists_run after kept there
    rw [StoreKind.run_append]
    exact ⟨found, foundThere, persists.id, persists.authorId, persists.createdAt⟩
  revised world revision inRange := by
    obtain ⟨original, records⟩ := (StoreKind.records_new kind).exists_run orderly.inRange
    exact records.revises revision inRange

theorem steady_aDayAtTheDesk : StoreKind.database.Orderly aDayAtTheDesk StoreKind.database.new ∧
    StoreKind.database.Steady aDayAtTheDesk := by
  have orderly : StoreKind.database.Orderly aDayAtTheDesk StoreKind.database.new := by
    refine ⟨⟨by decide, nofun⟩, ⟨by decide, nofun⟩, ⟨by decide, fun _ _ => rfl⟩, ⟨by decide, fun _ _ => rfl⟩,
      ⟨by decide, nofun⟩, ⟨by decide, nofun⟩, trivial⟩
  exact ⟨orderly, steady_of_orderly orderly⟩

end Gazette
