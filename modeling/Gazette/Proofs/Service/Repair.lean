import Gazette.Proofs.Service.Isolation

/-!
# Look-ups that mend the cache

* `Holding`: a cache that does not fail holds octets under keys, and gives those or nothing.
* `LruCache.holding`: the cache in memory is one, with what has expired still held until it is asked for.
* `mended_of_look`: after a look-up that gives an article the cache holds that article, whatever it held before, and
  what could not be read has given way to the row of the store. A look-up that gives none writes nothing.
-/

namespace Gazette

open Program (call)

/-! ## Caches that hold octets -/

/-- At this time the cache does not fail, as long as values are stored for this span. What it gives is what is held
under the key, which stays there. A look-up writes nothing, though something may be dropped. What is stored is held. -/
structure Holding {τ : Type} (held : String → τ → Option Bytes) (now : Instant) (ttl : Duration)
    (cache : CacheBackend τ) : Prop where
  gives (key : String) (state : τ) : ∃ found after, cache now (.get key) state = (.ok (.ok found), after) ∧
    (∀ octets, found = some octets → held key state = some octets ∧ held key after = some octets) ∧
    ∀ other, held other after = held other state ∨ held other after = none
  stores (key : String) (value : Bytes) (state : τ) : ∃ after,
    cache now (.set key value ttl) state = (.ok (.ok ()), after) ∧ held key after = some value

namespace LruCache

/-- The octets under a key, expired or not. -/
def octets? (key : String) (cache : LruCache) : Option Bytes := (cache.entry? key).map CacheEntry.value

theorem find?_others (cache : LruCache) (key other : String) :
    (cache.others key).find? (fun entry => entry.key = other) = if other = key then none else cache.entry? other := by
  split
  · rename_i same
    rw [List.find?_eq_none]
    intro entry there
    have apart := (mem_others.mp there).2
    simpa [same] using apart
  · rename_i apart
    apply find?_filter_of_imp
    intro entry same
    rw [decide_eq_true_eq] at same ⊢
    rwa [same]

theorem octets?_drop (cache : LruCache) (key other : String) :
    octets? other { cache with entries := cache.others key } = if other = key then none else cache.octets? other := by
  rw [octets?, entry?, find?_others]
  split <;> rfl

theorem octets?_bringToFront {cache : LruCache} {key : String} {entry : CacheEntry}
    (found : cache.entry? key = some entry) (other : String) :
    octets? other { cache with entries := entry :: cache.others key } = cache.octets? other := by
  have same := (mem_of_found found).2
  rw [octets?, entry?, List.find?_cons, find?_others, octets?]
  by_cases apart : other = key
  · rw [apart, found, same]
    simp
  · simp [apart, same, Ne.symm apart]

theorem holding {now : Instant} {ttl : Duration} (reached : (now.after? ttl).isSome) :
    Holding octets? now ttl LruCache.backend where
  gives key cache := by
    rw [backend_get]
    refine ⟨_, _, rfl, ?_⟩
    simp only [get]
    cases found : cache.entry? key with
    | none => exact ⟨fun _ none => absurd none (by simp), fun _ => .inl rfl⟩
    | some entry =>
      simp only
      split
      · refine ⟨fun _ none => absurd none (by simp), fun other => ?_⟩
        rw [octets?_drop]
        split
        · exact .inr rfl
        · exact .inl rfl
      · refine ⟨?_, fun other => .inl (octets?_bringToFront found other)⟩
        rintro octets ⟨⟩
        have before : cache.octets? key = some entry.value := by rw [octets?, found]; rfl
        exact ⟨before, (octets?_bringToFront found key).trans before⟩
  stores key value cache := by
    obtain ⟨deadline, reading⟩ := Option.isSome_iff_exists.mp reached
    obtain ⟨after, stored⟩ := exists_set key value cache reached
    refine ⟨after, backend_set_of_eq_ok stored, ?_⟩
    rw [set, reading] at stored
    obtain rfl := Except.ok.inj stored
    -- There is room for one entry at least, so that the new one is not cut off.
    obtain ⟨rest, room⟩ := Nat.exists_eq_add_of_lt cache.capacity_pos
    show (((_ :: cache.others key).take cache.capacity).find? _).map CacheEntry.value = some value
    rw [room, List.take_succ_cons]
    simp

end LruCache

/-! ## Look-ups -/

section LookUps

variable {τ : Type} {held : String → τ → Option Bytes} (kind : StoreKind) {service : Service} (world : Surroundings)
  {now : Instant} {cache : CacheBackend τ} (id : Uuid)

def Service.look (service : Service) (kind : StoreKind) (cache : CacheBackend τ) (world : Surroundings) (now : Instant)
    (id : Uuid) (store : kind.State) (state : τ) :
    Program.Run (Except StoreError BylinedArticle) (Session kind.State τ) :=
  Session.run ⟨kind.backend, cache, world, now⟩ Session.undisturbed false (service.get id) store state

def BylinedArticle.ReadFrom (octets : Option Bytes) (article : BylinedArticle) : Prop :=
  ∃ content, octets = some content ∧ ofCached content = .ok article

theorem final_fetch_of_find {session : Session kind.State τ} {article : BylinedArticle}
    (holding : Holding held now service.ttl cache) (live : session.cancelled = false)
    (there : kind.find id session.store = .ok (some article)) :
    ∃ after, held (service.key id) after = some article.toCached ∧
      (service.fetch id).final (Session.handler ⟨kind.backend, cache, world, now⟩ Session.undisturbed) session =
        (.ok (.ok article), (session.stored (.get id) session.store).cached
          (.set (service.key id) article.toCached service.ttl) after) := by
  obtain rfl : article.id = id := StoreKind.id_of_find there
  obtain ⟨after, answered, kept⟩ := holding.stores (service.key article.id) article.toCached session.cache
  refine ⟨after, kept, ?_⟩
  rw [Service.fetch_eq, Session.final_store live (Session.served_undisturbed _)]
  simp only [StoreKind.backend_get, there, Service.afterFetch]
  rw [Session.final_cache (Session.live_stored live _ _) (Session.served_undisturbed _)]
  have replied : cache now (.set (service.key article.id) article.toCached service.ttl)
      (session.stored (.get article.id) session.store).cache = (.ok (.ok ()), after) := answered
  simp only [replied]
  rfl

variable (service now cache) in
theorem final_fetch_of_not_find {session : Session kind.State τ} (live : session.cancelled = false)
    (absent : ∀ article, kind.find id session.store ≠ .ok (some article)) :
    ∃ error, (service.fetch id).final (Session.handler ⟨kind.backend, cache, world, now⟩ Session.undisturbed) session =
      (.ok (.error error), session.stored (.get id) session.store) := by
  rw [Service.fetch_eq, Session.final_store live (Session.served_undisturbed _)]
  simp only [StoreKind.backend_get]
  match row : kind.find id session.store with
  | .error error => exact ⟨error, rfl⟩
  | .ok none => exact ⟨.articleNotFound id, rfl⟩
  | .ok (some article) => exact absurd row (absent article)

/-- What comes of a look-up: a hit is given, or the store is asked once and its row is cached, or there is no row and
the cache has been asked for nothing but the article. -/
theorem look_cases (holding : Holding held now service.ttl cache) (store : kind.State) (state : τ) :
    let run := service.look kind cache world now id store state
    (∃ article octets, run.outcome = .ok (.ok article) ∧ BylinedArticle.ofCached octets = .ok article ∧
        held (service.key id) state = some octets ∧ held (service.key id) run.state.cache = some octets) ∨
      (∃ article, run.outcome = .ok (.ok article) ∧ kind.find id store = .ok (some article) ∧
        held (service.key id) run.state.cache = some article.toCached ∧
        run.state.calls = [.cache (.get (service.key id)), .store (.get id),
          .cache (.set (service.key id) article.toCached service.ttl)]) ∨
      ∃ error, run.outcome = .ok (.error error) ∧
        run.state.calls = [.cache (.get (service.key id)), .store (.get id)] ∧
        ∀ key, held key run.state.cache = held key state ∨ held key run.state.cache = none := by
  intro run
  let handler := Session.handler ⟨kind.backend, cache, world, now⟩ Session.undisturbed
  let start : Session kind.State τ := ⟨store, state, false, []⟩
  obtain ⟨found, after, answered, given, dropped⟩ := holding.gives (service.key id) state
  have replied : (.ok found : Except CacheError (Option Bytes)) ≠ .error .cancelled := nofun
  have ran : (run.outcome, run.state) = (service.afterLookUp id (Service.readHit (.ok found))).final handler
      (start.cached (.get (service.key id)) after) := by
    show (service.get id).final handler start = _
    rw [Service.get_eq, Session.final_cache rfl (Session.served_undisturbed _)]
    simp only [start, answered]
    rfl
  rw [Service.final_afterLookUp service id handler _ replied] at ran
  -- Whether the store is asked is settled by what the cache gives.
  cases hit : Service.hit? (.ok found) with
  | some article =>
    obtain ⟨octets, gave, decoded⟩ := Service.hit?_eq_some hit
    obtain ⟨before, kept⟩ := given octets (Except.ok.inj gave)
    rw [hit] at ran
    obtain ⟨outcome, final⟩ := Prod.mk.inj ran
    left
    rw [outcome, final]
    exact ⟨article, octets, rfl, decoded, before, kept⟩
  | none =>
    rw [hit] at ran
    have live : (start.cached (.get (service.key id)) after).cancelled = false := rfl
    by_cases there : ∃ article, kind.find id store = .ok (some article)
    · obtain ⟨article, there⟩ := there
      obtain ⟨full, kept, fetched⟩ := final_fetch_of_find kind world id holding live there
      obtain ⟨outcome, final⟩ := Prod.mk.inj (ran.trans fetched)
      right; left
      rw [outcome, final]
      exact ⟨article, rfl, there, kept, rfl⟩
    · obtain ⟨error, fetched⟩ := final_fetch_of_not_find kind service world now cache id live (not_exists.mp there)
      obtain ⟨outcome, final⟩ := Prod.mk.inj (ran.trans fetched)
      right; right
      rw [outcome, final]
      exact ⟨error, rfl, rfl, dropped⟩

/-- Whatever octets a cache holds under the key of an article, or none: a look-up returns. If it gives an article, the
cache holds octets of just that article afterwards, and if it held none that could be read before, they are those of the
row in the store, which has been asked once. If it gives an error, nothing has been written into the cache. -/
theorem mended_of_look (holding : Holding held now service.ttl cache) (store : kind.State) (state : τ) :
    let run := service.look kind cache world now id store state
    (∃ reply, run.outcome = .ok reply) ∧
      (∀ article, run.outcome = .ok (.ok article) →
        article.ReadFrom (held (service.key id) run.state.cache) ∧
          ((∀ other : BylinedArticle, ¬ other.ReadFrom (held (service.key id) state)) →
            kind.find id store = .ok (some article) ∧
              held (service.key id) run.state.cache = some article.toCached ∧
              run.state.calls = [.cache (.get (service.key id)), .store (.get id),
                .cache (.set (service.key id) article.toCached service.ttl)])) ∧
      ∀ error, run.outcome = .ok (.error error) →
        run.state.calls = [.cache (.get (service.key id)), .store (.get id)] ∧
          ∀ key, held key run.state.cache = held key state ∨ held key run.state.cache = none := by
  intro run
  rcases look_cases kind world id holding store state with
    ⟨article, octets, outcome, decoded, before, kept⟩ | ⟨article, outcome, there, kept, calls⟩ |
      ⟨error, outcome, calls, dropped⟩
  -- A hit, so the octets could be read before.
  · refine ⟨⟨_, outcome⟩, ?_, ?_⟩
    · intro other given
      obtain rfl : article = other := Except.ok.inj (Except.ok.inj (outcome.symm.trans given))
      exact ⟨⟨octets, kept, decoded⟩, fun unreadable => absurd ⟨octets, before, decoded⟩ (unreadable article)⟩
    · intro error failed
      cases outcome.symm.trans failed
  -- A row of the store, which takes the place of what could not be read.
  · refine ⟨⟨_, outcome⟩, ?_, ?_⟩
    · intro other given
      obtain rfl : article = other := Except.ok.inj (Except.ok.inj (outcome.symm.trans given))
      have read := BylinedArticle.ofCached_toCached (StoreKind.leapsEndMinutes_of_find there)
      exact ⟨⟨_, kept, read⟩, fun _ => ⟨there, kept, calls⟩⟩
    · intro error failed
      cases outcome.symm.trans failed
  -- An error, after which nothing is cached.
  · refine ⟨⟨_, outcome⟩, ?_, fun _ _ => ⟨calls, dropped⟩⟩
    intro article given
    cases outcome.symm.trans given

end LookUps

def aScribbledCard : LruCache := ⟨1, Nat.one_pos, [⟨forAWeek.key ⟨7⟩, [0x6E, 0x6F, 0x74], ⟨1000000000⟩⟩]⟩

theorem mended_of_look_aScribbledCard :
    ((⟨5⟩ : Instant).after? forAWeek.ttl).isSome ∧
      (∀ other : BylinedArticle, ¬ other.ReadFrom (aScribbledCard.octets? (forAWeek.key ⟨7⟩))) ∧
      (forAWeek.look .memory LruCache.backend ⟨⟨1700000000000000000⟩, 8⟩ ⟨5⟩ ⟨7⟩ aShelf aScribbledCard).outcome
        = .ok (.ok onTheShelf) ∧
      (forAWeek.look .memory LruCache.backend ⟨⟨1700000000000000000⟩, 8⟩ ⟨5⟩ ⟨7⟩ aShelf
        aScribbledCard).state.cache.octets? (forAWeek.key ⟨7⟩) = some onTheShelf.toCached := by
  have torn (other : BylinedArticle) : ¬ other.ReadFrom (aScribbledCard.octets? (forAWeek.key ⟨7⟩)) := by
    rintro ⟨content, there, read⟩
    have broken : BylinedArticle.ofCached [0x6E, 0x6F, 0x74]
      = .error (.notDeserialized JsonError.expectedWord.message) := rfl
    obtain rfl : [0x6E, 0x6F, 0x74] = content := Option.some.inj there
    cases broken.symm.trans read
  have given : (forAWeek.look .memory LruCache.backend ⟨⟨1700000000000000000⟩, 8⟩ ⟨5⟩ ⟨7⟩ aShelf aScribbledCard).outcome
      = .ok (.ok onTheShelf) := rfl
  have holding : Holding LruCache.octets? ⟨5⟩ forAWeek.ttl LruCache.backend := LruCache.holding (by decide)
  have mended := mended_of_look .memory ⟨⟨1700000000000000000⟩, 8⟩ ⟨7⟩ holding aShelf aScribbledCard
  exact ⟨by decide, torn, given, ((mended.2.1 _ given).2 torn).2.1⟩

end Gazette
