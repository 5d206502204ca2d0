import Gazette.Proofs.Service.Cached
import Gazette.Proofs.Service.Turn

/-!
# The cache does not show

* `Coherent`: an article in the cache is the one that the store would find.
* `play_eq_direct`: as long as articles leave the cache when they should, operations on a store with a cache give what
  they give on the store alone, and leave the store as it is left then.
-/

namespace Gazette

variable {kind : StoreKind} {service : Service}

/-! ## Coherence -/

/-- Whatever is cached of an article is what the store finds. -/
def Coherent (service : Service) (store : kind.State) : LruCache → Prop :=
  HoldsOnly service fun id article _ => kind.find id store = .ok (some article)

/-! ## Calls that do no harm -/

def Call.mayFail : Call → Bool
  | .cache (.get _) => true
  | .cache (.set _ _ _) => true
  | _ => false

/-- A call is served, or fails where it may without the caller having cancelled. -/
def Fate.Harmless {call : Call} (fate : Fate call) : Prop :=
  fate = .served ∨ call.mayFail = true ∧ ∃ error, error ≠ call.cancelled ∧ fate = .failed error

theorem Fate.Harmless.served {call : Call} {fate : Fate call} (harmless : fate.Harmless)
    (needed : call.mayFail = false) : fate = .served := by
  rcases harmless with served | ⟨may, _⟩
  · exact served
  · rw [needed] at may
    cases may

/-! ## Operations -/

structure Agrees {α : Type} (service : Service) (result : Except Crash α × Session kind.State LruCache)
    (direct : Except Crash α × kind.State) : Prop where
  outcome : result.1 = direct.1
  store : result.2.store = direct.2
  coherent : Coherent service result.2.store result.2.cache

section Operations

variable {world : Surroundings} {now : Instant} {fates : (call : Call) → Fate call}
  {session : Session kind.State LruCache}

theorem agrees_create {draft : Draft} (live : session.cancelled = false) (harmless : ∀ call, (fates call).Harmless)
    (coherent : Coherent service session.store session.cache)
    (fresh : kind = .memory → kind.holds (.random world.random) session.store = false) :
    Agrees service ((Service.create draft).final (Session.handler (servers kind world now) fates) session)
      ((Operation.create draft).direct kind.backend world session.store) := by
  have kept : Coherent service (kind.backend world (.insert draft) session.store).2 session.cache :=
    coherent.imp (StoreKind.find_insert fresh)
  rw [Service.create_eq, Session.final_store live ((harmless _).served rfl)]
  simp only [servers, Operation.direct]
  cases answered : kind.backend world (.insert draft) session.store with
  | mk outcome store =>
    rw [answered] at kept
    match outcome with
    | .error crash => exact ⟨rfl, rfl, kept⟩
    | .ok (.error error) => exact ⟨rfl, rfl, kept⟩
    | .ok (.ok article) => exact ⟨rfl, rfl, kept⟩

theorem agrees_update {revision : Revision} (live : session.cancelled = false)
    (harmless : ∀ call, (fates call).Harmless) (coherent : Coherent service session.store session.cache)
    (inRange : world.clock.InRange) :
    Agrees service ((service.update revision).final (Session.handler (servers kind world now) fates) session)
      ((Operation.update revision).direct kind.backend world session.store) := by
  have others {id : Uuid} {article : BylinedArticle} (other : id ≠ revision.id)
      (found : kind.find id session.store = .ok (some article)) :
      kind.find id (kind.backend world (.update revision) session.store).2 = .ok (some article) :=
    StoreKind.find_update other found
  -- If the article does not leave the cache it is not in there.
  have unanswered
      (none : ∀ article, (kind.backend world (.update revision) session.store).1 ≠ .ok (.ok (some article))) :
      Coherent service (kind.backend world (.update revision) session.store).2 session.cache := by
    apply coherent.imp
    intro id article _ found
    refine others ?_ found
    rintro rfl
    obtain ⟨answer, answered⟩ := StoreKind.exists_of_update inRange found
    exact none answer answered
  rw [Service.update_eq, Session.final_store live ((harmless _).served rfl)]
  simp only [servers, Operation.direct]
  cases answered : kind.backend world (.update revision) session.store with
  | mk outcome store =>
    rw [answered] at unanswered
    simp only [answered] at others
    match outcome with
    | .error crash => exact ⟨rfl, rfl, unanswered (by simp)⟩
    | .ok (.error error) => exact ⟨rfl, rfl, unanswered (by simp)⟩
    | .ok (.ok none) => exact ⟨rfl, rfl, unanswered (by simp)⟩
    | .ok (.ok (some article)) =>
      have meant : article.id = revision.id := StoreKind.id_of_update (congrArg Prod.fst answered)
      simp only [Service.afterUpdate]
      rw [Session.final_cache (Session.live_stored live _ _) ((harmless (.cache (.delete _))).served rfl), meant]
      exact ⟨rfl, rfl, coherent.delete others⟩

theorem agrees_delete {id : Uuid} (live : session.cancelled = false) (harmless : ∀ call, (fates call).Harmless)
    (coherent : Coherent service session.store session.cache) (keyed : kind.Keyed session.store) :
    Agrees service ((service.delete id).final (Session.handler (servers kind world now) fates) session)
      ((Operation.delete id).direct kind.backend world session.store) := by
  have others {other : Uuid} {article : BylinedArticle} (apart : other ≠ id)
      (found : kind.find other session.store = .ok (some article)) :
      kind.find other (kind.backend world (.delete id) session.store).2 = .ok (some article) :=
    StoreKind.find_delete apart found
  -- If no row is counted none was found, and the article is not in the cache.
  have uncounted (none : (kind.backend world (.delete id) session.store).1 ≠ .ok (.ok 1)) :
      Coherent service (kind.backend world (.delete id) session.store).2 session.cache := by
    apply coherent.imp
    intro other article _ found
    refine others ?_ found
    rintro rfl
    exact none (StoreKind.count_delete keyed found)
  rw [Service.delete_eq, Session.final_store live ((harmless _).served rfl)]
  simp only [servers, Operation.direct]
  cases answered : kind.backend world (.delete id) session.store with
  | mk outcome store =>
    rw [answered] at uncounted
    simp only [answered] at others
    match outcome with
    | .error crash => exact ⟨rfl, rfl, uncounted (by simp)⟩
    | .ok (.error error) => exact ⟨rfl, rfl, uncounted (by simp)⟩
    | .ok (.ok rows) =>
      simp only [Service.afterDelete, Except.map, Except.bind]
      by_cases nothing : rows = 0
      · rw [if_pos nothing, if_pos nothing]
        refine ⟨rfl, rfl, uncounted ?_⟩
        rintro ⟨⟩
        cases nothing
      · rw [if_neg nothing, if_neg nothing,
          Session.final_cache (Session.live_stored live _ _) ((harmless (.cache (.delete _))).served rfl)]
        exact ⟨rfl, rfl, coherent.delete others⟩

theorem agrees_fetch {id : Uuid} (live : session.cancelled = false) (harmless : ∀ call, (fates call).Harmless)
    (coherent : Coherent service session.store session.cache) (reached : (now.after? service.ttl).isSome) :
    Agrees service ((service.fetch id).final (Session.handler (servers kind world now) fates) session)
      ((Operation.get id).direct kind.backend world session.store) := by
  rw [Service.fetch_eq, Session.final_store live ((harmless _).served rfl)]
  simp only [servers, Operation.direct, StoreKind.backend_get]
  cases found : kind.find id session.store with
  | error error => exact ⟨rfl, rfl, coherent⟩
  | ok row =>
    cases row with
    | none => exact ⟨rfl, rfl, coherent⟩
    | some article =>
      -- The article is cached under the identifier by which it was found.
      obtain rfl := StoreKind.id_of_find found
      simp only [Service.afterFetch]
      rcases harmless (.cache (.set (service.key article.id) article.toCached service.ttl)) with
        served | ⟨_, error, _, failed⟩
      · obtain ⟨full, stored⟩ :=
          LruCache.exists_set (service.key article.id) article.toCached session.cache reached
        have answered : LruCache.backend now (.set (service.key article.id) article.toCached service.ttl) session.cache
            = (.ok (.ok ()), full) := LruCache.backend_set_of_eq_ok stored
        rw [Session.final_cache (Session.live_stored live _ _) served]
        simp only [Session.stored, Session.logged, answered]
        exact ⟨rfl, rfl, coherent.set (fun _ => found) stored⟩
      · rw [Session.final_failed (Session.live_stored live _ _) failed]
        exact ⟨rfl, rfl, coherent⟩

theorem agrees_get {id : Uuid} (live : session.cancelled = false) (harmless : ∀ call, (fates call).Harmless)
    (coherent : Coherent service session.store session.cache) (reached : (now.after? service.ttl).isSome) :
    Agrees service ((service.get id).final (Session.handler (servers kind world now) fates) session)
      ((Operation.get id).direct kind.backend world session.store) := by
  rw [Service.get_eq]
  rcases harmless (.cache (.get (service.key id))) with served | ⟨_, error, notCancelled, failed⟩
  · rw [Session.final_cache live served]
    -- Looking up may drop an entry but adds none.
    have kept := coherent.get now (service.key id)
    have hit {value : Bytes} : (session.cache.get now (service.key id)).1 = some value → _ := (coherent id).of_hit
    simp only [servers, LruCache.backend]
    cases looked : session.cache.get now (service.key id) with
    | mk value cache =>
      rw [looked] at kept hit
      cases value with
      | none =>
        rw [Service.readHit, Service.afterLookUp, Program.final_note]
        exact agrees_fetch (Session.live_cached live _ _) harmless kept reached
      | some octets =>
        obtain ⟨article, _, written, found, _⟩ := hit rfl
        rw [written, Service.readHit, BylinedArticle.ofCached_toCached (StoreKind.leapsEndMinutes_of_find found)]
        simp only [Operation.direct, StoreKind.backend_get, found]
        exact ⟨rfl, rfl, kept⟩
  · -- A look-up that fails is like a miss, unless the caller cancelled.
    rw [Session.final_failed live failed, Service.readHit]
    have live := Session.live_logged live (.cache (.get (service.key id)))
    cases error with
    | cancelled => exact absurd rfl notCancelled
    | connectionFailed reason => exact agrees_fetch live harmless coherent reached
    | operationFailed reason => exact agrees_fetch live harmless coherent reached
    | serialization reason => exact agrees_fetch live harmless coherent reached

/-- Where neither the store nor the cache changes, the cache stays coherent. -/
theorem agrees_of_fromStore {α : Type} {result : Except Crash α × Session kind.State LruCache}
    {direct : Except Crash α × kind.State} (given : FromStore result direct session.cache)
    (same : direct.2 = session.store) (coherent : Coherent service session.store session.cache) :
    Agrees service result direct where
  outcome := given.outcome
  store := given.store
  coherent := by
    rw [given.store, given.cache, same]
    exact coherent

theorem agrees_list {page : Page} (live : session.cancelled = false) (harmless : ∀ call, (fates call).Harmless)
    (coherent : Coherent service session.store session.cache) :
    Agrees service ((Service.list page).final (Session.handler (servers kind world now) fates) session)
      ((Operation.list page).direct kind.backend world session.store) :=
  agrees_of_fromStore (Service.fromStore_list live fun request => (harmless (.store request)).served rfl)
    (Operation.state_listing (StoreKind.state_of_isReading rfl) (StoreKind.state_of_isReading rfl)) coherent

theorem agrees_search {needle : String} {page : Page} (live : session.cancelled = false)
    (harmless : ∀ call, (fates call).Harmless) (coherent : Coherent service session.store session.cache) :
    Agrees service ((Service.search needle page).final (Session.handler (servers kind world now) fates) session)
      ((Operation.search needle page).direct kind.backend world session.store) :=
  agrees_of_fromStore (Service.fromStore_search live fun request => (harmless (.store request)).served rfl)
    (Operation.state_listing (StoreKind.state_of_isReading rfl) (StoreKind.state_of_isReading rfl)) coherent

theorem agrees_perform (session : Session kind.State LruCache) (operation : Operation)
    (live : session.cancelled = false) (harmless : ∀ call, (fates call).Harmless)
    (coherent : Coherent service session.store session.cache) (keyed : kind.Keyed session.store)
    (inRange : world.clock.InRange) (reached : (now.after? service.ttl).isSome)
    (fresh : ∀ draft, operation = .create draft → kind = .memory →
      kind.holds (.random world.random) session.store = false) :
    Agrees service ((service.perform operation).final (Session.handler (servers kind world now) fates) session)
      (operation.direct kind.backend world session.store) := by
  cases operation with
  | create draft => exact agrees_create live harmless coherent (fresh draft rfl)
  | update revision => exact agrees_update live harmless coherent inRange
  | get id => exact agrees_get live harmless coherent reached
  | delete id => exact agrees_delete live harmless coherent keyed
  | list page => exact agrees_list live harmless coherent
  | search needle page => exact agrees_search live harmless coherent

end Operations

/-! ## Runs -/

theorem keyed_operation (operation : Operation) (world : Surroundings) {store : kind.State} (keyed : kind.Keyed store) :
    kind.Keyed (operation.direct kind.backend world store).2 :=
  operation.invariant_direct (fun _ _ => StoreKind.keyed_backend) keyed

def Work.Steady {σ : Type} : Work σ → Prop
  | .perform _ cancelled fates => cancelled = false ∧ ∀ call, (fates call).Harmless
  | .insertAuthor _ => True
  | .change _ => False

/-- A turn in the years from 1970 to 9999, in which a deadline can be reached and a new article gets a new
identifier. -/
structure Turn.Smooth (service : Service) (turn : Turn kind) (store : kind.State) : Prop where
  steady : turn.work.Steady
  inRange : turn.surroundings.clock.InRange
  reached : (turn.now.after? service.ttl).isSome
  fresh : ∀ draft cancelled fates, turn.work = .perform (.create draft) cancelled fates →
    kind.holds (.random turn.surroundings.random) store = false

def Smooth (service : Service) : List (Turn kind) → kind.State → Prop
  | [], _ => True
  | turn :: turns, store => turn.Smooth service store ∧ Smooth service turns (turn.direct store).2

/-- In a turn the cache does not show, and it stays coherent. -/
theorem Turn.play_eq_direct {turn : Turn kind} {system : System kind} (smooth : turn.Smooth service system.store)
    (keyed : kind.Keyed system.store) (coherent : Coherent service system.store system.cache) :
    (turn.play service system).1 = (turn.direct system.store).1 ∧
      (turn.play service system).2.store = (turn.direct system.store).2 ∧
      Coherent service (turn.play service system).2.store (turn.play service system).2.cache ∧
      kind.Keyed (turn.direct system.store).2 := by
  obtain ⟨steady, inRange, reached, fresh⟩ := smooth
  simp only [Turn.play, Turn.direct]
  match work : turn.work with
  | .perform operation cancelled fates =>
    rw [work] at steady
    obtain ⟨rfl, harmless⟩ := steady
    have agrees := agrees_perform ⟨system.store, system.cache, false, []⟩ operation rfl harmless coherent
      keyed inRange reached fun draft same _ => fresh draft false fates (same ▸ work)
    refine ⟨?_, agrees.store, agrees.coherent, keyed_operation operation _ keyed⟩
    exact congrArg (Outcome.performed operation) agrees.outcome
  | .insertAuthor author =>
    refine ⟨rfl, rfl, ?_, StoreKind.keyed_addAuthor keyed⟩
    exact coherent.imp StoreKind.find_addAuthor
  | .change edit =>
    rw [work] at steady
    exact steady.elim

/-- Operations give with a cache what they give without, and leave the store as it is left without. -/
theorem play_eq_direct {turns : List (Turn kind)} {system : System kind} (smooth : Smooth service turns system.store)
    (keyed : kind.Keyed system.store) (coherent : Coherent service system.store system.cache) :
    (play service turns system).1 = (direct turns system.store).1 ∧
      (play service turns system).2.store = (direct turns system.store).2 := by
  induction turns generalizing system with
  | nil => exact ⟨rfl, rfl⟩
  | cons turn turns inductionHypothesis =>
    obtain ⟨now, later⟩ := smooth
    obtain ⟨outcome, store, coherent, keyed⟩ := turn.play_eq_direct now keyed coherent
    -- The store with a cache is the one without, so that the later turns are smooth for it.
    rw [← store] at later keyed
    obtain ⟨outcomes, last⟩ := inductionHypothesis later keyed coherent
    simp only [play, direct]
    rw [outcomes, last, outcome, store]
    exact ⟨rfl, rfl⟩

/-- A cache that starts empty never shows. -/
theorem play_eq_direct_of_empty {turns : List (Turn kind)} {store : kind.State} {cache : LruCache}
    (empty : cache.entries = []) (keyed : kind.Keyed store) (smooth : Smooth service turns store) :
    (play service turns ⟨store, cache⟩).1 = (direct turns store).1 ∧
      (play service turns ⟨store, cache⟩).2.store = (direct turns store).2 :=
  play_eq_direct smooth keyed (HoldsOnly.of_empty empty)

/-- A new author, an article of hers that is read twice, the first time with a cache that keeps nothing, a revision and
another look. -/
def aMorning : List (Turn .memory) :=
  let world : Surroundings := ⟨⟨1700000000000000000⟩, 7⟩
  let full : (call : Call) → Fate call
    | .cache (.set _ _ _) => .failed (.operationFailed "full")
    | _ => .served
  [⟨world, ⟨1⟩, .insertAuthor ⟨⟨1⟩, "Ada", "Lovelace"⟩⟩,
    ⟨world, ⟨2⟩, .perform (.create ⟨⟨1⟩, "Notes", "On the engine", none, "science"⟩) false Session.undisturbed⟩,
    ⟨world, ⟨3⟩, .perform (.get (.random 7)) false full⟩,
    ⟨world, ⟨4⟩, .perform (.get (.random 7)) false Session.undisturbed⟩,
    ⟨world, ⟨5⟩, .perform (.update ⟨.random 7, "Notes", "Revised", none, "science"⟩) false Session.undisturbed⟩,
    ⟨world, ⟨6⟩, .perform (.get (.random 7)) false Session.undisturbed⟩]

theorem play_eq_direct_of_aMorning :
    Smooth ⟨"article:", .ofSeconds 60⟩ aMorning (StoreKind.new .memory) ∧
      (play ⟨"article:", .ofSeconds 60⟩ aMorning ⟨StoreKind.new .memory, roomForOne⟩).1
        = (direct aMorning (StoreKind.new .memory)).1 ∧
      (play ⟨"article:", .ofSeconds 60⟩ aMorning ⟨StoreKind.new .memory, roomForOne⟩).2.store
        = (direct aMorning (StoreKind.new .memory)).2 := by
  have harmless (call : Call) : (Session.undisturbed call).Harmless := .inl rfl
  have smooth : Smooth ⟨"article:", .ofSeconds 60⟩ aMorning (StoreKind.new .memory) := by
    refine ⟨⟨trivial, by decide, by decide, nofun⟩, ⟨⟨rfl, harmless⟩, by decide, by decide, fun _ _ _ _ => by decide⟩,
      ⟨⟨rfl, ?_⟩, by decide, by decide, nofun⟩, ⟨⟨rfl, harmless⟩, by decide, by decide, nofun⟩,
      ⟨⟨rfl, harmless⟩, by decide, by decide, nofun⟩, ⟨⟨rfl, harmless⟩, by decide, by decide, nofun⟩, trivial⟩
    intro call
    match call with
    | .cache (.set _ _ _) => exact .inr ⟨rfl, .operationFailed "full", nofun, rfl⟩
    | .cache (.get _) => exact .inl rfl
    | .cache (.delete _) => exact .inl rfl
    | .store _ => exact .inl rfl
  exact ⟨smooth, play_eq_direct_of_empty rfl (StoreKind.keyed_new .memory) smooth⟩

end Gazette
