import Gazette.Proofs.Service.Cached
import Gazette.Proofs.Service.Requests
import Gazette.Proofs.Service.Turn

/-!
# How old an article may be

* `points` are the stores of a run with the times at which turns found them.
* `recent_of_get`: an article that a look-up gives is in the store, or was there not longer ago than articles are
  cached.

Nothing is asked of the calls here: any of them may fail or be cut off, and others may change the store.
-/

namespace Gazette

variable {kind : StoreKind} {service : Service}

structure Point (kind : StoreKind) where
  now : Instant
  store : kind.State

def points (service : Service) : List (Turn kind) → System kind → List (Point kind)
  | [], _ => []
  | turn :: turns, system => ⟨turn.now, system.store⟩ :: points service turns (turn.play service system).2

def Recent (service : Service) (past : List (Point kind)) (now : Instant) (id : Uuid) (article : BylinedArticle) :
    Prop :=
  ∃ point ∈ past, kind.find id point.store = .ok (some article) ∧
    now.nanoseconds < point.now.nanoseconds + service.ttl.total

theorem Recent.leapsEndMinutes {past : List (Point kind)} {now : Instant} {id : Uuid} {article : BylinedArticle}
    (recent : Recent service past now id article) : article.LeapsEndMinutes := by
  obtain ⟨_, _, found, _⟩ := recent
  exact StoreKind.leapsEndMinutes_of_find found

/-- Whatever is cached of an article was found in a store, and expires as long after that as articles are cached. -/
def Dated (service : Service) (past : List (Point kind)) : LruCache → Prop :=
  HoldsOnly service fun id article deadline => ∃ point ∈ past, kind.find id point.store = .ok (some article) ∧
    point.now.after? service.ttl = some deadline

variable {past longer : List (Point kind)} {cache : LruCache} {now : Instant} {id : Uuid}

theorem Dated.mono (dated : Dated service past cache) (subset : ∀ point ∈ past, point ∈ longer) :
    Dated service longer cache := by
  apply dated.imp
  rintro id article deadline ⟨point, known, rest⟩
  exact ⟨point, subset point known, rest⟩

theorem Dated.of_hit {value : Bytes} (dated : Dated service past cache)
    (hit : (cache.get now (service.key id)).1 = some value) :
    ∃ article : BylinedArticle, value = article.toCached ∧ Recent service past now id article := by
  obtain ⟨article, deadline, written, ⟨point, known, found, reached⟩, alive⟩ := (dated id).of_hit hit
  rw [nanoseconds_after? reached] at alive
  exact ⟨article, written, point, known, found, alive⟩

/-! ## Operations -/

section Operations

variable {world : Surroundings} {fates : (call : Call) → Fate call} {store : kind.State}

/-- A request to the cache keeps a property of all that is cached, if what it stores is an article that has it. -/
theorem HoldsOnly.handler_cache {property : Uuid → BylinedArticle → Instant → Prop} {request : CacheRequest}
    {session : Session kind.State LruCache} (holds : HoldsOnly service property session.cache)
    (storing : ∀ {key value ttl}, request = .set key value ttl → ∃ (id : Uuid) (article : BylinedArticle),
      key = service.key id ∧ value = article.toCached ∧ ttl = service.ttl ∧
        ∀ {deadline}, now.after? service.ttl = some deadline → property id article deadline) :
    HoldsOnly service property
      (Session.handler (servers kind world now) fates (.cache request) session).2.cache := by
  rcases Session.handler_cases (servers kind world now) fates (.cache request) session with
    ⟨_, same, _⟩ | ⟨_, served, _⟩
  -- The call was not served, and the cache is the same.
  · rw [same]
    exact holds
  · rw [served]
    simp only [Session.serve, servers]
    cases request with
    | get key => exact holds.get now key
    | delete key =>
      intro id
      exact (holds id).delete key
    | set key value ttl =>
      obtain ⟨id, article, rfl, written, rfl, has⟩ := storing rfl
      rw [written]
      simp only [LruCache.backend]
      cases stored : session.cache.set now (service.key id) article.toCached service.ttl with
      | error crash => exact holds
      | ok full => exact holds.set has stored

/-- A request to the cache keeps it dated, if what it stores is found in a store of this time. -/
theorem Dated.handler_cache {request : CacheRequest} {session : Session kind.State LruCache}
    (dated : Dated service past session.cache)
    (storing : ∀ {key value ttl}, request = .set key value ttl → ∃ (id : Uuid) (article : BylinedArticle),
      key = service.key id ∧ value = article.toCached ∧ ttl = service.ttl ∧
        ∃ point ∈ past, point.now = now ∧ kind.find id point.store = .ok (some article)) :
    Dated service past (Session.handler (servers kind world now) fates (.cache request) session).2.cache := by
  apply HoldsOnly.handler_cache dated
  intro key value ttl asked
  obtain ⟨id, article, sameKey, written, sameTtl, point, known, rfl, found⟩ := storing asked
  exact ⟨id, article, sameKey, written, sameTtl, fun reached => ⟨point, known, found, reached⟩⟩

theorem cache_handler_store (request : StoreRequest) (session : Session kind.State LruCache) :
    (Session.handler (servers kind world now) fates (.store request) session).2.cache = session.cache := by
  rcases Session.handler_cases (servers kind world now) fates (.store request) session with
    ⟨_, same, _⟩ | ⟨_, same, _⟩
  · exact same
  · exact same

/-! ## Operations but look-ups -/

def Call.StoresNothing : Call → Prop
  | .cache (.set _ _ _) => False
  | _ => True

theorem Dated.handler_of_storesNothing {request : Call} {session : Session kind.State LruCache}
    (nothing : request.StoresNothing) (dated : Dated service past session.cache) :
    Dated service past (Session.handler (servers kind world now) fates request session).2.cache := by
  cases request with
  | store request =>
    rw [cache_handler_store]
    exact dated
  | cache request =>
    apply dated.handler_cache
    rintro key value ttl rfl
    exact nothing.elim

theorem follows_perform (service : Service) (operation : Operation) (notGet : ∀ id, operation ≠ .get id) :
    (service.perform operation).Follows Call.StoresNothing (fun _ _ => True) fun _ => True := by
  apply (service.follows_isOf (fun _ => False) (fun _ => True) operation).imp
  · intro request isOf
    match request with
    | .store _ => trivial
    | .cache (.get _) => trivial
    | .cache (.delete _) => trivial
    | .cache (.set _ _ _) =>
      obtain ⟨_, told, _⟩ := isOf
      exact told.elim
  · intro request reply isOf _
    simp only [Call.Tells]
    split
    · exact notGet _ isOf.eq_get
    · trivial
    · trivial
    · trivial
  · exact fun _ => id

/-! ## Look-ups -/

/-- The calls of a look-up that finds a store at a time: it changes nothing there and caches what it finds. -/
def Call.IsOfLookUp (service : Service) (store : kind.State) : Call → Prop
  | .store request => request.isReading
  | .cache (.set key value ttl) => ∃ (id : Uuid) (article : BylinedArticle), key = service.key id ∧
      value = article.toCached ∧ ttl = service.ttl ∧ kind.find id store = .ok (some article)
  | _ => True

/-- The replies that a look-up may get: articles that the store finds, and cached ones that were found not too long
ago. -/
def Call.MayHear (service : Service) (past : List (Point kind)) (now : Instant) (store : kind.State) :
    (call : Call) → call.Reply → Prop
  | .store (.get id), .ok (some article) => kind.find id store = .ok (some article)
  | .cache (.get key), .ok (some value) => ∀ id, key = service.key id →
      ∃ article : BylinedArticle, value = article.toCached ∧ Recent service past now id article
  | _, _ => True

def Current (service : Service) (past : List (Point kind)) (now : Instant) (store : kind.State) (id : Uuid)
    (result : Except StoreError BylinedArticle) : Prop :=
  ∀ article, result = .ok article → kind.find id store = .ok (some article) ∨ Recent service past now id article

theorem current_of_error (id : Uuid) (error : StoreError) : Current service past now store id (.error error) := by
  intro article same
  cases same

theorem follows_fetch (service : Service) (past : List (Point kind)) (now : Instant) (store : kind.State) (id : Uuid) :
    (service.fetch id).Follows (Call.IsOfLookUp service store) (Call.MayHear service past now store)
      (Current service past now store id) := by
  rw [Service.fetch_eq]
  refine ⟨rfl, ?_⟩
  intro reply heard
  match reply with
  | .error error => exact current_of_error id error
  | .ok none => exact current_of_error id _
  | .ok (some article) =>
    have found : kind.find id store = .ok (some article) := heard
    have current : Current service past now store id (.ok article) := by
      intro other same
      cases same
      exact .inl found
    refine ⟨⟨article.id, article, rfl, rfl, rfl, ?_⟩, ?_⟩
    · rw [StoreKind.id_of_find found, found]
    · intro reply _
      match reply with
      | .ok () => exact current
      | .error error => exact current

theorem follows_get (service : Service) (past : List (Point kind)) (now : Instant) (store : kind.State) (id : Uuid) :
    (service.get id).Follows (Call.IsOfLookUp service store) (Call.MayHear service past now store)
      (Current service past now store id) := by
  have missed := follows_fetch service past now store id
  rw [Service.get_eq]
  refine ⟨trivial, ?_⟩
  intro reply heard
  match reply with
  | .ok none => exact missed
  | .ok (some value) =>
    obtain ⟨article, written, recent⟩ := heard id rfl
    show (service.afterLookUp id ((BylinedArticle.ofCached value).map some)).Follows _ _ _
    rw [written, BylinedArticle.ofCached_toCached recent.leapsEndMinutes]
    intro other same
    cases same
    exact .inr recent
  | .error .cancelled => exact current_of_error id _
  | .error (.connectionFailed _) => exact missed
  | .error (.operationFailed _) => exact missed
  | .error (.serialization _) => exact missed

/-- In a look-up the store stays as it is, the cache stays dated, and replies are as they may be. -/
theorem handler_of_isOfLookUp {request : Call} {session : Session kind.State LruCache}
    (known : ⟨now, store⟩ ∈ past) (isOfLookUp : request.IsOfLookUp service store)
    (start : session.store = store ∧ Dated service past session.cache) :
    ((Session.handler (servers kind world now) fates request session).2.store = store ∧
        Dated service past (Session.handler (servers kind world now) fates request session).2.cache) ∧
      ∀ reply, (Session.handler (servers kind world now) fates request session).1 = .ok reply →
        request.MayHear service past now store reply := by
  obtain ⟨sameStore, dated⟩ := start
  cases request with
  | store request =>
    refine ⟨⟨?_, ?_⟩, ?_⟩
    · rcases Session.handler_cases (servers kind world now) fates (.store request) session with
        ⟨same, _⟩ | ⟨served, _⟩
      · rw [same, sameStore]
      · rw [served]
        exact (StoreKind.state_of_isReading isOfLookUp).trans sameStore
    · rw [cache_handler_store]
      exact dated
    · intro reply replied
      cases request with
      | get id =>
        cases reply with
        | error error => trivial
        | ok found =>
          cases found with
          | none => trivial
          | some article =>
            have answered := Session.handler_answer replied
            simp only [Session.serve, servers, StoreKind.backend_get, sameStore] at answered
            exact Except.ok.inj answered
      | _ => trivial
  | cache request =>
    refine ⟨⟨?_, dated.handler_cache ?_⟩, ?_⟩
    · rcases Session.handler_cases (servers kind world now) fates (.cache request) session with
        ⟨same, _⟩ | ⟨same, _⟩ <;> exact same.trans sameStore
    · -- What is cached was found in the store just now.
      rintro key value ttl rfl
      obtain ⟨id, article, key, value, ttl, found⟩ := isOfLookUp
      exact ⟨id, article, key, value, ttl, _, known, rfl, found⟩
    · intro reply replied
      cases request with
      | get key =>
        cases reply with
        | error error => trivial
        | ok hit =>
          cases hit with
          | none => trivial
          | some value =>
            -- A hit is an article that is dated by the past.
            have answered := Session.handler_answer replied
            rintro id rfl
            exact dated.of_hit (Except.ok.inj (Except.ok.inj answered))
      | _ => trivial

/-- A look-up gives what is current and keeps the cache dated. -/
theorem final_get (world : Surroundings) (fates : (call : Call) → Fate call) (session : Session kind.State LruCache)
    (id : Uuid) (known : ⟨now, session.store⟩ ∈ past)
    (dated : Dated service past session.cache) :
    Dated service past
        ((service.get id).final (Session.handler (servers kind world now) fates) session).2.cache ∧
      ∀ result, ((service.get id).final (Session.handler (servers kind world now) fates) session).1 = .ok result →
        Current service past now session.store id result := by
  have start : session.store = session.store ∧ Dated service past session.cache := ⟨rfl, dated⟩
  have follows : (service.get id).Follows (Call.IsOfLookUp service session.store)
      (Call.MayHear service past now session.store) (Current service past now session.store id) :=
    follows_get service past now session.store id
  obtain ⟨⟨_, kept⟩, current⟩ := follows.final (Session.handler (servers kind world now) fates)
    (fun other => other.store = session.store ∧ Dated service past other.cache)
    (fun _ _ isOfLookUp => handler_of_isOfLookUp known isOfLookUp) start
  exact ⟨kept, current⟩

/-- Every operation keeps the cache dated. -/
theorem dated_perform (world : Surroundings) (fates : (call : Call) → Fate call) (operation : Operation)
    (session : Session kind.State LruCache)
    (known : ⟨now, session.store⟩ ∈ past) (dated : Dated service past session.cache) :
    Dated service past
      ((service.perform operation).final (Session.handler (servers kind world now) fates) session).2.cache := by
  -- Only a look-up caches anything. The other operations can but remove something from the cache.
  by_cases look : ∃ id, operation = .get id
  · obtain ⟨id, rfl⟩ := look
    exact (final_get world fates session id known dated).1
  · have follows := follows_perform service operation fun id same => look ⟨id, same⟩
    have kept := follows.final (Session.handler (servers kind world now) fates)
      (fun other => Dated service past other.cache)
      (fun _ _ nothing dated => ⟨dated.handler_of_storesNothing nothing, fun _ _ => trivial⟩) dated
    exact kept.1

end Operations

/-- A hit is given, and nothing else is asked. -/
theorem final_get_of_hit {fates : (call : Call) → Fate call} {session : Session kind.State LruCache}
    {article : BylinedArticle} (leaps : article.LeapsEndMinutes) (world : Surroundings)
    (live : session.cancelled = false) (served : fates (.cache (.get (service.key id))) = .served)
    (hit : (session.cache.get now (service.key id)).1 = some article.toCached) :
    (service.get id).final (Session.handler (servers kind world now) fates) session
      = (.ok (.ok article), session.cached (.get (service.key id)) (session.cache.get now (service.key id)).2) := by
  rw [Service.get_eq, Session.final_cache live served]
  simp only [servers, LruCache.backend, hit, Service.readHit, BylinedArticle.ofCached_toCached leaps]
  rfl

theorem Turn.play_of_hit {world : Surroundings} {system : System kind} {article : BylinedArticle}
    (leaps : article.LeapsEndMinutes) (hit : (system.cache.get now (service.key id)).1 = some article.toCached) :
    ((⟨world, now, .perform (.get id) false Session.undisturbed⟩ : Turn kind).play service system).1
      = .performed (.get id) (.ok (.ok article)) := by
  have live : (Session.mk system.store system.cache false []).cancelled = false := rfl
  have given := final_get_of_hit leaps world live (Session.served_undisturbed _) hit
  exact congrArg (Outcome.performed (.get id) ·.1) given

/-! ## Runs -/

theorem Turn.dated_play {turn : Turn kind} {system : System kind} (known : ⟨turn.now, system.store⟩ ∈ past)
    (dated : Dated service past system.cache) : Dated service past (turn.play service system).2.cache := by
  simp only [Turn.play]
  match turn.work with
  | .perform operation cancelled fates =>
    exact dated_perform turn.surroundings fates operation ⟨system.store, system.cache, cancelled, []⟩ known dated
  | .insertAuthor author => exact dated
  | .change edit => exact dated

/-- After a turn the cache is dated by the store that it found, and by those before. -/
theorem Dated.play {system : System kind} (dated : Dated service past system.cache) (turn : Turn kind) :
    Dated service (past ++ [⟨turn.now, system.store⟩]) (turn.play service system).2.cache := by
  apply turn.dated_play (List.mem_append_right _ List.mem_cons_self)
  exact dated.mono fun point known => List.mem_append_left _ known

/-- After any turns the cache is dated by the stores that they found, and by those before. -/
theorem dated_play {turns : List (Turn kind)} {system : System kind} (dated : Dated service past system.cache) :
    Dated service (past ++ points service turns system) (play service turns system).2.cache := by
  induction turns generalizing past system with
  | nil => exact dated.mono fun point known => List.mem_append_left _ known
  | cons turn turns inductionHypothesis =>
    have later := inductionHypothesis (dated.play turn)
    rw [List.append_assoc, List.singleton_append] at later
    exact later

theorem now_of_mem_points {turns : List (Turn kind)} {system : System kind} {point : Point kind}
    (known : point ∈ points service turns system) : ∃ turn ∈ turns, point.now = turn.now := by
  induction turns generalizing system with
  | nil => cases known
  | cons turn turns inductionHypothesis =>
    rcases List.mem_cons.mp known with rfl | later
    · exact ⟨turn, List.mem_cons_self, rfl⟩
    · obtain ⟨other, there, same⟩ := inductionHypothesis later
      exact ⟨other, List.mem_cons_of_mem turn there, same⟩

/-- An article that a look-up gives after any turns is in the store, or was there less long ago than articles are
cached. -/
theorem recent_of_get {turns : List (Turn kind)} {start : System kind} (empty : start.cache.entries = [])
    {turn : Turn kind} {id : Uuid} {cancelled : Bool} {fates : (call : Call) → Fate call}
    (look : turn.work = .perform (.get id) cancelled fates)
    (forward : ∀ earlier ∈ turns, earlier.now.nanoseconds ≤ turn.now.nanoseconds) {article : BylinedArticle}
    (answered : (turn.play service (play service turns start).2).1 = .performed (.get id) (.ok (.ok article))) :
    kind.find id (play service turns start).2.store = .ok (some article) ∨
      ∃ point ∈ points service turns start, kind.find id point.store = .ok (some article) ∧
        point.now.nanoseconds ≤ turn.now.nanoseconds ∧
        turn.now.nanoseconds < point.now.nanoseconds + service.ttl.total := by
  have dated : Dated service ([] ++ points service turns start) (play service turns start).2.cache :=
    dated_play (HoldsOnly.of_empty empty)
  rw [List.nil_append] at dated
  -- The turn itself finds a store, too, the one after all the others.
  have longer : Dated service (points service turns start ++ [⟨turn.now, (play service turns start).2.store⟩])
      (play service turns start).2.cache := dated.mono fun point known => List.mem_append_left _ known
  simp only [Turn.play, look, Outcome.performed.injEq, heq_eq_eq, true_and] at answered
  have current := (final_get turn.surroundings fates
    ⟨(play service turns start).2.store, (play service turns start).2.cache, cancelled, []⟩ id
    (List.mem_append_right _ List.mem_cons_self) longer).2 (.ok article) answered
  rcases current article rfl with found | ⟨point, known, found, alive⟩
  · exact .inl found
  · rcases List.mem_append.mp known with before | now
    · obtain ⟨earlier, there, same⟩ := now_of_mem_points before
      exact .inr ⟨point, before, found, same ▸ forward earlier there, alive⟩
    · obtain rfl := List.mem_singleton.mp now
      exact .inl found

/-- A new author and an article of hers, which is read, and then revised while the cache cannot be reached. -/
def anOutage : List (Turn .memory) :=
  let world : Surroundings := ⟨⟨1700000000000000000⟩, 7⟩
  let down : (call : Call) → Fate call
    | .cache (.delete _) => .failed (.connectionFailed "down")
    | _ => .served
  [⟨world, ⟨1⟩, .insertAuthor ⟨⟨1⟩, "Ada", "Lovelace"⟩⟩,
    ⟨world, ⟨2⟩, .perform (.create ⟨⟨1⟩, "Notes", "On the engine", none, "science"⟩) false Session.undisturbed⟩,
    ⟨world, ⟨3⟩, .perform (.get (.random 7)) false Session.undisturbed⟩,
    ⟨world, ⟨4⟩, .perform (.update ⟨.random 7, "Notes", "Revised", none, "science"⟩) false down⟩]

def theNotes : BylinedArticle :=
  ⟨.random 7, ⟨1⟩, "Ada Lovelace", "Notes", "On the engine", none, "science", oneEvening, oneEvening⟩

def forAMinute : Service := ⟨"article:", .ofSeconds 60⟩

def afterTheOutage : System .memory := (play forAMinute anOutage ⟨StoreKind.new .memory, roomForOne⟩).2

theorem cache_afterTheOutage : afterTheOutage.cache =
    { roomForOne with entries := [⟨forAMinute.key (.random 7), theNotes.toCached, ⟨60000000003⟩⟩] } := rfl

theorem recent_of_get_of_anOutage :
    let turn : Turn .memory :=
      ⟨⟨⟨1700000060000000000⟩, 8⟩, ⟨60000000002⟩, .perform (.get (.random 7)) false Session.undisturbed⟩
    (turn.play forAMinute afterTheOutage).1 = .performed (.get (.random 7)) (.ok (.ok theNotes)) ∧
      (StoreKind.find .memory (.random 7) afterTheOutage.store = .ok (some theNotes) ∨
        ∃ point ∈ points forAMinute anOutage ⟨StoreKind.new .memory, roomForOne⟩,
          StoreKind.find .memory (.random 7) point.store = .ok (some theNotes) ∧
            point.now.nanoseconds ≤ 60000000002 ∧ 60000000002 < point.now.nanoseconds + forAMinute.ttl.total) := by
  intro turn
  have hit : (afterTheOutage.cache.get ⟨60000000002⟩ (forAMinute.key (.random 7))).1 = some theNotes.toCached := by
    rw [cache_afterTheOutage]
    apply LruCache.get_of_head
    decide
  have answered : (turn.play forAMinute afterTheOutage).1
      = .performed (.get (.random 7)) (.ok (.ok theNotes)) := Turn.play_of_hit (by decide) hit
  exact ⟨answered, recent_of_get rfl rfl (by decide) answered⟩

end Gazette
