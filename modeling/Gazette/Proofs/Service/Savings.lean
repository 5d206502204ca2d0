import Gazette.Proofs.Cache.Recency
import Gazette.Proofs.Service.Attribution
import Gazette.Proofs.Service.Requests
import Gazette.Proofs.Service.Staleness

/-!
# What a cache saves

* A `Deed` is a turn with what came of it and the calls that were made.
* `Touches`: what a turn asks of the cache in memory, if nothing goes wrong with that, and what comes of it then.
* `saved_of_fetched_lately`: after a look-up that has asked the store another one does not, until the article expires,
  is changed, or has given way in the cache to so many others that were looked up since.

A turn uses a key of the cache exactly if it looks up an article with success. All that is known of what the cache keeps
is therefore known here in terms of look-ups.
-/

namespace Gazette

open Program (call)

variable {kind : StoreKind} {service : Service}

/-! ## Deeds -/

def Fate.Spared : {call : Call} → Fate call → Prop
  | .store _, fate => fate = .served ∨ ∃ error, fate = .failed error
  | .cache _, fate => fate = .served

/-- An operation of which nobody cancels anything and of which no call to the cache fails, or anything else. -/
def Work.Spared {σ : Type} : Work σ → Prop
  | .perform _ cancelled fates => cancelled = false ∧ ∀ call, (fates call).Spared
  | _ => True

def Turn.calls (service : Service) (turn : Turn kind) (system : System kind) : List Call :=
  match turn.work with
  | .perform operation cancelled fates =>
    (Session.run (servers kind turn.surroundings turn.now) fates cancelled (service.perform operation) system.store
      system.cache).state.calls
  | _ => []

structure Deed (kind : StoreKind) where
  turn : Turn kind
  outcome : Outcome
  calls : List Call

def deeds (service : Service) : List (Turn kind) → System kind → List (Deed kind)
  | [], _ => []
  | turn :: turns, system =>
    ⟨turn, (turn.play service system).1, turn.calls service system⟩ ::
      deeds service turns (turn.play service system).2

def Outcome.fetched? : Outcome → Option Uuid
  | .performed (.get id) (.ok (.ok _)) => some id
  | _ => none

def Outcome.written? : Outcome → Option Uuid
  | .performed (.update revision) (.ok (.ok _)) => some revision.id
  | .performed (.delete id) (.ok (.ok _)) => some id
  | _ => none

/-- The other articles that were looked up with success after this one was looked up so last, the latest first. -/
def fetchedSince (id : Uuid) (past : List (Deed kind)) : List Uuid :=
  (past.reverse.filterMap fun deed => deed.outcome.fetched?).takeWhile (· ≠ id)

/-! ## What the cache is asked -/

def stamped (now : Instant) (calls : List Call) : List (Instant × CacheRequest) :=
  calls.filterMap fun
    | .cache request => some (now, request)
    | .store _ => none

section Calls

variable {world : Surroundings} {now : Instant} {fates : (call : Call) → Fate call}
  {session : Session kind.State LruCache} {store : kind.State} {cache : LruCache}

structure Session.Tracks (now : Instant) (cache : LruCache) (session : Session kind.State LruCache) : Prop where
  live : session.cancelled = false
  cache : session.cache = LruCache.run (stamped now session.calls) cache

theorem Session.Tracks.handler (spared : ∀ call, (fates call).Spared) (request : Call)
    (tracks : session.Tracks now cache) :
    (Session.handler (servers kind world now) fates request session).2.Tracks now cache := by
  obtain ⟨live, same⟩ := tracks
  rw [Session.handler_live _ _ _ live]
  cases request with
  | store request =>
    have asked : stamped now (session.calls ++ [.store request]) = stamped now session.calls := by simp [stamped]
    rcases spared (.store request) with served | ⟨error, failed⟩
    · rw [served]
      exact ⟨live, same.trans (congrArg (LruCache.run · cache) asked.symm)⟩
    · rw [failed]
      exact ⟨live, same.trans (congrArg (LruCache.run · cache) asked.symm)⟩
  | cache request =>
    have asked : stamped now (session.calls ++ [.cache request]) = stamped now session.calls ++ [(now, request)] := by
      simp [stamped]
    have served : fates (.cache request) = .served := spared (.cache request)
    rw [served]
    refine ⟨live, ?_⟩
    show (LruCache.backend now request session.cache).2 = LruCache.run (stamped now (session.calls ++ [_])) cache
    rw [asked, LruCache.run_append, same]

/-- A turn leaves the cache as what it asks of it does. -/
theorem Turn.cache_play {turn : Turn kind} (spared : turn.work.Spared) (service : Service) (system : System kind) :
    (turn.play service system).2.cache
      = LruCache.run (stamped turn.now (turn.calls service system)) system.cache := by
  obtain ⟨world, now, work⟩ := turn
  match work with
  | .perform operation cancelled fates =>
    obtain ⟨rfl, spared⟩ := spared
    have start : Session.Tracks now system.cache ⟨system.store, system.cache, false, []⟩ := ⟨rfl, rfl⟩
    have tracks : Session.Tracks now system.cache ((service.perform operation).final
        (Session.handler (servers kind world now) fates) ⟨system.store, system.cache, false, []⟩).2 :=
      Program.invariant_final _ (fun request _ tracks => tracks.handler spared request) start
    exact tracks.cache
  | .insertAuthor author => rfl
  | .change edit => rfl

/-- Whatever becomes of a call to the store, the cache is not asked by it. -/
theorem Session.exists_reply_store {α : Type} {request : StoreRequest}
    {next : Except StoreError request.Answer → Program α} (world : Surroundings) (now : Instant)
    (spared : ∀ call, (fates call).Spared) (live : session.cancelled = false) :
    (∃ reply store, (call (.store request) next).final (Session.handler (servers kind world now) fates) session
          = (next reply).final (Session.handler (servers kind world now) fates) (session.stored request store) ∧
        ∀ answer, reply = .ok answer → (kind.backend world request session.store).1 = .ok (.ok answer)) ∨
      ∃ crash store, (call (.store request) next).final (Session.handler (servers kind world now) fates) session
        = (.error crash, session.stored request store) := by
  rcases spared (.store request) with served | ⟨error, failed⟩
  · rw [Session.final_store live served]
    simp only [servers]
    cases answered : kind.backend world request session.store with
    | mk outcome store =>
      cases outcome with
      | ok reply => exact .inl ⟨reply, store, rfl, fun answer same => congrArg Except.ok same⟩
      | error crash => exact .inr ⟨crash, store, rfl⟩
  · rw [Session.final_failed live failed]
    refine .inl ⟨.error error, session.store, rfl, ?_⟩
    intro answer same
    cases same

inductive Touches (service : Service) (now : Instant) : Outcome → List Call → List CacheEvent → Prop
  | nothing {outcome : Outcome} {calls : List Call} (fetches : outcome.fetched? = none) :
    Touches service now outcome calls []
  | removed {outcome : Outcome} {calls : List Call} {id : Uuid} (writes : outcome.written? = some id) :
    Touches service now outcome calls [⟨now, .delete (service.key id), .ok (.ok ())⟩]
  | hit (id : Uuid) (article : BylinedArticle) (value : Bytes) :
    Touches service now (.performed (.get id) (.ok (.ok article))) [.cache (.get (service.key id))]
      [⟨now, .get (service.key id), .ok (.ok (some value))⟩]
  | missed {outcome : Outcome} {calls : List Call} (id : Uuid) (fetches : outcome.fetched? = none) :
    Touches service now outcome calls [⟨now, .get (service.key id), .ok (.ok none)⟩]
  /-- The article would expire after the last reading of the clock. -/
  | gaveUp {outcome : Outcome} {calls : List Call} (id : Uuid) (value : Bytes) (crash : Crash)
      (fetches : outcome.fetched? = none) :
    Touches service now outcome calls [⟨now, .get (service.key id), .ok (.ok none)⟩,
      ⟨now, .set (service.key id) value service.ttl, .error crash⟩]
  | filled {calls : List Call} (id : Uuid) (article : BylinedArticle) (value : Bytes) {deadline : Instant}
      (reached : now.after? service.ttl = some deadline) :
    Touches service now (.performed (.get id) (.ok (.ok article))) calls
      [⟨now, .get (service.key id), .ok (.ok none)⟩,
        ⟨now, .set (service.key id) value service.ttl, .ok (.ok ())⟩]

def TouchesIn (service : Service) (now : Instant) (cache : LruCache) (operation : Operation)
    (result : StoreOutcome operation.Result × Session kind.State LruCache) : Prop :=
  Touches service now (.performed operation result.1) result.2.calls
    (LruCache.history (stamped now result.2.calls) cache)

theorem stamped_handler (request : StoreRequest) :
    stamped now (Session.handler (servers kind world now) fates (.store request) session).2.calls
      = stamped now session.calls := by
  cases cancelled : session.cancelled with
  | true => rw [Session.handler_of_cancelled cancelled]
  | false =>
    rw [Session.calls_handler cancelled]
    simp [stamped]

variable (world) in
theorem touchesIn_silent (service : Service) {operation : Operation} (none : operation.article? = none) :
    TouchesIn service now cache operation
      ((service.perform operation).final (Session.handler (servers kind world now) fates)
        ⟨store, cache, false, []⟩) := by
  have silent := (service.follows_asksStore none).final (Session.handler (servers kind world now) fates)
    (fun session => stamped now session.calls = [])
    (by
      rintro _ session ⟨request, rfl⟩ nothing
      exact ⟨(stamped_handler request).trans nothing, fun _ _ => trivial⟩)
    (show stamped now (Session.mk store cache false []).calls = [] from rfl)
  rw [TouchesIn, silent.1]
  apply Touches.nothing
  cases operation with
  | get id => cases none
  | _ => rfl

variable (world) in
theorem touchesIn_update (service : Service) (revision : Revision) (spared : ∀ call, (fates call).Spared) :
    TouchesIn service now cache (.update revision)
      ((service.update revision).final (Session.handler (servers kind world now) fates)
        ⟨store, cache, false, []⟩) := by
  have live : (Session.mk store cache false []).cancelled = false := rfl
  rw [Service.update_eq]
  rcases Session.exists_reply_store world now spared live with ⟨reply, after, ended, answered⟩ | ⟨crash, after, ended⟩
  · rw [ended]
    match reply with
    | .error error => exact .nothing rfl
    | .ok none => exact .nothing rfl
    | .ok (some article) =>
      have sameId : article.id = revision.id := StoreKind.id_of_update (answered _ rfl)
      have writes : Outcome.written? (.performed (.update revision) (.ok (.ok article))) = some revision.id := rfl
      rw [Service.afterUpdate, Session.final_cache (Session.live_stored live _ _) (spared (.cache _)), sameId]
      exact .removed writes
  · rw [ended]
    exact .nothing rfl

variable (world) in
theorem touchesIn_delete (service : Service) (id : Uuid) (spared : ∀ call, (fates call).Spared) :
    TouchesIn service now cache (.delete id)
      ((service.delete id).final (Session.handler (servers kind world now) fates) ⟨store, cache, false, []⟩) := by
  have live : (Session.mk store cache false []).cancelled = false := rfl
  rw [Service.delete_eq]
  rcases Session.exists_reply_store world now spared live with ⟨reply, after, ended, _⟩ | ⟨crash, after, ended⟩
  · rw [ended]
    cases reply with
    | error error => exact .nothing rfl
    | ok rows =>
      have writes : Outcome.written? (.performed (.delete id) (.ok (.ok ()))) = some id := rfl
      by_cases absent : rows = 0
      · rw [Service.afterDelete, if_pos absent]
        exact .nothing rfl
      · rw [Service.afterDelete, if_neg absent,
          Session.final_cache (Session.live_stored live _ _) (spared (.cache _))]
        exact .removed writes
  · rw [ended]
    exact .nothing rfl

theorem LruCache.history_get {key : String} {answer : Option Bytes} (found : (cache.get now key).1 = answer) :
    history [(now, .get key)] cache = [⟨now, .get key, .ok (.ok answer)⟩] := by
  rw [← found]
  rfl

/-- A look-up that misses, and what is asked after it. -/
theorem LruCache.history_set {key : String} (value : Bytes) (ttl : Duration)
    (missed : (cache.get now key).1 = none) :
    history [(now, .get key), (now, .set key value ttl)] cache
      = [⟨now, .get key, .ok (.ok none)⟩, ⟨now, .set key value ttl,
          (LruCache.backend now (.set key value ttl) (cache.get now key).2).1⟩] := by
  rw [← missed]
  rfl

/-- An article that was found is cached, and given unless it would expire after the last reading of the clock. -/
theorem touchesIn_found (service : Service) {article : BylinedArticle} (spared : ∀ call, (fates call).Spared)
    (live : session.cancelled = false)
    (made : session.calls = [.cache (.get (service.key article.id)), .store (.get article.id)])
    (missed : (cache.get now (service.key article.id)).1 = none)
    (left : session.cache = (cache.get now (service.key article.id)).2) :
    TouchesIn service now cache (.get article.id)
      ((service.afterFetch article.id (.ok (some article))).final (Session.handler (servers kind world now) fates)
        session) := by
  have asked := LruCache.history_set article.toCached service.ttl missed
  have calls (cache : LruCache) :
      stamped now (session.cached (.set (service.key article.id) article.toCached service.ttl) cache).calls
        = [(now, .get (service.key article.id)),
          (now, .set (service.key article.id) article.toCached service.ttl)] := by
    simp [Session.cached, Session.logged, made, stamped]
  rw [Service.afterFetch, Session.final_cache live (spared (.cache _)), left]
  simp only [servers]
  -- What cannot be cached ends the program, so it is given only if it is cached.
  cases answered : LruCache.backend now (.set (service.key article.id) article.toCached service.ttl)
      (cache.get now (service.key article.id)).2 with
  | mk outcome after =>
    rw [answered] at asked
    cases outcome with
    | error crash =>
      simp only [TouchesIn, calls, asked]
      exact .gaveUp article.id _ crash rfl
    | ok reply =>
      obtain ⟨stored, rfl⟩ := LruCache.backend_set_eq_ok answered
      obtain ⟨deadline, reached⟩ := LruCache.exists_deadline_of_set stored
      simp only [TouchesIn, Service.finish, Program.final_done, calls, asked]
      exact .filled article.id article _ reached

variable (world) in
theorem touchesIn_fetch (service : Service) (id : Uuid) (spared : ∀ call, (fates call).Spared)
    (missed : (cache.get now (service.key id)).1 = none) :
    TouchesIn service now cache (.get id)
      ((service.fetch id).final (Session.handler (servers kind world now) fates)
        ⟨store, (cache.get now (service.key id)).2, false, [.cache (.get (service.key id))]⟩) := by
  have live : (Session.mk store (cache.get now (service.key id)).2 false [.cache (.get (service.key id))]).cancelled
    = false := rfl
  have asked : LruCache.history (stamped now [.cache (.get (service.key id)), .store (.get id)]) cache
      = [⟨now, .get (service.key id), .ok (.ok none)⟩] := LruCache.history_get missed
  have touches {outcome : Outcome} (fetches : outcome.fetched? = none) :
      Touches service now outcome [.cache (.get (service.key id)), .store (.get id)]
        (LruCache.history (stamped now [.cache (.get (service.key id)), .store (.get id)]) cache) := by
    rw [asked]
    exact .missed id fetches
  rw [Service.fetch_eq]
  -- Without a row nothing is cached, and the cache has been asked for the article only.
  rcases Session.exists_reply_store world now spared live with ⟨reply, after, ended, answered⟩ | ⟨crash, after, ended⟩
  · rw [ended]
    match reply with
    | .error error => exact touches rfl
    | .ok none => exact touches rfl
    | .ok (some article) =>
      have found : kind.find id store = .ok (some article) := by
        have given := answered _ rfl
        rw [StoreKind.backend_get] at given
        exact Except.ok.inj given
      obtain rfl : article.id = id := StoreKind.id_of_find found
      exact touchesIn_found service spared (Session.live_stored live _ _) rfl missed rfl
  · rw [ended]
    exact touches rfl

variable (world) in
theorem touchesIn_get (service : Service) (id : Uuid) (spared : ∀ call, (fates call).Spared)
    (dated : Dated service past cache) :
    TouchesIn service now cache (.get id)
      ((service.get id).final (Session.handler (servers kind world now) fates) ⟨store, cache, false, []⟩) := by
  have live : (Session.mk store cache false []).cancelled = false := rfl
  have served : fates (.cache (.get (service.key id))) = .served := spared (.cache _)
  cases hit : (cache.get now (service.key id)).1 with
  | some value =>
    obtain ⟨article, written, recent⟩ := dated.of_hit hit
    rw [written] at hit
    have asked : LruCache.history (stamped now [.cache (.get (service.key id))]) cache
      = [⟨now, .get (service.key id), .ok (.ok (some article.toCached))⟩] := LruCache.history_get hit
    rw [final_get_of_hit recent.leapsEndMinutes world live served hit]
    show Touches _ _ _ _ (LruCache.history (stamped now [_]) cache)
    rw [asked]
    exact .hit id article _
  | none =>
    have answered : LruCache.backend now (.get (service.key id)) cache
        = (.ok (.ok none), (cache.get now (service.key id)).2) := by rw [LruCache.backend_get, hit]
    rw [Service.get_eq, Session.final_cache live served]
    simp only [servers, answered]
    rw [Service.readHit, Service.afterLookUp, Program.final_note]
    exact touchesIn_fetch world service id spared hit

theorem touchesIn_perform (world : Surroundings) (spared : ∀ call, (fates call).Spared)
    (dated : Dated service past cache) (operation : Operation) :
    TouchesIn service now cache operation
      ((service.perform operation).final (Session.handler (servers kind world now) fates)
        ⟨store, cache, false, []⟩) := by
  cases operation with
  | create draft => exact touchesIn_silent world service rfl
  | update revision => exact touchesIn_update world service revision spared
  | get id => exact touchesIn_get world service id spared dated
  | delete id => exact touchesIn_delete world service id spared
  | list page => exact touchesIn_silent world service rfl
  | search needle page => exact touchesIn_silent world service rfl

end Calls

theorem Dated.touches {turn : Turn kind} {system : System kind} (dated : Dated service past system.cache)
    (spared : turn.work.Spared) :
    Touches service turn.now (turn.play service system).1 (turn.calls service system)
      (LruCache.history (stamped turn.now (turn.calls service system)) system.cache) := by
  obtain ⟨world, now, work⟩ := turn
  match work with
  | .perform operation cancelled fates =>
    obtain ⟨rfl, spared⟩ := spared
    exact touchesIn_perform world spared dated operation
  | .insertAuthor author => exact .nothing rfl
  | .change edit => exact .nothing rfl

/-! ## Runs -/

namespace Touches

variable {now : Instant} {outcome : Outcome} {calls : List Call} {events : List CacheEvent} {id : Uuid}

theorem fetched_of_writes (writes : outcome.written? = some id) : outcome.fetched? = none := by
  simp only [Outcome.written?] at writes
  split at writes
  · rfl
  · rfl
  · cases writes

/-- Of the keys of the cache only that of an article that is looked up with success is used. -/
theorem used (touches : Touches service now outcome calls events) :
    events.filterMap CacheEvent.used? = (outcome.fetched?.map service.key).toList := by
  cases touches with
  | nothing fetches => simp [fetches]
  | removed writes => simp [fetched_of_writes writes, CacheEvent.used?]
  | hit id article value => rfl
  | missed id fetches => simp [fetches, CacheEvent.used?]
  | gaveUp id value crash fetches => simp [fetches, CacheEvent.used?]
  | filled id article value reached => rfl

end Touches

def StoredUntil (service : Service) (id : Uuid) (limit : Nat) (events : List CacheEvent) : Prop :=
  ∃ entry, LruCache.StoredLast events entry ∧ entry.key = service.key id ∧ limit ≤ entry.deadline.nanoseconds

namespace StoredUntil

variable {now : Instant} {outcome : Outcome} {calls : List Call} {events : List CacheEvent} {id : Uuid}
  {past : List CacheEvent} {limit : Nat}

theorem append {event : CacheEvent} (stored : StoredUntil service id limit past)
    (unchanged : ¬ event.Changes (service.key id)) : StoredUntil service id limit (past ++ [event]) := by
  obtain ⟨entry, told, key, late⟩ := stored
  exact ⟨entry, told.append (key ▸ unchanged), key, late⟩

theorem append_get (stored : StoredUntil service id limit past) (now : Instant) (key : String)
    (outcome : CacheOutcome (Option Bytes)) : StoredUntil service id limit (past ++ [⟨now, .get key, outcome⟩]) :=
  stored.append not_false

theorem of_set {deadline : Instant} {value : Bytes} (past : List CacheEvent)
    (reached : now.after? service.ttl = some deadline) (late : limit ≤ now.nanoseconds + service.ttl.total) :
    StoredUntil service id limit (past ++ [⟨now, .set (service.key id) value service.ttl, .ok (.ok ())⟩]) := by
  rw [← nanoseconds_after? reached] at late
  exact ⟨⟨service.key id, value, deadline⟩, LruCache.stored_last_of_set past reached, rfl, late⟩

/-- A turn that does not write an article leaves what was stored of it, or stores it anew. -/
theorem touches (stored : StoredUntil service id limit past) (touches : Touches service now outcome calls events)
    (unwritten : outcome.written? ≠ some id) (late : limit ≤ now.nanoseconds + service.ttl.total) :
    StoredUntil service id limit (past ++ events) := by
  cases touches with
  | nothing fetches =>
    rw [List.append_nil]
    exact stored
  | @removed _ _ other writes =>
    refine stored.append fun same => ?_
    obtain rfl : other = id := Service.key_injective same
    exact unwritten writes
  | hit other article value => exact stored.append_get _ _ _
  | missed other fetches => exact stored.append_get _ _ _
  | gaveUp other value crash fetches =>
    rw [List.append_cons]
    exact (stored.append_get _ _ _).append not_false
  | filled other article value reached =>
    rw [List.append_cons]
    by_cases same : other = id
    · rw [same]
      exact of_set _ reached late
    · exact (stored.append_get _ _ _).append fun sameKey => same (Service.key_injective sameKey)

/-- A look-up that has asked the store and succeeds has stored the article. -/
theorem of_fetched (touches : Touches service now outcome calls events) (fetched : outcome.fetched? = some id)
    (asked : .store (.get id) ∈ calls) (past : List CacheEvent) :
    StoredUntil service id (now.nanoseconds + service.ttl.total) (past ++ events) := by
  cases touches with
  | nothing fetches => cases fetches.symm.trans fetched
  | removed writes => cases (Touches.fetched_of_writes writes).symm.trans fetched
  | hit other article value => simp at asked
  | missed other fetches => cases fetches.symm.trans fetched
  | gaveUp other value crash fetches => cases fetches.symm.trans fetched
  | filled other article value reached =>
    obtain rfl : other = id := Option.some.inj fetched
    rw [List.append_cons]
    exact of_set _ reached (Nat.le_refl _)

end StoredUntil

def heard (service : Service) : List (Turn kind) → System kind → List CacheEvent
  | [], _ => []
  | turn :: turns, system =>
    LruCache.history (stamped turn.now (turn.calls service system)) system.cache ++
      heard service turns (turn.play service system).2

variable {past : List (Point kind)} {turns : List (Turn kind)} {system : System kind} {events : List CacheEvent}
  {id : Uuid} {limit : Instant}

theorem used_heard (dated : Dated service past system.cache) (spared : ∀ turn ∈ turns, turn.work.Spared) :
    (heard service turns system).filterMap CacheEvent.used?
      = ((deeds service turns system).filterMap fun deed => deed.outcome.fetched?).map service.key := by
  induction turns generalizing past system with
  | nil => rfl
  | cons turn turns inductionHypothesis =>
    have first := (dated.touches (spared turn (.head _))).used
    have later := inductionHypothesis (dated.play turn) fun other there => spared other (.tail _ there)
    rw [heard, deeds, List.filterMap_append, first, later]
    cases fetched : (turn.play service system).1.fetched? with
    | none => simp [fetched]
    | some id => simp [fetched]

theorem StoredUntil.deeds {limit : Nat} (dated : Dated service past system.cache)
    (spared : ∀ turn ∈ turns, turn.work.Spared)
    (unwritten : ∀ deed ∈ deeds service turns system, deed.outcome.written? ≠ some id)
    (late : ∀ deed ∈ Gazette.deeds service turns system, limit ≤ deed.turn.now.nanoseconds + service.ttl.total)
    (stored : StoredUntil service id limit events) :
    StoredUntil service id limit (events ++ heard service turns system) := by
  induction turns generalizing past system events with
  | nil =>
    rw [heard, List.append_nil]
    exact stored
  | cons turn turns inductionHypothesis =>
    have first := stored.touches (dated.touches (spared turn (.head _))) (unwritten _ (.head _)) (late _ (.head _))
    rw [heard, ← List.append_assoc]
    exact inductionHypothesis (dated.play turn) (fun other there => spared other (.tail _ there))
      (fun deed there => unwritten deed (.tail _ there)) (fun deed there => late deed (.tail _ there)) first

/-- What a look-up stored stays what was stored last, unless it is stored anew or somebody writes the article. -/
theorem StoredUntil.of_deeds {before since : List (Deed kind)} {first : Deed kind}
    (dated : Dated service past system.cache) (spared : ∀ turn ∈ turns, turn.work.Spared)
    (split : Gazette.deeds service turns system = before ++ first :: since)
    (fetched : first.outcome.fetched? = some id) (asked : .store (.get id) ∈ first.calls)
    (unwritten : ∀ deed ∈ since, deed.outcome.written? ≠ some id)
    (late : ∀ deed ∈ since, first.turn.now.nanoseconds ≤ deed.turn.now.nanoseconds) :
    StoredUntil service id (first.turn.now.nanoseconds + service.ttl.total) (events ++ heard service turns system) := by
  induction turns generalizing past system before events with
  | nil => simp [Gazette.deeds] at split
  | cons turn turns inductionHypothesis =>
    have next := dated.touches (spared turn (.head _))
    have rest : ∀ other ∈ turns, other.work.Spared := fun other there => spared other (.tail _ there)
    rw [heard, ← List.append_assoc]
    cases before with
    | nil =>
      obtain ⟨rfl, rfl⟩ := List.cons.inj split
      exact (of_fetched next fetched asked events).deeds (dated.play turn) rest unwritten fun deed there =>
        Nat.add_le_add_right (late deed there) _
    | cons deed before => exact inductionHypothesis (dated.play turn) rest (List.cons.inj split).2

theorem now_of_mem_stamped {now : Instant} {calls : List Call} {step : Instant × CacheRequest}
    (there : step ∈ stamped now calls) : step.1 = now := by
  obtain ⟨call, _, same⟩ := List.mem_filterMap.mp there
  cases call with
  | store request => cases same
  | cache request =>
    cases same
    rfl

structure Recorded (limit : Instant) (capacity : Nat) (events : List CacheEvent) (cache : LruCache) : Prop where
  truthful : LruCache.Truthful events cache
  retains : LruCache.Retains limit events cache
  capacity : cache.capacity = capacity

namespace Recorded

variable {capacity : Nat} {cache : LruCache}

theorem of_empty (limit : Instant) (empty : cache.entries = []) : Recorded limit cache.capacity [] cache where
  truthful := by
    refine ⟨?_, ?_, ?_⟩
    · simp [LruCache.size, empty]
    · simp [empty]
    · simp [empty]
  retains := by
    rintro entry ⟨before, stored, ttl, since, nothing, _⟩
    simp at nothing
  capacity := rfl

theorem play (recorded : Recorded limit capacity events system.cache) (spared : ∀ turn ∈ turns, turn.work.Spared)
    (inTime : ∀ turn ∈ turns, turn.now.nanoseconds ≤ limit.nanoseconds) :
    Recorded limit capacity (events ++ heard service turns system) (play service turns system).2.cache := by
  induction turns generalizing system events with
  | nil =>
    rw [heard, List.append_nil]
    exact recorded
  | cons turn turns inductionHypothesis =>
    have inTimeFirst : ∀ step ∈ stamped turn.now (turn.calls service system),
        step.1.nanoseconds ≤ limit.nanoseconds := by
      intro step there
      rw [now_of_mem_stamped there]
      exact inTime turn (.head _)
    have next : Recorded limit capacity
        (events ++ LruCache.history (stamped turn.now (turn.calls service system)) system.cache)
        (turn.play service system).2.cache := by
      rw [Turn.cache_play (spared turn (.head _))]
      exact ⟨recorded.truthful.run _, recorded.retains.run recorded.truthful inTimeFirst,
        (LruCache.capacity_run ..).trans recorded.capacity⟩
    rw [heard, ← List.append_assoc]
    exact inductionHypothesis next (fun other there => spared other (.tail _ there))
      fun other there => inTime other (.tail _ there)

/-- What was stored last is a hit until it expires, as long as there is room for all keys that were used since its own
was. -/
theorem hit {now : Instant} {limit : Nat} (recorded : Recorded now capacity events cache)
    (stored : StoredUntil service id limit events) (alive : now.nanoseconds < limit)
    (few : (LruCache.usedSince (service.key id) events).toFinset.card < capacity) :
    ∃ value, (cache.get now (service.key id)).1 = some value := by
  obtain ⟨entry, told, key, late⟩ := stored
  have later : now.nanoseconds < entry.deadline.nanoseconds := Nat.lt_of_lt_of_le alive late
  rw [← key] at few ⊢
  have trails := recorded.retains entry told later (by rwa [recorded.capacity])
  exact ⟨entry.value, congrArg Prod.fst (LruCache.get_of_trails recorded.truthful.keyed trails later)⟩

end Recorded

/-- The keys that were used are those of the articles that were looked up. -/
theorem usedSince_heard (dated : Dated service past system.cache) (spared : ∀ turn ∈ turns, turn.work.Spared)
    (id : Uuid) : LruCache.usedSince (service.key id) (heard service turns system)
      = (fetchedSince id (deeds service turns system)).map service.key := by
  have apart : (fun key => decide (key ≠ service.key id)) ∘ service.key = fun other => decide (other ≠ id) := by
    funext other
    have sameKey : service.key other = service.key id ↔ other = id :=
      ⟨Service.key_injective, congrArg service.key⟩
    simp [sameKey]
  rw [LruCache.usedSince, fetchedSince, List.filterMap_reverse, List.filterMap_reverse, used_heard dated spared,
    ← List.map_reverse, List.takeWhile_map, apart]

theorem turns_of_deeds (service : Service) (turns : List (Turn kind)) (system : System kind) :
    (deeds service turns system).map Deed.turn = turns := by
  induction turns generalizing system with
  | nil => rfl
  | cons turn turns inductionHypothesis => exact congrArg (turn :: ·) (inductionHypothesis _)

theorem late_of_deeds {again : Turn kind} {before since : List (Deed kind)} {first : Deed kind}
    (forward : (turns ++ [again]).Pairwise fun earlier later => earlier.now.nanoseconds ≤ later.now.nanoseconds)
    (split : deeds service turns system = before ++ first :: since) :
    ∀ deed ∈ since, first.turn.now.nanoseconds ≤ deed.turn.now.nanoseconds := by
  have ordered := (List.pairwise_append.mp forward).1
  rw [← turns_of_deeds service turns system, split, List.pairwise_map] at ordered
  exact (List.pairwise_cons.mp (List.pairwise_append.mp ordered).2.1).1

/-- While the cache works and nobody cancels anything: after a look-up of an article that has asked the store, one that
comes before the article expires asks nothing but the cache, as long as nobody has written the article since, and there
is room for all other articles that were looked up with success since this one was. -/
theorem saved_of_fetched_lately {start : System kind} (empty : start.cache.entries = []) {again : Turn kind}
    {fates : (call : Call) → Fate call} (look : again.work = .perform (.get id) false fates)
    (spared : ∀ turn ∈ turns ++ [again], turn.work.Spared)
    (forward : (turns ++ [again]).Pairwise fun earlier later => earlier.now.nanoseconds ≤ later.now.nanoseconds)
    {before since : List (Deed kind)} {first : Deed kind}
    (split : deeds service turns start = before ++ first :: since)
    (fetched : first.outcome.fetched? = some id) (asked : .store (.get id) ∈ first.calls)
    (unwritten : ∀ deed ∈ since, deed.outcome.written? ≠ some id)
    (few : (fetchedSince id (deeds service turns start)).toFinset.card < start.cache.capacity)
    (alive : again.now.nanoseconds < first.turn.now.nanoseconds + service.ttl.total) :
    again.calls service (play service turns start).2 = [.cache (.get (service.key id))] ∧
      ∃ article, (again.play service (play service turns start).2).1 = .performed (.get id) (.ok (.ok article)) := by
  have dated : Dated service ([] : List (Point kind)) start.cache := HoldsOnly.of_empty empty
  have sparedBefore : ∀ turn ∈ turns, turn.work.Spared := fun turn there => spared turn (List.mem_append_left _ there)
  have inTime : ∀ turn ∈ turns, turn.now.nanoseconds ≤ again.now.nanoseconds := fun turn there =>
    (List.pairwise_append.mp forward).2.2 turn there again (.head _)
  have recorded : Recorded again.now start.cache.capacity ([] ++ heard service turns start)
      (play service turns start).2.cache := (Recorded.of_empty again.now empty).play sparedBefore inTime
  have stored : StoredUntil service id (first.turn.now.nanoseconds + service.ttl.total)
      ([] ++ heard service turns start) :=
    .of_deeds dated sparedBefore split fetched asked unwritten (late_of_deeds forward split)
  rw [List.nil_append] at recorded stored
  -- There is room for as many keys as articles, for these are the same.
  have room : (LruCache.usedSince (service.key id) (heard service turns start)).toFinset.card
      < start.cache.capacity := by
    rw [usedSince_heard dated sparedBefore]
    calc ((fetchedSince id (deeds service turns start)).map service.key).toFinset.card
        = ((fetchedSince id (deeds service turns start)).toFinset.image service.key).card := by
          congr 1
          ext key
          simp
      _ ≤ (fetchedSince id (deeds service turns start)).toFinset.card := Finset.card_image_le
      _ < start.cache.capacity := few
  obtain ⟨value, hit⟩ := recorded.hit stored alive room
  obtain ⟨article, written, recent⟩ := (dated_play dated).of_hit hit
  rw [written] at hit
  have live : (Session.mk (play service turns start).2.store (play service turns start).2.cache false []).cancelled
    = false := rfl
  have served : fates (.cache (.get (service.key id))) = .served := by
    have isSpared := spared again (List.mem_append_right _ (.head _))
    rw [look] at isSpared
    exact isSpared.2 (.cache _)
  have given := final_get_of_hit recent.leapsEndMinutes again.surroundings live served hit
  refine ⟨?_, article, ?_⟩
  · rw [Turn.calls, look]
    exact congrArg (·.2.calls) given
  · simp only [Turn.play, look]
    exact congrArg (Outcome.performed (.get id) ·.1) given

def atTheDesk (now : Nat) (operation : Operation) : Turn .memory :=
  ⟨⟨⟨1700000000000000000⟩, 9⟩, ⟨now⟩, .perform operation false Session.undisturbed⟩

/-- An article is looked up, then a new one. Nothing else is found or written. -/
def aFirstLook : Turn .memory := atTheDesk 1 (.get ⟨7⟩)

def aQuietDay : List (Turn .memory) :=
  [atTheDesk 2 (.create ⟨⟨1⟩, "Cards", "On the loom", none, "science"⟩), atTheDesk 3 (.get (.random 9)),
    atTheDesk 4 (.get ⟨8⟩), atTheDesk 5 (.delete ⟨8⟩)]

def aLastLook : Turn .memory := atTheDesk 604800000000000 (.get ⟨7⟩)

def aShelfForTwo : System .memory := ⟨aShelf, ⟨2, Nat.two_pos, []⟩⟩

theorem saved_of_fetched_lately_aQuietDay :
    aShelfForTwo.cache.entries = [] ∧
      fetchedSince ⟨7⟩ (deeds forAWeek (aFirstLook :: aQuietDay) aShelfForTwo) = [.random 9] ∧
      aLastLook.calls forAWeek (play forAWeek (aFirstLook :: aQuietDay) aShelfForTwo).2
        = [.cache (.get (forAWeek.key ⟨7⟩))] ∧
      ∃ article, (aLastLook.play forAWeek (play forAWeek (aFirstLook :: aQuietDay) aShelfForTwo).2).1
        = .performed (.get ⟨7⟩) (.ok (.ok article)) := by
  have spared : ∀ turn ∈ (aFirstLook :: aQuietDay) ++ [aLastLook], turn.work.Spared := by
    have undisturbed : ∀ call, (Session.undisturbed call).Spared
      | .store _ => .inl rfl
      | .cache _ => rfl
    simp [aFirstLook, aQuietDay, aLastLook, atTheDesk, Work.Spared, undisturbed]
  have since : fetchedSince ⟨7⟩ (deeds forAWeek (aFirstLook :: aQuietDay) aShelfForTwo) = [.random 9] := rfl
  have split : deeds forAWeek (aFirstLook :: aQuietDay) aShelfForTwo
      = [] ++ ⟨aFirstLook, (aFirstLook.play forAWeek aShelfForTwo).1, aFirstLook.calls forAWeek aShelfForTwo⟩ ::
        deeds forAWeek aQuietDay (aFirstLook.play forAWeek aShelfForTwo).2 := rfl
  exact ⟨rfl, since, saved_of_fetched_lately rfl rfl spared (by decide) split rfl (by decide +kernel)
    (by decide +kernel) (by rw [since]; decide) (by decide)⟩

end Gazette
