import Gazette.Proofs.Cache.Codec
import Gazette.Proofs.Cache.Lru
import Gazette.Proofs.Service.Turn

/-!
# What a cache cannot do

* An `Errand` is an operation that is asked for at a time. Its calls to the cache may fail, whatever the cache holds.
* `Unswayed`: an operation gives what it gives on the store alone. Only a look-up may also give an article that the cache
  has answered with.
* `isolated_of_fair`: so does every operation of a run, and the store becomes what it becomes without a cache.

Nothing is asked of the cache but that it answers: it may hold any octets under any key, and forget or invent some.
-/

namespace Gazette

open Program (call)

variable {σ τ : Type}

/-! ## Errands -/

structure Errand where
  operation : Operation
  surroundings : Surroundings
  now : Instant
  fates : (call : Call) → Fate call

namespace Errand

def meet (service : Service) (store : StoreBackend σ) (cache : CacheBackend τ) (errand : Errand) (held : σ × τ) :
    StoreOutcome errand.operation.Result × σ × τ :=
  let run := Session.run ⟨store, cache, errand.surroundings, errand.now⟩ errand.fates false
    (service.perform errand.operation) held.1 held.2
  (run.outcome, run.state.store, run.state.cache)

def meetDirectly (store : StoreBackend σ) (errand : Errand) (held : σ) : StoreOutcome errand.operation.Result × σ :=
  errand.operation.direct store errand.surroundings held

def hears (store : StoreBackend σ) (cache : CacheBackend τ) (errand : Errand) (held : σ × τ) (key : String) :
    CacheOutcome (Option Bytes) :=
  (Session.handler ⟨store, cache, errand.surroundings, errand.now⟩ errand.fates (.cache (.get key))
    ⟨held.1, held.2, false, []⟩).1

def meetAll (service : Service) (store : StoreBackend σ) (cache : CacheBackend τ) : List Errand → σ × τ → σ × τ
  | [], held => held
  | errand :: errands, held => meetAll service store cache errands (errand.meet service store cache held).2

def meetAllDirectly (store : StoreBackend σ) : List Errand → σ → σ
  | [], held => held
  | errand :: errands, held => meetAllDirectly store errands (errand.meetDirectly store held).2

end Errand

/-! ## What is asked of stores and caches -/

def Quiet (store : StoreBackend σ) : Prop :=
  ∀ (world : Surroundings) (id : Uuid) (held : σ), (store world (.get id) held).2 = held

theorem StoreKind.quiet (kind : StoreKind) : Quiet kind.backend :=
  fun _ _ _ => StoreKind.state_of_isReading rfl

/-- At this time the cache answers or fails, though not as if the caller had cancelled, as long as values are stored for
this span. -/
def AnswersAt (now : Instant) (ttl : Duration) (cache : CacheBackend τ) : Prop :=
  ∀ (request : CacheRequest) (held : τ), (∀ key value span, request = .set key value span → span = ttl) →
    ∃ reply, (cache now request held).1 = .ok reply ∧ reply ≠ .error .cancelled

theorem LruCache.answersAt {now : Instant} {ttl : Duration} (reached : (now.after? ttl).isSome) :
    AnswersAt now ttl LruCache.backend := by
  intro request cache span
  cases request with
  | get key => exact ⟨.ok (cache.get now key).1, rfl, nofun⟩
  | delete key => exact ⟨.ok (), rfl, nofun⟩
  | set key value other =>
    obtain rfl : other = ttl := span key value other rfl
    obtain ⟨full, stored⟩ := LruCache.exists_set key value cache reached
    refine ⟨.ok (), ?_, nofun⟩
    rw [LruCache.backend_set_of_eq_ok stored]

/-- Calls to the store are served. Those to the cache are, too, or fail, though not as if the caller had cancelled. -/
def Fate.Uncancelled : {call : Call} → Fate call → Prop
  | .store _, fate => fate = .served
  | .cache _, fate => fate = .served ∨ ∃ error, error ≠ CacheError.cancelled ∧ fate = .failed error

structure Errand.Fair (service : Service) (cache : CacheBackend τ) (errand : Errand) : Prop where
  fates : ∀ call, (errand.fates call).Uncancelled
  answers : AnswersAt errand.now service.ttl cache

/-- An operation comes to what it comes to on the store alone. A look-up may instead give an article that is read from
the octets with which the cache has answered. -/
def Unswayed (service : Service) (heard : String → CacheOutcome (Option Bytes)) :
    (operation : Operation) → (outcome direct : StoreOutcome operation.Result) → Prop
  | .get id, outcome, direct => outcome = direct ∨ ∃ octets article,
      heard (service.key id) = .ok (.ok (some octets)) ∧ BylinedArticle.ofCached octets = .ok article ∧
        outcome = .ok (.ok article)
  | _, outcome, direct => outcome = direct

/-! ## Hits -/

def Service.hit? : Except CacheError (Option Bytes) → Option BylinedArticle
  | .ok (some octets) => (BylinedArticle.ofCached octets).toOption
  | _ => none

theorem Service.hit?_eq_some {reply : Except CacheError (Option Bytes)} {article : BylinedArticle}
    (found : hit? reply = some article) :
    ∃ octets, reply = .ok (some octets) ∧ BylinedArticle.ofCached octets = .ok article := by
  match reply with
  | .error error => cases found
  | .ok none => cases found
  | .ok (some octets) =>
    rw [hit?] at found
    cases decoded : BylinedArticle.ofCached octets with
    | error error =>
      rw [decoded] at found
      cases found
    | ok other =>
      rw [decoded] at found
      cases found
      exact ⟨octets, rfl, decoded⟩

/-- Without a hit a look-up goes on to the store, whatever is the reason. -/
theorem Service.final_afterLookUp (service : Service) (id : Uuid) (handler : Program.Handler σ) (state : σ)
    {reply : Except CacheError (Option Bytes)} (notCancelled : reply ≠ .error .cancelled) :
    (service.afterLookUp id (readHit reply)).final handler state =
      match hit? reply with
      | some article => (.ok (.ok article), state)
      | none => (service.fetch id).final handler state := by
  match reply with
  | .ok none => rfl
  | .ok (some octets) =>
    rw [readHit, hit?]
    cases decoded : BylinedArticle.ofCached octets with
    | ok article => rfl
    | error error =>
      obtain ⟨reason, rfl⟩ := BylinedArticle.exists_reason_of_ofCached decoded
      rfl
  | .error .cancelled => exact absurd rfl notCancelled
  | .error (.connectionFailed reason) => rfl
  | .error (.operationFailed reason) => rfl
  | .error (.serialization reason) => rfl

/-! ## Operations -/

section Operations

variable {store : StoreBackend σ} {cache : CacheBackend τ} {world : Surroundings} {now : Instant}
  {fates : (call : Call) → Fate call} {session : Session σ τ} {service : Service}

structure Matches {α : Type} (result : Except Crash α × Session σ τ) (direct : Except Crash α × σ) : Prop where
  outcome : result.1 = direct.1
  store : result.2.store = direct.2

theorem FromStore.toMatches {α : Type} {result : Except Crash α × Session σ τ} {direct : Except Crash α × σ} {held : τ}
    (given : FromStore result direct held) : Matches result direct :=
  ⟨given.outcome, given.store⟩

variable (store world) in
/-- Whatever becomes of a call to the cache, there is a reply, and the store is as it was. -/
theorem exists_reply (request : CacheRequest) (uncancelled : ∀ call, (fates call).Uncancelled)
    (answers : AnswersAt now service.ttl cache) (live : session.cancelled = false)
    (span : ∀ key value span, request = .set key value span → span = service.ttl) :
    ∃ reply after, Session.handler ⟨store, cache, world, now⟩ fates (.cache request) session = (.ok reply, after) ∧
      reply ≠ .error .cancelled ∧ after.store = session.store ∧ after.cancelled = false := by
  rw [Session.handler_live _ _ _ live]
  rcases uncancelled (.cache request) with served | ⟨error, notCancelled, failed⟩
  · obtain ⟨reply, answered, notCancelled⟩ := answers request session.cache span
    refine ⟨reply, session.cached request (cache now request session.cache).2, ?_, notCancelled, rfl, live⟩
    rw [served]
    exact Prod.ext answered rfl
  · refine ⟨.error error, session.logged (.cache request), ?_, ?_, rfl, live⟩
    · rw [failed]
      rfl
    · rintro ⟨⟩
      exact notCancelled rfl

/-- A call to the cache after which the program ends anyway. -/
theorem matches_of_ends {α : Type} {request : CacheRequest} {next : Except CacheError request.Answer → Program α}
    {result : α} (uncancelled : ∀ call, (fates call).Uncancelled) (answers : AnswersAt now service.ttl cache)
    (live : session.cancelled = false) (span : ∀ key value span, request = .set key value span → span = service.ttl)
    (ends : ∀ reply, (next reply).Ends result) :
    Matches ((call (.cache request) next).final (Session.handler ⟨store, cache, world, now⟩ fates) session)
      (.ok result, session.store) := by
  obtain ⟨reply, after, replied, _, kept, _⟩ := exists_reply store world request uncancelled answers live span
  rw [Program.final_call_ok replied, (ends reply).final_eq]
  exact ⟨rfl, kept⟩

theorem matches_create {draft : Draft} (uncancelled : ∀ call, (fates call).Uncancelled)
    (live : session.cancelled = false) :
    Matches ((Service.create draft).final (Session.handler ⟨store, cache, world, now⟩ fates) session)
      ((Operation.create draft).direct store world session.store) := by
  rw [Service.create_eq, Session.final_store live (uncancelled (.store _)), Operation.direct]
  dsimp only
  cases answered : store world (.insert draft) session.store with
  | mk outcome after =>
    match outcome with
    | .error crash => exact ⟨rfl, rfl⟩
    | .ok (.error error) => exact ⟨rfl, rfl⟩
    | .ok (.ok article) => exact ⟨rfl, rfl⟩

theorem matches_update {revision : Revision} (uncancelled : ∀ call, (fates call).Uncancelled)
    (answers : AnswersAt now service.ttl cache) (live : session.cancelled = false) :
    Matches ((service.update revision).final (Session.handler ⟨store, cache, world, now⟩ fates) session)
      ((Operation.update revision).direct store world session.store) := by
  rw [Service.update_eq, Session.final_store live (uncancelled (.store _)), Operation.direct]
  dsimp only
  cases answered : store world (.update revision) session.store with
  | mk outcome after =>
    match outcome with
    | .error crash => exact ⟨rfl, rfl⟩
    | .ok (.error error) => exact ⟨rfl, rfl⟩
    | .ok (.ok none) => exact ⟨rfl, rfl⟩
    | .ok (.ok (some article)) =>
      exact matches_of_ends uncancelled answers (Session.live_stored live _ _) nofun
        (Service.ends_finish (Program.ends_done _))

theorem matches_delete {id : Uuid} (uncancelled : ∀ call, (fates call).Uncancelled)
    (answers : AnswersAt now service.ttl cache) (live : session.cancelled = false) :
    Matches ((service.delete id).final (Session.handler ⟨store, cache, world, now⟩ fates) session)
      ((Operation.delete id).direct store world session.store) := by
  rw [Service.delete_eq, Session.final_store live (uncancelled (.store _)), Operation.direct]
  dsimp only
  cases answered : store world (.delete id) session.store with
  | mk outcome after =>
    match outcome with
    | .error crash => exact ⟨rfl, rfl⟩
    | .ok (.error error) => exact ⟨rfl, rfl⟩
    | .ok (.ok rows) =>
      simp only [Service.afterDelete, Except.map, Except.bind]
      by_cases nothing : rows = 0
      · rw [if_pos nothing, if_pos nothing]
        exact ⟨rfl, rfl⟩
      · rw [if_neg nothing, if_neg nothing]
        refine matches_of_ends uncancelled answers (Session.live_stored live _ _) ?_
          (Service.ends_finish (Program.ends_done _))
        rintro key value span ⟨⟩

theorem matches_fetch {id : Uuid} (uncancelled : ∀ call, (fates call).Uncancelled)
    (answers : AnswersAt now service.ttl cache) (live : session.cancelled = false) :
    Matches ((service.fetch id).final (Session.handler ⟨store, cache, world, now⟩ fates) session)
      ((Operation.get id).direct store world session.store) := by
  rw [Service.fetch_eq, Session.final_store live (uncancelled (.store _)), Operation.direct]
  dsimp only
  cases answered : store world (.get id) session.store with
  | mk outcome after =>
    match outcome with
    | .error crash => exact ⟨rfl, rfl⟩
    | .ok (.error error) => exact ⟨rfl, rfl⟩
    | .ok (.ok none) => exact ⟨rfl, rfl⟩
    | .ok (.ok (some article)) =>
      refine matches_of_ends uncancelled answers (Session.live_stored live _ _) ?_
        (Service.ends_finish (Program.ends_done _))
      rintro key value span ⟨⟩
      rfl

/-- Without a hit a look-up is what it is on the store alone. -/
theorem matches_get_of_miss {id : Uuid} (uncancelled : ∀ call, (fates call).Uncancelled)
    (answers : AnswersAt now service.ttl cache) (live : session.cancelled = false)
    (miss : ∀ reply, (Session.handler ⟨store, cache, world, now⟩ fates (.cache (.get (service.key id))) session).1
      = .ok reply → Service.hit? reply = none) :
    Matches ((service.get id).final (Session.handler ⟨store, cache, world, now⟩ fates) session)
      ((Operation.get id).direct store world session.store) := by
  obtain ⟨reply, after, replied, notCancelled, kept, live⟩ :=
    exists_reply store world (.get (service.key id)) uncancelled answers live nofun
  rw [Service.get_eq, Program.final_call_ok replied, Service.final_afterLookUp _ _ _ _ notCancelled,
    miss reply (congrArg Prod.fst replied), ← kept]
  exact matches_fetch uncancelled answers live

theorem unswayed_get {id : Uuid} (quiet : Quiet store) (uncancelled : ∀ call, (fates call).Uncancelled)
    (answers : AnswersAt now service.ttl cache) (live : session.cancelled = false) :
    Unswayed service (fun key => (Session.handler ⟨store, cache, world, now⟩ fates (.cache (.get key)) session).1)
        (.get id) ((service.get id).final (Session.handler ⟨store, cache, world, now⟩ fates) session).1
        ((Operation.get id).direct store world session.store).1 ∧
      ((service.get id).final (Session.handler ⟨store, cache, world, now⟩ fates) session).2.store =
        ((Operation.get id).direct store world session.store).2 := by
  obtain ⟨reply, after, replied, notCancelled, kept, _⟩ :=
    exists_reply store world (.get (service.key id)) uncancelled answers live nofun
  -- A hit is given as it is, and the store stays. Without one the store is asked as it is without a cache.
  cases hit : Service.hit? reply with
  | some article =>
    rw [Service.get_eq, Program.final_call_ok replied, Service.final_afterLookUp _ _ _ _ notCancelled, hit]
    obtain ⟨octets, rfl, decoded⟩ := Service.hit?_eq_some hit
    exact ⟨.inr ⟨octets, article, congrArg Prod.fst replied, decoded, rfl⟩,
      kept.trans (quiet world id session.store).symm⟩
  | none =>
    have missed : Matches ((service.get id).final (Session.handler ⟨store, cache, world, now⟩ fates) session)
        ((Operation.get id).direct store world session.store) := by
      apply matches_get_of_miss uncancelled answers live
      intro other heard
      rw [replied] at heard
      cases heard
      exact hit
    exact ⟨.inl missed.outcome, missed.store⟩

end Operations

/-! ## Runs -/

section Runs

variable {store : StoreBackend σ} {cache : CacheBackend τ} {service : Service}

theorem Unswayed.of_matches {operation : Operation} {heard : String → CacheOutcome (Option Bytes)}
    {outcome direct : StoreOutcome operation.Result} (same : outcome = direct) :
    Unswayed service heard operation outcome direct := by
  cases operation with
  | get id => exact .inl same
  | _ => exact same

/-- The cache has no errors of its own for the caller. -/
theorem Unswayed.error {operation : Operation} {heard : String → CacheOutcome (Option Bytes)}
    {outcome direct : StoreOutcome operation.Result} {error : StoreError}
    (unswayed : Unswayed service heard operation outcome direct) (failed : outcome = .ok (.error error)) :
    direct = .ok (.error error) := by
  cases operation with
  | get id =>
    rcases unswayed with rfl | ⟨_, _, _, _, found⟩
    · exact failed
    · rw [found] at failed
      cases failed
  | _ => exact unswayed.symm.trans failed

/-- An errand is met as the store alone would meet it, but that a look-up may find what is cached. -/
theorem Errand.meet_unswayed {errand : Errand} (quiet : Quiet store) (fair : errand.Fair service cache)
    (held : σ × τ) :
    Unswayed service (errand.hears store cache held) errand.operation (errand.meet service store cache held).1
        (errand.meetDirectly store held.1).1 ∧
      (errand.meet service store cache held).2.1 = (errand.meetDirectly store held.1).2 := by
  obtain ⟨operation, world, now, fates⟩ := errand
  obtain ⟨uncancelled, answers⟩ := fair
  have same {result : Except Crash (Except StoreError operation.Result) × Session σ τ} {direct}
      (alike : Matches result direct) :
      Unswayed service (hears store cache ⟨operation, world, now, fates⟩ held) operation result.1 direct.1 ∧
        result.2.store = direct.2 := ⟨.of_matches alike.outcome, alike.store⟩
  cases operation with
  | create draft => exact same (matches_create uncancelled rfl)
  | update revision => exact same (matches_update uncancelled answers rfl)
  | get id => exact unswayed_get quiet uncancelled answers rfl
  | delete id => exact same (matches_delete uncancelled answers rfl)
  | list page => exact same (Service.fromStore_list rfl fun request => uncancelled (.store request)).toMatches
  | search needle page => exact same (Service.fromStore_search rfl fun request => uncancelled (.store request)).toMatches

theorem Errand.store_of_meetAll {errands : List Errand} (quiet : Quiet store)
    (fair : ∀ errand ∈ errands, errand.Fair service cache) (held : σ × τ) :
    (meetAll service store cache errands held).1 = meetAllDirectly store errands held.1 := by
  induction errands generalizing held with
  | nil => rfl
  | cons errand errands inductionHypothesis =>
    rw [meetAll, meetAllDirectly, inductionHypothesis fun later there => fair later (.tail _ there),
      (errand.meet_unswayed quiet (fair errand (.head _)) held).2]

/-- After some errands the store is what it is without a cache. The next one is met as it is without a cache, but that a
look-up may find what is cached. -/
structure Isolated (service : Service) (store : StoreBackend σ) (cache : CacheBackend τ) (errands : List Errand)
    (next : Errand) (held : σ × τ) : Prop where
  reached : (Errand.meetAll service store cache errands held).1 = Errand.meetAllDirectly store errands held.1
  outcome : Unswayed service (next.hears store cache (Errand.meetAll service store cache errands held)) next.operation
    (next.meet service store cache (Errand.meetAll service store cache errands held)).1
    (next.meetDirectly store (Errand.meetAllDirectly store errands held.1)).1
  left : (next.meet service store cache (Errand.meetAll service store cache errands held)).2.1 =
    (next.meetDirectly store (Errand.meetAllDirectly store errands held.1)).2
  /-- Every error is one of the store. -/
  errors : ∀ error, (next.meet service store cache (Errand.meetAll service store cache errands held)).1 =
      .ok (.error error) →
    (next.meetDirectly store (Errand.meetAllDirectly store errands held.1)).1 = .ok (.error error)

/-- Whatever a cache holds and answers, it has no influence on the store, nor on anything but look-ups. -/
theorem isolated_of_fair {errands : List Errand} {next : Errand} {held : σ × τ} (quiet : Quiet store)
    (fair : ∀ errand ∈ errands ++ [next], errand.Fair service cache) :
    Isolated service store cache errands next held := by
  have reached : (Errand.meetAll service store cache errands held).1 = Errand.meetAllDirectly store errands held.1 :=
    Errand.store_of_meetAll quiet (fun errand there => fair errand (List.mem_append_left _ there)) held
  have met := next.meet_unswayed quiet (fair next (List.mem_append_right _ (.head _)))
    (Errand.meetAll service store cache errands held)
  rw [reached] at met
  exact ⟨reached, met.1, met.2, fun error => met.1.error⟩

end Runs

def aMuddle : LruCache := ⟨1, Nat.one_pos, [⟨forAWeek.key ⟨7⟩, [0x7b], ⟨10⟩⟩]⟩

def aRevision : Errand where
  operation := .update ⟨⟨7⟩, "Notes", "Revised", none, "science"⟩
  surroundings := ⟨⟨1700000000000000000⟩, 8⟩
  now := ⟨5⟩
  fates
    | .cache (.delete _) => .failed (.connectionFailed "refused")
    | _ => .served

def aSecondLook : Errand := ⟨.get ⟨7⟩, ⟨⟨1700000000000000000⟩, 9⟩, ⟨6⟩, Session.undisturbed⟩

theorem isolated_of_aMuddle :
    Quiet (StoreKind.backend .memory) ∧
      (∀ errand ∈ [aRevision] ++ [aSecondLook], errand.Fair forAWeek LruCache.backend) ∧
      Isolated forAWeek (StoreKind.backend .memory) LruCache.backend [aRevision] aSecondLook (aShelf, aMuddle) := by
  have fair : ∀ errand ∈ [aRevision] ++ [aSecondLook], errand.Fair forAWeek LruCache.backend := by
    intro errand there
    obtain rfl | rfl : errand = aRevision ∨ errand = aSecondLook := by simpa using there
    · refine ⟨?_, LruCache.answersAt (by decide)⟩
      intro call
      match call with
      | .store _ => exact rfl
      | .cache (.get _) => exact .inl rfl
      | .cache (.set _ _ _) => exact .inl rfl
      | .cache (.delete _) => exact .inr ⟨.connectionFailed "refused", nofun, rfl⟩
    · refine ⟨?_, LruCache.answersAt (by decide)⟩
      intro call
      cases call with
      | store request => exact rfl
      | cache request => exact .inl rfl
  exact ⟨StoreKind.quiet .memory, fair, isolated_of_fair (StoreKind.quiet .memory) fair⟩

end Gazette
