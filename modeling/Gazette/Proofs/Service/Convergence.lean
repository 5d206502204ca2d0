import Gazette.Proofs.Service.Attribution
import Gazette.Proofs.Service.Concurrency

/-!
# Look-ups after all writing has ended

All callers of a scene have come to an end, and nobody writes the store any more.

* `Converging`: whatever is cached is found in the store, or expires as long after that end as articles are cached.
* `Call.Reveals` and `Correct`: what a look-up is told from that time on, and what it gives.
* `converged_of_still`: it gives what the store holds, whatever went wrong before and goes on besides. Three things may
  keep it from that: its caller cancels, the cache fails as if she had, or the clock has no reading for the time at
  which the article is to expire.
-/

namespace Gazette

open Program (call note done)

variable {kind : StoreKind} {service : Service} {id : Uuid} {store : kind.State} {limit : Instant}

/-! ## Calls -/

namespace Program

variable {α : Type} {program : Program α} {most : Nat}

def AtMost : Program α → Nat → Prop
  | done _, _ => True
  | note _ next, most => next.AtMost most
  | call _ _, 0 => False
  | call _ next, most + 1 => ∀ reply, (next reply).AtMost most

theorem AtMost.settled (few : program.AtMost most) : program.settled.AtMost most := by
  induction program with
  | note event next inductionHypothesis => exact inductionHypothesis few
  | _ => exact few

theorem Ends.atMost {result : α} (ends : program.Ends result) (most : Nat) : program.AtMost most := by
  induction program with
  | done other => trivial
  | note event next inductionHypothesis => exact inductionHypothesis ends
  | call request next => exact ends.elim

theorem AtMost.exists_ends (few : program.AtMost 0) : ∃ result, program.Ends result := by
  induction program with
  | done result => exact ⟨result, rfl⟩
  | note event next inductionHypothesis => exact inductionHypothesis few
  | call request next => exact few.elim

end Program

theorem Service.atMost_fetch (service : Service) (id : Uuid) : (service.fetch id).AtMost 2 := by
  rw [fetch_eq]
  intro reply
  match reply with
  | .error error => trivial
  | .ok none => trivial
  | .ok (some article) => exact fun reply => (ends_finish (Program.ends_done _) reply).atMost 0

theorem Service.atMost_afterLookUp (service : Service) (id : Uuid)
    (found : Except CacheError (Option BylinedArticle)) : (service.afterLookUp id found).AtMost 2 := by
  rcases service.afterLookUp_cases id found with ⟨article, _, same⟩ | ⟨_, same⟩ | ⟨event, same⟩
  · rw [same]
    trivial
  · rw [same]
    trivial
  · rw [same]
    exact service.atMost_fetch id

theorem Service.atMost_get (service : Service) (id : Uuid) : (service.get id).AtMost 3 := by
  rw [get_eq]
  exact fun reply => service.atMost_afterLookUp id (readHit reply)

/-! ## What a look-up is told -/

/-- A reply of a store in its last state, or of a cache that holds no others of its articles. Only if there is a cut is
the caller told that she has cancelled. -/
def Call.Reveals (store : kind.State) (id : Uuid) (cut : Prop) : (call : Call) → call.Reply → Prop
  | .cache (.get _), .ok (some value) =>
    ∃ article : BylinedArticle, value = article.toCached ∧ kind.find id store = .ok (some article)
  | .cache (.get _), .error error => error = .cancelled → cut
  | .store (.get _), reply => reply = kind.find id store ∨ cut ∧ reply = .error .cancelled
  | _, _ => True

/-- What the store holds. Only if there is a cut is the caller told that she has cancelled. -/
def Correct (store : kind.State) (id : Uuid) (cut : Prop) (result : Except StoreError BylinedArticle) : Prop :=
  result = (kind.find id store).bind (orNotFound id) ∨ cut ∧ result = .error .cancelled

def Call.IsOfGet (service : Service) (id : Uuid) : Call → Prop :=
  Call.IsOf service (.get id) (fun _ => True) fun _ => False

theorem follows_fetch_correct (service : Service) (store : kind.State) (id : Uuid) (cut : Prop) :
    (service.fetch id).Follows (Call.IsOfGet service id) (Call.Reveals store id cut) (Correct store id cut) := by
  rw [Service.fetch_eq]
  refine ⟨rfl, fun reply reveals => ?_⟩
  rcases reveals with rfl | ⟨isCut, rfl⟩
  · cases found : kind.find id store with
    | error error => exact .inl (by rw [found]; rfl)
    | ok row =>
      have held : (kind.find id store).bind (orNotFound id) = orNotFound id row := by
        rw [found]
        rfl
      cases row with
      | none => exact .inl held.symm
      | some article =>
        exact ⟨⟨article, trivial, rfl, rfl, rfl⟩, fun reply _ =>
          (Service.ends_finish (Program.ends_done _) reply).follows (.inl held.symm)⟩
  · exact .inr ⟨isCut, rfl⟩

theorem follows_get_correct (service : Service) (store : kind.State) (id : Uuid) (cut : Prop) :
    (service.get id).Follows (Call.IsOfGet service id) (Call.Reveals store id cut) (Correct store id cut) := by
  have missed := follows_fetch_correct service store id cut
  rw [Service.get_eq]
  refine ⟨⟨id, rfl, rfl⟩, fun reply reveals => ?_⟩
  match reply with
  | .ok none => exact missed
  | .ok (some value) =>
    obtain ⟨article, written, found⟩ := reveals
    show (service.afterLookUp id ((BylinedArticle.ofCached value).map some)).Follows _ _ _
    rw [written, BylinedArticle.ofCached_toCached (StoreKind.leapsEndMinutes_of_find found)]
    exact .inl (by rw [found]; rfl)
  | .error .cancelled => exact .inr ⟨reveals rfl, rfl⟩
  | .error (.connectionFailed _) => exact missed
  | .error (.operationFailed _) => exact missed
  | .error (.serialization _) => exact missed

/-- Whatever is cached is found in the store, or expires as long after a time as articles are cached. -/
def Converging (service : Service) (limit : Instant) (store : kind.State) (id : Uuid) (article : BylinedArticle)
    (deadline : Instant) : Prop :=
  deadline.nanoseconds ≤ limit.nanoseconds + service.ttl.total ∨ kind.find id store = .ok (some article)

/-- A call as long after a time as articles are cached, or later, at which the store does not fail. -/
structure IsLate (service : Service) (limit : Instant) (now : Instant) (fates : (call : Call) → Fate call) : Prop where
  late : limit.nanoseconds + service.ttl.total ≤ now.nanoseconds
  answered : ∀ request error, fates (.store request) ≠ .failed error

def Misleads (fates : (call : Call) → Fate call) : Prop := ∃ request, fates (.cache request) = .failed .cancelled

/-- The cache fails a call of this caller as if she had cancelled. -/
def Misled (caller : Nat) (happenings : List (Happening kind)) : Prop :=
  ∃ world now fates, .call caller world now fates ∈ happenings ∧ Misleads fates

/-- What this caller caches at one of her calls would expire after the last reading of the clock. -/
def Overdue (service : Service) (caller : Nat) (happenings : List (Happening kind)) : Prop :=
  ∃ world now fates, .call caller world now fates ∈ happenings ∧ now.after? service.ttl = none

section Calls

variable {world : Surroundings} {now : Instant} {fates : (call : Call) → Fate call} {request : Call} {cut : Prop}
  {session : Session kind.State LruCache}

theorem serve_reveals (world : Surroundings) (late : limit.nanoseconds + service.ttl.total ≤ now.nanoseconds)
    (isOfGet : request.IsOfGet service id) (same : session.store = store)
    (holds : HoldsOnly service (Converging service limit store) session.cache) (cut : Prop) :
    (∃ reply after, Session.serve (servers kind world now) request session = (.ok reply, after) ∧
        request.Reveals store id cut reply) ∨
      now.after? service.ttl = none ∧
        ∃ after, Session.serve (servers kind world now) request session = (.error .deadlineOverflow, after) := by
  match request with
  | .store asked =>
    obtain rfl : asked = .get id := isOfGet
    refine .inl ⟨kind.find id store, { session with store }, ?_, .inl rfl⟩
    simp only [Session.serve, servers, StoreKind.backend_get, same]
  | .cache (.get key) =>
    obtain ⟨_, ⟨⟩, rfl⟩ := isOfGet
    refine .inl ⟨.ok (session.cache.get now (service.key id)).1, _, rfl, ?_⟩
    cases hit : (session.cache.get now (service.key id)).1 with
    | none => trivial
    | some value =>
      -- What is not in the store has expired by now.
      obtain ⟨article, deadline, written, early | found, alive⟩ := (holds id).of_hit hit
      · omega
      · exact ⟨article, written, found⟩
  | .cache (.set key value ttl) =>
    obtain ⟨_, _, _, _, rfl⟩ := isOfGet
    cases reached : now.after? service.ttl with
    | none =>
      refine .inr ⟨rfl, session, ?_⟩
      simp only [Session.serve, servers, LruCache.backend, LruCache.set, reached]
    | some deadline =>
      obtain ⟨full, stored⟩ := LruCache.exists_set key value session.cache (Option.isSome_of_mem reached)
      refine .inl ⟨.ok (), { session with cache := full }, ?_, trivial⟩
      simp only [Session.serve, servers, LruCache.backend_set_of_eq_ok stored]
  | .cache (.delete key) =>
    obtain ⟨_, told, _⟩ := isOfGet
    exact told.elim

/-- Whatever becomes of a call of a late look-up, there is a reply that tells what the store holds, unless there is none
for want of a deadline. -/
theorem handler_reveals (world : Surroundings) (isLate : IsLate service limit now fates)
    (isOfGet : request.IsOfGet service id) (same : session.store = store)
    (holds : HoldsOnly service (Converging service limit store) session.cache)
    (cancels : (Session.handler (servers kind world now) fates request session).2.cancelled = true → cut)
    (misled : Misleads fates → cut) :
    (∃ reply, (Session.handler (servers kind world now) fates request session).1 = .ok reply ∧
        request.Reveals store id cut reply) ∨
      now.after? service.ttl = none ∧
        (Session.handler (servers kind world now) fates request session).1 = .error .deadlineOverflow := by
  -- A call that is given up tells nothing but that.
  have gaveUp (isCut : cut) : request.Reveals store id cut (.error request.cancelled) := by
    match request with
    | .store (.get _) => exact .inr ⟨isCut, rfl⟩
    | .cache (.get _) => exact fun _ => isCut
    | .cache (.set _ _ _) => trivial
    | .cache (.delete _) => trivial
  cases cancelled : session.cancelled with
  | true =>
    rw [Session.handler_of_cancelled cancelled] at cancels ⊢
    exact .inl ⟨_, rfl, gaveUp (cancels cancelled)⟩
  | false =>
    rw [Session.handler_live _ _ _ cancelled] at cancels ⊢
    have sameLogged : (session.logged request).store = store := same
    have serves := serve_reveals world isLate.late isOfGet sameLogged holds cut
    cases fate : fates request with
    | served =>
      rcases serves with ⟨reply, after, served, reveals⟩ | ⟨never, after, served⟩
      · exact .inl ⟨reply, congrArg Prod.fst served, reveals⟩
      · exact .inr ⟨never, congrArg Prod.fst served⟩
    | failed error =>
      refine .inl ⟨.error error, rfl, ?_⟩
      match request with
      | .store asked => exact absurd fate (isLate.answered asked error)
      | .cache (.get key) =>
        rintro rfl
        -- Of the failures of a cache only this one is passed on to the caller.
        exact misled ⟨.get key, fate⟩
      | .cache (.set _ _ _) => trivial
      | .cache (.delete _) => trivial
    | cutOff worked =>
      rw [fate] at cancels
      cases worked with
      | false => exact .inl ⟨_, rfl, gaveUp (cancels rfl)⟩
      | true =>
        rcases serves with ⟨reply, after, served, _⟩ | ⟨never, after, served⟩
        · simp only [Session.meet, served] at cancels ⊢
          exact .inl ⟨_, rfl, gaveUp (cancels trivial)⟩
        · exact .inr ⟨never, by simp only [Session.meet, served]⟩
    | servedLast =>
      rcases serves with ⟨reply, after, served, reveals⟩ | ⟨never, after, served⟩
      · exact .inl ⟨reply, by simp only [Session.meet, served], reveals⟩
      · exact .inr ⟨never, by simp only [Session.meet, served]⟩

end Calls

/-! ## A look-up -/

/-- A caller looks an article up with no more than so many calls to come. She will be given what the store holds, unless
she cancels or is misled. The look-up may have crashed for want of a deadline. -/
inductive Caller.LooksUp (service : Service) (store : kind.State) (id : Uuid) (misled overdue : Prop) (most : Nat) :
    Caller → Prop
  | goesOn {program : Program (Except StoreError BylinedArticle)} {cancelled : Bool} (few : program.AtMost most)
    (follows : ∀ cut : Prop, (cancelled = true → cut) → (misled → cut) →
      program.Follows (Call.IsOfGet service id) (Call.Reveals store id cut) (Correct store id cut)) :
    LooksUp service store id misled overdue most ⟨.get id, .ok program, cancelled⟩
  | crashed {cancelled : Bool} (never : overdue) :
    LooksUp service store id misled overdue most ⟨.get id, .error .deadlineOverflow, cancelled⟩

namespace Caller.LooksUp

variable {caller : Caller} {misled overdue : Prop} {most : Nat} {world : Surroundings} {now : Instant}
  {fates : (call : Call) → Fate call} {system : System kind}

theorem start (service : Service) (store : kind.State) (id : Uuid) (misled overdue : Prop) :
    (Caller.start service (.get id)).LooksUp service store id misled overdue 3 :=
  .goesOn (service.atMost_get id) fun cut _ _ => follows_get_correct service store id cut

theorem cancel (looksUp : caller.LooksUp service store id misled overdue most) :
    Caller.LooksUp service store id misled overdue most { caller with cancelled := true } := by
  cases looksUp with
  | goesOn few follows => exact .goesOn few fun cut cancels => follows cut fun _ => cancels rfl
  | crashed never => exact .crashed never

/-- With each call there is one less to come. -/
theorem advance (looksUp : caller.LooksUp service store id misled overdue most) (still : system.store = store)
    (holds : HoldsOnly service (Converging service limit store) system.cache) (isLate : IsLate service limit now fates)
    (misleads : Misleads fates → misled) (never : now.after? service.ttl = none → overdue) :
    (caller.advance world now fates system).1.LooksUp service store id misled overdue (most - 1) := by
  cases looksUp with
  | crashed before => exact .crashed before
  | @goesOn program cancelled few follows =>
    rcases Caller.advance_cases world now fates ⟨.get id, .ok program, cancelled⟩ system with
      ⟨ended, same⟩ | ⟨_, request, next, outcome, after, ⟨⟩, settled, met, advanced⟩
    · rw [same]
      obtain ⟨result, ends⟩ := ended program rfl
      exact .goesOn (ends.atMost _) follows
    · rw [advanced]
      -- Whether or not there is a cut, there is the same reply.
      have reveals (cut : Prop) (cancels : after.cancelled = true → cut) (told : misled → cut) :
          (∃ reply, outcome = .ok reply ∧
              (next reply).Follows (Call.IsOfGet service id) (Call.Reveals store id cut) (Correct store id cut)) ∨
            now.after? service.ttl = none ∧ outcome = .error .deadlineOverflow := by
        have cancelsBefore : cancelled = true → cut := by
          intro before
          rw [Session.handler_of_cancelled before] at met
          obtain ⟨_, rfl⟩ := Prod.mk.inj met
          exact cancels before
        have rest : (call request next).Follows (Call.IsOfGet service id) (Call.Reveals store id cut)
            (Correct store id cut) := settled ▸ (follows cut cancelsBefore told).settled
        rw [← congrArg (·.2.cancelled) met] at cancels
        have revealed := handler_reveals world isLate rest.1 still holds cancels fun misleading =>
          told (misleads misleading)
        rw [met] at revealed
        rcases revealed with ⟨reply, replied, isRevealed⟩ | crashes
        · exact .inl ⟨reply, replied, rest.2 reply isRevealed⟩
        · exact .inr crashes
      -- Which reply there is does not depend on the cut, so it may be found with everything allowed.
      rcases reveals True (fun _ => trivial) fun _ => trivial with ⟨reply, rfl, _⟩ | ⟨unreached, rfl⟩
      · refine .goesOn ?_ ?_
        · have fewer := settled ▸ few.settled
          cases most with
          | zero => exact fewer.elim
          | succ most => exact fewer reply
        · intro cut cancels told
          rcases reveals cut cancels told with ⟨_, ⟨⟩, rest⟩ | ⟨_, ⟨⟩⟩
          exact rest
      · exact .crashed (never unreached)

end Caller.LooksUp

/-! ## Scenes -/

def Happening.isCallOf (caller : Nat) : Happening kind → Bool
  | .call other _ _ _ => other == caller
  | _ => false

namespace Scene

variable {scene : Scene kind} {happening : Happening kind} {happenings : List (Happening kind)}

def Keeps (service : Service) (store : kind.State) : List (Happening kind) → Scene kind → Prop
  | [], scene => scene.system.store = store
  | happening :: happenings, scene =>
    scene.system.store = store ∧ Keeps service store happenings (scene.step service happening)

theorem run_append (service : Service) (first second : List (Happening kind)) (scene : Scene kind) :
    scene.run service (first ++ second) = (scene.run service first).run service second :=
  List.foldl_append

theorem keeps_append {first second : List (Happening kind)} (keeps : Keeps service store (first ++ second) scene) :
    Keeps service store first scene ∧ Keeps service store second (scene.run service first) := by
  induction first generalizing scene with
  | nil =>
    refine ⟨?_, keeps⟩
    cases second with
    | nil => exact keeps
    | cons happening happenings => exact keeps.1
  | cons happening first inductionHypothesis =>
    obtain ⟨now, later⟩ := inductionHypothesis keeps.2
    exact ⟨⟨keeps.1, now⟩, later⟩

/-- All callers have come to an end by a time, and the cache has been filled by none but them. -/
def HasSettled (service : Service) (limit : Instant) (scene : Scene kind) : Prop :=
  ∃ (past : List (Happening kind)) (system : System kind), system.cache.entries = [] ∧
    (∀ index world now fates, .call index world now fates ∈ past → now.nanoseconds ≤ limit.nanoseconds) ∧
    scene = Scene.run service past ⟨[], system⟩ ∧ ∀ caller ∈ scene.callers, caller.HasEnded

/-- Until a time nothing is cached for longer than articles are from then on. -/
theorem obeys_of_early {past : List (Happening kind)}
    (early : ∀ index world now fates, .call index world now fates ∈ past → now.nanoseconds ≤ limit.nanoseconds)
    (obeys : scene.Obeys service (fun _ => True) fun _ _ deadline =>
      deadline.nanoseconds ≤ limit.nanoseconds + service.ttl.total) :
    (scene.run service past).Obeys service (fun _ => True) fun _ _ deadline =>
      deadline.nanoseconds ≤ limit.nanoseconds + service.ttl.total := by
  induction past generalizing scene with
  | nil => exact obeys
  | cons happening past inductionHypothesis =>
    apply inductionHypothesis fun index world now fates there => early index world now fates (.tail _ there)
    refine obeys.step (fun _ _ _ => trivial) ?_
    rintro index world now fates article deadline rfl _ reached
    rw [nanoseconds_after? reached]
    exact Nat.add_le_add_right (early index world now fates (.head _)) _

/-- In a scene where all have come to an end, nobody knows of articles that are not in the store. -/
theorem HasSettled.obeys (settled : scene.HasSettled service limit) :
    scene.Obeys service (fun article => kind.find article.id scene.system.store = .ok (some article))
      (Converging service limit scene.system.store) := by
  obtain ⟨past, system, empty, early, rfl, ended⟩ := settled
  have begun : Obeys service (fun _ => True)
      (fun _ _ deadline => deadline.nanoseconds ≤ limit.nanoseconds + service.ttl.total)
      (⟨[], system⟩ : Scene kind) := ⟨nofun, HoldsOnly.of_empty empty⟩
  refine ⟨fun caller there => (ended caller there).follows service _, ?_⟩
  exact (obeys_of_early early begun).cache.imp .inl

/-- As long as the store holds still, callers see and cache only what is in it. -/
theorem obeys_of_still (still : scene.system.store = store)
    (obeys : scene.Obeys service (fun article => kind.find article.id store = .ok (some article))
      (Converging service limit store)) (happening : Happening kind) :
    (scene.step service happening).Obeys service (fun article => kind.find article.id store = .ok (some article))
      (Converging service limit store) := by
  refine obeys.step ?_ ?_
  · intro id article found
    rw [still] at found
    rw [StoreKind.id_of_find found, found]
  · exact fun _ _ _ _ article _ _ found _ => .inr found

theorem obeys_of_keeps (keeps : Keeps service store happenings scene)
    (obeys : scene.Obeys service (fun article => kind.find article.id store = .ok (some article))
      (Converging service limit store)) :
    (scene.run service happenings).Obeys service (fun article => kind.find article.id store = .ok (some article))
      (Converging service limit store) := by
  induction happenings generalizing scene with
  | nil => exact obeys
  | cons happening happenings inductionHypothesis =>
    exact inductionHypothesis keeps.2 (obeys_of_still keeps.1 obeys happening)

def LooksUp (service : Service) (store : kind.State) (id : Uuid) (reader : Nat) (misled overdue : Prop) (most : Nat)
    (scene : Scene kind) : Prop :=
  ∃ caller, scene.callers[reader]? = some caller ∧ caller.LooksUp service store id misled overdue most

theorem looksUp_begin (service : Service) (store : kind.State) (id : Uuid) (misled overdue : Prop)
    (scene : Scene kind) :
    (scene.step service (.begin (.get id))).LooksUp service store id scene.callers.length misled overdue 3 :=
  ⟨Caller.start service (.get id), by simp [step], .start service store id misled overdue⟩

variable {reader most : Nat} {misled overdue : Prop}

theorem LooksUp.step (looksUp : scene.LooksUp service store id reader misled overdue most)
    (still : scene.system.store = store)
    (holds : HoldsOnly service (Converging service limit store) scene.system.cache)
    (late : ∀ world now fates, happening = .call reader world now fates → IsLate service limit now fates)
    (misleads : ∀ world now fates, happening = .call reader world now fates → Misleads fates → misled)
    (never : ∀ world now fates, happening = .call reader world now fates → now.after? service.ttl = none → overdue) :
    (scene.step service happening).LooksUp service store id reader misled overdue
      (most - if happening.isCallOf reader then 1 else 0) := by
  obtain ⟨caller, there, looksUp⟩ := looksUp
  have known : reader < scene.callers.length := (List.getElem?_eq_some_iff.mp there).1
  -- Only her own calls bring the reader nearer to the end, and only she herself can cancel.
  cases happening with
  | begin operation => exact ⟨caller, (List.getElem?_append_left known).trans there, looksUp⟩
  | change edit => exact ⟨caller, there, looksUp⟩
  | cancel index =>
    by_cases same : index = reader
    · subst same
      simp only [Scene.step, there]
      exact ⟨_, List.getElem?_set_self known, looksUp.cancel⟩
    · simp only [Scene.step]
      cases scene.callers[index]? with
      | none => exact ⟨caller, there, looksUp⟩
      | some other => exact ⟨caller, (List.getElem?_set_ne same).trans there, looksUp⟩
  | call index world now fates =>
    by_cases same : index = reader
    · subst same
      simp only [Scene.step, there, Happening.isCallOf, beq_self_eq_true, if_true]
      exact ⟨_, List.getElem?_set_self known, looksUp.advance still holds (late world now fates rfl)
        (misleads world now fates rfl) (never world now fates rfl)⟩
    · simp only [Scene.step, Happening.isCallOf, beq_eq_false_iff_ne.mpr same]
      cases scene.callers[index]? with
      | none => exact ⟨caller, there, looksUp⟩
      | some other => exact ⟨caller, (List.getElem?_set_ne same).trans there, looksUp⟩

theorem LooksUp.run (looksUp : scene.LooksUp service store id reader misled overdue most)
    (keeps : Keeps service store happenings scene)
    (obeys : scene.Obeys service (fun article => kind.find article.id store = .ok (some article))
      (Converging service limit store))
    (late : ∀ world now fates, .call reader world now fates ∈ happenings → IsLate service limit now fates)
    (misleads : ∀ world now fates, .call reader world now fates ∈ happenings → Misleads fates → misled)
    (never : ∀ world now fates, .call reader world now fates ∈ happenings → now.after? service.ttl = none → overdue) :
    (scene.run service happenings).LooksUp service store id reader misled overdue
      (most - happenings.countP (Happening.isCallOf reader)) := by
  induction happenings generalizing scene most with
  | nil => exact looksUp
  | cons happening happenings inductionHypothesis =>
    have next := looksUp.step keeps.1 obeys.cache
      (fun world now fates same => late world now fates (same ▸ .head _))
      (fun world now fates same => misleads world now fates (same ▸ .head _))
      fun world now fates same => never world now fates (same ▸ .head _)
    have last := inductionHypothesis next keeps.2 (obeys_of_still keeps.1 obeys happening)
      (fun world now fates there => late world now fates (.tail _ there))
      (fun world now fates there => misleads world now fates (.tail _ there))
      fun world now fates there => never world now fates (.tail _ there)
    -- Each of her calls leaves one less to come.
    rw [List.countP_cons, Nat.add_comm, ← Nat.sub_sub]
    exact last

end Scene

/-- After all callers have come to an end and while nobody writes the store, a look-up that begins as long after that
end as articles are cached ends after three calls, if not before. What it gives is what the store holds, unless its
caller has cancelled, or the cache has failed as if she had. There is no result only if the article was to be cached
until a time that the clock does not reach. -/
theorem converged_of_still {quiet : Scene kind} (settled : quiet.HasSettled service limit)
    {between since : List (Happening kind)} {reader : Nat}
    (last : reader = (quiet.run service between).callers.length)
    (still : quiet.Keeps service quiet.system.store (between ++ .begin (.get id) :: since))
    (late : ∀ world now fates, .call reader world now fates ∈ since → IsLate service limit now fates) :
    ∃ rest cancelled, (quiet.run service (between ++ .begin (.get id) :: since)).callers[reader]?
        = some ⟨.get id, rest, cancelled⟩ ∧
      (∀ program result, rest = .ok program → program.Ends result →
        Correct quiet.system.store id (cancelled = true ∨ Misled reader since) result) ∧
      (∀ crash, rest = .error crash → crash = .deadlineOverflow ∧ Overdue service reader since) ∧
      (3 ≤ since.countP (Happening.isCallOf reader) → Caller.HasEnded ⟨.get id, rest, cancelled⟩) := by
  subst last
  obtain ⟨before, after⟩ := Scene.keeps_append still
  -- From where the look-up begins, three calls are to come at most.
  have begun := Scene.looksUp_begin service quiet.system.store id
    (Misled (quiet.run service between).callers.length since)
    (Overdue service (quiet.run service between).callers.length since) (quiet.run service between)
  -- What is cached by then was cached before all had settled, or found in the store since.
  have obeys := Scene.obeys_of_still after.1 (Scene.obeys_of_keeps before settled.obeys) (.begin (.get id))
  obtain ⟨_, there, looksUp⟩ := begun.run after.2 obeys late
    (fun world now fates there misleads => ⟨world, now, fates, there, misleads⟩)
    fun world now fates there never => ⟨world, now, fates, there, never⟩
  rw [Scene.run_append]
  cases looksUp with
  | @goesOn program cancelled few follows =>
    refine ⟨.ok program, cancelled, there, ?_, nofun, ?_⟩
    · rintro _ result ⟨⟩ ends
      exact (follows _ .inl .inr).promised_of_ends ends
    · rintro enough _ ⟨⟩
      -- All three calls have been made.
      rw [Nat.sub_eq_zero_of_le enough] at few
      exact few.exists_ends
  | @crashed cancelled never =>
    refine ⟨.error .deadlineOverflow, cancelled, there, ?_, ?_, ?_⟩
    · rintro _ _ ⟨⟩
    · rintro _ ⟨⟩
      exact ⟨rfl, never⟩
    · rintro _ _ ⟨⟩

/-- An article is looked up in the store, and cached only after it has been revised while the cache could not be
reached. -/
def aSlowLook : List (Happening .memory) :=
  let world : Surroundings := ⟨⟨1700000000000000000⟩, 9⟩
  let down : (call : Call) → Fate call
    | .cache _ => .failed (.connectionFailed "down")
    | _ => .served
  [.begin (.get ⟨7⟩), .begin (.update ⟨⟨7⟩, "Notes", "Revised", none, "science"⟩),
    .call 0 world ⟨1⟩ Session.undisturbed, .call 0 world ⟨2⟩ Session.undisturbed,
    .call 1 world ⟨3⟩ Session.undisturbed, .call 1 world ⟨4⟩ down, .call 0 world ⟨5⟩ Session.undisturbed]

def afterTheSlowLook : Scene .memory := Scene.run forAMinute aSlowLook ⟨[], ⟨aShelf, roomForOne⟩⟩

def aLateLook : List (Happening .memory) :=
  let world : Surroundings := ⟨⟨1700000000000000000⟩, 9⟩
  List.replicate 3 (.call 2 world ⟨60000000005⟩ Session.undisturbed)

theorem settled_afterTheSlowLook : afterTheSlowLook.HasSettled forAMinute ⟨5⟩ := by
  refine ⟨aSlowLook, ⟨aShelf, roomForOne⟩, rfl, ?_, rfl, by decide +kernel⟩
  intro index world now fates there
  simp only [aSlowLook, List.mem_cons, List.not_mem_nil, or_false, reduceCtorEq, false_or, Happening.call.injEq]
    at there
  rcases there with ⟨_, _, rfl, _⟩ | ⟨_, _, rfl, _⟩ | ⟨_, _, rfl, _⟩ | ⟨_, _, rfl, _⟩ | ⟨_, _, rfl, _⟩ <;> decide

/-- What is cached then is the article as it was before. -/
theorem converged_of_still_aLateLook :
    afterTheSlowLook.HasSettled forAMinute ⟨5⟩ ∧
      afterTheSlowLook.system.cache.entries = [⟨forAMinute.key ⟨7⟩, onTheShelf.toCached, ⟨60000000005⟩⟩] ∧
      afterTheSlowLook.Keeps forAMinute afterTheSlowLook.system.store ([] ++ .begin (.get ⟨7⟩) :: aLateLook) ∧
      ∃ program cancelled result,
        (afterTheSlowLook.run forAMinute ([] ++ .begin (.get ⟨7⟩) :: aLateLook)).callers[2]?
            = some ⟨.get ⟨7⟩, .ok program, cancelled⟩ ∧
          program.Ends result ∧
          @Correct .memory afterTheSlowLook.system.store ⟨7⟩ (cancelled = true ∨ Misled 2 aLateLook) result := by
  have reader : 2 = (afterTheSlowLook.run forAMinute []).callers.length := rfl
  have still : afterTheSlowLook.Keeps forAMinute afterTheSlowLook.system.store
      ([] ++ .begin (.get ⟨7⟩) :: aLateLook) := ⟨rfl, rfl, rfl, rfl, rfl⟩
  have call {world : Surroundings} {now : Instant} {fates : (call : Call) → Fate call}
      (there : .call 2 world now fates ∈ aLateLook) : now = ⟨60000000005⟩ ∧ fates = Session.undisturbed :=
    (Happening.call.inj (List.eq_of_mem_replicate there)).2.2
  have late : ∀ world now fates, .call 2 world now fates ∈ aLateLook → IsLate forAMinute ⟨5⟩ now fates := by
    intro world now fates there
    obtain ⟨rfl, rfl⟩ := call there
    exact ⟨by decide, nofun⟩
  obtain ⟨rest, cancelled, there, correct, crashes, returns⟩ :=
    converged_of_still settled_afterTheSlowLook reader still late
  cases rest with
  | error crash =>
    obtain ⟨_, _, _, _, there, never⟩ := crashes crash rfl
    obtain ⟨rfl, _⟩ := call there
    cases never
  | ok program =>
    obtain ⟨result, ends⟩ := returns (by decide) program rfl
    exact ⟨settled_afterTheSlowLook, rfl, still, program, cancelled, result, there, ends,
      correct program result rfl ends⟩

/-- The article is looked up once more when a minute is over, and the cache says that it was cancelled. -/
def aMisledLook : List (Happening .memory) :=
  let timid : (call : Call) → Fate call
    | .cache _ => .failed .cancelled
    | _ => .served
  [.call 2 ⟨⟨1700000000000000000⟩, 9⟩ ⟨60000000005⟩ timid]

/-- Nobody has cancelled, and the store holds the article as it was revised. -/
theorem misled_aMisledLook :
    afterTheSlowLook.HasSettled forAMinute ⟨5⟩ ∧
      afterTheSlowLook.Keeps forAMinute afterTheSlowLook.system.store ([] ++ .begin (.get ⟨7⟩) :: aMisledLook) ∧
      (∀ world now fates, .call 2 world now fates ∈ aMisledLook → IsLate forAMinute ⟨5⟩ now fates) ∧
      (afterTheSlowLook.run forAMinute ([] ++ .begin (.get ⟨7⟩) :: aMisledLook)).callers[2]?
        = some ⟨.get ⟨7⟩, .ok (done (.error .cancelled)), false⟩ ∧
      ∃ article, StoreKind.memory.find ⟨7⟩ afterTheSlowLook.system.store = .ok (some article) ∧
        article.content = "Revised" := by
  refine ⟨settled_afterTheSlowLook, ⟨rfl, rfl, rfl⟩, ?_, rfl, _, rfl, rfl⟩
  intro world now fates there
  obtain ⟨_, _, rfl, rfl⟩ := Happening.call.inj (List.mem_singleton.mp there)
  exact ⟨by decide, nofun⟩

end Gazette
