import Gazette.Proofs.Service.Turn
import Mathlib.Data.List.Basic

/-!
# Operations that are cancelled

* A `Cancellation` is the point at which the caller cancels: before any call, during one, or after one.
* `Program.Heeds`: a program gives up when a call that it needs is cancelled, and ends with the first call that it does
  not need.
* `heeds_perform`: every operation does so, and `cancelled_or_undisturbed` tells from the run that nobody cancels
  what comes of one that is cancelled.
-/

namespace Gazette

/-! ## When the caller cancels -/

/-- Whether an operation needs a call: all that it asks of the store, and its look-up in the cache. -/
def Call.isNeeded : Call → Bool
  | .store _ => true
  | .cache (.get _) => true
  | .cache _ => false

inductive Cancellation
  /-- Before the first call. -/
  | atOnce
  /-- Before a call returns. It has done its work by then or has not. -/
  | during (target : Call) (worked : Bool)
  /-- After a call has returned and before anything else. -/
  | after (target : Call)
  deriving DecidableEq, Repr

namespace Cancellation

def isAtOnce : Cancellation → Bool
  | atOnce => true
  | _ => false

def worked : Cancellation → Bool
  | during _ worked => worked
  | _ => false

def fates : Cancellation → (call : Call) → Fate call
  | atOnce, _ => .served
  | during target worked, call => if call = target then .cutOff worked else .served
  | after target, call => if call = target then .servedLast else .served

/-- Of the calls of an operation that nobody cancels, those that come to be made. -/
def made : Cancellation → List Call → List Call
  | atOnce, _ => []
  | during target _, calls => calls.take (calls.idxOf target + 1)
  | after target, calls => calls.take (calls.idxOf target + 1)

def remaining : Cancellation → List Call → List Call
  | atOnce, calls => calls
  | during target _, calls => calls.drop (calls.idxOf target)
  | after target, calls => calls.drop (calls.idxOf target + 1)

/-- A call is not cut off after its work if it ends the program, which it can only as the last one. -/
def Arises {α : Type} (cancellation : Cancellation) (calls : List Call) (outcome : Except Crash α) : Prop :=
  ∀ target, cancellation = .during target true → calls.getLast? = some target → ∃ result, outcome = .ok result

def Misses : Cancellation → Call → Prop
  | atOnce, _ => False
  | during target _, call => call ≠ target
  | after target, call => call ≠ target

variable {cancellation : Cancellation} {request : Call} {trace : List Call}

theorem fates_of_misses (misses : cancellation.Misses request) : cancellation.fates request = .served := by
  cases cancellation with
  | atOnce => rfl
  | during target worked => exact if_neg misses
  | after target => exact if_neg misses

theorem made_cons (misses : cancellation.Misses request) (trace : List Call) :
    cancellation.made (request :: trace) = request :: cancellation.made trace := by
  cases cancellation with
  | atOnce => exact misses.elim
  | during target worked => simp [made, List.idxOf_cons_ne trace misses]
  | after target => simp [made, List.idxOf_cons_ne trace misses]

theorem remaining_cons (misses : cancellation.Misses request) (trace : List Call) :
    cancellation.remaining (request :: trace) = cancellation.remaining trace := by
  cases cancellation with
  | atOnce => exact misses.elim
  | during target worked => simp [remaining, List.idxOf_cons_ne trace misses]
  | after target => simp [remaining, List.idxOf_cons_ne trace misses]

theorem made_nil (cancellation : Cancellation) : cancellation.made [] = [] := by
  cases cancellation <;> rfl

theorem remaining_nil (cancellation : Cancellation) : cancellation.remaining [] = [] := by
  cases cancellation <;> rfl

theorem Arises.of_cons {α : Type} {outcome : Except Crash α} (arises : cancellation.Arises (request :: trace) outcome) :
    cancellation.Arises trace outcome := by
  intro target during last
  apply arises target during
  rw [List.getLast?_cons, last]
  rfl

end Cancellation

/-! ## Programs that heed cancellations -/

namespace Program

variable {α σ : Type} {handler : Handler σ} {state after : σ}

/-- A program that gives up when a call that it needs is cancelled, and that ends with the first call that it does not
need, whatever becomes of that. -/
def Heeds : Program (Except StoreError α) → Prop
  | done _ => True
  | note _ next => next.Heeds
  | call request next =>
    if request.isNeeded then
      next (.error request.cancelled) = done (.error .cancelled) ∧ ∀ reply, (next reply).Heeds
    else ∃ result, ∀ reply, (next reply).Ends result

def trace (handler : Handler σ) : Program α → σ → List Call
  | done _, _ => []
  | note _ next, state => next.trace handler state
  | call request next, state =>
    match handler request state with
    | (.ok reply, state) => request :: (next reply).trace handler state
    | (.error _, _) => [request]

theorem run_call_ok {request : Call} {next : request.Reply → Program α} {reply : request.Reply}
    (answered : handler request state = (.ok reply, after)) :
    (call request next).run handler state = (next reply).run handler after := by
  simp only [run, answered]

theorem run_call_error {request : Call} {next : request.Reply → Program α} {crash : Crash}
    (ended : handler request state = (.error crash, after)) :
    (call request next).run handler state = ⟨.error crash, after, []⟩ := by
  simp only [run, ended]

theorem trace_call_ok {request : Call} {next : request.Reply → Program α} {reply : request.Reply}
    (answered : handler request state = (.ok reply, after)) :
    (call request next).trace handler state = request :: (next reply).trace handler after := by
  simp only [trace, answered]

theorem trace_call_error {request : Call} {next : request.Reply → Program α} {crash : Crash}
    (ended : handler request state = (.error crash, after)) :
    (call request next).trace handler state = [request] := by
  simp only [trace, ended]

theorem Ends.trace_eq_nil {result : α} {program : Program α} (ends : program.Ends result) (handler : Handler σ)
    (state : σ) : program.trace handler state = [] := by
  induction program with
  | done other => rfl
  | note event next inductionHypothesis => exact inductionHypothesis ends
  | call request next => exact ends.elim

end Program

namespace Service

open Program (Heeds)

theorem heeds_fetch (service : Service) (id : Uuid) : (service.fetch id).Heeds := by
  rw [fetch_eq]
  refine ⟨rfl, fun reply => ?_⟩
  match reply with
  | .error error => trivial
  | .ok none => trivial
  | .ok (some article) => exact ⟨.ok article, ends_finish (Program.ends_done _)⟩

theorem heeds_afterLookUp (service : Service) (id : Uuid) (found : Except CacheError (Option BylinedArticle)) :
    (service.afterLookUp id found).Heeds := by
  rcases service.afterLookUp_cases id found with ⟨article, _, same⟩ | ⟨_, same⟩ | ⟨event, same⟩
  · rw [same]
    trivial
  · rw [same]
    trivial
  · rw [same]
    exact service.heeds_fetch id

theorem heeds_afterRows (event : Event) (page : Page) (total : UInt64) (reply : Except StoreError (List Article)) :
    (afterRows event page total reply).Heeds := by
  cases reply <;> trivial

theorem heeds_perform (service : Service) (operation : Operation) : (service.perform operation).Heeds := by
  cases operation with
  | create draft =>
    rw [perform, create_eq]
    refine ⟨rfl, fun reply => ?_⟩
    cases reply <;> trivial
  | update revision =>
    rw [perform, update_eq]
    refine ⟨rfl, fun reply => ?_⟩
    cases reply with
    | error error => trivial
    | ok row =>
      cases row with
      | none => trivial
      | some article => exact ⟨.ok article, ends_finish (Program.ends_done _)⟩
  | get id =>
    rw [perform, get_eq]
    exact ⟨rfl, fun reply => service.heeds_afterLookUp id (readHit reply)⟩
  | delete id =>
    rw [perform, delete_eq]
    refine ⟨rfl, fun reply => ?_⟩
    cases reply with
    | error error => trivial
    | ok rows =>
      rw [afterDelete]
      split
      · trivial
      · exact ⟨.ok (), ends_finish (Program.ends_done _)⟩
  | list page =>
    rw [perform, list_eq]
    refine ⟨rfl, fun reply => ?_⟩
    cases reply with
    | error error => trivial
    | ok total => exact ⟨rfl, fun reply => heeds_afterRows _ page total reply⟩
  | search needle page =>
    rw [perform, search_eq]
    refine ⟨rfl, fun reply => ?_⟩
    cases reply with
    | error error => trivial
    | ok total => exact ⟨rfl, fun reply => heeds_afterRows _ page total reply⟩

end Service

/-! ## Runs that are cancelled -/

structure Alike {α σ τ : Type} (run other : Program.Run α (Session σ τ)) (cache : τ) : Prop where
  outcome : run.outcome = other.outcome
  events : run.events = other.events
  store : run.state.store = other.state.store
  cache : run.state.cache = cache

/-- How a run heeds its cancellation. It is compared with the run that nobody cancels, which makes the calls of `trace`
after those that were made `before`, and with the run in which calls that are not needed fail. -/
structure Heeded {α σ τ : Type} (cancellation : Cancellation) (before trace : List Call)
    (undisturbed failing run : Program.Run (Except StoreError α) (Session σ τ)) : Prop where
  calls : run.state.calls = before ++ cancellation.made trace
  cancelled : (cancellation.remaining trace).any Call.isNeeded = true → run.outcome = .ok (.error .cancelled)
  complete : cancellation.remaining trace = [] → Alike run undisturbed undisturbed.state.cache
  spared : cancellation.remaining trace ≠ [] → (cancellation.remaining trace).any Call.isNeeded = false →
    Alike run failing (if cancellation.worked then undisturbed.state.cache else failing.state.cache) ∧
      ∀ result, undisturbed.outcome = .ok result → run.outcome = .ok result

namespace Heeded

variable {α σ τ : Type} {cancellation : Cancellation} {before trace : List Call} {request : Call}
  {undisturbed failing run : Program.Run (Except StoreError α) (Session σ τ)}

theorem of_needed (calls : run.state.calls = before ++ cancellation.made trace)
    (needed : (cancellation.remaining trace).any Call.isNeeded = true)
    (outcome : run.outcome = .ok (.error .cancelled)) :
    Heeded cancellation before trace undisturbed failing run := by
  refine ⟨calls, fun _ => outcome, fun nothing => ?_, fun _ spared => ?_⟩
  · rw [nothing] at needed
    cases needed
  · rw [needed] at spared
    cases spared

theorem of_complete (calls : run.state.calls = before ++ cancellation.made trace)
    (nothing : cancellation.remaining trace = []) (alike : Alike run undisturbed undisturbed.state.cache) :
    Heeded cancellation before trace undisturbed failing run := by
  refine ⟨calls, fun needed => ?_, fun _ => alike, fun something => absurd nothing something⟩
  rw [nothing] at needed
  cases needed

theorem of_spared (calls : run.state.calls = before ++ cancellation.made trace)
    (one : cancellation.remaining trace = [request]) (notNeeded : request.isNeeded = false)
    (alike : Alike run failing (if cancellation.worked then undisturbed.state.cache else failing.state.cache))
    (same : ∀ result, undisturbed.outcome = .ok result → run.outcome = .ok result) :
    Heeded cancellation before trace undisturbed failing run := by
  have spared : (cancellation.remaining trace).any Call.isNeeded = false := by simp [one, notNeeded]
  refine ⟨calls, fun needed => ?_, fun nothing => ?_, fun _ _ => ⟨alike, same⟩⟩
  · rw [spared] at needed
    cases needed
  · rw [one] at nothing
    cases nothing

/-- A call that has returned before the caller cancels. -/
theorem cons {earlier : List Call} (misses : cancellation.Misses request) (first : earlier = before ++ [request])
    (heeded : Heeded cancellation earlier trace undisturbed failing run) :
    Heeded cancellation before (request :: trace) undisturbed failing run := by
  obtain ⟨calls, cancelled, complete, spared⟩ := heeded
  rw [first, List.append_assoc, List.singleton_append, ← Cancellation.made_cons misses] at calls
  rw [← Cancellation.remaining_cons misses] at cancelled complete spared
  exact ⟨calls, cancelled, complete, spared⟩

/-- A call after which the caller cancels at once. -/
theorem after {earlier : List Call} (first : earlier = before ++ [request])
    (heeded : Heeded .atOnce earlier trace undisturbed failing run) :
    Heeded (.after request) before (request :: trace) undisturbed failing run := by
  obtain ⟨calls, cancelled, complete, spared⟩ := heeded
  have remaining : (Cancellation.after request).remaining (request :: trace) = trace := by
    simp [Cancellation.remaining]
  refine ⟨?_, ?_, ?_, ?_⟩
  · simpa [Cancellation.made, first] using calls
  · rw [remaining]
    exact cancelled
  · rw [remaining]
    exact complete
  · rw [remaining]
    exact spared

theorem note (event : Event) (heeded : Heeded cancellation before trace undisturbed failing run) :
    Heeded cancellation before trace { undisturbed with events := event :: undisturbed.events }
      { failing with events := event :: failing.events } { run with events := event :: run.events } := by
  obtain ⟨calls, cancelled, complete, spared⟩ := heeded
  refine ⟨calls, cancelled, fun nothing => ?_, fun something notNeeded => ?_⟩
  · obtain ⟨outcome, events, store, cache⟩ := complete nothing
    exact ⟨outcome, congrArg (event :: ·) events, store, cache⟩
  · obtain ⟨⟨outcome, events, store, cache⟩, same⟩ := spared something notNeeded
    exact ⟨⟨outcome, congrArg (event :: ·) events, store, cache⟩, same⟩

end Heeded

namespace Session

open Program (call done)

variable {α σ τ : Type} {collaborators : Collaborators σ τ} {fates : (call : Call) → Fate call}
  {session : Session σ τ}

def failing (call : Call) : Fate call := if call.isNeeded then .served else .failed call.cancelled

theorem handler_of_served {request : Call} (live : session.cancelled = false) (served : fates request = .served) :
    handler collaborators fates request session = serve collaborators request (session.logged request) := by
  rw [handler_live collaborators fates request live, served]
  rfl

theorem serve_keeps {collaborators : Collaborators σ τ} {request : Call} {outcome : Except Crash request.Reply}
    {after : Session σ τ} (served : serve collaborators request session = (outcome, after)) :
    after.cancelled = session.cancelled ∧ after.calls = session.calls := by
  cases request <;> cases served <;> exact ⟨rfl, rfl⟩

/-- After the caller has cancelled, a call is not made. -/
theorem handler_cancelled (collaborators : Collaborators σ τ) (fates : (call : Call) → Fate call) (request : Call)
    (session : Session σ τ) :
    handler collaborators fates request { session with cancelled := true } =
      (.ok (.error request.cancelled), { session with cancelled := true }) := rfl

/-- What comes of a call when nobody cancels: the program ends, or goes on with the reply. In the run in which calls
that are not needed fail it goes on in the same way if the call is needed, and else ends. -/
theorem undisturbed_cases (collaborators : Collaborators σ τ) {request : Call} (next : request.Reply → Program α)
    (live : session.cancelled = false) :
    (∃ crash after, serve collaborators request (session.logged request) = (.error crash, after) ∧
      after.calls = session.calls ++ [request] ∧
      (call request next).trace (handler collaborators undisturbed) session = [request] ∧
      (call request next).run (handler collaborators undisturbed) session = ⟨.error crash, after, []⟩) ∨
    ∃ reply after, serve collaborators request (session.logged request) = (.ok reply, after) ∧
      after.cancelled = false ∧ after.calls = session.calls ++ [request] ∧
      (call request next).trace (handler collaborators undisturbed) session
        = request :: (next reply).trace (handler collaborators undisturbed) after ∧
      (call request next).run (handler collaborators undisturbed) session
        = (next reply).run (handler collaborators undisturbed) after := by
  have made : handler collaborators undisturbed request session = serve collaborators request (session.logged request) :=
    handler_of_served live rfl
  cases served : serve collaborators request (session.logged request) with
  | mk outcome after =>
    rw [served] at made
    obtain ⟨sameCancelled, sameCalls⟩ := serve_keeps served
    cases outcome with
    | error crash =>
      exact .inl ⟨crash, after, rfl, sameCalls, Program.trace_call_error made, Program.run_call_error made⟩
    | ok reply =>
      exact .inr ⟨reply, after, rfl, sameCancelled.trans live, sameCalls, Program.trace_call_ok made,
        Program.run_call_ok made⟩

/-- A needed call is served in the run in which calls that are not needed fail. -/
theorem failing_of_needed {request : Call} {reply : request.Reply} {after : Session σ τ}
    (next : request.Reply → Program α) (live : session.cancelled = false) (needed : request.isNeeded = true)
    (served : serve collaborators request (session.logged request) = (.ok reply, after)) :
    (call request next).run (handler collaborators failing) session
      = (next reply).run (handler collaborators failing) after := by
  apply Program.run_call_ok
  rw [← served]
  exact handler_of_served live (if_pos needed)

theorem failing_of_not_needed (collaborators : Collaborators σ τ) {request : Call} (next : request.Reply → Program α)
    (live : session.cancelled = false) (notNeeded : request.isNeeded = false) :
    (call request next).run (handler collaborators failing) session
      = (next (.error request.cancelled)).run (handler collaborators failing) (session.logged request) := by
  apply Program.run_call_ok
  rw [handler_live collaborators failing request live, failing, if_neg (Bool.eq_false_iff.mp notNeeded)]
  rfl

/-- A call that is not needed and that the caller cuts off: the run is the one in which it fails. -/
theorem heeded_of_lost {cancellation : Cancellation} {request : Call} {next : request.Reply → Program (Except StoreError α)}
    {result : Except StoreError α} (ends : ∀ reply, (next reply).Ends result) (live : session.cancelled = false)
    (notNeeded : request.isNeeded = false) {struck : Session σ τ} (fates : (call : Call) → Fate call)
    (calls : struck.calls = session.calls ++ cancellation.made [request])
    (one : cancellation.remaining [request] = [request]) (store : struck.store = session.store)
    (cache : struck.cache = if cancellation.worked then
      ((call request next).run (handler collaborators undisturbed) session).state.cache else session.cache) :
    Heeded cancellation session.calls ((call request next).trace (handler collaborators undisturbed) session)
      ((call request next).run (handler collaborators undisturbed) session)
      ((call request next).run (handler collaborators failing) session)
      ((next (.error request.cancelled)).run (handler collaborators fates) struck) := by
  have trace : (call request next).trace (handler collaborators undisturbed) session = [request] := by
    rcases undisturbed_cases collaborators next live with ⟨_, _, _, _, trace, _⟩ | ⟨reply, _, _, _, _, trace, _⟩
    · exact trace
    · rw [trace, (ends reply).trace_eq_nil]
  -- The program ends alike, whatever becomes of the call that is lost.
  obtain ⟨events, ran⟩ := (ends (.error request.cancelled)).exists_run
  rw [trace, failing_of_not_needed collaborators next live notNeeded, ran, ran]
  refine .of_spared calls one notNeeded ⟨rfl, rfl, store, cache⟩ ?_
  intro other returned
  rcases undisturbed_cases collaborators next live with ⟨_, _, _, _, _, same⟩ | ⟨reply, _, _, _, _, _, same⟩
  · rw [same] at returned
    cases returned
  · obtain ⟨_, again⟩ := (ends reply).exists_run
    rw [same, again] at returned
    exact returned

/-- A program whose caller has cancelled makes no call. -/
theorem heeded_atOnce (collaborators : Collaborators σ τ) (fates : (call : Call) → Fate call)
    {program : Program (Except StoreError α)} (heeds : program.Heeds) (live : session.cancelled = false) :
    Heeded .atOnce session.calls (program.trace (handler collaborators undisturbed) session)
      (program.run (handler collaborators undisturbed) session) (program.run (handler collaborators failing) session)
      (program.run (handler collaborators fates) { session with cancelled := true }) := by
  induction program with
  | done result => exact .of_complete (List.append_nil _).symm rfl ⟨rfl, rfl, rfl, rfl⟩
  | note event next inductionHypothesis => exact (inductionHypothesis heeds).note event
  | call request next =>
    rw [Program.run_call_ok (handler_cancelled collaborators fates request session)]
    cases needed : request.isNeeded with
    | true =>
      rw [Program.Heeds, if_pos needed] at heeds
      rw [heeds.1]
      refine .of_needed (List.append_nil _).symm ?_ rfl
      -- The first call of the program is among those that are left.
      rcases undisturbed_cases collaborators next live with ⟨_, _, _, _, trace, _⟩ | ⟨_, _, _, _, _, trace, _⟩ <;>
        simp [Cancellation.remaining, trace, needed]
    | false =>
      rw [Program.Heeds, if_neg (Bool.eq_false_iff.mp needed)] at heeds
      obtain ⟨result, ends⟩ := heeds
      exact heeded_of_lost ends live needed fates (List.append_nil _).symm rfl rfl rfl

theorem store_of_not_needed (collaborators : Collaborators σ τ) {request : Call} (notNeeded : request.isNeeded = false)
    (session : Session σ τ) : (serve collaborators request session).2.store = session.store := by
  cases request with
  | store request => cases notNeeded
  | cache request => rfl

/-- A call that is cut off fails. It has done its work, if it was to, unless it ended the program. -/
theorem handler_during {request : Call} (worked : Bool) (live : session.cancelled = false)
    (returns : worked = true → ∃ reply, (serve collaborators request (session.logged request)).1 = .ok reply) :
    ∃ struck, handler collaborators (Cancellation.during request worked).fates request session
        = (.ok (.error request.cancelled), struck) ∧ struck.calls = session.calls ++ [request] ∧
      struck.store = (if worked then (serve collaborators request (session.logged request)).2.store else session.store) ∧
      struck.cache = if worked then (serve collaborators request (session.logged request)).2.cache else session.cache := by
  have fate : (Cancellation.during request worked).fates request = .cutOff worked := if_pos rfl
  rw [handler_live collaborators _ request live, fate]
  cases worked with
  | false => exact ⟨_, rfl, rfl, rfl, rfl⟩
  | true =>
    obtain ⟨reply, answered⟩ := returns rfl
    cases served : serve collaborators request (session.logged request) with
    | mk outcome after =>
      obtain rfl : outcome = .ok reply := by rw [served] at answered; exact answered
      exact ⟨{ after with cancelled := true }, by simp only [meet, served], (serve_keeps served).2, rfl, rfl⟩

/-- A program whose caller cancels while its first call is made. -/
theorem heeded_during {request : Call} {next : request.Reply → Program (Except StoreError α)} (worked : Bool)
    (heeds : (call request next).Heeds) (live : session.cancelled = false)
    (arises : (Cancellation.during request worked).Arises
      ((call request next).trace (handler collaborators undisturbed) session)
      ((call request next).run (handler collaborators undisturbed) session).outcome) :
    Heeded (.during request worked) session.calls ((call request next).trace (handler collaborators undisturbed) session)
      ((call request next).run (handler collaborators undisturbed) session)
      ((call request next).run (handler collaborators failing) session)
      ((call request next).run (handler collaborators (Cancellation.during request worked).fates) session) := by
  have returns (isWorked : worked = true) :
      ∃ reply, (serve collaborators request (session.logged request)).1 = .ok reply := by
    rcases undisturbed_cases collaborators next live with ⟨crash, _, _, _, trace, ran⟩ | ⟨reply, _, served, _⟩
    · rw [trace, ran, isWorked] at arises
      obtain ⟨_, survived⟩ := arises request rfl rfl
      cases survived
    · exact ⟨reply, by rw [served]⟩
  obtain ⟨struck, told, calls, store, cache⟩ := handler_during worked live returns
  rw [Program.run_call_ok told]
  cases needed : request.isNeeded with
  | true =>
    rw [Program.Heeds, if_pos needed] at heeds
    rw [heeds.1]
    rcases undisturbed_cases collaborators next live with ⟨_, _, _, _, trace, _⟩ | ⟨_, _, _, _, _, trace, _⟩ <;>
      rw [trace] <;>
      exact .of_needed (calls.trans (by simp [Cancellation.made])) (by simp [Cancellation.remaining, needed]) rfl
  | false =>
    rw [Program.Heeds, if_neg (Bool.eq_false_iff.mp needed)] at heeds
    obtain ⟨result, ends⟩ := heeds
    rw [store_of_not_needed collaborators needed] at store
    refine heeded_of_lost ends live needed _ (by simpa [Cancellation.made] using calls)
      (by simp [Cancellation.remaining]) (by simpa [logged] using store) ?_
    -- If the call has done its work, the cache is as when nobody cancels.
    rw [cache]
    cases worked with
    | false => rfl
    | true =>
      rcases undisturbed_cases collaborators next live with ⟨_, _, served, _, _, ran⟩ | ⟨reply, _, served, _, _, _, ran⟩
      · rw [ran, served]
        rfl
      · obtain ⟨_, again⟩ := (ends reply).exists_run
        rw [ran, again, served]
        rfl

/-- A program whose caller cancels after its first call. -/
theorem heeded_after {request : Call} {next : request.Reply → Program (Except StoreError α)}
    (heeds : (call request next).Heeds) (live : session.cancelled = false) :
    Heeded (.after request) session.calls ((call request next).trace (handler collaborators undisturbed) session)
      ((call request next).run (handler collaborators undisturbed) session)
      ((call request next).run (handler collaborators failing) session)
      ((call request next).run (handler collaborators (Cancellation.after request).fates) session) := by
  have fate : (Cancellation.after request).fates request = .servedLast := if_pos rfl
  have made := handler_live collaborators (Cancellation.after request).fates request live
  rw [fate] at made
  rcases undisturbed_cases collaborators next live with
    ⟨crash, after, served, calls, trace, ran⟩ | ⟨reply, after, served, stillLive, calls, trace, ran⟩
  · simp only [meet, served] at made
    rw [trace, ran, Program.run_call_error made]
    exact .of_complete (by simpa [Cancellation.made] using calls) (by simp [Cancellation.remaining])
      ⟨rfl, rfl, rfl, rfl⟩
  · simp only [meet, served] at made
    rw [trace, ran, Program.run_call_ok made]
    cases needed : request.isNeeded with
    | true =>
      -- The first call is complete, but the next one that is needed is not made any more.
      rw [Program.Heeds, if_pos needed] at heeds
      rw [failing_of_needed next live needed served]
      exact .after calls (heeded_atOnce collaborators (Cancellation.after request).fates (heeds.2 reply) stillLive)
    | false =>
      -- Nothing that is needed comes after the first call, so there is nothing to give up.
      rw [Program.Heeds, if_neg (Bool.eq_false_iff.mp needed)] at heeds
      obtain ⟨result, ends⟩ := heeds
      obtain ⟨events, again⟩ := (ends reply).exists_run
      rw [(ends reply).trace_eq_nil, again, again]
      exact .of_complete (by simpa [Cancellation.made] using calls) (by simp [Cancellation.remaining])
        ⟨rfl, rfl, rfl, rfl⟩

/-- A program whose caller cancels while it is running. -/
theorem heeded_run (collaborators : Collaborators σ τ) {cancellation : Cancellation} (later : cancellation.isAtOnce = false)
    {program : Program (Except StoreError α)} (heeds : program.Heeds) (live : session.cancelled = false)
    (arises : cancellation.Arises (program.trace (handler collaborators undisturbed) session)
      (program.run (handler collaborators undisturbed) session).outcome) :
    Heeded cancellation session.calls (program.trace (handler collaborators undisturbed) session)
      (program.run (handler collaborators undisturbed) session) (program.run (handler collaborators failing) session)
      (program.run (handler collaborators cancellation.fates) session) := by
  induction program generalizing session with
  | done result =>
    exact .of_complete (by rw [Program.trace, cancellation.made_nil]; exact (List.append_nil _).symm)
      cancellation.remaining_nil ⟨rfl, rfl, rfl, rfl⟩
  | note event next inductionHypothesis => exact (inductionHypothesis heeds live arises).note event
  | call request next inductionHypothesis =>
    -- Up to the call at which the caller cancels, the runs are the same.
    by_cases misses : cancellation.Misses request
    · have made : handler collaborators cancellation.fates request session
          = serve collaborators request (session.logged request) :=
        handler_of_served live (Cancellation.fates_of_misses misses)
      rcases undisturbed_cases collaborators next live with
        ⟨crash, after, served, calls, trace, ran⟩ | ⟨reply, after, served, stillLive, calls, trace, ran⟩
      · rw [served] at made
        rw [trace, ran, Program.run_call_error made]
        refine .of_complete ?_ ?_ ⟨rfl, rfl, rfl, rfl⟩
        · rw [Cancellation.made_cons misses, cancellation.made_nil]
          exact calls
        · rw [Cancellation.remaining_cons misses, cancellation.remaining_nil]
      · rw [served] at made
        rw [trace, ran] at arises ⊢
        rw [Program.run_call_ok made]
        apply Heeded.cons misses calls
        cases needed : request.isNeeded with
        | true =>
          rw [Program.Heeds, if_pos needed] at heeds
          rw [failing_of_needed next live needed served]
          exact inductionHypothesis reply (heeds.2 reply) stillLive arises.of_cons
        | false =>
          -- The program ends here, before the caller could cancel.
          rw [Program.Heeds, if_neg (Bool.eq_false_iff.mp needed)] at heeds
          obtain ⟨result, ends⟩ := heeds
          obtain ⟨events, again⟩ := (ends reply).exists_run
          rw [(ends reply).trace_eq_nil, again, again]
          exact .of_complete (by rw [cancellation.made_nil, List.append_nil]) cancellation.remaining_nil
            ⟨rfl, rfl, rfl, rfl⟩
    · cases cancellation with
      | atOnce => cases later
      | during target worked =>
        obtain rfl : request = target := not_not.mp misses
        exact heeded_during worked heeds live arises
      | after target =>
        obtain rfl : request = target := not_not.mp misses
        exact heeded_after heeds live

theorem calls_eq_trace (collaborators : Collaborators σ τ) (program : Program α) (live : session.cancelled = false) :
    (program.run (handler collaborators undisturbed) session).state.calls
      = session.calls ++ program.trace (handler collaborators undisturbed) session := by
  induction program generalizing session with
  | done result => exact (List.append_nil _).symm
  | note event next inductionHypothesis => exact inductionHypothesis live
  | call request next inductionHypothesis =>
    rcases undisturbed_cases collaborators next live with
      ⟨crash, after, _, calls, trace, ran⟩ | ⟨reply, after, _, stillLive, calls, trace, ran⟩
    · rw [trace, ran]
      exact calls
    · rw [trace, ran, inductionHypothesis reply stillLive, calls, List.append_assoc, List.singleton_append]

end Session

/-! ## Operations that are cancelled -/

section Operations

variable {σ τ : Type}

/-- An operation begins with a call that it needs. -/
theorem exists_needed (service : Service) (operation : Operation) :
    ∃ (request : Call) (next : request.Reply → Program (Except StoreError operation.Result)),
      request.isNeeded = true ∧ service.perform operation = .call request next := by
  cases operation with
  | create draft => exact ⟨_, _, rfl, Service.create_eq draft⟩
  | update revision => exact ⟨_, _, rfl, service.update_eq revision⟩
  | get id => exact ⟨_, _, rfl, service.get_eq id⟩
  | delete id => exact ⟨_, _, rfl, service.delete_eq id⟩
  | list page => exact ⟨_, _, rfl, Service.list_eq page⟩
  | search needle page => exact ⟨_, _, rfl, Service.search_eq needle page⟩

/-- An operation that is cancelled while it still needs calls is given up and makes no more of them. Else it returns
what it would have returned if nobody had cancelled, and a call that was cut off or was not made any more has come to
what a call comes to that fails. -/
theorem cancelled_or_undisturbed (collaborators : Collaborators σ τ) (service : Service) (operation : Operation)
    (store : σ) (cache : τ) (cancellation : Cancellation) :
    let undisturbed := Session.run collaborators Session.undisturbed false (service.perform operation) store cache
    let failing := Session.run collaborators Session.failing false (service.perform operation) store cache
    let run := Session.run collaborators cancellation.fates cancellation.isAtOnce (service.perform operation) store cache
    let remaining := cancellation.remaining undisturbed.state.calls
    cancellation.Arises undisturbed.state.calls undisturbed.outcome →
      run.state.calls = cancellation.made undisturbed.state.calls ∧
      (remaining.any Call.isNeeded = true → run.outcome = .ok (.error .cancelled)) ∧
      (remaining.any Call.isNeeded = false →
        (∀ result, undisturbed.outcome = .ok result → run.outcome = .ok result) ∧
        (remaining = [] → Alike run undisturbed undisturbed.state.cache) ∧
        (remaining ≠ [] →
          Alike run failing (if cancellation.worked then undisturbed.state.cache else failing.state.cache))) ∧
      (cancellation = .atOnce → run.outcome = .ok (.error .cancelled) ∧ run.state = ⟨store, cache, true, []⟩) := by
  intro undisturbed failing run remaining arises
  have heeds := service.heeds_perform operation
  have live : (Session.mk store cache false []).cancelled = false := rfl
  have calls := Session.calls_eq_trace collaborators (service.perform operation) live
  rw [List.nil_append] at calls
  -- What is said of any program that heeds its cancellation is said of an operation from its start.
  have heeded : Heeded cancellation [] undisturbed.state.calls undisturbed failing run := by
    simp only [undisturbed, Session.run] at arises ⊢
    rw [calls] at arises ⊢
    cases later : cancellation.isAtOnce with
    | true =>
      obtain rfl : cancellation = .atOnce := by cases cancellation <;> first | rfl | cases later
      exact Session.heeded_atOnce collaborators _ heeds live
    | false =>
      simp only [run, Session.run, later]
      exact Session.heeded_run collaborators later heeds live arises
  refine ⟨heeded.calls, heeded.cancelled, fun notNeeded => ⟨fun result returned => ?_, heeded.complete, fun something =>
    (heeded.spared something notNeeded).1⟩, ?_⟩
  · by_cases nothing : remaining = []
    · rw [(heeded.complete nothing).outcome, returned]
    · exact (heeded.spared nothing notNeeded).2 result returned
  · -- The first call that the operation needs is answered with the cancellation.
    rintro rfl
    obtain ⟨request, next, needed, same⟩ := exists_needed service operation
    rw [same, Program.Heeds, if_pos needed] at heeds
    have ran : run = (next (.error request.cancelled)).run (Session.handler collaborators Cancellation.atOnce.fates)
        ⟨store, cache, true, []⟩ := by
      simp only [run, Session.run, same]
      rfl
    rw [ran, heeds.1]
    exact ⟨rfl, rfl⟩

end Operations

def atTheShelf (fates : (call : Call) → Fate call) (operation : Operation) :
    Program.Run (Except StoreError operation.Result) (Session MemoryStore LruCache) :=
  Session.run (servers .memory ⟨⟨1700000000000000000⟩, 8⟩ ⟨5⟩) fates false (forAWeek.perform operation) aShelf roomForOne

def whenCached : Cancellation := .during (.cache (.set (forAWeek.key ⟨7⟩) onTheShelf.toCached forAWeek.ttl)) true

/-- A look-up that is cancelled when the article has just been cached, and a listing that is cancelled when the
articles have been counted. -/
theorem cancelled_or_undisturbed_of_aShelf :
    whenCached.Arises (atTheShelf Session.undisturbed (.get ⟨7⟩)).state.calls
        (atTheShelf Session.undisturbed (.get ⟨7⟩)).outcome ∧
      (atTheShelf whenCached.fates (.get ⟨7⟩)).outcome = .ok (.ok onTheShelf) ∧
      (Cancellation.after (.store .count)).Arises (atTheShelf Session.undisturbed (.list .first)).state.calls
        (atTheShelf Session.undisturbed (.list .first)).outcome ∧
      (atTheShelf (Cancellation.after (.store .count)).fates (.list .first)).outcome = .ok (.error .cancelled) ∧
      (atTheShelf (Cancellation.after (.store .count)).fates (.list .first)).state.calls = [.store .count] := by
  have looked : (atTheShelf Session.undisturbed (.get ⟨7⟩)).outcome = .ok (.ok onTheShelf) := rfl
  have calls : (atTheShelf Session.undisturbed (.get ⟨7⟩)).state.calls = [.cache (.get (forAWeek.key ⟨7⟩)),
      .store (.get ⟨7⟩), .cache (.set (forAWeek.key ⟨7⟩) onTheShelf.toCached forAWeek.ttl)] := rfl
  have lookArises : whenCached.Arises (atTheShelf Session.undisturbed (.get ⟨7⟩)).state.calls
      (atTheShelf Session.undisturbed (.get ⟨7⟩)).outcome := fun _ _ _ => ⟨_, looked⟩
  have listArises : (Cancellation.after (.store .count)).Arises
      (atTheShelf Session.undisturbed (.list .first)).state.calls
      (atTheShelf Session.undisturbed (.list .first)).outcome := fun _ during => nomatch during
  obtain ⟨_, _, spared, _⟩ := cancelled_or_undisturbed (servers .memory ⟨⟨1700000000000000000⟩, 8⟩ ⟨5⟩) forAWeek
    (.get ⟨7⟩) aShelf roomForOne whenCached lookArises
  obtain ⟨made, cancelled, _, _⟩ := cancelled_or_undisturbed (servers .memory ⟨⟨1700000000000000000⟩, 8⟩ ⟨5⟩) forAWeek
    (.list .first) aShelf roomForOne (.after (.store .count)) listArises
  refine ⟨lookArises, (spared ?_).1 _ looked, listArises, cancelled rfl, made⟩
  -- All that is left of the look-up is to cache the article.
  show (whenCached.remaining (atTheShelf Session.undisturbed (.get ⟨7⟩)).state.calls).any Call.isNeeded = false
  rw [calls]
  simp [whenCached, Cancellation.remaining, Call.isNeeded]

end Gazette
