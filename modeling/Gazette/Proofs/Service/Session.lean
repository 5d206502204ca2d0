import Gazette.Proofs.Service.Operation

/-!
# Calls in a session

What comes of a program that makes a call, by the fate of the call, while the caller has not cancelled.
-/

namespace Gazette.Session

open Program (call)

variable {α σ τ : Type} {collaborators : Collaborators σ τ} {fates : (call : Call) → Fate call}
  {session : Session σ τ}

def logged (session : Session σ τ) (request : Call) : Session σ τ :=
  { session with calls := session.calls ++ [request] }

def stored (session : Session σ τ) (request : StoreRequest) (store : σ) : Session σ τ :=
  { session.logged (.store request) with store }

def cached (session : Session σ τ) (request : CacheRequest) (cache : τ) : Session σ τ :=
  { session.logged (.cache request) with cache }

theorem live_logged (live : session.cancelled = false) (request : Call) : (session.logged request).cancelled = false :=
  live

theorem live_stored (live : session.cancelled = false) (request : StoreRequest) (store : σ) :
    (session.stored request store).cancelled = false := live

theorem live_cached (live : session.cancelled = false) (request : CacheRequest) (cache : τ) :
    (session.cached request cache).cancelled = false := live

theorem served_undisturbed (request : Call) : undisturbed request = .served := rfl

theorem handler_live (collaborators : Collaborators σ τ) (fates : (call : Call) → Fate call) (request : Call)
    (live : session.cancelled = false) :
    handler collaborators fates request session =
      meet collaborators request (fates request) (session.logged request) := by
  simp only [handler, live, Bool.false_eq_true, if_false, logged]

/-- What comes of a call has nothing to do with the calls before it. -/
theorem exists_handler_calls (collaborators : Collaborators σ τ) (fates : (call : Call) → Fate call) (request : Call)
    (session : Session σ τ) (calls : List Call) :
    ∃ later, handler collaborators fates request { session with calls } =
      ((handler collaborators fates request session).1,
        { (handler collaborators fates request session).2 with calls := later }) := by
  obtain ⟨store, cache, cancelled, before⟩ := session
  cases cancelled with
  | true => exact ⟨calls, rfl⟩
  | false =>
    refine ⟨calls ++ [request], ?_⟩
    rw [handler_live _ _ _ rfl, handler_live _ _ _ rfl]
    match request, fates request with
    | .store _, .served | .cache _, .served | _, .failed _ | _, .cutOff false => rfl
    -- Whether the caller cancels then depends on whether the program has ended.
    | .store request, .cutOff true | .store request, .servedLast =>
      simp only [meet, serve, logged]
      cases (collaborators.store collaborators.surroundings request store).1 <;> rfl
    | .cache request, .cutOff true | .cache request, .servedLast =>
      simp only [meet, serve, logged]
      cases (collaborators.cache collaborators.now request cache).1 <;> rfl

theorem final_served {request : Call} {next : request.Reply → Program α} (live : session.cancelled = false)
    (served : fates request = .served) :
    (call request next).final (handler collaborators fates) session =
      match serve collaborators request (session.logged request) with
      | (.ok reply, after) => (next reply).final (handler collaborators fates) after
      | (.error crash, after) => (.error crash, after) := by
  have made := handler_live collaborators fates request live
  rw [served, meet] at made
  cases answered : serve collaborators request (session.logged request) with
  | mk outcome after =>
    rw [answered] at made
    cases outcome with
    | ok reply => exact Program.final_call_ok made
    | error crash => exact Program.final_call_error made

theorem serve_store (request : StoreRequest) :
    serve collaborators (.store request) (session.logged (.store request)) =
      ((collaborators.store collaborators.surroundings request session.store).1,
        session.stored request (collaborators.store collaborators.surroundings request session.store).2) := rfl

theorem serve_cache (request : CacheRequest) :
    serve collaborators (.cache request) (session.logged (.cache request)) =
      ((collaborators.cache collaborators.now request session.cache).1,
        session.cached request (collaborators.cache collaborators.now request session.cache).2) := rfl

theorem final_store {request : StoreRequest} {next : Except StoreError request.Answer → Program α}
    (live : session.cancelled = false) (served : fates (.store request) = .served) :
    (call (.store request) next).final (handler collaborators fates) session =
      match collaborators.store collaborators.surroundings request session.store with
      | (.ok reply, store) => (next reply).final (handler collaborators fates) (session.stored request store)
      | (.error crash, store) => (.error crash, session.stored request store) := by
  rw [final_served live served, serve_store]
  cases collaborators.store collaborators.surroundings request session.store with
  | mk outcome store => cases outcome <;> rfl

theorem final_cache {request : CacheRequest} {next : Except CacheError request.Answer → Program α}
    (live : session.cancelled = false) (served : fates (.cache request) = .served) :
    (call (.cache request) next).final (handler collaborators fates) session =
      match collaborators.cache collaborators.now request session.cache with
      | (.ok reply, cache) => (next reply).final (handler collaborators fates) (session.cached request cache)
      | (.error crash, cache) => (.error crash, session.cached request cache) := by
  rw [final_served live served, serve_cache]
  cases collaborators.cache collaborators.now request session.cache with
  | mk outcome cache => cases outcome <;> rfl

/-- A call that fails without doing its work. -/
theorem final_failed {request : Call} {next : request.Reply → Program α} {error : request.Error}
    (live : session.cancelled = false) (failed : fates request = .failed error) :
    (call request next).final (handler collaborators fates) session =
      (next (.error error)).final (handler collaborators fates) (session.logged request) := by
  apply Program.final_call_ok
  rw [handler_live collaborators fates request live, failed]
  rfl

/-! ## Calls of any fate -/

/-- Whatever becomes of a call, it is served or is not, and an answer is that of the server. -/
theorem handler_cases (collaborators : Collaborators σ τ) (fates : (call : Call) → Fate call) (request : Call)
    (session : Session σ τ) :
    ((handler collaborators fates request session).2.store = session.store ∧
        (handler collaborators fates request session).2.cache = session.cache ∧
        ∃ error, (handler collaborators fates request session).1 = .ok (.error error)) ∨
      ((handler collaborators fates request session).2.store = (serve collaborators request session).2.store ∧
        (handler collaborators fates request session).2.cache = (serve collaborators request session).2.cache ∧
        ((handler collaborators fates request session).1 = (serve collaborators request session).1 ∨
          ∃ error, (handler collaborators fates request session).1 = .ok (.error error))) := by
  cases cancelled : session.cancelled with
  | true =>
    -- A caller who has cancelled is told so, and nothing is asked.
    left
    rw [handler, if_pos cancelled]
    exact ⟨rfl, rfl, request.cancelled, rfl⟩
  | false =>
    -- What the server does has nothing to do with the list of calls.
    have logged : (serve collaborators request (session.logged request)).1 = (serve collaborators request session).1 ∧
        (serve collaborators request (session.logged request)).2.store = (serve collaborators request session).2.store ∧
        (serve collaborators request (session.logged request)).2.cache =
          (serve collaborators request session).2.cache := by
      cases request <;> exact ⟨rfl, rfl, rfl⟩
    rw [handler_live collaborators fates request cancelled]
    cases fates request with
    | served => exact .inr ⟨logged.2.1, logged.2.2, .inl logged.1⟩
    | failed error => exact .inl ⟨rfl, rfl, error, rfl⟩
    | cutOff worked =>
      cases worked with
      | false => exact .inl ⟨rfl, rfl, _, rfl⟩
      | true =>
        right
        cases answered : serve collaborators request (session.logged request) with
        | mk outcome after =>
          rw [answered] at logged
          cases outcome with
          | error crash =>
            simp only [meet, answered]
            exact ⟨logged.2.1, logged.2.2, .inl logged.1⟩
          | ok reply =>
            simp only [meet, answered]
            exact ⟨logged.2.1, logged.2.2, .inr ⟨_, rfl⟩⟩
    | servedLast =>
      right
      cases answered : serve collaborators request (session.logged request) with
      | mk outcome after =>
        rw [answered] at logged
        cases outcome with
        | error crash =>
          simp only [meet, answered]
          exact ⟨logged.2.1, logged.2.2, .inl logged.1⟩
        | ok reply =>
          simp only [meet, answered]
          exact ⟨logged.2.1, logged.2.2, .inl logged.1⟩

/-- An answer is that of the server. -/
theorem handler_answer {request : Call} {answer : request.Answer}
    (replied : (handler collaborators fates request session).1 = .ok (.ok answer)) :
    (serve collaborators request session).1 = .ok (.ok answer) := by
  rcases handler_cases collaborators fates request session with ⟨_, _, error, failed⟩ | ⟨_, _, served | ⟨error, failed⟩⟩
  · rw [failed] at replied
    cases replied
  · exact served.symm.trans replied
  · rw [failed] at replied
    cases replied

end Gazette.Session
