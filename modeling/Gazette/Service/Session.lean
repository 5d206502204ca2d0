import Gazette.Service.Operation

/-!
# Sessions

* A `Session` is a store and a cache that operations work on, with the calls that have reached them and whether the
  caller has cancelled.
* `Fate` is what becomes of a call: it may be served, fail, or be cut off when the caller cancels.
* `Session.handler` replies to calls as their fates have it. After the caller has cancelled no call is made.
-/

namespace Gazette

inductive Fate (call : Call)
  /-- The call does its work and returns. -/
  | served
  /-- The call returns an error without doing its work. -/
  | failed (error : call.Error)
  /-- The caller cancels before the call returns, and it has done its work by then or has not. -/
  | cutOff (worked : Bool)
  /-- The call does its work and returns, and the caller cancels. -/
  | servedLast

/-- How the collaborators of operations answer, at the time it is. -/
structure Collaborators (σ τ : Type) where
  store : StoreBackend σ
  cache : CacheBackend τ
  surroundings : Surroundings
  now : Instant

structure Session (σ τ : Type) where
  store : σ
  cache : τ
  cancelled : Bool
  /-- The calls that have reached the store and the cache, the first one first. -/
  calls : List Call

namespace Session

variable {σ τ : Type}

def serve (collaborators : Collaborators σ τ) : Program.Handler (Session σ τ) := fun call session =>
  match call with
  | .store request =>
    let (outcome, store) := collaborators.store collaborators.surroundings request session.store
    (outcome, { session with store })
  | .cache request =>
    let (outcome, cache) := collaborators.cache collaborators.now request session.cache
    (outcome, { session with cache })

def meet (collaborators : Collaborators σ τ) (call : Call) (fate : Fate call) (session : Session σ τ) :
    Except Crash call.Reply × Session σ τ :=
  match fate with
  | .served => serve collaborators call session
  | .failed error => (.ok (.error error), session)
  | .cutOff false => (.ok (.error call.cancelled), { session with cancelled := true })
  | .cutOff true =>
    match serve collaborators call session with
    | (.error crash, session) => (.error crash, session)
    | (.ok _, session) => (.ok (.error call.cancelled), { session with cancelled := true })
  | .servedLast =>
    match serve collaborators call session with
    | (.error crash, session) => (.error crash, session)
    | (.ok reply, session) => (.ok reply, { session with cancelled := true })

def handler (collaborators : Collaborators σ τ) (fates : (call : Call) → Fate call) :
    Program.Handler (Session σ τ) := fun call session =>
  if session.cancelled then (.ok (.error call.cancelled), session)
  else meet collaborators call (fates call) { session with calls := session.calls ++ [call] }

def undisturbed (call : Call) : Fate call := .served

def run {α : Type} (collaborators : Collaborators σ τ) (fates : (call : Call) → Fate call)
    (cancelled : Bool) (program : Program α) (store : σ) (cache : τ) : Program.Run α (Session σ τ) :=
  program.run (handler collaborators fates) ⟨store, cache, cancelled, []⟩

end Session

end Gazette
