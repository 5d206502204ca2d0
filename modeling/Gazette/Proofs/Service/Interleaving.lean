import Gazette.Proofs.Service.Turn

/-!
# Interleaved operations

* A `Thread` is an operation on its way: what it still has to do begins with its next call.
* A `Pool` has threads that work on one store and one cache. In a step one of them makes its next call, which is
  served, and goes on to the call after it.
* `Pool.run` lets the threads of a schedule make their calls, each at its own time, and tells which calls were made.

A step that the program does not survive is no step.
-/

namespace Gazette

open Program (call note done)

def Program.settled {α : Type} : Program α → Program α
  | .note _ next => next.settled
  | program => program

structure Thread where
  operation : Operation
  rest : Program (Except StoreError operation.Result)

structure Act where
  thread : Nat
  call : Call
  deriving DecidableEq, Repr

structure Tick where
  thread : Nat
  surroundings : Surroundings
  now : Instant
  deriving DecidableEq, Repr

structure Pool (kind : StoreKind) where
  threads : List Thread
  system : System kind

namespace Thread

variable {kind : StoreKind}

def start (service : Service) (operation : Operation) : Thread := ⟨operation, (service.perform operation).settled⟩

def hasReturned (thread : Thread) : Bool :=
  match thread.rest with
  | .done _ => true
  | _ => false

def advance (world : Surroundings) (now : Instant) (thread : Thread) (system : System kind) :
    Option (Call × Thread × System kind) :=
  match thread.rest with
  | .call request next =>
    match Session.serve (servers kind world now) request ⟨system.store, system.cache, false, []⟩ with
    | (.ok reply, after) => some (request, ⟨thread.operation, (next reply).settled⟩, ⟨after.store, after.cache⟩)
    | (.error _, _) => none
  | _ => none

/-- A thread that returns after no more calls than so many, whatever the store and the cache have come to hold at each
of them. No value must be cached for longer than the clock can tell. -/
def Finishes (kind : StoreKind) (ttl : Duration) : Nat → Thread → Prop
  | 0, thread => thread.hasReturned
  | most + 1, thread => thread.hasReturned ∨ ∀ (world : Surroundings) (now : Instant) (system : System kind),
      (now.after? ttl).isSome → ∃ made next after,
        thread.advance world now system = some (made, next, after) ∧ next.Finishes kind ttl most

end Thread

namespace Pool

variable {kind : StoreKind}

def step (tick : Tick) (pool : Pool kind) : Option (Act × Pool kind) := do
  let thread ← pool.threads[tick.thread]?
  let (request, thread, system) ← thread.advance tick.surroundings tick.now pool.system
  return (⟨tick.thread, request⟩, ⟨pool.threads.set tick.thread thread, system⟩)

def run : List Tick → Pool kind → Option (List Act × Pool kind)
  | [], pool => some ([], pool)
  | tick :: schedule, pool => do
    let (act, pool) ← pool.step tick
    let (acts, pool) ← run schedule pool
    return (act :: acts, pool)

end Pool

/-! ## Steps -/

variable {kind : StoreKind} {service : Service} {world : Surroundings} {now : Instant} {operation : Operation}
  {system : System kind}

theorem Pool.step_eq_some {tick : Tick} {pool after : Pool kind} {act : Act} : pool.step tick = some (act, after) ↔
    ∃ thread request next system, pool.threads[tick.thread]? = some thread ∧
      thread.advance tick.surroundings tick.now pool.system = some (request, next, system) ∧
      act = ⟨tick.thread, request⟩ ∧ after = ⟨pool.threads.set tick.thread next, system⟩ := by
  simp only [step, Option.bind_eq_bind, Option.bind_eq_some_iff, Option.pure_def, Option.some.injEq, Prod.mk.injEq,
    Prod.exists]
  constructor
  · rintro ⟨thread, there, request, next, system, advanced, rfl, rfl⟩
    exact ⟨thread, request, next, system, there, advanced, rfl, rfl⟩
  · rintro ⟨thread, request, next, system, there, advanced, rfl, rfl⟩
    exact ⟨thread, there, request, next, system, advanced, rfl, rfl⟩

theorem Pool.run_cons_eq_some {tick : Tick} {schedule : List Tick} {pool after : Pool kind} {acts : List Act} :
    pool.run (tick :: schedule) = some (acts, after) ↔
      ∃ act middle later, pool.step tick = some (act, middle) ∧ middle.run schedule = some (later, after) ∧
        acts = act :: later := by
  simp only [run, Option.bind_eq_bind, Option.bind_eq_some_iff, Option.pure_def, Option.some.injEq, Prod.mk.injEq,
    Prod.exists]
  constructor
  · rintro ⟨act, middle, stepped, later, last, ran, rfl, rfl⟩
    exact ⟨act, middle, later, stepped, ran, rfl⟩
  · rintro ⟨act, middle, later, stepped, ran, rfl⟩
    exact ⟨act, middle, stepped, later, after, ran, rfl, rfl⟩

/-- What each step preserves, which may depend on the calls that were made before, is preserved by a run. -/
theorem Pool.invariant_run_from (invariant : List Act → Pool kind → Prop)
    (preserved : ∀ past tick pool act after, invariant past pool → pool.step tick = some (act, after) →
      invariant (past ++ [act]) after)
    {schedule : List Tick} (past : List Act) {acts : List Act} {pool after : Pool kind} (start : invariant past pool)
    (ran : pool.run schedule = some (acts, after)) : invariant (past ++ acts) after := by
  induction schedule generalizing past acts pool with
  | nil =>
    cases ran
    rw [List.append_nil]
    exact start
  | cons tick schedule inductionHypothesis =>
    obtain ⟨act, middle, later, stepped, rest, rfl⟩ := run_cons_eq_some.mp ran
    -- The calls of the rest are made in the presence of the first one.
    have whole := inductionHypothesis (past ++ [act]) (preserved past tick pool act middle start stepped) rest
    rw [List.append_assoc, List.singleton_append] at whole
    exact whole

theorem Pool.invariant_run (invariant : List Act → Pool kind → Prop)
    (preserved : ∀ past tick pool act after, invariant past pool → pool.step tick = some (act, after) →
      invariant (past ++ [act]) after)
    {schedule : List Tick} {acts : List Act} {pool after : Pool kind} (start : invariant [] pool)
    (ran : pool.run schedule = some (acts, after)) : invariant acts after :=
  invariant_run_from invariant preserved [] start ran

/-! ## Calls -/

theorem Thread.Finishes.mono {thread : Thread} {ttl : Duration} {most : Nat}
    (finishes : thread.Finishes kind ttl most) : thread.Finishes kind ttl (most + 1) := by
  induction most generalizing thread with
  | zero => exact .inl finishes
  | succ most inductionHypothesis =>
    rcases finishes with returned | goesOn
    · exact .inl returned
    · refine .inr fun world now system reached => ?_
      obtain ⟨made, next, after, advanced, finishes⟩ := goesOn world now system reached
      exact ⟨made, next, after, advanced, inductionHypothesis finishes⟩

theorem Thread.not_advance {thread next : Thread} {made : Call} {after : System kind} (returned : thread.hasReturned)
    (advanced : thread.advance world now system = some (made, next, after)) : False := by
  simp only [hasReturned] at returned
  simp only [advance] at advanced
  split at returned
  · rename_i result returns
    rw [returns] at advanced
    cases advanced
  · cases returned

theorem Thread.advance_cache_of_served {request : CacheRequest}
    {next : Except CacheError request.Answer → Program (Except StoreError operation.Result)}
    {reply : Except CacheError request.Answer} {cache : LruCache} (world : Surroundings)
    (answered : LruCache.backend now request system.cache = (.ok reply, cache)) :
    (⟨operation, call (.cache request) next⟩ : Thread).advance world now system
      = some (.cache request, ⟨operation, (next reply).settled⟩, ⟨system.store, cache⟩) := by
  simp only [advance, Session.serve, servers, answered]

theorem Thread.advance_store_of_served {request : StoreRequest}
    {next : Except StoreError request.Answer → Program (Except StoreError operation.Result)}
    {reply : Except StoreError request.Answer} {store : kind.State} (now : Instant)
    (answered : kind.backend world request system.store = (.ok reply, store)) :
    (⟨operation, call (.store request) next⟩ : Thread).advance world now system
      = some (.store request, ⟨operation, (next reply).settled⟩, ⟨store, system.cache⟩) := by
  simp only [advance, Session.serve, servers, answered]

theorem Thread.advance_cache {request : CacheRequest}
    {next : Except CacheError request.Answer → Program (Except StoreError operation.Result)} {made : Call}
    {thread : Thread} {after : System kind}
    (advanced : (⟨operation, call (.cache request) next⟩ : Thread).advance world now system
      = some (made, thread, after)) :
    ∃ reply, LruCache.backend now request system.cache = (.ok reply, after.cache) ∧ after.store = system.store ∧
      made = .cache request ∧ thread = ⟨operation, (next reply).settled⟩ := by
  simp only [advance, Session.serve, servers] at advanced
  cases answered : LruCache.backend now request system.cache with
  | mk outcome cache =>
    rw [answered] at advanced
    cases outcome with
    | error crash => cases advanced
    | ok reply =>
      cases advanced
      exact ⟨reply, rfl, rfl, rfl, rfl⟩

theorem Thread.advance_store {request : StoreRequest}
    {next : Except StoreError request.Answer → Program (Except StoreError operation.Result)} {made : Call}
    {thread : Thread} {after : System kind}
    (advanced : (⟨operation, call (.store request) next⟩ : Thread).advance world now system
      = some (made, thread, after)) :
    ∃ reply, kind.backend world request system.store = (.ok reply, after.store) ∧ after.cache = system.cache ∧
      made = .store request ∧ thread = ⟨operation, (next reply).settled⟩ := by
  simp only [advance, Session.serve, servers] at advanced
  cases answered : kind.backend world request system.store with
  | mk outcome store =>
    rw [answered] at advanced
    cases outcome with
    | error crash => cases advanced
    | ok reply =>
      cases advanced
      exact ⟨reply, rfl, rfl, rfl, rfl⟩

end Gazette
