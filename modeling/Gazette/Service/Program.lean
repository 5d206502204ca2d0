import Gazette.Cache.Request
import Gazette.Store.Request

/-!
# Programs over a store and a cache

* A `Call` is a request to the store or to the cache.
* A `Program` makes calls, one after another, and notes events. What it does next may depend on every reply.
* `Program.run` runs a program against a handler of calls.
-/

namespace Gazette

/-! ## Calls -/

inductive Call
  | store (request : StoreRequest)
  | cache (request : CacheRequest)
  deriving DecidableEq, Repr

namespace Call

abbrev Error : Call → Type
  | store _ => StoreError
  | cache _ => CacheError

abbrev Answer : Call → Type
  | store request => request.Answer
  | cache request => request.Answer

abbrev Reply (call : Call) : Type := Except call.Error call.Answer

def cancelled : (call : Call) → call.Error
  | store _ => StoreError.cancelled
  | cache _ => CacheError.cancelled

end Call

/-! ## Events -/

inductive Level
  | trace
  | debug
  | warn
  deriving DecidableEq, Repr

structure Event where
  level : Level
  message : String
  details : List (String × String)
  deriving DecidableEq, Repr

/-! ## Programs -/

inductive Program (α : Type) : Type
  | done (result : α)
  | note (event : Event) (next : Program α)
  | call (call : Call) (next : call.Reply → Program α)

namespace Program

variable {α β σ : Type}

def bind : Program α → (α → Program β) → Program β
  | done result, next => next result
  | note event rest, next => note event (rest.bind next)
  | call request rest, next => call request fun reply => (rest reply).bind next

instance : Monad Program where
  pure := done
  bind := bind

def askStore (request : StoreRequest) : Program (Except StoreError request.Answer) :=
  call (.store request) done

def askCache (request : CacheRequest) : Program (Except CacheError request.Answer) :=
  call (.cache request) done

def tell (level : Level) (message : String) (details : List (String × String)) : Program Unit :=
  note ⟨level, message, details⟩ (done ())

/-- How calls are replied to, and what state they leave. A call may also end the program. -/
abbrev Handler (σ : Type) := (call : Call) → σ → Except Crash call.Reply × σ

structure Run (α σ : Type) where
  outcome : Except Crash α
  state : σ
  events : List Event

def run (handler : Handler σ) : Program α → σ → Run α σ
  | done result, state => ⟨.ok result, state, []⟩
  | note event next, state =>
    let rest := next.run handler state
    { rest with events := event :: rest.events }
  | call request next, state =>
    match handler request state with
    | (.ok reply, state) => (next reply).run handler state
    | (.error crash, state) => ⟨.error crash, state, []⟩

end Program

end Gazette
