import Gazette.Cache.Error
import Gazette.Text.Utf8
import Gazette.Time.Clock

/-!
# Requests to a cache

* `CacheRequest` is what a cache can be asked for, and `CacheRequest.Answer` what it answers.
* `CacheBackend` is a cache as a transition of its states.
-/

namespace Gazette

inductive CacheRequest
  | get (key : String)
  | set (key : String) (value : Bytes) (ttl : Duration)
  | delete (key : String)
  deriving DecidableEq, Repr

abbrev CacheRequest.Answer : CacheRequest → Type
  | get _ => Option Bytes
  | set _ _ _ => Unit
  | delete _ => Unit

abbrev CacheOutcome (α : Type) := Except Crash (Except CacheError α)

/-- A cache: how it answers a request at a time, and its state afterwards. -/
abbrev CacheBackend (σ : Type) := Instant → (request : CacheRequest) → σ → CacheOutcome request.Answer × σ

end Gazette
