import Gazette.Cache.Remote.Error
import Gazette.Cache.Request
import Gazette.Text.Digits
import Gazette.Text.Quoted

/-!
# Talking to a cache server

* `ServerCommand` is what is sent to a server, as words of octets, and `ServerReply` what it sends back.
* `CacheRequest.command` is the command for a request, if its span has seconds that a word can count, and
  `CacheRequest.answer` what the reply to it means.
-/

namespace Gazette

inductive ServerCommand
  | get (key : Bytes)
  | setFor (key : Bytes) (seconds : UInt64) (value : Bytes)
  | delete (key : Bytes)
  deriving DecidableEq, Repr

inductive ServerReply
  | nothing
  | octets (value : Bytes)
  | integer (value : Int)
  | status (text : String)
  | error (line : String)
  deriving DecidableEq, Repr

def commandWord (text : String) : Bytes := Utf8.encode text

def ServerCommand.words : ServerCommand → List Bytes
  | get key => [commandWord "GET", key]
  | setFor key seconds value =>
    [commandWord "SETEX", key, commandWord (String.ofList (decimal seconds.toNat)), value]
  | delete key => [commandWord "DEL", key]

/-- The whole seconds for which a server keeps a value: a span is rounded up, and is one second at least. -/
def Duration.wholeSeconds (span : Duration) : Except Crash UInt64 :=
  if 0 < span.nanos then
    if span.seconds.toNat + 1 < UInt64.size then .ok (span.seconds + 1) else .error .sumOverflow
  else if span.seconds = 0 then .ok 1
  else .ok span.seconds

namespace CacheRequest

def command : CacheRequest → Except Crash ServerCommand
  | get key => .ok (.get (Utf8.encode key))
  | set key value ttl => ttl.wholeSeconds.map fun seconds => .setFor (Utf8.encode key) seconds value
  | delete key => .ok (.delete (Utf8.encode key))

def notValue (reply : String) : RemoteError :=
  .reported "TypeError" "Response was of incompatible type"
    (some s!"\"Response type not vector compatible.\" (response was {reply})")

def statusText (status : String) : String :=
  if status = "OK" then "ok" else s!"simple-string({Quoted.quote status})"

/-- What a reply means for a request. Only a look-up needs a reply of a certain kind. -/
def answerOf : (request : CacheRequest) → ServerReply → Except RemoteError request.Answer
  | get _, .nothing => .ok none
  | get _, .octets value => .ok (some value)
  | get _, .error line => .error (.ofLine line)
  | get _, .integer value => .error (notValue s!"int({value})")
  | get _, .status text => .error (notValue (statusText text))
  | set _ _ _, .error line => .error (.ofLine line)
  | set _ _ _, _ => .ok ()
  | delete _, .error line => .error (.ofLine line)
  | delete _, _ => .ok ()

def answer (request : CacheRequest) (reply : ServerReply) : Except CacheError request.Answer :=
  (request.answerOf reply).mapError RemoteError.toCacheError

end CacheRequest

end Gazette
