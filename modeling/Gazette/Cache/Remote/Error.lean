import Gazette.Cache.Error

/-!
# What can go wrong with a remote cache

`RemoteError` has what the connection to a cache server may report, and `RemoteError.toCacheError` tells whether the
connection failed or only the operation.
-/

namespace Gazette

inductive TransportFault
  | refused
  | notFound
  | timedOut
  | wouldBlock
  | brokenPipe
  | reset
  | unexpectedEnd
  | other
  deriving DecidableEq, Repr

inductive RemoteError
  | transport (fault : TransportFault) (text : String)
  /-- An error of a known kind, which may come with a detail. -/
  | reported (kind description : String) (detail : Option String)
  /-- An error with a code of the server's own. -/
  | coded (code detail : String)
  deriving DecidableEq, Repr

namespace RemoteError

def message : RemoteError → String
  | transport _ text => text
  | reported kind description none => s!"{description}- {kind}"
  | reported kind description (some detail) => s!"{description} - {kind}: {detail}"
  | coded code detail => s!"{code}: {detail}"

def isConnectionFault : RemoteError → Bool
  | transport .other _ => false
  | transport _ _ => true
  | reported _ _ _ => false
  | coded _ _ => false

def toCacheError (error : RemoteError) : CacheError :=
  if error.isConnectionFault then .connectionFailed error.message else .operationFailed error.message

def knownCodes : List (String × String) :=
  [("ERR", "ResponseError"), ("EXECABORT", "ExecAbortError"), ("LOADING", "BusyLoadingError"),
    ("NOSCRIPT", "NoScriptError"), ("MOVED", "Moved"), ("ASK", "Ask"), ("TRYAGAIN", "TryAgain"),
    ("CLUSTERDOWN", "ClusterDown"), ("CROSSSLOT", "CrossSlot"), ("MASTERDOWN", "MasterDown"),
    ("READONLY", "ReadOnly"), ("NOTBUSY", "NotBusy"), ("NOSUB", "NoSub")]

def splitCode : List Char → List Char × Option (List Char)
  | [] => ([], none)
  | c :: rest =>
    if c = ' ' then ([], some rest)
    else
      let (code, detail) := splitCode rest
      (c :: code, detail)

/-- The error that a line of a server stands for: a code, and perhaps a detail after a space. -/
def ofLine (line : String) : RemoteError :=
  let (code, detail) := splitCode line.toList
  let code := String.ofList code
  let detail := detail.map String.ofList
  match knownCodes.lookup code with
  | some kind => .reported kind "An error was signalled by the server" detail
  | none => .coded code (detail.getD "Unknown extension error encountered")

end RemoteError

end Gazette
