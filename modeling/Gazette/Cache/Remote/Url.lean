import Gazette.Cache.Remote.Error
import Gazette.Cache.Remote.Host
import Gazette.Cache.Remote.Path
import Gazette.Text.Percent

/-!
# Addresses of cache servers

* `ServerUrl` is a URL taken apart, and `ServerUrl.parse?` takes it apart.
* `ServerUrl.check` tells whether a cache server can be reached by it, before any connection is tried. A usable one
  names a host, perhaps with credentials and a port, and as path nothing or the number of a database; or it names a
  file.
-/

namespace Gazette

structure Authority where
  username : List Char
  password : List Char
  host : List Char
  deriving DecidableEq, Repr

structure ServerUrl where
  scheme : String
  /-- What stands after two slashes. -/
  authority : Option Authority
  path : List Char
  query : List (Bytes × Bytes)
  deriving DecidableEq, Repr

namespace ServerUrl

open Percent (splitAtFirst)

/-! ## Parts of a URL -/

def isSchemeChar (c : Char) : Bool := c.isAlphanum || c = '+' || c = '-' || c = '.'

def splitScheme? (text : List Char) : Option (String × List Char) :=
  match splitAtFirst (fun c => !isSchemeChar c) text with
  | (c :: name, ':' :: rest) =>
    if c.isAlpha then some (String.ofList ((c :: name).map Char.toLower), rest) else none
  | _ => none

def trim (text : List Char) : List Char :=
  let isEdge (c : Char) : Bool := c.toNat ≤ 0x20
  (((text.dropWhile isEdge).reverse.dropWhile isEdge).reverse).filter fun c =>
    c ≠ '\t' ∧ c ≠ '\n' ∧ c ≠ '\r'

def splitCredentials (authority : List Char) : Option (List Char) × List Char :=
  let (address, before) := splitAtFirst (· = '@') authority.reverse
  match before with
  | [] => (none, authority)
  | _ :: credentials => (some credentials.reverse, address.reverse)

def splitPort (address : List Char) : List Char × Option (List Char) :=
  let (bracketed, rest) :=
    match address with
    | '[' :: _ => splitAtFirst (· = ']') address
    | _ => ([], address)
  let (host, port) := splitAtFirst (· = ':') rest
  (bracketed ++ host,
    match port with
    | [] => none
    | _ :: port => some port)

def isPort (port : List Char) : Bool :=
  port.isEmpty || (natural? port).any fun n => n < UInt16.size

/-- Takes an authority apart, if nothing in it is wrong, with what a backslash after the port cuts off. Only one
without credentials and port may lack a host, and an at sign at its front only if it ends the URL. -/
def parseAuthority? (text : List Char) (endsUrl : Bool) : Option (Authority × List Char) :=
  let (credentials, address) := splitCredentials text
  let (host, port) := splitPort address
  let (port, beyond) :=
    match port with
    | none => (none, [])
    | some port =>
      let (port, beyond) := splitAtFirst (· = '\\') port
      (some port, beyond)
  let (username, password) := splitAtFirst (· = ':') (credentials.getD [])
  let authority : Authority := ⟨username, password.drop 1, host⟩
  let mayLackHost : Bool :=
    port.isNone && authority.username.isEmpty && authority.password.isEmpty
      && (endsUrl || credentials != some [])
  if isHost host && port.all isPort && (mayLackHost || !host.isEmpty) then some (authority, beyond) else none

def parse? (url : String) : Option ServerUrl := do
  let (scheme, text) ← splitScheme? (trim url.toList)
  let (text, fragment) := splitAtFirst (· = '#') text
  let (text, query) := splitAtFirst (· = '?') text
  let pairs := Percent.decodePairs (query.drop 1)
  match text with
  | '/' :: '/' :: text =>
    let (authority, path) := splitAtFirst (· = '/') text
    let (authority, beyond) ← parseAuthority? authority (path.isEmpty && query.isEmpty && fragment.isEmpty)
    let path := if beyond.isEmpty then path else '/' :: beyond ++ path
    return ⟨scheme, some authority, Path.resolve path, pairs⟩
  | path => return ⟨scheme, none, Path.resolve path, pairs⟩

def host? (url : ServerUrl) : Option (List Char) :=
  (url.authority.map Authority.host).filter fun host => !host.isEmpty

def queryValue? (url : ServerUrl) (name : String) : Option Bytes :=
  url.query.reverse.lookup (Utf8.encode name)

/-! ## Usable addresses -/

inductive Fault
  | unparsable
  | missingHost
  | missingPath
  | encryptionUnavailable
  | badDatabaseNumber
  | badUsername
  | badPassword
  | badProtocol (version : String)
  deriving DecidableEq, Repr

def Fault.description : Fault → String
  | .unparsable => "Redis URL did not parse"
  | .missingHost => "Missing hostname"
  | .missingPath => "Missing path"
  | .encryptionUnavailable => "can't connect with TLS, the feature is not enabled"
  | .badDatabaseNumber => "Invalid database number"
  | .badUsername => "Username is not valid UTF-8 string"
  | .badPassword => "Password is not valid UTF-8 string"
  | .badProtocol _ => "Invalid protocol version"

def Fault.detail? : Fault → Option String
  | .badProtocol version => some version
  | _ => none

def Fault.toRemoteError (fault : Fault) : RemoteError :=
  .reported "InvalidClientConfig" fault.description fault.detail?

def demand (holds : Bool) (fault : Fault) : Except Fault Unit := if holds then .ok () else .error fault

def isText (octets : Bytes) : Bool := (Utf8.decode octets).isOk

def isDatabase (digits : List Char) : Bool :=
  (integer? digits).any fun n => -0x8000000000000000 ≤ n && n < 0x8000000000000000

def isDatabasePath (path : List Char) : Bool :=
  let trimmed := ((path.dropWhile (· = '/')).reverse.dropWhile (· = '/')).reverse
  trimmed.isEmpty || isDatabase trimmed

def namesDatabase (url : ServerUrl) : Bool :=
  match url.queryValue? "db" with
  | none => true
  | some octets =>
    match Utf8.decode octets with
    | .ok digits => isDatabase digits.toList
    | .error _ => false

def protocols : List String := ["2", "resp2", "3", "resp3"]

def checkProtocol (url : ServerUrl) : Except Fault Unit :=
  match url.queryValue? "protocol" with
  | none => .ok ()
  | some octets =>
    let version := Utf8.decodeLeniently octets
    demand (protocols.contains version) (.badProtocol version)

def credentials (url : ServerUrl) : Bytes × Bytes :=
  match url.authority with
  | none => ([], [])
  | some authority => (Percent.decode authority.username, Percent.decode authority.password)

def checkHost (url : ServerUrl) (isEncrypted : Bool) : Except Fault Unit := do
  demand url.host?.isSome .missingHost
  demand (!isEncrypted) .encryptionUnavailable
  demand (isDatabasePath url.path) .badDatabaseNumber
  demand (isText url.credentials.1) .badUsername
  demand (isText url.credentials.2) .badPassword
  url.checkProtocol

def checkFile (url : ServerUrl) : Except Fault Unit := do
  let isLocal := url.host?.all fun host => String.ofList host = "localhost"
  demand (isLocal && url.path.head? = some '/') .missingPath
  demand url.namesDatabase .badDatabaseNumber
  url.checkProtocol

def check (url : ServerUrl) : Except Fault Unit :=
  match url.scheme with
  | "redis" => url.checkHost false
  | "rediss" => url.checkHost true
  | "unix" => url.checkFile
  | "redis+unix" => url.checkFile
  | _ => .error .unparsable

def fault? (url : String) : Option Fault :=
  match parse? url with
  | none => some .unparsable
  | some url =>
    match url.check with
    | .ok () => none
    | .error fault => some fault

end ServerUrl

end Gazette
