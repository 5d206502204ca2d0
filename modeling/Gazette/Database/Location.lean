import Gazette.Text.Percent

/-!
# Where databases live

* `Location` is where a database lives and what may be done to it there.
* `Location.ofPath` reads a path. One that begins with `file:` is a URI, in which percent signs stand for octets and
  which may have options after a question mark.
-/

namespace Gazette.Database

inductive Access
  | read
  /-- It may be changed, if it is there. -/
  | change
  /-- It may be changed, and made if it is missing. -/
  | create
  deriving DecidableEq, Repr

inductive Place
  /-- In memory, for no longer than the program. -/
  | memory
  | file (path : String)
  /-- Where no file can be. -/
  | nowhere
  deriving DecidableEq, Repr

structure Location where
  place : Place
  access : Access
  /-- Whether the file is taken for one that nobody changes. -/
  isFrozen : Bool
  deriving DecidableEq, Repr

inductive LocationFault
  | zeroOctet (position : Nat)
  | foreignAuthority (authority : String)
  | unknownMode (kind mode : String)
  | forbiddenMode (mode : String)
  | unknownSystem (name : String)
  deriving DecidableEq, Repr

def LocationFault.message : LocationFault → String
  | .zeroOctet position => s!"nul byte found in provided data at position: {position}"
  | .foreignAuthority authority => "invalid uri authority: " ++ authority
  | .unknownMode kind mode => s!"no such {kind} mode: {mode}"
  | .forbiddenMode mode => "access mode not allowed: " ++ mode
  | .unknownSystem name => "no such vfs: " ++ name

namespace Location

open Percent (splitAtFirst)

/-! ## URIs -/

/-- A part of a URI as text. An octet of zero ends it. -/
def decodePart (text : List Char) : String :=
  Utf8.decodeLeniently ((Percent.decode text).takeWhile fun octet => octet ≠ 0)

def decodeOption (text : List Char) : String × String :=
  let (name, value) := splitAtFirst (· = '=') text
  (decodePart name, decodePart (value.drop 1))

def decodeOptions (text : List Char) : List (String × String) :=
  ((text.splitOn '&').map decodeOption).filter fun option => option.1 ≠ ""

/-- What follows the authority of a URI, if there is one. It can only be this machine. -/
def skipAuthority : List Char → Except LocationFault (List Char)
  | '/' :: '/' :: text =>
    let (authority, path) := splitAtFirst (· = '/') text
    if authority.isEmpty || String.ofList authority = "localhost" then .ok path
    else .error (.foreignAuthority (String.ofList authority))
  | text => .ok text

/-! ## Options -/

inductive Mode
  | read
  | change
  | create
  | memory
  deriving DecidableEq, Repr

namespace Mode

def ofName? : String → Option Mode
  | "ro" => some .read
  | "rw" => some .change
  | "rwc" => some .create
  | "memory" => some .memory
  | _ => none

/-- Whether a mode may be asked for after another one: if it allows no more, or if one of them is memory. -/
def mayFollow (next last : Mode) : Bool :=
  match last, next with
  | .read, .change => false
  | .read, .create => false
  | .change, .create => false
  | _, _ => true

def access : Mode → Access
  | read => .read
  | change => .change
  | create => .create
  | memory => .create

end Mode

structure Manner where
  mode : Mode
  /-- The system that keeps the files. -/
  system : String
  deriving DecidableEq, Repr

def Manner.usual : Manner := ⟨.create, "unix"⟩

/-- The manner after an option. Options of unknown names make no difference. -/
def Manner.followOption (manner : Manner) : String × String → Except LocationFault Manner
  | ("vfs", system) => .ok { manner with system }
  | ("cache", value) =>
    if value = "shared" || value = "private" then .ok manner else .error (.unknownMode "cache" value)
  | ("mode", value) =>
    match Mode.ofName? value with
    | none => .error (.unknownMode "access" value)
    | some mode => if mode.mayFollow manner.mode then .ok { manner with mode } else .error (.forbiddenMode value)
  | _ => .ok manner

def memorySystem : String := "memdb"

def systems : List String := ["unix", "unix-none", "unix-dotfile", "unix-excl", memorySystem]

def isYes (value : String) : Bool :=
  let digits := value.toList.takeWhile fun c => (digitValue? c).isSome
  if digits.isEmpty then ["on", "yes", "true"].contains value.toLower
  else (natural? digits).any fun n => n < 0x80000000 && n % 0x100 ≠ 0

/-! ## Paths -/

def maxPathOctets : Nat := 504

def foldSegments (isAbsolute : Bool) (kept : List String) : List String → List String
  | [] => kept.reverse
  | segment :: rest =>
    if segment = "" || segment = "." then foldSegments isAbsolute kept rest
    else if segment = ".." then
      match kept with
      | [] => foldSegments isAbsolute (if isAbsolute then [] else [".."]) rest
      | last :: above => foldSegments isAbsolute (if last = ".." then ".." :: kept else above) rest
    else foldSegments isAbsolute (segment :: kept) rest

def placeOf (name : String) : Place :=
  let isAbsolute := name.toList.head? = some '/'
  let segments := foldSegments isAbsolute [] ((name.toList.splitOn '/').map String.ofList)
  let path := "/".intercalate segments
  let path := if isAbsolute then "/" ++ path else path
  if segments.isEmpty || maxPathOctets < path.utf8ByteSize then .nowhere else .file path

def ofName (name : String) (options : List (String × String)) : Except LocationFault Location := do
  let manner ← options.foldlM Manner.followOption .usual
  if systems.contains manner.system then
    let inMemory := name = "" || name = ":memory:" || manner.mode = .memory || manner.system = memorySystem
    let isFrozen := !inMemory && ((options.lookup "immutable").any isYes)
    .ok ⟨if inMemory then .memory else placeOf name, manner.mode.access, isFrozen⟩
  else .error (.unknownSystem manner.system)

/-- The location that the rest of a URI stands for. What follows a number sign is passed over. -/
def ofUri (text : List Char) : Except LocationFault Location := do
  let text ← skipAuthority text
  let (text, _) := splitAtFirst (· = '#') text
  let (name, options) := splitAtFirst (· = '?') text
  ofName (decodePart name) (decodeOptions (options.drop 1))

def ofPath (path : String) : Except LocationFault Location :=
  match (Utf8.encode path).findIdx? (· = 0) with
  | some position => .error (.zeroOctet position)
  | none =>
    match path.toList with
    | 'f' :: 'i' :: 'l' :: 'e' :: ':' :: text => ofUri text
    | _ => ofName path []

def isReadOnly (location : Location) : Bool := location.access = .read || location.isFrozen

end Location

end Gazette.Database
