import Gazette.Json.Printer
import Gazette.Json.Reader
import Gazette.Time.Printer

/-!
# JSON formats

A `Format` pairs the writing of a type's values as JSON with the reading of them. The formats of values without
parts, of lists and of optional values are here.
-/

namespace Gazette.Json

structure Format (α : Type) where
  write : α → Json
  reader : Reader α

namespace Format

variable {α β : Type}

def decode (format : Format α) (octets : Bytes) : Except JsonError α := format.reader.decode octets

def encode (format : Format α) (a : α) : Bytes := Utf8.encode (format.write a).compact

/-! ## Values without parts -/

def text : Format String where
  write value := .text value
  reader := .text "a string"

def flag : Format Bool where
  write value := .flag value
  reader := .flag

def word32 : Format UInt32 where
  write value := .number value.toNat
  reader := (Reader.bounded "u32" UInt32.size).map Nat.toUInt32

def word64 : Format UInt64 where
  write value := .number value.toNat
  reader := (Reader.bounded "u64" UInt64.size).map Nat.toUInt64

def uuid : Format Uuid where
  write value := .text value.toText
  reader := (Reader.text "a formatted UUID string").refine fun spelling =>
    (Uuid.parse spelling).mapError JsonError.notUuid

def time : Format Timestamp where
  write value := .text value.toRfc3339
  reader := (Reader.text "an RFC 3339 formatted date and time string").refine fun spelling =>
    (Timestamp.parseRelaxed spelling).mapError JsonError.notTime

/-! ## Values with parts -/

def optional (format : Format α) : Format (Option α) where
  write
    | some value => format.write value
    | none => .null
  reader := format.reader.optional

def list (item : Format α) : Format (List α) where
  write items := .list (items.map item.write)
  reader := item.reader.list

def via (format : Format α) (build : α → β) (parts : β → α) : Format β where
  write value := format.write (parts value)
  reader := format.reader.map build

end Format

end Gazette.Json
