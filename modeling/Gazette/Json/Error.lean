import Gazette.Text.Quoted
import Gazette.Time.Parser
import Gazette.Uuid.Parser

/-!
# What can be wrong with JSON

`JsonError` has a cause for every way in which octets fail to be the JSON of a value: they are no JSON, or they are
JSON of another shape. `JsonError.message` words each.
-/

namespace Gazette

inductive Found
  | null
  | flag (value : Bool)
  | natural (value : Nat)
  | negative (magnitude : Nat)
  | fractional (numeral : String)
  | text (value : String)
  | list
  | object
  deriving DecidableEq, Repr

def Found.describe : Found → String
  | .null => "null"
  | .flag value => s!"boolean `{value}`"
  | .natural value => s!"integer `{value}`"
  | .negative magnitude => s!"integer `-{magnitude}`"
  | .fractional numeral => s!"floating point `{numeral}`"
  | .text value => "string " ++ Quoted.quote value
  | .list => "sequence"
  | .object => "map"

inductive JsonError
  -- The octets end too early.
  | endInValue
  | endInList
  | endInObject
  | endInString
  -- The octets are no JSON.
  | expectedColon
  | expectedCommaOrListEnd
  | expectedCommaOrObjectEnd
  | expectedWord
  | expectedValue
  | invalidEscape
  | invalidNumber
  | numberOutOfRange
  | notUtf8
  | controlInString
  | keyNotString
  | loneSurrogate
  | unpairedSurrogate
  | trailingComma
  | trailingOctets
  -- The JSON is that of another value.
  | mismatch (found : Found) (expected : String)
  | notInRange (found : Found) (expected : String)
  | listTooShort (length : Nat) (expected : String)
  | missingField (name : String)
  | duplicateField (name : String)
  | notUuid (cause : Uuid.ParseError)
  | notTime (cause : TimeError)
  deriving DecidableEq, Repr

def JsonError.message : JsonError → String
  | .endInValue => "EOF while parsing a value"
  | .endInList => "EOF while parsing a list"
  | .endInObject => "EOF while parsing an object"
  | .endInString => "EOF while parsing a string"
  | .expectedColon => "expected `:`"
  | .expectedCommaOrListEnd => "expected `,` or `]`"
  | .expectedCommaOrObjectEnd => "expected `,` or `\x7d`"
  | .expectedWord => "expected ident"
  | .expectedValue => "expected value"
  | .invalidEscape => "invalid escape"
  | .invalidNumber => "invalid number"
  | .numberOutOfRange => "number out of range"
  | .notUtf8 => "invalid unicode code point"
  | .controlInString => "control character (\\u0000-\\u001F) found while parsing a string"
  | .keyNotString => "key must be a string"
  | .loneSurrogate => "lone leading surrogate in hex escape"
  | .unpairedSurrogate => "unexpected end of hex escape"
  | .trailingComma => "trailing comma"
  | .trailingOctets => "trailing characters"
  | .mismatch found expected => s!"invalid type: {found.describe}, expected {expected}"
  | .notInRange found expected => s!"invalid value: {found.describe}, expected {expected}"
  | .listTooShort length expected => s!"invalid length {length}, expected {expected}"
  | .missingField name => s!"missing field `{name}`"
  | .duplicateField name => s!"duplicate field `{name}`"
  | .notUuid cause => s!"UUID parsing failed: {cause.message}"
  | .notTime cause => cause.message

end Gazette
