import Gazette.Text.Digits
import Gazette.Uuid.Parser

/-!
# Grammars of command lines

* A `Grammar` says which options, words and subcommands a command takes.
* `ValueKind.read` reads the value of an option or a word as what it is.
* `UsageError` has the reasons why a command line gives no command. Asking for help is one.
-/

namespace Gazette.Command

inductive UsageError
  | helpWanted
  | versionWanted
  /-- Nothing is given where a subcommand is needed. -/
  | nothingGiven
  | missingSubcommand
  | invalidSubcommand
  | unknownArgument
  /-- An option is given twice. -/
  | argumentConflict
  /-- A flag is given a value. -/
  | tooManyValues
  /-- A value is missing, or not one of those that are allowed. -/
  | invalidValue
  /-- A value does not read as what it should be. -/
  | valueValidation
  | missingRequiredArgument
  deriving DecidableEq, Repr

/-! ## Values -/

inductive OutputFormat
  | json
  | pretty
  deriving DecidableEq, Repr

inductive ValueKind
  | text
  | outputFormat
  | identifier
  | word32
  deriving DecidableEq, Repr

inductive Value
  | flag
  | text (value : String)
  | outputFormat (value : OutputFormat)
  | identifier (value : Uuid)
  | word32 (value : UInt32)
  deriving DecidableEq, Repr

def OutputFormat.read (spelling : String) : Except UsageError OutputFormat :=
  if spelling = "json" then .ok .json
  else if spelling = "pretty" then .ok .pretty
  else .error .invalidValue

def readWord32 (spelling : String) : Except UsageError UInt32 :=
  match integer? spelling.toList with
  | some n => if 0 ≤ n ∧ n < UInt32.size then .ok n.toNat.toUInt32 else .error .valueValidation
  | none => .error .valueValidation

def readIdentifier (spelling : String) : Except UsageError Uuid :=
  match Uuid.parse spelling with
  | .ok id => .ok id
  | .error _ => .error .valueValidation

def ValueKind.read (spelling : String) : ValueKind → Except UsageError Value
  | text => .ok (.text spelling)
  | outputFormat => (OutputFormat.read spelling).map .outputFormat
  | identifier => (readIdentifier spelling).map .identifier
  | word32 => (readWord32 spelling).map .word32

/-! ## Arguments -/

structure Argument where
  name : String
  /-- What its value is; a flag takes none. -/
  kind : Option ValueKind
  isRequired : Bool
  deriving DecidableEq, Repr

namespace Argument

def flag (name : String) : Argument := ⟨name, none, false⟩

def required (name : String) (kind : ValueKind) : Argument := ⟨name, some kind, true⟩

def optional (name : String) (kind : ValueKind) : Argument := ⟨name, some kind, false⟩

end Argument

inductive Grammar
  /-- `options` are introduced by their names, `words` are told by their order. -/
  | mk (hasVersion : Bool) (options words : List Argument) (subcommands : List (String × Grammar))

namespace Grammar

def hasVersion : Grammar → Bool
  | mk hasVersion _ _ _ => hasVersion

def options : Grammar → List Argument
  | mk _ options _ _ => options

def words : Grammar → List Argument
  | mk _ _ words _ => words

def subcommands : Grammar → List (String × Grammar)
  | mk _ _ _ subcommands => subcommands

def subcommand? (grammar : Grammar) (name : String) : Option Grammar := grammar.subcommands.lookup name

def option? (grammar : Grammar) (name : String) : Option Argument :=
  grammar.options.find? fun argument => argument.name = name

def arguments (grammar : Grammar) : List Argument := grammar.options ++ grammar.words

def helpName : String := "help"

def isSubcommand (grammar : Grammar) (word : String) : Bool :=
  !grammar.subcommands.isEmpty && (word = helpName || (grammar.subcommand? word).isSome)

def helpOn (grammar : Grammar) : List String → UsageError
  | [] => .helpWanted
  | word :: words =>
    match grammar.subcommand? word with
    | some inner => inner.helpOn words
    | none =>
      if grammar.isSubcommand word && words.isEmpty then .helpWanted else .invalidSubcommand

end Grammar

end Gazette.Command
