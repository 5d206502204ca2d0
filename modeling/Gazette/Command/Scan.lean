import Gazette.Command.Grammar

/-!
# Reading command lines

`Grammar.parse` reads a command line by a grammar: which subcommands it names, and which values it gives to arguments.
An argument's value is looked at when the next argument is met, so that of two mistakes the later one may be
reported.
-/

namespace Gazette.Command

/-! ## What has been read -/

structure Pending where
  argument : Argument
  /-- The spelling of the value, once it is met. -/
  spelling : Option String
  deriving DecidableEq, Repr

structure Scan where
  values : List (String × Value)
  pending : Option Pending
  /-- Whether what follows is words only. -/
  wordsOnly : Bool
  wordCount : Nat
  deriving DecidableEq, Repr

namespace Scan

def start : Scan := ⟨[], none, false, 0⟩

def has (scan : Scan) (name : String) : Bool := (scan.values.lookup name).isSome

def isAwaiting (scan : Scan) : Bool :=
  !scan.wordsOnly && scan.pending.any fun pending => pending.spelling.isNone

def give (scan : Scan) (argument : Argument) (spelling : Option String) : Except UsageError Scan :=
  match argument.kind, spelling with
  | some _, none => .error .invalidValue
  | kind, spelling =>
    if scan.has argument.name then .error .argumentConflict
    else
      match kind, spelling with
      | some kind, some spelling => do
        let value ← kind.read spelling
        .ok { scan with values := scan.values ++ [(argument.name, value)] }
      | _, _ => .ok { scan with values := scan.values ++ [(argument.name, .flag)] }

def settle (scan : Scan) : Except UsageError Scan :=
  match scan.pending with
  | none => .ok scan
  | some pending => { scan with pending := none }.give pending.argument pending.spelling

end Scan

/-! ## Arguments -/

def splitValue (text : List Char) : String × Option String :=
  let name := text.takeWhile (· ≠ '=')
  match text.dropWhile (· ≠ '=') with
  | [] => (String.ofList name, none)
  | _ :: value => (String.ofList name, some (String.ofList value))

namespace Grammar

def giveHelp (scan : Scan) (attached : Option String) (wanted : UsageError) : UsageError :=
  match attached with
  | some _ => .tooManyValues
  | none =>
    match scan.settle with
    | .ok _ => wanted
    | .error e => e

def readLong (grammar : Grammar) (scan : Scan) (name : String) (attached : Option String) :
    Except UsageError Scan :=
  match grammar.option? name with
  | some argument =>
    match argument.kind, attached with
    | none, some _ => .error .tooManyValues
    | some _, none => do
      let scan ← scan.settle
      .ok { scan with pending := some ⟨argument, none⟩ }
    | _, _ => do
      let scan ← scan.settle
      scan.give argument attached
  | none =>
    if name = "help" then .error (giveHelp scan attached .helpWanted)
    else if name = "version" ∧ grammar.hasVersion then .error (giveHelp scan attached .versionWanted)
    else .error .unknownArgument

/-- Reads options of one letter. No letter stands for an option that the command goes on with. -/
def readShort (grammar : Grammar) (scan : Scan) (letter : Char) : UsageError :=
  if letter = 'h' then giveHelp scan none .helpWanted
  else if letter = 'V' ∧ grammar.hasVersion then giveHelp scan none .versionWanted
  else .unknownArgument

def readWord (grammar : Grammar) (scan : Scan) (word : String) : Except UsageError Scan :=
  match grammar.words[scan.wordCount]? with
  | some argument => do
    let scan ← scan.settle
    .ok { scan with pending := some ⟨argument, some word⟩, wordCount := scan.wordCount + 1 }
  | none =>
    if grammar.subcommands.isEmpty || (scan.wordsOnly && grammar.isSubcommand word) then
      .error .unknownArgument
    else .error .invalidSubcommand

def takeValue (scan : Scan) (spelling : String) : Scan :=
  { scan with pending := scan.pending.map fun pending => { pending with spelling := some spelling } }

def readArgument (grammar : Grammar) (scan : Scan) (text : String) : Except UsageError Scan :=
  if scan.wordsOnly then grammar.readWord scan text
  else
    match text.toList with
    | ['-', '-'] => .ok { scan with wordsOnly := true }
    | '-' :: '-' :: long =>
      let (name, attached) := splitValue long
      grammar.readLong scan name attached
    | '-' :: letter :: _ => .error (grammar.readShort scan letter)
    | _ => if scan.isAwaiting then .ok (takeValue scan text) else grammar.readWord scan text

/-! ## Commands -/

/-- Reads arguments up to the name of a subcommand. Gives the name with what follows it. -/
def scan (grammar : Grammar) (before : Scan) : List String → Except UsageError (Scan × Option (String × List String))
  | [] => .ok (before, none)
  | text :: rest =>
    if !before.wordsOnly && !before.isAwaiting && grammar.isSubcommand text then .ok (before, some (text, rest))
    else
      match grammar.readArgument before text with
      | .ok after => grammar.scan after rest
      | .error e => .error e

theorem length_of_scan {grammar : Grammar} {before after : Scan} {arguments rest : List String}
    {name : String} (read : grammar.scan before arguments = .ok (after, some (name, rest))) :
    rest.length < arguments.length := by
  induction arguments generalizing before with
  | nil => cases read
  | cons text tail inductionHypothesis =>
    rw [scan] at read
    split at read
    · cases read
      exact Nat.lt_succ_self _
    · split at read
      · have := inductionHypothesis read
        simp only [List.length_cons]
        omega
      · cases read

def checkComplete (grammar : Grammar) (scan : Scan) : Except UsageError Unit :=
  if !grammar.subcommands.isEmpty then
    .error (if scan.values.isEmpty then .nothingGiven else .missingSubcommand)
  else if grammar.arguments.all fun argument => !argument.isRequired || scan.has argument.name then .ok ()
  else .error .missingRequiredArgument

/-- The subcommands named, the outermost first, and the values of all arguments. -/
def parse (grammar : Grammar) (arguments : List String) :
    Except UsageError (List String × List (String × Value)) :=
  match read : grammar.scan .start arguments with
  | .error e => .error e
  | .ok (scan, none) => do
    let scan ← scan.settle
    grammar.checkComplete scan
    .ok ([], scan.values)
  | .ok (scan, some (name, rest)) =>
    match grammar.subcommand? name with
    | none => .error (grammar.helpOn rest)
    | some inner => do
      have := length_of_scan read
      let (names, values) ← inner.parse rest
      let scan ← scan.settle
      .ok (name :: names, scan.values ++ values)
termination_by arguments.length

end Grammar

end Gazette.Command
