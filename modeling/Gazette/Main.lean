import Gazette.Command.Run
import Gazette.Database.Dump
import Std.Time.DateTime.Timestamp

/-!
# The program

* `findContent` looks for the database at a path, and `keepTables` writes it back.
* `runProgram` collects what a run depends on, leaves the rest to `Command.run` and shows what it reports.
-/

namespace Gazette

open Database (FileContent Location Tables)

def readConfig : IO Config := do
  let found ← Config.variableNames.mapM fun name => return (name, ← IO.getEnv name)
  return Config.ofVariables fun name => (found.lookup name).join

/-- What is found where the path of a database leads. A file that is missing is made, if it may and can be. -/
def findContent (path : String) : IO FileContent := do
  match Location.ofPath path with
  | .ok ⟨.file file, access, _⟩ =>
    match ← (IO.FS.readBinFile file).toBaseIO with
    | .ok octets => return .ofOctets octets.toList
    | .error (.noFileOrDirectory ..) =>
      if access ≠ .create then return .missing
      match ← (IO.FS.writeBinFile file .empty).toBaseIO with
      | .ok () => return .missing
      | .error _ => return .unreachable
    | .error _ => return .unreachable
  | _ => return .missing

def keepTables (path : String) (tables : Tables) : IO Unit :=
  match Database.keptAt? path with
  | some file => IO.FS.writeBinFile file ⟨tables.dump.toArray⟩
  | none => pure ()

def numberOf (octets : Bytes) : Nat := octets.foldl (fun n octet => n * 256 + octet.toNat) 0

def readMoment : IO Command.Moment := do
  let wall ← Std.Time.Timestamp.now
  let random ← IO.getRandomBytes 16
  let now ← IO.monoNanosNow
  return ⟨⟨⟨wall.toNanosecondsSinceUnixEpoch.val⟩, .ofNat 128 (numberOf random.toList)⟩, ⟨now⟩⟩

/-- Runs the program. A file is touched only if the arguments give a command. -/
def runProgram (arguments : List String) : IO UInt32 := do
  let config ← readConfig
  let content ← match Command.Invocation.parse arguments with
    | .ok _ => findContent config.databasePath
    | .error _ => pure .missing
  let (report, tables) := Command.run arguments config content (← readMoment)
  if let some tables := tables then keepTables config.databasePath tables
  IO.print report.output
  IO.eprint report.errors
  return report.exitCode.toUInt32

end Gazette

def main (arguments : List String) : IO UInt32 := Gazette.runProgram arguments
