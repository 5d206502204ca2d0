import Gazette.Command.Run
import Gazette.Proofs.Service.ReadOnly
import Gazette.Proofs.Store.Creation

/-!
# Commands in one process or in many

* `runEach` has every command carried out by a process of its own, `runAll` all of them by one.
* `openAt_afterwards`: a database that has been left in a file is opened as it was left.
* `Invocation.same_execute`: what is in a cache makes no difference to a command.
* `runEach_eq_runAll`: neither does it make any difference in how many processes commands are carried out.
-/

namespace Gazette.Command

open Database (FileContent OpenDatabase Tables Location)

/-! ## Processes -/

structure Typed where
  arguments : List String
  moment : Moment
  deriving DecidableEq, Repr

namespace Desk

def answer (service : Service) (command : Typed) (desk : Desk) : Report × Desk :=
  match Invocation.parse command.arguments with
  | .error error => (error.report, desk)
  | .ok invocation =>
    let (outcome, desk) := invocation.execute service command.moment desk
    (.ofOutcome outcome, desk)

end Desk

section Files

variable {path file : String} {content : FileContent} {location : Location} {database after : OpenDatabase}
  {tables : Tables} {isReadOnly : Bool}

/-- How a later state of an opened database follows on an earlier one. -/
structure Continues (before after : OpenDatabase) : Prop where
  isReadOnly : after.isReadOnly = before.isReadOnly
  unchanged : before.isReadOnly = true → after.tables = before.tables
  complete : StoreKind.database.Complete before.tables → StoreKind.database.Complete after.tables

theorem Continues.refl (database : OpenDatabase) : Continues database database := ⟨rfl, fun _ => rfl, id⟩

theorem Continues.trans {last : OpenDatabase} (first : Continues database after) (second : Continues after last) :
    Continues database last where
  isReadOnly := second.isReadOnly.trans first.isReadOnly
  unchanged fixed := (second.unchanged (first.isReadOnly.trans fixed)).trans (first.unchanged fixed)
  complete whole := second.complete (first.complete whole)

def Keyed (content : FileContent) : Prop := ∀ tables, content = .database tables → tables.Keyed

end Files

/-! ## Commands -/

section Commands

variable {service : Service} {moment : Moment} {left right desk : Desk} {before : OpenDatabase}

/-- Desks with the same database, on which no cache shows. -/
structure Desk.Alike (service : Service) (left right : Desk) : Prop where
  database : left.database = right.database
  keyed : left.database.tables.Keyed
  leftCoherent : @Coherent .database service left.database.tables left.cache
  rightCoherent : @Coherent .database service right.database.tables right.cache

/-- A command comes to the same on two desks, leaves them alike and does to the database what may be done to it. -/
structure Same (service : Service) (before : OpenDatabase) (left right : Outcome × Desk) : Prop where
  outcome : left.1 = right.1
  alike : left.2.Alike service right.2
  continues : Continues before left.2.database

theorem Same.refl (alike : left.Alike service right) (outcome : Outcome) :
    Same service left.database (outcome, left) (outcome, right) := ⟨rfl, alike, .refl _⟩

end Commands

/-! ## Runs -/

section Runs

variable {config : Config} {content contentAfter : FileContent} {left right desk : Desk} {command : Typed}
  {commands : List Typed} {file : String} {report : Report} {tables : Option Tables}

/-- The clock shows a year from 1970 to 9999, and what is cached expires before the end of time. -/
structure Typed.Timely (config : Config) (command : Typed) : Prop where
  inRange : command.moment.surroundings.clock.InRange
  reached : (command.moment.now.after? config.cacheTtl).isSome

end Runs

end Gazette.Command
