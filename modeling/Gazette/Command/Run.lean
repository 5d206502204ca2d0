import Gazette.Article.Text
import Gazette.Cache.Lru
import Gazette.Command.Line
import Gazette.Config
import Gazette.Database.File
import Gazette.Database.Store
import Gazette.Service.Session

/-!
# Running commands

* `Invocation.execute` carries out a command on a database, through a service and its cache.
* `run` is a run of the program: it opens the database that the configuration names, carries out the command that
  the arguments ask for and reports what it prints.
-/

namespace Gazette.Command

open Database (FileContent OpenDatabase Tables)

/-! ## Commands -/

abbrev Outcome := Except Crash (Except String String)

def Outcome.ofResult {α : Type} (shown : α → Except Crash String) : Except StoreError α → Outcome
  | .ok value => (shown value).map .ok
  | .error error => .ok (.error error.message)

structure Desk where
  database : OpenDatabase
  cache : LruCache
  deriving DecidableEq, Repr

structure Moment where
  surroundings : Surroundings
  now : Instant
  deriving DecidableEq, Repr

def OutputFormat.write {α : Type} (layout : OutputFormat) (format : Json.Format α) (value : α) : String :=
  match layout with
  | .json => (format.write value).compact
  | .pretty => (format.write value).indented

def OutputFormat.line {α : Type} (shown : OutputFormat) (format : Json.Format α) (people : α → Except Crash String)
    (value : α) : Except Crash String :=
  match shown with
  | .json => .ok (OutputFormat.json.write format value ++ "\n")
  | .pretty => (people value).map (· ++ "\n")

def performOn (service : Service) (moment : Moment) (desk : Desk) (operation : Operation)
    (shown : operation.Result → Except Crash String) : Outcome × Desk :=
  let backend := if desk.database.isReadOnly then Tables.readOnlyBackend else Tables.backend
  let collaborators : Collaborators Tables LruCache :=
    ⟨backend, LruCache.backend, moment.surroundings, moment.now⟩
  let run := Session.run collaborators Session.undisturbed false (service.perform operation)
    desk.database.tables desk.cache
  (run.outcome.bind (Outcome.ofResult shown),
    ⟨{ desk.database with tables := run.state.store }, run.state.cache⟩)

def performOnPage (service : Service) (moment : Moment) (desk : Desk) (number size : UInt32)
    (operation : Page → Operation) (shown : (page : Page) → (operation page).Result → Except Crash String) :
    Outcome × Desk :=
  match Page.make number size with
  | .error error => (.ok (.error error.message), desk)
  | .ok page => performOn service moment desk (operation page) (shown page)

def announce (news : String) (text : String) : Except Crash String := .ok (news ++ ":\n" ++ text)

def addAuthor (shown : OutputFormat) (moment : Moment) (desk : Desk) (firstName lastName : String) :
    Outcome × Desk :=
  let author : Author := ⟨.random moment.surroundings.random, firstName, lastName⟩
  let shown := shown.line Author.format (fun author => announce "Created" author.toText)
  let tables := desk.database.tables
  let (result, tables) :=
    if desk.database.isReadOnly then (.error Tables.refusal, tables) else tables.addAuthor author
  (.ofResult (fun () => shown author) result,
    { desk with database := { desk.database with tables } })

def Invocation.execute (invocation : Invocation) (service : Service) (moment : Moment) (desk : Desk) :
    Outcome × Desk :=
  let line {α : Type} (format : Json.Format α) (people : α → Except Crash String) :=
    invocation.format.line format people
  match invocation.request with
  | .addAuthor firstName lastName => addAuthor invocation.format moment desk firstName lastName
  | .create draft =>
    performOn service moment desk (.create draft)
      (line Article.format fun article => announce "Created" article.toText)
  | .get id => performOn service moment desk (.get id) (line BylinedArticle.format fun article => .ok article.toText)
  | .update revision =>
    performOn service moment desk (.update revision)
      (line Article.format fun article => announce "Updated" article.toText)
  | .delete id =>
    performOn service moment desk (.delete id) fun () =>
      .ok (if invocation.quiet then "" else s!"Deleted article {id.toText}\n")
  | .list number size =>
    performOnPage service moment desk number size .list fun _ => line Listing.format Listing.toText
  | .search needle number size =>
    performOnPage service moment desk number size (.search needle) fun _ =>
      line Listing.format Listing.toText

/-! ## Runs -/

structure Report where
  exitCode : UInt8
  output : String
  errors : String
  deriving DecidableEq, Repr

namespace Report

def success (output : String) : Report := ⟨0, output, ""⟩

def failure (message : String) : Report := ⟨1, "", "Error: " ++ message ++ "\n"⟩

def crash (message : String) : Report := ⟨101, "", message ++ "\n"⟩

def indent (text : String) : String :=
  String.ofList <| "    ".toList ++ text.toList.flatMap fun c =>
    if c = '\n' then '\n' :: "    ".toList else [c]

def failureBecause (message cause : String) : Report := failure s!"{message}\n\nCaused by:\n{indent cause}"

def ofOutcome : Outcome → Report
  | .ok (.ok text) => success text
  | .ok (.error message) => failure message
  | .error reason => crash reason.message

end Report

def versionLine : String := "newsdesk 0.0.0\n"

/-- What arguments that give no command come to. The texts that explain commands are left out. -/
def UsageError.report : UsageError → Report
  | .helpWanted => .success ""
  | .versionWanted => .success versionLine
  | _ => ⟨2, "", ""⟩

def service (config : Config) : Service := ⟨config.cacheKeyPrefix, config.cacheTtl⟩

/-- Opens a database and an empty cache and carries out a command. Also gives what the database is then, if it could
be opened. -/
def runInvocation (invocation : Invocation) (config : Config) (content : FileContent) (moment : Moment) :
    Report × Option Tables :=
  match Database.openAt config.databasePath content with
  | .error error => (.failureBecause s!"failed to open {config.databasePath}" error.message, none)
  | .ok database =>
    match LruCache.ofCapacity config.cacheMaxEntries.toNat with
    | .error reason => (.crash reason.message, some database.tables)
    | .ok (.error error) => (.failure error.message, some database.tables)
    | .ok (.ok cache) =>
      let (outcome, desk) := invocation.execute (service config) moment ⟨database, cache⟩
      (.ofOutcome outcome, some desk.database.tables)

/-- A run of the program with these arguments, when `content` is found at the location of the database. -/
def run (arguments : List String) (config : Config) (content : FileContent) (moment : Moment) :
    Report × Option Tables :=
  match Invocation.parse arguments with
  | .error error => (error.report, none)
  | .ok invocation => runInvocation invocation config content moment

end Gazette.Command
