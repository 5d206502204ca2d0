import Gazette.Article.Basic
import Gazette.Article.Page
import Gazette.Command.Scan

/-!
# The command line

* `Request` is what the program is asked to do, and `Invocation` also how it is to show the result.
* `Invocation.parse` reads the arguments of the program.
-/

namespace Gazette.Command

inductive Request
  | addAuthor (firstName lastName : String)
  | create (draft : Draft)
  | get (id : Uuid)
  | update (revision : Revision)
  | delete (id : Uuid)
  | list (number size : UInt32)
  | search (needle : String) (number size : UInt32)
  deriving DecidableEq, Repr

structure Invocation where
  format : OutputFormat
  quiet : Bool
  request : Request
  deriving DecidableEq, Repr

/-! ## The grammar -/

def action (options words : List Argument) : Grammar := .mk false options words []

def articleOptions : List Argument :=
  [.required "title" .text, .required "content" .text, .required "category" .text,
    .optional "image-url" .text]

def idWord : Argument := .required "id" .identifier

def pageOptions : List Argument := [.optional "page" .word32, .optional "size" .word32]

def authorsGrammar : Grammar :=
  .mk false [] []
    [("add", action [.required "first-name" .text, .required "last-name" .text] [])]

def articlesGrammar : Grammar :=
  .mk false [] []
    [("create", action (.required "author-id" .identifier :: articleOptions) []),
      ("get", action [] [idWord]),
      ("update", action articleOptions [idWord]),
      ("delete", action [] [idWord]),
      ("list", action pageOptions []),
      ("search", action pageOptions [.required "title" .text])]

def grammar : Grammar :=
  .mk true [.optional "format" .outputFormat, .flag "quiet"] []
    [("authors", authorsGrammar), ("articles", articlesGrammar)]

/-! ## Requests -/

abbrev Values := List (String × Value)

namespace Values

def text? (values : Values) (name : String) : Option String :=
  match values.lookup name with
  | some (.text value) => some value
  | _ => none

def text (values : Values) (name : String) : Except UsageError String :=
  match values.text? name with
  | some value => .ok value
  | none => .error .missingRequiredArgument

def identifier (values : Values) (name : String) : Except UsageError Uuid :=
  match values.lookup name with
  | some (.identifier value) => .ok value
  | _ => .error .missingRequiredArgument

def word32 (values : Values) (name : String) (absent : UInt32) : UInt32 :=
  match values.lookup name with
  | some (.word32 value) => value
  | _ => absent

def outputFormat (values : Values) : OutputFormat :=
  match values.lookup "format" with
  | some (.outputFormat value) => value
  | _ => .pretty

end Values

def pageNumber (values : Values) : UInt32 := values.word32 "page" Page.first.number

def pageSize (values : Values) : UInt32 := values.word32 "size" Page.first.size

def Request.ofValues (names : List String) (values : Values) : Except UsageError Request :=
  match names with
  | ["authors", "add"] => do
    .ok (.addAuthor (← values.text "first-name") (← values.text "last-name"))
  | ["articles", "create"] => do
    .ok (.create ⟨← values.identifier "author-id", ← values.text "title", ← values.text "content",
      values.text? "image-url", ← values.text "category"⟩)
  | ["articles", "get"] => do .ok (.get (← values.identifier "id"))
  | ["articles", "update"] => do
    .ok (.update ⟨← values.identifier "id", ← values.text "title", ← values.text "content",
      values.text? "image-url", ← values.text "category"⟩)
  | ["articles", "delete"] => do .ok (.delete (← values.identifier "id"))
  | ["articles", "list"] => .ok (.list (pageNumber values) (pageSize values))
  | ["articles", "search"] => do
    .ok (.search (← values.text "title") (pageNumber values) (pageSize values))
  | _ => .error .missingSubcommand

def Invocation.parse (arguments : List String) : Except UsageError Invocation := do
  let (names, values) ← grammar.parse arguments
  let request ← Request.ofValues names values
  .ok ⟨Values.outputFormat values, (values.lookup "quiet").isSome, request⟩

end Gazette.Command
