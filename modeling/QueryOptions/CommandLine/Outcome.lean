import QueryOptions.CommandLine.Invocation
import QueryOptions.Defaults.Load
import QueryOptions.Document.Apply
import QueryOptions.Document.Json
import QueryOptions.Document.Yaml
import QueryOptions.Query.Request

/-!
What the program does with an invocation in a given world: it prints a text, or
fails with a message, or refuses its arguments.
-/

namespace QueryOptions

/-- What the program can see of its surroundings. -/
structure World where
  /-- The texts of the files that can be read. -/
  file : String → Option String
  environment : List (String × String)
  input : String

inductive Outcome where
  | printed (text : String)
  | failed (message : String)
  | misused
  deriving DecidableEq, Repr

namespace Outcome

def exitCode : Outcome → Nat
  | .printed _ => 0
  | .failed _ => 1
  | .misused => 2

/-- What goes to the standard output. -/
def output : Outcome → String
  | .printed text => text
  | _ => ""

/-- The first line of what is said about a failure. -/
def errorLine? : Outcome → Option String
  | .failed message =>
    let line := message.toList.takeWhile (· ≠ '\n')
    some ("Error: " ++ String.ofList line)
  | _ => none

end Outcome

def programVersion : String := "0.2.8"

def helpText : String :=
  "Usage: odata-query [-v]... compile [--format params|query-string|url] [--base-url URL] " ++
    "[--defaults FILE] DOCUMENT\n       odata-query [-v]... defaults [--defaults FILE]\n"

/-- The settings file that an invocation names. -/
def World.settingsFile (w : World) : Option String → SettingsFile
  | none => .unnamed
  | some path =>
    match w.file path with
    | some text => .found text
    | none => .missing

/-- The defaults for new queries, or the message about their failure. -/
def World.loadDefaults (w : World) (file : Option String) : Except String Defaults :=
  (Defaults.load (w.settingsFile file) w.environment).mapError
    fun _ => "failed to load query defaults"

/-- The last component of a path. -/
def fileName (path : List Char) : List Char :=
  let trimmed := (path.reverse.dropWhile (· = '/')).reverse
  (trimmed.reverse.takeWhile (· ≠ '/')).reverse

/-- Whether a path has the extension of JSON files; a name without anything
before the extension has none. -/
def isJsonPath (path : String) : Bool :=
  match (fileName path.toList).reverse with
  | 'n' :: 'o' :: 's' :: 'j' :: '.' :: rest => !rest.isEmpty
  | _ => false

/-- The text of a document, which may come from the standard input. -/
def World.readSource (w : World) (path : String) : Except String String :=
  if path = "-" then .ok w.input
  else match w.file path with
    | some text => .ok text
    | none => .error ("failed to read " ++ path)

def World.readDocument (w : World) (path : String) : Except String Document := do
  let text ← w.readSource path
  if isJsonPath path then
    (Json.readText Json.readDocument text).mapError fun _ => "invalid JSON query document"
  else match Yaml.readDocument text with
    | some document => .ok document
    | none => .error "invalid YAML query document"

/-- The query of a document; of a failure only the outermost message counts. -/
def Document.toQuery (d : Document) (defaults : Defaults) : Except String Query :=
  let progress := d.apply (.ofDefaults defaults)
  match progress.failure with
  | none => .ok progress.state
  | some error => .error (error.messages.headD "")

namespace OutputFormat

/-- One line for each parameter. -/
def paramLines (p : Params) : String :=
  Text.concat (p.pairs.map fun (key, value) => key ++ "=" ++ value ++ "\n")

def render (q : Query) : OutputFormat → Except String String
  | .params => (q.params.map paramLines).mapError UnterminatedScope.message
  | .queryString => (q.queryString.map (· ++ "\n")).mapError UnterminatedScope.message
  | .url =>
    (q.requestUrl.map (·.text ++ "\n")).mapError
      fun _ => "cannot build request url (set `url` or pass --base-url)"

end OutputFormat

namespace CompileRequest

def run (r : CompileRequest) (w : World) : Except String String := do
  let defaults ← w.loadDefaults r.defaults
  let document ← w.readDocument r.document
  let query ← document.toQuery defaults
  r.format.render { query with url := r.baseUrl <|> query.url }

end CompileRequest

namespace Defaults

def numberText : Option Nat → String
  | some n => Decimal.natText n
  | none => "null"

def flagText (flag : Bool) : String := if flag then "true" else "false"

/-- The settings as a JSON object over several lines. -/
def listing (d : Defaults) : String :=
  let values := [numberText d.top, numberText d.skip, flagText d.pagination, flagText d.showCount]
  let entries := names.zipWith (fun name value => "  \"" ++ name ++ "\": " ++ value) values
  "\x7b\n" ++ Text.join ",\n" entries ++ "\n\x7d\n"

end Defaults

def Outcome.ofExcept : Except String String → Outcome
  | .ok text => .printed text
  | .error message => .failed message

def Invocation.run (w : World) : Invocation → Outcome
  | .compile request => .ofExcept (request.run w)
  | .defaults file => .ofExcept ((w.loadDefaults file).map Defaults.listing)
  | .version name => .printed (name ++ " " ++ programVersion ++ "\n")
  | .help => .printed helpText

/-- Runs the program with arguments. -/
def World.run (w : World) (arguments : List String) : Outcome :=
  match Invocation.ofArguments? arguments with
  | some invocation => invocation.run w
  | none => .misused

end QueryOptions
