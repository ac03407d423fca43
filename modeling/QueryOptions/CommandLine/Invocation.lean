import QueryOptions.Text.Join

/-!
Command lines: what a list of arguments asks the program to do.

Options may stand before and after the document; a short option may have its
value attached or share its dash with others. An option that takes a value may
be given once. The request for the version or for help ends the reading at
once, so a fault after it is not seen.
-/

namespace QueryOptions

/-- The forms in which a compiled query is printed. -/
inductive OutputFormat where
  | params
  | queryString
  | url
  deriving DecidableEq, Repr

def OutputFormat.name : OutputFormat → String
  | .params => "params"
  | .queryString => "query-string"
  | .url => "url"

def OutputFormat.all : List OutputFormat := [.params, .queryString, .url]

structure CompileRequest where
  document : String
  format : OutputFormat := .params
  /-- Stands in for the address in the document. -/
  baseUrl : Option String := none
  /-- The settings file. -/
  defaults : Option String := none
  deriving DecidableEq, Repr

inductive Invocation where
  | compile (request : CompileRequest)
  | defaults (file : Option String)
  /-- Prints the version under a name. -/
  | version (name : String)
  | help
  deriving DecidableEq, Repr

namespace CommandLine

inductive Command where
  | compile
  | defaults
  deriving DecidableEq, Repr

def Command.all : List Command := [.compile, .defaults]

def Command.name : Command → String
  | .compile => "compile"
  | .defaults => "defaults"

def programName : String := "odata-query"

def Command.fullName (command : Command) : String := programName ++ "-" ++ command.name

/-- Options without a value. -/
inductive Switch where
  | verbose
  | version
  | help
  deriving DecidableEq, Repr

def Switch.all : List Switch := [.verbose, .version, .help]

def Switch.letter : Switch → Char
  | .verbose => 'v'
  | .version => 'V'
  | .help => 'h'

def Switch.name : Switch → String
  | .verbose => "verbose"
  | .version => "version"
  | .help => "help"

/-- Options with a value. -/
inductive Setting where
  | format
  | baseUrl
  | defaults
  deriving DecidableEq, Repr

def Setting.letter? : Setting → Option Char
  | .format => some 'f'
  | .baseUrl => none
  | .defaults => some 'd'

def Setting.name : Setting → String
  | .format => "format"
  | .baseUrl => "base-url"
  | .defaults => "defaults"

def Command.settings : Command → List Setting
  | .compile => [.format, .baseUrl, .defaults]
  | .defaults => [.defaults]

/-- Why the reading of arguments ends before their end. -/
inductive Stop where
  | misused
  | asked (invocation : Invocation)
  deriving DecidableEq, Repr

/-- What has been read of a command's arguments. -/
structure Draft where
  document : Option String := none
  format : Option OutputFormat := none
  baseUrl : Option String := none
  defaults : Option String := none
  deriving Repr

/-- What the next argument can be. -/
inductive Expectation where
  | anything
  | valueOf (setting : Setting)
  | operand
  deriving DecidableEq, Repr

/-- Verbosity has no effect on the output. -/
def Switch.obey (name : String) : Switch → Except Stop Unit
  | .verbose => .ok ()
  | .version => .error (.asked (.version name))
  | .help => .error (.asked .help)

/-- Gives a setting its only value. -/
def Draft.set (draft : Draft) (value : String) : Setting → Except Stop Draft
  | .format =>
    match draft.format, OutputFormat.all.find? fun format => format.name = value with
    | none, some format => .ok { draft with format := some format }
    | _, _ => .error .misused
  | .baseUrl =>
    if draft.baseUrl.isNone then .ok { draft with baseUrl := some value } else .error .misused
  | .defaults =>
    if draft.defaults.isNone ∧ value ≠ "" then .ok { draft with defaults := some value }
    else .error .misused

/-- Takes an operand; only one document can be compiled. -/
def Draft.take (draft : Draft) (value : String) : Command → Except Stop Draft
  | .compile =>
    if draft.document.isNone ∧ value ≠ "" then .ok { draft with document := some value }
    else .error .misused
  | .defaults => .error .misused

/-- Splits a long option at its first equals sign. -/
def splitValue (text : List Char) : String × Option String :=
  let name := text.takeWhile (· ≠ '=')
  match text.dropWhile (· ≠ '=') with
  | [] => (String.ofList name, none)
  | _ :: value => (String.ofList name, some (String.ofList value))

def readLong (command : Command) (draft : Draft) (text : List Char) :
    Except Stop (Expectation × Draft) :=
  let (name, value) := splitValue text
  match Switch.all.find? (fun switch => switch.name = name),
      command.settings.find? (fun setting => setting.name = name), value with
  | some switch, _, none => (switch.obey command.fullName).map fun _ => (.anything, draft)
  | none, some setting, some value => (draft.set value setting).map (.anything, ·)
  | none, some setting, none => .ok (.valueOf setting, draft)
  | _, _, _ => .error .misused

/-- Reads letters that share a dash; a value ends them. -/
def readLetters (command : Command) (draft : Draft) :
    List Char → Except Stop (Expectation × Draft)
  | [] => .ok (.anything, draft)
  | letter :: rest =>
    match Switch.all.find? (fun switch => switch.letter = letter),
        command.settings.find? (fun setting => setting.letter? = some letter) with
    | some switch, _ => do
      switch.obey command.fullName
      readLetters command draft rest
    | none, some setting =>
      match rest with
      | [] => .ok (.valueOf setting, draft)
      | '=' :: value => (draft.set (String.ofList value) setting).map (.anything, ·)
      | value => (draft.set (String.ofList value) setting).map (.anything, ·)
    | none, none => .error .misused

/-- Whether an argument starts like an option; a single dash does not. -/
def looksLikeOption (argument : String) : Bool :=
  match argument.toList with
  | '-' :: _ :: _ => true
  | _ => false

/-- Reads one argument of a command. -/
def readArgument (command : Command) : Expectation × Draft → String →
    Except Stop (Expectation × Draft)
  | (.operand, draft), argument => (draft.take argument command).map (.operand, ·)
  | (.valueOf setting, draft), argument =>
    if looksLikeOption argument then .error .misused
    else (draft.set argument setting).map (.anything, ·)
  | (.anything, draft), argument =>
    match argument.toList with
    | ['-', '-'] => .ok (.operand, draft)
    | '-' :: '-' :: text => readLong command draft text
    | '-' :: letter :: rest => readLetters command draft (letter :: rest)
    | _ => (draft.take argument command).map (.anything, ·)

/-- What a command is asked to do, once its arguments are read. -/
def Command.invocation (draft : Draft) : Command → Except Stop Invocation
  | .compile =>
    match draft.document with
    | some document =>
      .ok (.compile ⟨document, draft.format.getD .params, draft.baseUrl, draft.defaults⟩)
    | none => .error .misused
  | .defaults => .ok (.defaults draft.defaults)

def readCommand (command : Command) (arguments : List String) : Except Stop Invocation := do
  match ← arguments.foldlM (readArgument command) (.anything, {}) with
  | (.valueOf _, _) => .error .misused
  | (_, draft) => command.invocation draft

/-- Obeys the switches that share a dash. -/
def obeyLetters : List Char → Except Stop Unit
  | [] => .ok ()
  | letter :: rest =>
    match Switch.all.find? fun switch => switch.letter = letter with
    | some switch => do
      switch.obey programName
      obeyLetters rest
    | none => .error .misused

/-- An option before the command. -/
def obeyLeading (argument : String) : Except Stop Unit :=
  match argument.toList with
  | '-' :: '-' :: name =>
    match Switch.all.find? fun switch => switch.name = String.ofList name with
    | some switch => switch.obey programName
    | none => .error .misused
  | '-' :: letter :: rest => obeyLetters (letter :: rest)
  | _ => .error .misused

/-- Whether the arguments of the help command name something that has help. -/
def isHelpTopic : List String → Bool
  | [] => true
  | [topic] => topic = "help" || Command.all.any fun command => command.name = topic
  | _ => false

def read : List String → Except Stop Invocation
  | [] => .error .misused
  | argument :: rest =>
    match Command.all.find? fun command => command.name = argument with
    | some command => readCommand command rest
    | none =>
      if argument = "help" then (if isHelpTopic rest then .ok .help else .error .misused)
      else do
        obeyLeading argument
        read rest

end CommandLine

/-- What arguments ask for, if they can be understood. -/
def Invocation.ofArguments? (arguments : List String) : Option Invocation :=
  match CommandLine.read arguments with
  | .ok invocation => some invocation
  | .error (.asked invocation) => some invocation
  | .error .misused => none

end QueryOptions
