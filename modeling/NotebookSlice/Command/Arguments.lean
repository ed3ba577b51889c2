/-!
# Command lines

A command line names a command and its options. An option has a value, which follows it as the next
argument or after an equals sign, or it is a flag without a value. A value that follows as an
argument of its own must not look like an option. No option may be given twice. Two hyphens may
close the options.
-/

namespace NotebookSlice.Command

/-- What is gathered. -/
inductive Target where
  /-- The last execution of a cell. -/
  | cell (id : String)
  | event (id : String)
deriving DecidableEq, Repr, Inhabited

/-- A command with its options. -/
inductive Request where
  | initSettings (root : String) (marker : Option String) (disabled : Bool)
  | gather (root session : String) (target : Target) (marker output : Option String)
  | history (session : String) (json : Bool)
  | facts (session : String) (json : Bool)
deriving DecidableEq, Repr, Inhabited

/-- What a command line asks for. -/
inductive Invocation where
  | run (request : Request)
  | version
  | help
  /-- The command line makes no sense. -/
  | misuse
deriving DecidableEq, Repr, Inhabited

/-- The options of a command. -/
structure Options where
  /-- The options with values. -/
  valued : List String := []
  flags : List String := []
deriving DecidableEq, Repr, Inhabited

/-- The options that were given. -/
structure Given where
  values : List (String × String) := []
  flags : List String := []
deriving DecidableEq, Repr, Inhabited

namespace Given

/-- The value of an option. -/
def value? (given : Given) (name : String) : Option String := given.values.lookup name

/-- Whether a flag was given. -/
def has (given : Given) (name : String) : Bool := given.flags.contains name

end Given

/-- Whether an argument looks like an option. -/
def looksLikeOption (argument : String) : Bool := argument.startsWith "-" && argument != "-"

/-- The name of a long option and what follows its equals sign. -/
def splitOption (argument : String) : String × Option String :=
  match argument.splitOn "=" with
  | [name] => (name, none)
  | name :: rest => (name, some ("=".intercalate rest))
  | [] => (argument, none)

/-- The options that were given, with one more value. -/
def Given.addValue (given : Given) (name value : String) : Given :=
  { given with values := (name, value) :: given.values }

mutual

/-- Reads the arguments after a command; ends early with what the command line asks for if that is
not to run the command. -/
def readOptions (options : Options) (given : Given) : List String → Except Invocation Given
  | [] => .ok given
  | argument :: rest =>
    let (name, attached) := splitOption argument
    if argument == "--" && rest.isEmpty then .ok given
    else if argument.startsWith "--" then
      if options.valued.contains name then
        if (given.value? name).isSome then .error .misuse
        else
          match attached with
          | some value => readOptions options (given.addValue name value) rest
          | none => readValue options given name rest
      else if attached.isSome then .error .misuse
      else if name == "--help" then .error .help
      else if options.flags.contains name && !given.has name then
        readOptions options { given with flags := name :: given.flags } rest
      else .error .misuse
    else if argument.startsWith "-h" then .error .help
    else .error .misuse

/-- Reads the arguments after the name of an option with a value. -/
def readValue (options : Options) (given : Given) (name : String) :
    List String → Except Invocation Given
  | [] => .error .misuse
  | value :: rest =>
    if looksLikeOption value then .error .misuse
    else readOptions options (given.addValue name value) rest

end

/-- The flag that every command has. -/
def commonFlags : List String := ["--verbose"]

/-- The options of a command, if there is such a command. -/
def optionsOf? : String → Option Options
  | "init-settings" =>
    some { valued := ["--root", "--marker"], flags := "--disabled" :: commonFlags }
  | "gather" =>
    some { valued := ["--root", "--session", "--cell", "--event", "--marker", "--output"],
           flags := commonFlags }
  | "history" | "facts" => some { valued := ["--session"], flags := "--json" :: commonFlags }
  | _ => none

/-- The request of a command with the options that were given; none if an option is missing or two
contradict each other. -/
def request? (command : String) (given : Given) : Option Request :=
  let root := (given.value? "--root").getD "."
  let marker := given.value? "--marker"
  match command with
  | "init-settings" => some (.initSettings root marker (given.has "--disabled"))
  | "gather" => do
    let session ← given.value? "--session"
    let target ←
      match given.value? "--cell", given.value? "--event" with
      | some id, none => some (.cell id)
      | none, some id => some (.event id)
      | _, _ => none
    return .gather root session target marker (given.value? "--output")
  | "history" => return .history (← given.value? "--session") (given.has "--json")
  | "facts" => return .facts (← given.value? "--session") (given.has "--json")
  | _ => none

/-- What the arguments after a command ask for. -/
def invokeCommand (command : String) (arguments : List String) : Invocation :=
  match optionsOf? command with
  | none => .misuse
  | some options =>
    match readOptions options {} arguments with
    | .error invocation => invocation
    | .ok given =>
      match request? command given with
      | some request => .run request
      | none => .misuse

/-- Whether the arguments ask for help about commands that exist. -/
def isHelpTopic : List String → Bool
  | [] => true
  | [topic] => topic == "help" || (optionsOf? topic).isSome
  | _ => false

/-- What a command line asks for; `verbose` says that the flag was given before. -/
def invoke (verbose : Bool) : List String → Invocation
  | [] => .misuse
  | "--verbose" :: rest => if verbose then .misuse else invoke true rest
  | "--version" :: _ => .version
  | "--help" :: _ => .help
  | "help" :: topics => if isHelpTopic topics then .help else .misuse
  | argument :: rest =>
    if argument.startsWith "-V" then .version
    else if argument.startsWith "-h" then .help
    else invokeCommand argument rest

end NotebookSlice.Command
