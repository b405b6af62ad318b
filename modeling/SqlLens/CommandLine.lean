import SqlLens.Server.Basic

/-!
The command line.

`Options.parse` reads the arguments. Help and the version end reading as soon as they are met, a mistake likewise. An
option without its value is noticed when the next option or the end is met.
-/

namespace SqlLens.CommandLine

structure Options where
  config : Option String
  project : Option String
deriving DecidableEq

inductive Key where
  | config
  | project
deriving DecidableEq

def Key.usage : Key → String
  | config => "--config <CONFIG>"
  | project => "--project-id <PROJECT_ID>"

inductive Word where
  | key (key : Key)
  | help
  | version
deriving DecidableEq

def Word.ofLong? : String → Option Word
  | "config" => some (key .config)
  | "project-id" => some (key .project)
  | "help" => some help
  | "version" => some version
  | _ => none

def Word.ofShort? : Char → Option Word
  | 'c' => some (key .config)
  | 'h' => some help
  | 'V' => some version
  | _ => none

inductive Stop where
  | help
  | version
  | unexpected (argument : String)
  | missingValue (key : Key)
  | repeated (key : Key)
  | extraValue (option value : String)
  | cannotLoad (path : String)
  | badSettings (error : SettingsError)
deriving DecidableEq

namespace Options

def empty : Options := ⟨none, none⟩

def has (options : Options) : Key → Bool
  | .config => options.config.isSome
  | .project => options.project.isSome

def set (options : Options) (key : Key) (value : String) : Except Stop Options :=
  if options.has key then .error (.repeated key)
  else
    match key with
    | .config => if value.isEmpty then .error (.missingValue key) else .ok { options with config := some value }
    | .project => .ok { options with project := some value }

end Options

/-- Reads the letters after a single dash. Either all options are complete, or the last one waits for its value. -/
def readShort (options : Options) : List Char → Except Stop (Options × Option Key)
  | [] => .ok (options, none)
  | letter :: rest =>
    match Word.ofShort? letter with
    | none => .error (.unexpected (String.ofList ['-', letter]))
    | some .help => .error .help
    | some .version => .error .version
    | some (.key key) =>
      match rest with
      | [] => .ok (options, some key)
      | '=' :: value => do return (← options.set key (String.ofList value), none)
      | value => do return (← options.set key (String.ofList value), none)

def splitLong (text : List Char) : String × Option String :=
  match text.span (· ≠ '=') with
  | (name, []) => (String.ofList name, none)
  | (name, _ :: value) => (String.ofList name, some (String.ofList value))

def settle (waiting : Option Key) : Except Stop Unit :=
  match waiting with
  | some key => .error (.missingValue key)
  | none => .ok ()

def readFrom (options : Options) (waiting : Option Key) : List String → Except Stop Options
  | [] => do
    settle waiting
    return options
  | argument :: rest =>
    match argument.toList with
    | '-' :: '-' :: [] =>
      match rest with
      | [] => do
        settle waiting
        return options
      | value :: _ => .error (.unexpected value)
    | '-' :: '-' :: long =>
      match splitLong long with
      | (name, value) =>
        match Word.ofLong? name, value with
        | none, _ => .error (.unexpected ("--" ++ name))
        | some (.key key), some value => do
          settle waiting
          readFrom (← options.set key value) none rest
        | some (.key key), none => do
          settle waiting
          readFrom options (some key) rest
        | some _, some value => .error (.extraValue ("--" ++ name) value)
        | some .help, none => do
          settle waiting
          .error .help
        | some .version, none => do
          settle waiting
          .error .version
    | '-' :: letter :: letters => do
      if (Word.ofShort? letter).isSome then settle waiting
      let (options, waiting) ← readShort options (letter :: letters)
      readFrom options waiting rest
    | _ =>
      match waiting with
      | some key => do readFrom (← options.set key argument) none rest
      | none => .error (.unexpected argument)

def Options.parse (arguments : List String) : Except Stop Options := readFrom .empty none arguments

namespace Stop

def helpText : String :=
  "BigQuery SQL language server\n\nUsage: bqls [OPTIONS]\n\nOptions:\n" ++
    "  -c, --config <CONFIG>          Path to config file (default: bqls.toml in the working directory)\n" ++
    "      --project-id <PROJECT_ID>  Default project for table paths without one\n" ++
    "  -h, --help                     Print help\n" ++
    "  -V, --version                  Print version\n"

def output : Stop → String
  | help => helpText
  | version => "bqls 0.1.0\n"
  | _ => ""

def complaint? : Stop → Option String
  | help | version => none
  | unexpected argument => some ("error: unexpected argument '" ++ argument ++ "' found")
  | missingValue key => some ("error: a value is required for '" ++ key.usage ++ "' but none was supplied")
  | repeated key => some ("error: the argument '" ++ key.usage ++ "' cannot be used multiple times")
  | extraValue option value =>
    some ("error: unexpected value '" ++ value ++ "' for '" ++ option ++ "' found; no more were expected")
  | cannotLoad path => some ("Error: Failed to load " ++ path)
  | badSettings error => some ("Error: " ++ error.message)

def exitCode : Stop → Nat
  | help | version => 0
  | cannotLoad _ | badSettings _ => 1
  | unexpected _ | missingValue _ | repeated _ | extraValue .. => 2

end Stop

def settings (files : Files) (folder : String) (options : Options) : Except Stop Settings := do
  let loaded ← match options.config with
    | some path =>
      match Settings.load files path with
      | .ok settings => .ok settings
      | .error _ => .error (Stop.cannotLoad path)
    | none =>
      match Settings.discover files folder with
      | .ok settings => .ok settings
      | .error error => .error (Stop.badSettings error)
  return { loaded with project := options.project.or loaded.project }

def storeOf (settings : Settings) : Store :=
  ⟨.snapshots settings.snapshotFolder, some (.empty (settings.metadata.lifetime * 1000))⟩

def start (files : Files) (folder : String) (arguments : List String) : Except Stop Server := do
  let settings ← settings files folder (← Options.parse arguments)
  return .of (.empty settings files (storeOf settings) 0)

end SqlLens.CommandLine
