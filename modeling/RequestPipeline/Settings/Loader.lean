import RequestPipeline.Settings.Decode
import RequestPipeline.Settings.Dotenv
import RequestPipeline.Toml.Reader

/-!
# Loading settings

Settings are loaded in steps: a preset, a text or a file, variables of the environment. A text
replaces everything before it; variables come last and override single settings.
-/

namespace RequestPipeline

open Text

/-- The form in which settings are written down. -/
inductive SettingsFormat where
  | toml
  | json
  deriving DecidableEq, Repr

/-- The format with a name in lower case. -/
def SettingsFormat.ofName? (name : String) : Option SettingsFormat :=
  if name == "toml" then some .toml else if name == "json" then some .json else none

/-- The settings that a text writes. -/
def Settings.parse (content : String) : SettingsFormat → Except SettingsError Settings
  | .toml =>
    match (Toml.parse? content).bind (Settings.decode .tables) with
    | some s => .ok s
    | none => .error .badToml
  | .json =>
    match (Json.parse? content).bind (Settings.decode .json) with
    | some s => .ok s
    | none => .error .badJson

/-- A directory of files by name. -/
structure Directory where
  files : List (String × String) := []

/-- What a path leads to. -/
inductive Found where
  | missing
  | directory
  | file (content : String)

/-- The names that a path passes through; empty parts and single points lead nowhere. -/
def pathNames (path : String) : List String :=
  (split '/' path).filter fun part => part != "" && part != "."

/-- Whether a path says itself that it leads to a directory. -/
def namesDirectory (path : String) : Bool :=
  match (split '/' path).getLast? with
  | some last => last == "" || last == "."
  | none => false

namespace Directory

/-- What a path leads to from the directory, in which there are files only. Of the rest of the world
it is known that directories above are there. -/
def find (d : Directory) (path : String) : Found :=
  if path.isEmpty then .missing
  else
    match pathNames path with
    -- nothing but separators and points
    | [] => .directory
    | [name] =>
      if name == ".." then .directory
      else if namesDirectory path || path.toList.head? == some '/' then .missing
      else
        match d.files.lookup name with
        | some content => .file content
        | none => .missing
    | names => if names.all (· == "..") then .directory else .missing

end Directory

/-- The part of a file name behind its last point, in lower case; a point in front of everything
makes no such part. -/
def fileExtension (path : String) : String :=
  match (split '/' path).getLast? with
  | none => ""
  | some name =>
    match (split '.' name).reverse with
    | part :: _ :: _ =>
      if (split '.' name).length == 2 && name.toList.head? == some '.' then "" else lower part
    | _ => ""

/-- A step in loading settings. -/
inductive LoadStep where
  /-- Everything by default. -/
  | defaults
  | development
  | production
  | text (content format : String)
  | file (path : String)
  /-- A file that need not be there. -/
  | optionalFile (path : String)
  /-- Variables whose names start like this override settings. -/
  | variables (start : String)
  /-- Variables are read from the usual file. -/
  | dotenv

/-- The state of loading settings. -/
structure Loader where
  settings : Settings := {}
  /-- How the names of variables start that override settings. -/
  start : Option String := none
  environment : Environment := []
  directory : Directory := {}

namespace Loader

/-- Loads a file. -/
def loadFile (l : Loader) (path : String) : Except SettingsError Loader :=
  match l.directory.find path with
  | .missing => .error (.fileNotFound path)
  | .directory => .error (.unreadable path)
  | .file content =>
    match SettingsFormat.ofName? (fileExtension path) with
    | none => .error (.unsupportedFormat path)
    | some format => (Settings.parse content format).map fun s => { l with settings := s }

/-- One step. -/
def step (l : Loader) : LoadStep → Except SettingsError Loader
  | .defaults => .ok { l with settings := {} }
  | .development => .ok { l with settings := .development }
  | .production => .ok { l with settings := .production }
  | .text content format =>
    match SettingsFormat.ofName? (lower format) with
    | none => .error (.unsupportedFormat (lower format))
    | some format => (Settings.parse content format).map fun s => { l with settings := s }
  | .file path => l.loadFile path
  | .optionalFile path =>
    match l.directory.find path with
    | .missing => .ok l
    | _ => l.loadFile path
  | .variables start => .ok { l with start := some (upper start) }
  | .dotenv =>
    match l.directory.find ".env" with
    | .file content =>
      match Dotenv.load content l.environment with
      | some environment => .ok { l with environment }
      | none => .error .badDotenv
    | _ => .ok l

/-- Several steps, up to the first that fails. -/
def steps : List LoadStep → Loader → Except SettingsError Loader
  | [], l => .ok l
  | s :: rest, l => (l.step s).bind (steps rest)

/-- The settings with the overrides of the environment. -/
def overridden (l : Loader) : Except SettingsError Settings :=
  match l.start with
  | some start => l.settings.applyEnvironment start l.environment
  | none => .ok l.settings

/-- The settings with the overrides of the environment, if they hold. -/
def load (l : Loader) (accepts : String → Bool := Directive.isValid) :
    Except SettingsError Settings :=
  l.overridden.bind fun s => s.validated accepts

/-- The settings as they are. -/
def loadUnvalidated (l : Loader) : Settings := l.settings

end Loader

end RequestPipeline
