/-
The listing command.

The command lists the document in one file: the file that its only argument names,
or the default input of the settings when there is no argument.  Settings that
cannot be had are no reason to stop, since the command can do without them.  A name or
an argument that is no text stops it before it looks for any settings, although a
default input that is no text does not.  What a call comes to is a function of what it
finds, an `Invocation`.
-/
import CountedConfig.Document.Listing
import CountedConfig.File.Reading
import CountedConfig.Log.Directive
import CountedConfig.Settings

namespace CountedConfig

structure Invocation where
  name : Bytes
  arguments : List Bytes
  environment : Environment
  disk : Disk

inductive CommandError where
  /-- The name or an argument is no text. -/
  | undecodable (argument : Bytes)
  | tooManyArguments
  /-- No argument, and no default input in the settings that belong at the path. -/
  | noInput (settingsPath : Path)
  | unparsed (input : Path) (cause : ParseError)
  deriving DecidableEq, Repr

/-- How a call ends. -/
inductive Exit where
  | code (n : Nat)
  /-- The process stops itself where it stands. -/
  | aborted
  deriving DecidableEq, Repr

namespace ParseError

/-- The message of the error, and then the message of what it goes back to. -/
def trail (e : ParseError) : List Text :=
  e.message ::
    match e with
    | .truncated .. => []
    | .unreadable _ cause => [cause.message]

end ParseError

namespace CommandError

def exit : CommandError → Exit
  | .undecodable _ => .aborted
  | _ => .code 1

/-- What is said of an error.  Where a call stops itself, the place in the program that is
told beside the reason is left out. -/
def lines (name : Text) : CommandError → List Text
  | .undecodable argument =>
    ["called `Result::unwrap()` on an `Err` value: ".toList ++ Text.quotedBytes argument]
  | .tooManyArguments => ["Usage: ".toList ++ name ++ " [config-file]".toList]
  | .noInput settingsPath =>
    ["Error: No input file provided and no default_input configured".toList,
      "Usage: ".toList ++ name ++ " <config-file>".toList,
      "Or set default_input in a settings file at ".toList ++ settingsPath.display ++
        " (or $".toList ++ Settings.pathVariable ++ [')']]
  | .unparsed input cause =>
    ["Error: ".toList ++
      List.intercalate ": ".toList (("parsing ".toList ++ input.display) :: cause.trail)]

end CommandError

structure Outcome where
  exit : Exit
  output : Text
  /-- What is said of a log specification that cannot be followed. -/
  complaints : List Text
  log : List Record
  errors : List Text
  deriving DecidableEq, Repr

namespace Invocation

/-- The variable that holds the log specification. -/
def logVariable : Text := "RUST_LOG".toList

def target : Text := "confline".toList

def logSpecification? (v : Invocation) : Option Text := v.environment.text? logVariable

/-- The directives that decide which records are shown, and what is said of the
specification that they come from. -/
def logging (v : Invocation) : Directives × List Text :=
  match v.logSpecification? with
  | some spec => Directives.read spec
  | none => (.standard, [])

def settingsPath (v : Invocation) : Path := Settings.path v.environment

def loaded (v : Invocation) : Except SettingsError (Option Settings) :=
  Settings.load v.environment v.disk v.settingsPath

def settings (v : Invocation) : Settings :=
  match v.loaded with
  | .ok (some s) => s
  | .ok none => .default
  | .error _ => .default

/-- The first of the name and the arguments that is no text. -/
def undecodable? (v : Invocation) : Option Bytes :=
  (v.name :: v.arguments).find? fun b => (Text.decode? b).isNone

def input (v : Invocation) : Except CommandError Path :=
  match v.undecodable? with
  | some b => .error (.undecodable b)
  | none =>
    match v.arguments with
    | [path] => .ok path
    | [] =>
      match v.settings.defaultInput with
      | some path => .ok path
      | none => .error (.noInput v.settingsPath)
    | _ => .error .tooManyArguments

def document (v : Invocation) : Except CommandError Document :=
  match v.input with
  | .error e => .error e
  | .ok path =>
    match parseFile v.disk path with
    | .ok d => .ok d
    | .error cause => .error (.unparsed path cause)

/-- The record about a settings file that is left out of account. -/
def settingsRecords (v : Invocation) : List Record :=
  match v.loaded with
  | .error e => [⟨.warn, target, "Ignoring settings file: ".toList ++ e.message⟩]
  | .ok _ => []

/-- The record about an input that no argument names. -/
def inputRecords (v : Invocation) : List Record :=
  match v.arguments, v.settings.defaultInput with
  | [], some _ => [⟨.info, target, "Using default_input from ".toList ++ v.settingsPath.display⟩]
  | _, _ => []

def readingRecords (v : Invocation) : List Record :=
  match v.input with
  | .ok path => (logFile v.disk path).map Event.record
  | .error _ => []

def records (v : Invocation) : List Record :=
  match v.undecodable? with
  | some _ => []
  | none => v.settingsRecords ++ v.inputRecords ++ v.readingRecords

def outcome (v : Invocation) : Outcome :=
  let (directives, complaints) := v.logging
  let log := (v.records.filter directives.shows).map Record.plain
  match v.document with
  | .ok d => ⟨.code 0, Text.ofLines (d.listing v.settings.marker.text), complaints, log, []⟩
  | .error e => ⟨e.exit, [], complaints, log, e.lines (Text.lossy v.name)⟩

end Invocation

namespace Outcome

/-- The diagnostics of a call without the log records, which each logger lays out in
its own way. -/
def diagnostics (o : Outcome) : Text := Text.ofLines (o.complaints ++ o.errors)

end Outcome
end CountedConfig
