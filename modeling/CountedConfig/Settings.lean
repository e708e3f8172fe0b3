/-
The settings of the listing command.

A settings file is a TOML document with two keys of its own, both optional and both
strings: `default_input`, the file that is listed when none is named, and
`space_marker`, the text that makes spaces visible.  Other keys are left to others.
-/
import CountedConfig.Error
import CountedConfig.File.Tree
import CountedConfig.Settings.Expansion
import CountedConfig.Toml.Known

namespace CountedConfig

inductive MarkerFault where
  | empty
  | lineBreak
  deriving DecidableEq, Repr

namespace MarkerFault

def message : MarkerFault → Text
  | .empty => "must not be empty".toList
  | .lineBreak => "must not contain line breaks".toList

end MarkerFault

/-- A text that makes a space visible and keeps the listing of an entry on the lines
that the entry has. -/
structure Marker where
  text : Text
  nonempty : text ≠ []
  onOneLine : ∀ c ∈ text, Text.isLineBreak c = false

namespace Marker

def ofText (t : Text) : Except MarkerFault Marker :=
  if he : t = [] then .error .empty
  else if hb : t.any Text.isLineBreak = true then .error .lineBreak
  else .ok ⟨t, he, fun c hc => by
    simp only [List.any_eq_true, not_exists, not_and, Bool.not_eq_true] at hb
    exact hb c hc⟩

/-- The marker that stands in for a space unless another is set. -/
def period : Marker :=
  ⟨['.'], List.cons_ne_nil _ _, fun _ hc => List.mem_singleton.1 hc ▸ rfl⟩

end Marker

structure Settings where
  /-- The file that is listed when none is named. -/
  defaultInput : Option Path
  marker : Marker

inductive SettingsError where
  | unreadable (path : Path) (cause : ReadError)
  /-- The file is not in order, which is told in detail. -/
  | malformed (path : Path) (detail : Text)
  | invalidMarker (path : Path) (fault : MarkerFault)
  deriving DecidableEq, Repr

namespace SettingsError

def message : SettingsError → Text
  | .unreadable path cause =>
    "Failed to read settings file at ".toList ++ path.display ++ ": ".toList ++ cause.message
  | .malformed path detail =>
    "Failed to parse settings file at ".toList ++ path.display ++ ": ".toList ++ detail
  | .invalidMarker path fault =>
    "Invalid space_marker in ".toList ++ path.display ++ ": ".toList ++ fault.message

end SettingsError

namespace Settings

def default : Settings := ⟨none, .period⟩

/-- The variable that names another settings file. -/
def pathVariable : Text := "CONFLINE_CONFIG".toList

/-- Where the settings file is: where the variable says, or else in the directory
for configuration below the home directory. -/
def path (env : Environment) : Path :=
  match env.get? pathVariable with
  | some (b :: rest) => b :: rest
  | _ =>
    Path.join (Text.encode (Expansion.tilde env "~/.config/confline".toList))
      (Text.encode "config.toml".toList)

def inputKey : Text := "default_input".toList

def markerKey : Text := "space_marker".toList

/-- The keys of the settings, with what is awaited under each. -/
def keys : List (Text × Text) :=
  [(inputKey, "path string".toList), (markerKey, "a string".toList)]

/-- The file that a written path means.  Variables and `~` are expanded, all of them
or none, and a path that is relative after that is seen from the directory of the
settings file. -/
def resolveInput (env : Environment) (settingsPath : Path) (written : Text) : Path :=
  Path.join settingsPath.parent (Text.encode ((expand? env written).getD written))

/-- The settings that the text of a settings file at a path makes. -/
def ofText (env : Environment) (path : Path) (content : Text) : Except SettingsError Settings :=
  match Toml.read keys content with
  | .error e => .error (.malformed path (e.message content))
  | .ok entries =>
    match ((entries.string? markerKey).map Marker.ofText).getD (.ok .period) with
    | .error fault => .error (.invalidMarker path fault)
    | .ok marker => .ok ⟨(entries.string? inputKey).map (resolveInput env path), marker⟩

/-- The settings in the file at a path, or nothing when there is no file. -/
def load (env : Environment) (disk : Disk) (path : Path) : Except SettingsError (Option Settings) :=
  if disk.has path then
    match disk path with
    | .error cause => .error (.unreadable path cause)
    | .ok content =>
      match Text.decode? content with
      | none => .error (.unreadable path .invalidUtf8)
      | some text => (ofText env path text).map some
  else .ok none

end Settings
end CountedConfig
