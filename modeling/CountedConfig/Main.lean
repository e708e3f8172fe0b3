/-
The listing command as a program.

Everything is decided by `Invocation`.  Here its parts are fetched, the settings
file first and then the file that it leads to, and the outcome is written out.
-/
import CountedConfig.Command

namespace CountedConfig
namespace Program

/-- The pieces of a file in which each piece ends with a NUL byte. -/
def pieces (path : String) : IO (List Bytes) := do
  let content ← IO.FS.readBinFile path
  return (content.toList.splitOn 0).dropLast

/-- The home directory of the account, as the table of the accounts has it. -/
def accountHome : IO (Option Path) := do
  try
    let status ← IO.FS.lines "/proc/self/status"
    let accounts ← IO.FS.lines "/etc/passwd"
    let some ids := status.toList.findSome? fun line =>
      "Uid:\t".toList.isPrefixOf? line.toList | return none
    let id := ids.takeWhile (· != '\t')
    return accounts.toList.findSome? fun line =>
      match line.toList.splitOn ':' with
      | [_, _, number, _, _, home, _] => if number = id then some (Text.encode home) else none
      | _ => none
  catch _ => return none

/-- The number and the words of an error that comes from the system. -/
def ofSystem? : IO.Error → Option (Nat × Text)
  | .otherError number words | .resourceBusy number words | .resourceVanished number words
  | .unsupportedOperation number words | .hardwareFault number words
  | .unsatisfiedConstraints number words | .illegalOperation number words
  | .protocolError number words | .timeExpired number words | .interrupted _ number words
  | .noFileOrDirectory _ number words | .alreadyExists _ number words
  | .invalidArgument _ number words | .permissionDenied _ number words
  | .resourceExhausted _ number words | .inappropriateType _ number words
  | .noSuchThing _ number words => some (number.toNat, words.toList)
  | .unexpectedEof | .userError _ => none

/-- Whether a path can be followed to its end. -/
def leads (path : String) : IO Bool := do
  try
    discard (IO.FS.realPath path)
    return true
  catch _ => return false

/-- What reading the file at a path gives.  The files of the runtime have names that are
text, so a path that is none leads nowhere. -/
def fetch (path : Path) : IO (Except ReadError Bytes) := do
  if path.contains 0 then return .error .nulInPath
  let some name := Text.decode? path
    | return .error (.unreachable 84 "Invalid or incomplete multibyte or wide character".toList)
  let name := String.ofList name
  try
    let file ← IO.FS.Handle.mk name .read
    return .ok (← file.readBinToEnd).toList
  catch e =>
    match ofSystem? e with
    | some (2, _) => return .error .notFound
    | some (20, _) => return .error .notDirectory
    | some (21, _) => return .error .isDirectory
    | reason =>
      let (number, words) := reason.getD (5, "Input/output error".toList)
      return .error (if ← leads name then .refused number words else .unreachable number words)

/-- A disk on which one file is known, and all other paths lead where they did. -/
def learn (path : Path) (content : Except ReadError Bytes) (disk : Disk) : Disk := fun p =>
  if p = path then content else disk p

def invocation : IO Invocation := do
  let words ← pieces "/proc/self/cmdline"
  let environment : Environment := ⟨← pieces "/proc/self/environ", ← accountHome⟩
  let start : Invocation := ⟨words.headD [], words.tail, environment, fun _ => .error .notFound⟩
  let path := start.settingsPath
  let located := { start with disk := learn path (← fetch path) start.disk }
  match located.input with
  | .ok path => return { located with disk := learn path (← fetch path) located.disk }
  | .error _ => return located

def recordLine (r : Record) : Text :=
  '[' :: r.level.name ++ ' ' :: r.target ++ "] ".toList ++ r.message

/-- The status that a caller sees.  A process that stops itself does so by a signal. -/
def status : Exit → UInt32
  | .code n => n.toUInt32
  | .aborted => 128 + 6

/-- Calls the command and writes out what it leaves behind, the log between what is
said of the log specification and what is said of the error. -/
def run : IO UInt32 := do
  let outcome := (← invocation).outcome
  let lines := outcome.complaints ++ outcome.log.map recordLine ++ outcome.errors
  IO.eprint (String.ofList (Text.ofLines lines))
  IO.print (String.ofList outcome.output)
  return status outcome.exit

end Program
end CountedConfig

def main : IO UInt32 :=
  CountedConfig.Program.run
