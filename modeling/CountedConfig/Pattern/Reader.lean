/-
Reading a pattern from front to back.

A reader knows what is left of the pattern, how much is behind it, and the flags in
force.  Faults of meaning, such as a property that does not exist, are told only of
a pattern whose form is right, so the first of them is kept for the end.
-/
import CountedConfig.Pattern
import CountedConfig.Pattern.Error

namespace CountedConfig
namespace Pattern

structure Flags where
  /-- Letters stand for their other cases too. -/
  caseless : Bool
  /-- Lines have their own starts and ends. -/
  multiline : Bool
  /-- The dot stands for line ends too. -/
  dotAll : Bool
  /-- Carriage returns end lines. -/
  carriage : Bool
  /-- Blanks and comments in the pattern mean nothing. -/
  spaced : Bool
  /-- Characters beyond ASCII belong to classes. -/
  unicode : Bool
  /-- Repetitions are rare unless they are marked as eager. -/
  rare : Bool
  deriving DecidableEq, Repr

namespace Flags

def standard : Flags := ⟨false, false, false, false, false, true, false⟩

def letters : Text := "imsUuRx".toList

def set (f : Flags) (letter : Char) (value : Bool) : Flags :=
  match letter with
  | 'i' => { f with caseless := value }
  | 'm' => { f with multiline := value }
  | 's' => { f with dotAll := value }
  | 'R' => { f with carriage := value }
  | 'x' => { f with spaced := value }
  | 'u' => { f with unicode := value }
  | 'U' => { f with rare := value }
  | _ => f

/-- The flags changed by some letters, those behind a minus to off. -/
def change (f : Flags) (items : Text) : Flags :=
  let on := items.takeWhile (· != '-')
  let off := items.dropWhile (· != '-')
  off.foldl (fun f c => f.set c false) (on.foldl (fun f c => f.set c true) f)

def fold (f : Flags) (s : CharSet) : CharSet :=
  if f.caseless then if f.unicode then s.folded else s.folded.inter .ascii else s

def word (f : Flags) : CharSet :=
  if f.unicode then ⟨Unicode.wordRuns⟩
  else .unions [.digit, .upper, .lower, .single '_']

def digit (f : Flags) : CharSet :=
  if f.unicode then ⟨Unicode.ofCategory .decimalNumber⟩ else .digit

def blank (f : Flags) : CharSet :=
  if f.unicode then ⟨Text.blankRuns⟩ else .ofText "\t\n\x0b\x0c\r ".toList

/-- What the dot stands for. -/
def dot (f : Flags) : CharSet :=
  if f.dotAll then .any
  else .compl (.ofText (if f.carriage then ['\n', '\r'] else ['\n']))

def start (f : Flags) : Look :=
  if !f.multiline then .textStart else if f.carriage then .anyLineStart else .lineStart

def stop (f : Flags) : Look :=
  if !f.multiline then .textEnd else if f.carriage then .anyLineEnd else .lineEnd

end Flags

structure Scan where
  rest : Text
  place : Nat
  flags : Flags
  names : List (Text × Span)
  groups : Nat
  /-- The first fault of meaning. -/
  deferred : Option Error

abbrev Reader := StateT Scan (Except Error)

namespace Reader

def fail {α : Type} (fault : Fault) (start stop : Nat) : Reader α :=
  throw ⟨fault, ⟨start, stop⟩, none⟩

/-- Keeps a fault of meaning for the end, unless there was one before. -/
def defer (fault : Fault) (span : Span) : Reader Unit :=
  modify fun s => { s with deferred := s.deferred.or (some ⟨fault, span, none⟩) }

def place : Reader Nat := return (← get).place

def flags : Reader Flags := return (← get).flags

def setFlags (f : Flags) : Reader Unit := modify fun s => { s with flags := f }

def peek : Reader (Option Char) := return (← get).rest.head?

def atEnd : Reader Bool := return (← get).rest.isEmpty

def skip (n : Nat) : Reader Unit :=
  modify fun s => { s with rest := s.rest.drop n, place := s.place + min n s.rest.length }

/-- The text behind the blanks in front and behind comments, which run to the end of
their line. -/
def afterSpace : (inComment : Bool) → Text → Text
  | _, [] => []
  | true, c :: rest => afterSpace (c != '\n') rest
  | false, c :: rest =>
    if Text.isBlank c then afterSpace false rest
    else if c = '#' then afterSpace true rest
    else c :: rest

def skipSpace : Reader Unit := do
  if (← flags).spaced then
    let rest := (← get).rest
    skip (rest.length - (afterSpace false rest).length)

/-- Passes over one character and what means nothing behind it, and tells whether
there is more. -/
def step : Reader Bool := do
  skip 1
  skipSpace
  return !(← atEnd)

/-- The next character but one.  Where blanks mean nothing, neither they nor one number
sign among them count, unless nothing else follows. -/
def peekBehind : Reader (Option Char) := do
  let rest := (← get).rest.tail
  if !(← flags).spaced then return rest.head?
  let behind := rest.dropWhile Text.isBlank
  let behind := match behind with
    | '#' :: more => more.dropWhile Text.isBlank
    | behind => behind
  return behind.head?.or rest.head?

def takeWhile (p : Char → Bool) : Reader Text := do
  go ((← get).rest.length)
where
  go : (bound : Nat) → Reader Text
    | 0 => return []
    | bound + 1 => do
      match (← get).rest with
      | c :: _ =>
        if p c then
          let _ ← step
          return c :: (← go bound)
        else return []
      | [] => return []

def skipBlanks : Reader Unit := do
  skip ((← get).rest.takeWhile Text.isBlank).length

/-- A decimal number below 2³², with blanks around it.  What is wrong with it is told
where the number is used. -/
def decimal : Reader (Except Error Nat) := do
  skipBlanks
  let start ← place
  let digits ← takeWhile Char.isDigit
  let stop ← place
  let _ ← takeWhile Text.isBlank
  let n := Text.toNat digits
  return if digits = [] then .error ⟨.countEmpty, ⟨start, stop⟩, none⟩
    else if n ≤ 0xffffffff then .ok n
    else .error ⟨.decimalInvalid, ⟨start, stop⟩, none⟩

end Reader
end Pattern
end CountedConfig
