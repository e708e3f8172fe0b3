/-
What can go wrong between the bytes of an input and a document.

Each error is a cause with the facts that belong to it, and each type has one
function for its wording.
-/
import CountedConfig.Line.Operator

namespace CountedConfig

instance decidableEqExcept {ε α : Type} [DecidableEq ε] [DecidableEq α] :
    DecidableEq (Except ε α)
  | .ok a, .ok b => decidable_of_iff (a = b) (by simp)
  | .error d, .error e => decidable_of_iff (d = e) (by simp)
  | .ok _, .error _ => isFalse (by simp)
  | .error _, .ok _ => isFalse (by simp)

inductive ReadError where
  | invalidUtf8
  | notFound
  | isDirectory
  | notDirectory
  | nulInPath
  /-- The path cannot be followed to its end.  The system tells why, by a number and in
  words. -/
  | unreachable (number : Nat) (wording : Text)
  /-- There is something at the path, which the system does not let be read. -/
  | refused (number : Nat) (wording : Text)
  deriving DecidableEq, Repr

namespace ReadError

/-- What the system says, with the number of the error. -/
def ofSystem (number : Nat) (wording : Text) : Text :=
  wording ++ " (os error ".toList ++ Text.ofNat number ++ [')']

def message : ReadError → Text
  | .invalidUtf8 => "stream did not contain valid UTF-8".toList
  | .notFound => ofSystem 2 "No such file or directory".toList
  | .isDirectory => ofSystem 21 "Is a directory".toList
  | .notDirectory => ofSystem 20 "Not a directory".toList
  | .nulInPath => "file name contained an unexpected NUL byte".toList
  | .unreachable number wording => ofSystem number wording
  | .refused number wording => ofSystem number wording

end ReadError

namespace CountUnit

/-- The unit as it stands after a number in a message. -/
def label : CountUnit → Text
  | .lines => "line(s)".toList
  | .characters => "character(s)".toList

end CountUnit

inductive ReadFailure where
  /-- The input ended after `available` of the units that were asked for. -/
  | exhausted (unit : CountUnit) (requested available : Nat)
  | unreadable (cause : ReadError)
  deriving DecidableEq, Repr

namespace ReadFailure

def message : ReadFailure → Text
  | .exhausted unit requested available =>
    "input ended after ".toList ++ Text.ofNat available ++ " of ".toList ++
      Text.ofNat requested ++ ' ' :: unit.label
  | .unreadable cause => cause.message

end ReadFailure

inductive ParseError where
  /-- A counted form announced more than the input still held. -/
  | truncated (key : Text) (unit : CountUnit) (requested available : Nat)
  | unreadable (origin : Text) (cause : ReadError)
  deriving DecidableEq, Repr

namespace ParseError

/-- A failed read, told of the key whose value it was for and of the input. -/
def ofReadFailure (key origin : Text) : ReadFailure → ParseError
  | .exhausted unit requested available => .truncated key unit requested available
  | .unreadable cause => .unreadable origin cause

def message : ParseError → Text
  | .truncated key unit requested available =>
    "Truncated input for key `".toList ++ key ++ "`: needed ".toList ++ Text.ofNat requested ++
      " more ".toList ++ unit.label ++ " but only ".toList ++ Text.ofNat available ++
      " remained".toList
  | .unreadable origin cause =>
    "Failed to read config input ".toList ++ origin ++ ": ".toList ++ cause.message

end ParseError
end CountedConfig
