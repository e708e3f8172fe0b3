/-
The physical lines of an input.

Bytes are cut after each newline byte and every line is decoded on its own, so an
encoding error spoils one line and not those around it.  A line that ends in a
carriage return and a newline ends in the newline alone: counts see one character
for either terminator.
-/
import CountedConfig.Text.Utf8

namespace CountedConfig

/-- A line of the input.  Its text is never empty, since there is at least a
character or a newline in it. -/
inductive PhysicalLine where
  | text (first : Char) (rest : Text)
  | undecodable
  deriving DecidableEq, Repr

/-- The text with a final carriage return and newline made a newline. -/
def normalizeEnd : Text → Text
  | [] => []
  | ['\r', '\n'] => ['\n']
  | c :: rest => c :: normalizeEnd rest

/-- The bytes cut after each newline.  No piece is empty. -/
def splitLines : Bytes → List Bytes
  | [] => []
  | b :: rest =>
    if b = 10 then [b] :: splitLines rest
    else match splitLines rest with
      | [] => [[b]]
      | line :: more => (b :: line) :: more

namespace PhysicalLine

/-- The line that a piece of the input is.  No bytes are no line. -/
def ofBytes? (b : Bytes) : Option PhysicalLine :=
  match Text.decode? b with
  | none => some .undecodable
  | some t => match normalizeEnd t with
    | [] => none
    | c :: rest => some (.text c rest)

def ofInput (b : Bytes) : List PhysicalLine := (splitLines b).filterMap ofBytes?

/-- The number of characters.  A line that cannot be decoded counts as one. -/
def size : PhysicalLine → Nat
  | .text _ rest => rest.length + 1
  | .undecodable => 1

def totalSize : List PhysicalLine → Nat
  | [] => 0
  | line :: more => line.size + totalSize more

end PhysicalLine
end CountedConfig
