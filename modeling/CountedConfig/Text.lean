/-
Text is a sequence of characters, and a line of configuration is a text.

Everything the library reads is taken apart from the front: by the characters
that belong to a class, by a count, or up to a separator.  On lists each of these
is a function of the standard library with its lemmas, so `Text` is a list.  The
command line and other callers convert at the boundary.
-/
namespace CountedConfig

abbrev Text := List Char

namespace Text

def dropTrailing (p : Char → Bool) (t : Text) : Text := (t.reverse.dropWhile p).reverse

/-- The characters that end a line, alone or as a pair. -/
def isLineBreak (c : Char) : Bool := c == '\n' || c == '\r'

/-- The text without the line breaks at its end, and nothing else. -/
def dropLineBreaks (t : Text) : Text := dropTrailing isLineBreak t

/-- A number in decimal digits, without leading zeros. -/
def ofNat (n : Nat) : Text := Nat.toDigits 10 n

/-- The number that a run of decimal digits denotes. -/
def toNat (digits : Text) : Nat := Nat.ofDigitChars 10 digits 0

theorem toNat_ofNat (n : Nat) : toNat (ofNat n) = n :=
  Nat.ofDigitChars_toDigits (by decide) (by decide)

/-- Each occurrence of `c` gives way to the replacement; all else stays. -/
def replace (c : Char) (replacement : Text) (t : Text) : Text :=
  t.flatMap fun d => if d = c then replacement else [d]

/-- The lines of an output, each ended by a newline. -/
def ofLines (lines : List Text) : Text := lines.flatMap (· ++ ['\n'])

/-- What follows `c` at the front of a text. -/
def after? (c : Char) : Text → Option Text
  | [] => none
  | d :: rest => if d = c then some rest else none

/-- The text before and after the first occurrence of `mark`. -/
def cut? (mark : Text) : Text → Option (Text × Text)
  | [] => if mark = [] then some ([], []) else none
  | c :: rest =>
    if mark <+: c :: rest then some ([], (c :: rest).drop mark.length)
    else (cut? mark rest).map fun (before, after) => (c :: before, after)

end Text
end CountedConfig
