/-
Text for a device that only shows characters.

A text can hold sequences that steer a terminal.  They begin with an escape and run
to a final character that depends on how they go on, and a device without a terminal
gets the text without them.
-/
import CountedConfig.Text
import CountedConfig.Text.Utf8

namespace CountedConfig
namespace Text

/-- Where a text stands with respect to the sequences in it. -/
inductive Steering where
  | off
  | escape
  /-- In a short sequence, of which the final character is to come. -/
  | short
  /-- In a control sequence, which a bracket opened. -/
  | control
  /-- In a command to the operating system, which a bell ends. -/
  | command
  /-- In a string for the device: where it may open with a mark, among the digits that
  follow, among the blanks and marks behind those, and in the string itself. -/
  | deviceHead
  | deviceDigits
  | deviceMarks
  | deviceBody
  /-- In a string that means nothing to most terminals. -/
  | message
  deriving DecidableEq, Repr

namespace Steering

/-- The controls that move the place of writing, which are obeyed within a sequence. -/
def isObeyed (c : Char) : Bool := c == '\t' || c == '\n' || c == '\x0c' || c == '\r'

/-- A character that is shown outside of a sequence. -/
def isVisible (c : Char) : Bool := (0x20 ≤ c.toNat && c.toNat != 0x7f) || isObeyed c

/-- Whether the encoding of a character holds the byte that ends a string. -/
def endsString (c : Char) : Bool := (encode [c]).contains 0x9c

/-- What a character behind an escape opens. -/
def opened (c : Char) : Steering :=
  if c = '[' then .control
  else if c = ']' then .command
  else if c = 'P' then .deviceHead
  else if c = 'X' || c = '^' || c = '_' then .message
  else if c.toNat < 0x30 then .short
  else .off

/-- Where a character leads that stands in the head of a string for the device.  A mark
that is out of its place spoils the head, and the string has begun with it. -/
def inDevice (s : Steering) (c : Char) : Steering :=
  if c.toNat < 0x30 then .deviceMarks
  else if s = .deviceMarks || 0x40 ≤ c.toNat then .deviceBody
  else if s = .deviceDigits && 0x3c ≤ c.toNat then .deviceBody
  else .deviceDigits

/-- Where a text stands behind a character. -/
def after (s : Steering) (c : Char) : Steering :=
  if c = '\x1b' then .escape
  else if c = '\x18' || c = '\x1a' then .off
  else
    let isInside := 0x20 ≤ c.toNat && c.toNat < 0x7f
    match s with
    | .off => .off
    | .escape => if isInside then opened c else .escape
    | .short => if isInside && 0x30 ≤ c.toNat then .off else .short
    | .control => if isInside && 0x40 ≤ c.toNat then .off else .control
    | .command => if c = '\x07' then .off else .command
    | .deviceHead | .deviceDigits | .deviceMarks => if isInside then s.inDevice c else s
    | .deviceBody => if endsString c then .off else .deviceBody
    | .message => if endsString c then .off else .message

def shows (s : Steering) (c : Char) : Bool :=
  match s with
  | .off => isVisible c
  | .escape | .short | .control => isObeyed c
  | _ => false

end Steering

/-- The characters of a text that are shown.  A control that is obeyed within a
sequence puts it off: what follows is shown up to the next control that is not obeyed,
and there the sequence goes on.  A character beyond ASCII ends a sequence that is put
off. -/
def shown : Steering → (isPutOff : Bool) → Text → Text
  | _, _, [] => []
  | s, isPutOff, c :: rest =>
    if isPutOff && Steering.isVisible c then
      c :: shown (if c.toNat < 0x80 then s else .off) true rest
    else if s.shows c then c :: shown s true rest
    else shown (s.after c) false rest

/-- A text that goes on below the column where it began, on each line but its first. -/
def indented (t : Text) : Text :=
  t.flatMap fun c => if c = '\n' then "\n    ".toList else [c]

/-- A line as it is shown.  Its end is shown as well unless a sequence swallows it. -/
def plain (line : Text) : Text :=
  let text := shown .off false (line ++ ['\n'])
  if text.getLast? = some '\n' then text.dropLast else text

end Text
end CountedConfig
