/-
Blank characters: the property `White_Space` of Unicode, which separates a key
from what stands around it.  The set is larger than the blanks of ASCII and does
not hold the characters of zero width.
-/
import CountedConfig.Text
import CountedConfig.Text.Runs

namespace CountedConfig
namespace Text

/-- The runs of `White_Space`. -/
def blankRuns : List (Nat × Nat) :=
  [(0x9, 0xd), (0x20, 0x20), (0x85, 0x85), (0xa0, 0xa0), (0x1680, 0x1680), (0x2000, 0x200a),
   (0x2028, 0x2029), (0x202f, 0x202f), (0x205f, 0x205f), (0x3000, 0x3000)]

/-- A character of the property `White_Space`. -/
def isBlank (c : Char) : Bool := inRuns blankRuns c

/-- The text without the blanks it begins with. -/
def dropBlanks (t : Text) : Text := t.dropWhile isBlank

def trimEnd (t : Text) : Text := dropTrailing isBlank t

def trim (t : Text) : Text := trimEnd (dropBlanks t)

end Text
end CountedConfig
