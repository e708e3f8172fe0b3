/-
A document as one JSON object: no blanks between tokens, members in the order of
the keys, every member a string.
-/
import CountedConfig.Document

namespace CountedConfig

namespace Text

/-- The digits of a number in base 16, at least `width` of them. -/
def hex (width n : Nat) : Text :=
  let digits := Nat.toDigits 16 n
  List.replicate (width - digits.length) '0' ++ digits

/-- A character inside a JSON string.  The quote, the backslash and the controls
below the space are escaped, with the short escape where there is one. -/
def jsonChar (c : Char) : Text :=
  if c = '"' then "\\\"".toList
  else if c = '\\' then "\\\\".toList
  else if c = '\x08' then "\\b".toList
  else if c = '\x0c' then "\\f".toList
  else if c = '\n' then "\\n".toList
  else if c = '\r' then "\\r".toList
  else if c = '\t' then "\\t".toList
  else if c.toNat < 0x20 then "\\u".toList ++ hex 4 c.toNat
  else [c]

def json (t : Text) : Text := '"' :: t.flatMap jsonChar ++ ['"']

end Text

namespace Document

def jsonMember (entry : Text × Text) : Text := entry.1.json ++ ':' :: entry.2.json

def json (d : Document) : Text :=
  '\x7b' :: List.intercalate [','] (d.entries.map jsonMember) ++ ['\x7d']

end Document
end CountedConfig
