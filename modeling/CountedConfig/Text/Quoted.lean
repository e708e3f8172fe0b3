/-
A text between quotes, as log messages show it: what cannot be seen or would end
the quotation is written as an escape, so one quotation stands for one text.
-/
import CountedConfig.Text.Printable

namespace CountedConfig
namespace Text

def quotedChar (c : Char) : Text :=
  if c = '\t' then "\\t".toList
  else if c = '\r' then "\\r".toList
  else if c = '\n' then "\\n".toList
  else if c = '\x00' then "\\0".toList
  else if c = '\\' then "\\\\".toList
  else if c = '"' then "\\\"".toList
  else if isPrintable c then [c]
  else "\\u\x7b".toList ++ Nat.toDigits 16 c.toNat ++ ['\x7d']

/-- The text between quotes. -/
def quoted (t : Text) : Text := '"' :: t.flatMap quotedChar ++ ['"']

end Text
end CountedConfig
