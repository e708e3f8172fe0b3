/-
Bytes from outside that need not be text, as messages show them.

Where no character stands a mark or an escape does.  The bytes that are replaced
together are those that begin an encoding, as far as they can; where none begins it is
one byte.
-/
import CountedConfig.Text.ByteRuns
import CountedConfig.Text.Quoted

namespace CountedConfig
namespace Text

/-- The runs of the bytes behind the first byte of an encoding. -/
def continuation (lead : UInt8) : ByteRuns :=
  let any : UInt8 × UInt8 := (0x80, 0xbf)
  if lead < 0xc2 then []
  else if lead ≤ 0xdf then [any]
  else if lead = 0xe0 then [(0xa0, 0xbf), any]
  else if lead = 0xed then [(0x80, 0x9f), any]
  else if lead ≤ 0xef then [any, any]
  else if lead = 0xf0 then [(0x90, 0xbf), any, any]
  else if lead ≤ 0xf3 then [any, any, any]
  else if lead = 0xf4 then [(0x80, 0x8f), any, any]
  else []

/-- How many bytes there are in front that lie each in its run. -/
def matched : ByteRuns → Bytes → Nat
  | (least, greatest) :: runs, b :: rest =>
    if least ≤ b ∧ b ≤ greatest then matched runs rest + 1 else 0
  | _, _ => 0

/-- The characters, and between them the bytes that are part of none. -/
def pieces : Bytes → List (Except Bytes Char)
  | [] => []
  | lead :: rest =>
    let n := matched (continuation lead) rest
    let piece := lead :: rest.take n
    (match decode? piece with
      | some [c] => .ok c
      | _ => .error piece) :: pieces (rest.drop n)
termination_by b => b.length
decreasing_by
  simp only [List.length_drop, List.length_cons]
  omega

/-- The text that the bytes are, or else what can be read of it, with a mark for each
piece that cannot be read. -/
def lossy (b : Bytes) : Text :=
  (decode? b).getD <| (pieces b).map fun
    | .ok c => c
    | .error _ => '\ufffd'

theorem lossy_encode (t : Text) : lossy (encode t) = t := by
  rw [lossy, decode?_encode, Option.getD_some]

/-- A byte in two hexadecimal digits. -/
def escapedByte (b : UInt8) : Text :=
  "\\x".toList ++
    (Nat.toDigits 16 (b.toNat / 16) ++ Nat.toDigits 16 (b.toNat % 16)).map Char.toUpper

/-- The bytes between quotes. -/
def quotedBytes (b : Bytes) : Text :=
  '"' :: (pieces b).flatMap (fun
    | .ok '\'' => "\\'".toList
    | .ok c => quotedChar c
    | .error piece => piece.flatMap escapedByte) ++ ['"']

end Text
end CountedConfig
