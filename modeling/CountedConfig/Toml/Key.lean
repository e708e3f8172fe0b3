/-
The keys of a TOML document.
-/
import CountedConfig.Toml.Quotation

namespace CountedConfig
namespace Toml

structure Key where
  text : Text
  span : Span
  deriving DecidableEq, Repr

namespace Key

/-- A character that a key without quotes can hold. -/
def isBareChar (c : Char) : Bool := c.isAlphanum || c == '_' || c == '-'

def ofLexeme (l : Lexeme) : Except Error Key :=
  match l.quotes with
  | none =>
    let bare := (l.text.takeWhile isBareChar).length
    if l.text = [] then .error ⟨.keyEmpty, some l.span⟩
    else if bare < l.text.length then faultAt .keyCharacter (l.start + bare)
    else .ok ⟨l.text, l.span⟩
  | some q =>
    if q.isOverLines then .error ⟨.keyOverLines q, some l.span⟩
    else (l.string q).map fun text => ⟨text, l.span⟩

/-- The greatest number of keys that dots join. -/
def pathLimit : Nat := 80

/-- The keys of a path: those in front of its last key, and that key. -/
def ofPath (path : KeyPath) : Except Error (List Key × Key) := do
  let keys ← path.mapM ofLexeme
  if pathLimit < keys.length then throw ⟨.keyTooLong, none⟩
  match keys.getLast? with
  | some key => return (keys.dropLast, key)
  | none => throw ⟨.keyEmpty, none⟩

end Key
end Toml
end CountedConfig
