/-
Which texts give a pattern that can be looked for.
-/
import CountedConfig.Pattern.Extent
import CountedConfig.Pattern.Parse

namespace CountedConfig
namespace Pattern

/-- Why there is no pattern to look for. -/
inductive Refusal where
  | malformed (e : Error)
  /-- The automaton would take more memory than the limit. -/
  | tooLarge (limit : Nat)
  deriving DecidableEq, Repr

namespace Refusal

def message (pattern : Text) : Refusal → Text
  | .malformed e => e.message pattern
  | .tooLarge limit =>
    "Compiled regex exceeds size limit of ".toList ++ Text.ofNat limit ++ " bytes.".toList

end Refusal

/-- The pattern that a text describes, unless it is too large. -/
def accept (t : Text) : Except Refusal Pattern :=
  match ofText t with
  | .error e => .error (.malformed e)
  | .ok p => if p.isWithinLimit then .ok p else .error (.tooLarge Extent.limit)

end Pattern
end CountedConfig
