/-
The environment of a call.

Variables come as assignments `NAME=value`, and neither the names nor the values need
to be text.  The assignments are not taken apart beforehand: a variable is looked for
by its name with an equals sign behind it, and has the value of the first assignment
that begins so.  A name that holds an equals sign can be found as well, then.
-/
import CountedConfig.File.Path

namespace CountedConfig

structure Environment where
  /-- The assignments in the order in which they were handed over. -/
  assignments : List Bytes
  /-- The home directory of the account that the call belongs to, if it has one. -/
  accountHome : Option Path
  deriving DecidableEq, Repr

namespace Environment

/-- What an assignment to a variable begins with. -/
def opening (name : Text) : Bytes := Text.encode (name ++ ['='])

/-- The value of a variable.  No variable is without a name, and no name goes on
behind a NUL. -/
def get? (env : Environment) (name : Text) : Option Bytes :=
  if name = [] ∨ '\x00' ∈ name then none
  else env.assignments.findSome? ((opening name).isPrefixOf? ·)

/-- The value of a variable that is text.  To those who need one, other values are as
good as none. -/
def text? (env : Environment) (name : Text) : Option Text := (env.get? name).bind Text.decode?

/-- The home directory: that of the account, unless a variable names one. -/
def homePath? (env : Environment) : Option Path :=
  ((env.get? "HOME".toList).filter (· ≠ [])).or (env.accountHome.filter (· ≠ []))

def home? (env : Environment) : Option Text := env.homePath?.bind Text.decode?

end Environment
end CountedConfig
