/-
What a line means.

A line is a comment, an assignment in one of the four forms, blank, or nothing
that the library knows.  A line can often be read as more than one assignment,
since a key may hold any visible character: the forms are tried in order of
priority, and within a form the shortest key decides.
-/
import CountedConfig.Line.Operator
import CountedConfig.Line.Value

namespace CountedConfig

inductive PlainForm where
  | raw
  | simple
  deriving DecidableEq, Repr

/-- The meaning of one logical line. -/
inductive LineKind where
  | comment
  | blank
  | unrecognized
  /-- The value begins with `fragment` and takes `count` units in all. -/
  | counted (unit : CountUnit) (key : Text) (count : Nat) (fragment : Text)
  /-- The value is complete. -/
  | plain (form : PlainForm) (key value : Text)
  deriving DecidableEq, Repr

/-- The shortest nonempty key after which, past any blanks, `p` accepts.  A key
holds no blank. -/
def shortestKey? {α : Type} (p : Text → Option α) : Text → Option (Text × α)
  | [] => none
  | c :: rest =>
    if Text.isBlank c then none
    else match p (Text.dropBlanks rest) with
      | some a => some ([c], a)
      | none => (shortestKey? p rest).map fun (key, a) => (c :: key, a)

namespace Form

def operand? (form : Form) (t : Text) : Option (Operator × Text) :=
  match form.operator? t with
  | some (op, tail) => (value? tail).map fun value => (op, value)
  | none => none

end Form

namespace Operator

def kind (op : Operator) (key value : Text) : LineKind :=
  match op with
  | .counted unit count => .counted unit key count value
  | .raw => .plain .raw key (Text.dropLineBreaks value)
  | .simple => .plain .simple key (unquote (Text.dropLineBreaks value))

end Operator

namespace LineKind

def assignment? (body : Text) (form : Form) : Option LineKind :=
  (shortestKey? form.operand? body).map fun (key, op, value) => op.kind key value

/-- The meaning of a line, which may still end in its newline. -/
def ofLine (line : Text) : LineKind :=
  let body := Text.dropBlanks line
  if body.head? = some '#' then .comment
  else match Form.byPriority.findSome? (assignment? body) with
    | some kind => kind
    | none => if body = [] then .blank else .unrecognized

end LineKind
end CountedConfig
