/-
The grammar of a line.

A line is read as an assignment by cutting it: blanks, a key without blanks, blanks, an
operator, and a tail in which the value stands.  A line can often be cut in more than one
way.  The form of the highest rank decides that has any, and in it the shortest key
(`Decides`).  `Means` says what a line is, and `LineKind.ofLine` finds it.
-/
import CountedConfig.Proofs.Text.Trim

namespace CountedConfig

open Text (Blank Visible)

/-! ### Operators and values -/

/-- The letters of a unit. -/
def CountUnit.letters : CountUnit → List Char
  | .lines => ['l', 'L']
  | .characters => ['c', 'C']

/-- An operator of a form, and how it is written.  A count has no leading zeros, and one
that 64 bits do not hold stands for the largest that they do. -/
inductive Operator.Written : Form → Operator → Text → Prop
  | counted {unit : CountUnit} {digits : Text} {letter : Char} (hne : digits ≠ [])
    (hdigits : ∀ c ∈ digits, c.isDigit = true) (hzero : digits.head? ≠ some '0')
    (hletter : letter ∈ unit.letters) :
    Written (.counted unit) (.counted unit (min (UInt64.size - 1) (Text.toNat digits)))
      (':' :: (digits ++ [letter, '=']))
  | raw : Written .raw .raw [':', '=']
  | simple : Written .simple .simple ['=']

/-- The value that is taken from what follows an operator. -/
inductive Captured : Text → Text → Prop
  /-- Behind blanks, newlines among them, a value runs to the end of its line. -/
  | visible {blanks body rest : Text} (hblanks : Blank blanks)
    (hbody : ∃ c, body.head? = some c ∧ Text.isBlank c = false) (hline : '\n' ∉ body)
    (hrest : ∀ c, rest.head? = some c → c = '\n') :
    Captured (blanks ++ (body ++ rest)) (blanks ++ body)
  /-- Of blanks alone all but the newlines at their end are the value. -/
  | blank {tail value : Text} (htail : Blank tail) (h : Text.Strips (· == '\n') tail value) :
    Captured tail value

/-- What is left of a trimmed value when one pair of quotes is taken away. -/
inductive Unquoted : Text → Text → Prop
  | alone : Unquoted ['\''] []
  | pair (value : Text) : Unquoted ('\'' :: (value ++ ['\''])) value
  | plain {value : Text} (h : ¬ (value.head? = some '\'' ∧ value.getLast? = some '\'')) :
    Unquoted value value

/-- What an assignment is, given what was captured for its value. -/
inductive Operator.Yields : Operator → Text → Text → LineKind → Prop
  | counted (unit : CountUnit) (count : Nat) (key value : Text) :
    Yields (.counted unit count) key value (.counted unit key count value)
  | raw {key value v : Text} (h : Text.Strips (fun c => c == '\n' || c == '\r') value v) :
    Yields .raw key value (.plain .raw key v)
  | simple {key value v trimmed unquoted : Text}
    (h : Text.Strips (fun c => c == '\n' || c == '\r') value v)
    (ht : Text.Trims v trimmed) (hu : Unquoted trimmed unquoted) :
    Yields .simple key value (.plain .simple key unquoted)

/-! ### Lines -/

/-- One way to cut a line. -/
structure Factors (form : Form) (line key : Text) (op : Operator) (tail : Text) : Prop where
  nonempty : key ≠ []
  visible : Visible key
  split : ∃ before behind written, Blank before ∧ Blank behind ∧ Operator.Written form op written ∧
    line = before ++ (key ++ (behind ++ (written ++ tail)))
  /-- There is something in the tail that is not a newline. -/
  value : ∃ c ∈ tail, c ≠ '\n'

/-- The place of a form when several can be read. -/
def Form.rank : Form → Nat
  | .counted .lines => 0
  | .counted .characters => 1
  | .raw => 2
  | .simple => 3

/-- The cut of a line that counts. -/
structure Decides (form : Form) (line key : Text) (op : Operator) (tail : Text) : Prop where
  factors : Factors form line key op tail
  first : ∀ form' key' op' tail', Factors form' line key' op' tail' → form.rank ≤ form'.rank
  shortest : ∀ key' op' tail', Factors form line key' op' tail' → key.length ≤ key'.length

def Commented (line : Text) : Prop := ∃ before rest, Blank before ∧ line = before ++ '#' :: rest

/-- What a line is. -/
inductive Means (line : Text) : LineKind → Prop
  | comment (h : Commented line) : Means line .comment
  | assignment {form : Form} {key tail value : Text} {op : Operator} {kind : LineKind}
    (hc : ¬ Commented line) (hd : Decides form line key op tail) (hv : Captured tail value)
    (hk : op.Yields key value kind) : Means line kind
  | blank (h : Blank line) : Means line .blank
  | unrecognized (hc : ¬ Commented line) (hb : ¬ Blank line)
    (h : ∀ form key op tail, ¬ Factors form line key op tail) : Means line .unrecognized

end CountedConfig
