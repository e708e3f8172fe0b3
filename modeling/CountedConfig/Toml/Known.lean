/-
Values under keys that are known, and all others.

The entries of a table are gone through in the order of their keys.  A number that is
too great for its type is a fault wherever it is.  Under a known key nothing but a
string is right.
-/
import CountedConfig.Decimal.Shortest
import CountedConfig.Toml.Document

namespace CountedConfig
namespace Toml

namespace Scalar

/-- The shortest text of a float. -/
def floatText (spelling : Text) : Text :=
  let sign := if spelling.head? = some '-' then ['-'] else []
  match decimal? spelling with
  | some (digits, power) =>
    -- Numbers far below the least float are all nothing.
    let digits := digits.dropWhile (· == '0')
    let isTiny := (digits.length : Int) + power < -400
    sign ++ if isTiny then "0.0".toList else Decimal.shortest (Text.toNat digits) power
  | none =>
    if "nan".toList.isSuffixOf spelling then "NaN".toList else sign ++ "inf".toList

def description : Scalar → Text
  | .string t => "string \"".toList ++ t ++ ['"']
  | .integer none => "integer".toList
  | .integer (some n) =>
    let digits := if n < 0 then '-' :: Text.ofNat n.natAbs else Text.ofNat n.natAbs
    let width :=
      if -0x8000000000000000 ≤ n ∧ n < 0x10000000000000000 then []
      else if n < 0x80000000000000000000000000000000 then " as i128".toList
      else " as u128".toList
    "integer `".toList ++ digits ++ '`' :: width
  | .float spelling => "floating point `".toList ++ floatText spelling ++ ['`']
  | .boolean b => "boolean `".toList ++ (if b then "true" else "false").toList ++ ['`']
  | .moment _ => "map".toList

end Scalar

namespace Value

def description : Value → Text
  | .scalar s => s.description
  | .array _ => "sequence".toList
  | .table .. => "map".toList
  | .tables _ => "sequence".toList

/-- The first of some errors by the keys that they stand under. -/
def firstByKey (errors : List (Text × Option Error)) : Option Error :=
  let sooner := fun (first : Option (Text × Error)) (key, error) =>
    match first with
    | some (least, _) => if key < least then some (key, error) else first
    | none => some (key, error)
  let found := errors.filterMap fun (key, error?) => error?.map fun error => (key, error)
  (found.foldl sooner none).map (·.2)

mutual

/-- The first number in a value that is too great. -/
def overflow? (span : Span) : Value → Option Error
  | .scalar s => s.overflow?.map fun fault => ⟨fault, some span⟩
  | .array items => itemsOverflow? items
  | .table _ entries => firstByKey (entriesOverflow entries)
  | .tables items => tablesOverflow? items

def itemsOverflow? : List (Span × Value) → Option Error
  | [] => none
  | (span, value) :: more => (overflow? span value).or (itemsOverflow? more)

def entriesOverflow : List (Key × Span × Value) → List (Text × Option Error)
  | [] => []
  | (key, span, value) :: more => (key.text, overflow? span value) :: entriesOverflow more

def tablesOverflow? : List (Span × List (Key × Span × Value)) → Option Error
  | [] => none
  | (_, entries) :: more => (firstByKey (entriesOverflow entries)).or (tablesOverflow? more)

end

/-- What is wrong with a value where nothing but a string is right. -/
def stringFault? (awaited : Text) (span : Span) (value : Value) : Option Error :=
  match value with
  | .scalar (.string _) => none
  | .scalar s => some ⟨(s.overflow?).getD (.wrongType s.description awaited), some span⟩
  | value => some ⟨.wrongType value.description awaited, some span⟩

end Value

namespace Entries

/-- The first fault of the values, where a known key is told with what is awaited under
it. -/
def fault? (known : List (Text × Text)) (entries : Entries) : Option Error :=
  Value.firstByKey <| entries.map fun (key, span, value) =>
    (key.text, match known.lookup key.text with
      | some awaited => value.stringFault? awaited span
      | none => value.overflow? span)

def string? (key : Text) (entries : Entries) : Option Text :=
  match entries.get? key with
  | some (_, .scalar (.string t)) => some t
  | _ => none

end Entries

/-- The entries of a document, in which nothing but strings stand under the known keys. -/
def read (known : List (Text × Text)) (document : Text) : Except Error Entries := do
  let parts ← outline document
  let entries ← (Section.ofParts parts).foldlM Entries.addSection []
  match entries.fault? known with
  | some e => throw e
  | none => return entries

end Toml
end CountedConfig
