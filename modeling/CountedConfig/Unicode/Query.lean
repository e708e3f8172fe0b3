/-
Sets of characters by what they are called: by the name of a property, a category or a
script, or by the name of a property together with one of its values.
-/
import CountedConfig.Text.Digits
import CountedConfig.Unicode.Break
import CountedConfig.Unicode.Script

namespace CountedConfig
namespace Unicode

open Text (Runs)

/-- What a query asks for in vain. -/
inductive Unknown where
  | property
  | value
  deriving DecidableEq, Repr

/-- A name as it is looked up: without case, blanks and joining characters, and
without a leading `is`.  The name `isc` is kept, as what would be left of it is the
name of something else. -/
def plainName (name : Text) : String :=
  let name := name.map Char.toLower
  let isMarked := "is".toList.isPrefixOf name
  let plain := (if isMarked then name.drop 2 else name).filter fun c =>
    c.toNat < 0x80 && c != ' ' && c != '_' && c != '-'
  if isMarked && plain = ['c'] then "isc" else String.ofList plain

/-- The name of an edition: two numbers with a point between them, or `v` and the
digits of both. -/
def Edition.isCalled (name : String) (e : Edition) : Bool :=
  name.toList = Text.ofNat e.major ++ '.' :: Text.ofNat e.minor ||
    name.toList = 'v' :: Text.ofNat e.major ++ Text.ofNat e.minor

/-- The edition of a name, among those up to the one that patterns go by. -/
def Edition.ofName? (name : String) : Option Edition :=
  (additions.map (·.1)).find? fun e => e.le .ofPatterns && e.isCalled name

def Property.ofName? (name : String) : Option Property :=
  (Property.names.find? fun entry => entry.1.contains name).map (·.2)

def isPropertyName (name : String) : Bool :=
  (Property.ofName? name).isSome || otherPropertyNames.contains name

/-- The category of the surrogates and the scripts that stand for several others or for
none have names, but there are no characters in them. -/
def emptyNames : List String :=
  ["cs", "surrogate", "hrkt", "katakanaorhiragana", "zzzz", "unknown"]

/-- The names that mean a category, though there is a property of the same name. -/
def categoryFirst : List String := ["cf", "sc", "lc"]

/-- The characters that a name alone asks for: that of a property, a category or a
script, in this order. -/
def ofName (name : Text) : Except Unknown Runs :=
  let name := plainName name
  if isPropertyName name && !categoryFirst.contains name then
    match Property.ofName? name with
    | some p => .ok p.runs
    | none => .error .property
  else
    match ofCategoryName? name, Script.ofName? name with
    | some runs, _ => .ok runs
    | none, some s => .ok s.own
    | none, none => .error (if emptyNames.contains name then .value else .property)

/-- The characters for which a property has a value. -/
def ofNameAndValue (name value : Text) : Except Unknown Runs :=
  let name := plainName name
  let value := plainName value
  let found : Option Runs :=
    if name = "gc" || name = "generalcategory" then ofCategoryName? value
    else if name = "sc" || name = "script" then (Script.ofName? value).map (·.own)
    else if name = "scx" || name = "scriptextensions" then (Script.ofName? value).map Script.used
    else if name = "age" then (Edition.ofName? value).map knownBy
    else if name = "gcb" || name = "graphemeclusterbreak" then graphemeClass? value
    else if name = "wb" || name = "wordbreak" then wordClass? value
    else if name = "sb" || name = "sentencebreak" then sentenceClass? value
    else none
  match found with
  | some runs => .ok runs
  | none => .error (if isPropertyName name then .value else .property)

end Unicode
end CountedConfig
