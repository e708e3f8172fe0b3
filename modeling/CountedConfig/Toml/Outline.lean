/-
The outline of a TOML document: its headers and its keys with their values, before
anything is made of what the keys and the values hold.

Where a key or a value is missing and the line can be made out all the same, an empty
lexeme stands for it, which is no key and no value.  All other faults of form are told
here, and they are told before any fault of what a key or a value holds, wherever in
the document that is.
-/
import CountedConfig.Toml.Fault

namespace CountedConfig
namespace Toml

/-- A key or a value that is one token, or a row of them. -/
structure Lexeme where
  quotes : Option Quotes
  start : Nat
  text : Text
  deriving DecidableEq, Repr

namespace Lexeme

def span (l : Lexeme) : Span := ⟨l.start, l.start + l.text.length⟩

/-- What stands for something that is missing in front of a token. -/
def missing (t : Token) : Lexeme := ⟨none, t.start, []⟩

/-- A string without its quotes, which stands for a value that is missing at the end of
a table in braces. -/
def missingString (t : Token) : Lexeme := ⟨some .literal, t.start, []⟩

def ofToken (t : Token) : Lexeme :=
  match t.kind with
  | .string quotes => ⟨some quotes, t.start, t.text⟩
  | _ => ⟨none, t.start, t.text⟩

def append (l : Lexeme) (t : Token) : Lexeme := { l with text := l.text ++ t.text }

end Lexeme

/-- Keys between which dots stand. -/
abbrev KeyPath := List Lexeme

/-- A value as it is written. -/
inductive Written where
  | scalar (l : Lexeme)
  | array (span : Span) (items : List Written)
  | table (span : Span) (members : List (KeyPath × Written))

inductive Part where
  | header (isArray : Bool) (path : KeyPath) (span : Span)
  | pair (path : KeyPath) (value : Written)

/-- How far the reading of the tokens is. -/
structure Cursor where
  rest : List Token
  /-- The last token so far that carries a meaning. -/
  last : Span

/-- Reads tokens from front to back.  What repeats is told a bound, which is no less
than the number of tokens that are left. -/
abbrev Outliner := StateT Cursor (Except Error)

namespace Outliner

def fail {α : Type} (fault : Fault) (span : Span) : Outliner α := throw ⟨fault, some span⟩

def peek : Outliner Token := return (← get).rest.headD ⟨.finish, 0, []⟩

def skip : Outliner Unit :=
  modify fun c =>
    match c.rest with
    | [] => c
    | t :: rest =>
      match t.kind with
      | .blank | .comment | .lineEnd | .finish => { c with rest }
      | _ => ⟨rest, t.span⟩

/-! ### What carries no meaning -/

/-- Checks a token that carries no meaning. -/
def check (t : Token) : Outliner Unit := do
  match t.kind with
  | .comment =>
    let ordinary := (t.text.takeWhile isOrdinary).length
    if ordinary < t.text.length then
      fail .commentCharacter (.point (t.start + ordinary))
  | .lineEnd => if t.text = ['\r'] then fail .carriageReturn t.span.after
  | _ => return

/-- Passes over a blank. -/
def skipBlank : Outliner Unit := do
  if (← peek).kind = .blank then skip

/-- Passes over the rest of a line, whatever it holds. -/
def skipLine : (bound : Nat) → Outliner Unit
  | 0 => return
  | bound + 1 => do
    let t ← peek
    match t.kind with
    | .finish => return
    | .lineEnd =>
      check t
      skip
    | _ =>
      check t
      skip
      skipLine bound

def finishLine : Outliner Unit := do
  skipBlank
  if (← peek).kind = .comment then
    check (← peek)
    skip
  let t ← peek
  match t.kind with
  | .finish => return
  | .lineEnd =>
    check t
    skip
  | _ => fail .extraContent t.span.before

/-! ### Keys -/

def isKey (t : Token) : Bool :=
  match t.kind with
  | .string _ | .atom => true
  | _ => false

/-- The keys behind a dot and the dots behind them, and whether the last key is there.
Where there is none between two dots or behind the last, something stands for it. -/
def keysBehindDot : (bound : Nat) → Outliner (KeyPath × Bool)
  | 0 => return ([], true)
  | bound + 1 => do
    skipBlank
    let t ← peek
    if isKey t then
      skip
      skipBlank
      if (← peek).kind = .dot then
        skip
        let (more, isWhole) ← keysBehindDot bound
        return (.ofToken t :: more, isWhole)
      else return ([.ofToken t], true)
    else if t.kind = .dot then
      skip
      let (more, isWhole) ← keysBehindDot bound
      return (.missing t :: more, isWhole)
    else return ([.missing t], false)

/-! ### Values -/

/-- The rest of a value that is made of atoms and dots.  A blank in front of an atom
belongs to it, as in a date with a time. -/
def scalarRow : (bound : Nat) → Lexeme → Outliner Lexeme
  | 0, l => return l
  | bound + 1, l => do
    let t ← peek
    match t.kind with
    | .dot | .atom =>
      skip
      scalarRow bound (l.append t)
    | .blank =>
      match (← get).rest.tail.head? with
      | some next =>
        if next.kind = .atom then
          skip
          skip
          scalarRow bound ((l.append t).append next)
        else return l
      | none => return l
    | _ => return l

def scalar (bound : Nat) : Outliner Written := do
  let t ← peek
  skip
  match t.kind with
  | .string _ => return .scalar (.ofToken t)
  | _ => return .scalar (← scalarRow bound (.ofToken t))

mutual

/-- A value, in which brackets and braces are nested to the given level at most. -/
def value : (bound level : Nat) → Outliner Written
  | 0, _ => return .scalar (.missing (← peek))
  | bound + 1, level => do
    let t ← peek
    match t.kind with
    | .string _ | .atom | .dot => scalar bound
    | .equals => fail .extraEquals t.span
    | .closeBracket => fail .arrayUnopened t.span.before
    | .closeBrace => fail .tableUnopened t.span.before
    | .openBracket =>
      match level with
      | 0 => fail .tooDeep t.span
      | level + 1 =>
        skip
        let all ← items bound level true
        return .array ⟨t.start, (← get).last.stop⟩ all
    | .openBrace =>
      match level with
      | 0 => fail .tooDeep t.span
      | level + 1 =>
        skip
        let all ← members bound level .key []
        return .table ⟨t.start, (← get).last.stop⟩ all
    | .blank | .comment | .lineEnd | .comma | .finish => return .scalar (.missing t)

/-- The items of an array up to its closing bracket.  A comma may follow the last. -/
def items : (bound level : Nat) → (needsValue : Bool) → Outliner (List Written)
  | 0, _, _ => return []
  | bound + 1, level, needsValue => do
    let t ← peek
    match t.kind with
    | .blank | .comment | .lineEnd =>
      check t
      skip
      items bound level needsValue
    | .closeBracket =>
      skip
      return []
    | .finish => fail .arrayUnclosed (← get).last.after
    | .comma =>
      if needsValue then fail .extraCommaInArray t.span
      skip
      items bound level true
    | .equals => fail .equalsInArray t.span
    | .string _ | .atom | .dot | .openBracket | .openBrace | .closeBrace =>
      if !needsValue then fail .missingCommaInArray t.span.before
      let item ← value bound level
      return item :: (← items bound level false)

/-- The members of a table in braces up to the closing brace, and the key of the
member that is being read.  A comma may follow the last. -/
def members : (bound level : Nat) → Awaited → KeyPath → Outliner (List (KeyPath × Written))
  | 0, _, _, _ => return []
  | bound + 1, level, awaited, path => do
    let t ← peek
    match t.kind with
    | .blank | .comment | .lineEnd =>
      check t
      skip
      members bound level awaited path
    | .closeBrace =>
      skip
      match awaited with
      | .key | .comma => return []
      | .equals | .value => return [(path, .scalar (.missingString t))]
    | .finish => fail .tableUnclosed (← get).last.after
    | .comma =>
      if awaited ≠ .comma then fail (.extraCommaInTable awaited) t.span.before
      skip
      members bound level .key []
    | .equals =>
      if awaited = .value || awaited = .comma then
        fail (.extraEqualsInTable awaited) t.span.before
      skip
      members bound level .value (if awaited = .key then [.missing t] else path)
    | .openBracket | .openBrace =>
      match awaited with
      | .key | .comma => fail (.missingKey awaited) t.span.before
      | .equals => fail .missingEquals t.span.before
      | .value =>
        let written ← value bound level
        return (path, written) :: (← members bound level .comma [])
    | .closeBracket =>
      if awaited = .value then fail .arrayUnopened t.span.before
      fail (.strayBracket awaited) t.span.before
    | .string _ | .atom | .dot =>
      match awaited with
      | .key =>
        let (path, _) ← keysBehindDot bound
        members bound level .equals path
      | .equals => fail .missingEquals t.span.before
      | .comma => fail .missingCommaInTable t.span.before
      | .value =>
        let written ← scalar bound
        return (path, written) :: (← members bound level .comma [])

end

/-- The level to which the brackets and braces of a value may be nested. -/
def nestingLimit : Nat := 80

/-! ### Lines -/

def header (bound : Nat) : Outliner Part := do
  let start := (← get).last.start
  let isArray := (← peek).kind = .openBracket
  if isArray then skip
  let (path, isWhole) ← keysBehindDot bound
  let close ← peek
  if close.kind ≠ .closeBracket then
    if isWhole then
      fail (if isArray then .arrayHeaderUnclosed 2 else .headerUnclosed) (← get).last.after
  else
    skip
    if isArray then
      if (← peek).kind ≠ .closeBracket then fail (.arrayHeaderUnclosed 1) close.span.after
      skip
  let stop := (← get).last.stop
  if close.kind = .closeBracket then finishLine else skipLine bound
  return .header isArray path ⟨start, stop⟩

def pair (bound : Nat) : Outliner Part := do
  let first ← peek
  let (path, _) ← keysBehindDot bound
  let t ← peek
  if t.kind ≠ .equals then
    fail (if first.kind = .dot then .dottedWithoutValue else .keyWithoutValue) t.span.before
  skip
  skipBlank
  let written ← value (2 * bound + 2) nestingLimit
  finishLine
  return .pair path written

def parts : (bound : Nat) → Outliner (List Part)
  | 0 => return []
  | bound + 1 => do
    let t ← peek
    match t.kind with
    | .finish => return []
    | .blank | .comment | .lineEnd =>
      check t
      skip
      parts bound
    | .openBracket =>
      skip
      let part ← header bound
      return part :: (← parts bound)
    | .closeBracket => fail .headerUnopened t.span.before
    | .comma | .openBrace | .closeBrace => fail .pairWithoutKey t.span.before
    | .string _ | .atom | .dot | .equals =>
      let part ← pair (bound + 1)
      return part :: (← parts bound)

end Outliner

/-- The parts of a document, or the first fault of its form. -/
def outline (document : Text) : Except Error (List Part) :=
  let tokens := Token.ofText document
  (Outliner.parts tokens.length).run' ⟨tokens, ⟨0, 0⟩⟩

end Toml
end CountedConfig
