/-
Dates and times in TOML: a date, a time of day, or both, and then with or without an
offset from universal time.
-/
import CountedConfig.Text.Digits
import CountedConfig.Toml.Fault

namespace CountedConfig
namespace Toml
namespace Moment

/-- What is wrong with a date or a time: the part at fault, and what was to come. -/
structure Flaw where
  part : Option MomentPart
  awaited : String

abbrev Reader := StateT Text (Except Flaw)

def fail {α : Type} (part : Option MomentPart) (awaited : String) : Reader α :=
  throw ⟨part, awaited⟩

def digits (part : Option MomentPart) (awaited : String) : Reader Text := do
  let t ← get
  let run := t.takeWhile Char.isDigit
  if run = [] then fail part awaited
  set (t.drop run.length)
  return run

def sign (part : Option MomentPart) (awaited : String) (signs : Text) : Reader Char := do
  match ← get with
  | c :: rest =>
    if !signs.contains c then fail part awaited
    set rest
    return c
  | [] => fail part awaited

/-- Whether a character is next, which is read. -/
def skips (c : Char) : Reader Bool := do
  match ← get with
  | d :: rest =>
    if c = d then
      set rest
      return true
    else return false
  | [] => return false

/-- Checks that a number has so many digits. -/
def width (part : MomentPart) (awaited : String) (n : Nat) (digits : Text) : Reader Unit :=
  if digits.length = n then return else fail (some part) awaited

/-- Checks that a number lies between two others. -/
def bounds (part : MomentPart) (awaited : String) (least most : Nat) (digits : Text) :
    Reader Unit :=
  if least ≤ Text.toNat digits ∧ Text.toNat digits ≤ most then return
  else fail (some part) awaited

/-- The number of days of a month, and what is said of other days. -/
def days (year month : Nat) : Nat × String :=
  if month = 2 then
    if (year % 4 = 0 ∧ year % 100 ≠ 0) ∨ year % 400 = 0 then (29, "day between 01 and 29")
    else (28, "day between 01 and 28")
  else if month = 4 ∨ month = 6 ∨ month = 9 ∨ month = 11 then (30, "day between 01 and 30")
  else (31, "day between 01 and 31")

def date (year : Text) : Reader Unit := do
  let month ← digits (some .date) "month"
  let _ ← sign (some .date) "`-` (MM-DD)" ['-']
  let day ← digits (some .date) "day"
  width .date "a four-digit year (YYYY)" 4 year
  width .date "a two-digit month (MM)" 2 month
  width .date "a two-digit day (DD)" 2 day
  bounds .date "month between 01 and 12" 1 12 month
  let (most, awaited) := days (Text.toNat year) (Text.toNat month)
  bounds .date awaited 1 most day

/-- A time of day.  The seconds may be left out. -/
def time : Reader Unit := do
  let hour ← digits (some .time) "hour"
  let _ ← sign (some .time) "`:` (HH:MM)" [':']
  let minute ← digits (some .time) "minute"
  let second ← if ← skips ':' then some <$> digits (some .time) "second" else pure none
  if second.isSome then
    if ← skips '.' then
      let _ ← digits (some .time) "nanosecond"
  width .time "a two-digit hour (HH)" 2 hour
  width .time "a two-digit minute (MM)" 2 minute
  if let some second := second then width .time "a two-digit second (SS)" 2 second
  bounds .time "hour between 00 and 23" 0 23 hour
  bounds .time "minute between 00 and 59" 0 59 minute
  if let some second := second then bounds .time "second between 00 and 60" 0 60 second

/-- The offset behind a date and a time, if there is one. -/
def offset : Reader Unit := do
  if (← get) = [] then return
  let c ← sign (some .offset) "`Z`, +OFFSET, -OFFSET" "Zz+-".toList
  if c = '+' || c = '-' then
    let hour ← digits (some .offset) "hour"
    let _ ← sign (some .offset) "`:` (HH:MM)" [':']
    let minute ← digits (some .offset) "minute"
    width .offset "a two-digit hour (HH)" 2 hour
    width .offset "a two-digit minute (MM)" 2 minute
    bounds .offset "hours between 00 and 23" 0 23 hour
    bounds .offset "minutes between 00 and 59" 0 59 minute

def moment : Reader Unit := do
  let all ← get
  let first ← digits none "year or hour"
  let c ← sign none "`-` (YYYY-MM) or `:` (HH:MM)" ['-', ':']
  if c = '-' then
    date first
    if (← get) ≠ [] then
      let _ ← sign (some .joint) "`T` between date and time" "Tt ".toList
      time
      offset
  else
    set all
    time
  if (← get) ≠ [] then fail none ""

def flaw? (t : Text) : Option Flaw :=
  match moment.run t with
  | .ok _ => none
  | .error flaw => some flaw

end Moment
end Toml
end CountedConfig
