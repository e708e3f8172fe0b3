/-
Variables and the home directory in a path.

`$NAME`, `${NAME}` and `${NAME:-fallback}` stand for the value of a variable.  A
path is expanded as a whole or not at all: a reference to a variable that is not
set, with no fallback, leaves nothing.  Values are taken as they are and not
expanded again.  After that a `~` that is the first component stands for the home
directory, unless a value put it there.
-/
import CountedConfig.Environment
import CountedConfig.Text.Alphanumeric

namespace CountedConfig
namespace Expansion

/-- A character of a name that stands without braces. -/
def isNameChar (c : Char) : Bool := Text.isAlphanumeric c || c == '_'

/-- The value of a reference by what stands between its braces: a name, which a
fallback may follow. -/
def braced (env : Environment) (body : Text) : Option Text :=
  match Text.cut? ":-".toList body with
  | some (c :: name, fallback) => some ((env.text? (c :: name)).getD fallback)
  | _ => env.text? body

/-- What stands before the first closing brace, and what follows it. -/
def braceBody? : Text → Option (Text × Text)
  | [] => none
  | c :: rest =>
    if c = '\x7d' then some ([], rest)
    else (braceBody? rest).map fun (body, after) => (c :: body, after)

theorem length_braceBody?_lt {t body after : Text} (h : braceBody? t = some (body, after)) :
    after.length < t.length := by
  induction t generalizing body with
  | nil => simp [braceBody?] at h
  | cons c rest ih =>
    unfold braceBody? at h
    split at h
    · simp only [Option.some.injEq, Prod.mk.injEq] at h
      simp [h.2]
    · obtain ⟨⟨b, a⟩, hb, he⟩ := Option.map_eq_some_iff.1 h
      simp only [Prod.mk.injEq] at he
      obtain ⟨-, rfl⟩ := he
      exact Nat.lt_succ_of_lt (ih hb)

/-- The path with the values of its variables, or nothing when one of them is not
set.  A dollar sign that introduces no reference stands for itself, and so do two
of them for one. -/
def substitute (env : Environment) : Text → Option Text
  | [] => some []
  | c :: rest =>
    if c ≠ '$' then (substitute env rest).map (c :: ·)
    else match rest with
      | [] => some ['$']
      | '$' :: after => (substitute env after).map ('$' :: ·)
      | '\x7b' :: inner =>
        match _h : braceBody? inner with
        | none => (substitute env inner).map ("$\x7b".toList ++ ·)
        | some (body, after) =>
          match braced env body with
          | none => none
          | some value => (substitute env after).map (value ++ ·)
      | d :: after =>
        let name := (d :: after).takeWhile isNameChar
        if name = [] then (substitute env (d :: after)).map ('$' :: ·)
        else match env.text? name with
          | none => none
          | some value => (substitute env ((d :: after).dropWhile isNameChar)).map (value ++ ·)
termination_by t => t.length
decreasing_by
  all_goals simp only [List.length_cons]
  · omega
  · omega
  · omega
  · have := length_braceBody?_lt _h
    omega
  · omega
  · have := (List.dropWhile_sublist isNameChar (l := d :: after)).length_le
    simp only [List.length_cons] at this
    omega

/-- The path with the home directory for a `~` that is its first component. -/
def tilde (env : Environment) (path : Text) : Text :=
  match path, env.home? with
  | ['~'], some home => home
  | '~' :: '/' :: rest, some home => home ++ '/' :: rest
  | _, _ => path

end Expansion

/-- The path that a path with variables and `~` stands for. -/
def expand? (env : Environment) (path : Text) : Option Text :=
  (Expansion.substitute env path).map fun expanded =>
    if path.head? ≠ some '~' ∧ expanded.head? = some '~' then expanded
    else Expansion.tilde env expanded

end CountedConfig
