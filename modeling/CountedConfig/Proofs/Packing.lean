/-
Assignments packed on one line.

A value of counted characters can end inside its line.  The tail of the line is then
read as if it stood on a line of its own, whatever it is and whatever it asks of the
lines that follow (`parseText_packed`).
-/
import CountedConfig.Proofs.Document.Lookup
import CountedConfig.Proofs.Line.Fragment
import CountedConfig.Proofs.Line.Newline
import CountedConfig.Proofs.Turns

namespace CountedConfig

namespace Input

theorem turn_packed {line key fragment : Text} {count : Nat}
    (hkind : LineKind.ofLine line = .counted .characters key count fragment)
    (hcount : count < fragment.length) (injected : Bool) (i : Input) :
    turn line injected i =
      .turned ⟨line, injected, i.lineNumber, [], some (key, fragment.take count),
        some (fragment.drop count)⟩ (i.inject (fragment.drop count)) := by
  have hc : i.complete .characters key count fragment =
      (.ok ⟨[], fragment.take count, some (fragment.drop count)⟩, i) :=
    completeCharacters_of_lt hcount key i
  unfold turn
  rw [hkind]
  simp only [hc]
  rfl

/-- The tail is read from the same position, injected or as a line. -/
theorem run_packed {line key head tail : Text} {count : Nat} (hn : '\n' ∉ line)
    (hkind : LineKind.ofLine line = .counted .characters key count (head ++ tail))
    (hhead : head.length = count) (htail : tail ≠ []) (hr : tail.getLast? ≠ some '\r')
    (origin t : Text) :
    (ofBytes origin (Text.encode (line ++ '\n' :: t))).run.entries =
        (key, head) :: (ofBytes origin (Text.encode (tail ++ '\n' :: t))).run.entries ∧
      (ofBytes origin (Text.encode (line ++ '\n' :: t))).run.error? =
        (ofBytes origin (Text.encode (tail ++ '\n' :: t))).run.error? := by
  have hsuffix : tail <:+ line :=
    (List.suffix_append head tail).trans (LineKind.fragment_suffix hn hkind)
  have htn : '\n' ∉ tail := fun hm => hn (hsuffix.mem hm)
  have hlr : line.getLast? ≠ some '\r' := by
    obtain ⟨front, rfl⟩ := hsuffix
    rwa [List.getLast?_append, List.getLast?_eq_some_getLast htail, Option.some_or,
      ← List.getLast?_eq_some_getLast htail]
  have hlen : count < (head ++ tail).length := by
    have := List.length_pos_iff.2 htail
    rw [List.length_append]
    omega
  have hkind' : LineKind.ofLine (line ++ ['\n']) = .counted .characters key count (head ++ tail) := by
    rw [LineKind.ofLine_newline, hkind]
  rw [run_line hn hlr, run_line htn hr, turn_packed hkind' hlen, Step.entries_run_turned,
    Step.error?_run_turned, List.take_left' hhead, List.drop_left' hhead, run_inject tail rfl]
  obtain ⟨hentries, herror⟩ := run_turn_congr (LineKind.ofLine_newline tail) false true
    ⟨origin, PhysicalLine.ofInput (Text.encode t), [], none, 1⟩
  rw [hentries, herror]
  exact ⟨rfl, rfl⟩

end Input

theorem parseText_packed {line key head tail : Text} {count : Nat} (hn : '\n' ∉ line)
    (hkind : LineKind.ofLine line = .counted .characters key count (head ++ tail))
    (hhead : head.length = count) (htail : count < (head ++ tail).length)
    (hr : tail.getLast? ≠ some '\r') (t : Text) :
    parseText (line ++ '\n' :: t) = (parseText (tail ++ '\n' :: t)).map fun d =>
      (Document.empty.insert key head).insertAll d.entries := by
  have hne : tail ≠ [] := by
    intro e
    rw [e, List.append_nil] at htail
    omega
  obtain ⟨hentries, herror⟩ := Input.run_packed hn hkind hhead hne hr "<string>".toList t
  unfold parseText parse Run.result
  rw [hentries, herror]
  cases (Input.ofBytes "<string>".toList (Text.encode (tail ++ '\n' :: t))).run.error? with
  | some e => rfl
  | none =>
    refine congrArg Except.ok (Eq.trans ?_ (Document.insertAll_entries_ofList _ _).symm)
    exact Document.insertAll_cons Document.empty (key, head) _

/-- The tail packs a second value, and what is left of that goes on over the next line
and stores the first key again. -/
theorem parseText_packed_twice :
    LineKind.ofLine "a:2c=xyb:1C=za:4c=p".toList =
        .counted .characters ['a'] 2 (['x', 'y'] ++ "b:1C=za:4c=p".toList) ∧
      parseText ("a:2c=xyb:1C=za:4c=p".toList ++ '\n' :: "qr".toList) =
        .ok (Document.ofList [(['a'], "p\nqr".toList), (['b'], ['z'])]) := by
  have hkind : LineKind.ofLine "a:2c=xyb:1C=za:4c=p".toList =
      .counted .characters ['a'] 2 (['x', 'y'] ++ "b:1C=za:4c=p".toList) := by decide +kernel
  have htail : parseText ("b:1C=za:4c=p".toList ++ '\n' :: "qr".toList) =
      .ok (Document.ofList [(['a'], "p\nqr".toList), (['b'], ['z'])]) := by decide +kernel
  refine ⟨hkind, ?_⟩
  rw [parseText_packed (by decide) hkind rfl (by decide) (by decide), htail]
  decide +kernel

end CountedConfig
