/-
Reading two inputs one behind the other.

An input that was read to its end, with its last line ended, leaves nothing for what
follows: no value is open, no line is pending and none is laid before the input.
The two together are therefore read as the first and then the second
(`parse_append`).
-/
import CountedConfig.Proofs.Document.Lookup
import CountedConfig.Proofs.Extension
import CountedConfig.Proofs.Lines
import CountedConfig.Proofs.Relocation

namespace CountedConfig

namespace Run

theorem entries_followedBy (r s : Run) : (r.followedBy s).entries = r.entries ++ s.entries :=
  List.filterMap_append

theorem error?_followedBy (r s : Run) : (r.followedBy s).error? = s.error? := by
  obtain ⟨turns, ending, rest⟩ := s
  cases ending <;> rfl

theorem error?_eq_none_iff {r : Run} : r.error? = none ↔ r.ending = .complete := by
  obtain ⟨turns, ending, rest⟩ := r
  cases ending <;> simp [error?]

theorem result_eq_ok_iff {r : Run} {d : Document} :
    r.result = .ok d ↔ r.ending = .complete ∧ d = Document.ofList r.entries := by
  rw [← error?_eq_none_iff, result]
  cases r.error? with
  | none => simp [eq_comm]
  | some e => simp

end Run

namespace Input

theorem origin_run (i : Input) : i.run.rest.origin = i.origin := by
  have h : i.run = i.run.relocate i.origin 0 := by
    rw [← run_relocate, relocate_self]
  rw [h]
  rfl

/-- What is left of an input that was read to its end is the start of what follows it. -/
theorem extend_atEnd {i : Input} (h : i.AtEnd) (c : Bytes) :
    i.extend (PhysicalLine.ofInput c) = (ofBytes i.origin c).relocate i.origin i.lineNumber := by
  obtain ⟨origin, unread, pending, injected, number⟩ := i
  obtain ⟨rfl, rfl, rfl⟩ := h
  simp [extend, relocate, ofBytes]

/-- The entries of two inputs one behind the other, and the error that ends them. -/
theorem run_ofBytes_append (origin : Text) {b : Bytes} (hseam : b = [] ∨ b.getLast? = some 10)
    (h : (ofBytes origin b).run.ending = .complete) (c : Bytes) :
    (ofBytes origin (b ++ c)).run.entries =
        (ofBytes origin b).run.entries ++ (ofBytes origin c).run.entries ∧
      (ofBytes origin (b ++ c)).run.error? = (ofBytes origin c).run.error? := by
  obtain ⟨hend, hrun⟩ := run_extend (PhysicalLine.ofInput c) h
  have hb : (ofBytes origin b).run.rest.origin = origin := origin_run _
  have hstart : ofBytes origin (b ++ c) = (ofBytes origin b).extend (PhysicalLine.ofInput c) := by
    rw [ofBytes, PhysicalLine.ofInput_append hseam]
    rfl
  rw [extend_atEnd hend, hb, run_relocate] at hrun
  rw [hstart, hrun, Run.entries_followedBy, Run.entries_relocate, Run.error?_followedBy,
    Run.error?_relocate]
  exact ⟨rfl, rename_error?_run (ofBytes origin c)⟩

end Input

/-- Behind an input that was read to its end, the second input is read for itself: its
entries are stored over those of the first, and its error is the error of both. -/
theorem parse_append {origin : Text} {t₁ t₂ : Bytes} {d₁ : Document}
    (hseam : t₁ = [] ∨ t₁.getLast? = some 10) (h₁ : parse origin t₁ = .ok d₁) :
    parse origin (t₁ ++ t₂) = (parse origin t₂).map fun d₂ => d₁.insertAll d₂.entries := by
  obtain ⟨hend, rfl⟩ := Run.result_eq_ok_iff.1 h₁
  obtain ⟨hentries, herror⟩ := Input.run_ofBytes_append origin hseam hend t₂
  unfold parse Run.result
  rw [hentries, herror]
  cases (Input.ofBytes origin t₂).run.error? with
  | some e => rfl
  | none =>
    have hd : (Document.ofList (Input.ofBytes origin t₁).run.entries).insertAll
        (Document.ofList (Input.ofBytes origin t₂).run.entries).entries =
          Document.ofList ((Input.ofBytes origin t₁).run.entries ++
            (Input.ofBytes origin t₂).run.entries) := by
      rw [Document.insertAll_entries_ofList]
      exact (Document.insertAll_append _ _ _).symm
    exact congrArg Except.ok hd.symm

/-- The tail of a value that ended inside its line stores `z`, and the second input
stores it again. -/
theorem parse_append_stored_again :
    parse [] (Text.encode "a:2c=xyz=q\n".toList) =
        .ok (Document.ofList [(['a'], ['x', 'y']), (['z'], ['q'])]) ∧
      parse [] (Text.encode "a:2c=xyz=q\n".toList ++ Text.encode "z=9".toList) =
        .ok (Document.ofList [(['a'], ['x', 'y']), (['z'], ['9'])]) := by
  have h₁ : parse [] (Text.encode "a:2c=xyz=q\n".toList) =
      .ok (Document.ofList [(['a'], ['x', 'y']), (['z'], ['q'])]) := by decide +kernel
  have h₂ : parse [] (Text.encode "z=9".toList) = .ok (Document.ofList [(['z'], ['9'])]) := by
    decide +kernel
  refine ⟨h₁, ?_⟩
  rw [parse_append (Or.inr (by decide +kernel)) h₁, h₂]
  decide +kernel

end CountedConfig
