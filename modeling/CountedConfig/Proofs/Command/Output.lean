/-
The lines of the output.

A call that succeeds writes a line for each entry of the document, and one more for each newline of
a value.  No key has a newline, since it was cut off a line as a word, and no marker has one,
whether the settings set it or were left out of account (`newlines_output`).
-/
import CountedConfig.Proofs.Command.Marker
import CountedConfig.Proofs.Command.Outcome
import CountedConfig.Proofs.Document.Listing

namespace CountedConfig

theorem mapError_eq_ok_iff {ε ε' α : Type} {x : Except ε α} {f : ε → ε'} {a : α} :
    x.mapError f = .ok a ↔ x = .ok a := by
  cases x <;> simp [Except.mapError]

theorem parse_of_parseFile {disk : Disk} {path : Path} {d : Document}
    (h : parseFile disk path = .ok d) :
    ∃ content, disk path = .ok content ∧ parse path.display content = .ok d := by
  unfold parseFile readFile at h
  cases hdisk : disk path with
  | error cause =>
    rw [hdisk] at h
    simp [Except.map] at h
  | ok content =>
    rw [hdisk] at h
    exact ⟨content, rfl, h⟩

namespace Invocation

variable {v : Invocation}

theorem document_of_exit (h : v.outcome.exit = .code 0) : ∃ d, v.document = .ok d := by
  cases hd : v.document with
  | ok d => exact ⟨d, rfl⟩
  | error e =>
    rw [(outcome_error hd).1] at h
    cases e <;> cases h

/-- A document is had from the file that was chosen. -/
theorem parseFile_of_document {d : Document} (h : v.document = .ok d) :
    ∃ path, v.input = .ok path ∧ parseFile v.disk path = .ok d := by
  cases hinput : v.input with
  | error e => simp [document, hinput] at h
  | ok path =>
    rw [document_of_input hinput] at h
    exact ⟨path, rfl, mapError_eq_ok_iff.1 h⟩

/-- The output of a call that succeeds has one newline for each entry and one for each newline of
a value.  The keys and the marker have no line break of their own. -/
theorem newlines_output (h : v.outcome.exit = .code 0) :
    ∃ path d marker, v.input = .ok path ∧ parseFile v.disk path = .ok d ∧ v.MarkedBy marker ∧
      v.outcome.output = Text.ofLines (d.listing marker) ∧
      v.outcome.output.count '\n' = (d.entries.map fun e => 1 + e.2.count '\n').sum ∧
      (∀ e ∈ d.entries, '\n' ∉ e.1 ∧ '\r' ∉ e.1) ∧ '\n' ∉ marker ∧ '\r' ∉ marker := by
  obtain ⟨d, hd⟩ := document_of_exit h
  obtain ⟨path, hinput, hparse⟩ := parseFile_of_document hd
  obtain ⟨content, -, hcontent⟩ := parse_of_parseFile hparse
  have hkeys : ∀ e ∈ d.entries, Text.Visible e.1 :=
    fun e he => (entryShape_of_parse hcontent e he).key.visible
  have hnewline : ∀ e ∈ d.entries, '\n' ∉ e.1 := fun e he => (hkeys e he).not_mem (by decide)
  have hreturn : ∀ e ∈ d.entries, '\r' ∉ e.1 := fun e he => (hkeys e he).not_mem (by decide)
  have hmarked : v.MarkedBy v.settings.marker.text := marker_eq_iff.1 rfl
  have hvalid := hmarked.valid
  have hout := (outcome_ok hd).2
  refine ⟨path, d, _, hinput, hparse, hmarked, hout, ?_,
    fun e he => ⟨hnewline e he, hreturn e he⟩, hvalid.no_newline, hvalid.no_return⟩
  rw [hout]
  exact Document.count_ofLines_listing hnewline hvalid.no_newline

/-- The settings are refused for the newline in their marker, and one of the values goes over
three lines. -/
theorem newlines_output_refused :
    let file := Text.encode ['f']
    let disk : Disk := fun path =>
      if path = file then .ok (Text.encode "k:3L=a b\n\n c\nl=1\n".toList)
      else if path = Text.encode ['s'] then .ok (Text.encode "space_marker = \"\\n\"\n".toList)
      else .error .notFound
    let v : Invocation := ⟨Text.encode ['x'], [file],
      ⟨[Text.encode "CONFLINE_CONFIG=s".toList], none⟩, disk⟩
    v.outcome.exit = .code 0 ∧ v.outcome.output.count '\n' = 4 ∧
      ∃ marker, v.MarkedBy marker ∧ '\n' ∉ marker ∧ '\r' ∉ marker := by
  intro file disk v
  have hparse : parseFile v.disk file =
      .ok (Document.ofList [(['k'], "a b\n\n c".toList), (['l'], ['1'])]) := by
    decide +kernel +zetaReduce
  have hinput : v.input = .ok file := by decide +kernel +zetaReduce
  have hdocument : v.document =
      .ok (Document.ofList [(['k'], "a b\n\n c".toList), (['l'], ['1'])]) := by
    rw [document_of_input hinput, hparse]
    rfl
  have hexit : v.outcome.exit = .code 0 := (outcome_ok hdocument).1
  obtain ⟨path, d, marker, hpath, hd, hmarked, -, hcount, -, hnewline, hreturn⟩ :=
    newlines_output hexit
  obtain rfl : path = file := (Except.ok.inj (hinput.symm.trans hpath)).symm
  obtain rfl := Except.ok.inj (hparse.symm.trans hd)
  refine ⟨hexit, hcount.trans ?_, marker, hmarked, hnewline, hreturn⟩
  decide +kernel

end Invocation
end CountedConfig
