/-
What the outcome of a call depends on.

A call whose name or argument is no text stops itself, and leaves nothing but what is said of that
(`outcome_of_undecodable`).  Otherwise the document comes from the input that was chosen, whoever
chose it (`document_of_input`).  The end, the output and the errors come from the document and from
the settings, and the log comes from the records alone (`outcome_congr`).
-/
import CountedConfig.Command

namespace CountedConfig

/-- The bytes are text. -/
def Bytes.IsText (b : Bytes) : Prop := ∃ t, Text.decode? b = some t

theorem Bytes.isText_encode (t : Text) : IsText (Text.encode t) := ⟨t, Text.decode?_encode t⟩

theorem Bytes.not_isText_iff {b : Bytes} : ¬ b.IsText ↔ (Text.decode? b).isNone = true := by
  rw [IsText, ← Option.isSome_iff_exists, Option.not_isSome_iff_eq_none, Option.isNone_iff_eq_none]

namespace Invocation

variable {v w : Invocation} {path : Path}

/-! ### A name or an argument that is no text -/

theorem undecodable?_eq_none_iff :
    v.undecodable? = none ↔ v.name.IsText ∧ ∀ a ∈ v.arguments, a.IsText := by
  rw [undecodable?, List.find?_eq_none, List.forall_mem_cons]
  simp only [← Bytes.not_isText_iff, Classical.not_not]

theorem document_of_undecodable {b : Bytes} (h : v.undecodable? = some b) :
    v.document = .error (.undecodable b) := by
  have hinput : v.input = .error (.undecodable b) := by simp only [input, h]
  rw [document, hinput]

/-! ### The document and what is told of it -/

/-- Neither the settings nor the environment are asked for a file that is named. -/
theorem input_of_argument (hv : v.arguments = [path]) (htext : v.undecodable? = none) :
    v.input = .ok path := by
  simp only [input, htext, hv]

theorem document_of_input (h : v.input = .ok path) :
    v.document = (parseFile v.disk path).mapError (.unparsed path) := by
  simp only [document, h]
  cases parseFile v.disk path <;> rfl

theorem outcome_ok {d : Document} (h : v.document = .ok d) :
    v.outcome.exit = .code 0 ∧
      v.outcome.output = Text.ofLines (d.listing v.settings.marker.text) := by
  simp only [outcome, h, and_self]

theorem outcome_error {e : CommandError} (h : v.document = .error e) :
    v.outcome.exit = e.exit ∧ v.outcome.output = [] := by
  simp only [outcome, h, and_self]

theorem log_outcome (v : Invocation) :
    v.outcome.log = (v.records.filter v.logging.1.shows).map Record.plain := by
  unfold outcome
  cases v.document <;> rfl

/-- A call that stops itself has no output and no log. -/
theorem outcome_of_undecodable {b : Bytes} (h : v.undecodable? = some b) :
    v.outcome.exit = .aborted ∧ v.outcome.output = [] ∧ v.records = [] ∧ v.outcome.log = [] := by
  obtain ⟨hexit, hout⟩ := outcome_error (document_of_undecodable h)
  have hrecords : v.records = [] := by simp only [records, h]
  refine ⟨hexit, hout, hrecords, ?_⟩
  rw [log_outcome, hrecords]
  rfl

end Invocation
end CountedConfig
