/-
A call that names its file.

What such a call lists comes from the file and from nothing else, but for the marker.  Two
calls on files of the same content therefore end alike and list the same document, each with
its own marker (`Invocation.outcome_of_argument`).
-/
import CountedConfig.Proofs.Command.Marker
import CountedConfig.Proofs.Command.Outcome
import CountedConfig.Proofs.Relocation

namespace CountedConfig

theorem parseFile_congr {disk disk' : Disk} {path other : Path} (h : disk path = disk' other) :
    parseFile disk path = (parseFile disk' other).mapError (.rename path.display) := by
  unfold parseFile readFile
  rw [h]
  cases disk' other with
  | error cause => rfl
  | ok content => exact parse_rename path.display other.display content

namespace Invocation

variable {v w : Invocation} {file other : Path}

theorem undecodable?_of_argument (hv : v.arguments = [file]) :
    v.undecodable? = none ↔ v.name.IsText ∧ file.IsText := by
  rw [undecodable?_eq_none_iff, hv, List.forall_mem_singleton]

/-- Calls on files of the same content, or on files that fail alike, end alike whatever their
settings and their environments are.  When there is a document both list it, each with its
own marker.  The names of the calls and of the files have to be text in both calls or in neither,
as they are when they are the same. -/
theorem outcome_of_argument (hv : v.arguments = [file]) (hw : w.arguments = [other])
    (hname : v.name.IsText ↔ w.name.IsText) (hfile : file.IsText ↔ other.IsText)
    (hd : v.disk file = w.disk other) :
    v.outcome.exit = w.outcome.exit ∧
      (¬ (v.name.IsText ∧ file.IsText) ∧ v.outcome.exit = .aborted ∧
          v.outcome.output = [] ∧ w.outcome.output = [] ∨
        (∃ e, parseFile v.disk file = .error e) ∧ v.outcome.exit = .code 1 ∧
          v.outcome.output = [] ∧ w.outcome.output = [] ∨
        v.outcome.exit = .code 0 ∧ ∃ d, parseFile v.disk file = .ok d ∧
          parseFile w.disk other = .ok d ∧
          v.outcome.output = Text.ofLines (d.listing v.settings.marker.text) ∧
          w.outcome.output = Text.ofLines (d.listing w.settings.marker.text)) ∧
      (v.MarkedBy v.settings.marker.text ∧ Marker.Valid v.settings.marker.text) ∧
      (w.MarkedBy w.settings.marker.text ∧ Marker.Valid w.settings.marker.text) := by
  have hmarked : ∀ u : Invocation, u.MarkedBy u.settings.marker.text ∧
      Marker.Valid u.settings.marker.text := fun u =>
    have hm : u.MarkedBy u.settings.marker.text := marker_eq_iff.1 rfl
    ⟨hm, hm.valid⟩
  have htext : v.undecodable? = none ↔ w.undecodable? = none := by
    rw [undecodable?_of_argument hv, undecodable?_of_argument hw, hname, hfile]
  cases hu : v.undecodable? with
  | some b =>
    have hne : ¬ v.undecodable? = none := by simp [hu]
    obtain ⟨b', hu'⟩ := Option.ne_none_iff_exists'.1 (mt htext.2 hne)
    obtain ⟨hexit, hout, -⟩ := outcome_of_undecodable hu
    obtain ⟨hexit', hout', -⟩ := outcome_of_undecodable hu'
    rw [undecodable?_of_argument hv] at hne
    exact ⟨hexit.trans hexit'.symm, .inl ⟨hne, hexit, hout, hout'⟩, hmarked v, hmarked w⟩
  | none =>
    have hfiles := parseFile_congr hd
    have hdocv := document_of_input (input_of_argument hv hu)
    have hdocw := document_of_input (input_of_argument hw (htext.1 hu))
    cases hp : parseFile w.disk other with
    | error e =>
      rw [hp] at hfiles hdocw
      rw [hfiles] at hdocv
      obtain ⟨hexit, hout⟩ := outcome_error hdocv
      obtain ⟨hexit', hout'⟩ := outcome_error hdocw
      exact ⟨hexit.trans hexit'.symm, .inr (.inl ⟨⟨_, hfiles⟩, hexit, hout, hout'⟩), hmarked v,
        hmarked w⟩
    | ok d =>
      rw [hp] at hfiles hdocw
      rw [hfiles] at hdocv
      obtain ⟨hexit, hout⟩ := outcome_ok hdocv
      obtain ⟨hexit', hout'⟩ := outcome_ok hdocw
      exact ⟨hexit.trans hexit'.symm, .inr (.inr ⟨hexit, d, hfiles, rfl, hout, hout'⟩), hmarked v,
        hmarked w⟩

/-- The settings of the first call are refused for an empty marker, those of the second are
taken, and its log specification is refused. -/
theorem outcome_of_argument_marked :
    let file := Text.encode ['f']
    let disk : Text → Disk := fun settings path =>
      if path = file then .ok (Text.encode "k:4C= a b\nl=1\n".toList)
      else if path = Text.encode ['s'] then .ok (Text.encode settings)
      else .error .notFound
    let found := Text.encode "CONFLINE_CONFIG=s".toList
    let v : Invocation := ⟨Text.encode ['x'], [file], ⟨[found], none⟩,
      disk "space_marker = ''\n".toList⟩
    let w : Invocation := ⟨Text.encode ['y'], [file],
      ⟨[Text.encode "RUST_LOG=debug/a/b".toList, found], some (Text.encode "/h".toList)⟩,
      disk "space_marker = '_'\n".toList⟩
    (v.outcome.exit = .code 0 ∧ w.outcome.exit = .code 0) ∧
      (v.outcome.output = "|k|\t:\t|.a.b|\n|l|\t:\t|1|\n".toList ∧ v.MarkedBy ['.']) ∧
      (w.outcome.output = "|k|\t:\t|_a_b|\n|l|\t:\t|1|\n".toList ∧ w.MarkedBy ['_']) := by
  intro file disk found v w
  have hdisk : ∀ settings, disk settings file = .ok (Text.encode "k:4C= a b\nl=1\n".toList) :=
    fun _ => if_pos rfl
  have hfile : v.disk file = w.disk file :=
    (hdisk "space_marker = ''\n".toList).trans (hdisk "space_marker = '_'\n".toList).symm
  have hnames : v.name.IsText ↔ w.name.IsText :=
    iff_of_true (Bytes.isText_encode ['x']) (Bytes.isText_encode ['y'])
  have hparse : parseFile v.disk file =
      .ok (Document.ofList [(['k'], " a b".toList), (['l'], ['1'])]) := by
    decide +kernel +zetaReduce
  have hperiod : v.settings.marker.text = ['.'] := by decide +kernel +zetaReduce
  have hset : w.settings.marker.text = ['_'] := by decide +kernel +zetaReduce
  obtain ⟨hexit, hlisted, ⟨hv, -⟩, hw, -⟩ :=
    outcome_of_argument (v := v) (w := w) rfl rfl hnames Iff.rfl hfile
  rw [hperiod] at hlisted hv
  rw [hset] at hlisted hw
  rcases hlisted with ⟨hne, -⟩ | ⟨⟨e, he⟩, -⟩ | ⟨hzero, d, hd, -, hout, hout'⟩
  · exact absurd ⟨Bytes.isText_encode ['x'], Bytes.isText_encode ['f']⟩ hne
  · rw [hparse] at he
    cases he
  · rw [hparse] at hd
    cases hd
    refine ⟨⟨hzero, hexit ▸ hzero⟩, ⟨hout.trans ?_, hv⟩, hout'.trans ?_, hw⟩
    · decide +kernel
    · decide +kernel

end Invocation
end CountedConfig
