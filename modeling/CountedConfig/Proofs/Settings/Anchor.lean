/-
Where the default input lies.

The path in a settings file is expanded as a whole or kept as it is written, and what comes of it is
seen from the directory of the file (`Settings.load_anchored`).  Settings that are found by an
absolute path name their input by an absolute path, whatever the variables hold.
-/
import CountedConfig.Proofs.Command.Marker
import CountedConfig.Proofs.File.Path
import CountedConfig.Proofs.Settings.Expansion

namespace CountedConfig

/-- A path as it is seen from the directory of a file: an absolute one stays as it is. -/
def Path.anchored (file p : Path) : Path := if isAbsolute p then p else join (parent file) p

theorem Path.join_parent (file p : Path) : join (parent file) p = anchored file p := by
  cases hp : isAbsolute p with
  | true => rw [anchored, join, hp, Bool.true_or, if_pos rfl, if_pos rfl]
  | false => rw [anchored, hp, if_neg Bool.false_ne_true]

theorem Path.isAbsolute_anchored {file : Path} (h : isAbsolute file = true) (hroot : ¬ IsRoot file)
    (p : Path) : isAbsolute (anchored file p) = true := by
  rw [← join_parent]
  exact isAbsolute_join (isAbsolute_parent h hroot) p

namespace Settings

open Expansion

variable {env : Environment} {disk : Disk} {content : Bytes} {path : Path}
  {text written e : Text}

/-- The text of a settings file is in order and names the default input by this path. -/
def SetsInput (text written : Text) : Prop :=
  ∃ entries, Toml.read keys text = .ok entries ∧ entries.string? inputKey = some written ∧
    ∀ m, entries.string? markerKey = some m → Marker.Valid m

theorem ofText_of_setsInput (h : SetsInput text written) (env : Environment) (path : Path) :
    ∃ s, ofText env path text = .ok s ∧ s.defaultInput = some (resolveInput env path written) := by
  obtain ⟨entries, hread, hinput, hvalid⟩ := h
  have hmarker : ∃ marker,
      ((entries.string? markerKey).map Marker.ofText).getD (.ok .period) = .ok marker := by
    cases hkey : entries.string? markerKey with
    | none => exact ⟨.period, rfl⟩
    | some t =>
      obtain ⟨marker, hmarker, -⟩ := Marker.ofText_of_valid (hvalid t hkey)
      exact ⟨marker, hmarker⟩
  obtain ⟨marker, hmarker⟩ := hmarker
  exact ⟨⟨_, marker⟩, ofText_eq_ok_iff.2 ⟨entries, hread, rfl, hmarker⟩,
    congrArg (Option.map (resolveInput env path)) hinput⟩

theorem resolveInput_of_expanded (path : Path) (h : Expanded env written e) :
    resolveInput env path written = Path.anchored path (Text.encode e) := by
  rw [resolveInput, expand?_eq_some_iff.2 h, Option.getD_some, Path.join_parent]

theorem resolveInput_of_unset (path : Path) (h : Unset env written) :
    resolveInput env path written = Path.anchored path (Text.encode written) := by
  rw [resolveInput, expand?_eq_none_iff.2 h, Option.getD_none, Path.join_parent]

theorem isAbsolute_resolveInput (h : Path.isAbsolute path = true) (hroot : ¬ Path.IsRoot path)
    (env : Environment) (written : Text) :
    Path.isAbsolute (resolveInput env path written) = true := by
  rw [resolveInput, Path.join_parent]
  exact Path.isAbsolute_anchored h hroot _

/-- The default input is the expanded path, or the path as it is written when one of its references
has no value, seen from the directory of the settings file. -/
theorem load_anchored (hdisk : disk path = .ok content) (htext : Text.decode? content = some text)
    (hset : SetsInput text written) (env : Environment) :
    ∃ s input, load env disk path = .ok (some s) ∧ s.defaultInput = some input ∧
      ((∃ e, Expanded env written e) ↔ ¬ Unset env written) ∧
      (∀ e, Expanded env written e → input = Path.anchored path (Text.encode e)) ∧
      (Unset env written → input = Path.anchored path (Text.encode written)) ∧
      ('$' ∉ written → ¬ BelowHome written → ∀ e, Expanded env written e ↔ e = written) ∧
      (disk.RootIsDirectory → Path.isAbsolute path = true → Path.isAbsolute input = true) := by
  obtain ⟨s, hs, hinput⟩ := ofText_of_setsInput hset env path
  have hload := load_eq_some_iff.2 ⟨content, text, hdisk, htext, hs⟩
  refine ⟨s, resolveInput env path written, hload, hinput, exists_expanded_iff,
    fun e he => resolveInput_of_expanded path he, resolveInput_of_unset path, ?_, ?_⟩
  · intro hdollar hhome e
    rw [← expand?_eq_some_iff, expand?_eq_self env hdollar hhome, Option.some.injEq]
    exact eq_comm
  · intro hroot habsolute
    refine isAbsolute_resolveInput habsolute (fun h => ?_) env written
    rw [hroot path h] at hdisk
    cases hdisk

/-- The home directory is that of the account, since `HOME` is empty, and `B` has its fallback.
When `A` is no text neither of them is put in. -/
theorem load_anchored_unset :
    let written := "~/$A/$\x7bB:-b\x7d".toList
    let content := "default_input = '~/$A/$\x7bB:-b\x7d'\n".toList
    let settings := Text.encode "/c/s".toList
    let home := Text.encode "/h".toList
    let disk : Disk := fun path =>
      if path = settings then .ok (Text.encode content) else .error .isDirectory
    let set : Environment :=
      ⟨[Text.encode "HOME=".toList, Text.encode "A=a".toList], some home⟩
    let unset : Environment :=
      ⟨[Text.encode "HOME=".toList ++ home, Text.encode "A=".toList ++ [0xff]], none⟩
    disk.RootIsDirectory ∧ SetsInput content written ∧
      Expanded set written "/h/a/b".toList ∧ Unset unset written ∧
      (∃ s input, load set disk settings = .ok (some s) ∧ s.defaultInput = some input ∧
        input = Text.encode "/h/a/b".toList ∧ Path.isAbsolute input = true) ∧
      (∃ s input, load unset disk settings = .ok (some s) ∧ s.defaultInput = some input ∧
        input = Text.encode ("/c/".toList ++ written) ∧ Path.isAbsolute input = true) := by
  intro written content settings home disk set unset
  have hroot : disk.RootIsDirectory := by
    intro path h
    have hne : path ≠ settings := by
      rintro rfl
      rcases Path.mem_of_isRoot h (b := 'c'.toUInt8) (by decide) with hc | hc
      · exact absurd hc (by decide)
      · exact absurd hc (by decide)
    exact if_neg hne
  have hdisk : disk settings = .ok (Text.encode content) := if_pos rfl
  have hset : SetsInput content written := by
    have hkeys : (Toml.read keys "default_input = '~/$A/$\x7bB:-b\x7d'\n".toList).map
        (fun entries => (entries.string? inputKey, entries.string? markerKey)) =
          .ok (some "~/$A/$\x7bB:-b\x7d".toList, none) := by decide +kernel
    obtain ⟨entries, hread, hinput, hmarker⟩ := exists_read_of_map hkeys
    refine ⟨entries, hread, hinput, fun m hm => ?_⟩
    rw [hmarker] at hm
    cases hm
  have hexpanded : Expanded set written "/h/a/b".toList :=
    expand?_eq_some_iff.1 (by decide +kernel +zetaReduce)
  have hunset : Unset unset written := expand?_eq_none_iff.1 (by decide +kernel +zetaReduce)
  refine ⟨hroot, hset, hexpanded, hunset, ?_, ?_⟩
  · obtain ⟨s, input, hload, hinput, -, he, -, -, habsolute⟩ :=
      load_anchored hdisk (Text.decode?_encode _) hset set
    exact ⟨s, input, hload, hinput, he _ hexpanded, habsolute hroot rfl⟩
  · obtain ⟨s, input, hload, hinput, -, -, hu, -, habsolute⟩ :=
      load_anchored hdisk (Text.decode?_encode _) hset unset
    exact ⟨s, input, hload, hinput, hu hunset, habsolute hroot rfl⟩

end Settings
end CountedConfig
