/-
The marker of a call.

A settings file sets the marker when it is there, is a text, is in order and holds a marker
that stays on one line.  In all other cases, whatever it is that keeps the settings from being
had, the marker is a period (`Invocation.marker_eq_iff`).
-/
import CountedConfig.Command

namespace CountedConfig

namespace Marker

/-- A text that can stand in for a space. -/
structure Valid (t : Text) : Prop where
  nonempty : t ≠ []
  no_newline : '\n' ∉ t
  no_return : '\r' ∉ t

theorem any_isLineBreak_iff {t : Text} : t.any Text.isLineBreak = true ↔ '\n' ∈ t ∨ '\r' ∈ t := by
  simp only [List.any_eq_true, Text.isLineBreak, Bool.or_eq_true, beq_iff_eq]
  constructor
  · rintro ⟨c, hc, rfl | rfl⟩
    · exact .inl hc
    · exact .inr hc
  · rintro (hc | hc)
    · exact ⟨'\n', hc, .inl rfl⟩
    · exact ⟨'\r', hc, .inr rfl⟩

theorem ofText_of_valid {t : Text} (h : Valid t) : ∃ m, ofText t = .ok m ∧ m.text = t := by
  have hb : ¬ t.any Text.isLineBreak = true :=
    fun hb => (any_isLineBreak_iff.1 hb).elim h.no_newline h.no_return
  rw [ofText, dif_neg h.nonempty, dif_neg hb]
  exact ⟨_, rfl, rfl⟩

theorem valid_of_ofText {t : Text} {m : Marker} (h : ofText t = .ok m) : Valid t ∧ m.text = t := by
  unfold ofText at h
  split at h
  · simp at h
  · rename_i hne
    split at h
    · simp at h
    · rename_i hb
      rw [any_isLineBreak_iff, not_or] at hb
      cases h
      exact ⟨⟨hne, hb.1, hb.2⟩, rfl⟩

end Marker

namespace Settings

/-- The text of a settings file is in order and sets a marker that can be used. -/
def SetsMarker (content m : Text) : Prop :=
  ∃ entries, Toml.read keys content = .ok entries ∧ entries.string? markerKey = some m ∧
    Marker.Valid m

variable {env : Environment} {path : Path} {content : Text}

/-- The two values of a settings file, taken out of what is read of its text. -/
theorem exists_read_of_map {input marker : Option Text}
    (h : (Toml.read keys content).map
      (fun entries => (entries.string? inputKey, entries.string? markerKey)) = .ok (input, marker)) :
    ∃ entries, Toml.read keys content = .ok entries ∧ entries.string? inputKey = input ∧
      entries.string? markerKey = marker := by
  cases hread : Toml.read keys content with
  | error e =>
    rw [hread] at h
    simp [Except.map] at h
  | ok entries =>
    rw [hread] at h
    obtain ⟨hinput, hmarker⟩ := Prod.mk.inj (Except.ok.inj h)
    exact ⟨entries, rfl, hinput, hmarker⟩

/-- What settings have that are had from a text. -/
theorem ofText_eq_ok_iff {s : Settings} :
    ofText env path content = .ok s ↔ ∃ entries, Toml.read keys content = .ok entries ∧
      s.defaultInput = (entries.string? inputKey).map (resolveInput env path) ∧
      ((entries.string? markerKey).map Marker.ofText).getD (.ok .period) = .ok s.marker := by
  constructor
  · intro h
    unfold ofText at h
    split at h
    · simp at h
    · rename_i entries hread
      split at h
      · simp at h
      · rename_i marker hmarker
        cases h
        exact ⟨entries, hread, rfl, hmarker⟩
  · rintro ⟨entries, hread, hinput, hmarker⟩
    rw [ofText, hread]
    simp only [hmarker, ← hinput]

theorem ofText_of_setsMarker {m : Text} (h : SetsMarker content m) (env : Environment)
    (path : Path) :
    ∃ s, ofText env path content = .ok s ∧ s.marker.text = m := by
  obtain ⟨entries, hread, hkey, hvalid⟩ := h
  obtain ⟨marker, hmarker, htext⟩ := Marker.ofText_of_valid hvalid
  refine ⟨⟨_, marker⟩, ofText_eq_ok_iff.2 ⟨entries, hread, rfl, ?_⟩, htext⟩
  rw [hkey, Option.map_some, Option.getD_some, hmarker]

/-- Settings that can be had take their marker from the file if it sets one. -/
theorem setsMarker_of_ofText {s : Settings} (h : ofText env path content = .ok s) :
    SetsMarker content s.marker.text ∨ s.marker = .period := by
  obtain ⟨entries, hread, -, hmarker⟩ := ofText_eq_ok_iff.1 h
  cases hkey : entries.string? markerKey with
  | none =>
    rw [hkey] at hmarker
    exact .inr (Except.ok.inj hmarker).symm
  | some t =>
    rw [hkey, Option.map_some, Option.getD_some] at hmarker
    obtain ⟨hvalid, htext⟩ := Marker.valid_of_ofText hmarker
    rw [htext]
    exact .inl ⟨entries, hread, hkey, hvalid⟩

/-- Settings are had from a file that is there and is a text. -/
theorem load_eq_some_iff {disk : Disk} {s : Settings} :
    load env disk path = .ok (some s) ↔ ∃ content text, disk path = .ok content ∧
      Text.decode? content = some text ∧ ofText env path text = .ok s := by
  constructor
  · intro h
    unfold load at h
    split at h
    · split at h
      · simp at h
      · rename_i content hdisk
        split at h
        · simp at h
        · rename_i text htext
          cases hs : ofText env path text with
          | error e => simp [hs, Except.map] at h
          | ok found =>
            simp only [hs, Except.map, Except.ok.injEq, Option.some.injEq] at h
            subst h
            exact ⟨content, text, hdisk, htext, hs⟩
    · simp at h
  · rintro ⟨content, text, hdisk, htext, hs⟩
    have hhas : disk.has path = true := by rw [Disk.has, hdisk]
    rw [load, if_pos hhas, hdisk]
    simp only [htext, hs]
    rfl

end Settings

namespace Invocation

variable {v : Invocation}

/-- The settings file is there, can be read and sets a marker that can be used. -/
def SetsMarker (v : Invocation) (m : Text) : Prop :=
  ∃ content text, v.disk v.settingsPath = .ok content ∧ Text.decode? content = some text ∧
    Settings.SetsMarker text m

/-- The marker of a call: the one that its settings file sets, or else a period. -/
def MarkedBy (v : Invocation) (m : Text) : Prop :=
  v.SetsMarker m ∨ m = ['.'] ∧ ∀ other, ¬ v.SetsMarker other

theorem MarkedBy.valid {m : Text} (h : v.MarkedBy m) : Marker.Valid m := by
  rcases h with ⟨_, _, _, _, _, _, _, hvalid⟩ | ⟨rfl, -⟩
  · exact hvalid
  · exact ⟨by decide, by decide, by decide⟩

theorem marker_of_setsMarker {m : Text} (h : v.SetsMarker m) : v.settings.marker.text = m := by
  obtain ⟨content, text, hdisk, htext, hset⟩ := h
  obtain ⟨s, hs, hm⟩ := Settings.ofText_of_setsMarker hset v.environment v.settingsPath
  have hload : v.loaded = .ok (some s) := Settings.load_eq_some_iff.2 ⟨content, text, hdisk, htext, hs⟩
  rw [settings, hload]
  exact hm

/-- Whatever keeps the settings from being had leaves the period. -/
theorem marker_of_not_setsMarker (h : ∀ m, ¬ v.SetsMarker m) : v.settings.marker = .period := by
  unfold settings
  split
  · rename_i s hload
    obtain ⟨content, text, hdisk, htext, hs⟩ := Settings.load_eq_some_iff.1 hload
    rcases Settings.setsMarker_of_ofText hs with hset | hperiod
    · exact absurd ⟨content, text, hdisk, htext, hset⟩ (h s.marker.text)
    · exact hperiod
  · rfl
  · rfl

theorem marker_eq_iff {m : Text} : v.settings.marker.text = m ↔ v.MarkedBy m := by
  constructor
  · rintro rfl
    by_cases h : ∃ m, v.SetsMarker m
    · obtain ⟨m, hm⟩ := h
      rw [marker_of_setsMarker hm]
      exact .inl hm
    · have hnone : ∀ m, ¬ v.SetsMarker m := fun m hm => h ⟨m, hm⟩
      rw [marker_of_not_setsMarker hnone]
      exact .inr ⟨rfl, hnone⟩
  · rintro (h | ⟨rfl, hnone⟩)
    · exact marker_of_setsMarker h
    · rw [marker_of_not_setsMarker hnone]
      rfl

end Invocation

end CountedConfig
