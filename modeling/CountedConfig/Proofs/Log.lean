/-
The records of a log, by what they tell of.

A turn tells what its line is, under the number of the line, and then what was stored under the
key of the line, or that the line was passed over.  What the log tells of one kind is therefore
read off the lines that were handed out (`Run.handed`) or off the entries that were stored,
whatever the document was in between.
-/
import CountedConfig.Proofs.Progress
import CountedConfig.Proofs.Steps
import CountedConfig.Reading.Event

namespace CountedConfig

/-! ### Records of one kind -/

namespace Event

/-- The number of a line that was read, and its meaning. -/
def classified? : Event → Option (Nat × LineKind)
  | .classified number kind => some (number, kind)
  | _ => none

/-- The number of a line that was passed over, and what is shown of it. -/
def skipped? : Event → Option (Nat × Text)
  | .skipped _ number line => some (number, line)
  | _ => none

/-- The number of the line that a record is about. -/
def number? : Event → Option Nat
  | .classified number _ => some number
  | .skipped _ number _ => some number
  | _ => none

/-- The key that was stored, and the number of characters of its value. -/
def stored? : Event → Option (Text × Nat)
  | .stored key size => some (key, size)
  | _ => none

def reassigned? : Event → Option Text
  | .reassigned key => some key
  | _ => none

end Event

/-- The key that a line is to store. -/
def LineKind.key? : LineKind → Option Text
  | .counted _ key _ _ => some key
  | .plain _ key _ => some key
  | _ => none

/-! ### Turns -/

namespace Turn

variable (origin : Text) (d : Document) (t : Turn)

theorem filterMap_classified?_events :
    (t.events origin d).filterMap Event.classified? = [(t.number, t.kind)] := by
  unfold events
  cases t.entry with
  | none => by_cases h : t.kind = .unrecognized <;> simp [h, Event.classified?, List.filterMap_cons]
  | some e => by_cases h : d.contains e.1 = true <;> simp [h, Event.classified?, List.filterMap_cons]

theorem filterMap_stored?_events :
    (t.events origin d).filterMap Event.stored? =
      (t.entry.map fun e => (e.1, e.2.length)).toList := by
  unfold events
  cases t.entry with
  | none => by_cases h : t.kind = .unrecognized <;> simp [h, Event.stored?, List.filterMap_cons]
  | some e => by_cases h : d.contains e.1 = true <;> simp [h, Event.stored?, List.filterMap_cons]

variable {t}

/-- A turn stores the key of its line, and nothing where the line has none. -/
def StoresKey (t : Turn) : Prop := t.entry.map Prod.fst = t.kind.key?

theorem StoresKey.entry_eq_none (h : t.StoresKey) (hkind : t.kind = .unrecognized) :
    t.entry = none := by
  rw [StoresKey, hkind] at h
  exact Option.map_eq_none_iff.1 h

theorem StoresKey.filterMap_skipped?_events (h : t.StoresKey) :
    (t.events origin d).filterMap Event.skipped? =
      if t.kind = .unrecognized then [(t.number, Text.trimEnd t.line)] else [] := by
  unfold events
  by_cases hkind : t.kind = .unrecognized
  · simp [h.entry_eq_none hkind, hkind, Event.skipped?, List.filterMap_cons]
  · cases t.entry with
    | none => simp [hkind, Event.skipped?, List.filterMap_cons]
    | some e => by_cases hc : d.contains e.1 = true <;> simp [hkind, hc, Event.skipped?, List.filterMap_cons]

theorem StoresKey.filterMap_number?_events (h : t.StoresKey) :
    (t.events origin d).filterMap Event.number? =
      t.number :: if t.kind = .unrecognized then [t.number] else [] := by
  unfold events
  by_cases hkind : t.kind = .unrecognized
  · simp [h.entry_eq_none hkind, hkind, Event.number?]
  · cases t.entry with
    | none => simp [hkind, Event.number?]
    | some e => by_cases hc : d.contains e.1 = true <;> simp [hkind, hc, Event.number?, List.filterMap_cons]

end Turn

namespace Input

theorem Turned.storesKey {line : Text} {injected : Bool} {i next : Input} {t : Turn}
    (h : Turned line injected i t next) : t.StoresKey := by
  cases h with
  | counted hkind _ => simp [Turn.StoresKey, Turn.kind, hkind, LineKind.key?]
  | plain hkind => simp [Turn.StoresKey, Turn.kind, hkind, LineKind.key?]
  | idle hkind =>
    rcases hkind with hkind | hkind | hkind
    · simp [Turn.StoresKey, Turn.kind, hkind, LineKind.key?]
    · simp [Turn.StoresKey, Turn.kind, hkind, LineKind.key?]
    · simp [Turn.StoresKey, Turn.kind, hkind, LineKind.key?]

theorem storesKey_of_mem_turns {i : Input} {t : Turn} (h : t ∈ i.run.turns) : t.StoresKey := by
  obtain ⟨n, j, next, -, hs⟩ := exists_reaches_of_mem_turns h
  obtain ⟨line, rest, -, hturn⟩ := turned_of_step hs
  exact hturn.storesKey

end Input

/-! ### Readings -/

/-- The line whose value could not be completed. -/
def Ending.handed : Ending → List (Nat × Text)
  | .interrupted line number _ => [(number, line)]
  | _ => []

namespace Run

/-- The lines that were handed out, each with its number. -/
def handed (r : Run) : List (Nat × Text) :=
  (r.turns.map fun t => (t.number, t.line)) ++ r.ending.handed

theorem filterMap_eventsFrom {α : Type} {view : Event → Option α} {of : Turn → List α}
    {origin : Text} {turns : List Turn}
    (h : ∀ t ∈ turns, ∀ d, (t.events origin d).filterMap view = of t) (d : Document) :
    (eventsFrom origin d turns).filterMap view = turns.flatMap of := by
  induction turns generalizing d with
  | nil => rfl
  | cons t turns ih =>
    rw [eventsFrom, List.filterMap_append, h t List.mem_cons_self,
      ih (fun u hu => h u (List.mem_cons_of_mem t hu)), List.flatMap_cons]

end Run

namespace Input

theorem stopped_run (i : Input) :
    ∃ j, i.Reaches i.run.turns.length j ∧ Stopped j i.run.ending i.run.rest := by
  obtain ⟨j, hj, hs⟩ := exists_reaches_end i
  exact ⟨j, hj, stopped_of_step hs⟩

theorem Stopped.ofLine_ne_unrecognized {i rest : Input} {ending : Ending}
    (h : Stopped i ending rest) : ∀ c ∈ ending.handed, LineKind.ofLine c.2 ≠ .unrecognized := by
  intro c hc
  cases h with
  | complete _ => exact absurd hc List.not_mem_nil
  | unreadable _ => exact absurd hc List.not_mem_nil
  | interrupted _ hkind _ _ =>
    obtain rfl := List.mem_singleton.1 hc
    rw [hkind]
    simp

/-- What is told of the line of every turn, and of the line that a reading was interrupted at, is
what the log tells. -/
theorem filterMap_log {α : Type} {view : Event → Option α} {of : Nat × Text → List α}
    (hturn : ∀ t : Turn, t.StoresKey → ∀ origin d,
      (t.events origin d).filterMap view = of (t.number, t.line))
    (hlast : ∀ c, LineKind.ofLine c.2 ≠ .unrecognized →
      [Event.classified c.1 (LineKind.ofLine c.2)].filterMap view = of c)
    (hclosing : ∀ entries origin lines, view (.parsed entries origin lines) = none) (i : Input) :
    i.run.log.filterMap view = i.run.handed.flatMap of := by
  have hturns := Run.filterMap_eventsFrom
    (fun t (ht : t ∈ i.run.turns) => hturn t (storesKey_of_mem_turns ht) i.run.rest.origin) .empty
  have hend : i.run.closing.filterMap view = i.run.ending.handed.flatMap of := by
    obtain ⟨j, -, hstop⟩ := stopped_run i
    have hknown := hstop.ofLine_ne_unrecognized
    unfold Run.closing
    cases hending : i.run.ending with
    | complete => exact List.filterMap_cons_none (hclosing _ _ _)
    | unreadable cause => rfl
    | interrupted line number e =>
      rw [hending] at hknown
      have hc := hlast (number, line) (hknown _ List.mem_cons_self)
      exact hc.trans (List.append_nil _).symm
  rw [Run.log, List.filterMap_append, hturns, hend, Run.handed, List.flatMap_append, List.flatMap_map]

/-- The lines that the log classifies are those that were handed out. -/
theorem filterMap_classified?_log (i : Input) :
    i.run.log.filterMap Event.classified? =
      i.run.handed.map fun c => (c.1, LineKind.ofLine c.2) := by
  rw [List.map_eq_flatMap]
  refine filterMap_log (fun t _ origin d => ?_) (fun _ _ => rfl) (fun _ _ _ => rfl) i
  exact t.filterMap_classified?_events origin d

/-- The lines that the log passes over are those without a meaning. -/
theorem filterMap_skipped?_log (i : Input) :
    i.run.log.filterMap Event.skipped? = i.run.handed.flatMap fun c =>
      if LineKind.ofLine c.2 = .unrecognized then [(c.1, Text.trimEnd c.2)] else [] := by
  refine filterMap_log (fun t ht origin d => ?_) (fun c hc => ?_) (fun _ _ _ => rfl) i
  · exact ht.filterMap_skipped?_events origin d
  · rw [if_neg hc]
    rfl

theorem filterMap_number?_log (i : Input) :
    i.run.log.filterMap Event.number? = i.run.handed.flatMap fun c =>
      c.1 :: if LineKind.ofLine c.2 = .unrecognized then [c.1] else [] := by
  refine filterMap_log (fun t ht origin d => ?_) (fun c hc => ?_) (fun _ _ _ => rfl) i
  · exact ht.filterMap_number?_events origin d
  · rw [if_neg hc]
    rfl

end Input
end CountedConfig
