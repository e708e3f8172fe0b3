/-
A reading that starts with a line.

What a turn stores, and what comes after it, depends on the line by its meaning alone
(`Input.run_turn_congr`).  The line may therefore be the tail of another one, or be
written with its newline.  Entries that are each read for themselves are read one after
the other (`Input.run_flatMap`).
-/
import CountedConfig.Proofs.Lines
import CountedConfig.Reading

namespace CountedConfig

namespace Step

theorem entries_run_turned (t : Turn) (next : Input) :
    (Step.turned t next).run.entries = t.entry.toList ++ next.run.entries := by
  show (t :: next.run.turns).filterMap Turn.entry = _
  rw [List.filterMap_cons]
  cases t.entry <;> rfl

theorem error?_run_turned (t : Turn) (next : Input) :
    (Step.turned t next).run.error? = next.run.error? := rfl

end Step

namespace Input

theorem readLine_ended (origin l : Text) (more : List PhysicalLine) (injected : Option Text)
    (n : Nat) :
    readLine ⟨origin, .ended l :: more, [], injected, n⟩ =
      (.ok (some (l ++ ['\n'])), ⟨origin, more, [], injected, n + 1⟩) := by
  cases l <;> rfl

theorem run_line {l : Text} (hn : '\n' ∉ l) (hr : l.getLast? ≠ some '\r') (origin t : Text) :
    (ofBytes origin (Text.encode (l ++ '\n' :: t))).run =
      (turn (l ++ ['\n']) false ⟨origin, PhysicalLine.ofInput (Text.encode t), [], none, 1⟩).run := by
  have hnext : (ofBytes origin (Text.encode (l ++ '\n' :: t))).nextLine =
      (.ok (some (l ++ ['\n'])), ⟨origin, PhysicalLine.ofInput (Text.encode t), [], none, 1⟩) := by
    rw [ofBytes, PhysicalLine.ofInput_encode_line hn hr]
    exact readLine_ended origin l _ none 0
  rw [run_eq, step, hnext]
  rfl

theorem run_inject (line : Text) {i : Input} (h : i.injected = none) :
    (i.inject line).run = (turn line true i).run := by
  have hi : { i.inject line with injected := none } = i := by
    obtain ⟨origin, unread, pending, injected, n⟩ := i
    obtain rfl : injected = none := h
    rfl
  rw [run_eq, step, nextLine]
  simp only [inject] at hi ⊢
  rw [hi]
  rfl

theorem run_turn_congr {line other : Text} (h : LineKind.ofLine line = LineKind.ofLine other)
    (injected injected' : Bool) (i : Input) :
    (turn line injected i).run.entries = (turn other injected' i).run.entries ∧
      (turn line injected i).run.error? = (turn other injected' i).run.error? := by
  unfold turn
  rw [h]
  split
  · split
    · simp only [Step.entries_run_turned, Step.error?_run_turned, and_self]
    · exact ⟨rfl, rfl⟩
  all_goals simp only [Step.entries_run_turned, Step.error?_run_turned, and_self]

/-! ### Entries one after the other -/

/-- Where every entry is read as a whole, whatever follows it, all of them are read. -/
theorem run_flatMap {α : Type} {write : α → Text} {items : List α} (stored : α → Text × Text)
    (origin : Text)
    (h : ∀ a ∈ items, ∀ t,
      (ofBytes origin (Text.encode (write a ++ t))).run.entries =
          stored a :: (ofBytes origin (Text.encode t)).run.entries ∧
        (ofBytes origin (Text.encode (write a ++ t))).run.error? =
          (ofBytes origin (Text.encode t)).run.error?) :
    (ofBytes origin (Text.encode (items.flatMap write))).run.entries = items.map stored ∧
      (ofBytes origin (Text.encode (items.flatMap write))).run.error? = none := by
  induction items with
  | nil =>
    have hend : (ofBytes origin (Text.encode [])).run = ⟨[], .complete, ofBytes origin []⟩ := by
      rw [run_eq]
      rfl
    rw [List.flatMap_nil, hend]
    exact ⟨rfl, rfl⟩
  | cons a rest ih =>
    obtain ⟨hentries, herror⟩ := ih fun b hb => h b (List.mem_cons_of_mem a hb)
    obtain ⟨hes, her⟩ := h a List.mem_cons_self (rest.flatMap write)
    rw [List.flatMap_cons, hes, her, hentries, herror]
    exact ⟨rfl, rfl⟩

end Input
end CountedConfig
