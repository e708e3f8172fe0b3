/-
Counts that no input meets.

A count of digits that 64 bits do not hold is cut to the largest that they do.  No input is so
long that this could be told from the count that was written: each character is at least a byte,
so what is left behind a line is less than the count asks for behind its fragment.  The reading
ends there, with an error that tells what was asked for and what there was (`parse_in_word`).
-/
import CountedConfig.Proofs.Lines
import CountedConfig.Proofs.Word

namespace CountedConfig

/-! ### Sizes -/

theorem Text.length_le_length_encode (t : Text) : t.length ≤ (encode t).length := by
  induction t with
  | nil => exact Nat.le_refl _
  | cons c t ih =>
    have hc : 0 < (String.utf8EncodeChar c).length := by
      rw [String.length_utf8EncodeChar]
      exact c.utf8Size_pos
    rw [encode_cons, List.length_append, List.length_cons]
    omega

theorem length_normalizeEnd_le (t : Text) : (normalizeEnd t).length ≤ t.length := by
  fun_induction normalizeEnd t with
  | case1 => exact Nat.le_refl _
  | case2 => decide
  | case3 c rest _ ih => exact Nat.succ_le_succ ih

namespace PhysicalLine

/-- A line has no more characters than bytes. -/
theorem size_le_of_ofBytes? {b : Bytes} {line : PhysicalLine} (h : ofBytes? b = some line) :
    line.size ≤ b.length := by
  unfold ofBytes? at h
  split at h
  · rename_i hd
    obtain rfl := Option.some.inj h
    refine Nat.pos_of_ne_zero fun h0 => ?_
    obtain rfl := List.length_eq_zero_iff.1 h0
    exact absurd hd (by decide)
  · rename_i t ht
    obtain rfl := Text.eq_encode_of_decode? ht
    have hlen := Nat.le_trans (length_normalizeEnd_le t) (Text.length_le_length_encode t)
    split at h
    · simp at h
    · rename_i c rest hcons
      obtain rfl := Option.some.inj h
      rwa [hcons] at hlen

theorem totalSize_ofInput_le (b : Bytes) : totalSize (ofInput b) ≤ b.length := by
  have hpieces : ∀ pieces : List Bytes, totalSize (pieces.filterMap ofBytes?) ≤ pieces.flatten.length := by
    intro pieces
    induction pieces with
    | nil => exact Nat.le_refl _
    | cons piece more ih =>
      rw [List.flatten_cons, List.length_append]
      cases hp : ofBytes? piece with
      | none =>
        rw [List.filterMap_cons_none hp]
        omega
      | some line =>
        have := size_le_of_ofBytes? hp
        rw [List.filterMap_cons_some hp, totalSize]
        omega
  have h := hpieces (splitLines b)
  rwa [flatten_splitLines] at h

theorem length_le_totalSize (lines : List PhysicalLine) : lines.length ≤ totalSize lines := by
  induction lines with
  | nil => exact Nat.le_refl _
  | cons line more ih =>
    have hsize : 1 ≤ line.size := by cases line <;> simp [size]
    rw [List.length_cons, totalSize]
    omega

theorem available_le_totalSize (unit : CountUnit) (lines : List PhysicalLine) :
    available unit lines ≤ totalSize lines := by
  induction lines with
  | nil => cases unit <;> exact Nat.le_refl _
  | cons line more ih =>
    cases line with
    | undecodable => cases unit <;> exact Nat.zero_le _
    | text c rest =>
      cases unit with
      | lines =>
        simp only [available, readable, totalSize, size, List.length_cons] at ih ⊢
        omega
      | characters =>
        simp only [available, readable, totalSize, size, List.flatten_cons, List.length_append,
          List.length_cons] at ih ⊢
        omega

end PhysicalLine

/-! ### What a count asks for -/

/-- How many of its units a count asks for behind the fragment and the newline after it. -/
def CountUnit.beyond (unit : CountUnit) (count : Nat) (fragment : Text) : Nat :=
  match unit with
  | .lines => count - 1
  | .characters => count - fragment.length - 1

/-- What the largest count asks for, and it is no small number. -/
theorem CountUnit.beyond_largest (unit : CountUnit) (fragment : Text) :
    UInt64.size - 2 - fragment.length ≤ unit.beyond (UInt64.size - 1) fragment ∧
      (unit = .lines → unit.beyond (UInt64.size - 1) fragment = UInt64.size - 2) ∧
      (unit = .characters → unit.beyond (UInt64.size - 1) fragment = UInt64.size - 2 - fragment.length) := by
  cases unit with
  | lines => exact ⟨Nat.sub_le _ _, fun _ => rfl, by simp⟩
  | characters =>
    have hsub : UInt64.size - 1 - fragment.length - 1 = UInt64.size - 2 - fragment.length :=
      Nat.sub_right_comm _ _ _
    exact ⟨Nat.le_of_eq hsub.symm, by simp, fun _ => hsub⟩

namespace Input

open PhysicalLine

variable {i : Input} {unit : CountUnit}

theorem available_le_remaining (unit : CountUnit) (i : Input) :
    available unit i.remainder.lines ≤ i.remaining := by
  have hsize : totalSize i.remainder.lines = i.remaining := by
    obtain ⟨origin, unread, pending, injected, number⟩ := i
    cases pending with
    | nil => exact (Nat.zero_add _).symm
    | cons c t => rfl
  exact hsize ▸ available_le_totalSize unit i.remainder.lines

/-- A value is truncated where less is left than its count asks for. -/
theorem complete_of_lt {count : Nat} {fragment : Text} (hi : .undecodable ∉ i.unread)
    (h : available unit i.remainder.lines < unit.beyond count fragment) (key : Text) :
    ∃ rest, i.complete unit key count fragment = (.error (.truncated key unit
      (unit.beyond count fragment) (available unit i.remainder.lines)), rest) := by
  obtain ⟨rest, hnext, -⟩ := next_of_lt hi h
  refine ⟨rest, ?_⟩
  cases unit with
  | lines =>
    have hcount : 1 < count := by
      simp only [CountUnit.beyond] at h
      omega
    have hr : i.nextLines (count - 1) = _ := hnext
    rw [complete, completeLines_of_gt hcount, hr]
    rfl
  | characters =>
    have hcount : fragment.length < count := by
      simp only [CountUnit.beyond] at h
      omega
    have hr : i.nextChars (count - fragment.length - 1) = _ := hnext
    rw [complete, completeCharacters_of_gt hcount, hr]
    rfl

theorem lastNumber_ofBytes_le (origin : Text) (b : Bytes) : (ofBytes origin b).lastNumber ≤ b.length := by
  have hlen := length_le_totalSize (ofInput b)
  have hsize := totalSize_ofInput_le b
  simp only [lastNumber, ofBytes]
  omega

theorem Reaches.readable {origin t : Text} {b : Bytes} {n : Nat} {j : Input}
    (hj : (ofBytes origin b).Reaches n j) (ht : Text.decode? b = some t) : .undecodable ∉ j.unread :=
  kept_readable.reaches (fun hm => absurd (undecodable_mem_ofInput.1 hm) (by simp [ht])) hj

/-- Behind a line that a reading takes, what is left and the line are no longer than the input. -/
theorem Reaches.length_le {origin line : Text} {b : Bytes} {n : Nat} {j rest : Input}
    (hj : (ofBytes origin b).Reaches n j) (hl : j.nextLine = (.ok (some line), rest)) :
    rest.remaining + line.length ≤ b.length := by
  have hstart : (ofBytes origin b).weight ≤ b.length := by
    have hsize := totalSize_ofInput_le b
    simpa [weight, remaining, ofBytes] using hsize
  have hweight := hj.weight_le
  have hnext := (weight_nextLine hl).2
  have hmax : line.length ≤ Nat.max line.length 1 := Nat.le_max_left _ _
  omega

end Input

open PhysicalLine in
/-- An input of fewer than 2 ^ 63 bytes is read with numbers of 64 bits.  No sum and no difference
is too large or too small for them, and a count that they do not hold is asked for as the largest
that they do, and is not met. -/
theorem parse_in_word (origin : Text) {b : Bytes} {t : Text} (ht : Text.decode? b = some t)
    (hb : b.length < UInt64.size / 2) :
    (∀ n j, (Input.ofBytes origin b).Reaches n j → j.step? = some j.step) ∧
      ∀ n j line rest unit key digits fragment, (Input.ofBytes origin b).Reaches n j →
        j.nextLine = (.ok (some line), rest) →
        LineKind.CountsWith line unit key digits fragment → UInt64.size - 1 ≤ Text.toNat digits →
        ∃ requested, (unit = .lines → requested = UInt64.size - 2) ∧
          (unit = .characters → requested = UInt64.size - 2 - fragment.length) ∧
          parse origin b =
            .error (.truncated key unit requested (available unit rest.remainder.lines)) := by
  refine ⟨fun n j hj => Input.step?_eq ?_, ?_⟩
  · have hstart := Input.lastNumber_ofBytes_le origin b
    exact (Input.kept_lastNumber_lt UInt64.size).reaches (by omega) hj
  · intro n j line rest unit key digits fragment hj hl hcounts hdigits
    have hk : LineKind.ofLine line = .counted unit key (UInt64.size - 1) fragment :=
      LineKind.ofLine_eq_counted_iff.2 ⟨digits, hcounts, (Nat.min_eq_left hdigits).symm⟩
    have hreadable := Input.kept_readable.nextLine (hj.readable ht)
    rw [hl] at hreadable
    have hlength := hj.length_le hl
    have hfragment := LineKind.length_fragment hk
    have havailable := Input.available_le_remaining unit rest
    obtain ⟨hlarge, hlines, hcharacters⟩ := unit.beyond_largest fragment
    have hlt : available unit rest.remainder.lines < unit.beyond (UInt64.size - 1) fragment := by
      omega
    obtain ⟨after, hcomplete⟩ := Input.complete_of_lt hreadable hlt key
    have hstep : j.step = .ended (.interrupted line rest.lineNumber (.truncated key unit
        (unit.beyond (UInt64.size - 1) fragment) (available unit rest.remainder.lines))) after := by
      simp only [Input.step, hl, Input.turn, hk, hcomplete]
    exact ⟨_, hlines, hcharacters, hj.result_eq_error hstep⟩

open PhysicalLine in
/-- The tail that a value leaves asks for more characters than 64 bits count, and finds two. -/
theorem parse_in_word_tail :
    ∃ j rest digits,
      (Input.ofBytes [] (Text.encode "a:1c=xk:99999999999999999999c=pq\nrs".toList)).Reaches 1 j ∧
      j.nextLine = (.ok (some "k:99999999999999999999c=pq".toList), rest) ∧
      LineKind.CountsWith "k:99999999999999999999c=pq".toList .characters ['k'] digits ['p', 'q'] ∧
      UInt64.size - 1 ≤ Text.toNat digits ∧ j.step? = some j.step ∧
      available .characters rest.remainder.lines = 2 ∧
      parse [] (Text.encode "a:1c=xk:99999999999999999999c=pq\nrs".toList) =
        .error (.truncated ['k'] .characters (UInt64.size - 2 - ['p', 'q'].length) 2) := by
  have hstep : (Input.ofBytes [] (Text.encode "a:1c=xk:99999999999999999999c=pq\nrs".toList)).step =
      .turned ⟨"a:1c=xk:99999999999999999999c=pq\n".toList, false, 1, [], some (['a'], ['x']),
          some "k:99999999999999999999c=pq".toList⟩
        ⟨[], [.text 'r' ['s']], [], some "k:99999999999999999999c=pq".toList, 1⟩ := by
    decide +kernel
  have hk : LineKind.ofLine "k:99999999999999999999c=pq".toList =
      .counted .characters ['k'] (UInt64.size - 1) ['p', 'q'] := by decide +kernel
  obtain ⟨digits, hcounts, hcount⟩ := LineKind.ofLine_eq_counted_iff.1 hk
  have hdigits : UInt64.size - 1 ≤ Text.toNat digits := hcount ▸ Nat.min_le_right _ _
  have hj := Input.Reaches.turned .start hstep
  obtain ⟨hword, hlargest⟩ := parse_in_word [] (Text.decode?_encode
    "a:1c=xk:99999999999999999999c=pq\nrs".toList) (by decide +kernel)
  obtain ⟨requested, -, hrequested, hparse⟩ := hlargest 1 _ _ _ _ _ _ _ hj rfl hcounts hdigits
  exact ⟨_, _, digits, hj, rfl, hcounts, hdigits, hword 1 _ hj, rfl, hrequested rfl ▸ hparse⟩

end CountedConfig
