/-
Either terminator ends a line.

A return before a newline is left out when the line is read, and nowhere else does a
reading see bytes.  Where no newline has a return before it, returns can therefore be
put before any of them: the reading stays the same, line numbers included
(`parse_withReturns`).
-/
import CountedConfig.Proofs.Lines.Cutting
import CountedConfig.Reading.Event

namespace CountedConfig

/-- The bytes with a return before each newline whose number, counted from zero, is among
`returned`. -/
def withReturns (returned : Nat → Bool) : Bytes → Bytes
  | [] => []
  | x :: more =>
    if x = 10 then
      (if returned 0 then [13, 10] else [10]) ++ withReturns (fun n => returned (n + 1)) more
    else x :: withReturns returned more

theorem withReturns_append {x : Bytes} (hx : (10 : UInt8) ∉ x) (returned : Nat → Bool) (more : Bytes) :
    withReturns returned (x ++ more) = x ++ withReturns returned more := by
  induction x with
  | nil => rfl
  | cons y x ih =>
    have hy : y ≠ 10 := fun e => hx (e ▸ List.mem_cons_self)
    rw [List.cons_append, withReturns, if_neg hy, ih fun hm => hx (List.mem_cons_of_mem y hm)]
    rfl

theorem withReturns_newline (returned : Nat → Bool) (more : Bytes) :
    withReturns returned (10 :: more) =
      (if returned 0 then [13, 10] else [10]) ++ withReturns (fun n => returned (n + 1)) more := by
  rw [withReturns, if_pos rfl]

/-! ### A line with either terminator -/

/-- A byte that is a character of its own ends the text or its beginning cannot be read. -/
theorem Text.decode?_concat {c : Char} {b : UInt8} (hc : String.utf8EncodeChar c = [b])
    (hb : b.toNat < 128) (x : Bytes) : decode? (x ++ [b]) = (decode? x).map (· ++ [c]) := by
  ext t
  rw [Option.map_eq_some_iff, decode?_eq_some_iff]
  constructor
  · intro h
    have hne : t ≠ [] := by
      rintro rfl
      simp [encode] at h
    obtain ⟨s, d, rfl⟩ : ∃ s d, t = s ++ [d] := ⟨_, _, (List.dropLast_concat_getLast hne).symm⟩
    have hd : encode (s ++ [d]) = encode s ++ String.utf8EncodeChar d := encode_concat s d
    -- The last byte of the text is the last byte of its last character.
    have hlast : b ∈ String.utf8EncodeChar d := by
      have hl := congrArg List.getLast? h
      rw [hd, List.getLast?_concat, List.getLast?_append,
        List.getLast?_eq_some_getLast String.utf8EncodeChar_ne_nil, Option.some_or,
        Option.some.injEq] at hl
      exact hl ▸ List.getLast_mem String.utf8EncodeChar_ne_nil
    have hcn : c.toNat = b.toNat :=
      toNat_eq_of_mem_utf8EncodeChar (hc ▸ List.mem_singleton_self b) hb
    obtain rfl : d = c :=
      Char.toNat_inj.1 ((toNat_eq_of_mem_utf8EncodeChar hlast hb).trans hcn.symm)
    rw [hd, hc] at h
    exact ⟨s, decode?_eq_some_iff.2 (List.append_cancel_right h), rfl⟩
  · rintro ⟨s, hs, rfl⟩
    rw [decode?_eq_some_iff.1 hs, encode_append, encode_cons, hc]
    rfl

namespace PhysicalLine

theorem ofBytes?_return {x : Bytes} (hx : x.getLast? ≠ some 13) :
    ofBytes? (x ++ [13, 10]) = ofBytes? (x ++ [10]) := by
  have hn : Text.decode? (x ++ [10]) = (Text.decode? x).map (· ++ ['\n']) :=
    Text.decode?_concat (by decide) (by decide) x
  have hr : Text.decode? (x ++ [13, 10]) = (Text.decode? x).map (· ++ ['\r', '\n']) := by
    rw [← List.singleton_append, ← List.append_assoc,
      Text.decode?_concat (c := '\n') (by decide) (by decide),
      Text.decode?_concat (c := '\r') (by decide) (by decide), Option.map_map]
    congr 1
    funext s
    simp
  cases hd : Text.decode? x with
  | none =>
    rw [hd] at hn hr
    rw [ofBytes?_eq_undecodable_iff.2 hn, ofBytes?_eq_undecodable_iff.2 hr]
  | some s =>
    have hs : s.getLast? ≠ some '\r' := by
      intro he
      obtain ⟨front, rfl⟩ := List.getLast?_eq_some_iff.1 he
      refine hx ?_
      rw [Text.decode?_eq_some_iff.1 hd, Text.encode_append]
      exact List.getLast?_concat
    rw [hd] at hn hr
    rw [ofBytes?_eq_ended hn (normalizeEnd_line hs), ofBytes?_eq_ended hr (normalizeEnd_return s)]

/-- The lines of an input do not show how they were ended. -/
theorem ofInput_withReturns {b : Bytes} (hb : ¬ [13, 10] <:+: b) (returned : Nat → Bool) :
    ofInput (withReturns returned b) = ofInput b := by
  induction b using line_induction (10 : UInt8) generalizing returned with
  | nil => rfl
  | last x hne hx =>
    have hw := withReturns_append hx returned []
    rw [List.append_nil] at hw
    rw [hw, withReturns, List.append_nil]
  | ended x more hx ih =>
    have hmore : ¬ [13, 10] <:+: more := fun h =>
      hb (h.trans ((List.suffix_cons 10 more).trans (List.suffix_append x _)).isInfix)
    have hlast : x.getLast? ≠ some 13 := by
      intro he
      obtain ⟨front, rfl⟩ := List.getLast?_eq_some_iff.1 he
      exact hb ⟨front, more, by simp⟩
    rw [withReturns_append hx, withReturns_newline, ofInput_line hx]
    split
    · have hxr : (10 : UInt8) ∉ x ++ [13] := by simp [hx]
      have hcut : x ++ ([13, 10] ++ withReturns (fun n => returned (n + 1)) more) =
          (x ++ [13]) ++ 10 :: withReturns (fun n => returned (n + 1)) more := by simp
      rw [hcut, ofInput_line hxr, ih hmore, List.append_assoc, ← ofBytes?_return hlast]
      rfl
    · rw [List.singleton_append, ofInput_line hx, ih hmore]

end PhysicalLine

/-- Returns before newlines change neither what is read, be it a document or an error, nor
what the log tells of it. -/
theorem parse_withReturns (origin : Text) {b : Bytes} (hb : ¬ [13, 10] <:+: b)
    (returned : Nat → Bool) :
    parse origin (withReturns returned b) = parse origin b ∧
      (Input.ofBytes origin (withReturns returned b)).run.log = (Input.ofBytes origin b).run.log := by
  have hi : Input.ofBytes origin (withReturns returned b) = Input.ofBytes origin b := by
    rw [Input.ofBytes, PhysicalLine.ofInput_withReturns hb]
    rfl
  rw [parse, hi]
  exact ⟨rfl, rfl⟩

/-- Every other newline gets a return: one inside a value that counts characters, one behind
a value that holds a return itself, and one inside a value that runs out of lines. -/
theorem parse_withReturns_truncated :
    ¬ [13, 10] <:+: Text.encode "a:4c=x\nyz\nb:=\rq\nk:9L=p\nr\n".toList ∧
      parse [] (withReturns (· % 2 == 0) (Text.encode "a:4c=x\nyz\nb:=\rq\nk:9L=p\nr\n".toList)) =
        .error (.truncated ['k'] .lines 8 1) ∧
      (Input.ofBytes [] (withReturns (· % 2 == 0)
          (Text.encode "a:4c=x\nyz\nb:=\rq\nk:9L=p\nr\n".toList))).run.log =
        (Input.ofBytes [] (Text.encode "a:4c=x\nyz\nb:=\rq\nk:9L=p\nr\n".toList)).run.log := by
  have hb : ¬ [13, 10] <:+: Text.encode "a:4c=x\nyz\nb:=\rq\nk:9L=p\nr\n".toList := by
    decide +kernel
  obtain ⟨hparse, hlog⟩ := parse_withReturns [] hb (· % 2 == 0)
  refine ⟨hb, hparse.trans ?_, hlog⟩
  decide +kernel

end CountedConfig
