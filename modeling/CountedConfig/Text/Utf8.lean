/-
Text as bytes.  Each character has one encoding in UTF-8, and a run of bytes is
readable when it is the encoding of some text.
-/
import CountedConfig.Text

namespace CountedConfig

/-- What a file or a stream holds. -/
abbrev Bytes := List UInt8

namespace Text

def encode (t : Text) : Bytes := t.flatMap String.utf8EncodeChar

/-- The text that the bytes encode, if they are an encoding at all. -/
def decode? (b : Bytes) : Option Text := b.toByteArray.utf8Decode?.map Array.toList

theorem encode_append (s t : Text) : encode (s ++ t) = encode s ++ encode t :=
  List.flatMap_append

theorem decode?_encode (t : Text) : decode? (encode t) = some t := by
  have key : (List.utf8Encode t).utf8Decode? = some t.toArray := by
    induction t with
    | nil => simp
    | cons c r ih =>
      rw [← List.singleton_append, List.utf8Encode_append,
        ByteArray.utf8Decode?_utf8Encode_singleton_append, ih]
      simp
  have : (encode t).toByteArray = List.utf8Encode t := rfl
  simp [decode?, this, key]

theorem eq_encode_of_decode? {b : Bytes} {t : Text} (h : decode? b = some t) : b = encode t := by
  obtain ⟨a, ha, -⟩ := Option.map_eq_some_iff.1 h
  obtain ⟨m, hm⟩ := ByteArray.isSome_utf8Decode?_iff.1 (by rw [ha]; rfl)
  have hb : b = encode m := by
    have := congrArg (fun x => x.data.toList) hm
    simpa [List.utf8Encode, encode] using this
  rw [hb, decode?_encode] at h
  rw [hb, Option.some.inj h]

/-- Reading bytes as text accepts exactly what writing the text produces. -/
theorem decode?_eq_some_iff {b : Bytes} {t : Text} : decode? b = some t ↔ b = encode t :=
  ⟨eq_encode_of_decode?, fun h => h ▸ decode?_encode t⟩

end Text
end CountedConfig
