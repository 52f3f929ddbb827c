import SearchWire.Bytes

/-!
# UTF-8

Texts travel as their UTF-8 bytes. Reading accepts exactly the bytes of texts
(`ofUtf8?_eq_some_iff`): no surrogates, no overlong forms, nothing above the last code point.
-/

namespace SearchWire.Text

/-- The UTF-8 bytes of a text. -/
def utf8 (s : String) : Bytes := s.toByteArray.data.toList

/-- The text with the given UTF-8 bytes, if they are those of a text. -/
def ofUtf8? (bs : Bytes) : Option String := String.fromUTF8? ⟨bs.toArray⟩

theorem utf8_injective {s t : String} (h : utf8 s = utf8 t) : s = t := by
  have hdata : s.toByteArray.data = t.toByteArray.data := Array.toList_inj.mp h
  exact String.toByteArray_inj.mp (ByteArray.ext hdata)

@[simp] theorem ofUtf8?_utf8 (s : String) : ofUtf8? (utf8 s) = some s := by
  have harr : (⟨(utf8 s).toArray⟩ : ByteArray) = s.toByteArray := by
    apply ByteArray.ext
    simp [utf8]
  rw [ofUtf8?, harr, String.fromUTF8?, dif_pos s.isValidUTF8]
  rfl

/-- Exactly the UTF-8 bytes of a text are read as that text. -/
theorem ofUtf8?_eq_some_iff {bs : Bytes} {s : String} : ofUtf8? bs = some s ↔ bs = utf8 s := by
  constructor
  · intro h
    rw [ofUtf8?, String.fromUTF8?] at h
    split at h
    · simp only [Option.some.injEq] at h
      rw [← h]
      simp [utf8, String.fromUTF8]
    · simp at h
  · rintro rfl
    exact ofUtf8?_utf8 s

end SearchWire.Text
