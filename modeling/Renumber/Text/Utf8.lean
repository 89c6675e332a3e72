/-!
# Text as bytes

The UTF-8 form of a text and its reading.  Reading undoes writing (`ofBytes?_bytesOf`), and what can
be read is the written form of what was read (`bytesOf_of_ofBytes?`).
-/

namespace Renumber.Text

/-! ## Algorithm -/

def bytesOf (text : String) : List UInt8 := text.toByteArray.data.toList

/-- The text with these bytes, if they are UTF-8. -/
def ofBytes? (bytes : List UInt8) : Option String := String.fromUTF8? ⟨bytes.toArray⟩

/-! ## Lemmas -/

theorem ofBytes?_bytesOf (text : String) : ofBytes? (bytesOf text) = some text := by
  have h : (⟨(bytesOf text).toArray⟩ : ByteArray) = text.toByteArray := by simp [bytesOf]
  rw [ofBytes?, h, String.fromUTF8?, dif_pos text.isValidUTF8]
  rfl

theorem bytesOf_of_ofBytes? {bytes : List UInt8} {text : String} (h : ofBytes? bytes = some text) :
    bytesOf text = bytes := by
  rw [ofBytes?, String.fromUTF8?] at h
  split at h
  · cases h
    simp [bytesOf, String.fromUTF8]
  · contradiction

theorem bytesOf_inj {text text' : String} (h : bytesOf text = bytesOf text') : text = text' := by
  have hread := ofBytes?_bytesOf text
  rw [h, ofBytes?_bytesOf] at hread
  exact (Option.some.inj hread).symm

end Renumber.Text
