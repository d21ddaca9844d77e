/-!
Text as bytes in UTF-8.
-/
namespace ValuePath.Text

/-- The bytes of a text. -/
def encode (text : String) : List UInt8 := text.toUTF8.data.toList

/-- The text that bytes encode, if they encode one. -/
def decode? (bytes : List UInt8) : Option String := String.fromUTF8? ⟨bytes.toArray⟩

/-- Every text is read back from its bytes. -/
theorem decode?_encode (text : String) : decode? (encode text) = some text := by
  have bytes : (⟨(encode text).toArray⟩ : ByteArray) = text.toByteArray := by
    simp [encode, String.toUTF8_eq_toByteArray]
  simp only [decode?, bytes, String.fromUTF8?, text.isValidUTF8, dite_true]
  rfl

/-- Bytes that encode a text are the bytes of that text. -/
theorem encode_of_decode? (bytes : List UInt8) (text : String)
    (decoded : decode? bytes = some text) : encode text = bytes := by
  simp only [decode?, String.fromUTF8?] at decoded
  split at decoded <;> cases decoded
  rfl

end ValuePath.Text
