namespace GitLogin.Text.Utf8

def encode (s : String) : List UInt8 := s.toList.flatMap String.utf8EncodeChar

def decode (bytes : List UInt8) : Option String := String.fromUTF8? bytes.toByteArray

@[simp] theorem encode_empty : encode "" = [] := rfl

@[simp] theorem encode_append (s t : String) : encode (s ++ t) = encode s ++ encode t := by
  simp [encode]

theorem toByteArray_encode (s : String) : (encode s).toByteArray = s.toByteArray := by
  conv => rhs; rw [← @String.ofList_toList s, String.toByteArray_ofList]
  rfl

theorem decode_eq_some_iff {bytes : List UInt8} {s : String} :
    decode bytes = some s ↔ bytes = encode s := by
  have inj : bytes.toByteArray = (encode s).toByteArray ↔ bytes = encode s := by
    rw [ByteArray.ext_iff, List.data_toByteArray, List.data_toByteArray, ← Array.toList_inj]
  rw [← inj, toByteArray_encode, decode, String.fromUTF8?]
  split
  · simp [String.fromUTF8, ← String.toByteArray_inj]
  · next h =>
    have ne : bytes.toByteArray ≠ s.toByteArray := fun eq => h (eq ▸ s.isValidUTF8)
    simp [ne]

@[simp] theorem decode_encode (s : String) : decode (encode s) = some s :=
  decode_eq_some_iff.2 rfl

end GitLogin.Text.Utf8
