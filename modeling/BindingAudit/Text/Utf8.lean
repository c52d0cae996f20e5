/-
# Text as bytes

The UTF-8 bytes of a text and the partial way back. `decode?_encode` says that nothing is lost,
`encode_of_decode?` that a text has one form only.
-/

namespace BindingAudit.Text.Utf8

/-- The UTF-8 bytes of a text. -/
def encode (s : String) : List UInt8 :=
  s.toUTF8.data.toList

/-- The text a sequence of bytes spells, when it is well-formed UTF-8. -/
def decode? (bs : List UInt8) : Option String :=
  String.fromUTF8? ⟨bs.toArray⟩

/-- The bytes of a text spell that text. -/
@[simp] theorem decode?_encode (s : String) : decode? (encode s) = some s := by
  have h : (⟨s.toUTF8.data.toList.toArray⟩ : ByteArray) = s.toUTF8 := by simp
  rw [decode?, encode, h]
  exact dif_pos s.isValidUTF8

/-- Bytes that spell a text are its bytes. -/
theorem encode_of_decode? {bs : List UInt8} {s : String} (h : decode? bs = some s) :
    encode s = bs := by
  obtain ⟨_, hs⟩ := Option.dite_none_right_eq_some.1 h
  cases hs
  rfl

/-- Texts whose bytes are the first bytes of a text are the first characters of that text. -/
theorem isPrefix_of_encode_append {s t : String} {missing : List UInt8}
    (h : encode s ++ missing = encode t) : s.toList <+: t.toList := by
  have hbytes : s.toByteArray ++ ⟨missing.toArray⟩ = t.toByteArray := by
    apply ByteArray.ext
    apply Array.toList_inj.1
    simpa [encode] using h
  rw [← String.ofList_toList (s := s), ← String.ofList_toList (s := t), String.toByteArray_ofList,
    String.toByteArray_ofList] at hbytes
  exact List.isPrefix_of_utf8Encode_append_eq_utf8Encode _ hbytes

end BindingAudit.Text.Utf8
