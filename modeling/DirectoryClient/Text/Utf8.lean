namespace DirectoryClient.Text

def utf8 (text : String) : List UInt8 :=
  text.toUTF8.data.toList

/-- The text whose UTF-8 bytes are `bytes`, if there is one. -/
def ofUtf8? (bytes : List UInt8) : Option String :=
  String.fromUTF8? ⟨bytes.toArray⟩

@[simp] theorem ofUtf8?_utf8 (text : String) : ofUtf8? (utf8 text) = some text := by
  have valid := text.isValidUTF8
  simp only [ofUtf8?, utf8, Array.toArray_toList, String.fromUTF8?]
  exact dif_pos valid

theorem eq_utf8_of_ofUtf8? {bytes : List UInt8} {text : String}
    (found : ofUtf8? bytes = some text) : bytes = utf8 text := by
  simp only [ofUtf8?, String.fromUTF8?, Option.dite_none_right_eq_some, Option.some.injEq] at found
  obtain ⟨valid, rfl⟩ := found
  rfl

theorem utf8_ne_nil {text : String} (some : text ≠ "") : utf8 text ≠ [] := by
  intro blank
  have found := ofUtf8?_utf8 text
  have empty : utf8 "" = [] := by decide +kernel
  rw [blank, ← empty, ofUtf8?_utf8] at found
  exact some (Option.some.inj found).symm

end DirectoryClient.Text
