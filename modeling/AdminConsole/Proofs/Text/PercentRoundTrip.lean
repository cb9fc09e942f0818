import AdminConsole.Text.Percent

/-!
# Percent-encoding undone

Encoding writes unreserved characters and `%` only, so an encoded text never contains a separator of
URLs. Main statement: decoding gives back every text that was encoded. The text may hold any characters,
`%` and the separators among them.
-/

set_option autoImplicit false

namespace AdminConsole.Percent

/-- Whether a character can stand in an encoded text. -/
def isWritten (c : Char) : Bool :=
  isUnreserved c || c == '%'

/-- The digits of an escape are not escaped themselves. -/
theorem isUnreserved_upperDigit {n : Nat} (h : n < 16) : isUnreserved (Hex.upperDigit n) = true := by
  have all : ∀ m : Fin 16, isUnreserved (Hex.upperDigit m.val) = true := by decide
  exact all ⟨n, h⟩

/-- A percent sign and two hexadecimal digits are all that a byte is written with. -/
theorem isWritten_of_mem_encodeByte {byte : UInt8} {c : Char} (h : c ∈ encodeByte byte) :
    isWritten c = true := by
  have hbyte : byte.toNat < 256 := byte.toNat_lt
  simp only [encodeByte, List.mem_cons, List.not_mem_nil, or_false] at h
  rcases h with rfl | rfl | rfl
  · rfl
  · simp [isWritten, isUnreserved_upperDigit (show byte.toNat / 16 < 16 by omega)]
  · simp [isWritten, isUnreserved_upperDigit (show byte.toNat % 16 < 16 by omega)]

/-- Encoding writes unreserved characters and `%` only. -/
theorem isWritten_of_mem_encodeChars {text : List Char} {c : Char} (h : c ∈ encodeChars text) :
    isWritten c = true := by
  obtain ⟨x, _, hx⟩ := List.mem_flatMap.mp h
  unfold encodeChar at hx
  split at hx
  · rename_i hfree
    simp only [List.mem_singleton] at hx
    simp [isWritten, hx, hfree]
  · obtain ⟨byte, _, hbyte⟩ := List.mem_flatMap.mp hx
    exact isWritten_of_mem_encodeByte hbyte

/-- A character that encoding never writes does not occur in an encoded text. -/
theorem not_mem_encodeChars {text : List Char} {c : Char} (h : isWritten c = false) :
    c ∉ encodeChars text := by
  intro hmem
  have hwritten := isWritten_of_mem_encodeChars hmem
  rw [h] at hwritten
  exact Bool.noConfusion hwritten

/-! ## Reading back -/

/-- A byte that is written is read back, whatever follows it. -/
theorem decodeBytes_encodeByte (byte : UInt8) (rest : List Char) :
    decodeBytes (encodeByte byte ++ rest) = byte :: decodeBytes rest := by
  have hbyte : byte.toNat < 256 := byte.toNat_lt
  have hhigh : Hex.value? (Hex.upperDigit (byte.toNat / 16)) = some (byte.toNat / 16) :=
    Hex.value?_upperDigit (by omega)
  have hlow : Hex.value? (Hex.upperDigit (byte.toNat % 16)) = some (byte.toNat % 16) :=
    Hex.value?_upperDigit (by omega)
  have hsum : 16 * (byte.toNat / 16) + byte.toNat % 16 = byte.toNat := by omega
  simp only [encodeByte, List.cons_append, List.nil_append]
  rw [decodeBytes, if_pos rfl]
  simp only [hhigh, hlow, hsum, UInt8.ofNat_toNat]

/-- Bytes that are written are read back, whatever follows them. -/
theorem decodeBytes_flatMap_encodeByte (bytes : List UInt8) (rest : List Char) :
    decodeBytes (bytes.flatMap encodeByte ++ rest) = bytes ++ decodeBytes rest := by
  induction bytes with
  | nil => rfl
  | cons byte bytes ih =>
    rw [List.flatMap_cons, List.append_assoc, decodeBytes_encodeByte, ih, List.cons_append]

/-- An unreserved character is no percent sign, so it is read as itself. -/
theorem decodeBytes_encodeChar (c : Char) (rest : List Char) :
    decodeBytes (encodeChar c ++ rest) = String.utf8EncodeChar c ++ decodeBytes rest := by
  unfold encodeChar
  split
  · rename_i hfree
    have hc : c ≠ '%' := by
      rintro rfl
      exact absurd hfree (by decide)
    rw [List.singleton_append, decodeBytes.eq_def]
    simp only [if_neg hc]
  · exact decodeBytes_flatMap_encodeByte _ rest

/-- The bytes of a text that is written are read back, whatever follows it. -/
theorem decodeBytes_encodeChars (text rest : List Char) :
    decodeBytes (encodeChars text ++ rest) = utf8 text ++ decodeBytes rest := by
  induction text with
  | nil => rfl
  | cons c text ih =>
    have hencode : encodeChars (c :: text) = encodeChar c ++ encodeChars text := List.flatMap_cons
    have hutf8 : utf8 (c :: text) = String.utf8EncodeChar c ++ utf8 text := List.flatMap_cons
    rw [hencode, hutf8, List.append_assoc, decodeBytes_encodeChar, ih, List.append_assoc]

/-- The bytes of a text are UTF-8, and those of no other text. -/
theorem ofUtf8?_utf8 (text : List Char) : ofUtf8? (utf8 text) = some (String.ofList text) := by
  have hbytes : (⟨(utf8 text).toArray⟩ : ByteArray) = text.utf8Encode := by
    apply ByteArray.ext
    simp [utf8, List.utf8Encode]
  have hvalid : text.utf8Encode.IsValidUTF8 := ⟨text, rfl⟩
  rw [ofUtf8?, String.fromUTF8?, hbytes, dif_pos hvalid, Option.some.injEq]
  apply String.toByteArray_inj.mp
  rw [String.toByteArray_ofList, String.fromUTF8]

/-- **Decoding undoes encoding**, whatever the text holds. -/
theorem decodeChars_encodeChars (text : List Char) :
    decodeChars (encodeChars text) = some (String.ofList text) := by
  have h := decodeBytes_encodeChars text []
  rw [List.append_nil] at h
  rw [decodeChars, h, decodeBytes, List.append_nil, ofUtf8?_utf8]

/-- Different texts are written differently. -/
theorem encodeChars_inj {text other : List Char} : encodeChars text = encodeChars other ↔ text = other := by
  refine ⟨fun hsame => ?_, fun hsame => hsame ▸ rfl⟩
  have hdecoded := congrArg decodeChars hsame
  rw [decodeChars_encodeChars, decodeChars_encodeChars] at hdecoded
  exact String.ofList_injective (Option.some.inj hdecoded)

end AdminConsole.Percent
