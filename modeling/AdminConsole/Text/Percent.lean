import AdminConsole.Text.Hex

/-!
# Percent-encoding

A text is written in a URL byte by byte: the unreserved characters `A-Z a-z 0-9 - _ . ~` stand for
themselves, every other byte of its UTF-8 form is written `%XY` with two upper-case hexadecimal digits.
Reading turns each `%XY` (either case) into a byte and leaves a `%` alone that no two digits follow. It
fails when the bytes are no UTF-8 text, and gives back whatever was encoded.
-/

set_option autoImplicit false

namespace AdminConsole.Percent

/-- The bytes of a text in UTF-8. -/
def utf8 (text : List Char) : List UInt8 :=
  text.flatMap String.utf8EncodeChar

/-- The text with these bytes in UTF-8, if they are one. -/
def ofUtf8? (bytes : List UInt8) : Option String :=
  String.fromUTF8? ⟨bytes.toArray⟩

/-- Whether a character stands for itself in an encoded text. -/
def isUnreserved (c : Char) : Bool :=
  c.isAlphanum || c == '-' || c == '_' || c == '.' || c == '~'

/-- A byte as `%XY`. -/
def encodeByte (byte : UInt8) : List Char :=
  ['%', Hex.upperDigit (byte.toNat / 16), Hex.upperDigit (byte.toNat % 16)]

/-- A character as it stands in an encoded text. -/
def encodeChar (c : Char) : List Char :=
  if isUnreserved c then [c] else (String.utf8EncodeChar c).flatMap encodeByte

/-- The characters of the encoded text. -/
def encodeChars (text : List Char) : List Char :=
  text.flatMap encodeChar

/-- The bytes that an encoded text stands for. -/
def decodeBytes : List Char → List UInt8
  | [] => []
  | c :: rest =>
      if c = '%' then
        match rest with
        | high :: low :: tail =>
            match Hex.value? high, Hex.value? low with
            | some a, some b => UInt8.ofNat (16 * a + b) :: decodeBytes tail
            | _, _ => String.utf8EncodeChar c ++ decodeBytes (high :: low :: tail)
        | short => utf8 (c :: short)
      else String.utf8EncodeChar c ++ decodeBytes rest

/-- The percent-encoded form of a text. -/
def encode (text : String) : String :=
  String.ofList (encodeChars text.toList)

/-- The text that an encoded text stands for; none if its bytes are not UTF-8. -/
def decodeChars (text : List Char) : Option String :=
  ofUtf8? (decodeBytes text)

/-- The text that an encoded text stands for; none if its bytes are not UTF-8. -/
def decode (text : String) : Option String :=
  decodeChars text.toList

end AdminConsole.Percent
