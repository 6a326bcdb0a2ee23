import Mathlib.Data.List.Basic

/-!
# Text and its UTF-8 bytes

Text is a list of Unicode scalar values and a byte string is a list of octets.
`fromUtf8` is the strict decoder: it accepts exactly the encodings of texts,
so overlong forms, surrogates and truncated sequences are refused.
-/

namespace LiteVpn.Strings

/-- A sequence of Unicode scalar values. -/
abbrev Text := List Char

/-- A byte string. -/
abbrev Bytes := List UInt8

/-- The UTF-8 bytes of a text. -/
def encode (text : Text) : Bytes := text.flatMap String.utf8EncodeChar

/-- Strict UTF-8 decoding of a whole byte string. -/
def fromUtf8 (bytes : Bytes) : Option Text :=
  bytes.toByteArray.utf8Decode?.map Array.toList

@[simp] theorem encode_nil : encode [] = [] := rfl

@[simp] theorem encode_append (first second : Text) :
    encode (first ++ second) = encode first ++ encode second := by
  simp [encode]

/-- Decoding inverts encoding. -/
@[simp] theorem fromUtf8_encode (text : Text) : fromUtf8 (encode text) = some text := by
  have decoded : (encode text).toByteArray.utf8Decode? = some text.toArray :=
    List.utf8Decode?_utf8Encode
  simp [fromUtf8, decoded]

/-- A byte string decodes to a text exactly when it is that text's encoding. -/
theorem fromUtf8_eq_some_iff {bytes : Bytes} {text : Text} :
    fromUtf8 bytes = some text ↔ encode text = bytes := by
  constructor
  · intro decoded
    have valid : bytes.toByteArray.IsValidUTF8 := by
      rw [← ByteArray.isSome_utf8Decode?_iff]
      simp only [fromUtf8, Option.map_eq_some_iff] at decoded
      obtain ⟨chars, found, _⟩ := decoded
      simp [found]
    obtain ⟨original, same⟩ := valid
    have bytesEq : bytes = encode original := by
      have lists := congrArg (fun array : ByteArray => array.data.toList) same
      simpa [List.utf8Encode, encode] using lists
    rw [bytesEq, fromUtf8_encode] at decoded
    rw [bytesEq, Option.some.inj decoded]
  · rintro rfl
    exact fromUtf8_encode text

/-- Different texts have different encodings. -/
theorem encode_injective : Function.Injective encode := by
  intro first second same
  have decoded : fromUtf8 (encode first) = some second := by
    rw [same, fromUtf8_encode]
  simpa using decoded

@[simp] theorem encode_inj {first second : Text} :
    encode first = encode second ↔ first = second :=
  encode_injective.eq_iff

/-- A text of ASCII characters only. -/
def IsAscii (text : Text) : Prop := ∀ char ∈ text, char.toNat < 128

/-- An ASCII text, by a test that runs. -/
theorem isAscii_of_all {text : Text} (ascii : text.all (fun char => char.toNat < 128) = true) :
    IsAscii text := by
  intro char member
  simpa using List.all_eq_true.mp ascii char member

@[simp] theorem isAscii_append {first second : Text} :
    IsAscii (first ++ second) ↔ IsAscii first ∧ IsAscii second := by
  simp [IsAscii, or_imp, forall_and]

@[simp] theorem isAscii_cons {char : Char} {text : Text} :
    IsAscii (char :: text) ↔ char.toNat < 128 ∧ IsAscii text := by
  simp [IsAscii]

@[simp] theorem isAscii_nil : IsAscii [] := by
  simp [IsAscii]

/-- An ASCII character takes one byte. -/
theorem length_encode {text : Text} (ascii : IsAscii text) :
    (encode text).length = text.length := by
  induction text with
  | nil => rfl
  | cons char rest inductionHypothesis =>
      rw [isAscii_cons] at ascii
      have small : char.val ≤ 127 := by
        rw [UInt32.le_iff_toNat_le]
        exact Nat.le_of_lt_succ ascii.1
      have single : (String.utf8EncodeChar char).length = 1 := by
        rw [String.length_utf8EncodeChar, Char.utf8Size_eq_one_iff]
        exact small
      have tail := inductionHypothesis ascii.2
      rw [encode] at tail ⊢
      rw [List.flatMap_cons, List.length_append, single, tail, List.length_cons, Nat.add_comm]

end LiteVpn.Strings
