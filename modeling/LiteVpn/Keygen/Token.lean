import LiteVpn.Core.Config

/-!
# The token file

`litevpn-keygen` writes its random bytes as hexadecimal digits and a line feed.
From sixteen bytes on, the file holds a token that `load_token` accepts. The
generator has no upper limit. The digits come from a library, which is a parameter
here.
-/

namespace LiteVpn.Keygen

open LiteVpn.Strings
open LiteVpn.Core

def hexDigits : Text := "0123456789abcdef".toList

/-- `hex::encode`, as far as its documentation says what it returns: two lowercase
hexadecimal digits a byte. -/
structure HexEncoder where
  encode : Bytes → Text
  twoDigits : ∀ bytes, (encode bytes).length = 2 * bytes.length
  lowercase : ∀ bytes char, char ∈ encode bytes → char ∈ hexDigits

/-- The contents of the token file for some random bytes. -/
def tokenFile (hex : HexEncoder) (random : Bytes) : Bytes := encode (hex.encode random ++ ['\n'])

/-- A hexadecimal digit is a solid ASCII character. -/
theorem hexDigits_plain {char : Char} (member : char ∈ hexDigits) :
    isWhitespace char = false ∧ char.toNat < 128 := by
  have plain : hexDigits.all (fun digit => !isWhitespace digit && decide (digit.toNat < 128)) =
      true := by
    decide
  simpa using List.all_eq_true.mp plain char member

variable (hex : HexEncoder)

theorem hexEncode_solid (bytes : Bytes) : ∀ char ∈ hex.encode bytes, isWhitespace char = false :=
  fun char member => (hexDigits_plain (hex.lowercase bytes char member)).1

theorem isAscii_hexEncode (bytes : Bytes) : IsAscii (hex.encode bytes) :=
  fun char member => (hexDigits_plain (hex.lowercase bytes char member)).2

/-- The token of sixteen or more random bytes. -/
def hexToken (random : Bytes) (enough : 16 ≤ random.length) : Token where
  text := hex.encode random
  trimmed := trim_of_solid (hexEncode_solid hex random)
  long := by
    rw [length_encode (isAscii_hexEncode hex random), hex.twoDigits]
    omega

/-- The file the generator writes loads as the token of its bytes. -/
theorem loadToken_tokenFile {random : Bytes} (enough : 16 ≤ random.length) :
    loadToken (some (tokenFile hex random)) = .ok (hexToken hex random enough) := by
  have solid : trim (hex.encode random) = hex.encode random :=
    trim_of_solid (hexEncode_solid hex random)
  have trimmed : trim (hex.encode random ++ ['\n']) = hex.encode random := by
    rw [trim_append_space _ (by decide), solid]
    rw [solid]
    exact (hexToken hex random enough).ne_nil
  have long : 32 ≤ (encode (hex.encode random)).length := (hexToken hex random enough).long
  unfold loadToken tokenFile
  simp only [Option.bind_some, fromUtf8_encode, trimmed]
  rw [dif_neg (Nat.not_lt.mpr long)]
  rfl

/-- The digits of one byte, the high one first. -/
def hexByte (byte : UInt8) : Text :=
  [Nat.digitChar (byte.toNat / 16), Nat.digitChar (byte.toNat % 16)]

theorem length_flatMap_hexByte (bytes : Bytes) :
    (bytes.flatMap hexByte).length = 2 * bytes.length := by
  induction bytes with
  | nil => rfl
  | cons byte rest inductionHypothesis =>
      rw [List.flatMap_cons, List.length_append, inductionHypothesis, List.length_cons]
      simp only [hexByte, List.length_cons, List.length_nil]
      omega

theorem digitChar_mem_hexDigits {digit : Nat} (below : digit < 16) :
    Nat.digitChar digit ∈ hexDigits := by
  have listed : ∀ digit < 16, Nat.digitChar digit ∈ hexDigits := by decide
  exact listed digit below

theorem mem_hexDigits_of_mem (bytes : Bytes) (char : Char)
    (member : char ∈ bytes.flatMap hexByte) : char ∈ hexDigits := by
  simp only [hexByte, List.mem_flatMap, List.mem_cons, List.not_mem_nil, or_false] at member
  obtain ⟨byte, _, rfl | rfl⟩ := member
  · have bound := byte.toNat_lt
    exact digitChar_mem_hexDigits (by omega)
  · exact digitChar_mem_hexDigits (Nat.mod_lt _ (by omega))

/-- The encoder that writes byte after byte. -/
def bytewiseHex : HexEncoder where
  encode bytes := bytes.flatMap hexByte
  twoDigits := length_flatMap_hexByte
  lowercase := mem_hexDigits_of_mem

end LiteVpn.Keygen
