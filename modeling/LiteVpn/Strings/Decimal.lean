import LiteVpn.Strings.Fields
import Mathlib.Algebra.Group.Nat.Defs

/-!
# Decimal numbers

`parseU64` is `str::parse` for the 64-bit unsigned types: an optional plus
sign, at least one digit, and an overflow check at every digit. `displayU64`
is what the formatter prints.
-/

namespace LiteVpn.Strings

/-- Keep a result only while it fits in 64 bits. -/
def checked64 (value : Nat) : Option Nat := if value < 2 ^ 64 then some value else none

/-- Consume decimal digits from left to right with checked arithmetic. -/
def parseDigits : Nat → Text → Option Nat
  | value, [] => some value
  | value, char :: rest =>
      if char.isDigit then
        (checked64 (value * 10)).bind fun shifted =>
          (checked64 (shifted + (char.toNat - '0'.toNat))).bind fun next =>
            parseDigits next rest
      else none

/-- Drop one leading plus sign. -/
def stripPlus : Text → Text
  | '+' :: rest => rest
  | text => text

/-- Parse an unsigned 64-bit decimal. -/
def parseU64 (text : Text) : Option UInt64 :=
  if stripPlus text = [] then none else (parseDigits 0 (stripPlus text)).map UInt64.ofNat

/-- The digits the formatter prints. -/
def displayU64 (value : UInt64) : Text := Nat.toDigits 10 value.toNat

/-- `text` is a decimal numeral of `value`: an optional plus sign and one or
more ASCII digits. -/
def IsDecimal (text : Text) (value : Nat) : Prop :=
  ∃ digits : Text, digits ≠ [] ∧ (∀ char ∈ digits, char.isDigit = true) ∧
    (text = digits ∨ text = '+' :: digits) ∧ Nat.ofDigitChars 10 digits 0 = value

/-- Reading more digits never makes the number smaller. -/
theorem le_ofDigitChars (digits : Text) (value : Nat) :
    value ≤ Nat.ofDigitChars 10 digits value := by
  induction digits generalizing value with
  | nil => simp
  | cons char rest inductionHypothesis =>
      rw [Nat.ofDigitChars_cons]
      have later := inductionHypothesis (10 * value + (char.toNat - '0'.toNat))
      omega

/-- The checked reader returns the numeral's value exactly when every
character is a digit and the value fits in 64 bits. -/
theorem parseDigits_eq_some_iff {value : Nat} {text : Text} {result : Nat}
    (fits : value < 2 ^ 64) :
    parseDigits value text = some result ↔
      (∀ char ∈ text, char.isDigit = true) ∧ Nat.ofDigitChars 10 text value = result ∧
        result < 2 ^ 64 := by
  induction text generalizing value with
  | nil =>
      simp only [parseDigits, Option.some.injEq, List.not_mem_nil, false_implies, implies_true,
        Nat.ofDigitChars_nil, true_and]
      constructor
      · rintro rfl
        exact ⟨rfl, fits⟩
      · exact fun ⟨same, _⟩ => same
  | cons char rest inductionHypothesis =>
      rw [List.forall_mem_cons, Nat.ofDigitChars_cons]
      have grows := le_ofDigitChars rest (10 * value + (char.toNat - '0'.toNat))
      by_cases digit : char.isDigit = true
      · by_cases next : 10 * value + (char.toNat - '0'.toNat) < 2 ^ 64
        · have shifted : checked64 (value * 10) = some (value * 10) := by
            rw [checked64, if_pos (by omega)]
          have added : checked64 (value * 10 + (char.toNat - '0'.toNat)) =
              some (10 * value + (char.toNat - '0'.toNat)) := by
            rw [checked64, if_pos (by omega), Nat.mul_comm]
          simp only [parseDigits, digit, if_true, shifted, added, Option.bind_some,
            inductionHypothesis next, true_and]
        · -- The addition overflows here, if the multiplication has not already.
          have overflow : ∀ shifted, checked64 (value * 10) = some shifted →
              checked64 (shifted + (char.toNat - '0'.toNat)) = none := by
            intro shifted fitted
            rw [checked64, Option.ite_none_right_eq_some, Option.some.injEq] at fitted
            rw [checked64, if_neg (by omega)]
          constructor
          · intro parsed
            simp only [parseDigits, digit, if_true, Option.bind_eq_some_iff] at parsed
            obtain ⟨shifted, fitted, next, added, _⟩ := parsed
            rw [overflow shifted fitted] at added
            cases added
          · rintro ⟨_, same, small⟩
            omega
      · simp [parseDigits, digit]

/-- The sign is there or it is not. -/
theorem eq_or_eq_cons_stripPlus (text : Text) :
    text = stripPlus text ∨ text = '+' :: stripPlus text := by
  unfold stripPlus
  split
  · exact .inr rfl
  · exact .inl rfl

/-- Digits carry no sign to strip. -/
theorem stripPlus_of_isDigit {digits : Text} (allDigits : ∀ char ∈ digits, char.isDigit = true) :
    stripPlus digits = digits := by
  unfold stripPlus
  split
  · exact absurd (allDigits '+' (by simp)) (by decide)
  · rfl

/-- Parsing succeeds on exactly the decimal numerals of 64-bit values. -/
theorem parseU64_eq_some_iff {text : Text} {value : UInt64} :
    parseU64 text = some value ↔ IsDecimal text value.toNat := by
  have accepts : parseU64 text = some value ↔ stripPlus text ≠ [] ∧
      (∀ char ∈ stripPlus text, char.isDigit = true) ∧
        Nat.ofDigitChars 10 (stripPlus text) 0 = value.toNat := by
    rw [parseU64, Option.ite_none_left_eq_some, Option.map_eq_some_iff]
    refine and_congr_right fun _ => ⟨?_, ?_⟩
    · rintro ⟨result, parsed, rfl⟩
      obtain ⟨allDigits, same, small⟩ := (parseDigits_eq_some_iff (by omega)).mp parsed
      exact ⟨allDigits, by rw [same, UInt64.toNat_ofNat_of_lt' small]⟩
    · rintro ⟨allDigits, same⟩
      refine ⟨value.toNat, ?_, UInt64.ofNat_toNat⟩
      exact (parseDigits_eq_some_iff (by omega)).mpr ⟨allDigits, same, value.toNat_lt⟩
  rw [accepts]
  constructor
  · rintro ⟨nonempty, allDigits, same⟩
    exact ⟨stripPlus text, nonempty, allDigits, eq_or_eq_cons_stripPlus text, same⟩
  · rintro ⟨digits, nonempty, allDigits, rfl | rfl, same⟩
    · rw [stripPlus_of_isDigit allDigits]
      exact ⟨nonempty, allDigits, same⟩
    · exact ⟨nonempty, allDigits, same⟩

/-- What the formatter prints of a number is a numeral of it. -/
theorem isDecimal_toDigits (value : Nat) : IsDecimal (Nat.toDigits 10 value) value :=
  ⟨Nat.toDigits 10 value, Nat.toDigits_ne_nil,
    fun _ member => Nat.isDigit_of_mem_toDigits (by decide) (by decide) member, .inl rfl,
    Nat.ofDigitChars_ten_toDigits⟩

theorem isDecimal_displayU64 (value : UInt64) : IsDecimal (displayU64 value) value.toNat :=
  isDecimal_toDigits value.toNat

/-- Parsing inverts printing. -/
@[simp] theorem parseU64_displayU64 (value : UInt64) : parseU64 (displayU64 value) = some value :=
  parseU64_eq_some_iff.mpr (isDecimal_displayU64 value)

/-- A text is the numeral of one value at most. -/
theorem IsDecimal.unique {text : Text} {first second : Nat} (decimal : IsDecimal text first)
    (decimal' : IsDecimal text second) : first = second := by
  obtain ⟨digits, _, allDigits, shape, rfl⟩ := decimal
  obtain ⟨digits', _, allDigits', shape', rfl⟩ := decimal'
  have signed : ∀ digits : Text, (∀ char ∈ digits, char.isDigit = true) →
      ∀ rest, digits ≠ '+' :: rest := by
    rintro digits allDigits rest rfl
    exact absurd (allDigits '+' (by simp)) (by decide)
  rcases shape with rfl | rfl
  · rcases shape' with rfl | shape'
    · rfl
    · exact absurd shape' (signed _ allDigits _)
  · rcases shape' with shape' | shape'
    · exact absurd shape'.symm (signed _ allDigits' _)
    · rw [(List.cons.inj shape').2]

/-- A number of any size, printed and read back into 64 bits. -/
theorem parseU64_toDigits (value : Nat) :
    parseU64 (Nat.toDigits 10 value) =
      if value < 2 ^ 64 then some (UInt64.ofNat value) else none := by
  split
  · rename_i fits
    rw [parseU64_eq_some_iff, UInt64.toNat_ofNat_of_lt' fits]
    exact isDecimal_toDigits value
  · rename_i large
    cases parsed : parseU64 (Nat.toDigits 10 value) with
    | none => rfl
    | some found =>
        have same := (parseU64_eq_some_iff.mp parsed).unique (isDecimal_toDigits value)
        have bound := found.toNat_lt
        omega

/-- A digit is not whitespace. -/
theorem isWhitespace_of_isDigit {char : Char} (digit : char.isDigit = true) :
    isWhitespace char = false := by
  simp only [Char.isDigit, Bool.and_eq_true, decide_eq_true_eq] at digit
  have lower : 48 ≤ char.toNat := digit.1
  have upper : char.toNat ≤ 57 := digit.2
  simp only [isWhitespace, Bool.or_eq_false_iff, Bool.and_eq_false_iff, decide_eq_false_iff_not,
    beq_eq_false_iff_ne]
  omega

/-- A printed number is one solid field. -/
theorem displayU64_solid (value : UInt64) : ∀ char ∈ displayU64 value,
    isWhitespace char = false :=
  fun _ member =>
    isWhitespace_of_isDigit (Nat.isDigit_of_mem_toDigits (by decide) (by decide) member)

/-- A printed number is ASCII. -/
theorem isAscii_toDigits (value : Nat) : IsAscii (Nat.toDigits 10 value) := by
  intro char member
  have digit : char.isDigit = true := Nat.isDigit_of_mem_toDigits (by decide) (by decide) member
  simp only [Char.isDigit, Bool.and_eq_true, decide_eq_true_eq] at digit
  have upper : char.toNat ≤ 57 := digit.2
  omega

theorem isAscii_displayU64 (value : UInt64) : IsAscii (displayU64 value) :=
  isAscii_toDigits value.toNat

end LiteVpn.Strings
