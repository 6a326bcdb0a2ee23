import LiteVpn.Strings.Lines
import Mathlib.Data.List.DropRight

/-!
# Whitespace: trimming and fields

Whitespace is the Unicode `White_Space` property, as `char::is_whitespace`
reads it, so carriage returns and line feeds are whitespace too.
-/

namespace LiteVpn.Strings

/-- The Unicode `White_Space` property. -/
def isWhitespace (char : Char) : Bool :=
  let code := char.toNat
  (0x9 ≤ code && code ≤ 0xD) || code == 0x20 || code == 0x85 || code == 0xA0 ||
    code == 0x1680 || (0x2000 ≤ code && code ≤ 0x200A) || code == 0x2028 || code == 0x2029 ||
    code == 0x202F || code == 0x205F || code == 0x3000

/-- `str::trim`: drop whitespace from both ends. -/
def trim (text : Text) : Text := (text.dropWhile isWhitespace).rdropWhile isWhitespace

/-- `str::split_whitespace`: the maximal whitespace-free pieces. -/
def splitWhitespace (text : Text) : List Text :=
  (text.splitOnP isWhitespace).filter fun field => !field.isEmpty

/-- A text that trimming leaves alone ends in no whitespace. -/
theorem not_suffix_of_trim_eq {text : Text} (trimmed : trim text = text) {char : Char}
    (space : isWhitespace char = true) : ¬ [char] <:+ text := by
  rintro ⟨body, same⟩
  have shorter : (trim text).length < text.length := by
    have leading : (text.dropWhile isWhitespace).length ≤ text.length :=
      (List.dropWhile_suffix isWhitespace).length_le
    rcases List.eq_nil_or_concat (text.dropWhile isWhitespace) with empty | ⟨front, last, split⟩
    · rw [trim, empty, List.rdropWhile_nil, ← same]
      simp
    · have lastEq : last = char := by
        have suffix := List.dropWhile_suffix isWhitespace (l := text)
        obtain ⟨head, joined⟩ := suffix
        rw [split, ← same] at joined
        have tails := congrArg List.getLast? joined
        simpa using tails
      rw [trim, split, lastEq, List.concat_eq_append, List.rdropWhile_concat_pos _ _ _ space]
      have front_le : (front.rdropWhile isWhitespace).length ≤ front.length :=
        (List.rdropWhile_prefix isWhitespace front).length_le
      rw [split, List.length_concat] at leading
      omega
  rw [trimmed] at shorter
  exact absurd shorter (lt_irrefl _)

/-- A prefix of a text that starts with a solid character starts with it too. -/
theorem dropWhile_eq_self_of_prefix {piece text : Text} (initial : piece <+: text)
    (solid : text.dropWhile isWhitespace = text) : piece.dropWhile isWhitespace = piece := by
  obtain ⟨rest, rfl⟩ := initial
  cases piece with
  | nil => rfl
  | cons head tail =>
      by_cases blank : isWhitespace head = true
      · have shorter := (List.dropWhile_suffix isWhitespace (l := tail ++ rest)).length_le
        rw [List.cons_append, List.dropWhile_cons_of_pos blank] at solid
        rw [solid, List.length_cons] at shorter
        omega
      · rw [List.dropWhile_cons_of_neg blank]

/-- Trimming leaves nothing to trim. -/
theorem trim_trim (text : Text) : trim (trim text) = trim text := by
  have leading : (trim text).dropWhile isWhitespace = trim text :=
    dropWhile_eq_self_of_prefix (List.rdropWhile_prefix isWhitespace _)
      (List.dropWhile_idempotent isWhitespace text)
  conv_lhs => rw [trim, leading]
  exact List.rdropWhile_idempotent isWhitespace _

/-- Trimming leaves a text without whitespace alone. -/
theorem trim_of_solid {text : Text} (solid : ∀ char ∈ text, isWhitespace char = false) :
    trim text = text := by
  have leading : text.dropWhile isWhitespace = text := by
    cases text with
    | nil => rfl
    | cons head tail => exact List.dropWhile_cons_of_neg (by simp [solid head])
  rw [trim, leading, List.rdropWhile_eq_self_iff]
  intro nonempty
  simp [solid _ (List.getLast_mem nonempty)]

/-- Whitespace behind a text is trimmed with whatever the text ends in. -/
theorem trim_append_space {text : Text} (nonempty : trim text ≠ []) {space : Char}
    (blank : isWhitespace space = true) : trim (text ++ [space]) = trim text := by
  have solid : ¬ ∀ char ∈ text, isWhitespace char = true := by
    intro allBlank
    apply nonempty
    rw [trim, List.dropWhile_eq_nil_iff.mpr allBlank, List.rdropWhile_nil]
  have leading : (text ++ [space]).dropWhile isWhitespace =
      text.dropWhile isWhitespace ++ [space] := by
    rw [List.dropWhile_append, if_neg]
    rwa [List.isEmpty_iff, List.dropWhile_eq_nil_iff]
  rw [trim, leading, List.rdropWhile_concat_pos _ _ _ blank, trim]

/-- A text without whitespace, by a test that runs. -/
theorem solid_of_all {text : Text} (solid : text.all (fun char => !isWhitespace char) = true) :
    ∀ char ∈ text, isWhitespace char = false := by
  intro char member
  simpa using List.all_eq_true.mp solid char member

/-- A whitespace-free piece in front of whitespace is the first field. -/
theorem splitWhitespace_append_cons {field : Text} (nonempty : field ≠ [])
    (solid : ∀ char ∈ field, isWhitespace char = false) {space : Char}
    (blank : isWhitespace space = true) (rest : Text) :
    splitWhitespace (field ++ space :: rest) = field :: splitWhitespace rest := by
  simp [splitWhitespace, List.splitOnP_append_cons _ _ blank,
    List.splitOnP_eq_singleton solid, nonempty]

/-- A whitespace-free text is one field. -/
theorem splitWhitespace_of_solid {field : Text} (nonempty : field ≠ [])
    (solid : ∀ char ∈ field, isWhitespace char = false) : splitWhitespace field = [field] := by
  simp [splitWhitespace, List.splitOnP_eq_singleton solid, nonempty]

/-- Whitespace at the end of a text does not change its fields. -/
theorem splitWhitespace_append_space (text : Text) {space : Char}
    (blank : isWhitespace space = true) :
    splitWhitespace (text ++ [space]) = splitWhitespace text := by
  simp [splitWhitespace, List.splitOnP_append_cons text [] blank]

/-- A carriage return stripped from a line does not change its fields. -/
@[simp] theorem splitWhitespace_stripReturn (line : Text) :
    splitWhitespace (stripReturn line) = splitWhitespace line := by
  rcases eq_or_eq_append_of_stripReturn (rfl : stripReturn line = stripReturn line) with
    same | same
  · rw [← same]
  · conv_rhs => rw [same]
    exact (splitWhitespace_append_space _ (by decide)).symm

@[simp] theorem splitWhitespace_nil : splitWhitespace [] = [] := by
  simp [splitWhitespace]

end LiteVpn.Strings
