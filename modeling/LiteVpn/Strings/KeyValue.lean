import LiteVpn.Strings.Decimal
import Mathlib.Algebra.GroupWithZero.Nat

/-!
# Lines of keys and values

A line of `key=value` fields with a space between two of them, and the lookup
that takes the first field that starts with the key and an equals sign. When no
key holds an equals sign, the lookup finds a field by its whole key, however
many keys end alike.
-/

namespace LiteVpn.Strings

/-- A key and its value as one field. -/
def field (pair : Text × Text) : Text := pair.1 ++ '=' :: pair.2

/-- Fields in one line, a space between two of them. -/
def joinSpaces : List Text → Text
  | [] => []
  | [last] => last
  | first :: second :: rest => first ++ ' ' :: joinSpaces (second :: rest)

/-- The text behind the first field that starts with the key and an equals sign. -/
def lookupField (line key : Text) : Option Text :=
  (splitWhitespace line).findSome? fun part => part.dropPrefix? (key ++ ['='])

/-- A field that splitting gives back: non-empty and free of whitespace. -/
structure Solid (text : Text) : Prop where
  nonempty : text ≠ []
  plain : ∀ char ∈ text, isWhitespace char = false

/-- A key: solid, ASCII and without an equals sign. -/
structure IsKey (text : Text) : Prop extends Solid text where
  ascii : IsAscii text
  free : '=' ∉ text

/-- A key, by a test that runs. -/
def isKey (text : Text) : Bool :=
  !text.isEmpty && text.all fun char => !isWhitespace char && char.toNat < 128 && char != '='

theorem isKey_of_test {text : Text} (passed : isKey text = true) : IsKey text := by
  simp only [isKey, Bool.and_eq_true, List.all_eq_true, Bool.not_eq_true', decide_eq_true_eq,
    bne_iff_ne] at passed
  obtain ⟨nonempty, chars⟩ := passed
  refine ⟨⟨by simpa using nonempty, fun char member => (chars char member).1.1⟩,
    fun char member => (chars char member).1.2, fun member => (chars '=' member).2 rfl⟩

theorem solid_toDigits (value : Nat) : Solid (Nat.toDigits 10 value) :=
  ⟨Nat.toDigits_ne_nil, fun _ member =>
    isWhitespace_of_isDigit (Nat.isDigit_of_mem_toDigits (by decide) (by decide) member)⟩

theorem solid_field {pair : Text × Text} (key : Solid pair.1) (value : Solid pair.2) :
    Solid (field pair) := by
  refine ⟨by simp [field], fun char member => ?_⟩
  simp only [field, List.mem_append, List.mem_cons] at member
  rcases member with inKey | rfl | inValue
  · exact key.plain char inKey
  · decide
  · exact value.plain char inValue

theorem isAscii_field {pair : Text × Text} (key : IsAscii pair.1) (value : IsAscii pair.2) :
    IsAscii (field pair) := by
  rw [field, isAscii_append, isAscii_cons]
  exact ⟨key, by decide, value⟩

/-- Two lines with a space between them are one line. -/
theorem joinSpaces_append {first second : List Text} (nonempty : first ≠ [])
    (nonempty' : second ≠ []) :
    joinSpaces (first ++ second) = joinSpaces first ++ ' ' :: joinSpaces second := by
  induction first with
  | nil => exact absurd rfl nonempty
  | cons head tail inductionHypothesis =>
      cases tail with
      | nil =>
          obtain ⟨next, rest, rfl⟩ := List.exists_cons_of_ne_nil nonempty'
          rfl
      | cons next rest =>
          have joined := inductionHypothesis (by simp)
          rw [List.cons_append] at joined
          simp only [List.cons_append, joinSpaces, joined, List.append_assoc]

theorem isAscii_joinSpaces {fields : List Text} (ascii : ∀ part ∈ fields, IsAscii part) :
    IsAscii (joinSpaces fields) := by
  induction fields with
  | nil => simp [joinSpaces]
  | cons first rest inductionHypothesis =>
      rw [List.forall_mem_cons] at ascii
      cases rest with
      | nil => exact ascii.1
      | cons second others =>
          rw [joinSpaces, isAscii_append, isAscii_cons]
          exact ⟨ascii.1, by decide, inductionHypothesis ascii.2⟩

/-- The length of a line whose values are bounded. -/
theorem length_joinSpaces_le {pairs : List (Text × Text)} {bound : Nat}
    (values : ∀ pair ∈ pairs, pair.2.length ≤ bound) :
    (joinSpaces (pairs.map field)).length ≤
      (pairs.map fun pair => pair.1.length).sum + pairs.length * (bound + 2) := by
  induction pairs with
  | nil => simp [joinSpaces]
  | cons first rest inductionHypothesis =>
      rw [List.forall_mem_cons] at values
      have tail := inductionHypothesis values.2
      have head : (field first).length ≤ first.1.length + bound + 1 := by
        have := values.1
        simp only [field, List.length_append, List.length_cons]
        omega
      simp only [List.map_cons, List.sum_cons, List.length_cons, Nat.succ_mul]
      cases rest with
      | nil =>
          simp only [List.map_nil, joinSpaces]
          omega
      | cons second others =>
          simp only [List.map_cons, List.sum_cons, List.length_cons, Nat.succ_mul] at tail ⊢
          rw [joinSpaces, List.length_append, List.length_cons]
          omega

/-- Splitting a line gives its fields back. -/
theorem splitWhitespace_joinSpaces {fields : List Text} (solid : ∀ part ∈ fields, Solid part) :
    splitWhitespace (joinSpaces fields) = fields := by
  induction fields with
  | nil => simp [joinSpaces]
  | cons first rest inductionHypothesis =>
      rw [List.forall_mem_cons] at solid
      cases rest with
      | nil => exact splitWhitespace_of_solid solid.1.nonempty solid.1.plain
      | cons second others =>
          rw [joinSpaces, splitWhitespace_append_cons solid.1.nonempty solid.1.plain (by decide),
            inductionHypothesis solid.2]

/-- A text that starts and ends with solid pieces has nothing to trim. -/
theorem trim_of_ends {first last text : Text} (solid : Solid first) (solid' : Solid last)
    (starts : ∃ rest, text = first ++ rest) (ends : ∃ front, text = front ++ last) :
    trim text = text := by
  have leading : text.dropWhile isWhitespace = text := by
    obtain ⟨head, tail, rfl⟩ := List.exists_cons_of_ne_nil solid.nonempty
    obtain ⟨rest, rfl⟩ := starts
    rw [List.cons_append]
    exact List.dropWhile_cons_of_neg (by simp [solid.plain head])
  rw [trim, leading, List.rdropWhile_eq_self_iff]
  obtain ⟨front, rfl⟩ := ends
  intro nonempty
  rw [List.getLast_append_of_ne_nil _ solid'.nonempty]
  simp [solid'.plain _ (List.getLast_mem solid'.nonempty)]

/-- A line ends with its last field. -/
theorem joinSpaces_ends (fields : List Text) (last : Text) :
    ∃ front, joinSpaces (fields ++ [last]) = front ++ last := by
  induction fields with
  | nil => exact ⟨[], rfl⟩
  | cons first rest inductionHypothesis =>
      obtain ⟨front, same⟩ := inductionHypothesis
      obtain ⟨second, others, split⟩ := List.exists_cons_of_ne_nil
        (by simp : rest ++ [last] ≠ [])
      refine ⟨first ++ ' ' :: front, ?_⟩
      rw [List.cons_append, split, joinSpaces, ← split, same]
      simp

/-- A line of solid fields has nothing to trim. -/
theorem trim_joinSpaces {fields : List Text} (solid : ∀ part ∈ fields, Solid part) :
    trim (joinSpaces fields) = joinSpaces fields := by
  rcases List.eq_nil_or_concat fields with rfl | ⟨front, last, rfl⟩
  · rfl
  · rw [List.concat_eq_append] at solid ⊢
    have lastSolid : Solid last := solid last (by simp)
    cases front with
    | nil => exact trim_of_solid lastSolid.plain
    | cons first rest =>
        have firstSolid : Solid first := solid first (by simp)
        obtain ⟨second, others, split⟩ := List.exists_cons_of_ne_nil
          (by simp : rest ++ [last] ≠ [])
        refine trim_of_ends firstSolid lastSolid ⟨' ' :: joinSpaces (rest ++ [last]), ?_⟩
          (joinSpaces_ends _ _)
        rw [List.cons_append, split, joinSpaces]

/-- Two keys without an equals sign in them are told apart by it. -/
theorem dropPrefix?_field {key : Text} {pair : Text × Text} (free : '=' ∉ key)
    (free' : '=' ∉ pair.1) :
    (field pair).dropPrefix? (key ++ ['=']) = if pair.1 = key then some pair.2 else none := by
  by_cases same : pair.1 = key
  · rw [if_pos same, dropPrefix?_eq_some, field, same]
    simp
  · rw [if_neg same]
    cases dropped : (field pair).dropPrefix? (key ++ ['=']) with
    | none => rfl
    | some value =>
        rw [dropPrefix?_eq_some, field, List.append_assoc, List.singleton_append] at dropped
        have keys := congrArg (List.takeWhile (· ≠ '=')) dropped
        rw [List.takeWhile_append_of_pos, List.takeWhile_append_of_pos] at keys
        · simp at keys
          exact absurd keys same
        · intro char member
          apply decide_eq_true
          rintro rfl
          exact free member
        · intro char member
          apply decide_eq_true
          rintro rfl
          exact free' member

/-- Looking a key up in a line is looking it up in the list of its fields. -/
theorem lookupField_joinSpaces {pairs : List (Text × Text)} {key : Text} (free : '=' ∉ key)
    (keys : ∀ pair ∈ pairs, IsKey pair.1) (values : ∀ pair ∈ pairs, Solid pair.2) :
    lookupField (joinSpaces (pairs.map field)) key = pairs.lookup key := by
  have solid : ∀ part ∈ pairs.map field, Solid part := by
    intro part member
    obtain ⟨pair, known, rfl⟩ := List.mem_map.mp member
    exact solid_field (keys pair known).toSolid (values pair known)
  rw [lookupField, splitWhitespace_joinSpaces solid]
  clear solid values
  induction pairs with
  | nil => rfl
  | cons pair rest inductionHypothesis =>
      rw [List.forall_mem_cons] at keys
      rw [List.map_cons, List.findSome?_cons, dropPrefix?_field free keys.1.free,
        List.lookup_cons]
      by_cases same : pair.1 = key
      · simp [same]
      · have differ : (key == pair.1) = false := by
          simpa using fun equal => same equal.symm
        rw [if_neg same, differ]
        exact inductionHypothesis keys.2

end LiteVpn.Strings
