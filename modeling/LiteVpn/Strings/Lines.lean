import LiteVpn.Strings.Utf8

/-!
# Lines of a text

`lines` follows `str::lines`: the text is cut after every line feed, the feed
is dropped, and a carriage return is dropped only where a feed stood behind it.
A last line without a feed keeps its carriage return, and a text that ends in
a feed has no empty line after it.
-/

namespace LiteVpn.Strings

/-- Cut a list after every occurrence of `separator`, keeping the separators. -/
def splitInclusive {α : Type} [DecidableEq α] (separator : α) : List α → List (List α)
  | [] => []
  | head :: tail =>
      if head = separator then [head] :: splitInclusive separator tail
      else
        match splitInclusive separator tail with
        | [] => [[head]]
        | piece :: pieces => (head :: piece) :: pieces

/-- Drop one trailing carriage return. -/
def stripReturn (line : Text) : Text := (line.dropSuffix? ['\r']).getD line

/-- Drop a line feed and, in front of it, a carriage return. -/
def stripLineEnding (line : Text) : Text :=
  match line.dropSuffix? ['\n'] with
  | none => line
  | some body => stripReturn body

/-- The lines of a text, without their endings. -/
def lines (text : Text) : List Text := (splitInclusive '\n' text).map stripLineEnding

section Splitting

variable {α : Type} [DecidableEq α] {separator : α}

/-- Without a separator there is nothing to cut. -/
theorem splitInclusive_of_not_mem {list : List α} (free : separator ∉ list)
    (nonempty : list ≠ []) : splitInclusive separator list = [list] := by
  induction list with
  | nil => exact absurd rfl nonempty
  | cons head tail inductionHypothesis =>
      have headNe : head ≠ separator := fun same => free (by simp [same])
      have tailFree : separator ∉ tail := fun member => free (List.mem_cons_of_mem _ member)
      cases tail with
      | nil => simp [splitInclusive, headNe]
      | cons next rest =>
          rw [splitInclusive, if_neg headNe, inductionHypothesis tailFree (by simp)]

/-- The first piece ends at the first separator. -/
theorem splitInclusive_append_cons {first : List α} (free : separator ∉ first)
    (rest : List α) :
    splitInclusive separator (first ++ separator :: rest) =
      (first ++ [separator]) :: splitInclusive separator rest := by
  induction first with
  | nil => simp [splitInclusive]
  | cons head tail inductionHypothesis =>
      have headNe : head ≠ separator := fun same => free (by simp [same])
      have tailFree : separator ∉ tail := fun member => free (List.mem_cons_of_mem _ member)
      rw [List.cons_append, splitInclusive, if_neg headNe, inductionHypothesis tailFree]
      rfl

/-- A list either holds no separator or splits at its first one. -/
theorem not_mem_or_append_cons (separator : α) (list : List α) :
    separator ∉ list ∨ ∃ first rest, separator ∉ first ∧ list = first ++ separator :: rest := by
  by_cases member : separator ∈ list
  · obtain ⟨first, rest, same, free⟩ := List.eq_append_cons_of_mem member
    exact .inr ⟨first, rest, free, same⟩
  · exact .inl member

end Splitting

/-- A trailing suffix is dropped exactly when it is there. -/
theorem dropSuffix?_eq_some {α : Type} [DecidableEq α] {list suffix rest : List α} :
    list.dropSuffix? suffix = some rest ↔ list = rest ++ suffix := by
  simp [List.dropSuffix?_eq_some_iff]

@[simp] theorem dropSuffix?_append {α : Type} [DecidableEq α] (rest suffix : List α) :
    (rest ++ suffix).dropSuffix? suffix = some rest :=
  dropSuffix?_eq_some.mpr rfl

/-- A prefix is stripped exactly when it is there. -/
theorem dropPrefix?_eq_some {α : Type} [DecidableEq α] {list leading rest : List α} :
    list.dropPrefix? leading = some rest ↔ list = leading ++ rest := by
  simp [List.dropPrefix?_eq_some_iff]

@[simp] theorem stripReturn_append_return (line : Text) :
    stripReturn (line ++ ['\r']) = line := by
  simp [stripReturn]

/-- A line that does not end in a carriage return is left alone. -/
theorem stripReturn_of_not_suffix {line : Text} (plain : ¬ ['\r'] <:+ line) :
    stripReturn line = line := by
  unfold stripReturn
  cases dropped : line.dropSuffix? ['\r'] with
  | none => rfl
  | some rest =>
      exact absurd ⟨rest, (dropSuffix?_eq_some.mp dropped).symm⟩ plain

/-- What `stripReturn` may have removed. -/
theorem eq_or_eq_append_of_stripReturn {line body : Text} (stripped : stripReturn line = body) :
    line = body ∨ line = body ++ ['\r'] := by
  by_cases plain : ['\r'] <:+ line
  · obtain ⟨rest, rfl⟩ := plain
    rw [stripReturn_append_return] at stripped
    exact .inr (by rw [stripped])
  · rw [stripReturn_of_not_suffix plain] at stripped
    exact .inl stripped

/-- `stripReturn` only removes characters. -/
theorem mem_of_mem_stripReturn {line : Text} {char : Char} (member : char ∈ stripReturn line) :
    char ∈ line := by
  rcases eq_or_eq_append_of_stripReturn (rfl : stripReturn line = stripReturn line) with
    same | same
  · rwa [← same] at member
  · rw [same]
    exact List.mem_append_left _ member

@[simp] theorem lines_nil : lines [] = [] := rfl

/-- A non-empty text without a line feed is one line, carriage returns included. -/
theorem lines_of_not_mem {text : Text} (free : '\n' ∉ text) (nonempty : text ≠ []) :
    lines text = [text] := by
  have whole : stripLineEnding text = text := by
    unfold stripLineEnding
    cases dropped : text.dropSuffix? ['\n'] with
    | none => rfl
    | some body =>
        rw [dropSuffix?_eq_some.mp dropped] at free
        simp at free
  simp [lines, splitInclusive_of_not_mem free nonempty, whole]

/-- The first line ends at the first line feed. -/
theorem lines_append_cons {first : Text} (free : '\n' ∉ first) (rest : Text) :
    lines (first ++ '\n' :: rest) = stripReturn first :: lines rest := by
  simp [lines, splitInclusive_append_cons free, stripLineEnding]

/-- Induction along the terminated lines of a text. -/
theorem lineInduction {motive : Text → Prop}
    (unterminated : ∀ text, '\n' ∉ text → motive text)
    (terminated : ∀ first rest, '\n' ∉ first → motive rest → motive (first ++ '\n' :: rest))
    (text : Text) : motive text := by
  rcases not_mem_or_append_cons '\n' text with free | ⟨first, rest, free, same⟩
  · exact unterminated text free
  · have shorter : rest.length < text.length := by
      rw [same, List.length_append, List.length_cons]
      omega
    rw [same]
    exact terminated first rest free (lineInduction unterminated terminated rest)
termination_by text.length

/-- No line contains a line feed. -/
theorem not_mem_of_mem_lines {text line : Text} (member : line ∈ lines text) :
    '\n' ∉ line := by
  induction text using lineInduction with
  | unterminated text free =>
      by_cases empty : text = []
      · simp [empty] at member
      · rw [lines_of_not_mem free empty, List.mem_singleton] at member
        rwa [member]
  | terminated first rest free inductionHypothesis =>
      rw [lines_append_cons free, List.mem_cons] at member
      rcases member with rfl | member
      · exact fun feed => free (mem_of_mem_stripReturn feed)
      · exact inductionHypothesis member

/-- A text without lines is empty. -/
theorem lines_eq_nil_iff {text : Text} : lines text = [] ↔ text = [] := by
  constructor
  · intro none
    rcases not_mem_or_append_cons '\n' text with free | ⟨first, rest, free, rfl⟩
    · by_contra nonempty
      simp [lines_of_not_mem free nonempty] at none
    · simp [lines_append_cons free] at none
  · rintro rfl
    rfl

/-- The texts with exactly one line: an unterminated line, or a terminated one. -/
theorem lines_eq_singleton_iff {text line : Text} :
    lines text = [line] ↔
      ('\n' ∉ text ∧ text ≠ [] ∧ line = text) ∨
        ∃ body, '\n' ∉ body ∧ text = body ++ ['\n'] ∧ line = stripReturn body := by
  constructor
  · intro single
    rcases not_mem_or_append_cons '\n' text with free | ⟨first, rest, free, rfl⟩
    · have nonempty : text ≠ [] := by
        rintro rfl
        simp at single
      rw [lines_of_not_mem free nonempty] at single
      exact .inl ⟨free, nonempty, by simpa using single.symm⟩
    · rw [lines_append_cons free, List.cons.injEq, lines_eq_nil_iff] at single
      exact .inr ⟨first, free, by rw [single.2], single.1.symm⟩
  · rintro (⟨free, nonempty, rfl⟩ | ⟨body, free, rfl, rfl⟩)
    · exact lines_of_not_mem free nonempty
    · exact lines_append_cons free []

/-- A text has two or more lines exactly when its first line is terminated and
something follows. -/
theorem lines_eq_cons_cons_iff {text first second : Text} {others : List Text} :
    lines text = first :: second :: others ↔
      ∃ body rest, '\n' ∉ body ∧ text = body ++ '\n' :: rest ∧ first = stripReturn body ∧
        lines rest = second :: others := by
  constructor
  · intro many
    rcases not_mem_or_append_cons '\n' text with free | ⟨body, rest, free, rfl⟩
    · by_cases empty : text = []
      · simp [empty] at many
      · simp [lines_of_not_mem free empty] at many
    · rw [lines_append_cons free, List.cons.injEq] at many
      exact ⟨body, rest, free, rfl, many.1.symm, many.2⟩
  · rintro ⟨body, rest, free, rfl, rfl, tail⟩
    rw [lines_append_cons free, tail]

/-- A line feed with something behind it makes at least two lines. -/
theorem exists_lines_append_cons (body : Text) {rest : Text} (nonempty : rest ≠ []) :
    ∃ first second others, lines (body ++ '\n' :: rest) = first :: second :: others := by
  induction body using lineInduction with
  | unterminated body free =>
      obtain ⟨second, others, same⟩ :=
        List.exists_cons_of_ne_nil (mt lines_eq_nil_iff.mp nonempty)
      exact ⟨_, second, others, by rw [lines_append_cons free, same]⟩
  | terminated first body free inductionHypothesis =>
      obtain ⟨second, third, others, same⟩ := inductionHypothesis
      exact ⟨_, second, third :: others, by
        rw [List.append_assoc, List.cons_append, lines_append_cons free, same]⟩

end LiteVpn.Strings
