import LiteVpn.Strings.Lines
import Mathlib.Data.List.Nodup

/-!
# Settings in a file of lines

A file of `key = value` lines in which some keys are to be set: every line that
assigns one of them is replaced, and what no line assigns is added at the end.
Nothing else changes, and of two such edits of the same keys the second decides.
-/

namespace LiteVpn.Strings

/-- The records of a text: its lines, with a carriage return left where it is. -/
def records (text : Text) : List Text :=
  (splitInclusive '\n' text).map fun line => (line.dropSuffix? ['\n']).getD line

/-- Print lines. -/
def unlines (file : List Text) : Text := file.flatMap fun line => line ++ ['\n']

/-- What is printed is read back, if each line is one. -/
theorem records_unlines {file : List Text} (single : ∀ line ∈ file, '\n' ∉ line) :
    records (unlines file) = file := by
  induction file with
  | nil => rfl
  | cons first rest inductionHypothesis =>
      rw [List.forall_mem_cons] at single
      rw [unlines, List.flatMap_cons, List.append_assoc, List.singleton_append, records,
        splitInclusive_append_cons single.1, List.map_cons, dropSuffix?_append, Option.getD_some]
      congr 1
      exact inductionHypothesis single.2

theorem not_mem_of_mem_records {text line : Text} (member : line ∈ records text) :
    '\n' ∉ line := by
  induction text using lineInduction with
  | unterminated text free =>
      by_cases empty : text = []
      · simp [records, empty, splitInclusive] at member
      · have kept : text.dropSuffix? ['\n'] = none := by
          rw [Option.eq_none_iff_forall_ne_some]
          intro rest dropped
          rw [dropSuffix?_eq_some] at dropped
          exact free (by simp [dropped])
        rw [records, splitInclusive_of_not_mem free empty, List.map_singleton, kept,
          List.mem_singleton] at member
        rwa [member]
  | terminated first rest free inductionHypothesis =>
      rw [records, splitInclusive_append_cons free, List.map_cons, dropSuffix?_append,
        List.mem_cons] at member
      rcases member with rfl | later
      · exact free
      · exact inductionHypothesis later

/-- `[[:space:]]`. -/
def isSpaceClass (char : Char) : Bool :=
  char = ' ' || (9 ≤ char.toNat && char.toNat ≤ 13)

/-- `^key[[:space:]]*=`. -/
def assigns (key line : Text) : Bool :=
  match line.dropPrefix? key with
  | none => false
  | some rest => (rest.dropWhile isSpaceClass).head? = some '='

theorem assigns_append (key value : Text) : assigns key (key ++ ' ' :: '=' :: value) = true := by
  have dropped : (key ++ ' ' :: '=' :: value).dropPrefix? key = some (' ' :: '=' :: value) := by
    rw [dropPrefix?_eq_some]
  rw [assigns, dropped]
  rfl

/-- What cannot be part of a key. -/
def endsKey (char : Char) : Bool := isSpaceClass char || char = '='

/-- A key and the line that sets it. -/
structure Assignment where
  key : Text
  line : Text
  plain : (key.all fun char => !endsKey char) = true
  fits : assigns key line = true

/-- One of the assignments is for the key of the line. -/
def assigned (assignments : List Assignment) (line : Text) : Bool :=
  assignments.any fun assignment => assigns assignment.key line

/-- The line as it is set, if its key is. -/
def assign (assignments : List Assignment) (line : Text) : Text :=
  ((assignments.find? fun assignment => assigns assignment.key line).map (·.line)).getD line

/-- The assignments whose key no line assigns. -/
def missing (assignments : List Assignment) (file : List Text) : List Assignment :=
  assignments.filter fun assignment => !file.any (assigns assignment.key)

/-- Set all keys. -/
def assignAll (assignments : List Assignment) (file : List Text) : List Text :=
  file.map (assign assignments) ++ (missing assignments file).map (·.line)

/-- A line that assigns a key starts with it, up to the end of any key. -/
theorem takeWhile_of_assigns {key line : Text} (plain : (key.all fun char => !endsKey char) = true)
    (found : assigns key line = true) : line.takeWhile (fun char => !endsKey char) = key := by
  unfold assigns at found
  split at found
  · cases found
  · rename_i rest dropped
    rw [dropPrefix?_eq_some] at dropped
    rw [dropped, List.takeWhile_append_of_pos (List.all_eq_true.mp plain)]
    -- What follows the key is a space or the equals sign, and both end a key.
    have none : rest.takeWhile (fun char => !endsKey char) = [] := by
      cases rest with
      | nil => rfl
      | cons head tail =>
          rw [decide_eq_true_eq] at found
          by_cases space : isSpaceClass head = true
          · simp [endsKey, space]
          · rw [List.dropWhile_cons_of_neg space] at found
            cases found
            simp [endsKey]
    rw [none, List.append_nil]

theorem not_assigns_of_ne {first second line : Text}
    (firstPlain : (first.all fun char => !endsKey char) = true)
    (secondPlain : (second.all fun char => !endsKey char) = true) (ne : first ≠ second)
    (found : assigns first line = true) : assigns second line = false := by
  rw [← Bool.not_eq_true]
  intro both
  apply ne
  rw [← takeWhile_of_assigns firstPlain found, takeWhile_of_assigns secondPlain both]

/-- A line assigns at most one key. -/
theorem assigns_unique {first second : Assignment} {line : Text}
    (one : assigns first.key line = true) (other : assigns second.key line = true) :
    first.key = second.key :=
  (takeWhile_of_assigns first.plain one).symm.trans (takeWhile_of_assigns second.plain other)

section

variable {assignments : List Assignment} {file : List Text} {line : Text}

theorem assign_of_not_assigned (free : assigned assignments line = false) :
    assign assignments line = line := by
  have none : (assignments.find? fun assignment => assigns assignment.key line) = none := by
    rw [List.find?_eq_none]
    intro assignment member
    simp only [assigned, List.any_eq_false] at free
    exact free assignment member
  rw [assign, none]
  rfl

/-- A line whose key is set becomes the line that sets it. -/
theorem assign_of_assigns (distinct : (assignments.map (·.key)).Nodup) {assignment : Assignment}
    (member : assignment ∈ assignments) (found : assigns assignment.key line = true) :
    assign assignments line = assignment.line := by
  have some : ∃ other, (assignments.find? fun assignment => assigns assignment.key line) =
      some other := by
    rw [← Option.isSome_iff_exists, List.find?_isSome]
    exact ⟨assignment, member, found⟩
  obtain ⟨other, chosen⟩ := some
  have other_assigns : assigns other.key line = true := by
    simpa using List.find?_some chosen
  have same : other = assignment :=
    List.inj_on_of_nodup_map distinct (List.mem_of_find?_eq_some chosen) member
      (assigns_unique other_assigns found)
  rw [assign, chosen, same]
  rfl

/-- Setting a line does not change which keys it assigns. -/
theorem assigns_assign (distinct : (assignments.map (·.key)).Nodup) (key : Assignment) :
    assigns key.key (assign assignments line) = assigns key.key line := by
  cases set : assigned assignments line with
  | false => rw [assign_of_not_assigned set]
  | true =>
      simp only [assigned, List.any_eq_true] at set
      obtain ⟨assignment, member, found⟩ := set
      rw [assign_of_assigns distinct member found]
      by_cases same : assignment.key = key.key
      · rw [← same, assignment.fits, found]
      · rw [not_assigns_of_ne assignment.plain key.plain same assignment.fits,
          not_assigns_of_ne assignment.plain key.plain same found]

/-- Setting keys changes no line of another key, and their order neither. -/
theorem assignAll_others (distinct : (assignments.map (·.key)).Nodup) :
    (assignAll assignments file).filter (fun line => !assigned assignments line) =
      file.filter fun line => !assigned assignments line := by
  have kept : ∀ line,
      assigned assignments (assign assignments line) = assigned assignments line := by
    intro line
    simp only [assigned, assigns_assign distinct]
  have added : ((missing assignments file).map (·.line)).filter
      (fun line => !assigned assignments line) = [] := by
    rw [List.filter_eq_nil_iff]
    intro line member
    obtain ⟨assignment, absent, rfl⟩ := List.mem_map.mp member
    have own : assigned assignments assignment.line = true := by
      rw [assigned, List.any_eq_true]
      exact ⟨assignment, (List.mem_filter.mp absent).1, assignment.fits⟩
    simp [own]
  rw [assignAll, List.filter_append, added, List.append_nil, List.filter_map]
  -- The lines that are left over are the same ones, and none of them is set.
  have chosen : (fun line => !assigned assignments line) ∘ assign assignments =
      fun line => !assigned assignments line := by
    ext line
    simp only [Function.comp_apply, kept]
  rw [chosen]
  refine (List.map_congr_left ?_).trans (List.map_id _)
  intro line member
  apply assign_of_not_assigned
  simpa using (List.mem_filter.mp member).2

/-- Behind it, each key is set by its own line and by no other. -/
theorem assignAll_sets (distinct : (assignments.map (·.key)).Nodup) {assignment : Assignment}
    (member : assignment ∈ assignments) :
    assignment.line ∈ assignAll assignments file ∧
      ∀ line ∈ assignAll assignments file, assigns assignment.key line = true →
        line = assignment.line := by
  constructor
  · rw [assignAll, List.mem_append]
    cases present : file.any (assigns assignment.key) with
    | true =>
        obtain ⟨line, listed, found⟩ := List.any_eq_true.mp present
        exact .inl (List.mem_map.mpr ⟨line, listed, assign_of_assigns distinct member found⟩)
    | false =>
        refine .inr (List.mem_map.mpr ⟨assignment, List.mem_filter.mpr ⟨member, ?_⟩, rfl⟩)
        rw [present]
        rfl
  · intro line listed found
    rcases List.mem_append.mp listed with old | new
    · obtain ⟨before, _, rfl⟩ := List.mem_map.mp old
      rw [assigns_assign distinct] at found
      exact assign_of_assigns distinct member found
    · obtain ⟨other, absent, rfl⟩ := List.mem_map.mp new
      have same : other = assignment :=
        List.inj_on_of_nodup_map distinct (List.mem_filter.mp absent).1 member
          (assigns_unique other.fits found)
      rw [same]

/-- No line is doubled: a key is assigned as often as before, or once. -/
theorem countP_assignAll (distinct : (assignments.map (·.key)).Nodup) {assignment : Assignment}
    (member : assignment ∈ assignments) :
    (assignAll assignments file).countP (assigns assignment.key) =
      max 1 (file.countP (assigns assignment.key)) := by
  have kept : (file.map (assign assignments)).countP (assigns assignment.key) =
      file.countP (assigns assignment.key) := by
    rw [List.countP_map]
    congr 1
    ext line
    exact assigns_assign distinct assignment
  rw [assignAll, List.countP_append, kept, List.countP_map, missing, List.countP_filter]
  -- Of the assignments, only this one can add a line for its key.
  obtain ⟨before, behind, rfl⟩ := List.mem_iff_append.mp member
  have others : ∀ other ∈ before ++ behind, assigns assignment.key other.line = false := by
    intro other listed
    apply not_assigns_of_ne other.plain assignment.plain _ other.fits
    intro same
    rw [List.map_append, List.map_cons, List.nodup_middle, List.nodup_cons] at distinct
    apply distinct.1
    rw [← same, ← List.map_append]
    exact List.mem_map_of_mem listed
  rw [List.countP_append, List.countP_cons]
  have none : ∀ part ⊆ before ++ behind, part.countP (fun other =>
      (assigns assignment.key ∘ fun other => other.line) other &&
        !file.any (assigns other.key)) = 0 := by
    intro part within
    rw [List.countP_eq_zero]
    intro other listed
    simp [others other (within listed)]
  rw [none before (List.subset_append_left _ _), none behind (List.subset_append_right _ _)]
  cases present : file.any (assigns assignment.key) with
  | true =>
      have some : 0 < file.countP (assigns assignment.key) := by
        rw [List.countP_pos_iff, ← List.any_eq_true]
        exact present
      rw [Nat.max_eq_right (Nat.succ_le_of_lt some)]
      simp
  | false =>
      have zero : file.countP (assigns assignment.key) = 0 := by
        rw [List.countP_eq_zero]
        simpa using present
      simp [zero, assignment.fits]

/-- A key is assigned behind the edit if it was before, or if it is one of those
that were set. -/
theorem any_assignAll (distinct : (assignments.map (·.key)).Nodup) (key : Assignment) :
    (assignAll assignments file).any (assigns key.key) = true ↔
      file.any (assigns key.key) = true ∨ key.key ∈ assignments.map (·.key) := by
  constructor
  · intro present
    obtain ⟨line, listed, found⟩ := List.any_eq_true.mp present
    rcases List.mem_append.mp listed with old | new
    · obtain ⟨before, there, rfl⟩ := List.mem_map.mp old
      rw [assigns_assign distinct] at found
      exact .inl (List.any_eq_true.mpr ⟨before, there, found⟩)
    · obtain ⟨other, absent, rfl⟩ := List.mem_map.mp new
      refine .inr (List.mem_map.mpr ⟨other, (List.mem_filter.mp absent).1, ?_⟩)
      exact assigns_unique other.fits found
  · rintro (present | set)
    · obtain ⟨line, listed, found⟩ := List.any_eq_true.mp present
      refine List.any_eq_true.mpr ⟨assign assignments line, ?_, ?_⟩
      · exact List.mem_append_left _ (List.mem_map_of_mem listed)
      · rw [assigns_assign distinct]
        exact found
    · obtain ⟨other, member, same⟩ := List.mem_map.mp set
      refine List.any_eq_true.mpr ⟨other.line, (assignAll_sets distinct member).1, ?_⟩
      rw [← same]
      exact other.fits

end

section

variable {first second : List Assignment} {file : List Text}

/-- Of two edits of one line, the second decides if it sets the key. -/
theorem assign_assign (covered : first.map (·.key) ⊆ second.map (·.key))
    (firstDistinct : (first.map (·.key)).Nodup) (secondDistinct : (second.map (·.key)).Nodup)
    (line : Text) : assign second (assign first line) = assign second line := by
  cases set : assigned second line with
  | true =>
      simp only [assigned, List.any_eq_true] at set
      obtain ⟨assignment, member, found⟩ := set
      rw [assign_of_assigns secondDistinct member found]
      apply assign_of_assigns secondDistinct member
      rw [assigns_assign firstDistinct, found]
  | false =>
      have free : assigned first line = false := by
        simp only [assigned, List.any_eq_false] at set ⊢
        intro assignment member found
        obtain ⟨other, listed, same⟩ :=
          List.mem_map.mp (covered (List.mem_map_of_mem member))
        apply set other listed
        rw [same, found]
      rw [assign_of_not_assigned free]

/-- What the first of two edits of the same keys has added, the second one turns
into what it would have added itself. -/
theorem map_assign_missing (distinct : (second.map (·.key)).Nodup) :
    ∀ {first same : List Assignment}, same.map (·.key) = first.map (·.key) → same ⊆ second →
      ((missing first file).map (·.line)).map (assign second) =
        (missing same file).map (·.line)
  | [], [], _, _ => rfl
  | [], _ :: _, keys, _ => by simp at keys
  | _ :: _, [], keys, _ => by simp at keys
  | head :: rest, newHead :: newRest, keys, within => by
      rw [List.map_cons, List.map_cons, List.cons.injEq] at keys
      have inductionHypothesis := map_assign_missing distinct keys.2
        (fun _ member => within (List.mem_cons_of_mem _ member))
      have set : assign second head.line = newHead.line := by
        apply assign_of_assigns distinct (within List.mem_cons_self)
        rw [keys.1]
        exact head.fits
      rw [missing, List.filter_cons, missing, List.filter_cons, keys.1]
      cases file.any (assigns head.key) with
      | true => exact inductionHypothesis
      | false =>
          simp only [Bool.not_false, if_true, List.map_cons, set, List.cons.injEq, true_and]
          exact inductionHypothesis

/-- Of two edits, the second decides, if it sets the keys of the first one before
any others. -/
theorem assignAll_assignAll {same further : List Assignment}
    (keys : same.map (·.key) = first.map (·.key))
    (distinct : ((same ++ further).map (·.key)).Nodup) :
    assignAll (same ++ further) (assignAll first file) = assignAll (same ++ further) file := by
  have firstDistinct : (first.map (·.key)).Nodup := by
    rw [List.map_append, List.nodup_append] at distinct
    exact keys ▸ distinct.1
  have covered : first.map (·.key) ⊆ (same ++ further).map (·.key) := by
    rw [List.map_append, keys]
    exact List.subset_append_left _ _
  -- Behind the first edit, only the further keys can be missing.
  have left : missing (same ++ further) (assignAll first file) = missing further file := by
    rw [missing, List.filter_append]
    have none : same.filter (fun assignment =>
        !(assignAll first file).any (assigns assignment.key)) = [] := by
      rw [List.filter_eq_nil_iff]
      intro assignment member
      have there := (@any_assignAll first file firstDistinct assignment).mpr
        (.inr (keys ▸ List.mem_map_of_mem member))
      simp [there]
    rw [none, List.nil_append]
    apply List.filter_congr
    intro assignment member
    have apart : assignment.key ∉ first.map (·.key) := by
      rw [List.map_append, List.nodup_append] at distinct
      intro listed
      rw [← keys] at listed
      exact distinct.2.2 _ listed _ (List.mem_map_of_mem member) rfl
    have same : (assignAll first file).any (assigns assignment.key) =
        file.any (assigns assignment.key) := by
      rw [Bool.eq_iff_iff, any_assignAll firstDistinct]
      exact or_iff_left apart
    rw [same]
  have edited : ((missing first file).map (·.line)).map (assign (same ++ further)) =
      (missing same file).map (·.line) :=
    map_assign_missing distinct keys (List.subset_append_left _ _)
  calc assignAll (same ++ further) (assignAll first file)
      = (assignAll first file).map (assign (same ++ further)) ++
          (missing further file).map (·.line) := by rw [assignAll, left]
    _ = (file.map (assign (same ++ further)) ++ (missing same file).map (·.line)) ++
          (missing further file).map (·.line) := by
        rw [assignAll, List.map_append, edited, List.map_map]
        congr 2
        apply List.map_congr_left
        intro line _
        exact assign_assign covered firstDistinct distinct line
    _ = assignAll (same ++ further) file := by
        rw [assignAll, missing, missing, missing, List.filter_append, List.map_append,
          List.append_assoc]

end

end LiteVpn.Strings
