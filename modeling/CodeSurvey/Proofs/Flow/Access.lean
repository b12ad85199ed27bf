/-
  Which lines access a variable, and how.

  * `Flow.Stands`: a name stands in a line as a name of its own;
  * `Flow.isRead_iff`, `Flow.isModified_iff`, `Flow.isWritten_iff`: the three tests of a line, told
    by what stands before and behind the name; `Flow.isSome_accessKind?_iff`: every access is at a
    place where the name stands;
  * `Flow.OnlyCompared`, `Flow.accessKind?_of_onlyCompared`: comparisons and arrows change nothing;
  * `Flow.mem_accesses_iff`, `Flow.pairwise_accesses`: the accesses of some lines;
  * `Flow.dataFlow_tracks`: the accesses to every variable of a structure.
-/
import CodeSurvey.Flow.Access
import CodeSurvey.Proofs.Text.Blank
import CodeSurvey.Proofs.Text.Cut
import Mathlib.Data.List.Forall2

namespace CodeSurvey.Flow

open Text (Alone Blank FollowedBy PrecededBy)

variable {t name line before after rest op : Text} {c : CodePoint} {number : Nat} {ls : List Text}

/-! ## Code points beside a name -/

theorem isNamePart_of_isBlank (h : isBlank c = true) : isNamePart c = false := by
  have hdollar : c ≠ '$' := by
    rintro rfl
    exact absurd h (by decide)
  rw [isNamePart, isWordPart_of_isBlank h, Bool.false_or]
  exact beq_eq_false_iff_ne.2 hdollar

theorem isNamePart_of_isMemberPart (h : isMemberPart c = false) : isNamePart c = false :=
  (Bool.or_eq_false_iff.1 h).1

/-- The operators that a name can stand beside. -/
def operators : List Text :=
  Text.ofString "=" :: modifyingOperators

theorem operators_start :
    ∀ op ∈ operators, op ≠ [] ∧ op.head?.any isBlank = false ∧ op.head?.any isNamePart = false := by
  decide

theorem stepOperators_end :
    ∀ op ∈ stepOperators, op ≠ [] ∧ op.getLast?.any isNamePart = false := by
  decide

/-- No identifier goes on into an operator, with white space before it or not. -/
theorem head?_of_followedBy (hop : op ∈ operators) (h : FollowedBy op after) :
    ∀ c ∈ after.head?, isNamePart c = false := by
  obtain ⟨blanks, rest, hblanks, rfl⟩ := h
  obtain ⟨hne, -, hstart⟩ := operators_start op hop
  intro c hc
  cases blanks with
  | nil =>
    cases op with
    | nil => exact absurd rfl hne
    | cons d ds => exact (Option.any_eq_false _ _).1 hstart c hc
  | cons b bs =>
    obtain rfl : b = c := Option.some.inj hc
    exact isNamePart_of_isBlank (hblanks b List.mem_cons_self)

/-- No identifier starts in an increment or decrement, with white space behind it or not. -/
theorem getLast?_of_precededBy (hop : op ∈ stepOperators) (h : PrecededBy op before) :
    ∀ c ∈ before.getLast?, isNamePart c = false := by
  obtain ⟨rest, blanks, hblanks, rfl⟩ := h
  obtain ⟨hne, hend⟩ := stepOperators_end op hop
  intro c hc
  cases hlast : blanks.getLast? with
  | some b =>
    rw [List.getLast?_append, hlast, Option.some_or] at hc
    obtain rfl : b = c := Option.some.inj hc
    exact isNamePart_of_isBlank (hblanks b (List.mem_of_getLast? hlast))
  | none =>
    obtain rfl : blanks = [] := List.getLast?_eq_none_iff.1 hlast
    rw [List.append_nil, List.getLast?_append_of_ne_nil _ hne] at hc
    exact (Option.any_eq_false _ _).1 hend c hc

/-! ## The tests of a line -/

/-- The name stands in the line between the two texts, and no identifier goes on with it. -/
structure Stands (name line before after : Text) : Prop where
  eq : line = before ++ name ++ after
  alone : Alone isNamePart before after

theorem startsWithName_iff :
    startsWithName name t = true ↔
      ∃ after, t = name ++ after ∧ ∀ c ∈ after.head?, isNamePart c = false := by
  simp only [startsWithName, Option.any_eq_true, Text.after?_eq_some_iff, Bool.not_eq_true',
    Option.any_eq_false, Option.mem_def]

/-- **A line reads a name that stands in it.** -/
theorem isRead_iff : isRead name line = true ↔ ∃ before after, Stands name line before after := by
  rw [isRead, Text.any_cuts_iff]
  constructor
  · rintro ⟨before, rest, rfl, h⟩
    obtain ⟨hleft, hname⟩ := Bool.and_eq_true_iff.1 h
    obtain ⟨after, rfl, hright⟩ := startsWithName_iff.1 hname
    rw [Bool.not_eq_true', Option.any_eq_false] at hleft
    exact ⟨before, after, by rw [List.append_assoc], hleft, hright⟩
  · rintro ⟨before, after, heq, hleft, hright⟩
    refine ⟨before, name ++ after, by rw [heq, List.append_assoc], ?_⟩
    rw [Bool.and_eq_true, Bool.not_eq_true', Option.any_eq_false]
    exact ⟨hleft, startsWithName_iff.2 ⟨after, rfl, hright⟩⟩

theorem assigned?_eq_some_iff :
    assigned? name ⟨before.getLast?, rest⟩ = some after ↔
      rest = name ++ after ∧ ∀ c ∈ before.getLast?, isMemberPart c = false := by
  rw [assigned?, Text.ite_any_eq_some_iff, Text.after?_eq_some_iff, and_comm]

theorem startsWithAny_iff {pieces : List Text} :
    startsWithAny pieces t = true ↔ ∃ op ∈ pieces, op <+: t := by
  simp only [startsWithAny, List.any_eq_true, List.isPrefixOf_iff_prefix]

theorem modifying_followedBy_iff (hop : op ∈ operators) :
    FollowedBy op after ↔ op <+: after.skipBlank :=
  Text.followedBy_iff (operators_start op hop).1
    ((Option.any_eq_false _ _).1 (operators_start op hop).2.1)

theorem modifiedAhead_iff :
    modifiedAhead name ⟨before.getLast?, rest⟩ = true ↔ ∃ after, rest = name ++ after ∧
      (∀ c ∈ before.getLast?, isMemberPart c = false) ∧
      ∃ op ∈ modifyingOperators, FollowedBy op after := by
  rw [modifiedAhead, Option.any_eq_true]
  have hops : ∀ after : Text, (∃ op ∈ modifyingOperators, op <+: after.skipBlank) ↔
      ∃ op ∈ modifyingOperators, FollowedBy op after := fun after =>
    exists_congr fun op => and_congr_right fun hop =>
      (modifying_followedBy_iff (List.mem_cons_of_mem _ hop)).symm
  simp only [assigned?_eq_some_iff, startsWithAny_iff, hops, and_assoc]

theorem modifiedBehind_iff {b : Option CodePoint} :
    modifiedBehind name ⟨b, rest⟩ = true ↔ ∃ op ∈ stepOperators, ∃ blanks after,
      Blank blanks ∧ rest = op ++ blanks ++ name ++ after ∧
      ∀ c ∈ after.head?, isNamePart c = false := by
  rw [modifiedBehind, List.any_eq_true]
  refine exists_congr fun op => and_congr_right fun _ => ?_
  simp only [Option.any_eq_true, Text.after?_eq_some_iff, List.any_eq_true,
    Text.mem_afterBlanks_iff, startsWithName_iff]
  constructor
  · rintro ⟨behind, rfl, named, ⟨blanks, hblanks, rfl⟩, after, rfl, hafter⟩
    exact ⟨blanks, after, hblanks, by simp only [List.append_assoc], hafter⟩
  · rintro ⟨blanks, after, hblanks, rfl, hafter⟩
    exact ⟨blanks ++ (name ++ after), by simp only [List.append_assoc], name ++ after,
      ⟨blanks, hblanks, rfl⟩, after, rfl, hafter⟩

/-- **A line modifies a name before a compound assignment or beside an increment or decrement.** -/
theorem isModified_iff :
    isModified name line = true ↔ ∃ before after, line = before ++ name ++ after ∧
      ((∀ c ∈ before.getLast?, isMemberPart c = false) ∧
          (∃ op ∈ modifyingOperators, FollowedBy op after) ∨
        (∃ op ∈ stepOperators, PrecededBy op before) ∧
          ∀ c ∈ after.head?, isNamePart c = false) := by
  rw [isModified, Text.any_cuts_iff]
  simp only [Bool.or_eq_true, modifiedAhead_iff, modifiedBehind_iff]
  constructor
  · rintro ⟨before, rest, rfl,
      ⟨after, rfl, hleft, hop⟩ | ⟨op, hop, blanks, after, hblanks, rfl, hright⟩⟩
    · exact ⟨before, after, by rw [List.append_assoc], .inl ⟨hleft, hop⟩⟩
    · refine ⟨before ++ op ++ blanks, after, by simp only [List.append_assoc], .inr ⟨?_, hright⟩⟩
      exact ⟨op, hop, before, blanks, hblanks, rfl⟩
  · rintro ⟨before, after, rfl, ⟨hleft, hop⟩ | ⟨⟨op, hop, rest, blanks, hblanks, rfl⟩, hright⟩⟩
    · exact ⟨before, name ++ after, by rw [List.append_assoc], .inl ⟨after, rfl, hleft, hop⟩⟩
    · refine ⟨rest, op ++ blanks ++ name ++ after, by simp only [List.append_assoc], .inr ?_⟩
      exact ⟨op, hop, blanks, after, hblanks, rfl, hright⟩

/-- What follows starts with an equals sign, white space aside, that is no part of a comparison or
    an arrow. -/
def Assigns (after : Text) : Prop :=
  ∃ blanks rest, Blank blanks ∧ after = blanks ++ Text.ofString "=" ++ rest ∧
    ∀ c ∈ rest.head?, c ≠ '=' ∧ c ≠ '>'

theorem startsAssignment_iff :
    startsAssignment t = true ↔
      ∃ rest, t = Text.ofString "=" ++ rest ∧ ∀ c ∈ rest.head?, c ≠ '=' ∧ c ≠ '>' := by
  have hequals : Text.ofString "=" = [CodePoint.ofChar '='] := rfl
  cases t with
  | nil => simp [startsAssignment, hequals]
  | cons c cs =>
    simp only [startsAssignment, hequals, Bool.and_eq_true, beq_iff_eq, Bool.not_eq_true',
      Option.any_eq_false, Bool.or_eq_false_iff, beq_eq_false_iff_ne, List.singleton_append,
      List.cons.injEq, Option.mem_def]
    constructor
    · rintro ⟨hc, hnext⟩
      exact ⟨cs, ⟨hc, rfl⟩, hnext⟩
    · rintro ⟨rest, ⟨hc, rfl⟩, hnext⟩
      exact ⟨hc, hnext⟩

theorem startsAssignment_skipBlank_iff :
    startsAssignment after.skipBlank = true ↔ Assigns after := by
  rw [startsAssignment_iff]
  constructor
  · rintro ⟨rest, hrest, hnext⟩
    obtain ⟨blanks, hblanks, h⟩ := Text.exists_skipBlank after
    exact ⟨blanks, rest, hblanks, by rw [List.append_assoc, ← hrest]; exact h, hnext⟩
  · rintro ⟨blanks, rest, hblanks, rfl, hnext⟩
    refine ⟨rest, ?_, hnext⟩
    rw [List.append_assoc, Text.skipBlank_append hblanks]
    refine Text.skipBlank_eq_self fun c hc => ?_
    obtain rfl : CodePoint.ofChar '=' = c := Option.some.inj hc
    decide

/-- **A line writes a name that an assignment follows.** -/
theorem isWritten_iff :
    isWritten name line = true ↔ ∃ before after, line = before ++ name ++ after ∧
      (∀ c ∈ before.getLast?, isMemberPart c = false) ∧ Assigns after := by
  rw [isWritten, Text.any_cuts_iff]
  simp only [Option.any_eq_true, assigned?_eq_some_iff, startsAssignment_skipBlank_iff]
  constructor
  · rintro ⟨before, rest, rfl, after, ⟨rfl, hleft⟩, hassigns⟩
    exact ⟨before, after, by rw [List.append_assoc], hleft, hassigns⟩
  · rintro ⟨before, after, rfl, hleft, hassigns⟩
    exact ⟨before, name ++ after, by rw [List.append_assoc], after, ⟨rfl, hleft⟩, hassigns⟩

/-! ## The access of a line -/

theorem Assigns.followedBy (h : Assigns after) : FollowedBy (.ofString "=") after := by
  obtain ⟨blanks, rest, hblanks, heq, -⟩ := h
  exact ⟨blanks, rest, hblanks, heq⟩

theorem stands_of_followedBy (hleft : ∀ c ∈ before.getLast?, isMemberPart c = false)
    (hop : op ∈ operators) (h : FollowedBy op after) :
    Stands name (before ++ name ++ after) before after where
  eq := rfl
  alone.left c hc := isNamePart_of_isMemberPart (hleft c hc)
  alone.right := head?_of_followedBy hop h

theorem stands_of_precededBy (hop : op ∈ stepOperators) (h : PrecededBy op before)
    (hright : ∀ c ∈ after.head?, isNamePart c = false) :
    Stands name (before ++ name ++ after) before after where
  eq := rfl
  alone.left := getLast?_of_precededBy hop h
  alone.right := hright

/-- A line that modifies a name does so at a place where the name stands. -/
theorem stands_of_isModified (h : isModified name line = true) :
    ∃ before after, Stands name line before after ∧
      ((∃ op ∈ modifyingOperators, FollowedBy op after) ∨
        ∃ op ∈ stepOperators, PrecededBy op before) := by
  obtain ⟨before, after, rfl, ⟨hleft, op, hop, hfollowed⟩ | ⟨⟨op, hop, hpreceded⟩, hright⟩⟩ :=
    isModified_iff.1 h
  · exact ⟨before, after, stands_of_followedBy hleft (List.mem_cons_of_mem _ hop) hfollowed,
      .inl ⟨op, hop, hfollowed⟩⟩
  · exact ⟨before, after, stands_of_precededBy hop hpreceded hright, .inr ⟨op, hop, hpreceded⟩⟩

/-- A line that writes a name does so at a place where the name stands. -/
theorem stands_of_isWritten (h : isWritten name line = true) :
    ∃ before after, Stands name line before after ∧ Assigns after := by
  obtain ⟨before, after, rfl, hleft, hassigns⟩ := isWritten_iff.1 h
  exact ⟨before, after, stands_of_followedBy hleft List.mem_cons_self hassigns.followedBy, hassigns⟩

/-- **A line accesses a name exactly if the name stands in it.** -/
theorem isSome_accessKind?_iff :
    (accessKind? name line).isSome = true ↔ ∃ before after, Stands name line before after := by
  rw [accessKind?]
  split
  · rename_i hmodified
    obtain ⟨before, after, hstands, -⟩ := stands_of_isModified hmodified
    exact ⟨fun _ => ⟨before, after, hstands⟩, fun _ => rfl⟩
  · split
    · rename_i hwritten
      obtain ⟨before, after, hstands, -⟩ := stands_of_isWritten hwritten
      exact ⟨fun _ => ⟨before, after, hstands⟩, fun _ => rfl⟩
    · rw [← isRead_iff]
      split
      · rename_i hread
        exact ⟨fun _ => hread, fun _ => rfl⟩
      · rename_i hread
        exact ⟨nofun, fun h => absurd h hread⟩

/-! ## Comparisons -/

/-- The comparisons, and the arrow behind a parameter. -/
def comparisons : List Text :=
  ["==", "===", "!=", "!==", "<=", ">=", "=>"].map Text.ofString

/-- Wherever the name stands in the line, a comparison or an arrow follows it, and no increment or
    decrement precedes it. -/
def OnlyCompared (name line : Text) : Prop :=
  ∀ before after, Stands name line before after →
    (∃ op ∈ comparisons, FollowedBy op after) ∧ ∀ op ∈ stepOperators, ¬ PrecededBy op before

theorem comparisons_start :
    ∀ op ∈ comparisons, op ≠ [] ∧ op.head?.any isBlank = false := by
  decide

/-- No comparison starts with an operator that modifies, nor the other way round. -/
theorem comparisons_apart :
    ∀ op ∈ modifyingOperators, ∀ op' ∈ comparisons, ¬ op <+: op' ∧ ¬ op' <+: op := by
  decide +kernel

/-- A comparison that starts with an equals sign goes on with what makes it no assignment. -/
theorem comparisons_equals :
    ∀ op ∈ comparisons, op.head? = some (CodePoint.ofChar '=') →
      (op.tail.head?.any fun c : CodePoint => c == '=' || c == '>') = true := by
  decide +kernel

theorem comparison_followedBy_iff (hop : op ∈ comparisons) :
    FollowedBy op after ↔ op <+: after.skipBlank :=
  Text.followedBy_iff (comparisons_start op hop).1
    ((Option.any_eq_false _ _).1 (comparisons_start op hop).2)

theorem not_followedBy_of_comparison (hop : op ∈ comparisons) (h : FollowedBy op after) :
    ∀ op' ∈ modifyingOperators, ¬ FollowedBy op' after := by
  intro op' hop' h'
  rw [comparison_followedBy_iff hop] at h
  rw [modifying_followedBy_iff (List.mem_cons_of_mem _ hop')] at h'
  obtain ⟨hnot, hnot'⟩ := comparisons_apart op' hop' op hop
  rcases List.prefix_or_prefix_of_prefix h h' with hpre | hpre
  · exact hnot' hpre
  · exact hnot hpre

theorem not_assigns_of_comparison (hop : op ∈ comparisons) (h : FollowedBy op after) :
    ¬ Assigns after := by
  intro hassigns
  rw [comparison_followedBy_iff hop] at h
  obtain ⟨rest, hrest, hnext⟩ := startsAssignment_iff.1 (startsAssignment_skipBlank_iff.2 hassigns)
  rw [hrest] at h
  cases op with
  | nil => exact (comparisons_start [] hop).1 rfl
  | cons c cs =>
    obtain ⟨hc, hcs⟩ := List.cons_prefix_cons.1 h
    obtain ⟨d, hd, hequals⟩ :=
      (Option.any_eq_true _ _).1 (comparisons_equals (c :: cs) hop (congrArg some hc))
    obtain ⟨ds, rfl⟩ := List.head?_eq_some_iff.1 hd
    obtain ⟨rest, rfl⟩ := hcs
    obtain ⟨hne, hne'⟩ := hnext d rfl
    rcases (Bool.or_eq_true _ _).mp hequals with heq | heq
    · exact hne (beq_iff_eq.1 heq)
    · exact hne' (beq_iff_eq.1 heq)

/-- **A line that only compares a name does not modify or write it.** -/
theorem accessKind?_of_onlyCompared (h : OnlyCompared name line) :
    accessKind? name line = if isRead name line then some .read else none := by
  have hmodified : ¬ isModified name line = true := by
    intro hmodified
    obtain ⟨before, after, hstands, hop⟩ := stands_of_isModified hmodified
    obtain ⟨⟨op, hcompare, hfollowed⟩, hsteps⟩ := h before after hstands
    rcases hop with ⟨op', hop', hfollowed'⟩ | ⟨op', hop', hpreceded⟩
    · exact not_followedBy_of_comparison hcompare hfollowed op' hop' hfollowed'
    · exact hsteps op' hop' hpreceded
  have hwritten : ¬ isWritten name line = true := by
    intro hwritten
    obtain ⟨before, after, hstands, hassigns⟩ := stands_of_isWritten hwritten
    obtain ⟨⟨op, hcompare, hfollowed⟩, -⟩ := h before after hstands
    exact not_assigns_of_comparison hcompare hfollowed hassigns
  rw [accessKind?, if_neg hmodified, if_neg hwritten]

/-! ## The accesses of a text -/

theorem accesses_eq_filterMap (name : Text) (number : Nat) (ls : List Text) :
    accesses name number ls =
      (ls.zipIdx number).filterMap fun x =>
        (accessKind? name x.1).map fun kind => ⟨kind, x.2⟩ := by
  induction ls generalizing number with
  | nil => rfl
  | cons line rest ih =>
    rw [accesses, ih, List.zipIdx_cons, List.filterMap_cons]
    cases accessKind? name line with
    | none => rfl
    | some kind => rfl

/-- An access is at the number of a line that makes it. -/
theorem mem_accesses_iff {a : Access} :
    a ∈ accesses name number ls ↔
      ∃ i line, ls[i]? = some line ∧ accessKind? name line = some a.kind ∧ a.line = number + i := by
  rw [accesses_eq_filterMap, List.mem_filterMap]
  constructor
  · rintro ⟨⟨line, j⟩, hmem, hkind⟩
    obtain ⟨hle, hline⟩ := List.mk_mem_zipIdx_iff_le_and_getElem?_sub.1 hmem
    obtain ⟨kind, hline', rfl⟩ := Option.map_eq_some_iff.1 hkind
    exact ⟨j - number, line, hline, hline', (Nat.add_sub_cancel' hle).symm⟩
  · rintro ⟨i, line, hline, hkind, hnumber⟩
    refine ⟨(line, number + i), List.mk_mem_zipIdx_iff_le_and_getElem?_sub.2 ⟨?_, ?_⟩, ?_⟩
    · exact Nat.le_add_right number i
    · rw [Nat.add_sub_cancel_left]
      exact hline
    · obtain ⟨kind, line'⟩ := a
      obtain rfl : line' = number + i := hnumber
      rw [Option.map_eq_some_iff]
      exact ⟨kind, hkind, rfl⟩

/-- The accesses stand in the order of their lines, no two of them at one line. -/
theorem pairwise_accesses (name : Text) (number : Nat) (ls : List Text) :
    (accesses name number ls).Pairwise fun a b => a.line < b.line := by
  have hnumbers : (ls.zipIdx number).Pairwise fun x y => x.2 < y.2 := by
    have hrange : (List.range' number ls.length).Pairwise (· < ·) := List.pairwise_lt_range'
    rw [← List.zipIdx_map_snd number ls, List.pairwise_map] at hrange
    exact hrange
  rw [accesses_eq_filterMap]
  refine hnumbers.filterMap _ fun x y hlt a ha b hb => ?_
  obtain ⟨kind, -, rfl⟩ := Option.map_eq_some_iff.1 ha
  obtain ⟨kind', -, rfl⟩ := Option.map_eq_some_iff.1 hb
  exact hlt

section Line

variable {i : Nat} {a : Access}

theorem accessKind?_of_mem_accesses (hi : ls[i]? = some line) (ha : a ∈ accesses name 1 ls)
    (hnumber : a.line = i + 1) : accessKind? name line = some a.kind := by
  obtain ⟨j, line', hj, hkind, hnumber'⟩ := mem_accesses_iff.1 ha
  obtain rfl : i = j := by omega
  cases hi.symm.trans hj
  exact hkind

theorem mem_accesses_of_accessKind? {kind : AccessKind} (hi : ls[i]? = some line)
    (hkind : accessKind? name line = some kind) : ⟨kind, i + 1⟩ ∈ accesses name 1 ls :=
  mem_accesses_iff.2 ⟨i, line, hi, hkind, Nat.add_comm i 1⟩

/-- A line is listed exactly if the name stands in it. -/
theorem exists_access_iff (hi : ls[i]? = some line) :
    (∃ a ∈ accesses name 1 ls, a.line = i + 1) ↔ ∃ before after, Stands name line before after := by
  rw [← isSome_accessKind?_iff]
  constructor
  · rintro ⟨a, ha, hnumber⟩
    rw [accessKind?_of_mem_accesses hi ha hnumber]
    rfl
  · intro hsome
    obtain ⟨kind, hkind⟩ := Option.isSome_iff_exists.1 hsome
    exact ⟨⟨kind, i + 1⟩, mem_accesses_of_accessKind? hi hkind, rfl⟩

/-- A line in which the name is only compared is listed as a read, if at all. -/
theorem accesses_of_onlyCompared (hi : ls[i]? = some line) (h : OnlyCompared name line) :
    ((∃ before after, Stands name line before after) → ⟨.read, i + 1⟩ ∈ accesses name 1 ls) ∧
      ∀ a ∈ accesses name 1 ls, a.line = i + 1 → a.kind = .read := by
  have hkind := accessKind?_of_onlyCompared h
  refine ⟨fun hstands => ?_, fun a ha hnumber => ?_⟩
  · rw [if_pos (isRead_iff.2 hstands)] at hkind
    exact mem_accesses_of_accessKind? hi hkind
  · rw [accessKind?_of_mem_accesses hi ha hnumber] at hkind
    split at hkind
    · exact Option.some.inj hkind
    · cases hkind

end Line

/-! ## All variables -/

/-- What the accesses to a variable say of the lines of a text. -/
structure Tracks (t : Text) (v : VariableInfo) (node : DataFlowNode) : Prop where
  name : node.variableName = v.name
  scope : node.scope = v.scope
  /-- A line is listed exactly if the name stands in it. -/
  listed : ∀ i line, t.lines[i]? = some line →
    ((∃ a ∈ node.operations, a.line = i + 1) ↔ ∃ before after, Stands v.name line before after)
  /-- The lines increase, so that each is listed once at most. -/
  increasing : node.operations.Pairwise fun a b => a.line < b.line
  within : ∀ a ∈ node.operations, 1 ≤ a.line ∧ a.line ≤ t.lines.length
  /-- A line in which the name is only compared reads it. -/
  compared : ∀ i line, t.lines[i]? = some line → OnlyCompared v.name line →
    ((∃ before after, Stands v.name line before after) → ⟨.read, i + 1⟩ ∈ node.operations) ∧
      ∀ a ∈ node.operations, a.line = i + 1 → a.kind = .read

/-- **The accesses to every variable of a structure, one node for each in order.**  A line is listed
    for a variable exactly if the name, whatever it is, stands in it with no part of an identifier
    beside it; the listed lines increase and are lines of the text; and a line in which the name is
    only compared, or the parameter of an arrow, reads it. -/
theorem dataFlow_tracks (t : Text) (s : CodeStructure) :
    List.Forall₂ (Tracks t) s.vars (dataFlow t s) := by
  rw [dataFlow, List.forall₂_map_right_iff, List.forall₂_same]
  intro v _
  constructor
  · rfl
  · rfl
  · exact fun i line hi => exists_access_iff hi
  · exact pairwise_accesses v.name 1 t.lines
  · intro a ha
    obtain ⟨i, line, hi, -, hnumber⟩ := mem_accesses_iff.1 ha
    have hlt := (List.getElem?_eq_some_iff.1 hi).1
    omega
  · exact fun i line hi hcompared => accesses_of_onlyCompared hi hcompared

end CodeSurvey.Flow
