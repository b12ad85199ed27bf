/-
  How the blocks of a text lie to each other.

  Each search for the end of a block keeps a depth of its own.  A search that opens inside the block
  of another one never has more blocks to close than that one has, so it ends no later.

  * `Flow.closeLength_mono`, `Flow.exists_closeLength_append`: a scan with more blocks to close
    takes no fewer code points, and behind a text that it gets past it goes on with some depth;
  * `Flow.Opens.blockEnd_eq`: the end of a block, told by its brace; `Flow.blockEnd_le`: a block
    that opens inside another one ends no later;
  * `Flow.Laminar`, `Flow.laminar_blocks`: blocks are the same, apart, or one inside the other;
  * `Flow.casesIn`, `Flow.casesIn_le`: the cases of a block, and of one inside it;
  * `Flow.SwitchEntry`, `Flow.SwitchEntry.branches_eq_add`: the branches of a switch are the cases
    before its brace and those of its block;
  * `Flow.blocks_laminar`: all of this for any two searches, and for the switches of a text.
-/
import CodeSurvey.Proofs.Flow.Branch
import CodeSurvey.Proofs.Text.Border

namespace CodeSurvey.Flow

open Metrics Text

variable {t u word : Text} {n m : ControlFlowNode} {start first first' p q depth number : Nat}

/-! ## The scan from inside a block -/

/-- A scan that has one more block to close takes no fewer code points. -/
theorem closeLength_le_succ (depth : Nat) (u : Text) :
    closeLength depth u ≤ closeLength (depth + 1) u := by
  induction depth, u using closeLength.induct with
  | case1 depth => exact Nat.le_refl 0
  | case2 depth u ih =>
    rw [closeLength_openBrace, closeLength_openBrace]
    exact Nat.succ_le_succ ih
  | case3 u =>
    -- the one scan stops at this brace, and the other goes on
    rw [closeLength_closeBrace_zero, closeLength_closeBrace_succ]
    exact Nat.succ_le_succ (Nat.zero_le _)
  | case4 u depth _ ih =>
    rw [closeLength_closeBrace_succ, closeLength_closeBrace_succ]
    exact Nat.succ_le_succ ih
  | case5 depth c u hopen hclose ih =>
    rw [closeLength_cons_of_ne hopen hclose, closeLength_cons_of_ne hopen hclose]
    exact Nat.succ_le_succ ih

/-- A scan that has more blocks to close takes no fewer code points. -/
theorem closeLength_mono (u : Text) : Monotone fun depth => closeLength depth u :=
  monotone_nat_of_le_succ fun depth => closeLength_le_succ depth u

/-- At a code point a scan stops, or it goes on with a depth that the rest does not tell. -/
theorem closeLength_cons_cases (depth : Nat) (c : CodePoint) :
    (c = closeBrace ∧ ∀ u, closeLength depth (c :: u) = 1) ∨
      ∃ depth', ∀ u, closeLength depth (c :: u) = closeLength depth' u + 1 := by
  by_cases hopen : c = openBrace
  · exact .inr ⟨depth + 1, fun u => by rw [hopen, closeLength_openBrace]⟩
  · by_cases hclose : c = closeBrace
    · subst hclose
      cases depth with
      | zero => exact .inl ⟨rfl, closeLength_closeBrace_zero⟩
      | succ depth => exact .inr ⟨depth, closeLength_closeBrace_succ depth⟩
    · exact .inr ⟨depth, closeLength_cons_of_ne hopen hclose depth⟩

/-- A scan that gets past a text goes on behind it, with some depth. -/
theorem exists_closeLength_append (h : t.length < closeLength depth (t ++ u)) :
    ∃ depth', closeLength depth (t ++ u) = t.length + closeLength depth' u := by
  induction t generalizing depth with
  | nil => exact ⟨depth, (Nat.zero_add _).symm⟩
  | cons c t ih =>
    rw [List.cons_append, List.length_cons] at h ⊢
    rcases closeLength_cons_cases depth c with ⟨-, hstop⟩ | ⟨next, hstep⟩
    · rw [hstop] at h
      omega
    · rw [hstep] at h ⊢
      obtain ⟨depth', hdepth⟩ := ih (Nat.lt_of_succ_lt_succ h)
      exact ⟨depth', by rw [hdepth, Nat.add_right_comm]⟩

/-- The scan from a brace that the scan of an outer block gets to ends no later than that one. -/
theorem closeLength_inner_le (h : t.length < closeLength depth (t ++ openBrace :: u)) :
    t.length + (closeLength 0 u + 1) ≤ closeLength depth (t ++ openBrace :: u) := by
  obtain ⟨depth', hdepth⟩ := exists_closeLength_append h
  have hmono : closeLength 0 u ≤ closeLength (depth' + 1) u := closeLength_mono u (Nat.zero_le _)
  calc t.length + (closeLength 0 u + 1)
      ≤ t.length + (closeLength (depth' + 1) u + 1) := by omega
    _ = t.length + closeLength depth' (openBrace :: u) := by rw [closeLength_openBrace]
    _ = closeLength depth (t ++ openBrace :: u) := hdepth.symm

/-- A scan stops behind a closing brace, or at the end of the text. -/
theorem closeLength_ends (depth : Nat) (u : Text) :
    (∃ body after, u = body ++ closeBrace :: after ∧ closeLength depth u = body.length + 1) ∨
      closeLength depth u = u.length := by
  induction u generalizing depth with
  | nil => exact .inr rfl
  | cons c u ih =>
    rcases closeLength_cons_cases depth c with ⟨rfl, hstop⟩ | ⟨next, hstep⟩
    · exact .inl ⟨[], u, rfl, hstop u⟩
    · rw [hstep]
      refine (ih next).imp ?_ fun hall => by rw [hall, List.length_cons]
      rintro ⟨body, after, rfl, hlength⟩
      exact ⟨c :: body, after, rfl, by rw [hlength, List.length_cons]⟩

/-! ## Blocks -/

theorem Opens.lt_length (h : Opens t start first) : first < t.length :=
  (List.getElem?_eq_some_iff.1 h.brace).1

/-- The text from the brace of a block on. -/
theorem Opens.drop_eq (h : Opens t start first) :
    t.drop first = openBrace :: t.drop (first + 1) := by
  obtain ⟨hlt, hget⟩ := List.getElem?_eq_some_iff.1 h.brace
  rw [List.drop_eq_getElem_cons hlt, hget]

/-- The end of a block is told by its brace, wherever the search for it began. -/
theorem Opens.blockEnd_eq (h : Opens t start first) :
    blockEnd t start = first + (closeLength 0 (t.drop (first + 1)) + 1) := by
  have hdrop : t.drop start = t.part start first ++ openBrace :: t.drop (first + 1) := by
    rw [← h.drop_eq, part_append_drop h.le]
  rw [blockEnd, hdrop, blockLength_append_openBrace h.alone, length_part h.lt_length.le,
    ← Nat.add_assoc, Nat.add_sub_cancel' h.le]

theorem Opens.lt_blockEnd (h : Opens t start first) : first < blockEnd t start := by
  rw [h.blockEnd_eq]
  omega

/-- **A block that opens inside another one ends no later.** -/
theorem blockEnd_le (h : Opens t p first) (h' : Opens t q first')
    (hinside : first' ∈ Set.Ico first (blockEnd t p)) : blockEnd t q ≤ blockEnd t p := by
  obtain ⟨hle, hlt⟩ := hinside
  rcases hle.eq_or_lt with rfl | hfirst
  · rw [h.blockEnd_eq, h'.blockEnd_eq]
  · -- the scan of the outer block gets to the brace of the inner one
    have hdrop : t.part (first + 1) first' ++ openBrace :: t.drop (first' + 1) =
        t.drop (first + 1) := by
      rw [← h'.drop_eq, part_append_drop hfirst]
    have hlength : (t.part (first + 1) first').length = first' - (first + 1) :=
      length_part h'.lt_length.le
    rw [h.blockEnd_eq] at hlt
    have hinner : (t.part (first + 1) first').length + (closeLength 0 (t.drop (first' + 1)) + 1) ≤
        closeLength 0 (t.drop (first + 1)) := by
      rw [← hdrop]
      refine closeLength_inner_le ?_
      rw [hdrop]
      omega
    rw [h.blockEnd_eq, h'.blockEnd_eq]
    omega

/-- Two sets are the same, have nothing in common, or one of them lies inside the other. -/
def Laminar (a b : Set Nat) : Prop :=
  a = b ∨ a ∩ b = ∅ ∨ a ⊆ b ∨ b ⊆ a

theorem Laminar.symm {a b : Set Nat} (h : Laminar a b) : Laminar b a := by
  rcases h with heq | hapart | hinside | hinside
  · exact .inl heq.symm
  · exact .inr (.inl ((Set.inter_comm b a).trans hapart))
  · exact .inr (.inr (.inr hinside))
  · exact .inr (.inr (.inl hinside))

/-- **Any two blocks are the same, apart, or one inside the other.** -/
theorem laminar_blocks (h : Opens t p first) (h' : Opens t q first') :
    Laminar (Set.Ico first (blockEnd t p)) (Set.Ico first' (blockEnd t q)) := by
  wlog hle : first ≤ first' generalizing p q first first'
  · exact (this h' h (Nat.le_of_not_le hle)).symm
  rcases hle.eq_or_lt with rfl | -
  · exact .inl (by rw [h.blockEnd_eq, h'.blockEnd_eq])
  · rcases Nat.lt_or_ge first' (blockEnd t p) with hlt | hge
    · exact .inr (.inr (.inr (Set.Ico_subset_Ico hle (blockEnd_le h h' ⟨hle, hlt⟩))))
    · refine .inr (.inl (Set.eq_empty_of_forall_notMem fun i hi => ?_))
      exact absurd (hi.1.2.trans_le hge) (Nat.not_lt.2 hi.2.1)

/-! ## The cases of a block -/

/-- The cases between two offsets of a text. -/
def casesIn (t : Text) (start stop : Nat) : Nat :=
  (t.part start stop).countWord (.ofString "case")

theorem spelled_case : Spelled (.ofString "case") := by
  decide

theorem Opens.borderAt (h : Opens t start first) : BorderAt t first := by
  right
  rw [h.drop_eq]
  rintro c ⟨⟩
  decide

theorem Opens.borderAt_blockEnd (h : Opens t start first) : BorderAt t (blockEnd t start) := by
  rw [h.blockEnd_eq, Nat.add_comm _ 1, ← Nat.add_assoc]
  rcases closeLength_ends 0 (t.drop (first + 1)) with ⟨body, after, hrest, hlength⟩ | hlength
  · left
    have htake : t.take (first + 1 + closeLength 0 (t.drop (first + 1))) =
        t.take (first + 1) ++ (body ++ [closeBrace]) := by
      rw [List.take_add, hlength, hrest, List.take_length_add_append]
      rfl
    rw [htake, ← List.append_assoc, List.getLast?_concat]
    rintro c ⟨⟩
    decide
  · right
    rw [← List.drop_drop, hlength, List.drop_length]
    nofun

/-- A block that opens inside another one has no more cases. -/
theorem casesIn_le (h : Opens t p first) (h' : Opens t q first')
    (hinside : first' ∈ Set.Ico first (blockEnd t p)) :
    casesIn t first' (blockEnd t q) ≤ casesIn t first (blockEnd t p) :=
  countWord_part_le spelled_case hinside.1 h'.lt_blockEnd.le (blockEnd_le h h' hinside)
    h'.borderAt h'.borderAt_blockEnd

/-! ## The switches of a text -/

/-- An entry for a switch, with the offset behind its keyword. -/
structure SwitchEntry (t : Text) (n : ControlFlowNode) (p : Nat) : Prop where
  mem : n ∈ controlFlow t
  kind : n.kind = .switch
  behind : BehindFirstWord (.ofString "switch") t n.span.first p

/-- The offset behind the first word of a line is one. -/
theorem BehindFirstWord.unique (h : BehindFirstWord word t number p)
    (h' : BehindFirstWord word t number q) : p = q := by
  obtain ⟨head, line, ahead, before, after, hline, hword, rfl⟩ := h
  obtain ⟨head', line', ahead', before', after', hline', hword', rfl⟩ := h'
  obtain ⟨rfl, rfl⟩ := hline.unique hline'
  have hhead : head = head' := by
    have heq := hline.eq.symm.trans hline'.eq
    rw [List.append_left_inj, List.append_left_inj] at heq
    exact heq
  have hle := hword.first before' after' hword'.toIsWord
  have hge := hword'.first before after hword.toIsWord
  rw [hhead, List.length_append, List.length_append, List.length_append, List.length_append]
  omega

/-- Where the first word of a line ends, told by what follows it on its line and ahead of that. -/
theorem behindFirstWord_of_linesAhead {line ahead after : Text} {i : Nat}
    (hline : t.linesAhead[i]? = some (line, ahead)) (hword : line.afterWord? [word] = some after)
    (hlength : p + (after.length + ahead.length) = t.length) :
    BehindFirstWord word t (i + 1) p := by
  obtain ⟨head, hplace⟩ := getElem?_linesAhead_iff.1 hline
  obtain ⟨before, hfirst⟩ := afterWord?_eq_some_iff.1 hword
  refine ⟨head, line, ahead, before, after, hplace, hfirst, ?_⟩
  rw [hplace.eq, hfirst.eq] at hlength
  simp only [List.length_append] at hlength ⊢
  omega

/-- No word goes on behind a whole word. -/
theorem BehindFirstWord.borderAt (h : BehindFirstWord word t number p) :
    BorderAt t p := by
  obtain ⟨head, line, ahead, before, after, hline, hword, rfl⟩ := h
  right
  rw [eq_append_of_isWord hline hword.toIsWord, List.drop_left]
  intro c hc
  cases after with
  | nil =>
    rw [hline.ends c hc]
    decide
  | cons d ds => exact hword.alone.right c hc

theorem SwitchEntry.switchAt (h : SwitchEntry t n p) : SwitchAt t n p (blockEnd t p) := by
  obtain ⟨number, head, line, ahead, hline, hmem⟩ := mem_controlFlow_iff.1 h.mem
  rcases mem_lineNodes_iff.1 hmem with hif | hloop | hswitch
  · cases (of_ifNode? hif).1.symm.trans h.kind
  · cases (of_loopNode? hloop).1.symm.trans h.kind
  · obtain ⟨p', hat⟩ := switchAt_of_switchNode? hline hswitch
    rw [h.behind.unique hat.behind]
    exact hat

theorem SwitchEntry.branches_eq (h : SwitchEntry t n p) :
    n.branches = casesIn t p (blockEnd t p) := by
  rw [h.switchAt.branches, casesIn, countWord_eq_ncard]

/-- The branches of a switch are the cases before its brace and those of its block. -/
theorem SwitchEntry.branches_eq_add (h : SwitchEntry t n p) (hopens : Opens t p first) :
    n.branches = casesIn t p first + casesIn t first (blockEnd t p) := by
  rw [h.branches_eq]
  exact countWord_part spelled_case hopens.le hopens.lt_blockEnd.le hopens.borderAt

/-- A switch whose block ends no later than that of another one ends on no later line. -/
theorem SwitchEntry.last_le (h : SwitchEntry t n p) (h' : SwitchEntry t m q)
    (hle : blockEnd t q ≤ blockEnd t p) : m.span.last ≤ n.span.last := by
  rw [h.switchAt.last, h'.switchAt.last]
  exact lineAt_mono hle t

/-- A switch whose keyword comes behind that of another one, and whose block ends no later, has no
    more branches. -/
theorem SwitchEntry.branches_le (h : SwitchEntry t n p) (h' : SwitchEntry t m q)
    (hopens : Opens t q first') (hkeyword : p ≤ q) (hle : blockEnd t q ≤ blockEnd t p) :
    m.branches ≤ n.branches := by
  rw [h.branches_eq, h'.branches_eq]
  exact countWord_part_le spelled_case hkeyword (hopens.le.trans hopens.lt_blockEnd.le) hle
    h'.behind.borderAt hopens.borderAt_blockEnd

/-- **Blocks are laminar.**  The block that a search finds reaches to the brace that balances its
    first one, or to the end of the text.  The blocks of two searches are the same, apart, or one
    inside the other; if one opens inside the other, it ends no later and has no more cases.  So it
    is for the switches of a text, whose branches are the cases of their blocks and those before
    them: the entry of the inner one ends on no later line, and if its keyword comes later too, it
    has no more branches. -/
theorem blocks_laminar (h : Opens t p first) (h' : Opens t q first') :
    WindowEnd t p (blockEnd t p) ∧
    Laminar (Set.Ico first (blockEnd t p)) (Set.Ico first' (blockEnd t q)) ∧
    (first' ∈ Set.Ico first (blockEnd t p) →
      blockEnd t q ≤ blockEnd t p ∧
      casesIn t first' (blockEnd t q) ≤ casesIn t first (blockEnd t p)) ∧
    ∀ n m, SwitchEntry t n p → SwitchEntry t m q →
      n.branches = casesIn t p first + casesIn t first (blockEnd t p) ∧
      (first' ∈ Set.Ico first (blockEnd t p) →
        m.span.last ≤ n.span.last ∧ (p ≤ q → m.branches ≤ n.branches)) := by
  refine ⟨windowEnd_blockEnd (h.le.trans h.lt_length.le), laminar_blocks h h', ?_, ?_⟩
  · intro hinside
    exact ⟨blockEnd_le h h' hinside, casesIn_le h h' hinside⟩
  · intro n m hn hm
    refine ⟨hn.branches_eq_add h, fun hinside => ?_⟩
    have hle := blockEnd_le h h' hinside
    exact ⟨hn.last_le hm hle, fun hkeyword => hn.branches_le hm h' hkeyword hle⟩

/-- A switch of four lines, with another one on the second of them. -/
def nestedSwitches : Text :=
  Text.ofString "switch(a)\x7b\ncase 1:switch(b)\x7bcase 2:\x7d\ncase 3:\n\x7d"

/-- The entry of the outer switch. -/
def outerSwitch : ControlFlowNode :=
  { kind := .switch, branches := 3, span := ⟨1, 4, by decide⟩ }

/-- The entry of the inner switch. -/
def innerSwitch : ControlFlowNode :=
  { kind := .switch, branches := 1, span := .single 2 }

theorem controlFlow_nestedSwitches : controlFlow nestedSwitches = [outerSwitch, innerSwitch] := by
  decide +kernel

theorem switchEntry_outerSwitch : SwitchEntry nestedSwitches outerSwitch 6 where
  mem := by
    rw [controlFlow_nestedSwitches]
    exact List.mem_cons_self
  kind := rfl
  behind := by
    obtain ⟨hline, hword, hlength⟩ :
        nestedSwitches.linesAhead[0]? = some (nestedSwitches.take 10, nestedSwitches.drop 10) ∧
          Text.afterWord? [.ofString "switch"] (nestedSwitches.take 10) =
            some (nestedSwitches.part 6 10) ∧
          6 + ((nestedSwitches.part 6 10).length + (nestedSwitches.drop 10).length) =
            nestedSwitches.length := by decide +kernel
    exact behindFirstWord_of_linesAhead hline hword hlength

theorem switchEntry_innerSwitch : SwitchEntry nestedSwitches innerSwitch 24 where
  mem := by
    rw [controlFlow_nestedSwitches]
    exact List.mem_cons_of_mem _ List.mem_cons_self
  kind := rfl
  behind := by
    obtain ⟨hline, hword, hlength⟩ :
        nestedSwitches.linesAhead[1]? = some (nestedSwitches.part 11 36, nestedSwitches.drop 36) ∧
          Text.afterWord? [.ofString "switch"] (nestedSwitches.part 11 36) =
            some (nestedSwitches.part 24 36) ∧
          24 + ((nestedSwitches.part 24 36).length + (nestedSwitches.drop 36).length) =
            nestedSwitches.length := by decide +kernel
    exact behindFirstWord_of_linesAhead hline hword hlength

/-- The block of the inner switch lies inside that of the outer one, with one of its three cases. -/
theorem blocks_laminar_nested :
    (Opens nestedSwitches 6 9 ∧ Opens nestedSwitches 24 27 ∧
      27 ∈ Set.Ico 9 (blockEnd nestedSwitches 6)) ∧
    Laminar (Set.Ico 9 46) (Set.Ico 27 36) ∧
    casesIn nestedSwitches 27 36 ≤ casesIn nestedSwitches 9 46 ∧
    innerSwitch.branches ≤ outerSwitch.branches := by
  have houter : Opens nestedSwitches 6 9 := by decide +kernel
  have hinner : Opens nestedSwitches 24 27 := by decide +kernel
  have houterEnd : blockEnd nestedSwitches 6 = 46 := by decide +kernel
  have hinnerEnd : blockEnd nestedSwitches 24 = 36 := by decide +kernel
  have hinside : 27 ∈ Set.Ico 9 (blockEnd nestedSwitches 6) := by
    rw [houterEnd, Set.mem_Ico]
    decide
  obtain ⟨-, hlaminar, hnested, hentries⟩ := blocks_laminar houter hinner
  obtain ⟨-, hcases⟩ := hnested hinside
  obtain ⟨-, hwithin⟩ :=
    hentries outerSwitch innerSwitch switchEntry_outerSwitch switchEntry_innerSwitch
  obtain ⟨-, hbranches⟩ := hwithin hinside
  rw [houterEnd, hinnerEnd] at hlaminar hcases
  exact ⟨⟨houter, hinner, hinside⟩, hlaminar, hcases, hbranches (by decide)⟩

end CodeSurvey.Flow
