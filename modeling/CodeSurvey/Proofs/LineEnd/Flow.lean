/-
  Accesses and branches of padded texts.

  * `Flow.accessKind?_eq`: a line makes the same access to a variable with carriage returns at its
    end, if the name of the variable is a piece of text within lines; `Flow.accesses_eq`: all
    lines;
  * `Flow.condition?_eq`: the condition behind a keyword; `Flow.padded_blockWindow`: the first
    block of padded texts; `Flow.controlFlow_eq`: all branches and loops.
-/
import CodeSurvey.Flow.Access
import CodeSurvey.Flow.Branch
import CodeSurvey.Proofs.LineEnd.Line

namespace CodeSurvey.Flow

open Text (AtBreak AtLineEnd Cut LinePadded Padded Solid Unbroken atStop everywhere isBreak)

variable {P : Text → Prop} {t u name : Text} {c : CodePoint}

/-! ## Names and operators -/

theorem isNamePart_of_isBreak (c : CodePoint) (h : isBreak c = true) : isNamePart c = false :=
  Text.eq_false_of_isBreak (by decide) (by decide) c h

theorem startsWithName_of_atBreak (hn : Solid name) (h : AtBreak t) :
    startsWithName name t = false := by
  simp [startsWithName, hn.after?_of_atBreak h]

theorem startsWithName_eq (h : Padded P t u) (hn : Unbroken name) :
    startsWithName name t = startsWithName name u := by
  refine any_eq_of_rel (h.after? hn) fun _ _ hrest => ?_
  rw [hrest.any_head?_eq isNamePart_of_isBreak]

theorem startsWithAny_eq (h : Padded P t u) {pieces : List Text}
    (hpieces : ∀ piece ∈ pieces, Unbroken piece) :
    startsWithAny pieces t = startsWithAny pieces u :=
  any_eq_of_forall_mem fun piece hmem => h.isPrefixOf_eq (hpieces piece hmem)

theorem assigned?_of_atBreak (hn : Solid name) (b : Option CodePoint) (h : AtBreak t) :
    assigned? name ⟨b, t⟩ = none := by
  simp [assigned?, hn.after?_of_atBreak h]

theorem assigned?_rel (h : Padded P t u) (hn : Unbroken name) (b : Option CodePoint) :
    Option.Rel (Padded P) (assigned? name ⟨b, t⟩) (assigned? name ⟨b, u⟩) := by
  rw [assigned?, assigned?]
  split
  · exact .none
  · exact h.after? hn

theorem startsAssignment_eq (h : Padded P t u) : startsAssignment t = startsAssignment u := by
  have hcompound : ∀ c : CodePoint, isBreak c = true → (c == '=' || c == '>') = false :=
    Text.eq_false_of_isBreak (by decide) (by decide)
  cases h with
  | nil => rfl
  | cons c h => rw [startsAssignment, startsAssignment, h.any_head?_eq hcompound]
  | pad lineEnd _ _ =>
    have hcr : (CodePoint.carriageReturn == '=') = false := by decide
    rw [startsAssignment, hcr, Bool.false_and]
    cases t with
    | nil => rfl
    | cons c t =>
      rw [Text.atLineEnd_cons.1 lineEnd, startsAssignment]
      exact Bool.and_eq_false_imp.2 fun h => absurd h (by decide)

/-- A test of the texts left after some white space, if it fails at line ends. -/
theorem any_afterBlanks_eq {p : Text → Bool} (hbreak : ∀ t, AtBreak t → p t = false)
    (hp : ∀ t u, Padded P t u → p t = p u) (h : Padded P t u) :
    t.afterBlanks.any p = u.afterBlanks.any p := by
  induction h with
  | nil => rfl
  | cons c h ih =>
    rw [Text.afterBlanks, Text.afterBlanks, List.any_cons, List.any_cons, hp _ _ (.cons c h)]
    split
    · rw [ih]
    · rfl
  | pad _ _ _ ih =>
    rw [Text.afterBlanks, if_pos Text.isBlank_carriageReturn, List.any_cons,
      hbreak _ (Text.atBreak_carriageReturn _), Bool.false_or, ih]

/-! ## Accesses -/

section Accesses

theorem modifiedBehind_of_atBreak (b : Option CodePoint) (h : AtBreak t) :
    modifiedBehind name ⟨b, t⟩ = false := by
  have hops : ∀ op ∈ stepOperators, Solid op := by decide
  rw [modifiedBehind, List.any_eq_false]
  intro op hmem
  simp [(hops op hmem).after?_of_atBreak h]

variable (hn : Solid name)

include hn

theorem modifiedAhead_of_atBreak (b : Option CodePoint) (h : AtBreak t) :
    modifiedAhead name ⟨b, t⟩ = false := by
  simp [modifiedAhead, assigned?_of_atBreak hn b h]

theorem modifiedAhead_eq (b : Option CodePoint) (h : Padded P t u) :
    modifiedAhead name ⟨b, t⟩ = modifiedAhead name ⟨b, u⟩ :=
  any_eq_of_rel (assigned?_rel h hn.unbroken b) fun _ _ hrest =>
    startsWithAny_eq hrest.skipBlank (by decide)

theorem modifiedBehind_eq (b : Option CodePoint) (h : Padded P t u) :
    modifiedBehind name ⟨b, t⟩ = modifiedBehind name ⟨b, u⟩ := by
  have hops : ∀ op ∈ stepOperators, Unbroken op := by decide
  refine any_eq_of_forall_mem fun op hmem => ?_
  refine any_eq_of_rel (h.after? (hops op hmem)) fun _ _ hrest => ?_
  exact any_afterBlanks_eq (fun _ => startsWithName_of_atBreak hn)
    (fun _ _ htu => startsWithName_eq htu hn.unbroken) hrest

theorem isModified_eq (h : Padded P t u) : isModified name t = isModified name u := by
  refine h.any_cuts (fun b t ht => ?_) fun b t u htu => ?_
  · simp [modifiedAhead_of_atBreak hn b ht, modifiedBehind_of_atBreak b ht]
  · rw [modifiedAhead_eq hn b htu, modifiedBehind_eq hn b htu]

theorem isWritten_eq (h : Padded P t u) : isWritten name t = isWritten name u := by
  refine h.any_cuts (fun b t ht => ?_) fun b t u htu => ?_
  · simp [assigned?_of_atBreak hn b ht]
  · exact any_eq_of_rel (assigned?_rel htu hn.unbroken b) fun _ _ hrest =>
      startsAssignment_eq hrest.skipBlank

theorem isRead_eq (h : Padded P t u) : isRead name t = isRead name u := by
  refine h.any_cuts (fun b t ht => ?_) fun b t u htu => ?_
  · simp [startsWithName_of_atBreak hn ht]
  · rw [startsWithName_eq htu hn.unbroken]

/-- **A line makes the same access with carriage returns at its end.** -/
theorem accessKind?_eq (h : Padded P t u) : accessKind? name t = accessKind? name u := by
  rw [accessKind?, accessKind?, isModified_eq hn h, isWritten_eq hn h, isRead_eq hn h]

theorem accesses_eq {ls ms : List Text} (h : List.Forall₂ (Padded P) ls ms) (number : Nat) :
    accesses name number ls = accesses name number ms := by
  induction h generalizing number with
  | nil => rfl
  | cons hline _ ih => rw [accesses, accesses, accessKind?_eq hn hline, ih]

end Accesses

/-! ## Conditions -/

theorem inParentheses?_eq (h : Padded atStop t u) (depth : Nat) :
    inParentheses? depth t = inParentheses? depth u := by
  induction h generalizing depth with
  | nil => rfl
  | cons c _ ih => cases depth <;> simp only [inParentheses?, ih]
  | @pad t u _ here _ ih =>
    obtain rfl : t = [] := here
    have hnone : inParentheses? depth u = none := (ih depth).symm
    have hopen : CodePoint.carriageReturn ≠ '(' := by decide
    have hclose : CodePoint.carriageReturn ≠ ')' := by decide
    simp [inParentheses?, hopen, hclose, hnone]

/-- The condition behind a keyword is the same with carriage returns at the end of the line. -/
theorem condition?_eq (h : Padded atStop t u) : condition? t = condition? u := by
  have hskip := h.skipBlank
  unfold condition?
  generalize t.skipBlank = a at hskip ⊢
  generalize u.skipBlank = b at hskip ⊢
  cases hskip with
  | nil => rfl
  | cons c h => simp only [inParentheses?_eq h]
  | pad _ here _ =>
    obtain rfl : a = [] := here
    have hopen : CodePoint.carriageReturn ≠ '(' := by decide
    simp [hopen]

/-! ## Blocks -/

theorem closeLength_carriageReturn (depth : Nat) (t : Text) :
    closeLength depth (.carriageReturn :: t) = closeLength depth t + 1 := by
  have hopen : CodePoint.carriageReturn ≠ Metrics.openBrace := by decide
  have hclose : CodePoint.carriageReturn ≠ Metrics.closeBrace := by decide
  simp [closeLength, hopen, hclose]

theorem blockLength_carriageReturn (t : Text) :
    blockLength (.carriageReturn :: t) = blockLength t + 1 := by
  have hopen : CodePoint.carriageReturn ≠ Metrics.openBrace := by decide
  simp [blockLength, hopen]

theorem atLineEnd_take (h : AtLineEnd t) (n : Nat) : AtLineEnd (t.take n) := by
  cases n with
  | zero => exact Text.atLineEnd_nil
  | succ n =>
    cases t with
    | nil => exact Text.atLineEnd_nil
    | cons c t => exact h

theorem padded_take_closeLength (h : Padded P t u) (depth : Nat) :
    Padded everywhere (t.take (closeLength depth t)) (u.take (closeLength depth u)) := by
  induction h generalizing depth with
  | nil => exact .nil
  | cons c _ ih =>
    rw [closeLength.eq_def, closeLength.eq_def]
    simp only
    split
    · exact .cons c (ih _)
    · split
      · cases depth with
        | zero => exact .refl _
        | succ depth => exact .cons c (ih _)
      · exact .cons c (ih _)
  | pad lineEnd _ _ ih =>
    rw [closeLength_carriageReturn, List.take_succ_cons]
    exact .pad (atLineEnd_take lineEnd _) trivial (ih depth)

/-- **The first blocks of padded texts are padded.** -/
theorem padded_blockWindow (h : Padded P t u) :
    Padded everywhere (blockWindow t) (blockWindow u) := by
  unfold blockWindow
  induction h with
  | nil => exact .nil
  | cons c h ih =>
    rw [blockLength, blockLength]
    split
    · exact .cons c (padded_take_closeLength h 0)
    · exact .cons c ih
  | pad lineEnd _ _ ih =>
    rw [blockLength_carriageReturn, List.take_succ_cons]
    exact .pad (atLineEnd_take lineEnd _) trivial ih

/-! ## Branches and loops -/

section Branches

variable {x y : Text × Text}

theorem ifNode?_eq (h : Padded atStop t u) (number : Nat) :
    ifNode? number t = ifNode? number u := by
  have hif : ∀ word ∈ [Text.ofString "if"], Solid word := by decide
  have helse : t.hasWord (.ofString "else") = u.hasWord (.ofString "else") :=
    h.hasWord_eq (by decide)
  refine map_eq_of_rel (h.afterWord? hif) fun _ _ hrest => ?_
  rw [condition?_eq hrest, helse]

theorem loopNode?_eq (h : Padded P t u) (number : Nat) :
    loopNode? number t = loopNode? number u := by
  have hloop : ∀ word ∈ [Text.ofString "for", Text.ofString "while"], Solid word := by
    decide
  exact map_eq_of_rel (h.afterWord? hloop) fun _ _ _ => rfl

theorem switchNode?_eq (h : LinePadded x y) (number : Nat) :
    switchNode? number x.1 x.2 = switchNode? number y.1 y.2 := by
  have hswitch : ∀ word ∈ [Text.ofString "switch"], Solid word := by decide
  have hcase : Solid (.ofString "case") := by decide
  refine map_eq_of_rel (h.line.afterWord? hswitch) fun _ _ hrest => ?_
  have hwindow := padded_blockWindow (hrest.append h.lineEnd h.ahead)
  simp only [switchNode, hwindow.countWord_eq hcase, hwindow.newlines_eq]

theorem nodesFrom_eq {ls ms : List (Text × Text)} (h : List.Forall₂ LinePadded ls ms)
    (number : Nat) : nodesFrom number ls = nodesFrom number ms := by
  induction h generalizing number with
  | nil => rfl
  | cons hline _ ih =>
    rw [nodesFrom, nodesFrom, lineNodes, lineNodes, ifNode?_eq hline.line, loopNode?_eq hline.line,
      switchNode?_eq hline, ih]

/-- **Padded texts have the same branches and loops.** -/
theorem controlFlow_eq (h : Padded P t u) : controlFlow t = controlFlow u :=
  nodesFrom_eq h.linesAhead 1

end Branches

end CodeSurvey.Flow
