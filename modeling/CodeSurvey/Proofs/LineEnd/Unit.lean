/-
  Line endings do not matter.

  * `Pattern.detect_eq`: padded texts show the same patterns, for markers within lines;
  * `Practice.check_eq`: the same rules are broken;
  * `crlf_changes_nothing`: measures, accesses, branches, patterns and findings of a text with
    a carriage return before every line feed.
-/
import CodeSurvey.Pattern
import CodeSurvey.Practice
import CodeSurvey.Proofs.LineEnd.Flow
import CodeSurvey.Proofs.LineEnd.Metrics
import CodeSurvey.Proofs.Practice.OwnLine

namespace CodeSurvey

open Text (Padded Solid Unbroken atStop)

variable {P : Text → Prop} {t u : Text}

/-! ## Patterns -/

/-- The pieces of text that a definition looks for. -/
def PatternDefinition.markers (d : PatternDefinition) : List Text :=
  d.anyOf ++ d.alsoAnyOf ++ d.allOf

namespace Pattern

variable {d : PatternDefinition} {group pieces : List Text}

theorem found?_eq (h : Padded P t u) (hgroup : ∀ piece ∈ group, Unbroken piece) :
    found? t group = found? u group := by
  have hfilter : group.filter (fun piece => piece.occurs t) =
      group.filter fun piece => piece.occurs u :=
    List.filter_congr fun piece hmem => h.occurs_eq (hgroup piece hmem)
  rw [found?, found?, hfilter]

theorem markers?_eq (h : Padded P t u) (hd : ∀ piece ∈ d.markers, Unbroken piece) :
    markers? d t = markers? d u := by
  simp only [PatternDefinition.markers, List.mem_append] at hd
  have hall : (d.allOf.all fun piece => piece.occurs t) =
      d.allOf.all fun piece => piece.occurs u := by
    rw [Bool.eq_iff_iff, List.all_eq_true, List.all_eq_true]
    exact forall₂_congr fun piece hmem => by rw [h.occurs_eq (hd piece (.inr hmem))]
  rw [markers?, markers?, found?_eq h fun piece hmem => hd piece (.inl (.inl hmem)),
    found?_eq h fun piece hmem => hd piece (.inl (.inr hmem)), hall]

theorem mem_of_found? (h : found? t group = some pieces) : ∀ piece ∈ pieces, piece ∈ group := by
  simp only [found?, Option.ite_none_right_eq_some, Option.some.injEq] at h
  obtain ⟨-, rfl⟩ := h
  exact fun piece hmem => List.mem_of_mem_filter hmem

/-- What is found of a definition are markers of it. -/
theorem mem_of_markers? (h : markers? d t = some pieces) :
    ∀ piece ∈ pieces, piece ∈ d.markers := by
  simp only [markers?, Option.bind_eq_bind, Option.bind_eq_some_iff,
    Option.ite_none_right_eq_some, Option.some.injEq] at h
  obtain ⟨first, hfirst, second, hsecond, -, rfl⟩ := h
  intro piece hmem
  simp only [PatternDefinition.markers, List.mem_append] at hmem ⊢
  exact hmem.imp_left (Or.imp (mem_of_found? hfirst piece) (mem_of_found? hsecond piece))

theorem firstLine_eq (h : Padded P t u) (hpieces : ∀ piece ∈ pieces, Unbroken piece) :
    firstLine t pieces = firstLine u pieces := by
  have hlines : ∀ ls ms : List Text, List.Forall₂ (Padded atStop) ls ms →
      (ls.findIdx? fun line => pieces.any fun piece => piece.occurs line) =
        ms.findIdx? fun line => pieces.any fun piece => piece.occurs line := by
    intro ls ms hlines
    induction hlines with
    | nil => rfl
    | cons hline _ ih =>
      rw [List.findIdx?_cons, List.findIdx?_cons, ih,
        any_eq_of_forall_mem fun piece hmem => hline.occurs_eq (hpieces piece hmem)]
  rw [firstLine, firstLine, hlines _ _ h.lines]

theorem match?_eq (h : Padded P t u) (hd : ∀ piece ∈ d.markers, Unbroken piece)
    (s : CodeStructure) : match? d t s = match? d u s := by
  rw [match?, match?, markers?_eq h hd]
  split
  · cases hm : markers? d u with
    | none => rfl
    | some pieces =>
      have hunbroken := fun piece hmem => hd piece (mem_of_markers? hm piece hmem)
      rw [Option.filter_some]
      split <;> simp [firstLine_eq h hunbroken]
  · rfl

/-- **Padded texts show the same patterns.** -/
theorem detect_eq (h : Padded P t u) {definitions : List PatternDefinition}
    (hd : ∀ d ∈ definitions, ∀ piece ∈ d.markers, Unbroken piece) (s : CodeStructure) :
    detect definitions t s = detect definitions u s :=
  List.filterMap_congr fun d hmem => by rw [match?_eq h (hd d hmem) s]

/-- The markers of the usual patterns lie within lines. -/
theorem unbroken_of_mem_builtIn : ∀ d ∈ builtIn, ∀ piece ∈ d.markers, Unbroken piece := by
  decide

end Pattern

/-! ## Findings -/

namespace Practice

theorem handlesErrors_eq (h : Padded P t u) : handlesErrors t = handlesErrors u := by
  rw [handlesErrors, handlesErrors, h.hasWord_eq (by decide),
    h.hasWord_eq (by decide)]

theorem hasComment_eq (h : Padded P t u) : hasComment t = hasComment u := by
  rw [hasComment, hasComment, h.occurs_eq (by decide), h.occurs_eq (by decide)]

theorem isCommentLine_eq (h : Padded atStop t u) : isCommentLine t = isCommentLine u := by
  rw [isCommentLine, isCommentLine, h.strip_eq]

theorem isCommented_eq (h : Padded P t u) (f : FunctionInfo) :
    isCommented t.lines f = isCommented u.lines f := by
  have habove : (lineAbove? t.lines f).any isCommentLine =
      (lineAbove? u.lines f).any isCommentLine := by
    unfold lineAbove?
    split
    · exact any_eq_of_rel (rel_getElem? h.lines _) fun _ _ => isCommentLine_eq
    · rfl
  rw [isCommented, isCommented, habove, functionText, functionText, hasComment_eq (h.slice _ _)]

/-- **Padded texts break the same rules.** -/
theorem check_eq (h : Padded P t u) (config : AnalysisConfig) (s : CodeStructure) :
    check config t s = check config u s :=
  check_congr config (fun f _ => handlesErrors_eq (h.slice f.span.first f.span.last))
    fun f _ => isCommented_eq h f

end Practice

/-! ## A source unit -/

/-- **Line endings do not matter.**  A carriage return before every line feed of a text, whether or
not the text holds carriage returns already, changes neither the measures, nor the accesses to
variables whose names are pieces of text within lines, nor the branches and loops, nor the patterns
found by markers within lines, nor the findings. -/
theorem crlf_changes_nothing (t : Text) (s : CodeStructure) (config : AnalysisConfig)
    (definitions : List PatternDefinition)
    (hmarkers : ∀ d ∈ definitions, ∀ piece ∈ d.markers, Unbroken piece) :
    ComplexityMetrics.ofText t.crlf = ComplexityMetrics.ofText t ∧
    (∀ (i : Nat) v, s.vars[i]? = some v → Solid v.name →
      (Flow.dataFlow t.crlf s)[i]? = (Flow.dataFlow t s)[i]?) ∧
    Flow.controlFlow t.crlf = Flow.controlFlow t ∧
    Pattern.detect (Pattern.definitionsOr definitions) t.crlf s =
      Pattern.detect (Pattern.definitionsOr definitions) t s ∧
    Practice.check config t.crlf s = Practice.check config t s := by
  have h := Text.padded_crlf t
  refine ⟨(Metrics.complexity_eq h).symm, ?_, (Flow.controlFlow_eq h).symm, ?_,
    (Practice.check_eq h config s).symm⟩
  · intro i v hv hname
    simp only [Flow.dataFlow, List.getElem?_map, hv, Option.map_some,
      Flow.accesses_eq hname h.lines]
  · refine (Pattern.detect_eq h ?_ s).symm
    unfold Pattern.definitionsOr
    split
    · exact Pattern.unbroken_of_mem_builtIn
    · exact hmarkers

/-- A counter that is set, read and stepped. -/
def counterText : Text := .ofString "let n = 0\nif (n) \x7b\n  n++\n\x7d"

/-- The variable of it. -/
def counterStructure : CodeStructure where
  vars := [{ name := .ofString "n", kind := .let_, scope := .global }]

/-- A pattern of stepped counters. -/
def stepDefinition : PatternDefinition where
  id := .ofString "step"
  name := .ofString "Step"
  category := .idiom
  confidence := .zero
  anyOf := [.ofString "++", .ofString "--"]

/-- The accesses, the branch and the pattern are found with carriage returns too. -/
theorem crlf_changes_nothing_counter :
    (∀ d ∈ [stepDefinition], ∀ piece ∈ d.markers, Unbroken piece) ∧
    counterText.crlf.length = counterText.length + 3 ∧
    ((Flow.dataFlow counterText.crlf counterStructure)[0]?.map DataFlowNode.operations) =
      some [⟨.write, 1⟩, ⟨.read, 2⟩, ⟨.modify, 3⟩] ∧
    Flow.controlFlow counterText.crlf =
      [{ kind := .if_, condition := Text.ofString "n", span := .single 2 }] ∧
    (Pattern.detect (Pattern.definitionsOr [stepDefinition]) counterText.crlf
      counterStructure).map CodePattern.span = [.single 3] := by
  have hmarkers : ∀ d ∈ [stepDefinition], ∀ piece ∈ d.markers, Unbroken piece := by decide
  obtain ⟨-, haccesses, hbranches, hpatterns, -⟩ :=
    crlf_changes_nothing counterText counterStructure {} [stepDefinition] hmarkers
  rw [haccesses 0 _ rfl (by decide), hbranches, hpatterns]
  exact ⟨hmarkers, by decide +kernel, by decide +kernel, by decide +kernel, by decide +kernel⟩

end CodeSurvey
