/-
  The measures of the slices of a text.

  No token goes past the end of a line, so what is read off a text is read off its lines.

  * `Text.LineWise`: a reading that takes texts with a line feed between them one by one; such are
    `Metrics.lineWise_operators`, `Metrics.lineWise_operands` and `Text.lineWise_lines`;
  * `Metrics.Tiles`: functions whose spans follow each other without gaps;
    `Metrics.flatten_blocks`: the lines that they cover;
  * `Metrics.flatten_slices`: such a reading of the slices, one after the other, is that of the
    text;
  * `Metrics.SumUp`, `Metrics.slices_sum_up`: token and line counts of the slices and of the text.
-/
import CodeSurvey.Metrics.Complexity
import CodeSurvey.Proofs.Distinct
import CodeSurvey.Proofs.Metrics.LineCount

namespace CodeSurvey

/-! ## Readings line by line -/

namespace Text

variable {β : Type} {f : Text → List β}

/-- What is read off two texts with a line feed between them is what is read off each of them. -/
def LineWise (f : Text → List β) : Prop :=
  ∀ t u, f (t ++ .newline :: u) = f t ++ f u

theorem lineWise_lines : LineWise lines :=
  lines_append_newline

theorem LineWise.filter (hf : LineWise f) (p : β → Bool) : LineWise fun t => (f t).filter p := by
  intro t u
  simp only [hf t u, List.filter_append]

/-- A reading of the text of some groups of lines is that of each group. -/
theorem LineWise.flatten_unlines (hf : LineWise f) {blocks : List (List Text)} (hne : blocks ≠ [])
    (hblocks : ∀ block ∈ blocks, block ≠ []) :
    (blocks.map fun block => f (unlines block)).flatten = f (unlines blocks.flatten) := by
  induction blocks with
  | nil => exact absurd rfl hne
  | cons block blocks ih =>
    obtain ⟨hblock, hrest⟩ := List.forall_mem_cons.1 hblocks
    by_cases hnil : blocks = []
    · simp [hnil]
    · have hflatten : blocks.flatten ≠ [] := by
        obtain ⟨next, more, rfl⟩ := List.exists_cons_of_ne_nil hnil
        exact List.append_ne_nil_of_left_ne_nil (hrest next List.mem_cons_self) _
      rw [List.map_cons, List.flatten_cons, ih hnil hrest, List.flatten_cons,
        unlines_append hblock hflatten, hf]

end Text

namespace Metrics

open Text (LineWise)

variable {t u : Text} {fs : List FunctionInfo} {ls : List Text} {first stop : Nat}

theorem lineWise_operators : LineWise operators := by
  intro t u
  have hnewline : CodePoint.newline ∉ operatorMarks := by decide
  rw [operators, List.filter_append, List.filter_cons_of_neg (by simpa using hnewline)]
  rfl

theorem takeWhile_continuesName (t u : Text) :
    (t ++ .newline :: u).takeWhile continuesName = t.takeWhile continuesName ∧
      (t ++ .newline :: u).dropWhile continuesName = t.dropWhile continuesName ++ .newline :: u := by
  induction t with
  | nil =>
    have hnewline : continuesName .newline = false := by decide
    simp [hnewline]
  | cons c t ih =>
    by_cases hc : continuesName c = true
    · simp [hc, ih]
    · simp [hc]

/-- **No identifier goes past a line feed.** -/
theorem lineWise_operands : LineWise operands := by
  intro t u
  induction hn : t.length using Nat.strong_induction_on generalizing t with
  | _ n ih =>
    subst hn
    cases t with
    | nil =>
      have hskip : operands (.newline :: u) = operands u := by
        rw [operands, if_neg (by decide)]
      rw [List.nil_append, hskip, operands, List.nil_append]
    | cons c t =>
      obtain ⟨htake, hdrop⟩ := takeWhile_continuesName t u
      have hshorter : (t.dropWhile continuesName).length < (c :: t).length :=
        Nat.lt_succ_of_le (List.dropWhile_suffix continuesName).length_le
      rw [List.cons_append, operands, operands, htake, hdrop, ih _ hshorter _ rfl,
        ih t.length (Nat.lt_succ_self _) t rfl]
      split
      · rw [List.cons_append]
      · rfl

/-! ## Slices -/

/-- The spans of the functions follow each other without gaps, from line `first` to the one before
    `stop`. -/
def Tiles : Nat → List FunctionInfo → Nat → Prop
  | first, [], stop => first = stop
  | first, f :: fs, stop => f.span.first = first ∧ Tiles (f.span.last + 1) fs stop

/-- The lines that a function covers. -/
def block (ls : List Text) (f : FunctionInfo) : List Text :=
  (ls.take f.span.last).drop (f.span.first - 1)

theorem Tiles.le (h : Tiles first fs stop) : first ≤ stop := by
  induction fs generalizing first with
  | nil => exact Nat.le_of_eq h
  | cons f fs ih =>
    obtain ⟨rfl, hfs⟩ := h
    have hle := ih hfs
    have hspan := f.span.ordered
    omega

/-- Lines up to a number and those behind it. -/
theorem drop_take_append {k m n : Nat} (hkm : k ≤ m) (hmn : m ≤ n) (hn : n ≤ ls.length) :
    (ls.take m).drop k ++ (ls.take n).drop m = (ls.take n).drop k := by
  have hm : k ≤ (ls.take m).length := by
    rw [List.length_take]
    omega
  rw [← List.drop_append_of_le_length hm]
  congr 1
  calc ls.take m ++ (ls.take n).drop m
    _ = (ls.take n).take m ++ (ls.take n).drop m := by rw [List.take_take, Nat.min_eq_left hmn]
    _ = ls.take n := List.take_append_drop m _

/-- **Functions that follow each other cover the lines from the first to the last of them, each one
    some.** -/
theorem flatten_blocks (h : Tiles (first + 1) fs (stop + 1)) (hstop : stop ≤ ls.length) :
    (fs.map (block ls)).flatten = (ls.take stop).drop first ∧ ∀ f ∈ fs, block ls f ≠ [] := by
  induction fs generalizing first with
  | nil =>
    obtain rfl : first = stop := Nat.succ.inj h
    refine ⟨(List.drop_eq_nil_of_le ?_).symm, nofun⟩
    exact List.length_take_le first ls
  | cons f fs ih =>
    obtain ⟨hfirst, hfs⟩ := h
    have hle := hfs.le
    have hspan := f.span.ordered
    obtain ⟨hflatten, hblocks⟩ := ih hfs
    refine ⟨?_, List.forall_mem_cons.2 ⟨?_, hblocks⟩⟩
    · rw [List.map_cons, List.flatten_cons, hflatten, block, hfirst, Nat.add_sub_cancel,
        drop_take_append (by omega) (by omega) hstop]
    · rw [block, ne_eq, List.drop_eq_nil_iff, List.length_take]
      omega

/-- **A reading line by line, of the slices of functions that cover a text, is that of the text.** -/
theorem flatten_slices {β : Type} {f : Text → List β}
    (hf : LineWise f) (h : Tiles 1 fs (t.lines.length + 1)) :
    (fs.map fun g => f (Text.slice t.lines g.span.first g.span.last)).flatten = f t := by
  obtain ⟨hflatten, hblocks⟩ := flatten_blocks h (Nat.le_refl _)
  rw [List.take_length, List.drop_zero] at hflatten
  have hne : fs.map (block t.lines) ≠ [] := by
    intro hnil
    rw [hnil] at hflatten
    exact Text.lines_ne_nil t hflatten.symm
  have hslices := hf.flatten_unlines hne (List.forall_mem_map.2 hblocks)
  rw [hflatten, Text.unlines_lines, List.map_map] at hslices
  exact hslices

/-! ## Counts -/

/-- The counts of the parts and of the whole: tokens and lines add up, and the whole has at least the
    distinct tokens of each part and at most those of all parts together. -/
structure SumUp (whole : ComplexityMetrics) (parts : List ComplexityMetrics) : Prop where
  operators : (parts.map fun m => m.halstead.operators).sum = whole.halstead.operators
  operands : (parts.map fun m => m.halstead.operands).sum = whole.halstead.operands
  total : (parts.map fun m => m.linesOfCode.total).sum = whole.linesOfCode.total
  blank : (parts.map fun m => m.linesOfCode.blank).sum = whole.linesOfCode.blank
  distinctOperators_le : ∀ m ∈ parts,
    m.halstead.distinctOperators ≤ whole.halstead.distinctOperators
  distinctOperands_le : ∀ m ∈ parts,
    m.halstead.distinctOperands ≤ whole.halstead.distinctOperands
  le_distinctOperators :
    whole.halstead.distinctOperators ≤ (parts.map fun m => m.halstead.distinctOperators).sum
  le_distinctOperands :
    whole.halstead.distinctOperands ≤ (parts.map fun m => m.halstead.distinctOperands).sum

/-- Vocabulary and length are the sums of the counts of distinct tokens and of tokens, and there is no
    larger vocabulary than length. -/
structure Sized (m : HalsteadMetrics) : Prop where
  vocabulary : m.vocabulary = m.distinctOperators + m.distinctOperands
  length : m.length = m.operators + m.operands
  le : m.vocabulary ≤ m.length

theorem sized_ofText (t : Text) : Sized (HalsteadMetrics.ofText t) where
  vocabulary := rfl
  length := rfl
  le := Nat.add_le_add (length_distinct_le (operators t)) (length_distinct_le (Metrics.operands t))

/-- The blank lines of a text. -/
def blankLines (t : Text) : List Text :=
  t.lines.filter fun line => line.strip.isEmpty

theorem lineWise_blankLines : LineWise blankLines :=
  Text.lineWise_lines.filter _

theorem total_ofText (t : Text) : (LinesOfCode.ofText t).total = t.lines.length :=
  length_lineKinds false t.lines

theorem blank_ofText (t : Text) : (LinesOfCode.ofText t).blank = (blankLines t).length := by
  rw [LinesOfCode.ofText, LinesOfCode.ofKinds, count_blank_lineKinds, List.countP_eq_length_filter]
  rfl

section

variable {β : Type} {f : Text → List β}

/-- How much is read off the slices adds up to what is read off the text. -/
theorem sum_length_slices (hf : LineWise f) (h : Tiles 1 fs (t.lines.length + 1)) :
    (fs.map fun g => (f (Text.slice t.lines g.span.first g.span.last)).length).sum =
      (f t).length := by
  rw [← flatten_slices hf h, List.length_flatten, List.map_map]
  rfl

theorem length_distinct_slice_le [DecidableEq β] (hf : LineWise f)
    (h : Tiles 1 fs (t.lines.length + 1)) {g : FunctionInfo} (hg : g ∈ fs) :
    (distinct (f (Text.slice t.lines g.span.first g.span.last))).length ≤
      (distinct (f t)).length := by
  refine length_distinct_le_of_subset ?_
  rw [← flatten_slices hf h]
  exact fun a ha => List.mem_flatten.2 ⟨_, List.mem_map_of_mem hg, ha⟩

theorem length_distinct_le_sum_slices [DecidableEq β] (hf : LineWise f)
    (h : Tiles 1 fs (t.lines.length + 1)) :
    (distinct (f t)).length ≤
      (fs.map fun g =>
        (distinct (f (Text.slice t.lines g.span.first g.span.last))).length).sum := by
  have hle := length_distinct_flatten_le
    (fs.map fun g => f (Text.slice t.lines g.span.first g.span.last))
  rw [flatten_slices hf h, List.map_map] at hle
  exact hle

end

/-- A function that covers all lines has the measures of the text. -/
theorem ofFunction_of_covers {f : FunctionInfo} (hfirst : f.span.first ≤ 1)
    (hlast : t.lines.length ≤ f.span.last) :
    ComplexityMetrics.ofFunction t f = ComplexityMetrics.ofText t := by
  have hstart : f.span.first - 1 = 0 := by omega
  rw [ComplexityMetrics.ofFunction, Text.slice, List.take_of_length_le hlast, hstart,
    List.drop_zero, Text.unlines_lines]

theorem sumUp_of_tiles (h : Tiles 1 fs (t.lines.length + 1)) :
    SumUp (ComplexityMetrics.ofText t) (fs.map (ComplexityMetrics.ofFunction t)) where
  operators := by
    rw [List.map_map]
    exact sum_length_slices lineWise_operators h
  operands := by
    rw [List.map_map]
    exact sum_length_slices lineWise_operands h
  total := by
    have hsum := sum_length_slices Text.lineWise_lines h
    simp only [← total_ofText] at hsum
    rw [List.map_map]
    exact hsum
  blank := by
    have hsum := sum_length_slices lineWise_blankLines h
    simp only [← blank_ofText] at hsum
    rw [List.map_map]
    exact hsum
  distinctOperators_le :=
    List.forall_mem_map.2 fun _ hg => length_distinct_slice_le lineWise_operators h hg
  distinctOperands_le :=
    List.forall_mem_map.2 fun _ hg => length_distinct_slice_le lineWise_operands h hg
  le_distinctOperators := by
    rw [List.map_map]
    exact length_distinct_le_sum_slices lineWise_operators h
  le_distinctOperands := by
    rw [List.map_map]
    exact length_distinct_le_sum_slices lineWise_operands h

/-- **The measures of the slices sum up to those of the text.**  The slices are those of functions
    whose spans follow each other, from the first line of the text to its last.  Token and line counts
    add up, distinct tokens at most; vocabulary and length are what they are for every text; and a
    function that covers all lines has the measures of the text. -/
theorem slices_sum_up (t : Text) (fs : List FunctionInfo) (h : Tiles 1 fs (t.lines.length + 1)) :
    SumUp (ComplexityMetrics.ofText t) (fs.map (ComplexityMetrics.ofFunction t)) ∧
    (∀ m ∈ ComplexityMetrics.ofText t :: fs.map (ComplexityMetrics.ofFunction t),
      Sized m.halstead) ∧
    ∀ f : FunctionInfo, f.span.first = 1 → f.span.last = t.lines.length →
      ComplexityMetrics.ofFunction t f = ComplexityMetrics.ofText t := by
  refine ⟨sumUp_of_tiles h, List.forall_mem_cons.2 ⟨sized_ofText t, ?_⟩, fun f hfirst hlast => ?_⟩
  · exact List.forall_mem_map.2 fun f _ => sized_ofText _
  · exact ofFunction_of_covers (Nat.le_of_eq hfirst) (Nat.le_of_eq hlast.symm)

/-- A text of three lines, one of them blank. -/
def slicedText : Text :=
  Text.ofString "a = b\n\nc + a"

/-- A function of the first two lines, and one of the third. -/
def slicingFunctions : List FunctionInfo :=
  [{ name := Text.ofString "f", span := ⟨1, 2, by decide⟩ },
    { name := Text.ofString "g", span := .single 3 }]

theorem slices_sum_up_two :
    Tiles 1 slicingFunctions (slicedText.lines.length + 1) ∧
    (slicingFunctions.map fun f =>
      (ComplexityMetrics.ofFunction slicedText f).halstead.operators).sum = 2 ∧
    SumUp (ComplexityMetrics.ofText slicedText)
      (slicingFunctions.map (ComplexityMetrics.ofFunction slicedText)) := by
  have htiles : Tiles 1 slicingFunctions (slicedText.lines.length + 1) := by
    have hlines : slicedText.lines.length = 3 := by decide
    rw [hlines]
    exact ⟨rfl, rfl, rfl⟩
  have hsum := (slices_sum_up slicedText slicingFunctions htiles).1
  have hoperators := hsum.operators
  rw [List.map_map] at hoperators
  exact ⟨htiles, hoperators.trans (by decide), hsum⟩

end Metrics

end CodeSurvey
