/-
  The concepts of a unit.

  * `Summary.Parts`: a name in parts that start at its capitals; `Summary.parts_pieces`,
    `Summary.parts_splitAtCapitals`: its pieces are such, with or without an empty one in front;
  * `Summary.Parts.filter_eq_splitBy`: there is one way to cut a name so, but for empty parts, and
    `Summary.Parts.words_eq`: these are in no word;
  * `Summary.isCapital_of_mem_words`: the words of a name have no capital;
  * `Summary.concepts_exact`: the concepts of a structure, and of one with more classes.
-/
import CodeSurvey.Proofs.Distinct
import CodeSurvey.Proofs.Text.Case
import CodeSurvey.Summary
import Mathlib.Data.List.SplitBy

namespace CodeSurvey.Summary

variable {name : Text} {parts : List Text} {s : CodeStructure}

/-! ## Parts of a name -/

theorem exists_pieces_eq_cons (name : Text) : ∃ p ps, pieces name = p :: ps := by
  cases name with
  | nil => exact ⟨[], [], rfl⟩
  | cons c cs =>
    rw [pieces]
    split
    · exact ⟨[c], [], rfl⟩
    · split <;> exact ⟨_, _, rfl⟩

/-- The parts make up the name, each one but the first starts with a capital, and none has a capital
    behind its first code point.  There may be an empty part in front. -/
structure Parts (name : Text) (parts : List Text) : Prop where
  flatten : parts.flatten = name
  starts : ∀ p ∈ parts.tail, p.head?.any isCapital = true
  single : ∀ p ∈ parts, ∀ c ∈ p.tail, isCapital c = false

namespace Parts

variable {p : Text}

/-- A code point before a part that starts with a capital is a part by itself. -/
theorem cons_capital (h : Parts name (p :: parts)) (hp : p.head?.any isCapital = true)
    (c : CodePoint) : Parts (c :: name) ([c] :: p :: parts) where
  flatten := congrArg (c :: ·) h.flatten
  starts := List.forall_mem_cons.2 ⟨hp, h.starts⟩
  single := List.forall_mem_cons.2 ⟨by simp, h.single⟩

/-- A code point before another part joins it. -/
theorem cons_join (h : Parts name (p :: parts)) (hp : ¬ p.head?.any isCapital = true)
    (c : CodePoint) : Parts (c :: name) ((c :: p) :: parts) where
  flatten := congrArg (c :: ·) h.flatten
  starts := h.starts
  single := by
    obtain ⟨hsingle, hparts⟩ := List.forall_mem_cons.1 h.single
    refine List.forall_mem_cons.2 ⟨?_, hparts⟩
    cases p with
    | nil => simp
    | cons d p => exact List.forall_mem_cons.2 ⟨by simpa using hp, hsingle⟩

/-- An empty part may come before a capital at the start. -/
theorem nil_cons (h : Parts name parts) (hparts : ∀ p ∈ parts, p.head?.any isCapital = true) :
    Parts name ([] :: parts) where
  flatten := h.flatten
  starts := hparts
  single := List.forall_mem_cons.2 ⟨by simp, h.single⟩

theorem of_cons (h : Parts name (p :: parts)) : Parts parts.flatten parts where
  flatten := rfl
  starts q hq := h.starts q (List.mem_of_mem_tail hq)
  single q hq := h.single q (List.mem_cons_of_mem p hq)

end Parts

/-- **The pieces of a name start at its capitals.** -/
theorem parts_pieces (name : Text) : Parts name (pieces name) := by
  induction name with
  | nil => exact ⟨rfl, by simp [pieces], by simp [pieces]⟩
  | cons c cs ih =>
    obtain ⟨p, ps, hpieces⟩ := exists_pieces_eq_cons cs
    rw [hpieces] at ih
    simp only [pieces, hpieces]
    split
    · exact ih.cons_capital ‹_› c
    · exact ih.cons_join ‹_› c

/-- The pieces of a name, with an empty part in front where all of them start with capitals. -/
def splitAtCapitals (name : Text) : List Text :=
  if (pieces name).all fun p => p.head?.any isCapital then [] :: pieces name else pieces name

theorem parts_splitAtCapitals (name : Text) : Parts name (splitAtCapitals name) := by
  rw [splitAtCapitals]
  split
  · rename_i hall
    exact (parts_pieces name).nil_cons (List.all_eq_true.1 hall)
  · exact parts_pieces name

namespace Parts

/-- What follows a part starts with a capital. -/
theorem isCapital_of_mem_head? {p : Text} {c : CodePoint} (h : Parts name (p :: parts))
    (hc : c ∈ parts.flatten.head?) : isCapital c = true := by
  cases parts with
  | nil => cases hc
  | cons q qs =>
    have hq := h.starts q List.mem_cons_self
    cases q with
    | nil => cases hq
    | cons d q =>
      cases hc
      exact hq

theorem isChain {p : Text} (h : Parts name parts) (hp : p ∈ parts) :
    p.IsChain fun _ c => (!isCapital c) = true := by
  refine List.isChain_iff_getElem.2 fun i hi => ?_
  have htail : i < p.tail.length := by
    rw [List.length_tail]
    omega
  have hmem : p[i + 1] ∈ p.tail := by
    rw [← List.getElem_tail htail]
    exact List.getElem_mem htail
  rw [h.single p hp _ hmem, Bool.not_false]

/-- **But for empty parts there is one way to cut a name at its capitals.** -/
theorem filter_eq_splitBy (h : Parts name parts) :
    parts.filter (· ≠ []) = name.splitBy fun _ c => !isCapital c := by
  induction parts generalizing name with
  | nil =>
    rw [← h.flatten]
    rfl
  | cons p parts ih =>
    have hcut : ∀ b ∈ p.getLast?, ∀ c ∈ parts.flatten.head?, (!isCapital c) = false := by
      intro b _ c hc
      rw [h.isCapital_of_mem_head? hc, Bool.not_true]
    rw [← h.flatten, List.flatten_cons, List.splitBy_append hcut, ← ih h.of_cons]
    by_cases hp : p = []
    · rw [hp, List.filter_cons_of_neg (by simp), List.splitBy_nil, List.nil_append]
    · rw [List.filter_cons_of_pos (by simpa using hp),
        List.splitBy_of_isChain hp (h.isChain List.mem_cons_self), List.singleton_append]

/-- The words of a name are those of any cut at its capitals. -/
theorem words_eq (h : Parts name parts) :
    (parts.filter fun p => 2 < p.length).map Text.lower = words name := by
  have hlong : ∀ ps : List Text, ps.filter (fun p => 2 < p.length) =
      (ps.filter (· ≠ [])).filter fun p => 2 < p.length := by
    intro ps
    rw [List.filter_filter]
    refine List.filter_congr fun p _ => ?_
    cases p <;> simp
  rw [words, hlong, hlong (pieces name), h.filter_eq_splitBy, (parts_pieces name).filter_eq_splitBy]

end Parts

/-! ## Capitals -/

theorem isCapital_of_isSmall {c : CodePoint} (h : IsSmall c) : isCapital c = false := by
  by_contra hcapital
  simp only [isCapital, Bool.and_eq_true, decide_eq_true_eq, Bool.not_eq_false] at hcapital
  have hval := congrArg Fin.val h.fixed
  rw [lowerSimple_of_isLetter (isLetter_iff.2 (.inl hcapital)), val_asciiLower, if_pos hcapital]
    at hval
  omega

theorem isCapital_of_mem_words {w : Text} (h : w ∈ words name) : ∀ c ∈ w, isCapital c = false := by
  intro c hc
  obtain ⟨p, -, rfl⟩ := List.mem_map.1 h
  exact isCapital_of_isSmall (Text.isSmall_of_mem_lowerAfter hc)

/-! ## Concepts -/

theorem conceptNames_eq (s : CodeStructure) :
    conceptNames s =
      (s.functions.filter fun f => f.name ≠ Text.ofString "anonymous").map FunctionInfo.name ++
        s.classes.map ClassInfo.name := by
  rw [conceptNames, List.filter_map]
  rfl

/-- The parts of names that are long enough, in lower case. -/
def wordsBy (cut : Text → List Text) (names : List Text) : List Text :=
  names.flatMap fun name => ((cut name).filter fun p => 2 < p.length).map Text.lower

/-- The concepts can be told by any cut of the names at their capitals. -/
theorem firstSeen_concepts {cut : Text → List Text}
    (hcut : ∀ name ∈ conceptNames s, Parts name (cut name)) :
    FirstSeen (wordsBy cut (conceptNames s)) (concepts s) := by
  rw [wordsBy, List.flatMap_congr fun name hname => (hcut name hname).words_eq]
  exact firstSeen_distinct _

theorem isCapital_of_mem_concepts {w : Text} (h : w ∈ concepts s) :
    ∀ c ∈ w, isCapital c = false := by
  obtain ⟨name, -, hw⟩ := List.mem_flatMap.1 (mem_distinct.1 h)
  exact isCapital_of_mem_words hw

/-- More classes only add concepts at the end. -/
theorem concepts_prefix (s : CodeStructure) (more : List ClassInfo) :
    concepts s <+: concepts { s with classes := s.classes ++ more } := by
  have hnames : conceptNames { s with classes := s.classes ++ more } =
      conceptNames s ++ more.map ClassInfo.name := by
    simp only [conceptNames, List.map_append, List.append_assoc]
  rw [concepts, concepts, hnames, List.flatMap_append]
  exact distinct_prefix_append _ _

/-- **The concepts of a structure.**  However the names are cut at their capitals, the parts of more
    than two code points are taken, of the functions with a name and then of the classes; these, in
    lower case, are the concepts, each one once, in the order in which they are first come across.  No
    concept has a capital, and more classes only add concepts at the end. -/
theorem concepts_exact (s : CodeStructure) :
    (∀ name, Parts name (pieces name)) ∧
    (∀ cut : Text → List Text, (∀ name, Parts name (cut name)) →
      FirstSeen (wordsBy cut
        ((s.functions.filter fun f => f.name ≠ Text.ofString "anonymous").map FunctionInfo.name ++
          s.classes.map ClassInfo.name)) (concepts s)) ∧
    (∀ w ∈ concepts s, ∀ c ∈ w, isCapital c = false) ∧
    ∀ more, concepts s <+: concepts { s with classes := s.classes ++ more } := by
  refine ⟨parts_pieces, ?_, fun w hw => isCapital_of_mem_concepts hw, concepts_prefix s⟩
  intro cut hcut
  rw [← conceptNames_eq]
  exact firstSeen_concepts fun name _ => hcut name

/-- Names with capitals side by side, at the start and outside of ASCII, and a repeated word. -/
def conceptInput : CodeStructure where
  functions := [{ name := .ofString "getUserData" }, { name := .ofString "anonymous" },
    { name := .ofString "idOfÄrger" }]
  classes := [{ name := .ofString "XMLParser" }, { name := .ofString "UserStore" }]

/-- A class more gives a concept more; what it shares with the others is not taken again. -/
theorem concepts_exact_input :
    concepts conceptInput = ["get", "user", "data", "ofärger", "parser", "store"].map Text.ofString ∧
    concepts { conceptInput with
        classes := conceptInput.classes ++ [{ name := .ofString "DataSetV2" }] } =
      ["get", "user", "data", "ofärger", "parser", "store", "set"].map Text.ofString ∧
    FirstSeen (wordsBy splitAtCapitals
      (["getUserData", "idOfÄrger", "XMLParser", "UserStore"].map Text.ofString))
      (concepts conceptInput) :=
  ⟨by decide +kernel, by decide +kernel,
    (concepts_exact conceptInput).2.1 splitAtCapitals parts_splitAtCapitals⟩

end CodeSurvey.Summary
