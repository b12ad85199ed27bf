/-
  Patterns that are recognised by pieces of text.

  * `Pattern.Matches`: when a definition is met, by its pieces of text (`Pattern.MatchesText`) or by
    the names of functions;
  * `Pattern.HitLine`: the first line that holds one of the pieces found in the text;
    `Pattern.hitLine_firstLine`, `Pattern.HitLine.unique`: the line that is reported is it;
  * `Pattern.MatchesText.append`, `Pattern.HitLine.append`: both stay when the text goes on, although
    more pieces may be found then;
  * `Pattern.Entry`: what is reported of a definition;
  * `Pattern.detect_exact_stable`: the whole.
-/
import CodeSurvey.Proofs.LineEnd.Unit
import CodeSurvey.Proofs.Pattern.Name
import CodeSurvey.Proofs.Text.Cut
import CodeSurvey.Proofs.Text.Line

namespace CodeSurvey.Pattern

variable {d : PatternDefinition} {t line : Text} {s : CodeStructure} {group pieces : List Text}
  {n m : Nat} {span : Span} {p : CodePattern}

/-! ## Pieces of text -/

/-- One of the pieces is in the text, if there are any. -/
def Meets (group : List Text) (t : Text) : Prop :=
  group = [] ∨ ∃ piece ∈ group, piece <:+: t

/-- The text meets all groups of the definition, which has some piece. -/
structure MatchesText (d : PatternDefinition) (t : Text) : Prop where
  markers_ne_nil : d.markers ≠ []
  anyOf : Meets d.anyOf t
  alsoAnyOf : Meets d.alsoAnyOf t
  allOf : ∀ piece ∈ d.allOf, piece <:+: t

/-- The line holds one of the pieces of the definition that are in the text. -/
def Marked (d : PatternDefinition) (t line : Text) : Prop :=
  ∃ piece ∈ d.markers, piece <:+: t ∧ piece <:+: line

/-- The number is that of the first line of the text that holds such a piece. -/
structure HitLine (d : PatternDefinition) (t : Text) (n : Nat) : Prop where
  pos : 1 ≤ n
  le : n ≤ t.lines.length
  marked : ∃ line ∈ t.lines[n - 1]?, Marked d t line
  first : ∀ i < n - 1, ∀ line ∈ t.lines[i]?, ¬ Marked d t line

/-- The definition is met: by the text, or if it has keywords, by the name of a function. -/
def Matches (d : PatternDefinition) (t : Text) (s : CodeStructure) : Prop :=
  d.nameKeywords = [] ∧ MatchesText d t ∨
    ∃ f ∈ s.allFunctions, ∃ keyword ∈ d.nameKeywords, keyword <:+: f.name.lower

theorem found?_eq_some_iff :
    found? t group = some pieces ↔
      Meets group t ∧ group.filter (fun piece => piece.occurs t) = pieces := by
  have hmeets : (group.isEmpty || !(group.filter fun piece => piece.occurs t).isEmpty) = true ↔
      Meets group t := by
    simp [Meets, ← Text.occurs_iff]
  rw [found?, Option.ite_none_right_eq_some, hmeets, Option.some.injEq]

/-- What is found of a definition are the pieces of it that are in the text. -/
theorem markers?_eq_some_iff :
    markers? d t = some pieces ↔
      (Meets d.anyOf t ∧ Meets d.alsoAnyOf t ∧ ∀ piece ∈ d.allOf, piece <:+: t) ∧
        d.markers.filter (fun piece => piece.occurs t) = pieces := by
  have hall : (d.allOf.all fun piece => piece.occurs t) = true ↔
      ∀ piece ∈ d.allOf, piece <:+: t := by
    simp [Text.occurs_iff]
  have hfilter : (∀ piece ∈ d.allOf, piece <:+: t) →
      d.allOf.filter (fun piece => piece.occurs t) = d.allOf := by
    intro h
    exact List.filter_eq_self.2 fun piece hmem => Text.occurs_iff.2 (h piece hmem)
  simp only [markers?, Option.bind_eq_bind, Option.bind_eq_some_iff, found?_eq_some_iff,
    Option.ite_none_right_eq_some, Option.some.injEq, hall, PatternDefinition.markers,
    List.filter_append]
  constructor
  · rintro ⟨_, ⟨hany, rfl⟩, _, ⟨halso, rfl⟩, hpieces, rfl⟩
    exact ⟨⟨hany, halso, hpieces⟩, by rw [hfilter hpieces]⟩
  · rintro ⟨⟨hany, halso, hpieces⟩, rfl⟩
    exact ⟨_, ⟨hany, rfl⟩, _, ⟨halso, rfl⟩, hpieces, by rw [hfilter hpieces]⟩

/-- Of a definition with pieces that is met, some piece is in the text. -/
theorem MatchesText.exists_marker (h : MatchesText d t) :
    ∃ piece ∈ d.markers, piece <:+: t := by
  obtain ⟨hne, hany, halso, hall⟩ := h
  simp only [PatternDefinition.markers, List.mem_append] at hne ⊢
  rcases hany with hany | ⟨piece, hmem, hpiece⟩
  · rcases halso with halso | ⟨piece, hmem, hpiece⟩
    · obtain ⟨piece, hmem⟩ := List.exists_mem_of_ne_nil d.allOf (by simpa [hany, halso] using hne)
      exact ⟨piece, .inr hmem, hall piece hmem⟩
    · exact ⟨piece, .inl (.inr hmem), hpiece⟩
  · exact ⟨piece, .inl (.inl hmem), hpiece⟩

theorem match?_eq_some_iff_text (hd : d.nameKeywords = []) :
    match? d t s = some span ↔ MatchesText d t ∧
      Span.single (firstLine t (d.markers.filter fun piece => piece.occurs t)) = span := by
  simp only [match?, hd, List.isEmpty_nil, if_true, Option.map_eq_some_iff,
    Option.filter_eq_some_iff, markers?_eq_some_iff]
  constructor
  · rintro ⟨_, ⟨⟨⟨hany, halso, hall⟩, rfl⟩, hne⟩, rfl⟩
    refine ⟨⟨?_, hany, halso, hall⟩, rfl⟩
    intro hnil
    simp [hnil] at hne
  · rintro ⟨h, rfl⟩
    refine ⟨_, ⟨⟨⟨h.anyOf, h.alsoAnyOf, h.allOf⟩, rfl⟩, ?_⟩, rfl⟩
    simpa [Text.occurs_iff] using h.exists_marker

/-! ## The line that is reported -/

theorem any_occurs_filter_iff :
    ((d.markers.filter fun piece => piece.occurs t).any fun piece => piece.occurs line) = true ↔
      Marked d t line := by
  simp [Marked, Text.occurs_iff]

/-- **The first line with a piece that was found is reported**, if the pieces lie within lines. -/
theorem hitLine_firstLine (hd : ∀ piece ∈ d.markers, CodePoint.newline ∉ piece)
    (h : MatchesText d t) :
    HitLine d t (firstLine t (d.markers.filter fun piece => piece.occurs t)) := by
  obtain ⟨piece, hmem, hpiece⟩ := h.exists_marker
  obtain ⟨line, hline, hinfix⟩ := Text.exists_line_of_infix (hd piece hmem) hpiece
  have hmarked : Marked d t line := ⟨piece, hmem, hpiece, hinfix⟩
  rw [firstLine]
  split
  · rename_i i hi
    obtain ⟨hlt, hhere, hbefore⟩ := List.findIdx?_eq_some_iff_getElem.1 hi
    rw [any_occurs_filter_iff] at hhere
    refine ⟨Nat.succ_pos i, hlt, ⟨_, List.getElem?_eq_getElem hlt, hhere⟩, ?_⟩
    intro j hj line hline
    obtain ⟨hjlt, rfl⟩ := List.getElem?_eq_some_iff.1 hline
    rw [← any_occurs_filter_iff]
    exact hbefore j hj
  · rename_i hnone
    have hfalse := List.findIdx?_eq_none_iff.1 hnone line hline
    rw [any_occurs_filter_iff.2 hmarked] at hfalse
    cases hfalse

theorem HitLine.not_lt (h : HitLine d t n) (h' : HitLine d t m) : ¬ n < m := by
  intro hlt
  obtain ⟨line, hline, hmarked⟩ := h.marked
  have hpos := h.pos
  exact h'.first (n - 1) (by omega) line hline hmarked

theorem HitLine.unique (h : HitLine d t n) (h' : HitLine d t m) : n = m :=
  Nat.le_antisymm (Nat.le_of_not_lt (h'.not_lt h)) (Nat.le_of_not_lt (h.not_lt h'))

/-! ## A text that goes on -/

theorem Meets.append (h : Meets group t) (u : Text) : Meets group (t ++ u) := by
  rcases h with hnil | ⟨piece, hmem, hpiece⟩
  · exact .inl hnil
  · exact .inr ⟨piece, hmem, hpiece.trans (List.prefix_append t u).isInfix⟩

theorem MatchesText.append (h : MatchesText d t) (u : Text) : MatchesText d (t ++ u) where
  markers_ne_nil := h.markers_ne_nil
  anyOf := h.anyOf.append u
  alsoAnyOf := h.alsoAnyOf.append u
  allOf := fun piece hmem => (h.allOf piece hmem).trans (List.prefix_append t u).isInfix

/-- **The first line with a piece stays the first one.**  A piece that is found only in the longer text
    is in none of the lines before it: these are lines of the shorter text. -/
theorem HitLine.append (h : HitLine d t n) (u : Text) : HitLine d (t ++ u) n := by
  obtain ⟨hpos, hle, ⟨line, hline, piece, hmem, hpiece, hinfix⟩, hfirst⟩ := h
  obtain ⟨more, hmore, -⟩ := Text.exists_getElem?_lines_append hline u
  have hlt := (List.getElem?_eq_some_iff.1 hmore).1
  refine ⟨hpos, by omega, ⟨_, hmore, piece, hmem, ?_, ?_⟩, ?_⟩
  · exact hpiece.trans (List.prefix_append t u).isInfix
  · exact hinfix.trans (List.prefix_append line more).isInfix
  · rintro i hi line' hline' ⟨piece', hmem', -, hinfix'⟩
    have hi' : i < t.lines.length := by omega
    obtain ⟨more', hmore', hnil⟩ :=
      Text.exists_getElem?_lines_append (List.getElem?_eq_getElem hi') u
    rw [hnil (by omega), List.append_nil] at hmore'
    obtain rfl := Option.some.inj (hmore'.symm.trans hline')
    have hin := Text.infix_of_mem_lines (List.getElem_mem hi')
    exact hfirst i hi _ (List.getElem?_eq_getElem hi') ⟨piece', hmem', hinfix'.trans hin, hinfix'⟩

/-! ## A definition -/

/-- What a definition finds is the span of a function that is named by a keyword, if it has any, and
    else the first line with a piece, if the text is met. -/
theorem of_match?_eq_some (hd : ∀ piece ∈ d.markers, CodePoint.newline ∉ piece)
    (h : match? d t s = some span) :
    (d.nameKeywords = [] → MatchesText d t ∧ ∃ n, HitLine d t n ∧ .single n = span) ∧
    (d.nameKeywords ≠ [] → ∃ f ∈ s.allFunctions,
      (∃ keyword ∈ d.nameKeywords, keyword <:+: f.name.lower) ∧ f.span = span) := by
  constructor
  · intro hk
    obtain ⟨hmatches, hspan⟩ := (match?_eq_some_iff_text hk).1 h
    exact ⟨hmatches, _, hitLine_firstLine hd hmatches, hspan⟩
  · intro hk
    rw [match?_of_nameKeywords hk, Option.map_eq_some_iff] at h
    obtain ⟨f, hf, hspan⟩ := h
    refine ⟨f, List.mem_of_find?_eq_some hf, ?_, hspan⟩
    simpa [Text.occurs_iff] using List.find?_some hf

theorem isSome_match?_iff : (match? d t s).isSome = true ↔ Matches d t s := by
  by_cases hk : d.nameKeywords = []
  · rw [Option.isSome_iff_exists]
    simp [match?_eq_some_iff_text hk, Matches, hk]
  · rw [match?_of_nameKeywords hk, Option.isSome_map, namedFunction?, List.find?_isSome]
    simp [Matches, hk, Text.occurs_iff]

instance : Decidable (Matches d t s) :=
  decidable_of_iff _ isSome_match?_iff

/-- **What a definition finds it finds again when the text goes on.** -/
theorem match?_append (hd : ∀ piece ∈ d.markers, CodePoint.newline ∉ piece)
    (h : match? d t s = some span) (u : Text) : match? d (t ++ u) s = some span := by
  by_cases hk : d.nameKeywords = []
  · obtain ⟨hmatches, n, hn, rfl⟩ := (of_match?_eq_some hd h).1 hk
    have hmatches' := hmatches.append u
    rw [match?_eq_some_iff_text hk, (hitLine_firstLine hd hmatches').unique (hn.append u)]
    exact ⟨hmatches', rfl⟩
  · rw [match?_of_nameKeywords hk] at h ⊢
    exact h

/-! ## All definitions -/

/-- What is reported of a definition: its name and the like, and where it is met. -/
structure Entry (d : PatternDefinition) (t : Text) (s : CodeStructure) (p : CodePattern) : Prop where
  name : p.name = d.name
  description : p.description = d.description
  category : p.category = d.category
  confidence : p.confidence = d.confidence
  line : d.nameKeywords = [] → ∃ n, HitLine d t n ∧ p.span = .single n
  function : d.nameKeywords ≠ [] → ∃ f ∈ s.allFunctions,
    (∃ keyword ∈ d.nameKeywords, keyword <:+: f.name.lower) ∧ p.span = f.span

section

variable {α β : Type} {f g : α → Option β} {l : List α}

theorem forall₂_filterMap {q : α → Bool} {R : α → β → Prop} (hq : ∀ a ∈ l, (f a).isSome = q a)
    (hR : ∀ a ∈ l, ∀ b, f a = some b → R a b) : List.Forall₂ R (l.filter q) (l.filterMap f) := by
  induction l with
  | nil => exact .nil
  | cons a l ih =>
    obtain ⟨hqa, hql⟩ := List.forall_mem_cons.1 hq
    obtain ⟨hRa, hRl⟩ := List.forall_mem_cons.1 hR
    rw [List.filter_cons, ← hqa, List.filterMap_cons]
    cases hfa : f a with
    | none => simpa using ih hql hRl
    | some b => simpa using ⟨hRa b hfa, ih hql hRl⟩

theorem filterMap_sublist_filterMap (h : ∀ a ∈ l, ∀ b, f a = some b → g a = some b) :
    (l.filterMap f).Sublist (l.filterMap g) := by
  induction l with
  | nil => exact .refl _
  | cons a l ih =>
    obtain ⟨ha, hl⟩ := List.forall_mem_cons.1 h
    rw [List.filterMap_cons, List.filterMap_cons]
    cases hfa : f a with
    | none =>
      cases g a with
      | none => exact ih hl
      | some b => exact (ih hl).cons b
    | some b =>
      rw [ha b hfa]
      exact (ih hl).cons_cons b

end

/-- **Patterns are found exactly, and stay when the text goes on.**  The pieces of text of the
    definitions lie within lines.  Then there is one entry for each definition that is met, in the
    order of the definitions; the span of one that goes by the text is the first line with a piece of
    the definition that is in the text.  Whatever is put behind the text, all entries are found
    again, with the same spans and in the same order. -/
theorem detect_exact_stable (ds : List PatternDefinition)
    (hds : ∀ d ∈ ds, ∀ piece ∈ d.markers, CodePoint.newline ∉ piece) (t : Text)
    (s : CodeStructure) :
    List.Forall₂ (fun d p => Entry d t s p) (ds.filter fun d => Matches d t s) (detect ds t s) ∧
    ∀ u, (detect ds t s).Sublist (detect ds (t ++ u) s) := by
  constructor
  · refine forall₂_filterMap (fun d _ => ?_) fun d hd p hp => ?_
    · rw [Option.isSome_map, Bool.eq_iff_iff, isSome_match?_iff, decide_eq_true_eq]
    · obtain ⟨span, hspan, rfl⟩ := Option.map_eq_some_iff.1 hp
      obtain ⟨htext, hname⟩ := of_match?_eq_some (hds d hd) hspan
      refine ⟨rfl, rfl, rfl, rfl, fun hk => ?_, fun hk => ?_⟩
      · obtain ⟨-, n, hn, rfl⟩ := htext hk
        exact ⟨n, hn, rfl⟩
      · obtain ⟨f, hf, hkeyword, rfl⟩ := hname hk
        exact ⟨f, hf, hkeyword, rfl⟩
  · intro u
    refine filterMap_sublist_filterMap fun d hd p hp => ?_
    obtain ⟨span, hspan, rfl⟩ := Option.map_eq_some_iff.1 hp
    rw [match?_append (hds d hd) hspan u]
    rfl

/-- A listener that is added, with the first letters of a call that notifies it. -/
def listenerText : Text :=
  .ofString "let n = 0\nbus.subscribe(f); bus.emit(n)\nbus.add"

/-- The usual patterns: the text goes on within its last line and shows a further piece, and the
    observer is found where it was. -/
theorem detect_exact_stable_observer :
    (∀ d ∈ builtIn, ∀ piece ∈ d.markers, CodePoint.newline ∉ piece) ∧
    (detect builtIn listenerText {}).map CodePattern.span = [.single 2] ∧
    (detect builtIn listenerText {}).Sublist
      (detect builtIn (listenerText ++ .ofString "EventListener(g)") {}) := by
  have hds : ∀ d ∈ builtIn, ∀ piece ∈ d.markers, CodePoint.newline ∉ piece := by decide
  exact ⟨hds, by decide +kernel, (detect_exact_stable builtIn hds listenerText {}).2 _⟩

end CodeSurvey.Pattern
