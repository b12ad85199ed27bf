/-
  Carriage returns at the ends of lines.

  * `Text.crlf`: a text with a carriage return put in before every line feed;
  * `Text.Padded`: a text beside one that has further carriage returns at line ends;
    `Text.padded_crlf`: so has `Text.crlf`;
  * `Text.Unbroken`, `Text.Solid`: pieces of text without line ends, empty or not.  What follows
    an unbroken piece, white space or the identifiers of a text is padded again
    (`Padded.after?`, `Padded.skipBlank`, `Padded.dropWhile`), and so the places at which a solid
    piece stands are the same in both texts (`Padded.forall₂_filterMap_cuts`,
    `Padded.countP_cuts`, `Padded.findSome?_cuts`).
-/
import CodeSurvey.Text.Blank
import CodeSurvey.Text.Line
import CodeSurvey.Text.Word
import Mathlib.Data.List.Forall2

namespace CodeSurvey

/-! ## Related lists and options -/

section Related

variable {α β γ δ : Type} {R : α → β → Prop} {o : Option α} {o' : Option β}

theorem any_eq_of_forall_mem {l : List α} {p q : α → Bool} (h : ∀ a ∈ l, p a = q a) :
    l.any p = l.any q := by
  induction l with
  | nil => rfl
  | cons a l ih =>
    obtain ⟨ha, hl⟩ := List.forall_mem_cons.1 h
    rw [List.any_cons, List.any_cons, ha, ih hl]

theorem any_eq_of_rel {p : α → Bool} {q : β → Bool} (h : Option.Rel R o o')
    (hpq : ∀ a b, R a b → p a = q b) : o.any p = o'.any q := by
  cases h with
  | none => rfl
  | some hab => exact hpq _ _ hab

theorem isSome_eq_of_rel (h : Option.Rel R o o') : o.isSome = o'.isSome := by
  cases h with
  | none => rfl
  | some hab => rfl

theorem map_eq_of_rel {f : α → γ} {g : β → γ} (h : Option.Rel R o o')
    (hfg : ∀ a b, R a b → f a = g b) : o.map f = o'.map g := by
  cases h with
  | none => rfl
  | some hab => exact congrArg some (hfg _ _ hab)

theorem rel_map {S : γ → δ → Prop} {f : α → γ} {g : β → δ} (h : Option.Rel R o o')
    (hfg : ∀ a b, R a b → S (f a) (g b)) : Option.Rel S (o.map f) (o'.map g) := by
  cases h with
  | none => exact .none
  | some hab => exact .some (hfg _ _ hab)

theorem rel_filter {p : α → Bool} {q : β → Bool} (h : Option.Rel R o o')
    (hpq : ∀ a b, R a b → p a = q b) : Option.Rel R (o.filter p) (o'.filter q) := by
  cases h with
  | none => exact .none
  | @some a b hab =>
    rw [Option.filter_some, Option.filter_some, hpq a b hab]
    split
    · exact .some hab
    · exact .none

theorem rel_getElem? {l : List α} {r : List β} (h : List.Forall₂ R l r) (i : Nat) :
    Option.Rel R l[i]? r[i]? := by
  induction h generalizing i with
  | nil => exact .none
  | cons hab _ ih =>
    cases i with
    | zero => exact .some hab
    | succ i => exact ih i

end Related

/-! ## Line ends -/

/-- The carriage return. -/
def CodePoint.carriageReturn : CodePoint := 13

namespace Text

/-- The text with a carriage return put in before every line feed. -/
def crlf (t : Text) : Text :=
  t.flatMap fun c => if c = .newline then [.carriageReturn, c] else [c]

/-- Line feeds and carriage returns. -/
def isBreak (c : CodePoint) : Bool :=
  c == .newline || c == .carriageReturn

/-- A piece of text without line ends. -/
def Unbroken (piece : Text) : Prop :=
  ∀ c ∈ piece, isBreak c = false

-- by the code points of the piece; the quantifier on its own would be decided by all code points
instance Unbroken.instDecidable (piece : Text) : Decidable (Unbroken piece) :=
  decidable_of_iff (piece.all fun c => !isBreak c) (by simp [Unbroken])

/-- A piece of text without line ends that is not empty. -/
structure Solid (piece : Text) : Prop where
  unbroken : Unbroken piece
  ne_nil : piece ≠ []

instance Solid.instDecidable (piece : Text) : Decidable (Solid piece) :=
  decidable_of_iff (Unbroken piece ∧ piece ≠ []) ⟨fun h => ⟨h.1, h.2⟩, fun h => ⟨h.1, h.2⟩⟩

/-- The text is over, or a line feed comes first. -/
def AtLineEnd (t : Text) : Prop :=
  ∀ c ∈ t.head?, c = .newline

/-- The text is over, or a line feed or carriage return comes first. -/
def AtBreak (t : Text) : Prop :=
  ∀ c ∈ t.head?, isBreak c = true

variable {t u v w piece : Text} {c : CodePoint}

theorem atLineEnd_nil : AtLineEnd [] :=
  nofun

@[simp] theorem atLineEnd_cons : AtLineEnd (c :: t) ↔ c = .newline := by
  simp [AtLineEnd]

@[simp] theorem atBreak_cons : AtBreak (c :: t) ↔ isBreak c = true := by
  simp [AtBreak]

theorem AtLineEnd.append (ht : AtLineEnd t) (hv : AtLineEnd v) : AtLineEnd (t ++ v) := by
  cases t with
  | nil => exact hv
  | cons c t => exact ht

theorem AtLineEnd.atBreak (h : AtLineEnd t) : AtBreak t := by
  cases t with
  | nil => exact nofun
  | cons c t => rw [atBreak_cons, atLineEnd_cons.1 h]; rfl

theorem isBreak_carriageReturn : isBreak .carriageReturn = true := by
  decide

theorem atBreak_carriageReturn (t : Text) : AtBreak (.carriageReturn :: t) :=
  atBreak_cons.2 isBreak_carriageReturn

/-- A test that fails at the line feed and at the carriage return. -/
theorem eq_false_of_isBreak {p : CodePoint → Bool} (hfeed : p .newline = false)
    (hreturn : p .carriageReturn = false) (c : CodePoint) (hc : isBreak c = true) :
    p c = false := by
  rw [isBreak, Bool.or_eq_true, beq_iff_eq, beq_iff_eq] at hc
  rcases hc with rfl | rfl
  · exact hfeed
  · exact hreturn

theorem isBlank_carriageReturn : isBlank .carriageReturn = true := by
  decide

/-! ## Padded texts -/

/-- `Padded P t u`: the text `u` is `t` with carriage returns put in at line ends of `t` that
    satisfy `P`. -/
inductive Padded (P : Text → Prop) : Text → Text → Prop
  | nil : Padded P [] []
  | cons (c : CodePoint) {t u : Text} (rest : Padded P t u) : Padded P (c :: t) (c :: u)
  | pad {t u : Text} (lineEnd : AtLineEnd t) (here : P t) (rest : Padded P t u) :
    Padded P t (.carriageReturn :: u)

/-- Carriage returns may stand at every line end. -/
def everywhere : Text → Prop := fun _ => True

/-- Carriage returns may stand before line feeds, and not at the end of the text. -/
def beforeFeeds : Text → Prop := (· ≠ [])

/-- Carriage returns may stand at the end of the text alone. -/
def atStop : Text → Prop := (· = [])

variable {P Q : Text → Prop}

theorem Padded.refl (t : Text) : Padded P t t := by
  induction t with
  | nil => exact .nil
  | cons c t ih => exact .cons c ih

theorem Padded.mono (h : Padded P t u) (hPQ : ∀ t, P t → Q t) : Padded Q t u := by
  induction h with
  | nil => exact .nil
  | cons c _ ih => exact .cons c ih
  | pad lineEnd here _ ih => exact .pad lineEnd (hPQ _ here) ih

theorem Padded.loose (h : Padded P t u) : Padded everywhere t u :=
  h.mono fun _ _ => trivial

/-- Padded texts one after the other, if the second starts at a line end. -/
theorem Padded.append (h : Padded P t u) (hv : AtLineEnd v) (h' : Padded Q v w) :
    Padded everywhere (t ++ v) (u ++ w) := by
  induction h with
  | nil => exact h'.loose
  | cons c _ ih => exact .cons c ih
  | pad lineEnd _ _ ih => exact .pad (lineEnd.append hv) trivial ih

/-- A line end stays one, carriage returns aside. -/
theorem Padded.atBreak (h : Padded P t u) (ht : AtLineEnd t) : AtBreak u := by
  cases h with
  | nil => exact nofun
  | cons c _ => exact atBreak_cons.2 (atBreak_cons.1 ht.atBreak)
  | pad _ _ _ => exact atBreak_carriageReturn _

/-- **A text is padded by a carriage return before every line feed.** -/
theorem padded_crlf (t : Text) : Padded beforeFeeds t t.crlf := by
  induction t with
  | nil => exact .nil
  | cons c t ih =>
    rw [crlf, List.flatMap_cons]
    by_cases hc : c = .newline
    · rw [if_pos hc]
      exact .pad (atLineEnd_cons.2 hc) (List.cons_ne_nil c t) (.cons c ih)
    · rw [if_neg hc]
      exact .cons c ih

/-! ## Parts of padded texts -/

/-- What does not look at carriage returns is the same in both texts. -/
theorem Padded.filter_eq (h : Padded P t u) {p : CodePoint → Bool}
    (hp : p .carriageReturn = false) : t.filter p = u.filter p := by
  induction h with
  | nil => rfl
  | cons c _ ih => rw [List.filter_cons, List.filter_cons, ih]
  | pad _ _ _ ih => rw [List.filter_cons_of_neg (by simp [hp]), ih]

theorem Padded.mem_iff (h : Padded P t u) (hc : c ≠ .carriageReturn) : c ∈ t ↔ c ∈ u := by
  have heq := h.filter_eq (p := (· == c)) (by simpa using hc.symm)
  have hmem : ∀ l : Text, c ∈ l ↔ c ∈ l.filter (· == c) := by simp
  rw [hmem t, hmem u, heq]

theorem Padded.newlines_eq (h : Padded P t u) : t.newlines = u.newlines := by
  have heq := h.filter_eq (p := (· == .newline)) (by decide)
  simp only [newlines, List.count_eq_length_filter, heq]

/-- A test of the first code point, if it fails at line ends. -/
theorem Padded.any_head?_eq (h : Padded P t u) {p : CodePoint → Bool}
    (hp : ∀ c, isBreak c = true → p c = false) : t.head?.any p = u.head?.any p := by
  cases h with
  | nil => rfl
  | cons c _ => rfl
  | pad lineEnd _ _ =>
    rw [List.head?_cons, Option.any_some, hp _ isBreak_carriageReturn]
    cases t with
    | nil => rfl
    | cons c t => simp [hp c (atBreak_cons.1 lineEnd.atBreak)]

/-- If carriage returns stand before line feeds only, white space comes first in both texts or in
    neither. -/
theorem Padded.any_isBlank_head?_eq (h : Padded beforeFeeds t u) :
    t.head?.any isBlank = u.head?.any isBlank := by
  cases h with
  | nil => rfl
  | cons c _ => rfl
  | pad lineEnd here _ =>
    cases t with
    | nil => exact absurd rfl here
    | cons c t =>
      rw [atLineEnd_cons.1 lineEnd]
      simp [isBlank_newline, isBlank_carriageReturn]

/-- Behind a code point that is not at a line end. -/
theorem Padded.tail (h : Padded P t u) (ht : ¬ AtLineEnd t) : Padded P t.tail u.tail := by
  cases h with
  | nil => exact .nil
  | cons c h => exact h
  | pad lineEnd _ _ => exact absurd lineEnd ht

theorem Padded.skipBlank (h : Padded P t u) : Padded P t.skipBlank u.skipBlank := by
  induction h with
  | nil => exact .nil
  | cons c h ih =>
    rw [Text.skipBlank, Text.skipBlank, List.dropWhile_cons, List.dropWhile_cons]
    split
    · exact ih
    · exact .cons c h
  | @pad t u _ _ _ ih =>
    have hskip : Text.skipBlank (.carriageReturn :: u) = u.skipBlank :=
      List.dropWhile_cons_of_pos isBlank_carriageReturn
    rw [hskip]
    exact ih

section Spans

variable {p : CodePoint → Bool} (hp : ∀ c, isBreak c = true → p c = false)

include hp

theorem takeWhile_of_atBreak (h : AtBreak t) : t.takeWhile p = [] := by
  cases t with
  | nil => rfl
  | cons c t => simp [hp c (atBreak_cons.1 h)]

theorem dropWhile_of_atBreak (h : AtBreak t) : t.dropWhile p = t := by
  cases t with
  | nil => rfl
  | cons c t => simp [hp c (atBreak_cons.1 h)]

/-- Spans that end before line ends are the same in both texts. -/
theorem Padded.takeWhile_eq (h : Padded P t u) : t.takeWhile p = u.takeWhile p := by
  induction h with
  | nil => rfl
  | cons c _ ih => rw [List.takeWhile_cons, List.takeWhile_cons, ih]
  | pad lineEnd _ _ _ =>
    rw [takeWhile_of_atBreak hp lineEnd.atBreak,
      takeWhile_of_atBreak hp (atBreak_carriageReturn _)]

theorem Padded.dropWhile (h : Padded P t u) : Padded P (t.dropWhile p) (u.dropWhile p) := by
  induction h with
  | nil => exact .nil
  | cons c h ih =>
    rw [List.dropWhile_cons, List.dropWhile_cons]
    split
    · exact ih
    · exact .cons c h
  | pad lineEnd here h _ =>
    rw [dropWhile_of_atBreak hp lineEnd.atBreak,
      dropWhile_of_atBreak hp (atBreak_carriageReturn _)]
    exact .pad lineEnd here h

end Spans

/-! ## Pieces within lines -/

theorem Unbroken.of_cons (h : Unbroken (c :: piece)) : isBreak c = false ∧ Unbroken piece :=
  List.forall_mem_cons.1 h

/-- A solid piece does not stand at a line end. -/
theorem Solid.after?_of_atBreak (hp : Solid piece) (h : AtBreak t) : piece.after? t = none := by
  cases piece with
  | nil => exact absurd rfl hp.ne_nil
  | cons p ps =>
    cases t with
    | nil => rfl
    | cons c t =>
      have hc : c ≠ p := by
        rintro rfl
        simpa [hp.unbroken.of_cons.1] using atBreak_cons.1 h
      rw [after?, if_neg hc]

/-- **What follows an unbroken piece is padded again.** -/
theorem Padded.after? (h : Padded P t u) (hp : Unbroken piece) :
    Option.Rel (Padded P) (piece.after? t) (piece.after? u) := by
  induction piece generalizing t u with
  | nil => exact .some h
  | cons p ps ih =>
    cases h with
    | nil => exact .none
    | cons c h =>
      rw [Text.after?, Text.after?]
      split
      · exact ih h hp.of_cons.2
      · exact .none
    | pad lineEnd here h =>
      have hsolid : Solid (p :: ps) := ⟨hp, List.cons_ne_nil p ps⟩
      rw [hsolid.after?_of_atBreak lineEnd.atBreak,
        hsolid.after?_of_atBreak (atBreak_carriageReturn _)]
      exact .none

theorem isPrefixOf_eq (piece t : Text) : piece.isPrefixOf t = (piece.after? t).isSome := by
  induction piece generalizing t with
  | nil => simp [after?]
  | cons p ps ih =>
    cases t with
    | nil => rfl
    | cons c t =>
      rw [after?, List.isPrefixOf_cons_cons, ih]
      by_cases hc : c = p
      · simp [hc]
      · simp [hc, Ne.symm hc]

theorem Padded.isPrefixOf_eq (h : Padded P t u) (hp : Unbroken piece) :
    piece.isPrefixOf t = piece.isPrefixOf u := by
  rw [Text.isPrefixOf_eq, Text.isPrefixOf_eq]
  exact isSome_eq_of_rel (h.after? hp)

theorem occurs_nil (t : Text) : occurs [] t = true := by
  cases t with
  | nil => rfl
  | cons c t => simp [occurs]

/-- **An unbroken piece stands in both texts or in neither.** -/
theorem Padded.occurs_eq (h : Padded P t u) (hp : Unbroken piece) :
    piece.occurs t = piece.occurs u := by
  by_cases hne : piece = []
  · rw [hne, occurs_nil, occurs_nil]
  induction h with
  | nil => rfl
  | cons c h ih => rw [occurs, occurs, (Padded.cons c h).isPrefixOf_eq hp, ih]
  | pad _ _ _ ih =>
    have hsolid : Solid piece := ⟨hp, hne⟩
    rw [occurs, Text.isPrefixOf_eq, hsolid.after?_of_atBreak (atBreak_carriageReturn _), ih]
    rfl

/-! ## Cuts -/

section Cuts

variable {β : Type} {R : β → β → Prop} {f : Cut → Option β}

/-- A search that finds nothing at line ends finds the same in both texts, part by part.  At a line
    end, the code points before the two cuts may differ. -/
theorem Padded.forall₂_filterMap_cutsAfter (hbreak : ∀ b t, AtBreak t → f ⟨b, t⟩ = none)
    (hf : ∀ b t u, Padded P t u → Option.Rel R (f ⟨b, t⟩) (f ⟨b, u⟩)) (h : Padded P t u)
    (b b' : Option CodePoint) (hb : b = b' ∨ AtLineEnd t) :
    List.Forall₂ R ((cutsAfter b t).filterMap f) ((cutsAfter b' u).filterMap f) := by
  induction h generalizing b b' with
  | nil => simp [cutsAfter, hbreak _ _ atLineEnd_nil.atBreak]
  | @cons c t u h ih =>
    have hnext := ih (some c) (some c) (.inl rfl)
    have hhere : Option.Rel R (f ⟨b, c :: t⟩) (f ⟨b', c :: u⟩) := by
      rcases hb with rfl | hend
      · exact hf b _ _ (.cons c h)
      · rw [hbreak b _ hend.atBreak, hbreak b' _ ((Padded.cons c h).atBreak hend)]
        exact .none
    rw [cutsAfter, cutsAfter, List.filterMap_cons, List.filterMap_cons]
    generalize f ⟨b, c :: t⟩ = o at hhere ⊢
    generalize f ⟨b', c :: u⟩ = o' at hhere ⊢
    cases hhere with
    | none => exact hnext
    | some hab => exact .cons hab hnext
  | pad lineEnd _ _ ih =>
    rw [cutsAfter, List.filterMap_cons_none (hbreak _ _ (atBreak_carriageReturn _))]
    exact ih b _ (.inr lineEnd)

theorem Padded.forall₂_filterMap_cuts (h : Padded P t u)
    (hbreak : ∀ b t, AtBreak t → f ⟨b, t⟩ = none)
    (hf : ∀ b t u, Padded P t u → Option.Rel R (f ⟨b, t⟩) (f ⟨b, u⟩)) :
    List.Forall₂ R (t.cuts.filterMap f) (u.cuts.filterMap f) :=
  h.forall₂_filterMap_cutsAfter hbreak hf none none (.inl rfl)

theorem Padded.findSome?_cuts (h : Padded P t u) (hbreak : ∀ b t, AtBreak t → f ⟨b, t⟩ = none)
    (hf : ∀ b t u, Padded P t u → Option.Rel R (f ⟨b, t⟩) (f ⟨b, u⟩)) :
    Option.Rel R (t.cuts.findSome? f) (u.cuts.findSome? f) := by
  have hall := h.forall₂_filterMap_cuts hbreak hf
  rw [← List.head?_filterMap, ← List.head?_filterMap]
  generalize t.cuts.filterMap f = l at hall ⊢
  generalize u.cuts.filterMap f = r at hall ⊢
  cases hall with
  | nil => exact .none
  | cons hab _ => exact .some hab

variable {test : Cut → Bool}

theorem Padded.countP_cuts (h : Padded P t u) (hbreak : ∀ b t, AtBreak t → test ⟨b, t⟩ = false)
    (htest : ∀ b t u, Padded P t u → test ⟨b, t⟩ = test ⟨b, u⟩) :
    t.cuts.countP test = u.cuts.countP test := by
  have hcount : ∀ cs : List Cut, cs.countP test = (cs.filterMap (Option.guard test)).length := by
    intro cs
    rw [List.length_filterMap_eq_countP]
    exact List.countP_congr fun cut _ => by simp
  rw [hcount, hcount]
  refine (h.forall₂_filterMap_cuts (R := fun _ _ => True) ?_ ?_).length_eq
  · intro b t ht
    simp [Option.guard, hbreak b t ht]
  · intro b t u htu
    rw [Option.guard, Option.guard, htest b t u htu]
    split
    · exact .some trivial
    · exact .none

theorem Padded.any_cuts (h : Padded P t u) (hbreak : ∀ b t, AtBreak t → test ⟨b, t⟩ = false)
    (htest : ∀ b t u, Padded P t u → test ⟨b, t⟩ = test ⟨b, u⟩) :
    t.cuts.any test = u.cuts.any test := by
  have hcount := h.countP_cuts hbreak htest
  rw [Bool.eq_iff_iff, List.any_eq_true, List.any_eq_true, ← List.countP_pos_iff,
    ← List.countP_pos_iff, hcount]

end Cuts

/-! ## Words -/

theorem isWordPart_of_isBreak (c : CodePoint) (h : isBreak c = true) : isWordPart c = false :=
  eq_false_of_isBreak (by decide) (by decide) c h

section Words

variable {word : Text} {words : List Text}

theorem afterWord?_of_atBreak (hw : Solid word) (b : Option CodePoint) (h : AtBreak t) :
    Cut.afterWord? word ⟨b, t⟩ = none := by
  simp [Cut.afterWord?, hw.after?_of_atBreak h]

theorem Padded.cut_afterWord? (h : Padded P t u) (hw : Unbroken word) (b : Option CodePoint) :
    Option.Rel (Padded P) (Cut.afterWord? word ⟨b, t⟩) (Cut.afterWord? word ⟨b, u⟩) := by
  rw [Cut.afterWord?, Cut.afterWord?]
  split
  · exact .none
  · refine rel_filter (h.after? hw) fun t u htu => ?_
    rw [startsInWord, startsInWord, htu.any_head?_eq isWordPart_of_isBreak]

/-- **A word stands in both texts equally often.** -/
theorem Padded.countWord_eq (h : Padded P t u) (hw : Solid word) :
    t.countWord word = u.countWord word :=
  h.countP_cuts (fun b t ht => by simp [afterWord?_of_atBreak hw b ht])
    fun b _ _ htu => isSome_eq_of_rel (htu.cut_afterWord? hw.unbroken b)

theorem Padded.hasWord_eq (h : Padded P t u) (hw : Solid word) :
    t.hasWord word = u.hasWord word :=
  h.any_cuts (fun b t ht => by simp [afterWord?_of_atBreak hw b ht])
    fun b _ _ htu => isSome_eq_of_rel (htu.cut_afterWord? hw.unbroken b)

/-- What follows the first of some words is padded again. -/
theorem Padded.afterWord? (h : Padded P t u) (hw : ∀ word ∈ words, Solid word) :
    Option.Rel (Padded P) (t.afterWord? words) (u.afterWord? words) := by
  refine h.findSome?_cuts ?_ ?_
  · intro b t ht
    rw [List.findSome?_eq_none_iff]
    intro word hmem
    exact afterWord?_of_atBreak (hw word hmem) b ht
  · intro b t u htu
    induction words with
    | nil => exact .none
    | cons word words ih =>
      have hhere := htu.cut_afterWord? (hw word (by simp)).unbroken b
      rw [List.findSome?_cons, List.findSome?_cons]
      generalize Cut.afterWord? word ⟨b, t⟩ = o at hhere ⊢
      generalize Cut.afterWord? word ⟨b, u⟩ = o' at hhere ⊢
      cases hhere with
      | none => exact ih fun word hmem => hw word (by simp [hmem])
      | some hab => exact .some hab

end Words

end Text

end CodeSurvey
