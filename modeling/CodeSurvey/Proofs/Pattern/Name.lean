/-
  Patterns that are recognised by the names of functions.

  * `Pattern.Named`: a function whose name holds one of the keywords, the case of both aside;
    `Pattern.FoundByName`: what is found is the span of the first such function, if there is one;
  * `Pattern.Settled`: keywords each of which holds, in lower case, one that is written so;
  * `Pattern.foundByName_namedFunction?_iff`: for these, and only these, it does not matter that the
    keywords are taken as they are written;
  * `Pattern.match?_ignoring_case_iff`: the whole; `Pattern.capital_keyword`: a keyword with a capital
    letter is not found in its own lower-case form.
-/
import CodeSurvey.Pattern
import CodeSurvey.Proofs.Text.Case
import CodeSurvey.Proofs.Text.Cut

namespace CodeSurvey.Pattern

open Text (SameLetters)

variable {keywords keywords' : List Text} {f : FunctionInfo} {fs gs : List FunctionInfo}
  {found : Option Span} {d : PatternDefinition}

/-! ## Names -/

/-- The name of the function holds one of the keywords, the case of both aside. -/
def Named (keywords : List Text) (f : FunctionInfo) : Prop :=
  ∃ keyword ∈ keywords, keyword.lower <:+: f.name.lower

/-- Something is found if one of the functions is named by a keyword, and then it is the span of the
    first of these functions. -/
structure FoundByName (keywords : List Text) (fs : List FunctionInfo) (found : Option Span) :
    Prop where
  isSome_iff : found.isSome = true ↔ ∃ f ∈ fs, Named keywords f
  first : ∀ span ∈ found, ∃ before f after, fs = before ++ f :: after ∧ Named keywords f ∧
    (∀ g ∈ before, ¬ Named keywords g) ∧ f.span = span

theorem any_occurs_iff {name : Text} :
    (keywords.any fun keyword => keyword.occurs name) = true ↔
      ∃ keyword ∈ keywords, keyword <:+: name := by
  simp [Text.occurs_iff]

theorem any_occurs_map_lower_iff :
    ((keywords.map Text.lower).any fun keyword => keyword.occurs f.name.lower) = true ↔
      Named keywords f := by
  rw [any_occurs_iff]
  simp [Named]

/-- What is found ignoring case is what is found by the keywords in lower case. -/
theorem foundByName_iff :
    FoundByName keywords fs found ↔
      found = (namedFunction? (keywords.map Text.lower) fs).map FunctionInfo.span := by
  constructor
  · rintro ⟨hsome, hfirst⟩
    cases found with
    | none =>
      have hnone : ∀ f ∈ fs, ¬ Named keywords f := by simpa using hsome
      symm
      rw [Option.map_eq_none_iff, namedFunction?, List.find?_eq_none]
      intro f hf
      rw [any_occurs_map_lower_iff]
      exact hnone f hf
    | some span =>
      obtain ⟨before, f, after, rfl, hf, hbefore, rfl⟩ := hfirst span rfl
      symm
      rw [Option.map_eq_some_iff]
      refine ⟨f, List.find?_eq_some_iff_append.2 ⟨any_occurs_map_lower_iff.2 hf, before, after,
        rfl, ?_⟩, rfl⟩
      intro g hg
      rw [Bool.not_eq_true', ← Bool.not_eq_true, any_occurs_map_lower_iff]
      exact hbefore g hg
  · rintro rfl
    constructor
    · simp only [Option.isSome_map, namedFunction?, List.find?_isSome, any_occurs_map_lower_iff]
    · intro span hspan
      obtain ⟨f, hf, rfl⟩ := Option.map_eq_some_iff.1 hspan
      obtain ⟨hnamed, before, after, rfl, hbefore⟩ := List.find?_eq_some_iff_append.1 hf
      refine ⟨before, f, after, rfl, any_occurs_map_lower_iff.1 hnamed, ?_, rfl⟩
      intro g hg hname
      simpa [any_occurs_map_lower_iff.2 hname] using hbefore g hg

/-! ## Keywords as they are written -/

/-- Each of the keywords holds, in lower case, one of them as it is written. -/
def Settled (keywords : List Text) : Prop :=
  ∀ keyword ∈ keywords, ∃ keyword' ∈ keywords, keyword' <:+: keyword.lower

instance : Decidable (Settled keywords) :=
  inferInstanceAs
    (Decidable (∀ keyword ∈ keywords, ∃ keyword' ∈ keywords, keyword' <:+: keyword.lower))

/-- A keyword found in a name in lower case is in lower case itself. -/
theorem named_of_infix {keyword : Text} (hmem : keyword ∈ keywords)
    (h : keyword <:+: f.name.lower) : Named keywords f :=
  ⟨keyword, hmem, by rwa [Text.lower_eq_self_of_infix h]⟩

theorem Settled.exists_infix_iff (h : Settled keywords) :
    (∃ keyword ∈ keywords, keyword <:+: f.name.lower) ↔ Named keywords f := by
  constructor
  · rintro ⟨keyword, hmem, hinfix⟩
    exact named_of_infix hmem hinfix
  · rintro ⟨keyword, hmem, hinfix⟩
    obtain ⟨keyword', hmem', hinfix'⟩ := h keyword hmem
    exact ⟨keyword', hmem', hinfix'.trans hinfix⟩

/-- **The first function named by keywords as they are written is found ignoring case, exactly if the
    keywords are settled.** -/
theorem foundByName_namedFunction?_iff :
    (∀ fs, FoundByName keywords fs ((namedFunction? keywords fs).map FunctionInfo.span)) ↔
      Settled keywords := by
  constructor
  · intro h keyword hmem
    -- a function that has the keyword for its name
    let f : FunctionInfo := { name := keyword }
    have hnamed : Named keywords f := ⟨keyword, hmem, List.infix_refl _⟩
    have hsome := (h [f]).isSome_iff.2 ⟨f, List.mem_singleton_self f, hnamed⟩
    rw [Option.isSome_map, namedFunction?, List.find?_isSome] at hsome
    obtain ⟨g, hg, hany⟩ := hsome
    rw [List.mem_singleton.1 hg] at hany
    exact any_occurs_iff.1 hany
  · intro h fs
    rw [foundByName_iff]
    have hsame : ∀ f : FunctionInfo,
        (keywords.any fun keyword => keyword.occurs f.name.lower) =
          (keywords.map Text.lower).any fun keyword => keyword.occurs f.name.lower := by
      intro f
      rw [Bool.eq_iff_iff, any_occurs_iff, any_occurs_map_lower_iff, h.exists_infix_iff]
    simp only [namedFunction?, hsame]

theorem match?_of_nameKeywords (hd : d.nameKeywords ≠ []) (t : Text) (s : CodeStructure) :
    match? d t s = (namedFunction? d.nameKeywords s.allFunctions).map FunctionInfo.span := by
  rw [match?, if_neg (by simpa using hd)]

/-- What a definition with keywords finds is found ignoring case, exactly if they are settled. -/
theorem foundByName_match?_iff (hd : d.nameKeywords ≠ []) :
    (∀ t s, FoundByName d.nameKeywords (s.functions ++ s.classes.flatMap ClassInfo.methods)
      (match? d t s)) ↔ Settled d.nameKeywords := by
  rw [← foundByName_namedFunction?_iff]
  constructor
  · intro h fs
    have hfs := h [] { functions := fs }
    rw [match?_of_nameKeywords hd] at hfs
    simpa [CodeStructure.allFunctions, CodeStructure.methods] using hfs
  · intro h t s
    rw [match?_of_nameKeywords hd]
    exact h _

/-! ## The case of letters -/

/-- The functions have the same span and the same name, the case of ASCII letters aside. -/
def SameFunction (f g : FunctionInfo) : Prop :=
  SameLetters f.name g.name ∧ f.span = g.span

theorem namedFunction?_eq_of_sameFunctions (h : List.Forall₂ SameFunction fs gs) :
    (namedFunction? keywords fs).map FunctionInfo.span =
      (namedFunction? keywords gs).map FunctionInfo.span := by
  induction h with
  | nil => rfl
  | @cons f g fs gs hfg _ ih =>
    unfold namedFunction? at ih ⊢
    rw [List.find?_cons, List.find?_cons, Text.lower_eq_of_sameLetters hfg.1]
    split
    · simp [hfg.2]
    · exact ih

theorem foundByName_congr (h : List.Forall₂ SameLetters keywords keywords') :
    FoundByName keywords fs found ↔ FoundByName keywords' fs found := by
  have hlower : keywords.map Text.lower = keywords'.map Text.lower := by
    induction h with
    | nil => rfl
    | cons hkeyword _ ih => simp [Text.lower_eq_of_sameLetters hkeyword, ih]
  rw [foundByName_iff, foundByName_iff, hlower]

/-- **Keywords are found in the names of functions ignoring case, exactly if each of them holds in
    lower case one that is written so.**  What is found then is the span of the first function or
    method whose name holds a keyword, the case of both aside.  The case of ASCII letters in names
    never matters; changing it in such keywords changes nothing exactly if they stay such. -/
theorem match?_ignoring_case_iff (hd : d.nameKeywords ≠ []) :
    ((∀ t s, FoundByName d.nameKeywords (s.functions ++ s.classes.flatMap ClassInfo.methods)
        (match? d t s)) ↔ Settled d.nameKeywords) ∧
    (∀ t s s', List.Forall₂ SameFunction s.allFunctions s'.allFunctions →
      match? d t s = match? d t s') ∧
    (∀ d' : PatternDefinition, List.Forall₂ SameLetters d.nameKeywords d'.nameKeywords →
      Settled d.nameKeywords →
      ((∀ t s, match? d' t s = match? d t s) ↔ Settled d'.nameKeywords)) := by
  refine ⟨foundByName_match?_iff hd, ?_, ?_⟩
  · intro t s s' hsame
    rw [match?_of_nameKeywords hd, match?_of_nameKeywords hd,
      namedFunction?_eq_of_sameFunctions hsame]
  · intro d' hsame hsettled
    have hd' : d'.nameKeywords ≠ [] := by
      intro hnil
      rw [hnil, List.forall₂_nil_right_iff] at hsame
      exact hd hsame
    have hfound := (foundByName_match?_iff hd).2 hsettled
    rw [← foundByName_match?_iff hd']
    constructor
    · intro heq t s
      rw [heq t s, ← foundByName_congr hsame]
      exact hfound t s
    · intro hfound' t s
      have hs := foundByName_iff.1 ((foundByName_congr hsame).2 (hfound' t s))
      rw [hs, ← foundByName_iff.1 (hfound t s)]

/-- A definition that looks for functions that make something. -/
def makerDefinition : PatternDefinition where
  id := .ofString "maker"
  name := .ofString "Maker"
  category := .design
  confidence := .zero
  nameKeywords := [.ofString "create", .ofString "recreate"]

/-- The same with a capital letter in the second keyword, which holds the first one in lower case. -/
def mixedDefinition : PatternDefinition :=
  { makerDefinition with nameKeywords := [.ofString "create", .ofString "reCreate"] }

/-- A function, and a class with a method of the given name. -/
def shopStructure (method : String) : CodeStructure where
  functions := [{ name := .ofString "run", span := .single 1 }]
  classes := [{ name := .ofString "Shop"
                methods := [{ name := .ofString method, span := ⟨3, 5, by decide⟩ }] }]

/-- The method is found in either case, and by the keywords in either case. -/
theorem match?_ignoring_case_shop :
    makerDefinition.nameKeywords ≠ [] ∧ Settled makerDefinition.nameKeywords ∧
    FoundByName makerDefinition.nameKeywords
      ((shopStructure "CreateOrder").functions ++
        (shopStructure "CreateOrder").classes.flatMap ClassInfo.methods)
      (match? makerDefinition [] (shopStructure "CreateOrder")) ∧
    match? makerDefinition [] (shopStructure "CreateOrder") = some ⟨3, 5, by decide⟩ ∧
    match? makerDefinition [] (shopStructure "CreateOrder") =
      match? makerDefinition [] (shopStructure "createORDER") ∧
    (List.Forall₂ SameLetters makerDefinition.nameKeywords mixedDefinition.nameKeywords ∧
      Settled mixedDefinition.nameKeywords) ∧
    match? mixedDefinition [] (shopStructure "CreateOrder") =
      match? makerDefinition [] (shopStructure "CreateOrder") := by
  have hd : makerDefinition.nameKeywords ≠ [] := by decide
  obtain ⟨hfound, hnames, hkeywords⟩ := match?_ignoring_case_iff hd
  have hsettled : Settled makerDefinition.nameKeywords := by decide +kernel
  have hmixed : Settled mixedDefinition.nameKeywords := by decide +kernel
  have hsame : List.Forall₂ SameLetters makerDefinition.nameKeywords
      mixedDefinition.nameKeywords :=
    .cons (Text.sameLetters_iff.2 rfl) (.cons (Text.sameLetters_iff.2 (by decide)) .nil)
  refine ⟨hd, hsettled, hfound.2 hsettled _ _, by decide +kernel, hnames _ _ _ ?_,
    ⟨hsame, hmixed⟩, (hkeywords _ hsame hsettled).2 hmixed _ _⟩
  exact .cons ⟨Text.sameLetters_iff.2 rfl, rfl⟩ (.cons ⟨Text.sameLetters_iff.2 (by decide), rfl⟩ .nil)

/-- A definition whose only keyword starts with a capital letter. -/
def capitalDefinition : PatternDefinition :=
  { makerDefinition with nameKeywords := [.ofString "Create"] }

/-- A function whose name is that keyword in lower case. -/
def createStructure : CodeStructure where
  functions := [{ name := .ofString "create", span := .single 1 }]

/-- **A keyword with a capital letter is not found in its own lower-case form.** -/
theorem capital_keyword :
    match? capitalDefinition [] createStructure = none ∧
    (∃ f ∈ createStructure.functions, Named capitalDefinition.nameKeywords f) ∧
    ¬ FoundByName capitalDefinition.nameKeywords
      (createStructure.functions ++ createStructure.classes.flatMap ClassInfo.methods)
      (match? capitalDefinition [] createStructure) := by
  have hnone : match? capitalDefinition [] createStructure = none := by decide +kernel
  have hnamed : ∃ f ∈ createStructure.functions, Named capitalDefinition.nameKeywords f :=
    ⟨_, List.mem_cons_self, _, List.mem_cons_self, by decide +kernel⟩
  refine ⟨hnone, hnamed, ?_⟩
  intro hfound
  have hsome := hfound.isSome_iff.2 (by simpa [createStructure] using hnamed)
  rw [hnone] at hsome
  cases hsome

end CodeSurvey.Pattern
