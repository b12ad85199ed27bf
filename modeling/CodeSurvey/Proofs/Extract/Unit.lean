/-
  The structure of a source unit, whatever its parser does.

  * `Adapter`: a parser as its caller sees it; `Extract.unitFrom`: what a caller gets from it,
    of which `Extract.unit` is the case without effects (`Extract.unit_eq`);
  * `Extract.calls`: the calls of the parser on the way, one if it takes the language and
    none otherwise;
  * `Extract.Recorded`: the nodes of a tree that are recorded; `Extract.exists_structureOf_iff`:
    a tree has a structure exactly if none of them ends on a line before its start;
  * `Extract.valid_of_structureOf`: every structure of a tree is valid;
  * `Extract.extraction_all_or_nothing`: the whole.
-/
import CodeSurvey.Extract.Unit
import CodeSurvey.Proofs.Extract.Inventory
import CodeSurvey.Proofs.Structure.Written

namespace CodeSurvey

/-! ## Parsers as their callers see them -/

/-- A parser as its caller sees it: the grammars that it takes, and what a call gives, with the
    effects of `m`.  The nodes of a tree name ranges of the bytes of the text. -/
structure Adapter (m : Type → Type) where
  grammars : List Grammar
  parse : Text → Text → m (Except Parser.Trouble Node × List Diagnostic)

namespace Adapter

/-- Whether it takes the language of a tag. -/
def supports {m : Type → Type} (a : Adapter m) (tag : Text) : Bool :=
  (Grammar.ofTag? tag).any fun g => g ∈ a.grammars

/-- The same parser, which also notes the arguments of each call. -/
def noted (a : Adapter Id) : Adapter (StateM (List (Text × Text))) where
  grammars := a.grammars
  parse text tag := do
    modify (· ++ [(text, tag)])
    return a.parse text tag

theorem supports_eq {m : Type → Type} (a : Adapter m) {tag : Text} {g : Grammar}
    (known : Grammar.ofTag? tag = some g) : a.supports tag = decide (g ∈ a.grammars) := by
  rw [supports, known, Option.any_some]

/-- The tag and the name of the grammar that it means are taken alike. -/
theorem supports_name {m : Type → Type} (a : Adapter m) {tag : Text} {g : Grammar}
    (known : Grammar.ofTag? tag = some g) : a.supports g.name = a.supports tag := by
  rw [a.supports_eq known, a.supports_eq (Grammar.ofTag?_name g)]

theorem supports_iff {m : Type → Type} (a : Adapter m) {tag : Text} :
    a.supports tag = true ↔ ∃ g, Grammar.ofTag? tag = some g ∧ g ∈ a.grammars := by
  simp [supports, Option.any_eq_true]

end Adapter

/-- A parser, as its caller sees it. -/
def Parser.adapter (p : Parser) : Adapter Id :=
  ⟨p.grammars, p.parse⟩

namespace Extract

variable {m : Type → Type} [Monad m] {text tag : Text} {g : Grammar}

/-- What a caller has after the parser has answered. -/
def answered (text : Text) (g : Grammar) (parsed : Except Parser.Trouble Node × List Diagnostic) :
    CodeStructure × List Diagnostic :=
  let found := ofParsed text g parsed.1
  (found.1, parsed.2 ++ found.2)

/-- The structure of a text in the language of a tag, with the effects of the parser. -/
def unitFrom (a : Adapter m) (text tag : Text) : m (CodeStructure × List Diagnostic) :=
  match (Grammar.ofTag? tag).filter fun g => a.supports g.name with
  | none => return (.empty, [])
  | some g => do
    let parsed ← a.parse text g.name
    return answered text g parsed

theorem unit_eq (p : Parser) (text tag : Text) : unit p text tag = unitFrom p.adapter text tag := by
  have hs : ∀ tag, p.supports tag = p.adapter.supports tag := fun _ => rfl
  simp only [unit, unitFrom, hs]
  cases (Grammar.ofTag? tag).filter fun g => p.adapter.supports g.name with
  | none => rfl
  | some g => rfl

theorem unitFrom_of_supports {a : Adapter m} (known : Grammar.ofTag? tag = some g)
    (h : g ∈ a.grammars) :
    unitFrom a text tag = do return answered text g (← a.parse text g.name) := by
  have hg : a.supports g.name = true := by
    rw [a.supports_name known, a.supports_eq known, decide_eq_true h]
  rw [unitFrom, known, Option.filter_some, if_pos hg]

theorem unitFrom_of_not_supports {a : Adapter m} (h : a.supports tag = false) :
    unitFrom a text tag = return (.empty, []) := by
  have hnone : (Grammar.ofTag? tag).filter (fun g => a.supports g.name) = none := by
    rw [Option.filter_eq_none_iff]
    intro g known
    rw [a.supports_name known, h]
    exact Bool.false_ne_true
  rw [unitFrom, hnone]

/-! ## Calls of the parser -/

/-- The calls of the parser on the way to a structure. -/
def calls (a : Adapter Id) (text tag : Text) : List (Text × Text) :=
  ((unitFrom a.noted text tag).run []).2

theorem run_noted (a : Adapter Id) (text tag : Text) :
    (unitFrom a.noted text tag).run [] = (unitFrom a text tag, calls a text tag) := by
  refine Prod.ext ?_ rfl
  cases h : a.supports tag with
  | true =>
    obtain ⟨g, known, hg⟩ := a.supports_iff.1 h
    rw [unitFrom_of_supports (a := a.noted) known hg, unitFrom_of_supports known hg]
    rfl
  | false =>
    rw [unitFrom_of_not_supports (a := a.noted) h, unitFrom_of_not_supports h]
    rfl

theorem calls_of_supports {a : Adapter Id} (known : Grammar.ofTag? tag = some g)
    (h : g ∈ a.grammars) : calls a text tag = [(text, g.name)] := by
  rw [calls, unitFrom_of_supports (a := a.noted) known h]
  rfl

theorem calls_of_not_supports {a : Adapter Id} (h : a.supports tag = false) :
    calls a text tag = [] := by
  rw [calls, unitFrom_of_not_supports (a := a.noted) h]
  rfl

/-! ## Recorded nodes -/

/-- The nodes of a tree of which records are made. -/
inductive Recorded (root : Node) : Node → Prop
  | function {n : Node} (below : n ∈ root.descendants) (named : n.isNamed = true)
      (kind : n.isFunction = true) : Recorded root n
  | class_ {n : Node} (below : n ∈ root.descendants) (named : n.isNamed = true)
      (kind : n.isClass = true) : Recorded root n
  | method {n body m : Node} (below : n ∈ root.descendants) (named : n.isNamed = true)
      (kind : n.isClass = true) (hbody : n.child? "body" = some body)
      (member : m ∈ body.namedChildren) (hm : m.kind = "method_definition") : Recorded root m

theorem mem_methodNodes_iff {n m : Node} :
    m ∈ methodNodes n ↔ ∃ body, n.child? "body" = some body ∧ m ∈ body.namedChildren ∧
      m.kind = "method_definition" := by
  unfold methodNodes members
  cases n.child? "body" with
  | none => simp
  | some body => simp

variable {s : Source} {root : Node} {c : CodeStructure}

/-- All records can be made exactly if no recorded node ends on a line before its start. -/
theorem recordable_iff :
    (∀ n ∈ root.descendants, Recordable s n) ↔ ∀ n, Recorded root n → Upright s n := by
  constructor
  · intro h n hn
    cases hn with
    | function below named kind => exact (h n below named).1 kind
    | class_ below named kind => exact ((h n below named).2 kind).1
    | method below named kind hbody member hm =>
      exact ((h _ below named).2 kind).2 n (mem_methodNodes_iff.2 ⟨_, hbody, member, hm⟩)
  · intro h n below named
    refine ⟨fun kind => h n (.function below named kind), fun kind => ?_⟩
    refine ⟨h n (.class_ below named kind), ?_⟩
    intro m hm
    obtain ⟨body, hbody, member, hm⟩ := mem_methodNodes_iff.1 hm
    exact h m (.method below named kind hbody member hm)

/-- **A tree has a structure exactly if no recorded node ends on a line before its start.** -/
theorem exists_structureOf_iff :
    (∃ c, structureOf s root = .ok c) ↔ ∀ n, Recorded root n → Upright s n := by
  rw [← recordable_iff]
  constructor
  · rintro ⟨c, hc⟩
    exact recordable_of_structureOf hc
  · exact exists_structureOf

/-! ## Constraints on fields -/

theorem valid_of_functionInfo {n : Node} {name : Text} {f : FunctionInfo}
    (h : functionInfo s n name = .ok f) : f.Valid := by
  obtain ⟨range, -, rfl⟩ := functionInfo_eq_ok_iff.1 h
  exact Nat.le_add_left 1 _

theorem mem_keepNamed_iff {i j : ImportInfo} : i ∈ keepNamed j ↔ i = j ∧ j.Valid := by
  unfold keepNamed
  by_cases hj : j.source.isEmpty = true
  · simp [ImportInfo.Valid, List.isEmpty_iff.1 hj]
  · have hvalid : j.Valid := fun hnil => hj (by rw [hnil]; rfl)
    rw [if_neg hj, List.mem_singleton, and_iff_left hvalid]

/-- What a call imports, field by field. -/
theorem callImports_cases {p : Place} {i : ImportInfo} (h : i ∈ callImports s p) :
    i.Valid ∧ ∃ callee, p.node.child? "function" = some callee ∧
      i.isDynamic = (callee.kind == "import") ∧
      i.isRequire = (callee.kind == "identifier" && s.text callee == requireName) ∧
      i.isDefault = !i.bindings.isEmpty ∧
      i.bindings = if i.isRequire then
          (initialisedName? s p).toList.map fun name => ⟨defaultName, some name⟩
        else [] := by
  unfold callImports at h
  split at h
  · rename_i callee arguments hf _
    split at h
    · dsimp only at h
      split at h
      · obtain ⟨rfl, hvalid⟩ := mem_keepNamed_iff.1 h
        exact ⟨hvalid, callee, hf, rfl, rfl, rfl, rfl⟩
      · cases h
    · cases h
  · cases h

theorem valid_of_mem_importsAt {p : Place} {i : ImportInfo} (h : i ∈ importsAt s p) : i.Valid := by
  unfold importsAt at h
  split_ifs at h
  · obtain ⟨rfl, hvalid⟩ := mem_keepNamed_iff.1 h
    exact hvalid
  · exact (callImports_cases h).1
  · cases h

/-- **Every structure of a tree is valid.** -/
theorem valid_of_structureOf (h : structureOf s root = .ok c) : c.Valid := by
  have hi := inventory_of_ok h
  constructor
  · exact forall_of_forall₂ hi.functions fun _ _ hf => valid_of_functionInfo hf
  · refine forall_of_forall₂ hi.classes fun _ k hk => ?_
    exact forall_of_forall₂ hk.2 fun _ _ hf => valid_of_functionInfo hf
  · intro i hi'
    rw [hi.imports] at hi'
    obtain ⟨sp, -, hsp⟩ := List.mem_flatMap.1 hi'
    exact valid_of_mem_importsAt hsp

theorem valid_empty : CodeStructure.empty.Valid := by
  constructor <;> simp [CodeStructure.empty]

/-! ## All or nothing -/

theorem answered_of_ok {ds : List Diagnostic} (h : structureOf (.ofText text) root = .ok c) :
    answered text g (.ok root, ds) = (c, ds) := by
  simp [answered, ofParsed, h]

theorem answered_of_error {ds : List Diagnostic} {cause : Cause}
    (h : structureOf (.ofText text) root = .error cause) :
    answered text g (.ok root, ds) = (.empty, ds ++ [.extractionFailed g.name cause.message]) := by
  simp [answered, ofParsed, h]

/-- A parser's answer beside what its caller has then: with no tree the empty structure and a
    diagnostic of the reason; with a tree its complete structure and no further diagnostic, or, if a
    recorded node ends on a line before its start and only then, the empty structure and a
    diagnostic. -/
def AllOrNothing (text : Text) (g : Grammar) (result : CodeStructure × List Diagnostic) :
    Except Parser.Trouble Node × List Diagnostic → Prop
  | (.error (.parse e), ds) =>
    result = (.empty, ds ++ [.parseFailed g.name e.cause.message e.line e.column])
  | (.error (.failure f), ds) => result = (.empty, ds ++ [.extractionFailed g.name f.text])
  | (.ok root, ds) =>
    ((∃ message, result = (.empty, ds ++ [.extractionFailed g.name message])) ↔
      ∃ n, Recorded root n ∧ ¬ Upright (.ofText text) n) ∧
    ((∀ n, Recorded root n → Upright (.ofText text) n) →
      result.2 = ds ∧ structureOf (.ofText text) root = .ok result.1 ∧
        Inventory (.ofText text) root result.1)

theorem allOrNothing_answered (parsed : Except Parser.Trouble Node × List Diagnostic) :
    AllOrNothing text g (answered text g parsed) parsed := by
  obtain ⟨outcome, ds⟩ := parsed
  match outcome with
  | .error (.parse e) => rfl
  | .error (.failure f) => rfl
  | .ok root =>
    cases h : structureOf (.ofText text) root with
    | ok c =>
      have hup := exists_structureOf_iff.1 ⟨c, h⟩
      rw [answered_of_ok h]
      refine ⟨⟨?_, ?_⟩, fun _ => ⟨rfl, h, inventory_of_ok h⟩⟩
      · rintro ⟨message, heq⟩
        have hlen := congrArg (fun result => result.2.length) heq
        simp at hlen
      · rintro ⟨n, hn, hrev⟩
        exact absurd (hup n hn) hrev
    | error cause =>
      have hrev : ¬ ∀ n, Recorded root n → Upright (.ofText text) n := by
        intro hup
        obtain ⟨c, hc⟩ := exists_structureOf_iff.2 hup
        rw [h] at hc
        cases hc
      rw [answered_of_error h]
      refine ⟨⟨?_, fun _ => ⟨_, rfl⟩⟩, fun hup => absurd hup hrev⟩
      rintro -
      simpa using hrev

theorem valid_answered (parsed : Except Parser.Trouble Node × List Diagnostic) :
    (answered text g parsed).1.Valid := by
  obtain ⟨outcome, ds⟩ := parsed
  match outcome with
  | .error (.parse e) => exact valid_empty
  | .error (.failure f) => exact valid_empty
  | .ok root =>
    cases h : structureOf (.ofText text) root with
    | ok c =>
      rw [answered_of_ok h]
      exact valid_of_structureOf h
    | error cause =>
      rw [answered_of_error h]
      exact valid_empty

theorem valid_unitFrom (a : Adapter Id) (text tag : Text) : (unitFrom a text tag).1.Valid := by
  cases h : a.supports tag with
  | true =>
    obtain ⟨g, known, hg⟩ := a.supports_iff.1 h
    rw [unitFrom_of_supports known hg]
    exact valid_answered (a.parse text g.name)
  | false =>
    rw [unitFrom_of_not_supports h]
    exact valid_empty

/-- **Extraction gives the complete structure of the tree or the empty one, whatever the parser
    does.**  The parser is called, once and with the name of the grammar, exactly if it takes the
    language; the tag and the name of its grammar are taken alike.  When it fails, in whatever way,
    the structure is empty and a diagnostic says why.  When it gives a tree, the structure is that of
    the whole tree, except if some recorded node ends on a line before its start: then it is empty,
    beside a diagnostic.  In every case the records satisfy the constraints on their fields. -/
theorem extraction_all_or_nothing (a : Adapter Id) (text tag : Text) :
    (∀ p : Parser, unit p text tag = unitFrom p.adapter text tag) ∧
    (unitFrom a.noted text tag).run [] = (unitFrom a text tag, calls a text tag) ∧
    (∀ g, Grammar.ofTag? tag = some g → a.supports g.name = a.supports tag) ∧
    (a.supports tag = false → calls a text tag = [] ∧ unitFrom a text tag = (.empty, [])) ∧
    (a.supports tag = true → ∃ g, Grammar.ofTag? tag = some g ∧
      calls a text tag = [(text, g.name)] ∧
      AllOrNothing text g (unitFrom a text tag) (a.parse text g.name)) ∧
    (unitFrom a text tag).1.Valid ∧
    CodeStructure.read (unitFrom a text tag).1.toData = .good (unitFrom a text tag).1 := by
  have hvalid := valid_unitFrom a text tag
  refine ⟨fun p => unit_eq p text tag, run_noted a text tag, fun g known => a.supports_name known,
    fun h => ⟨calls_of_not_supports h, unitFrom_of_not_supports h⟩, ?_, hvalid,
    CodeStructure.read_toData_iff.2 hvalid⟩
  intro h
  obtain ⟨g, known, hg⟩ := a.supports_iff.1 h
  refine ⟨g, known, calls_of_supports known hg, ?_⟩
  rw [unitFrom_of_supports known hg]
  exact allOrNothing_answered (a.parse text g.name)

/-- A tree of an import and of a function that starts on the second line and ends on the first. -/
def reversedTree : Node :=
  .mk ⟨"program", 0, 12, true, false, none⟩
    [.mk ⟨"import_statement", 0, 10, true, false, none⟩
      [.mk ⟨"string", 7, 10, true, false, some "source"⟩ []],
      .mk ⟨"function_declaration", 11, 10, true, false, none⟩ []]

/-- The import before the function is given up too. -/
theorem extraction_all_or_nothing_reversed :
    (Parser.tree (some reversedTree) true Grammar.all).adapter.supports (Text.ofString "js") = true ∧
    ∃ message, unit (.tree (some reversedTree) true Grammar.all) (Text.ofString "import 'a'\nf")
      (Text.ofString "js") = (.empty, [.extractionFailed Grammar.javascript.name message]) := by
  have hs : (Parser.tree (some reversedTree) true Grammar.all).adapter.supports
      (Text.ofString "js") = true := by decide +kernel
  obtain ⟨hunit, -, -, -, hout, -⟩ := extraction_all_or_nothing
    (Parser.tree (some reversedTree) true Grammar.all).adapter (Text.ofString "import 'a'\nf")
    (Text.ofString "js")
  obtain ⟨g, known, -, hall⟩ := hout hs
  obtain rfl : g = .javascript := by
    have : Grammar.ofTag? (Text.ofString "js") = some .javascript := by decide +kernel
    exact Option.some.inj (known.symm.trans this)
  have hp : (Parser.tree (some reversedTree) true Grammar.all).adapter.parse
      (Text.ofString "import 'a'\nf") Grammar.javascript.name = (.ok reversedTree, []) := by
    rfl
  rw [hp, ← hunit] at hall
  exact ⟨hs, hall.1.2 ⟨_, .function (n := .mk ⟨"function_declaration", 11, 10, true, false, none⟩ [])
    (by simp [reversedTree, Node.descendants, Node.listing]) rfl rfl, by decide +kernel⟩⟩

end Extract

end CodeSurvey
