/-
  What a parser reports of the broken places of a tree.

  * `Parser.brokenAt`: the error that names a broken node by its line and column;
  * `Parser.checkTree_eq`: the check of a tree, by its first broken node;
  * `Parser.parse_tree_eq`, `Parser.unit_tree_eq`: the parser that holds a tree, and the
    structure that comes of it;
  * `Parser.broken_places_reported`: all broken nodes are found, and the first is reported.
-/
import CodeSurvey.Proofs.Extract.Unit
import CodeSurvey.Proofs.Tree.Fault

namespace CodeSurvey.Parser

variable {held : List Grammar} {text tag : Text} {g : Grammar} {root : Node} {strict : Bool}

/-- The error that names a broken node: its line, and its column in bytes, both from 1. -/
def brokenAt (s : Source) (g : Grammar) (n : Node) : ParseError where
  cause := .broken
  language := some g.name
  line := some ((s.row n.info.start + 1 : Nat) : Int)
  column := some ((s.column n.info.start + 1 : Nat) : Int)

/-- The check of a tree: its first broken node decides. -/
theorem checkTree_eq (strict : Bool) (s : Source) (g : Grammar) (root : Node) :
    checkTree strict s g root =
      match root.subtrees.find? Node.isBroken with
      | none => (.ok root, [])
      | some first =>
        if strict then (.error (brokenAt s g first), [])
        else (.ok root,
          [.treeHasErrors g.name (root.subtrees.countP Node.isBroken) (s.row first.info.start + 1)]) := by
  unfold checkTree
  cases hfind : root.subtrees.find? Node.isBroken with
  | none =>
    have hb : root.hasBroken = false := by
      rw [Node.hasBroken_eq_false_iff]
      intro n hn
      simpa using List.find?_eq_none.1 hfind n hn
    rw [hb]
    rfl
  | some first =>
    have hb : root.hasBroken = true :=
      (Node.hasBroken_iff root).2
        ⟨first, List.mem_of_find?_eq_some hfind, List.find?_some hfind⟩
    rw [hb, Node.head?_brokenNodes, hfind, Node.length_brokenNodes]
    cases strict with
    | true => rfl
    | false => rfl

theorem parse_tree_eq (encodable : Utf8.isEncodable text = true)
    (known : Grammar.ofTag? tag = some g) (hheld : g ∈ held) :
    (tree (some root) strict held).parse text tag =
      ((checkTree strict (.ofText text) g root).1.mapError .parse,
        (checkTree strict (.ofText text) g root).2) := by
  simp only [parse, parseTree, known, encodable, Bool.not_true, Bool.false_eq_true, if_false,
    hheld, not_true_eq_false]

theorem unit_tree_eq (encodable : Utf8.isEncodable text = true)
    (known : Grammar.ofTag? tag = some g) (hheld : g ∈ held) :
    Extract.unit (tree (some root) strict held) text tag =
      Extract.answered text g ((tree (some root) strict held).parse text tag) := by
  have hg : g ∈ (tree (some root) strict held).adapter.grammars := by
    show g ∈ Grammar.all
    cases g <;> decide
  rw [Extract.unit_eq, Extract.unitFrom_of_supports known hg, parse_tree_eq encodable known hheld,
    ← parse_tree_eq encodable (Grammar.ofTag?_name g) hheld]
  rfl

theorem find?_isBroken_eq_none_iff :
    root.subtrees.find? Node.isBroken = none ↔ ∀ n ∈ root.subtrees, n.isBroken = false := by
  simp

/-- **Broken places are all found, and the first one is reported.**  The search finds exactly the
    broken nodes of the whole tree, each once, in the order of the source.  A strict parser
    succeeds exactly if there are none; else it names the line and the column of the first, and so
    does the one diagnostic beside the empty structure.  A lenient parser always gives the tree, and
    warns, with the number of broken nodes, exactly if there are some.  Where there are none both
    parsers lead to the same structure. -/
theorem broken_places_reported (root : Node) {held : List Grammar} {text tag : Text} {g : Grammar}
    (encodable : Utf8.isEncodable text = true) (known : Grammar.ofTag? tag = some g)
    (hheld : g ∈ held) :
    (∀ n : Node, n.hasBroken = true ↔ ∃ m ∈ n.subtrees, m.isBroken = true) ∧
    root.brokenNodes = root.subtrees.filter Node.isBroken ∧
    root.brokenNodes =
      (root.sites.filter fun sp => sp.place.node.isBroken).map (fun sp => sp.place.node) ∧
    (root.sites.map Spot.address).Nodup ∧
    ((∃ t, ((tree (some root) true held).parse text tag).1 = .ok t) ↔
      ∀ n ∈ root.subtrees, n.isBroken = false) ∧
    (∀ first, root.subtrees.find? Node.isBroken = some first →
      (tree (some root) true held).parse text tag =
        (.error (.parse (brokenAt (.ofText text) g first)), []) ∧
      Extract.unit (tree (some root) true held) text tag =
        (.empty, [.parseFailed g.name ParseCause.broken.message
          (brokenAt (.ofText text) g first).line (brokenAt (.ofText text) g first).column])) ∧
    ((tree (some root) false held).parse text tag).1 = .ok root ∧
    ((tree (some root) false held).parse text tag).2 =
      (match root.subtrees.find? Node.isBroken with
       | none => []
       | some first =>
         [.treeHasErrors g.name (root.subtrees.countP Node.isBroken)
           ((Source.ofText text).row first.info.start + 1)]) ∧
    ((∀ n ∈ root.subtrees, n.isBroken = false) →
      (tree (some root) true held).parse text tag = (.ok root, []) ∧
      Extract.unit (tree (some root) true held) text tag =
        Extract.unit (tree (some root) false held) text tag) := by
  have hparse : ∀ strict, (tree (some root) strict held).parse text tag =
      ((checkTree strict (.ofText text) g root).1.mapError .parse,
        (checkTree strict (.ofText text) g root).2) :=
    fun _ => parse_tree_eq encodable known hheld
  have hunit : ∀ strict, Extract.unit (tree (some root) strict held) text tag =
      Extract.answered text g ((tree (some root) strict held).parse text tag) :=
    fun _ => unit_tree_eq encodable known hheld
  refine ⟨Node.hasBroken_iff, Node.brokenNodes_eq root, Node.brokenNodes_sites root,
    Node.nodup_sites root, ?_⟩
  simp only [hunit, hparse, checkTree_eq]
  cases hfind : root.subtrees.find? Node.isBroken with
  | none =>
    have hclean := find?_isBroken_eq_none_iff.1 hfind
    refine ⟨⟨fun _ => hclean, fun _ => ⟨root, rfl⟩⟩, nofun, rfl, rfl, fun _ => ⟨rfl, rfl⟩⟩
  | some first =>
    have hbroken : ¬ ∀ n ∈ root.subtrees, n.isBroken = false := by
      rw [← find?_isBroken_eq_none_iff, hfind]
      exact nofun
    refine ⟨⟨?_, fun h => absurd h hbroken⟩, ?_, rfl, rfl, fun h => absurd h hbroken⟩
    · rintro ⟨t, ⟨⟩⟩
    · rintro _ ⟨⟩
      exact ⟨rfl, rfl⟩

/-- The tree of a call with a misread argument inside a misread statement on the second line, and
    of a missing semicolon far below nodes that are sound. -/
def brokenTree : Node :=
  .mk ⟨"program", 0, 11, true, false, none⟩
    [.mk ⟨"expression_statement", 0, 2, true, false, none⟩
      [.mk ⟨"identifier", 0, 1, true, false, none⟩ [], .mk ⟨";", 1, 2, false, false, none⟩ []],
      .mk ⟨"ERROR", 4, 9, true, false, none⟩
        [.mk ⟨"identifier", 4, 5, true, false, none⟩ [], .mk ⟨"ERROR", 6, 8, true, false, none⟩ []],
      .mk ⟨"expression_statement", 10, 11, true, false, none⟩
        [.mk ⟨"identifier", 10, 11, true, false, none⟩ [],
          .mk ⟨";", 11, 11, false, true, none⟩ []]]

/-- Three broken nodes; the first is at line 2, column 2. -/
theorem broken_places_reported_three :
    Utf8.isEncodable (Text.ofString "a;\n b(++)\nc") = true ∧
    Grammar.ofTag? (Text.ofString "JS") = some .javascript ∧
    brokenTree.brokenNodes.length = 3 ∧
    Extract.unit (tree (some brokenTree) true Grammar.all) (Text.ofString "a;\n b(++)\nc")
      (Text.ofString "JS") =
        (.empty, [.parseFailed Grammar.javascript.name ParseCause.broken.message
          (some 2) (some 2)]) := by
  have encodable : Utf8.isEncodable (Text.ofString "a;\n b(++)\nc") = true := by decide +kernel
  have known : Grammar.ofTag? (Text.ofString "JS") = some .javascript := by decide +kernel
  obtain ⟨-, hall, -, -, -, hfirst, -⟩ :=
    broken_places_reported brokenTree encodable known (by decide : Grammar.javascript ∈ Grammar.all)
  refine ⟨encodable, known, ?_, ?_⟩
  · rw [hall]
    decide +kernel
  · exact (hfirst _ rfl).2

end CodeSurvey.Parser
