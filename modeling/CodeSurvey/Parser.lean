/-
  Parsers.

  A parser is handed in: it gives a tree for a source, whatever its method, or it
  fails.  That a signal to exit comes while it parses is left out.

  * `Parser.tree`: gives a tree that it holds, for the grammars that it holds; a
    strict one refuses a tree with broken places;
  * `Parser.failing`: always fails, in the way it holds;
  * `Parser.supports`: whether it takes a language tag;
  * `Parser.parse`: the tree of a source, or the trouble, beside the diagnostics.
-/
import CodeSurvey.Diagnostic
import CodeSurvey.Language
import CodeSurvey.Tree.Fault
import CodeSurvey.Tree.Source

namespace CodeSurvey

/-- What gives trees for sources. -/
inductive Parser where
  /-- Gives the tree `root?` for every source in one of the grammars `held`. -/
  | tree (root? : Option Node) (strict : Bool) (held : List Grammar)
  /-- Takes the grammars `supported` and fails on every source, with a failure that is handled; a
      signal to exit is none. -/
  | failing (supported : List Grammar) (failure : Failure)

namespace Parser

/-- The grammars that a parser takes. -/
def grammars : Parser → List Grammar
  | tree .. => Grammar.all
  | failing supported _ => supported

/-- Whether a parser takes the language of a tag. -/
def supports (p : Parser) (tag : Text) : Bool :=
  (Grammar.ofTag? tag).any fun g => g ∈ p.grammars

/-- Why a parser gives no tree. -/
inductive Trouble where
  | parse (error : ParseError)
  | failure (failure : Failure)
  deriving DecidableEq, Repr

/-- The kind of failure that is a parse error without a place. -/
def parseErrorKind : Text := Text.ofString "ParserError"

/-- The trouble that a failure makes. -/
def Trouble.ofFailure (f : Failure) : Trouble :=
  if f.kind = parseErrorKind then .parse { cause := .reported f.message } else .failure f

/-- The tree of a grammar's parser, with a diagnostic where it has broken places; a strict parser
    refuses such a tree, and names the first of them. -/
def checkTree (strict : Bool) (source : Source) (g : Grammar) (root : Node) :
    Except ParseError Node × List Diagnostic :=
  if root.hasBroken then
    let first := root.brokenNodes.head?.getD root
    if strict then
      let line : Nat := source.firstLine first
      let column : Nat := source.column first.info.start + 1
      (.error ⟨.broken, g.name, some line, some column⟩, [])
    else
      (.ok root, [.treeHasErrors g.name root.brokenNodes.length (source.firstLine first)])
  else (.ok root, [])

/-- Parse a text with a tree that is held. -/
def parseTree (root? : Option Node) (strict : Bool) (held : List Grammar) (text tag : Text) :
    Except ParseError Node × List Diagnostic :=
  match Grammar.ofTag? tag with
  | none => (.error { cause := .unsupported, language := tag }, [])
  | some g =>
    if !Utf8.isEncodable text then (.error { cause := .invalidText, language := g.name }, [])
    else if g ∉ held then (.error { cause := .noParser, language := g.name }, [])
    else match root? with
      | none => (.error { cause := .noTree, language := g.name }, [])
      | some root => checkTree strict (Source.ofText text) g root

/-- The tree of a text, or the trouble, with the diagnostics of the way there. -/
def parse (p : Parser) (text tag : Text) : Except Trouble Node × List Diagnostic :=
  match p with
  | tree root? strict held =>
    let result := parseTree root? strict held text tag
    (result.1.mapError .parse, result.2)
  | failing _ failure => (.error (.ofFailure failure), [])

end Parser

end CodeSurvey
