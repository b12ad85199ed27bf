/-
  The structure of a source unit.

  `Extract.unit` parses a text and extracts its structure.  Whatever goes wrong on
  the way, the result is a structure: that of the tree, or the empty one beside a
  diagnostic.
-/
import CodeSurvey.Extract.Structure
import CodeSurvey.Parser

namespace CodeSurvey.Extract

/-- The structure of a parsed text, or the empty one and a diagnostic. -/
def ofParsed (text : Text) (g : Grammar) :
    Except Parser.Trouble Node → CodeStructure × List Diagnostic
  | .error (.parse e) => (.empty, [.parseFailed g.name e.cause.message e.line e.column])
  | .error (.failure f) => (.empty, [.extractionFailed g.name f.text])
  | .ok root =>
    match structureOf (Source.ofText text) root with
    | .ok found => (found, [])
    | .error cause => (.empty, [.extractionFailed g.name cause.message])

/-- The structure of a text in the language of a tag, with the diagnostics. -/
def unit (p : Parser) (text tag : Text) : CodeStructure × List Diagnostic :=
  match (Grammar.ofTag? tag).filter fun g => p.supports g.name with
  | none => (.empty, [])
  | some g =>
    let parsed := p.parse text g.name
    let found := ofParsed text g parsed.1
    (found.1, parsed.2 ++ found.2)

end CodeSurvey.Extract
