/-
  The dependency graph of a project.

  * `Dependency.project`: the graph of some modules with their imports;
  * `Dependency.graph`: the graph of a single module.
-/
import CodeSurvey.Dependency.Walk

namespace CodeSurvey.Dependency

/-- The id of the module under analysis. -/
def mainModule : Text := Text.ofString "main"

/-- The node of a module. -/
def makeNode (platform : List Text) (id : Text) : DependencyNode :=
  if id = mainModule then { id, name := id, kind := .internal }
  else { id, name := id, kind := classify platform id, path := some id }

/-- How an import refers to its module. -/
def edgeKind (i : ImportInfo) : EdgeKind :=
  if i.isDynamic then .dynamic else if i.isRequire then .require else .import_

/-- A module of a project: its id and its imports. -/
abbrev Module := Text × List ImportInfo

/-- The ids of modules and of what they import, in the order of first appearance. -/
def moduleIds (modules : List Module) : List Text :=
  distinct (modules.flatMap fun m => m.1 :: m.2.map ImportInfo.source)

/-- The references of a module. -/
def moduleEdges (m : Module) : List DependencyEdge :=
  m.2.map fun i => ⟨m.1, i.source, edgeKind i⟩

/-- The graph of a project.  Depth is measured from the roots, or from every module when no roots
    are given. -/
def project (platform : List Text) (modules : List Module) (roots : List Text) :
    DependencyGraph :=
  let edges := modules.flatMap moduleEdges
  let starts := if roots.isEmpty then modules.map Prod.fst else roots
  { nodes := (moduleIds modules).map (makeNode platform)
    edges
    cycles := cycles edges
    depth := (starts.map (depth edges)).foldl max 0 }

/-- The graph of a single module. -/
def graph (platform : List Text) (imports : List ImportInfo) (root : Text) : DependencyGraph :=
  project platform [(root, imports)] [root]

end CodeSurvey.Dependency
