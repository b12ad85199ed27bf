/-
  Dependency graphs.

  * `DependencyKind`, `Dependency.classify`: whether a module is part of the
    project, of the platform or of neither;
  * `DependencyNode`, `DependencyEdge`, `DependencyGraph`: modules and the
    references between them;
  * `DependencyGraph.node?`, `DependencyGraph.outgoing`: looking at a graph.
-/
import CodeSurvey.Structure.Written

namespace CodeSurvey

/-! ## Kinds -/

/-- Where a module comes from. -/
inductive DependencyKind where
  | internal
  | external
  | builtin
  deriving DecidableEq, Repr

instance : Labelled DependencyKind where
  all := [.internal, .external, .builtin]
  label
    | .internal => "internal"
    | .external => "external"
    | .builtin => "builtin"

/-- How a module refers to another one. -/
inductive EdgeKind where
  | import_
  | require
  | dynamic
  deriving DecidableEq, Repr

instance : Labelled EdgeKind where
  all := [.import_, .require, .dynamic]
  label
    | .import_ => "import"
    | .require => "require"
    | .dynamic => "dynamic"

namespace Dependency

/-- The modules of the platform. -/
def platformModules : List Text :=
  ["assert", "async_hooks", "buffer", "child_process", "cluster", "console", "crypto", "dgram",
    "dns", "events", "fs", "fs/promises", "http", "http2", "https", "net", "os", "path",
    "perf_hooks", "process", "querystring", "readline", "stream", "string_decoder", "timers",
    "tls", "tty", "url", "util", "v8", "vm", "worker_threads", "zlib"].map Text.ofString

/-- The mark that may stand before a module of the platform. -/
def platformMark : Text := Text.ofString "node:"

/-- The given platform modules, or the usual ones when none are given. -/
def platformOr (modules : List Text) : List Text :=
  if modules.isEmpty then platformModules else modules

/-- Where a module comes from: a relative path is part of the project. -/
def classify (platform : List Text) (source : Text) : DependencyKind :=
  if source.head? = some '.' then .internal
  else if (platformMark.after? source).getD source ∈ platform then .builtin
  else .external

end Dependency

/-! ## Graphs -/

/-- A module of a graph. -/
structure DependencyNode where
  id : Text
  name : Text
  kind : DependencyKind
  /-- The module as written; the module under analysis has none. -/
  path : Option Text := none
  deriving DecidableEq, Repr

/-- A reference from one module to another. -/
structure DependencyEdge where
  source : Text
  target : Text
  kind : EdgeKind := .import_
  deriving DecidableEq, Repr

/-- Modules, references, and what was found about them. -/
structure DependencyGraph where
  nodes : List DependencyNode := []
  edges : List DependencyEdge := []
  /-- The pairs of modules that refer to each other. -/
  cycles : List (Text × Text) := []
  /-- How far the references lead from the roots. -/
  depth : Nat := 0
  deriving DecidableEq, Repr

namespace DependencyGraph

/-- The module with an id. -/
def node? (g : DependencyGraph) (id : Text) : Option DependencyNode :=
  g.nodes.find? fun n => n.id = id

/-- The references of a module. -/
def outgoing (g : DependencyGraph) (id : Text) : List DependencyEdge :=
  g.edges.filter fun e => e.source = id

end DependencyGraph

/-! ## Written form -/

namespace DependencyNode

/-- The written form. -/
def toData (n : DependencyNode) : Data :=
  .object [
    ("id", .text n.id),
    ("name", .text n.name),
    ("type", Labelled.toData n.kind),
    ("path", .optional .text n.path)]

/-- Read the written form. -/
def read : Data → Checked DependencyNode :=
  Read.record "DependencyNode" fun fields =>
    DependencyNode.mk <$> Read.required Read.text "id" fields
      <*> Read.required Read.text "name" fields
      <*> Read.required Read.member "type" fields
      <*> Read.default none (Read.optional Read.text) "path" fields

end DependencyNode

/-- The names under which the ends of a reference are written. -/
inductive EdgeNaming where
  /-- `from` and `to`. -/
  | fromTo
  /-- `source` and `target`. -/
  | sourceTarget
  deriving DecidableEq, Repr

/-- The names of the two ends. -/
def EdgeNaming.names : EdgeNaming → String × String
  | fromTo => ("from", "to")
  | sourceTarget => ("source", "target")

namespace DependencyEdge

/-- The written form under a naming. -/
def toData (naming : EdgeNaming) (e : DependencyEdge) : Data :=
  .object [
    (naming.names.1, .text e.source),
    (naming.names.2, .text e.target),
    ("type", Labelled.toData e.kind)]

/-- Read the written form under either naming. -/
def read : Data → Checked DependencyEdge :=
  Read.record "DependencyEdge" fun fields =>
    DependencyEdge.mk <$> Read.either Read.text "from" "source" fields
      <*> Read.either Read.text "to" "target" fields
      <*> Read.default .import_ Read.member "type" fields

end DependencyEdge

namespace DependencyGraph

/-- The written form of a pair of modules. -/
def pairData (p : Text × Text) : Data :=
  .array [.text p.1, .text p.2]

/-- The written form under a naming of the references. -/
def toData (naming : EdgeNaming) (g : DependencyGraph) : Data :=
  .object [
    ("nodes", .list DependencyNode.toData g.nodes),
    ("edges", .list (DependencyEdge.toData naming) g.edges),
    ("cycles", .list pairData g.cycles),
    ("depth", .nat g.depth)]

/-- Read the written form. -/
def read : Data → Checked DependencyGraph :=
  Read.record "DependencyGraph" fun fields =>
    DependencyGraph.mk <$> Read.default [] (Read.list DependencyNode.read) "nodes" fields
      <*> Read.default [] (Read.list DependencyEdge.read) "edges" fields
      <*> Read.default [] (Read.list (Read.pair Read.text)) "cycles" fields
      <*> Read.default 0 (Read.natural 0) "depth" fields

end DependencyGraph

end CodeSurvey
