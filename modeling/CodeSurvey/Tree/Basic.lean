/-
  Trees of source units.

  A node has a kind, a range of bytes and children in order; a child may hang
  under a field name of its parent.

  * `Node`, with the accessors `kind`, `namedChildren`, `child?`;
  * `Node.size`: the number of nodes, by which walks over trees end;
  * `Node.descendants`: all nodes below a node, each before its own descendants,
    in the order of the source (defined by recursion on the tree).
-/

namespace CodeSurvey

/-- What a node says of itself. -/
structure NodeInfo where
  /-- The name that the grammar gives to such nodes. -/
  kind : String
  /-- The offset of its first byte. -/
  start : Nat
  /-- The offset just past its last byte. -/
  stop : Nat
  /-- Whether it is a node of the grammar rather than a token. -/
  isNamed : Bool := true
  /-- Whether it was put in where the source lacks a token. -/
  isMissing : Bool := false
  /-- The field name under which it hangs. -/
  field : Option String := none
  deriving DecidableEq, Repr

/-- A node with all that is below it. -/
inductive Node where
  | mk (info : NodeInfo) (children : List Node)
  deriving Repr

instance : Inhabited Node := ⟨.mk ⟨"program", 0, 0, true, false, none⟩ []⟩

namespace Node

def info : Node → NodeInfo
  | mk info _ => info

def children : Node → List Node
  | mk _ children => children

/-- The name that the grammar gives to such nodes. -/
def kind (n : Node) : String := n.info.kind

/-- Whether it is a node of the grammar rather than a token. -/
def isNamed (n : Node) : Bool := n.info.isNamed

/-- The children that are nodes of the grammar. -/
def namedChildren (n : Node) : List Node :=
  n.children.filter isNamed

/-- The first child under a field name. -/
def child? (n : Node) (field : String) : Option Node :=
  n.children.find? fun c => c.info.field == some field

/-! ## Size -/

mutual

/-- The number of nodes. -/
def size : Node → Nat
  | mk _ children => sizeAll children + 1

/-- The number of nodes of some trees. -/
def sizeAll : List Node → Nat
  | [] => 0
  | n :: ns => n.size + sizeAll ns

end

theorem size_mk (info : NodeInfo) (children : List Node) :
    (mk info children).size = sizeAll children + 1 := by
  rw [size]

theorem size_eq (n : Node) : n.size = sizeAll n.children + 1 := by
  cases n with
  | mk info children => exact size_mk info children

theorem sizeAll_append (ms ns : List Node) :
    sizeAll (ms ++ ns) = sizeAll ms + sizeAll ns := by
  induction ms with
  | nil => simp [sizeAll]
  | cons m ms ih => simp [sizeAll, ih, Nat.add_assoc]

/-- A child has fewer nodes than its parent. -/
theorem size_lt_of_mem {n c : Node} (h : c ∈ n.children) : c.size < n.size := by
  have le : ∀ ns : List Node, c ∈ ns → c.size ≤ sizeAll ns := by
    intro ns
    induction ns with
    | nil => simp
    | cons m ms ih =>
      intro hm
      rcases List.mem_cons.1 hm with rfl | hm
      · simp [sizeAll]
      · have := ih hm
        simp only [sizeAll]
        omega
  have := le _ h
  have := size_eq n
  omega

theorem child?_mem {n c : Node} {field : String} (h : n.child? field = some c) :
    c ∈ n.children :=
  List.mem_of_find?_eq_some h

theorem mem_children_of_mem_namedChildren {n c : Node} (h : c ∈ n.namedChildren) :
    c ∈ n.children :=
  (List.mem_filter.1 h).1

/-! ## Descendants -/

mutual

/-- All nodes below a node, in the order of the source. -/
def descendants : Node → List Node
  | mk _ children => listing children

/-- The nodes of some trees, one tree after the other. -/
def listing : List Node → List Node
  | [] => []
  | n :: ns => n :: (n.descendants ++ listing ns)

end

end Node

end CodeSurvey
