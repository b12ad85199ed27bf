/-
  Trees without their comments.

  * `Node.withoutComments`: the tree without its nodes of the kind `comment`; all other
    nodes keep what they say of themselves;
  * `Node.LooseComments`: comments are leaves under no field name;
  * `Node.child?_withoutComments`, `Node.namedChildren_withoutComments`,
    `Node.descendants_withoutComments`: what is below a node without its comments;
  * `Node.places`, `Node.namedPlaces`, `Node.places_withoutComments`: the places of a
    tree without its comments.
-/
import CodeSurvey.Proofs.Tree.Preorder
import Mathlib.Data.List.Find

namespace CodeSurvey

namespace Node

/-- Whether the node is a comment. -/
def isComment (n : Node) : Bool :=
  n.kind == "comment"

mutual

/-- The tree without its comments; the node itself stays. -/
def withoutComments : Node → Node
  | mk info children => mk info (dropComments children)

/-- The trees that are no comments, each without its comments. -/
def dropComments : List Node → List Node
  | [] => []
  | n :: ns => if n.isComment then dropComments ns else n.withoutComments :: dropComments ns

end

/-- All comments below the node are leaves that hang under no field name. -/
def LooseComments (root : Node) : Prop :=
  ∀ n ∈ root.descendants, n.isComment = true → n.children = [] ∧ n.info.field = none

instance (root : Node) : Decidable root.LooseComments :=
  inferInstanceAs (Decidable (∀ n ∈ root.descendants, n.isComment = true → _ ∧ _))

/-! ## Lists of trees -/

/-- A list of which some elements are left out and the others altered. -/
theorem flatMap_map_filter {α α' β : Type} {keep : α → Bool} {alter : α → α'} {f : α' → List β}
    {g : α → List β} {l : List α} (hout : ∀ a ∈ l, keep a = false → g a = [])
    (h : ∀ a ∈ l, f (alter a) = g a) : ((l.filter keep).map alter).flatMap f = l.flatMap g := by
  induction l with
  | nil => rfl
  | cons a l ih =>
    have ih := ih (fun b hb => hout b (List.mem_cons_of_mem _ hb))
      fun b hb => h b (List.mem_cons_of_mem _ hb)
    rw [List.filter_cons, List.flatMap_cons, ← ih]
    cases hk : keep a with
    | true => simp [h a (List.mem_cons_self ..)]
    | false => simp [hout a (List.mem_cons_self ..) hk]

/-- The nodes of a list that are no comments. -/
def proper (ns : List Node) : List Node :=
  ns.filter fun n => !n.isComment

theorem mem_proper_iff {n : Node} {ns : List Node} :
    n ∈ proper ns ↔ n ∈ ns ∧ n.isComment = false := by
  rw [proper, List.mem_filter, Bool.not_eq_true']

theorem dropComments_eq (ns : List Node) : dropComments ns = (proper ns).map withoutComments := by
  induction ns with
  | nil => rfl
  | cons n ns ih =>
    rw [dropComments, proper, List.filter_cons]
    cases hn : n.isComment with
    | true => simpa [proper] using ih
    | false => simpa [proper] using ih

variable {n : Node} {ns : List Node}

theorem filter_dropComments {q : Node → Bool} (hcom : ∀ c ∈ ns, c.isComment = true → q c = false)
    (h : ∀ c ∈ ns, q c.withoutComments = q c) :
    (dropComments ns).filter q = (ns.filter q).map withoutComments := by
  rw [dropComments_eq, List.filter_map, proper, List.filter_filter]
  refine congrArg _ (List.filter_congr fun c hc => ?_)
  cases hn : c.isComment with
  | true => simp [hcom c hc hn]
  | false => simp [h c hc]

theorem find?_dropComments {q : Node → Bool} (hcom : ∀ c ∈ ns, c.isComment = true → q c = false)
    (h : ∀ c ∈ ns, q c.withoutComments = q c) :
    (dropComments ns).find? q = (ns.find? q).map withoutComments := by
  rw [← List.head?_filter, filter_dropComments hcom h, List.head?_map, List.head?_filter]

theorem any_dropComments {q : Node → Bool} (hcom : ∀ c ∈ ns, c.isComment = true → q c = false)
    (h : ∀ c ∈ ns, q c.withoutComments = q c) : (dropComments ns).any q = ns.any q := by
  rw [Bool.eq_iff_iff, List.any_eq_true, List.any_eq_true, ← List.find?_isSome,
    ← List.find?_isSome, find?_dropComments hcom h, Option.isSome_map]

theorem countP_dropComments {q : Node → Bool} (hcom : ∀ c ∈ ns, c.isComment = true → q c = false)
    (h : ∀ c ∈ ns, q c.withoutComments = q c) : (dropComments ns).countP q = ns.countP q := by
  rw [List.countP_eq_length_filter, filter_dropComments hcom h, List.length_map,
    List.countP_eq_length_filter]

theorem flatMap_dropComments {β : Type} {f g : Node → List β}
    (hcom : ∀ c ∈ ns, c.isComment = true → g c = [])
    (h : ∀ c ∈ ns, f c.withoutComments = g c) : (dropComments ns).flatMap f = ns.flatMap g := by
  rw [dropComments_eq]
  exact flatMap_map_filter (fun c hc hn => hcom c hc (by simpa using hn)) h

theorem filterMap_dropComments {β : Type} {f g : Node → Option β}
    (hcom : ∀ c ∈ ns, c.isComment = true → g c = none)
    (h : ∀ c ∈ ns, f c.withoutComments = g c) :
    (dropComments ns).filterMap f = ns.filterMap g := by
  rw [List.filterMap_eq_flatMap_toList, List.filterMap_eq_flatMap_toList]
  refine flatMap_dropComments (fun c hc hn => ?_) fun c hc => ?_
  · rw [hcom c hc hn, Option.toList_none]
  · rw [h c hc]

theorem foldl_dropComments {β : Type} {f g : β → Node → β}
    (hcom : ∀ c ∈ ns, c.isComment = true → ∀ b, g b c = b)
    (h : ∀ c ∈ ns, ∀ b, f b c.withoutComments = g b c) (b : β) :
    (dropComments ns).foldl f b = ns.foldl g b := by
  induction ns generalizing b with
  | nil => rw [dropComments, List.foldl_nil, List.foldl_nil]
  | cons c ns ih =>
    have ih := ih (fun d hd => hcom d (List.mem_cons_of_mem _ hd))
      fun d hd => h d (List.mem_cons_of_mem _ hd)
    rw [dropComments, List.foldl_cons, ← ih]
    cases hc : c.isComment with
    | true => simp [hcom c (List.mem_cons_self ..) hc]
    | false => simp [h c (List.mem_cons_self ..)]

/-! ## Nodes of one kind -/

theorem kind_ne_of_isComment (h : n.isComment = true) {kind : String} (hk : kind ≠ "comment") :
    n.kind ≠ kind := by
  rw [eq_of_beq h]
  exact hk.symm

/-! ## Children -/

@[simp] theorem info_withoutComments (n : Node) : n.withoutComments.info = n.info := by
  cases n with
  | mk info children => rw [withoutComments]; rfl

@[simp] theorem kind_withoutComments (n : Node) : n.withoutComments.kind = n.kind := by
  rw [kind, info_withoutComments, kind]

@[simp] theorem isNamed_withoutComments (n : Node) : n.withoutComments.isNamed = n.isNamed := by
  rw [isNamed, info_withoutComments, isNamed]

theorem children_withoutComments (n : Node) :
    n.withoutComments.children = dropComments n.children := by
  cases n with
  | mk info children => rw [withoutComments, Node.children, Node.children]

theorem namedChildren_withoutComments (n : Node) :
    n.withoutComments.namedChildren = dropComments n.namedChildren := by
  rw [namedChildren, children_withoutComments, dropComments_eq, List.filter_map, proper,
    List.filter_filter, namedChildren, dropComments_eq, proper, List.filter_filter]
  refine congrArg _ (List.filter_congr fun c _ => ?_)
  simp [Bool.and_comm]

theorem LooseComments.of_mem {m : Node} (h : n.LooseComments) (hm : m ∈ n.descendants) :
    m.LooseComments :=
  fun _ hk => h _ (descendants_trans hm hk)

theorem LooseComments.child {c : Node} (h : n.LooseComments) (hc : c ∈ n.children) :
    c.LooseComments :=
  h.of_mem (mem_descendants_of_mem_children hc)

theorem LooseComments.namedChild {c : Node} (h : n.LooseComments) (hc : c ∈ n.namedChildren) :
    c.LooseComments :=
  h.of_mem (namedChild_mem_descendants hc)

theorem LooseComments.field {c : Node} {field : String} (h : n.LooseComments)
    (hc : n.child? field = some c) : c.LooseComments :=
  h.of_mem (field_mem_descendants hc)

theorem LooseComments.child?_withoutComments (h : n.LooseComments) (field : String) :
    n.withoutComments.child? field = (n.child? field).map withoutComments := by
  rw [child?, children_withoutComments]
  refine find?_dropComments (fun c hc hcom => ?_) fun c _ => by rw [info_withoutComments]
  rw [(h c (mem_descendants_of_mem_children hc) hcom).2]
  rfl

end Node

/-! ## Places -/

namespace Place

/-- Whether the node is a comment. -/
def isComment (p : Place) : Bool :=
  p.node.isComment

/-- The place in the tree without its comments. -/
def withoutComments (p : Place) : Place :=
  ⟨p.node.withoutComments, p.ancestors.map Node.withoutComments⟩

@[simp] theorem node_withoutComments (p : Place) :
    p.withoutComments.node = p.node.withoutComments :=
  rfl

@[simp] theorem ancestors_withoutComments (p : Place) :
    p.withoutComments.ancestors = p.ancestors.map Node.withoutComments :=
  rfl

theorem children_withoutComments (p : Place) :
    p.withoutComments.children =
      (p.children.filter fun c => !c.isComment).map withoutComments := by
  simp only [children, withoutComments, Node.children_withoutComments, Node.dropComments_eq,
    List.map_map, List.filter_map, Node.proper]
  rfl

theorem below_of_leaf {p : Place} (h : p.node.children = []) : p.below = [] := by
  rw [below_eq, children, h]
  rfl

theorem flatMap_withoutComments {l : List Place} (hleaf : ∀ c ∈ l, c.isComment = true → c.below = [])
    (hbelow : ∀ c ∈ l, c.withoutComments.below =
      (c.below.filter fun d => !d.isComment).map withoutComments) :
    ((l.filter fun c => !c.isComment).map withoutComments).flatMap (fun c => c :: c.below) =
      ((l.flatMap fun c => c :: c.below).filter fun c => !c.isComment).map withoutComments := by
  induction l with
  | nil => rfl
  | cons c l ih =>
    have ih := ih (fun d hd => hleaf d (List.mem_cons_of_mem _ hd))
      fun d hd => hbelow d (List.mem_cons_of_mem _ hd)
    rw [List.flatMap_cons, List.filter_append, List.map_append, ← ih, List.filter_cons,
      List.filter_cons]
    cases hc : c.isComment with
    | true =>
      rw [hleaf c (List.mem_cons_self ..) hc]
      rfl
    | false =>
      simp only [Bool.not_false, if_true, List.map_cons, List.flatMap_cons,
        hbelow c (List.mem_cons_self ..)]

/-- **Without the comments, a place has the other places below it, in the same order.** -/
theorem below_withoutComments {p : Place} (h : p.node.LooseComments) :
    p.withoutComments.below = (p.below.filter fun c => !c.isComment).map withoutComments := by
  obtain ⟨n, above⟩ := p
  induction n using Node.children_induction generalizing above with
  | h n ih =>
    rw [below_eq, children_withoutComments, below_eq ⟨n, above⟩]
    refine flatMap_withoutComments (fun c hc hcom => ?_) fun c hc => ?_
    · obtain ⟨m, hm, rfl⟩ := List.mem_map.1 hc
      exact below_of_leaf (h m (Node.mem_descendants_of_mem_children hm) hcom).1
    · obtain ⟨m, hm, rfl⟩ := List.mem_map.1 hc
      exact ih m hm (n :: above) (h.child hm)

/-- At the place and above it, comments are leaves under no field name. -/
structure LooseComments (p : Place) : Prop where
  node : p.node.LooseComments
  above : ∀ a ∈ p.ancestors, a.LooseComments

theorem LooseComments.below {p : Place} (h : p.LooseComments) :
    ∀ q ∈ p.below, q.LooseComments := by
  obtain ⟨n, above⟩ := p
  induction n using Node.children_induction generalizing above with
  | h n ih =>
    intro q hq
    rw [below_eq] at hq
    obtain ⟨c, hc, hq⟩ := List.mem_flatMap.1 hq
    obtain ⟨m, hm, rfl⟩ := List.mem_map.1 hc
    have hc : LooseComments ⟨m, n :: above⟩ := by
      refine ⟨h.node.child hm, fun a ha => ?_⟩
      rcases List.mem_cons.1 ha with rfl | ha
      · exact h.node
      · exact h.above a ha
    rcases List.mem_cons.1 hq with rfl | hq
    · exact hc
    · exact ih m hm (n :: above) hc q hq

theorem map_node_below (p : Place) : p.below.map node = p.node.descendants := by
  rw [below, List.map_map]
  exact Node.map_node_spotsBelow _ _ _

end Place

namespace Node

/-- All places of a tree but the root, in the order of the source. -/
def places (root : Node) : List Place :=
  root.spots.map Spot.place

/-- The places below the root that are nodes of the grammar. -/
def namedPlaces (root : Node) : List Place :=
  root.places.filter fun p => p.node.isNamed

theorem LooseComments.places {root : Node} (h : root.LooseComments) :
    ∀ p ∈ root.places, p.LooseComments :=
  Place.LooseComments.below (p := ⟨root, []⟩) ⟨h, by simp⟩

/-- **The places of a tree without its comments.** -/
theorem places_withoutComments {root : Node} (h : root.LooseComments) :
    root.withoutComments.places =
      (root.places.filter fun p => !p.isComment).map Place.withoutComments :=
  Place.below_withoutComments (p := ⟨root, []⟩) h

theorem namedPlaces_withoutComments {root : Node} (h : root.LooseComments) :
    root.withoutComments.namedPlaces =
      (root.namedPlaces.filter fun p => !p.isComment).map Place.withoutComments := by
  rw [namedPlaces, places_withoutComments h, List.filter_map, namedPlaces, List.filter_filter,
    List.filter_filter]
  refine congrArg _ (List.filter_congr fun p _ => ?_)
  rw [Function.comp_apply, Bool.and_comm, Place.node_withoutComments, isNamed_withoutComments]

theorem descendants_withoutComments {n : Node} (h : n.LooseComments) :
    n.withoutComments.descendants = dropComments n.descendants := by
  have hb := congrArg (List.map Place.node) (Place.below_withoutComments (p := ⟨n, []⟩) h)
  rw [Place.map_node_below, List.map_map] at hb
  rw [show n.withoutComments.descendants = _ from hb, ← Place.map_node_below ⟨n, []⟩,
    dropComments_eq, proper, List.filter_map, List.map_map]
  rfl

end Node

end CodeSurvey
