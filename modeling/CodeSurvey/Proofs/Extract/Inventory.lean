/-
  The structure of a tree accounts for every entity once.

  * `Node.functionSpots`, `Node.classSpots`, `Spot.methods`: the nodes that are recorded,
    with their addresses;
  * `Extract.Inventory`: the lists of a structure beside the nodes they record;
    `Extract.inventory_of_ok`: every structure of a tree is such;
  * `Node.nodup_reported`: no node is recorded twice;
  * `Extract.structure_inventory`: the structure of a tree whose records can be made.
-/
import CodeSurvey.Proofs.Extract.Contribution
import CodeSurvey.Proofs.Tree.Preorder

namespace CodeSurvey

/-! ## The recorded nodes -/

namespace Node

/-- The nodes below the root that are nodes of the grammar. -/
def namedSpots (root : Node) : List Spot :=
  root.spots.filter fun sp => sp.place.node.isNamed

/-- The functions outside class bodies. -/
def functionSpots (root : Node) : List Spot :=
  root.spots.filter fun sp => sp.place.node.isNamed && sp.place.node.isFunction

/-- The class declarations. -/
def classSpots (root : Node) : List Spot :=
  root.spots.filter fun sp => sp.place.node.isNamed && sp.place.node.isClass

end Node

/-- The methods in the body of a class, with their addresses. -/
def Spot.methods (sp : Spot) : List Spot :=
  match sp.place.node.child? "body" with
  | some body =>
    let i := sp.place.node.children.findIdx fun c => c.info.field == some "body"
    (body.children.zipIdx.filter fun m => m.1.isNamed && m.1.kind == "method_definition").map
      fun m => ⟨sp.address ++ [i, m.2], ⟨m.1, body :: sp.place.node :: sp.place.ancestors⟩⟩
  | none => []

/-- All recorded nodes: the functions, then the methods class by class. -/
def Node.reported (root : Node) : List Spot :=
  root.functionSpots ++ root.classSpots.flatMap Spot.methods

theorem Spot.map_node_methods (sp : Spot) :
    sp.methods.map (fun m => m.place.node) = Extract.methodNodes sp.place.node := by
  unfold methods Extract.methodNodes Extract.members
  cases sp.place.node.child? "body" with
  | none => rfl
  | some body =>
    simp only [List.map_map, Function.comp_def, Node.namedChildren, List.filter_filter]
    have hf : body.children = body.children.zipIdx.map Prod.fst := (List.zipIdx_map_fst 0 _).symm
    conv_rhs => rw [hf, List.filter_map]
    refine congrArg _ (List.filter_congr fun m _ => ?_)
    exact Bool.and_comm _ _

/-- The methods of a listed class are listed. -/
theorem Spot.methods_subset {root : Node} {sp : Spot} (h : sp ∈ root.spots) :
    ∀ m ∈ sp.methods, m ∈ root.spots := by
  intro m hm
  unfold methods at hm
  cases hb : sp.place.node.child? "body" with
  | none =>
    rw [hb] at hm
    cases hm
  | some body =>
    rw [hb] at hm
    obtain ⟨⟨c, j⟩, hc, rfl⟩ := List.mem_map.1 hm
    rw [Node.child?, List.find?_eq_getElem?_findIdx] at hb
    have hc := List.mem_zipIdx_iff_getElem?.1 (List.mem_filter.1 hc).1
    have hbody := Node.child_mem_spots h hb
    have hmethod := Node.child_mem_spots hbody hc
    rwa [List.append_assoc] at hmethod

theorem Spot.kind_of_mem_methods {sp m : Spot} (h : m ∈ sp.methods) :
    m.place.node.kind = "method_definition" := by
  have hm := List.mem_map_of_mem (f := fun m => m.place.node) h
  rw [map_node_methods] at hm
  exact beq_iff_eq.1 (List.mem_filter.1 hm).2

/-- Methods stand two steps below their class. -/
theorem Spot.address_of_mem_methods {sp m : Spot} (h : m ∈ sp.methods) :
    ∃ i j, m.address = sp.address ++ [i, j] := by
  unfold methods at h
  split at h
  · obtain ⟨c, -, rfl⟩ := List.mem_map.1 h
    exact ⟨_, _, rfl⟩
  · cases h

theorem Spot.nodup_methods (sp : Spot) : (sp.methods.map Spot.address).Nodup := by
  unfold methods
  split
  · rename_i body _
    have hnum : (body.children.zipIdx.map Prod.snd).Nodup := by
      rw [List.zipIdx_map_snd]
      exact List.nodup_range'
    rw [List.map_map]
    refine List.Nodup.of_map List.getLast? ?_
    rw [List.map_map]
    have hlast : (List.getLast? ∘ Spot.address ∘ fun m : Node × Nat =>
        (⟨sp.address ++ [sp.place.node.children.findIdx fun c => c.info.field == some "body", m.2],
          ⟨m.1, body :: sp.place.node :: sp.place.ancestors⟩⟩ : Spot)) = some ∘ Prod.snd := by
      funext m
      simp
    rw [hlast, ← List.map_map]
    exact (hnum.sublist (List.filter_sublist.map _)).map fun _ _ => Option.some.inj
  · exact List.nodup_nil

namespace Node

/-- **No node is recorded twice.** -/
theorem nodup_reported (root : Node) : (root.reported.map Spot.address).Nodup := by
  have hspots := nodup_spots root
  have hfun : (root.functionSpots.map Spot.address).Nodup :=
    hspots.sublist (List.filter_sublist.map _)
  have hclass : (root.classSpots.map Spot.address).Nodup :=
    hspots.sublist (List.filter_sublist.map _)
  have hmethods : ((root.classSpots.flatMap Spot.methods).map Spot.address).Nodup := by
    rw [List.map_flatMap, List.nodup_flatMap]
    refine ⟨fun sp _ => sp.nodup_methods, (List.pairwise_map.1 hclass).imp ?_⟩
    intro sp sp' hne a ha ha'
    obtain ⟨m, hm, rfl⟩ := List.mem_map.1 ha
    obtain ⟨m', hm', hsame⟩ := List.mem_map.1 ha'
    obtain ⟨i, j, hij⟩ := Spot.address_of_mem_methods hm
    obtain ⟨i', j', hij'⟩ := Spot.address_of_mem_methods hm'
    rw [hij, hij'] at hsame
    exact hne (List.append_inj' hsame.symm rfl).1
  rw [reported, List.map_append]
  refine hfun.append hmethods fun a ha ha' => ?_
  -- a node at one address cannot be both a function and a method
  obtain ⟨sp, hsp, rfl⟩ := List.mem_map.1 ha
  obtain ⟨m, hm, hsame⟩ := List.mem_map.1 ha'
  obtain ⟨k, hk, hm⟩ := List.mem_flatMap.1 hm
  obtain ⟨hsp, hf⟩ := List.mem_filter.1 hsp
  have hmem := Spot.methods_subset (List.mem_filter.1 hk).1 m hm
  obtain rfl := spots_ext hmem hsp hsame
  refine Extract.kind_ne_of_isFunction (Bool.and_eq_true_iff.1 hf).2 ?_ (Spot.kind_of_mem_methods hm)
  decide

/-- Every recorded node is a node of the tree. -/
theorem reported_subset (root : Node) : ∀ sp ∈ root.reported, sp ∈ root.spots := by
  intro sp hsp
  rcases List.mem_append.1 hsp with hsp | hsp
  · exact (List.mem_filter.1 hsp).1
  · obtain ⟨k, hk, hsp⟩ := List.mem_flatMap.1 hsp
    exact Spot.methods_subset (List.mem_filter.1 hk).1 sp hsp

end Node

/-! ## The lists of a structure -/

namespace Extract

variable {s : Source} {root : Node} {c : CodeStructure}

theorem members_subset {n m : Node} (h : m ∈ members n) : m ∈ n.descendants := by
  unfold members at h
  split at h
  · rename_i body hb
    exact Node.mem_descendants_iff.2 ⟨body, Node.child?_mem hb, Or.inr
      (Node.namedChild_mem_descendants h)⟩
  · cases h

theorem methodNodes_subset {n m : Node} (h : m ∈ methodNodes n) : m ∈ n.descendants :=
  members_subset (List.mem_filter.1 h).1

/-- The lists of a structure beside the nodes of the tree, each in the order of the source. -/
structure Inventory (s : Source) (root : Node) (c : CodeStructure) : Prop where
  functions : List.Forall₂
    (fun sp f => functionInfo s sp.place.node (bindingName s sp.place) = .ok f)
    root.functionSpots c.functions
  classes : List.Forall₂
    (fun sp k => classInfo s sp.place.node = .ok k ∧
      List.Forall₂ (fun m f => methodInfo s m.place.node = .ok f) sp.methods k.methods)
    root.classSpots c.classes
  imports : c.imports = root.namedSpots.flatMap fun sp => importsAt s sp.place
  exports : c.exports = root.namedSpots.flatMap fun sp => exportsAt s sp.place
  vars : c.vars = (root.namedSpots.flatMap fun sp => varsAt s sp.place).map fun v =>
    { v with reassigned := v.name ∈ root.namedSpots.flatMap fun sp => assignedAt s sp.place }
  constants : c.constants = root.namedSpots.flatMap fun sp => constantsAt s sp.place

theorem flatMap_eq_of_forall₂ {α β γ : Type} {R : α → β → Prop} {f : α → List γ} {g : β → List γ}
    {l : List α} {r : List β} (h : List.Forall₂ R l r) (hfg : ∀ a b, R a b → f a = g b) :
    l.flatMap f = r.flatMap g := by
  induction h with
  | nil => rfl
  | cons hab _ ih => rw [List.flatMap_cons, List.flatMap_cons, hfg _ _ hab, ih]

theorem flatMap_ite {α β : Type} (p : α → Bool) (f : α → List β) (l : List α) :
    (l.flatMap fun a => if p a then f a else []) = (l.filter p).flatMap f := by
  induction l with
  | nil => rfl
  | cons a l ih =>
    rw [List.flatMap_cons, ih, List.filter_cons]
    split
    · rw [List.flatMap_cons]
    · rfl

theorem filter_map_place (root : Node) (p : Place → Bool) :
    (root.spots.map Spot.place).filter p =
      (root.spots.filter fun sp => p sp.place).map Spot.place := by
  rw [List.filter_map]
  rfl

/-- One sort of items, from all items of a tree. -/
theorem sort_eq {β : Type} {found : List (List Item)} {sort : Item → Option β}
    {at' : Place → List β}
    (h : List.Forall₂ (Sorted s) (root.spots.map Spot.place) found)
    (hsort : ∀ p its, Sorted s p its →
      its.filterMap sort = if p.node.isNamed then at' p else []) :
    found.flatten.filterMap sort = root.namedSpots.flatMap fun sp => at' sp.place := by
  rw [List.filterMap_flatten, ← List.flatMap_def,
    ← flatMap_eq_of_forall₂ h fun p its hp => (hsort p its hp).symm,
    flatMap_ite fun p : Place => p.node.isNamed, filter_map_place, List.flatMap_map]
  rfl

/-- The records of one kind of nodes, from all items of a tree. -/
theorem forall₂_sort {β : Type} {found : List (List Item)} {sort : Item → Option β}
    {p : Place → Bool} {R : Place → β → Prop}
    (h : List.Forall₂ (Sorted s) (root.spots.map Spot.place) found)
    (hsort : ∀ q its, Sorted s q its →
      List.Forall₂ R (if p q then [q] else []) (its.filterMap sort)) :
    List.Forall₂ (fun sp b => R sp.place b) (root.spots.filter fun sp => p sp.place)
      (found.flatten.filterMap sort) := by
  rw [List.filterMap_flatten, ← List.flatMap_def, ← List.forall₂_map_left_iff (f := Spot.place),
    ← filter_map_place, ← List.flatMap_singleton' (List.filter _ _),
    ← flatMap_ite p fun q => [q]]
  exact List.rel_flatMap h fun q its hq => hsort q its hq

/-- **Every structure of a tree accounts for the tree.** -/
theorem inventory_of_ok (h : structureOf s root = .ok c) : Inventory s root c := by
  unfold structureOf at h
  rw [Place.walkBelow_eq] at h
  cases hm : (root.spots.map Spot.place).mapM (items s) with
  | error e => rw [hm] at h; cases h
  | ok found =>
    rw [hm] at h
    cases h
    have hs : List.Forall₂ (Sorted s) (root.spots.map Spot.place) found :=
      (mapM_eq_ok_iff.1 hm).imp fun _ _ => sorted_items
    constructor
    · exact forall₂_sort hs fun _ _ h => h.functions
    · refine (forall₂_sort hs fun _ _ h => h.classes).imp fun sp k hk => ⟨hk, ?_⟩
      obtain ⟨ms, range, hms, -, rfl⟩ := classInfo_eq_ok_iff.1 hk
      rw [← Spot.map_node_methods, mapM_eq_ok_iff] at hms
      exact List.forall₂_map_left_iff.1 hms
    · exact sort_eq hs fun _ _ h => h.imports
    · exact sort_eq hs fun _ _ h => h.exports
    · simp only [assemble]
      rw [sort_eq hs fun _ _ h => h.vars, sort_eq hs fun _ _ h => h.assigned]
    · exact sort_eq hs fun _ _ h => h.constants

/-- The structure of a tree can be made if all its records can. -/
theorem exists_structureOf (h : ∀ n ∈ root.descendants, Recordable s n) :
    ∃ c, structureOf s root = .ok c := by
  obtain ⟨found, hfound⟩ : ∃ found, (Place.walkBelow ⟨root, []⟩).mapM (items s) = .ok found := by
    refine exists_mapM_eq_ok fun p hp => exists_items (h p.node ?_)
    rw [Place.walkBelow_eq] at hp
    obtain ⟨sp, hsp, rfl⟩ := List.mem_map.1 hp
    exact Node.node_mem_descendants hsp
  unfold structureOf
  rw [hfound]
  exact ⟨_, rfl⟩

/-- Of a tree that has a structure all records can be made. -/
theorem recordable_of_structureOf (h : structureOf s root = .ok c) :
    ∀ n ∈ root.descendants, Recordable s n := by
  intro n hn
  unfold structureOf at h
  cases hm : (Place.walkBelow ⟨root, []⟩).mapM (items s) with
  | error e => rw [hm] at h; cases h
  | ok found =>
    rw [← Node.map_node_spots] at hn
    obtain ⟨sp, hsp, rfl⟩ := List.mem_map.1 hn
    have hp : sp.place ∈ Place.walkBelow ⟨root, []⟩ := by
      rw [Place.walkBelow_eq]
      exact List.mem_map_of_mem hsp
    obtain ⟨its, hits⟩ := exists_of_mapM_eq_ok hm hp
    exact recordable_of_items hits

/-- The methods of all classes, one record for each method. -/
theorem Inventory.forall₂_methods (h : Inventory s root c) :
    List.Forall₂ (fun m f => methodInfo s m.place.node = .ok f)
      (root.classSpots.flatMap Spot.methods) c.methods :=
  List.rel_flatMap h.classes fun _ _ hk => hk.2

/-- All functions, one record for each recorded node. -/
theorem Inventory.forall₂_allFunctions (h : Inventory s root c) :
    List.Forall₂ (fun sp f => ∃ name, functionInfo s sp.place.node name = .ok f)
      root.reported c.allFunctions :=
  List.rel_append (h.functions.imp fun _ _ hf => ⟨_, hf⟩)
    (h.forall₂_methods.imp fun _ _ hf => ⟨_, hf⟩)

/-- **The structure of a tree accounts for every entity once, in the order of the source.**  The
    nodes below the root, each listed once under its address, are those of the recursive listing.
    The records of functions, classes and methods stand beside the nodes of these kinds, one for
    one; imports, exports, variables and constants are what each node contributes on its own.  The
    recorded nodes are nodes of the tree, each recorded once, and no method counts as a function
    outside classes. -/
theorem structure_inventory (h : ∀ n ∈ root.descendants, Recordable s n) :
    root.spots.map (fun sp => sp.place.node) = root.descendants ∧
    (root.spots.map Spot.address).Nodup ∧
    ∃ c, structureOf s root = .ok c ∧ Inventory s root c ∧
      List.Forall₂ (fun sp f => ∃ name, functionInfo s sp.place.node name = .ok f)
        root.reported c.allFunctions ∧
      c.allFunctions.length =
        root.functionSpots.length + (root.classSpots.flatMap Spot.methods).length ∧
      (root.reported.map Spot.address).Nodup ∧
      (∀ sp ∈ root.reported, sp ∈ root.spots) ∧
      (∀ sp : Spot, sp.methods.map (fun m => m.place.node) = methodNodes sp.place.node) ∧
      ∀ sp ∈ root.functionSpots, sp.place.node.kind ≠ "method_definition" := by
  obtain ⟨c, hc⟩ := exists_structureOf h
  have hi := inventory_of_ok hc
  have hall := hi.forall₂_allFunctions
  refine ⟨Node.map_node_spots root, Node.nodup_spots root, c, hc, hi, hall, ?_,
    Node.nodup_reported root, Node.reported_subset root, Spot.map_node_methods, fun sp hsp => ?_⟩
  · rw [← hall.length_eq, Node.reported, List.length_append]
  · exact kind_ne_of_isFunction (Bool.and_eq_true_iff.1 (List.mem_filter.1 hsp).2).2 (by decide)

/-- The tree of `class A{m(){()=>0}}`, a method with an arrow function inside. -/
def methodTree : Node :=
  .mk ⟨"program", 0, 19, true, false, none⟩
    [.mk ⟨"class_declaration", 0, 19, true, false, none⟩
      [.mk ⟨"class", 0, 5, false, false, none⟩ [],
        .mk ⟨"type_identifier", 6, 7, true, false, some "name"⟩ [],
        .mk ⟨"class_body", 7, 19, true, false, some "body"⟩
          [.mk ⟨"method_definition", 8, 18, true, false, none⟩
            [.mk ⟨"property_identifier", 8, 9, true, false, some "name"⟩ [],
              .mk ⟨"statement_block", 11, 18, true, false, some "body"⟩
                [.mk ⟨"arrow_function", 12, 17, true, false, none⟩ []]]]]]

/-- The method and the function inside it are recorded once each. -/
theorem structure_inventory_method :
    (∀ n ∈ methodTree.descendants, Recordable (.ofText (Text.ofString "class A{m(){()=>0}}")) n) ∧
    ∃ c, structureOf (.ofText (Text.ofString "class A{m(){()=>0}}")) methodTree = .ok c ∧
      c.allFunctions.length = 2 ∧
      methodTree.reported.map Spot.address = [[0, 2, 0, 1, 0], [0, 2, 0]] ∧
      (methodTree.reported.map Spot.address).Nodup := by
  have hrec : ∀ n ∈ methodTree.descendants,
      Recordable (.ofText (Text.ofString "class A{m(){()=>0}}")) n := by decide +kernel
  obtain ⟨-, -, c, hc, -, -, hlen, hnodup, -⟩ := structure_inventory hrec
  exact ⟨hrec, c, hc, hlen.trans (by decide +kernel), by decide +kernel, hnodup⟩

end Extract

end CodeSurvey
