import PropTyper.Tree.Walk

/-! # What a walk meets

The stack of a walk stands for the pre-orders of its entries, so the nodes that a search yields are
those of the pre-order that are asked for. The rest says which nodes those are: they are closed
under children and under ancestors, and all of them have the same root.
-/

namespace PropTyper.Node

/-! ## Children and pre-order -/

theorem mem_children_iff {n c : Node} :
    c ∈ n.children ↔
      ∃ i t, n.tree.children[i]? = some t ∧ c = ⟨t, ⟨n.tree, i⟩ :: n.trail⟩ := by
  unfold children
  rw [List.mem_iff_getElem?]
  simp only [List.getElem?_mapIdx, Option.map_eq_some_iff]
  constructor
  · rintro ⟨i, t, ht, rfl⟩
    exact ⟨i, t, ht, rfl⟩
  · rintro ⟨i, t, ht, rfl⟩
    exact ⟨i, t, ht, rfl⟩

theorem map_tree_child? (n : Node) (field : Field) :
    (n.child? field).map (·.tree) = n.tree.child? field := by
  rw [child?, Tree.child?, ← map_tree_children, List.find?_map]
  rfl

theorem child?_eq_some_iff {n : Node} {field : Field} {t : Tree} :
    n.tree.child? field = some t ↔ ∃ c, n.child? field = some c ∧ c.tree = t := by
  rw [← map_tree_child?, Option.map_eq_some_iff]

theorem mem_children_of_child? {n c : Node} {field : Field} (h : n.child? field = some c) :
    c ∈ n.children :=
  List.mem_of_find?_eq_some h

theorem mem_preorder_iff {r n : Node} :
    n ∈ r.preorder ↔ n = r ∨ ∃ c ∈ r.children, n ∈ c.preorder := by
  rw [preorder_eq, List.mem_cons, List.mem_flatMap]

theorem mem_preorder_self (n : Node) : n ∈ n.preorder :=
  mem_preorder_iff.2 (.inl rfl)

/-- What holds of a node and passes on to children holds everywhere below the node. -/
theorem forall_mem_preorder {P : Node → Prop} (step : ∀ n c, P n → c ∈ n.children → P c) (r : Node)
    (self : P r) : ∀ n ∈ r.preorder, P n := by
  intro n hn
  rcases mem_preorder_iff.1 hn with rfl | ⟨c, hc, hnc⟩
  · exact self
  · exact forall_mem_preorder step c (step r c self hc) n hnc
termination_by sizeOf r.tree
decreasing_by exact sizeOf_child_lt hc

theorem mem_preorder_trans {r m n : Node} (hm : m ∈ r.preorder) (hn : n ∈ m.preorder) :
    n ∈ r.preorder := by
  rcases mem_preorder_iff.1 hm with rfl | ⟨c, hc, hmc⟩
  · exact hn
  · exact mem_preorder_iff.2 (.inr ⟨c, hc, mem_preorder_trans hmc hn⟩)
termination_by sizeOf r.tree
decreasing_by exact sizeOf_child_lt hc

theorem mem_preorder_of_mem_children {r n c : Node} (hn : n ∈ r.preorder) (hc : c ∈ n.children) :
    c ∈ r.preorder :=
  mem_preorder_trans hn (mem_preorder_iff.2 (.inr ⟨c, hc, mem_preorder_self c⟩))

/-! ## Searches -/

theorem selectFrom_eq_filter (wanted : Kind → Bool) (stack : List Node) :
    selectFrom wanted stack = (stack.flatMap preorder).filter fun n => wanted n.kind := by
  fun_induction selectFrom wanted stack with
  | case1 => rfl
  | case2 n rest later hwanted ih =>
    show n :: selectFrom wanted (n.children ++ rest) = _
    rw [ih, List.flatMap_append, List.flatMap_cons, preorder_eq n, List.cons_append,
      List.filter_cons, if_pos hwanted]
  | case3 n rest later hwanted ih =>
    show selectFrom wanted (n.children ++ rest) = _
    rw [ih, List.flatMap_append, List.flatMap_cons, preorder_eq n, List.cons_append,
      List.filter_cons, if_neg hwanted]

theorem select_eq_filter (n : Node) (wanted : Kind → Bool) :
    n.select wanted = n.preorder.filter fun m => wanted m.kind := by
  rw [select, selectFrom_eq_filter, List.flatMap_singleton]

theorem mem_select_iff {n m : Node} {wanted : Kind → Bool} :
    m ∈ n.select wanted ↔ m ∈ n.preorder ∧ wanted m.kind = true := by
  rw [select_eq_filter, List.mem_filter]

/-! ## Walks that gather -/

def visited {α : Type} (handler : Kind → Option (Node → α → α)) (acc : α) (n : Node) : α :=
  match handler n.kind with
  | some visit => visit n acc
  | none => acc

theorem traverseFrom_eq_foldl {α : Type} (handler : Kind → Option (Node → α → α))
    (stack : List Node) (acc : α) :
    traverseFrom handler stack acc = (stack.flatMap preorder).foldl (visited handler) acc := by
  fun_induction traverseFrom handler stack acc with
  | case1 => rfl
  | case2 n rest acc next ih =>
    rw [ih, List.flatMap_append, List.flatMap_cons, preorder_eq n, List.cons_append,
      List.foldl_cons]
    rfl

/-- A walk hands on the nodes in pre-order. -/
theorem traverse_eq_foldl {α : Type} (n : Node) (handler : Kind → Option (Node → α → α))
    (acc : α) : n.traverse handler acc = n.preorder.foldl (visited handler) acc := by
  rw [traverse, traverseFrom_eq_foldl, List.flatMap_singleton]

/-- What every visit of a node keeps holds of all that is gathered. -/
theorem traverse_induction {α : Type} {P : α → Prop} {n : Node}
    {handler : Kind → Option (Node → α → α)} {acc : α} (hacc : P acc)
    (hvisit : ∀ m ∈ n.preorder, ∀ visit, handler m.kind = some visit →
      ∀ found, P found → P (visit m found)) :
    P (n.traverse handler acc) := by
  rw [traverse_eq_foldl]
  refine List.foldlRecOn _ _ hacc ?_
  intro found hfound m hm
  unfold visited
  split
  · next visit hsome => exact hvisit m hm visit hsome found hfound
  · exact hfound

/-! ## Ancestors -/

theorem ancestors_of_mem_children {n c : Node} (h : c ∈ n.children) :
    c.ancestors = n :: n.ancestors := by
  obtain ⟨i, t, -, rfl⟩ := mem_children_iff.1 h
  rfl

theorem ancestors_mem_preorder {r n : Node} (hr : r.trail = []) (hn : n ∈ r.preorder) :
    ∀ a ∈ n.ancestors, a ∈ r.preorder := by
  have inside : n ∈ r.preorder ∧ ∀ a ∈ n.ancestors, a ∈ r.preorder := by
    refine forall_mem_preorder (P := fun n => n ∈ r.preorder ∧ ∀ a ∈ n.ancestors, a ∈ r.preorder)
      ?_ r ?_ n hn
    · rintro m c ⟨hm, habove⟩ hc
      refine ⟨mem_preorder_of_mem_children hm hc, ?_⟩
      rw [ancestors_of_mem_children hc]
      intro a ha
      rcases List.mem_cons.1 ha with rfl | ha
      · exact hm
      · exact habove a ha
    · refine ⟨mem_preorder_self r, ?_⟩
      rw [ancestors, hr]
      intro a ha
      cases ha
  exact inside.2

theorem enclosingScope?_of_mem_children {n c : Node} (h : c ∈ n.children) :
    c.enclosingScope? = if n.kind.isScope then some n else n.enclosingScope? := by
  rw [enclosingScope?, ancestors_of_mem_children h, List.find?_cons]
  cases n.kind.isScope <;> rfl

theorem scope?_of_mem_children {n c : Node} (h : c ∈ n.children) (hn : n.kind.isScope = false) :
    c.scope? = n.scope? := by
  rw [scope?, enclosingScope?_of_mem_children h, hn]
  rfl

/-- Below a block, everything has its scope there. -/
theorem exists_enclosingScope? {r n : Node} (hr : r.kind.isScope = true) (hn : n ∈ r.preorder)
    (hne : n ≠ r) : ∃ s ∈ r.preorder, n.enclosingScope? = some s := by
  have hinside : n ∈ r.preorder ∧ (n = r ∨ ∃ s ∈ r.preorder, n.enclosingScope? = some s) := by
    refine forall_mem_preorder
      (P := fun n => n ∈ r.preorder ∧ (n = r ∨ ∃ s ∈ r.preorder, n.enclosingScope? = some s))
      ?_ r ⟨mem_preorder_self r, .inl rfl⟩ n hn
    rintro m c ⟨hm, hscope⟩ hc
    refine ⟨mem_preorder_of_mem_children hm hc, .inr ?_⟩
    rw [enclosingScope?_of_mem_children hc]
    rcases hscope with rfl | ⟨s, hs, hscope⟩
    · exact ⟨m, hm, if_pos hr⟩
    · split
      · exact ⟨m, hm, rfl⟩
      · exact ⟨s, hs, hscope⟩
  exact hinside.2.resolve_left hne

theorem root_of_mem_preorder {r n : Node} (hr : r.trail = []) (hn : n ∈ r.preorder) :
    n.root = r := by
  refine forall_mem_preorder (P := fun n => n.root = r) ?_ r ?_ n hn
  · intro m c hm hc
    rw [root, ancestors_of_mem_children hc, List.getLastD_cons]
    exact hm
  · rw [root, ancestors, hr]
    rfl

end PropTyper.Node
