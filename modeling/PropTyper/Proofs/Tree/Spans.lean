import PropTyper.Proofs.Tree.Walk

/-! # Nodes and their bytes

In a tree whose children are ordered, disjoint and inside their parents, two nodes are either one
below the other or apart. The pre-order lists a node before everything below it, so that the first
node of some kind is never below another of that kind.
-/

namespace PropTyper

/-- The bytes of the children follow one another inside those of the tree. -/
structure Tree.Nested (t : Tree) : Prop where
  start_le_stop : t.span.start ≤ t.span.stop
  inside : ∀ c ∈ t.children, t.span.start ≤ c.span.start ∧ c.span.stop ≤ t.span.stop
  apart : t.children.Pairwise fun a b => a.span.stop ≤ b.span.start

instance (t : Tree) : Decidable t.Nested :=
  decidable_of_iff
    (t.span.start ≤ t.span.stop ∧
      (∀ c ∈ t.children, t.span.start ≤ c.span.start ∧ c.span.stop ≤ t.span.stop) ∧
      t.children.Pairwise fun a b => a.span.stop ≤ b.span.start)
    ⟨fun h => ⟨h.1, h.2.1, h.2.2⟩, fun h => ⟨h.start_le_stop, h.inside, h.apart⟩⟩

theorem Tree.Nested.stop_le_start {t a b : Tree} (h : t.Nested) {i j : Nat}
    (ha : t.children[i]? = some a) (hb : t.children[j]? = some b) (hij : i < j) :
    a.span.stop ≤ b.span.start := by
  obtain ⟨hi, rfl⟩ := List.getElem?_eq_some_iff.1 ha
  obtain ⟨hj, rfl⟩ := List.getElem?_eq_some_iff.1 hb
  exact List.pairwise_iff_getElem.1 h.apart i j hi hj hij

namespace Node

/-- The bytes are nested everywhere below a node. -/
def WellNested (r : Node) : Prop :=
  ∀ n ∈ r.preorder, n.tree.Nested

/-! ## Where a node stands -/

theorem trail_suffix_of_mem_preorder {n m : Node} (h : m ∈ n.preorder) : n.trail <:+ m.trail := by
  refine forall_mem_preorder (P := fun m => n.trail <:+ m.trail) ?_ n (List.suffix_refl _) m h
  intro a c ha hc
  obtain ⟨i, t, -, rfl⟩ := mem_children_iff.1 hc
  exact ha.trans (List.suffix_cons _ _)

theorem sizeOf_le_of_mem_preorder {n m : Node} (h : m ∈ n.preorder) :
    sizeOf m.tree ≤ sizeOf n.tree := by
  refine forall_mem_preorder (P := fun m => sizeOf m.tree ≤ sizeOf n.tree) ?_ n (Nat.le_refl _) m h
  intro a c ha hc
  exact Nat.le_trans (Nat.le_of_lt (sizeOf_child_lt hc)) ha

theorem eq_of_trail_eq_nil {r n : Node} (hn : n ∈ r.preorder) (h : n.trail = []) : n = r := by
  rcases mem_preorder_iff.1 hn with rfl | ⟨c, hc, hnc⟩
  · rfl
  · obtain ⟨i, t, -, rfl⟩ := mem_children_iff.1 hc
    have hsuffix := trail_suffix_of_mem_preorder hnc
    rw [h] at hsuffix
    simp at hsuffix

theorem eq_or_mem_children {n m : Node} (h : m ∈ n.preorder) :
    m = n ∨ ∃ p ∈ n.preorder, m ∈ p.children := by
  refine forall_mem_preorder (P := fun m => m = n ∨ ∃ p ∈ n.preorder, m ∈ p.children) ?_ n
    (.inl rfl) m h
  rintro m c (rfl | ⟨p, hp, hm⟩) hc
  · exact .inr ⟨m, mem_preorder_self m, hc⟩
  · exact .inr ⟨m, mem_preorder_of_mem_children hp hm, hc⟩

theorem parent?_of_mem_children {p c : Node} (h : c ∈ p.children) : c.parent? = some p := by
  obtain ⟨i, t, -, rfl⟩ := mem_children_iff.1 h
  rfl

theorem mem_children_of_parent? {r n p : Node} (hr : r.trail = []) (hn : n ∈ r.preorder)
    (hp : n.parent? = some p) : p ∈ r.preorder ∧ n ∈ p.children := by
  rcases eq_or_mem_children hn with rfl | ⟨q, hq, hnq⟩
  · rw [parent?, hr] at hp
    cases hp
  · cases hp.symm.trans (parent?_of_mem_children hnq)
    exact ⟨hq, hnq⟩

theorem mem_children_of_nextSibling? {n p s : Node} (hn : n ∈ p.children)
    (hs : n.nextSibling? = some s) : s ∈ p.children := by
  obtain ⟨i, t, -, rfl⟩ := mem_children_iff.1 hn
  obtain ⟨u, hu, rfl⟩ := Option.map_eq_some_iff.1 hs
  exact mem_children_iff.2 ⟨i + 1, u, hu, rfl⟩

/-! ## Bytes -/

theorem WellNested.child {r c : Node} (h : r.WellNested) (hc : c ∈ r.children) : c.WellNested :=
  fun n hn => h n (mem_preorder_iff.2 (.inr ⟨c, hc, hn⟩))

theorem span_of_mem_preorder {r n : Node} (h : r.WellNested) (hn : n ∈ r.preorder) :
    r.span.start ≤ n.span.start ∧ n.span.stop ≤ r.span.stop := by
  have hboth : n ∈ r.preorder ∧ r.span.start ≤ n.span.start ∧ n.span.stop ≤ r.span.stop := by
    refine forall_mem_preorder (P := fun n => n ∈ r.preorder ∧ r.span.start ≤ n.span.start ∧
      n.span.stop ≤ r.span.stop) ?_ r ⟨mem_preorder_self r, Nat.le_refl _, Nat.le_refl _⟩ n hn
    rintro m c ⟨hm, hstart, hstop⟩ hc
    obtain ⟨hcstart, hcstop⟩ := (h m hm).inside c.tree (tree_mem_of_mem_children hc)
    exact ⟨mem_preorder_of_mem_children hm hc, Nat.le_trans hstart hcstart,
      Nat.le_trans hcstop hstop⟩
  exact hboth.2

theorem span_le {r n : Node} (h : r.WellNested) (hn : n ∈ r.preorder) :
    n.span.start ≤ n.span.stop :=
  (h n hn).start_le_stop

theorem children_apart {n c d : Node} (h : n.tree.Nested) (hc : c ∈ n.children)
    (hd : d ∈ n.children) :
    c = d ∨ c.span.stop ≤ d.span.start ∨ d.span.stop ≤ c.span.start := by
  obtain ⟨i, t, ht, rfl⟩ := mem_children_iff.1 hc
  obtain ⟨j, u, hu, rfl⟩ := mem_children_iff.1 hd
  rcases Nat.lt_trichotomy i j with hij | rfl | hij
  · exact .inr (.inl (h.stop_le_start ht hu hij))
  · cases ht.symm.trans hu
    exact .inl rfl
  · exact .inr (.inr (h.stop_le_start hu ht hij))

/-- Two nodes of a tree are one below the other or apart. -/
theorem below_or_apart {r x y : Node} (h : r.WellNested) (hx : x ∈ r.preorder)
    (hy : y ∈ r.preorder) :
    x ∈ y.preorder ∨ y ∈ x.preorder ∨ x.span.stop ≤ y.span.start ∨ y.span.stop ≤ x.span.start := by
  rcases mem_preorder_iff.1 hx with rfl | ⟨c, hc, hxc⟩
  · exact .inr (.inl hy)
  · rcases mem_preorder_iff.1 hy with rfl | ⟨d, hd, hyd⟩
    · exact .inl hx
    · obtain ⟨hxstart, hxstop⟩ := span_of_mem_preorder (h.child hc) hxc
      obtain ⟨hystart, hystop⟩ := span_of_mem_preorder (h.child hd) hyd
      rcases children_apart (h r (mem_preorder_self r)) hc hd with rfl | hcd | hdc
      · exact below_or_apart (h.child hc) hxc hyd
      · exact .inr (.inr (.inl (Nat.le_trans hxstop (Nat.le_trans hcd hystart))))
      · exact .inr (.inr (.inr (Nat.le_trans hystop (Nat.le_trans hdc hxstart))))
termination_by sizeOf r.tree
decreasing_by exact sizeOf_child_lt hc

/-! ## Order -/

/-- A node that is listed before another does not stand below it. -/
theorem pairwise_preorder (r : Node) : r.preorder.Pairwise fun x y => x ∉ y.preorder := by
  rw [preorder_eq]
  refine List.pairwise_cons.2 ⟨?_, List.pairwise_flatMap.2 ⟨?_, ?_⟩⟩
  · intro y hy hr
    obtain ⟨c, hc, hyc⟩ := List.mem_flatMap.1 hy
    have hle := Nat.le_trans (sizeOf_le_of_mem_preorder hr) (sizeOf_le_of_mem_preorder hyc)
    exact absurd (sizeOf_child_lt hc) (Nat.not_lt.2 hle)
  · intro c hc
    exact pairwise_preorder c
  · -- nodes below different children go back to different numbers
    rw [children, List.pairwise_iff_getElem]
    intro i j hi hj hij x hx y hy hxy
    rw [List.getElem_mapIdx] at hx hy
    have hsuffix := trail_suffix_of_mem_preorder hx
    have hsuffix' := trail_suffix_of_mem_preorder (mem_preorder_trans hy hxy)
    have heq := (List.suffix_of_suffix_length_le hsuffix hsuffix' (by simp)).eq_of_length (by simp)
    simp at heq
    omega
termination_by sizeOf r.tree
decreasing_by exact sizeOf_child_lt hc

/-- The first node that a search finds is not below another that it looks for. -/
theorem not_below_of_find? {r n o : Node} {wanted : Kind → Bool} {accept : Node → Bool}
    (h : (r.select wanted).find? accept = some n) (ho : o ∈ r.select wanted)
    (haccept : accept o = true) (hbelow : n ∈ o.preorder) : n = o := by
  obtain ⟨-, before, after, hlist, hbefore⟩ := List.find?_eq_some_iff_append.1 h
  have horder : (r.select wanted).Pairwise fun x y => x ∉ y.preorder := by
    rw [select_eq_filter]
    exact (pairwise_preorder r).filter _
  rw [hlist] at ho horder
  rcases List.mem_append.1 ho with ho | ho
  · have := hbefore o ho
    simp [haccept] at this
  · rcases List.mem_cons.1 ho with rfl | ho
    · rfl
    · have hpair := (List.pairwise_cons.1 (List.pairwise_append.1 horder).2.1).1 o ho
      exact (hpair hbelow).elim

end Node

end PropTyper
