import Mathlib.Data.List.Perm.Basic
import PropTyper.Proofs.Tree.Spans

/-! # Walks and searches by a stack

A walk by kinds is the part of the pre-order that it asks for, whether the nodes are listed or
handed on to visits that gather something. The search for faults is another walk: it passes over
subtrees without a mark, and takes the children of a node from the last one on. It finds every
fault from every start if and only if each fault and each node above one is marked.
-/

namespace PropTyper

namespace Node

/-! ## Walks by kinds -/

/-- Both walks follow the pre-order: one lists its nodes of the kinds asked for, the other hands
each of these to the visit of its kind, together with what the visits before it have gathered. -/
theorem select_traverse_follow_preorder (root : Node) (wanted : Kind → Bool) :
    root.select wanted = root.preorder.filter (fun n => wanted n.kind) ∧
      ∀ (α : Type) (visit : Kind → Node → α → α) (acc : α),
        root.traverse (fun kind => if wanted kind then some (visit kind) else none) acc =
          (root.select wanted).foldl (fun found n => visit n.kind n found) acc := by
  refine ⟨select_eq_filter root wanted, fun α visit acc => ?_⟩
  have hvisited : visited (fun kind => if wanted kind then some (visit kind) else none) =
      fun found n => if wanted n.kind then visit n.kind n found else found := by
    funext found n
    cases hwanted : wanted n.kind <;> simp [visited, hwanted]
  rw [traverse_eq_foldl, hvisited, select_eq_filter, List.foldl_filter]

/-! ## What the search for faults goes through -/

/-- A node, then what is gone through below each child that is worth a look, the last one first. -/
def searched (n : Node) : List Node :=
  n :: (n.children.filter mayHoldFault).reverse.attach.flatMap fun c => searched c.1
termination_by sizeOf n.tree
decreasing_by exact sizeOf_child_lt (List.mem_filter.1 (List.mem_reverse.1 c.2)).1

theorem searched_eq (n : Node) :
    n.searched = n :: (n.children.filter mayHoldFault).reverse.flatMap searched := by
  rw [searched, List.flatMap_subtype fun _ _ => rfl, List.unattach_attach]

theorem flatMap_searched_cons (n : Node) (rest : List Node) :
    (n :: rest).flatMap searched =
      n :: ((n.children.filter mayHoldFault).reverse ++ rest).flatMap searched := by
  rw [List.flatMap_cons, searched_eq, List.cons_append, List.flatMap_append]

theorem faultsFrom_eq_filter (stack : List Node) :
    faultsFrom stack = (stack.flatMap searched).filter isFault := by
  fun_induction faultsFrom stack with
  | case1 => rfl
  | case2 n rest later hfault ih =>
    rw [flatMap_searched_cons, List.filter_cons, if_pos hfault, ← ih]
  | case3 n rest later hfault ih =>
    rw [flatMap_searched_cons, List.filter_cons, if_neg hfault, ← ih]

theorem faults_eq_filter {n : Node} (h : n.tree.hasError = true) :
    n.faults = n.searched.filter isFault := by
  rw [faults, if_pos h, faultsFrom_eq_filter, List.flatMap_singleton]

theorem hasError_of_mem_faults {n m : Node} (h : m ∈ n.faults) : n.tree.hasError = true := by
  unfold faults at h
  split at h
  · assumption
  · cases h

/-! ## Marks -/

/-- Every node that is a fault, or has one below it, has the error mark. -/
def MarksFaults (r : Node) : Prop :=
  ∀ n ∈ r.preorder, (∃ m ∈ n.preorder, m.isFault = true) → n.tree.hasError = true

theorem MarksFaults.of_mem_preorder {r n : Node} (h : r.MarksFaults) (hn : n ∈ r.preorder) :
    n.MarksFaults :=
  fun m hm => h m (mem_preorder_trans hn hm)

theorem MarksFaults.filter_eq_nil {n : Node} (h : n.MarksFaults) (hn : n.tree.hasError = false) :
    n.preorder.filter isFault = [] := by
  rw [List.filter_eq_nil_iff]
  intro m hm hfault
  have hmark := h n (mem_preorder_self n) ⟨m, hm, hfault⟩
  rw [hn] at hmark
  cases hmark

/-- Passing over the nodes that are not worth a look loses no fault. -/
theorem flatMap_filter_mayHoldFault {nodes : List Node} (h : ∀ n ∈ nodes, n.MarksFaults) :
    (nodes.filter mayHoldFault).flatMap (fun n => n.preorder.filter isFault) =
      nodes.flatMap fun n => n.preorder.filter isFault := by
  induction nodes with
  | nil => rfl
  | cons n rest ih =>
    have hrest := ih fun m hm => h m (List.mem_cons_of_mem n hm)
    rw [List.filter_cons, List.flatMap_cons]
    cases hlook : n.mayHoldFault with
    | true => rw [if_pos rfl, List.flatMap_cons, hrest]
    | false =>
      have hmark : n.tree.hasError = false := (Bool.or_eq_false_iff.1 hlook).1
      rw [if_neg Bool.false_ne_true, hrest, (h n List.mem_cons_self).filter_eq_nil hmark,
        List.nil_append]

/-- By the marks, the search goes through all faults, in another order. -/
theorem MarksFaults.perm_filter_searched {n : Node} (h : n.MarksFaults) :
    (n.searched.filter isFault).Perm (n.preorder.filter isFault) := by
  have hmarks : ∀ c ∈ n.children, c.MarksFaults := fun c hc =>
    h.of_mem_preorder (mem_preorder_of_mem_children (mem_preorder_self n) hc)
  have hbelow : (((n.children.filter mayHoldFault).reverse.flatMap searched).filter isFault).Perm
      ((n.children.flatMap preorder).filter isFault) := by
    -- Without the children that hold nothing, the two sides differ in the order of the rest only.
    rw [List.filter_flatMap, List.filter_flatMap, ← flatMap_filter_mayHoldFault hmarks]
    refine List.Perm.flatMap (List.reverse_perm _) fun c hc => ?_
    have hchild : c ∈ n.children := (List.mem_filter.1 (List.mem_reverse.1 hc)).1
    exact perm_filter_searched (hmarks c hchild)
  rw [searched_eq, preorder_eq, List.filter_cons, List.filter_cons]
  split
  · exact hbelow.cons n
  · exact hbelow
termination_by sizeOf n.tree
decreasing_by exact sizeOf_child_lt hchild

theorem MarksFaults.perm_faults {n : Node} (h : n.MarksFaults) :
    n.faults.Perm (n.preorder.filter isFault) := by
  cases hmark : n.tree.hasError with
  | true =>
    rw [faults_eq_filter hmark]
    exact h.perm_filter_searched
  | false =>
    rw [faults, hmark, h.filter_eq_nil hmark]
    exact .nil

theorem nodup_preorder (n : Node) : n.preorder.Nodup :=
  (pairwise_preorder n).imp (by rintro x y hbelow rfl; exact hbelow (mem_preorder_self x))

end Node

/-! ## A broken file -/

namespace Tree

def missingBracket : Tree :=
  { kind := .other ")", span := ⟨2, 2⟩, text := "", named := false, missing := true
    hasError := true }

def openArguments : Tree :=
  let bracket := { kind := .other "(", span := ⟨1, 2⟩, text := "(", named := false }
  { kind := .arguments, span := ⟨1, 2⟩, text := "(", hasError := true
    children := [bracket, missingBracket] }

def openCall : Tree :=
  let called := { kind := .identifier, span := ⟨0, 1⟩, text := "f" }
  { kind := .callExpression, span := ⟨0, 2⟩, text := "f(", hasError := true
    children := [called, openArguments] }

def openStatement : Tree :=
  let semicolon := { kind := .other ";", span := ⟨2, 3⟩, text := ";", named := false }
  { kind := .expressionStatement, span := ⟨0, 3⟩, text := "f(;", hasError := true
    children := [openCall, semicolon] }

def strayBrace : Tree :=
  let brace := { kind := .other "\x7d", span := ⟨3, 4⟩, text := "\x7d", named := false }
  { kind := .error, span := ⟨3, 4⟩, text := "\x7d", hasError := true, children := [brace] }

/-- The file `f(;}`, in which one bracket is missing and another is left over. -/
def brokenCall : Tree :=
  { kind := .program, span := ⟨0, 4⟩, text := "f(;\x7d", hasError := true
    children := [openStatement, strayBrace] }

end Tree

namespace Node

def missingBracket : Node :=
  ⟨Tree.missingBracket, [⟨Tree.openArguments, 1⟩, ⟨Tree.openCall, 1⟩, ⟨Tree.openStatement, 0⟩,
    ⟨Tree.brokenCall, 0⟩]⟩

theorem missingBracket_mem_preorder : missingBracket ∈ preorder ⟨Tree.brokenCall, []⟩ := by
  have hstatement : ⟨Tree.openStatement, [⟨Tree.brokenCall, 0⟩]⟩ ∈ preorder ⟨Tree.brokenCall, []⟩ :=
    mem_preorder_of_mem_children (mem_preorder_self _) (mem_children_iff.2 ⟨0, _, rfl, rfl⟩)
  have hcall := mem_preorder_of_mem_children hstatement (mem_children_iff.2 ⟨0, _, rfl, rfl⟩)
  have harguments := mem_preorder_of_mem_children hcall (mem_children_iff.2 ⟨1, _, rfl, rfl⟩)
  exact mem_preorder_of_mem_children harguments (mem_children_iff.2 ⟨1, _, rfl, rfl⟩)

theorem marksFaults_brokenCall : MarksFaults ⟨Tree.brokenCall, []⟩ := by
  -- A node of this file has the mark, or it is a token that is in its place.
  have htokens : ∀ n ∈ preorder ⟨Tree.brokenCall, []⟩,
      n.tree.hasError = true ∨ n.tree.children = [] ∧ n.isFault = false := by
    simp [preorder_eq, children, isFault, kind, Tree.brokenCall, Tree.openStatement, Tree.openCall,
      Tree.openArguments, Tree.missingBracket, Tree.strayBrace]
  rintro n hn ⟨m, hm, hfault⟩
  rcases htokens n hn with hmark | ⟨hleaf, hplace⟩
  · exact hmark
  · rw [preorder_eq, children, hleaf] at hm
    cases List.mem_singleton.1 hm
    rw [hplace] at hfault
    cases hfault

/-! ## Completeness -/

/-- From every start the search lists exactly the faults at or below it, each one once, if and only
if each fault and each node above one is marked. -/
theorem marksFaults_iff_faults_complete (r : Node) :
    r.MarksFaults ↔
      ∀ n ∈ r.preorder, n.faults.Nodup ∧
        ∀ m, m ∈ n.faults ↔ m ∈ n.preorder ∧ m.isFault = true := by
  constructor
  · intro h n hn
    have hperm := (h.of_mem_preorder hn).perm_faults
    refine ⟨hperm.nodup_iff.2 ((nodup_preorder n).filter _), fun m => ?_⟩
    rw [hperm.mem_iff, List.mem_filter]
  · rintro h n hn ⟨m, hm, hfault⟩
    exact hasError_of_mem_faults (((h n hn).2 m).2 ⟨hm, hfault⟩)

theorem marksFaults_iff_faults_complete_brokenCall :
    MarksFaults ⟨Tree.brokenCall, []⟩ ∧ (faults ⟨Tree.brokenCall, []⟩).Nodup ∧
      missingBracket ∈ faults ⟨Tree.brokenCall, []⟩ := by
  obtain ⟨hnodup, hfound⟩ := (marksFaults_iff_faults_complete _).1 marksFaults_brokenCall
    ⟨Tree.brokenCall, []⟩ (mem_preorder_self _)
  refine ⟨marksFaults_brokenCall, hnodup, ?_⟩
  exact (hfound missingBracket).2 ⟨missingBracket_mem_preorder, rfl⟩

end Node

end PropTyper
