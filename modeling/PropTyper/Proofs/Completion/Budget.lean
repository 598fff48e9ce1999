import PropTyper.Proofs.Completion.Run
import PropTyper.Proofs.Evidence.Members
import PropTyper.Proofs.Property.Merge

/-! # The budget of a run

A run looks up no name twice, and every name that comes up is one of the list or an identifier of
the tree. There are no more pairs of such a name and a block than `budget` allows for, so a run ends
because nothing waits any more, never because its budget is used up.
-/

namespace PropTyper

namespace Property

/-- All names bound at or below a property are among `names`. -/
def BoundIn (names : List String) (p : Property) : Prop :=
  p.Everywhere fun q => ∀ b ∈ q.binding, b ∈ names

variable {names : List String}

theorem persists_boundIn : Persists fun q => ∀ b ∈ q.binding, b ∈ names where
  normalize := by
    intro q hq
    rwa [normalize_binding]
  mergeWith := by
    intro members mode base other hbase hother
    rw [mergeWith_binding]
    split
    · exact hbase
    · exact hother

theorem BoundIn.normalize {p : Property} (h : BoundIn names p) : BoundIn names p.normalize :=
  Everywhere.normalize (fun _ => persists_boundIn.normalize) h

theorem boundIn_mergeLists {mode : MergeMode} {base other : List Property}
    {binding : List String} (hbase : ∀ p ∈ base, BoundIn names p)
    (hother : ∀ p ∈ other, BoundIn names p) :
    ∀ p ∈ mergeLists mode base other binding, BoundIn names p :=
  persists_boundIn.everywhere_mergeLists hbase hother

end Property

namespace Completion

open Property

variable {component : Node} {names : List String}

/-! ## Names that can come up -/

/-- Every pair of one of the names and a block of the component. -/
def possibleKeys (component : Node) (names : List String) : List Key :=
  names.flatMap fun b =>
    (none :: (blocks component).map fun n => some n.span.toScope).map fun block => ⟨b, block⟩

theorem length_possibleKeys (component : Node) (names : List String) :
    (possibleKeys component names).length = names.length * ((blocks component).length + 1) := by
  simp [possibleKeys, List.length_flatMap, List.map_const']

theorem keyOf_mem_possibleKeys {p : Property} (hopen : isOpen p = true) (hp : BoundIn names p) :
    keyOf component p ∈ possibleKeys component names := by
  obtain ⟨b, hb, -⟩ := binding_of_isOpen hopen
  refine List.mem_flatMap.2 ⟨b, hp p (mem_preorder_self p) b hb, ?_⟩
  refine List.mem_map.2 ⟨blockOf component p, ?_, by simp [keyOf, hb]⟩
  unfold blockOf
  cases hscope : p.scope with
  | none => exact List.mem_cons_self
  | some scope =>
      rw [Option.filter_some]
      split
      · next hany =>
        obtain ⟨n, hn, heq⟩ := List.any_eq_true.1 hany
        refine List.mem_cons_of_mem _ (List.mem_map.2 ⟨n, hn, ?_⟩)
        rw [of_decide_eq_true heq]
      · exact List.mem_cons_self

theorem lookupBlock_mem_preorder (component : Node) (p : Property) :
    lookupBlock component p ∈ component.preorder := by
  unfold lookupBlock blockNode
  split
  · exact Node.mem_preorder_self component
  · next scope _ =>
    cases hlast : ((blocks component).filter fun b => b.span.toScope = scope).getLast? with
    | none => exact Node.mem_preorder_self component
    | some n =>
        have hn := (List.mem_filter.1 (List.mem_of_getLast? hlast)).1
        exact (Node.mem_select_iff.1 hn).1

theorem observed_evidence {r : Node} (hr : r.trail = []) (hcomponent : component ∈ r.preorder)
    (p : Property) : ∀ f ∈ evidence component p, f.Everywhere (Observed r.identifiers) :=
  (Node.meets_observed hr).membersOf
    (Node.mem_preorder_trans hcomponent (lookupBlock_mem_preorder component p)) _

theorem boundIn_outcome {r : Node} (hr : r.trail = []) (hcomponent : component ∈ r.preorder)
    (hnames : r.identifiers ⊆ names) {p : Property} (h : BoundIn names p) :
    BoundIn names (outcome component p) := by
  obtain ⟨hself, hbelow⟩ := everywhere_iff.1 h
  unfold outcome
  split
  · refine everywhere_iff.2 ⟨hself, ?_⟩
    intro c hc
    cases hc
  · split
    · exact h
    · refine everywhere_iff.2 ⟨hself, boundIn_mergeLists hbelow ?_⟩
      intro f hf q hq b hb
      exact hnames ((observed_evidence hr hcomponent p f hf q hq).binding_mem b hb)

/-! ## What a run keeps -/

/-- What waits after a turn waited before it, or is a member of its outcome. -/
theorem mem_resolve_waiting {s : State} {w v : Waiting}
    (h : v ∈ (Completion.resolve component s w).waiting) :
    (∃ u ∈ s.waiting, v.property = u.property) ∨
      isOpen v.property = true ∧ v.property ∈ (outcome component w.property).preorder := by
  have hkept : ∀ p, v ∈ (replace s w p).waiting → ∃ u ∈ s.waiting, v.property = u.property := by
    intro p hv
    unfold replace at hv
    split at hv
    · exact ⟨v, hv, rfl⟩
    · obtain ⟨u, hu, rfl⟩ := List.mem_map.1 hv
      exact ⟨u, hu, detach_property _ u⟩
  obtain ⟨-, ⟨-, -, hwaiting⟩ | ⟨-, hwaiting⟩⟩ := resolve_cases component s w
  · rw [hwaiting] at h
    exact .inl ⟨v, h, rfl⟩
  · rw [hwaiting] at h
    rcases List.mem_append.1 h with h | h
    · exact .inl (hkept _ h)
    · obtain ⟨hmem, hopen⟩ := mem_freshMembers h
      refine .inr ⟨hopen, mem_preorder_iff.2 (.inr ?_)⟩
      have hprop := List.mem_map_of_mem (f := (·.property)) hmem
      rw [map_property_placedFrom] at hprop
      exact List.mem_flatMap.1 hprop

structure Bounded (component : Node) (names : List String) (s : State) : Prop where
  bound : ∀ w ∈ s.waiting, isOpen w.property = true ∧ BoundIn names w.property
  possible : s.resolved ⊆ possibleKeys component names

theorem Bounded.dropFirst {properties : List Property} {w : Waiting} {rest : List Waiting}
    {resolved : List Key} (h : Bounded component names ⟨properties, w :: rest, resolved⟩) :
    Bounded component names ⟨properties, rest, resolved⟩ :=
  ⟨fun v hv => h.bound v (List.mem_cons_of_mem w hv), h.possible⟩

theorem Bounded.resolve {r : Node} (hr : r.trail = []) (hcomponent : component ∈ r.preorder)
    (hnames : r.identifiers ⊆ names) {properties : List Property} {w : Waiting}
    {rest : List Waiting} {resolved : List Key}
    (h : Bounded component names ⟨properties, w :: rest, resolved⟩) :
    Bounded component names (Completion.resolve component ⟨properties, rest, resolved⟩ w) := by
  obtain ⟨hopen, hbound⟩ := h.bound w List.mem_cons_self
  have hresolved := (resolve_cases component ⟨properties, rest, resolved⟩ w).1
  refine ⟨?_, ?_⟩
  · intro v hv
    rcases mem_resolve_waiting hv with ⟨u, hu, heq⟩ | ⟨hv, hbelow⟩
    · rw [heq]
      exact h.bound u (List.mem_cons_of_mem w hu)
    · refine ⟨hv, fun q hq => ?_⟩
      exact boundIn_outcome hr hcomponent hnames hbound q (mem_preorder_trans hbelow hq)
  · rw [hresolved]
    refine List.append_subset.2 ⟨h.possible, ?_⟩
    intro key hmem
    rw [List.mem_singleton.1 hmem]
    exact keyOf_mem_possibleKeys hopen hbound

theorem Bounded.run {r : Node} (hr : r.trail = []) (hcomponent : component ∈ r.preorder)
    (hnames : r.identifiers ⊆ names) {s : State} (h : Bounded component names s) (budget : Nat) :
    Bounded component names (Completion.run component budget s) := by
  fun_induction Completion.run component budget s with
  | case1 => exact h
  | case2 budget properties w rest resolved hkey ih => exact ih h.dropFirst
  | case3 => exact h
  | case4 properties w rest resolved hkey budget ih =>
    exact ih (h.resolve hr hcomponent hnames)

/-- A run ends when nothing waits, or with a name to be looked up after as many as it may. -/
theorem run_waiting_cases (component : Node) (budget : Nat) (s : State) :
    (run component budget s).waiting = [] ∨
      (lookups component budget s).length = budget ∧
        ∃ w ∈ (run component budget s).waiting,
          keyOf component w.property ∉ (run component budget s).resolved := by
  fun_induction run component budget s with
  | case1 => exact .inl rfl
  | case2 budget properties w rest resolved hkey ih => rwa [lookups_of_contains hkey]
  | case3 properties w rest resolved hkey =>
    exact .inr ⟨by rw [lookups_zero]; rfl, w, List.mem_cons_self, by simpa using hkey⟩
  | case4 properties w rest resolved hkey budget ih =>
    rw [lookups_succ hkey, List.length_cons, Nat.add_right_cancel_iff]
    exact ih

theorem bindings_eq {r : Node} (hr : r.trail = []) (hcomponent : component ∈ r.preorder)
    (properties : List Property) :
    bindings component properties =
      (properties.flatMap preorder).filterMap (·.binding) ++ r.identifiers := by
  rw [bindings, Node.root_of_mem_preorder hr hcomponent]
  rfl

theorem identifiers_subset_bindings {r : Node} (hr : r.trail = [])
    (hcomponent : component ∈ r.preorder) (properties : List Property) :
    r.identifiers ⊆ bindings component properties := by
  rw [bindings_eq hr hcomponent]
  exact List.subset_append_right _ _

theorem bounded_initial (component : Node) (properties : List Property) (except : List String) :
    Bounded component (bindings component properties)
      ⟨properties, initialWaiting properties except, []⟩ := by
  refine ⟨?_, List.nil_subset _⟩
  intro w hw
  refine ⟨(invariant_initial component properties except).allOpen w hw, ?_⟩
  intro q hq b hb
  refine List.mem_append_left _ (List.mem_filterMap.2 ⟨q, ?_, hb⟩)
  have hprop := List.mem_map_of_mem (f := (·.property)) (List.mem_filter.1 hw).1
  rw [map_property_placedFrom] at hprop
  obtain ⟨p, hp, hwp⟩ := List.mem_flatMap.1 hprop
  exact List.mem_flatMap.2 ⟨p, hp, mem_preorder_trans hwp hq⟩

/-- The work on a list ends with nothing left to do. -/
theorem final_waiting_eq_nil {r : Node} (hr : r.trail = []) (hcomponent : component ∈ r.preorder)
    (properties : List Property) (except : List String) :
    (final component properties except).waiting = [] := by
  have hnames := identifiers_subset_bindings hr hcomponent properties
  have hend := (bounded_initial component properties except).run hr hcomponent hnames
    (budget component properties)
  rcases run_waiting_cases component (budget component properties)
    ⟨properties, initialWaiting properties except, []⟩ with hnil | ⟨hlength, w, hw, hkey⟩
  · exact hnil
  · -- as many names as there are would be looked up, and one more would wait
    obtain ⟨hopen, hbound⟩ := hend.bound w hw
    have hsubset := List.cons_subset.2 ⟨keyOf_mem_possibleKeys hopen hbound, hend.possible⟩
    have hle := (List.nodup_cons.2
      ⟨hkey, nodup_run_resolved List.nodup_nil _⟩).length_le_of_subset hsubset
    rw [length_possibleKeys, List.length_cons, run_resolved, List.nil_append, List.length_map,
      hlength] at hle
    exact absurd hle (Nat.not_succ_le_self _)

end Completion

end PropTyper
