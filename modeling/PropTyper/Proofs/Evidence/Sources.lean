import PropTyper.Component.Analysis
import PropTyper.Proofs.Evidence.Members
import PropTyper.Proofs.Property.Merge

/-! # What uses and default values show

The uses of a component are observations, and so are its default values. Merging observations gives
nothing else: a property that no declaration states has no literal and no mark, and the only kind
with members that it can have is a shape.
-/

namespace PropTyper

namespace MergeMode

theorem kind_cases (mode : MergeMode) (a b : PropKind) : mode.kind a b = a ∨ mode.kind a b = b := by
  cases mode with
  | authoritative => exact .inl rfl
  | priority =>
      simp only [kind]
      split
      · exact .inr rfl
      · exact .inl rfl
  | peer =>
      simp only [kind]
      split
      · exact .inr rfl
      · split
        · next hcall =>
          obtain ⟨-, rfl⟩ : a = .shape ∧ b = .func := by simpa using hcall
          exact .inr rfl
        · exact .inl rfl

end MergeMode

namespace Node

variable {r n : Node}

theorem child?_mem_preorder {c : Node} {field : Field} (hn : n ∈ r.preorder)
    (hc : n.child? field = some c) : c ∈ r.preorder :=
  mem_preorder_of_mem_children hn (List.mem_of_find?_eq_some hc)

theorem parameterParts_mem_preorder {c : Node} (hn : n ∈ r.preorder)
    (hc : n.parameterParts.1 = some c) : c ∈ r.preorder := by
  unfold parameterParts at hc
  split at hc
  · exact child?_mem_preorder hn hc
  · exact child?_mem_preorder hn hc
  · exact child?_mem_preorder hn hc
  · cases hc
    exact hn

theorem firstParameter?_mem_preorder {c : Node} (hn : n ∈ r.preorder)
    (hc : n.firstParameter? = some c) : c ∈ r.preorder := by
  unfold firstParameter? at hc
  split at hc
  · next single hsingle =>
    cases hc
    exact child?_mem_preorder hn hsingle
  · split at hc
    · cases hc
    · next list hlist =>
      split at hc
      · next first hfirst =>
        have hmem := (List.mem_filter.1 (List.mem_of_find?_eq_some hfirst)).1
        exact parameterParts_mem_preorder
          (mem_preorder_of_mem_children (child?_mem_preorder hn hlist) hmem) hc
      · cases hc

end Node

namespace Property

/-- Lists that meet the condition at every depth merge to such a list. -/
def KeptByMerge (P : Property → Prop) : Prop :=
  ∀ mode {base other : List Property}, (∀ p ∈ base, Everywhere P p) →
    (∀ p ∈ other, Everywhere P p) → ∀ p ∈ mergeLists mode base other, Everywhere P p

theorem persists_observed {names : List String} : Persists (Observed names) where
  normalize := by
    intro q hq
    refine ⟨by simpa using hq.binding_mem, by simpa using hq.kind_eq, ?_,
      by simpa using hq.required_eq, by simpa using hq.literal_eq, by simpa using hq.scope_eq⟩
    intro hkind
    rw [normalize_kind] at hkind
    rw [normalize_children, hq.children_eq hkind]
    simp [arranged, sortByName]
  mergeWith := by
    intro members mode base other hbase hother
    have hkind : (mode.kind base.kind other.kind).isContainer = true →
        mode.kind base.kind other.kind = .shape := by
      rcases mode.kind_cases base.kind other.kind with h | h
      · rw [h]
        exact hbase.kind_eq
      · rw [h]
        exact hother.kind_eq
    refine ⟨?_, by rwa [mergeWith_kind], ?_, ?_, ?_, ?_⟩
    · rw [mergeWith_binding]
      split
      · exact hbase.binding_mem
      · exact hother.binding_mem
    · intro hshape
      refine (tidy_normalize _).children_eq (Bool.eq_false_iff.2 fun hcontainer => hshape ?_)
      rw [mergeWith_kind]
      exact hkind (by rwa [normalize_kind] at hcontainer)
    · rw [mergeWith_required, hbase.required_eq, hother.required_eq]
      split <;> rfl
    · rw [mergeWith_literal, hbase.literal_eq, hother.literal_eq]
      rfl
    · rw [mergeWith_binding, mergeWith_scope]
      split
      · exact hbase.scope_eq
      · exact hother.scope_eq

theorem constructor?_spec {c method : Node} (h : constructor? c = some method) :
    method ∈ c.preorder ∧ method.kind = .methodDefinition := by
  unfold constructor? at h
  split at h
  · cases h
  · next body hbody =>
    have hmethod := List.find?_some h
    rw [Bool.and_eq_true] at hmethod
    have hmem := (List.mem_filter.1 (List.mem_of_find?_eq_some h)).1
    exact ⟨Node.mem_preorder_of_mem_children
      (Node.child?_mem_preorder (Node.mem_preorder_self c) hbody) hmem,
      of_decide_eq_true hmethod.1⟩

end Property

namespace Node.Meets

open Property

variable {c n : Node} {P : Property → Prop}

theorem readFrom (h : c.Meets P) (hn : n ∈ c.preorder) (identity : String) :
    ∀ p ∈ Property.readFrom n identity, Everywhere P p := by
  unfold Property.readFrom
  refine traverse_induction (P := fun found => ∀ p ∈ found, Everywhere P p) (by simp) ?_
  intro m hm visit hvisit found hfound p hp
  have hm := mem_preorder_trans hn hm
  split at hvisit
  · next hkind =>
    -- an access: the chain that starts at it
    cases hvisit
    unfold addAccess at hp
    split at hp
    · rcases List.mem_append.1 hp with hp | hp
      · exact hfound p hp
      · exact h.access hm hkind p (Option.mem_toList.1 hp)
    · exact hfound p hp
  · -- a declaration: the pattern on its left
    cases hvisit
    unfold addDestructuring at hp
    split at hp
    · next target value htarget hvalue =>
      split at hp
      · next htaken =>
        rw [Bool.and_eq_true, decide_eq_true_iff] at htaken
        rcases List.mem_append.1 hp with hp | hp
        · exact hfound p hp
        · exact h.pattern (child?_mem_preorder hm htarget) htaken.1 p hp
      · exact hfound p hp
    · exact hfound p hp
  · cases hvisit

theorem ofFunction (h : c.Meets P) (hmerge : KeptByMerge P) (hn : n ∈ c.preorder) :
    ∀ p ∈ Property.ofFunction n, Everywhere P p := by
  unfold Property.ofFunction
  split
  · simp
  · next parameter hparameter =>
    split
    · exact hmerge .peer (by simp) (h.readFrom hn _)
    · next hkind =>
      exact hmerge .peer (h.pattern (firstParameter?_mem_preorder hn hparameter) hkind) (by simp)
    · simp

theorem ofClass (h : c.Meets P) (hmerge : KeptByMerge P) (hn : n ∈ c.preorder) :
    ∀ p ∈ Property.ofClass n, Everywhere P p := by
  refine hmerge .peer ?_ (h.readFrom hn _)
  split
  · next method hmethod =>
    exact h.ofFunction hmerge (mem_preorder_trans hn (constructor?_spec hmethod).1)
  · simp

/-- What holds of all patterns and accesses, and is kept by merging, holds of all that a component
reads. -/
theorem ofUsage (h : c.Meets P) (hmerge : KeptByMerge P) (hn : n ∈ c.preorder) :
    ∀ p ∈ Property.ofUsage n, Everywhere P p := by
  unfold Property.ofUsage
  split
  · exact h.ofClass hmerge hn
  · exact h.ofFunction hmerge hn

end Node.Meets

namespace Property

theorem observed_ofUsage {r n : Node} (hr : r.trail = []) (hn : n ∈ r.preorder) :
    ∀ p ∈ ofUsage n, Everywhere (Observed r.identifiers) p :=
  (Node.meets_observed hr).ofUsage (fun _ => persists_observed.everywhere_mergeLists) hn

theorem children_of_mem_ofDefaults {object : Option Tree} {p : Property} (h : p ∈ ofDefaults object) :
    p.children = [] := by
  unfold ofDefaults at h
  split at h
  · cases h
  · split at h
    · obtain ⟨e, -, rfl⟩ := List.mem_map.1 h
      rfl
    · cases h

theorem observed_ofDefaults (names : List String) (object : Option Tree) :
    ∀ p ∈ ofDefaults object, Everywhere (Observed names) p := by
  unfold ofDefaults
  split
  · simp
  · next t =>
    split
    · intro p hp
      obtain ⟨e, -, rfl⟩ := List.mem_map.1 hp
      exact observed_unbound (Tree.valueKind_isContainer e.2)
    · simp

end Property

end PropTyper
