import PropTyper.Proofs.Completion.Frame
import PropTyper.Proofs.Declaration.Restated
import PropTyper.Proofs.Evidence.Sources

/-! # Properties that only observations make

A property that no declaration states grows out of observations: the first one joined by others,
then completed by lookups. It keeps following each of the observations that it is made of, and so
takes all of them up when it is declared.
-/

namespace PropTyper

theorem MergeMode.eq_any_of_kind {mode : MergeMode} (hmode : mode.forMembers = .peer)
    {a b : PropKind} (h : mode.kind a b = .any) : a = .any ∧ b = .any := by
  cases mode with
  | authoritative => cases hmode
  | priority =>
      simp only [kind] at h
      split at h
      · next ha => exact ⟨ha, h⟩
      · next ha => exact (ha h).elim
  | peer =>
      simp only [kind] at h
      split at h
      · next ha => exact ⟨ha, h⟩
      · next ha =>
        split at h
        · cases h
        · exact (ha h).elim

theorem MergeMode.eq_of_hasNamedMembers {mode : MergeMode} {a b : PropKind} (ha : a ≠ .any)
    (h : (mode.kind a b).hasNamedMembers = true) : mode.kind a b = a := by
  cases mode with
  | authoritative => rfl
  | priority => simp only [kind, if_neg ha]
  | peer =>
      simp only [kind, if_neg ha] at h ⊢
      split
      · next hcall =>
        rw [if_pos hcall] at h
        cases h
      · rfl

namespace Property

/-- A property that observations alone have made, and one of them. -/
structure Grown (c g : Property) : Prop where
  name_eq : c.name = g.name
  literal_eq : c.literal = none
  kind_eq : c.kind.hasPositionalMembers = false
  children_eq : c.kind = .any → g.children = []

variable {names : List String} {mode : MergeMode} {c g h : Property}

theorem Observed.hasPositionalMembers (hq : Observed names g) :
    g.kind.hasPositionalMembers = false := by
  refine Bool.eq_false_iff.2 fun hpositional => ?_
  have hshape : g.kind = .shape :=
    hq.kind_eq (by rw [PropKind.isContainer, hpositional, Bool.or_true])
  rw [hshape] at hpositional
  cases hpositional

theorem Observed.children_eq_nil (hq : Observed names g) (hkind : g.kind = .any) :
    g.children = [] :=
  hq.children_eq (by simp [hkind])

theorem grown_self (hq : Observed names g) : Grown g g :=
  ⟨rfl, hq.literal_eq, hq.hasPositionalMembers, hq.children_eq_nil⟩

theorem grown_merge_right (hmode : mode.forMembers = .peer) (hc : Observed names c)
    (hg : Observed names g) (hname : c.name = g.name) : Grown (merge mode c g) g := by
  have hmerged : Observed names (merge mode c g) := by
    rw [merge_eq]
    exact persists_observed.mergeWith _ _ hc hg
  refine ⟨by rw [merge_name, hname], hmerged.literal_eq, hmerged.hasPositionalMembers, ?_⟩
  intro hkind
  rw [merge_kind] at hkind
  exact hg.children_eq_nil (MergeMode.eq_any_of_kind hmode hkind).2

/-- Another observation leaves what has grown as it was. -/
theorem keptBy_grown (hmode : mode.forMembers = .peer) : KeptBy Grown mode (Observed names) where
  normalize := by
    intro c g hcg
    exact ⟨by simpa using hcg.name_eq, by simpa using hcg.literal_eq, by simpa using hcg.kind_eq,
      by simpa using hcg.children_eq⟩
  merge := by
    intro c g h hcg hh
    refine ⟨by rw [merge_name, hcg.name_eq], ?_, ?_, ?_⟩
    · rw [merge_literal, hcg.literal_eq, hh.literal_eq]
      rfl
    · rw [merge_kind]
      rcases mode.kind_cases c.kind h.kind with hkind | hkind
      · rw [hkind, hcg.kind_eq]
      · rw [hkind, hh.hasPositionalMembers]
    · intro hkind
      rw [merge_kind] at hkind
      exact hcg.children_eq (MergeMode.eq_any_of_kind hmode hkind).1
  takes := by
    intro c g h hcg hh ht
    by_cases hany : c.kind = .any
    · exact .inr (hcg.children_eq hany)
    · have hnamed := (takesMembers_iff.1 ht).1
      rw [merge_kind] at hnamed
      refine .inl (takesMembers_iff.2 ⟨MergeMode.eq_of_hasNamedMembers hany hnamed ▸ hnamed, ?_⟩)
      rw [hcg.literal_eq]
      exact fun hclosed => absurd hclosed.1 (by simp [Filled])

theorem Follows.merge_priority (hcg : Follows Grown c g) (hh : Everywhere (Observed names) h) :
    Follows Grown (Property.merge .priority c h) g := by
  obtain ⟨hself, hbelow⟩ := everywhere_iff.1 hh
  have hkept : KeptBy Grown .priority (Observed names) := keptBy_grown rfl
  refine hcg.mergeLevel (hkept.merge hcg.here hself) (hkept.takes hcg.here hself) hkept.normalize ?_
  exact fun x _ y hy d hdx => hdx.merge (keptBy_grown rfl) rfl (hbelow y hy)

def Distinct (names : List String) (q : Property) : Prop :=
  Observed names q ∧ DistinctMembers q

theorem follows_grown_self (hg : Everywhere (Distinct names) g) : Follows Grown g g :=
  follows_self (fun _ hq => grown_self hq.1) (fun _ hq => hq.2.nodup) hg

theorem follows_merge_priority (hname : c.name = g.name) (hc : Everywhere (Observed names) c)
    (hg : Everywhere (Distinct names) g) : Follows Grown (merge .priority c g) g :=
  follows_merge_right rfl ((keptBy_grown rfl).mono fun _ hq => hq.1) persists_observed
    (fun _ hq => hq.1) (fun _ hq => grown_self hq.1) (fun _ hq => hq.2.nodup)
    (fun _ _ _ hmode hd hu => grown_merge_right hmode hd hu.1) hname hc hg

theorem follows_foldl_priority {p : Property} {rest : List Property}
    (hdistinct : ∀ o ∈ p :: rest, Everywhere (Distinct names) o)
    (hname : ∀ o ∈ rest, o.name = p.name) :
    ∀ o ∈ p :: rest, Follows Grown (rest.foldl (merge .priority) p) o := by
  have hobserved : ∀ o ∈ p :: rest, Everywhere (Observed names) o :=
    fun o ho q hq => (hdistinct o ho q hq).1
  have hrest : ∀ o ∈ rest, o ∈ p :: rest := fun o ho => List.mem_cons_of_mem p ho
  have hkeep : ∀ x, ∀ u ∈ rest, ∀ d, Follows Grown d x → Follows Grown (merge .priority d u) x :=
    fun x u hu d hdx => hdx.merge_priority (hobserved u (hrest u hu))
  intro o ho
  rcases List.mem_cons.1 ho with rfl | ho
  · exact (follows_grown_self (hdistinct o List.mem_cons_self)).foldl (hkeep o)
  · refine follows_foldl (Q := fun d => d.name = p.name ∧ Everywhere (Observed names) d) ?_
      (fun x _ => hkeep x) ?_ ⟨rfl, hobserved p List.mem_cons_self⟩ o ho
    · rintro u hu d ⟨hd, hobs⟩
      exact ⟨by rw [merge_name, hd],
        persists_observed.everywhere_merge hobs (hobserved u (hrest u hu))⟩
    · rintro u hu d ⟨hd, hobs⟩
      exact follows_merge_priority (hd.trans (hname u hu).symm) hobs (hdistinct u (hrest u hu))

/-- What has grown out of an observation takes it up. -/
theorem Grown.takes (hcg : Grown c g) : Takes c g := by
  refine ⟨hcg.name_eq, .inr hcg.literal_eq, ?_, ?_⟩
  · intro hkind
    have hpositional := hcg.kind_eq
    rw [hkind] at hpositional
    cases hpositional
  · intro hkind
    have hpositional := hcg.kind_eq
    rcases hkind with hkind | hkind
    · rw [hkind] at hpositional
      cases hpositional
    · rw [hkind] at hpositional
      cases hpositional

/-! ## Lookups -/

theorem Follows.withMembers {members : List Property} (hcg : Follows Grown c g)
    (hnames : members.map (·.name) = c.children.map (·.name))
    (hall : ∀ x ∈ g.children, (∃ d ∈ c.children, Follows Grown d x) →
      ∃ d ∈ members, Follows Grown d x) :
    Follows Grown { c with children := members } g := by
  obtain ⟨hself, hmembers⟩ := follows_iff.1 hcg
  refine follows_iff.2 ⟨⟨hself.name_eq, hself.literal_eq, hself.kind_eq, hself.children_eq⟩, ?_⟩
  intro ht
  have hopen : takesMembers c = true :=
    takesMembers_iff.2 ⟨(takesMembers_iff.1 ht).1, by simp [hself.literal_eq, Filled]⟩
  obtain ⟨hnodup, hfollowed⟩ := hmembers hopen
  exact ⟨hnames ▸ hnodup, fun x hx => hall x hx (hfollowed x hx)⟩

end Property

namespace Completion

open Property

variable {component : Node} {names : List String} {properties : List Property} {c g : Property}

theorem follows_outcome (hcg : Follows Grown c g) (hopen : isOpen c = true)
    (hevidence : ∀ f ∈ evidence component c, Everywhere (Observed names) f) :
    Follows Grown (outcome component c) g := by
  obtain ⟨hself, hmembers⟩ := follows_iff.1 hcg
  by_cases hcalled : isCalled component c = true
  · rw [outcome_of_called hcalled]
    refine follows_iff.2 ⟨⟨hself.name_eq, hself.literal_eq, rfl, ?_⟩, ?_⟩
    · intro hkind
      cases hkind
    · intro ht
      cases (takesMembers_iff.1 ht).1
  · by_cases hsilent : evidence component c = []
    · rwa [outcome_of_silent hcalled hsilent]
    · rw [outcome_of_evidence hcalled hsilent]
      refine follows_iff.2 ⟨⟨hself.name_eq, hself.literal_eq, rfl, ?_⟩, fun _ => ?_⟩
      · intro hkind
        cases hkind
      · refine ⟨nodup_mergeLists _ _ _ _, ?_⟩
        -- an `any` has no members that could be lost, and a `shape` keeps its own in the merge
        rcases kind_of_isOpen hopen with hkind | hkind
        · rw [hself.children_eq hkind]
          intro x hx
          cases hx
        · have hopenMembers : takesMembers c = true :=
            takesMembers_iff.2 ⟨by rw [hkind]; rfl, by simp [hself.literal_eq, Filled]⟩
          obtain ⟨hnodup, hall⟩ := hmembers hopenMembers
          refine exists_follows_mergeLists hnodup hall ?_
          exact fun x _ f hf d hdx => hdx.merge (keptBy_grown rfl) rfl (hevidence f hf)

/-- A lookup for one of the properties or for something below them takes nothing away. -/
theorem exists_follows_modifyAt {r : Property} {members : List Property} {place : List Nat}
    (hmembers : ∃ d ∈ members, Follows Grown d g) (hat : at? place members = some r)
    (hopen : isOpen r = true)
    (hevidence : ∀ f ∈ evidence component r, Everywhere (Observed names) f) :
    ∃ d ∈ modifyAt (fun _ => outcome component r) place members, Follows Grown d g := by
  -- the place leads down through members, and the observation is followed down with it
  induction g using inductionOn generalizing members place with
  | step g ih =>
    match place with
    | [] => cases hat
    | [i] =>
        refine exists_mem_modify hmembers ?_
        intro d hd hdg
        cases hat.symm.trans hd
        exact follows_outcome hdg hopen hevidence
    | i :: j :: rest =>
        rw [modifyAt_cons_of_ne_nil (by simp)]
        refine exists_mem_modify hmembers ?_
        intro d hd hdg
        rw [at?_cons_of_ne_nil (by simp), hd] at hat
        refine hdg.withMembers (map_name_modifyAt ?_) fun x hx hall => ih x hx hall hat
        intro p hp
        cases hat.symm.trans hp
        exact outcome_name component r

theorem Completes.exists_follows {made : List Waiting} {a b : List Property}
    (h : Completes component made a b)
    (hevidence : ∀ p, ∀ f ∈ evidence component p, Everywhere (Observed names) f)
    (hall : ∃ d ∈ a, Follows Grown d g) : ∃ d ∈ b, Follows Grown d g := by
  induction h with
  | refl => exact hall
  | step _ _ here hopen ih => exact exists_follows_modifyAt ih here hopen (hevidence _)

/-- A completed list follows what the list before it does. -/
theorem exists_follows_complete {r : Node} (hr : r.trail = []) (hcomponent : component ∈ r.preorder)
    (except : List String) (hall : ∃ d ∈ properties, Follows Grown d g) :
    ∃ d ∈ (complete component properties except).properties, Follows Grown d g := by
  unfold complete
  split
  · exact hall
  · have hrun := (invariant_initial component properties except).completes_run
      (budget component properties)
    obtain ⟨d, hd, hdg⟩ := hrun.exists_follows (observed_evidence hr hcomponent) hall
    have hkept : KeptBy Grown .peer (Observed r.identifiers) := keptBy_grown rfl
    exact ⟨d.normalize, List.mem_map_of_mem hd, hdg.normalize hkept.normalize⟩

end Completion

end PropTyper
