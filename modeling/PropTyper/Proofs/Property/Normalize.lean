import PropTyper.Property.Basic

/-! # Normalized properties

`normalize` changes nothing but members: it drops those that a kind cannot carry and sorts those
that have names. So what lies below a normalized property is what lay below it before, normalized,
and a second round changes nothing.
-/

namespace PropTyper.Property

/-- For a type that holds itself this is no mere unfolding. -/
theorem eta (p : Property) :
    (⟨p.name, p.binding, p.kind, p.required, p.children, p.literal, p.defaultText, p.scope⟩ :
      Property) = p := by
  cases p
  rfl

theorem eq_of_fields {p q : Property} (hname : p.name = q.name) (hbinding : p.binding = q.binding)
    (hkind : p.kind = q.kind) (hrequired : p.required = q.required)
    (hchildren : p.children = q.children) (hliteral : p.literal = q.literal)
    (hdefault : p.defaultText = q.defaultText) (hscope : p.scope = q.scope) : p = q := by
  rw [← eta p, ← eta q, hname, hbinding, hkind, hrequired, hchildren, hliteral, hdefault, hscope]

/-! ## Everything below a property -/

theorem preorder_eq (p : Property) : p.preorder = p :: p.children.flatMap preorder := by
  rw [preorder]

theorem mem_preorder_iff {p q : Property} :
    q ∈ p.preorder ↔ q = p ∨ ∃ c ∈ p.children, q ∈ c.preorder := by
  rw [preorder_eq, List.mem_cons, List.mem_flatMap]

theorem mem_preorder_self (p : Property) : p ∈ p.preorder :=
  mem_preorder_iff.2 (.inl rfl)

theorem mem_preorder_of_mem_children {p c q : Property} (hc : c ∈ p.children)
    (hq : q ∈ c.preorder) : q ∈ p.preorder :=
  mem_preorder_iff.2 (.inr ⟨c, hc, hq⟩)

/-- A fact about members that passes on to whoever holds them is true of every property. -/
theorem inductionOn {P : Property → Prop} (step : ∀ p, (∀ c ∈ p.children, P c) → P p)
    (p : Property) : P p :=
  step p fun c _ => inductionOn step c
termination_by sizeOf p
decreasing_by exact sizeOf_child_lt ‹_›

/-- The same for lists: a list is built from the members of its first property and the rest. -/
theorem forestInduction {P : List Property → Prop} (nil : P [])
    (cons : ∀ p rest, P p.children → P rest → P (p :: rest)) (properties : List Property) :
    P properties := by
  induction properties with
  | nil => exact nil
  | cons p rest ih =>
      refine cons p rest ?_ ih
      induction p using inductionOn with
      | step p below =>
        -- the members of `p` form a list again, whose own members are smaller than `p`
        have all : ∀ l : List Property, (∀ c ∈ l, P c.children) → P l := by
          intro l hl
          induction l with
          | nil => exact nil
          | cons c l ihl =>
              exact cons c l (hl c List.mem_cons_self)
                (ihl fun d hd => hl d (List.mem_cons_of_mem c hd))
        exact all p.children below

theorem mem_preorder_trans {p q r : Property} (hq : q ∈ p.preorder) (hr : r ∈ q.preorder) :
    r ∈ p.preorder := by
  induction p using inductionOn with
  | step p ih =>
    rcases mem_preorder_iff.1 hq with rfl | ⟨c, hc, hq⟩
    · exact hr
    · exact mem_preorder_of_mem_children hc (ih c hc hq)

/-- A property and everything below it. -/
def Everywhere (P : Property → Prop) (p : Property) : Prop :=
  ∀ q ∈ p.preorder, P q

theorem everywhere_iff {P : Property → Prop} {p : Property} :
    Everywhere P p ↔ P p ∧ ∀ c ∈ p.children, Everywhere P c := by
  constructor
  · intro h
    exact ⟨h p (mem_preorder_self p), fun c hc q hq => h q (mem_preorder_of_mem_children hc hq)⟩
  · rintro ⟨hp, hchildren⟩ q hq
    rcases mem_preorder_iff.1 hq with rfl | ⟨c, hc, hq⟩
    · exact hp
    · exact hchildren c hc q hq

/-! ## The order by name -/

theorem sortByName_perm (properties : List Property) :
    (sortByName properties).Perm properties :=
  List.mergeSort_perm _ _

@[simp] theorem mem_sortByName {p : Property} {properties : List Property} :
    p ∈ sortByName properties ↔ p ∈ properties :=
  (sortByName_perm properties).mem_iff

/-- The names ascend. -/
def Ascending (properties : List Property) : Prop :=
  properties.Pairwise fun a b => a.name ≤ b.name

theorem not_decide_lt_iff {a b : String} : (!decide (b < a)) = true ↔ a ≤ b := by
  rw [Bool.not_eq_true', decide_eq_false_iff_not]
  exact String.not_lt

theorem ascending_sortByName (properties : List Property) : Ascending (sortByName properties) := by
  have hsorted : (sortByName properties).Pairwise fun a b => (!decide (b.name < a.name)) = true := by
    refine List.pairwise_mergeSort ?_ ?_ properties
    · intro a b c hab hbc
      exact not_decide_lt_iff.2
        (String.le_trans (not_decide_lt_iff.1 hab) (not_decide_lt_iff.1 hbc))
    · intro a b
      rw [Bool.or_eq_true]
      exact (String.le_total a.name b.name).imp not_decide_lt_iff.2 not_decide_lt_iff.2
  exact hsorted.imp not_decide_lt_iff.1

theorem sortByName_eq_self {properties : List Property} (h : Ascending properties) :
    sortByName properties = properties :=
  List.mergeSort_of_pairwise (h.imp not_decide_lt_iff.2)

/-! ## Normalizing -/

def arranged (kind : PropKind) (members : List Property) : List Property :=
  if kind.hasNamedMembers then sortByName members
  else if kind.hasPositionalMembers then members
  else []

theorem normalize_eq (p : Property) :
    p.normalize = { p with children := arranged p.kind (p.children.map normalize) } := by
  rw [normalize]
  rfl

@[simp] theorem normalize_name (p : Property) : p.normalize.name = p.name := by
  rw [normalize_eq]

@[simp] theorem normalize_binding (p : Property) : p.normalize.binding = p.binding := by
  rw [normalize_eq]

@[simp] theorem normalize_kind (p : Property) : p.normalize.kind = p.kind := by
  rw [normalize_eq]

@[simp] theorem normalize_required (p : Property) : p.normalize.required = p.required := by
  rw [normalize_eq]

@[simp] theorem normalize_literal (p : Property) : p.normalize.literal = p.literal := by
  rw [normalize_eq]

@[simp] theorem normalize_defaultText (p : Property) :
    p.normalize.defaultText = p.defaultText := by
  rw [normalize_eq]

@[simp] theorem normalize_scope (p : Property) : p.normalize.scope = p.scope := by
  rw [normalize_eq]

theorem normalize_children (p : Property) :
    p.normalize.children = arranged p.kind (p.children.map normalize) := by
  rw [normalize_eq]

theorem mem_of_mem_arranged {kind : PropKind} {members : List Property} {c : Property}
    (h : c ∈ arranged kind members) : c ∈ members := by
  unfold arranged at h
  split at h
  · exact mem_sortByName.1 h
  · split at h
    · exact h
    · cases h

theorem arranged_arranged (kind : PropKind) (members : List Property) :
    arranged kind (arranged kind members) = arranged kind members := by
  unfold arranged
  split
  · exact sortByName_eq_self (ascending_sortByName members)
  · split
    · rfl
    · rfl

/-- A second round changes nothing. -/
@[simp] theorem normalize_normalize (p : Property) : p.normalize.normalize = p.normalize := by
  induction p using inductionOn with
  | step p ih =>
    have hmembers : (arranged p.kind (p.children.map normalize)).map normalize =
        arranged p.kind (p.children.map normalize) := by
      refine (List.map_congr_left ?_).trans (List.map_id _)
      intro c hc
      obtain ⟨d, hd, rfl⟩ := List.mem_map.1 (mem_of_mem_arranged hc)
      exact ih d hd
    rw [normalize_eq p.normalize, normalize_kind, normalize_children, hmembers, arranged_arranged,
      normalize_eq p]

theorem exists_of_mem_normalize_children {p c : Property} (h : c ∈ p.normalize.children) :
    ∃ d ∈ p.children, c = d.normalize := by
  rw [normalize_children] at h
  obtain ⟨d, hd, rfl⟩ := List.mem_map.1 (mem_of_mem_arranged h)
  exact ⟨d, hd, rfl⟩

theorem normalize_of_mem_children {c d : Property} (hc : c.normalize = c) (hd : d ∈ c.children) :
    d.normalize = d := by
  rw [← hc] at hd
  obtain ⟨e, -, rfl⟩ := exists_of_mem_normalize_children hd
  exact normalize_normalize e

theorem exists_of_mem_preorder_normalize {p q : Property} (h : q ∈ p.normalize.preorder) :
    ∃ r ∈ p.preorder, q = r.normalize := by
  induction p using inductionOn generalizing q with
  | step p ih =>
    rcases mem_preorder_iff.1 h with rfl | ⟨c, hc, hq⟩
    · exact ⟨p, mem_preorder_self p, rfl⟩
    · obtain ⟨d, hd, rfl⟩ := exists_of_mem_normalize_children hc
      obtain ⟨r, hr, rfl⟩ := ih d hd hq
      exact ⟨r, mem_preorder_of_mem_children hd hr, rfl⟩

theorem Everywhere.normalize {P : Property → Prop} {p : Property}
    (hnormalize : ∀ q, P q → P q.normalize) (h : Everywhere P p) : Everywhere P p.normalize := by
  intro q hq
  obtain ⟨r, hr, rfl⟩ := exists_of_mem_preorder_normalize hq
  exact hnormalize r (h r hr)

/-- Members only where the kind has some, and in the order of their names where they have names. -/
structure Tidy (p : Property) : Prop where
  children_eq : p.kind.isContainer = false → p.children = []
  ascending : p.kind.hasNamedMembers = true → Ascending p.children

theorem tidy_normalize (p : Property) : Tidy p.normalize := by
  refine ⟨?_, ?_⟩
  · intro hkind
    rw [normalize_kind, PropKind.isContainer, Bool.or_eq_false_iff] at hkind
    obtain ⟨hnamed, hpositional⟩ := hkind
    simp [normalize_children, arranged, hnamed, hpositional]
  · intro hkind
    rw [normalize_kind] at hkind
    rw [normalize_children, arranged, if_pos hkind]
    exact ascending_sortByName _

theorem everywhere_tidy_normalize (p : Property) : Everywhere Tidy p.normalize := by
  intro q hq
  obtain ⟨r, -, rfl⟩ := exists_of_mem_preorder_normalize hq
  exact tidy_normalize r

/-! ## Finished lists -/

theorem nodup_sort_normalize {members : List Property} (h : (members.map (·.name)).Nodup) :
    ((sortByName (members.map normalize)).map (·.name)).Nodup := by
  refine ((sortByName_perm _).map _).nodup_iff.2 ?_
  rw [List.map_map]
  simpa [Function.comp_def] using h

theorem mem_finalize {q : Property} {properties : List Property} :
    q ∈ finalize properties ↔ ∃ p ∈ properties, p.normalize = q := by
  rw [finalize, mem_sortByName, List.mem_map]

theorem names_finalize_perm (properties : List Property) :
    ((finalize properties).map (·.name)).Perm (properties.map (·.name)) := by
  refine ((sortByName_perm _).map _).trans ?_
  rw [List.map_map]
  simp [Function.comp_def]

/-- Where no name occurs twice, the names of the finished list ascend strictly. -/
theorem pairwise_lt_finalize {properties : List Property}
    (h : (properties.map (·.name)).Nodup) :
    ((finalize properties).map (·.name)).Pairwise (· < ·) := by
  have hnodup := (names_finalize_perm properties).nodup_iff.2 h
  have hascending : ((finalize properties).map (·.name)).Pairwise (· ≤ ·) :=
    List.pairwise_map.2 (ascending_sortByName _)
  refine (hascending.and hnodup).imp ?_
  rintro a b ⟨hle, hne⟩
  exact Decidable.byContradiction fun hlt => hne (String.le_antisymm hle (String.not_lt.1 hlt))

end PropTyper.Property
