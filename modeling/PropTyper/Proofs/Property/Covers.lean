import Mathlib.Data.List.Nodup
import PropTyper.Proofs.Evidence.Members
import PropTyper.Proofs.Property.Merge

/-! # Merging again what is merged already

`Covers c f` says that `c` has taken up all that an observation `f` shows, down to its members. A
merge with `f` brings this about, merges with other observations keep it, and a normalized property
that covers `f` and holds no alternatives stays as it is when `f` is merged into it once more.
-/

namespace PropTyper

namespace MergeMode

theorem peer_kind_self (k : PropKind) : peer.kind k k = k := by
  cases k <;> rfl

theorem peer_kind_again (a b : PropKind) : peer.kind (peer.kind a b) b = peer.kind a b := by
  cases a <;> cases b <;> rfl

theorem peer_kind_keep {a b : PropKind} (h : peer.kind a b = a) (k : PropKind) :
    peer.kind (peer.kind a k) b = peer.kind a k := by
  revert h
  cases a with
  | any =>
      intro h
      have hb : b = .any := by simpa [kind] using h
      subst hb
      cases k <;> rfl
  | shape =>
      cases b <;> cases k <;> simp [kind]
  | _ => intro _; cases b <;> rfl

theorem peer_kind_cases (a b : PropKind) :
    peer.kind a b = a ∨ a = .any ∨ peer.kind a b = .func := by
  cases a with
  | any => exact .inr (.inl rfl)
  | shape => cases b <;> simp [kind]
  | _ => exact .inl rfl

end MergeMode

namespace Property

/-- An observation that names no member twice and leaves no text blank. -/
structure Plain (q : Property) : Prop where
  distinct : (q.children.map (·.name)).Nodup
  bound : q.binding ≠ some ""
  stated : q.defaultText ≠ some ""

def Clear (names : List String) (q : Property) : Prop :=
  Observed names q ∧ Plain q

theorem filled_or_eq_none {text : Option String} (h : text ≠ some "") :
    Filled text = true ∨ text = none := by
  cases text with
  | none => exact .inr rfl
  | some s => exact .inl (by simpa [Filled] using h)

/-! ## One level -/

/-- All of an observation but its members is taken up. -/
structure Absorbs (c f : Property) : Prop where
  name_eq : c.name = f.name
  kind_eq : MergeMode.peer.kind c.kind f.kind = c.kind
  bound : Filled c.binding = true ∨
    c.binding = none ∧ c.scope = none ∧ f.binding = none ∧ f.scope = none
  literal : Filled c.literal = true ∨ c.literal = none
  stated : Filled c.defaultText = true ∨ c.defaultText = none ∧ f.defaultText = none

variable {names : List String} {c f h : Property}

theorem absorbs_self (hf : Clear names f) : Absorbs f f := by
  obtain ⟨hobserved, hplain⟩ := hf
  refine ⟨rfl, MergeMode.peer_kind_self f.kind, ?_, .inr hobserved.literal_eq, ?_⟩
  · refine (filled_or_eq_none hplain.bound).imp_right fun hnone => ?_
    exact ⟨hnone, hobserved.scope_eq hnone, hnone, hobserved.scope_eq hnone⟩
  · exact (filled_or_eq_none hplain.stated).imp_right fun hnone => ⟨hnone, hnone⟩

theorem absorbs_merge_right (hf : Clear names f) (hname : c.name = f.name) :
    Absorbs (merge .peer c f) f := by
  obtain ⟨hself, hplain⟩ := hf
  refine ⟨by rw [merge_name, hname], by rw [merge_kind, MergeMode.peer_kind_again], ?_, ?_, ?_⟩
  · rw [merge_binding, merge_scope]
    by_cases hc : Filled c.binding = true
    · exact .inl (by rwa [if_pos hc])
    · rw [if_neg hc, if_neg hc]
      exact (absorbs_self ⟨hself, hplain⟩).bound
  · rw [merge_literal, firstFilled, hself.literal_eq]
    by_cases hc : Filled c.literal = true
    · exact .inl (by rwa [if_pos hc])
    · exact .inr (if_neg hc)
  · rw [merge_defaultText, firstFilled]
    by_cases hc : Filled c.defaultText = true
    · exact .inl (by rwa [if_pos hc])
    · rw [if_neg hc]
      exact (absorbs_self ⟨hself, hplain⟩).stated

theorem Absorbs.merge (hcf : Absorbs c f) (hh : Clear names h) : Absorbs (merge .peer c h) f := by
  obtain ⟨hself, hplain⟩ := hh
  refine ⟨by rw [merge_name, hcf.name_eq], ?_, ?_, ?_, ?_⟩
  · rw [merge_kind]
    exact MergeMode.peer_kind_keep hcf.kind_eq h.kind
  · rw [merge_binding, merge_scope]
    rcases hcf.bound with hc | ⟨hc, -, hf, hfs⟩
    · exact .inl (by rwa [if_pos hc])
    · rw [hc, if_neg (by simp [Filled]), if_neg (by simp [Filled])]
      refine (filled_or_eq_none hplain.bound).imp_right fun hnone => ?_
      exact ⟨hnone, hself.scope_eq hnone, hf, hfs⟩
  · rw [merge_literal, firstFilled, hself.literal_eq]
    rcases hcf.literal with hc | hc
    · exact .inl (by rwa [if_pos hc])
    · exact .inr (by rw [hc, if_neg (by simp [Filled])])
  · rw [merge_defaultText, firstFilled]
    rcases hcf.stated with hc | ⟨hc, hf⟩
    · exact .inl (by rwa [if_pos hc])
    · rw [hc, if_neg (by simp [Filled])]
      exact (filled_or_eq_none hplain.stated).imp_right fun hnone => ⟨hnone, hf⟩

theorem Absorbs.normalize (hcf : Absorbs c f) : Absorbs c.normalize f := by
  obtain ⟨hname, hkind, hbound, hliteral, hstated⟩ := hcf
  refine ⟨by simpa using hname, by simpa using hkind, by simpa using hbound, ?_, ?_⟩
  · simpa using hliteral
  · simpa using hstated

/-! ## All levels -/

/-- All that an observation shows is taken up. -/
def Covers (c f : Property) : Prop :=
  Absorbs c f ∧
  (c.kind.hasNamedMembers = true → (c.children.map (·.name)).Nodup ∧
    ∀ g : { g // g ∈ f.children }, ∃ d ∈ c.children, Covers d g.1) ∧
  (c.kind = .arrayOf ∨ c.kind = .objectOf → c.children = [] → f.children = [])
termination_by sizeOf f
decreasing_by exact sizeOf_child_lt g.2

/-- Each of the observations is taken up by one of the properties. -/
def CoversAll (properties observations : List Property) : Prop :=
  ∀ g ∈ observations, ∃ d ∈ properties, Covers d g

theorem covers_iff :
    Covers c f ↔ Absorbs c f ∧
      (c.kind.hasNamedMembers = true →
        (c.children.map (·.name)).Nodup ∧ CoversAll c.children f.children) ∧
      (c.kind = .arrayOf ∨ c.kind = .objectOf → c.children = [] → f.children = []) := by
  rw [Covers]
  simp only [CoversAll, Subtype.forall]

theorem merge_children_named (hkind : (MergeMode.peer.kind c.kind h.kind).hasNamedMembers = true) :
    (merge .peer c h).children =
      sortByName ((mergeLists .peer c.children h.children).map normalize) := by
  rw [merge_children, arranged, if_pos hkind, joinedMembers]
  simp [hkind, MergeMode.forMembers]

theorem merge_children_first {kind : PropKind} (hkind : MergeMode.peer.kind c.kind h.kind = kind)
    (hfirst : kind = .arrayOf ∨ kind = .objectOf) :
    (merge .peer c h).children =
      (if c.children.isEmpty then h.children else c.children).map normalize := by
  rw [merge_children, joinedMembers, hkind]
  rcases hfirst with rfl | rfl
  · simp [arranged, PropKind.hasNamedMembers, PropKind.hasPositionalMembers]
  · simp [arranged, PropKind.hasNamedMembers, PropKind.hasPositionalMembers]

theorem Absorbs.children_eq_nil (hcf : Absorbs c f) (hc : c.kind = .any) (hf : Observed names f) :
    f.children = [] := by
  refine hf.children_eq ?_
  intro hshape
  have hkind := hcf.kind_eq
  rw [hc, hshape] at hkind
  cases hkind

theorem CoversAll.sort_normalize {members observations : List Property}
    (h : CoversAll members observations)
    (hnormalize : ∀ g ∈ observations, ∀ d, Covers d g → Covers d.normalize g) :
    CoversAll (sortByName (members.map normalize)) observations := by
  intro g hg
  obtain ⟨d, hd, hcovers⟩ := h g hg
  exact ⟨d.normalize, mem_sortByName.2 (List.mem_map_of_mem hd), hnormalize g hg d hcovers⟩

theorem Covers.normalize (hcf : Covers c f) : Covers c.normalize f := by
  induction f using inductionOn generalizing c with
  | step f ih =>
    obtain ⟨habsorbs, hnamed, hfirst⟩ := covers_iff.1 hcf
    refine covers_iff.2 ⟨habsorbs.normalize, ?_, ?_⟩
    · intro hkind
      rw [normalize_kind] at hkind
      obtain ⟨hnodup, hall⟩ := hnamed hkind
      rw [normalize_children, arranged, if_pos hkind]
      exact ⟨nodup_sort_normalize hnodup, hall.sort_normalize fun g hg d => ih g hg⟩
    · intro hkind hnil
      rw [normalize_kind] at hkind
      refine hfirst hkind ?_
      rw [normalize_children] at hnil
      rcases hkind with hkind | hkind
      · simpa [hkind, arranged, PropKind.hasNamedMembers, PropKind.hasPositionalMembers] using hnil
      · simpa [hkind, arranged, PropKind.hasNamedMembers, PropKind.hasPositionalMembers] using hnil

theorem Covers.withMembers {members : List Property} (hcf : Covers c f)
    (hnames : members.map (·.name) = c.children.map (·.name))
    (hall : CoversAll c.children f.children → CoversAll members f.children) :
    Covers { c with children := members } f := by
  obtain ⟨habsorbs, hnamed, hfirst⟩ := covers_iff.1 hcf
  refine covers_iff.2 ⟨⟨habsorbs.name_eq, habsorbs.kind_eq, habsorbs.bound, habsorbs.literal,
    habsorbs.stated⟩, ?_, ?_⟩
  · intro hkind
    obtain ⟨hnodup, hcovered⟩ := hnamed hkind
    exact ⟨hnames ▸ hnodup, hall hcovered⟩
  · intro hkind (hnil : members = [])
    refine hfirst hkind ?_
    rw [hnil] at hnames
    exact List.map_eq_nil_iff.1 hnames.symm

/-- Covered members stay covered when others join. -/
theorem CoversAll.mergeLists {base observations others : List Property}
    (hnodup : (base.map (·.name)).Nodup) (h : CoversAll base observations)
    (hkeep : ∀ g ∈ observations, ∀ x ∈ others, ∀ d, Covers d g → Covers (merge .peer d x) g) :
    CoversAll (mergeLists .peer base others) observations := by
  intro g hg
  have hbase : joinAll (merge .peer) [] base = [] ++ base := joinAll_of_nodup hnodup
  rw [mergeLists_eq_joinAll, hbase, List.nil_append]
  exact exists_mem_joinAll (hkeep g hg) (h g hg)

/-- Another plain observation takes nothing away. -/
theorem Covers.merge (hcf : Covers c f) (hf : Everywhere (Clear names) f)
    (hh : Everywhere (Clear names) h) : Covers (merge .peer c h) f := by
  induction f using inductionOn generalizing c h with
  | step f ih =>
    obtain ⟨hfself, hfbelow⟩ := everywhere_iff.1 hf
    obtain ⟨hhself, hhbelow⟩ := everywhere_iff.1 hh
    obtain ⟨habsorbs, hnamed, hfirst⟩ := covers_iff.1 hcf
    refine covers_iff.2 ⟨habsorbs.merge hhself, ?_, ?_⟩
    · intro hkind
      rw [merge_kind] at hkind
      rw [merge_children_named hkind]
      refine ⟨nodup_sort_normalize (nodup_mergeLists _ _ _ _), ?_⟩
      rcases MergeMode.peer_kind_cases c.kind h.kind with hc | hc | hc
      · obtain ⟨hnodup, hall⟩ := hnamed (hc ▸ hkind)
        refine CoversAll.sort_normalize (hall.mergeLists hnodup ?_) fun g _ d => Covers.normalize
        exact fun g hg x hx d hd => ih g hg hd (hfbelow g hg) (hhbelow x hx)
      · rw [habsorbs.children_eq_nil hc hfself.1]
        intro g hg
        cases hg
      · rw [hc] at hkind
        cases hkind
    · intro hkind hnil
      rw [merge_kind] at hkind
      rw [merge_children_first rfl hkind] at hnil
      rcases MergeMode.peer_kind_cases c.kind h.kind with hc | hc | hc
      · refine hfirst (hc ▸ hkind) ?_
        by_contra hne
        simp [hne] at hnil
      · exact habsorbs.children_eq_nil hc hfself.1
      · rw [hc] at hkind
        rcases hkind with hkind | hkind <;> cases hkind

theorem covers_self (hf : Everywhere (Clear names) f) : Covers f f := by
  induction f using inductionOn with
  | step f ih =>
    obtain ⟨hself, hbelow⟩ := everywhere_iff.1 hf
    refine covers_iff.2 ⟨absorbs_self hself, fun _ => ⟨hself.2.distinct, ?_⟩, fun _ hnil => hnil⟩
    exact fun g hg => ⟨g, hg, ih g hg (hbelow g hg)⟩

/-- Plain observations are covered once they have joined. -/
theorem coversAll_mergeLists {base observations : List Property}
    (hobservations : ∀ g ∈ observations, Everywhere (Clear names) g)
    (hfirst : ∀ g ∈ observations, ∀ d, d.name = g.name → Covers (Property.merge .peer d g) g) :
    CoversAll (mergeLists .peer base observations) observations := by
  intro g hg
  rw [mergeLists_eq_joinAll]
  refine exists_mem_joinAll_of_mem (Q := fun _ => True) (fun _ _ _ _ => trivial)
    (fun _ _ => trivial) (fun _ _ => trivial) hg (covers_self (hobservations g hg))
    (fun d _ => hfirst g hg d) ?_
  exact fun x hx d hd => hd.merge (hobservations g hg) (hobservations x hx)

/-- A merge takes up a plain observation. -/
theorem covers_merge_right (hf : Everywhere (Clear names) f) (hname : c.name = f.name) :
    Covers (merge .peer c f) f := by
  induction f using inductionOn generalizing c with
  | step f ih =>
    obtain ⟨hself, hbelow⟩ := everywhere_iff.1 hf
    refine covers_iff.2 ⟨absorbs_merge_right hself hname, ?_, ?_⟩
    · intro hkind
      rw [merge_kind] at hkind
      rw [merge_children_named hkind]
      refine ⟨nodup_sort_normalize (nodup_mergeLists _ _ _ _), ?_⟩
      refine CoversAll.sort_normalize (coversAll_mergeLists hbelow ?_) fun g _ d => Covers.normalize
      exact fun g hg d hd => ih g hg (hbelow g hg) hd
    · intro hkind hnil
      rw [merge_kind] at hkind
      rw [merge_children_first rfl hkind] at hnil
      by_cases hc : c.children = []
      · simpa [hc] using hnil
      · simp [hc] at hnil

/-! ## Absorption -/

/-- Members stay as they are if each of the others is taken up by one of them. -/
theorem mergeLists_eq_self {members observations : List Property}
    (hnodup : (members.map (·.name)).Nodup) (hall : CoversAll members observations)
    (habsorb : ∀ g ∈ observations, ∀ d ∈ members, Covers d g → merge .peer d g = d) :
    mergeLists .peer members observations = members := by
  have hbase : joinAll (merge .peer) [] members = [] ++ members := joinAll_of_nodup hnodup
  rw [mergeLists_eq_joinAll, hbase, List.nil_append]
  refine joinAll_eq_self ?_
  intro g hg
  obtain ⟨d, hd, hcovers⟩ := hall g hg
  have hname : d.name = g.name := (covers_iff.1 hcovers).1.name_eq
  refine ⟨⟨d, hd, hname⟩, ?_⟩
  intro q hq hqname
  rw [List.inj_on_of_nodup_map hnodup hq hd (hqname.trans hname.symm)]
  exact habsorb g hg d hd hcovers

theorem merge_children_eq_self (hcf : Covers c f) (hc : c.normalize = c) (hkind : c.kind ≠ .oneOfType)
    (habsorb : ∀ g ∈ f.children, ∀ d ∈ c.children, Covers d g → merge .peer d g = d) :
    (merge .peer c f).children = c.children := by
  obtain ⟨habsorbs, hnamed, hfirst⟩ := covers_iff.1 hcf
  have hsame := habsorbs.kind_eq
  have harranged : arranged c.kind (c.children.map normalize) = c.children := by
    rw [← normalize_children, hc]
  by_cases hmembers : c.kind.hasNamedMembers = true
  · obtain ⟨hnodup, hall⟩ := hnamed hmembers
    rw [merge_children_named (hsame.symm ▸ hmembers), mergeLists_eq_self hnodup hall habsorb]
    rwa [arranged, if_pos hmembers] at harranged
  · by_cases hpositional : c.kind.hasPositionalMembers = true
    · have hkinds : c.kind = .arrayOf ∨ c.kind = .objectOf := by
        revert hpositional hkind
        cases c.kind <;> simp [PropKind.hasPositionalMembers]
      rw [arranged, if_neg hmembers, if_pos hpositional] at harranged
      rw [merge_children_first hsame hkinds]
      by_cases hnil : c.children = []
      · simp [hnil, hfirst hkinds hnil]
      · simpa [hnil] using harranged
    · rw [arranged, if_neg hmembers, if_neg hpositional] at harranged
      rw [merge_children, hsame, arranged, if_neg hmembers, if_neg hpositional, harranged]

/-- A normalized property without alternatives does not change by what it covers. -/
theorem merge_eq_self (hcf : Covers c f) (hc : c.normalize = c)
    (halternatives : Everywhere (·.kind ≠ .oneOfType) c) (hf : Everywhere (Observed names) f) :
    merge .peer c f = c := by
  induction f using inductionOn generalizing c with
  | step f ih =>
    have habsorbs := (covers_iff.1 hcf).1
    obtain ⟨hself, hbelow⟩ := everywhere_iff.1 hf
    obtain ⟨hnotUnion, hmembers⟩ := everywhere_iff.1 halternatives
    refine eq_of_fields (merge_name _ c f) ?_ (by rw [merge_kind, habsorbs.kind_eq]) ?_ ?_ ?_ ?_ ?_
    · rw [merge_binding]
      rcases habsorbs.bound with hfilled | ⟨hnone, -, hfnone, -⟩
      · rw [if_pos hfilled]
      · rw [hnone, if_neg (by simp [Filled]), hfnone]
    · rw [merge_required, if_neg (by decide), hself.required_eq, Bool.or_false]
    · refine merge_children_eq_self hcf hc hnotUnion ?_
      intro g hg d hd hcovers
      exact ih g hg hcovers (normalize_of_mem_children hc hd) (hmembers d hd) (hbelow g hg)
    · rw [merge_literal, firstFilled, hself.literal_eq]
      rcases habsorbs.literal with hfilled | hnone
      · rw [if_pos hfilled]
      · rw [hnone, if_neg (by simp [Filled])]
    · rw [merge_defaultText, firstFilled]
      rcases habsorbs.stated with hfilled | ⟨hnone, hfnone⟩
      · rw [if_pos hfilled]
      · rw [hnone, if_neg (by simp [Filled]), hfnone]
    · rw [merge_scope]
      rcases habsorbs.bound with hfilled | ⟨hnone, hscope, -, hfscope⟩
      · rw [if_pos hfilled]
      · rw [hnone, if_neg (by simp [Filled]), hscope, hfscope]

/-- Members that cover the observations stay as they are, once they are normalized, when the
observations join them again. -/
theorem mergeLists_sort_normalize {members observations : List Property}
    (hnodup : (members.map (·.name)).Nodup) (hall : CoversAll members observations)
    (halternatives : ∀ d ∈ sortByName (members.map normalize), Everywhere (·.kind ≠ .oneOfType) d)
    (hobservations : ∀ g ∈ observations, Everywhere (Observed names) g) :
    mergeLists .peer (sortByName (members.map normalize)) observations =
      sortByName (members.map normalize) := by
  refine mergeLists_eq_self (nodup_sort_normalize hnodup)
    (hall.sort_normalize fun g _ d => Covers.normalize) ?_
  intro g hg d hd hcovers
  have hnormal : d.normalize = d := by
    obtain ⟨e, -, rfl⟩ := List.mem_map.1 (mem_sortByName.1 hd)
    exact normalize_normalize e
  exact merge_eq_self hcovers hnormal (halternatives d hd) (hobservations g hg)

end Property

end PropTyper
