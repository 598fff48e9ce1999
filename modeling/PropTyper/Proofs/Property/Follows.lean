import PropTyper.Proofs.Property.Merge

/-! # Relations through all levels of members

A merge works on one level and hands the named members on to the next. `Follows level c g` carries a
relation between two properties down the same way: it holds of `c` and `g`, and each member of `g`
has a member of `c` of which it holds again. Whatever a merge keeps of the relation on one level it
keeps on all of them.
-/

namespace PropTyper

@[simp] theorem MergeMode.forMembers_forMembers (mode : MergeMode) :
    mode.forMembers.forMembers = mode.forMembers := by
  cases mode <;> rfl

namespace Property

/-- Named members join those that are there. A literal that stands in their place closes a property
to them. -/
def takesMembers (p : Property) : Bool :=
  p.kind.hasNamedMembers && !(Filled p.literal && p.children.isEmpty)

theorem takesMembers_iff {p : Property} :
    takesMembers p = true ↔
      p.kind.hasNamedMembers = true ∧ ¬ (Filled p.literal = true ∧ p.children = []) := by
  rw [takesMembers, Bool.and_eq_true, Bool.not_eq_true', Bool.eq_false_iff, Ne, Bool.and_eq_true,
    List.isEmpty_iff]

@[simp] theorem takesMembers_normalize (p : Property) :
    takesMembers p.normalize = takesMembers p := by
  unfold takesMembers
  rw [normalize_kind, normalize_literal, normalize_children]
  by_cases hkind : p.kind.hasNamedMembers = true
  · have hempty : (arranged p.kind (p.children.map normalize)).isEmpty = p.children.isEmpty := by
      rw [arranged, if_pos hkind, (sortByName_perm _).isEmpty_eq, List.isEmpty_map]
    rw [hempty]
  · rw [Bool.eq_false_iff.2 hkind]
    rfl

section Takes

variable {mode : MergeMode} {c h : Property}

theorem merge_children_of_named (hkind : (mode.kind c.kind h.kind).hasNamedMembers = true)
    (hopen : ¬ (mode = .authoritative ∧ Filled c.literal = true ∧ c.children = [])) :
    (merge mode c h).children =
      sortByName ((mergeLists mode.forMembers c.children h.children).map normalize) := by
  have hnot : ¬ (mode = .authoritative && Filled c.literal && c.children.isEmpty) = true := by
    simpa [and_assoc] using hopen
  rw [merge_children, arranged, if_pos hkind, joinedMembers, if_neg hnot, if_pos hkind]

theorem merge_children_of_closed (hfilled : Filled c.literal = true) (hnil : c.children = []) :
    (merge .authoritative c h).children = [] := by
  rw [merge_children, joinedMembers]
  simp [hfilled, hnil, arranged, sortByName]

theorem merge_children_of_takesMembers (ht : takesMembers (merge mode c h) = true) :
    (merge mode c h).children =
      sortByName ((mergeLists mode.forMembers c.children h.children).map normalize) := by
  obtain ⟨hkind, hopen⟩ := takesMembers_iff.1 ht
  rw [merge_kind] at hkind
  refine merge_children_of_named hkind ?_
  rintro ⟨rfl, hfilled, hnil⟩
  refine hopen ⟨?_, merge_children_of_closed hfilled hnil⟩
  rw [merge_literal, firstFilled, if_pos hfilled]
  exact hfilled

theorem children_eq_nil_of_merge (hkind : (mode.kind c.kind h.kind).hasNamedMembers = true)
    (hnil : (merge mode c h).children = []) : c.children = [] := by
  refine List.eq_nil_iff_forall_not_mem.2 fun d hd => ?_
  have hopen : ¬ (mode = .authoritative ∧ Filled c.literal = true ∧ c.children = []) :=
    fun hclosed => List.ne_nil_of_mem hd hclosed.2.2
  rw [merge_children_of_named hkind hopen] at hnil
  have hname : d.name ∈ (mergeLists mode.forMembers c.children h.children).map (·.name) :=
    mem_names_mergeLists.2 (.inl (List.mem_map_of_mem hd))
  obtain ⟨x, hx, -⟩ := List.mem_map.1 hname
  have hmem : x.normalize ∈ ([] : List Property) :=
    hnil ▸ mem_sortByName.2 (List.mem_map_of_mem hx)
  cases hmem

theorem takesMembers_of_authoritative (ht : takesMembers (merge .authoritative c h) = true) :
    takesMembers c = true := by
  obtain ⟨hkind, hopen⟩ := takesMembers_iff.1 ht
  rw [merge_kind] at hkind
  refine takesMembers_iff.2 ⟨hkind, ?_⟩
  rintro ⟨hfilled, hnil⟩
  refine hopen ⟨?_, merge_children_of_closed hfilled hnil⟩
  rw [merge_literal, firstFilled, if_pos hfilled]
  exact hfilled

end Takes

/-- The members of a property with named members have different names. -/
def DistinctMembers (q : Property) : Prop :=
  q.kind.hasNamedMembers = true → (q.children.map (·.name)).Nodup

theorem DistinctMembers.nodup {q : Property} (hq : DistinctMembers q)
    (ht : takesMembers q = true) : (q.children.map (·.name)).Nodup :=
  hq (takesMembers_iff.1 ht).1

theorem DistinctMembers.normalize {q : Property} (hq : DistinctMembers q) :
    DistinctMembers q.normalize := by
  intro hkind
  rw [normalize_kind] at hkind
  rw [normalize_children, arranged, if_pos hkind]
  exact nodup_sort_normalize (hq hkind)

/-- A condition that normalizing keeps and that holds wherever no two members have one name. -/
structure AdmitsDistinct (P : Property → Prop) : Prop where
  of_distinct : ∀ q, DistinctMembers q → P q
  normalize : ∀ q, P q → P q.normalize

theorem admitsDistinct_distinctMembers : AdmitsDistinct DistinctMembers where
  of_distinct := fun _ hq => hq
  normalize := fun _ => DistinctMembers.normalize

namespace AdmitsDistinct

variable {P : Property → Prop}

theorem everywhere_mergeWith (hP : AdmitsDistinct P)
    {members : MergeMode → List Property → List Property → List Property} {mode : MergeMode}
    {base other : Property} (hbase : Everywhere P base) (hother : Everywhere P other)
    (hnodup : ((members mode.forMembers base.children other.children).map (·.name)).Nodup)
    (hmembers : ∀ y ∈ members mode.forMembers base.children other.children, Everywhere P y) :
    Everywhere P (mergeWith members mode base other) := by
  refine everywhere_iff.2 ⟨hP.of_distinct _ ?_, ?_⟩
  · intro hkind
    rw [mergeWith_kind] at hkind
    rw [mergeWith_children, arranged, if_pos hkind]
    apply nodup_sort_normalize
    rw [joinedMembers, if_pos hkind]
    split
    · exact List.nodup_nil
    · exact hnodup
  · intro c hc
    obtain ⟨y, rfl, hy | hy | hy⟩ := exists_of_mem_mergeWith_children hc
    · exact (hmembers y hy).normalize hP.normalize
    · exact ((everywhere_iff.1 hbase).2 y hy).normalize hP.normalize
    · exact ((everywhere_iff.1 hother).2 y hy).normalize hP.normalize

theorem everywhere_mergeTo (hP : AdmitsDistinct P) (depth : Nat) {mode : MergeMode}
    {base other : Property} (hbase : Everywhere P base) (hother : Everywhere P other) :
    Everywhere P (mergeTo depth mode base other) := by
  induction depth generalizing mode base other with
  | zero => exact hP.everywhere_mergeWith hbase hother List.nodup_nil (by simp)
  | succ depth ih =>
      have hname : ∀ mode q p, (mergeTo depth mode q p).name = q.name := by
        intro mode q p
        cases depth with
        | zero => exact mergeWith_name ..
        | succ depth => exact mergeWith_name ..
      refine hP.everywhere_mergeWith hbase hother ?_ ?_
      · rw [mergeListsWith_eq]
        exact nodup_joinAll (fun q p => hname _ q p) (nodup_joinAll (hname .peer) (by simp) _) _
      · exact forall_mem_mergeListsWith (fun _ _ _ _ hq hp => ih hq hp) (everywhere_iff.1 hbase).2
          (everywhere_iff.1 hother).2 _ _

/-- A merge of lists that meet the condition at every depth is such a list again. -/
theorem everywhere_mergeLists (hP : AdmitsDistinct P) {mode : MergeMode}
    {base other : List Property} {binding : List String} (hbase : ∀ p ∈ base, Everywhere P p)
    (hother : ∀ p ∈ other, Everywhere P p) :
    ∀ p ∈ mergeLists mode base other binding, Everywhere P p :=
  forall_mem_mergeListsWith (fun _ _ _ _ hq hp => hP.everywhere_mergeTo _ hq hp) hbase hother
    mode binding

end AdmitsDistinct

/-- The relation holds of both, and of each member of the second with one of the first. -/
def Follows (level : Property → Property → Prop) (c g : Property) : Prop :=
  level c g ∧ (takesMembers c = true →
    (c.children.map (·.name)).Nodup ∧
      ∀ x : { x // x ∈ g.children }, ∃ d ∈ c.children, Follows level d x.1)
termination_by sizeOf g
decreasing_by exact sizeOf_child_lt x.2

variable {level : Property → Property → Prop} {c g h : Property}

theorem follows_iff :
    Follows level c g ↔ level c g ∧ (takesMembers c = true →
      (c.children.map (·.name)).Nodup ∧ ∀ x ∈ g.children, ∃ d ∈ c.children, Follows level d x) := by
  rw [Follows]
  simp only [Subtype.forall]

theorem Follows.here (hcg : Follows level c g) : level c g :=
  (follows_iff.1 hcg).1

theorem Follows.mono {weaker : Property → Property → Prop}
    (hlevel : ∀ c g, level c g → weaker c g) (hcg : Follows level c g) : Follows weaker c g := by
  induction g using inductionOn generalizing c with
  | step g ih =>
    obtain ⟨hself, hmembers⟩ := follows_iff.1 hcg
    refine follows_iff.2 ⟨hlevel c g hself, fun ht => ?_⟩
    obtain ⟨hnodup, hall⟩ := hmembers ht
    refine ⟨hnodup, fun x hx => ?_⟩
    obtain ⟨d, hd, hdx⟩ := hall x hx
    exact ⟨d, hd, ih x hx hdx⟩

/-- A property follows itself where no level names a member twice. -/
theorem follows_self {P : Property → Prop} (hself : ∀ q, P q → level q q)
    (hdistinct : ∀ q, P q → takesMembers q = true → (q.children.map (·.name)).Nodup)
    (hg : Everywhere P g) : Follows level g g := by
  induction g using inductionOn with
  | step g ih =>
    obtain ⟨hhere, hbelow⟩ := everywhere_iff.1 hg
    refine follows_iff.2 ⟨hself g hhere, fun ht => ⟨hdistinct g hhere ht, ?_⟩⟩
    exact fun x hx => ⟨x, hx, ih x hx (hbelow x hx)⟩

theorem Follows.normalize (hlevel : ∀ c g, level c g → level c.normalize g)
    (hcg : Follows level c g) : Follows level c.normalize g := by
  induction g using inductionOn generalizing c with
  | step g ih =>
    obtain ⟨hself, hmembers⟩ := follows_iff.1 hcg
    refine follows_iff.2 ⟨hlevel c g hself, fun ht => ?_⟩
    rw [takesMembers_normalize] at ht
    obtain ⟨hnodup, hall⟩ := hmembers ht
    rw [normalize_children, arranged, if_pos (takesMembers_iff.1 ht).1]
    refine ⟨nodup_sort_normalize hnodup, fun x hx => ?_⟩
    obtain ⟨d, hd, hdx⟩ := hall x hx
    exact ⟨d.normalize, mem_sortByName.2 (List.mem_map_of_mem hd), ih x hx hdx⟩

/-- What each join of a member keeps, a merge of the lists keeps. -/
theorem exists_follows_mergeLists {mode : MergeMode} {members others observations : List Property}
    (hnodup : (members.map (·.name)).Nodup)
    (hall : ∀ x ∈ observations, ∃ d ∈ members, Follows level d x)
    (hjoin : ∀ x ∈ observations, ∀ y ∈ others, ∀ d, Follows level d x →
      Follows level (merge mode d y) x) :
    ∀ x ∈ observations, ∃ d ∈ mergeLists mode members others, Follows level d x := by
  intro x hx
  rw [mergeLists_eq_joinAll_of_nodup hnodup]
  exact exists_mem_joinAll (hjoin x hx) (hall x hx)

theorem Follows.mergeLevel {mode : MergeMode} (hcg : Follows level c g)
    (hlevel : level (merge mode c h) g)
    (htakes : takesMembers (merge mode c h) = true → takesMembers c = true ∨ g.children = [])
    (hnormalize : ∀ c g, level c g → level c.normalize g)
    (hjoin : ∀ x ∈ g.children, ∀ y ∈ h.children, ∀ d, Follows level d x →
      Follows level (merge mode.forMembers d y) x) :
    Follows level (merge mode c h) g := by
  refine follows_iff.2 ⟨hlevel, fun ht => ?_⟩
  rw [merge_children_of_takesMembers ht]
  refine ⟨nodup_sort_normalize (nodup_mergeLists _ _ _ _), fun x hx => ?_⟩
  rcases htakes ht with hc | hnil
  · obtain ⟨hnodup, hall⟩ := (follows_iff.1 hcg).2 hc
    obtain ⟨d, hd, hdx⟩ := exists_follows_mergeLists hnodup hall hjoin x hx
    exact ⟨d.normalize, mem_sortByName.2 (List.mem_map_of_mem hd), hdx.normalize hnormalize⟩
  · rw [hnil] at hx
    cases hx

/-- What merges under a mode with properties of a form keep of a relation, on one level. -/
structure KeptBy (level : Property → Property → Prop) (mode : MergeMode) (P : Property → Prop) :
    Prop where
  normalize : ∀ c g, level c g → level c.normalize g
  merge : ∀ {c g h}, level c g → P h → level (merge mode c h) g
  takes : ∀ {c g h}, level c g → P h → takesMembers (Property.merge mode c h) = true →
    takesMembers c = true ∨ g.children = []

theorem KeptBy.mono {mode : MergeMode} {P Q : Property → Prop} (hPQ : ∀ q, P q → Q q)
    (hkept : KeptBy level mode Q) : KeptBy level mode P where
  normalize := hkept.normalize
  merge := fun hcg hh => hkept.merge hcg (hPQ _ hh)
  takes := fun hcg hh => hkept.takes hcg (hPQ _ hh)

/-- What merges keep on one level they keep on all, if the mode is the same for the members. -/
theorem Follows.merge {mode : MergeMode} {P : Property → Prop} (hkept : KeptBy level mode P)
    (hmode : mode.forMembers = mode) (hcg : Follows level c g) (hh : Everywhere P h) :
    Follows level (merge mode c h) g := by
  induction g using inductionOn generalizing c h with
  | step g ih =>
    obtain ⟨hself, hbelow⟩ := everywhere_iff.1 hh
    refine hcg.mergeLevel (hkept.merge hcg.here hself) (hkept.takes hcg.here hself)
      hkept.normalize ?_
    intro x hx y hy d hdx
    rw [hmode]
    exact ih x hx hdx (hbelow y hy)

/-! ## What joins is followed -/

/-- A merge follows what it takes in, if it does so on one level. All that it takes in is of form
`P`, and all that it takes it into of form `Q`. -/
theorem follows_merge_right {mode inner : MergeMode} {P Q : Property → Prop}
    (hmode : mode.forMembers = inner) (hkept : KeptBy level inner P) (hQ : Persists Q)
    (hPQ : ∀ q, P q → Q q) (hself : ∀ q, P q → level q q)
    (hdistinct : ∀ q, P q → takesMembers q = true → (q.children.map (·.name)).Nodup)
    (hlevel : ∀ (m : MergeMode) (c u : Property), m.forMembers = inner → Q c → P u →
      c.name = u.name → level (merge m c u) u)
    (hname : c.name = g.name) (hc : Everywhere Q c) (hg : Everywhere P g) :
    Follows level (merge mode c g) g := by
  induction g using inductionOn generalizing mode c with
  | step g ih =>
    obtain ⟨hcself, hcbelow⟩ := everywhere_iff.1 hc
    obtain ⟨hgself, hgbelow⟩ := everywhere_iff.1 hg
    have hinner : inner.forMembers = inner := by rw [← hmode, MergeMode.forMembers_forMembers]
    refine follows_iff.2 ⟨hlevel mode c g hmode hcself hgself hname, fun ht => ?_⟩
    rw [merge_children_of_takesMembers ht, hmode]
    refine ⟨nodup_sort_normalize (nodup_mergeLists _ _ _ _), fun x hx => ?_⟩
    -- a member of the name takes `x` in when its turn comes, and all later turns leave it there
    have hjoined : ∃ d ∈ mergeLists inner c.children g.children, Follows level d x := by
      rw [mergeLists_eq_joinAll]
      refine exists_mem_joinAll_of_mem (Q := Everywhere Q) (fun q p => hQ.everywhere_merge) ?_ ?_ hx
        (follows_self hself hdistinct (hgbelow x hx)) ?_ ?_
      · exact forall_mem_joinAll (fun q p => hQ.everywhere_merge) (by simp) hcbelow
      · exact fun y hy q hq => hPQ q (hgbelow y hy q hq)
      · exact fun d hd hdx => ih x hx hinner hdx hd (hgbelow x hx)
      · exact fun y hy d hdx => hdx.merge hkept hinner (hgbelow y hy)
    obtain ⟨d, hd, hdx⟩ := hjoined
    exact ⟨d.normalize, mem_sortByName.2 (List.mem_map_of_mem hd), hdx.normalize hkept.normalize⟩

theorem Follows.foldl {join : Property → Property → Property} {others : List Property}
    (hkeep : ∀ u ∈ others, ∀ d, Follows level d g → Follows level (join d u) g)
    (hcg : Follows level c g) : Follows level (others.foldl join c) g := by
  refine List.foldlRecOn (motive := fun d => Follows level d g) others join hcg ?_
  exact fun d hd u hu => hkeep u hu d hd

/-- After properties have joined one after the other, each of them is followed. -/
theorem follows_foldl {join : Property → Property → Property} {others : List Property}
    {Q : Property → Prop} (hQ : ∀ u ∈ others, ∀ d, Q d → Q (join d u))
    (hkeep : ∀ x ∈ others, ∀ u ∈ others, ∀ d, Follows level d x → Follows level (join d u) x)
    (hright : ∀ u ∈ others, ∀ d, Q d → Follows level (join d u) u) (hc : Q c) :
    ∀ x ∈ others, Follows level (others.foldl join c) x := by
  intro x hx
  -- what joins before `x` leads to a `d` that `x` can join, what joins after it keeps it
  obtain ⟨before, after, rfl⟩ := List.append_of_mem hx
  have hbefore : Q (before.foldl join c) :=
    List.foldlRecOn before join hc fun d hd u hu => hQ u (List.mem_append_left _ hu) d hd
  rw [List.foldl_append, List.foldl_cons]
  refine (hright x hx _ hbefore).foldl ?_
  exact fun u hu => hkeep x hx u (List.mem_append_right _ (List.mem_cons_of_mem x hu))

end Property

end PropTyper
