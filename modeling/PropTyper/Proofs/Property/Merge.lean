import PropTyper.Proofs.Property.Join

/-! # Merged properties

`mergeTo` counts the levels of members that are still to come. A merge has no more levels than the
two properties it joins, so the count never runs out, and `merge_eq` and `mergeLists_eq` say what
merging is without it.
-/

namespace PropTyper.Property

/-! ## One level of a merge -/

def joinedMembers (members : MergeMode → List Property → List Property → List Property)
    (mode : MergeMode) (base other : Property) : List Property :=
  if mode = .authoritative && Filled base.literal && base.children.isEmpty then []
  else if (mode.kind base.kind other.kind).hasNamedMembers then
    members mode.forMembers base.children other.children
  else if mode.kind base.kind other.kind = .oneOfType then
    unionAlternatives base.children other.children
  else if base.children.isEmpty then other.children else base.children

section Level

variable (members : MergeMode → List Property → List Property → List Property) (mode : MergeMode)
  (base other : Property)

@[simp] theorem mergeWith_name : (mergeWith members mode base other).name = base.name :=
  normalize_name _

@[simp] theorem mergeWith_kind :
    (mergeWith members mode base other).kind = mode.kind base.kind other.kind :=
  normalize_kind _

@[simp] theorem mergeWith_binding :
    (mergeWith members mode base other).binding =
      if Filled base.binding then base.binding else other.binding := by
  refine (normalize_binding _).trans ?_
  dsimp only
  split <;> rfl

@[simp] theorem mergeWith_scope :
    (mergeWith members mode base other).scope =
      if Filled base.binding then base.scope else other.scope := by
  refine (normalize_scope _).trans ?_
  dsimp only
  split <;> rfl

@[simp] theorem mergeWith_required :
    (mergeWith members mode base other).required =
      if mode = .authoritative then base.required else base.required || other.required :=
  normalize_required _

@[simp] theorem mergeWith_literal :
    (mergeWith members mode base other).literal = firstFilled base.literal other.literal :=
  normalize_literal _

@[simp] theorem mergeWith_defaultText :
    (mergeWith members mode base other).defaultText =
      firstFilled base.defaultText other.defaultText :=
  normalize_defaultText _

theorem mergeWith_children :
    (mergeWith members mode base other).children =
      arranged (mode.kind base.kind other.kind)
        ((joinedMembers members mode base other).map normalize) :=
  normalize_children _

end Level

theorem mem_unionAlternatives {base other : List Property} {x : Property}
    (h : x ∈ unionAlternatives base other) : x ∈ base ∨ x ∈ other := by
  unfold unionAlternatives at h
  induction other generalizing base with
  | nil => exact .inl h
  | cons p rest ih =>
      rcases ih h with hx | hx
      · dsimp only at hx
        split at hx
        · exact .inl hx
        · rcases List.mem_append.1 hx with hx | hx
          · exact .inl hx
          · exact .inr (List.mem_singleton.1 hx ▸ List.mem_cons_self)
      · exact .inr (List.mem_cons_of_mem p hx)

/-- Alternatives are only added, and none is if each has its kind and literal there already. -/
theorem unionAlternatives_eq_append (base other : List Property) :
    ∃ extra, unionAlternatives base other = base ++ extra ∧
      (extra = [] ↔ ∀ c ∈ other, ∃ d ∈ base, d.kind = c.kind ∧ d.literal = c.literal) := by
  unfold unionAlternatives
  induction other generalizing base with
  | nil => exact ⟨[], by simp, by simp⟩
  | cons p rest ih =>
      rw [List.foldl_cons]
      by_cases hp : ∃ d ∈ base, d.kind = p.kind ∧ d.literal = p.literal
      · obtain ⟨extra, heq, hnil⟩ := ih base
        have hany : base.any (fun q => q.kind = p.kind && q.literal = p.literal) = true := by
          simpa using hp
        refine ⟨extra, by rw [if_pos hany, heq], ?_⟩
        rw [hnil, List.forall_mem_cons]
        exact ⟨fun h => ⟨hp, h⟩, fun h => h.2⟩
      · obtain ⟨extra, heq, -⟩ := ih (base ++ [p])
        have hany : ¬ base.any (fun q => q.kind = p.kind && q.literal = p.literal) = true := by
          simpa using hp
        refine ⟨p :: extra, by rw [if_neg hany, heq]; simp, ?_⟩
        constructor
        · intro h
          cases h
        · intro h
          exact (hp (h p List.mem_cons_self)).elim

theorem mem_joinedMembers {members : MergeMode → List Property → List Property → List Property}
    {mode : MergeMode} {base other x : Property} (h : x ∈ joinedMembers members mode base other) :
    x ∈ members mode.forMembers base.children other.children ∨ x ∈ base.children ∨
      x ∈ other.children := by
  unfold joinedMembers at h
  split at h
  · cases h
  · split at h
    · exact .inl h
    · split at h
      · exact .inr (mem_unionAlternatives h)
      · split at h
        · exact .inr (.inr h)
        · exact .inr (.inl h)

theorem exists_of_mem_mergeWith_children
    {members : MergeMode → List Property → List Property → List Property} {mode : MergeMode}
    {base other x : Property} (h : x ∈ (mergeWith members mode base other).children) :
    ∃ y, x = y.normalize ∧ (y ∈ members mode.forMembers base.children other.children ∨
      y ∈ base.children ∨ y ∈ other.children) := by
  rw [mergeWith_children] at h
  obtain ⟨y, hy, rfl⟩ := List.mem_map.1 (mem_of_mem_arranged h)
  exact ⟨y, rfl, mem_joinedMembers hy⟩

theorem mergeWith_congr {members members' : MergeMode → List Property → List Property → List Property}
    {mode : MergeMode} {base other : Property}
    (h : members mode.forMembers base.children other.children =
      members' mode.forMembers base.children other.children) :
    mergeWith members mode base other = mergeWith members' mode base other := by
  unfold mergeWith
  rw [h]

/-! ## Levels -/

theorem foldl_max_le_iff {l : List Nat} {start n : Nat} :
    l.foldl max start ≤ n ↔ start ≤ n ∧ ∀ x ∈ l, x ≤ n := by
  induction l generalizing start with
  | nil => simp
  | cons x rest ih =>
      rw [List.foldl_cons, ih, Nat.max_le, List.forall_mem_cons, and_assoc]

theorem heights_le_iff {properties : List Property} {n : Nat} :
    heights properties ≤ n ↔ ∀ p ∈ properties, p.height ≤ n := by
  rw [heights, foldl_max_le_iff]
  simp

theorem height_le_succ_iff {p : Property} {n : Nat} :
    p.height ≤ n + 1 ↔ ∀ c ∈ p.children, c.height ≤ n := by
  rw [height, Nat.add_comm, Nat.add_le_add_iff_right, foldl_max_le_iff]
  simp

theorem height_normalize_le {p : Property} {n : Nat} (h : p.height ≤ n) :
    p.normalize.height ≤ n := by
  induction p using inductionOn generalizing n with
  | step p ih =>
    cases n with
    | zero =>
        rw [height] at h
        omega
    | succ n =>
        rw [height_le_succ_iff] at h ⊢
        intro c hc
        obtain ⟨d, hd, rfl⟩ := exists_of_mem_normalize_children hc
        exact ih d hd (h d hd)

theorem height_mergeTo_le {depth n : Nat} {mode : MergeMode} {base other : Property}
    (hbase : base.height ≤ n) (hother : other.height ≤ n) :
    (mergeTo depth mode base other).height ≤ n := by
  induction depth generalizing n mode base other with
  | zero =>
      cases n with
      | zero =>
          rw [height] at hbase
          omega
      | succ n =>
          rw [height_le_succ_iff] at *
          intro c hc
          obtain ⟨y, rfl, hy | hy | hy⟩ := exists_of_mem_mergeWith_children hc
          · cases hy
          · exact height_normalize_le (hbase y hy)
          · exact height_normalize_le (hother y hy)
  | succ depth ih =>
      cases n with
      | zero =>
          rw [height] at hbase
          omega
      | succ n =>
          rw [height_le_succ_iff] at *
          intro c hc
          obtain ⟨y, rfl, hy | hy | hy⟩ := exists_of_mem_mergeWith_children hc
          · exact height_normalize_le
              (forall_mem_mergeListsWith (fun _ _ _ _ hq hp => ih hq hp) hbase hother _ _ y hy)
          · exact height_normalize_le (hbase y hy)
          · exact height_normalize_le (hother y hy)

theorem mergeTo_succ_of_height_le {depth : Nat} {mode : MergeMode} {base other : Property}
    (hbase : base.height ≤ depth + 1) (hother : other.height ≤ depth + 1) :
    mergeTo depth mode base other = mergeTo (depth + 1) mode base other := by
  induction depth generalizing mode base other with
  | zero =>
      refine mergeWith_congr ?_
      have none_of : ∀ {p : Property}, p.height ≤ 0 + 1 → p.children = [] := by
        intro p hp
        refine List.eq_nil_iff_forall_not_mem.2 fun c hc => ?_
        have hc := height_le_succ_iff.1 hp c hc
        rw [height] at hc
        omega
      rw [none_of hbase, none_of hother]
      rfl
  | succ depth ih =>
      refine mergeWith_congr (mergeListsWith_congr ?_ ?_ (height_le_succ_iff.1 hbase)
        (height_le_succ_iff.1 hother) _ _)
      · exact fun _ _ _ hq hp => height_mergeTo_le hq hp
      · exact fun _ _ _ hq hp => ih hq hp

theorem mergeTo_eq_merge {depth : Nat} {mode : MergeMode} {base other : Property}
    (hbase : base.height ≤ depth) (hother : other.height ≤ depth) :
    mergeTo depth mode base other = merge mode base other := by
  have hle : max base.height other.height ≤ depth := Nat.max_le.2 ⟨hbase, hother⟩
  have grow : ∀ more, mergeTo (max base.height other.height) mode base other =
      mergeTo (max base.height other.height + more) mode base other := by
    intro more
    induction more with
    | zero => rfl
    | succ more ih =>
        rw [ih]
        exact mergeTo_succ_of_height_le (by omega) (by omega)
  rw [merge, grow (depth - max base.height other.height), Nat.add_sub_cancel' hle]

theorem mergeLists_eq (mode : MergeMode) (base other : List Property) (binding : List String) :
    mergeLists mode base other binding = mergeListsWith merge mode binding base other := by
  have hbase : ∀ p ∈ base, p.height ≤ max (heights base) (heights other) :=
    heights_le_iff.1 (Nat.le_max_left _ _)
  have hother : ∀ p ∈ other, p.height ≤ max (heights base) (heights other) :=
    heights_le_iff.1 (Nat.le_max_right _ _)
  exact mergeListsWith_congr (fun _ _ _ hq hp => height_mergeTo_le hq hp)
    (fun _ _ _ hq hp => mergeTo_eq_merge hq hp) hbase hother mode binding

/-- Merging two properties, without a count of levels. -/
theorem merge_eq (mode : MergeMode) (base other : Property) :
    merge mode base other =
      mergeWith (fun mode first second => mergeLists mode first second) mode base other := by
  have levels : ∀ p : Property, p.height = heights p.children + 1 := by
    intro p
    rw [height, heights, Nat.add_comm]
  have hmax : max base.height other.height =
      max (heights base.children) (heights other.children) + 1 := by
    rw [levels, levels]
    omega
  rw [merge, hmax]
  rfl

section Merge

variable (mode : MergeMode) (base other : Property)

@[simp] theorem merge_name : (merge mode base other).name = base.name := by
  rw [merge_eq, mergeWith_name]

@[simp] theorem merge_kind : (merge mode base other).kind = mode.kind base.kind other.kind := by
  rw [merge_eq, mergeWith_kind]

@[simp] theorem merge_binding :
    (merge mode base other).binding =
      if Filled base.binding then base.binding else other.binding := by
  rw [merge_eq, mergeWith_binding]

@[simp] theorem merge_scope :
    (merge mode base other).scope = if Filled base.binding then base.scope else other.scope := by
  rw [merge_eq, mergeWith_scope]

@[simp] theorem merge_required :
    (merge mode base other).required =
      if mode = .authoritative then base.required else base.required || other.required := by
  rw [merge_eq, mergeWith_required]

@[simp] theorem merge_literal :
    (merge mode base other).literal = firstFilled base.literal other.literal := by
  rw [merge_eq, mergeWith_literal]

@[simp] theorem merge_defaultText :
    (merge mode base other).defaultText = firstFilled base.defaultText other.defaultText := by
  rw [merge_eq, mergeWith_defaultText]

theorem merge_children :
    (merge mode base other).children =
      arranged (mode.kind base.kind other.kind)
        ((joinedMembers (fun mode first second => mergeLists mode first second) mode base other).map
          normalize) := by
  rw [merge_eq, mergeWith_children]

end Merge

theorem mergeLists_eq_joinAll (mode : MergeMode) (base other : List Property) :
    mergeLists mode base other =
      joinAll (merge mode) (joinAll (merge .peer) [] base) other := by
  rw [mergeLists_eq, mergeListsWith_eq]
  rfl

theorem nodup_mergeLists (mode : MergeMode) (base other : List Property)
    (binding : List String) : ((mergeLists mode base other binding).map (·.name)).Nodup := by
  rw [mergeLists_eq, mergeListsWith_eq]
  have hbase : ((joinAll (merge .peer) [] base).map (·.name)).Nodup :=
    nodup_joinAll (merge_name .peer) (by simp) base
  exact nodup_joinAll (fun q p => merge_name _ q p) hbase other

/-- Where the first list names nothing twice, the second one joins it as it is. -/
theorem mergeLists_of_nodup {base : List Property} (h : (base.map (·.name)).Nodup)
    (mode : MergeMode) (other : List Property) (binding : List String) :
    mergeLists mode base other binding =
      joinAll (fun q p => merge (if binding.contains p.name then .authoritative else mode) q p)
        base other := by
  have hbase : joinAll (merge .peer) [] base = [] ++ base := joinAll_of_nodup h
  rw [mergeLists_eq, mergeListsWith_eq, hbase, List.nil_append]

theorem mergeLists_eq_joinAll_of_nodup {base : List Property} (h : (base.map (·.name)).Nodup)
    (mode : MergeMode) (other : List Property) :
    mergeLists mode base other = joinAll (merge mode) base other := by
  have hbase : joinAll (merge .peer) [] base = [] ++ base := joinAll_of_nodup h
  rw [mergeLists_eq_joinAll, hbase, List.nil_append]

theorem mem_names_mergeLists {mode : MergeMode} {base other : List Property} {name : String} :
    name ∈ (mergeLists mode base other).map (·.name) ↔
      name ∈ base.map (·.name) ∨ name ∈ other.map (·.name) := by
  rw [mergeLists_eq_joinAll, mem_names_joinAll (merge_name mode),
    mem_names_joinAll (merge_name .peer)]
  simp

/-! ## What a merge keeps everywhere -/

/-- A form of properties that outlasts normalizing and one level of a merge of two properties that go
together. -/
structure PersistsOn (Together : Property → Property → Prop) (P : Property → Prop) : Prop where
  of_name : ∀ {q p}, q.name = p.name → Together q p
  normalize : ∀ {q}, P q → P q.normalize
  mergeWith : ∀ members mode {base other}, Together base other → P base → P other →
    P (mergeWith members mode base other)

namespace PersistsOn

variable {Together : Property → Property → Prop} {P : Property → Prop} (hP : PersistsOn Together P)

include hP

theorem everywhere_mergeWith
    {members : MergeMode → List Property → List Property → List Property} {mode : MergeMode}
    {base other : Property} (htogether : Together base other) (hbase : Everywhere P base)
    (hother : Everywhere P other)
    (hmembers : ∀ y ∈ members mode.forMembers base.children other.children, Everywhere P y) :
    Everywhere P (Property.mergeWith members mode base other) := by
  obtain ⟨hbaseSelf, hbaseBelow⟩ := everywhere_iff.1 hbase
  obtain ⟨hotherSelf, hotherBelow⟩ := everywhere_iff.1 hother
  refine everywhere_iff.2 ⟨hP.mergeWith members mode htogether hbaseSelf hotherSelf, ?_⟩
  intro c hc
  obtain ⟨y, rfl, hy | hy | hy⟩ := exists_of_mem_mergeWith_children hc
  · exact (hmembers y hy).normalize fun _ => hP.normalize
  · exact (hbaseBelow y hy).normalize fun _ => hP.normalize
  · exact (hotherBelow y hy).normalize fun _ => hP.normalize

theorem everywhere_mergeTo (depth : Nat) {mode : MergeMode} {base other : Property}
    (htogether : Together base other) (hbase : Everywhere P base) (hother : Everywhere P other) :
    Everywhere P (mergeTo depth mode base other) := by
  induction depth generalizing mode base other with
  | zero =>
      refine hP.everywhere_mergeWith htogether hbase hother ?_
      intro y hy
      cases hy
  | succ depth ih =>
      exact hP.everywhere_mergeWith htogether hbase hother
        (forall_mem_mergeListsWith (fun _ _ _ hname hq hp => ih (hP.of_name hname) hq hp)
          (everywhere_iff.1 hbase).2 (everywhere_iff.1 hother).2 _ _)

theorem everywhere_mergeLists {mode : MergeMode} {base other : List Property}
    {binding : List String} (hbase : ∀ p ∈ base, Everywhere P p)
    (hother : ∀ p ∈ other, Everywhere P p) :
    ∀ p ∈ mergeLists mode base other binding, Everywhere P p :=
  forall_mem_mergeListsWith
    (fun _ _ _ hname hq hp => hP.everywhere_mergeTo _ (hP.of_name hname) hq hp) hbase hother mode
    binding

end PersistsOn

structure Persists (P : Property → Prop) : Prop where
  normalize : ∀ {q}, P q → P q.normalize
  mergeWith : ∀ members mode {base other}, P base → P other →
    P (mergeWith members mode base other)

theorem persists_true : Persists fun _ => True :=
  ⟨fun _ => trivial, fun _ _ _ _ _ _ => trivial⟩

namespace Persists

variable {P : Property → Prop} (hP : Persists P)

include hP

theorem on_all : PersistsOn (fun _ _ => True) P where
  of_name := fun _ => trivial
  normalize := hP.normalize
  mergeWith := fun members mode _ _ _ => hP.mergeWith members mode

theorem everywhere_merge {mode : MergeMode} {base other : Property} (hbase : Everywhere P base)
    (hother : Everywhere P other) : Everywhere P (merge mode base other) :=
  hP.on_all.everywhere_mergeTo _ trivial hbase hother

theorem everywhere_mergeLists {mode : MergeMode} {base other : List Property}
    {binding : List String} (hbase : ∀ p ∈ base, Everywhere P p)
    (hother : ∀ p ∈ other, Everywhere P p) :
    ∀ p ∈ mergeLists mode base other binding, Everywhere P p :=
  hP.on_all.everywhere_mergeLists hbase hother

end Persists

end PropTyper.Property
