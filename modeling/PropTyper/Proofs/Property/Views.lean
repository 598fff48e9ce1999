import PropTyper.Proofs.Evidence.Sources
import PropTyper.Proofs.Property.Covers
import PropTyper.Proofs.Property.Follows

/-! # What properties show together

Several properties of one name show one kind: that of a function if one of them is called, else that
of a shape if one of them has members. Below a call nothing is shown. `view` says so for every path
of names. It does not depend on the order of the properties, and merging two of a name leaves it as
it is.
-/

namespace PropTyper

namespace Property

/-! ## Paths -/

def named (name : String) (properties : List Property) : List Property :=
  properties.filter fun p => p.name = name

def membersUnder (name : String) (properties : List Property) : List Property :=
  (named name properties).flatMap (·.children)

def atPath : List String → String → List Property → List Property
  | [], name, properties => named name properties
  | step :: path, name, properties => atPath path name (membersUnder step properties)

def isCalledAbove : List String → List Property → Bool
  | [], _ => false
  | step :: path, properties =>
    (named step properties).any (·.kind = .func) ||
      isCalledAbove path (membersUnder step properties)

def jointKind (properties : List Property) : PropKind :=
  if properties.any (·.kind = .func) then .func
  else if properties.any (·.kind = .shape) then .shape
  else .any

def joint? (properties : List Property) : Option (PropKind × Bool) :=
  if properties.isEmpty then none else some (jointKind properties, properties.any (·.required))

/-- What properties show together at a path. A function has no members to show. -/
def view (path : List String) (name : String) (properties : List Property) :
    Option (PropKind × Bool) :=
  if isCalledAbove path properties then none else joint? (atPath path name properties)

variable {first second : List Property} {p q : Property} {name : String}

theorem named_append (name : String) (first second : List Property) :
    named name (first ++ second) = named name first ++ named name second :=
  List.filter_append ..

theorem membersUnder_append (name : String) (first second : List Property) :
    membersUnder name (first ++ second) = membersUnder name first ++ membersUnder name second := by
  rw [membersUnder, named_append, List.flatMap_append]
  rfl

@[simp] theorem named_self (p : Property) : named p.name [p] = [p] := by
  simp [named]

theorem named_of_ne (h : p.name ≠ name) : named name [p] = [] := by
  simp [named, h]

@[simp] theorem membersUnder_self (p : Property) : membersUnder p.name [p] = p.children := by
  simp [membersUnder]

theorem membersUnder_of_ne (h : p.name ≠ name) : membersUnder name [p] = [] := by
  simp [membersUnder, named_of_ne h]

/-! ## Joint kinds -/

theorem jointKind_eq_func_iff :
    jointKind first = .func ↔ first.any (·.kind = .func) = true := by
  unfold jointKind
  by_cases hfunc : first.any (·.kind = .func) = true
  · simp [hfunc]
  · by_cases hshape : first.any (·.kind = .shape) = true
    · simp [hfunc, hshape]
    · simp [hfunc, hshape]

theorem jointKind_append (first second : List Property) :
    jointKind (first ++ second) = MergeMode.peer.kind (jointKind first) (jointKind second) := by
  unfold jointKind
  rw [List.any_append, List.any_append]
  cases first.any (·.kind = .func) <;> cases second.any (·.kind = .func) <;>
    cases first.any (·.kind = .shape) <;> cases second.any (·.kind = .shape) <;> rfl

theorem joint?_eq_iff :
    joint? first = joint? second ↔
      (first = [] ↔ second = []) ∧ jointKind first = jointKind second ∧
        first.any (·.required) = second.any (·.required) := by
  unfold joint?
  cases first with
  | nil =>
      cases second with
      | nil => simp
      | cons q rest => simp
  | cons p others =>
      cases second with
      | nil => simp
      | cons q rest => simp

theorem joint?_append_congr {first' second' : List Property} (h : joint? first = joint? first')
    (h' : joint? second = joint? second') :
    joint? (first ++ second) = joint? (first' ++ second') := by
  obtain ⟨hnil, hkind, hrequired⟩ := joint?_eq_iff.1 h
  obtain ⟨hnil', hkind', hrequired'⟩ := joint?_eq_iff.1 h'
  rw [joint?_eq_iff, jointKind_append, jointKind_append, List.any_append, List.any_append, hkind,
    hkind', hrequired, hrequired', List.append_eq_nil_iff, List.append_eq_nil_iff, hnil, hnil']
  exact ⟨Iff.rfl, rfl, rfl⟩

theorem joint?_perm (h : first.Perm second) : joint? first = joint? second := by
  have hany : ∀ test : Property → Bool, first.any test = second.any test := by
    intro test
    rw [Bool.eq_iff_iff, List.any_eq_true, List.any_eq_true]
    simp only [h.mem_iff]
  rw [joint?_eq_iff, jointKind, jointKind, hany, hany, hany]
  refine ⟨⟨?_, ?_⟩, rfl, rfl⟩
  · rintro rfl
    exact h.symm.eq_nil
  · rintro rfl
    exact h.eq_nil

/-! ## Lists that show the same -/

theorem view_nil (name : String) (properties : List Property) :
    view [] name properties = joint? (named name properties) := rfl

theorem view_cons (step : String) (path : List String) (name : String)
    (properties : List Property) :
    view (step :: path) name properties =
      if jointKind (named step properties) = .func then none
      else view path name (membersUnder step properties) := by
  unfold view
  rw [isCalledAbove, atPath]
  by_cases hfunc : (named step properties).any (·.kind = .func) = true
  · rw [if_pos (jointKind_eq_func_iff.2 hfunc), if_pos (by rw [hfunc, Bool.true_or])]
  · rw [if_neg (mt jointKind_eq_func_iff.1 hfunc), Bool.eq_false_iff.2 hfunc, Bool.false_or]

/-- The two lists show the same at every path. -/
def Agree (first second : List Property) : Prop :=
  ∀ path name, view path name first = view path name second

theorem Agree.refl (properties : List Property) : Agree properties properties :=
  fun _ _ => rfl

theorem Agree.symm (h : Agree first second) : Agree second first :=
  fun path name => (h path name).symm

theorem Agree.trans {third : List Property} (h : Agree first second) (h' : Agree second third) :
    Agree first third :=
  fun path name => (h path name).trans (h' path name)

/-- Lists agree if they do on each name and, where it is not called, on the members below it. -/
theorem agree_iff :
    Agree first second ↔
      ∀ name, joint? (named name first) = joint? (named name second) ∧
        (jointKind (named name first) ≠ .func →
          Agree (membersUnder name first) (membersUnder name second)) := by
  constructor
  · intro h name
    have hjoint : joint? (named name first) = joint? (named name second) := h [] name
    refine ⟨hjoint, ?_⟩
    intro hkind path last
    have hpath := h (name :: path) last
    rwa [view_cons, view_cons, ← (joint?_eq_iff.1 hjoint).2.1, if_neg hkind, if_neg hkind] at hpath
  · intro h path name
    cases path with
    | nil => exact (h name).1
    | cons step path =>
        obtain ⟨hjoint, hbelow⟩ := h step
        rw [view_cons, view_cons, ← (joint?_eq_iff.1 hjoint).2.1]
        by_cases hkind : jointKind (named step first) = .func
        · rw [if_pos hkind, if_pos hkind]
        · rw [if_neg hkind, if_neg hkind]
          exact hbelow hkind path name

theorem Agree.append {first' second' : List Property} (h : Agree first first')
    (h' : Agree second second') : Agree (first ++ second) (first' ++ second') := by
  intro path
  induction path generalizing first first' second second' with
  | nil =>
      intro name
      rw [view_nil, view_nil, named_append, named_append]
      exact joint?_append_congr (h [] name) (h' [] name)
  | cons step path ih =>
      intro name
      obtain ⟨hjoint, hbelow⟩ := agree_iff.1 h step
      obtain ⟨hjoint', hbelow'⟩ := agree_iff.1 h' step
      have hkind := (joint?_eq_iff.1 (joint?_append_congr hjoint hjoint')).2.1
      rw [view_cons, view_cons, named_append, named_append, ← hkind, membersUnder_append,
        membersUnder_append]
      by_cases hfunc : jointKind (named step first ++ named step second) = .func
      · rw [if_pos hfunc, if_pos hfunc]
      · rw [if_neg hfunc, if_neg hfunc]
        have hany := mt jointKind_eq_func_iff.2 hfunc
        rw [List.any_append, Bool.or_eq_true, not_or] at hany
        exact ih (hbelow (mt jointKind_eq_func_iff.1 hany.1))
          (hbelow' (mt jointKind_eq_func_iff.1 hany.2)) name

/-- The order makes no difference. -/
theorem agree_of_perm (h : first.Perm second) : Agree first second := by
  intro path
  induction path generalizing first second with
  | nil => exact fun name => joint?_perm (h.filter _)
  | cons step path ih =>
      intro name
      have hjoint : joint? (named step first) = joint? (named step second) :=
        joint?_perm (h.filter _)
      have hmembers : (membersUnder step first).Perm (membersUnder step second) :=
        (h.filter _).flatMap_right _
      rw [view_cons, view_cons, (joint?_eq_iff.1 hjoint).2.1, ih hmembers]

/-! ## Accesses -/

/-- A property as an access shows it: as it is, called, or with members. -/
structure IsAccess (p : Property) : Prop where
  kind_eq : p.kind = .any ∨ p.kind = .shape ∨ p.kind = .func
  children_eq : p.kind ≠ .shape → p.children = []

theorem IsAccess.jointKind_eq (hp : IsAccess p) : jointKind [p] = p.kind := by
  rcases hp.kind_eq with hkind | hkind | hkind <;> simp [jointKind, hkind]

theorem persists_isAccess : Persists IsAccess where
  normalize := by
    intro q hq
    refine ⟨by simpa using hq.kind_eq, ?_⟩
    intro hkind
    rw [normalize_kind] at hkind
    rw [normalize_children, hq.children_eq hkind]
    simp [arranged, sortByName]
  mergeWith := by
    intro members mode base other hbase hother
    have hkind : (mergeWith members mode base other).kind = .any ∨
        (mergeWith members mode base other).kind = .shape ∨
        (mergeWith members mode base other).kind = .func := by
      rw [mergeWith_kind]
      rcases mode.kind_cases base.kind other.kind with h | h
      · rw [h]
        exact hbase.kind_eq
      · rw [h]
        exact hother.kind_eq
    refine ⟨hkind, ?_⟩
    intro hshape
    apply (tidy_normalize _).children_eq
    rcases hkind with h | h | h
    · exact (congrArg PropKind.isContainer h).trans rfl
    · exact (hshape h).elim
    · exact (congrArg PropKind.isContainer h).trans rfl

theorem agree_singleton {m : Property} (hm : IsAccess m) (hnames : ∀ p ∈ first, p.name = m.name)
    (hne : first ≠ []) (hkind : m.kind = jointKind first)
    (hrequired : m.required = first.any (·.required))
    (hchildren : m.kind ≠ .func → Agree m.children (first.flatMap (·.children))) :
    Agree [m] first := by
  rw [agree_iff]
  intro name
  by_cases hname : m.name = name
  · subst hname
    have hall : named m.name first = first := by
      apply List.filter_eq_self.2
      intro p hp
      simpa using hnames p hp
    rw [named_self, hall, membersUnder_self, membersUnder, hall, hm.jointKind_eq]
    refine ⟨joint?_eq_iff.2 ⟨by simp [hne], ?_, by simpa using hrequired⟩, hchildren⟩
    rw [hm.jointKind_eq, hkind]
  · have hnone : named name first = [] := by
      apply List.filter_eq_nil_iff.2
      intro p hp
      simpa [hnames p hp] using hname
    rw [named_of_ne hname, membersUnder_of_ne hname, membersUnder, hnone]
    exact ⟨rfl, fun _ => Agree.refl []⟩

theorem agree_map {f : Property → Property} {properties : List Property}
    (h : ∀ p ∈ properties, Agree [f p] [p]) : Agree (properties.map f) properties := by
  induction properties with
  | nil => exact Agree.refl []
  | cons p rest ih =>
      exact (h p List.mem_cons_self).append (ih fun q hq => h q (List.mem_cons_of_mem p hq))

theorem agree_normalize (hp : Everywhere IsAccess p) : Agree [p.normalize] [p] := by
  induction p using inductionOn with
  | step p ih =>
    obtain ⟨hself, hbelow⟩ := everywhere_iff.1 hp
    apply agree_singleton (persists_isAccess.normalize hself)
    · simp
    · simp
    · rw [hself.jointKind_eq, normalize_kind]
    · simp
    · intro _
      rw [normalize_children, List.flatMap_singleton]
      by_cases hshape : p.kind = .shape
      · rw [arranged, if_pos (by rw [hshape]; rfl)]
        exact (agree_of_perm (sortByName_perm _)).trans
          (agree_map fun c hc => ih c hc (hbelow c hc))
      · rw [hself.children_eq hshape]
        simp only [List.map_nil, arranged, sortByName, List.mergeSort_nil, ite_self]
        exact Agree.refl []

theorem agree_finalize {properties : List Property}
    (h : ∀ p ∈ properties, Everywhere IsAccess p) : Agree (finalize properties) properties :=
  (agree_of_perm (sortByName_perm _)).trans (agree_map fun p hp => agree_normalize (h p hp))

/-! ## Merging -/

theorem agree_insertWith {join : Property → Property → Property} {start : List Property}
    (h : ∀ q ∈ start, q.name = p.name → Agree [join q p] [q, p]) :
    Agree (insertWith join p start) (start ++ [p]) := by
  induction start with
  | nil => exact Agree.refl [p]
  | cons q rest ih =>
      have hrest := ih fun r hr => h r (List.mem_cons_of_mem q hr)
      rw [insertWith]
      by_cases hqp : q.name = p.name
      · rw [if_pos hqp]
        have hjoin : Agree ([join q p] ++ rest) ([q, p] ++ rest) :=
          (h q List.mem_cons_self hqp).append (Agree.refl rest)
        refine hjoin.trans (agree_of_perm ?_)
        exact List.Perm.cons q (List.perm_append_singleton p rest).symm
      · rw [if_neg hqp]
        exact (Agree.refl [q]).append hrest

theorem agree_joinAll {join : Property → Property → Property} {P : Property → Prop}
    (hP : ∀ q p, P q → P p → P (join q p))
    (hjoin : ∀ q p, P q → P p → q.name = p.name → Agree [join q p] [q, p])
    {start others : List Property} (hstart : ∀ q ∈ start, P q) (hothers : ∀ p ∈ others, P p) :
    Agree (joinAll join start others) (start ++ others) := by
  induction others generalizing start with
  | nil =>
      rw [joinAll_nil, List.append_nil]
      exact Agree.refl start
  | cons p others ih =>
      have hp := hothers p List.mem_cons_self
      have hrest : ∀ r ∈ others, P r := fun r hr => hothers r (List.mem_cons_of_mem p hr)
      have hinsert : Agree (insertWith join p start) (start ++ [p]) :=
        agree_insertWith fun q hq => hjoin q p (hstart q hq) hp
      have hnext : ∀ q ∈ joinAll join start [p], P q :=
        forall_mem_joinAll hP hstart (by simpa using hp)
      rw [joinAll_cons, List.append_cons]
      exact (ih hnext hrest).trans (hinsert.append (Agree.refl others))

theorem agree_mergeLists_of {P : Property → Prop}
    (hP : ∀ q p, P q → P p → P (merge .peer q p))
    (hmerge : ∀ q p, P q → P p → q.name = p.name → Agree [merge .peer q p] [q, p])
    (hfirst : ∀ p ∈ first, P p) (hsecond : ∀ p ∈ second, P p) :
    Agree (mergeLists .peer first second) (first ++ second) := by
  have hstart : ∀ p ∈ joinAll (merge .peer) [] first, P p := forall_mem_joinAll hP (by simp) hfirst
  rw [mergeLists_eq_joinAll]
  exact (agree_joinAll hP hmerge hstart hsecond).trans
    ((agree_joinAll hP hmerge (by simp) hfirst).append (Agree.refl second))

theorem isAccess_merge (hp : Everywhere IsAccess p) (hq : Everywhere IsAccess q) :
    IsAccess (merge .peer p q) :=
  (everywhere_iff.1 (persists_isAccess.everywhere_merge hp hq)).1

theorem agree_merge_children (hp : Everywhere IsAccess p) (hq : Everywhere IsAccess q)
    (hfunc : (merge .peer p q).kind ≠ .func)
    (hmembers : Agree (mergeLists .peer p.children q.children) (p.children ++ q.children)) :
    Agree (merge .peer p q).children (p.children ++ q.children) := by
  obtain ⟨hpself, hpbelow⟩ := everywhere_iff.1 hp
  obtain ⟨hqself, hqbelow⟩ := everywhere_iff.1 hq
  by_cases hshape : MergeMode.peer.kind p.kind q.kind = .shape
  · rw [merge_children_named (by rw [hshape]; rfl)]
    exact (agree_finalize (persists_isAccess.everywhere_mergeLists hpbelow hqbelow)).trans hmembers
  · rw [merge_kind] at hfunc
    have hplain : p.kind ≠ .shape ∧ q.kind ≠ .shape := by
      rcases hpself.kind_eq with hk | hk | hk <;>
        rcases hqself.kind_eq with hk' | hk' | hk' <;> simp_all [MergeMode.kind]
    rw [(isAccess_merge hp hq).children_eq (by rwa [merge_kind]), hpself.children_eq hplain.1,
      hqself.children_eq hplain.2]
    exact Agree.refl []

theorem agree_merge (hp : Everywhere IsAccess p) (hq : Everywhere IsAccess q)
    (hname : p.name = q.name) : Agree [merge .peer p q] [p, q] := by
  -- merges of members are merged again, so the induction is on a bound for their levels
  obtain ⟨levels, hplevels, hqlevels⟩ : ∃ n, p.height ≤ n ∧ q.height ≤ n :=
    ⟨max p.height q.height, Nat.le_max_left .., Nat.le_max_right ..⟩
  induction levels generalizing p q with
  | zero =>
      rw [height] at hplevels
      omega
  | succ n ih =>
      obtain ⟨hpself, hpbelow⟩ := everywhere_iff.1 hp
      obtain ⟨hqself, hqbelow⟩ := everywhere_iff.1 hq
      rw [height_le_succ_iff] at hplevels hqlevels
      apply agree_singleton (isAccess_merge hp hq)
      · simp [hname]
      · simp
      · rw [merge_kind, ← List.singleton_append, jointKind_append, hpself.jointKind_eq,
          hqself.jointKind_eq]
      · simp
      · intro hfunc
        have hmembers :
            Agree (mergeLists .peer p.children q.children) (p.children ++ q.children) := by
          apply agree_mergeLists_of (P := fun c => Everywhere IsAccess c ∧ c.height ≤ n)
          · exact fun c d hc hd => ⟨persists_isAccess.everywhere_merge hc.1 hd.1,
              height_mergeTo_le hc.2 hd.2⟩
          · exact fun c d hc hd hcd => ih hc.1 hd.1 hcd hc.2 hd.2
          · exact fun c hc => ⟨hpbelow c hc, hplevels c hc⟩
          · exact fun d hd => ⟨hqbelow d hd, hqlevels d hd⟩
        have hall : [p, q].flatMap (·.children) = p.children ++ q.children := by simp
        rw [hall]
        exact agree_merge_children hp hq hfunc hmembers

/-- Merged lists show what the lists show together. -/
theorem agree_mergeLists (hfirst : ∀ p ∈ first, Everywhere IsAccess p)
    (hsecond : ∀ p ∈ second, Everywhere IsAccess p) :
    Agree (mergeLists .peer first second) (first ++ second) :=
  agree_mergeLists_of (fun _ _ hq hp => persists_isAccess.everywhere_merge hq hp)
    (fun _ _ hq hp => agree_merge hq hp) hfirst hsecond

end Property

end PropTyper
