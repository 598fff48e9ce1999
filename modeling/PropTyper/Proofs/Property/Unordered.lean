import Mathlib.Data.List.Basic
import PropTyper.Proofs.Property.Views

/-! # The order of accesses

The accesses to the properties of a component are visited in the order of the source. What they are
merged into depends on the accesses alone: a finished list is fixed, but for its bindings and texts,
by what it shows at each path, and there it shows what all accesses show together.
-/

namespace PropTyper.Property

/-- What is left of a property without its binding and its texts, at every depth. -/
def outline (p : Property) : Property :=
  { name := p.name, kind := p.kind, required := p.required, children := p.children.map outline }
termination_by sizeOf p
decreasing_by exact sizeOf_child_lt ‹_›

theorem outline_congr {p q : Property} (hname : p.name = q.name) (hkind : p.kind = q.kind)
    (hrequired : p.required = q.required)
    (hchildren : p.children.map outline = q.children.map outline) : p.outline = q.outline := by
  rw [outline, outline, hname, hkind, hrequired, hchildren]

def Strict (properties : List Property) : Prop :=
  (properties.map (·.name)).Pairwise (· < ·)

structure IsSettled (p : Property) : Prop extends IsAccess p where
  strict : Strict p.children

variable {first second : List Property} {p : Property} {name : String}

theorem named_eq_nil (h : name ∉ first.map (·.name)) : named name first = [] := by
  apply List.filter_eq_nil_iff.2
  intro q hq hname
  exact h (List.mem_map.2 ⟨q, hq, by simpa using hname⟩)

theorem Strict.not_mem {rest : List Property} (h : Strict (p :: rest)) :
    p.name ∉ rest.map (·.name) := by
  intro hmem
  exact String.lt_irrefl p.name ((List.pairwise_cons.1 h).1 p.name hmem)

theorem Strict.named_head {rest : List Property} (h : Strict (p :: rest)) :
    named p.name (p :: rest) = [p] := by
  rw [← List.singleton_append, named_append, named_self, named_eq_nil h.not_mem, List.append_nil]

theorem Strict.membersUnder_head {rest : List Property} (h : Strict (p :: rest)) :
    membersUnder p.name (p :: rest) = p.children := by
  rw [membersUnder, h.named_head]
  simp

theorem named_cons_of_ne {rest : List Property} (h : p.name ≠ name) :
    named name (p :: rest) = named name rest := by
  rw [← List.singleton_append, named_append, named_of_ne h, List.nil_append]

theorem Agree.mem_names_iff (h : Agree first second) :
    name ∈ first.map (·.name) ↔ name ∈ second.map (·.name) := by
  have hnamed : ∀ l : List Property, name ∈ l.map (·.name) ↔ named name l ≠ [] := by
    intro l
    constructor
    · intro hmem hnil
      obtain ⟨q, hq, rfl⟩ := List.mem_map.1 hmem
      exact List.filter_eq_nil_iff.1 hnil q hq (decide_eq_true rfl)
    · intro hne
      by_contra hmem
      exact hne (named_eq_nil hmem)
  rw [hnamed, hnamed, Ne, (joint?_eq_iff.1 (agree_iff.1 h name).1).1]

theorem Agree.tail {q : Property} {rest others : List Property}
    (h : Agree (p :: rest) (q :: others)) (hfirst : Strict (p :: rest))
    (hsecond : Strict (q :: others)) (hname : p.name = q.name) : Agree rest others := by
  rw [agree_iff] at h ⊢
  intro name
  by_cases hp : p.name = name
  · subst hp
    have hothers : named p.name others = [] := named_eq_nil (hname ▸ hsecond.not_mem)
    rw [membersUnder, membersUnder, named_eq_nil hfirst.not_mem, hothers]
    exact ⟨rfl, fun _ => Agree.refl []⟩
  · have hnamed := h name
    rw [membersUnder, membersUnder] at hnamed ⊢
    rwa [named_cons_of_ne hp, named_cons_of_ne (hname ▸ hp)] at hnamed

theorem Agree.head_name {q : Property} {rest others : List Property}
    (h : Agree (p :: rest) (q :: others)) (hfirst : Strict (p :: rest))
    (hsecond : Strict (q :: others)) : p.name = q.name := by
  have hp : p.name ∈ (q :: others).map (·.name) := h.mem_names_iff.1 (by simp)
  have hq : q.name ∈ (p :: rest).map (·.name) := h.mem_names_iff.2 (by simp)
  rcases List.mem_cons.1 hp with heq | hp
  · exact heq
  · rcases List.mem_cons.1 hq with heq | hq
    · exact heq.symm
    · exact (String.lt_asymm ((List.pairwise_cons.1 hfirst).1 q.name hq)
        ((List.pairwise_cons.1 hsecond).1 p.name hp)).elim

/-- Lists in strict order that show the same have the same outline. -/
theorem map_outline_eq_of_agree (hfirst : Strict first) (hsecond : Strict second)
    (hsettled : ∀ p ∈ first, Everywhere IsSettled p)
    (hsettled' : ∀ q ∈ second, Everywhere IsSettled q) (h : Agree first second) :
    first.map outline = second.map outline := by
  induction first using forestInduction generalizing second with
  | nil =>
      cases second with
      | nil => rfl
      | cons q others => exact (List.not_mem_nil (h.mem_names_iff.2 (by simp : q.name ∈ _))).elim
  | cons p rest below ih =>
      cases second with
      | nil => exact (List.not_mem_nil (h.mem_names_iff.1 (by simp : p.name ∈ _))).elim
      | cons q others =>
          have hname := h.head_name hfirst hsecond
          obtain ⟨hp, hpbelow⟩ := everywhere_iff.1 (hsettled p List.mem_cons_self)
          obtain ⟨hq, hqbelow⟩ := everywhere_iff.1 (hsettled' q List.mem_cons_self)
          obtain ⟨hjoint, hmembers⟩ := agree_iff.1 h p.name
          have hnamed : named p.name (q :: others) = [q] := by rw [hname, hsecond.named_head]
          have hunder : membersUnder p.name (q :: others) = q.children := by
            rw [hname, hsecond.membersUnder_head]
          rw [hfirst.named_head, hp.jointKind_eq, hfirst.membersUnder_head, hunder] at hmembers
          rw [hfirst.named_head, hnamed, joint?_eq_iff, hp.jointKind_eq, hq.jointKind_eq] at hjoint
          obtain ⟨-, hkind, hrequired⟩ := hjoint
          have hchildren : p.children.map outline = q.children.map outline := by
            by_cases hfunc : p.kind = .func
            · rw [hp.children_eq (by simp [hfunc]), hq.children_eq (by simp [← hkind, hfunc])]
            · exact below hp.strict hq.strict hpbelow hqbelow (hmembers hfunc)
          have hrest : rest.map outline = others.map outline :=
            ih (List.pairwise_cons.1 hfirst).2 (List.pairwise_cons.1 hsecond).2
              (fun r hr => hsettled r (List.mem_cons_of_mem p hr))
              (fun r hr => hsettled' r (List.mem_cons_of_mem q hr)) (h.tail hfirst hsecond hname)
          rw [List.map_cons, List.map_cons, hrest,
            outline_congr hname hkind (by simpa using hrequired) hchildren]

/-! ## Finished lists -/

theorem everywhere_isSettled_normalize (haccess : Everywhere IsAccess p)
    (hdistinct : Everywhere DistinctMembers p) : Everywhere IsSettled p.normalize := by
  intro q hq
  obtain ⟨r, hr, rfl⟩ := exists_of_mem_preorder_normalize hq
  have hself := haccess r hr
  refine ⟨persists_isAccess.normalize hself, ?_⟩
  by_cases hshape : r.kind = .shape
  · have hkind : r.kind.hasNamedMembers = true := by
      rw [hshape]
      rfl
    rw [normalize_children, arranged, if_pos hkind]
    exact pairwise_lt_finalize (hdistinct r hr hkind)
  · rw [normalize_children, hself.children_eq hshape]
    simp [Strict, arranged, sortByName]

section Finished

variable {observations : List Property} (haccess : ∀ p ∈ observations, Everywhere IsAccess p)

include haccess

/-- A finished list shows what the observations show together. -/
theorem agree_finalize_mergeLists :
    Agree (finalize (mergeLists .peer observations [])) observations := by
  have hmerged : Agree (mergeLists .peer observations []) (observations ++ []) :=
    agree_mergeLists haccess (by simp)
  rw [List.append_nil] at hmerged
  refine (agree_finalize ?_).trans hmerged
  exact persists_isAccess.everywhere_mergeLists haccess (by simp)

theorem isSettled_finalize_mergeLists
    (hdistinct : ∀ p ∈ observations, Everywhere DistinctMembers p) :
    ∀ p ∈ finalize (mergeLists .peer observations []), Everywhere IsSettled p := by
  intro p hp
  obtain ⟨q, hq, rfl⟩ := mem_finalize.1 hp
  apply everywhere_isSettled_normalize
  · exact persists_isAccess.everywhere_mergeLists haccess (by simp) q hq
  · exact admitsDistinct_distinctMembers.everywhere_mergeLists hdistinct (by simp) q hq

end Finished

theorem strict_finalize_mergeLists (observations : List Property) :
    Strict (finalize (mergeLists .peer observations [])) :=
  pairwise_lt_finalize (nodup_mergeLists .peer observations [] [])

theorem named_of_strict (h : Strict first) (name : String) :
    named name first = [] ∨ ∃ p ∈ first, p.name = name ∧ named name first = [p] := by
  by_cases hmem : name ∈ first.map (·.name)
  · right
    obtain ⟨p, hp, rfl⟩ := List.mem_map.1 hmem
    obtain ⟨before, after, rfl⟩ := List.append_of_mem hp
    refine ⟨p, hp, rfl, ?_⟩
    unfold Strict at h
    rw [List.map_append, List.map_cons, List.pairwise_append] at h
    obtain ⟨-, hafter, hbefore⟩ := h
    have hnone : named p.name before = [] := by
      apply named_eq_nil
      intro hmem
      exact String.lt_irrefl p.name (hbefore p.name hmem p.name List.mem_cons_self)
    rw [named_append, hnone, List.nil_append]
    exact Strict.named_head hafter
  · exact .inl (named_eq_nil hmem)

theorem view_empty (path : List String) (name : String) : view path name [] = none := by
  induction path with
  | nil => rfl
  | cons step path ih =>
      rw [view_cons, membersUnder]
      simpa [named, jointKind] using ih

theorem atPath_of_settled (hstrict : Strict first) (hsettled : ∀ p ∈ first, Everywhere IsSettled p)
    (path : List String) (name : String) :
    (atPath path name first).map (fun p => (p.kind, p.required)) =
      (view path name first).toList := by
  induction path generalizing first with
  | nil =>
      rw [view_nil, atPath]
      rcases named_of_strict hstrict name with hnone | ⟨p, hp, -, hone⟩
      · simp [hnone, joint?]
      · have hself := (everywhere_iff.1 (hsettled p hp)).1
        simp [hone, joint?, hself.jointKind_eq]
  | cons step path ih =>
      rw [view_cons, atPath]
      rcases named_of_strict hstrict step with hnone | ⟨p, hp, -, hone⟩
      · have hmembers : membersUnder step first = [] := by simp [membersUnder, hnone]
        have hempty : Strict [] := List.Pairwise.nil
        rw [hmembers, ih hempty fun _ h => (List.not_mem_nil h).elim, view_empty, ite_self]
      · obtain ⟨hself, hbelow⟩ := everywhere_iff.1 (hsettled p hp)
        have hmembers : membersUnder step first = p.children := by simp [membersUnder, hone]
        rw [hmembers, hone, hself.jointKind_eq, ih hself.strict hbelow]
        by_cases hfunc : p.kind = .func
        · rw [if_pos hfunc, hself.children_eq (by simp [hfunc]), view_empty]
        · rw [if_neg hfunc]

/-- Accesses may be visited in any order: the finished list keeps its names, kinds, marks and
members at every depth. At each path it has the one property that all accesses show there together,
and none where none of them leads there or one of them on the way is a call. -/
theorem finalize_mergeLists_unordered {observations : List Property}
    (haccess : ∀ p ∈ observations, Everywhere IsAccess p)
    (hdistinct : ∀ p ∈ observations, Everywhere DistinctMembers p) :
    (∀ other, other.Perm observations →
      (finalize (mergeLists .peer other [])).map outline =
        (finalize (mergeLists .peer observations [])).map outline) ∧
    ∀ path name,
      (atPath path name (finalize (mergeLists .peer observations []))).map
          (fun p => (p.kind, p.required)) =
        (view path name observations).toList := by
  have hsettled := isSettled_finalize_mergeLists haccess hdistinct
  have hagree := agree_finalize_mergeLists haccess
  constructor
  · intro other hperm
    have haccess' : ∀ p ∈ other, Everywhere IsAccess p := fun p hp => haccess p (hperm.mem_iff.1 hp)
    have hdistinct' : ∀ p ∈ other, Everywhere DistinctMembers p :=
      fun p hp => hdistinct p (hperm.mem_iff.1 hp)
    apply map_outline_eq_of_agree (strict_finalize_mergeLists other)
      (strict_finalize_mergeLists observations) (isSettled_finalize_mergeLists haccess' hdistinct')
      hsettled
    exact (agree_finalize_mergeLists haccess').trans ((agree_of_perm hperm).trans hagree.symm)
  · intro path name
    rw [atPath_of_settled (strict_finalize_mergeLists observations) hsettled, hagree path name]

/-- The accesses `user.name.first`, `user.name()` and `user.age`. -/
def userAccesses : List Property :=
  [{ name := "user", kind := .shape
     children := [{ name := "name", kind := .shape, children := [{ name := "first" }] }] },
    { name := "user", kind := .shape, children := [{ name := "name", kind := .func }] },
    { name := "user", kind := .shape, children := [{ name := "age" }] }]

/-- The name of the user is called, so that nothing is shown below it, whatever comes first. -/
theorem finalize_userAccesses :
    (finalize (mergeLists .peer userAccesses.reverse [])).map outline =
        (finalize (mergeLists .peer userAccesses [])).map outline ∧
      (atPath ["user"] "name" (finalize (mergeLists .peer userAccesses []))).map
          (fun p => (p.kind, p.required)) = [(.func, false)] ∧
      (atPath ["user", "name"] "first" (finalize (mergeLists .peer userAccesses []))).map
          (fun p => (p.kind, p.required)) = [] := by
  have hleaf : ∀ (name : String) (kind : PropKind), kind = .any ∨ kind = .func →
      Everywhere (fun q => IsAccess q ∧ DistinctMembers q) { name, kind } := by
    intro name kind hkind
    refine everywhere_iff.2 ⟨⟨⟨hkind.imp_right .inr, fun _ => rfl⟩, fun _ => ?_⟩, by simp⟩
    simp
  have hone : ∀ (name : String) (member : Property),
      Everywhere (fun q => IsAccess q ∧ DistinctMembers q) member →
      Everywhere (fun q => IsAccess q ∧ DistinctMembers q)
        { name, kind := .shape, children := [member] } := by
    intro name member hmember
    refine everywhere_iff.2 ⟨⟨⟨.inr (.inl rfl), fun h => (h rfl).elim⟩, fun _ => ?_⟩, ?_⟩
    · simp
    · simpa using hmember
  have hall : ∀ p ∈ userAccesses, Everywhere (fun q => IsAccess q ∧ DistinctMembers q) p := by
    intro p hp
    simp only [userAccesses, List.mem_cons, List.not_mem_nil, or_false] at hp
    rcases hp with rfl | rfl | rfl
    · exact hone _ _ (hone _ _ (hleaf _ _ (.inl rfl)))
    · exact hone _ _ (hleaf _ _ (.inr rfl))
    · exact hone _ _ (hleaf _ _ (.inl rfl))
  have haccess : ∀ p ∈ userAccesses, Everywhere IsAccess p := fun p hp q hq => (hall p hp q hq).1
  have hdistinct : ∀ p ∈ userAccesses, Everywhere DistinctMembers p :=
    fun p hp q hq => (hall p hp q hq).2
  obtain ⟨hany, hpath⟩ := finalize_mergeLists_unordered haccess hdistinct
  refine ⟨hany _ (List.reverse_perm _), (hpath _ _).trans ?_, (hpath _ _).trans ?_⟩
  · decide
  · decide

end PropTyper.Property
