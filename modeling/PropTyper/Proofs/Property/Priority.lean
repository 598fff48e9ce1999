import PropTyper.Proofs.Declaration.Declared
import PropTyper.Proofs.Property.Interleave

/-! # Whose word counts

Where several sources speak about one name, each field of the combined property follows a rule of
its own. A declaration settles the kind and the mark alone; without one the first definite kind
counts, and one mark is enough. A text is taken from the first source that has it, and the block of
a binding always comes with the binding.
-/

namespace PropTyper.Property

/-! ## The first that has a text -/

/-- `m` shows what the first of the sources with a text shows; if none of them has one, neither has
`m`. -/
def TakesFirst {α : Type} (view : Property → α) (text : α → Option String)
    (sources : List Property) (m : Property) : Prop :=
  match sources.find? fun p => Filled (text (view p)) with
  | some p => view m = view p
  | none => Filled (text (view m)) = false

section TakesFirst

variable {α : Type} {view : Property → α} {text : α → Option String} {p q m : Property}
  {sources : List Property}

theorem takesFirst_of_filled (h : Filled (text (view p)) = true) :
    TakesFirst view text (p :: sources) m ↔ view m = view p := by
  simp only [TakesFirst, List.find?_cons, h]

theorem takesFirst_of_not_filled (h : Filled (text (view p)) = false) :
    TakesFirst view text (p :: q :: sources) m ↔ TakesFirst view text (q :: sources) m := by
  rw [TakesFirst, List.find?_cons, h, TakesFirst]

theorem takesFirst_congr (h : view p = view q) :
    TakesFirst view text (p :: sources) m ↔ TakesFirst view text (q :: sources) m := by
  by_cases hp : Filled (text (view p)) = true
  · rw [takesFirst_of_filled hp, takesFirst_of_filled (h ▸ hp), h]
  · rw [Bool.not_eq_true] at hp
    rw [TakesFirst, TakesFirst, List.find?_cons, List.find?_cons, ← h, hp]

theorem takesFirst_foldl {join : Property → Property → Property}
    (hjoin : ∀ q p, view (join q p) = if Filled (text (view q)) then view q else view p)
    (p : Property) (others : List Property) :
    TakesFirst view text (p :: others) (others.foldl join p) := by
  induction others generalizing p with
  | nil =>
      by_cases hp : Filled (text (view p)) = true
      · exact (takesFirst_of_filled hp).2 rfl
      · rw [Bool.not_eq_true] at hp
        rw [TakesFirst, List.find?_cons, hp]
        exact hp
  | cons u others ih =>
      have hlater := ih (join p u)
      rw [List.foldl_cons]
      by_cases hp : Filled (text (view p)) = true
      · have hview : view (join p u) = view p := by rw [hjoin, if_pos hp]
        rw [takesFirst_of_filled (hview ▸ hp), hview] at hlater
        exact (takesFirst_of_filled hp).2 hlater
      · have hview : view (join p u) = view u := by rw [hjoin, if_neg hp]
        exact (takesFirst_of_not_filled (Bool.eq_false_iff.2 hp)).2 ((takesFirst_congr hview).1 hlater)

end TakesFirst

/-! ## Three sources -/

def under (name : String) (source : List Property) : Option Property :=
  source.find? fun p => p.name = name

theorem filter_eq_toList_under {source : List Property} (h : (source.map (·.name)).Nodup)
    (name : String) : source.filter (fun p => p.name = name) = (under name source).toList := by
  induction source with
  | nil => rfl
  | cons p rest ih =>
      obtain ⟨hp, hrest⟩ := List.nodup_cons.1 h
      rw [under, List.filter_cons, List.find?_cons]
      by_cases hname : p.name = name
      · have hnone : rest.filter (fun q => q.name = name) = [] := by
          rw [List.filter_eq_nil_iff]
          intro q hq hqn
          exact hp (List.mem_map.2 ⟨q, hq, (of_decide_eq_true hqn).trans hname.symm⟩)
        simp [hname, hnone]
      · simp only [hname, decide_false, Bool.false_eq_true, if_false]
        exact ih hrest

def ranked (stated used fallback : Option Property) : List Property :=
  stated.toList ++ used.toList ++ fallback.toList

/-- Each field of `m` is what the first source that counts for it says. -/
structure Ranks (stated used fallback : Option Property) (m : Property) : Prop where
  /-- A use decides unless it shows nothing. -/
  kind_eq : m.kind = (stated.map (·.kind)).getD
    (((used.map (·.kind)).filter (· ≠ .any)).getD ((fallback.map (·.kind)).getD .any))
  required_eq : m.required =
    (stated.map (·.required)).getD ((ranked stated used fallback).any (·.required))
  literal_first : TakesFirst (·.literal) id (ranked stated used fallback) m
  defaultText_first : TakesFirst (·.defaultText) id (ranked stated used fallback) m
  binding_first : TakesFirst (fun p => (p.binding, p.scope)) Prod.fst (ranked stated used fallback) m

theorem takesFirst_literal (mode : MergeMode) (p : Property) (others : List Property) :
    TakesFirst (·.literal) id (p :: others) (others.foldl (merge mode) p) :=
  takesFirst_foldl (merge_literal mode) p others

theorem takesFirst_defaultText (mode : MergeMode) (p : Property) (others : List Property) :
    TakesFirst (·.defaultText) id (p :: others) (others.foldl (merge mode) p) :=
  takesFirst_foldl (merge_defaultText mode) p others

theorem takesFirst_binding (mode : MergeMode) (p : Property) (others : List Property) :
    TakesFirst (fun p => (p.binding, p.scope)) Prod.fst (p :: others)
      (others.foldl (merge mode) p) := by
  refine takesFirst_foldl ?_ p others
  intro q u
  rw [merge_binding, merge_scope]
  split <;> rfl

theorem ranks_held (e : Property) (used fallback : Option Property) :
    Ranks (some e) used fallback (held e (used.toList ++ fallback.toList)) :=
  ⟨held_kind .., held_required .., takesFirst_literal .., takesFirst_defaultText ..,
    takesFirst_binding ..⟩

theorem ranks_merge (u d : Property) : Ranks none (some u) (some d) (merge .priority u d) := by
  refine ⟨?_, ?_, takesFirst_literal _ u [d], takesFirst_defaultText _ u [d],
    takesFirst_binding _ u [d]⟩
  · by_cases hany : u.kind = .any
    · simp [MergeMode.kind, Option.filter_some, hany]
    · simp [MergeMode.kind, Option.filter_some, hany]
  · simp [ranked]

/-- A property that is only used counts as it is. -/
theorem ranks_used (u : Property) : Ranks none (some u) none u := by
  refine ⟨?_, by simp [ranked], takesFirst_literal .peer u [], takesFirst_defaultText .peer u [],
    takesFirst_binding .peer u []⟩
  by_cases hany : u.kind = .any
  · simp [Option.filter_some, hany]
  · simp [Option.filter_some, hany]

theorem ranks_default (d : Property) : Ranks none none (some d) d :=
  ⟨rfl, by simp [ranked], takesFirst_literal .peer d [], takesFirst_defaultText .peer d [],
    takesFirst_binding .peer d []⟩

/-! ## The combined list -/

theorem joinAll_singleton {join : Property → Property → Property} {p : Property}
    {others : List Property} (hname : ∀ q p, (join q p).name = q.name)
    (h : ∀ q ∈ others, q.name = p.name) : joinAll join [p] others = [others.foldl join p] := by
  induction others generalizing p with
  | nil => rfl
  | cons u others ih =>
      rw [joinAll_cons, insertWith, if_pos (h u List.mem_cons_self).symm, List.foldl_cons]
      refine ih ?_
      intro q hq
      rw [hname, h q (List.mem_cons_of_mem u hq)]

/-- Against all that others say under its name, a declared property is the only one. -/
theorem combine_singleton {e : Property} {used defaults : List Property}
    (h : ∀ q ∈ used ++ defaults, q.name = e.name) :
    combine [e] used defaults = [held e (used ++ defaults)] := by
  have hpeers : joinedPeers [e] = [e] := rfl
  rw [combine_eq, hpeers, joinAll_singleton (joinStated_name [e]) h]
  refine congrArg (fun m => [m]) (List.foldl_ext _ _ _ ?_)
  intro q p hp
  exact joinStated_of_mem (by simp [h p hp]) q

theorem combine_toList {name : String} {stated used fallback : Option Property}
    (h : ∀ p ∈ ranked stated used fallback, p.name = name) :
    (ranked stated used fallback = [] ∧
        combine stated.toList used.toList fallback.toList = []) ∨
      (ranked stated used fallback ≠ [] ∧ ∃ m,
        combine stated.toList used.toList fallback.toList = [m] ∧
          Ranks stated used fallback m) := by
  match stated, used, fallback with
  | some e, used, fallback =>
      refine .inr ⟨by simp [ranked], _, combine_singleton ?_, ranks_held e used fallback⟩
      intro q hq
      have he : e.name = name := h e (by simp [ranked])
      rw [he]
      exact h q (List.mem_cons_of_mem e hq)
  | none, some u, some d =>
      have hname : d.name = u.name := (h d (by simp [ranked])).trans (h u (by simp [ranked])).symm
      have hjoined : joinStated [] u d = merge .priority u d := joinStated_of_not_mem (by simp) u
      have hfirst : joinedPeers [] = [] := rfl
      refine .inr ⟨by simp [ranked], _, ?_, ranks_merge u d⟩
      rw [Option.toList_none, combine_eq, hfirst, ← hjoined]
      exact joinAll_singleton (joinStated_name []) (by simpa using hname)
  | none, some u, none => exact .inr ⟨by simp [ranked], u, rfl, ranks_used u⟩
  | none, none, some d => exact .inr ⟨by simp [ranked], d, rfl, ranks_default d⟩
  | none, none, none => exact .inl ⟨rfl, rfl⟩

variable {declared used defaults : List Property}

/-- Where no source has a name twice, the combined list holds one property for each name that a
source has, and every field of it comes from the source that counts for the field. -/
theorem filter_combine_ranks (hdeclared : (declared.map (·.name)).Nodup)
    (hused : (used.map (·.name)).Nodup) (hdefaults : (defaults.map (·.name)).Nodup)
    (name : String) :
    let stated := under name declared
    let observed := under name used
    let fallback := under name defaults
    (ranked stated observed fallback = [] ∧
        (combine declared used defaults).filter (fun p => p.name = name) = []) ∨
      (ranked stated observed fallback ≠ [] ∧ ∃ m,
        (combine declared used defaults).filter (fun p => p.name = name) = [m] ∧
          Ranks stated observed fallback m) := by
  intro stated observed fallback
  have hname : ∀ p ∈ ranked stated observed fallback, p.name = name := by
    intro p hp
    have hfound : ∀ source : List Property, p ∈ (under name source).toList → p.name = name := by
      intro source hmem
      simpa using List.find?_some (Option.mem_toList.1 hmem)
    rcases List.mem_append.1 hp with hp | hp
    · exact (List.mem_append.1 hp).elim (hfound _) (hfound _)
    · exact hfound _ hp
  rw [filter_combine, filter_eq_toList_under hdeclared, filter_eq_toList_under hused,
    filter_eq_toList_under hdefaults]
  exact combine_toList hname

/-- A size as each of the sources knows it. -/
def declaredSize : List Property :=
  [{ name := "size", kind := .oneOf, literal := some "SIZES" }]

def usedSize : List Property :=
  [{ name := "user", kind := .shape },
    { name := "size", kind := .func, required := true, binding := some "s", scope := some ⟨0, 9⟩ }]

def defaultSize : List Property :=
  [{ name := "size", kind := .number, binding := some "t", defaultText := some "1" }]

/-- Its kind and its mark are declared, its binding is used, and its default is known. -/
theorem filter_combine_size :
    ∃ m, (combine declaredSize usedSize defaultSize).filter (fun p => p.name = "size") = [m] ∧
      m.kind = .oneOf ∧ m.required = false ∧ m.literal = some "SIZES" ∧
        m.defaultText = some "1" ∧ m.binding = some "s" ∧ m.scope = some ⟨0, 9⟩ := by
  have hdeclared : (declaredSize.map (·.name)).Nodup := by decide
  have hused : (usedSize.map (·.name)).Nodup := by decide
  have hdefaults : (defaultSize.map (·.name)).Nodup := by decide
  obtain ⟨hnone, -⟩ | ⟨-, m, hm, hranks⟩ :=
    filter_combine_ranks hdeclared hused hdefaults "size"
  · cases hnone
  · have hbinding : (m.binding, m.scope) = (some "s", some ⟨0, 9⟩) := hranks.binding_first
    exact ⟨m, hm, hranks.kind_eq, hranks.required_eq, hranks.literal_first,
      hranks.defaultText_first, congrArg Prod.fst hbinding, congrArg Prod.snd hbinding⟩

end PropTyper.Property
