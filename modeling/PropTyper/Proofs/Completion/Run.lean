import PropTyper.Proofs.Completion.Turn

/-! # Whole runs of the completion

`lookups` lists the entries that a run makes lookups for, in order; no name is among them twice.
What a lookup was made for stays in its place to the end of the run, and only its members may still
change, each by a lookup of its own.
-/

namespace PropTyper.Completion

open Property

variable {component : Node} {names except : List String}

def lookups (component : Node) (budget : Nat) (s : State) : List Waiting :=
  match s with
  | ⟨_, [], _⟩ => []
  | ⟨properties, w :: rest, resolved⟩ =>
    if resolved.contains (keyOf component w.property) then
      lookups component budget ⟨properties, rest, resolved⟩
    else
      match budget with
      | 0 => []
      | budget + 1 =>
        w :: lookups component budget (Completion.resolve component ⟨properties, rest, resolved⟩ w)
termination_by (budget, s.waiting.length)

theorem lookups_of_contains {w : Waiting} {resolved : List Key}
    (h : resolved.contains (keyOf component w.property) = true) (budget : Nat)
    (properties : List Property) (rest : List Waiting) :
    lookups component budget ⟨properties, w :: rest, resolved⟩ =
      lookups component budget ⟨properties, rest, resolved⟩ := by
  rw [lookups.eq_def]
  exact if_pos h

theorem lookups_zero (component : Node) (s : State) : lookups component 0 s = [] := by
  rcases s with ⟨properties, waiting, resolved⟩
  induction waiting with
  | nil => rw [lookups.eq_def]
  | cons w rest ih =>
      rw [lookups.eq_def]
      dsimp only
      split
      · exact ih
      · rfl

theorem lookups_succ {w : Waiting} {resolved : List Key}
    (h : ¬ resolved.contains (keyOf component w.property) = true) (budget : Nat)
    (properties : List Property) (rest : List Waiting) :
    lookups component (budget + 1) ⟨properties, w :: rest, resolved⟩ =
      w :: lookups component budget
        (Completion.resolve component ⟨properties, rest, resolved⟩ w) := by
  rw [lookups.eq_def]
  exact if_neg h

theorem run_resolved (component : Node) (budget : Nat) (s : State) :
    (run component budget s).resolved =
      s.resolved ++ (lookups component budget s).map fun w => keyOf component w.property := by
  fun_induction run component budget s with
  | case1 => simp [lookups]
  | case2 budget properties w rest resolved hkey ih => rw [ih, lookups_of_contains hkey]
  | case3 properties w rest resolved hkey => simp [lookups_zero]
  | case4 properties w rest resolved hkey budget ih =>
    rw [ih, lookups_succ hkey, (resolve_cases component _ w).1]
    simp

theorem nodup_run_resolved {s : State} (h : s.resolved.Nodup) (budget : Nat) :
    (run component budget s).resolved.Nodup := by
  fun_induction run component budget s with
  | case1 => exact h
  | case2 budget properties w rest resolved hkey ih => exact ih h
  | case3 => exact h
  | case4 properties w rest resolved hkey budget ih =>
    refine ih ?_
    rw [(resolve_cases component _ w).1, List.nodup_append]
    refine ⟨h, by simp, ?_⟩
    intro a ha b hb hab
    rw [hab, List.mem_singleton.1 hb] at ha
    exact hkey (by simpa using ha)

theorem Invariant.run {s : State} (h : Invariant component names except s) (budget : Nat) :
    Invariant component names except (Completion.run component budget s) := by
  fun_induction Completion.run component budget s with
  | case1 => exact h
  | case2 budget properties w rest resolved hkey ih =>
    exact ih (h.dropFirst (by simpa using hkey) (List.Subset.refl _))
  | case3 => exact h
  | case4 properties w rest resolved hkey budget ih => exact ih h.resolve

theorem Invariant.isOpen_of_mem_lookups {s : State} (h : Invariant component names except s)
    {budget : Nat} {w : Waiting} (hw : w ∈ lookups component budget s) :
    isOpen w.property = true := by
  fun_induction Completion.run component budget s with
  | case1 => simp [lookups] at hw
  | case2 budget properties v rest resolved hkey ih =>
    rw [lookups_of_contains hkey] at hw
    exact ih (h.dropFirst (by simpa using hkey) (List.Subset.refl _)) hw
  | case3 => simp [lookups_zero] at hw
  | case4 properties v rest resolved hkey budget ih =>
    rw [lookups_succ hkey] at hw
    rcases List.mem_cons.1 hw with rfl | hw
    · exact h.allOpen w List.mem_cons_self
    · exact ih h.resolve hw

/-- A run whose lookups bring nothing new for properties of the list leaves the list as it is. -/
theorem Invariant.run_properties_eq_self {s : State} (h : Invariant component names except s)
    {budget : Nat}
    (hsettled : ∀ w ∈ lookups component budget s, w.place ≠ none →
      outcome component w.property = w.property) :
    (Completion.run component budget s).properties = s.properties := by
  fun_induction Completion.run component budget s with
  | case1 => rfl
  | case2 budget properties v rest resolved hkey ih =>
    rw [lookups_of_contains hkey] at hsettled
    exact ih (h.dropFirst (by simpa using hkey) (List.Subset.refl _)) hsettled
  | case3 => rfl
  | case4 properties v rest resolved hkey budget ih =>
    rw [lookups_succ hkey] at hsettled
    rw [ih h.resolve fun w hw => hsettled w (List.mem_cons_of_mem v hw)]
    obtain ⟨-, ⟨-, hprops, -⟩ | ⟨hprops, -⟩⟩ := resolve_cases component ⟨properties, rest, resolved⟩ v
    · exact hprops
    · rw [hprops]
      cases hplace : v.place with
      | none => simp only [replace, hplace]
      | some place =>
          simp only [replace, hplace]
          refine modifyAt_eq_self ?_
          intro p hp
          have hheld := h.held v List.mem_cons_self place hplace
          rw [hsettled v List.mem_cons_self (by simp [hplace])]
          exact Option.some.inj (hheld.symm.trans hp)

/-! ## What stays of a lookup -/

/-- The second list comes from the first by some of the lookups, made for properties at places of
it. -/
inductive Completes (component : Node) (made : List Waiting) : List Property → List Property → Prop
  | refl (properties : List Property) : Completes component made properties properties
  | step {first properties : List Property} {place : List Nat} {w : Waiting}
      (before : Completes component made first properties) (lookup : w ∈ made)
      (here : at? place properties = some w.property) (imprecise : isOpen w.property = true) :
      Completes component made first
        (modifyAt (fun _ => outcome component w.property) place properties)

theorem Completes.trans {made : List Waiting} {a b c : List Property}
    (hab : Completes component made a b) (hbc : Completes component made b c) :
    Completes component made a c := by
  induction hbc with
  | refl => exact hab
  | step _ lookup here hopen ih => exact ih.step lookup here hopen

theorem Completes.mono {made more : List Waiting} {a b : List Property} (hmore : made ⊆ more)
    (h : Completes component made a b) : Completes component more a b := by
  induction h with
  | refl => exact .refl a
  | step _ lookup here hopen ih => exact ih.step (hmore lookup) here hopen

theorem Completes.map_eq {α : Type} {view : Property → α} {made : List Waiting}
    {a b : List Property} (hmembers : ∀ p children, view { p with children } = view p)
    (houtcome : ∀ p, view (outcome component p) = view p) (h : Completes component made a b) :
    b.map view = a.map view := by
  induction h with
  | refl => rfl
  | step _ _ here _ ih =>
      rw [map_modifyAt hmembers, ih]
      intro p hp
      cases here.symm.trans hp
      exact houtcome _

theorem Completes.map_name {made : List Waiting} {a b : List Property}
    (h : Completes component made a b) : b.map (·.name) = a.map (·.name) :=
  h.map_eq (fun _ _ => rfl) (outcome_name component)

/-- No entry waits at a place or above it. -/
def Passed (waiting : List Waiting) (place : List Nat) : Prop :=
  ∀ w ∈ waiting, ∀ y ∈ w.place, ¬ y <+: place

theorem Invariant.resolve_of_passed {properties : List Property} {w : Waiting}
    {rest : List Waiting} {resolved : List Key} {place : List Nat} {p : Property}
    (h : Invariant component names except ⟨properties, w :: rest, resolved⟩)
    (hat : at? place properties = some p) (hpassed : Passed (w :: rest) place) :
    ∃ members, Completes component [w] p.children members ∧
      at? place (Completion.resolve component ⟨properties, rest, resolved⟩ w).properties =
        some { p with children := members } ∧
      Passed (Completion.resolve component ⟨properties, rest, resolved⟩ w).waiting place := by
  have hrest : Passed rest place := fun v hv => hpassed v (List.mem_cons_of_mem w hv)
  obtain ⟨-, ⟨-, hprops, hwaiting⟩ | ⟨hprops, hwaiting⟩⟩ :=
    resolve_cases component ⟨properties, rest, resolved⟩ w
  · rw [hprops, hwaiting]
    exact ⟨p.children, .refl _, by rw [hat, eta], hrest⟩
  · rw [hprops, hwaiting]
    cases hw : w.place with
    | none =>
        simp only [replace, hw]
        refine ⟨p.children, .refl _, by rw [hat, eta], ?_⟩
        intro v hv y hy
        rcases List.mem_append.1 hv with hv | hv
        · exact hrest v hv y hy
        · have hmem := (mem_freshMembers hv).1
          rw [hw] at hmem
          rw [place_eq_none_of_mem_placedFrom hmem] at hy
          cases hy
    | some x =>
        simp only [replace, hw]
        have hx : ¬ x <+: place := hpassed w List.mem_cons_self x hw
        have hlater : Passed (rest.map (detach x) ++
            freshMembers component (resolved ++ [keyOf component w.property]) w) place := by
          intro v hv y hy hprefix
          rcases List.mem_append.1 hv with hv | hv
          · obtain ⟨u, hu, rfl⟩ := List.mem_map.1 hv
            exact hrest u hu y (mem_detach_place_iff.1 hy).1 hprefix
          · obtain ⟨below, -, hplace, -⟩ := exists_of_mem_freshMembers hw hv
            cases hplace.symm.trans hy
            exact hx ((List.prefix_append x below).trans hprefix)
        by_cases hbelow : place <+: x
        · obtain ⟨below, rfl⟩ := hbelow
          have hplace : place ≠ [] := ne_nil_of_at? hat
          have hnil : below ≠ [] := by
            rintro rfl
            exact hx (by simp)
          have hmember : at? below p.children = some w.property := by
            have hheld := h.held w List.mem_cons_self _ hw
            rwa [at?_append hplace hnil, hat] at hheld
          refine ⟨_, (Completes.refl p.children).step List.mem_cons_self hmember
            (h.allOpen w List.mem_cons_self), ?_, hlater⟩
          rw [at?_modifyAt_above hplace hnil, hat]
          rfl
        · refine ⟨p.children, .refl _, ?_, hlater⟩
          rw [at?_modifyAt_apart hbelow hx, hat, eta]

/-- After its own turn a property of the list is passed and stands there as the lookup made it. -/
theorem Invariant.resolve_self {properties : List Property} {w : Waiting} {rest : List Waiting}
    {resolved : List Key} {place : List Nat}
    (h : Invariant component names except ⟨properties, w :: rest, resolved⟩)
    (hw : w.place = some place) :
    at? place (Completion.resolve component ⟨properties, rest, resolved⟩ w).properties =
        some (outcome component w.property) ∧
      Passed (Completion.resolve component ⟨properties, rest, resolved⟩ w).waiting place := by
  have hat : at? place properties = some w.property := h.held w List.mem_cons_self place hw
  have hrest : Passed rest place := fun v hv => (List.pairwise_cons.1 h.ordered).1 v hv place hw
  obtain ⟨-, ⟨hout, hprops, hwaiting⟩ | ⟨hprops, hwaiting⟩⟩ :=
    resolve_cases component ⟨properties, rest, resolved⟩ w
  · rw [hprops, hwaiting, hout]
    exact ⟨hat, hrest⟩
  · rw [hprops, hwaiting]
    simp only [replace, hw]
    refine ⟨by rw [at?_modifyAt_self, hat]; rfl, ?_⟩
    intro v hv y hy hprefix
    rcases List.mem_append.1 hv with hv | hv
    · obtain ⟨u, -, -, happart⟩ := h.apart hw hv
      exact (happart y hy).2.1 hprefix
    · obtain ⟨below, hbelow, hplace, -⟩ := exists_of_mem_freshMembers hw hv
      cases hplace.symm.trans hy
      have hlen := hprefix.length_le
      have hpos := List.length_pos_iff.2 hbelow
      rw [List.length_append] at hlen
      omega

theorem Invariant.run_of_passed {s : State} (h : Invariant component names except s)
    {place : List Nat} {p : Property} (hat : at? place s.properties = some p)
    (hpassed : Passed s.waiting place) (budget : Nat) :
    ∃ members, Completes component (lookups component budget s) p.children members ∧
      at? place (Completion.run component budget s).properties =
        some { p with children := members } := by
  fun_induction Completion.run component budget s generalizing p with
  | case1 => exact ⟨p.children, .refl _, by rw [hat, eta]⟩
  | case2 budget properties w rest resolved hkey ih =>
    rw [lookups_of_contains hkey]
    exact ih (h.dropFirst (by simpa using hkey) (List.Subset.refl _)) hat
      fun v hv => hpassed v (List.mem_cons_of_mem w hv)
  | case3 => exact ⟨p.children, .refl _, by rw [hat, eta]⟩
  | case4 properties w rest resolved hkey budget ih =>
    obtain ⟨middle, hmiddle, hat, hpassed⟩ := h.resolve_of_passed hat hpassed
    obtain ⟨members, hmembers, hfinal⟩ := ih h.resolve hat hpassed
    rw [lookups_succ hkey]
    exact ⟨members, (hmiddle.mono (by simp)).trans (hmembers.mono (List.subset_cons_self _ _)),
      hfinal⟩

/-- What a lookup makes of a property of the list is still there at the end, but for its members. -/
theorem Invariant.at?_run_of_mem_lookups {s : State} (h : Invariant component names except s)
    {budget : Nat} {w : Waiting} (hmem : w ∈ lookups component budget s) {place : List Nat}
    (hw : w.place = some place) :
    ∃ members, Completes component (lookups component budget s)
        (outcome component w.property).children members ∧
      at? place (Completion.run component budget s).properties =
        some { outcome component w.property with children := members } := by
  fun_induction Completion.run component budget s with
  | case1 => simp [lookups] at hmem
  | case2 budget properties v rest resolved hkey ih =>
    rw [lookups_of_contains hkey] at hmem ⊢
    exact ih (h.dropFirst (by simpa using hkey) (List.Subset.refl _)) hmem
  | case3 => simp [lookups_zero] at hmem
  | case4 properties v rest resolved hkey budget ih =>
    rw [lookups_succ hkey] at hmem ⊢
    have hlater : ∃ members, Completes component
          (lookups component budget (Completion.resolve component ⟨properties, rest, resolved⟩ v))
          (outcome component w.property).children members ∧
        at? place (Completion.run component budget
            (Completion.resolve component ⟨properties, rest, resolved⟩ v)).properties =
          some { outcome component w.property with children := members } := by
      rcases List.mem_cons.1 hmem with rfl | hmem
      · obtain ⟨hat, hpassed⟩ := h.resolve_self hw
        exact h.resolve.run_of_passed hat hpassed budget
      · exact ih h.resolve hmem
    obtain ⟨members, hmembers, hfinal⟩ := hlater
    exact ⟨members, hmembers.mono (List.subset_cons_self _ _), hfinal⟩

end PropTyper.Completion
