import PropTyper.Proofs.Completion.Missed

/-! # What a completion leaves alone

Every change that a run makes is the outcome of a lookup, put in a place below a name that is not to
be left alone. So the names of the list stay, in their order, and the properties to be left alone
stay as they are but for the final normalizing.
-/

namespace PropTyper.Completion

open Property

variable {component : Node} {names except : List String} {properties : List Property}

/-- The lookups that a run makes lead from its list to the one that it ends with. -/
theorem Invariant.completes_run {s : State} (h : Invariant component names except s)
    (budget : Nat) :
    Completes component (lookups component budget s) s.properties
      (Completion.run component budget s).properties := by
  fun_induction Completion.run component budget s with
  | case1 => exact .refl _
  | case2 budget properties w rest resolved hkey ih =>
    rw [lookups_of_contains hkey]
    exact ih (h.dropFirst (by simpa using hkey) (List.Subset.refl _))
  | case3 => exact .refl _
  | case4 properties w rest resolved hkey budget ih =>
    rw [lookups_succ hkey]
    refine Completes.trans ?_ ((ih h.resolve).mono (List.subset_cons_self _ _))
    obtain ⟨-, ⟨-, hprops, -⟩ | ⟨hprops, -⟩⟩ :=
      resolve_cases component ⟨properties, rest, resolved⟩ w
    · rw [hprops]
      exact .refl _
    · rw [hprops]
      cases hw : w.place with
      | none =>
          simp only [replace, hw]
          exact .refl _
      | some place =>
          simp only [replace, hw]
          exact (Completes.refl _).step List.mem_cons_self (h.held w List.mem_cons_self place hw)
            (h.allOpen w List.mem_cons_self)

theorem apart_of_not_free {place : List Nat} {i : Nat} (hplace : Free names except place)
    (hi : ¬ Free names except [i]) : ¬ [i] <+: place ∧ ¬ place <+: [i] := by
  obtain ⟨j, hj, hfree⟩ := hplace
  cases place with
  | nil => cases hj
  | cons k rest =>
      cases hj
      have hne : i ≠ j := by
        rintro rfl
        exact hi ⟨i, rfl, hfree⟩
      refine ⟨?_, ?_⟩
      · intro hprefix
        exact hne (List.cons_prefix_cons.1 hprefix).1
      · intro hprefix
        exact hne (List.cons_prefix_cons.1 hprefix).1.symm

theorem at?_resolve_of_apart {s : State} {w : Waiting} {other : List Nat}
    (h : ∀ place ∈ w.place, ¬ other <+: place ∧ ¬ place <+: other) :
    at? other (Completion.resolve component s w).properties = at? other s.properties := by
  obtain ⟨-, ⟨-, hprops, -⟩ | ⟨hprops, -⟩⟩ := resolve_cases component s w
  · rw [hprops]
  · rw [hprops]
    cases hw : w.place with
    | none => simp only [replace, hw]
    | some place =>
        obtain ⟨habove, hbelow⟩ := h place hw
        simp only [replace, hw]
        exact at?_modifyAt_apart habove hbelow _ s.properties

theorem Invariant.getElem?_resolve {w : Waiting} {rest : List Waiting} {resolved : List Key}
    {i : Nat} (h : Invariant component names except ⟨properties, w :: rest, resolved⟩)
    (hi : ¬ Free names except [i]) :
    (Completion.resolve component ⟨properties, rest, resolved⟩ w).properties[i]? =
      properties[i]? := by
  show at? [i] _ = at? [i] properties
  refine at?_resolve_of_apart fun place hplace => ?_
  exact apart_of_not_free (h.free w List.mem_cons_self place hplace) hi

/-- No turn of a run reaches a property that is to be left alone. -/
theorem Invariant.getElem?_run {s : State} {i : Nat} (h : Invariant component names except s)
    (hi : ¬ Free names except [i]) (budget : Nat) :
    (Completion.run component budget s).properties[i]? = s.properties[i]? := by
  fun_induction Completion.run component budget s with
  | case1 => rfl
  | case2 budget properties w rest resolved hkey ih =>
    exact ih (h.dropFirst (by simpa using hkey) (List.Subset.refl _))
  | case3 => rfl
  | case4 properties w rest resolved hkey budget ih => rw [ih h.resolve, h.getElem?_resolve hi]

/-- What a lookup keeps of a property, apart from members, stays as it is in the whole list. -/
theorem map_complete {α : Type} {view : Property → α} (component : Node)
    (properties : List Property) (except : List String)
    (hmembers : ∀ p children, view { p with children } = view p)
    (houtcome : ∀ p, view (outcome component p) = view p) :
    (complete component properties except).properties.map view = properties.map view := by
  unfold complete
  split
  · rfl
  · have hrun := (invariant_initial component properties except).completes_run
      (budget component properties)
    have hnormalize : ∀ p : Property, view p.normalize = view p := by
      intro p
      rw [normalize_eq, hmembers]
    rw [List.map_map, ← hrun.map_eq hmembers houtcome]
    exact List.map_congr_left fun p _ => hnormalize p

theorem map_name_complete (component : Node) (properties : List Property) (except : List String) :
    (complete component properties except).properties.map (·.name) = properties.map (·.name) :=
  map_complete component properties except (fun _ _ => rfl) (outcome_name component)

theorem normalize_mem_finalize_complete {p : Property} (component : Node) (hp : p ∈ properties)
    (hname : p.name ∈ except) :
    p.normalize ∈ finalize (complete component properties except).properties := by
  rw [mem_finalize]
  unfold complete
  split
  · exact ⟨p, hp, rfl⟩
  · obtain ⟨i, hi⟩ := List.getElem?_of_mem hp
    have hfree : ¬ Free (properties.map (·.name)) except [i] := by
      rintro ⟨j, hj, name, hmem, hnot⟩
      cases hj
      rw [List.getElem?_map, hi] at hmem
      cases hmem
      exact hnot hname
    have hfinal : (final component properties except).properties[i]? = some p :=
      ((invariant_initial component properties except).getElem?_run hfree _).trans hi
    exact ⟨p.normalize, List.mem_map_of_mem (List.mem_of_getElem? hfinal), normalize_normalize p⟩

end PropTyper.Completion
