import PropTyper.Proofs.Property.Combine
import PropTyper.Proofs.StableSort

/-! # Properties of different names

A list joins name by name: what stands under a name after others have joined is what those of that
name alone make of it. So the finished list of all sources depends on what each source says about
each name, in its order, and not on how it goes from one name to another.
-/

namespace PropTyper.Property

open StableSort

variable {join : Property → Property → Property}

theorem filter_insertWith (hname : ∀ q p, (join q p).name = q.name) (p : Property)
    (start : List Property) (name : String) :
    (insertWith join p start).filter (fun q => q.name = name) =
      if p.name = name then insertWith join p (start.filter fun q => q.name = name)
      else start.filter fun q => q.name = name := by
  induction start with
  | nil => by_cases hp : p.name = name <;> simp [insertWith, hp]
  | cons q rest ih =>
      rw [insertWith]
      by_cases hqp : q.name = p.name
      · by_cases hp : p.name = name
        · simp [hqp, hp, hname, insertWith]
        · simp [hqp, hp, hname]
      · rw [if_neg hqp, List.filter_cons, ih, List.filter_cons]
        by_cases hp : p.name = name
        · have hq : q.name ≠ name := fun h => hqp (h.trans hp.symm)
          simp [hp, hq]
        · by_cases hq : q.name = name
          · simp [hp, hq]
          · simp [hp, hq]

/-- Under each name a joined list holds what joins under this name alone. -/
theorem filter_joinAll (hname : ∀ q p, (join q p).name = q.name) (start others : List Property)
    (name : String) :
    (joinAll join start others).filter (fun q => q.name = name) =
      joinAll join (start.filter fun q => q.name = name)
        (others.filter fun q => q.name = name) := by
  induction others generalizing start with
  | nil => rfl
  | cons p others ih =>
      rw [joinAll_cons, ih, filter_insertWith hname, List.filter_cons]
      by_cases hp : p.name = name
      · simp [hp]
      · simp [hp]

theorem isKeyOrder_name :
    IsKeyOrder Property.name fun a b : Property => !decide (b.name < a.name) where
  trans := by
    intro a b c hab hbc
    rw [not_decide_lt_iff] at *
    exact String.le_trans hab hbc
  total := by
    intro a b
    rw [Bool.or_eq_true, not_decide_lt_iff, not_decide_lt_iff]
    exact String.le_total a.name b.name
  key_eq := by
    intro a b hab hba
    rw [not_decide_lt_iff] at *
    exact String.le_antisymm hab hba
  of_key_eq := by
    intro a b hab
    apply not_decide_lt_iff.2
    exact hab ▸ String.le_refl a.name

theorem finalize_congr {first second : List Property} (h : SameByKey Property.name first second) :
    finalize first = finalize second :=
  isKeyOrder_name.mergeSort_congr (h.map normalize_name)

/-- Under each name the combined list holds what the sources say about this name alone. -/
theorem filter_combine (declared used defaults : List Property) (name : String) :
    (combine declared used defaults).filter (fun p => p.name = name) =
      combine (declared.filter fun p => p.name = name) (used.filter fun p => p.name = name)
        (defaults.filter fun p => p.name = name) := by
  have hpeers : (joinedPeers declared).filter (fun p => p.name = name) =
      joinedPeers (declared.filter fun p => p.name = name) :=
    filter_joinAll (merge_name .peer) [] declared name
  have hnamed : ∀ {l : List Property} {p},
      p ∈ l.filter (fun p => p.name = name) → p.name = name := by
    intro l p hp
    simpa using (List.mem_filter.1 hp).2
  -- a name is declared if it is so among the declarations of this name
  have hstated : ∀ q p : Property, q.name = name → p.name = name →
      joinStated declared q p = joinStated (declared.filter fun p => p.name = name) q p := by
    intro q p _ hp
    by_cases hmem : p.name ∈ declared.map (·.name)
    · rw [joinStated_of_mem hmem, joinStated_of_mem]
      obtain ⟨d, hd, hdp⟩ := List.mem_map.1 hmem
      exact List.mem_map.2 ⟨d, List.mem_filter.2 ⟨hd, by simp [hdp, hp]⟩, hdp⟩
    · rw [joinStated_of_not_mem hmem, joinStated_of_not_mem]
      intro hfiltered
      obtain ⟨d, hd, hdp⟩ := List.mem_map.1 hfiltered
      exact hmem (List.mem_map.2 ⟨d, (List.mem_filter.1 hd).1, hdp⟩)
  rw [combine_eq, combine_eq, filter_joinAll (joinStated_name declared), hpeers, List.filter_append]
  refine joinAll_congr (P := fun p => p.name = name) ?_ hstated ?_ ?_
  · intro q p hq _
    rw [joinStated_name, hq]
  · intro p hp
    rw [← hpeers] at hp
    exact hnamed hp
  · intro p hp
    rw [← List.filter_append] at hp
    exact hnamed hp

/-- The sources may go from name to name in any order: as long as each of them says the same about
each name, in the same order, the finished list is the same. -/
theorem finalize_combine_congr {declared declared' used used' defaults defaults' : List Property}
    (hdeclared : SameByKey Property.name declared' declared)
    (hused : SameByKey Property.name used' used)
    (hdefaults : SameByKey Property.name defaults' defaults) :
    finalize (combine declared' used' defaults') = finalize (combine declared used defaults) := by
  apply finalize_congr
  intro name
  rw [filter_combine, filter_combine, hdeclared name, hused name, hdefaults name]

/-- What is said about `size` is read before or after what is said about `user`. -/
theorem finalize_combine_userAndSize :
    finalize
        (combine [{ name := "size", kind := .oneOf }, { name := "user", kind := .shape }]
          [{ name := "user", binding := some "u" }, { name := "user", binding := some "v" },
            { name := "onPick", kind := .func }]
          [{ name := "onPick", defaultText := some "pick" },
            { name := "size", defaultText := some "1" }]) =
      finalize
        (combine [{ name := "user", kind := .shape }, { name := "size", kind := .oneOf }]
          [{ name := "user", binding := some "u" }, { name := "onPick", kind := .func },
            { name := "user", binding := some "v" }]
          [{ name := "size", defaultText := some "1" },
            { name := "onPick", defaultText := some "pick" }]) := by
  apply finalize_combine_congr
  · intro name
    by_cases hsize : "size" = name
    · subst hsize
      simp [List.filter]
    · simp [List.filter, hsize]
  · intro name
    by_cases huser : "user" = name
    · subst huser
      simp [List.filter]
    · simp [List.filter, huser]
  · intro name
    by_cases hsize : "size" = name
    · subst hsize
      simp [List.filter]
    · simp [List.filter, hsize]

end PropTyper.Property
