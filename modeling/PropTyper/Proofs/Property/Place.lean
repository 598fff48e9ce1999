import PropTyper.Completion
import PropTyper.Proofs.Property.Normalize

/-! # Places in a list of properties

A place is a number in the list, then the number of a member, and so on. `at?` reads what stands at
a place and `modifyAt` changes it. A change shows at its own place and above it, and nowhere else.
-/

namespace PropTyper

namespace Property

def at? : List Nat → List Property → Option Property
  | [], _ => none
  | [i], properties => properties[i]?
  | i :: j :: rest, properties => properties[i]?.bind fun p => at? (j :: rest) p.children

@[simp] theorem at?_nil (properties : List Property) : at? [] properties = none := rfl

@[simp] theorem at?_singleton (i : Nat) (properties : List Property) :
    at? [i] properties = properties[i]? := rfl

theorem at?_cons_of_ne_nil {rest : List Nat} (h : rest ≠ []) (i : Nat)
    (properties : List Property) :
    at? (i :: rest) properties = properties[i]?.bind fun p => at? rest p.children := by
  cases rest with
  | nil => exact (h rfl).elim
  | cons j rest => rfl

theorem at?_append {place below : List Nat} (hplace : place ≠ []) (hbelow : below ≠ [])
    (properties : List Property) :
    at? (place ++ below) properties = (at? place properties).bind fun p => at? below p.children := by
  induction place generalizing properties with
  | nil => exact (hplace rfl).elim
  | cons i rest ih =>
      rw [List.cons_append, at?_cons_of_ne_nil (by simp [hbelow])]
      cases rest with
      | nil => rfl
      | cons j rest =>
          rw [at?_cons_of_ne_nil (by simp)]
          cases properties[i]? with
          | none => rfl
          | some p => exact ih (by simp) p.children

theorem exists_at?_of_mem_preorder {p q : Property} (h : q ∈ p.preorder) {i : Nat}
    {properties : List Property} (hp : properties[i]? = some p) :
    ∃ rest, at? (i :: rest) properties = some q := by
  induction p using inductionOn generalizing q i properties with
  | step p ih =>
    rcases mem_preorder_iff.1 h with rfl | ⟨c, hc, hq⟩
    · exact ⟨[], hp⟩
    · obtain ⟨j, hj⟩ := List.getElem?_of_mem hc
      obtain ⟨rest, hrest⟩ := ih c hc hq hj
      refine ⟨j :: rest, ?_⟩
      rw [at?_cons_of_ne_nil (by simp), hp]
      exact hrest

/-- What holds everywhere in a list holds at each place of it. -/
theorem everywhere_at? {P : Property → Prop} {place : List Nat} {properties : List Property}
    {q : Property} (h : ∀ p ∈ properties, Everywhere P p) (hat : at? place properties = some q) :
    Everywhere P q := by
  induction place generalizing properties with
  | nil => cases hat
  | cons i rest ih =>
      cases rest with
      | nil => exact h q (List.mem_of_getElem? hat)
      | cons j rest =>
          rw [at?_cons_of_ne_nil (by simp)] at hat
          obtain ⟨p, hp, hat⟩ := Option.bind_eq_some_iff.1 hat
          exact ih (everywhere_iff.1 (h p (List.mem_of_getElem? hp))).2 hat

end Property

namespace Completion

open Property

/-! ## Changes -/

theorem modifyAt_cons_of_ne_nil {rest : List Nat} (h : rest ≠ []) (change : Property → Property)
    (i : Nat) (properties : List Property) :
    modifyAt change (i :: rest) properties =
      properties.modify i fun p => { p with children := modifyAt change rest p.children } := by
  cases rest with
  | nil => exact (h rfl).elim
  | cons j rest => rfl

theorem modifyAt_append {place below : List Nat} (hplace : place ≠ []) (hbelow : below ≠ [])
    (change : Property → Property) (properties : List Property) :
    modifyAt change (place ++ below) properties =
      modifyAt (fun p => { p with children := modifyAt change below p.children }) place
        properties := by
  induction place generalizing properties with
  | nil => exact (hplace rfl).elim
  | cons i rest ih =>
      rw [List.cons_append, modifyAt_cons_of_ne_nil (by simp [hbelow])]
      cases rest with
      | nil => rfl
      | cons j rest =>
          rw [modifyAt_cons_of_ne_nil (by simp)]
          simp only [ih (by simp)]

theorem at?_modifyAt_self (change : Property → Property) (place : List Nat)
    (properties : List Property) :
    at? place (modifyAt change place properties) = (at? place properties).map change := by
  induction place generalizing properties with
  | nil => rfl
  | cons i rest ih =>
      cases rest with
      | nil => simp [modifyAt]
      | cons j rest =>
          rw [modifyAt_cons_of_ne_nil (by simp), at?_cons_of_ne_nil (by simp),
            at?_cons_of_ne_nil (by simp), List.getElem?_modify_eq]
          cases properties[i]? with
          | none => rfl
          | some p => exact ih p.children

theorem at?_modifyAt_above {above below : List Nat} (habove : above ≠ []) (hbelow : below ≠ [])
    (change : Property → Property) (properties : List Property) :
    at? above (modifyAt change (above ++ below) properties) =
      (at? above properties).map fun p =>
        { p with children := modifyAt change below p.children } := by
  rw [modifyAt_append habove hbelow, at?_modifyAt_self]

theorem at?_modifyAt_below {place below : List Nat} (hplace : place ≠ []) (hbelow : below ≠ [])
    (change : Property → Property) (properties : List Property) :
    at? (place ++ below) (modifyAt change place properties) =
      (at? place properties).bind fun p => at? below (change p).children := by
  rw [at?_append hplace hbelow, at?_modifyAt_self]
  cases at? place properties with
  | none => rfl
  | some p => rfl

/-- A change does not show at a place that is neither above nor below its own. -/
theorem at?_modifyAt_apart {place other : List Nat} (habove : ¬ other <+: place)
    (hbelow : ¬ place <+: other) (change : Property → Property) (properties : List Property) :
    at? other (modifyAt change place properties) = at? other properties := by
  induction place generalizing other properties with
  | nil => rfl
  | cons i rest ih =>
      cases other with
      | nil => exact (habove (List.nil_prefix)).elim
      | cons j other =>
          by_cases hij : i = j
          · subst hij
            have hother : other ≠ [] := by
              rintro rfl
              exact habove (by simp)
            have hrest : rest ≠ [] := by
              rintro rfl
              exact hbelow (by simp)
            rw [modifyAt_cons_of_ne_nil hrest, at?_cons_of_ne_nil hother,
              at?_cons_of_ne_nil hother, List.getElem?_modify_eq]
            cases properties[i]? with
            | none => rfl
            | some p =>
                refine ih ?_ ?_ p.children
                · intro h
                  exact habove (List.cons_prefix_cons.2 ⟨rfl, h⟩)
                · intro h
                  exact hbelow (List.cons_prefix_cons.2 ⟨rfl, h⟩)
          · have hsame : ∀ f, (properties.modify i f)[j]? = properties[j]? :=
              fun f => List.getElem?_modify_ne f properties hij
            have hmodified : (modifyAt change (i :: rest) properties)[j]? = properties[j]? := by
              cases rest with
              | nil => exact hsame change
              | cons k rest => exact hsame _
            cases other with
            | nil => exact hmodified
            | cons k other =>
                rw [at?_cons_of_ne_nil (by simp), at?_cons_of_ne_nil (by simp), hmodified]

private theorem map_modify_of_eq {α β : Type} {g : α → β} {f : α → α} {i : Nat} {l : List α}
    (h : ∀ a ∈ l[i]?, g (f a) = g a) : (l.modify i f).map g = l.map g := by
  apply List.ext_getElem?
  intro j
  rw [List.getElem?_map, List.getElem?_map]
  by_cases hij : i = j
  · subst hij
    rw [List.getElem?_modify_eq]
    cases hp : l[i]? with
    | none => rfl
    | some a => exact congrArg some (h a hp)
  · rw [List.getElem?_modify_ne f l hij]

theorem modifyAt_eq_self {change : Property → Property} {place : List Nat}
    {properties : List Property} (h : ∀ p ∈ at? place properties, change p = p) :
    modifyAt change place properties = properties := by
  induction place generalizing properties with
  | nil => rfl
  | cons i rest ih =>
      cases rest with
      | nil => simpa [modifyAt] using map_modify_of_eq (g := id) h
      | cons j rest =>
          rw [modifyAt_cons_of_ne_nil (by simp)]
          have hmap : ∀ p ∈ properties[i]?,
              id { p with children := modifyAt change (j :: rest) p.children } = id p := by
            intro p hp
            have hchildren : modifyAt change (j :: rest) p.children = p.children := by
              refine ih ?_
              intro q hq
              exact h q (by rw [at?_cons_of_ne_nil (by simp), hp]; exact hq)
            rw [hchildren, eta]
          simpa using map_modify_of_eq hmap

theorem map_modifyAt {α : Type} {view : Property → α} {change : Property → Property}
    {place : List Nat} {properties : List Property}
    (hmembers : ∀ p children, view { p with children } = view p)
    (h : ∀ p ∈ at? place properties, view (change p) = view p) :
    (modifyAt change place properties).map view = properties.map view := by
  match place with
  | [] => rfl
  | [i] => exact map_modify_of_eq h
  | i :: j :: rest => exact map_modify_of_eq fun p _ => hmembers p _

theorem map_name_modifyAt {change : Property → Property} {place : List Nat}
    {properties : List Property}
    (h : ∀ p ∈ at? place properties, (change p).name = p.name) :
    (modifyAt change place properties).map (·.name) = properties.map (·.name) :=
  map_modifyAt (fun _ _ => rfl) h

theorem exists_mem_modify {α : Type} {P : α → Prop} {change : α → α} {i : Nat} {l : List α}
    (h : ∃ a ∈ l, P a) (hkeep : ∀ a ∈ l[i]?, P a → P (change a)) : ∃ a ∈ l.modify i change, P a := by
  obtain ⟨a, ha, hP⟩ := h
  obtain ⟨j, hj⟩ := List.getElem?_of_mem ha
  by_cases hij : i = j
  · subst hij
    have hchanged : (l.modify i change)[i]? = some (change a) := by
      rw [List.getElem?_modify_eq, hj]
      rfl
    exact ⟨change a, List.mem_of_getElem? hchanged, hkeep a hj hP⟩
  · rw [← List.getElem?_modify_ne change l hij] at hj
    exact ⟨a, List.mem_of_getElem? hj, hP⟩

theorem forall_mem_modify {α : Type} {P : α → Prop} {change : α → α} {i : Nat} {l : List α}
    (h : ∀ a ∈ l, P a) (hchange : ∀ a ∈ l[i]?, P (change a)) : ∀ a ∈ l.modify i change, P a := by
  intro a ha
  obtain ⟨j, hj⟩ := List.getElem?_of_mem ha
  by_cases hij : i = j
  · subst hij
    rw [List.getElem?_modify_eq] at hj
    obtain ⟨b, hb, rfl⟩ := Option.map_eq_some_iff.1 hj
    exact hchange b hb
  · rw [List.getElem?_modify_ne change l hij] at hj
    exact h a (List.mem_of_getElem? hj)

/-! ## Enumerating places -/

theorem placed_eq (place : Option (List Nat)) (p : Property) :
    placed place p = ⟨p, place⟩ :: placedFrom place 0 p.children := by
  cases p
  rfl

theorem map_property_placedFrom (place : Option (List Nat)) (i : Nat)
    (properties : List Property) :
    (placedFrom place i properties).map (·.property) = properties.flatMap preorder := by
  induction properties using forestInduction generalizing place i with
  | nil => rfl
  | cons p rest below ih =>
    rw [placedFrom, List.map_append, placed_eq, List.map_cons, List.flatMap_cons, preorder_eq,
      below, ih]

theorem place_eq_none_of_mem_placedFrom {i : Nat} {properties : List Property} {w : Waiting}
    (h : w ∈ placedFrom none i properties) : w.place = none := by
  induction properties using forestInduction generalizing i with
  | nil => cases h
  | cons p rest below ih =>
    rw [placedFrom, placed_eq, List.mem_append, List.mem_cons] at h
    rcases h with (rfl | h) | h
    · rfl
    · exact below h
    · exact ih h

/-- The enumeration holds every place of a list, written after `base`, and no other. -/
theorem mem_placedFrom_iff {base : List Nat} {i : Nat} {properties : List Property}
    {w : Waiting} :
    w ∈ placedFrom (some base) i properties ↔
      ∃ j rest, w.place = some (base ++ (i + j) :: rest) ∧
        at? (j :: rest) properties = some w.property := by
  induction properties using forestInduction generalizing base i with
  | nil =>
    constructor
    · intro h
      cases h
    · rintro ⟨j, rest, -, h⟩
      cases rest with
      | nil => cases h
      | cons k rest => cases h
  | cons p tail below ih =>
    rw [placedFrom, placed_eq, List.mem_append, List.mem_cons, Option.map_some, below, ih]
    constructor
    · rintro ((rfl | ⟨j, rest, hplace, hat⟩) | ⟨j, rest, hplace, hat⟩)
      · exact ⟨0, [], rfl, rfl⟩
      · refine ⟨0, j :: rest, ?_, hat⟩
        simpa using hplace
      · refine ⟨j + 1, rest, ?_, ?_⟩
        · rw [hplace, Nat.add_assoc, Nat.add_comm 1 j]
        · cases rest with
          | nil => exact hat
          | cons k rest => exact hat
    · rintro ⟨j, rest, hplace, hat⟩
      cases j with
      | zero =>
          left
          cases rest with
          | nil =>
              left
              cases w
              cases hplace
              cases hat
              rfl
          | cons k rest =>
              right
              refine ⟨k, rest, ?_, hat⟩
              simpa using hplace
      | succ j =>
          right
          refine ⟨j, rest, ?_, ?_⟩
          · rw [hplace, Nat.add_assoc, Nat.add_comm 1 j]
          · cases rest with
            | nil => exact hat
            | cons k rest => exact hat

/-- No entry stands at or above the place of an entry before it. -/
def ParentsFirst (waiting : List Waiting) : Prop :=
  waiting.Pairwise fun a b => ∀ x ∈ a.place, ∀ y ∈ b.place, ¬ y <+: x

theorem parentsFirst_placedFrom (base : List Nat) (i : Nat) (properties : List Property) :
    ParentsFirst (placedFrom (some base) i properties) := by
  induction properties using forestInduction generalizing base i with
  | nil => exact List.Pairwise.nil
  | cons p tail below ih =>
    rw [placedFrom, placed_eq, Option.map_some]
    refine List.pairwise_append.2 ⟨List.pairwise_cons.2 ⟨?_, below _ _⟩, ih _ _, ?_⟩
    · intro b hb x hx y hy hprefix
      obtain ⟨j, rest, hplace, -⟩ := mem_placedFrom_iff.1 hb
      cases hx
      cases hplace.symm.trans hy
      have hlen := hprefix.length_le
      simp at hlen
    · intro a ha b hb x hx y hy hprefix
      obtain ⟨j, rest, hplace, -⟩ := mem_placedFrom_iff.1 hb
      cases hplace.symm.trans hy
      have hfirst : ∃ below, x = base ++ i :: below := by
        rcases List.mem_cons.1 ha with rfl | ha
        · cases hx
          exact ⟨[], rfl⟩
        · obtain ⟨k, below, hk, -⟩ := mem_placedFrom_iff.1 ha
          cases hk.symm.trans hx
          exact ⟨(0 + k) :: below, by simp⟩
      obtain ⟨below, rfl⟩ := hfirst
      have hhead := List.cons_prefix_cons.1 ((List.prefix_append_right_inj base).1 hprefix)
      omega

end Completion

end PropTyper
