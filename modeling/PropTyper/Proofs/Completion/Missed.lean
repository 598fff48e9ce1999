import Mathlib.Data.List.Permutation
import PropTyper.Proofs.Completion.Budget

/-! # Calls that a completion misses

An open property that is left in a completed list has had its name looked up, and once only. If that
lookup was made for the property itself, the block does not call the name: a call would have made it
a function. A call is missed only where the lookup went to another property of the same name and
block.
-/

namespace PropTyper

theorem Node.calls_iff {block : Node} {binding : String} :
    block.calls binding = true ↔
      ∃ n ∈ block.preorder, n.kind = .callExpression ∧
        ∃ callee, n.tree.childOf? .function .identifier = some callee ∧ callee.text = binding := by
  unfold calls
  rw [List.any_eq_true]
  constructor
  · rintro ⟨n, hn, hcall⟩
    obtain ⟨hmem, hkind⟩ := mem_select_iff.1 hn
    refine ⟨n, hmem, of_decide_eq_true hkind, ?_⟩
    unfold isCallOf at hcall
    split at hcall
    · next callee hcallee => exact ⟨callee, hcallee, of_decide_eq_true hcall⟩
    · cases hcall
  · rintro ⟨n, hmem, hkind, callee, hcallee, htext⟩
    refine ⟨n, mem_select_iff.2 ⟨hmem, decide_eq_true hkind⟩, ?_⟩
    simp [isCallOf, hcallee, htext]

namespace Completion

open Property

def completionLookups (component : Node) (properties : List Property) (except : List String) :
    List Waiting :=
  lookups component (budget component properties)
    ⟨properties, initialWaiting properties except, []⟩

/-- The lookup of a name in a block, and the only one that is made. -/
def OnlyLookup (component : Node) (properties : List Property) (except : List String) (key : Key)
    (w : Waiting) : Prop :=
  w ∈ completionLookups component properties except ∧ keyOf component w.property = key ∧
    ∀ v ∈ completionLookups component properties except, keyOf component v.property = key → v = w

variable {component : Node} {properties : List Property} {except : List String}

theorem invariant_final (component : Node) (properties : List Property) (except : List String) :
    Invariant component (properties.map (·.name)) except (final component properties except) :=
  (invariant_initial component properties except).run _

theorem final_resolved (component : Node) (properties : List Property) (except : List String) :
    (final component properties except).resolved =
      (completionLookups component properties except).map fun w => keyOf component w.property :=
  run_resolved component _ _

theorem exists_onlyLookup {key : Key}
    (h : key ∈ (final component properties except).resolved) :
    ∃ w, OnlyLookup component properties except key w := by
  have honce : (final component properties except).resolved.Nodup :=
    nodup_run_resolved List.nodup_nil _
  rw [final_resolved] at h honce
  obtain ⟨w, hw, rfl⟩ := List.mem_map.1 h
  exact ⟨w, hw, rfl, fun v hv hkey => List.inj_on_of_nodup_map honce hv hw hkey⟩

/-- What is open in a completed list was open at a place of it before the last step, which only
normalizes. -/
theorem exists_place_of_isOpen {top r : Property}
    (htop : top ∈ (complete component properties except).properties) (hfree : top.name ∉ except)
    (hr : r ∈ top.preorder) (hopen : isOpen r = true) :
    ∃ place p, at? place (final component properties except).properties = some p ∧
      r = p.normalize ∧ Free (properties.map (·.name)) except place := by
  unfold complete at htop
  split at htop
  · -- without anything open there is nothing to show
    next hempty =>
    obtain ⟨i, hi⟩ := List.getElem?_of_mem htop
    obtain ⟨rest, hat⟩ := exists_at?_of_mem_preorder hr hi
    have hplace : Free (properties.map (·.name)) except (i :: rest) :=
      ⟨i, rfl, top.name, by simp [hi], hfree⟩
    rcases (invariant_initial component properties except).covered _ r hat hplace hopen with
      hres | ⟨w, hw, -⟩
    · cases hres
    · rw [List.isEmpty_iff.1 hempty] at hw
      cases hw
  · obtain ⟨p, hp, rfl⟩ := List.mem_map.1 htop
    obtain ⟨q, hq, rfl⟩ := exists_of_mem_preorder_normalize hr
    obtain ⟨i, hi⟩ := List.getElem?_of_mem hp
    obtain ⟨rest, hat⟩ := exists_at?_of_mem_preorder hq hi
    refine ⟨i :: rest, q, hat, rfl, i, rfl, p.name, ?_, by simpa using hfree⟩
    rw [← (invariant_final component properties except).names_eq, List.getElem?_map]
    exact Option.mem_map_of_mem _ hi

theorem isOpen_normalize (p : Property) : isOpen p.normalize = isOpen p := by
  simp [isOpen]

/-- An open property of a completed list has had its name looked up, once. Unless the lookup was
made for another property, nothing in the block calls the name. -/
theorem not_called_or_lookup_elsewhere {t : Tree}
    (hcomponent : component ∈ (⟨t, []⟩ : Node).preorder) {top r : Property}
    (htop : top ∈ (complete component properties except).properties) (hfree : top.name ∉ except)
    (hr : r ∈ top.preorder) (hopen : isOpen r = true) :
    ∃ place p w, at? place (final component properties except).properties = some p ∧
      r = p.normalize ∧ OnlyLookup component properties except (keyOf component r) w ∧
      (w.place = some place →
        ∀ n ∈ (lookupBlock component r).preorder, n.kind = .callExpression →
          ∀ callee, n.tree.childOf? .function .identifier = some callee →
            some callee.text ≠ r.binding) := by
  obtain ⟨place, p, hat, rfl, hplace⟩ := exists_place_of_isOpen htop hfree hr hopen
  have hkey : keyOf component p.normalize = keyOf component p :=
    keyOf_congr component (normalize_binding p) (normalize_scope p)
  have hopen : isOpen p = true := by rwa [isOpen_normalize] at hopen
  have hresolved : keyOf component p ∈ (final component properties except).resolved := by
    rcases (invariant_final component properties except).covered place p hat hplace hopen with
      hres | ⟨w, hw, -⟩
    · exact hres
    · rw [final_waiting_eq_nil rfl hcomponent properties except] at hw
      cases hw
  obtain ⟨w, hw⟩ := exists_onlyLookup (hkey ▸ hresolved)
  refine ⟨place, p, w, hat, rfl, hw, ?_⟩
  intro hplace n hn hkind callee hcallee htext
  have hcalled : isCalled component w.property = true := by
    rw [isCalled_congr hw.2.1]
    exact Node.calls_iff.2 ⟨n, hn, hkind, callee, hcallee, by rw [← htext]; rfl⟩
  obtain ⟨members, -, hleft⟩ :=
    (invariant_initial component properties except).at?_run_of_mem_lookups hw.1 hplace
  have hp : p = { outcome component w.property with children := members } :=
    Option.some.inj (hat.symm.trans hleft)
  have hfunc : p.kind = .func := by
    rw [hp, outcome_of_called hcalled]
  rcases kind_of_isOpen hopen with hkind | hkind <;> simp [hfunc] at hkind

/-- The expression `x()`. -/
def callOfX : Tree :=
  { kind := .callExpression, span := ⟨0, 3⟩, text := "x()"
    children := [{ kind := .identifier, span := ⟨0, 1⟩, text := "x", fields := [.function] }] }

/-- Two properties that are held by one name. -/
def sharingX : List Property :=
  [{ name := "a", binding := some "x" }, { name := "b", binding := some "x" }]

theorem complete_sharingX :
    (complete ⟨callOfX, []⟩ sharingX []).properties =
      [{ name := "a", binding := some "x", kind := .func }, { name := "b", binding := some "x" }] := by
  cbv

/-- The call makes a function of the first property, and the second one misses it: the lookup was
made elsewhere. -/
theorem lookup_elsewhere_of_sharingX :
    ∃ place p w, at? place (final ⟨callOfX, []⟩ sharingX []).properties = some p ∧
      ({ name := "b", binding := some "x" } : Property) = p.normalize ∧
      OnlyLookup ⟨callOfX, []⟩ sharingX [] ⟨"x", none⟩ w ∧ w.place ≠ some place := by
  obtain ⟨place, p, w, hat, hp, honly, hcall⟩ :=
    not_called_or_lookup_elsewhere (t := callOfX) (Node.mem_preorder_self _)
      (by rw [complete_sharingX]; exact List.mem_cons_of_mem _ List.mem_cons_self) List.not_mem_nil
      (mem_preorder_self { name := "b", binding := some "x" }) rfl
  exact ⟨place, p, w, hat, hp, honly, fun hplace =>
    hcall hplace _ (Node.mem_preorder_self _) rfl _ rfl rfl⟩

/-- A completed list can hold an open property whose name is called in its block. -/
theorem exists_isOpen_and_called :
    ∃ p ∈ (complete ⟨callOfX, []⟩ sharingX []).properties,
      isOpen p = true ∧ (lookupBlock ⟨callOfX, []⟩ p).calls (p.binding.getD "") = true := by
  refine ⟨{ name := "b", binding := some "x" }, ?_, rfl, by cbv⟩
  rw [complete_sharingX]
  exact List.mem_cons_of_mem _ List.mem_cons_self

end Completion

end PropTyper
