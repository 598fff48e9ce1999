import Mathlib.Data.List.Basic

/-! # Stable sorting by a key

Properties are sorted by their name and edits by their start, and those of one key keep their order.
So the sorted list is fixed by what stands under each key. How the keys are interleaved before makes
no difference.
-/

namespace PropTyper.StableSort

variable {α κ : Type} [DecidableEq κ] {key : α → κ} {le : α → α → Bool} {first second : List α}

/-- Under each key the same items stand in the same order: each list is a reordering of the other
that moves no two items of one key past each other. -/
def SameByKey (key : α → κ) (first second : List α) : Prop :=
  ∀ k, (first.filter fun a => key a = k) = second.filter fun a => key a = k

theorem SameByKey.symm (h : SameByKey key first second) : SameByKey key second first :=
  fun k => (h k).symm

theorem SameByKey.trans {third : List α} (h : SameByKey key first second)
    (h' : SameByKey key second third) : SameByKey key first third :=
  fun k => (h k).trans (h' k)

theorem SameByKey.map (h : SameByKey key first second) {f : α → α} (hf : ∀ a, key (f a) = key a) :
    SameByKey key (first.map f) (second.map f) := by
  intro k
  have hkey : ((fun a => decide (key a = k)) ∘ f) = fun a => decide (key a = k) := by
    funext a
    simp [hf a]
  rw [List.filter_map, List.filter_map, hkey, h k]

theorem SameByKey.mem_iff (h : SameByKey key first second) {a : α} : a ∈ first ↔ a ∈ second := by
  have hmem : ∀ l : List α, a ∈ l ↔ a ∈ l.filter fun b => key b = key a := by
    intro l
    simp
  rw [hmem first, hmem second, h (key a)]

structure IsKeyOrder (key : α → κ) (le : α → α → Bool) : Prop where
  trans : ∀ a b c, le a b = true → le b c = true → le a c = true
  total : ∀ a b, (le a b || le b a) = true
  key_eq : ∀ {a b}, le a b = true → le b a = true → key a = key b
  of_key_eq : ∀ {a b}, key a = key b → le a b = true

namespace IsKeyOrder

variable (hle : IsKeyOrder key le)

include hle

/-- Sorting moves no two items of one key past each other. -/
theorem sameByKey_mergeSort (items : List α) : SameByKey key (items.mergeSort le) items := by
  intro k
  have hequal : (items.filter fun a => key a = k).Pairwise fun a b => le a b = true := by
    rw [List.pairwise_filter]
    refine List.pairwise_of_forall ?_
    intro a b ha hb
    apply hle.of_key_eq
    rw [of_decide_eq_true ha, of_decide_eq_true hb]
  have hsub : (items.filter fun a => key a = k).Sublist (items.mergeSort le) :=
    List.sublist_mergeSort hle.trans hle.total hequal List.filter_sublist
  have hkept := hsub.filter fun a => decide (key a = k)
  rw [List.filter_filter] at hkept
  simp only [Bool.and_self] at hkept
  exact (hkept.eq_of_length ((List.mergeSort_perm items le).filter _).length_eq.symm).symm

/-- Two sorted lists with the same items under each key are equal. -/
theorem eq_of_sameByKey (hfirst : first.Pairwise fun a b => le a b = true)
    (hsecond : second.Pairwise fun a b => le a b = true) (h : SameByKey key first second) :
    first = second := by
  induction first generalizing second with
  | nil =>
      symm
      apply List.eq_nil_iff_forall_not_mem.2
      intro a ha
      exact List.not_mem_nil (h.mem_iff.2 ha)
  | cons a rest ih =>
      cases second with
      | nil => exact (List.not_mem_nil (h.mem_iff.1 List.mem_cons_self)).elim
      | cons b others =>
          -- neither head comes after the other, so both are the first under one key
          have hkey : key a = key b := by
            rcases List.mem_cons.1 (h.mem_iff.1 List.mem_cons_self) with rfl | ha
            · rfl
            · rcases List.mem_cons.1 (h.mem_iff.2 List.mem_cons_self) with rfl | hb
              · rfl
              · exact hle.key_eq ((List.pairwise_cons.1 hfirst).1 b hb)
                  ((List.pairwise_cons.1 hsecond).1 a ha)
          have hheads := h (key a)
          rw [List.filter_cons_of_pos (by simp), List.filter_cons_of_pos (by simp [hkey])] at hheads
          obtain ⟨rfl, -⟩ := List.cons.inj hheads
          refine congrArg (a :: ·)
            (ih (List.pairwise_cons.1 hfirst).2 (List.pairwise_cons.1 hsecond).2 ?_)
          intro k
          have hk := h k
          by_cases hak : key a = k
          · rw [List.filter_cons_of_pos (by simpa using hak),
              List.filter_cons_of_pos (by simpa using hak)] at hk
            exact (List.cons.inj hk).2
          · rwa [List.filter_cons_of_neg (by simpa using hak),
              List.filter_cons_of_neg (by simpa using hak)] at hk

/-- A sorted list is what any list with its items under each key is sorted into. -/
theorem eq_mergeSort (hfirst : first.Pairwise fun a b => le a b = true)
    (h : SameByKey key first second) : first = second.mergeSort le :=
  hle.eq_of_sameByKey hfirst (List.pairwise_mergeSort hle.trans hle.total second)
    (h.trans (hle.sameByKey_mergeSort second).symm)

theorem mergeSort_congr (h : SameByKey key first second) :
    first.mergeSort le = second.mergeSort le :=
  hle.eq_mergeSort (List.pairwise_mergeSort hle.trans hle.total first)
    ((hle.sameByKey_mergeSort first).trans h)

end IsKeyOrder

end PropTyper.StableSort
