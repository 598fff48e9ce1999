import PropTyper.Edit.Splice

/-! # When edits overlap

Edits are spliced in by their start, those of one start in the order of the list. They overlap if
one of them starts before the end of one that comes before it. Insertions alone never do. A
replacement that heads the list overlaps with the insertions inside it, and as it goes before those
at its start, these count as inside.
-/

namespace PropTyper.Edit

theorem inOrder_perm (edits : List Edit) : (inOrder edits).Perm edits :=
  List.mergeSort_perm _ _

theorem start_le_trans (a b c : Edit) (hab : decide (a.start ≤ b.start) = true)
    (hbc : decide (b.start ≤ c.start) = true) : decide (a.start ≤ c.start) = true :=
  decide_eq_true (Int.le_trans (of_decide_eq_true hab) (of_decide_eq_true hbc))

theorem start_le_total (a b : Edit) :
    (decide (a.start ≤ b.start) || decide (b.start ≤ a.start)) = true := by
  simpa using Int.le_total a.start b.start

theorem pairwise_start_inOrder (edits : List Edit) :
    (inOrder edits).Pairwise fun a b => a.start ≤ b.start :=
  (List.pairwise_mergeSort start_le_trans start_le_total edits).imp of_decide_eq_true

theorem sublist_inOrder {a b : Edit} {edits : List Edit} (h : [a, b].Sublist edits)
    (hle : a.start ≤ b.start) : [a, b].Sublist (inOrder edits) :=
  List.pair_sublist_mergeSort start_le_trans start_le_total (decide_eq_true hle) h

/-- No edit starts before the end of one before it. -/
def Separate (edits : List Edit) : Prop :=
  edits.Pairwise fun a b => a.stop ≤ b.start

theorem spliceFrom_cons_eq_error_iff {data : List UInt8} {cursor : Int} {e : Edit}
    (h : cursor ≤ e.start) (rest : List Edit) :
    (∃ start, spliceFrom data cursor (e :: rest) = .error start) ↔
      ∃ start, spliceFrom data e.stop rest = .error start := by
  rw [spliceFrom, if_neg (Int.not_lt.2 h)]
  cases spliceFrom data e.stop rest with
  | ok later => simp
  | error start => simp

theorem spliceFrom_eq_error_iff {data : List UInt8} {cursor : Int} {edits : List Edit}
    (hsorted : edits.Pairwise fun a b => a.start ≤ b.start) :
    (∃ start, spliceFrom data cursor edits = .error start) ↔
      ¬ ((∀ e ∈ edits, cursor ≤ e.start) ∧ Separate edits) := by
  induction edits generalizing cursor with
  | nil => simp [spliceFrom, Separate]
  | cons e rest ih =>
      obtain ⟨hfirst, hrest⟩ := List.pairwise_cons.1 hsorted
      by_cases hcursor : cursor ≤ e.start
      · have hall : ∀ x ∈ e :: rest, cursor ≤ x.start := by
          intro x hx
          rcases List.mem_cons.1 hx with rfl | hx
          · exact hcursor
          · exact Int.le_trans hcursor (hfirst x hx)
        rw [spliceFrom_cons_eq_error_iff hcursor, ih hrest, Separate, Separate, List.pairwise_cons]
        exact not_congr ⟨fun h => ⟨hall, h⟩, fun h => h.2⟩
      · rw [spliceFrom, if_pos (Int.not_le.1 hcursor)]
        exact ⟨fun _ h => hcursor (h.1 e List.mem_cons_self), fun _ => ⟨e.start, rfl⟩⟩

/-- Edits overlap if and only if they are not separate in their order. -/
theorem overlap_iff_not_separate {data : List UInt8} {edits : List Edit}
    (h : ∀ e ∈ edits, 0 ≤ e.start) :
    (∃ start, apply data edits = .error (.overlap start)) ↔ ¬ Separate (inOrder edits) := by
  have happly : (∃ start, apply data edits = .error (.overlap start)) ↔
      ∃ start, spliceFrom data 0 (inOrder edits) = .error start := by
    unfold apply splice
    cases spliceFrom data 0 (inOrder edits) with
    | ok bytes =>
        dsimp only
        cases Text.Utf8.decode bytes with
        | ok text => simp
        | error fault => simp
    | error start => simp
  rw [happly, spliceFrom_eq_error_iff (pairwise_start_inOrder edits)]
  have hall : ∀ e ∈ inOrder edits, 0 ≤ e.start :=
    fun e he => h e ((inOrder_perm edits).mem_iff.1 he)
  exact not_congr ⟨fun h => h.2, fun h => ⟨hall, h⟩⟩

/-- Takes nothing out. -/
def IsInsertion (e : Edit) : Prop :=
  e.stop = e.start

theorem separate_of_isInsertion {edits : List Edit} (h : ∀ e ∈ edits, e.IsInsertion) :
    Separate (inOrder edits) := by
  refine (pairwise_start_inOrder edits).imp_of_mem ?_
  intro a b ha _ hab
  have hstop : a.stop = a.start := h a ((inOrder_perm edits).mem_iff.1 ha)
  omega

theorem separate_cons_iff {e : Edit} {rest : List Edit} (h : ∀ x ∈ rest, x.IsInsertion) :
    Separate (inOrder (e :: rest)) ↔
      ∀ x ∈ rest, ¬ (e.start ≤ x.start ∧ x.start < e.stop) := by
  constructor
  · rintro hseparate x hx ⟨hle, hlt⟩
    have hpair := sublist_inOrder ((List.singleton_sublist.2 hx).cons_cons e) hle
    have := List.pairwise_iff_forall_sublist.1 hseparate hpair
    omega
  · intro houtside
    refine List.pairwise_iff_forall_sublist.2 ?_
    intro a b hpair
    have hab : a.start ≤ b.start :=
      List.pairwise_iff_forall_sublist.1 (pairwise_start_inOrder _) hpair
    have hmem : ∀ {x}, x ∈ [a, b] → x = e ∨ x ∈ rest := fun hx =>
      List.mem_cons.1 ((inOrder_perm _).mem_iff.1 (hpair.subset hx))
    rcases hmem (by simp : a ∈ [a, b]) with rfl | ha
    · rcases hmem (by simp : b ∈ [a, b]) with rfl | hb
      · -- the replacement stands in the list twice, so it is an insertion
        have hcount := hpair.count_le b
        rw [(inOrder_perm (b :: rest)).count_eq] at hcount
        have hb : b ∈ rest := by simpa using hcount
        have hstop : b.stop = b.start := h b hb
        omega
      · have := houtside b hb
        omega
    · have hstop : a.stop = a.start := h a ha
      omega

end PropTyper.Edit
