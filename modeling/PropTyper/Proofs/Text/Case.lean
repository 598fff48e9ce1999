import PropTyper.Text.Case

/-! # Texts in lower case

Lower case leaves a text alone that is in lower case already. No character that the tables lead to
is led on by them: the runs that are shifted and the runs that they are shifted to lie apart. In ASCII
only the capital letters are led anywhere.
-/

namespace PropTyper.Text

theorem Run.contains_iff {run : Run} {code : Nat} :
    run.contains code = true ↔
      (run.first ≤ code ∧ code ≤ run.last) ∧ (code - run.first) % run.stride = 0 := by
  simp [contains]

/-- The runs have no code point in common, as they do not meet or take turns. -/
def Run.apart (a b : Run) : Bool :=
  (a.last.blt b.first || b.last.blt a.first) ||
    ((a.stride.beq 2 || a.first.beq a.last) && b.stride.beq 2 && ((a.first + b.first) % 2).beq 1)

theorem Run.contains_of_apart {a b : Run} (h : a.apart b = true) {code : Nat}
    (ha : a.contains code = true) : b.contains code = false := by
  cases hb : b.contains code with
  | false => rfl
  | true =>
      rw [contains_iff] at ha hb
      simp only [apart, Bool.or_eq_true, Bool.and_eq_true, Nat.blt_eq, Nat.beq_eq] at h
      rcases h with hmeet | ⟨⟨hstride | hsingle, htwo⟩, hturn⟩
      · omega
      · rw [hstride] at ha
        rw [htwo] at hb
        omega
      · rw [htwo] at hb
        omega

def Shift.image (shift : Shift) : Run :=
  ⟨((shift.run.first : Int) + shift.offset).toNat, ((shift.run.last : Int) + shift.offset).toNat,
    shift.run.stride⟩

theorem Shift.contains_image {shift : Shift} (hfirst : 0 ≤ (shift.run.first : Int) + shift.offset)
    {code : Nat} (h : shift.run.contains code = true) :
    shift.image.contains ((code : Int) + shift.offset).toNat = true := by
  rw [Run.contains_iff] at h ⊢
  simp only [image]
  have hdistance : ((code : Int) + shift.offset).toNat - ((shift.run.first : Int) + shift.offset).toNat =
      code - shift.run.first := by
    omega
  rw [hdistance]
  exact ⟨by omega, h.2⟩

def inPlanes (run : Run) : Bool :=
  run.last.blt 0xd800 || Nat.blt 0xdfff run.first && run.last.blt 0x110000

/-- Nothing in the table is shifted twice. -/
theorem apart_toLower :
    (CaseTable.toLower.all fun shift =>
      (0 ≤ (shift.run.first : Int) + shift.offset && inPlanes shift.image &&
        shift.image.apart ⟨0x130, 0x130, 1⟩ && shift.image.apart ⟨0x3a3, 0x3a3, 1⟩) &&
      CaseTable.toLower.all fun other => shift.image.apart other.run) = true := by
  decide +kernel

/-- Lower case leaves the character alone wherever it stands. -/
def IsSettled (c : Char) : Prop :=
  c.toNat ≠ 0x3a3 ∧ mapped CaseTable.toLower CaseTable.toLowerSeveral c = [c]

instance (c : Char) : Decidable (IsSettled c) :=
  inferInstanceAs (Decidable (_ ∧ _))

theorem lookup_toLowerSeveral {code : Nat} {codes : List Nat}
    (h : CaseTable.toLowerSeveral.lookup code = some codes) : code = 0x130 ∧ codes = [0x69, 0x307] := by
  rw [CaseTable.toLowerSeveral, List.lookup_cons] at h
  split at h
  · next heq => exact ⟨by simpa using heq, by simpa using h.symm⟩
  · simp at h

theorem isSettled_of_shift {shift : Shift} (hshift : shift ∈ CaseTable.toLower) {code : Nat}
    (hcode : shift.run.contains code = true) :
    IsSettled (Char.ofNat ((code : Int) + shift.offset).toNat) := by
  have hall := List.all_eq_true.1 apart_toLower shift hshift
  simp only [Bool.and_eq_true, decide_eq_true_eq, List.all_eq_true] at hall
  obtain ⟨⟨⟨⟨hfirst, hplanes⟩, hseveral⟩, hsigma⟩, hothers⟩ := hall
  have himage := Shift.contains_image hfirst hcode
  generalize ((code : Int) + shift.offset).toNat = target at himage
  have hvalid : target.isValidChar := by
    simp only [inPlanes, Bool.or_eq_true, Bool.and_eq_true, Nat.blt_eq] at hplanes
    rw [Run.contains_iff] at himage
    rw [Nat.isValidChar]
    omega
  have htarget : (Char.ofNat target).toNat = target := by
    rw [Char.ofNat, dif_pos hvalid]
    rfl
  have hfixed : ∀ other ∈ CaseTable.toLower, other.run.contains target = false :=
    fun other hother => Run.contains_of_apart (hothers other hother) himage
  have hshifted : shifted? CaseTable.toLower target = none := by
    rw [shifted?, List.find?_eq_none.2 (by simpa using hfixed)]
    rfl
  have hlookup : CaseTable.toLowerSeveral.lookup target = none := by
    cases hfound : CaseTable.toLowerSeveral.lookup target with
    | none => rfl
    | some codes =>
        have hmeet := Run.contains_of_apart hseveral himage
        rw [(lookup_toLowerSeveral hfound).1] at hmeet
        exact absurd hmeet (by decide)
  refine ⟨fun heq => ?_, ?_⟩
  · have hmeet := Run.contains_of_apart hsigma himage
    rw [← htarget, heq] at hmeet
    exact absurd hmeet (by decide)
  · rw [mapped, htarget, hlookup]
    dsimp only
    rw [hshifted]

theorem isSettled_of_mem_mapped {c d : Char} (hsigma : c.toNat ≠ 0x3a3)
    (h : d ∈ mapped CaseTable.toLower CaseTable.toLowerSeveral c) : IsSettled d := by
  have hmapped := h
  unfold mapped at h
  split at h
  · next codes hcodes =>
    obtain ⟨-, rfl⟩ := lookup_toLowerSeveral hcodes
    have hboth : IsSettled (Char.ofNat 0x69) ∧ IsSettled (Char.ofNat 0x307) := by decide +kernel
    rcases List.mem_cons.1 h with rfl | h
    · exact hboth.1
    · rw [List.mem_singleton.1 h]
      exact hboth.2
  · next hseveral =>
    split at h
    · next code hcode =>
      obtain ⟨shift, hfound, rfl⟩ := Option.map_eq_some_iff.1 hcode
      rw [List.mem_singleton.1 h]
      have hcontains : shift.run.contains c.toNat = true := by simpa using List.find?_some hfound
      exact isSettled_of_shift (List.mem_of_find?_eq_some hfound) hcontains
    · next hnone =>
      rw [List.mem_singleton.1 h]
      exact ⟨hsigma, by rw [mapped, hseveral]; dsimp only; rw [hnone]⟩

/-- All characters of a text in lower case are settled. -/
theorem isSettled_of_mem_lowerFrom {before text : List Char} {d : Char}
    (h : d ∈ lowerFrom before text) : IsSettled d := by
  induction text generalizing before with
  | nil => cases h
  | cons c rest ih =>
      rw [lowerFrom, List.mem_append] at h
      rcases h with h | h
      · split at h
        · have hforms : IsSettled (Char.ofNat 0x3c2) ∧ IsSettled (Char.ofNat 0x3c3) := by decide +kernel
          rw [List.mem_singleton.1 h]
          split
          · exact hforms.1
          · exact hforms.2
        · next hsigma => exact isSettled_of_mem_mapped hsigma h
      · exact ih h

theorem lowerFrom_of_isSettled {before text : List Char} (h : ∀ c ∈ text, IsSettled c) :
    lowerFrom before text = text := by
  induction text generalizing before with
  | nil => rfl
  | cons c rest ih =>
      rw [List.forall_mem_cons] at h
      rw [lowerFrom, if_neg h.1.1, h.1.2, ih h.2, List.singleton_append]

theorem lowerFrom_cons_ne_nil (before : List Char) (c : Char) (rest : List Char) :
    lowerFrom before (c :: rest) ≠ [] := by
  have hmapped : mapped CaseTable.toLower CaseTable.toLowerSeveral c ≠ [] := by
    unfold mapped
    split
    · next codes hcodes => simp [(lookup_toLowerSeveral hcodes).2]
    · split <;> simp
  rw [lowerFrom]
  split
  · simp
  · simp [hmapped]

/-- No capital letter of ASCII is settled. -/
theorem not_capital_of_isSettled {c : Char} (h : IsSettled c) : ('A' ≤ c && c ≤ 'Z') = false := by
  have hletters : ∀ k : Fin 26, ¬ IsSettled (Char.ofNat (0x41 + k.val)) := by decide +kernel
  cases hcapital : 'A' ≤ c && c ≤ 'Z' with
  | false => rfl
  | true =>
      simp only [Bool.and_eq_true, decide_eq_true_eq] at hcapital
      have hlow : 0x41 ≤ c.toNat := hcapital.1
      have hhigh : c.toNat ≤ 0x5a := hcapital.2
      have hletter := hletters ⟨c.toNat - 0x41, by omega⟩
      rw [Nat.add_sub_cancel' hlow, Char.ofNat_toNat] at hletter
      exact (hletter h).elim

/-! ## ASCII -/

theorem toLower_eq_cons :
    ∃ rest, CaseTable.toLower = ⟨⟨0x41, 0x5a, 1⟩, 32⟩ :: rest ∧
      (rest.all fun shift => Nat.blt 0x7f shift.run.first) = true :=
  ⟨_, rfl, by decide +kernel⟩

theorem shifted?_of_ascii {code : Nat} (h : code < 0x80) :
    shifted? CaseTable.toLower code = if 0x41 ≤ code ∧ code ≤ 0x5a then some (code + 32) else none := by
  obtain ⟨rest, htable, hrest⟩ := toLower_eq_cons
  have hlater : rest.find? (fun shift => shift.run.contains code) = none := by
    apply List.find?_eq_none.2
    intro shift hshift hcontains
    have hfirst := List.all_eq_true.1 hrest shift hshift
    rw [Nat.blt_eq] at hfirst
    have hrange := (Run.contains_iff.1 hcontains).1.1
    omega
  have hletter : Run.contains ⟨0x41, 0x5a, 1⟩ code = decide (0x41 ≤ code ∧ code ≤ 0x5a) := by
    simp [Run.contains, Nat.mod_one]
  rw [shifted?, htable, List.find?_cons, hletter, hlater]
  by_cases hcode : 0x41 ≤ code ∧ code ≤ 0x5a
  · simp [hcode]
    omega
  · simp [hcode]

theorem lowerFrom_of_ascii {before text : List Char} (h : ∀ c ∈ text, c.toNat < 0x80) :
    lowerFrom before text = text.map Char.toLower := by
  have hforms : ∀ code : Fin 0x80,
      (if 0x41 ≤ code.val ∧ code.val ≤ 0x5a then Char.ofNat (code.val + 32) else Char.ofNat code.val) =
        (Char.ofNat code.val).toLower := by
    decide +kernel
  induction text generalizing before with
  | nil => rfl
  | cons c rest ih =>
      have hc := h c List.mem_cons_self
      have hsigma : c.toNat ≠ 0x3a3 := by omega
      have hseveral : CaseTable.toLowerSeveral.lookup c.toNat = none := by
        cases hfound : CaseTable.toLowerSeveral.lookup c.toNat with
        | none => rfl
        | some codes =>
            have hcode := (lookup_toLowerSeveral hfound).1
            omega
      have hmapped : mapped CaseTable.toLower CaseTable.toLowerSeveral c = [c.toLower] := by
        have hform := hforms ⟨c.toNat, hc⟩
        rw [Char.ofNat_toNat] at hform
        rw [mapped, hseveral]
        dsimp only
        rw [shifted?_of_ascii hc, ← hform]
        by_cases hletter : 0x41 ≤ c.toNat ∧ c.toNat ≤ 0x5a
        · rw [if_pos hletter, if_pos hletter]
        · rw [if_neg hletter, if_neg hletter]
      rw [lowerFrom, if_neg hsigma, hmapped, ih fun d hd => h d (List.mem_cons_of_mem _ hd)]
      rfl

end PropTyper.Text
