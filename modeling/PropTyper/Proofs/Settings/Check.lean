import PropTyper.Proofs.Settings.Class
import PropTyper.Settings.Check
import PropTyper.Text.Blank

/-! # Checking field by field

A value changes its own field alone, to the form that the check gives it. All values that are refused
are reported together, in the order of the fields, and the others together are one settings record.
-/

namespace PropTyper

/-! ## Texts without digits -/

theorem Text.dropEnds_subset (p : Char → Bool) (text : List Char) :
    ((text.dropWhile p).reverse.dropWhile p).reverse ⊆ text := by
  intro c hc
  have hdropped := (List.dropWhile_sublist p).subset (List.mem_reverse.1 hc)
  exact (List.dropWhile_sublist p).subset (List.mem_reverse.1 hdropped)

namespace Numeral

def HasNoDigit (text : List Char) : Prop :=
  ∀ c ∈ text, c.isDigit = false

theorem HasNoDigit.of_subset {part text : List Char} (h : HasNoDigit text) (hpart : part ⊆ text) :
    HasNoDigit part :=
  fun c hc => h c (hpart hc)

theorem isLeadingDigit_eq_false {c : Char} (h : c.isDigit = false) : isLeadingDigit c = false := by
  rw [← Bool.not_eq_true] at h ⊢
  intro hlead
  rw [isLeadingDigit, Bool.and_eq_true, decide_eq_true_iff, decide_eq_true_iff] at hlead
  apply h
  rw [Char.isDigit, Bool.and_eq_true, decide_eq_true_iff, decide_eq_true_iff]
  exact ⟨UInt32.le_trans (by decide) hlead.1, hlead.2⟩

section

variable {text : List Char} (h : HasNoDigit text)
include h

theorem plainDigits?_eq_none : plainDigits? text = none := by
  unfold plainDigits?
  split
  · cases h '0' List.mem_cons_self
  · next c rest _ =>
    rw [isLeadingDigit_eq_false (h c List.mem_cons_self)]
    rfl
  · rfl

theorem plain?_eq_none : plain? text = none := by
  unfold plain?
  split
  · next digits =>
    rw [plainDigits?_eq_none (h.of_subset (List.subset_cons_self '-' digits))]
    rfl
  · rw [plainDigits?_eq_none h]
    rfl

theorem withoutZeros?_eq_none : withoutZeros? text = none := by
  cases text with
  | nil => rfl
  | cons c rest =>
      have hc := h c List.mem_cons_self
      have hzero : c ≠ '0' := by
        rintro rfl
        cases hc
      rw [withoutZeros?, if_neg hzero, isLeadingDigit_eq_false hc]
      rfl

theorem tidied?_eq_none : tidied? text = none := by
  have htrim : HasNoDigit (trim text) := h.of_subset (Text.dropEnds_subset isMargin text)
  unfold tidied?
  dsimp only
  split
  · next unsigned heq =>
    rw [heq] at htrim
    rw [withoutZeros?_eq_none (htrim.of_subset (List.subset_cons_self _ unsigned))]
    rfl
  · next unsigned heq =>
    rw [heq] at htrim
    rw [withoutZeros?_eq_none (htrim.of_subset (List.subset_cons_self _ unsigned))]
    rfl
  · rw [withoutZeros?_eq_none htrim]
    rfl

theorem isOverlong_eq_false : isOverlong text = false := by
  have hunsigned : HasNoDigit (unsigned text) := by
    unfold unsigned
    split
    · exact h.of_subset (List.subset_cons_self '-' _)
    · exact h
  unfold isOverlong
  cases hcases : unsigned text with
  | nil => rfl
  | cons c rest =>
      rw [hcases] at hunsigned
      dsimp only
      rw [isLeadingDigit_eq_false (hunsigned c List.mem_cons_self), Bool.false_and]

theorem read_of_hasNoDigit : read text = .error .malformed := by
  rw [read, isOverlong_eq_false h, plain?_eq_none h, tidied?_eq_none h]
  rfl

end

end Numeral

namespace Settings

/-! ## One field -/

/-- A value in the form in which a field has it, or why the field refuses it. -/
def checked (setting : Setting) (v : Json) : Checked Json :=
  match setting with
  | .name => (Checked.optionalText v).map fun name => (name.map fun name => Json.str name).getD .null
  | .label => (Checked.text v).map fun label => .str label
  | .codeStyle =>
    (checkCodeStyle v).map fun style =>
      (style.map fun style => Json.str (codeStyleWord style)).getD .null
  | .autoImport => (checkAutoImport v).map fun enabled => .str (autoImportWord enabled)
  | .quote => (checkQuote v).map fun quote => .str (quoteWord quote)
  | .tabWidth => (Checked.integer v).map .int
  | .withDefaults => (Checked.truth v).map .bool

/-- A value that is put in changes its own field, to the form that the check gives it. -/
structure Puts (settings : Settings) (setting : Setting) (v : Json) (after : Settings) : Prop where
  own : checked setting v = .ok (after.value setting)
  others : ∀ other, other ≠ setting → after.value other = settings.value other

theorem put_cases {α : Type} {settings : Settings} {setting : Setting} {v : Json} {r : Checked α}
    {put : α → Settings} {form : α → Json} (hset : settings.set setting v = r.map put)
    (hchecked : checked setting v = r.map form) (hown : ∀ a, (put a).value setting = form a)
    (hothers : ∀ a other, other ≠ setting → (put a).value other = settings.value other) :
    (∃ fault, checked setting v = .error fault ∧ settings.set setting v = .error fault) ∨
      ∃ after, settings.set setting v = .ok after ∧ Puts settings setting v after := by
  cases r with
  | error fault => exact .inl ⟨fault, hchecked, hset⟩
  | ok a =>
      refine .inr ⟨put a, hset, ?_, hothers a⟩
      rw [hchecked, hown]
      rfl

theorem set_cases (settings : Settings) (setting : Setting) (v : Json) :
    (∃ fault, checked setting v = .error fault ∧ settings.set setting v = .error fault) ∨
      ∃ after, settings.set setting v = .ok after ∧ Puts settings setting v after := by
  cases setting
  all_goals
    apply put_cases rfl rfl (fun _ => rfl)
    intro a other hne
    cases other <;> first | rfl | exact (hne rfl).elim

theorem eq_of_value {a b : Settings} (h : ∀ setting, a.value setting = b.value setting) : a = b := by
  have hname : a.name = b.name := by
    have hvalue := h .name
    unfold value at hvalue
    cases ha : a.name <;> cases hb : b.name <;> simp_all
  have hlabel : a.label = b.label := Json.str.inj (h .label)
  have hstyle : a.codeStyle = b.codeStyle := by
    have hvalue := h .codeStyle
    unfold value at hvalue
    rcases ha : a.codeStyle with _ | _ | _ <;> rcases hb : b.codeStyle with _ | _ | _ <;>
      simp_all [codeStyleWord, LooseText.ofString]
  have himport : a.autoImport = b.autoImport := by
    have hvalue := Json.str.inj (h .autoImport)
    revert hvalue
    cases a.autoImport <;> cases b.autoImport <;> decide
  have hquote : a.quote = b.quote := by
    have hvalue := Json.str.inj (h .quote)
    revert hvalue
    cases a.quote <;> cases b.quote <;> decide
  have hwidth : a.tabWidth = b.tabWidth := Json.int.inj (h .tabWidth)
  have hdefaults : a.withDefaults = b.withDefaults := Json.bool.inj (h .withDefaults)
  cases a
  cases b
  simp_all

theorem checked_value (settings : Settings) (setting : Setting) :
    checked setting (settings.value setting) = .ok (settings.value setting) := by
  cases setting with
  | name =>
      unfold value
      cases settings.name <;> rfl
  | codeStyle =>
      unfold value
      rcases settings.codeStyle with _ | _ | _ <;> rfl
  | autoImport =>
      unfold value
      cases settings.autoImport <;> rfl
  | quote =>
      unfold value
      cases settings.quote <;> rfl
  | label | tabWidth | withDefaults => rfl

theorem checked_tabWidth {text : String} (h : Numeral.HasNoDigit text.toList) :
    checked .tabWidth (.str text) = .error .notNumeral := by
  show (Checked.wholeText Checked.numeral text).map Json.int = _
  rw [Checked.wholeText, LooseText.toString?_ofString]
  dsimp only
  rw [Checked.numeral, Numeral.read_of_hasNoDigit h]
  rfl

/-! ## All fields -/

section

variable (chosen : Setting → Option Json)

variable {chosen} in
theorem refusedAt?_eq_none_iff {setting : Setting} :
    refusedAt? checked chosen setting = none ↔
      ∀ v, chosen setting = some v → ∃ form, checked setting v = .ok form := by
  unfold refusedAt?
  cases hchosen : chosen setting with
  | none => simp
  | some v => cases hchecked : checked setting v <;> simp [hchecked]

theorem refused_cons (first : Setting) (rest : List Setting) :
    refused checked chosen (first :: rest) =
      (refusedAt? checked chosen first).toList ++ refused checked chosen rest := by
  unfold refused
  cases h : refusedAt? checked chosen first with
  | none => exact List.filterMap_cons_none h
  | some r => exact List.filterMap_cons_some h

/-- A field has the checked form of the value that is chosen for it, and what it had `before` if none
is chosen. -/
structure Resolved (before after : Settings) (setting : Setting) : Prop where
  left : chosen setting = none → after.value setting = before.value setting
  taken : ∀ v, chosen setting = some v → ∀ form, checked setting v = .ok form →
    after.value setting = form

variable {chosen} in
theorem Resolved.congr {before before' after after' : Settings} {setting : Setting}
    (h : Resolved chosen before after setting) (hbefore : before.value setting = before'.value setting)
    (hafter : after'.value setting = after.value setting) :
    Resolved chosen before' after' setting where
  left hnone := hafter.trans ((h.left hnone).trans hbefore)
  taken v hv form hform := hafter.trans (h.taken v hv form hform)

/-- One field: it is resolved, the other fields stay, and a refused value is noted. -/
theorem addChecked_spec (before : Settings) (noted : List Refusal) (setting : Setting) :
    ∃ after, addChecked chosen (before, noted) setting =
        (after, noted ++ (refusedAt? checked chosen setting).toList) ∧
      Resolved chosen before after setting ∧
      ∀ other, other ≠ setting → after.value other = before.value other := by
  unfold addChecked refusedAt?
  cases hchosen : chosen setting with
  | none =>
      refine ⟨before, by simp, ⟨fun _ => rfl, ?_⟩, fun _ _ => rfl⟩
      intro v hv
      cases hchosen.symm.trans hv
  | some v =>
      dsimp only [Option.bind_some]
      rcases set_cases before setting v with ⟨fault, hchecked, hset⟩ | ⟨after, hset, hputs⟩
      · refine ⟨before, by rw [hset, hchecked]; rfl, ⟨fun _ => rfl, ?_⟩, fun _ _ => rfl⟩
        intro w hw form hform
        cases hchosen.symm.trans hw
        cases hchecked.symm.trans hform
      · refine ⟨after, by rw [hset, hputs.own]; simp, ⟨?_, ?_⟩, hputs.others⟩
        · intro hnone
          cases hchosen.symm.trans hnone
        · intro w hw form hform
          cases hchosen.symm.trans hw
          cases hputs.own.symm.trans hform
          rfl

/-- Fields one after the other: each of them is resolved, and what they refuse is noted in turn. -/
theorem foldl_addChecked {fields : List Setting} (hfields : fields.Nodup) (before : Settings)
    (noted : List Refusal) :
    ∃ after, fields.foldl (addChecked chosen) (before, noted) =
        (after, noted ++ refused checked chosen fields) ∧
      (∀ setting ∈ fields, Resolved chosen before after setting) ∧
      ∀ setting, setting ∉ fields → after.value setting = before.value setting := by
  induction fields generalizing before noted with
  | nil => exact ⟨before, by simp [refused], by simp, fun _ _ => rfl⟩
  | cons first rest ih =>
      obtain ⟨hfirst, hrest⟩ := List.nodup_cons.1 hfields
      obtain ⟨middle, hstep, hresolved, hothers⟩ := addChecked_spec chosen before noted first
      obtain ⟨after, hrun, hall, hkept⟩ :=
        ih hrest middle (noted ++ (refusedAt? checked chosen first).toList)
      refine ⟨after, ?_, ?_, ?_⟩
      · rw [List.foldl_cons, hstep, hrun, refused_cons, List.append_assoc]
      · intro setting hsetting
        rcases List.mem_cons.1 hsetting with rfl | hmem
        · exact hresolved.congr rfl (hkept setting hfirst)
        · apply (hall setting hmem).congr _ rfl
          apply hothers
          rintro rfl
          exact hfirst hmem
      · intro setting hsetting
        rw [List.mem_cons, not_or] at hsetting
        rw [hkept setting hsetting.2, hothers setting hsetting.1]

theorem mem_all (setting : Setting) : setting ∈ Setting.all := by
  cases setting <;> decide

theorem check_cases :
    (∃ settings, check chosen = .ok settings ∧ Fits checked chosen settings) ∨
      (check chosen = .error (refused checked chosen Setting.all) ∧
        refused checked chosen Setting.all ≠ []) := by
  obtain ⟨after, hrun, hall, -⟩ := foldl_addChecked chosen (by decide : Setting.all.Nodup) {} []
  rw [List.nil_append] at hrun
  unfold check
  rw [hrun]
  cases hrefused : refused checked chosen Setting.all with
  | cons first rest => exact .inr ⟨rfl, by simp⟩
  | nil =>
      refine .inl ⟨after, rfl, ?_, fun setting => (hall setting (mem_all setting)).left⟩
      intro setting v hv
      have hnone : refusedAt? checked chosen setting = none :=
        List.filterMap_eq_nil_iff.1 hrefused setting (mem_all setting)
      obtain ⟨form, hform⟩ := refusedAt?_eq_none_iff.1 hnone v hv
      rw [(hall setting (mem_all setting)).taken v hv form hform]
      exact hform

variable {chosen} in
theorem Fits.refused_eq_nil {settings : Settings} (h : Fits checked chosen settings) :
    refused checked chosen Setting.all = [] := by
  apply List.filterMap_eq_nil_iff.2
  intro setting _
  apply refusedAt?_eq_none_iff.2
  intro v hv
  exact ⟨_, h.taken setting v hv⟩

variable {chosen} in
theorem Fits.unique {a b : Settings} (ha : Fits checked chosen a) (hb : Fits checked chosen b) :
    a = b := by
  apply eq_of_value
  intro setting
  cases hchosen : chosen setting with
  | none => rw [ha.left setting hchosen, hb.left setting hchosen]
  | some v =>
      have hsame := (ha.taken setting v hchosen).symm.trans (hb.taken setting v hchosen)
      injection hsame

theorem check_eq_ok_iff {settings : Settings} :
    check chosen = .ok settings ↔ Fits checked chosen settings := by
  rcases check_cases chosen with ⟨found, hcheck, hfits⟩ | ⟨hcheck, hrefused⟩
  · rw [hcheck, Except.ok.injEq]
    constructor
    · intro heq
      exact heq ▸ hfits
    · exact hfits.unique
  · rw [hcheck]
    exact iff_of_false (by simp) fun hfits => hrefused hfits.refused_eq_nil

theorem check_eq_error_iff {refusals : List Refusal} : check chosen = .error refusals ↔
    refusals = refused checked chosen Setting.all ∧ refusals ≠ [] := by
  rcases check_cases chosen with ⟨found, hcheck, hfits⟩ | ⟨hcheck, hrefused⟩
  · rw [hcheck]
    refine iff_of_false (by simp) fun h => h.2 ?_
    rw [h.1, hfits.refused_eq_nil]
  · rw [hcheck, Except.error.injEq]
    constructor
    · rintro rfl
      exact ⟨rfl, hrefused⟩
    · intro h
      exact h.1.symm

end

end Settings

end PropTyper
