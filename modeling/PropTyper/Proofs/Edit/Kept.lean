import PropTyper.Proofs.Edit.Overlap
import PropTyper.Proofs.Text.Utf8

/-! # What edits leave of a file

Edits that are spliced into a file can be taken out again: the text of each stands where its offsets
say, and what is left are the bytes that no edit takes out. Of the edits planned for a component only
the replacement of a declaration takes bytes out, so all bytes of the file but those of the
declaration are kept, once each and in their order.
-/

namespace PropTyper

namespace Edit

/-! ## Ranges of bytes -/

theorem offset_of_nonneg {length : Nat} {i : Int} (h : 0 ≤ i) :
    offset length i = min i.toNat length := by
  rw [offset, if_neg (by omega)]

theorem offset_mono (length : Nat) {a b : Int} (ha : 0 ≤ a) (hab : a ≤ b) :
    offset length a ≤ offset length b := by
  rw [offset_of_nonneg ha, offset_of_nonneg (by omega)]
  omega

theorem offset_le_offset_length {length : Nat} {a : Int} (ha : 0 ≤ a) :
    offset length a ≤ offset length length := by
  rw [offset_of_nonneg ha, offset_of_nonneg (Int.natCast_nonneg _)]
  omega

variable {data : List UInt8} {a b c : Int}

theorem length_between (data : List UInt8) (a : Int) (hb : 0 ≤ b) :
    (between data a b).length = offset data.length b - offset data.length a := by
  have hle : offset data.length b ≤ data.length := by
    rw [offset_of_nonneg hb]
    omega
  simp only [between, List.length_take, List.length_drop]
  omega

theorem between_append (hab : offset data.length a ≤ offset data.length b)
    (hbc : offset data.length b ≤ offset data.length c) :
    between data a b ++ between data b c = between data a c := by
  have hdrop : data.drop (offset data.length b) =
      (data.drop (offset data.length a)).drop (offset data.length b - offset data.length a) := by
    rw [List.drop_drop]
    congr 1
    omega
  simp only [between]
  rw [hdrop, ← List.take_add]
  congr 1
  omega

theorem between_zero (n : Nat) : between data 0 n = data.take n := by
  simp only [between, offset_of_nonneg (Int.natCast_nonneg n), offset_of_nonneg (Int.le_refl 0)]
  simp [List.take_eq_take_iff]

theorem between_length (n : Nat) : between data n data.length = data.drop n := by
  simp only [between, offset_of_nonneg (Int.natCast_nonneg _)]
  rw [List.take_of_length_le (by simp)]
  simp [List.drop_eq_drop_iff]

/-! ## Taking edits out again -/

/-- The bytes from `cursor` on that ordered edits do not take out. -/
def keptFrom (data : List UInt8) (cursor : Int) : List Edit → List UInt8
  | [] => between data cursor data.length
  | e :: rest => between data cursor e.start ++ keptFrom data e.stop rest

/-- Takes the texts of ordered edits out of bytes into which they have been spliced; `length` is that
of the file before. There is no answer if a text is not in its place. -/
def withdrawFrom? (length : Nat) (cursor : Int) : List Edit → List UInt8 → Option (List UInt8)
  | [], bytes => some bytes
  | e :: rest, bytes =>
    let kept := offset length e.start - offset length cursor
    let text := Text.Utf8.encode e.text
    if text.isPrefixOf (bytes.drop kept) then
      (withdrawFrom? length e.stop rest (bytes.drop (kept + text.length))).map (bytes.take kept ++ ·)
    else none

def withdraw? (length : Nat) (edits : List Edit) (bytes : List UInt8) : Option (List UInt8) :=
  withdrawFrom? length 0 (inOrder edits) bytes

theorem withdrawFrom?_of_spliceFrom {cursor : Int} {edits : List Edit} {bytes : List UInt8}
    (hstarts : ∀ e ∈ edits, 0 ≤ e.start) (h : spliceFrom data cursor edits = .ok bytes) :
    withdrawFrom? data.length cursor edits bytes = some (keptFrom data cursor edits) := by
  induction edits generalizing cursor bytes with
  | nil =>
      cases h
      rfl
  | cons e rest ih =>
      rw [spliceFrom] at h
      split at h
      · cases h
      · split at h
        · next later hlater =>
          cases h
          have hlength := length_between data cursor (hstarts e List.mem_cons_self)
          have hrest := ih (fun x hx => hstarts x (List.mem_cons_of_mem _ hx)) hlater
          rw [withdrawFrom?, ← hlength, List.append_assoc]
          simp [hrest, keptFrom]
        · cases h

theorem keptFrom_append {cursor : Int} {before after : List Edit} (hcursor : 0 ≤ cursor)
    (hinsertions : ∀ e ∈ before, e.IsInsertion) (hstarts : ∀ e ∈ before ++ after, cursor ≤ e.start)
    (hsorted : (before ++ after).Pairwise fun x y => x.start ≤ y.start) :
    keptFrom data cursor (before ++ after) = keptFrom data cursor after := by
  induction before generalizing cursor with
  | nil => rfl
  | cons e rest ih =>
      obtain ⟨hfirst, hrest⟩ := List.pairwise_cons.1 hsorted
      have hstop : e.stop = e.start := hinsertions e List.mem_cons_self
      have hstart := hstarts e List.mem_cons_self
      have hab := offset_mono data.length hcursor hstart
      rw [List.cons_append, keptFrom, hstop,
        ih (by omega) (fun x hx => hinsertions x (List.mem_cons_of_mem _ hx)) hfirst hrest]
      -- what follows starts at the insertion, and so does what comes next in the file
      cases after with
      | nil => exact between_append hab (offset_le_offset_length (by omega))
      | cons next later =>
          have hnext := hfirst next (List.mem_append_right _ List.mem_cons_self)
          rw [keptFrom, keptFrom, ← List.append_assoc,
            between_append hab (offset_mono data.length (by omega) hnext)]

theorem keptFrom_of_isInsertion {cursor : Int} {edits : List Edit} (hcursor : 0 ≤ cursor)
    (hinsertions : ∀ e ∈ edits, e.IsInsertion) (hstarts : ∀ e ∈ edits, cursor ≤ e.start)
    (hsorted : edits.Pairwise fun x y => x.start ≤ y.start) :
    keptFrom data cursor edits = between data cursor data.length := by
  have hkept : keptFrom data cursor (edits ++ []) = keptFrom data cursor [] :=
    keptFrom_append hcursor hinsertions (by simpa using hstarts) (by simpa using hsorted)
  rwa [List.append_nil] at hkept

theorem keptFrom_cons_of_isInsertion {e : Edit} {rest : List Edit} {start stop : Nat}
    (hstart : e.start = start) (hstop : e.stop = stop)
    (hinsertions : ∀ x ∈ rest, x.IsInsertion) (hstarts : ∀ x ∈ rest, 0 ≤ x.start)
    (hseparate : Separate (inOrder (e :: rest))) :
    keptFrom data 0 (inOrder (e :: rest)) = data.take start ++ data.drop stop := by
  have hperm := inOrder_perm (e :: rest)
  have hsorted := pairwise_start_inOrder (e :: rest)
  obtain ⟨before, after, hsplit⟩ := List.append_of_mem (hperm.mem_iff.2 List.mem_cons_self)
  rw [hsplit] at hperm hsorted hseparate ⊢
  have hothers : (before ++ after).Perm rest := (List.perm_middle.symm.trans hperm).cons_inv
  have hmem : ∀ {x}, x ∈ before ++ after → x ∈ rest := hothers.mem_iff.1
  have hbefore : keptFrom data 0 (before ++ e :: after) = keptFrom data 0 (e :: after) := by
    refine keptFrom_append (Int.le_refl 0)
      (fun x hx => hinsertions x (hmem (List.mem_append_left _ hx))) ?_ hsorted
    intro x hx
    rcases List.mem_cons.1 (hperm.mem_iff.1 hx) with rfl | hx
    · omega
    · exact hstarts x hx
  have hafter : keptFrom data e.stop after = between data e.stop data.length := by
    refine keptFrom_of_isInsertion (by omega)
      (fun x hx => hinsertions x (hmem (List.mem_append_right _ hx))) ?_
      (List.pairwise_cons.1 (List.pairwise_append.1 hsorted).2.1).2
    exact (List.pairwise_cons.1 (List.pairwise_append.1 hseparate).2.1).1
  rw [hbefore, keptFrom, hafter, hstart, hstop, between_zero, between_length]

theorem spliceFrom_of_apply {edits : List Edit} {text : String} (h : apply data edits = .ok text) :
    spliceFrom data 0 (inOrder edits) = .ok (Text.Utf8.encode text) := by
  unfold apply splice at h
  split at h
  · cases h
  · next bytes hbytes =>
    split at h
    · next decoded hdecoded =>
      cases h
      rw [hbytes, Text.Utf8.encode_of_decode hdecoded]
    · cases h

theorem withdraw?_of_apply {edits : List Edit} {text : String} (hstarts : ∀ e ∈ edits, 0 ≤ e.start)
    (h : apply data edits = .ok text) :
    withdraw? data.length edits (Text.Utf8.encode text) = some (keptFrom data 0 (inOrder edits)) :=
  withdrawFrom?_of_spliceFrom (fun e he => hstarts e ((inOrder_perm edits).mem_iff.1 he))
    (spliceFrom_of_apply h)

theorem separate_of_apply {edits : List Edit} {text : String} (hstarts : ∀ e ∈ edits, 0 ≤ e.start)
    (h : apply data edits = .ok text) : Separate (inOrder edits) := by
  have hoverlap : (∃ start, apply data edits = .error (.overlap start)) ↔ ¬ Separate (inOrder edits) :=
    overlap_iff_not_separate hstarts
  by_contra hnot
  obtain ⟨start, hstart⟩ := hoverlap.2 hnot
  rw [h] at hstart
  cases hstart

end Edit

namespace Node

theorem declarationSpan_le {r n : Node} (hr : r.trail = []) (h : r.WellNested) (hn : n ∈ r.preorder) :
    n.declarationSpan.start ≤ n.declarationSpan.stop ∧ n.declarationSpan.stop ≤ r.span.stop := by
  unfold declarationSpan
  dsimp only
  split
  · next p hp =>
    have hmem := (mem_children_of_parent? hr hn (Option.filter_eq_some_iff.1 hp).1).1
    exact ⟨span_le h hmem, (span_of_mem_preorder h hmem).2⟩
  · split
    · next semicolon hsemicolon =>
      obtain ⟨hnext, -⟩ := Option.filter_eq_some_iff.1 hsemicolon
      have hself := span_le h hn
      rcases eq_or_mem_children hn with rfl | ⟨p, hp, hnp⟩
      · rw [nextSibling?, hr] at hnext
        cases hnext
      · have hsibling := mem_preorder_of_mem_children hp (mem_children_of_nextSibling? hnp hnext)
        obtain ⟨i, t, ht, rfl⟩ := mem_children_iff.1 hnp
        obtain ⟨u, hu, rfl⟩ := Option.map_eq_some_iff.1 hnext
        have horder := (h p hp).stop_le_start ht hu (Nat.lt_succ_self i)
        have hlast := span_le h hsibling
        simp only [Node.span] at hself hlast ⊢
        exact ⟨by omega, (span_of_mem_preorder h hsibling).2⟩
    · exact ⟨span_le h hn, (span_of_mem_preorder h hn).2⟩

end Node

/-! ## Planned edits -/

namespace Analysis

open Edit

/-- The bytes of a file without those of the declaration of types that it has. -/
def undeclared (a : Analysis) (data : List UInt8) : List UInt8 :=
  match a.propTypes with
  | none => data
  | some declaration =>
    data.take declaration.declarationSpan.start ++ data.drop declaration.declarationSpan.stop

theorem start_nonneg_of_mem_plan {a : Analysis} {root : Node} {settings : Settings}
    {data : List UInt8} {x : Edit} (h : x ∈ a.plan root settings data) : 0 ≤ x.start := by
  rw [plan_eq] at h
  rcases List.mem_append.1 h with h | h
  · unfold typesEdit at h
    split at h
    · obtain rfl := List.mem_singleton.1 h
      exact Int.natCast_nonneg _
    · exact (isInsertion_of_insertion? (Option.mem_toList.1 h)).2
  · exact (isInsertion_of_mem_insertions h).2

/-- Edits that keep apart leave all bytes but those of the declaration. -/
theorem keptFrom_plan {a : Analysis} {root : Node} {settings : Settings} {data : List UInt8}
    (hseparate : Separate (inOrder (a.plan root settings data))) :
    keptFrom data 0 (inOrder (a.plan root settings data)) = a.undeclared data := by
  have hinsertions : ∀ x ∈ a.insertions root settings data, x.IsInsertion :=
    fun x hx => (isInsertion_of_mem_insertions hx).1
  have hstarts : ∀ x ∈ a.insertions root settings data, 0 ≤ x.start :=
    fun x hx => (isInsertion_of_mem_insertions hx).2
  unfold undeclared
  cases hdeclared : a.propTypes with
  | none =>
      have hmem : ∀ {x}, x ∈ inOrder (a.plan root settings data) → x ∈ a.plan root settings data :=
        (inOrder_perm _).mem_iff.1
      have hall : ∀ x ∈ a.plan root settings data, x.IsInsertion := by
        intro x hx
        rw [plan_eq, typesEdit, hdeclared] at hx
        rcases List.mem_append.1 hx with hx | hx
        · exact (isInsertion_of_insertion? (Option.mem_toList.1 hx)).1
        · exact hinsertions x hx
      rw [keptFrom_of_isInsertion (Int.le_refl 0) (fun x hx => hall x (hmem hx))
        (fun x hx => start_nonneg_of_mem_plan (hmem hx)) (pairwise_start_inOrder _)]
      exact between_length 0
  | some declaration =>
      rw [plan_eq, typesEdit, hdeclared] at hseparate ⊢
      exact keptFrom_cons_of_isInsertion rfl rfl hinsertions hstarts hseparate

/-- If the edits planned for a component apply, their texts can be taken out of the result again. What
is left are the bytes of the file, less those of the declaration that it had. -/
theorem withdraw?_plan {d : Document} {name : String} {label : Option String} {a : Analysis}
    (ha : Analysis.of d name label = .ok a) (hnested : d.node.WellNested) {settings : Settings}
    {data : List UInt8} {text : String}
    (htext : Edit.apply data (a.plan d.node settings data) = .ok text) :
    Edit.withdraw? data.length (a.plan d.node settings data) (Text.Utf8.encode text) =
        some (a.undeclared data) ∧
      ∀ declaration ∈ a.propTypes,
        declaration.declarationSpan.start ≤ declaration.declarationSpan.stop ∧
          declaration.declarationSpan.stop ≤ d.root.span.stop := by
  have hstarts : ∀ x ∈ a.plan d.node settings data, 0 ≤ x.start :=
    fun x hx => start_nonneg_of_mem_plan hx
  refine ⟨?_, ?_⟩
  · rw [withdraw?_of_apply hstarts htext, keptFrom_plan (separate_of_apply hstarts htext)]
  · intro declaration hdeclaration
    rw [(of_eq_ok ha).2] at hdeclaration
    obtain ⟨hmem, -⟩ := Node.mem_preorder_of_declaration? hdeclaration
    exact Node.declarationSpan_le rfl hnested hmem

/-- Of a file that opens with a declaration the function after it is left. -/
theorem withdraw?_declarationFirst :
    ∃ a text, Analysis.of declarationFirstFile "F" none = .ok a ∧
      Edit.apply (Text.Utf8.encode declarationFirst.text)
          (a.plan declarationFirstFile.node { autoImport := false }
            (Text.Utf8.encode declarationFirst.text)) = .ok text ∧
      Edit.withdraw? (Text.Utf8.encode declarationFirst.text).length
          (a.plan declarationFirstFile.node { autoImport := false }
            (Text.Utf8.encode declarationFirst.text)) (Text.Utf8.encode text) =
        some (Text.Utf8.encode "function F()\x7b\x7d") := by
  have hrun : (match Analysis.of declarationFirstFile "F" none with
      | .ok a =>
        some ((Edit.apply (Text.Utf8.encode declarationFirst.text)
          (a.plan declarationFirstFile.node { autoImport := false }
            (Text.Utf8.encode declarationFirst.text))).isOk,
          a.undeclared (Text.Utf8.encode declarationFirst.text))
      | .error _ => none) = some (true, Text.Utf8.encode "function F()\x7b\x7d") := by
    decide +kernel
  cases ha : Analysis.of declarationFirstFile "F" none with
  | error failure =>
      rw [ha] at hrun
      cases hrun
  | ok a =>
      rw [ha] at hrun
      obtain ⟨hok, hundeclared⟩ := Prod.mk.inj (Option.some.inj hrun)
      cases htext : Edit.apply (Text.Utf8.encode declarationFirst.text)
          (a.plan declarationFirstFile.node { autoImport := false }
            (Text.Utf8.encode declarationFirst.text)) with
      | error fault =>
          rw [htext] at hok
          cases hok
      | ok text =>
          have hleft := (withdraw?_plan ha wellParsed_declarationFirst.nested htext).1
          rw [hundeclared] at hleft
          exact ⟨a, text, rfl, htext, hleft⟩

end Analysis

end PropTyper
