import PropTyper.Proofs.Edit.Kept
import PropTyper.Proofs.StableSort

/-! # Edits made one at a time

An edit by itself replaces its bytes by its text. Made one after the other from the last to the
first, edits leave the bytes before them alone, so that none has to be moved. If no edit starts
before the end of one that precedes it, splicing all of them in one pass leaves the same bytes.
-/

namespace PropTyper.Edit

open StableSort

/-- An edit of so many bytes. -/
structure Within (length : Nat) (e : Edit) : Prop where
  start_nonneg : 0 ≤ e.start
  start_le_stop : e.start ≤ e.stop
  stop_le : e.stop ≤ length

def replace (e : Edit) (data : List UInt8) : List UInt8 :=
  data.take e.start.toNat ++ Text.Utf8.encode e.text ++ data.drop e.stop.toNat

/-- The bytes after one edit at a time, from the last of the list to the first. -/
def replaceAll (edits : List Edit) (data : List UInt8) : List UInt8 :=
  edits.foldr replace data

@[simp] theorem replaceAll_nil (data : List UInt8) : replaceAll [] data = data := rfl

@[simp] theorem replaceAll_cons (e : Edit) (rest : List Edit) (data : List UInt8) :
    replaceAll (e :: rest) data = replace e (replaceAll rest data) := rfl

theorem replaceAll_append (first second : List Edit) (data : List UInt8) :
    replaceAll (first ++ second) data = replaceAll first (replaceAll second data) :=
  List.foldr_append

variable {data : List UInt8} {edits : List Edit}

/-! ## One pass -/

theorem take_replace {n : Nat} {e : Edit} (hn : n ≤ e.start) (hlength : n ≤ data.length) :
    (replace e data).take n = data.take n := by
  have hstart : n ≤ e.start.toNat := by omega
  rw [replace, List.append_assoc, List.take_append_of_le_length (by rw [List.length_take]; omega),
    List.take_take, Nat.min_eq_left hstart]

private theorem le_length_of_take_eq {first second : List UInt8} {n : Nat}
    (h : first.take n = second.take n) (hlength : n ≤ second.length) : n ≤ first.length := by
  have hlen := congrArg List.length h
  rw [List.length_take, List.length_take] at hlen
  omega

theorem take_replaceAll {n : Nat} (hstarts : ∀ e ∈ edits, n ≤ e.start) (hlength : n ≤ data.length) :
    (replaceAll edits data).take n = data.take n := by
  induction edits with
  | nil => rfl
  | cons e rest ih =>
      have hrest := ih fun x hx => hstarts x (List.mem_cons_of_mem e hx)
      rw [replaceAll_cons, take_replace (hstarts e List.mem_cons_self)
        (le_length_of_take_eq hrest hlength), hrest]

theorem le_length_replaceAll {n : Nat} (hstarts : ∀ e ∈ edits, n ≤ e.start)
    (hlength : n ≤ data.length) : n ≤ (replaceAll edits data).length :=
  le_length_of_take_eq (take_replaceAll hstarts hlength) hlength

theorem between_eq_drop_take {a b : Nat} (hb : b ≤ data.length) :
    between data a b = (data.take b).drop a := by
  simp only [between, offset_of_nonneg (Int.natCast_nonneg _), Int.toNat_natCast]
  rw [List.drop_take]
  by_cases ha : a ≤ data.length
  · rw [Nat.min_eq_left ha, Nat.min_eq_left hb]
  · have hempty : data.drop a = [] := List.drop_eq_nil_of_le (by omega)
    simp [Nat.min_eq_right (Nat.le_of_not_le ha), hempty]

/-- Behind the cursor a pass leaves what the edits one at a time leave there. -/
theorem spliceFrom_eq_drop {cursor : Nat} (hcursor : ∀ e ∈ edits, cursor ≤ e.start)
    (hwithin : ∀ e ∈ edits, e.Within data.length) (hseparate : Separate edits) :
    spliceFrom data cursor edits = .ok ((replaceAll edits data).drop cursor) := by
  induction edits generalizing cursor with
  | nil => rw [spliceFrom, between_length, replaceAll_nil]
  | cons e rest ih =>
      obtain ⟨hfirst, hrest⟩ := List.pairwise_cons.1 hseparate
      obtain ⟨hnonneg, hle, hstop⟩ := hwithin e List.mem_cons_self
      have hstart := hcursor e List.mem_cons_self
      obtain ⟨start, hstartEq⟩ := Int.eq_ofNat_of_zero_le hnonneg
      obtain ⟨stop, hstopEq⟩ := Int.eq_ofNat_of_zero_le (Int.le_trans hnonneg hle)
      have hlater : spliceFrom data e.stop rest = .ok ((replaceAll rest data).drop stop) := by
        rw [hstopEq]
        exact ih (fun x hx => hstopEq ▸ hfirst x hx)
          (fun x hx => hwithin x (List.mem_cons_of_mem e hx)) hrest
      have htake : (replaceAll rest data).take start = data.take start := by
        refine take_replaceAll ?_ (by omega)
        intro x hx
        have := hfirst x hx
        omega
      rw [spliceFrom, if_neg (by omega), hlater, replaceAll_cons, replace, hstartEq, hstopEq,
        Int.toNat_natCast, Int.toNat_natCast, htake, between_eq_drop_take (by omega)]
      dsimp only
      rw [List.append_assoc, List.append_assoc,
        List.drop_append_of_le_length (by rw [List.length_take]; omega)]

theorem splice_eq_replaceAll (hwithin : ∀ e ∈ edits, e.Within data.length)
    (hseparate : Separate (inOrder edits)) :
    splice data edits = .ok (replaceAll (inOrder edits) data) := by
  have hmem : ∀ {x}, x ∈ inOrder edits → x ∈ edits := (inOrder_perm edits).mem_iff.1
  have hspliced : spliceFrom data (0 : Nat) (inOrder edits) =
      .ok ((replaceAll (inOrder edits) data).drop 0) :=
    spliceFrom_eq_drop (fun e he => (hwithin e (hmem he)).start_nonneg)
      (fun e he => hwithin e (hmem he)) hseparate
  exact hspliced

/-- The edits of some bytes leave these bytes: a pass splices them together, and its result is the
text that they are the encoding of, or the fault at which they are no text. -/
structure Leaves (data : List UInt8) (edits : List Edit) (bytes : List UInt8) : Prop where
  splice_eq : splice data edits = .ok bytes
  apply_eq : apply data edits = (Text.Utf8.decode bytes).mapError .undecodable
  apply_eq_ok_iff : ∀ text, apply data edits = .ok text ↔ Text.Utf8.encode text = bytes

theorem leaves_of_splice {bytes : List UInt8} (h : splice data edits = .ok bytes) :
    Leaves data edits bytes := by
  have happly : apply data edits = (Text.Utf8.decode bytes).mapError .undecodable := by
    rw [apply, h]
    dsimp only
    cases Text.Utf8.decode bytes <;> rfl
  refine ⟨h, happly, fun text => ?_⟩
  rw [happly]
  constructor
  · intro htext
    cases hdecode : Text.Utf8.decode bytes with
    | error fault =>
        rw [hdecode] at htext
        cases htext
    | ok decoded =>
        rw [hdecode] at htext
        cases htext
        exact Text.Utf8.encode_of_decode hdecode
  · rintro rfl
    rw [Text.Utf8.decode_encode]
    rfl

/-! ## The order of edits -/

theorem isKeyOrder_start :
    IsKeyOrder Edit.start fun a b : Edit => decide (a.start ≤ b.start) where
  trans := start_le_trans
  total := start_le_total
  key_eq := by
    intro a b hab hba
    rw [decide_eq_true_iff] at *
    omega
  of_key_eq := by
    intro a b hab
    rw [decide_eq_true_iff]
    omega

/-- An ordered list is the order of the edits that it has at each start. -/
theorem eq_inOrder {ordered : List Edit} (hordered : ordered.Pairwise fun a b => a.start ≤ b.start)
    (h : SameByKey Edit.start ordered edits) : ordered = inOrder edits :=
  isKeyOrder_start.eq_mergeSort (hordered.imp decide_eq_true) h

theorem inOrder_congr {other : List Edit} (h : SameByKey Edit.start other edits) :
    inOrder other = inOrder edits :=
  isKeyOrder_start.mergeSort_congr h

theorem sameByKey_inOrder (edits : List Edit) : SameByKey Edit.start (inOrder edits) edits :=
  isKeyOrder_start.sameByKey_mergeSort edits

/-- Comes before another edit: it starts before it, or with it and earlier in the list. -/
def Precedes (a b : Edit × Nat) : Prop :=
  a.1.start < b.1.start ∨ a.1.start = b.1.start ∧ a.2 < b.2

structure IsOrdered (edits : List Edit) (ordered : List (Edit × Nat)) : Prop where
  perm : ordered.Perm edits.zipIdx
  pairwise : ordered.Pairwise Precedes

theorem exists_isOrdered (edits : List Edit) :
    ∃ ordered, IsOrdered edits ordered ∧ ordered.map (·.1) = inOrder edits := by
  let le : Edit → Edit → Bool := fun a b => decide (a.start ≤ b.start)
  have hle : IsKeyOrder Edit.start le := isKeyOrder_start
  have hperm := List.mergeSort_perm edits.zipIdx (List.zipIdxLE le)
  refine ⟨edits.zipIdx.mergeSort (List.zipIdxLE le), ⟨hperm, ?_⟩, List.mergeSort_zipIdx⟩
  have hsorted := List.pairwise_mergeSort (List.zipIdxLE_trans hle.trans)
    (List.zipIdxLE_total hle.total) edits.zipIdx
  have hnodup : ((edits.zipIdx.mergeSort (List.zipIdxLE le)).map (·.2)).Nodup := by
    rw [(hperm.map _).nodup_iff, List.zipIdx_map_snd]
    exact List.nodup_range' ..
  refine (hsorted.and (List.pairwise_map.1 hnodup)).imp ?_
  rintro a b ⟨hab, hne⟩
  unfold Precedes
  unfold List.zipIdxLE at hab
  by_cases h : a.1.start ≤ b.1.start
  · by_cases h' : b.1.start ≤ a.1.start
    · simp only [le, h, h', decide_true, if_true, decide_eq_true_iff] at hab
      omega
    · omega
  · simp [le, h] at hab

theorem Precedes.asymm {a b : Edit × Nat} (h : Precedes a b) : ¬ Precedes b a := by
  unfold Precedes at *
  omega

/-- In an ordered list a relation between what precedes and what follows is one between any two. -/
theorem IsOrdered.pairwise_iff {ordered : List (Edit × Nat)} (h : IsOrdered edits ordered)
    {R : Edit × Nat → Edit × Nat → Prop} :
    ordered.Pairwise R ↔ ∀ a ∈ edits.zipIdx, ∀ b ∈ edits.zipIdx, Precedes a b → R a b := by
  constructor
  · intro hR a ha b hb hab
    obtain ⟨i, hi, rfl⟩ := List.getElem_of_mem (h.perm.mem_iff.2 ha)
    obtain ⟨j, hj, rfl⟩ := List.getElem_of_mem (h.perm.mem_iff.2 hb)
    have hprecedes := List.pairwise_iff_getElem.1 h.pairwise
    rcases Nat.lt_trichotomy i j with hij | rfl | hij
    · exact List.pairwise_iff_getElem.1 hR i j hi hj hij
    · exact (hab.asymm hab).elim
    · exact (hab.asymm (hprecedes j i hj hi hij)).elim
  · intro hR
    refine h.pairwise.imp_of_mem ?_
    intro a b ha hb hab
    exact hR a (h.perm.mem_iff.1 ha) b (h.perm.mem_iff.1 hb) hab

/-- Some edit starts before the end of one that precedes it. -/
def Overlaps (edits : List Edit) : Prop :=
  ∃ a ∈ edits.zipIdx, ∃ b ∈ edits.zipIdx, Precedes a b ∧ b.1.start < a.1.stop

theorem separate_inOrder_iff (edits : List Edit) : Separate (inOrder edits) ↔ ¬ Overlaps edits := by
  obtain ⟨ordered, hordered, hmap⟩ := exists_isOrdered edits
  rw [← hmap, Separate, List.pairwise_map, hordered.pairwise_iff]
  constructor
  · rintro hseparate ⟨a, ha, b, hb, hab, hlt⟩
    exact Int.not_lt.2 (hseparate a ha b hb hab) hlt
  · intro hoverlaps a ha b hb hab
    apply Int.not_lt.1
    intro hlt
    exact hoverlaps ⟨a, ha, b, hb, hab, hlt⟩

/-! ## Edits at one offset -/

theorem replaceAll_append_data {first second : List UInt8}
    (hwithin : ∀ e ∈ edits, e.Within first.length) (hseparate : Separate edits) :
    replaceAll edits (first ++ second) = replaceAll edits first ++ second := by
  induction edits with
  | nil => rfl
  | cons e rest ih =>
      obtain ⟨hfirst, hrest⟩ := List.pairwise_cons.1 hseparate
      obtain ⟨hnonneg, hle, hstop⟩ := hwithin e List.mem_cons_self
      have hlength : e.stop.toNat ≤ (replaceAll rest first).length := by
        refine le_length_replaceAll ?_ (by omega)
        intro x hx
        have := hfirst x hx
        omega
      rw [replaceAll_cons, ih (fun x hx => hwithin x (List.mem_cons_of_mem e hx)) hrest,
        replaceAll_cons, replace, replace, List.take_append_of_le_length (by omega),
        List.drop_append_of_le_length hlength]
      simp

/-- Insertions at one offset put their texts there in the order of the list. -/
theorem replaceAll_insertions {offset : Int} {first second : List UInt8}
    (hoffset : first.length = offset.toNat)
    (hedits : ∀ e ∈ edits, e.start = offset ∧ e.stop = offset) :
    replaceAll edits (first ++ second) =
      first ++ edits.flatMap (fun e => Text.Utf8.encode e.text) ++ second := by
  induction edits with
  | nil => simp
  | cons e rest ih =>
      obtain ⟨hstart, hstop⟩ := hedits e List.mem_cons_self
      rw [replaceAll_cons, ih fun x hx => hedits x (List.mem_cons_of_mem e hx), replace, hstart,
        hstop, List.append_assoc first, List.take_left' hoffset, List.drop_left' hoffset]
      simp

/-- All edits at one start but the last of them are insertions, so that their texts follow each
other there. -/
theorem replaceAll_eq_append {before insertions after : List Edit} {last : Edit}
    (hwithin : ∀ e ∈ before ++ (insertions ++ [last] ++ after), e.Within data.length)
    (hseparate : Separate (before ++ (insertions ++ [last] ++ after)))
    (hstarts : ∀ e ∈ insertions, e.start = last.start) :
    (replaceAll after data).take last.stop.toNat = data.take last.stop.toNat ∧
      replaceAll (before ++ (insertions ++ [last] ++ after)) data =
        replaceAll before (data.take last.start.toNat) ++
          (insertions ++ [last]).flatMap (fun e => Text.Utf8.encode e.text) ++
          (replaceAll after data).drop last.stop.toNat := by
  obtain ⟨hbefore, hrest, hahead⟩ := List.pairwise_append.1 hseparate
  obtain ⟨hhere, -, hbehind⟩ := List.pairwise_append.1 hrest
  obtain ⟨hnonneg, hle, hstop⟩ := hwithin last (by simp)
  have hlength : (data.take last.start.toNat).length = last.start.toNat := by
    rw [List.length_take]
    omega
  have hkept : (replaceAll after data).take last.stop.toNat = data.take last.stop.toNat := by
    refine take_replaceAll ?_ (by omega)
    intro e he
    have := hbehind last (by simp) e he
    omega
  have hfirst : (replaceAll after data).take last.start.toNat = data.take last.start.toNat := by
    have htake := congrArg (List.take last.start.toNat) hkept
    rwa [List.take_take, List.take_take, Nat.min_eq_left (by omega)] at htake
  have hinsertions : ∀ e ∈ insertions, e.start = last.start ∧ e.stop = last.start := by
    intro e he
    have hstart := hstarts e he
    have hstop := (List.pairwise_append.1 hhere).2.2 e he last List.mem_cons_self
    have := (hwithin e (by simp [he])).start_le_stop
    omega
  have hinside : ∀ e ∈ before, e.Within (data.take last.start.toNat).length := by
    intro e he
    have hstop := hahead e he last (by simp)
    have hedit := hwithin e (List.mem_append_left _ he)
    exact ⟨hedit.start_nonneg, hedit.start_le_stop, by omega⟩
  refine ⟨hkept, ?_⟩
  rw [replaceAll_append, replaceAll_append, replaceAll_append, replaceAll_cons, replaceAll_nil,
    replace, hfirst, List.append_assoc, replaceAll_insertions hlength hinsertions,
    List.append_assoc, replaceAll_append_data hinside hbefore]
  simp

theorem filter_start_filter (test : Int → Bool) (edits : List Edit) (k : Int) :
    (edits.filter fun e => test e.start).filter (fun e => e.start = k) =
      if test k then edits.filter fun e => e.start = k else [] := by
  rw [List.filter_filter]
  by_cases hk : test k = true
  · rw [if_pos hk]
    apply List.filter_congr
    intro e _
    by_cases he : e.start = k
    · simp [he, hk]
    · simp [he]
  · rw [if_neg hk]
    apply List.filter_eq_nil_iff.2
    intro e _ he
    rw [Bool.and_eq_true, decide_eq_true_iff] at he
    exact hk (he.1 ▸ he.2)

/-- The order of edits by one of their starts: those before it, those at it and those after it. -/
theorem inOrder_eq_append (edits : List Edit) (offset : Int) :
    inOrder edits =
      inOrder (edits.filter fun e => e.start < offset) ++
        ((edits.filter fun e => e.start = offset) ++
          inOrder (edits.filter fun e => offset < e.start)) := by
  have hbefore : ∀ e ∈ inOrder (edits.filter fun e => e.start < offset), e.start < offset := by
    intro e he
    simpa using (List.mem_filter.1 ((inOrder_perm _).mem_iff.1 he)).2
  have hafter : ∀ e ∈ inOrder (edits.filter fun e => offset < e.start), offset < e.start := by
    intro e he
    simpa using (List.mem_filter.1 ((inOrder_perm _).mem_iff.1 he)).2
  have hat : ∀ e ∈ edits.filter fun e => e.start = offset, e.start = offset := by
    intro e he
    simpa using (List.mem_filter.1 he).2
  symm
  apply eq_inOrder
  · rw [List.pairwise_append, List.pairwise_append]
    refine ⟨pairwise_start_inOrder _, ⟨?_, pairwise_start_inOrder _, ?_⟩, ?_⟩
    · refine List.pairwise_of_forall_mem_list ?_
      intro a ha b hb
      exact Int.le_of_eq ((hat a ha).trans (hat b hb).symm)
    · intro a ha b hb
      have := hat a ha
      have := hafter b hb
      omega
    · intro a ha b hb
      have := hbefore a ha
      rcases List.mem_append.1 hb with hb | hb
      · have := hat b hb
        omega
      · have := hafter b hb
        omega
  · -- at each start all edits come from one of the three parts
    intro k
    rw [List.filter_append, List.filter_append, sameByKey_inOrder _ k, sameByKey_inOrder _ k,
      filter_start_filter (fun i => decide (i < offset)),
      filter_start_filter (fun i => decide (i = offset)),
      filter_start_filter (fun i => decide (offset < i))]
    rcases Int.lt_trichotomy k offset with hk | rfl | hk
    · simp [hk, Int.ne_of_lt hk, Int.not_lt.2 (Int.le_of_lt hk)]
    · simp
    · simp [hk, (Int.ne_of_lt hk).symm, Int.not_lt.2 (Int.le_of_lt hk)]

/-- Where edits do not overlap, the texts at one offset follow each other in the order of the list.
Before them stands what the earlier edits leave of the bytes up to there, after them what the later
edits leave of the bytes from the end of the last one on. -/
theorem splice_eq_append (hwithin : ∀ e ∈ edits, e.Within data.length)
    (hseparate : Separate (inOrder edits)) {last : Edit}
    (hlast : (edits.filter fun e => e.start = last.start).getLast? = some last) :
    ∃ before after,
      splice (data.take last.start.toNat) (edits.filter fun e => e.start < last.start) =
        .ok before ∧
      splice data (edits.filter fun e => last.start < e.start) =
        .ok (data.take last.stop.toNat ++ after) ∧
      splice data edits =
        .ok (before ++
          (edits.filter fun e => e.start = last.start).flatMap (fun e => Text.Utf8.encode e.text) ++
          after) := by
  obtain ⟨insertions, hhere⟩ := List.getLast?_eq_some_iff.1 hlast
  have hsplit := inOrder_eq_append edits last.start
  have hwithinOrder : ∀ e ∈ inOrder edits, e.Within data.length :=
    fun e he => hwithin e ((inOrder_perm edits).mem_iff.1 he)
  have hstarts : ∀ e ∈ insertions, e.start = last.start := by
    intro e he
    have hmem : e ∈ edits.filter fun e => e.start = last.start := by simp [hhere, he]
    simpa using (List.mem_filter.1 hmem).2
  have hspliced := splice_eq_replaceAll hwithin hseparate
  rw [hsplit, hhere] at hspliced hseparate hwithinOrder
  obtain ⟨hkept, hall⟩ := replaceAll_eq_append hwithinOrder hseparate hstarts
  obtain ⟨hearlier, hrest, hahead⟩ := List.pairwise_append.1 hseparate
  refine ⟨_, (replaceAll (inOrder (edits.filter fun e => last.start < e.start)) data).drop
    last.stop.toNat, splice_eq_replaceAll ?_ hearlier, ?_, ?_⟩
  · intro e he
    have hmem := (inOrder_perm _).mem_iff.2 he
    have hstop := hahead e hmem last (by simp)
    have hlast := hwithinOrder last (by simp)
    obtain ⟨hnonneg, hle, -⟩ := hwithinOrder e (List.mem_append_left _ hmem)
    have := hlast.start_le_stop
    have := hlast.stop_le
    exact ⟨hnonneg, hle, by rw [List.length_take]; omega⟩
  · rw [← hkept, List.take_append_drop]
    exact splice_eq_replaceAll (fun e he => hwithin e (List.mem_filter.1 he).1)
      (List.pairwise_append.1 hrest).2.1
  · rw [hspliced, hall, hhere]

/-- One pass over edits of some bytes fails for an overlap if and only if an edit starts before the
end of one that precedes it, and otherwise leaves what the edits leave one at a time, from the last
to the first. So edits with different starts may change places in the list, and the texts at one
offset follow each other in the order of the list. -/
theorem splice_one_by_one (hwithin : ∀ e ∈ edits, e.Within data.length) :
    ((∃ start, apply data edits = .error (.overlap start)) ↔ Overlaps edits) ∧
    (¬ Overlaps edits → ∃ ordered, IsOrdered edits ordered ∧
      Leaves data edits (replaceAll (ordered.map (·.1)) data)) ∧
    (∀ other, SameByKey Edit.start other edits → apply data other = apply data edits) ∧
    (¬ Overlaps edits → ∀ last,
      (edits.filter fun e => e.start = last.start).getLast? = some last → ∃ before after,
        splice (data.take last.start.toNat) (edits.filter fun e => e.start < last.start) =
          .ok before ∧
        splice data (edits.filter fun e => last.start < e.start) =
          .ok (data.take last.stop.toNat ++ after) ∧
        Leaves data edits
          (before ++
            (edits.filter fun e => e.start = last.start).flatMap
              (fun e => Text.Utf8.encode e.text) ++
            after)) := by
  refine ⟨?_, ?_, ?_, ?_⟩
  · rw [overlap_iff_not_separate fun e he => (hwithin e he).start_nonneg, separate_inOrder_iff,
      not_not]
  · intro hapart
    obtain ⟨ordered, hordered, hmap⟩ := exists_isOrdered edits
    refine ⟨ordered, hordered, ?_⟩
    rw [hmap]
    exact leaves_of_splice (splice_eq_replaceAll hwithin ((separate_inOrder_iff edits).2 hapart))
  · intro other hother
    unfold apply splice
    rw [inOrder_congr hother]
  · intro hapart last hlast
    obtain ⟨before, after, hbefore, hafter, hall⟩ :=
      splice_eq_append hwithin ((separate_inOrder_iff edits).2 hapart) hlast
    exact ⟨before, after, hbefore, hafter, leaves_of_splice hall⟩

/-- Two insertions around an earlier replacement, and a replacement where they go. -/
def fourEdits : List Edit :=
  [⟨2, 2, "x"⟩, ⟨0, 1, "a"⟩, ⟨2, 2, "y"⟩, ⟨2, 3, "z"⟩]

/-- Of `0123` they make `a1xyz3`. -/
theorem splice_fourEdits :
    (∀ e ∈ fourEdits, e.Within 4) ∧ ¬ Overlaps fourEdits ∧
      apply (Text.Utf8.encode "0123") fourEdits = .ok "a1xyz3" := by
  have hwithin : ∀ e ∈ fourEdits, e.Within (Text.Utf8.encode "0123").length := by
    intro e he
    simp only [fourEdits, List.mem_cons, List.not_mem_nil, or_false] at he
    rcases he with rfl | rfl | rfl | rfl <;> exact ⟨by decide, by decide, by decide⟩
  have hapart : ¬ Overlaps fourEdits := by
    simp [Overlaps, Precedes, fourEdits]
  obtain ⟨before, after, hbefore, hafter, hall⟩ :=
    (splice_one_by_one hwithin).2.2.2 hapart ⟨2, 3, "z"⟩ (by decide)
  have hfirst : splice (Text.Utf8.encode "01") [⟨0, 1, "a"⟩] = .ok (Text.Utf8.encode "a1") := by
    rw [splice, inOrder, List.mergeSort_singleton]
    decide +kernel
  have hlater : splice (Text.Utf8.encode "0123") [] = .ok (Text.Utf8.encode "0123") := by
    rw [splice, inOrder, List.mergeSort_nil]
    decide +kernel
  have heqBefore : before = Text.Utf8.encode "a1" := Except.ok.inj (hbefore.symm.trans hfirst)
  have heqAfter :
      Text.Utf8.encode "012" ++ after = Text.Utf8.encode "012" ++ Text.Utf8.encode "3" :=
    Except.ok.inj (hafter.symm.trans hlater)
  rw [heqBefore, List.append_cancel_left heqAfter] at hall
  exact ⟨hwithin, hapart, (hall.apply_eq_ok_iff "a1xyz3").2 (by decide)⟩

end PropTyper.Edit
