import PropTyper.Property.Merge
import PropTyper.Proofs.Property.Normalize

/-! # Joining lists by name

A merge of two lists puts one property after the other into a list, where it joins the one of its
name. `joinAll` is this for any way to join two properties: no name occurs twice in the result, and
what every join keeps holds of it.
-/

namespace PropTyper.Property

/-- A list after each of the others has joined it in turn. -/
def joinAll (join : Property → Property → Property) (start others : List Property) :
    List Property :=
  others.foldl (fun all p => insertWith join p all) start

@[simp] theorem joinAll_nil (join : Property → Property → Property) (start : List Property) :
    joinAll join start [] = start := rfl

@[simp] theorem joinAll_cons (join : Property → Property → Property) (start : List Property)
    (p : Property) (others : List Property) :
    joinAll join start (p :: others) = joinAll join (insertWith join p start) others := rfl

theorem joinAll_append (join : Property → Property → Property) (start first second : List Property) :
    joinAll join start (first ++ second) = joinAll join (joinAll join start first) second :=
  List.foldl_append

variable {join join' : Property → Property → Property} {start others : List Property}

theorem insertWith_congr {p : Property} (h : ∀ q ∈ start, join q p = join' q p) :
    insertWith join p start = insertWith join' p start := by
  induction start with
  | nil => rfl
  | cons q rest ih =>
      simp only [insertWith]
      rw [h q List.mem_cons_self, ih fun r hr => h r (List.mem_cons_of_mem q hr)]

theorem mergeListsWith_eq (merge : MergeMode → Property → Property → Property) (mode : MergeMode)
    (binding : List String) (base other : List Property) :
    mergeListsWith merge mode binding base other =
      joinAll (fun q p => merge (if binding.contains p.name then .authoritative else mode) q p)
        (joinAll (merge .peer) [] base) other := by
  have step : (fun all p => insertWith
        (merge (if binding.contains p.name then .authoritative else mode)) p all) =
      fun all p => insertWith
        (fun q p => merge (if binding.contains p.name then .authoritative else mode) q p) p all := by
    funext all p
    exact insertWith_congr fun _ _ => rfl
  unfold mergeListsWith joinAll
  rw [step]

theorem mem_insertWith {p x : Property} (h : x ∈ insertWith join p start) :
    x ∈ start ∨ x = p ∨ ∃ q ∈ start, q.name = p.name ∧ x = join q p := by
  induction start with
  | nil => exact .inr (.inl (List.mem_singleton.1 h))
  | cons q rest ih =>
      unfold insertWith at h
      split at h
      · next hname =>
        rcases List.mem_cons.1 h with rfl | hx
        · exact .inr (.inr ⟨q, List.mem_cons_self, hname, rfl⟩)
        · exact .inl (List.mem_cons_of_mem q hx)
      · rcases List.mem_cons.1 h with rfl | hx
        · exact .inl List.mem_cons_self
        · rcases ih hx with hx | rfl | ⟨r, hr, hname, rfl⟩
          · exact .inl (List.mem_cons_of_mem q hx)
          · exact .inr (.inl rfl)
          · exact .inr (.inr ⟨r, List.mem_cons_of_mem q hr, hname, rfl⟩)

theorem forall_mem_joinAll_of_name {P : Property → Prop}
    (hjoin : ∀ q p, q.name = p.name → P q → P p → P (join q p))
    (hstart : ∀ p ∈ start, P p) (hothers : ∀ p ∈ others, P p) :
    ∀ x ∈ joinAll join start others, P x := by
  induction others generalizing start with
  | nil => exact hstart
  | cons p others ih =>
      have hp : P p := hothers p List.mem_cons_self
      refine ih ?_ fun r hr => hothers r (List.mem_cons_of_mem p hr)
      intro x hx
      rcases mem_insertWith hx with hx | rfl | ⟨q, hq, hname, rfl⟩
      · exact hstart x hx
      · exact hp
      · exact hjoin q p hname (hstart q hq) hp

theorem forall_mem_joinAll {P : Property → Prop} (hjoin : ∀ q p, P q → P p → P (join q p))
    (hstart : ∀ p ∈ start, P p) (hothers : ∀ p ∈ others, P p) :
    ∀ x ∈ joinAll join start others, P x :=
  forall_mem_joinAll_of_name (fun q p _ => hjoin q p) hstart hothers

theorem forall_mem_mergeListsWith {P : Property → Prop}
    {merge : MergeMode → Property → Property → Property} {base other : List Property}
    (hmerge : ∀ mode q p, q.name = p.name → P q → P p → P (merge mode q p))
    (hbase : ∀ p ∈ base, P p) (hother : ∀ p ∈ other, P p) (mode : MergeMode)
    (binding : List String) : ∀ x ∈ mergeListsWith merge mode binding base other, P x := by
  rw [mergeListsWith_eq]
  refine forall_mem_joinAll_of_name (fun q p => hmerge _ q p) ?_ hother
  exact forall_mem_joinAll_of_name (hmerge .peer) (by simp) hbase

theorem joinAll_congr {P : Property → Prop} (hjoin : ∀ q p, P q → P p → P (join q p))
    (hagree : ∀ q p, P q → P p → join q p = join' q p) (hstart : ∀ p ∈ start, P p)
    (hothers : ∀ p ∈ others, P p) : joinAll join start others = joinAll join' start others := by
  induction others generalizing start with
  | nil => rfl
  | cons p others ih =>
      have hp : P p := hothers p List.mem_cons_self
      rw [joinAll_cons, joinAll_cons, ← insertWith_congr fun q hq => hagree q p (hstart q hq) hp]
      have hnext : ∀ x ∈ joinAll join start [p], P x :=
        forall_mem_joinAll hjoin hstart (by simpa using hp)
      exact ih hnext fun r hr => hothers r (List.mem_cons_of_mem p hr)

theorem mergeListsWith_congr {P : Property → Prop}
    {merge merge' : MergeMode → Property → Property → Property} {base other : List Property}
    (hmerge : ∀ mode q p, P q → P p → P (merge mode q p))
    (hagree : ∀ mode q p, P q → P p → merge mode q p = merge' mode q p)
    (hbase : ∀ p ∈ base, P p) (hother : ∀ p ∈ other, P p) (mode : MergeMode)
    (binding : List String) :
    mergeListsWith merge mode binding base other = mergeListsWith merge' mode binding base other := by
  rw [mergeListsWith_eq, mergeListsWith_eq,
    ← joinAll_congr (hmerge .peer) (hagree .peer) (by simp) hbase]
  refine joinAll_congr (fun q p => hmerge _ q p) (fun q p => hagree _ q p) ?_ hother
  exact forall_mem_joinAll (hmerge .peer) (by simp) hbase

/-! ## Names of a merged list -/

theorem map_name_insertWith (hname : ∀ q p, (join q p).name = q.name) (p : Property)
    (start : List Property) :
    (insertWith join p start).map (·.name) =
      if p.name ∈ start.map (·.name) then start.map (·.name)
      else start.map (·.name) ++ [p.name] := by
  induction start with
  | nil => rfl
  | cons q rest ih =>
      unfold insertWith
      by_cases hq : q.name = p.name
      · simp [hq, hname]
      · have hne : ¬ p.name = q.name := fun h => hq h.symm
        rw [if_neg hq, List.map_cons, ih, List.map_cons]
        by_cases hp : p.name ∈ rest.map (·.name)
        · rw [if_pos hp, if_pos (List.mem_cons_of_mem _ hp)]
        · have hmem : p.name ∉ q.name :: rest.map (·.name) := by
            rw [List.mem_cons]
            exact fun h => h.elim hne hp
          rw [if_neg hp, if_neg hmem]
          rfl

theorem nodup_joinAll (hname : ∀ q p, (join q p).name = q.name)
    (hstart : (start.map (·.name)).Nodup) (others : List Property) :
    ((joinAll join start others).map (·.name)).Nodup := by
  induction others generalizing start with
  | nil => exact hstart
  | cons p others ih =>
      refine ih ?_
      rw [map_name_insertWith hname]
      split
      · exact hstart
      · next hp =>
        rw [List.nodup_append]
        refine ⟨hstart, by simp, ?_⟩
        intro a ha b hb hab
        rw [List.mem_singleton.1 hb] at hab
        exact hp (hab ▸ ha)

/-- A joined list has the names of what joins it and no other. -/
theorem mem_names_joinAll (hname : ∀ q p, (join q p).name = q.name) {name : String} :
    name ∈ (joinAll join start others).map (·.name) ↔
      name ∈ start.map (·.name) ∨ name ∈ others.map (·.name) := by
  induction others generalizing start with
  | nil => simp
  | cons p others ih =>
      have hinsert : name ∈ (insertWith join p start).map (·.name) ↔
          name ∈ start.map (·.name) ∨ name = p.name := by
        rw [map_name_insertWith hname]
        split
        · next hp =>
          refine ⟨.inl, ?_⟩
          rintro (h | rfl)
          · exact h
          · exact hp
        · rw [List.mem_append, List.mem_singleton]
      rw [joinAll_cons, ih, hinsert, List.map_cons, List.mem_cons, or_assoc]

theorem mem_insertWith_of_mem {e : Property} (hstart : (start.map (·.name)).Nodup)
    (he : e ∈ start) (p : Property) :
    (if p.name = e.name then join e p else e) ∈ insertWith join p start := by
  induction start with
  | nil => cases he
  | cons q rest ih =>
      obtain ⟨hq, hrest⟩ := List.nodup_cons.1 hstart
      unfold insertWith
      rcases List.mem_cons.1 he with rfl | he
      · by_cases hp : p.name = e.name
        · rw [if_pos hp, if_pos hp.symm]
          exact List.mem_cons_self
        · rw [if_neg hp, if_neg fun h => hp h.symm]
          exact List.mem_cons_self
      · have hne : q.name ≠ e.name := fun h => hq (List.mem_map.2 ⟨e, he, h.symm⟩)
        by_cases hqp : q.name = p.name
        · rw [if_pos hqp, if_neg fun h => hne (hqp.trans h)]
          exact List.mem_cons_of_mem _ he
        · rw [if_neg hqp]
          exact List.mem_cons_of_mem q (ih hrest he)

/-- A property takes up all that joins under its name, in their order. -/
theorem foldl_mem_joinAll {e : Property} (hname : ∀ q p, (join q p).name = q.name)
    (hstart : (start.map (·.name)).Nodup) (he : e ∈ start) (others : List Property) :
    (others.filter fun p => p.name = e.name).foldl join e ∈ joinAll join start others := by
  induction others generalizing start e with
  | nil => exact he
  | cons p others ih =>
      have hnext : ((insertWith join p start).map (·.name)).Nodup :=
        nodup_joinAll hname hstart [p]
      have hmem : (if p.name = e.name then join e p else e) ∈ insertWith join p start :=
        mem_insertWith_of_mem hstart he p
      rw [joinAll_cons, List.filter_cons]
      by_cases hp : p.name = e.name
      · rw [if_pos hp] at hmem
        rw [if_pos (decide_eq_true hp), List.foldl_cons, ← hname e p]
        exact ih hnext hmem
      · rw [if_neg hp] at hmem
        rw [if_neg (by simpa using hp)]
        exact ih hnext hmem

theorem mem_insertWith_cases {p x : Property} (hstart : (start.map (·.name)).Nodup)
    (hx : x ∈ insertWith join p start) :
    (x ∈ start ∧ x.name ≠ p.name) ∨ (x = p ∧ p.name ∉ start.map (·.name)) ∨
      ∃ q ∈ start, q.name = p.name ∧ x = join q p := by
  induction start with
  | nil => exact .inr (.inl ⟨List.mem_singleton.1 hx, by simp⟩)
  | cons q rest ih =>
      obtain ⟨hq, hrest⟩ := List.nodup_cons.1 hstart
      unfold insertWith at hx
      by_cases hqp : q.name = p.name
      · rw [if_pos hqp] at hx
        rcases List.mem_cons.1 hx with rfl | hx
        · exact .inr (.inr ⟨q, List.mem_cons_self, hqp, rfl⟩)
        · refine .inl ⟨List.mem_cons_of_mem q hx, ?_⟩
          intro hname
          exact hq (List.mem_map.2 ⟨x, hx, hname.trans hqp.symm⟩)
      · rw [if_neg hqp] at hx
        rcases List.mem_cons.1 hx with rfl | hx
        · exact .inl ⟨List.mem_cons_self, hqp⟩
        · rcases ih hrest hx with ⟨hx, hname⟩ | ⟨rfl, hfresh⟩ | ⟨r, hr, hname, rfl⟩
          · exact .inl ⟨List.mem_cons_of_mem q hx, hname⟩
          · refine .inr (.inl ⟨rfl, ?_⟩)
            rw [List.map_cons, List.mem_cons]
            exact fun h => h.elim (fun h => hqp h.symm) hfresh
          · exact .inr (.inr ⟨r, List.mem_cons_of_mem q hr, hname, rfl⟩)

/-- Each property of a joined list is one of the start, or else the first of its name to join, with
all later ones of that name in turn. -/
theorem exists_of_mem_joinAll {x : Property} (hname : ∀ q p, (join q p).name = q.name)
    (hstart : (start.map (·.name)).Nodup) (hx : x ∈ joinAll join start others) :
    (∃ e ∈ start, e.name = x.name ∧
        x = (others.filter fun p => p.name = x.name).foldl join e) ∨
      (x.name ∉ start.map (·.name) ∧ ∃ p rest,
        (others.filter fun p => p.name = x.name) = p :: rest ∧ x = rest.foldl join p) := by
  induction others generalizing start with
  | nil => exact .inl ⟨x, hx, rfl, rfl⟩
  | cons p others ih =>
      rw [joinAll_cons] at hx
      have hnext : ((insertWith join p start).map (·.name)).Nodup :=
        nodup_joinAll hname hstart [p]
      rw [List.filter_cons]
      rcases ih hnext hx with ⟨e, he, hex, heq⟩ | ⟨hfresh, q, rest, hfilter, heq⟩
      · rcases mem_insertWith_cases hstart he with ⟨he, hne⟩ | ⟨rfl, hfresh⟩ | ⟨q, hq, hqp, rfl⟩
        · refine .inl ⟨e, he, hex, ?_⟩
          rw [if_neg (by simpa [hex] using hne.symm)]
          exact heq
        · refine .inr ⟨hex ▸ hfresh, e, _, ?_, heq⟩
          rw [if_pos (by simpa using hex)]
        · rw [hname] at hex
          refine .inl ⟨q, hq, hex, ?_⟩
          rw [if_pos (by simp [← hqp, hex])]
          exact heq
      · rw [map_name_insertWith hname] at hfresh
        have hstartFresh : x.name ∉ start.map (·.name) := by
          split at hfresh
          · exact hfresh
          · exact fun h => hfresh (List.mem_append_left _ h)
        have hne : p.name ≠ x.name := by
          intro hp
          split at hfresh
          · next hmem => exact hfresh (hp ▸ hmem)
          · exact hfresh (by simp [hp])
        refine .inr ⟨hstartFresh, q, rest, ?_, heq⟩
        rw [if_neg (by simpa using hne)]
        exact hfilter

/-- Where only names of the start join, each of its properties takes up those of its name. -/
theorem joinAll_eq_map (hname : ∀ q p, (join q p).name = q.name)
    (hstart : (start.map (·.name)).Nodup)
    (hothers : ∀ p ∈ others, p.name ∈ start.map (·.name)) :
    joinAll join start others =
      start.map fun e => (others.filter fun p => p.name = e.name).foldl join e := by
  induction others generalizing start with
  | nil => simp
  | cons p others ih =>
      have hinsert : insertWith join p start =
          start.map fun e => if p.name = e.name then join e p else e := by
        have hp : p.name ∈ start.map (·.name) := hothers p List.mem_cons_self
        clear ih hothers
        induction start with
        | nil => cases hp
        | cons q rest ihs =>
            obtain ⟨hq, hrest⟩ := List.nodup_cons.1 hstart
            rw [insertWith, List.map_cons]
            by_cases hqp : q.name = p.name
            · rw [if_pos hqp, if_pos hqp.symm]
              refine congrArg (join q p :: ·) ?_
              refine ((List.map_congr_left ?_).trans (List.map_id _)).symm
              intro e he
              rw [if_neg fun h => hq (List.mem_map.2 ⟨e, he, (hqp.trans h).symm⟩), id]
            · rw [if_neg hqp, if_neg fun h => hqp h.symm]
              refine congrArg (q :: ·) (ihs hrest ?_)
              rcases List.mem_cons.1 hp with h | h
              · exact (hqp h.symm).elim
              · exact h
      have hnames : (insertWith join p start).map (·.name) = start.map (·.name) := by
        rw [map_name_insertWith hname, if_pos (hothers p List.mem_cons_self)]
      rw [joinAll_cons, ih (hnames ▸ hstart)
        fun r hr => hnames ▸ hothers r (List.mem_cons_of_mem p hr), hinsert, List.map_map]
      refine List.map_congr_left ?_
      intro e _
      rw [Function.comp_apply, List.filter_cons]
      by_cases hpe : p.name = e.name
      · rw [if_pos hpe, hname, if_pos (decide_eq_true hpe), List.foldl_cons]
      · rw [if_neg hpe, if_neg (by simpa using hpe)]

theorem exists_mem_insertWith {P : Property → Prop} {p : Property}
    (hjoin : ∀ q, P q → P (join q p)) (h : ∃ q ∈ start, P q) :
    ∃ q ∈ insertWith join p start, P q := by
  obtain ⟨q, hq, hP⟩ := h
  induction start with
  | nil => cases hq
  | cons r rest ih =>
      unfold insertWith
      rcases List.mem_cons.1 hq with rfl | hq
      · split
        · exact ⟨_, List.mem_cons_self, hjoin q hP⟩
        · exact ⟨q, List.mem_cons_self, hP⟩
      · split
        · exact ⟨q, List.mem_cons_of_mem _ hq, hP⟩
        · obtain ⟨x, hx, hPx⟩ := ih hq
          exact ⟨x, List.mem_cons_of_mem _ hx, hPx⟩

/-- What joining keeps is still there after others have joined. -/
theorem exists_mem_joinAll {P : Property → Prop} (hjoin : ∀ p ∈ others, ∀ q, P q → P (join q p))
    (h : ∃ q ∈ start, P q) : ∃ q ∈ joinAll join start others, P q := by
  induction others generalizing start with
  | nil => exact h
  | cons p others ih =>
      exact ih (fun r hr => hjoin r (List.mem_cons_of_mem p hr))
        (exists_mem_insertWith (hjoin p List.mem_cons_self) h)

theorem exists_mem_insertWith_self {P : Property → Prop} {p : Property} (hself : P p)
    (hfirst : ∀ q ∈ start, q.name = p.name → P (join q p)) :
    ∃ q ∈ insertWith join p start, P q := by
  induction start with
  | nil => exact ⟨p, List.mem_cons_self, hself⟩
  | cons q rest ih =>
      unfold insertWith
      split
      · next hname => exact ⟨_, List.mem_cons_self, hfirst q List.mem_cons_self hname⟩
      · obtain ⟨x, hx, hPx⟩ := ih fun r hr => hfirst r (List.mem_cons_of_mem q hr)
        exact ⟨x, List.mem_cons_of_mem q hx, hPx⟩

theorem exists_mem_joinAll_of_mem {P Q : Property → Prop} {p : Property}
    (hkeep : ∀ q p, Q q → Q p → Q (join q p)) (hstart : ∀ q ∈ start, Q q)
    (hothers : ∀ q ∈ others, Q q) (hp : p ∈ others) (hself : P p)
    (hfirst : ∀ q, Q q → q.name = p.name → P (join q p))
    (hjoin : ∀ r ∈ others, ∀ q, P q → P (join q r)) : ∃ q ∈ joinAll join start others, P q := by
  obtain ⟨before, after, rfl⟩ := List.append_of_mem hp
  rw [joinAll_append, joinAll_cons]
  have hbefore : ∀ q ∈ joinAll join start before, Q q :=
    forall_mem_joinAll hkeep hstart fun q hq => hothers q (List.mem_append_left _ hq)
  refine exists_mem_joinAll ?_
    (exists_mem_insertWith_self hself fun q hq => hfirst q (hbefore q hq))
  exact fun r hr => hjoin r (List.mem_append_right _ (List.mem_cons_of_mem p hr))

/-- Properties of new names come last, in their order. -/
theorem joinAll_of_nodup (h : ((start ++ others).map (·.name)).Nodup) :
    joinAll join start others = start ++ others := by
  induction others generalizing start with
  | nil => simp
  | cons p others ih =>
      have hfresh : ∀ q ∈ start, q.name ≠ p.name := by
        intro q hq
        rw [List.map_append, List.nodup_append] at h
        exact h.2.2 _ (List.mem_map_of_mem hq) _ (List.mem_map_of_mem List.mem_cons_self)
      have hinsert : insertWith join p start = start ++ [p] := by
        clear h ih
        induction start with
        | nil => rfl
        | cons q rest ih =>
            rw [insertWith, if_neg (hfresh q List.mem_cons_self),
              ih fun r hr => hfresh r (List.mem_cons_of_mem q hr)]
            rfl
      rw [joinAll_cons, hinsert, ih (by simpa using h)]
      simp

theorem joinAll_eq_self
    (h : ∀ p ∈ others, (∃ q ∈ start, q.name = p.name) ∧
      ∀ q ∈ start, q.name = p.name → join q p = q) :
    joinAll join start others = start := by
  induction others with
  | nil => rfl
  | cons p others ih =>
      obtain ⟨hex, habsorb⟩ := h p List.mem_cons_self
      have hinsert : insertWith join p start = start := by
        clear h ih
        induction start with
        | nil => simp at hex
        | cons q rest ihs =>
            rw [insertWith]
            by_cases hq : q.name = p.name
            · rw [if_pos hq, habsorb q List.mem_cons_self hq]
            · rw [if_neg hq]
              refine congrArg (q :: ·) (ihs ?_ fun r hr => habsorb r (List.mem_cons_of_mem q hr))
              obtain ⟨r, hr, hrp⟩ := hex
              rcases List.mem_cons.1 hr with rfl | hr
              · exact (hq hrp).elim
              · exact ⟨r, hr, hrp⟩
      rw [joinAll_cons, hinsert]
      exact ih fun r hr => h r (List.mem_cons_of_mem p hr)

end PropTyper.Property
