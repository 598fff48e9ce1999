import PropTyper.Json.Basic

/-! # Setting members

A list of members with names is looked up by the first of a name. Setting a member changes what its
name leads to and nothing else, and members that are set one after the other are found by the last
of a name.
-/

namespace PropTyper.Json

variable {κ α : Type} [DecidableEq κ]

theorem lookup_setMember_self [BEq κ] [LawfulBEq κ] (name : κ) (value : α) (members : List (κ × α)) :
    (setMember name value members).lookup name = some value := by
  induction members with
  | nil => simp [setMember]
  | cons first rest ih =>
      obtain ⟨n, v⟩ := first
      by_cases h : n = name
      · simp [setMember, h]
      · simp [setMember, h, List.lookup_cons, beq_eq_false_iff_ne.2 (Ne.symm h), ih]

theorem lookup_setMember_of_ne [BEq κ] [LawfulBEq κ] {name other : κ} (h : other ≠ name) (value : α)
    (members : List (κ × α)) : (setMember name value members).lookup other = members.lookup other := by
  induction members with
  | nil => simp [setMember, List.lookup_cons, beq_eq_false_iff_ne.2 h]
  | cons first rest ih =>
      obtain ⟨n, v⟩ := first
      by_cases hn : n = name
      · simp [setMember, hn, List.lookup_cons, beq_eq_false_iff_ne.2 h]
      · simp only [setMember, if_neg hn, List.lookup_cons, ih]

/-- A name that is there keeps its place, and a new one comes last. -/
theorem map_fst_setMember (name : κ) (value : α) (members : List (κ × α)) :
    (setMember name value members).map Prod.fst =
      if name ∈ members.map Prod.fst then members.map Prod.fst
      else members.map Prod.fst ++ [name] := by
  induction members with
  | nil => simp [setMember]
  | cons first rest ih =>
      obtain ⟨n, v⟩ := first
      by_cases h : n = name
      · simp [setMember, h]
      · have hne : name ≠ n := Ne.symm h
        simp only [setMember, if_neg h, List.map_cons, ih, List.mem_cons, hne, false_or]
        split <;> rfl

theorem setMember_of_not_mem {name : κ} {members : List (κ × α)}
    (h : name ∉ members.map Prod.fst) (value : α) :
    setMember name value members = members ++ [(name, value)] := by
  induction members with
  | nil => rfl
  | cons first rest ih =>
      obtain ⟨n, v⟩ := first
      rw [List.map_cons, List.mem_cons, not_or] at h
      rw [setMember, if_neg (Ne.symm h.1), ih h.2, List.cons_append]

theorem mem_setMember {name : κ} {value : α} {members : List (κ × α)} {m : κ × α}
    (h : m ∈ setMember name value members) : m = (name, value) ∨ m ∈ members := by
  induction members with
  | nil => exact .inl (List.mem_singleton.1 h)
  | cons first rest ih =>
      obtain ⟨n, v⟩ := first
      rw [setMember] at h
      split at h
      · next hn =>
        rcases List.mem_cons.1 h with rfl | h
        · exact .inl (by rw [hn])
        · exact .inr (List.mem_cons_of_mem _ h)
      · rcases List.mem_cons.1 h with rfl | h
        · exact .inr List.mem_cons_self
        · exact (ih h).imp_right (List.mem_cons_of_mem _)

theorem setMember_setMember (name : κ) (old value : α) (members : List (κ × α)) :
    setMember name value (setMember name old members) = setMember name value members := by
  induction members with
  | nil => simp [setMember]
  | cons first rest ih =>
      obtain ⟨n, v⟩ := first
      by_cases h : n = name <;> simp [setMember, h, ih]

theorem setMember_comm {name other : κ} (h : name ≠ other) (value value' : α)
    {members : List (κ × α)} (hmem : name ∈ members.map Prod.fst) :
    setMember name value (setMember other value' members) =
      setMember other value' (setMember name value members) := by
  induction members with
  | nil => simp at hmem
  | cons first rest ih =>
      obtain ⟨n, v⟩ := first
      rw [List.map_cons, List.mem_cons] at hmem
      by_cases hn : n = name
      · subst hn
        simp [setMember, h]
      · have hrest := hmem.resolve_left (Ne.symm hn)
        by_cases ho : n = other
        · subst ho
          simp [setMember, hn]
        · simp [setMember, hn, ho, ih hrest]

/-! ## Members set in turn -/

def setAll (new members : List (κ × α)) : List (κ × α) :=
  new.foldl (fun all m => setMember m.1 m.2 all) members

theorem setAll_cons (m : κ × α) (new members : List (κ × α)) :
    setAll (m :: new) members = setAll new (setMember m.1 m.2 members) := rfl

theorem distinctMembers_eq (members : List (κ × α)) : distinctMembers members = setAll members [] :=
  rfl

theorem setAll_append (first second members : List (κ × α)) :
    setAll (first ++ second) members = setAll second (setAll first members) := by
  simp [setAll]

theorem lookup_setAll [BEq κ] [LawfulBEq κ] (new members : List (κ × α)) (name : κ) :
    (setAll new members).lookup name = (new.reverse.lookup name).or (members.lookup name) := by
  induction new generalizing members with
  | nil => simp [setAll]
  | cons m rest ih =>
      obtain ⟨n, v⟩ := m
      rw [setAll_cons, ih, List.reverse_cons, List.lookup_append]
      by_cases h : name = n
      · subst h
        rw [lookup_setMember_self, Option.or_assoc]
        simp
      · rw [lookup_setMember_of_ne h, Option.or_assoc]
        simp [List.lookup_cons, beq_eq_false_iff_ne.2 h]

theorem nodup_setMember {members : List (κ × α)} (h : (members.map Prod.fst).Nodup) (name : κ)
    (value : α) : ((setMember name value members).map Prod.fst).Nodup := by
  rw [map_fst_setMember]
  split
  · exact h
  · next hnot =>
    rw [List.nodup_append]
    refine ⟨h, by simp, fun a ha b hb heq => hnot ?_⟩
    rwa [← List.mem_singleton.1 hb, ← heq]

theorem nodup_setAll {new members : List (κ × α)} (h : (members.map Prod.fst).Nodup) :
    ((setAll new members).map Prod.fst).Nodup := by
  induction new generalizing members with
  | nil => exact h
  | cons m rest ih => exact ih (nodup_setMember h m.1 m.2)

theorem mem_setAll {new members : List (κ × α)} {m : κ × α} (h : m ∈ setAll new members) :
    m ∈ new ∨ m ∈ members := by
  induction new generalizing members with
  | nil => exact .inr h
  | cons n rest ih =>
      rcases ih h with hrest | hset
      · exact .inl (List.mem_cons_of_mem _ hrest)
      · rcases mem_setMember hset with rfl | hmem
        · exact .inl List.mem_cons_self
        · exact .inr hmem

theorem setAll_of_nodup {new members : List (κ × α)} (h : ((members ++ new).map Prod.fst).Nodup) :
    setAll new members = members ++ new := by
  induction new generalizing members with
  | nil => simp [setAll]
  | cons m rest ih =>
      have hnot : m.1 ∉ members.map Prod.fst := by
        rw [List.map_append, List.map_cons] at h
        intro hmem
        exact (List.nodup_append.1 h).2.2 m.1 hmem m.1 List.mem_cons_self rfl
      rw [setAll_cons, setMember_of_not_mem hnot, ih (by simpa using h), List.append_assoc,
        List.singleton_append]

theorem distinctMembers_of_nodup {members : List (κ × α)} (h : (members.map Prod.fst).Nodup) :
    distinctMembers members = members :=
  setAll_of_nodup h

theorem mem_setMember_names (name : κ) (value : α) (members : List (κ × α)) :
    name ∈ (setMember name value members).map Prod.fst := by
  rw [map_fst_setMember]
  split
  · assumption
  · simp

theorem setMember_setAll {name : κ} (value : α) {new : List (κ × α)}
    (hnew : name ∉ new.map Prod.fst) {members : List (κ × α)} (hmem : name ∈ members.map Prod.fst) :
    setMember name value (setAll new members) = setAll new (setMember name value members) := by
  induction new generalizing members with
  | nil => rfl
  | cons m rest ih =>
      rw [List.map_cons, List.mem_cons, not_or] at hnew
      have hthere : name ∈ (setMember m.1 m.2 members).map Prod.fst := by
        rw [map_fst_setMember]
        split
        · exact hmem
        · exact List.mem_append_left _ hmem
      rw [setAll_cons, setAll_cons, ih hnew.2 hthere, setMember_comm hnew.1 _ _ hmem]

theorem setAll_setMember {new : List (κ × α)} (hnew : (new.map Prod.fst).Nodup) (name : κ) (value : α)
    (members : List (κ × α)) :
    setAll (setMember name value new) members = setMember name value (setAll new members) := by
  induction new generalizing members with
  | nil => rfl
  | cons m rest ih =>
      obtain ⟨n, v⟩ := m
      rw [List.map_cons, List.nodup_cons] at hnew
      by_cases h : n = name
      · subst h
        rw [setMember, if_pos rfl, setAll_cons, setAll_cons,
          setMember_setAll value hnew.1 (mem_setMember_names n v members), setMember_setMember]
      · rw [setMember, if_neg h, setAll_cons, ih hnew.2, setAll_cons]

theorem setAll_distinctMembers (new members : List (κ × α)) :
    setAll (distinctMembers new) members = setAll new members := by
  have hprefix : ∀ first : List (κ × α), (first.map Prod.fst).Nodup →
      setAll (setAll new first) members = setAll new (setAll first members) := by
    induction new with
    | nil => exact fun _ _ => rfl
    | cons m rest ih =>
        intro first hfirst
        rw [setAll_cons, setAll_cons, ih _ (nodup_setMember hfirst m.1 m.2), setAll_setMember hfirst]
  exact hprefix [] List.nodup_nil

end PropTyper.Json
