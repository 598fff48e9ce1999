import PropTyper.Proofs.Files.Store

/-! # Paths that lead straight down

Where no name leads up again and none is too long, a path leads to the place that its names spell, if
it leads anywhere. Making the directories on the way to such a place brings nothing to it.
-/

namespace PropTyper

/-- No name of the path leads up, and it can be followed whatever the directories hold. -/
structure Path.IsPlain (p : Path) : Prop where
  no_dots : ".." ∉ p.names
  short_names : ∀ name ∈ p.names, Path.isLongName name = false
  not_long : p.isLong = false

namespace Store

variable {s s' : Store} {p : Path}

def find? (s : Store) (p : Path) : Option Entry :=
  (s.entry p).toOption

theorem follow_eq_append {here names place : List String} (hdots : ".." ∉ names)
    (h : s.follow here names = .ok place) : place = here ++ names := by
  induction names generalizing here with
  | nil =>
      injection h with h
      rw [List.append_nil, h]
  | cons name rest ih =>
      rw [List.mem_cons, not_or] at hdots
      obtain ⟨entries, -, hstep⟩ := follow_cons_eq_ok h
      rcases hstep with ⟨hname, -⟩ | ⟨-, -, -, hrest⟩
      · exact (hdots.1 hname.symm).elim
      · rw [ih hdots.2 hrest, List.append_assoc, List.singleton_append]

theorem follow_cases {here names : List String} (hdots : ".." ∉ names)
    (hshort : ∀ name ∈ names, Path.isLongName name = false) {e : Entry} (hhere : s.get? here = some e) :
    ((∃ e, s.get? (here ++ names) = some e) ∧ s.follow here names = .ok (here ++ names)) ∨
      s.get? (here ++ names) = none ∧ ∃ cause, s.follow here names = .error cause ∧ cause ≠ .tooLong := by
  induction names generalizing here e with
  | nil => exact .inl ⟨⟨e, by rw [List.append_nil, hhere]⟩, by rw [List.append_nil]; rfl⟩
  | cons name rest ih =>
      rw [List.mem_cons, not_or] at hdots
      rw [List.forall_mem_cons] at hshort
      have hbelow : s.get? (here ++ name :: rest) = (e.entries.lookup name).bind (·.get? rest) := by
        rw [Entry.get?_append, hhere, Option.bind_some, Entry.get?_cons]
      cases e with
      | file content =>
          refine .inr ⟨by rw [hbelow]; rfl, .notDirectory, ?_, by decide⟩
          rw [follow, hhere]
      | directory entries =>
          have hstep : s.follow here (name :: rest) =
              if (entries.lookup name).isSome then s.follow (here ++ [name]) rest
              else .error .notFound := by
            rw [follow, hhere]
            simp only [if_neg (Ne.symm hdots.1), hshort.1]
            cases entries.lookup name <;> rfl
          cases hlookup : entries.lookup name with
          | none =>
              refine .inr ⟨by rw [hbelow, Entry.entries, hlookup]; rfl, .notFound, ?_, by decide⟩
              rw [hstep, hlookup]
              rfl
          | some below =>
              have hnext : s.get? (here ++ [name]) = some below := by
                rw [Entry.get?_append, hhere, Option.bind_some, Entry.get?_singleton]
                exact hlookup
              have hrest := ih hdots.2 hshort.2 hnext
              rw [List.append_assoc, List.singleton_append] at hrest
              rw [hstep, hlookup]
              exact hrest

theorem entry_cases (hp : p.IsPlain) (hnull : p.hasNull = false) (hroot : p.root = "") :
    (∃ e, s.get? p.names = some e ∧ s.entry p = .ok e) ∨
      s.get? p.names = none ∧ ∃ cause, s.entry p = .error cause ∧ cause ≠ .tooLong := by
  have hresolve : s.resolve p = s.follow [] p.names := resolve_of_follow hnull hp.not_long hroot
  have hhere : s.get? [] = some s := rfl
  unfold entry
  rcases follow_cases hp.no_dots hp.short_names hhere with
    ⟨⟨e, he⟩, hfollow⟩ | ⟨hnone, cause, hfollow, hcause⟩
  · rw [List.nil_append] at he hfollow
    exact .inl ⟨e, he, by rw [hresolve, hfollow]; simp only [he]⟩
  · exact .inr ⟨hnone, cause, by rw [hresolve, hfollow], hcause⟩

theorem entry_of_outside (hp : p.IsPlain) (h : p.hasNull = true ∨ p.root ≠ "") :
    ∃ cause, s.entry p = .error cause ∧ cause ≠ .tooLong := by
  unfold entry resolve
  cases hnull : p.hasNull with
  | true => exact ⟨.nullByte, rfl, by decide⟩
  | false =>
      have hroot : p.root ≠ "" := by simpa [hnull] using h
      have hhead : p.names.head?.any Path.isLongName = false := by
        cases hnames : p.names with
        | nil => rfl
        | cons name rest => exact hp.short_names name (hnames ▸ List.mem_cons_self)
      exact ⟨.notFound, by simp [hp.not_long, hroot, hhead], by decide⟩

/-- What a plain path leads to is found by its names, if it can be asked for at all. -/
theorem find?_eq (hp : p.IsPlain) :
    s.find? p = if p.hasNull = false ∧ p.root = "" then s.get? p.names else none := by
  unfold find?
  split
  · next h =>
    rcases entry_cases (s := s) hp h.1 h.2 with ⟨e, he, hentry⟩ | ⟨hnone, cause, hentry, -⟩
    · rw [hentry, he]
      rfl
    · rw [hentry, hnone]
      rfl
  · next h =>
    have houtside : p.hasNull = true ∨ p.root ≠ "" := by
      cases hnull : p.hasNull <;> simp_all
    obtain ⟨cause, hentry, -⟩ := entry_of_outside (s := s) hp houtside
    rw [hentry]
    rfl

theorem find?_eq_none (hp : p.IsPlain) (h : s.find? p = none) :
    ∃ cause, s.entry p = .error cause ∧ cause ≠ .tooLong := by
  by_cases hinside : p.hasNull = false ∧ p.root = ""
  · rcases entry_cases (s := s) hp hinside.1 hinside.2 with ⟨e, -, hentry⟩ | ⟨-, cause, hentry, hcause⟩
    · rw [find?, hentry] at h
      cases h
    · exact ⟨cause, hentry, hcause⟩
  · exact entry_of_outside hp (by cases hnull : p.hasNull <;> simp_all)

/-! ## Directories on the way -/

theorem makeDirectory_eq_ok (h : s.makeDirectory p = .ok s') :
    ∃ place, s.newPlace p = .ok (some place) ∧ s.get? place = none ∧
      s' = Entry.put (.directory []) place s := by
  unfold makeDirectory faultAt at h
  split at h
  · cases h
  · cases h
  · next place hplace =>
    split at h
    · cases h
    · next hvacant =>
      injection h with h
      exact ⟨place, hplace, hvacant, h.symm⟩

theorem newPlace_of_no_dots {place : List String} (hdots : ".." ∉ p.names)
    (h : s.newPlace p = .ok (some place)) : place = p.names := by
  obtain ⟨-, -, hnames, -, -, directory, entries, hparent, -, rfl⟩ := newPlace_eq_some h
  obtain ⟨-, -, -, hfollow⟩ := resolve_eq_ok hparent
  have hparents : ".." ∉ p.parent.names := fun hmem => hdots (List.dropLast_subset _ hmem)
  rw [follow_eq_append hparents hfollow, List.nil_append]
  exact (Path.names_eq_parent_append hnames).symm

theorem ensureDirectory_of_there (hplace : s.newPlace p = .ok none) (hthere : s.hasDirectory p = true) :
    s.ensureDirectory p = .ok s := by
  have hmade : s.makeDirectory p = .error ⟨.alreadyThere, p.toString⟩ := by
    rw [makeDirectory, hplace]
    rfl
  rw [ensureDirectory, hmade]
  simp [hthere]

theorem get?_of_ensureDirectory (hdots : ".." ∉ p.names) (h : s.ensureDirectory p = .ok s')
    (name : String) (rest : List String) :
    s'.get? (p.names ++ name :: rest) = s.get? (p.names ++ name :: rest) := by
  unfold ensureDirectory at h
  split at h
  · next made hmade =>
    injection h with h
    subst h
    obtain ⟨place, hplace, hvacant, rfl⟩ := makeDirectory_eq_ok hmade
    rw [newPlace_of_no_dots hdots hplace] at hvacant ⊢
    rw [Entry.get?_put_append, Entry.get?_append, hvacant]
    rfl
  · split at h
    · injection h with h
      rw [h]
    · cases h

theorem get?_of_ensureDirectories (s : Store) {p : Path} (hdots : ".." ∉ p.names) (name : String)
    (rest : List String) :
    (s.ensureDirectories p).1.get? (p.names ++ name :: rest) = s.get? (p.names ++ name :: rest) := by
  -- what is below a path is below its parent
  have hup : ∀ {p : Path}, p.names ≠ [] → ∀ name rest,
      p.names ++ name :: rest = p.parent.names ++ p.name :: name :: rest := fun {p} hnames name rest => by
    calc p.names ++ name :: rest
      _ = (p.parent.names ++ [p.name]) ++ name :: rest := by rw [← Path.names_eq_parent_append hnames]
      _ = p.parent.names ++ p.name :: name :: rest := by simp
  fun_induction ensureDirectories s p generalizing name rest with
  | case1 p made hmade => exact get?_of_ensureDirectory hdots hmade name rest
  | case2 p fault hmade hfault => rfl
  | case3 p fault hmade hfault hnames => rfl
  | case4 p fault hmade hfault hnames made later hlater ih =>
      have hparent := ih (fun hmem => hdots (List.dropLast_subset _ hmem)) p.name (name :: rest)
      rwa [hlater, ← hup hnames] at hparent
  | case5 p fault hmade hfault hnames made hlater again hagain ih =>
      have hparent := ih (fun hmem => hdots (List.dropLast_subset _ hmem)) p.name (name :: rest)
      rw [hlater, ← hup hnames] at hparent
      rw [get?_of_ensureDirectory hdots hagain, hparent]
  | case6 p fault hmade hfault hnames made hlater later hagain ih =>
      have hparent := ih (fun hmem => hdots (List.dropLast_subset _ hmem)) p.name (name :: rest)
      rwa [hlater, ← hup hnames] at hparent

/-- Making the directories for a plain path leaves it leading where it did. -/
theorem find?_of_ensureDirectories (hp : p.IsPlain) (hinside : p.root = "" → p.names ≠ []) :
    (s.ensureDirectories p.parent).1.find? p = s.find? p := by
  have hdots : ".." ∉ p.parent.names := fun hmem => hp.no_dots (List.dropLast_subset _ hmem)
  rw [find?_eq hp, find?_eq hp]
  split
  · next h =>
    rw [Path.names_eq_parent_append (hinside h.2), get?_of_ensureDirectories s hdots p.name []]
  · rfl

theorem names_ne_nil_of_find? (hp : p.IsPlain) (h : s.find? p = none) (hroot : p.root = "") :
    p.names ≠ [] := by
  intro hnames
  have hnull : p.hasNull = false := by rw [Path.hasNull, hnames]; rfl
  rw [find?_eq hp, if_pos ⟨hnull, hroot⟩, hnames] at h
  cases h

theorem entry_of_find? {e : Entry} (h : s.find? p = some e) : s.entry p = .ok e := by
  unfold find? at h
  cases hentry : s.entry p with
  | error cause => simp [hentry, Except.toOption] at h
  | ok found =>
      rw [hentry] at h
      injection h with h
      rw [h]

end Store

end PropTyper
