import PropTyper.Proofs.Files.Store

/-! # Stores of one shape

Two stores have the same shape if they have files and directories at the same places, whatever is in
the files. Paths lead to the same places in both, and a file that is written over another one leaves
the shape as it is. In a tree of directories no directory has a name twice, or one that could not stand
in a path.
-/

namespace PropTyper

def Path.isEntryName (name : String) : Bool :=
  name ≠ "" && name ≠ "." && name ≠ ".." && name.toList.all fun c => c ≠ '/' && c ≠ '\x00'

namespace Entry

def names? : Entry → Option (List String)
  | file _ => none
  | directory entries => some (entries.map Prod.fst)

theorem isSome_lookup_iff {entries : List (String × Entry)} {name : String} :
    (entries.lookup name).isSome ↔ name ∈ entries.map Prod.fst := by
  rw [List.lookup_isSome_iff, List.mem_map]
  exact exists_congr fun e => and_congr_right fun _ => by rw [beq_iff_eq, eq_comm]

end Entry

namespace Store

/-- Files and directories are at the same places, and directories have the same names in the same
order. -/
def SameShape (s s' : Store) : Prop :=
  ∀ place, (s'.get? place).map Entry.names? = (s.get? place).map Entry.names?

variable {s s' s'' : Store} {place : List String} {p : Path}

theorem SameShape.refl (s : Store) : SameShape s s :=
  fun _ => rfl

theorem SameShape.symm (h : SameShape s s') : SameShape s' s :=
  fun place => (h place).symm

theorem SameShape.trans (h : SameShape s s') (h' : SameShape s' s'') : SameShape s s'' :=
  fun place => (h' place).trans (h place)

theorem SameShape.get?_cases (h : SameShape s s') (place : List String) :
    (s.get? place = none ∧ s'.get? place = none) ∨
      (∃ old new, s.get? place = some (.file old) ∧ s'.get? place = some (.file new)) ∨
      ∃ old new, s.get? place = some (.directory old) ∧ s'.get? place = some (.directory new) ∧
        new.map Prod.fst = old.map Prod.fst := by
  have hplace := h place
  cases hs : s.get? place with
  | none =>
      rw [hs, Option.map_none, Option.map_eq_none_iff] at hplace
      exact .inl ⟨rfl, hplace⟩
  | some e =>
      rw [hs, Option.map_some, Option.map_eq_some_iff] at hplace
      obtain ⟨e', he', hnames⟩ := hplace
      cases e <;> cases e' <;> simp_all [Entry.names?]

theorem SameShape.follow (h : SameShape s s') (here names : List String) :
    s'.follow here names = s.follow here names := by
  induction names generalizing here with
  | nil => rfl
  | cons name rest ih =>
      rw [Store.follow, Store.follow]
      rcases h.get?_cases here with ⟨hs, hs'⟩ | ⟨old, new, hs, hs'⟩ | ⟨old, new, hs, hs', hnames⟩
      · rw [hs, hs']
      · rw [hs, hs']
      · have hlookup : (new.lookup name).isSome = (old.lookup name).isSome := by
          rw [Bool.eq_iff_iff, Entry.isSome_lookup_iff, Entry.isSome_lookup_iff, hnames]
        rw [hs, hs']
        simp only [ih]
        cases hold : old.lookup name <;> cases hnew : new.lookup name <;> simp_all

theorem SameShape.resolve (h : SameShape s s') (p : Path) : s'.resolve p = s.resolve p := by
  unfold Store.resolve
  rw [h.follow]

theorem SameShape.entry_cases (h : SameShape s s') (p : Path) :
    (∃ cause, s.entry p = .error cause ∧ s'.entry p = .error cause) ∨
      (∃ old new, s.entry p = .ok (.file old) ∧ s'.entry p = .ok (.file new)) ∨
      ∃ old new, s.entry p = .ok (.directory old) ∧ s'.entry p = .ok (.directory new) ∧
        new.map Prod.fst = old.map Prod.fst := by
  unfold Store.entry
  rw [h.resolve]
  cases s.resolve p with
  | error cause => exact .inl ⟨cause, rfl, rfl⟩
  | ok place =>
      dsimp only
      rcases h.get?_cases place with ⟨hs, hs'⟩ | ⟨old, new, hs, hs'⟩ | ⟨old, new, hs, hs', hnames⟩
      · exact .inl ⟨.notFound, by rw [hs], by rw [hs']⟩
      · exact .inr (.inl ⟨old, new, by rw [hs], by rw [hs']⟩)
      · exact .inr (.inr ⟨old, new, by rw [hs], by rw [hs'], hnames⟩)

theorem sameShape_put {old : List UInt8} (h : s.get? place = some (.file old)) (new : List UInt8) :
    SameShape s (Entry.put (.file new) place s) := by
  induction place generalizing s with
  | nil =>
      injection h with h
      subst h
      intro other
      cases other <;> rfl
  | cons name rest ih =>
      rw [Entry.get?_cons, Option.bind_eq_some_iff] at h
      obtain ⟨below, hlookup, hbelow⟩ := h
      rw [Entry.put_cons, hlookup, Option.getD_some]
      cases s with
      | file content => cases hlookup
      | directory entries =>
          rw [Entry.entries] at hlookup ⊢
          have hname : name ∈ entries.map Prod.fst := by
            rw [← Entry.isSome_lookup_iff, hlookup]
            rfl
          intro other
          cases other with
          | nil =>
              have hnames := Json.map_fst_setMember name (Entry.put (.file new) rest below) entries
              rw [if_pos hname] at hnames
              simp only [Entry.get?, Entry.names?, Option.map_some, hnames]
          | cons first more =>
              rw [Entry.get?_cons, Entry.get?_cons, Entry.entries, Entry.entries]
              by_cases hfirst : first = name
              · subst hfirst
                rw [Json.lookup_setMember_self, hlookup]
                exact ih hbelow more
              · rw [Json.lookup_setMember_of_ne hfirst]

theorem sameShape_write {old new : List UInt8} (hread : s.read p = .ok old)
    (hwrite : s.write p new = .ok s') : SameShape s s' := by
  obtain ⟨place, hplace, hold⟩ := read_eq_ok_iff.1 hread
  obtain ⟨free, -, rfl, -, huse⟩ := write_eq_ok hwrite
  rw [← huse place hplace]
  exact sameShape_put hold new

/-- What is read stays the same where the file at the place does. -/
theorem SameShape.read (h : SameShape s s')
    (hfile : ∀ place content, s.resolve p = .ok place → s.get? place = some (.file content) →
      s'.get? place = some (.file content)) : s'.read p = s.read p := by
  cases hread : s.read p with
  | ok content =>
      obtain ⟨place, hplace, hcontent⟩ := read_eq_ok_iff.1 hread
      exact read_eq_ok_iff.2 ⟨place, (h.resolve p).trans hplace, hfile place content hplace hcontent⟩
  | error fault =>
      unfold Store.read at hread ⊢
      rcases h.entry_cases p with ⟨cause, hs, hs'⟩ | ⟨old, new, hs, -⟩ | ⟨old, new, hs, hs', -⟩
      · rwa [hs', ← hs]
      · rw [hs] at hread
        cases hread
      · rw [hs] at hread
        rwa [hs']

end Store

/-! ## Trees -/

namespace Entry

mutual

/-- The names in every directory are different, and such as a directory can have. -/
def isTree : Entry → Bool
  | .file _ => true
  | .directory entries => decide (entries.map Prod.fst).Nodup && areTrees entries

def areTrees : List (String × Entry) → Bool
  | [] => true
  | (name, e) :: rest => Path.isEntryName name && e.isTree && areTrees rest

end

theorem areTrees_iff {entries : List (String × Entry)} :
    areTrees entries = true ↔ ∀ e ∈ entries, Path.isEntryName e.1 = true ∧ e.2.isTree = true := by
  induction entries with
  | nil => simp [areTrees]
  | cons first rest ih => rw [areTrees, Bool.and_eq_true, Bool.and_eq_true, ih, List.forall_mem_cons]

theorem isTree_get? {e below : Entry} {place : List String} (h : e.isTree = true)
    (hbelow : e.get? place = some below) : below.isTree = true := by
  induction place generalizing e with
  | nil =>
      injection hbelow with hbelow
      rwa [← hbelow]
  | cons name rest ih =>
      rw [get?_cons, Option.bind_eq_some_iff] at hbelow
      obtain ⟨next, hnext, hrest⟩ := hbelow
      cases e with
      | file content => cases hnext
      | directory entries =>
          rw [isTree, Bool.and_eq_true, areTrees_iff] at h
          obtain ⟨before, after, hentries, -⟩ := List.lookup_eq_some_iff.1 hnext
          have hmem : (name, next) ∈ entries := by
            rw [show entries = before ++ (name, next) :: after from hentries]
            simp
          exact ih (h.2 _ hmem).2 hrest

end Entry

theorem Store.names_of_isTree {s : Store} {place : List String} {entries : List (String × Entry)}
    (h : s.isTree = true) (hplace : s.get? place = some (.directory entries)) :
    (entries.map Prod.fst).Nodup ∧ ∀ name ∈ entries.map Prod.fst, Path.isEntryName name = true := by
  have hbelow := Entry.isTree_get? h hplace
  rw [Entry.isTree, Bool.and_eq_true, decide_eq_true_iff, Entry.areTrees_iff] at hbelow
  refine ⟨hbelow.1, fun name hname => ?_⟩
  obtain ⟨e, he, rfl⟩ := List.mem_map.1 hname
  exact (hbelow.2 e he).1

end PropTyper
