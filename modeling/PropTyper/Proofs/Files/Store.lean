import PropTyper.Files.Store
import PropTyper.Proofs.Json.Members

/-! # Places in a store

What is put at one place is found there, and nothing changes at places that are neither on the way
to it nor below it. A store that has grown leads every path where it led before; writing a file and
making a directory are such growths.
-/

namespace PropTyper

namespace Entry

theorem setEntry_eq_setMember (name : String) (e : Entry) (entries : List (String × Entry)) :
    setEntry name e entries = Json.setMember name e entries := by
  induction entries with
  | nil => rfl
  | cons first rest ih => rw [setEntry, Json.setMember, ih]

theorem get?_cons (e : Entry) (name : String) (rest : List String) :
    e.get? (name :: rest) = (e.entries.lookup name).bind (·.get? rest) := by
  rw [get?]
  cases e.entries.lookup name <;> rfl

theorem get?_append (e : Entry) (place rest : List String) :
    e.get? (place ++ rest) = (e.get? place).bind (·.get? rest) := by
  induction place generalizing e with
  | nil => rfl
  | cons name more ih =>
      rw [List.cons_append, get?_cons, get?_cons]
      cases e.entries.lookup name with
      | none => rfl
      | some below => exact ih below

theorem get?_singleton (e : Entry) (name : String) : e.get? [name] = e.entries.lookup name := by
  rw [get?_cons]
  cases e.entries.lookup name <;> rfl

theorem get?_file_cons (content : List UInt8) (name : String) (rest : List String) :
    (file content).get? (name :: rest) = none := rfl

theorem directory_of_get?_append {e below : Entry} {place : List String} {name : String}
    {rest : List String} (h : e.get? (place ++ name :: rest) = some below) :
    ∃ entries, e.get? place = some (directory entries) := by
  rw [get?_append] at h
  cases hplace : e.get? place with
  | none => simp [hplace] at h
  | some found =>
      cases found with
      | file content => simp [hplace, get?_file_cons] at h
      | directory entries => exact ⟨entries, rfl⟩

theorem put_cons (new : Entry) (name : String) (rest : List String) (e : Entry) :
    put new (name :: rest) e =
      directory (Json.setMember name
        (put new rest ((e.entries.lookup name).getD (directory []))) e.entries) := by
  rw [put, setEntry_eq_setMember]

theorem get?_put_append (new : Entry) (place rest : List String) (e : Entry) :
    (put new place e).get? (place ++ rest) = new.get? rest := by
  induction place generalizing e with
  | nil => rfl
  | cons name more ih =>
      rw [put_cons, List.cons_append, get?_cons, entries, Json.lookup_setMember_self,
        Option.bind_some, ih]

theorem get?_put_self (new : Entry) (place : List String) (e : Entry) :
    (put new place e).get? place = some new := by
  have h := get?_put_append new place [] e
  rwa [List.append_nil, get?] at h

theorem get?_put_above (new : Entry) (place : List String) (name : String) (rest : List String)
    (e : Entry) :
    ∃ entries, (put new (place ++ name :: rest) e).get? place = some (directory entries) :=
  directory_of_get?_append (get?_put_self new (place ++ name :: rest) e)

theorem get?_put_apart {place other : List String} (hbelow : ¬ place <+: other)
    (habove : ¬ other <+: place) (new e : Entry) : (put new place e).get? other = e.get? other := by
  induction place generalizing other e with
  | nil => exact (hbelow List.nil_prefix).elim
  | cons name more ih =>
      cases other with
      | nil => exact (habove List.nil_prefix).elim
      | cons first rest =>
          rw [put_cons, get?_cons, get?_cons, entries]
          by_cases hname : first = name
          · subst hname
            rw [Json.lookup_setMember_self, Option.bind_some,
              ih (by simpa using hbelow) (by simpa using habove)]
            cases hlookup : e.entries.lookup first with
            | some below => rfl
            | none =>
                cases rest with
                | nil => exact (habove (by simp)).elim
                | cons x y => rfl
          · rw [Json.lookup_setMember_of_ne hname]

end Entry

theorem Path.names_eq_parent_append {p : Path} (h : p.names ≠ []) :
    p.names = p.parent.names ++ [p.name] := by
  rw [Path.parent, Path.name, List.getLastD_eq_getLast?, List.getLast?_eq_some_getLast h,
    Option.getD_some, List.dropLast_concat_getLast]

theorem Path.hasNull_parent {p : Path} (h : p.hasNull = false) : p.parent.hasNull = false := by
  rw [Path.hasNull, List.any_eq_false] at h ⊢
  exact fun name hname => h name (List.dropLast_subset _ hname)

theorem Path.isLong_parent {p : Path} (h : p.isLong = false) : p.parent.isLong = false := by
  by_cases hnames : p.names = []
  · rwa [show p.parent = p by rw [Path.parent, hnames, List.dropLast_nil, ← hnames]]
  · have hsize : ("/".intercalate p.parent.names).utf8ByteSize ≤
        ("/".intercalate p.names).utf8ByteSize := by
      rw [Path.names_eq_parent_append hnames]
      by_cases hparent : p.parent.names = []
      · simp [hparent]
      · rw [String.intercalate_append_of_ne_nil hparent (by simp), String.utf8ByteSize_append,
          String.utf8ByteSize_append]
        omega
    have htext : p.toString = p.root ++ "/".intercalate p.names := by simp [Path.toString, hnames]
    simp only [Path.isLong, htext, String.utf8ByteSize_append, decide_eq_false_iff_not, Nat.not_le] at h ⊢
    rw [Path.toString]
    split
    · decide
    · rw [String.utf8ByteSize_append]
      have hroot : p.parent.root = p.root := rfl
      rw [hroot]
      omega

namespace Store

/-! ## A place for an entry

An entry is only ever put into a directory that is there, at a name that no directory has. -/

structure Free (s : Store) (place : List String) : Prop where
  inside : ∃ directory name entries, place = directory ++ [name] ∧
    s.get? directory = some (.directory entries)
  vacant : ∀ entries, s.get? place ≠ some (.directory entries)

variable {s s' : Store} {place other : List String}

theorem Free.above (h : s.Free place) {name : String} {rest : List String}
    (hplace : place = other ++ name :: rest) : ∃ entries, s.get? other = some (.directory entries) := by
  obtain ⟨directory, last, entries, hsplit, hdirectory⟩ := h.inside
  rw [hplace] at hsplit
  rcases List.eq_nil_or_concat rest with rfl | ⟨init, final, rfl⟩
  · have heq := List.append_inj_left' hsplit rfl
    exact ⟨entries, heq ▸ hdirectory⟩
  · rw [List.concat_eq_append, ← List.cons_append, ← List.append_assoc] at hsplit
    have heq := List.append_inj_left' hsplit rfl
    exact Entry.directory_of_get?_append (heq ▸ hdirectory)

theorem Free.below (h : s.Free place) (name : String) (rest : List String) :
    s.get? (place ++ name :: rest) = none := by
  cases hget : s.get? (place ++ name :: rest) with
  | none => rfl
  | some found =>
      obtain ⟨entries, hentries⟩ := Entry.directory_of_get?_append hget
      exact (h.vacant entries hentries).elim

theorem place_cases (place other : List String) :
    other = place ∨ (∃ name rest, other = place ++ name :: rest) ∨
      (∃ name rest, place = other ++ name :: rest) ∨ ¬ place <+: other ∧ ¬ other <+: place := by
  by_cases hbelow : place <+: other
  · obtain ⟨rest, rfl⟩ := hbelow
    cases rest with
    | nil => simp
    | cons name rest => exact .inr (.inl ⟨name, rest, rfl⟩)
  · by_cases habove : other <+: place
    · obtain ⟨rest, rfl⟩ := habove
      cases rest with
      | nil => simp
      | cons name rest => exact .inr (.inr (.inl ⟨name, rest, rfl⟩))
    · exact .inr (.inr (.inr ⟨hbelow, habove⟩))

/-- A file put at a free place is the only change to the files. -/
theorem Free.get?_put_eq_file (h : s.Free place) (new : Entry) (hempty : new.entries = [])
    (hother : other ≠ place) (content : List UInt8) :
    (Entry.put new place s).get? other = some (.file content) ↔
      s.get? other = some (.file content) := by
  rcases place_cases place other with heq | ⟨name, rest, rfl⟩ | ⟨name, rest, hplace⟩ | ⟨hbelow, habove⟩
  · exact (hother heq).elim
  · rw [Entry.get?_put_append, Entry.get?_cons, hempty, h.below]
    simp
  · obtain ⟨before, hbefore⟩ := h.above hplace
    obtain ⟨after, hafter⟩ := Entry.get?_put_above new other name rest s
    rw [hplace, hafter, hbefore]
    simp
  · rw [Entry.get?_put_apart hbelow habove]

/-! ## Growth -/

/-- What was there is there, and directories are directories. -/
def Grows (s s' : Store) : Prop :=
  ∀ place e, s.get? place = some e →
    ∃ e', s'.get? place = some e' ∧ ∀ entries, e = .directory entries → ∃ more, e' = .directory more

theorem Grows.directory (h : Grows s s') {entries : List (String × Entry)}
    (hs : s.get? place = some (.directory entries)) : ∃ more, s'.get? place = some (.directory more) := by
  obtain ⟨e', he', hdir⟩ := h place _ hs
  obtain ⟨more, rfl⟩ := hdir entries rfl
  exact ⟨more, he'⟩

theorem Free.grows_put (h : s.Free place) (new : Entry) : Grows s (Entry.put new place s) := by
  intro other e he
  rcases place_cases place other with rfl | ⟨name, rest, rfl⟩ | ⟨name, rest, hplace⟩ | ⟨hbelow, habove⟩
  · exact ⟨new, Entry.get?_put_self new other s, fun entries heq => (h.vacant entries (heq ▸ he)).elim⟩
  · rw [h.below] at he
    simp at he
  · obtain ⟨after, hafter⟩ := Entry.get?_put_above new other name rest s
    exact ⟨_, hplace ▸ hafter, fun _ _ => ⟨after, rfl⟩⟩
  · exact ⟨e, by rw [Entry.get?_put_apart hbelow habove, he], fun entries heq => ⟨entries, heq⟩⟩

/-! ## Following names -/

theorem follow_cons_eq_ok {here : List String} {name : String} {rest : List String}
    (h : s.follow here (name :: rest) = .ok place) :
    ∃ entries, s.get? here = some (.directory entries) ∧
      ((name = ".." ∧ here ≠ [] ∧ s.follow here.dropLast rest = .ok place) ∨
        (name ≠ ".." ∧ Path.isLongName name = false ∧ (entries.lookup name).isSome ∧
          s.follow (here ++ [name]) rest = .ok place)) := by
  rw [follow] at h
  split at h
  · cases h
  · cases h
  · next entries hentries =>
    refine ⟨entries, hentries, ?_⟩
    split at h
    · next hdots =>
      split at h
      · cases h
      · next hhere => exact .inl ⟨hdots, by simpa using hhere, h⟩
    · next hdots =>
      split at h
      · cases h
      · next hlong =>
        split at h
        · next found hfound => exact .inr ⟨hdots, by simpa using hlong, by simp [hfound], h⟩
        · cases h

theorem follow_append (s : Store) (here first second : List String) :
    s.follow here (first ++ second) = (s.follow here first).bind (s.follow · second) := by
  induction first generalizing here with
  | nil => rfl
  | cons name rest ih =>
      rw [List.cons_append, follow, follow]
      split
      · rfl
      · rfl
      · split
        · split
          · rfl
          · exact ih _
        · split
          · rfl
          · split
            · exact ih _
            · rfl

/-- Names lead to the same place in a store that has grown. -/
theorem Grows.follow (h : Grows s s') {here names : List String}
    (hs : s.follow here names = .ok place) : s'.follow here names = .ok place := by
  induction names generalizing here with
  | nil => exact hs
  | cons name rest ih =>
      obtain ⟨entries, hentries, hstep⟩ := follow_cons_eq_ok hs
      obtain ⟨more, hmore⟩ := h.directory hentries
      rw [Store.follow, hmore]
      rcases hstep with ⟨rfl, hhere, hrest⟩ | ⟨hdots, hlong, hfound, hrest⟩
      · simpa [hhere] using ih hrest
      · obtain ⟨found, hfound⟩ := Option.isSome_iff_exists.1 hfound
        have hold : s.get? (here ++ [name]) = some found := by
          rw [Entry.get?_append, hentries, Option.bind_some, Entry.get?_singleton]
          exact hfound
        obtain ⟨new, hnew, -⟩ := h _ _ hold
        rw [Entry.get?_append, hmore, Option.bind_some, Entry.get?_singleton] at hnew
        simp only [if_neg hdots, hlong, Entry.entries] at hnew ⊢
        simpa [hnew] using ih hrest

/-! ## Writing -/

theorem newPlace_eq_some {p : Path} (h : s.newPlace p = .ok (some place)) :
    p.hasNull = false ∧ p.isLong = false ∧ p.names ≠ [] ∧ p.name ≠ ".." ∧
      Path.isLongName p.name = false ∧ ∃ directory entries, s.resolve p.parent = .ok directory ∧
        s.get? directory = some (.directory entries) ∧ place = directory ++ [p.name] := by
  unfold newPlace at h
  split at h
  · cases h
  · next hnull =>
    split at h
    · cases h
    · next hlong =>
      split at h
      · split at h <;> cases h
      · next hname =>
        split at h
        · cases h
        · next directory hdirectory =>
          split at h
          · next entries hentries =>
            split at h
            · cases h
            · next hshort =>
              injection h with h
              injection h with h
              simp only [Bool.or_eq_true, List.isEmpty_iff, decide_eq_true_eq, not_or] at hname
              exact ⟨by simpa using hnull, by simpa using hlong, hname.1, hname.2,
                by simpa using hshort, directory, entries, hdirectory, hentries, h.symm⟩
          · cases h
          · cases h

theorem resolve_eq_ok {p : Path} (h : s.resolve p = .ok place) :
    p.hasNull = false ∧ p.isLong = false ∧ p.root = "" ∧ s.follow [] p.names = .ok place := by
  unfold resolve at h
  split at h
  · cases h
  · next hnull =>
    split at h
    · cases h
    · next hlong =>
      split at h
      · next hroot => exact ⟨by simpa using hnull, by simpa using hlong, hroot, h⟩
      · split at h <;> cases h

theorem resolve_of_follow {p : Path} (hnull : p.hasNull = false) (hlong : p.isLong = false)
    (hroot : p.root = "") : s.resolve p = s.follow [] p.names := by
  simp [resolve, hnull, hlong, hroot]

/-- A file that has been written is the one that the path leads to from then on. -/
theorem write_eq_ok {p : Path} {content : List UInt8} (h : s.write p content = .ok s') :
    ∃ place, s.Free place ∧ s' = Entry.put (.file content) place s ∧ s'.resolve p = .ok place ∧
      ∀ old, s.resolve p = .ok old → old = place := by
  unfold write at h
  split at h
  · cases h
  · cases h
  · next place hplace =>
    split at h
    · cases h
    · next hvacant =>
      injection h with h
      obtain ⟨hnull, hlong, hnames, hdots, hshort, directory, entries, hparent, hentries, rfl⟩ :=
        newPlace_eq_some hplace
      obtain ⟨-, -, hroot, hfollow⟩ := resolve_eq_ok hparent
      have hfree : s.Free (directory ++ [p.name]) :=
        ⟨⟨directory, p.name, entries, rfl, hentries⟩, hvacant⟩
      have hsplit := Path.names_eq_parent_append hnames
      refine ⟨_, hfree, h.symm, ?_, fun old hold => ?_⟩
      · have hgrows := hfree.grows_put (.file content)
        obtain ⟨more, hmore⟩ := hgrows.directory hentries
        have hthere := Entry.get?_put_self (.file content) (directory ++ [p.name]) s
        rw [Entry.get?_append, hmore, Option.bind_some, Entry.get?_singleton] at hthere
        rw [← h, resolve_of_follow hnull hlong hroot, hsplit, follow_append, hgrows.follow hfollow]
        simp only [Except.bind, follow, hmore, if_neg hdots, hshort, Entry.entries] at hthere ⊢
        simp [hthere]
      · rw [resolve_of_follow hnull hlong hroot, hsplit, follow_append, hfollow] at hold
        obtain ⟨_, -, hstep⟩ := follow_cons_eq_ok hold
        rcases hstep with ⟨hname, -⟩ | ⟨-, -, -, hold⟩
        · exact (hdots hname).elim
        · injection hold with hold
          exact hold.symm

theorem read_eq_ok_iff {p : Path} {content : List UInt8} :
    s.read p = .ok content ↔ ∃ place, s.resolve p = .ok place ∧ s.get? place = some (.file content) := by
  unfold read entry faultAt
  cases hresolve : s.resolve p with
  | error cause => simp
  | ok place =>
      cases hget : s.get? place with
      | none => simp [hget]
      | some e => cases e <;> simp [hget]

theorem read_of_write {p : Path} {content : List UInt8} (h : s.write p content = .ok s') :
    s'.read p = .ok content := by
  obtain ⟨place, -, rfl, hresolve, -⟩ := write_eq_ok h
  exact read_eq_ok_iff.2 ⟨place, hresolve, Entry.get?_put_self _ place s⟩

theorem get?_of_write {p : Path} {content new : List UInt8} (h : s.write p new = .ok s')
    (hother : s'.resolve p ≠ .ok other) :
    s'.get? other = some (.file content) ↔ s.get? other = some (.file content) := by
  obtain ⟨place, hfree, rfl, hresolve, -⟩ := write_eq_ok h
  refine hfree.get?_put_eq_file _ rfl (fun heq => hother ?_) content
  rw [heq, hresolve]

/-- Over a file that can be read another one can be written. -/
theorem exists_write_of_read {p : Path} {old : List UInt8} (hread : s.read p = .ok old)
    (hnames : p.names ≠ []) (hdots : p.name ≠ "..") (new : List UInt8) : ∃ s', s.write p new = .ok s' := by
  obtain ⟨place, hresolve, hplace⟩ := read_eq_ok_iff.1 hread
  obtain ⟨hnull, hlong, hroot, hfollow⟩ := resolve_eq_ok hresolve
  rw [Path.names_eq_parent_append hnames, follow_append] at hfollow
  cases hparent : s.follow [] p.parent.names with
  | error cause =>
      rw [hparent] at hfollow
      cases hfollow
  | ok directory =>
      rw [hparent] at hfollow
      obtain ⟨entries, hentries, hstep⟩ := follow_cons_eq_ok hfollow
      obtain ⟨hname, -⟩ | ⟨-, hshort, -, hlast⟩ := hstep
      · exact (hdots hname).elim
      · injection hlast with hlast
        have hdirectory : s.resolve p.parent = .ok directory := by
          rw [resolve_of_follow (Path.hasNull_parent hnull) (Path.isLong_parent hlong) hroot, hparent]
        have hnew : s.newPlace p = .ok (some place) := by
          simp [newPlace, hnull, hlong, hnames, hdots, hdirectory, hentries, hshort, hlast]
        rw [write, hnew]
        simp [hplace]

end Store

end PropTyper
