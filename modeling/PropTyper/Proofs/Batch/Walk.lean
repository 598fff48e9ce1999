import PropTyper.Batch
import PropTyper.Proofs.Files.Path
import PropTyper.Proofs.Files.Shape

/-! # The walk through a project

While the walk goes on, the files that it has come to are rewritten. If the work on a file keeps the
shape of the store, this makes no difference: the walk comes to the files that are listed before any
of them is worked on. In a tree of directories these are different files, at different places.
-/

namespace PropTyper

namespace Path

theorem of_isEntryName {name : String} (h : isEntryName name = true) :
    IsName name ∧ name ≠ ".." ∧ name.toList.contains '\x00' = false := by
  simp only [isEntryName, Bool.and_eq_true, decide_eq_true_eq, List.all_eq_true] at h
  obtain ⟨⟨⟨hempty, hdot⟩, hdots⟩, hchars⟩ := h
  refine ⟨⟨hempty, hdot, fun c hc => (hchars c hc).1⟩, hdots, ?_⟩
  rw [List.contains_eq_mem, decide_eq_false_iff_not]
  exact fun hnull => (hchars _ hnull).2 rfl

def below (p : Path) (names : List String) : Path :=
  { p with names := p.names ++ names }

theorem below_singleton (p : Path) (name : String) : p.below [name] = p.join name := rfl

theorem below_join (p : Path) (name : String) (names : List String) :
    (p.join name).below names = p.below (name :: names) := by
  rw [below, join, below, List.append_assoc, List.singleton_append]

theorem below_inj {p : Path} {names more : List String} (h : p.below names = p.below more) :
    names = more := by
  injection h with _ hnames
  exact List.append_cancel_left hnames

end Path

namespace Batch

open Store (SameShape)

variable {ε α : Type}

def workOn (work : Work ε α) : List Path → Store → α → Store × Except ε α
  | [], s, found => (s, .ok found)
  | p :: rest, s, found => andThen (work p s found) (workOn work rest)

/-- The path leads to no directory, and that can be told. -/
structure IsFlat (s : Store) (p : Path) : Prop where
  no_directory : ∀ entries, s.entry p ≠ .ok (.directory entries)
  not_long : s.entry p ≠ .error .tooLong

/-- The files that a walk comes to at and below names of a directory. -/
inductive Listed (s : Store) : Path → List String → List Path → Prop
  | nil (p : Path) : Listed s p [] []
  | skipped {p : Path} {name : String} {rest : List String} {files : List Path}
      {entries : List (String × Entry)} (found : s.entry (p.join name) = .ok (.directory entries))
      (skip : isSkipped name = true) (later : Listed s p rest files) : Listed s p (name :: rest) files
  | directory {p : Path} {name : String} {rest : List String} {inner files : List Path}
      {entries : List (String × Entry)} (found : s.entry (p.join name) = .ok (.directory entries))
      (enter : ¬ isSkipped name = true) (inside : Listed s (p.join name) (sortedNames entries) inner)
      (later : Listed s p rest files) : Listed s p (name :: rest) (inner ++ files)
  | file {p : Path} {name : String} {rest : List String} {files : List Path}
      (found : IsFlat s (p.join name)) (project : isProjectFile name = true)
      (later : Listed s p rest files) : Listed s p (name :: rest) (p.join name :: files)
  | other {p : Path} {name : String} {rest : List String} {files : List Path}
      (found : IsFlat s (p.join name)) (project : ¬ isProjectFile name = true)
      (later : Listed s p rest files) : Listed s p (name :: rest) files

variable {work : Work ε α} {blocked : PathFault → ε} {p : Path} {names : List String} {s t t' : Store}
  {found found' : α}

/-! ## Listing and working -/

theorem andThen_eq_ok {r : Store × Except ε α} {next : Store → α → Store × Except ε α}
    (h : andThen r next = (t, .ok found)) :
    ∃ s before, r = (s, .ok before) ∧ next s before = (t, .ok found) := by
  obtain ⟨s, outcome⟩ := r
  cases outcome with
  | error e => cases h
  | ok before => exact ⟨s, before, rfl, h⟩

theorem andThen_ok (s : Store) (found : α) (next : Store → α → Store × Except ε α) :
    andThen (s, .ok found) next = next s found := rfl

theorem workOn_singleton (work : Work ε α) (p : Path) (s : Store) (found : α) :
    workOn work [p] s found = work p s found := by
  rw [workOn]
  obtain ⟨t, outcome⟩ := work p s found
  cases outcome <;> rfl

theorem workOn_append (work : Work ε α) (first second : List Path) (s : Store) (found : α) :
    workOn work (first ++ second) s found =
      andThen (workOn work first s found) (workOn work second) := by
  induction first generalizing s found with
  | nil => rfl
  | cons p rest ih =>
      rw [List.cons_append, workOn, workOn]
      obtain ⟨t, outcome⟩ := work p s found
      cases outcome with
      | error e => rfl
      | ok found => rw [andThen_ok, andThen_ok, ih]

theorem sameShape_of_workOn (hwork : ∀ p s found, SameShape s (work p s found).1) {files : List Path}
    (h : workOn work files s found = (t, .ok found')) : SameShape s t := by
  induction files generalizing s found with
  | nil =>
      cases h
      exact .refl _
  | cons p rest ih =>
      obtain ⟨s₁, found₁, hp, hrest⟩ := andThen_eq_ok h
      have hfirst := hwork p s found
      rw [hp] at hfirst
      exact hfirst.trans (ih hrest)

theorem directory_of_sameShape (h : SameShape s t) {entries : List (String × Entry)}
    (ht : t.entry p = .ok (.directory entries)) :
    ∃ old, s.entry p = .ok (.directory old) ∧ sortedNames old = sortedNames entries := by
  rcases h.entry_cases p with ⟨cause, -, hs⟩ | ⟨old, new, -, hs⟩ | ⟨old, new, hold, hs, hnames⟩
  · rw [hs] at ht
    cases ht
  · rw [hs] at ht
    cases ht
  · rw [hs] at ht
    injection ht with ht
    injection ht with ht
    subst ht
    exact ⟨old, hold, by rw [sortedNames, sortedNames, hnames]⟩

theorem isFlat_of_file {content : List UInt8} (h : s.entry p = .ok (.file content)) : IsFlat s p :=
  ⟨fun entries => by simp [h], by simp [h]⟩

theorem isFlat_of_sameShape (h : SameShape s t) (ht : IsFlat t p) : IsFlat s p := by
  rcases h.entry_cases p with ⟨cause, hold, hs⟩ | ⟨old, new, hold, hs⟩ | ⟨old, new, -, hs, -⟩
  · exact ⟨fun entries => by simp [hold], by rw [hold, ← hs]; exact ht.not_long⟩
  · exact isFlat_of_file hold
  · exact (ht.no_directory new hs).elim

/-- A walk that comes to its end has worked on the files that were listed at its start. -/
theorem listed_of_walk (hwork : ∀ p s found, SameShape s (work p s found).1) (hshape : SameShape s t)
    (h : walk work blocked p names t found = (t', .ok found')) :
    ∃ files, Listed s p names files ∧ workOn work files t found = (t', .ok found') := by
  fun_induction walk work blocked p names t found generalizing t' found' with
  | case1 p t found => exact ⟨[], .nil p, h⟩
  | case2 p name rest t found entries hentry hskip ih =>
      obtain ⟨old, hold, -⟩ := directory_of_sameShape hshape hentry
      obtain ⟨files, hlater, hrun⟩ := ih hshape h
      exact ⟨files, .skipped hold hskip hlater, hrun⟩
  | case3 p name rest t found entries hentry hskip ihinside ihlater =>
      obtain ⟨old, hold, hnames⟩ := directory_of_sameShape hshape hentry
      obtain ⟨t₁, found₁, hwalk, hrest⟩ := andThen_eq_ok h
      obtain ⟨inner, hinside, hinner⟩ := ihinside hshape hwalk
      have hafter := hshape.trans (sameShape_of_workOn hwork hinner)
      obtain ⟨files, hlater, hrun⟩ := ihlater t₁ found₁ hafter hrest
      exact ⟨inner ++ files, .directory hold hskip (hnames ▸ hinside) hlater,
        by rw [workOn_append, hinner, andThen_ok, hrun]⟩
  | case4 => cases h
  | case5 p name rest t found hproject hdirectory hlong ih =>
      obtain ⟨t₁, found₁, hdone, hrest⟩ := andThen_eq_ok h
      have hfirst := hwork (p.join name) t found
      rw [hdone] at hfirst
      obtain ⟨files, hlater, hrun⟩ := ih t₁ found₁ (hshape.trans hfirst) hrest
      refine ⟨p.join name :: files,
        .file (isFlat_of_sameShape hshape ⟨hdirectory, hlong⟩) hproject hlater, ?_⟩
      rw [workOn, hdone, andThen_ok, hrun]
  | case6 p name rest t found hproject hdirectory hlong ih =>
      obtain ⟨files, hlater, hrun⟩ := ih hshape h
      exact ⟨files, .other (isFlat_of_sameShape hshape ⟨hdirectory, hlong⟩) hproject hlater, hrun⟩

theorem walk_of_directory {name : String} {rest : List String} {entries : List (String × Entry)}
    (h : s.entry (p.join name) = .ok (.directory entries)) :
    walk work blocked p (name :: rest) s found =
      if isSkipped name then walk work blocked p rest s found
      else
        andThen (walk work blocked (p.join name) (sortedNames entries) s found)
          (walk work blocked p rest) := by
  rw [walk]
  split
  · next hentry =>
    rw [h] at hentry
    cases hentry
    rfl
  · next hentry =>
    rw [h] at hentry
    cases hentry
  · next hentry _ => exact (hentry entries h).elim

theorem walk_of_isFlat {name : String} {rest : List String} (h : IsFlat s (p.join name)) :
    walk work blocked p (name :: rest) s found =
      if isProjectFile name then andThen (work (p.join name) s found) (walk work blocked p rest)
      else walk work blocked p rest s found := by
  rw [walk]
  split
  · next hentry => exact (h.no_directory _ hentry).elim
  · next hentry => exact (h.not_long hentry).elim
  · rfl

theorem andThen_congr {r : Store × Except ε α} {next next' : Store → α → Store × Except ε α}
    (h : ∀ s found, r = (s, .ok found) → next s found = next' s found) :
    andThen r next = andThen r next' := by
  obtain ⟨s, outcome⟩ := r
  cases outcome with
  | error e => rfl
  | ok found => exact h s found rfl

/-- A walk works on the files that are listed, one after the other. -/
theorem walk_of_listed (hwork : ∀ p s found, SameShape s (work p s found).1) {files : List Path}
    (h : Listed s p names files) (hshape : SameShape s t) (found : α) :
    walk work blocked p names t found = workOn work files t found := by
  induction h generalizing t found with
  | nil p => rw [walk, workOn]
  | skipped hentry hskip later ih =>
      obtain ⟨entries, hentry', -⟩ := directory_of_sameShape hshape.symm hentry
      rw [walk_of_directory hentry', if_pos hskip, ih hshape]
  | directory hentry hskip inside later ihinside ihlater =>
      obtain ⟨entries, hentry', hnames⟩ := directory_of_sameShape hshape.symm hentry
      rw [walk_of_directory hentry', if_neg hskip, hnames, ihinside hshape, workOn_append]
      exact andThen_congr fun t₁ found₁ hrun =>
        ihlater (hshape.trans (sameShape_of_workOn hwork hrun)) found₁
  | @file p name rest files hflat hproject later ih =>
      rw [walk_of_isFlat (isFlat_of_sameShape hshape.symm hflat), if_pos hproject, workOn]
      refine andThen_congr fun t₁ found₁ hdone => ih (hshape.trans ?_) found₁
      have hfirst := hwork (p.join name) t found
      rwa [hdone] at hfirst
  | other hflat hproject later ih =>
      rw [walk_of_isFlat (isFlat_of_sameShape hshape.symm hflat), if_neg hproject, ih hshape]

theorem workOn_collect (files : List Path) (s : Store) (before : List Path) :
    workOn collect files s before = (s, .ok (before ++ files)) := by
  induction files generalizing before with
  | nil => rw [workOn, List.append_nil]
  | cons p rest ih => rw [workOn, collect, andThen_ok, ih, List.append_assoc, List.singleton_append]

/-! ## Where the files are -/

theorem sortedNames_perm (entries : List (String × Entry)) :
    (sortedNames entries).Perm (entries.map Prod.fst) :=
  List.mergeSort_perm _ _

theorem resolve_join {place place' : List String} {name : String} (hp : s.resolve p = .ok place)
    (hdots : name ≠ "..") (h : s.resolve (p.join name) = .ok place') : place' = place ++ [name] := by
  obtain ⟨-, -, -, hfollow⟩ := Store.resolve_eq_ok hp
  obtain ⟨-, -, -, hjoined⟩ := Store.resolve_eq_ok h
  rw [Path.join, Store.follow_append, hfollow] at hjoined
  obtain ⟨entries, -, ⟨hname, -⟩ | ⟨-, -, -, hlast⟩⟩ := Store.follow_cons_eq_ok hjoined
  · exact (hdots hname).elim
  · injection hlast with hlast
    exact hlast.symm

theorem resolve_of_entry {e : Entry} (h : s.entry p = .ok e) :
    ∃ place, s.resolve p = .ok place ∧ s.get? place = some e := by
  unfold Store.entry at h
  split at h
  · cases h
  · next place hplace =>
    split at h
    · next hget =>
      injection h with h
      exact ⟨place, hplace, h ▸ hget⟩
    · cases h

structure Holds (s : Store) (p : Path) (place names : List String) : Prop where
  resolve : s.resolve p = .ok place
  names : ∃ entries, s.get? place = some (.directory entries) ∧ ∀ name ∈ names, name ∈ entries.map Prod.fst

variable {place rest : List String} {name : String}

theorem exists_holds {entries : List (String × Entry)} (h : s.entry p = .ok (.directory entries)) :
    ∃ place, Holds s p place (sortedNames entries) := by
  obtain ⟨place, hresolve, hplace⟩ := resolve_of_entry h
  exact ⟨place, hresolve, entries, hplace, fun name => (sortedNames_perm entries).mem_iff.1⟩

theorem nodup_sortedNames (htree : s.isTree = true) {entries : List (String × Entry)}
    (h : s.entry p = .ok (.directory entries)) : (sortedNames entries).Nodup := by
  obtain ⟨place, -, hplace⟩ := resolve_of_entry h
  exact (sortedNames_perm entries).nodup_iff.2 (Store.names_of_isTree htree hplace).1

theorem Holds.later (h : Holds s p place (name :: rest)) : Holds s p place rest := by
  obtain ⟨entries, hplace, hnames⟩ := h.names
  exact ⟨h.resolve, entries, hplace, fun n hn => hnames n (List.mem_cons_of_mem name hn)⟩

theorem Holds.valid (h : Holds s p place (name :: rest)) (htree : s.isTree = true) :
    Path.isEntryName name = true := by
  obtain ⟨entries, hplace, hnames⟩ := h.names
  exact (Store.names_of_isTree htree hplace).2 name (hnames name List.mem_cons_self)

theorem Holds.enter (h : Holds s p place (name :: rest)) (htree : s.isTree = true)
    {entries : List (String × Entry)} (hentry : s.entry (p.join name) = .ok (.directory entries)) :
    Holds s (p.join name) (place ++ [name]) (sortedNames entries) := by
  obtain ⟨place', hinside⟩ := exists_holds hentry
  rwa [resolve_join h.resolve (Path.of_isEntryName (h.valid htree)).2.1 hinside.resolve] at hinside

theorem resolve_join_of_lookup {entries : List (String × Entry)} (hp : s.resolve p = .ok place)
    (hplace : s.get? place = some (.directory entries)) (hvalid : Path.isEntryName name = true)
    (hname : (entries.lookup name).isSome) :
    s.resolve (p.join name) =
      if (p.join name).isLong || Path.isLongName name then .error .tooLong
      else .ok (place ++ [name]) := by
  obtain ⟨-, hdots, hnull⟩ := Path.of_isEntryName hvalid
  obtain ⟨hpnull, -, hroot, hfollow⟩ := Store.resolve_eq_ok hp
  obtain ⟨e, he⟩ := Option.isSome_iff_exists.1 hname
  have hjoined : (p.join name).hasNull = false := by
    rw [Path.hasNull] at hpnull
    simp only [Path.hasNull, Path.join, List.any_append, hpnull, List.any_cons, hnull, List.any_nil,
      Bool.or_false]
  cases hlong : (p.join name).isLong with
  | true => simp [Store.resolve, hjoined, hlong]
  | false =>
      rw [Store.resolve_of_follow hjoined hlong hroot, Path.join, Store.follow_append, hfollow,
        Bool.false_or]
      simp [Except.bind, Store.follow, hplace, hdots, he]

theorem Holds.resolve_of_isFlat (h : Holds s p place (name :: rest)) (htree : s.isTree = true)
    (hflat : IsFlat s (p.join name)) : s.resolve (p.join name) = .ok (place ++ [name]) := by
  obtain ⟨entries, hplace, hnames⟩ := h.names
  have hstep := resolve_join_of_lookup h.resolve hplace (h.valid htree)
    (Entry.isSome_lookup_iff.2 (hnames name List.mem_cons_self))
  split at hstep
  · refine (hflat.not_long ?_).elim
    rw [Store.entry, hstep]
  · exact hstep

/-- A file below a name of a directory, at the place that the names spell. -/
def LiesBelow (s : Store) (p : Path) (place : List String) (name : String) (q : Path) : Prop :=
  ∃ more, q = p.below (name :: more) ∧ s.resolve q = .ok (place ++ name :: more) ∧
    ∀ n ∈ name :: more, Path.isEntryName n = true

/-- Each file that is listed is below one of the names, and its place is there as well. -/
theorem Listed.places {files : List Path} (h : Listed s p names files) (htree : s.isTree = true)
    (hp : Holds s p place names) : ∀ q ∈ files, ∃ name ∈ names, LiesBelow s p place name q := by
  have hadd : ∀ {P : String → Prop} {first : String} {rest : List String},
      (∃ name ∈ rest, P name) → ∃ name ∈ first :: rest, P name :=
    fun h => h.imp fun _ => And.imp_left (List.mem_cons_of_mem _)
  induction h generalizing place with
  | nil => exact fun q hq => absurd hq List.not_mem_nil
  | skipped hentry hskip later ih => exact fun q hq => hadd (ih hp.later q hq)
  | @directory p name rest inner files entries hentry hskip inside later ihinside ihlater =>
      intro q hq
      rcases List.mem_append.1 hq with hq | hq
      · obtain ⟨first, -, more, rfl, hresolve, hvalid⟩ := ihinside (hp.enter htree hentry) q hq
        refine ⟨name, List.mem_cons_self, first :: more, Path.below_join p name _, ?_, ?_⟩
        · rw [hresolve, List.append_assoc, List.singleton_append]
        · exact List.forall_mem_cons.2 ⟨hp.valid htree, hvalid⟩
      · exact hadd (ihlater hp.later q hq)
  | @file p name rest files hflat hproject later ih =>
      intro q hq
      rcases List.mem_cons.1 hq with rfl | hq
      · exact ⟨name, List.mem_cons_self, [], rfl, hp.resolve_of_isFlat htree hflat,
          List.forall_mem_cons.2 ⟨hp.valid htree, fun n hn => absurd hn List.not_mem_nil⟩⟩
      · exact hadd (ih hp.later q hq)
  | other hflat hproject later ih => exact fun q hq => hadd (ih hp.later q hq)

theorem Listed.nodup {files : List Path} (h : Listed s p names files) (htree : s.isTree = true)
    (hp : Holds s p place names) (hnames : names.Nodup) : files.Nodup := by
  induction h generalizing place with
  | nil => exact List.nodup_nil
  | skipped hentry hskip later ih => exact ih hp.later (List.nodup_cons.1 hnames).2
  | @directory p name rest inner files entries hentry hskip inside later ihinside ihlater =>
      obtain ⟨hname, hrest⟩ := List.nodup_cons.1 hnames
      have hinside := hp.enter htree hentry
      refine List.nodup_append.2
        ⟨ihinside hinside (nodup_sortedNames htree hentry), ihlater hp.later hrest, ?_⟩
      rintro q hq _ hq' rfl
      obtain ⟨first, -, more, rfl, -⟩ := inside.places htree hinside q hq
      obtain ⟨name', hname', more', heq, -⟩ := later.places htree hp.later _ hq'
      rw [Path.below_join] at heq
      injection Path.below_inj heq with heq
      exact hname (heq ▸ hname')
  | @file p name rest files hflat hproject later ih =>
      obtain ⟨hname, hrest⟩ := List.nodup_cons.1 hnames
      refine List.nodup_cons.2 ⟨fun hmem => ?_, ih hp.later hrest⟩
      obtain ⟨name', hname', more', heq, -⟩ := later.places htree hp.later _ hmem
      rw [← Path.below_singleton] at heq
      injection Path.below_inj heq with heq
      exact hname (heq ▸ hname')
  | other hflat hproject later ih => exact ih hp.later (List.nodup_cons.1 hnames).2

/-! ## The files of a project -/

/-- Paths that are read from their texts, and lead to different places. -/
structure Apart (s : Store) (files : List Path) : Prop where
  texts : ∀ q ∈ files, Path.ofString q.toString = q
  nodup : files.Nodup
  places : files.Pairwise fun q q' => s.resolve q ≠ s.resolve q'

theorem Listed.apart {root : String} {files : List Path}
    (h : Listed s (Path.ofString root) names files) (htree : s.isTree = true)
    (hp : Holds s (Path.ofString root) place names) (hnames : names.Nodup) : Apart s files := by
  have hplaces := h.places htree hp
  have hnodup := h.nodup htree hp hnames
  refine ⟨fun q hq => ?_, hnodup, hnodup.imp_of_mem fun {q q'} hq hq' hne heq => hne ?_⟩
  · obtain ⟨name, -, more, rfl, -, hvalid⟩ := hplaces q hq
    refine Path.ofString_toString_of_isName (Path.rootOf_cases root.toList) fun n hn => ?_
    rcases List.mem_append.1 hn with hn | hn
    · exact Path.isName_of_mem_names hn
    · exact (Path.of_isEntryName (hvalid n hn)).1
  · obtain ⟨name, -, more, rfl, hresolve, -⟩ := hplaces q hq
    obtain ⟨name', -, more', rfl, hresolve', -⟩ := hplaces q' hq'
    rw [hresolve, hresolve'] at heq
    injection heq with heq
    rw [List.append_cancel_left heq]

theorem apart_nil (s : Store) : Apart s [] :=
  ⟨fun _ hq => absurd hq List.not_mem_nil, List.nodup_nil, List.Pairwise.nil⟩

theorem apart_singleton (s : Store) (root : String) : Apart s [Path.ofString root] :=
  ⟨fun q hq => by rw [List.mem_singleton.1 hq, Path.ofString_toString], by simp,
    List.pairwise_singleton _ _⟩

/-- The files of a project: the path itself, or what a walk comes to. -/
inductive ListedProject (s : Store) (root : Path) : List Path → Prop
  | file {content : List UInt8} (found : s.entry root = .ok (.file content)) :
      ListedProject s root (if isProjectFile root.name then [root] else [])
  | directory {entries : List (String × Entry)} {files : List Path}
      (found : s.entry root = .ok (.directory entries))
      (inside : Listed s root (sortedNames entries) files) : ListedProject s root files

theorem listed_of_walkProject (hwork : ∀ p s found, SameShape s (work p s found).1) {root : Path}
    (h : walkProject work blocked root s found = (t, .ok found')) :
    ∃ files, ListedProject s root files ∧ workOn work files s found = (t, .ok found') := by
  rw [walkProject] at h
  cases hentry : s.entry root with
  | error cause =>
      rw [hentry] at h
      cases h
  | ok e =>
      rw [hentry] at h
      cases e with
      | file content =>
          refine ⟨_, .file hentry, ?_⟩
          dsimp only at h
          split at h
          · next hproject => rw [if_pos hproject, workOn_singleton, h]
          · next hproject => rw [if_neg hproject, workOn, h]
      | directory entries =>
          obtain ⟨files, hlisted, hrun⟩ := listed_of_walk hwork (.refl s) h
          exact ⟨files, .directory hentry hlisted, hrun⟩

theorem walkProject_of_listed (hwork : ∀ p s found, SameShape s (work p s found).1) {root : Path}
    {files : List Path} (h : ListedProject s root files) (found : α) :
    walkProject work blocked root s found = workOn work files s found := by
  rw [walkProject]
  cases h with
  | file hentry =>
      rw [hentry]
      dsimp only
      split
      · rw [workOn_singleton]
      · rw [workOn]
  | directory hentry inside =>
      rw [hentry]
      exact walk_of_listed hwork inside (.refl s) found

theorem projectFiles_of_listed {root : Path} {files : List Path} (h : ListedProject s root files) :
    projectFiles s root = .ok files := by
  rw [projectFiles, walkProject_of_listed (fun _ s _ => .refl s) h, workOn_collect, List.nil_append]

/-- In a tree the files of a project are apart. -/
theorem ListedProject.apart {root : String} {files : List Path}
    (h : ListedProject s (Path.ofString root) files) (htree : s.isTree = true) : Apart s files := by
  cases h with
  | file hentry =>
      split
      · exact apart_singleton s root
      · exact apart_nil s
  | directory hentry inside =>
      obtain ⟨place, hholds⟩ := exists_holds hentry
      exact inside.apart htree hholds (nodup_sortedNames htree hentry)

end Batch

end PropTyper
