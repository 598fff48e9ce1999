import Mathlib.Data.List.Lex
import Mathlib.Data.String.Basic
import Mathlib.Order.Bounds.Defs
import PropTyper.Proofs.Batch.Walk
import PropTyper.Proofs.Property.Normalize

/-! # What the walk lists

A walk looks at the names below a directory in ascending order, where lists of names are compared name
by name and a directory comes before what is in it. So the files are listed in that order, none of them
is left out, and the walk ends early only at the first path that is too long to be followed.
-/

namespace PropTyper

namespace Path

/-- The path cannot be followed, although the one above it may be. -/
def isOverlong (p : Path) : Bool :=
  p.isLong || isLongName p.name

theorem name_join (p : Path) (name : String) : (p.join name).name = name := by
  simp [Path.name, join]

end Path

namespace Batch

/-! ## Looking at names in their order -/

/-- No directory on the way is one whose files are left out. -/
def IsShown (names : List String) : Prop :=
  ∀ directory ∈ names.dropLast, directory ≠ "node_modules" ∧ directory.toList.head? ≠ some '.'

instance (names : List String) : Decidable (IsShown names) :=
  inferInstanceAs (Decidable (∀ directory ∈ names.dropLast,
    directory ≠ "node_modules" ∧ directory.toList.head? ≠ some '.'))

structure IsLookedAt (top : Entry) (names : List String) : Prop where
  below : names ≠ []
  found : (top.get? names).isSome
  shown : IsShown names

/-- Names that lead from a directory to a file of the project. -/
structure IsSource (root : Path) (top : Entry) (names : List String) : Prop where
  file : ∃ content, top.get? names = some (.file content)
  suffix : (root.below names).extension ∈ [".js", ".jsx", ".ts", ".tsx"]
  shown : IsShown names

/-- A name of a directory, and the names below it unless they are left out. -/
def visitsAt (inside : List (String × List (List String))) (name : String) : List (List String) :=
  [name] :: if isSkipped name then [] else ((inside.lookup name).getD []).map (name :: ·)

mutual

/-- The names below an entry, as a walk comes to them. -/
def visits : Entry → List (List String)
  | .file _ => []
  | .directory entries => (sortedNames entries).flatMap (visitsAt (visitsIn entries))

def visitsIn : List (String × Entry) → List (String × List (List String))
  | [] => []
  | (name, e) :: rest => (name, visits e) :: visitsIn rest

end

variable {s : Store} {p root : Path} {top e : Entry} {entries : List (String × Entry)} {name : String}
  {names rest : List String}

theorem lookup_visitsIn (entries : List (String × Entry)) (name : String) :
    (visitsIn entries).lookup name = (entries.lookup name).map visits := by
  induction entries with
  | nil => rfl
  | cons first rest ih =>
      obtain ⟨n, e⟩ := first
      rw [visitsIn, List.lookup_cons, List.lookup_cons, ih]
      cases name == n <;> rfl

theorem visitsAt_of_lookup (h : entries.lookup name = some e) :
    visitsAt (visitsIn entries) name =
      [name] :: if isSkipped name then [] else (visits e).map (name :: ·) := by
  rw [visitsAt, lookup_visitsIn, h, Option.map_some, Option.getD_some]

theorem mem_sortedNames_iff : name ∈ sortedNames entries ↔ (entries.lookup name).isSome := by
  rw [(sortedNames_perm entries).mem_iff, Entry.isSome_lookup_iff]

theorem isSkipped_eq_false_iff :
    isSkipped name = false ↔ name ≠ "node_modules" ∧ name.toList.head? ≠ some '.' := by
  simp [isSkipped]

theorem exists_of_mem_visitsAt {inside : List (String × List (List String))}
    (h : names ∈ visitsAt inside name) : ∃ rest, names = name :: rest := by
  rw [visitsAt] at h
  split at h
  · exact ⟨[], List.mem_singleton.1 h⟩
  · rcases List.mem_cons.1 h with h | h
    · exact ⟨[], h⟩
    · obtain ⟨rest, -, rfl⟩ := List.mem_map.1 h
      exact ⟨rest, rfl⟩

theorem cons_mem_visits_iff :
    name :: rest ∈ visits (.directory entries) ↔
      ∃ e, entries.lookup name = some e ∧ (rest = [] ∨ isSkipped name = false ∧ rest ∈ visits e) := by
  rw [visits, List.mem_flatMap]
  constructor
  · rintro ⟨first, hfirst, hmem⟩
    obtain ⟨more, heq⟩ := exists_of_mem_visitsAt hmem
    injection heq with heq
    subst heq
    obtain ⟨e, he⟩ := Option.isSome_iff_exists.1 (mem_sortedNames_iff.1 hfirst)
    rw [visitsAt_of_lookup he] at hmem
    refine ⟨e, he, ?_⟩
    cases hskip : isSkipped name <;> simpa [hskip] using hmem
  · rintro ⟨e, he, hrest⟩
    refine ⟨name, mem_sortedNames_iff.2 (by rw [he]; rfl), ?_⟩
    rw [visitsAt_of_lookup he]
    rcases hrest with rfl | ⟨hskip, hrest⟩
    · exact List.mem_cons_self
    · rw [hskip]
      exact List.mem_cons_of_mem _ (List.mem_map_of_mem hrest)

theorem isLookedAt_cons_iff :
    IsLookedAt (.directory entries) (name :: rest) ↔
      ∃ e, entries.lookup name = some e ∧
        (rest = [] ∨ isSkipped name = false ∧ IsLookedAt e rest) := by
  have hget : (Entry.directory entries).get? (name :: rest) =
      (entries.lookup name).bind (·.get? rest) := Entry.get?_cons _ name rest
  cases rest with
  | nil =>
      constructor
      · intro h
        have hfound := h.found
        rw [hget] at hfound
        cases he : entries.lookup name with
        | none => simp [he] at hfound
        | some e => exact ⟨e, rfl, .inl rfl⟩
      · rintro ⟨e, he, -⟩
        refine ⟨List.cons_ne_nil _ _, ?_, fun d hd => absurd hd List.not_mem_nil⟩
        rw [hget, he]
        rfl
  | cons second more =>
      have hshown : IsShown (name :: second :: more) ↔
          isSkipped name = false ∧ IsShown (second :: more) := by
        rw [IsShown, List.dropLast_cons_cons, List.forall_mem_cons, isSkipped_eq_false_iff]
        rfl
      constructor
      · intro h
        obtain ⟨hskip, hrest⟩ := hshown.1 h.shown
        have hfound := h.found
        rw [hget] at hfound
        cases he : entries.lookup name with
        | none => simp [he] at hfound
        | some e =>
            rw [he] at hfound
            exact ⟨e, rfl, .inr ⟨hskip, List.cons_ne_nil _ _, hfound, hrest⟩⟩
      · rintro ⟨e, he, hrest | ⟨hskip, hrest⟩⟩
        · cases hrest
        · refine ⟨List.cons_ne_nil _ _, ?_, hshown.2 ⟨hskip, hrest.shown⟩⟩
          rw [hget, he]
          exact hrest.found

theorem mem_visits_iff : names ∈ visits top ↔ IsLookedAt top names := by
  induction names generalizing top with
  | nil =>
      refine ⟨fun h => ?_, fun h => (h.below rfl).elim⟩
      cases top with
      | file content => cases h
      | directory entries =>
          rw [visits] at h
          obtain ⟨name, -, hmem⟩ := List.mem_flatMap.1 h
          obtain ⟨rest, hrest⟩ := exists_of_mem_visitsAt hmem
          cases hrest
  | cons name rest ih =>
      cases top with
      | file content =>
          refine ⟨fun h => ?_, fun h => ?_⟩
          · cases h
          · have hfound := h.found
            rw [Entry.get?_file_cons] at hfound
            cases hfound
      | directory entries =>
          rw [cons_mem_visits_iff, isLookedAt_cons_iff]
          exact exists_congr fun e => and_congr_right fun _ => by rw [ih]

/-! ## Their order -/

theorem pairwise_sortedNames (h : (entries.map Prod.fst).Nodup) :
    (sortedNames entries).Pairwise (· < ·) := by
  have hsorted : (sortedNames entries).Pairwise fun a b => (!decide (b < a)) = true := by
    refine List.pairwise_mergeSort ?_ ?_ _
    · intro a b c hab hbc
      rw [Property.not_decide_lt_iff] at *
      exact String.le_trans hab hbc
    · intro a b
      rw [Bool.or_eq_true, Property.not_decide_lt_iff, Property.not_decide_lt_iff]
      exact String.le_total a b
  refine hsorted.imp₂ (fun a b hle hne => ?_) ((sortedNames_perm entries).nodup_iff.2 h)
  exact lt_of_le_of_ne (Property.not_decide_lt_iff.1 hle) hne

theorem sortedNames_eq (hnames : names.Pairwise (· < ·)) (hperm : (entries.map Prod.fst).Perm names) :
    sortedNames entries = names := by
  have hnodup : (entries.map Prod.fst).Nodup := hperm.nodup_iff.2 (hnames.imp ne_of_lt)
  exact ((sortedNames_perm entries).trans hperm).eq_of_pairwise
    (fun _ _ _ _ hab hba => (lt_asymm hab hba).elim) (pairwise_sortedNames hnodup) hnames

mutual

theorem pairwise_visits : ∀ top : Entry, top.isTree = true → (visits top).Pairwise (· < ·)
  | .file _, _ => List.Pairwise.nil
  | .directory entries, h => by
      rw [Entry.isTree, Bool.and_eq_true, decide_eq_true_iff] at h
      rw [visits, List.pairwise_flatMap]
      refine ⟨fun name hname => ?_, (pairwise_sortedNames h.1).imp ?_⟩
      · obtain ⟨e, he⟩ := Option.isSome_iff_exists.1 (mem_sortedNames_iff.1 hname)
        have hinside := pairwise_visitsIn entries h.2 name e he
        rw [visitsAt_of_lookup he]
        refine List.pairwise_cons.2 ⟨fun names hnames => ?_, ?_⟩
        · split at hnames
          · cases hnames
          · obtain ⟨rest, hrest, rfl⟩ := List.mem_map.1 hnames
            cases rest with
            | nil => exact ((mem_visits_iff.1 hrest).below rfl).elim
            | cons second more => exact List.Lex.cons List.Lex.nil
        · split
          · exact List.Pairwise.nil
          · exact List.pairwise_map.2 (hinside.imp fun hlt => List.Lex.cons hlt)
      · intro first second hlt names hnames names' hnames'
        obtain ⟨rest, rfl⟩ := exists_of_mem_visitsAt hnames
        obtain ⟨rest', rfl⟩ := exists_of_mem_visitsAt hnames'
        exact List.Lex.rel hlt

theorem pairwise_visitsIn : ∀ entries : List (String × Entry), Entry.areTrees entries = true →
    ∀ name e, entries.lookup name = some e → (visits e).Pairwise (· < ·)
  | [], _, _, _, he => by cases he
  | (n, e) :: rest, h, name, e', he => by
      rw [Entry.areTrees, Bool.and_eq_true, Bool.and_eq_true] at h
      rw [List.lookup_cons] at he
      split at he
      · injection he with he
        exact he ▸ pairwise_visits e h.1.2
      · exact pairwise_visitsIn rest h.2 name e' he

end

/-! ## The walk in a tree -/

def isListed (p : Path) (top : Entry) (names : List String) : Bool :=
  match top.get? names with
  | some (.file _) => isProjectFile (p.below names).name
  | _ => false

/-- Takes down the files among names that are looked at one after the other. -/
def lookThrough (p : Path) (top : Entry) : List (List String) → List Path → Except PathFault (List Path)
  | [], found => .ok found
  | names :: rest, found =>
    if (p.below names).isOverlong then .error ⟨.tooLong, (p.below names).toString⟩
    else lookThrough p top rest (if isListed p top names then found ++ [p.below names] else found)

theorem lookThrough_append (p : Path) (top : Entry) (first second : List (List String))
    (found : List Path) :
    lookThrough p top (first ++ second) found =
      (lookThrough p top first found).bind (lookThrough p top second) := by
  induction first generalizing found with
  | nil => rfl
  | cons names rest ih =>
      rw [List.cons_append, lookThrough, lookThrough]
      split
      · rfl
      · exact ih _

theorem lookThrough_map_cons (h : entries.lookup name = some e) (p : Path) (visited : List (List String))
    (found : List Path) :
    lookThrough p (.directory entries) (visited.map (name :: ·)) found =
      lookThrough (p.join name) e visited found := by
  induction visited generalizing found with
  | nil => rfl
  | cons names rest ih =>
      have hget : (Entry.directory entries).get? (name :: names) = e.get? names := by
        rw [Entry.get?_cons, Entry.entries, h, Option.bind_some]
      have hlisted : isListed (p.join name) e names =
          isListed p (.directory entries) (name :: names) := by
        rw [isListed, isListed, hget, Path.below_join]
      rw [List.map_cons, lookThrough, lookThrough, Path.below_join, hlisted, ih]

theorem entry_join (hp : s.entry p = .ok (.directory entries)) (htree : s.isTree = true)
    (h : entries.lookup name = some e) :
    s.entry (p.join name) = if (p.join name).isOverlong then .error .tooLong else .ok e := by
  obtain ⟨place, hresolve, hplace⟩ := resolve_of_entry hp
  have hsome : (entries.lookup name).isSome := by
    rw [h]
    rfl
  have hvalid := (Store.names_of_isTree htree hplace).2 name (Entry.isSome_lookup_iff.1 hsome)
  have hstep := resolve_join_of_lookup hresolve hplace hvalid hsome
  rw [Path.isOverlong, Path.name_join]
  split at hstep
  · next hlong => rw [Store.entry, hstep, if_pos hlong]
  · next hshort =>
    rw [Store.entry, hstep, if_neg hshort]
    dsimp only
    rw [Entry.get?_append, hplace, Option.bind_some, Entry.get?_singleton, Entry.entries, h]

theorem lookup_of_entry_join (hp : s.entry p = .ok (.directory entries)) (htree : s.isTree = true)
    (hname : (entries.lookup name).isSome) (h : s.entry (p.join name) = .ok e) :
    entries.lookup name = some e ∧ (p.join name).isOverlong = false := by
  obtain ⟨e', he⟩ := Option.isSome_iff_exists.1 hname
  rw [entry_join hp htree he] at h
  split at h
  · cases h
  · next hshort =>
    injection h with h
    exact ⟨h ▸ he, Bool.eq_false_iff.2 hshort⟩

theorem IsFlat.exists_file (h : IsFlat s (p.join name)) (hp : s.entry p = .ok (.directory entries))
    (htree : s.isTree = true) (hname : (entries.lookup name).isSome) :
    ∃ content, s.entry (p.join name) = .ok (.file content) := by
  obtain ⟨e, he⟩ := Option.isSome_iff_exists.1 hname
  have hentry := entry_join hp htree he
  split at hentry
  · exact (h.not_long hentry).elim
  · cases e with
    | file content => exact ⟨content, hentry⟩
    | directory sub => exact (h.no_directory sub hentry).elim

theorem isListed_singleton (p : Path) (h : entries.lookup name = some e) :
    isListed p (.directory entries) [name] = (e.names?.isNone && isProjectFile name) := by
  rw [isListed, Path.below_singleton, Path.name_join, Entry.get?_singleton, Entry.entries, h]
  cases e with
  | file content => exact (Bool.true_and _).symm
  | directory sub => rfl

theorem lookThrough_visitsAt (h : entries.lookup name = some e)
    (hshort : (p.join name).isOverlong = false) (visited : List (List String)) (found : List Path) :
    lookThrough p (.directory entries) (visitsAt (visitsIn entries) name ++ visited) found =
      (lookThrough (p.join name) e (if isSkipped name then [] else visits e)
        (if e.names?.isNone && isProjectFile name then found ++ [p.join name] else found)).bind
          (lookThrough p (.directory entries) visited) := by
  have hinside : (if isSkipped name then [] else (visits e).map (name :: ·)) =
      (if isSkipped name then [] else visits e).map (name :: ·) := by
    split <;> rfl
  rw [visitsAt_of_lookup h, List.cons_append, lookThrough, Path.below_singleton, hshort,
    if_neg Bool.false_ne_true, isListed_singleton p h, lookThrough_append, hinside,
    lookThrough_map_cons h]

/-- A walk takes down the files among the names that it visits. -/
theorem walk_collect (htree : s.isTree = true) (hp : s.entry p = .ok (.directory entries))
    (hnames : ∀ name ∈ names, (entries.lookup name).isSome) (found : List Path) :
    walk collect id p names s found =
      (s, lookThrough p (.directory entries) (names.flatMap (visitsAt (visitsIn entries))) found) := by
  fun_induction walk collect id p names s found generalizing entries with
  | case1 p s found => rfl
  | case2 p name rest s found sub hentry hskip ih =>
      obtain ⟨hname, hrest⟩ := List.forall_mem_cons.1 hnames
      obtain ⟨he, hshort⟩ := lookup_of_entry_join hp htree hname hentry
      rw [ih htree hp hrest, List.flatMap_cons, lookThrough_visitsAt he hshort, if_pos hskip]
      rfl
  | case3 p name rest s found sub hentry hskip ihinside ihlater =>
      obtain ⟨hname, hrest⟩ := List.forall_mem_cons.1 hnames
      obtain ⟨he, hshort⟩ := lookup_of_entry_join hp htree hname hentry
      have hnone : ((Entry.directory sub).names?.isNone && isProjectFile name) = false := rfl
      rw [ihinside htree hentry fun n => mem_sortedNames_iff.1, List.flatMap_cons,
        lookThrough_visitsAt he hshort, if_neg hskip, hnone, if_neg Bool.false_ne_true, visits]
      cases lookThrough (p.join name) (.directory sub)
          ((sortedNames sub).flatMap (visitsAt (visitsIn sub))) found with
      | error fault => rfl
      | ok found' =>
          rw [andThen_ok, ihlater s found' htree hp hrest]
          rfl
  | case4 p name rest s found hentry =>
      obtain ⟨e, he⟩ := Option.isSome_iff_exists.1 (hnames name List.mem_cons_self)
      have hlong : (p.join name).isOverlong = true := by
        by_contra hshort
        rw [entry_join hp htree he, if_neg hshort] at hentry
        cases hentry
      rw [List.flatMap_cons, visitsAt_of_lookup he, List.cons_append, lookThrough, Path.below_singleton,
        if_pos hlong]
      rfl
  | case5 p name rest s found hproject hdirectory hlong ih =>
      obtain ⟨hname, hrest⟩ := List.forall_mem_cons.1 hnames
      obtain ⟨content, hentry⟩ := IsFlat.exists_file ⟨hdirectory, hlong⟩ hp htree hname
      obtain ⟨he, hshort⟩ := lookup_of_entry_join hp htree hname hentry
      rw [collect, andThen_ok, ih s _ htree hp hrest, List.flatMap_cons,
        lookThrough_visitsAt he hshort, hproject, visits, ite_self]
      rfl
  | case6 p name rest s found hproject hdirectory hlong ih =>
      obtain ⟨hname, hrest⟩ := List.forall_mem_cons.1 hnames
      obtain ⟨content, hentry⟩ := IsFlat.exists_file ⟨hdirectory, hlong⟩ hp htree hname
      obtain ⟨he, hshort⟩ := lookup_of_entry_join hp htree hname hentry
      rw [ih htree hp hrest, List.flatMap_cons, lookThrough_visitsAt he hshort,
        Bool.eq_false_iff.2 hproject, visits, ite_self]
      rfl

/-! ## The files of a directory -/

theorem lookThrough_of_short {visited : List (List String)}
    (h : ∀ names ∈ visited, (p.below names).isOverlong = false) (top : Entry) (found : List Path) :
    lookThrough p top visited found =
      .ok (found ++ (visited.filter (isListed p top)).map p.below) := by
  induction visited generalizing found with
  | nil => rw [lookThrough, List.filter_nil, List.map_nil, List.append_nil]
  | cons names rest ih =>
      obtain ⟨hshort, hrest⟩ := List.forall_mem_cons.1 h
      rw [lookThrough, hshort, if_neg Bool.false_ne_true, ih hrest, List.filter_cons]
      split
      · rw [List.map_cons, List.append_assoc, List.singleton_append]
      · rfl

/-- Nothing is looked at after the first path that is too long. -/
theorem lookThrough_of_overlong {before after : List (List String)}
    (hbefore : ∀ names ∈ before, (p.below names).isOverlong = false)
    (hlong : (p.below names).isOverlong = true) (top : Entry) (found : List Path) :
    lookThrough p top (before ++ names :: after) found =
      .error ⟨.tooLong, (p.below names).toString⟩ := by
  rw [lookThrough_append, lookThrough_of_short hbefore]
  show lookThrough p top (names :: after) _ = _
  rw [lookThrough, if_pos hlong]

theorem isListed_eq_true_iff :
    isListed p top names = true ↔
      (∃ content, top.get? names = some (.file content)) ∧
        (p.below names).extension ∈ [".js", ".jsx", ".ts", ".tsx"] := by
  rw [← List.contains_iff_mem, isListed]
  split
  · next content hfile =>
    rw [hfile]
    exact ⟨fun h => ⟨⟨content, rfl⟩, h⟩, And.right⟩
  · next hother => exact ⟨fun h => absurd h Bool.false_ne_true, fun h => (h.1.elim hother).elim⟩

theorem isSource_iff :
    IsSource p (.directory entries) names ↔
      IsLookedAt (.directory entries) names ∧ isListed p (.directory entries) names = true := by
  rw [isListed_eq_true_iff]
  constructor
  · intro h
    obtain ⟨content, hfile⟩ := h.file
    refine ⟨⟨?_, by rw [hfile]; rfl, h.shown⟩, h.file, h.suffix⟩
    rintro rfl
    cases hfile
  · exact fun h => ⟨h.2.1, h.2.2, h.1.shown⟩

theorem projectFiles_eq_lookThrough (htree : s.isTree = true)
    (hroot : s.entry root = .ok (.directory entries)) :
    projectFiles s root = lookThrough root (.directory entries) (visits (.directory entries)) [] := by
  rw [projectFiles, walkProject, hroot]
  dsimp only
  rw [walk_collect htree hroot fun name => mem_sortedNames_iff.1, visits]

/-- In ascending order, the first unwanted name met is the least one. -/
theorem exists_isLeast {visited : List (List String)} (hsorted : visited.Pairwise (· < ·))
    (unwanted : List String → Bool) (h : ∃ names ∈ visited, unwanted names = true) :
    ∃ before first after, visited = before ++ first :: after ∧
      (∀ names ∈ before, unwanted names = false) ∧
      IsLeast {names | names ∈ visited ∧ unwanted names = true} first := by
  cases hfind : visited.find? unwanted with
  | none =>
      obtain ⟨names, hnames, hunwanted⟩ := h
      exact (List.find?_eq_none.1 hfind names hnames hunwanted).elim
  | some first =>
      obtain ⟨hfirst, before, after, hsplit, hbefore⟩ := List.find?_eq_some_iff_append.1 hfind
      refine ⟨before, first, after, hsplit, fun names hnames => ?_,
        ⟨List.mem_of_find?_eq_some hfind, hfirst⟩, ?_⟩
      · rw [← Bool.not_eq_true']
        exact hbefore names hnames
      · rintro other ⟨hmem, hother⟩
        rw [hsplit] at hmem hsorted
        rcases List.mem_append.1 hmem with hmem | hmem
        · have hwanted := hbefore other hmem
          rw [hother] at hwanted
          cases hwanted
        · rcases List.mem_cons.1 hmem with rfl | hmem
          · exact le_refl _
          · have hafter := (List.pairwise_append.1 hsorted).2.1
            exact le_of_lt ((List.pairwise_cons.1 hafter).1 other hmem)

/-- The files of a project are listed without loss or repetition in ascending order, unless one of the
paths that have to be looked at is too long: then the walk ends at the first of these. -/
theorem projectFiles_ascending (htree : s.isTree = true)
    (hroot : s.entry root = .ok (.directory entries)) :
    ((∀ names, IsLookedAt (.directory entries) names → (root.below names).isOverlong = false) →
      ∃ files : List (List String), projectFiles s root = .ok (files.map root.below) ∧
        files.Pairwise (· < ·) ∧ ∀ names, names ∈ files ↔ IsSource root (.directory entries) names) ∧
    ((∃ names, IsLookedAt (.directory entries) names ∧ (root.below names).isOverlong = true) →
      ∃ names, IsLeast {names | IsLookedAt (.directory entries) names ∧
          (root.below names).isOverlong = true} names ∧
        projectFiles s root = .error ⟨.tooLong, (root.below names).toString⟩) := by
  obtain ⟨place, -, hplace⟩ := resolve_of_entry hroot
  have hsorted := pairwise_visits (.directory entries) (Entry.isTree_get? htree hplace)
  rw [projectFiles_eq_lookThrough htree hroot]
  constructor
  · intro hshort
    refine ⟨(visits (.directory entries)).filter (isListed root (.directory entries)), ?_,
      hsorted.filter _, fun names => ?_⟩
    · rw [lookThrough_of_short fun names hnames => hshort names (mem_visits_iff.1 hnames),
        List.nil_append]
    · rw [List.mem_filter, mem_visits_iff, isSource_iff]
  · rintro ⟨long, hlooked, hlong⟩
    obtain ⟨before, first, after, hsplit, hshort, hleast⟩ :=
      exists_isLeast hsorted (fun names => (root.below names).isOverlong)
        ⟨long, mem_visits_iff.2 hlooked, hlong⟩
    simp only [mem_visits_iff] at hleast
    refine ⟨first, hleast, ?_⟩
    rw [hsplit, lookThrough_of_overlong hshort hleast.1.2]

/-! ## A path that winds up and down -/

def oneSource : Store :=
  .directory [("a", .directory [("x.js", .file [])])]

/-- The way out of the directory and in again, as often as wanted. -/
def winding (turns : Nat) : List String :=
  (List.replicate turns ["..", "a"]).flatten

theorem winding_succ (turns : Nat) : winding (turns + 1) = ".." :: "a" :: winding turns := by
  rw [winding, List.replicate_succ, List.flatten_cons]
  rfl

theorem follow_winding (turns : Nat) : oneSource.follow [] ("a" :: winding turns) = .ok ["a"] := by
  have hinside : oneSource.follow ["a"] (winding turns) = .ok ["a"] := by
    induction turns with
    | zero => rfl
    | succ turns ih =>
        rw [winding_succ]
        exact ih
  exact hinside

theorem utf8ByteSize_winding (turns : Nat) (tail : List String) :
    ("/".intercalate ("a" :: (winding turns ++ tail))).utf8ByteSize =
      5 * turns + ("/".intercalate ("a" :: tail)).utf8ByteSize := by
  induction turns with
  | zero => rw [Nat.mul_zero, Nat.zero_add]; rfl
  | succ turns ih =>
      have hmark : "/".utf8ByteSize = 1 := rfl
      have hname : "a".utf8ByteSize = 1 := rfl
      have hdots : "..".utf8ByteSize = 2 := rfl
      rw [winding_succ, List.cons_append, List.cons_append, String.intercalate_cons_cons,
        String.intercalate_cons_cons]
      simp only [String.utf8ByteSize_append, hmark, hname, hdots, ih]
      omega

/-- A path to the directory that leaves no room for the name of the file. -/
def windingRoot : Path :=
  { names := "a" :: winding 818 }

theorem utf8ByteSize_below_windingRoot (tail : List String) :
    (windingRoot.below tail).toString.utf8ByteSize =
      4090 + ("/".intercalate ("a" :: tail)).utf8ByteSize := by
  have hnames : (windingRoot.below tail).names = "a" :: (winding 818 ++ tail) := rfl
  rw [Path.toString, hnames, if_neg (by simp), String.utf8ByteSize_append, utf8ByteSize_winding]
  have hroot : (windingRoot.below tail).root.utf8ByteSize = 0 := rfl
  omega

theorem entry_windingRoot :
    oneSource.entry windingRoot = .ok (.directory [("x.js", .file [])]) := by
  have hnull : windingRoot.hasNull = false := by
    have hall : ∀ name ∈ ["..", "a"], ¬ name.toList.contains '\x00' = true := by decide
    rw [Path.hasNull, List.any_eq_false]
    intro name hname
    rcases List.mem_cons.1 hname with rfl | hname
    · exact hall "a" (by simp)
    · obtain ⟨names, hnames, hname⟩ := List.mem_flatten.1 hname
      rw [(List.mem_replicate.1 hnames).2] at hname
      exact hall name hname
  have hlong : windingRoot.isLong = false := by
    have hsize := utf8ByteSize_below_windingRoot []
    have hself : windingRoot.below [] = windingRoot := by rw [Path.below, List.append_nil]
    have hname : ("/".intercalate ["a"]).utf8ByteSize = 1 := rfl
    rw [hself, hname] at hsize
    rw [Path.isLong, hsize]
    rfl
  rw [Store.entry, Store.resolve_of_follow hnull hlong rfl, windingRoot, follow_winding]
  rfl

theorem isOverlong_windingRoot : (windingRoot.below ["x.js"]).isOverlong = true := by
  have hname : ("/".intercalate ["a", "x.js"]).utf8ByteSize = 6 := rfl
  rw [Path.isOverlong, Path.isLong, utf8ByteSize_below_windingRoot, hname]
  rfl

theorem isLookedAt_oneSource : IsLookedAt (.directory [("x.js", .file [])]) ["x.js"] :=
  ⟨List.cons_ne_nil _ _, rfl, fun _ h => absurd h List.not_mem_nil⟩

theorem isTree_oneSource : oneSource.isTree = true := by
  decide +kernel

/-- There is a file to be listed, but the walk fails. -/
theorem projectFiles_windingRoot :
    oneSource.isTree = true ∧ oneSource.entry windingRoot = .ok (.directory [("x.js", .file [])]) ∧
      IsSource windingRoot (.directory [("x.js", .file [])]) ["x.js"] ∧
      projectFiles oneSource windingRoot = .error ⟨.tooLong, (windingRoot.below ["x.js"]).toString⟩ := by
  have hsuffix : (windingRoot.below ["x.js"]).extension = ".js" := by
    rw [Path.extension, Path.below_singleton, Path.name_join]
    decide +kernel
  have hvisits : visits (.directory [("x.js", .file [])]) = [] ++ [["x.js"]] := by
    decide +kernel
  refine ⟨isTree_oneSource, entry_windingRoot, ?_, ?_⟩
  · exact ⟨⟨[], rfl⟩, by rw [hsuffix]; simp, isLookedAt_oneSource.shown⟩
  · rw [projectFiles_eq_lookThrough isTree_oneSource entry_windingRoot, hvisits]
    exact lookThrough_of_overlong (fun _ h => absurd h List.not_mem_nil) isOverlong_windingRoot _ []

def nestedFiles : Store :=
  .directory
    [("z.js", .file []), ("node_modules", .directory [("h.js", .file [])]), ("a.js", .file []),
      ("a", .directory [("c.css", .file []), ("b.TSX", .file [])]),
      (".git", .directory [("k.js", .file [])])]

def nestedVisits : List (List String) :=
  [[".git"], ["a"], ["a", "b.TSX"], ["a", "c.css"], ["a.js"], ["node_modules"], ["z.js"]]

theorem visits_nestedFiles : visits (.directory nestedFiles.entries) = nestedVisits := by
  have hnames : sortedNames nestedFiles.entries = [".git", "a", "a.js", "node_modules", "z.js"] :=
    sortedNames_eq (by decide) (by decide +kernel)
  have hinside : sortedNames [("c.css", .file []), ("b.TSX", .file [])] = ["b.TSX", "c.css"] :=
    sortedNames_eq (by decide) (by decide +kernel)
  have hsub : visits (.directory [("c.css", .file []), ("b.TSX", .file [])]) =
      [["b.TSX"], ["c.css"]] := by
    rw [visits, hinside]
    decide +kernel
  rw [visits, hnames, List.flatMap_cons, List.flatMap_cons, visitsAt_of_lookup rfl,
    visitsAt_of_lookup rfl, hsub]
  decide +kernel

theorem projectFiles_ascending_nestedFiles :
    (nestedFiles.isTree = true ∧ nestedFiles.entry (Path.ofString ".") = .ok nestedFiles ∧
      ∃ files : List (List String),
        projectFiles nestedFiles (Path.ofString ".") = .ok (files.map (Path.ofString ".").below) ∧
        files.Pairwise (· < ·) ∧ ["a", "b.TSX"] ∈ files ∧ ["a.js"] ∈ files ∧
        ["node_modules", "h.js"] ∉ files) ∧
    oneSource.isTree = true ∧ oneSource.entry windingRoot = .ok (.directory [("x.js", .file [])]) ∧
      ∃ names, IsLookedAt (.directory [("x.js", .file [])]) names ∧
        projectFiles oneSource windingRoot = .error ⟨.tooLong, (windingRoot.below names).toString⟩ := by
  have htree : nestedFiles.isTree = true := by decide +kernel
  have hroot : nestedFiles.entry (Path.ofString ".") = .ok (.directory nestedFiles.entries) := rfl
  have hshort : ∀ names, IsLookedAt (.directory nestedFiles.entries) names →
      ((Path.ofString ".").below names).isOverlong = false := by
    have hall : ∀ names ∈ nestedVisits, ((Path.ofString ".").below names).isOverlong = false := by
      decide +kernel
    intro names hnames
    exact hall names (visits_nestedFiles ▸ mem_visits_iff.2 hnames)
  obtain ⟨files, hfiles, hsorted, hmem⟩ := (projectFiles_ascending htree hroot).1 hshort
  obtain ⟨names, hleast, hfault⟩ := (projectFiles_ascending isTree_oneSource entry_windingRoot).2
    ⟨["x.js"], isLookedAt_oneSource, isOverlong_windingRoot⟩
  refine ⟨⟨htree, hroot, files, hfiles, hsorted, ?_, ?_, ?_⟩, isTree_oneSource, entry_windingRoot, names,
    hleast.1.1, hfault⟩
  · exact (hmem _).2 ⟨⟨[], rfl⟩, by decide +kernel, by decide +kernel⟩
  · exact (hmem _).2 ⟨⟨[], rfl⟩, by decide +kernel, by decide +kernel⟩
  · intro hlisted
    exact (((hmem _).1 hlisted).shown "node_modules" (by simp)).1 rfl

end Batch

end PropTyper
