import PropTyper.Proofs.Property.Place

/-! # One turn of the completion

A turn takes the next waiting property. It is passed over if its name is looked up already, and
otherwise gets a lookup, whose `outcome` takes its place. `Invariant` says what holds between two
turns: every entry that has a place is a copy of what stands there, parents wait before their
members, and an open property waits or has its name looked up already.
-/

namespace PropTyper.Completion

open Property

/-! ## One lookup -/

/-- The block in which the name of a property is looked up. -/
def lookupBlock (component : Node) (p : Property) : Node :=
  blockNode component (blockOf component p)

def isCalled (component : Node) (p : Property) : Bool :=
  (lookupBlock component p).calls (p.binding.getD "")

def evidence (component : Node) (p : Property) : List Property :=
  (lookupBlock component p).membersOf (p.binding.getD "")

def outcome (component : Node) (p : Property) : Property :=
  if isCalled component p then { p with kind := .func, children := [] }
  else if (evidence component p).isEmpty then p
  else { p with kind := .shape, children := mergeLists .peer p.children (evidence component p) }

/-- The entries that a lookup adds: the open members of its outcome whose names are still to be
looked up. -/
def freshMembers (component : Node) (resolved : List Key) (w : Waiting) : List Waiting :=
  (placedFrom w.place 0 (outcome component w.property).children).filter fun c =>
    isOpen c.property && !resolved.contains (keyOf component c.property)

theorem outcome_of_called {component : Node} {p : Property} (h : isCalled component p = true) :
    outcome component p = { p with kind := .func, children := [] } :=
  if_pos h

theorem outcome_of_silent {component : Node} {p : Property} (hcalled : ¬ isCalled component p = true)
    (hsilent : evidence component p = []) : outcome component p = p := by
  rw [outcome, if_neg hcalled, if_pos (List.isEmpty_iff.2 hsilent)]

theorem outcome_of_evidence {component : Node} {p : Property}
    (hcalled : ¬ isCalled component p = true) (hevidence : evidence component p ≠ []) :
    outcome component p =
      { p with
        kind := .shape
        children := mergeLists .peer p.children (evidence component p) } := by
  rw [outcome, if_neg hcalled, if_neg (by simpa using hevidence)]

@[simp] theorem outcome_name (component : Node) (p : Property) :
    (outcome component p).name = p.name := by
  unfold outcome
  split
  · rfl
  · split <;> rfl

@[simp] theorem outcome_binding (component : Node) (p : Property) :
    (outcome component p).binding = p.binding := by
  unfold outcome
  split
  · rfl
  · split <;> rfl

@[simp] theorem outcome_scope (component : Node) (p : Property) :
    (outcome component p).scope = p.scope := by
  unfold outcome
  split
  · rfl
  · split <;> rfl

@[simp] theorem outcome_defaultText (component : Node) (p : Property) :
    (outcome component p).defaultText = p.defaultText := by
  unfold outcome
  split
  · rfl
  · split <;> rfl

/-- Which name a property waits for depends on its binding and the scope of it alone. -/
theorem keyOf_congr {p q : Property} (component : Node) (hbinding : p.binding = q.binding)
    (hscope : p.scope = q.scope) : keyOf component p = keyOf component q := by
  simp only [keyOf, blockOf, hbinding, hscope]

@[simp] theorem keyOf_outcome (component : Node) (p : Property) :
    keyOf component (outcome component p) = keyOf component p :=
  keyOf_congr component (outcome_binding component p) (outcome_scope component p)

theorem isCalled_congr {p q : Property} {component : Node}
    (h : keyOf component p = keyOf component q) :
    isCalled component p = isCalled component q := by
  have hbinding : p.binding.getD "" = q.binding.getD "" := congrArg Key.binding h
  have hblock : blockOf component p = blockOf component q := congrArg Key.block h
  simp only [isCalled, lookupBlock, hbinding, hblock]

theorem evidence_congr {p q : Property} {component : Node}
    (h : keyOf component p = keyOf component q) :
    evidence component p = evidence component q := by
  have hbinding : p.binding.getD "" = q.binding.getD "" := congrArg Key.binding h
  have hblock : blockOf component p = blockOf component q := congrArg Key.block h
  simp only [evidence, lookupBlock, hbinding, hblock]

theorem kind_of_isOpen {p : Property} (h : isOpen p = true) : p.kind = .any ∨ p.kind = .shape := by
  rw [isOpen, Bool.and_eq_true] at h
  obtain ⟨-, hkind⟩ := h
  revert hkind
  cases p.kind <;> simp [PropKind.isImprecise]

theorem binding_of_isOpen {p : Property} (h : isOpen p = true) : ∃ b, p.binding = some b ∧ b ≠ "" := by
  rw [isOpen, Bool.and_eq_true] at h
  obtain ⟨hfilled, -⟩ := h
  cases hbinding : p.binding with
  | none => simp [hbinding, Filled] at hfilled
  | some b => exact ⟨b, rfl, by simpa [hbinding, Filled] using hfilled⟩

/-- Everything that a turn with a lookup does to a state. -/
theorem resolve_cases (component : Node) (s : State) (w : Waiting) :
    (resolve component s w).resolved = s.resolved ++ [keyOf component w.property] ∧
    ((outcome component w.property = w.property ∧
        (resolve component s w).properties = s.properties ∧
        (resolve component s w).waiting = s.waiting) ∨
      ((resolve component s w).properties =
          (replace s w (outcome component w.property)).properties ∧
        (resolve component s w).waiting =
          (replace s w (outcome component w.property)).waiting ++
            freshMembers component (s.resolved ++ [keyOf component w.property]) w)) := by
  have replaced : ∀ (resolved : List Key) (p : Property),
      (replace { s with resolved } w p).resolved = resolved ∧
      (replace { s with resolved } w p).properties = (replace s w p).properties ∧
      (replace { s with resolved } w p).waiting = (replace s w p).waiting := by
    intro resolved p
    unfold replace
    cases w.place with
    | none => exact ⟨rfl, rfl, rfl⟩
    | some place => exact ⟨rfl, rfl, rfl⟩
  by_cases hcall : isCalled component w.property = true
  · have hout := outcome_of_called hcall
    have hres : resolve component s w =
        replace { s with resolved := s.resolved ++ [keyOf component w.property] } w
          (outcome component w.property) := by
      rw [hout]
      exact if_pos hcall
    have hnone : freshMembers component (s.resolved ++ [keyOf component w.property]) w = [] := by
      rw [freshMembers, hout]
      rfl
    rw [hres, hnone, List.append_nil]
    exact ⟨(replaced _ _).1, .inr (replaced _ _).2⟩
  · by_cases hsilent : evidence component w.property = []
    · have hres : resolve component s w =
          { s with resolved := s.resolved ++ [keyOf component w.property] } :=
        (if_neg hcall).trans (if_pos (List.isEmpty_iff.2 hsilent))
      rw [hres]
      exact ⟨rfl, .inl ⟨outcome_of_silent hcall hsilent, rfl, rfl⟩⟩
    · have hres : resolve component s w =
          let r := replace { s with resolved := s.resolved ++ [keyOf component w.property] } w
            (outcome component w.property)
          { r with
            waiting := r.waiting ++
              freshMembers component (s.resolved ++ [keyOf component w.property]) w } := by
        rw [freshMembers, outcome_of_evidence hcall hsilent]
        exact (if_neg hcall).trans (if_neg fun h => hsilent (List.isEmpty_iff.1 h))
      rw [hres]
      obtain ⟨hr, hp, hw⟩ := replaced (s.resolved ++ [keyOf component w.property])
        (outcome component w.property)
      exact ⟨hr, .inr ⟨hp, congrArg (· ++ _) hw⟩⟩

theorem mem_detach_place_iff {place y : List Nat} {w : Waiting} :
    y ∈ (detach place w).place ↔ y ∈ w.place ∧ ¬ (place <+: y ∧ place ≠ y) := by
  unfold detach
  cases hw : w.place with
  | none =>
      simp only [hw]
      exact ⟨fun hy => (Option.not_mem_none y hy).elim, fun h => h.1⟩
  | some below =>
      have hproper : (place.isPrefixOf below && decide (place.length < below.length)) = true ↔
          place <+: below ∧ place ≠ below := by
        rw [Bool.and_eq_true, List.isPrefixOf_iff_prefix, decide_eq_true_eq]
        constructor
        · rintro ⟨hp, hlt⟩
          exact ⟨hp, fun he => by simp [he] at hlt⟩
        · rintro ⟨hp, hne⟩
          refine ⟨hp, Nat.lt_of_le_of_ne hp.length_le ?_⟩
          intro hlen
          exact hne (hp.eq_of_length hlen)
      dsimp only
      by_cases hbelow : place <+: below ∧ place ≠ below
      · rw [if_pos (hproper.2 hbelow)]
        constructor
        · intro hy
          cases hy
        · rintro ⟨hy, hkept⟩
          cases hy
          exact (hkept hbelow).elim
      · rw [if_neg (mt hproper.1 hbelow), hw]
        constructor
        · intro hy
          cases hy
          exact ⟨rfl, hbelow⟩
        · exact fun h => h.1

@[simp] theorem detach_property (place : List Nat) (w : Waiting) :
    (detach place w).property = w.property := by
  unfold detach
  cases w.place with
  | none => rfl
  | some below =>
      simp only
      split <;> rfl

/-! ## Between two turns -/

/-- A place at or below a property of the list that is not to be left alone. -/
def Free (names except : List String) (place : List Nat) : Prop :=
  ∃ i ∈ place.head?, ∃ name ∈ names[i]?, name ∉ except

theorem Free.append {names except : List String} {place : List Nat}
    (h : Free names except place) (below : List Nat) : Free names except (place ++ below) := by
  obtain ⟨i, hi, hfree⟩ := h
  cases place with
  | nil => cases hi
  | cons j rest => exact ⟨i, hi, hfree⟩

/-- What holds before and after every turn; `names` are those of the list, which never change. -/
structure Invariant (component : Node) (names except : List String) (s : State) : Prop where
  names_eq : s.properties.map (·.name) = names
  held : ∀ w ∈ s.waiting, ∀ place ∈ w.place, at? place s.properties = some w.property
  free : ∀ w ∈ s.waiting, ∀ place ∈ w.place, Free names except place
  allOpen : ∀ w ∈ s.waiting, isOpen w.property = true
  ordered : ParentsFirst s.waiting
  covered : ∀ place p, at? place s.properties = some p → Free names except place →
    isOpen p = true → keyOf component p ∈ s.resolved ∨ ∃ w ∈ s.waiting, w.place = some place

variable {component : Node} {names except : List String}

theorem invariant_initial (component : Node) (properties : List Property) (except : List String) :
    Invariant component (properties.map (·.name)) except
      ⟨properties, initialWaiting properties except, []⟩ := by
  have hmem : ∀ {w : Waiting}, w ∈ initialWaiting properties except ↔
      ∃ place, w.place = some place ∧ at? place properties = some w.property ∧
        isOpen w.property = true ∧ Free (properties.map (·.name)) except place := by
    intro w
    rw [initialWaiting, List.mem_filter, mem_placedFrom_iff, Bool.and_eq_true]
    constructor
    · rintro ⟨⟨i, rest, hplace, hat⟩, hopen, htop⟩
      rw [List.nil_append, Nat.zero_add] at hplace
      refine ⟨i :: rest, hplace, hat, hopen, i, rfl, ?_⟩
      simp only [hplace] at htop
      cases hi : properties[i]? with
      | none => simp [hi] at htop
      | some top =>
          refine ⟨top.name, by simp [hi], ?_⟩
          simpa [hi] using htop
    · rintro ⟨place, hplace, hat, hopen, i, hi, name, hname, hfree⟩
      cases place with
      | nil => cases hi
      | cons j rest =>
          cases hi
          refine ⟨⟨i, rest, by simpa using hplace, hat⟩, hopen, ?_⟩
          rw [List.getElem?_map, Option.mem_def, Option.map_eq_some_iff] at hname
          obtain ⟨top, htop, rfl⟩ := hname
          simp [hplace, htop, hfree]
  refine ⟨rfl, ?_, ?_, ?_, ?_, ?_⟩
  · intro w hw place hplace
    obtain ⟨place', hplace', hat, -⟩ := hmem.1 hw
    cases hplace'.symm.trans hplace
    exact hat
  · intro w hw place hplace
    obtain ⟨place', hplace', -, -, hfree⟩ := hmem.1 hw
    cases hplace'.symm.trans hplace
    exact hfree
  · intro w hw
    obtain ⟨place, -, -, hopen, -⟩ := hmem.1 hw
    exact hopen
  · exact (parentsFirst_placedFrom [] 0 properties).filter _
  · intro place p hat hfree hopen
    exact .inr ⟨⟨p, some place⟩, hmem.2 ⟨place, rfl, hat, hopen, hfree⟩, rfl⟩

theorem Invariant.dropFirst {properties : List Property} {w : Waiting} {rest : List Waiting}
    {resolved later : List Key}
    (h : Invariant component names except ⟨properties, w :: rest, resolved⟩)
    (hkey : keyOf component w.property ∈ later) (hlater : resolved ⊆ later) :
    Invariant component names except ⟨properties, rest, later⟩ := by
  refine ⟨h.names_eq, ?_, ?_, ?_, (List.pairwise_cons.1 h.ordered).2, ?_⟩
  · exact fun v hv => h.held v (List.mem_cons_of_mem w hv)
  · exact fun v hv => h.free v (List.mem_cons_of_mem w hv)
  · exact fun v hv => h.allOpen v (List.mem_cons_of_mem w hv)
  · intro place p hat hfree hopen
    rcases h.covered place p hat hfree hopen with hres | ⟨v, hv, hplace⟩
    · exact .inl (hlater hres)
    · rcases List.mem_cons.1 hv with rfl | hv
      · have hp : p = v.property := by
          have hheld := h.held v List.mem_cons_self place hplace
          exact Option.some.inj (hat.symm.trans hheld)
        rw [hp]
        exact .inl hkey
      · exact .inr ⟨v, hv, hplace⟩

theorem Invariant.appendDetached {properties : List Property} {waiting next : List Waiting}
    {resolved : List Key} (h : Invariant component names except ⟨properties, waiting, resolved⟩)
    (hplace : ∀ w ∈ next, w.place = none) (hopen : ∀ w ∈ next, isOpen w.property = true) :
    Invariant component names except ⟨properties, waiting ++ next, resolved⟩ := by
  have absent : ∀ {w place}, w ∈ next → place ∉ w.place := by
    intro w place hw
    rw [hplace w hw]
    exact Option.not_mem_none place
  refine ⟨h.names_eq, ?_, ?_, ?_, ?_, ?_⟩
  · intro w hw place hmem
    rcases List.mem_append.1 hw with hw | hw
    · exact h.held w hw place hmem
    · exact (absent hw hmem).elim
  · intro w hw place hmem
    rcases List.mem_append.1 hw with hw | hw
    · exact h.free w hw place hmem
    · exact (absent hw hmem).elim
  · intro w hw
    rcases List.mem_append.1 hw with hw | hw
    · exact h.allOpen w hw
    · exact hopen w hw
  · refine List.pairwise_append.2 ⟨h.ordered, ?_, ?_⟩
    · exact List.pairwise_of_forall_mem_list fun a _ b hb x _ y hy => (absent hb hy).elim
    · exact fun a _ b hb x _ y hy => (absent hb hy).elim
  · intro place p hat hfree hp
    rcases h.covered place p hat hfree hp with hres | ⟨w, hw, hmem⟩
    · exact .inl hres
    · exact .inr ⟨w, List.mem_append_left next hw, hmem⟩

theorem mem_freshMembers {resolved : List Key} {w v : Waiting}
    (h : v ∈ freshMembers component resolved w) :
    v ∈ placedFrom w.place 0 (outcome component w.property).children ∧
      isOpen v.property = true := by
  obtain ⟨hmem, hcond⟩ := List.mem_filter.1 h
  exact ⟨hmem, (Bool.and_eq_true _ _ ▸ hcond).1⟩

theorem exists_of_mem_freshMembers {resolved : List Key} {w v : Waiting} {place : List Nat}
    (hw : w.place = some place) (h : v ∈ freshMembers component resolved w) :
    ∃ below, below ≠ [] ∧ v.place = some (place ++ below) ∧
      at? below (outcome component w.property).children = some v.property := by
  obtain ⟨hmem, -⟩ := mem_freshMembers h
  rw [hw] at hmem
  obtain ⟨i, rest, hplace, hat⟩ := mem_placedFrom_iff.1 hmem
  rw [Nat.zero_add] at hplace
  exact ⟨i :: rest, by simp, hplace, hat⟩

theorem mem_freshMembers_of_at? {resolved : List Key} {w : Waiting} {place below : List Nat}
    {p : Property} (hw : w.place = some place) (hbelow : below ≠ [])
    (hat : at? below (outcome component w.property).children = some p) (hopen : isOpen p = true)
    (hkey : keyOf component p ∉ resolved) :
    ⟨p, some (place ++ below)⟩ ∈ freshMembers component resolved w := by
  refine List.mem_filter.2 ⟨?_, by simp [hopen, hkey]⟩
  obtain ⟨i, below, rfl⟩ := List.exists_cons_of_ne_nil hbelow
  rw [hw]
  exact mem_placedFrom_iff.2 ⟨i, below, by rw [Nat.zero_add], hat⟩

theorem ne_nil_of_at? {place : List Nat} {properties : List Property} {p : Property}
    (h : at? place properties = some p) : place ≠ [] := by
  rintro rfl
  cases h

/-- What still waits after a lookup at a place stands neither above nor below it. -/
theorem Invariant.apart {properties : List Property} {w : Waiting} {rest : List Waiting}
    {resolved : List Key} {place : List Nat}
    (h : Invariant component names except ⟨properties, w :: rest, resolved⟩)
    (hw : w.place = some place) {v : Waiting} (hv : v ∈ rest.map (detach place)) :
    ∃ u ∈ rest, v.property = u.property ∧ ∀ y ∈ v.place, y ∈ u.place ∧ ¬ y <+: place ∧
      ¬ place <+: y := by
  obtain ⟨u, hu, rfl⟩ := List.mem_map.1 hv
  refine ⟨u, hu, detach_property place u, ?_⟩
  intro y hy
  obtain ⟨hyu, hkept⟩ := mem_detach_place_iff.1 hy
  have habove : ¬ y <+: place := (List.pairwise_cons.1 h.ordered).1 u hu place hw y hyu
  refine ⟨hyu, habove, fun hbelow => hkept ⟨hbelow, ?_⟩⟩
  rintro rfl
  exact habove (List.prefix_refl _)

/-- Above the place whose turn it is nothing waits any more, so the names there are looked up. -/
theorem Invariant.resolved_above {properties : List Property} {w : Waiting} {rest : List Waiting}
    {resolved : List Key} {above below : List Nat} {p : Property}
    (h : Invariant component names except ⟨properties, w :: rest, resolved⟩)
    (hw : w.place = some (above ++ below)) (hbelow : below ≠ [])
    (hat : at? above properties = some p) (hfree : Free names except above)
    (hopen : isOpen p = true) : keyOf component p ∈ resolved := by
  rcases h.covered above p hat hfree hopen with hres | ⟨v, hv, hplace⟩
  · exact hres
  · rcases List.mem_cons.1 hv with rfl | hv
    · have hsame := Option.some.inj (hw.symm.trans hplace)
      exact (hbelow (List.append_right_eq_self.1 hsame)).elim
    · have hnot := (List.pairwise_cons.1 h.ordered).1 v hv _ hw above hplace
      exact (hnot (List.prefix_append above below)).elim

/-- After a lookup for a property of the list, what is open waits or has its name looked up. -/
theorem Invariant.covered_putOutcome {properties : List Property} {w : Waiting}
    {rest : List Waiting} {resolved later : List Key} {place : List Nat}
    (h : Invariant component names except ⟨properties, w :: rest, resolved⟩)
    (hw : w.place = some place) (hkey : keyOf component w.property ∈ later)
    (hlater : resolved ⊆ later) {other : List Nat} {p : Property}
    (hother : at? other (modifyAt (fun _ => outcome component w.property) place properties) = some p)
    (hfree : Free names except other) (hopen : isOpen p = true) :
    keyOf component p ∈ later ∨
      ∃ v ∈ rest.map (detach place) ++ freshMembers component later w, v.place = some other := by
  have hat : at? place properties = some w.property := h.held w List.mem_cons_self place hw
  -- the other place is the one of the lookup, below it, above it or apart from it
  by_cases hbelow : place <+: other
  · obtain ⟨below, rfl⟩ := hbelow
    by_cases hnil : below = []
    · subst hnil
      rw [List.append_nil, at?_modifyAt_self, hat] at hother
      cases hother
      exact .inl (by rwa [keyOf_outcome])
    · rw [at?_modifyAt_below (ne_nil_of_at? hat) hnil, hat] at hother
      by_cases hres : keyOf component p ∈ later
      · exact .inl hres
      · have hfresh := mem_freshMembers_of_at? hw hnil hother hopen hres
        exact .inr ⟨_, List.mem_append_right _ hfresh, rfl⟩
  · by_cases habove : other <+: place
    · obtain ⟨below, rfl⟩ := habove
      have hnil : below ≠ [] := by
        rintro rfl
        exact hbelow (by simp)
      rw [at?_modifyAt_above (ne_nil_of_at? hother) hnil, Option.map_eq_some_iff] at hother
      obtain ⟨q, hq, rfl⟩ := hother
      -- only the members of what stands above have changed, and its name is the same
      have hres : keyOf component q ∈ resolved := h.resolved_above hw hnil hq hfree hopen
      exact .inl (hlater hres)
    · rw [at?_modifyAt_apart habove hbelow] at hother
      rcases h.covered other p hother hfree hopen with hres | ⟨v, hv, hplace⟩
      · exact .inl (hlater hres)
      · rcases List.mem_cons.1 hv with rfl | hv
        · cases hw.symm.trans hplace
          exact (hbelow (List.prefix_refl _)).elim
        · refine .inr ⟨detach place v, List.mem_append_left _ (List.mem_map_of_mem hv), ?_⟩
          exact mem_detach_place_iff.2 ⟨hplace, fun hproper => hbelow hproper.1⟩

/-- A lookup for a property of the list puts the outcome in its place. -/
theorem Invariant.putOutcome {properties : List Property} {w : Waiting} {rest : List Waiting}
    {resolved later : List Key} {place : List Nat}
    (h : Invariant component names except ⟨properties, w :: rest, resolved⟩)
    (hw : w.place = some place) (hkey : keyOf component w.property ∈ later)
    (hlater : resolved ⊆ later) :
    Invariant component names except
      ⟨modifyAt (fun _ => outcome component w.property) place properties,
        rest.map (detach place) ++ freshMembers component later w, later⟩ := by
  have hat : at? place properties = some w.property := h.held w List.mem_cons_self place hw
  have hne : place ≠ [] := ne_nil_of_at? hat
  refine ⟨?_, ?_, ?_, ?_, ?_, ?_⟩
  · refine (map_name_modifyAt ?_).trans h.names_eq
    intro p hp
    rw [outcome_name, Option.some.inj (hat.symm.trans hp)]
  · intro v hv y hy
    rcases List.mem_append.1 hv with hv | hv
    · obtain ⟨u, hu, hprop, happart⟩ := h.apart hw hv
      obtain ⟨hyu, habove, hbelow⟩ := happart y hy
      rw [at?_modifyAt_apart habove hbelow, hprop]
      exact h.held u (List.mem_cons_of_mem w hu) y hyu
    · obtain ⟨below, hbelow, hplace, hmember⟩ := exists_of_mem_freshMembers hw hv
      cases hplace.symm.trans hy
      rw [at?_modifyAt_below hne hbelow, hat]
      exact hmember
  · intro v hv y hy
    rcases List.mem_append.1 hv with hv | hv
    · obtain ⟨u, hu, -, happart⟩ := h.apart hw hv
      exact h.free u (List.mem_cons_of_mem w hu) y (happart y hy).1
    · obtain ⟨below, -, hplace, -⟩ := exists_of_mem_freshMembers hw hv
      cases hplace.symm.trans hy
      exact (h.free w List.mem_cons_self place hw).append below
  · intro v hv
    rcases List.mem_append.1 hv with hv | hv
    · obtain ⟨u, hu, hprop, -⟩ := h.apart hw hv
      rw [hprop]
      exact h.allOpen u (List.mem_cons_of_mem w hu)
    · exact (mem_freshMembers hv).2
  · refine List.pairwise_append.2 ⟨?_, ?_, ?_⟩
    · refine List.pairwise_map.2 ((List.pairwise_cons.1 h.ordered).2.imp ?_)
      intro a b hab x hx y hy
      exact hab x (mem_detach_place_iff.1 hx).1 y (mem_detach_place_iff.1 hy).1
    · rw [freshMembers, hw]
      exact (parentsFirst_placedFrom place 0 _).filter _
    · intro a ha b hb x hx y hy hprefix
      obtain ⟨u, -, -, happart⟩ := h.apart hw ha
      obtain ⟨below, -, hplace, -⟩ := exists_of_mem_freshMembers hw hb
      cases hplace.symm.trans hy
      exact (happart x hx).2.2 ((List.prefix_append place below).trans hprefix)
  · exact fun other p hother hfree hopen => h.covered_putOutcome hw hkey hlater hother hfree hopen

/-- A turn with a lookup keeps the invariant. -/
theorem Invariant.resolve {properties : List Property} {w : Waiting} {rest : List Waiting}
    {resolved : List Key}
    (h : Invariant component names except ⟨properties, w :: rest, resolved⟩) :
    Invariant component names except
      (Completion.resolve component ⟨properties, rest, resolved⟩ w) := by
  have hkey : keyOf component w.property ∈ resolved ++ [keyOf component w.property] := by simp
  have hlater : resolved ⊆ resolved ++ [keyOf component w.property] :=
    List.subset_append_left _ _
  obtain ⟨hresolved, hcases⟩ := resolve_cases component ⟨properties, rest, resolved⟩ w
  rcases hstate : Completion.resolve component ⟨properties, rest, resolved⟩ w with ⟨ps, ws, rs⟩
  rw [hstate] at hresolved hcases
  dsimp only at hresolved hcases
  subst hresolved
  rcases hcases with ⟨-, rfl, rfl⟩ | ⟨rfl, rfl⟩
  · exact h.dropFirst hkey hlater
  · cases hw : w.place with
    | none =>
        simp only [replace, hw]
        refine (h.dropFirst hkey hlater).appendDetached ?_ fun v hv => (mem_freshMembers hv).2
        intro v hv
        have hmem := (mem_freshMembers hv).1
        rw [hw] at hmem
        exact place_eq_none_of_mem_placedFrom hmem
    | some place =>
        simp only [replace, hw]
        exact h.putOutcome hw hkey hlater

end PropTyper.Completion
