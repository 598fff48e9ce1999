import PropTyper.Proofs.Evidence.Sources

/-! # Paths of names

A path leads from one of some properties through members to a property with a kind. Merging makes
no path of its own: whatever a merged list shows at a path, one of the two lists showed there.
-/

namespace PropTyper.Property

/-- A path of names leads to a property of this kind. -/
inductive Shows : List Property → List String → PropKind → Prop
  | self {properties : List Property} {p : Property} (h : p ∈ properties) :
      Shows properties [p.name] p.kind
  | member {properties : List Property} {p : Property} {path : List String} {kind : PropKind}
      (h : p ∈ properties) (hpath : Shows p.children path kind) :
      Shows properties (p.name :: path) kind

variable {properties others : List Property} {p q : Property} {path : List String}
  {kind : PropKind}

theorem shows_iff : Shows properties path kind ↔ ∃ p ∈ properties, Shows [p] path kind := by
  constructor
  · intro h
    cases h with
    | self h => exact ⟨_, h, .self List.mem_cons_self⟩
    | member h hpath => exact ⟨_, h, .member List.mem_cons_self hpath⟩
  · rintro ⟨p, hp, h⟩
    cases h with
    | self h =>
        cases List.mem_singleton.1 h
        exact .self hp
    | member h hpath =>
        cases List.mem_singleton.1 h
        exact .member hp hpath

theorem Shows.mono (h : Shows properties path kind) (hsub : ∀ p ∈ properties, p ∈ others) :
    Shows others path kind := by
  obtain ⟨p, hp, h⟩ := shows_iff.1 h
  exact shows_iff.2 ⟨p, hsub p hp, h⟩

theorem shows_append :
    Shows (properties ++ others) path kind ↔
      Shows properties path kind ∨ Shows others path kind := by
  constructor
  · intro h
    obtain ⟨p, hp, h⟩ := shows_iff.1 h
    rcases List.mem_append.1 hp with hp | hp
    · exact .inl (shows_iff.2 ⟨p, hp, h⟩)
    · exact .inr (shows_iff.2 ⟨p, hp, h⟩)
  · rintro (h | h)
    · exact h.mono fun _ => List.mem_append_left _
    · exact h.mono fun _ => List.mem_append_right _

theorem shows_cons :
    Shows (p :: others) path kind ↔ Shows [p] path kind ∨ Shows others path kind :=
  @shows_append [p] others path kind

theorem shows_singleton :
    Shows [p] path kind ↔
      (path = [p.name] ∧ kind = p.kind) ∨
        ∃ rest, path = p.name :: rest ∧ Shows p.children rest kind := by
  constructor
  · intro h
    cases h with
    | self h =>
        cases List.mem_singleton.1 h
        exact .inl ⟨rfl, rfl⟩
    | member h hpath =>
        cases List.mem_singleton.1 h
        exact .inr ⟨_, rfl, hpath⟩
  · rintro (⟨rfl, rfl⟩ | ⟨rest, rfl, h⟩)
    · exact .self List.mem_cons_self
    · exact .member List.mem_cons_self h

theorem not_shows_nil : ¬ Shows [] path kind := by
  intro h
  obtain ⟨p, hp, -⟩ := shows_iff.1 h
  cases hp

theorem shows_flatMap {α : Type} {items : List α} {f : α → List Property} :
    Shows (items.flatMap f) path kind ↔ ∃ a ∈ items, Shows (f a) path kind := by
  constructor
  · intro h
    obtain ⟨p, hp, h⟩ := shows_iff.1 h
    obtain ⟨a, ha, hp⟩ := List.mem_flatMap.1 hp
    exact ⟨a, ha, shows_iff.2 ⟨p, hp, h⟩⟩
  · rintro ⟨a, ha, h⟩
    exact h.mono fun _ hp => List.mem_flatMap.2 ⟨a, ha, hp⟩

theorem mem_names_iff {name : String} :
    name ∈ properties.map (·.name) ↔ ∃ kind, Shows properties [name] kind := by
  constructor
  · intro h
    obtain ⟨p, hp, rfl⟩ := List.mem_map.1 h
    exact ⟨p.kind, .self hp⟩
  · rintro ⟨kind, h⟩
    cases h with
    | self h => exact List.mem_map_of_mem h
    | member h _ => exact List.mem_map_of_mem h

/-! ## Normalizing and merging -/

theorem shows_of_normalize (h : Shows [p.normalize] path kind) : Shows [p] path kind := by
  induction p using inductionOn generalizing path with
  | step p ih =>
    rcases shows_singleton.1 h with ⟨rfl, rfl⟩ | ⟨rest, rfl, hrest⟩
    · rw [normalize_name, normalize_kind]
      exact .self List.mem_cons_self
    · rw [normalize_name]
      obtain ⟨c, hc, hshown⟩ := shows_iff.1 hrest
      obtain ⟨d, hd, rfl⟩ := exists_of_mem_normalize_children hc
      exact .member List.mem_cons_self (shows_iff.2 ⟨d, hd, ih d hd hshown⟩)

/-- The join of two properties of one name shows nothing that neither of them shows. -/
def InventsNothing (join : Property → Property → Property) : Prop :=
  ∀ ⦃q p : Property⦄, q.name = p.name →
    ∀ ⦃path kind⦄, Shows [join q p] path kind → Shows [q, p] path kind

section Join

variable {join : Property → Property → Property} (hjoin : InventsNothing join)

include hjoin

theorem shows_of_insertWith (h : Shows (insertWith join p properties) path kind) :
    Shows (p :: properties) path kind := by
  induction properties with
  | nil => exact h
  | cons q rest ih =>
      unfold insertWith at h
      split at h
      · next hname =>
        rcases shows_cons.1 h with h | h
        · exact (hjoin hname h).mono (by simp)
        · exact h.mono (by simp +contextual)
      · rcases shows_cons.1 h with h | h
        · exact h.mono (by simp)
        · exact (ih h).mono (by simp +contextual)

theorem shows_of_joinAll (h : Shows (joinAll join properties others) path kind) :
    Shows (properties ++ others) path kind := by
  induction others generalizing properties with
  | nil => exact h.mono (by simp)
  | cons p others ih =>
      rw [joinAll_cons] at h
      rcases shows_append.1 (ih h) with h | h
      · exact (shows_of_insertWith hjoin h).mono (by simp +contextual)
      · exact h.mono (by simp +contextual)

end Join

theorem shows_of_mergeListsWith {merge : MergeMode → Property → Property → Property}
    (hmerge : ∀ mode, InventsNothing (merge mode)) {mode : MergeMode} {binding : List String}
    {base other : List Property}
    (h : Shows (mergeListsWith merge mode binding base other) path kind) :
    Shows (base ++ other) path kind := by
  rw [mergeListsWith_eq] at h
  have hjoin : InventsNothing fun q p =>
      merge (if binding.contains p.name then .authoritative else mode) q p :=
    fun _ _ hname => hmerge _ hname
  rcases shows_append.1 (shows_of_joinAll hjoin h) with h | h
  · exact (shows_of_joinAll (hmerge .peer) h).mono fun _ => List.mem_append_left _
  · exact h.mono fun _ => List.mem_append_right _

theorem inventsNothing_mergeWith
    {members : MergeMode → List Property → List Property → List Property} (mode : MergeMode)
    (hmembers : ∀ ⦃mode base other path kind⦄, Shows (members mode base other) path kind →
      Shows (base ++ other) path kind) :
    InventsNothing (mergeWith members mode) := by
  intro base other hname path kind h
  rcases shows_singleton.1 h with ⟨rfl, rfl⟩ | ⟨rest, rfl, hrest⟩
  · rw [mergeWith_name, mergeWith_kind]
    rcases mode.kind_cases base.kind other.kind with hkind | hkind
    · rw [hkind]
      exact .self List.mem_cons_self
    · rw [hkind, hname]
      exact .self (List.mem_cons_of_mem _ List.mem_cons_self)
  · rw [mergeWith_name]
    -- a member of the merge is a member of one of the two, or a merge of members
    have hbelow : Shows (base.children ++ other.children) rest kind := by
      obtain ⟨c, hc, hshown⟩ := shows_iff.1 hrest
      obtain ⟨y, rfl, hy⟩ := exists_of_mem_mergeWith_children hc
      have hshown := shows_of_normalize hshown
      rcases hy with hy | hy | hy
      · exact hmembers (shows_iff.2 ⟨y, hy, hshown⟩)
      · exact shows_append.2 (.inl (shows_iff.2 ⟨y, hy, hshown⟩))
      · exact shows_append.2 (.inr (shows_iff.2 ⟨y, hy, hshown⟩))
    rcases shows_append.1 hbelow with h | h
    · exact .member List.mem_cons_self h
    · rw [hname]
      exact .member (List.mem_cons_of_mem _ List.mem_cons_self) h

theorem inventsNothing_mergeTo (depth : Nat) (mode : MergeMode) :
    InventsNothing (mergeTo depth mode) := by
  induction depth generalizing mode with
  | zero => exact inventsNothing_mergeWith mode fun _ _ _ _ _ h => (not_shows_nil h).elim
  | succ depth ih =>
      exact inventsNothing_mergeWith mode fun _ _ _ _ _ h => shows_of_mergeListsWith ih h

/-- Merged lists show nothing that neither of them shows. -/
theorem shows_of_mergeLists {mode : MergeMode} {base other : List Property}
    {binding : List String} (h : Shows (mergeLists mode base other binding) path kind) :
    Shows base path kind ∨ Shows other path kind :=
  shows_append.1 (shows_of_mergeListsWith (inventsNothing_mergeTo _) h)

end PropTyper.Property
