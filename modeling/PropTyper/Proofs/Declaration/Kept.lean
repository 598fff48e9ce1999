import Mathlib.Data.List.Nodup
import PropTyper.Proofs.Completion.Frame
import PropTyper.Proofs.Declaration.Declared
import PropTyper.Proofs.Property.Follows

/-! # Declared members

A declaration with named members binds at every depth. Uses and defaults may add members beside the
declared ones; those that are declared keep their kind and their mark, and a literal that stands for
the members keeps standing for them. The completion does not reach them.
-/

namespace PropTyper.Property

/-- A path of names leads to a property: all but the last are of properties with named members. -/
def Reaches : List String → List Property → Property → Prop
  | [], _, _ => False
  | [name], properties, e => e ∈ properties ∧ e.name = name
  | name :: next :: rest, properties, e =>
    ∃ p ∈ properties, p.name = name ∧ p.kind.hasNamedMembers = true ∧
      Reaches (next :: rest) p.children e

/-! ## One level -/

/-- What is left of a declared property `e` in `m`. -/
structure Kept (m e : Property) : Prop where
  name_eq : m.name = e.name
  kind_eq : m.kind = e.kind
  required_eq : m.required = e.required
  literal_eq : Filled e.literal = true → m.literal = e.literal
  closed : e.kind.hasNamedMembers = true → Filled e.literal = true → e.children = [] →
    m.children = []
  children_eq : m.kind.hasNamedMembers = true → m.children = [] → e.children = []

variable {m e h : Property}

theorem kept_self (e : Property) : Kept e e :=
  ⟨rfl, rfl, rfl, fun _ => rfl, fun _ _ hnil => hnil, fun _ hnil => hnil⟩

theorem Kept.normalize (hme : Kept m e) : Kept m.normalize e := by
  refine ⟨by simpa using hme.name_eq, by simpa using hme.kind_eq, by simpa using hme.required_eq,
    by simpa using hme.literal_eq, ?_, ?_⟩
  · intro hkind hfilled hnil
    rw [normalize_children, hme.closed hkind hfilled hnil]
    simp [arranged, sortByName]
  · intro hkind hnil
    rw [normalize_kind] at hkind
    refine hme.children_eq hkind ?_
    rw [normalize_children, arranged, if_pos hkind] at hnil
    have hperm := sortByName_perm (m.children.map Property.normalize)
    rw [hnil] at hperm
    exact List.map_eq_nil_iff.1 hperm.nil_eq.symm

theorem Kept.merge (hme : Kept m e) (h : Property) : Kept (merge .authoritative m h) e := by
  refine ⟨by rw [merge_name, hme.name_eq], by rw [merge_kind]; exact hme.kind_eq,
    by rw [merge_required, if_pos rfl, hme.required_eq], ?_, ?_, ?_⟩
  · intro hfilled
    rw [merge_literal, firstFilled, hme.literal_eq hfilled, if_pos hfilled]
  · intro hkind hfilled hnil
    exact merge_children_of_closed (hme.literal_eq hfilled ▸ hfilled) (hme.closed hkind hfilled hnil)
  · intro hkind hnil
    rw [merge_kind] at hkind
    exact hme.children_eq hkind (children_eq_nil_of_merge hkind hnil)

theorem keptBy_authoritative : KeptBy Kept .authoritative fun _ => True where
  normalize := fun _ _ hme => hme.normalize
  merge := fun hme _ => hme.merge _
  takes := fun _ _ ht => .inl (takesMembers_of_authoritative ht)

/-! ## All levels -/

theorem follows_held (he : Everywhere DistinctMembers e) (others : List Property) :
    Follows Kept (held e others) e := by
  have hstart : Follows Kept e e :=
    follows_self (fun q _ => kept_self q) (fun q hq => hq.nodup) he
  have hfold : ∀ m, Follows Kept m e → Follows Kept (held m others) e := by
    induction others with
    | nil => exact fun m hm => hm
    | cons u others ih =>
        intro m hm
        exact ih _ (hm.merge keptBy_authoritative rfl fun _ _ => trivial)
  exact hfold e hstart

/-- Along a path through what is followed there is exactly one property, and it is followed. -/
theorem Reaches.exists_unique {path : List String} {declared properties : List Property}
    (hnodup : (properties.map (·.name)).Nodup)
    (hall : ∀ a ∈ declared, ∃ b ∈ properties, Follows Kept b a) (hpath : Reaches path declared e) :
    ∃ m, Reaches path properties m ∧ (∀ q, Reaches path properties q → q = m) ∧
      Follows Kept m e := by
  induction path generalizing declared properties with
  | nil => exact hpath.elim
  | cons name rest ih =>
      cases rest with
      | nil =>
          obtain ⟨he, rfl⟩ := hpath
          obtain ⟨m, hm, hme⟩ := hall e he
          refine ⟨m, ⟨hm, hme.here.name_eq⟩, ?_, hme⟩
          rintro q ⟨hq, hname⟩
          exact List.inj_on_of_nodup_map hnodup hq hm (hname.trans hme.here.name_eq.symm)
      | cons next rest =>
          obtain ⟨a, ha, rfl, hkind, hbelow⟩ := hpath
          obtain ⟨b, hb, hba⟩ := hall a ha
          have hbkind : b.kind.hasNamedMembers = true := hba.here.kind_eq ▸ hkind
          have hne : a.children ≠ [] := by
            rintro hnil
            rw [hnil] at hbelow
            cases rest with
            | nil => exact absurd hbelow.1 List.not_mem_nil
            | cons _ _ =>
                obtain ⟨_, hmem, -⟩ := hbelow
                cases hmem
          -- the path goes on below `a`, so `a` has members and `b` cannot be closed
          have hopen : takesMembers b = true :=
            takesMembers_iff.2 ⟨hbkind, fun hclosed => hne (hba.here.children_eq hbkind hclosed.2)⟩
          obtain ⟨hmembers, hfollows⟩ := (follows_iff.1 hba).2 hopen
          obtain ⟨m, hm, honly, hme⟩ := ih hmembers hfollows hbelow
          refine ⟨m, ⟨b, hb, hba.here.name_eq, hbkind, hm⟩, ?_, hme⟩
          rintro q ⟨c, hc, hname, -, hq⟩
          obtain rfl := List.inj_on_of_nodup_map hnodup hc hb (hname.trans hba.here.name_eq.symm)
          exact honly q hq

variable {declared : List Property}

/-- Every path of a declaration is one of the finished list, and leads there to a single property,
which has the declared kind and mark and, where a literal stands for its members, that literal. -/
theorem reaches_finalize_complete (hnames : (declared.map (·.name)).Nodup)
    (hmembers : ∀ p ∈ declared, Everywhere DistinctMembers p) (used defaults : List Property)
    (component : Node) {path : List String} {e : Property} (hpath : Reaches path declared e) :
    let finished := finalize (Completion.complete component (combine declared used defaults)
      (declared.map (·.name))).properties
    ∃ m, Reaches path finished m ∧ (∀ q, Reaches path finished q → q = m) ∧
      m.kind = e.kind ∧ m.required = e.required ∧
      (e.kind.hasNamedMembers = true → Filled e.literal = true → e.children = [] →
        m.children = [] ∧ m.literal = e.literal) := by
  intro finished
  have hnodup : (finished.map (·.name)).Nodup := by
    rw [(names_finalize_perm _).nodup_iff, Completion.map_name_complete]
    exact nodup_combine hnames used defaults
  have hall : ∀ a ∈ declared, ∃ b ∈ finished, Follows Kept b a := by
    intro a ha
    have hheld := follows_held (hmembers a ha) ((used ++ defaults).filter fun p => p.name = a.name)
    refine ⟨_, Completion.normalize_mem_finalize_complete component
      (held_mem_combine hnames ha used defaults) ?_, hheld.normalize keptBy_authoritative.normalize⟩
    rw [held_name]
    exact List.mem_map_of_mem ha
  obtain ⟨m, hm, honly, hfollows⟩ := hpath.exists_unique hnodup hall
  refine ⟨m, hm, honly, hfollows.here.kind_eq, hfollows.here.required_eq, ?_⟩
  exact fun hkind hfilled hnil =>
    ⟨hfollows.here.closed hkind hfilled hnil, hfollows.here.literal_eq hfilled⟩

/-- `shape(addressShape).isRequired`, as it is declared. -/
def addressByReference : Property :=
  { name := "address", kind := .shape, required := true, literal := some "addressShape" }

def userWithAddress : Property :=
  { name := "user", kind := .shape
    children := [{ name := "name", kind := .string }, addressByReference] }

def streetAndAge : Property :=
  { name := "user", kind := .shape
    children :=
      [{ name := "address", kind := .shape, children := [{ name := "street" }] }, { name := "age" }] }

/-- The street that is read does not open the address that is declared by a reference, and another
property is completed beside it. -/
theorem reaches_addressByReference :
    Reaches ["user", "address"] [userWithAddress] addressByReference ∧
      ∃ m, Reaches ["user", "address"]
          (finalize (Completion.complete ⟨Completion.callOfX, []⟩
            (combine [userWithAddress] [streetAndAge, { name := "a", binding := some "x" }] [])
            ["user"]).properties) m ∧
        m.kind = .shape ∧ m.required = true ∧ m.children = [] ∧ m.literal = some "addressShape" := by
  have hpath : Reaches ["user", "address"] [userWithAddress] addressByReference :=
    ⟨userWithAddress, List.mem_cons_self, rfl, rfl, by simp [userWithAddress], rfl⟩
  have hmembers : ∀ p ∈ [userWithAddress], Everywhere DistinctMembers p := by
    intro p hp
    obtain rfl := List.mem_singleton.1 hp
    refine everywhere_iff.2 ⟨fun _ => by decide, fun c hc => ?_⟩
    have hleaf : c.children = [] := by
      simp only [userWithAddress, addressByReference, List.mem_cons, List.not_mem_nil, or_false] at hc
      rcases hc with rfl | rfl <;> rfl
    exact everywhere_iff.2 ⟨fun _ => by simp [hleaf], by simp [hleaf]⟩
  obtain ⟨m, hm, -, hkind, hrequired, hclosed⟩ :=
    reaches_finalize_complete (by decide) hmembers
      [streetAndAge, { name := "a", binding := some "x" }] [] ⟨Completion.callOfX, []⟩ hpath
  obtain ⟨hchildren, hliteral⟩ := hclosed rfl rfl rfl
  exact ⟨hpath, m, hm, hkind, hrequired, hchildren, hliteral⟩

end PropTyper.Property
