import PropTyper.Proofs.Completion.Missed
import PropTyper.Proofs.Property.Covers

/-! # Completing a completed list

What a lookup has found stays found: the members of its property cover the evidence, and the lookups
that follow keep it so. Looking the same name up for the same property once more therefore changes
nothing. A second completion changes a list only by lookups that the first one made for another
property, or where the evidence is not plain or meets alternatives.
-/

namespace PropTyper.Completion

open Property

variable {component : Node} {names except : List String} {properties : List Property}

/-! ## Lookups keep what is covered -/

theorem covers_outcome {c f : Property} (hcf : Covers c f) (hopen : isOpen c = true)
    (hf : Everywhere (Clear names) f)
    (hevidence : ∀ h ∈ evidence component c, Everywhere (Clear names) h) :
    Covers (outcome component c) f := by
  obtain ⟨habsorbs, hnamed, -⟩ := covers_iff.1 hcf
  obtain ⟨hself, hbelow⟩ := everywhere_iff.1 hf
  by_cases hcalled : isCalled component c = true
  · rw [outcome_of_called hcalled]
    refine covers_iff.2 ⟨⟨habsorbs.name_eq, rfl, habsorbs.bound, habsorbs.literal,
      habsorbs.stated⟩, ?_, ?_⟩
    · intro hkind
      cases hkind
    · rintro (hkind | hkind) <;> cases hkind
  · by_cases hsilent : evidence component c = []
    · rwa [outcome_of_silent hcalled hsilent]
    · rw [outcome_of_evidence hcalled hsilent]
      refine covers_iff.2 ⟨⟨habsorbs.name_eq, ?_, habsorbs.bound, habsorbs.literal,
        habsorbs.stated⟩, fun _ => ⟨nodup_mergeLists _ _ _ _, ?_⟩, ?_⟩
      · have hkind := habsorbs.kind_eq
        rcases kind_of_isOpen hopen with hc | hc
        · rw [hc] at hkind
          rw [show f.kind = .any by simpa [MergeMode.kind] using hkind]
          rfl
        · rwa [hc] at hkind
      · rcases kind_of_isOpen hopen with hc | hc
        · rw [habsorbs.children_eq_nil hc hself.1]
          intro g hg
          cases hg
        · obtain ⟨hnodup, hall⟩ := hnamed (by rw [hc]; rfl)
          refine hall.mergeLists hnodup ?_
          exact fun g hg x hx d hd => hd.merge (hbelow g hg) (hevidence x hx)
      · rintro (hkind | hkind) <;> cases hkind

theorem exists_covers_modifyAt {g r : Property} {members : List Property} {place : List Nat}
    (hmembers : ∃ d ∈ members, Covers d g) (hat : at? place members = some r)
    (hopen : isOpen r = true) (hg : Everywhere (Clear names) g)
    (hevidence : ∀ h ∈ evidence component r, Everywhere (Clear names) h) :
    ∃ d ∈ modifyAt (fun _ => outcome component r) place members, Covers d g := by
  induction g using inductionOn generalizing members place with
  | step g ih =>
    obtain ⟨-, hbelow⟩ := everywhere_iff.1 hg
    match place with
    | [] => cases hat
    | [i] =>
        refine exists_mem_modify hmembers ?_
        intro d hd hcovers
        cases hat.symm.trans hd
        exact covers_outcome hcovers hopen hg hevidence
    | i :: j :: rest =>
        rw [modifyAt_cons_of_ne_nil (by simp)]
        refine exists_mem_modify hmembers ?_
        intro d hd hcovers
        rw [at?_cons_of_ne_nil (by simp), hd] at hat
        refine hcovers.withMembers (map_name_modifyAt ?_) ?_
        · intro p hp
          cases hat.symm.trans hp
          exact outcome_name component r
        · exact fun hall x hx => ih x hx (hall x hx) hat (hbelow x hx)

theorem Completes.coversAll {made : List Waiting} {a b observations : List Property}
    (h : Completes component made a b)
    (hevidence : ∀ v ∈ made, ∀ f ∈ evidence component v.property, Everywhere (Clear names) f)
    (hobservations : ∀ g ∈ observations, Everywhere (Clear names) g)
    (hall : CoversAll a observations) : CoversAll b observations := by
  induction h with
  | refl => exact hall
  | step _ lookup here hopen ih =>
      intro g hg
      exact exists_covers_modifyAt (ih g hg) here hopen (hobservations g hg) (hevidence _ lookup)

/-! ## A lookup that is made again -/

/-- The property came out of a lookup that was made for it. -/
def LookedUp (component : Node) (properties : List Property) (except : List String) (q : Property) :
    Prop :=
  ∃ v ∈ completionLookups component properties except, ∃ place r, v.place = some place ∧
    at? place (final component properties except).properties = some r ∧ q = r.normalize

/-- A lookup brings nothing new for a property that it was made for before. -/
theorem LookedUp.outcome_eq_self {q : Property} (h : LookedUp component properties except q)
    (hopen : isOpen q = true)
    (hclear : ∀ v ∈ completionLookups component properties except,
      ∀ f ∈ evidence component v.property, Everywhere (Clear names) f)
    (halternatives : Everywhere (·.kind ≠ .oneOfType) q) : outcome component q = q := by
  obtain ⟨v, hv, place, r, hplace, hat, rfl⟩ := h
  obtain ⟨members, hcompletes, hleft⟩ :=
    (invariant_initial component properties except).at?_run_of_mem_lookups hv hplace
  have hr : r = { outcome component v.property with children := members } :=
    Option.some.inj (hat.symm.trans hleft)
  have hkey : keyOf component r.normalize = keyOf component v.property := by
    rw [keyOf_congr component (normalize_binding r) (normalize_scope r), hr]
    exact keyOf_congr component (outcome_binding component v.property)
      (outcome_scope component v.property)
  have hcalled : ¬ isCalled component v.property = true := by
    intro hcalled
    have hfunc : r.kind = .func := by rw [hr, outcome_of_called hcalled]
    rcases kind_of_isOpen hopen with hkind | hkind <;> simp [hfunc] at hkind
  have hnotCalled : ¬ isCalled component r.normalize = true := by rwa [isCalled_congr hkey]
  have hevidence := evidence_congr hkey
  by_cases hsilent : evidence component v.property = []
  · exact outcome_of_silent hnotCalled (hevidence.trans hsilent)
  · rw [outcome_of_evidence hcalled hsilent] at hr hcompletes
    have hkind : r.normalize.kind = .shape := by rw [normalize_kind, hr]
    have hmembers : r.normalize.children = sortByName (members.map normalize) := by
      rw [normalize_children, hr]
      rfl
    have hnodup : (members.map (·.name)).Nodup := by
      rw [hcompletes.map_name]
      exact nodup_mergeLists _ _ _ _
    have hfound : CoversAll members (evidence component v.property) := by
      refine hcompletes.coversAll hclear (hclear v hv) (coversAll_mergeLists (hclear v hv) ?_)
      exact fun g hg d hd => covers_merge_right (hclear v hv g hg) hd
    have hsame : mergeLists .peer r.normalize.children (evidence component r.normalize) =
        r.normalize.children := by
      have hbelow := (everywhere_iff.1 halternatives).2
      rw [hmembers] at hbelow ⊢
      rw [hevidence]
      exact mergeLists_sort_normalize hnodup hfound hbelow
        fun g hg x hx => (hclear v hv g hg x hx).1
    rw [outcome_of_evidence hnotCalled (hevidence ▸ hsilent), hsame, ← hkind, eta]

theorem map_normalize_complete
    (hopen : initialWaiting (complete component properties except).properties except ≠ []) :
    (complete component properties except).properties.map normalize =
      (complete component properties except).properties := by
  unfold complete at hopen ⊢
  split
  · next hempty =>
    rw [if_pos hempty] at hopen
    exact (hopen (List.isEmpty_iff.1 hempty)).elim
  · rw [List.map_map]
    exact List.map_congr_left fun p _ => normalize_normalize p

/-- Completing once more changes nothing, if the evidence is plain and each lookup finds nothing or
was made for the same property before, which holds no alternatives. -/
theorem complete_complete {t : Tree} (hcomponent : component ∈ (⟨t, []⟩ : Node).preorder)
    (hplain : ∀ v ∈ completionLookups component properties except,
      ∀ f ∈ evidence component v.property, Everywhere Plain f)
    (hagain : ∀ w ∈ completionLookups component
        (complete component properties except).properties except, w.place ≠ none →
      (¬ isCalled component w.property = true ∧ evidence component w.property = []) ∨
      (LookedUp component properties except w.property ∧
        Everywhere (·.kind ≠ .oneOfType) w.property)) :
    (complete component (complete component properties except).properties except).properties =
      (complete component properties except).properties := by
  have hclear : ∀ v ∈ completionLookups component properties except,
      ∀ f ∈ evidence component v.property,
        Everywhere (Clear (⟨t, []⟩ : Node).identifiers) f := by
    intro v hv f hf q hq
    exact ⟨observed_evidence rfl hcomponent v.property f hf q hq, hplain v hv f hf q hq⟩
  have hinitial := invariant_initial component (complete component properties except).properties except
  have hfinal : (final component (complete component properties except).properties except).properties =
      (complete component properties except).properties := by
    refine hinitial.run_properties_eq_self ?_
    intro w hw hplace
    rcases hagain w hw hplace with ⟨hcalled, hsilent⟩ | ⟨hbefore, halternatives⟩
    · exact outcome_of_silent hcalled hsilent
    · exact hbefore.outcome_eq_self (hinitial.isOpen_of_mem_lookups hw) hclear halternatives
  by_cases hopen : initialWaiting (complete component properties except).properties except = []
  · rw [complete, if_pos (List.isEmpty_iff.2 hopen)]
  · rw [complete, if_neg (by simpa using hopen)]
    dsimp only
    rw [hfinal, map_normalize_complete hopen]

/-- The expression `x.name`. -/
def accessOfX : Tree :=
  { kind := .memberExpression, span := ⟨0, 6⟩, text := "x.name"
    children :=
      [{ kind := .identifier, span := ⟨0, 1⟩, text := "x", fields := [.object] },
        { kind := .propertyIdentifier, span := ⟨2, 6⟩, text := "name", fields := [.property] }] }

def heldByX : Property := { name := "a", binding := some "x" }

def shapeOfX : Property := { heldByX with kind := .shape, children := [{ name := "name" }] }

/-- The access makes a shape of the property, and the second lookup finds the same member. -/
theorem complete_complete_accessOfX :
    (complete ⟨accessOfX, []⟩ (complete ⟨accessOfX, []⟩ [heldByX] []).properties []).properties =
      [shapeOfX] := by
  have honce : (complete ⟨accessOfX, []⟩ [heldByX] []).properties = [shapeOfX] := by cbv
  have hlookups : completionLookups ⟨accessOfX, []⟩ [heldByX] [] = [⟨heldByX, some [0]⟩] := by cbv
  refine (complete_complete (t := accessOfX) (Node.mem_preorder_self _) ?_ ?_).trans honce
  · intro v hv f hf
    rw [hlookups] at hv
    cases List.mem_singleton.1 hv
    have hevidence : evidence ⟨accessOfX, []⟩ heldByX = [{ name := "name" }] := by cbv
    rw [hevidence] at hf
    cases List.mem_singleton.1 hf
    exact everywhere_iff.2 ⟨⟨List.nodup_nil, by decide, by decide⟩, by simp⟩
  · intro w hw _
    have hagain : completionLookups ⟨accessOfX, []⟩ [shapeOfX] [] = [⟨shapeOfX, some [0]⟩] := by cbv
    rw [honce, hagain] at hw
    cases List.mem_singleton.1 hw
    have hfinal : (final ⟨accessOfX, []⟩ [heldByX] []).properties = [shapeOfX] := by cbv
    have hnormal : shapeOfX = shapeOfX.normalize := by cbv
    refine .inr ⟨⟨⟨heldByX, some [0]⟩, by simp [hlookups], [0], shapeOfX, rfl, by rw [hfinal]; rfl,
      hnormal⟩, ?_⟩
    refine everywhere_iff.2 ⟨by decide, fun c hc => ?_⟩
    cases List.mem_singleton.1 hc
    exact everywhere_iff.2 ⟨by decide, by simp⟩

/-! ## Where a second completion changes the list -/

/-- A second completion changes the list. -/
def Unsettled (t : Tree) (properties : List Property) : Prop :=
  (complete ⟨t, []⟩ (complete ⟨t, []⟩ properties []).properties []).properties ≠
    (complete ⟨t, []⟩ properties []).properties

def kinds (properties : List Property) : List PropKind :=
  (properties.flatMap preorder).map (·.kind)

def pattern (role : Field) (entries : List Tree) : Tree :=
  { kind := .objectPattern, span := ⟨0, 0⟩, text := "", fields := [role], children := entries }

def bound (name : String) : Tree :=
  { kind := .shorthandPropertyIdentifierPattern, span := ⟨0, 0⟩, text := name }

def entry (key : String) (value : Tree) : Tree :=
  { kind := .pairPattern, span := ⟨0, 0⟩, text := ""
    children :=
      [{ kind := .propertyIdentifier, span := ⟨0, 0⟩, text := key, fields := [.key] }, value] }

/-- A declaration that takes the member `a` of `u` apart. -/
def memberOfU (entries : List Tree) : Tree :=
  { kind := .variableDeclarator, span := ⟨0, 0⟩, text := ""
    children :=
      [pattern .name [entry "a" (pattern .value entries)],
        { kind := .identifier, span := ⟨0, 0⟩, text := "u", fields := [.value] }] }

/-- Each of the conditions is needed: that no other property took the lookup, that the evidence
names no member twice, and that no alternatives meet it. -/
theorem exists_unsettled :
    Unsettled callOfX sharingX ∧
    Unsettled (memberOfU [bound "b", entry "b" (pattern .value [bound "c"])])
      [{ name := "user", binding := some "u" }] ∧
    Unsettled
      { kind := .program, span := ⟨0, 0⟩, text := ""
        children := [memberOfU [bound "x"], accessOfX] }
      [{ name := "user", binding := some "u", kind := .shape
         children := [{ name := "a", kind := .oneOfType }] }] := by
  refine ⟨ne_of_apply_ne kinds ?_, ne_of_apply_ne kinds ?_, ne_of_apply_ne kinds ?_⟩
  · -- the second run makes a function of the second property as well
    cbv
    decide
  · -- it merges the two members of one name
    cbv
    decide
  · -- it takes up once more the alternative that has become a shape
    cbv
    decide

end PropTyper.Completion
