import Mathlib.Data.List.Nodup
import PropTyper.Proofs.Declaration.Validator
import PropTyper.Proofs.Property.Merge

/-! # Declared validators

What is declared binds: the kind of a declared property, its mark and its literal are never changed
by what the uses and the defaults show. Members are another matter. Alternatives are joined by all
that have a new kind, and a list or map without an argument takes the first member that is seen.
These two are the only ways in which the text of a declared validator without named members can
change.
-/

namespace PropTyper.Property

open Declaration

def contributed (used defaults : List Property) (name : String) : List Property :=
  ((used ++ defaults).filter fun p => p.name = name).flatMap (·.children)

/-! ## A property against all that joins it -/

/-- A declared property after others of its name have joined it. -/
def held (e : Property) (others : List Property) : Property :=
  others.foldl (merge .authoritative) e

@[simp] theorem held_nil (e : Property) : held e [] = e := rfl

@[simp] theorem held_cons (e u : Property) (others : List Property) :
    held e (u :: others) = held (merge .authoritative e u) others := rfl

@[simp] theorem held_name (e : Property) (others : List Property) :
    (held e others).name = e.name := by
  induction others generalizing e with
  | nil => rfl
  | cons u others ih => rw [held_cons, ih, merge_name]

@[simp] theorem held_kind (e : Property) (others : List Property) :
    (held e others).kind = e.kind := by
  induction others generalizing e with
  | nil => rfl
  | cons u others ih => rw [held_cons, ih, merge_kind]; rfl

@[simp] theorem held_required (e : Property) (others : List Property) :
    (held e others).required = e.required := by
  induction others generalizing e with
  | nil => rfl
  | cons u others ih => rw [held_cons, ih, merge_required, if_pos rfl]

theorem filled_merge_literal {mode : MergeMode} {e u : Property} (h : Filled u.literal = false) :
    Filled (merge mode e u).literal = Filled e.literal := by
  rw [merge_literal, firstFilled]
  split
  · rfl
  · next hfilled => rw [h, Bool.eq_false_iff.2 hfilled]

theorem literalOr_merge {mode : MergeMode} {e u : Property} (h : Filled u.literal = false)
    (otherwise : String) : (merge mode e u).literalOr otherwise = e.literalOr otherwise := by
  unfold literalOr
  rw [filled_merge_literal h]
  split
  · next hfilled => rw [merge_literal, firstFilled, if_pos hfilled]
  · rfl

theorem literalOr_held {e : Property} {others : List Property}
    (h : ∀ u ∈ others, Filled u.literal = false) (otherwise : String) :
    (held e others).literalOr otherwise = e.literalOr otherwise := by
  induction others generalizing e with
  | nil => rfl
  | cons u others ih =>
      rw [held_cons, ih fun v hv => h v (List.mem_cons_of_mem u hv),
        literalOr_merge (h u List.mem_cons_self)]

/-! ## Alternatives -/

theorem unionAlternatives_append (base first second : List Property) :
    unionAlternatives base (first ++ second) =
      unionAlternatives (unionAlternatives base first) second :=
  List.foldl_append

theorem map_normalize_unionAlternatives {base base' : List Property}
    (h : base.map normalize = base'.map normalize) (other : List Property) :
    (unionAlternatives base other).map normalize = (unionAlternatives base' other).map normalize := by
  unfold unionAlternatives
  induction other generalizing base base' with
  | nil => exact h
  | cons p rest ih =>
      have hany : ∀ l : List Property,
          (l.any fun q => q.kind = p.kind && q.literal = p.literal) =
            (l.map normalize).any fun q => q.kind = p.kind && q.literal = p.literal := by
        intro l
        simp [List.any_map, Function.comp_def]
      rw [List.foldl_cons, List.foldl_cons, hany base, hany base', h]
      split
      · exact ih h
      · exact ih (by rw [List.map_append, List.map_append, h])

theorem merge_children_oneOfType {e : Property} (hkind : e.kind = .oneOfType) (u : Property) :
    (merge .authoritative e u).children =
      (if Filled e.literal && e.children.isEmpty then []
        else unionAlternatives e.children u.children).map normalize := by
  have hmode : MergeMode.authoritative.kind e.kind u.kind = .oneOfType := hkind
  rw [merge_children, hmode, joinedMembers, hmode]
  simp [arranged, PropKind.hasNamedMembers, PropKind.hasPositionalMembers]

theorem held_children_oneOfType {e : Property} (hkind : e.kind = .oneOfType)
    {others : List Property} (h : ∀ u ∈ others, Filled u.literal = false) :
    (held e others).normalize.children =
      (if Filled e.literal && e.children.isEmpty then []
        else unionAlternatives e.children (others.flatMap (·.children))).map normalize := by
  induction others generalizing e with
  | nil =>
      rw [held_nil, normalize_children, hkind]
      by_cases hempty : e.children = []
      · simp [hempty, arranged, PropKind.hasNamedMembers, PropKind.hasPositionalMembers,
          unionAlternatives]
      · simp [hempty, arranged, PropKind.hasNamedMembers, PropKind.hasPositionalMembers,
          unionAlternatives]
  | cons u others ih =>
      have hnext : (merge .authoritative e u).kind = .oneOfType := by rw [merge_kind]; exact hkind
      rw [held_cons, ih hnext fun v hv => h v (List.mem_cons_of_mem u hv),
        filled_merge_literal (h u List.mem_cons_self), merge_children_oneOfType hkind]
      by_cases hfixed : (Filled e.literal && e.children.isEmpty) = true
      · obtain ⟨hliteral, hempty⟩ := Bool.and_eq_true_iff.1 hfixed
        simp [hliteral, List.isEmpty_iff.1 hempty]
      · rw [if_neg hfixed]
        obtain ⟨extra, hunion, -⟩ := unionAlternatives_eq_append e.children u.children
        have hnot : ¬ (Filled e.literal &&
            ((unionAlternatives e.children u.children).map normalize).isEmpty) = true := by
          intro hboth
          obtain ⟨hliteral, hempty⟩ := Bool.and_eq_true_iff.1 hboth
          refine hfixed (Bool.and_eq_true_iff.2 ⟨hliteral, ?_⟩)
          rw [hunion] at hempty
          simp at hempty
          simp [hempty.1]
        rw [if_neg hnot, if_neg hfixed, List.flatMap_cons, unionAlternatives_append]
        refine map_normalize_unionAlternatives ?_ _
        rw [List.map_map]
        exact List.map_congr_left fun p _ => normalize_normalize p

/-! ## First members -/

theorem merge_children_of_first {e : Property} (hkind : e.kind = .arrayOf ∨ e.kind = .objectOf)
    (u : Property) :
    (merge .authoritative e u).children =
      (if Filled e.literal && e.children.isEmpty then []
        else if e.children.isEmpty then u.children else e.children).map normalize := by
  rw [merge_children, joinedMembers]
  rcases hkind with hkind | hkind
  · simp [hkind, MergeMode.kind, arranged, PropKind.hasNamedMembers,
      PropKind.hasPositionalMembers]
  · simp [hkind, MergeMode.kind, arranged, PropKind.hasNamedMembers,
      PropKind.hasPositionalMembers]

theorem held_head_of_first {e : Property} (hkind : e.kind = .arrayOf ∨ e.kind = .objectOf)
    {others : List Property} (h : ∀ u ∈ others, Filled u.literal = false) :
    (held e others).normalize.children.head? =
      (e.children ++ if Filled e.literal then [] else others.flatMap (·.children)).head?.map
        normalize := by
  induction others generalizing e with
  | nil =>
      rw [held_nil, normalize_children]
      rcases hkind with hkind | hkind
      · simp [hkind, arranged, PropKind.hasNamedMembers, PropKind.hasPositionalMembers]
      · simp [hkind, arranged, PropKind.hasNamedMembers, PropKind.hasPositionalMembers]
  | cons u others ih =>
      have hnext : (merge .authoritative e u).kind = .arrayOf ∨
          (merge .authoritative e u).kind = .objectOf := by rw [merge_kind]; exact hkind
      rw [held_cons, ih hnext fun v hv => h v (List.mem_cons_of_mem u hv),
        filled_merge_literal (h u List.mem_cons_self), merge_children_of_first hkind]
      cases hchildren : e.children with
      | cons c rest => simp
      | nil =>
          cases hliteral : Filled e.literal with
          | true => simp
          | false =>
              cases hu : u.children with
              | nil => simp [hu]
              | cons c rest => simp [hu]

/-! ## The text -/

private def alternativesText (literal : String) (texts : List String) : String :=
  if texts.isEmpty then "(" ++ literal ++ ")" else "([" ++ ", ".intercalate texts ++ "])"

private theorem alternativesText_append_ne {literal : String} {texts more : List String}
    (hliteral : texts = [] → literal = "[]") (hne : more ≠ []) (hmore : ∀ t ∈ more, t ≠ "") :
    alternativesText literal (texts ++ more) ≠ alternativesText literal texts := by
  intro h
  have hlength := congrArg String.length h
  unfold alternativesText at hlength
  cases texts with
  | nil =>
      obtain ⟨t, rest, rfl⟩ := List.exists_cons_of_ne_nil hne
      have ht : 0 < t.length := by
        rw [Nat.pos_iff_ne_zero, Ne, String.length_eq_zero_iff]
        exact hmore t List.mem_cons_self
      have hopening : "([".length = 2 := rfl
      have hclosing : "])".length = 2 := rfl
      have hbrackets : "([])".length = 4 := rfl
      rw [hliteral rfl] at hlength
      cases rest with
      | nil =>
          simp at hlength
          omega
      | cons r rest =>
          simp at hlength
          omega
  | cons t texts =>
      rw [if_neg (by simp), if_neg (by simp),
        String.intercalate_append_of_ne_nil (by simp) hne] at hlength
      have hcomma : ", ".length = 2 := rfl
      simp only [String.length_append] at hlength
      omega

@[simp] theorem literalOr_normalize (p : Property) (otherwise : String) :
    p.normalize.literalOr otherwise = p.literalOr otherwise := by
  simp [literalOr]

theorem argument_oneOfType {p : Property} (h : p.kind = .oneOfType) (settings : Settings)
    (indent : String) :
    argument settings indent p =
      alternativesText (p.literalOr "[]") (p.children.map (validator settings indent)) := by
  unfold argument alternativesText
  rw [h]
  simp

theorem argument_of_first {p : Property} (h : p.kind = .arrayOf ∨ p.kind = .objectOf)
    (settings : Settings) (indent : String) :
    argument settings indent p =
      "(" ++ (p.children.head?.map (validator settings indent)).getD
        (p.literalOr (moduleIdentifier ++ ".any")) ++ ")" := by
  unfold argument
  rcases h with h | h
  · rw [h]
  · rw [h]

/-- When the members that join a declared property leave the text of its validator alone. -/
def Unaltered (settings : Settings) (indent : String) (e : Property) (joined : List Property) :
    Prop :=
  (e.kind = .oneOfType → (Filled e.literal = true ∧ e.children = []) ∨
    ∀ c ∈ joined, ∃ d ∈ e.children, d.kind = c.kind ∧ d.literal = c.literal) ∧
  (e.kind = .arrayOf ∨ e.kind = .objectOf → e.children ≠ [] ∨ Filled e.literal = true ∨
    ∀ c ∈ joined.head?, validator settings indent c.normalize = moduleIdentifier ++ ".any")

/-- A validator with positional members keeps its text if and only if its argument does. -/
theorem validator_held_iff_argument {e : Property} (hkind : e.kind ≠ .custom)
    (others : List Property) (settings : Settings) (indent : String) :
    validator settings indent (held e others).normalize = validator settings indent e.normalize ↔
      argument settings indent (held e others).normalize =
        argument settings indent e.normalize := by
  rw [validator_of_ne_custom (by simpa using hkind), validator_of_ne_custom (by simpa using hkind)]
  simp only [normalize_required, normalize_kind, held_required, held_kind, withRequired_inj]
  exact String.append_right_inj _

theorem validator_held_oneOfType_iff {e : Property} (hkind : e.kind = .oneOfType)
    {others : List Property} (h : ∀ u ∈ others, Filled u.literal = false) (settings : Settings)
    (indent : String) :
    validator settings indent (held e others).normalize = validator settings indent e.normalize ↔
      (Filled e.literal = true ∧ e.children = []) ∨
        ∀ c ∈ others.flatMap (·.children),
          ∃ d ∈ e.children, d.kind = c.kind ∧ d.literal = c.literal := by
  obtain ⟨extra, hunion, hextra⟩ :=
    unionAlternatives_eq_append e.children (others.flatMap (·.children))
  have hchildren : e.normalize.children = e.children.map normalize := by
    rw [normalize_children, hkind]
    rfl
  rw [validator_held_iff_argument (by simp [hkind]), argument_oneOfType (by simpa using hkind),
    argument_oneOfType (by simpa using hkind), literalOr_normalize, literalOr_normalize,
    literalOr_held h, held_children_oneOfType hkind h, hchildren, ← hextra, hunion]
  by_cases hfixed : Filled e.literal = true ∧ e.children = []
  · simp [hfixed]
  · have hnot : ¬ (Filled e.literal && e.children.isEmpty) = true := by simpa using hfixed
    rw [if_neg hnot, List.map_append, List.map_append]
    constructor
    · intro htext
      by_contra hne
      push Not at hne
      refine alternativesText_append_ne ?_ (by simpa using hne.2) ?_ htext
      · intro hnil
        have hempty : e.children = [] := by simpa using hnil
        have hliteral : Filled e.literal = false := by
          simpa [hempty] using hfixed
        simp [literalOr, hliteral]
      · intro t ht
        obtain ⟨p, -, rfl⟩ := List.mem_map.1 ht
        exact validator_ne_empty settings indent p
    · rintro (hleft | rfl)
      · exact (hfixed hleft).elim
      · simp

theorem validator_held_first_iff {e : Property} (hkind : e.kind = .arrayOf ∨ e.kind = .objectOf)
    {others : List Property} (h : ∀ u ∈ others, Filled u.literal = false) (settings : Settings)
    (indent : String) :
    validator settings indent (held e others).normalize = validator settings indent e.normalize ↔
      e.children ≠ [] ∨ Filled e.literal = true ∨
        ∀ c ∈ (others.flatMap (·.children)).head?,
          validator settings indent c.normalize = moduleIdentifier ++ ".any" := by
  have hcustom : e.kind ≠ .custom := by
    rcases hkind with hkind | hkind <;> simp [hkind]
  have hchildren : e.normalize.children.head? = e.children.head?.map normalize := by
    simpa using @held_head_of_first e hkind [] (by simp)
  have hparens : ∀ {a b : String}, "(" ++ a ++ ")" = "(" ++ b ++ ")" ↔ a = b := by
    intro a b
    rw [String.append_left_inj, String.append_right_inj]
  rw [validator_held_iff_argument hcustom, argument_of_first (by simpa using hkind),
    argument_of_first (by simpa using hkind), hparens, literalOr_normalize, literalOr_normalize,
    literalOr_held h, held_head_of_first hkind h, hchildren]
  cases hempty : e.children with
  | cons c rest => simp
  | nil =>
      cases hliteral : Filled e.literal with
      | true => simp
      | false =>
          cases hjoined : (others.flatMap (·.children)).head? with
          | none => simp [hjoined]
          | some c => simp [hjoined, literalOr, hliteral]

/-! ## Declared lists -/

section Combine

variable {declared used defaults : List Property}

theorem combine_eq_joinAll (h : (declared.map (·.name)).Nodup) (used defaults : List Property) :
    combine declared used defaults =
      joinAll (fun q p => merge
          (if (declared.map (·.name)).contains p.name then .authoritative else .priority) q p)
        declared (used ++ defaults) := by
  unfold combine
  dsimp only
  rw [mergeLists_of_nodup h, joinAll_nil, mergeLists_of_nodup h, mergeLists_of_nodup,
    joinAll_append]
  exact nodup_joinAll (fun q p => merge_name _ q p) h used

theorem nodup_combine (h : (declared.map (·.name)).Nodup) (used defaults : List Property) :
    ((combine declared used defaults).map (·.name)).Nodup := by
  rw [combine_eq_joinAll h]
  exact nodup_joinAll (fun q p => merge_name _ q p) h _

/-- A declared property stands in the joined list as what it holds against the others. -/
theorem held_mem_combine (h : (declared.map (·.name)).Nodup) {e : Property} (he : e ∈ declared)
    (used defaults : List Property) :
    held e ((used ++ defaults).filter fun p => p.name = e.name) ∈ combine declared used defaults := by
  have hmem := foldl_mem_joinAll
    (fun q p => merge_name (if (declared.map (·.name)).contains p.name then .authoritative
      else .priority) q p) h he (used ++ defaults)
  rw [combine_eq_joinAll h]
  refine Eq.subst (motive := (· ∈ _)) ?_ hmem
  refine List.foldl_ext _ _ _ ?_
  intro q p hp
  have hname : p.name = e.name := by simpa using (List.mem_filter.1 hp).2
  have hcontains : (declared.map (·.name)).contains p.name = true := by
    rw [List.contains_iff_mem, hname]
    exact List.mem_map_of_mem he
  simp only [hcontains, if_true]

/-- In the combined list there is one property of the name of a declared one. Unless its kind has
named members, its validator is the declared one, but for the members that alternatives and bare
lists take on. -/
theorem validator_combine_iff (hnames : (declared.map (·.name)).Nodup)
    (hliteral : ∀ u ∈ used ++ defaults, Filled u.literal = false) {e : Property}
    (he : e ∈ declared) (hkind : e.kind.hasNamedMembers = false) :
    ∃ m ∈ finalize (combine declared used defaults), m.name = e.name ∧
      (∀ q ∈ finalize (combine declared used defaults), q.name = e.name → q = m) ∧
      ∀ settings indent,
        validator settings indent m = validator settings indent e.normalize ↔
          Unaltered settings indent e (contributed used defaults e.name) := by
  have hmem := held_mem_combine hnames he used defaults
  have hothers : ∀ u ∈ (used ++ defaults).filter fun p => p.name = e.name,
      Filled u.literal = false := fun u hu => hliteral u (List.mem_filter.1 hu).1
  refine ⟨_, mem_sortByName.2 (List.mem_map_of_mem hmem), by simp, ?_, ?_⟩
  · intro q hq hname
    obtain ⟨p, hp, rfl⟩ := List.mem_map.1 (mem_sortByName.1 hq)
    have hsame : p.name = (held e ((used ++ defaults).filter fun p => p.name = e.name)).name := by
      simpa using hname
    rw [List.inj_on_of_nodup_map (nodup_combine hnames used defaults) hp hmem hsame]
  · intro settings indent
    unfold Unaltered
    by_cases halternatives : e.kind = .oneOfType
    · rw [validator_held_oneOfType_iff halternatives hothers]
      simp [halternatives, contributed]
    · by_cases hfirst : e.kind = .arrayOf ∨ e.kind = .objectOf
      · rw [validator_held_first_iff hfirst hothers]
        simp only [halternatives, hfirst, contributed, false_implies, true_implies, true_and]
      · simp only [halternatives, hfirst, false_implies, true_and, iff_true]
        refine validator_congr (by simp) (by simp) ?_ ?_ settings indent
        · intro otherwise
          rw [literalOr_normalize, literalOr_normalize, literalOr_held hothers]
        · rw [normalize_kind, held_kind]
          cases hk : e.kind <;> simp_all [PropKind.isContainer, PropKind.hasNamedMembers,
            PropKind.hasPositionalMembers]

end Combine

/-- `oneOfType([string, object])`, as it is declared. -/
def textOrObject : Property :=
  { name := "user", kind := .oneOfType
    children := [{ name := "", kind := .string }, { name := "", kind := .object }] }

/-- `props.user.name`, as it is used. -/
def memberOfUser : Property :=
  { name := "user", kind := .shape, children := [{ name := "name" }] }

/-- The member that is read is not among the alternatives, so the text changes. -/
theorem validator_textOrObject_iff :
    ∃ m ∈ finalize (combine [textOrObject] [memberOfUser] []), m.name = "user" ∧
      (∀ q ∈ finalize (combine [textOrObject] [memberOfUser] []), q.name = "user" → q = m) ∧
      ∀ settings indent,
        validator settings indent m = validator settings indent textOrObject.normalize ↔
          Unaltered settings indent textOrObject [{ name := "name" }] :=
  validator_combine_iff (by decide) (by decide) List.mem_cons_self rfl

/-- What is used can add to a declared validator. -/
theorem validator_textOrObject_altered :
    (finalize (combine [textOrObject] [memberOfUser] [])).map (validator {} "") =
        ["PropTypes.oneOfType([PropTypes.string, PropTypes.object, PropTypes.any])"] ∧
      validator {} "" textOrObject.normalize =
        "PropTypes.oneOfType([PropTypes.string, PropTypes.object])" := by
  constructor
  · cbv
  · cbv

end PropTyper.Property
