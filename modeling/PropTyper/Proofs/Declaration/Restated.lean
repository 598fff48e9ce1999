import PropTyper.Proofs.Declaration.Declared
import PropTyper.Proofs.Property.Follows

/-! # Restating what is known

A declaration shows a property without its local name, its block and its default value; `asDeclared`
is what is left of it. `Takes c g` says that the authority of `c` takes up all that `g` shows on one
level. A property that takes up `g` on all levels shows the same declaration when `g` joins it.
-/

namespace PropTyper.Property

open Declaration

/-- What a declaration shows of a property, at every depth. -/
def asDeclared (p : Property) : Property :=
  { p with
    binding := none
    scope := none
    defaultText := none
    children := p.children.map asDeclared }
termination_by sizeOf p
decreasing_by exact sizeOf_child_lt ‹_›

section Fields

variable (p : Property)

theorem asDeclared_eq :
    p.asDeclared =
      { p with
        binding := none
        scope := none
        defaultText := none
        children := p.children.map asDeclared } := by
  rw [asDeclared]

@[simp] theorem asDeclared_name : p.asDeclared.name = p.name := by rw [asDeclared_eq]

@[simp] theorem asDeclared_kind : p.asDeclared.kind = p.kind := by rw [asDeclared_eq]

@[simp] theorem asDeclared_required : p.asDeclared.required = p.required := by rw [asDeclared_eq]

@[simp] theorem asDeclared_literal : p.asDeclared.literal = p.literal := by rw [asDeclared_eq]

@[simp] theorem asDeclared_defaultText : p.asDeclared.defaultText = none := by rw [asDeclared_eq]

@[simp] theorem asDeclared_children : p.asDeclared.children = p.children.map asDeclared := by
  rw [asDeclared_eq]

end Fields

theorem asDeclared_congr {p q : Property} (hname : p.name = q.name) (hkind : p.kind = q.kind)
    (hrequired : p.required = q.required) (hliteral : p.literal = q.literal)
    (hchildren : p.children.map asDeclared = q.children.map asDeclared) :
    p.asDeclared = q.asDeclared := by
  rw [asDeclared_eq, asDeclared_eq, hname, hkind, hrequired, hliteral, hchildren]

@[simp] theorem asDeclared_asDeclared (p : Property) : p.asDeclared.asDeclared = p.asDeclared := by
  induction p using inductionOn with
  | step p ih =>
    refine asDeclared_congr (by simp) (by simp) (by simp) (by simp) ?_
    rw [asDeclared_children, List.map_map]
    exact List.map_congr_left ih

theorem map_asDeclared_sortByName (properties : List Property) :
    (sortByName properties).map asDeclared = sortByName (properties.map asDeclared) := by
  refine List.map_mergeSort ?_
  intro a _ b _
  rw [asDeclared_name, asDeclared_name]

theorem map_asDeclared_arranged (kind : PropKind) (members : List Property) :
    (arranged kind members).map asDeclared = arranged kind (members.map asDeclared) := by
  unfold arranged
  split
  · exact map_asDeclared_sortByName members
  · split
    · rfl
    · rfl

theorem asDeclared_normalize (p : Property) : p.normalize.asDeclared = p.asDeclared.normalize := by
  induction p using inductionOn with
  | step p ih =>
    have hmembers : (p.children.map normalize).map asDeclared =
        (p.children.map asDeclared).map normalize := by
      rw [List.map_map, List.map_map]
      exact List.map_congr_left ih
    rw [asDeclared_eq p.normalize, normalize_children, map_asDeclared_arranged, hmembers,
      normalize_eq p.asDeclared, asDeclared_children, asDeclared_kind, asDeclared_eq p,
      normalize_eq p]

theorem map_asDeclared_sort_normalize (properties : List Property) :
    (sortByName (properties.map normalize)).map asDeclared =
      sortByName ((properties.map asDeclared).map normalize) := by
  rw [map_asDeclared_sortByName, List.map_map, List.map_map]
  exact congrArg sortByName (List.map_congr_left fun p _ => asDeclared_normalize p)

theorem normalize_asDeclared {p : Property} (h : p.normalize = p) :
    p.asDeclared.normalize = p.asDeclared := by
  rw [← asDeclared_normalize, h]

/-! ## The text of a declaration -/

theorem validator_asDeclared (settings : Settings) (indent : String) (p : Property) :
    validator settings indent p.asDeclared = validator settings indent p := by
  induction p using inductionOn generalizing indent with
  | step p ih =>
    have hliteral : ∀ otherwise, p.asDeclared.literalOr otherwise = p.literalOr otherwise := by
      simp [literalOr]
    have hmembers : ∀ indent, (p.children.map asDeclared).map (validator settings indent) =
        p.children.map (validator settings indent) := by
      intro indent
      rw [List.map_map]
      exact List.map_congr_left fun c hc => ih c hc indent
    by_cases hcustom : p.kind = .custom
    · rw [validator_of_custom (by simpa using hcustom), validator_of_custom hcustom, hliteral]
    · have hentries : ∀ inner, entries settings inner (p.children.map asDeclared) =
          entries settings inner p.children := by
        intro inner
        rw [entries_eq_map, entries_eq_map, List.map_map]
        refine List.map_congr_left fun c hc => ?_
        rw [Function.comp_apply, asDeclared_name, ih c hc]
      have hargument : argument settings indent p.asDeclared = argument settings indent p := by
        unfold argument
        simp only [asDeclared_kind, asDeclared_children, hliteral, hmembers, hentries,
          List.isEmpty_map, ← List.head?_map]
      rw [validator_of_ne_custom (by simpa using hcustom), validator_of_ne_custom hcustom,
        hargument, asDeclared_kind, asDeclared_required]

/-- Two lists that state the same under the same names, with the same defaults, are written as the
same declarations. -/
theorem statement_congr {first second : List Property}
    (hdeclared : first.map asDeclared = second.map asDeclared)
    (hdefaults : first.map (·.defaultText) = second.map (·.defaultText)) (settings : Settings)
    (component : String) (style : CodeStyle) (indent label : String) :
    statement settings component style indent label first =
      statement settings component style indent label second := by
  have hentries : ∀ inner, entries settings inner first = entries settings inner second := by
    have hview : ∀ inner properties, entries settings inner properties =
        (properties.map asDeclared).map fun p =>
          (Key.render settings.quoteChar p.name, validator settings inner p) := by
      intro inner properties
      rw [entries_eq_map, List.map_map]
      refine List.map_congr_left fun p _ => ?_
      rw [Function.comp_apply, asDeclared_name, validator_asDeclared]
    intro inner
    rw [hview, hview, hdeclared]
  have hstated : defaultEntries settings first = defaultEntries settings second := by
    have hview : ∀ properties : List Property, defaultEntries settings properties =
        (((properties.map asDeclared).zip (properties.map (·.defaultText))).filter
          fun e => Filled e.2).map fun e =>
            (Key.render settings.quoteChar e.1.name, e.2.getD "") := by
      intro properties
      unfold defaultEntries
      induction properties with
      | nil => rfl
      | cons p rest ih =>
          simp only [List.map_cons, List.zip_cons_cons, List.filter_cons]
          split
          · rw [List.map_cons, List.map_cons, ih, asDeclared_name]
          · exact ih
    rw [hview, hview, hdeclared, hdefaults]
  unfold statement body
  simp only [hentries, hstated]

/-! ## Authority on one level -/

/-- All that the authority of `c` takes on from `g` on one level is there already. -/
structure Takes (c g : Property) : Prop where
  name_eq : c.name = g.name
  literal : Filled c.literal = true ∨ c.literal = none
  alternatives : c.kind = .oneOfType → (Filled c.literal = true ∧ c.children = []) ∨
    ∀ x ∈ g.children, ∃ d ∈ c.children, d.kind = x.kind ∧ d.literal = x.literal
  first : c.kind = .arrayOf ∨ c.kind = .objectOf → c.children = [] →
    Filled c.literal = true ∨ g.children = []

variable {c g h : Property}

theorem literal_merge_cases (mode : MergeMode) (c : Property) (hh : h.literal = none) :
    Filled (merge mode c h).literal = true ∨ (merge mode c h).literal = none := by
  rw [merge_literal, firstFilled]
  split
  · next hfilled => exact .inl hfilled
  · exact .inr hh

theorem exists_mem_unionAlternatives {base other : List Property} {x : Property}
    (hx : x ∈ base ∨ x ∈ other) :
    ∃ d ∈ unionAlternatives base other, d.kind = x.kind ∧ d.literal = x.literal := by
  unfold unionAlternatives
  induction other generalizing base x with
  | nil => exact ⟨x, hx.resolve_right List.not_mem_nil, rfl, rfl⟩
  | cons p rest ih =>
      rw [List.foldl_cons]
      by_cases hp : ∃ q ∈ base, q.kind = p.kind ∧ q.literal = p.literal
      · rw [if_pos (by simpa using hp)]
        rcases hx with hx | hx
        · exact ih (.inl hx)
        · rcases List.mem_cons.1 hx with rfl | hx
          · obtain ⟨q, hq, hkind, hliteral⟩ := hp
            obtain ⟨d, hd, hdkind, hdliteral⟩ := ih (.inl hq)
            exact ⟨d, hd, hdkind.trans hkind, hdliteral.trans hliteral⟩
          · exact ih (.inr hx)
      · rw [if_neg (by simpa using hp)]
        rcases hx with hx | hx
        · exact ih (.inl (List.mem_append_left _ hx))
        · rcases List.mem_cons.1 hx with rfl | hx
          · exact ih (.inl (by simp))
          · exact ih (.inr hx)

theorem Takes.normalize (hcg : Takes c g) : Takes c.normalize g := by
  refine ⟨by simpa using hcg.name_eq, by simpa using hcg.literal, ?_, ?_⟩
  · intro hkind
    rw [normalize_kind] at hkind
    have hchildren : c.normalize.children = c.children.map Property.normalize := by
      rw [normalize_children, hkind]
      rfl
    rw [normalize_literal, hchildren]
    refine (hcg.alternatives hkind).imp ?_ ?_
    · rintro ⟨hfilled, hnil⟩
      exact ⟨hfilled, by rw [hnil]; rfl⟩
    · intro hall x hx
      obtain ⟨d, hd, hsame⟩ := hall x hx
      exact ⟨d.normalize, List.mem_map_of_mem hd, by simpa using hsame⟩
  · intro hkind hnil
    rw [normalize_kind] at hkind
    rw [normalize_literal]
    refine hcg.first hkind ?_
    have hchildren : c.normalize.children = c.children.map Property.normalize := by
      rw [normalize_children]
      rcases hkind with hkind | hkind
      · rw [hkind]
        rfl
      · rw [hkind]
        rfl
    rw [hchildren] at hnil
    exact List.map_eq_nil_iff.1 hnil

/-- A merge takes up `g` on one level if one of its two sides holds what `g` shows. -/
theorem takes_merge (hname : c.name = g.name) (hh : h.literal = none)
    (halternatives : c.kind = .oneOfType → (Filled c.literal = true ∧ c.children = []) ∨
      ∀ x ∈ g.children, ∃ d, (d ∈ c.children ∨ d ∈ h.children) ∧ d.kind = x.kind ∧
        d.literal = x.literal)
    (hfirst : c.kind = .arrayOf ∨ c.kind = .objectOf → c.children = [] → h.children = [] →
      Filled c.literal = true ∨ g.children = []) :
    Takes (merge .authoritative c h) g := by
  have hfilled : Filled (merge .authoritative c h).literal = Filled c.literal :=
    filled_merge_literal (by rw [hh]; rfl)
  refine ⟨by rw [merge_name, hname], literal_merge_cases _ c hh, ?_, ?_⟩
  · intro hkind
    have hkind : c.kind = .oneOfType := by rwa [merge_kind] at hkind
    rw [hfilled, merge_children_oneOfType hkind]
    by_cases hclosed : Filled c.literal = true ∧ c.children = []
    · exact .inl ⟨hclosed.1, by simp [hclosed.1, hclosed.2]⟩
    · right
      rw [if_neg (by simpa using hclosed)]
      intro x hx
      obtain ⟨d, hd, hdkind, hdliteral⟩ := (halternatives hkind).resolve_left hclosed x hx
      obtain ⟨y, hy, hykind, hyliteral⟩ := exists_mem_unionAlternatives hd
      exact ⟨y.normalize, List.mem_map_of_mem hy, by simp [hykind, hdkind],
        by simp [hyliteral, hdliteral]⟩
  · intro hkind hnil
    rw [merge_kind] at hkind
    rw [merge_children_of_first hkind] at hnil
    rw [hfilled]
    cases hliteral : Filled c.literal with
    | true => exact .inl rfl
    | false =>
        by_cases hempty : c.children = []
        · have hnone : h.children = [] := by simpa [hliteral, hempty] using hnil
          exact hliteral ▸ hfirst hkind hempty hnone
        · simp [hempty] at hnil

theorem Takes.merge (hcg : Takes c g) (hh : h.literal = none) :
    Takes (merge .authoritative c h) g := by
  refine takes_merge hcg.name_eq hh ?_ fun hkind hnil _ => hcg.first hkind hnil
  intro hkind
  refine (hcg.alternatives hkind).imp_right fun hall x hx => ?_
  obtain ⟨d, hd, hsame⟩ := hall x hx
  exact ⟨d, .inl hd, hsame⟩

theorem takes_merge_right (hname : c.name = g.name) (hg : g.literal = none) :
    Takes (merge .authoritative c g) g :=
  takes_merge hname hg (fun _ => .inr fun x hx => ⟨x, .inr hx, rfl, rfl⟩)
    fun _ _ hnil => .inr hnil

theorem keptBy_takes : KeptBy Takes .authoritative (·.literal = none) where
  normalize := fun _ _ hcg => hcg.normalize
  merge := fun hcg hh => hcg.merge hh
  takes := fun _ _ ht => .inl (takesMembers_of_authoritative ht)

/-! ## Absorption -/

theorem Takes.asDeclared (hcg : Takes c g) : Takes c.asDeclared g := by
  refine ⟨by simpa using hcg.name_eq, by simpa using hcg.literal, ?_, ?_⟩
  · intro hkind
    rw [asDeclared_kind] at hkind
    rw [asDeclared_literal, asDeclared_children, List.map_eq_nil_iff]
    refine (hcg.alternatives hkind).imp_right fun hall x hx => ?_
    obtain ⟨d, hd, hsame⟩ := hall x hx
    exact ⟨d.asDeclared, List.mem_map_of_mem hd, by simpa using hsame⟩
  · intro hkind hnil
    rw [asDeclared_kind] at hkind
    rw [asDeclared_children, List.map_eq_nil_iff] at hnil
    rw [asDeclared_literal]
    exact hcg.first hkind hnil

theorem takesMembers_asDeclared (p : Property) : takesMembers p.asDeclared = takesMembers p := by
  simp [takesMembers]

theorem Follows.asDeclared (hcg : Follows Takes c g) : Follows Takes c.asDeclared g := by
  induction g using inductionOn generalizing c with
  | step g ih =>
    obtain ⟨hself, hmembers⟩ := follows_iff.1 hcg
    refine follows_iff.2 ⟨hself.asDeclared, fun ht => ?_⟩
    rw [takesMembers_asDeclared] at ht
    obtain ⟨hnodup, hall⟩ := hmembers ht
    rw [asDeclared_children, List.map_map]
    refine ⟨by simpa [Function.comp_def] using hnodup, fun x hx => ?_⟩
    obtain ⟨d, hd, hdx⟩ := hall x hx
    exact ⟨d.asDeclared, List.mem_map_of_mem hd, ih x hx hdx⟩

theorem normalize_merge (mode : MergeMode) (c h : Property) :
    (merge mode c h).normalize = merge mode c h := by
  rw [merge_eq, mergeWith, normalize_normalize]

/-- One after the other, properties that are taken up leave a declaration as it is. -/
theorem asDeclared_held_of_absorbed {e : Property} {others : List Property}
    (he : e.normalize = e) (hfollows : ∀ x ∈ others, Follows Takes e x)
    (hliteral : ∀ x ∈ others, Everywhere (·.literal = none) x)
    (habsorbed : ∀ x ∈ others, ∀ d, d.normalize = d → Follows Takes d x →
      (merge .authoritative d x).asDeclared = d.asDeclared) :
    (held e others).asDeclared = e.asDeclared := by
  induction others generalizing e with
  | nil => rfl
  | cons u others ih =>
      have hfirst : (merge .authoritative e u).asDeclared = e.asDeclared :=
        habsorbed u List.mem_cons_self e he (hfollows u List.mem_cons_self)
      rw [held_cons, ← hfirst]
      refine ih (normalize_merge _ e u) ?_ (fun x hx => hliteral x (List.mem_cons_of_mem u hx))
        fun x hx => habsorbed x (List.mem_cons_of_mem u hx)
      intro x hx
      exact (hfollows x (List.mem_cons_of_mem u hx)).merge keptBy_takes rfl
        (hliteral u List.mem_cons_self)

theorem map_asDeclared_mergeLists {members others : List Property}
    (hnormal : ∀ d ∈ members, d.normalize = d) (hnodup : (members.map (·.name)).Nodup)
    (hall : ∀ x ∈ others, ∃ d ∈ members, Follows Takes d x)
    (hliteral : ∀ x ∈ others, Everywhere (·.literal = none) x)
    (habsorbed : ∀ x ∈ others, ∀ d, d.normalize = d → Follows Takes d x →
      (merge .authoritative d x).asDeclared = d.asDeclared) :
    (mergeLists .authoritative members others).map asDeclared = members.map asDeclared := by
  have hnames : ∀ x ∈ others, x.name ∈ members.map (·.name) := by
    intro x hx
    obtain ⟨d, hd, hdx⟩ := hall x hx
    exact List.mem_map.2 ⟨d, hd, hdx.here.name_eq⟩
  rw [mergeLists_eq_joinAll_of_nodup hnodup, joinAll_eq_map (merge_name _) hnodup hnames,
    List.map_map]
  -- each member is joined by those of its name alone, and these are the ones that it takes up
  refine List.map_congr_left fun e he => ?_
  have hsub : ∀ x ∈ others.filter fun p => p.name = e.name, x ∈ others ∧ x.name = e.name := by
    intro x hx
    simpa using List.mem_filter.1 hx
  refine asDeclared_held_of_absorbed (hnormal e he) ?_ (fun x hx => hliteral x (hsub x hx).1)
    fun x hx => habsorbed x (hsub x hx).1
  intro x hx
  obtain ⟨hmem, hname⟩ := hsub x hx
  obtain ⟨d, hd, hdx⟩ := hall x hmem
  rwa [List.inj_on_of_nodup_map hnodup hd he (hdx.here.name_eq.trans hname)] at hdx

theorem Takes.merge_children_eq (hcg : Takes c g) (hc : c.normalize = c)
    (hnamed : c.kind.hasNamedMembers = false) :
    (Property.merge .authoritative c g).children = c.children := by
  have htidy : ∀ {p : Property}, p.normalize = p → p.kind.isContainer = false → p.children = [] :=
    fun hp => (hp ▸ tidy_normalize _ : Tidy _).children_eq
  by_cases hclosed : Filled c.literal = true ∧ c.children = []
  · rw [merge_children_of_closed hclosed.1 hclosed.2, hclosed.2]
  by_cases hpositional : c.kind.hasPositionalMembers = true
  · have hnormal : c.children.map Property.normalize = c.children := by
      rw [← congrArg children hc, normalize_children, arranged, hnamed, hpositional]
      simp [Function.comp_def]
    by_cases halternatives : c.kind = .oneOfType
    · obtain ⟨extra, heq, hextra⟩ := unionAlternatives_eq_append c.children g.children
      have hnil : extra = [] := hextra.2 ((hcg.alternatives halternatives).resolve_left hclosed)
      rw [merge_children_oneOfType halternatives, if_neg (by simpa using hclosed), heq, hnil,
        List.append_nil, hnormal]
    · have hfirst : c.kind = .arrayOf ∨ c.kind = .objectOf := by
        cases hkind : c.kind <;> simp_all [PropKind.hasPositionalMembers]
      rw [merge_children_of_first hfirst, if_neg (by simpa using hclosed)]
      by_cases hempty : c.children = []
      · have hnone : Filled c.literal = false := by simpa [hempty] using hclosed
        have hnil : g.children = [] := (hcg.first hfirst hempty).resolve_left (by simp [hnone])
        simp [hempty, hnil]
      · rw [if_neg (by simpa using hempty), hnormal]
  · have hcontainer : c.kind.isContainer = false := by
      rw [PropKind.isContainer, hnamed, Bool.eq_false_iff.2 hpositional]
      rfl
    rw [htidy hc hcontainer, htidy (normalize_merge _ c g) (by rwa [merge_kind])]

/-- What is taken up on all levels leaves a declaration as it is. -/
theorem asDeclared_merge (hcg : Follows Takes c g) (hc : c.normalize = c)
    (hg : Everywhere (·.literal = none) g) :
    (merge .authoritative c g).asDeclared = c.asDeclared := by
  induction g using inductionOn generalizing c with
  | step g ih =>
    obtain ⟨htakes, hmembers⟩ := follows_iff.1 hcg
    obtain ⟨hnone, hbelow⟩ := everywhere_iff.1 hg
    refine asDeclared_congr (merge_name _ c g) (merge_kind _ c g) ?_ ?_ ?_
    · rw [merge_required, if_pos rfl]
    · rw [merge_literal, firstFilled, hnone]
      split
      · rfl
      · next hfilled => exact (htakes.literal.resolve_left hfilled).symm
    · by_cases hopen : takesMembers c = true
      · obtain ⟨hnodup, hall⟩ := hmembers hopen
        obtain ⟨hnamed, hclosed⟩ := takesMembers_iff.1 hopen
        have hview : (mergeLists .authoritative c.children g.children).map asDeclared =
            c.children.map asDeclared :=
          map_asDeclared_mergeLists (fun d hd => normalize_of_mem_children hc hd) hnodup hall hbelow
            fun x hx d hd hdx => ih x hx hdx hd (hbelow x hx)
        have hsorted : sortByName (c.children.map normalize) = c.children := by
          have hchildren := congrArg children hc
          rwa [normalize_children, arranged, if_pos hnamed] at hchildren
        calc (merge .authoritative c g).children.map asDeclared
            = sortByName (((mergeLists .authoritative c.children g.children).map asDeclared).map
                normalize) := by
              have hkind : (MergeMode.authoritative.kind c.kind g.kind).hasNamedMembers = true :=
                hnamed
              rw [merge_children_of_named hkind fun h => hclosed h.2, map_asDeclared_sort_normalize]
              rfl
          _ = (sortByName (c.children.map normalize)).map asDeclared := by
              rw [hview, map_asDeclared_sort_normalize]
          _ = c.children.map asDeclared := by rw [hsorted]
      · by_cases hnamed : c.kind.hasNamedMembers = true
        · -- a literal stands in the place of the members
          have hclosed : Filled c.literal = true ∧ c.children = [] := by
            by_contra hne
            exact hopen (takesMembers_iff.2 ⟨hnamed, hne⟩)
          rw [merge_children_of_closed hclosed.1 hclosed.2, hclosed.2]
        · rw [htakes.merge_children_eq hc (Bool.eq_false_iff.2 hnamed)]

theorem asDeclared_held {e : Property} {others : List Property} (he : e.normalize = e)
    (hfollows : ∀ x ∈ others, Follows Takes e x)
    (hliteral : ∀ x ∈ others, Everywhere (·.literal = none) x) :
    (held e others).asDeclared = e.asDeclared :=
  asDeclared_held_of_absorbed he hfollows hliteral
    fun x hx _ hd hdx => asDeclared_merge hdx hd (hliteral x hx)

end PropTyper.Property
