import PropTyper.Proofs.Completion.Grown
import PropTyper.Proofs.Component.Inferred
import PropTyper.Proofs.Property.Combine

/-! # Generating a declaration again

A generated declaration becomes one of the sources of the next run, and the uses and the default
values are still there. All that they show is part of the declaration already, at every depth: where
it was declared before, authority has taken it up, and where it was not, the properties have grown
out of it. So the next run finds the same and writes the same.
-/

namespace PropTyper

namespace Property

/-! ## What a declaration states -/

theorem asDeclared_ofParts? {name : String} {t : Tree} {parts : List Property} {p : Property}
    (hparts : ∀ q ∈ parts, q.asDeclared = q) (h : ofParts? name t parts = some p) :
    p.asDeclared = p := by
  have hchildren : parts.map asDeclared = parts :=
    (List.map_congr_left hparts).trans (List.map_id _)
  have hleaf : ∀ kind literal, ({ name, kind, literal } : Property).asDeclared =
      { name, kind, literal } := by
    intro kind literal
    rw [asDeclared_eq]
    rfl
  have hholder : ∀ kind, ({ name, kind, children := parts } : Property).asDeclared =
      { name, kind, children := parts } := by
    intro kind
    rw [asDeclared_eq]
    dsimp only
    rw [hchildren]
  unfold ofParts? at h
  split at h
  · split at h
    · cases h
    · split at h
      · cases h
        exact hleaf _ _
      · split at h
        · cases h
          exact hholder _
        · split at h
          · cases h
            exact hleaf _ _
          · cases h
            exact hholder _
        · split at h
          · cases h
            exact hleaf _ _
          · cases h
            exact hholder _
  · split at h
    · obtain ⟨q, hq, rfl⟩ := Option.map_eq_some_iff.1 h
      have hmarked : ({ q with required := true } : Property).asDeclared =
          { q.asDeclared with required := true } := by
        rw [asDeclared_eq, asDeclared_eq]
      rw [hmarked, hparts q (List.mem_of_head? hq)]
    · cases h
      exact hleaf _ _
  · obtain ⟨kind, -, rfl⟩ := Option.map_eq_some_iff.1 h
    exact hleaf _ _
  · cases h
    exact hleaf _ _
  · cases h
    exact hleaf _ _
  · cases h
    exact hleaf _ _
  · cases h

theorem asDeclared_ofValidator? {depth : Int} {name : String} {t : Tree} {p : Property}
    (h : ofValidator? depth name t = some p) : p.asDeclared = p := by
  rw [ofValidator?] at h
  split at h
  · cases h
    rw [asDeclared_eq]
    rfl
  · refine asDeclared_ofParts? ?_ h
    intro q hq
    obtain ⟨⟨s, hs⟩, -, hsub⟩ := List.mem_filterMap.1 hq
    exact asDeclared_ofValidator? hsub
termination_by sizeOf t
decreasing_by exact Tree.sizeOf_subvalidator_lt hs

theorem asDeclared_of_mem_ofDeclaration {object : Option Tree} {p : Property}
    (h : p ∈ ofDeclaration object) : p.asDeclared = p := by
  obtain ⟨e, -, he⟩ := List.mem_filterMap.1 h
  exact asDeclared_ofValidator? he

/-! ## Default values -/

/-- The first default value that is stated, among those of a list and one that comes before. -/
def firstDefault (start : Option String) (others : List Property) : Option String :=
  others.foldl (fun text o => firstFilled text o.defaultText) start

theorem defaultText_foldl_merge (mode : MergeMode) (others : List Property) (e : Property) :
    (others.foldl (merge mode) e).defaultText = firstDefault e.defaultText others := by
  induction others generalizing e with
  | nil => rfl
  | cons u others ih => rw [List.foldl_cons, ih, merge_defaultText, firstDefault, firstDefault,
      List.foldl_cons]

variable {names : List String} {declared used defaults : List Property}

theorem defaultText_of_mem_combine (hdeclared : ∀ p ∈ declared, p.defaultText = none)
    {m : Property} (hm : m ∈ combine declared used defaults) :
    m.defaultText = firstDefault none (joining used defaults m.name) := by
  by_cases hname : m.name ∈ declared.map (·.name)
  · obtain ⟨e, he, -, heq⟩ := exists_of_mem_combine_declared hm hname
    have hnone : e.defaultText = none := by
      refine forall_mem_joinAll (P := fun p => p.defaultText = none) ?_ (by simp) hdeclared e he
      intro q p hq hp
      rw [merge_defaultText, hq, hp]
      rfl
    rw [heq, defaultText_foldl_merge, hnone, ← heq]
  · obtain ⟨p, rest, hjoining, heq⟩ := exists_of_mem_combine_undeclared hm hname
    rw [hjoining, heq, defaultText_foldl_merge, firstDefault, firstDefault, List.foldl_cons]
    rfl

/-! ## The first run -/

theorem follows_takes_held {e : Property} {others : List Property}
    (hname : ∀ o ∈ others, o.name = e.name)
    (hdistinct : ∀ o ∈ others, Everywhere (Distinct names) o) :
    ∀ o ∈ others, Follows Takes (held e others) o := by
  have hkept : KeptBy Takes .authoritative (Distinct names) :=
    keptBy_takes.mono fun _ hq => hq.1.literal_eq
  have hself : ∀ q, Distinct names q → Takes q q := fun q hq =>
    ⟨rfl, .inr hq.1.literal_eq, fun _ => .inr fun x hx => ⟨x, hx, rfl, rfl⟩, fun _ hnil => .inr hnil⟩
  refine follows_foldl (Q := fun d => d.name = e.name) ?_ ?_ ?_ rfl
  · intro u _ d hd
    rw [merge_name, hd]
  · exact fun x _ u hu d hdx => hdx.merge hkept rfl (hdistinct u hu)
  · intro u hu d hd
    refine follows_merge_right rfl hkept persists_true (fun _ _ => trivial) hself
      (fun q hq => hq.2.nodup) ?_ (hd.trans (hname u hu).symm) (fun _ _ => trivial) (hdistinct u hu)
    intro m c v hm _ hv hcv
    cases m with
    | authoritative => exact takes_merge_right hcv hv.1.literal_eq
    | priority => cases hm
    | peer => cases hm

def finished (component : Node) (declared used defaults : List Property) : List Property :=
  finalize (Completion.complete component (combine declared used defaults)
    (declared.map (·.name))).properties

theorem nodup_finished (component : Node) (declared used defaults : List Property) :
    ((finished component declared used defaults).map (·.name)).Nodup := by
  rw [finished, (names_finalize_perm _).nodup_iff, Completion.map_name_complete]
  exact nodup_names_combine declared used defaults

theorem exists_of_mem_finished {component : Node} {r : Property}
    (hr : r ∈ finished component declared used defaults) :
    ∃ m ∈ combine declared used defaults, m.name = r.name ∧ m.defaultText = r.defaultText := by
  obtain ⟨c, hc, rfl⟩ := mem_finalize.1 hr
  have hmem : (c.name, c.defaultText) ∈
      (combine declared used defaults).map fun p => (p.name, p.defaultText) := by
    rw [← Completion.map_complete component _ (declared.map (·.name)) (fun _ _ => rfl) (by simp)]
    exact List.mem_map_of_mem hc
  obtain ⟨m, hm, heq⟩ := List.mem_map.1 hmem
  exact ⟨m, hm, by simpa using congrArg Prod.fst heq, by simpa using congrArg Prod.snd heq⟩

/-- All that the sources show under a name is taken up by what is finished. -/
theorem follows_finished {component root : Node} (hroot : root.trail = [])
    (hcomponent : component ∈ root.preorder)
    (hdistinct : ∀ p ∈ used ++ defaults, Everywhere (Distinct names) p) {r : Property}
    (hr : r ∈ finished component declared used defaults) :
    ∀ o ∈ joining used defaults r.name, Follows Takes r o := by
  intro o ho
  obtain ⟨m, hm, hname, -⟩ := exists_of_mem_finished hr
  have hjoining : ∀ o ∈ joining used defaults r.name, Everywhere (Distinct names) o ∧
      o.name = r.name :=
    fun o ho => ⟨hdistinct o (mem_joining.1 ho).1, (mem_joining.1 ho).2⟩
  have hunique : ∀ q ∈ finished component declared used defaults, q.name = r.name → q = r :=
    fun q hq hqr => List.inj_on_of_nodup_map (nodup_finished _ _ _ _) hq hr hqr
  by_cases hdeclared : r.name ∈ declared.map (·.name)
  · obtain ⟨e, -, hem, heq⟩ := exists_of_mem_combine_declared hm (hname ▸ hdeclared)
    have hfollows : Follows Takes m o := by
      rw [heq, hname]
      refine follows_takes_held ?_ (fun o ho => (hjoining o ho).1) o ho
      exact fun o ho => (hjoining o ho).2.trans (hname.symm.trans hem.symm)
    have hmem := Completion.normalize_mem_finalize_complete component hm (hname ▸ hdeclared)
    rw [← hunique _ hmem (by rw [normalize_name, hname])]
    exact hfollows.normalize keptBy_takes.normalize
  · obtain ⟨p, rest, hpr, heq⟩ := exists_of_mem_combine_undeclared hm (hname ▸ hdeclared)
    rw [hname] at hpr
    have hgrown : Follows Grown m o := by
      rw [heq]
      rw [hpr] at ho hjoining
      refine follows_foldl_priority (fun o ho => (hjoining o ho).1) ?_ o ho
      intro q hq
      exact (hjoining q (List.mem_cons_of_mem p hq)).2.trans
        (hjoining p List.mem_cons_self).2.symm
    obtain ⟨d, hd, hdo⟩ := Completion.exists_follows_complete hroot hcomponent
      (declared.map (·.name)) ⟨m, hm, hgrown⟩
    have hsame : d.normalize = r := by
      refine hunique _ (mem_finalize.2 ⟨d, hd, rfl⟩) ?_
      rw [normalize_name, hdo.here.name_eq, (hjoining o ho).2]
    rw [← hsame]
    exact (hdo.mono fun _ _ => Grown.takes).normalize keptBy_takes.normalize

/-! ## The second run -/

theorem normalize_held {e : Property} (he : e.normalize = e) (others : List Property) :
    (held e others).normalize = held e others := by
  induction others generalizing e with
  | nil => exact he
  | cons u others ih => exact ih (normalize_merge _ e u)

/-- A finished list that is declared is joined by the other sources name by name. -/
theorem finalize_combine_declared {properties : List Property}
    (hascending : (properties.map (·.name)).Pairwise (· < ·))
    (hnormal : ∀ p ∈ properties, p.normalize = p)
    (hnames : ∀ o ∈ used ++ defaults, o.name ∈ properties.map (·.name)) :
    finalize (combine (properties.map asDeclared) used defaults) =
      properties.map fun r => held r.asDeclared (joining used defaults r.name) := by
  have hsame : (properties.map asDeclared).map (·.name) = properties.map (·.name) := by
    rw [List.map_map]
    simp [Function.comp_def]
  have hnodup : ((properties.map asDeclared).map (·.name)).Nodup := by
    rw [hsame]
    exact hascending.imp fun hlt => String.ne_of_lt hlt
  have hcombine : combine (properties.map asDeclared) used defaults =
      properties.map fun r => held r.asDeclared (joining used defaults r.name) := by
    rw [combine_eq_joinAll hnodup, joinAll_eq_map (fun q p => merge_name _ q p) hnodup (by rwa [hsame]),
      List.map_map]
    refine List.map_congr_left fun r hr => ?_
    rw [Function.comp_apply, asDeclared_name]
    refine List.foldl_ext _ _ _ ?_
    intro q p hp
    have hcontains : ((properties.map asDeclared).map (·.name)).contains p.name = true := by
      rw [List.contains_iff_mem, hsame, (mem_joining.1 hp).2]
      exact List.mem_map_of_mem hr
    rw [if_pos hcontains]
  -- no name is new, so the list is still in order and its properties in normal form
  have hfixed : ((combine (properties.map asDeclared) used defaults).map normalize) =
      combine (properties.map asDeclared) used defaults := by
    rw [hcombine, List.map_map]
    refine List.map_congr_left fun r hr => ?_
    exact normalize_held (normalize_asDeclared (hnormal r hr)) _
  have hsorted : Ascending (combine (properties.map asDeclared) used defaults) := by
    rw [hcombine, Ascending, List.pairwise_map]
    refine (List.pairwise_map.1 hascending).imp ?_
    intro a b hlt
    rw [held_name, held_name, asDeclared_name, asDeclared_name]
    exact String.not_lt.1 fun hgt => String.lt_irrefl _ (String.lt_trans hlt hgt)
  rw [finalize, hfixed, sortByName_eq_self hsorted, hcombine]

end Property

namespace Inference

open Property

def again (i : Inference) : List Property :=
  finalize (combine (i.properties.map asDeclared) i.used i.defaults)

theorem distinct_sources {t : Tree} {component : Node} {propTypes defaultProps : Option Node}
    (hcomponent : component ∈ (⟨t, []⟩ : Node).preorder)
    (hused : ∀ p ∈ (Inference.of component propTypes defaultProps).used,
      p.Everywhere fun q => q.kind = .shape → (q.children.map (·.name)).Nodup) :
    ∀ p ∈ (Inference.of component propTypes defaultProps).used ++
        (Inference.of component propTypes defaultProps).defaults,
      p.Everywhere (Distinct (⟨t, []⟩ : Node).identifiers) := by
  intro p hp
  rcases List.mem_append.1 hp with hp | hp
  · intro q hq
    have hobserved := observed_ofUsage rfl hcomponent p hp q hq
    refine ⟨hobserved, fun hnamed => hused p hp q hq (hobserved.kind_eq ?_)⟩
    rw [PropKind.isContainer, hnamed, Bool.true_or]
  · have hobserved := observed_ofDefaults (⟨t, []⟩ : Node).identifiers _ p hp
    have hchildren := children_of_mem_ofDefaults hp
    refine everywhere_iff.2 ⟨⟨(everywhere_iff.1 hobserved).1, ?_⟩, by simp [hchildren]⟩
    intro _
    simp [hchildren]

/-- Declaring what is found changes nothing of what is found: the same is stated at every depth,
under the same default values, and the same text is written. -/
theorem again_states {t : Tree} {component : Node} {propTypes defaultProps : Option Node}
    (hcomponent : component ∈ (⟨t, []⟩ : Node).preorder)
    (hused : ∀ p ∈ (Inference.of component propTypes defaultProps).used,
      p.Everywhere fun q => q.kind = .shape → (q.children.map (·.name)).Nodup) :
    let i := Inference.of component propTypes defaultProps
    i.again.map asDeclared = i.properties.map asDeclared ∧
      i.again.map (·.defaultText) = i.properties.map (·.defaultText) ∧
      ∀ settings name style indent label,
        Declaration.statement settings name style indent label i.again =
          Declaration.statement settings name style indent label i.properties := by
  intro i
  have hsettles := settles_properties component propTypes defaultProps
  have hdistinct := distinct_sources hcomponent hused
  have hfinished : i.properties = finished component i.declared i.used i.defaults := rfl
  have hnormal : ∀ r ∈ i.properties, r.normalize = r := by
    intro r hr
    rw [hfinished, finished] at hr
    obtain ⟨c, -, rfl⟩ := mem_finalize.1 hr
    exact normalize_normalize c
  have hagain : i.again =
      i.properties.map fun r => held r.asDeclared (joining i.used i.defaults r.name) := by
    refine finalize_combine_declared hsettles.names_ascend hnormal ?_
    intro o ho
    refine (hsettles.names_iff o.name).2 (.inr ?_)
    exact (List.mem_append.1 ho).imp List.mem_map_of_mem List.mem_map_of_mem
  have hdeclared : i.again.map asDeclared = i.properties.map asDeclared := by
    rw [hagain, List.map_map]
    refine List.map_congr_left fun r hr => ?_
    have hfollows := follows_finished rfl hcomponent hdistinct (hfinished ▸ hr)
    rw [Function.comp_apply, asDeclared_held (normalize_asDeclared (hnormal r hr)),
      asDeclared_asDeclared]
    · exact fun o ho => (hfollows o ho).asDeclared
    · exact fun o ho q hq => (hdistinct o (mem_joining.1 ho).1 q hq).1.literal_eq
  -- declarations have no default values, so both runs take them from the same sources
  have hdefaults : i.again.map (·.defaultText) = i.properties.map (·.defaultText) := by
    rw [hagain, List.map_map]
    refine List.map_congr_left fun r hr => ?_
    rw [hfinished] at hr
    obtain ⟨m, hm, hname, hdefault⟩ := exists_of_mem_finished hr
    have hnone : ∀ p ∈ i.declared, p.defaultText = none := by
      intro p hp
      rw [← asDeclared_of_mem_ofDeclaration hp, asDeclared_defaultText]
    rw [Function.comp_apply, held, defaultText_foldl_merge, asDeclared_defaultText, ← hdefault,
      defaultText_of_mem_combine hnone hm, hname]
  exact ⟨hdeclared, hdefaults, statement_congr hdeclared hdefaults⟩

/-- The function `function F({u:{n},s}){s.l}`. -/
def takingApart : Tree :=
  let inner : Tree :=
    { kind := .objectPattern, span := ⟨14, 17⟩, text := "\x7bn\x7d", fields := [.value]
      children := [{ kind := .shorthandPropertyIdentifierPattern, span := ⟨15, 16⟩, text := "n" }] }
  let pattern : Tree :=
    { kind := .objectPattern, span := ⟨11, 20⟩, text := "\x7bu:\x7bn\x7d,s\x7d"
      children := [
        { kind := .pairPattern, span := ⟨12, 17⟩, text := "u:\x7bn\x7d"
          children := [
            { kind := .propertyIdentifier, span := ⟨12, 13⟩, text := "u", fields := [.key] },
            inner] },
        { kind := .shorthandPropertyIdentifierPattern, span := ⟨18, 19⟩, text := "s" }] }
  let access : Tree :=
    { kind := .memberExpression, span := ⟨22, 25⟩, text := "s.l"
      children := [
        { kind := .identifier, span := ⟨22, 23⟩, text := "s", fields := [.object] },
        { kind := .propertyIdentifier, span := ⟨24, 25⟩, text := "l", fields := [.property] }] }
  { kind := .functionDeclaration, span := ⟨0, 26⟩, text := "function F(\x7bu:\x7bn\x7d,s\x7d)\x7bs.l\x7d"
    children := [
      { kind := .identifier, span := ⟨9, 10⟩, text := "F", fields := [.name] },
      { kind := .formalParameters, span := ⟨10, 21⟩, text := "(\x7bu:\x7bn\x7d,s\x7d)"
        fields := [.parameters], children := [pattern] },
      { kind := .statementBlock, span := ⟨21, 26⟩, text := "\x7bs.l\x7d", fields := [.body]
        children := [access] }] }

/-- The members that the pattern names and those that the body reads are written once more. -/
theorem again_states_takingApart :
    let i := Inference.of ⟨takingApart, []⟩ none none
    i.used = [
        { name := "u", kind := .shape
          children := [{ name := "n", binding := some "n", scope := some ⟨0, 26⟩ }] },
        { name := "s", binding := some "s", scope := some ⟨0, 26⟩ }] ∧
      i.again.map asDeclared = i.properties.map asDeclared ∧
      Declaration.statement {} "F" .assignment "" "propTypes" i.again =
        "F.propTypes = \x7b\n  s: PropTypes.shape(\x7b\n    l: PropTypes.any\n  \x7d),\n" ++
          "  u: PropTypes.shape(\x7b\n    n: PropTypes.any\n  \x7d)\n\x7d;" := by
  intro i
  have hused : i.used = [
      { name := "u", kind := .shape
        children := [{ name := "n", binding := some "n", scope := some ⟨0, 26⟩ }] },
      { name := "s", binding := some "s", scope := some ⟨0, 26⟩ }] := by cbv
  have hwritten : Declaration.statement {} "F" .assignment "" "propTypes" i.properties =
      "F.propTypes = \x7b\n  s: PropTypes.shape(\x7b\n    l: PropTypes.any\n  \x7d),\n" ++
        "  u: PropTypes.shape(\x7b\n    n: PropTypes.any\n  \x7d)\n\x7d;" := by cbv
  have hdistinct : ∀ p ∈ i.used,
      p.Everywhere fun q => q.kind = .shape → (q.children.map (·.name)).Nodup := by
    rw [hused]
    intro p hp
    simp only [List.mem_cons, List.not_mem_nil, or_false] at hp
    rcases hp with rfl | rfl
    · refine everywhere_iff.2 ⟨fun _ => by decide, fun c hc => ?_⟩
      obtain rfl := List.mem_singleton.1 hc
      exact everywhere_iff.2 ⟨by simp, by simp⟩
    · exact everywhere_iff.2 ⟨by simp, by simp⟩
  obtain ⟨hstated, -, htext⟩ := again_states (Node.mem_preorder_self ⟨takingApart, []⟩) hdistinct
  exact ⟨hused, hstated, (htext {} "F" .assignment "" "propTypes").trans hwritten⟩

end Inference

end PropTyper
