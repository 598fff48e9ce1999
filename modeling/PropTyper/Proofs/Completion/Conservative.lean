import Mathlib.Data.List.Forall2
import PropTyper.Proofs.Completion.Frame
import PropTyper.Proofs.Evidence.Reads

/-! # Completing is sound and changes little

A property of the list changes by its own lookup, which comes before those of its members, and then
by lookups that only reach its members. So what a completed property has more than before is shown
by the block that introduces its name: a call makes it a function, and each new member is read from
the name by an access or taken out of it by a pattern.
-/

namespace PropTyper

namespace Node

/-- The block reads the member `x` of the name `b`, by an access or by a key of a pattern that takes
the name apart. -/
inductive ShowsMember (block : Node) (b x : String) : Prop
  | access {n : Node} {object : Tree} (hn : n ∈ block.preorder) (hkind : n.kind = .memberExpression)
      (hobject : n.tree.childOf? .object .identifier = some object) (htext : object.text = b)
      (hname : n.tree.memberName? = some x)
  | key {n : Node} {pattern value : Tree} {kind : PropKind} (hn : n ∈ block.preorder)
      (hkind : n.kind = .variableDeclarator)
      (hpattern : n.tree.childOf? .name .objectPattern = some pattern)
      (hvalue : n.tree.childOf? .value .identifier = some value) (htext : value.text = b)
      (hkey : pattern.Takes [x] kind)

theorem object_of_isMemberOf {n : Node} {b : String} (h : n.isMemberOf b = true) :
    ∃ object, n.tree.childOf? .object .identifier = some object ∧ object.text = b := by
  unfold isMemberOf at h
  split at h
  · next object hobject => exact ⟨object, hobject, of_decide_eq_true h⟩
  · cases h

theorem pattern_of_patternOf? {n target : Node} {b : String} (h : n.patternOf? b = some target) :
    n.tree.childOf? .name .objectPattern = some target.tree ∧
      ∃ value, n.tree.childOf? .value .identifier = some value ∧ value.text = b := by
  unfold patternOf? at h
  split at h
  · next found value hfound hvalue =>
    split at h
    · next hboth =>
      rw [Bool.and_eq_true, decide_eq_true_eq, decide_eq_true_eq] at hboth
      cases h
      refine ⟨?_, value, hvalue, hboth.2⟩
      rw [Tree.childOf?, ← map_tree_child?, hfound, Option.map_some, Option.filter_some]
      exact if_pos (decide_eq_true hboth.1)
    · cases h
  · cases h

theorem showsMember_of_mem_membersOf {block : Node} {b : String} {f : Property}
    (h : f ∈ block.membersOf b) : block.ShowsMember b f.name := by
  rcases List.mem_append.1 h with h | h
  · obtain ⟨n, hn, haccess⟩ := List.mem_filterMap.1 h
    obtain ⟨hselected, hmember⟩ := List.mem_filter.1 hn
    obtain ⟨hmem, hkind⟩ := mem_select_iff.1 hselected
    obtain ⟨object, hobject, htext⟩ := object_of_isMemberOf hmember
    obtain ⟨name, hname, rfl⟩ := Option.map_eq_some_iff.1 haccess
    rw [(Property.isRead_ofChain name n.tree n.trail).name_eq]
    exact .access hmem (of_decide_eq_true hkind) hobject htext hname
  · obtain ⟨target, htarget, hf⟩ := List.mem_flatMap.1 h
    obtain ⟨n, hn, htaken⟩ := List.mem_filterMap.1 htarget
    obtain ⟨hmem, hkind⟩ := mem_select_iff.1 hn
    obtain ⟨hpattern, value, hvalue, htext⟩ := pattern_of_patternOf? htaken
    exact .key hmem (of_decide_eq_true hkind) hpattern hvalue htext
      (Property.shows_ofPattern_iff.1 (.self hf))

end Node

namespace Property

theorem mem_names_normalize {p : Property} (h : p.kind.isContainer = true) {name : String} :
    name ∈ p.normalize.children.map (·.name) ↔ name ∈ p.children.map (·.name) := by
  rw [normalize_children, arranged]
  split
  · simp
  · next hnamed =>
    have hpositional : p.kind.hasPositionalMembers = true := by
      simpa [PropKind.isContainer, hnamed] using h
    simp [hpositional]

end Property

namespace Completion

open Property

variable {component : Node} {names except : List String} {properties : List Property}

/-! ## One property of the list -/

/-- What a run makes of a property of the list: its members are completed, after its own lookup if it
has one. -/
theorem Invariant.getElem?_run_cases {s : State} {i : Nat} {p : Property}
    (h : Invariant component names except s) (hp : s.properties[i]? = some p) (budget : Nat) :
    ∃ base members, (Completion.run component budget s).properties[i]? =
        some { base with children := members } ∧
      Completes component (lookups component budget s) base.children members ∧
      (base = p ∨ base = outcome component p ∧ isOpen p = true ∧ Free names except [i]) := by
  fun_induction Completion.run component budget s generalizing p with
  | case1 => exact ⟨p, p.children, by rw [hp, eta], .refl _, .inl rfl⟩
  | case2 budget properties w rest resolved hkey ih =>
    rw [lookups_of_contains hkey]
    exact ih (h.dropFirst (by simpa using hkey) (List.Subset.refl _)) hp
  | case3 => exact ⟨p, p.children, by rw [hp, eta], .refl _, .inl rfl⟩
  | case4 properties w rest resolved hkey budget ih =>
    rw [lookups_succ hkey]
    by_cases hself : w.place = some [i]
    · -- the lookup for the property itself, after which only its members change
      have hw : w.property = p :=
        Option.some.inj ((h.held w List.mem_cons_self _ hself).symm.trans hp)
      obtain ⟨hat, hpassed⟩ := h.resolve_self hself
      obtain ⟨members, hmembers, hrun⟩ := h.resolve.run_of_passed hat hpassed budget
      rw [hw] at hmembers hrun
      exact ⟨_, members, hrun, hmembers.mono (List.subset_cons_self _ _), .inr
        ⟨rfl, hw ▸ h.allOpen w List.mem_cons_self, h.free w List.mem_cons_self _ hself⟩⟩
    · by_cases hbelow : ∃ place ∈ w.place, [i] <+: place
      · -- a lookup for a member, which the property itself no longer waits for
        obtain ⟨place, hplace, hprefix⟩ := hbelow
        have hpassed : Passed (w :: rest) [i] := by
          intro v hv y hy hyi
          rcases List.mem_cons.1 hv with rfl | hv
          · cases hplace.symm.trans hy
            exact hself (by rw [hplace, hprefix.eq_of_length_le hyi.length_le])
          · exact (List.pairwise_cons.1 h.ordered).1 v hv place hplace y hy (hyi.trans hprefix)
        have hhere : at? [i] properties = some p := hp
        obtain ⟨middle, hmiddle, hat, hlater⟩ := h.resolve_of_passed hhere hpassed
        obtain ⟨members, hmembers, hrun⟩ := h.resolve.run_of_passed hat hlater budget
        exact ⟨p, members, hrun, (hmiddle.mono (by simp)).trans
          (hmembers.mono (List.subset_cons_self _ _)), .inl rfl⟩
      · -- a lookup elsewhere
        have hsame : at? [i] (Completion.resolve component ⟨properties, rest, resolved⟩ w).properties =
            at? [i] properties := by
          refine at?_resolve_of_apart fun place hplace => ⟨fun hi => hbelow ⟨place, hplace, hi⟩, ?_⟩
          intro hi
          have hne := ne_nil_of_at? (h.held w List.mem_cons_self place hplace)
          have heq : place = [i] := hi.eq_of_length_le (List.length_pos_iff.2 hne)
          exact hself (heq ▸ hplace)
        obtain ⟨base, members, hrun, hmembers, hbase⟩ := ih h.resolve (hsame.trans hp)
        exact ⟨base, members, hrun, hmembers.mono (List.subset_cons_self _ _), hbase⟩

/-- The block that introduces the name of a property: one of the component over the bytes of its
scope, or the component itself if it has no such block. -/
def IntroducedBy (component : Node) (p : Property) (block : Node) : Prop :=
  (block ∈ blocks component ∧ p.scope = some block.span.toScope) ∨
    ((∀ b ∈ blocks component, p.scope ≠ some b.span.toScope) ∧ block = component)

theorem introducedBy_lookupBlock (component : Node) (p : Property) :
    IntroducedBy component p (lookupBlock component p) := by
  unfold lookupBlock blockNode blockOf
  cases hscope : p.scope with
  | none => exact .inr ⟨by simp [hscope], rfl⟩
  | some scope =>
      by_cases hany : ∃ b ∈ blocks component, b.span.toScope = scope
      · have hsome : ((blocks component).any fun b => b.span.toScope = scope) = true := by
          simpa using hany
        obtain ⟨b, hb, heq⟩ := hany
        have hne : ((blocks component).filter fun b => b.span.toScope = scope) ≠ [] :=
          List.ne_nil_of_mem (List.mem_filter.2 ⟨hb, decide_eq_true heq⟩)
        have hlast := List.getLast_mem hne
        rw [List.mem_filter, decide_eq_true_eq] at hlast
        refine .inl ?_
        simp only [Option.filter_some, hsome, if_true, List.getLast?_eq_some_getLast hne,
          Option.getD_some]
        exact ⟨hlast.1, by rw [hscope, hlast.2]⟩
      · refine .inr ⟨?_, ?_⟩
        · intro b hb heq
          rw [hscope] at heq
          exact hany ⟨b, hb, (Option.some.inj heq).symm⟩
        · have hnone : ((blocks component).any fun b => b.span.toScope = scope) = false := by
            simpa using hany
          simp [Option.filter_some, hnone]

structure Alike (p q : Property) : Prop where
  name_eq : q.name = p.name
  binding_eq : q.binding = p.binding
  scope_eq : q.scope = p.scope
  required_eq : q.required = p.required
  literal_eq : q.literal = p.literal
  defaultText_eq : q.defaultText = p.defaultText

theorem alike_normalize (p : Property) (kind : PropKind) (members : List Property) :
    Alike p ({ p with kind, children := members } : Property).normalize := by
  constructor <;> simp

/-- What is left of a property when the list is completed. -/
structure Conserves (component : Node) (except : List String) (p q : Property) : Prop
    extends Alike p q where
  /-- A property to be left alone is at most normalized. -/
  alone : p.name ∈ except → q = p ∨ q = p.normalize
  /-- A new kind is that of a called function without members, or a shape. -/
  kind : q.kind ≠ p.kind → p.name ∉ except ∧ (p.kind = .any ∨ p.kind = .shape) ∧
    ∃ b block, p.binding = some b ∧ b ≠ "" ∧ IntroducedBy component p block ∧
      (q.kind = .func ∧ q.children = [] ∧ (∃ n ∈ block.preorder, n.kind = .callExpression ∧
          ∃ callee, n.tree.childOf? .function .identifier = some callee ∧ callee.text = b) ∨
        q.kind = .shape)
  /-- No member is lost where there can be members. -/
  kept : q.kind.isContainer = true → ∀ c ∈ p.children, ∃ d ∈ q.children, d.name = c.name
  /-- Every new member is one of the name. -/
  new : ∀ d ∈ q.children, (∀ c ∈ p.children, c.name ≠ d.name) →
    ∃ b block, p.binding = some b ∧ IntroducedBy component p block ∧ block.ShowsMember b d.name

theorem conserves_self (component : Node) (except : List String) (p : Property) :
    Conserves component except p p where
  toAlike := ⟨rfl, rfl, rfl, rfl, rfl, rfl⟩
  alone := fun _ => .inl rfl
  kind := fun hne => (hne rfl).elim
  kept := fun _ c hc => ⟨c, hc, rfl⟩
  new := fun d hd hnew => (hnew d hd rfl).elim

/-- Completing the members of a property and normalizing it conserve it. -/
theorem conserves_normalize {p : Property} {members : List Property}
    (hmembers : members.map (·.name) = p.children.map (·.name))
    (halone : p.name ∈ except → members = p.children) :
    Conserves component except p ({ p with children := members } : Property).normalize where
  toAlike := alike_normalize p p.kind members
  alone := fun hname => .inr (by rw [halone hname, eta])
  kind := fun hne => (hne (by simp)).elim
  kept := by
    intro hcontainer c hc
    rw [normalize_kind] at hcontainer
    have hname : c.name ∈ members.map (·.name) := hmembers ▸ List.mem_map_of_mem hc
    exact List.mem_map.1 ((mem_names_normalize hcontainer).2 hname)
  new := by
    intro d hd hnew
    obtain ⟨m, hm, rfl⟩ := exists_of_mem_normalize_children hd
    have hname : m.name ∈ p.children.map (·.name) := hmembers ▸ List.mem_map_of_mem hm
    obtain ⟨c, hc, heq⟩ := List.mem_map.1 hname
    exact (hnew c hc (by rw [heq, normalize_name])).elim

theorem conserves_outcome {p : Property} {members : List Property} (hopen : isOpen p = true)
    (hfree : p.name ∉ except)
    (hmembers : members.map (·.name) = (outcome component p).children.map (·.name)) :
    Conserves component except p
      ({ outcome component p with children := members } : Property).normalize := by
  obtain ⟨b, hb, hne⟩ := binding_of_isOpen hopen
  have hblock := introducedBy_lookupBlock component p
  have halone : p.name ∈ except → members = p.children := fun hname => (hfree hname).elim
  by_cases hcalled : isCalled component p = true
  · rw [outcome_of_called hcalled] at hmembers ⊢
    have hcall : (lookupBlock component p).calls b = true := by
      rwa [isCalled, hb, Option.getD_some] at hcalled
    have hnil : ({ p with kind := .func, children := members } : Property).normalize.children = [] := by
      rw [normalize_children]
      rfl
    refine
      { toAlike := alike_normalize p .func members
        alone := fun hname => (hfree hname).elim
        kind := fun _ => ⟨hfree, kind_of_isOpen hopen, b, _, hb, hne, hblock, .inl
          ⟨by simp, hnil, Node.calls_iff.1 hcall⟩⟩
        kept := ?_
        new := ?_ }
    · intro hcontainer
      rw [normalize_kind] at hcontainer
      cases hcontainer
    · intro d hd
      rw [hnil] at hd
      cases hd
  · by_cases hsilent : evidence component p = []
    · rw [outcome_of_silent hcalled hsilent] at hmembers ⊢
      exact conserves_normalize hmembers halone
    · rw [outcome_of_evidence hcalled hsilent] at hmembers ⊢
      refine
        { toAlike := alike_normalize p .shape members
          alone := fun hname => (hfree hname).elim
          kind := fun _ => ⟨hfree, kind_of_isOpen hopen, b, _, hb, hne, hblock, .inr (by simp)⟩
          kept := ?_
          new := ?_ }
      · intro hcontainer c hc
        rw [normalize_kind] at hcontainer
        have hname : c.name ∈ members.map (·.name) :=
          hmembers ▸ mem_names_mergeLists.2 (.inl (List.mem_map_of_mem hc))
        exact List.mem_map.1 ((mem_names_normalize hcontainer).2 hname)
      · intro d hd hnew
        obtain ⟨m, hm, rfl⟩ := exists_of_mem_normalize_children hd
        rw [normalize_name] at hnew ⊢
        have hname : m.name ∈ (mergeLists .peer p.children (evidence component p)).map (·.name) :=
          hmembers ▸ List.mem_map_of_mem hm
        rcases mem_names_mergeLists.1 hname with hold | hfound
        · obtain ⟨c, hc, heq⟩ := List.mem_map.1 hold
          exact (hnew c hc heq).elim
        · obtain ⟨f, hf, heq⟩ := List.mem_map.1 hfound
          rw [evidence, hb, Option.getD_some] at hf
          exact ⟨b, _, hb, hblock, heq ▸ Node.showsMember_of_mem_membersOf hf⟩

theorem not_mem_of_free {i : Nat} {p : Property} (hp : properties[i]? = some p)
    (h : Free (properties.map (·.name)) except [i]) : p.name ∉ except := by
  obtain ⟨j, hj, name, hname, hfree⟩ := h
  cases hj
  rw [List.getElem?_map, hp] at hname
  cases hname
  exact hfree

/-- What the work leaves of a property conserves it once it is normalized. -/
theorem exists_conserves_final (component : Node) (except : List String) {i : Nat} {p : Property}
    (hp : properties[i]? = some p) :
    ∃ r, (final component properties except).properties[i]? = some r ∧
      Conserves component except p r.normalize := by
  have hstart := invariant_initial component properties except
  obtain ⟨base, members, hrun, hcompletes, rfl | ⟨rfl, hopen, hfree⟩⟩ :=
    hstart.getElem?_run_cases hp (budget component properties)
  · refine ⟨_, hrun, conserves_normalize hcompletes.map_name fun hname => ?_⟩
    have hnot : ¬ Free (properties.map (·.name)) except [i] :=
      fun hfree => not_mem_of_free hp hfree hname
    have hsame := Option.some.inj (hrun.symm.trans ((hstart.getElem?_run hnot _).trans hp))
    exact congrArg Property.children hsame
  · exact ⟨_, hrun, conserves_outcome hopen (not_mem_of_free hp hfree) hcompletes.map_name⟩

/-- Completing a list keeps its properties in their order and conserves each of them. -/
theorem forall₂_conserves_complete (component : Node) (properties : List Property)
    (except : List String) :
    List.Forall₂ (Conserves component except) properties
      (complete component properties except).properties := by
  unfold complete
  split
  · exact List.forall₂_same.2 fun p _ => conserves_self component except p
  · rw [List.forall₂_map_right_iff, List.forall₂_iff_get]
    refine ⟨?_, fun i hi hfinal => ?_⟩
    · have hnames := congrArg List.length (invariant_final component properties except).names_eq
      rw [List.length_map, List.length_map] at hnames
      exact hnames.symm
    · obtain ⟨r, hr, hconserves⟩ :=
        exists_conserves_final component except (List.getElem?_eq_getElem hi)
      rw [List.getElem?_eq_getElem hfinal] at hr
      rwa [← Option.some.inj hr] at hconserves

end Completion

end PropTyper
