import PropTyper.Completion
import PropTyper.Proofs.Property.Normalize
import PropTyper.Proofs.Tree.Walk

/-! # What a block can show about a name

Accesses and patterns name members, bind some of them, and know nothing of literals or of what is
required. `Observed` says so of one property; it holds of everything that `membersOf` finds, and
every name that is bound there is an identifier of the tree. `Meets` is what any such condition has
to meet: that it holds of what patterns and accesses show.
-/

namespace PropTyper

namespace Node

def identifiers (r : Node) : List String :=
  (r.select fun kind =>
    kind = .identifier || kind = .shorthandPropertyIdentifierPattern).map (·.text)

/-- The tree of a node at or below `r`. -/
def Holds (r : Node) (t : Tree) : Prop :=
  ∃ n ∈ r.preorder, n.tree = t

theorem Holds.child {r : Node} {t c : Tree} (h : r.Holds t) (hc : c ∈ t.children) : r.Holds c := by
  obtain ⟨n, hn, rfl⟩ := h
  rw [← map_tree_children] at hc
  obtain ⟨m, hm, rfl⟩ := List.mem_map.1 hc
  exact ⟨m, mem_preorder_of_mem_children hn hm, rfl⟩

theorem Holds.text_mem {r : Node} {t : Tree} (h : r.Holds t)
    (hkind : t.kind = .identifier ∨ t.kind = .shorthandPropertyIdentifierPattern) :
    t.text ∈ r.identifiers := by
  obtain ⟨n, hn, rfl⟩ := h
  refine List.mem_map.2 ⟨n, mem_select_iff.2 ⟨hn, ?_⟩, rfl⟩
  rw [Bool.or_eq_true]
  exact hkind.imp decide_eq_true decide_eq_true

end Node

theorem Tree.valueKind_isContainer (t : Tree) : t.valueKind.isContainer = false := by
  fun_induction Tree.valueKind t with
  | case1 => assumption
  | _ => rfl

namespace Property

structure Observed (names : List String) (q : Property) : Prop where
  binding_mem : ∀ b ∈ q.binding, b ∈ names
  kind_eq : q.kind.isContainer = true → q.kind = .shape
  children_eq : q.kind ≠ .shape → q.children = []
  required_eq : q.required = false
  literal_eq : q.literal = none
  scope_eq : q.binding = none → q.scope = none

theorem observed_leaf {names : List String} {q : Property} (hkind : q.kind.isContainer = false)
    (hchildren : q.children = []) (hrequired : q.required = false) (hliteral : q.literal = none)
    (hscope : q.binding = none → q.scope = none) (hbinding : ∀ b ∈ q.binding, b ∈ names) :
    Everywhere (Observed names) q := by
  refine everywhere_iff.2 ⟨⟨hbinding, ?_, fun _ => hchildren, hrequired, hliteral, hscope⟩,
    by simp [hchildren]⟩
  intro hcontainer
  rw [hkind] at hcontainer
  cases hcontainer

theorem observed_shape {names : List String} {name : String} {children : List Property}
    {defaultText : Option String} (h : ∀ c ∈ children, Everywhere (Observed names) c) :
    Everywhere (Observed names) { name, kind := .shape, children, defaultText } := by
  refine everywhere_iff.2
    ⟨⟨?_, fun _ => rfl, fun hkind => (hkind rfl).elim, rfl, rfl, fun _ => rfl⟩, h⟩
  intro b hb
  cases hb

theorem observed_bound {names : List String} {name b : String} {scope : Option Scope}
    {kind : PropKind} {defaultText : Option String} (hkind : kind.isContainer = false)
    (h : b ∈ names) :
    Everywhere (Observed names) { name, binding := some b, scope, kind, defaultText } := by
  refine observed_leaf hkind rfl rfl rfl ?_ ?_
  · intro hnone
    cases hnone
  · intro c hc
    cases hc
    exact h

theorem observed_unbound {names : List String} {name : String} {kind : PropKind}
    {defaultText : Option String} (hkind : kind.isContainer = false) :
    Everywhere (Observed names) { name, kind, defaultText } := by
  refine observed_leaf hkind rfl rfl rfl (fun _ => rfl) ?_
  intro b hb
  cases hb

variable {r : Node}

mutual

theorem observed_ofPattern {scope : Option Scope} {pattern : Tree} (h : r.Holds pattern) :
    ∀ p ∈ ofPattern scope pattern, Everywhere (Observed r.identifiers) p := by
  intro p hp
  rw [ofPattern] at hp
  obtain ⟨⟨entry, hentry⟩, -, heq⟩ := List.mem_filterMap.1 hp
  have hchild := Tree.mem_children_of_mem_namedChildren hentry
  exact observed_ofPatternItem? (h.child hchild) p heq
termination_by (sizeOf pattern, 0)
decreasing_by
  exact Prod.Lex.left _ _ (Tree.sizeOf_child_lt hchild)

theorem observed_ofPatternItem? {scope : Option Scope} {entry : Tree} (h : r.Holds entry) :
    ∀ p, ofPatternItem? scope entry = some p → Everywhere (Observed r.identifiers) p := by
  intro p hp
  rw [ofPatternItem?] at hp
  split at hp
  · next hkind =>
    cases hp
    exact observed_bound rfl (h.text_mem (.inr hkind))
  · split at hp
    · next left right hleft hright =>
      cases hp
      obtain ⟨hleft, hkind⟩ := Option.filter_eq_some_iff.1 hleft
      have hleft := h.child (Tree.mem_children_of_child? hleft)
      exact observed_bound (Tree.valueKind_isContainer right)
        (hleft.text_mem (.inr (by simpa using hkind)))
    · cases hp
  · split at hp
    · next name value hname hvalue =>
      have hchild := Tree.mem_children_of_child? hvalue
      exact observed_ofPatternValue? (h.child hchild) p hp
    · cases hp
  · cases hp
termination_by (sizeOf entry, 0)
decreasing_by
  exact Prod.Lex.left _ _ (Tree.sizeOf_child_lt hchild)

theorem observed_ofPatternValue? {scope : Option Scope} {name : String} {value : Tree}
    (h : r.Holds value) :
    ∀ p, ofPatternValue? scope name value = some p → Everywhere (Observed r.identifiers) p := by
  intro p hp
  rw [ofPatternValue?] at hp
  split at hp
  · next hkind =>
    cases hp
    exact observed_bound rfl (h.text_mem (.inl hkind))
  · cases hp
    exact observed_shape (observed_ofPattern h)
  · split at hp
    · next left right hleft hright =>
      have hchild := Tree.mem_children_of_child? hleft
      split at hp
      · next hkind =>
        cases hp
        exact observed_bound (Tree.valueKind_isContainer right)
          ((h.child hchild).text_mem (.inl hkind))
      · cases hp
        exact observed_shape (observed_ofPattern (h.child hchild))
      · cases hp
    · cases hp
  · cases hp
termination_by (sizeOf value, 1)
decreasing_by
  · exact Prod.Lex.right _ Nat.zero_lt_one
  · exact Prod.Lex.left _ _ (Tree.sizeOf_child_lt hchild)

end

/-! ## Accesses -/

theorem observed_ofChainEnd {name : String} {t : Tree} {trail : List Step}
    (h : ∀ n ∈ Node.ofTrail trail, r.Holds n.tree) :
    Everywhere (Observed r.identifiers) (ofChainEnd name t trail) := by
  cases trail with
  | nil => exact observed_unbound rfl
  | cons step rest =>
      have hparent : r.Holds step.parent := h ⟨step.parent, rest⟩ List.mem_cons_self
      unfold ofChainEnd
      dsimp only
      split
      · exact observed_unbound rfl
      · split
        · split
          · exact observed_unbound rfl
          · next target htarget =>
            have hchild := hparent.child (Tree.mem_children_of_child? htarget)
            split
            · next hkind => exact observed_bound rfl (hchild.text_mem (.inl hkind))
            · split
              · exact observed_shape (observed_ofPattern hchild)
              · exact observed_unbound rfl
        · exact observed_unbound rfl

theorem observed_ofChain {name : String} {t : Tree} {trail : List Step}
    (h : ∀ n ∈ Node.ofTrail trail, r.Holds n.tree) :
    Everywhere (Observed r.identifiers) (ofChain name t trail) := by
  induction trail generalizing name t with
  | nil => exact observed_ofChainEnd h
  | cons step rest ih =>
      unfold ofChain
      split
      · split
        · next member hmember =>
          refine observed_shape ?_
          intro c hc
          rw [List.mem_singleton.1 hc]
          exact ih fun n hn => h n (List.mem_cons_of_mem _ hn)
        · exact observed_ofChainEnd h
      · exact observed_ofChainEnd h

end Property

namespace Node

/-- All that the patterns and accesses of `c` show meets the condition at every depth. -/
structure Meets (c : Node) (P : Property → Prop) : Prop where
  pattern : ∀ {n : Node}, n ∈ c.preorder → n.kind = .objectPattern →
    ∀ p ∈ Property.ofPattern n.scope? n.tree, p.Everywhere P
  access : ∀ {n : Node}, n ∈ c.preorder → n.kind = .memberExpression →
    ∀ p, Property.ofAccess? n = some p → p.Everywhere P

theorem Meets.membersOf {c block : Node} {P : Property → Prop} (h : c.Meets P)
    (hblock : block ∈ c.preorder) (binding : String) :
    ∀ p ∈ block.membersOf binding, p.Everywhere P := by
  intro p hp
  rcases List.mem_append.1 hp with hp | hp
  · obtain ⟨n, hn, heq⟩ := List.mem_filterMap.1 hp
    obtain ⟨hn, hkind⟩ := mem_select_iff.1 (List.mem_filter.1 hn).1
    exact h.access (mem_preorder_trans hblock hn) (of_decide_eq_true hkind) p heq
  · obtain ⟨pattern, hpattern, hp⟩ := List.mem_flatMap.1 hp
    obtain ⟨n, hn, heq⟩ := List.mem_filterMap.1 hpattern
    have hn : n ∈ c.preorder := mem_preorder_trans hblock (mem_select_iff.1 hn).1
    unfold patternOf? at heq
    split at heq
    · next target value htarget hvalue =>
      split at heq
      · next htaken =>
        cases heq
        rw [Bool.and_eq_true, decide_eq_true_iff] at htaken
        have hmem := mem_preorder_of_mem_children hn (List.mem_of_find?_eq_some htarget)
        exact h.pattern hmem htaken.1 p hp
      · cases heq
    · cases heq

/-- A whole tree shows observed properties. -/
theorem meets_observed {r : Node} (hr : r.trail = []) :
    r.Meets (Property.Observed r.identifiers) where
  pattern := fun hn _ => Property.observed_ofPattern ⟨_, hn, rfl⟩
  access := by
    intro n hn _ p hp
    obtain ⟨name, -, rfl⟩ := Option.map_eq_some_iff.1 hp
    exact Property.observed_ofChain fun a ha => ⟨a, ancestors_mem_preorder hr hn a ha, rfl⟩

end Node

end PropTyper
