import PropTyper.Proofs.Evidence.Chain
import PropTyper.Proofs.Evidence.Sources

/-! # The block of a binding

A local name that holds a property comes from a pattern or a declaration in the component, and the
scope that is kept with it is the one around that place. Merging swaps names and scopes only together.
So where the blocks of a component are told apart by their bytes, each name is looked up in the block
that introduces it, and never in the component as a whole.
-/

namespace PropTyper

namespace Tree

inductive BindsAs (value : Tree) : String → Prop
  | renamed (h : value.kind = .identifier) : BindsAs value value.text
  | renamedDefault {left right : Tree} (h : value.kind = .assignmentPattern)
      (hleft : value.child? .left = some left) (hkind : left.kind = .identifier)
      (hright : value.child? .right = some right) : BindsAs value left.text

/-- The property that an entry of a pattern takes out, and the identifier that it binds to it. -/
inductive Binds (entry : Tree) : String → String → Prop
  | shorthand (h : entry.kind = .shorthandPropertyIdentifierPattern) :
      Binds entry entry.text entry.text
  | shorthandDefault {left right : Tree} (h : entry.kind = .objectAssignmentPattern)
      (hleft : entry.childOf? .left .shorthandPropertyIdentifierPattern = some left)
      (hright : entry.child? .right = some right) : Binds entry left.text left.text
  | pair {name binding : String} {value : Tree} (h : entry.kind = .pairPattern)
      (hname : (entry.child? .key).bind (·.keyName?) = some name)
      (hvalue : entry.child? .value = some value) (hbinds : value.BindsAs binding) :
      Binds entry name binding

end Tree

namespace Node

/-- The pattern or declaration binds a property to an identifier. -/
inductive Introduces (source : Node) : String → String → Prop
  | pattern {entry : Tree} {name binding : String} (h : source.kind = .objectPattern)
      (hentry : entry ∈ source.tree.namedChildren) (hbinds : entry.Binds name binding) :
      Introduces source name binding
  | declaration {target access : Node} {name : String} (h : source.kind = .variableDeclarator)
      (htarget : source.child? .name = some target) (hkind : target.kind = .identifier)
      (haccess : access ∈ source.children) (hmember : access.kind = .memberExpression)
      (hname : access.tree.memberName? = some name)
      (hvalue : source.tree.fieldIs .value access.tree = true) : Introduces source name target.text

/-- Both bound where names can be seen, over the same bytes. -/
def isSameBlock (a b : Node) : Bool :=
  a.kind.isScope && b.kind.isScope && a.span = b.span

theorem isSameBlock_iff {a b : Node} :
    a.isSameBlock b = true ↔ a.kind.isScope = true ∧ b.kind.isScope = true ∧ a.span = b.span := by
  rw [isSameBlock, Bool.and_eq_true, Bool.and_eq_true, decide_eq_true_iff, and_assoc]

theorem isSameBlock_comm (a b : Node) : a.isSameBlock b = b.isSameBlock a := by
  rw [isSameBlock, isSameBlock, Bool.and_comm a.kind.isScope]
  simp only [eq_comm]

theorem Introduces.kind_cases {source : Node} {name binding : String}
    (h : source.Introduces name binding) :
    source.kind = .objectPattern ∨ source.kind = .variableDeclarator := by
  cases h with
  | pattern h => exact .inl h
  | declaration h => exact .inr h

end Node

namespace Property

/-- The name that holds a property, and the scope that is kept with it, are those of a pattern or a
declaration in `c`. -/
def IntroducedIn (c : Node) (q : Property) : Prop :=
  ∀ b, q.binding = some b →
    ∃ source ∈ c.preorder, source.Introduces q.name b ∧ q.scope = source.scope?

variable {c n : Node} {q p : Property} {scope : Option Scope} {name : String}

theorem persistsOn_introducedIn (c : Node) :
    PersistsOn (fun q p => q.name = p.name) (IntroducedIn c) where
  of_name := id
  normalize := by
    intro q hq
    simpa [IntroducedIn] using hq
  mergeWith := by
    intro members mode base other hname hbase hother b hb
    rw [mergeWith_binding] at hb
    rw [mergeWith_name, mergeWith_scope]
    split at hb
    · next hfilled =>
      rw [if_pos hfilled]
      exact hbase b hb
    · next hfilled =>
      rw [if_neg hfilled, hname]
      exact hother b hb

theorem introducedIn_of_unbound (h : q.binding = none) : IntroducedIn c q := by
  intro b hb
  rw [h] at hb
  cases hb

theorem everywhere_introducedIn_leaf (hq : IntroducedIn c q) (h : q.children = []) :
    Everywhere (IntroducedIn c) q :=
  everywhere_iff.2 ⟨hq, by simp [h]⟩

/-! ## Patterns -/

theorem bindsAs_of_ofPatternValue? {value : Tree} (h : ofPatternValue? scope name value = some p)
    {b : String} (hb : p.binding = some b) :
    p.name = name ∧ value.BindsAs b ∧ p.scope = scope := by
  rw [ofPatternValue?] at h
  split at h
  · next hkind =>
    cases h
    cases hb
    exact ⟨rfl, .renamed hkind, rfl⟩
  · cases h
    cases hb
  · next hkind =>
    split at h
    · next left right hleft hright =>
      split at h
      · next hleftKind =>
        cases h
        cases hb
        exact ⟨rfl, .renamedDefault hkind hleft hleftKind hright, rfl⟩
      · cases h
        cases hb
      · cases h
    · cases h
  · cases h

theorem binds_of_ofPatternItem? {entry : Tree} (h : ofPatternItem? scope entry = some p)
    {b : String} (hb : p.binding = some b) : entry.Binds p.name b ∧ p.scope = scope := by
  rw [ofPatternItem?] at h
  split at h
  · next hkind =>
    cases h
    cases hb
    exact ⟨.shorthand hkind, rfl⟩
  · next hkind =>
    split at h
    · next left right hleft hright =>
      cases h
      cases hb
      exact ⟨.shorthandDefault hkind hleft hright, rfl⟩
    · cases h
  · next hkind =>
    split at h
    · next name value hname hvalue =>
      obtain ⟨rfl, hbinds, hscope⟩ := bindsAs_of_ofPatternValue? h hb
      exact ⟨.pair hkind hname hvalue hbinds, hscope⟩
    · cases h
  · cases h

theorem exists_inner {e : Node} (hn : n.kind = .objectPattern) (he : e ∈ n.children) {inner : Tree}
    {kind : PropKind} (h : e.tree.TakesOut name kind (some inner)) :
    ∃ i ∈ e.preorder, i.tree = inner ∧ i.kind = .objectPattern ∧ i.scope? = n.scope? ∧
      sizeOf i.tree < sizeOf e.tree := by
  cases h with
  | pair hpair _ hvalue htaken =>
      obtain ⟨v, hv, rfl⟩ := Node.child?_eq_some_iff.1 hvalue
      have hv := Node.mem_children_of_child? hv
      have hinside := Node.mem_preorder_of_mem_children (Node.mem_preorder_self e) hv
      have hscope : v.scope? = n.scope? := by
        rw [Node.scope?_of_mem_children hv (by rw [show e.kind = _ from hpair]; rfl),
          Node.scope?_of_mem_children he (by rw [hn]; rfl)]
      have hlt := Node.sizeOf_child_lt hv
      cases htaken with
      | apart hkind => exact ⟨v, hinside, rfl, hkind, hscope, hlt⟩
      | apartDefault hkind hleft hleftKind _ =>
          obtain ⟨l, hl, rfl⟩ := Node.child?_eq_some_iff.1 hleft
          have hl := Node.mem_children_of_child? hl
          refine ⟨l, Node.mem_preorder_of_mem_children hinside hl, rfl, hleftKind, ?_,
            Nat.lt_trans (Node.sizeOf_child_lt hl) hlt⟩
          rw [Node.scope?_of_mem_children hl (by rw [show v.kind = _ from hkind]; rfl), hscope]

theorem introducedIn_ofPattern {c n : Node} (hn : n ∈ c.preorder) (hkind : n.kind = .objectPattern) :
    ∀ p ∈ ofPattern n.scope? n.tree, Everywhere (IntroducedIn c) p := by
  intro p hp
  obtain ⟨entry, hentry, heq⟩ := mem_ofPattern_iff.1 hp
  obtain ⟨name, kind, inner, htaken, -, -, hchildren⟩ := isTaken_of_ofPatternItem? heq
  have hself : IntroducedIn c p := by
    intro b hb
    obtain ⟨hbinds, hscope⟩ := binds_of_ofPatternItem? heq hb
    exact ⟨n, hn, .pattern hkind hentry hbinds, hscope⟩
  cases inner with
  | none => exact everywhere_introducedIn_leaf hself hchildren
  | some inner =>
      have hmem := Tree.mem_children_of_mem_namedChildren hentry
      rw [← Node.map_tree_children] at hmem
      obtain ⟨e, he, rfl⟩ := List.mem_map.1 hmem
      obtain ⟨i, hi, rfl, hikind, hscope, hlt⟩ := exists_inner hkind he htaken
      have hsmaller : sizeOf i.tree < sizeOf n.tree := Nat.lt_trans hlt (Node.sizeOf_child_lt he)
      refine everywhere_iff.2 ⟨hself, ?_⟩
      rw [hchildren.trans (List.flatMap_singleton ..), ← hscope]
      exact introducedIn_ofPattern
        (Node.mem_preorder_trans (Node.mem_preorder_of_mem_children hn he) hi) hikind
termination_by sizeOf n.tree

/-! ## Accesses -/

theorem introducedIn_ofChainEnd {t : Tree} {step : Step} {rest : List Step}
    (haround : ⟨step.parent, rest⟩ ∈ c.preorder)
    (hchild : ⟨t, step :: rest⟩ ∈ Node.children ⟨step.parent, rest⟩)
    (hkind : t.kind = .memberExpression) (hname : t.memberName? = some name) :
    Everywhere (IntroducedIn c) (ofChainEnd name t (step :: rest)) := by
  have hunbound : ∀ kind, Everywhere (IntroducedIn c) { name, kind } := fun kind =>
    everywhere_introducedIn_leaf (introducedIn_of_unbound rfl) rfl
  unfold ofChainEnd
  dsimp only
  split
  · exact hunbound .func
  · split
    · next hdeclared =>
      rw [Bool.and_eq_true, decide_eq_true_iff] at hdeclared
      split
      · exact hunbound .any
      · next u hu =>
        obtain ⟨target, htarget, rfl⟩ := (Node.child?_eq_some_iff (n := ⟨step.parent, rest⟩)).1 hu
        split
        · next hidentifier =>
          refine everywhere_introducedIn_leaf ?_ rfl
          intro b hb
          cases hb
          exact ⟨_, haround,
            .declaration hdeclared.1 htarget hidentifier hchild hkind hname hdeclared.2, rfl⟩
        · split
          · next hpattern =>
            have hmem := Node.mem_children_of_child? htarget
            have hscope : Node.scope? ⟨step.parent, rest⟩ = target.scope? := by
              refine (Node.scope?_of_mem_children hmem ?_).symm
              rw [show Node.kind ⟨step.parent, rest⟩ = .variableDeclarator from hdeclared.1]
              rfl
            refine everywhere_iff.2 ⟨introducedIn_of_unbound rfl, ?_⟩
            rw [hscope]
            exact introducedIn_ofPattern (Node.mem_preorder_of_mem_children haround hmem) hpattern
          · exact hunbound .any
    · exact hunbound .any

theorem introducedIn_ofChain (hc : c.kind ≠ .memberExpression) {t : Tree} {trail : List Step}
    (hn : ⟨t, trail⟩ ∈ c.preorder) (hkind : t.kind = .memberExpression)
    (hname : t.memberName? = some name) : Everywhere (IntroducedIn c) (ofChain name t trail) := by
  induction trail generalizing t name with
  | nil => exact everywhere_introducedIn_leaf (introducedIn_of_unbound rfl) rfl
  | cons step rest ih =>
      rcases Node.eq_or_mem_children hn with rfl | ⟨around, haround, hchild⟩
      · exact (hc hkind).elim
      · cases Node.parent?_of_mem_children hchild
        unfold ofChain
        split
        · next hon =>
          rw [Bool.and_eq_true, decide_eq_true_iff] at hon
          split
          · next member hmember =>
            refine everywhere_iff.2 ⟨introducedIn_of_unbound rfl, ?_⟩
            intro p hp
            rw [List.mem_singleton.1 hp]
            exact ih haround hon.1 hmember
          · exact introducedIn_ofChainEnd haround hchild hkind hname
        · exact introducedIn_ofChainEnd haround hchild hkind hname

theorem meets_introducedIn (hc : c.kind ≠ .memberExpression) : c.Meets (IntroducedIn c) where
  pattern := introducedIn_ofPattern
  access := by
    intro n hn hkind p hp
    obtain ⟨name, hname, rfl⟩ := Option.map_eq_some_iff.1 hp
    exact introducedIn_ofChain hc hn hkind hname

theorem introducedIn_ofUsage (hc : c.kind ≠ .memberExpression) :
    ∀ p ∈ ofUsage c, Everywhere (IntroducedIn c) p :=
  (meets_introducedIn hc).ofUsage
    (fun _ _ _ => (persistsOn_introducedIn c).everywhere_mergeLists) (Node.mem_preorder_self c)

end Property

/-! ## The block that is looked through -/

theorem Kind.isScope_of_isFunction {kind : Kind} (h : kind.isFunction = true) :
    kind.isScope = true := by
  unfold isScope
  split
  · rfl
  · rfl
  · exact h

theorem Span.toScope_injective {a b : Span} (h : a.toScope = b.toScope) : a = b := by
  obtain ⟨start, stop⟩ := a
  obtain ⟨start', stop'⟩ := b
  injection h with hstart hstop
  cases Int.ofNat.inj hstart
  cases Int.ofNat.inj hstop
  rfl

namespace Completion

open Property

/-- The name `b` that holds a property is looked up in the innermost block around the pattern or
declaration in the component that binds it. -/
def HasOwnBlock (component : Node) (p : Property) (b : String) : Prop :=
  ∃ source ∈ component.preorder, source.Introduces p.name b ∧
    ∃ block ∈ component.preorder, source.enclosingScope? = some block ∧
      p.scope = some block.span.toScope ∧
      (keyOf component p).block = some block.span.toScope ∧
      blockNode component (keyOf component p).block = block

variable {component block : Node} {p : Property}

theorem mem_blocks_iff : block ∈ blocks component ↔
    block ∈ component.preorder ∧ block.kind.isScope = true :=
  Node.mem_select_iff

/-- A block of the component is found by its bytes, if no other has the same. -/
theorem blockNode_of_mem_blocks
    (hblocks : ∀ a ∈ component.preorder, ∀ b ∈ component.preorder, a.isSameBlock b = true → a = b)
    (hblock : block ∈ blocks component) :
    blockNode component (some block.span.toScope) = block := by
  have hmem : block ∈ (blocks component).filter fun b => b.span.toScope = block.span.toScope :=
    List.mem_filter.2 ⟨hblock, decide_eq_true rfl⟩
  rw [blockNode]
  cases hlast : ((blocks component).filter fun b => b.span.toScope = block.span.toScope).getLast? with
  | none =>
      rw [List.getLast?_eq_none_iff.1 hlast] at hmem
      cases hmem
  | some found =>
      obtain ⟨hfound, hspan⟩ := List.mem_filter.1 (List.mem_of_getLast? hlast)
      obtain ⟨hin, hscope⟩ := mem_blocks_iff.1 hfound
      obtain ⟨hin', hscope'⟩ := mem_blocks_iff.1 hblock
      refine hblocks found hin block hin' (Node.isSameBlock_iff.2 ⟨hscope, hscope', ?_⟩)
      exact Span.toScope_injective (of_decide_eq_true hspan)

theorem blockOf_of_mem_blocks (hp : p.scope = some block.span.toScope)
    (hblock : block ∈ blocks component) : blockOf component p = some block.span.toScope := by
  rw [blockOf, hp, Option.filter_some, if_pos]
  exact List.any_eq_true.2 ⟨block, hblock, decide_eq_true rfl⟩

theorem hasOwnBlock_of_introducedIn (hcomponent : component.kind.isFunction = true)
    (hblocks : ∀ a ∈ component.preorder, ∀ b ∈ component.preorder, a.isSameBlock b = true → a = b)
    (hp : IntroducedIn component p) {b : String} (hb : p.binding = some b) : HasOwnBlock component p b := by
  obtain ⟨source, hsource, hintroduces, hscope⟩ := hp b hb
  have hne : source ≠ component := by
    rintro rfl
    rcases hintroduces.kind_cases with hkind | hkind <;> rw [hkind] at hcomponent <;> cases hcomponent
  obtain ⟨block, hin, henclosing⟩ :=
    Node.exists_enclosingScope? (Kind.isScope_of_isFunction hcomponent) hsource hne
  have hblock : block ∈ blocks component := mem_blocks_iff.2
    ⟨hin, List.find?_some (p := fun a : Node => a.kind.isScope) henclosing⟩
  rw [Node.scope?, henclosing, Option.map_some] at hscope
  have hkey : (keyOf component p).block = some block.span.toScope :=
    blockOf_of_mem_blocks hscope hblock
  refine ⟨source, hsource, hintroduces, block, hin, henclosing, hscope, hkey, ?_⟩
  rw [hkey, blockNode_of_mem_blocks hblocks hblock]

/-- In a function whose nodes have texts and whose blocks are told apart by their bytes, every name
that holds a property at any depth is looked up in its own block. -/
theorem readUsage_hasOwnBlock (hcomponent : component.kind.isFunction = true)
    (htext : ∀ n ∈ component.preorder, n.tree.flaw = none)
    (hblocks : ∀ a ∈ component.preorder, ∀ b ∈ component.preorder, a.isSameBlock b = true → a = b) :
    ∃ used, (readUsage component).result = .ok used ∧
      ∀ top ∈ used, top.Everywhere fun p => ∀ b, p.binding = some b → HasOwnBlock component p b := by
  have hkind : component.kind ≠ .memberExpression := by
    intro hkind
    rw [hkind] at hcomponent
    cases hcomponent
  refine ⟨ofUsage component, readUsage_result hkind htext, fun top htop p hp b hb => ?_⟩
  exact hasOwnBlock_of_introducedIn hcomponent hblocks (introducedIn_ofUsage hkind top htop p hp) hb

end Completion

namespace Tree

def blockOfU (start : Nat) (name : String) : Tree :=
  piece .statementBlock start (start + 20) "" [] [
    piece .variableDeclarator (start + 7) (start + 19) "" [] [
      piece .identifier (start + 7) (start + 8) "u" [.name],
      piece .memberExpression (start + 9) (start + 19) ("props." ++ name) [.value] [
        piece .identifier (start + 9) (start + 14) "props" [.object],
        piece .propertyIdentifier (start + 15) (start + 19) name [.property]]]]

def functionOfU : Tree :=
  piece .functionDeclaration 0 59 "" [] [
    piece .identifier 9 10 "A" [.name],
    piece .formalParameters 10 17 "(props)" [.parameters] [piece .identifier 11 16 "props"],
    piece .statementBlock 17 59 "" [.body] [blockOfU 18 "user", blockOfU 38 "item"]]

end Tree

namespace Completion

open Property

def heldByU : List Property :=
  [{ name := "user", binding := some "u", scope := some ⟨18, 38⟩ },
    { name := "item", binding := some "u", scope := some ⟨38, 58⟩ }]

theorem readUsage_functionOfU :
    (readUsage ⟨.functionOfU, []⟩).result = .ok heldByU ∧
      ∀ p ∈ heldByU, HasOwnBlock ⟨.functionOfU, []⟩ p "u" := by
  have hresult : (readUsage ⟨.functionOfU, []⟩).result = .ok heldByU := by cbv
  have htexts : ((Node.mk .functionOfU []).preorder.all fun n => n.tree.flaw.isNone) = true := by
    decide +kernel
  have hpairwise : (Node.mk .functionOfU []).preorder.Pairwise fun a b => a.isSameBlock b = false := by
    apply of_decide_eq_true
    cbv
  have hfunction : (Node.mk .functionOfU []).kind.isFunction = true := rfl
  obtain ⟨used, hused, hown⟩ := readUsage_hasOwnBlock hfunction
    (fun n hn => Option.isNone_iff_eq_none.1 (List.all_eq_true.1 htexts n hn))
    (Node.eq_of_pairwise Node.isSameBlock_comm hpairwise)
  cases hresult.symm.trans hused
  refine ⟨hresult, fun p hp => (everywhere_iff.1 (hown p hp)).1 "u" ?_⟩
  have hall : ∀ p ∈ heldByU, p.binding = some "u" := by decide
  exact hall p hp

end Completion

end PropTyper
