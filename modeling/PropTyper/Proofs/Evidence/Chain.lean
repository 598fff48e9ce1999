import Mathlib.Data.List.Pairwise
import PropTyper.Proofs.Evidence.Usage

/-! # Chains of accesses

Where type and bytes tell the nodes of a tree apart, comparing them finds the node itself. A chain of
accesses then becomes one path of properties, as long as the chain of nodes is, and what stands around
its last node tells what the last property is.
-/

namespace PropTyper

namespace Node

/-- An access to a name that is written out, be it private; a computed access has none. -/
def AsksFor (m : Node) (name : String) : Prop :=
  m.kind = .memberExpression ∧
    ∃ property, m.child? .property = some property ∧ property.kind.isMemberName = true ∧
      property.text = name

structure StandsAs (m : Node) (field : Field) (around : Node) : Prop where
  parent : m.parent? = some around
  child : around.child? field = some m

/-- Accesses, each the object of the next one: the names before the last one, the last access and its
name. -/
inductive AccessChain : Node → List String → Node → String → Prop
  | last {m : Node} {name : String} (h : m.AsksFor name) : AccessChain m [] m name
  | outward {m outer last : Node} {first name : String} {names : List String} (h : m.AsksFor first)
      (hobject : m.StandsAs .object outer) (hchain : AccessChain outer names last name) :
      AccessChain m (first :: names) last name

theorem AccessChain.asksFor {m last : Node} {names : List String} {name : String}
    (h : AccessChain m names last name) : ∃ first, m.AsksFor first := by
  cases h with
  | last h => exact ⟨_, h⟩
  | outward h => exact ⟨_, h⟩

/-- No access to a name goes on from here. -/
def EndsChain (m : Node) : Prop :=
  ∀ outer name, m.StandsAs .object outer → ¬ outer.AsksFor name

end Node

namespace Property

def alongPath (names : List String) (p : Property) : Property :=
  names.foldr (fun name inner => { name, kind := .shape, children := [inner] }) p

/-- What the surroundings of an access tell about the property `name`. -/
inductive ReadAs (m : Node) (name : String) : Property → Prop
  | called {call : Node} (h : m.StandsAs .function call) (hkind : call.kind = .callExpression) :
      ReadAs m name { name, kind := .func }
  | bound {declarator target : Node} (h : m.StandsAs .value declarator)
      (hkind : declarator.kind = .variableDeclarator) (hname : declarator.child? .name = some target)
      (htarget : target.kind = .identifier) :
      ReadAs m name { name, binding := some target.text, scope := declarator.scope? }
  | apart {declarator target : Node} (h : m.StandsAs .value declarator)
      (hkind : declarator.kind = .variableDeclarator) (hname : declarator.child? .name = some target)
      (htarget : target.kind = .objectPattern) :
      ReadAs m name { name, kind := .shape, children := ofPattern target.scope? target.tree }
  | plain (hcall : ∀ call, m.StandsAs .function call → call.kind ≠ .callExpression)
      (hdeclared : ∀ declarator target, m.StandsAs .value declarator →
        declarator.kind = .variableDeclarator → declarator.child? .name = some target →
        target.kind ≠ .identifier ∧ target.kind ≠ .objectPattern) :
      ReadAs m name { name }

end Property

/-! ## Nodes that are told apart -/

namespace Node

variable {root m n around : Node} {field : Field} {name : String}

theorem memberName?_eq_some_iff :
    n.tree.memberName? = some name ↔
      ∃ property, n.child? .property = some property ∧ property.kind.isMemberName = true ∧
        property.text = name := by
  rw [Tree.memberName?, Option.map_eq_some_iff]
  constructor
  · rintro ⟨t, ht, rfl⟩
    obtain ⟨hchild, hkind⟩ := Option.filter_eq_some_iff.1 ht
    obtain ⟨c, hc, rfl⟩ := child?_eq_some_iff.1 hchild
    exact ⟨c, hc, hkind, rfl⟩
  · rintro ⟨c, hc, hkind, rfl⟩
    exact ⟨c.tree, Option.filter_eq_some_iff.2 ⟨child?_eq_some_iff.2 ⟨c, hc, rfl⟩, hkind⟩, rfl⟩

theorem asksFor_iff :
    m.AsksFor name ↔ m.kind = .memberExpression ∧ m.tree.memberName? = some name := by
  rw [AsksFor, memberName?_eq_some_iff]

theorem fieldIs_iff (hidentity : ∀ a ∈ root.preorder, ∀ b ∈ root.preorder, a.sameAs b = true → a = b)
    (hroot : root.trail = []) (hm : m ∈ root.preorder) (hparent : m.parent? = some around) :
    around.tree.fieldIs field m.tree = true ↔ m.StandsAs field around := by
  obtain ⟨haround, -⟩ := mem_children_of_parent? hroot hm hparent
  rw [Tree.fieldIs]
  constructor
  · intro h
    split at h
    · next t ht =>
      obtain ⟨c, hc, rfl⟩ := child?_eq_some_iff.1 ht
      have hmem := mem_preorder_of_mem_children haround (mem_children_of_child? hc)
      rw [hidentity c hmem m hm h] at hc
      exact ⟨hparent, hc⟩
    · cases h
  · intro h
    rw [child?_eq_some_iff.2 ⟨m, h.child, rfl⟩]
    simp [Tree.sameAs]

end Node

/-! ## Climbing a chain -/

namespace Property

open Node (StandsAs AsksFor AccessChain EndsChain)

variable {root m outer last : Node} {name next : String} {names : List String}

theorem ofChain_outward (hparent : m.parent? = some outer) (hkind : outer.kind = .memberExpression)
    (hobject : outer.tree.fieldIs .object m.tree = true) (hnext : outer.tree.memberName? = some next) :
    ofChain name m.tree m.trail =
      { name, kind := .shape, children := [ofChain next outer.tree outer.trail] } := by
  obtain ⟨t, trail⟩ := m
  cases trail with
  | nil => cases hparent
  | cons step rest =>
      cases hparent
      have hon : (step.parent.kind = .memberExpression && step.parent.fieldIs .object t) = true := by
        rw [Bool.and_eq_true, decide_eq_true_iff]
        exact ⟨hkind, hobject⟩
      dsimp only at hnext ⊢
      rw [ofChain, if_pos hon, hnext]

theorem ofChain_end
    (h : ∀ outer, m.parent? = some outer → outer.kind = .memberExpression →
      outer.tree.fieldIs .object m.tree = true → outer.tree.memberName? = none) :
    ofChain name m.tree m.trail = ofChainEnd name m.tree m.trail := by
  obtain ⟨t, trail⟩ := m
  cases trail with
  | nil => rfl
  | cons step rest =>
      dsimp only
      rw [ofChain]
      split
      · next hon =>
        rw [Bool.and_eq_true, decide_eq_true_iff] at hon
        rw [h _ rfl hon.1 hon.2]
      · rfl

theorem ReadAs.of_parent {around : Node} (hparent : m.parent? = some around)
    (hcall : m.StandsAs .function around → around.kind ≠ .callExpression)
    (hdeclared : ∀ target, m.StandsAs .value around → around.kind = .variableDeclarator →
      around.child? .name = some target →
      target.kind ≠ .identifier ∧ target.kind ≠ .objectPattern) : ReadAs m name { name } := by
  have honly : ∀ {field other}, m.StandsAs field other → other = around :=
    fun h => Option.some.inj (h.parent.symm.trans hparent)
  refine .plain (fun call h => ?_) fun declarator target h => ?_
  · cases honly h
    exact hcall h
  · cases honly h
    exact hdeclared target h

section Identity

variable (hroot : root.trail = [])
  (hidentity : ∀ a ∈ root.preorder, ∀ b ∈ root.preorder, a.sameAs b = true → a = b)

include hroot hidentity

theorem readAs_ofChainEnd (hm : m ∈ root.preorder) (name : String) :
    ReadAs m name (ofChainEnd name m.tree m.trail) := by
  have hfield : ∀ field around, m.parent? = some around →
      (around.tree.fieldIs field m.tree = true ↔ m.StandsAs field around) :=
    fun field around => Node.fieldIs_iff hidentity hroot hm
  obtain ⟨t, trail⟩ := m
  cases trail with
  | nil =>
      refine .plain (fun call h => ?_) (fun declarator target h => ?_)
      · cases h.parent
      · cases h.parent
  | cons step rest =>
      have hparent : Node.parent? ⟨t, step :: rest⟩ = some ⟨step.parent, rest⟩ := rfl
      rw [ofChainEnd]
      dsimp only
      split
      · next hcall =>
        rw [Bool.and_eq_true, decide_eq_true_iff] at hcall
        exact .called ((hfield _ _ hparent).1 hcall.2) hcall.1
      · next hcall =>
        rw [Bool.and_eq_true, decide_eq_true_iff] at hcall
        have hnotCalled : Node.StandsAs ⟨t, step :: rest⟩ .function ⟨step.parent, rest⟩ →
            Node.kind ⟨step.parent, rest⟩ ≠ .callExpression :=
          fun h hkind => hcall ⟨hkind, (hfield _ _ hparent).2 h⟩
        split
        · next hdeclared =>
          rw [Bool.and_eq_true, decide_eq_true_iff] at hdeclared
          have hvalue := (hfield _ _ hparent).1 hdeclared.2
          split
          · next hnone =>
            refine ReadAs.of_parent hparent hnotCalled fun target _ _ hname => ?_
            cases hnone.symm.trans (Node.child?_eq_some_iff.2 ⟨target, hname, rfl⟩)
          · next u hu =>
            obtain ⟨target, hname, rfl⟩ :=
              (Node.child?_eq_some_iff (n := ⟨step.parent, rest⟩)).1 hu
            split
            · next htarget => exact .bound hvalue hdeclared.1 hname htarget
            · next hidentifier =>
              split
              · next htarget =>
                -- a declaration bounds nothing, so its scope is that of the pattern
                have hscope : target.scope? = Node.scope? ⟨step.parent, rest⟩ := by
                  refine Node.scope?_of_mem_children (Node.mem_children_of_child? hname) ?_
                  rw [show Node.kind ⟨step.parent, rest⟩ = .variableDeclarator from hdeclared.1]
                  rfl
                rw [← hscope]
                exact .apart hvalue hdeclared.1 hname htarget
              · next hpattern =>
                refine ReadAs.of_parent hparent hnotCalled fun other _ _ hother => ?_
                cases hname.symm.trans hother
                exact ⟨hidentifier, hpattern⟩
        · next hdeclared =>
          rw [Bool.and_eq_true, decide_eq_true_iff] at hdeclared
          refine ReadAs.of_parent hparent hnotCalled fun target h hkind => ?_
          exact (hdeclared ⟨hkind, (hfield _ _ hparent).2 h⟩).elim

/-- A chain of accesses is climbed to its last node. -/
theorem ofAccess?_of_accessChain (hm : m ∈ root.preorder) (hchain : AccessChain m names last name)
    (hend : last.EndsChain) :
    ∃ p, ReadAs last name p ∧ ofAccess? m = some (alongPath names p) := by
  induction hchain with
  | @last m name hasks =>
      have hname := (Node.asksFor_iff.1 hasks).2
      refine ⟨_, readAs_ofChainEnd hroot hidentity hm name, ?_⟩
      rw [ofAccess?, hname, Option.map_some, ofChain_end]
      · rfl
      · intro outer hparent hkind hobject
        have hstands := (Node.fieldIs_iff hidentity hroot hm hparent).1 hobject
        cases hmember : outer.tree.memberName? with
        | none => rfl
        | some next => exact (hend outer next hstands (Node.asksFor_iff.2 ⟨hkind, hmember⟩)).elim
  | @outward m outer last first name names hasks hobject hchain ih =>
      obtain ⟨houter, -⟩ := Node.mem_children_of_parent? hroot hm hobject.parent
      obtain ⟨p, hread, haccess⟩ := ih houter hend
      obtain ⟨next, hnext⟩ := hchain.asksFor
      obtain ⟨hkind, hnext⟩ := Node.asksFor_iff.1 hnext
      have hfield := (Node.fieldIs_iff hidentity hroot hm hobject.parent).2 hobject
      rw [ofAccess?, hnext, Option.map_some, Option.some.injEq] at haccess
      refine ⟨p, hread, ?_⟩
      rw [ofAccess?, (Node.asksFor_iff.1 hasks).2, Option.map_some,
        ofChain_outward hobject.parent hkind hfield hnext, haccess]
      rfl

end Identity

theorem readAccess_result (hroot : root.trail = []) (htext : ∀ n ∈ root.preorder, n.tree.flaw = none)
    (hm : m ∈ root.preorder) (hkind : m.kind = .memberExpression) :
    (readAccess m).result = .ok (ofAccess? m) := by
  have hnone : (readAccess m).acts.findSome? Act.flaw? = none := by
    rw [List.findSome?_eq_none_iff]
    intro act hact
    obtain ⟨t, ht, rfl⟩ := List.mem_map.1 hact
    have hin : ∀ n ∈ root.preorder, n.kind = .memberExpression →
        ∀ p, n.parent? = some p → p ∈ root.preorder :=
      fun n hn _ p hp => (Node.mem_children_of_parent? hroot hn hp).1
    obtain ⟨n, hn, rfl⟩ := holds_accessNodes hin hm hkind t ht
    exact htext n hn
  rw [Reading.result, hnone]
  rfl

/-- In a whole tree with texts, whose nodes are told apart by their types and bytes, a chain of
accesses that cannot be continued is read as the path of its names. What the last access is used for
tells the last property, and a computed access to it tells nothing. -/
theorem readAccess_of_accessChain (hroot : root.trail = [])
    (htext : ∀ n ∈ root.preorder, n.tree.flaw = none)
    (hidentity : ∀ a ∈ root.preorder, ∀ b ∈ root.preorder, a.sameAs b = true → a = b)
    (hm : m ∈ root.preorder) (hchain : AccessChain m names last name) (hend : last.EndsChain) :
    ∃ p, ReadAs last name p ∧ (readAccess m).result = .ok (some (alongPath names p)) ∧
      ∀ outer, last.StandsAs .object outer → outer.kind = .memberExpression → p = { name } := by
  obtain ⟨p, hread, haccess⟩ := ofAccess?_of_accessChain hroot hidentity hm hchain hend
  obtain ⟨first, hfirst⟩ := hchain.asksFor
  refine ⟨p, hread, by rw [readAccess_result hroot htext hm hfirst.1, haccess], ?_⟩
  intro outer hobject hkind
  have hother : ∀ {field around}, last.StandsAs field around → around.kind = .memberExpression := by
    intro field around h
    rwa [Option.some.inj (h.parent.symm.trans hobject.parent)]
  cases hread with
  | called h hcall => cases hcall.symm.trans (hother h)
  | bound h hdeclared => cases hdeclared.symm.trans (hother h)
  | apart h hdeclared => cases hdeclared.symm.trans (hother h)
  | plain => rfl

end Property

/-! ## A chain that is taken apart -/

namespace Tree

/-- `props.user` in `const{city}=props.user.address`. -/
def accessOfUser : Tree :=
  piece .memberExpression 30 40 "props.user" [.object] [
    piece .identifier 30 35 "props" [.object], piece .propertyIdentifier 36 40 "user" [.property]]

def accessOfAddress : Tree :=
  piece .memberExpression 30 48 "props.user.address" [.value] [
    accessOfUser, piece .propertyIdentifier 41 48 "address" [.property]]

def takingCity : Tree :=
  piece .variableDeclarator 23 48 "\x7bcity\x7d=props.user.address" [] [
    piece .objectPattern 23 29 "\x7bcity\x7d" [.name] [
      piece .shorthandPropertyIdentifierPattern 24 28 "city"],
    accessOfAddress]

def bodyOfCity : Tree :=
  piece .statementBlock 17 49 "" [.body] [takingCity]

def functionOfCity : Tree :=
  piece .functionDeclaration 0 49 "" [] [
    piece .identifier 9 10 "A" [.name],
    piece .formalParameters 10 17 "(props)" [.parameters] [piece .identifier 11 16 "props"],
    bodyOfCity]

end Tree

namespace Node

theorem eq_of_pairwise {same : Node → Node → Bool} (hsymm : ∀ a b, same a b = same b a)
    {nodes : List Node} (h : nodes.Pairwise fun a b => same a b = false) :
    ∀ a ∈ nodes, ∀ b ∈ nodes, same a b = true → a = b := by
  intro a ha b hb hsame
  have : Std.Symm fun a b => same a b = false := ⟨fun a b hab => hsymm b a ▸ hab⟩
  by_contra hne
  rw [h.forall ha hb hne] at hsame
  cases hsame

theorem sameAs_comm (a b : Node) : a.sameAs b = b.sameAs a := by
  simp only [sameAs, Tree.sameAs, eq_comm]

def cityFunction : Node :=
  ⟨.functionOfCity, []⟩

def cityBody : Node :=
  ⟨.bodyOfCity, ⟨.functionOfCity, 2⟩ :: cityFunction.trail⟩

def cityDeclaration : Node :=
  ⟨.takingCity, [⟨.bodyOfCity, 0⟩, ⟨.functionOfCity, 2⟩]⟩

def addressAccess : Node :=
  ⟨.accessOfAddress, ⟨.takingCity, 1⟩ :: cityDeclaration.trail⟩

def userAccess : Node :=
  ⟨.accessOfUser, ⟨.accessOfAddress, 0⟩ :: addressAccess.trail⟩

theorem userAccess_mem_preorder : userAccess ∈ cityFunction.preorder := by
  have hbody : cityBody ∈ cityFunction.preorder :=
    mem_preorder_of_mem_children (mem_preorder_self _) (mem_children_iff.2 ⟨2, _, rfl, rfl⟩)
  have hdeclaration : cityDeclaration ∈ cityFunction.preorder :=
    mem_preorder_of_mem_children hbody (mem_children_iff.2 ⟨0, _, rfl, rfl⟩)
  have haddress : addressAccess ∈ cityFunction.preorder :=
    mem_preorder_of_mem_children hdeclaration (mem_children_iff.2 ⟨1, _, rfl, rfl⟩)
  exact mem_preorder_of_mem_children haddress (mem_children_iff.2 ⟨0, _, rfl, rfl⟩)

end Node

namespace Property

open Node (userAccess addressAccess cityDeclaration cityFunction)

/-- The pattern goes below the path of the accesses. -/
theorem readAccess_userAccess :
    userAccess.AccessChain ["user"] addressAccess "address" ∧ addressAccess.EndsChain ∧
      (readAccess userAccess).result = .ok (some
        { name := "user", kind := .shape
          children := [
            { name := "address", kind := .shape
              children := [
                { name := "city", binding := some "city", scope := some ⟨17, 49⟩ }] }] }) := by
  have hpairwise : cityFunction.preorder.Pairwise fun a b => a.sameAs b = false := by
    apply of_decide_eq_true
    cbv
  have htexts : (cityFunction.preorder.all fun n => n.tree.flaw.isNone) = true := by
    decide +kernel
  have hchain : userAccess.AccessChain ["user"] addressAccess "address" :=
    .outward ⟨rfl, _, rfl, rfl, rfl⟩ ⟨rfl, rfl⟩ (.last ⟨rfl, _, rfl, rfl, rfl⟩)
  have hend : addressAccess.EndsChain := by
    intro outer name hobject hasks
    cases hobject.parent
    cases hasks.1
  obtain ⟨p, hread, hresult, -⟩ := readAccess_of_accessChain rfl
    (fun n hn => Option.isNone_iff_eq_none.1 (List.all_eq_true.1 htexts n hn))
    (Node.eq_of_pairwise Node.sameAs_comm hpairwise) Node.userAccess_mem_preorder hchain hend
  refine ⟨hchain, hend, ?_⟩
  rw [hresult]
  cases hread with
  | called h hcall =>
      cases h.parent
      cases hcall
  | bound h hkind hname htarget =>
      cases h.parent
      cases hname
      cases htarget
  | apart h hkind hname htarget =>
      cases h.parent
      cases hname
      cbv
  | plain hcall hdeclared =>
      exact ((hdeclared cityDeclaration _ ⟨rfl, rfl⟩ rfl rfl).2 rfl).elim

end Property

end PropTyper
