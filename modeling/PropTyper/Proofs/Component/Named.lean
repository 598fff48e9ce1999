import PropTyper.Proofs.Component.Inferred
import PropTyper.Proofs.Component.Repeats
import PropTyper.Proofs.Evidence.Usage
import PropTyper.Reading.Analysis

/-! # Where the names of properties are spelled

A parser that mends a file puts in nodes that no bytes stand for, and a property can be named by such
a node. `Node.Names` says of a component's tree which nodes spell the names of its properties. A
property without a name is found exactly where one of them is empty: keys in quotes, declared types
and default values never give one.
-/

namespace PropTyper

/-! ## Spelling -/

namespace Tree

/-- The node that spells, without quotes, the name that one entry of a pattern takes out. -/
inductive SpelledBy (entry : Tree) : Tree → Prop
  | shorthand (h : entry.kind = .shorthandPropertyIdentifierPattern) : SpelledBy entry entry
  | shorthandDefault {left right : Tree} (h : entry.kind = .objectAssignmentPattern)
      (hleft : entry.childOf? .left .shorthandPropertyIdentifierPattern = some left)
      (hright : entry.child? .right = some right) : SpelledBy entry left
  | key {key value : Tree} {kind : PropKind} {inner : Option Tree} (h : entry.kind = .pairPattern)
      (hkey : entry.child? .key = some key) (hplain : key.kind.isPlainKey = true)
      (hvalue : entry.child? .value = some value) (htaken : value.TakenAs kind inner) :
      SpelledBy entry key

theorem keyName?_of_isPlainKey {key : Tree} (h : key.kind.isPlainKey = true) :
    key.keyName? = some key.text := by
  unfold keyName?
  by_cases hstring : key.kind = .string
  · rw [hstring] at h
    cases h
  · simp [hstring, h]

theorem isPlainKey_of_keyName?_empty {key : Tree} (h : key.keyName? = some "") :
    key.kind.isPlainKey = true := by
  unfold keyName? at h
  by_cases hstring : key.kind = .string
  · simp [hstring] at h
  · by_contra hplain
    simp [hstring, hplain] at h

theorem SpelledBy.takesOut {entry t : Tree} (h : entry.SpelledBy t) :
    ∃ kind inner, entry.TakesOut t.text kind inner := by
  cases h with
  | shorthand h => exact ⟨_, _, .shorthand h⟩
  | shorthandDefault h hleft hright => exact ⟨_, _, .shorthandDefault h hleft hright⟩
  | key h hkey hplain hvalue htaken =>
    refine ⟨_, _, .pair h ?_ hvalue htaken⟩
    rw [hkey]
    exact keyName?_of_isPlainKey hplain

theorem TakesOut.spelledBy {entry : Tree} {name : String} {kind : PropKind} {inner : Option Tree}
    (h : entry.TakesOut name kind inner) (hname : name = "") :
    ∃ t, entry.SpelledBy t ∧ t.text = "" := by
  cases h with
  | shorthand h => exact ⟨entry, .shorthand h, hname⟩
  | shorthandDefault h hleft hright => exact ⟨_, .shorthandDefault h hleft hright, hname⟩
  | pair h hkey hvalue htaken =>
    obtain ⟨key, hkey, hempty⟩ := Option.bind_eq_some_iff.1 hkey
    rw [hname] at hempty
    have hplain := isPlainKey_of_keyName?_empty hempty
    rw [keyName?_of_isPlainKey hplain] at hempty
    exact ⟨key, .key h hkey hplain hvalue htaken, Option.some.inj hempty⟩

/-- The nodes that spell the names which a pattern takes out, those of nested patterns apart. -/
def Spells (pattern t : Tree) : Prop :=
  ∃ entry ∈ pattern.namedChildren, entry.SpelledBy t

theorem takes_empty_iff {pattern : Tree} :
    (∃ kind, pattern.Takes [""] kind) ↔ ∃ t, pattern.Spells t ∧ t.text = "" := by
  constructor
  · rintro ⟨kind, h⟩
    cases h with
    | entry hentry h =>
      obtain ⟨t, hspelled, hempty⟩ := h.spelledBy rfl
      exact ⟨t, ⟨_, hentry, hspelled⟩, hempty⟩
    | nested hentry h hpath => cases hpath
  · rintro ⟨t, ⟨entry, hentry, hspelled⟩, hempty⟩
    obtain ⟨kind, inner, h⟩ := hspelled.takesOut
    rw [hempty] at h
    exact ⟨kind, .entry hentry h⟩

/-- The node that spells the name which a member access asks for. -/
def AsksBy (access t : Tree) : Prop :=
  access.child? .property = some t ∧ t.kind.isMemberName = true

theorem memberName?_eq_some_iff {access : Tree} {name : String} :
    access.memberName? = some name ↔ ∃ t, access.AsksBy t ∧ t.text = name := by
  unfold memberName? AsksBy
  simp [Option.filter_eq_some_iff]

end Tree

namespace Node

/-- The function that gets the properties of a component as its first parameter. -/
def ReceivesIn (c f : Node) : Prop :=
  if c.kind.isClass then Property.constructor? c = some f else f = c

/-- The names under which the properties of a component are known, each with where it is. -/
inductive KnownAs (c : Node) : Node → String → Prop
  | member (h : c.kind.isClass = true) : KnownAs c c Property.classIdentity
  | parameter {f p : Node} (h : c.ReceivesIn f) (hp : f.firstParameter? = some p)
      (hkind : p.kind = .identifier) : KnownAs c f p.text

/-- The nodes below `f` that spell names of properties which are known as `identity` there: in accesses
to them, and in patterns that take them apart. -/
inductive NamesUnder (f : Node) (identity : String) (t : Tree) : Prop
  | access {m : Node} (hm : m ∈ f.preorder) (hkind : m.kind = .memberExpression)
      (hobject : Text.withoutBlanks (m.tree.childText .object) = identity)
      (hname : m.tree.AsksBy t)
  | apart {d : Node} {pattern : Tree} (hd : d ∈ f.preorder)
      (hapart : d.TakesApart identity pattern) (hname : pattern.Spells t)

/-- The nodes that spell the names of a component's properties, which are known under a name or are
taken apart as a parameter. -/
inductive Names (c : Node) (t : Tree) : Prop
  | known {f : Node} {identity : String} (h : c.KnownAs f identity)
      (hname : f.NamesUnder identity t)
  | parameter {f p : Node} (h : c.ReceivesIn f) (hp : f.firstParameter? = some p)
      (hkind : p.kind = .objectPattern) (hname : p.tree.Spells t)

theorem readsUnder_empty_iff {f : Node} {identity : String} :
    (∃ kind, f.ReadsUnder identity [""] kind) ↔ ∃ t, f.NamesUnder identity t ∧ t.text = "" := by
  constructor
  · rintro ⟨kind, ⟨m, hm, hkind, hobject, hreads⟩ | ⟨d, hd, pattern, hapart, htakes⟩⟩
    · obtain ⟨t, hname, hempty⟩ := Tree.memberName?_eq_some_iff.1 hreads.memberName?_eq
      exact ⟨t, .access hm hkind hobject hname, hempty⟩
    · obtain ⟨t, hspells, hempty⟩ := Tree.takes_empty_iff.1 ⟨kind, htakes⟩
      exact ⟨t, .apart hd hapart hspells, hempty⟩
  · rintro ⟨t, hnames, hempty⟩
    cases hnames with
    | access hm hkind hobject hname =>
      have hmember := Tree.memberName?_eq_some_iff.2 ⟨t, hname, hempty⟩
      exact ⟨_, .inl ⟨_, hm, hkind, hobject, .access hmember⟩⟩
    | apart hd hapart hspells =>
      obtain ⟨kind, htakes⟩ := Tree.takes_empty_iff.2 ⟨t, hspells, hempty⟩
      exact ⟨kind, .inr ⟨_, hd, _, hapart, htakes⟩⟩

theorem uses_iff_receivesIn {c : Node} {path : List String} {kind : PropKind} :
    c.Uses path kind ↔
      (∃ f, c.ReceivesIn f ∧ f.UsesParameter path kind) ∨
        (c.kind.isClass = true ∧ c.ReadsUnder Property.classIdentity path kind) := by
  unfold Uses ReceivesIn
  by_cases hclass : c.kind.isClass = true
  · simp [hclass]
  · simp [hclass]

theorem uses_iff {c : Node} {path : List String} {kind : PropKind} :
    c.Uses path kind ↔
      (∃ f identity, c.KnownAs f identity ∧ f.ReadsUnder identity path kind) ∨
        ∃ f p, c.ReceivesIn f ∧ f.firstParameter? = some p ∧ p.kind = .objectPattern ∧
          p.tree.Takes path kind := by
  rw [uses_iff_receivesIn]
  constructor
  · rintro (⟨f, hf, p, hp, ⟨hkind, hreads⟩ | ⟨hkind, htakes⟩⟩ | ⟨hclass, hreads⟩)
    · exact .inl ⟨f, _, .parameter hf hp hkind, hreads⟩
    · exact .inr ⟨f, p, hf, hp, hkind, htakes⟩
    · exact .inl ⟨c, _, .member hclass, hreads⟩
  · rintro (⟨f, _, hknown, hreads⟩ | ⟨f, p, hf, hp, hkind, htakes⟩)
    · cases hknown with
      | member hclass => exact .inr ⟨hclass, hreads⟩
      | parameter hf hp hkind => exact .inl ⟨f, hf, _, hp, .inl ⟨hkind, hreads⟩⟩
    · exact .inl ⟨f, hf, p, hp, .inr ⟨hkind, htakes⟩⟩

/-- A component uses the empty name where an empty node spells a name. -/
theorem uses_empty_iff {c : Node} :
    (∃ kind, c.Uses [""] kind) ↔ ∃ t, c.Names t ∧ t.text = "" := by
  constructor
  · rintro ⟨kind, huses⟩
    rcases uses_iff.1 huses with ⟨f, identity, hknown, hreads⟩ | ⟨f, p, hf, hp, hkind, htakes⟩
    · obtain ⟨t, hname, hempty⟩ := readsUnder_empty_iff.1 ⟨kind, hreads⟩
      exact ⟨t, .known hknown hname, hempty⟩
    · obtain ⟨t, hspells, hempty⟩ := Tree.takes_empty_iff.1 ⟨kind, htakes⟩
      exact ⟨t, .parameter hf hp hkind hspells, hempty⟩
  · rintro ⟨t, hnames, hempty⟩
    cases hnames with
    | known hknown hname =>
      obtain ⟨kind, hreads⟩ := readsUnder_empty_iff.2 ⟨t, hname, hempty⟩
      exact ⟨kind, uses_iff.2 (.inl ⟨_, _, hknown, hreads⟩)⟩
    | parameter hf hp hkind hspells =>
      obtain ⟨kind, htakes⟩ := Tree.takes_empty_iff.2 ⟨t, hspells, hempty⟩
      exact ⟨kind, uses_iff.2 (.inr ⟨_, _, hf, hp, hkind, htakes⟩)⟩

/-! ## Inside the component -/

theorem Holds.spells {r : Node} {pattern t : Tree} (h : r.Holds pattern) (ht : pattern.Spells t) :
    r.Holds t := by
  obtain ⟨entry, hentry, hspelled⟩ := ht
  have hholds := h.child (Tree.mem_children_of_mem_namedChildren hentry)
  cases hspelled with
  | shorthand => exact hholds
  | shorthandDefault _ hleft _ =>
    exact hholds.child (Tree.mem_children_of_child? (Option.filter_eq_some_iff.1 hleft).1)
  | key _ hkey _ _ _ => exact hholds.child (Tree.mem_children_of_child? hkey)

theorem ReceivesIn.mem_preorder {c f : Node} (h : c.ReceivesIn f) : f ∈ c.preorder := by
  unfold ReceivesIn at h
  split at h
  · exact (Property.constructor?_spec h).1
  · rw [h]
    exact mem_preorder_self c

theorem KnownAs.mem_preorder {c f : Node} {identity : String} (h : c.KnownAs f identity) :
    f ∈ c.preorder := by
  cases h with
  | member => exact mem_preorder_self c
  | parameter h _ _ => exact h.mem_preorder

theorem NamesUnder.holds {f : Node} {identity : String} {t : Tree} (h : f.NamesUnder identity t) :
    f.Holds t := by
  cases h with
  | access hm _ _ hname => exact Holds.child ⟨_, hm, rfl⟩ (Tree.mem_children_of_child? hname.1)
  | apart hd hapart hspells =>
    have hpattern := (Option.filter_eq_some_iff.1 hapart.2.1).1
    exact (Holds.child ⟨_, hd, rfl⟩ (Tree.mem_children_of_child? hpattern)).spells hspells

theorem Names.holds {c : Node} {t : Tree} (h : c.Names t) : c.Holds t := by
  cases h with
  | known hknown hname => exact hname.holds.of_mem_preorder hknown.mem_preorder
  | parameter hf hp _ hspells =>
    exact Holds.spells ⟨_, firstParameter?_mem_preorder hf.mem_preorder hp, rfl⟩ hspells

end Node

/-! ## Declared types and default values -/

theorem Tree.ne_empty_of_mem_entries {object : Tree} {e : String × Tree}
    (h : e ∈ object.entries) : e.1 ≠ "" := by
  obtain ⟨entry, -, heq⟩ := List.mem_filterMap.1 h
  split at heq
  · split at heq
    · split at heq
      · cases heq
      · next hne =>
        cases heq
        exact hne
    · cases heq
  · cases heq

namespace Property

theorem name_ofParts? {name : String} {t : Tree} {parts : List Property} {p : Property}
    (hparts : t.kind = .memberExpression → ∀ q ∈ parts, q.name = name)
    (h : ofParts? name t parts = some p) : p.name = name := by
  unfold ofParts? at h
  split at h
  · split at h
    · cases h
    · split at h
      · cases h
        rfl
      · split at h
        · cases h
          rfl
        · split at h
          · cases h
            rfl
          · cases h
            rfl
        · split at h
          · cases h
            rfl
          · cases h
            rfl
  · next hkind =>
    split at h
    · obtain ⟨q, hq, rfl⟩ := Option.map_eq_some_iff.1 h
      exact hparts hkind q (List.mem_of_head? hq)
    · cases h
      rfl
  · obtain ⟨kind, -, rfl⟩ := Option.map_eq_some_iff.1 h
    rfl
  · cases h
    rfl
  · cases h
    rfl
  · cases h
    rfl
  · cases h

theorem name_ofValidator? {depth : Int} {name : String} {t : Tree} {p : Property}
    (h : ofValidator? depth name t = some p) : p.name = name := by
  rw [ofValidator?] at h
  split at h
  · cases h
    rfl
  · refine name_ofParts? ?_ h
    intro hkind q hq
    obtain ⟨⟨s, hs⟩, -, hsub⟩ := List.mem_filterMap.1 hq
    have hname : s.1 = name := by
      simp only [Tree.subvalidators, hkind] at hs
      split at hs
      · obtain ⟨o, -, rfl⟩ := List.mem_map.1 hs
        rfl
      · cases hs
    exact (name_ofValidator? hsub).trans hname
termination_by sizeOf t
decreasing_by exact Tree.sizeOf_subvalidator_lt hs

theorem name_ne_empty_of_mem_ofDeclaration {object : Option Tree} {p : Property}
    (h : p ∈ ofDeclaration object) : p.name ≠ "" := by
  obtain ⟨e, he, hp⟩ := List.mem_filterMap.1 h
  rw [name_ofValidator? hp]
  unfold declaredEntries at he
  split at he
  · cases he
  · split at he
    · exact Tree.ne_empty_of_mem_entries he
    · cases he

theorem name_ne_empty_of_mem_ofDefaults {object : Option Tree} {p : Property}
    (h : p ∈ ofDefaults object) : p.name ≠ "" := by
  unfold ofDefaults at h
  split at h
  · cases h
  · split at h
    · obtain ⟨e, he, rfl⟩ := List.mem_map.1 h
      exact Tree.ne_empty_of_mem_entries he
    · cases h

end Property

/-! ## Properties without a name -/

namespace Tree

def missingName (start : Nat) (role : Field) : Tree :=
  { piece .propertyIdentifier start start "" [role] with missing := true }

/-- The program `function F(p){p.a;p.}`, with an access that asks for nothing. -/
def unnamedAccess : Tree :=
  let target (start : Nat) := piece .identifier start (start + 1) "p" [.object]
  let named := piece .memberExpression 14 17 "p.a" [] [
    target 14, piece .propertyIdentifier 16 17 "a" [.property]]
  let unnamed := piece .memberExpression 18 20 "p." [] [target 18, missingName 20 .property]
  piece .program 0 21 "function F(p)\x7bp.a;p.\x7d" [] [
    piece .functionDeclaration 0 21 "function F(p)\x7bp.a;p.\x7d" [] [
      piece .identifier 9 10 "F" [.name],
      piece .formalParameters 10 13 "(p)" [.parameters] [piece .identifier 11 12 "p"],
      piece .statementBlock 13 21 "\x7bp.a;p.\x7d" [.body] [named, unnamed]]]

/-- The program `function F({a,:b}){}`, with a pair that has no key. -/
def unnamedKey : Tree :=
  let unnamed := piece .pairPattern 14 16 ":b" [] [
    missingName 14 .key, piece .identifier 15 16 "b" [.value]]
  piece .program 0 20 "function F(\x7ba,:b\x7d)\x7b\x7d" [] [
    piece .functionDeclaration 0 20 "function F(\x7ba,:b\x7d)\x7b\x7d" [] [
      piece .identifier 9 10 "F" [.name],
      piece .formalParameters 10 18 "(\x7ba,:b\x7d)" [.parameters] [
        piece .objectPattern 11 17 "\x7ba,:b\x7d" [] [
          piece .shorthandPropertyIdentifierPattern 12 13 "a", unnamed]],
      piece .statementBlock 18 20 "\x7b\x7d" [.body]]]

end Tree

namespace Analysis

def namesOfF (t : Tree) : Option (List String) :=
  (Analysis.read t.file "F" none).result.toOption.bind fun outcome =>
    outcome.toOption.map fun a => a.properties.map (·.name)

theorem exists_of_namesOfF {t : Tree} {names : List String} (h : namesOfF t = some names) :
    ∃ a, (Analysis.read t.file "F" none).result = .ok (.ok a) ∧
      a.properties.map (·.name) = names := by
  unfold namesOfF at h
  cases hread : (Analysis.read t.file "F" none).result with
  | error fault =>
    rw [hread] at h
    cases h
  | ok outcome =>
    rw [hread] at h
    cases outcome with
    | error failure => cases h
    | ok a => exact ⟨a, rfl, Option.some.inj h⟩

theorem namesOfF_unnamedAccess : namesOfF Tree.unnamedAccess = some ["", "a"] := by
  cbv

/-- A property without a name is found exactly if some node of the component that spells the name of
a property, without quotes, is empty. -/
theorem exists_unnamed_iff {d : Document} {name : String} {label : Option String} {a : Analysis}
    (ha : Analysis.of d name label = .ok a) :
    (∃ p ∈ a.properties, p.name = "") ↔
      ∃ t, a.component.Holds t ∧ a.component.Names t ∧ t.text = "" := by
  obtain ⟨component, hcomponent, rfl⟩ := Option.map_eq_some_iff.1 (locate?_of_eq_ok ha)
  have hused := Property.accounts_ofUsage (Node.kind_of_mem_component? hcomponent)
  have hsettles := Inference.settles_properties component
    (d.node.declaration? name (typesLabel label))
    (d.node.declaration? name Declaration.defaultPropsLabel)
  -- Of the three sources only the uses can have the empty name.
  have hsource : (∃ p ∈ (Inference.of component (d.node.declaration? name (typesLabel label))
      (d.node.declaration? name Declaration.defaultPropsLabel)).properties, p.name = "") ↔
      ∃ kind, component.Uses [""] kind := by
    rw [← List.mem_map, hsettles.names_iff]
    constructor
    · rintro (hdeclared | husage | hdefault)
      · obtain ⟨p, hp, hempty⟩ := List.mem_map.1 hdeclared
        exact absurd hempty (Property.name_ne_empty_of_mem_ofDeclaration hp)
      · obtain ⟨kind, hshows⟩ := Property.mem_names_iff.1 husage
        exact ⟨kind, hused.sound hshows⟩
      · obtain ⟨p, hp, hempty⟩ := List.mem_map.1 hdefault
        exact absurd hempty (Property.name_ne_empty_of_mem_ofDefaults hp)
    · rintro ⟨kind, huses⟩
      exact .inr (.inl (hused.complete huses))
  show (∃ p ∈ (Inference.of component _ _).properties, p.name = "") ↔ _
  rw [hsource, Node.uses_empty_iff]
  constructor
  · rintro ⟨t, hnames, hempty⟩
    exact ⟨t, hnames.holds, hnames, hempty⟩
  · rintro ⟨t, -, hnames, hempty⟩
    exact ⟨t, hnames, hempty⟩

theorem exists_unnamed_iff_unnamedAccess :
    ∃ a, Analysis.of Tree.unnamedAccess.file "F" none = .ok a ∧
      ∃ t, a.component.Holds t ∧ a.component.Names t ∧ t.text = "" := by
  obtain ⟨a, hread, hnames⟩ := exists_of_namesOfF namesOfF_unnamedAccess
  have ha : Analysis.of Tree.unnamedAccess.file "F" none = .ok a := (Reading.result_eq_ok_iff.1 hread).2
  have hempty : "" ∈ a.properties.map (·.name) := hnames ▸ List.mem_cons_self
  exact ⟨a, ha, (exists_unnamed_iff ha).1 (List.mem_map.1 hempty)⟩

/-- A property without a name is found where an access asks for nothing, and where a pair of a
pattern has no key. -/
theorem unnamed_access_key :
    (∃ a, (Analysis.read Tree.unnamedAccess.file "F" none).result = .ok (.ok a) ∧
        a.properties.map (·.name) = ["", "a"]) ∧
      ∃ a, (Analysis.read Tree.unnamedKey.file "F" none).result = .ok (.ok a) ∧
        a.properties.map (·.name) = ["", "a"] := by
  have hkey : namesOfF Tree.unnamedKey = some ["", "a"] := by cbv
  exact ⟨exists_of_namesOfF namesOfF_unnamedAccess, exists_of_namesOfF hkey⟩

end Analysis

end PropTyper
