import PropTyper.Evidence.Usage
import PropTyper.Proofs.Property.Paths
import PropTyper.Proofs.Tree.Spans

/-! # What patterns and accesses read

Which paths of names a pattern takes out and which ones a chain of accesses reads is said of the
tree alone, together with the kind that the last entry or access shows by itself. The properties
that are made of patterns and chains have these paths and no others.
-/

namespace PropTyper

/-! ## Patterns -/

namespace Tree

/-- What the value of a pair in a pattern shows about the property: its kind, and the pattern that
takes it apart further. -/
inductive TakenAs (value : Tree) : PropKind → Option Tree → Prop
  | renamed (h : value.kind = .identifier) : TakenAs value .any none
  | apart (h : value.kind = .objectPattern) : TakenAs value .shape (some value)
  | renamedDefault {left right : Tree} (h : value.kind = .assignmentPattern)
      (hleft : value.child? .left = some left) (hkind : left.kind = .identifier)
      (hright : value.child? .right = some right) : TakenAs value right.valueKind none
  | apartDefault {left right : Tree} (h : value.kind = .assignmentPattern)
      (hleft : value.child? .left = some left) (hkind : left.kind = .objectPattern)
      (hright : value.child? .right = some right) : TakenAs value .shape (some left)

/-- The property that one entry of a pattern takes out, with its kind and the pattern that takes it
apart further. -/
inductive TakesOut (entry : Tree) : String → PropKind → Option Tree → Prop
  | shorthand (h : entry.kind = .shorthandPropertyIdentifierPattern) :
      TakesOut entry entry.text .any none
  | shorthandDefault {left right : Tree} (h : entry.kind = .objectAssignmentPattern)
      (hleft : entry.childOf? .left .shorthandPropertyIdentifierPattern = some left)
      (hright : entry.child? .right = some right) :
      TakesOut entry left.text right.valueKind none
  | pair {name : String} {value : Tree} {kind : PropKind} {inner : Option Tree}
      (h : entry.kind = .pairPattern)
      (hname : (entry.child? .key).bind (·.keyName?) = some name)
      (hvalue : entry.child? .value = some value) (htaken : value.TakenAs kind inner) :
      TakesOut entry name kind inner

/-- The paths that a pattern takes out, through the patterns nested in it. -/
inductive Takes : Tree → List String → PropKind → Prop
  | entry {pattern entry : Tree} {name : String} {kind : PropKind} {inner : Option Tree}
      (hentry : entry ∈ pattern.namedChildren) (h : entry.TakesOut name kind inner) :
      Takes pattern [name] kind
  | nested {pattern entry inner : Tree} {name : String} {taken kind : PropKind}
      {path : List String} (hentry : entry ∈ pattern.namedChildren)
      (h : entry.TakesOut name taken (some inner)) (hpath : Takes inner path kind) :
      Takes pattern (name :: path) kind

end Tree

namespace Property

variable {scope : Option Scope} {pattern entry value : Tree} {name : String} {p : Property}
  {path : List String} {kind : PropKind} {inner : Option Tree}

structure IsTaken (scope : Option Scope) (name : String) (kind : PropKind) (inner : Option Tree)
    (p : Property) : Prop where
  name_eq : p.name = name
  kind_eq : p.kind = kind
  children_eq : p.children = inner.toList.flatMap (ofPattern scope)

theorem isTaken_of_ofPatternValue? (h : ofPatternValue? scope name value = some p) :
    ∃ kind inner, value.TakenAs kind inner ∧ IsTaken scope name kind inner p := by
  rw [ofPatternValue?] at h
  split at h
  · next hkind =>
    cases h
    exact ⟨_, _, .renamed hkind, rfl, rfl, rfl⟩
  · next hkind =>
    cases h
    exact ⟨_, _, .apart hkind, rfl, rfl, (List.flatMap_singleton ..).symm⟩
  · next hkind =>
    split at h
    · next left right hleft hright =>
      split at h
      · next hleftKind =>
        cases h
        exact ⟨_, _, .renamedDefault hkind hleft hleftKind hright, rfl, rfl, rfl⟩
      · next hleftKind =>
        cases h
        exact ⟨_, _, .apartDefault hkind hleft hleftKind hright, rfl, rfl,
          (List.flatMap_singleton ..).symm⟩
      · cases h
    · cases h
  · cases h

theorem exists_ofPatternValue? (scope : Option Scope) (name : String)
    (h : value.TakenAs kind inner) :
    ∃ p, ofPatternValue? scope name value = some p ∧ IsTaken scope name kind inner p := by
  rw [ofPatternValue?]
  cases h with
  | renamed h =>
      rw [h]
      exact ⟨_, rfl, rfl, rfl, rfl⟩
  | apart h =>
      rw [h]
      exact ⟨_, rfl, rfl, rfl, (List.flatMap_singleton ..).symm⟩
  | renamedDefault h hleft hkind hright =>
      simp only [h]
      split
      · next left right hleft' hright' =>
        cases hleft.symm.trans hleft'
        cases hright.symm.trans hright'
        rw [hkind]
        exact ⟨_, rfl, rfl, rfl, rfl⟩
      · next hnone => exact (hnone _ _ hleft hright).elim
  | apartDefault h hleft hkind hright =>
      simp only [h]
      split
      · next left right hleft' hright' =>
        cases hleft.symm.trans hleft'
        cases hright.symm.trans hright'
        rw [hkind]
        exact ⟨_, rfl, rfl, rfl, (List.flatMap_singleton ..).symm⟩
      · next hnone => exact (hnone _ _ hleft hright).elim

theorem isTaken_of_ofPatternItem? (h : ofPatternItem? scope entry = some p) :
    ∃ name kind inner, entry.TakesOut name kind inner ∧ IsTaken scope name kind inner p := by
  rw [ofPatternItem?] at h
  split at h
  · next hkind =>
    cases h
    exact ⟨_, _, _, .shorthand hkind, rfl, rfl, rfl⟩
  · next hkind =>
    split at h
    · next left right hleft hright =>
      cases h
      exact ⟨_, _, _, .shorthandDefault hkind hleft hright, rfl, rfl, rfl⟩
    · cases h
  · next hkind =>
    split at h
    · next name value hname hvalue =>
      obtain ⟨kind, inner, htaken, hp⟩ := isTaken_of_ofPatternValue? h
      exact ⟨_, _, _, .pair hkind hname hvalue htaken, hp⟩
    · cases h
  · cases h

theorem exists_ofPatternItem? (scope : Option Scope) (h : entry.TakesOut name kind inner) :
    ∃ p, ofPatternItem? scope entry = some p ∧ IsTaken scope name kind inner p := by
  rw [ofPatternItem?]
  cases h with
  | shorthand h =>
      rw [h]
      exact ⟨_, rfl, rfl, rfl, rfl⟩
  | shorthandDefault h hleft hright =>
      rw [h, hleft, hright]
      exact ⟨_, rfl, rfl, rfl, rfl⟩
  | pair h hname hvalue htaken =>
      simp only [h]
      split
      · next name value hname' hvalue' =>
        cases hname.symm.trans hname'
        cases hvalue.symm.trans hvalue'
        exact exists_ofPatternValue? scope _ htaken
      · next hnone => exact (hnone _ _ hname hvalue).elim

theorem mem_ofPattern_iff :
    p ∈ ofPattern scope pattern ↔
      ∃ entry ∈ pattern.namedChildren, ofPatternItem? scope entry = some p := by
  rw [ofPattern, List.mem_filterMap]
  constructor
  · rintro ⟨⟨entry, hentry⟩, -, heq⟩
    exact ⟨entry, hentry, heq⟩
  · rintro ⟨entry, hentry, heq⟩
    exact ⟨⟨entry, hentry⟩, List.mem_attach .., heq⟩

/-- The properties of a pattern have the paths that the pattern takes out. -/
theorem shows_ofPattern_iff : Shows (ofPattern scope pattern) path kind ↔ pattern.Takes path kind := by
  constructor
  · intro h
    generalize hlist : ofPattern scope pattern = list at h
    induction h generalizing pattern with
    | self hp =>
        obtain ⟨entry, hentry, heq⟩ := mem_ofPattern_iff.1 (hlist ▸ hp)
        obtain ⟨name, kind, inner, htaken, hname, hkind, -⟩ := isTaken_of_ofPatternItem? heq
        rw [hname, hkind]
        exact .entry hentry htaken
    | member hp hpath ih =>
        obtain ⟨entry, hentry, heq⟩ := mem_ofPattern_iff.1 (hlist ▸ hp)
        obtain ⟨name, kind, inner, htaken, hname, -, hchildren⟩ := isTaken_of_ofPatternItem? heq
        rw [hname]
        cases inner with
        | none =>
            rw [hchildren] at hpath
            exact (not_shows_nil hpath).elim
        | some inner =>
            refine .nested hentry htaken (ih ?_)
            rw [hchildren]
            exact (List.flatMap_singleton ..).symm
  · intro h
    induction h with
    | entry hentry htaken =>
        obtain ⟨p, heq, hname, hkind, -⟩ := exists_ofPatternItem? scope htaken
        rw [← hname, ← hkind]
        exact .self (mem_ofPattern_iff.2 ⟨_, hentry, heq⟩)
    | nested hentry htaken hpath ih =>
        obtain ⟨p, heq, hname, -, hchildren⟩ := exists_ofPatternItem? scope htaken
        rw [← hname]
        refine .member (mem_ofPattern_iff.2 ⟨_, hentry, heq⟩) ?_
        rw [hchildren]
        exact ih.mono fun _ hmem => List.mem_flatMap.2 ⟨_, List.mem_cons_self, hmem⟩

end Property

/-! ## Accesses -/

namespace Node

/-- The kind that an access shows by what stands around it: it goes on, is called or is taken
apart. -/
def kindRead (n : Node) : PropKind :=
  match n.parent? with
  | none => .any
  | some around =>
    if around.kind = .memberExpression && around.tree.fieldIs .object n.tree &&
        around.tree.memberName?.isSome then .shape
    else if around.kind = .callExpression && around.tree.fieldIs .function n.tree then .func
    else if around.kind = .variableDeclarator && around.tree.fieldIs .value n.tree &&
        (around.tree.childOf? .name .objectPattern).isSome then .shape
    else .any

/-- The paths that an access reads inside `c`: its own name, and what is read or taken out of the
access as a whole. -/
inductive Reads (c : Node) : Node → List String → PropKind → Prop
  | access {n : Node} {name : String} (hname : n.tree.memberName? = some name) :
      Reads c n [name] n.kindRead
  | chain {n m : Node} {name : String} {path : List String} {kind : PropKind}
      (hname : n.tree.memberName? = some name) (hm : m ∈ c.preorder) (hparent : n.parent? = some m)
      (hkind : m.kind = .memberExpression) (hobject : m.tree.fieldIs .object n.tree = true)
      (hpath : Reads c m path kind) : Reads c n (name :: path) kind
  | apart {n d : Node} {pattern : Tree} {name : String} {path : List String} {kind : PropKind}
      (hname : n.tree.memberName? = some name) (hd : d ∈ c.preorder) (hparent : n.parent? = some d)
      (hkind : d.kind = .variableDeclarator) (hvalue : d.tree.fieldIs .value n.tree = true)
      (hpattern : d.tree.childOf? .name .objectPattern = some pattern)
      (hpath : pattern.Takes path kind) : Reads c n (name :: path) kind

theorem parent?_mem_preorder {c n p : Node} (hn : n ∈ c.preorder) (hne : n.kind ≠ c.kind)
    (hp : n.parent? = some p) : p ∈ c.preorder := by
  rcases eq_or_mem_children hn with rfl | ⟨q, hq, hnq⟩
  · exact (hne rfl).elim
  · cases hp.symm.trans (parent?_of_mem_children hnq)
    exact hq

end Node

namespace Property

/-- What a chain says of the name that is read at `t`: the kind that the access shows, and members
only from the access or the declaration around it. -/
structure IsRead (name : String) (t : Tree) (trail : List Step) (p : Property) : Prop where
  name_eq : p.name = name
  kind_eq : p.kind = Node.kindRead ⟨t, trail⟩
  children_cases : p.children = [] ∨ ∃ step rest, trail = step :: rest ∧
    ((step.parent.kind = .memberExpression ∧ step.parent.fieldIs .object t = true ∧
        ∃ member, step.parent.memberName? = some member ∧
          p.children = [ofChain member step.parent rest]) ∨
      (step.parent.kind = .variableDeclarator ∧ step.parent.fieldIs .value t = true ∧
        ∃ scope pattern, step.parent.childOf? .name .objectPattern = some pattern ∧
          p.children = ofPattern scope pattern))

theorem isRead_ofChainEnd {name : String} {t : Tree} {step : Step} {rest : List Step}
    (hend : (step.parent.kind = .memberExpression && step.parent.fieldIs .object t &&
      step.parent.memberName?.isSome) = false) :
    IsRead name t (step :: rest) (ofChainEnd name t (step :: rest)) := by
  have hread : Node.kindRead ⟨t, step :: rest⟩ =
      if step.parent.kind = .callExpression && step.parent.fieldIs .function t then .func
      else if step.parent.kind = .variableDeclarator && step.parent.fieldIs .value t &&
        (step.parent.childOf? .name .objectPattern).isSome then .shape
      else .any := if_neg (Bool.eq_false_iff.1 hend)
  unfold ofChainEnd
  dsimp only
  split
  · next hcall => exact ⟨rfl, by rw [hread, if_pos hcall], .inl rfl⟩
  · next hcall =>
    rw [if_neg hcall] at hread
    split
    · next hdeclared =>
      rw [hdeclared, Bool.true_and] at hread
      split
      · next hnone => exact ⟨rfl, by simp [hread, Tree.childOf?, hnone], .inl rfl⟩
      · next target htarget =>
        split
        · next hkind => exact ⟨rfl, by simp [hread, Tree.childOf?, htarget, hkind], .inl rfl⟩
        · split
          · next hkind =>
            have hpattern : step.parent.childOf? .name .objectPattern = some target := by
              simp [Tree.childOf?, htarget, hkind]
            rw [Bool.and_eq_true] at hdeclared
            exact ⟨rfl, by simp [hread, hpattern], .inr ⟨step, rest, rfl, .inr
              ⟨of_decide_eq_true hdeclared.1, hdeclared.2, _, target, hpattern, rfl⟩⟩⟩
          · next hkind => exact ⟨rfl, by simp [hread, Tree.childOf?, htarget, hkind], .inl rfl⟩
    · next hdeclared =>
      rw [Bool.not_eq_true] at hdeclared
      exact ⟨rfl, by simp [hread, hdeclared], .inl rfl⟩

theorem isRead_ofChain (name : String) (t : Tree) (trail : List Step) :
    IsRead name t trail (ofChain name t trail) := by
  unfold ofChain
  split
  · exact ⟨rfl, rfl, .inl rfl⟩
  · next step rest =>
    split
    · next hon =>
      split
      · next member hmember =>
        have hgoes : (step.parent.kind = .memberExpression && step.parent.fieldIs .object t &&
            step.parent.memberName?.isSome) = true := by
          rw [hon, hmember]
          rfl
        rw [Bool.and_eq_true] at hon
        exact ⟨rfl, (if_pos hgoes).symm, .inr ⟨step, rest, rfl, .inl
          ⟨of_decide_eq_true hon.1, hon.2, member, hmember, rfl⟩⟩⟩
      · next hnone => exact isRead_ofChainEnd (by rw [hnone]; exact Bool.and_false _)
    · next hon =>
      rw [Bool.not_eq_true] at hon
      exact isRead_ofChainEnd (by rw [hon, Bool.false_and])

/-- A chain of accesses in `c` shows the paths that are read there. -/
theorem reads_of_shows_ofChain {c : Node} {name : String} {t : Tree} {trail : List Step}
    {path : List String} {kind : PropKind} (hc : c.kind ≠ .memberExpression)
    (hn : ⟨t, trail⟩ ∈ c.preorder) (hkind : t.kind = .memberExpression)
    (hname : t.memberName? = some name) (h : Shows [ofChain name t trail] path kind) :
    c.Reads ⟨t, trail⟩ path kind := by
  obtain ⟨hread, hshown, hchildren⟩ := isRead_ofChain name t trail
  rcases shows_singleton.1 h with ⟨rfl, rfl⟩ | ⟨rest, rfl, hrest⟩
  · rw [hread, hshown]
    exact .access hname
  · rw [hread]
    rcases hchildren with hnone | ⟨step, above, htrail, haround⟩
    · rw [hnone] at hrest
      exact (not_shows_nil hrest).elim
    · have hshorter : above.length < trail.length := by
        rw [htrail]
        exact Nat.lt_succ_self _
      have hparent : Node.parent? ⟨t, trail⟩ = some ⟨step.parent, above⟩ := by
        rw [htrail]
        rfl
      have hinside : ⟨step.parent, above⟩ ∈ c.preorder :=
        Node.parent?_mem_preorder hn (fun heq => hc (heq.symm.trans hkind)) hparent
      rcases haround with ⟨haround, hobject, member, hmember, hone⟩ |
        ⟨haround, hvalue, scope, pattern, hpattern, hmany⟩
      · rw [hone] at hrest
        exact .chain hname hinside hparent haround hobject
          (reads_of_shows_ofChain hc hinside haround hmember hrest)
      · rw [hmany] at hrest
        exact .apart hname hinside hparent haround hvalue hpattern (shows_ofPattern_iff.1 hrest)
termination_by trail.length
decreasing_by exact hshorter

end Property

end PropTyper
