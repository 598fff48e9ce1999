import Mathlib.Data.List.Permutation
import PropTyper.Proofs.Evidence.Reads
import PropTyper.Reading.Evidence

/-! # What a component uses

`Node.Uses` says of a component's tree which paths of names it reads from its properties, and with
which kinds. The properties that are found have each name once, and their names are exactly those
that some use begins with; whatever lies deeper, and every kind, is that of a use.
-/

namespace PropTyper

namespace Node

/-- A declaration takes an expression with this text apart. -/
def TakesApart (d : Node) (identity : String) (pattern : Tree) : Prop :=
  d.kind = .variableDeclarator ∧ d.tree.childOf? .name .objectPattern = some pattern ∧
    ∃ value, d.tree.child? .value = some value ∧ value.compactText = identity

def ReadsUnder (c : Node) (identity : String) (path : List String) (kind : PropKind) : Prop :=
  (∃ m ∈ c.preorder, m.kind = .memberExpression ∧
      Text.withoutBlanks (m.tree.childText .object) = identity ∧ c.Reads m path kind) ∨
    ∃ d ∈ c.preorder, ∃ pattern, d.TakesApart identity pattern ∧ pattern.Takes path kind

/-- A function reads the path from its first parameter, or takes it out there. -/
def UsesParameter (f : Node) (path : List String) (kind : PropKind) : Prop :=
  ∃ parameter, f.firstParameter? = some parameter ∧
    ((parameter.kind = .identifier ∧ f.ReadsUnder parameter.text path kind) ∨
      (parameter.kind = .objectPattern ∧ parameter.tree.Takes path kind))

/-- A component reads the path from its properties. -/
def Uses (c : Node) (path : List String) (kind : PropKind) : Prop :=
  if c.kind.isClass then
    (∃ method, Property.constructor? c = some method ∧ method.UsesParameter path kind) ∨
      c.ReadsUnder Property.classIdentity path kind
  else c.UsesParameter path kind

theorem Reads.memberName?_eq {c m : Node} {name : String} {kind : PropKind}
    (h : c.Reads m [name] kind) : m.tree.memberName? = some name := by
  cases h with
  | access hname => exact hname
  | chain hname => exact hname
  | apart hname => exact hname

theorem Holds.of_mem_preorder {c m : Node} {t : Tree} (h : m.Holds t) (hm : m ∈ c.preorder) :
    c.Holds t := by
  obtain ⟨n, hn, rfl⟩ := h
  exact ⟨n, mem_preorder_trans hm hn, rfl⟩

end Node

namespace Property

/-! ## Lists that account for uses -/

/-- The properties show only paths of `R`, and have all of its names. -/
structure Accounts (R : List String → PropKind → Prop) (properties : List Property) : Prop where
  sound : ∀ {path kind}, Shows properties path kind → R path kind
  complete : ∀ {name kind}, R [name] kind → name ∈ properties.map (·.name)

variable {R S : List String → PropKind → Prop} {base other : List Property}

theorem accounts_nil (h : ∀ path kind, ¬ R path kind) : Accounts R [] :=
  ⟨fun hshows => (not_shows_nil hshows).elim, fun hr => (h _ _ hr).elim⟩

theorem Accounts.of_iff (h : Accounts R base) (hiff : ∀ path kind, S path kind ↔ R path kind) :
    Accounts S base :=
  ⟨fun hshows => (hiff _ _).2 (h.sound hshows), fun hs => h.complete ((hiff _ _).1 hs)⟩

theorem Accounts.mergeLists (hbase : Accounts R base) (hother : Accounts S other)
    (mode : MergeMode) :
    Accounts (fun path kind => R path kind ∨ S path kind) (mergeLists mode base other) where
  sound h := (shows_of_mergeLists h).imp hbase.sound hother.sound
  complete h := mem_names_mergeLists.2 (h.imp hbase.complete hother.complete)

theorem accounts_ofPattern (scope : Option Scope) (pattern : Tree) :
    Accounts pattern.Takes (ofPattern scope pattern) where
  sound := shows_ofPattern_iff.1
  complete h := mem_names_iff.2 ⟨_, shows_ofPattern_iff.2 h⟩

/-! ## One identity -/

def readAt (identity : String) (m : Node) : List Property :=
  match m.kind with
  | .memberExpression => addAccess identity m []
  | .variableDeclarator => addDestructuring identity m []
  | _ => []

theorem addAccess_eq (identity : String) (m : Node) (found : List Property) :
    addAccess identity m found = found ++ addAccess identity m [] := by
  unfold addAccess
  split
  · rw [List.nil_append]
  · rw [List.append_nil]

theorem addDestructuring_eq (identity : String) (m : Node) (found : List Property) :
    addDestructuring identity m found = found ++ addDestructuring identity m [] := by
  unfold addDestructuring
  split
  · split
    · rw [List.nil_append]
    · rw [List.append_nil]
  · rw [List.append_nil]

theorem readFrom_eq_flatMap (c : Node) (identity : String) :
    readFrom c identity = c.preorder.flatMap (readAt identity) := by
  rw [readFrom, Node.traverse_eq_foldl, List.flatMap_eq_foldl]
  congr 1
  funext found m
  unfold Node.visited readAt
  cases m.kind with
  | memberExpression => exact addAccess_eq identity m found
  | variableDeclarator => exact addDestructuring_eq identity m found
  | _ => exact (List.append_nil _).symm

theorem shows_addAccess_iff {identity : String} {m : Node} {path : List String} {kind : PropKind} :
    Shows (addAccess identity m []) path kind ↔
      Text.withoutBlanks (m.tree.childText .object) = identity ∧
        ∃ name, m.tree.memberName? = some name ∧
          Shows [ofChain name m.tree m.trail] path kind := by
  unfold addAccess ofAccess?
  rw [List.nil_append]
  constructor
  · intro h
    split at h
    · next hidentity =>
      cases hname : m.tree.memberName? with
      | none =>
          rw [hname] at h
          exact (not_shows_nil h).elim
      | some name =>
          rw [hname] at h
          exact ⟨hidentity, name, rfl, h⟩
    · exact (not_shows_nil h).elim
  · rintro ⟨hidentity, name, hname, h⟩
    rw [if_pos hidentity, hname]
    exact h

theorem shows_addDestructuring_iff {identity : String} {d : Node} {path : List String}
    {kind : PropKind} (hkind : d.kind = .variableDeclarator) :
    Shows (addDestructuring identity d []) path kind ↔
      ∃ pattern, d.TakesApart identity pattern ∧ pattern.Takes path kind := by
  unfold addDestructuring Node.TakesApart Tree.childOf?
  rw [← Node.map_tree_child?, ← Node.map_tree_child?]
  constructor
  · intro h
    split at h
    · next target value htarget hvalue =>
      split at h
      · next hboth =>
        obtain ⟨htargetKind, hidentity⟩ : target.kind = .objectPattern ∧
          value.tree.compactText = identity := by simpa using hboth
        have htargetKind : target.tree.kind = .objectPattern := htargetKind
        refine ⟨target.tree, ⟨hkind, ?_, value.tree, ?_, hidentity⟩, shows_ofPattern_iff.1 h⟩
        · simp [htarget, htargetKind]
        · simp [hvalue]
      · exact (not_shows_nil h).elim
    · exact (not_shows_nil h).elim
  · rintro ⟨pattern, ⟨-, htarget, value, hvalue, hidentity⟩, htakes⟩
    obtain ⟨hmapped, htargetKind⟩ := Option.filter_eq_some_iff.1 htarget
    obtain ⟨targetNode, htargetNode, rfl⟩ := Option.map_eq_some_iff.1 hmapped
    obtain ⟨valueNode, hvalueNode, rfl⟩ := Option.map_eq_some_iff.1 hvalue
    have hboth : (targetNode.kind = .objectPattern &&
        valueNode.tree.compactText = identity) = true := by
      rw [Bool.and_eq_true]
      exact ⟨htargetKind, decide_eq_true hidentity⟩
    rw [htargetNode, hvalueNode]
    dsimp only
    rw [if_pos hboth]
    exact shows_ofPattern_iff.2 htakes

theorem shows_readFrom_iff {c : Node} {identity : String} {path : List String} {kind : PropKind} :
    Shows (readFrom c identity) path kind ↔
      (∃ m ∈ c.preorder, m.kind = .memberExpression ∧
        Text.withoutBlanks (m.tree.childText .object) = identity ∧
          ∃ name, m.tree.memberName? = some name ∧
            Shows [ofChain name m.tree m.trail] path kind) ∨
      ∃ d ∈ c.preorder, ∃ pattern, d.TakesApart identity pattern ∧ pattern.Takes path kind := by
  rw [readFrom_eq_flatMap, shows_flatMap]
  constructor
  · rintro ⟨m, hm, h⟩
    unfold readAt at h
    split at h
    · next hkind => exact .inl ⟨m, hm, hkind, shows_addAccess_iff.1 h⟩
    · next hkind => exact .inr ⟨m, hm, (shows_addDestructuring_iff hkind).1 h⟩
    · exact (not_shows_nil h).elim
  · rintro (⟨m, hm, hkind, h⟩ | ⟨d, hd, pattern, hapart, htakes⟩)
    · refine ⟨m, hm, ?_⟩
      rw [readAt, hkind]
      exact shows_addAccess_iff.2 h
    · refine ⟨d, hd, ?_⟩
      rw [readAt, hapart.1]
      exact (shows_addDestructuring_iff hapart.1).2 ⟨pattern, hapart, htakes⟩

/-- The properties that are read from an identity account for what the tree reads under it. -/
theorem accounts_readFrom {c : Node} (hc : c.kind ≠ .memberExpression) (identity : String) :
    Accounts (c.ReadsUnder identity) (readFrom c identity) := by
  constructor
  · intro path kind h
    rcases shows_readFrom_iff.1 h with ⟨m, hm, hkind, hidentity, name, hname, h⟩ | h
    · exact .inl ⟨m, hm, hkind, hidentity, reads_of_shows_ofChain hc hm hkind hname h⟩
    · exact .inr h
  · rintro name kind (⟨m, hm, hkind, hidentity, hreads⟩ | htaken)
    · have hchain : name ∈ [ofChain name m.tree m.trail].map (·.name) :=
        List.mem_singleton.2 (isRead_ofChain name m.tree m.trail).name_eq.symm
      obtain ⟨shown, hshows⟩ := mem_names_iff.1 hchain
      exact mem_names_iff.2 ⟨shown, shows_readFrom_iff.2
        (.inl ⟨m, hm, hkind, hidentity, name, hreads.memberName?_eq, hshows⟩)⟩
    · exact mem_names_iff.2 ⟨kind, shows_readFrom_iff.2 (.inr htaken)⟩

/-! ## Functions and classes -/

theorem accounts_ofFunction {f : Node} (hf : f.kind ≠ .memberExpression) :
    Accounts f.UsesParameter (ofFunction f) := by
  unfold ofFunction
  split
  · next hnone =>
    refine accounts_nil ?_
    rintro path kind ⟨parameter, hparameter, -⟩
    cases hnone.symm.trans hparameter
  · next parameter hparameter =>
    split
    · next hkind =>
      refine ((accounts_nil fun _ _ => not_false).mergeLists
        (accounts_readFrom hf parameter.text) .peer).of_iff ?_
      simp [Node.UsesParameter, hparameter, hkind]
    · next hkind =>
      refine ((accounts_ofPattern parameter.scope? parameter.tree).mergeLists
        (accounts_nil fun _ _ => not_false) .peer).of_iff ?_
      simp [Node.UsesParameter, hparameter, hkind]
    · next hname hpattern =>
      refine accounts_nil ?_
      rintro path kind ⟨other, hother, ⟨hkind, -⟩ | ⟨hkind, -⟩⟩
      · cases hparameter.symm.trans hother
        exact hname hkind
      · cases hparameter.symm.trans hother
        exact hpattern hkind

theorem accounts_ofClass {c : Node} (hc : c.kind ≠ .memberExpression) :
    Accounts (fun path kind =>
      (∃ method, constructor? c = some method ∧ method.UsesParameter path kind) ∨
        c.ReadsUnder classIdentity path kind) (ofClass c) := by
  have hthis := accounts_readFrom hc classIdentity
  unfold ofClass
  cases hmethod : constructor? c with
  | none =>
      refine Accounts.mergeLists (accounts_nil ?_) hthis .peer
      simp
  | some method =>
      have hkind := (constructor?_spec hmethod).2
      have hfirst := accounts_ofFunction (f := method) (by simp [hkind])
      refine (hfirst.mergeLists hthis .peer).of_iff ?_
      simp

/-- The properties that a component uses account for its uses. -/
theorem accounts_ofUsage {c : Node} (hc : c.kind ≠ .memberExpression) :
    Accounts c.Uses (ofUsage c) := by
  unfold ofUsage
  split
  · next hclass =>
    refine (accounts_ofClass hc).of_iff ?_
    simp [Node.Uses, hclass]
  · next hclass =>
    refine (accounts_ofFunction hc).of_iff ?_
    simp [Node.Uses, hclass]

theorem nodup_ofFunction (f : Node) : ((ofFunction f).map (·.name)).Nodup := by
  unfold ofFunction
  split
  · exact List.nodup_nil
  · split
    · exact nodup_mergeLists ..
    · exact nodup_mergeLists ..
    · exact List.nodup_nil

theorem nodup_ofUsage (c : Node) : ((ofUsage c).map (·.name)).Nodup := by
  unfold ofUsage
  split
  · exact nodup_mergeLists ..
  · exact nodup_ofFunction c

/-! ## Nodes that are read -/

variable {r : Node}

theorem holds_defaultNodes {value : Tree} (h : r.Holds value) :
    ∀ t ∈ value.defaultNodes, r.Holds t := by
  intro t ht
  unfold Tree.defaultNodes at ht
  split at ht
  · cases ht
  · cases List.mem_singleton.1 ht
    exact h

mutual

theorem holds_patternNodes {pattern : Tree} (h : r.Holds pattern) :
    ∀ t ∈ patternNodes pattern, r.Holds t := by
  intro t ht
  rw [patternNodes] at ht
  obtain ⟨⟨entry, hentry⟩, -, ht⟩ := List.mem_flatMap.1 ht
  have hchild := Tree.mem_children_of_mem_namedChildren hentry
  exact holds_patternEntryNodes (h.child hchild) t ht
termination_by (sizeOf pattern, 0)
decreasing_by exact Prod.Lex.left _ _ (Tree.sizeOf_child_lt hchild)

theorem holds_patternEntryNodes {entry : Tree} (h : r.Holds entry) :
    ∀ t ∈ patternEntryNodes entry, r.Holds t := by
  intro t ht
  rw [patternEntryNodes] at ht
  split at ht
  · cases List.mem_singleton.1 ht
    exact h
  · split at ht
    · next left right hleft hright =>
      rcases List.mem_cons.1 ht with rfl | ht
      · exact h.child (Tree.mem_children_of_child? (Option.filter_eq_some_iff.1 hleft).1)
      · exact holds_defaultNodes (h.child (Tree.mem_children_of_child? hright)) t ht
    · cases ht
  · rcases List.mem_append.1 ht with ht | ht
    · obtain ⟨key, hkey, ht⟩ := List.mem_flatMap.1 ht
      unfold Tree.keyNodes at ht
      split at ht
      · cases List.mem_singleton.1 ht
        exact h.child (Tree.mem_children_of_child? (Option.mem_toList.1 hkey))
      · cases ht
    · split at ht
      · next name value hname hvalue =>
        have hchild := Tree.mem_children_of_child? hvalue
        exact holds_patternValueNodes (h.child hchild) t ht
      · cases ht
  · cases ht
termination_by (sizeOf entry, 0)
decreasing_by exact Prod.Lex.left _ _ (Tree.sizeOf_child_lt hchild)

theorem holds_patternValueNodes {value : Tree} (h : r.Holds value) :
    ∀ t ∈ patternValueNodes value, r.Holds t := by
  intro t ht
  rw [patternValueNodes] at ht
  split at ht
  · cases List.mem_singleton.1 ht
    exact h
  · exact holds_patternNodes h t ht
  · split at ht
    · next left right hleft hright =>
      have hchild := Tree.mem_children_of_child? hleft
      have hdefault := h.child (Tree.mem_children_of_child? hright)
      split at ht
      · rcases List.mem_cons.1 ht with rfl | ht
        · exact h.child hchild
        · exact holds_defaultNodes hdefault t ht
      · rcases List.mem_append.1 ht with ht | ht
        · exact holds_patternNodes (h.child hchild) t ht
        · split at ht
          · cases List.mem_singleton.1 ht
            exact hdefault
          · cases ht
      · cases ht
    · cases ht
  · cases ht
termination_by (sizeOf value, 1)
decreasing_by
  · exact Prod.Lex.right _ Nat.zero_lt_one
  · exact Prod.Lex.left _ _ (Tree.sizeOf_child_lt hchild)

end

theorem holds_memberNodes {t : Tree} (h : r.Holds t) : ∀ u ∈ t.memberNodes, r.Holds u := by
  intro u hu
  have hproperty := (Option.filter_eq_some_iff.1 (Option.mem_toList.1 hu)).1
  exact h.child (Tree.mem_children_of_child? hproperty)

theorem holds_chainEndNodes {t : Tree} {step : Step} {rest : List Step}
    (h : r.Holds step.parent) : ∀ u ∈ chainEndNodes t (step :: rest), r.Holds u := by
  intro u hu
  unfold chainEndNodes at hu
  dsimp only at hu
  split at hu
  · obtain ⟨target, htarget, hu⟩ := List.mem_flatMap.1 hu
    have htarget := h.child (Tree.mem_children_of_child? (Option.mem_toList.1 htarget))
    split at hu
    · cases List.mem_singleton.1 hu
      exact htarget
    · split at hu
      · exact holds_patternNodes htarget u hu
      · cases hu
  · cases hu

theorem holds_chainNodes {c : Node}
    (hin : ∀ n ∈ c.preorder, n.kind = .memberExpression → ∀ p, n.parent? = some p → p ∈ c.preorder)
    {t : Tree} {trail : List Step} (hn : ⟨t, trail⟩ ∈ c.preorder) (hkind : t.kind = .memberExpression) :
    ∀ u ∈ chainNodes t trail, c.Holds u := by
  induction trail generalizing t with
  | nil =>
      intro u hu
      cases hu
  | cons step rest ih =>
      have hparent : ⟨step.parent, rest⟩ ∈ c.preorder := hin _ hn hkind _ rfl
      have hholds : c.Holds step.parent := ⟨_, hparent, rfl⟩
      intro u hu
      unfold chainNodes at hu
      split at hu
      · next hon =>
        rw [Bool.and_eq_true] at hon
        split at hu
        · rcases List.mem_append.1 hu with hu | hu
          · exact holds_memberNodes hholds u hu
          · exact ih hparent (of_decide_eq_true hon.1) u hu
        · cases hu
      · exact holds_chainEndNodes hholds u hu

theorem holds_accessNodes {c : Node}
    (hin : ∀ n ∈ c.preorder, n.kind = .memberExpression → ∀ p, n.parent? = some p → p ∈ c.preorder)
    {n : Node} (hn : n ∈ c.preorder) (hkind : n.kind = .memberExpression) :
    ∀ u ∈ accessNodes n, c.Holds u := by
  intro u hu
  rcases List.mem_append.1 hu with hu | hu
  · exact holds_memberNodes ⟨n, hn, rfl⟩ u hu
  · split at hu
    · exact holds_chainNodes hin hn hkind u hu
    · cases hu

theorem holds_readFromNodes {c : Node} (hc : c.kind ≠ .memberExpression) (identity : String) :
    ∀ t ∈ readFromNodes c identity, c.Holds t := by
  intro t ht
  obtain ⟨m, hm, ht⟩ := List.mem_flatMap.1 ht
  have hholds : c.Holds m.tree := ⟨m, hm, rfl⟩
  unfold identityNodes at ht
  split at ht
  · next hkind =>
    rcases List.mem_append.1 ht with ht | ht
    · exact hholds.child (Tree.mem_children_of_child? (Option.mem_toList.1 ht))
    · split at ht
      · refine holds_accessNodes (fun n hn hkind p => ?_) hm hkind t ht
        exact Node.parent?_mem_preorder hn fun heq => hc (heq.symm.trans hkind)
      · cases ht
  · split at ht
    · next target value htarget hvalue =>
      have htarget := (Option.filter_eq_some_iff.1 htarget).1
      rcases List.mem_cons.1 ht with rfl | ht
      · exact hholds.child (Tree.mem_children_of_child? hvalue)
      · split at ht
        · exact holds_patternNodes (hholds.child (Tree.mem_children_of_child? htarget)) t ht
        · cases ht
    · cases ht
  · cases ht

theorem holds_functionNodes {f : Node} (hf : f.kind ≠ .memberExpression) :
    ∀ t ∈ functionNodes f, f.Holds t := by
  intro t ht
  obtain ⟨parameter, hparameter, ht⟩ := List.mem_flatMap.1 ht
  have hholds : f.Holds parameter.tree :=
    ⟨parameter, Node.firstParameter?_mem_preorder (Node.mem_preorder_self f)
      (Option.mem_toList.1 hparameter), rfl⟩
  split at ht
  · rcases List.mem_cons.1 ht with rfl | ht
    · exact hholds
    · exact holds_readFromNodes hf _ t ht
  · exact holds_patternNodes hholds t ht
  · cases ht

theorem holds_constructorNodes {methods : List Tree} (h : ∀ m ∈ methods, r.Holds m) :
    ∀ t ∈ constructorNodes methods, r.Holds t := by
  induction methods with
  | nil =>
      intro t ht
      cases ht
  | cons method rest ih =>
      intro t ht
      rcases List.mem_append.1 ht with ht | ht
      · exact (h method List.mem_cons_self).child
          (Tree.mem_children_of_child? (Option.mem_toList.1 ht))
      · split at ht
        · cases ht
        · exact ih (fun m hm => h m (List.mem_cons_of_mem _ hm)) t ht

theorem holds_usageNodes {c : Node} (hc : c.kind ≠ .memberExpression) :
    ∀ t ∈ usageNodes c, c.Holds t := by
  have hself : c.Holds c.tree := ⟨c, Node.mem_preorder_self c, rfl⟩
  intro t ht
  unfold usageNodes at ht
  split at ht
  · rcases List.mem_append.1 ht with ht | ht
    · rcases List.mem_append.1 ht with ht | ht
      · refine holds_constructorNodes ?_ t ht
        intro m hm
        obtain ⟨body, hbody, hm⟩ := List.mem_flatMap.1 hm
        have hbody := hself.child (Tree.mem_children_of_child? (Option.mem_toList.1 hbody))
        exact hbody.child (Tree.mem_children_of_mem_namedChildren (List.mem_filter.1 hm).1)
      · obtain ⟨method, hmethod, ht⟩ := List.mem_flatMap.1 ht
        obtain ⟨hmem, hkind⟩ := constructor?_spec (Option.mem_toList.1 hmethod)
        have hholds := holds_functionNodes (f := method) (by simp [hkind]) t ht
        exact hholds.of_mem_preorder hmem
    · exact holds_readFromNodes hc _ t ht
  · exact holds_functionNodes hc t ht

/-- Where every node of a component has a text, its uses are found. -/
theorem readUsage_result {c : Node} (hc : c.kind ≠ .memberExpression)
    (htext : ∀ n ∈ c.preorder, n.tree.flaw = none) :
    (readUsage c).result = .ok (ofUsage c) := by
  have hnone : (readUsage c).acts.findSome? Act.flaw? = none := by
    rw [List.findSome?_eq_none_iff]
    intro act hact
    rcases List.mem_append.1 hact with hact | hact
    · obtain ⟨t, ht, rfl⟩ := List.mem_map.1 hact
      obtain ⟨n, hn, rfl⟩ := holds_usageNodes hc t ht
      exact htext n hn
    · cases List.mem_singleton.1 hact
      rfl
  rw [Reading.result, hnone]
  rfl

/-- The uses of a component, found in a tree whose nodes all have a text: no name comes twice, the
names are those of the accesses and patterns that read from the component's properties, and every
path of names is that of an access or a pattern inside the component, which shows its kind. -/
theorem readUsage_accounts (c : Node) (hc : c.kind ≠ .memberExpression)
    (htext : ∀ n ∈ c.preorder, n.tree.flaw = none) :
    ∃ used, (readUsage c).result = .ok used ∧ (used.map (·.name)).Nodup ∧
      (∀ name, name ∈ used.map (·.name) ↔ ∃ kind, c.Uses [name] kind) ∧
      ∀ path kind, Shows used path kind → c.Uses path kind := by
  have haccounts := accounts_ofUsage hc
  refine ⟨ofUsage c, readUsage_result hc htext, nodup_ofUsage c, ?_, ?_⟩
  · intro name
    constructor
    · intro hname
      obtain ⟨kind, hshows⟩ := mem_names_iff.1 hname
      exact ⟨kind, haccounts.sound hshows⟩
    · rintro ⟨kind, huses⟩
      exact haccounts.complete huses
  · intro path kind hshows
    exact haccounts.sound hshows

end Property

namespace Tree

def piece (kind : Kind) (start stop : Nat) (text : String) (fields : List Field := [])
    (children : List Tree := []) : Tree :=
  { kind, span := ⟨start, stop⟩, text, fields, children }

/-- A class with `constructor(p){p.size}` and a method that holds `this . props.user.name()` and
`const{user:{id=1}}=this.props`. -/
def classOfUser : Tree :=
  let accessOfSize := piece .memberExpression 23 29 "p.size" [] [
    piece .identifier 23 24 "p" [.object], piece .propertyIdentifier 25 29 "size" [.property]]
  let first := piece .methodDefinition 8 30 "constructor(p)\x7bp.size\x7d" [] [
    piece .propertyIdentifier 8 19 "constructor" [.name],
    piece .formalParameters 19 22 "(p)" [.parameters] [piece .identifier 20 21 "p"],
    piece .statementBlock 22 30 "\x7bp.size\x7d" [.body] [accessOfSize]]
  let spaced := piece .memberExpression 34 46 "this . props" [.object] [
    piece .thisExpression 34 38 "this" [.object],
    piece .propertyIdentifier 41 46 "props" [.property]]
  let accessOfUser := piece .memberExpression 34 51 "this . props.user" [.object] [
    spaced, piece .propertyIdentifier 47 51 "user" [.property]]
  let call := piece .callExpression 34 58 "this . props.user.name()" [] [
    piece .memberExpression 34 56 "this . props.user.name" [.function] [
      accessOfUser, piece .propertyIdentifier 52 56 "name" [.property]],
    piece .arguments 56 58 "()" [.arguments]]
  let inner := piece .objectPattern 70 76 "\x7bid=1\x7d" [.value] [
    piece .objectAssignmentPattern 71 75 "id=1" [] [
      piece .shorthandPropertyIdentifierPattern 71 73 "id" [.left],
      piece .number 74 75 "1" [.right]]]
  let declaration := piece .variableDeclarator 64 88 "\x7buser:\x7bid=1\x7d\x7d=this.props" [] [
    piece .objectPattern 64 77 "\x7buser:\x7bid=1\x7d\x7d" [.name] [
      piece .pairPattern 65 76 "user:\x7bid=1\x7d" [] [
        piece .propertyIdentifier 65 69 "user" [.key], inner]],
    piece .memberExpression 78 88 "this.props" [.value] [
      piece .thisExpression 78 82 "this" [.object],
      piece .propertyIdentifier 83 88 "props" [.property]]]
  piece .classDeclaration 0 90 "" [] [
    piece .identifier 6 7 "A" [.name],
    piece .classBody 7 90 "" [.body] [
      first, piece .methodDefinition 30 89 "" [] [call, declaration]]]

end Tree

namespace Property

def usedByClass : List Property :=
  [{ name := "size" },
    { name := "user", kind := .shape
      children := [
        { name := "id", binding := some "id", scope := some ⟨30, 89⟩, kind := .number
          defaultText := some "1" },
        { name := "name", kind := .func }] }]

/-- The constructor and the method show one property each. The chain and the pattern share the
second one, and each of them accounts for one of its members. -/
theorem readUsage_classOfUser :
    (readUsage ⟨Tree.classOfUser, []⟩).result = .ok usedByClass ∧
      Node.Uses ⟨Tree.classOfUser, []⟩ ["user", "id"] .number ∧
      Node.Uses ⟨Tree.classOfUser, []⟩ ["user", "name"] .func ∧
      ¬ ∃ kind, Node.Uses ⟨Tree.classOfUser, []⟩ ["name"] kind := by
  have hresult : (readUsage ⟨Tree.classOfUser, []⟩).result = .ok usedByClass := by cbv
  have htexts : ((Node.mk Tree.classOfUser []).preorder.all fun n => n.tree.flaw.isNone) = true := by
    decide +kernel
  obtain ⟨used, hused, -, hnames, hpaths⟩ := readUsage_accounts ⟨Tree.classOfUser, []⟩ (by decide)
    fun n hn => Option.isNone_iff_eq_none.1 (List.all_eq_true.1 htexts n hn)
  cases hresult.symm.trans hused
  refine ⟨hresult, hpaths _ _ ?_, hpaths _ _ ?_, ?_⟩
  · exact .member (List.mem_cons_of_mem _ List.mem_cons_self) (.self List.mem_cons_self)
  · exact .member (List.mem_cons_of_mem _ List.mem_cons_self)
      (.self (List.mem_cons_of_mem _ List.mem_cons_self))
  · intro hname
    have hmem := (hnames "name").2 hname
    revert hmem
    decide

end Property

end PropTyper
