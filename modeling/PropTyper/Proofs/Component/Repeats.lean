import Mathlib.Data.List.Duplicate
import PropTyper.Proofs.Completion.Frame
import PropTyper.Proofs.Component.Inferred
import PropTyper.Proofs.Declaration.Key
import PropTyper.Proofs.Evidence.Usage
import PropTyper.Proofs.Property.Follows

/-! # Members of one name

Wherever properties are merged, those of one name become one. The entries of a pattern that takes a
single property apart are not merged: they become the members of that property as they stand, also
if two of them have the same key. So a member that an inferred shape has twice stands twice in such
a pattern, and no other key is written twice into an object.
-/

namespace PropTyper

namespace Tree

def Names (entry : Tree) (name : String) : Prop :=
  ∃ kind inner, entry.TakesOut name kind inner

def NamesTwice (pattern : Tree) (name : String) : Prop :=
  ∃ first second, [first, second].Sublist pattern.namedChildren ∧ first.Names name ∧
    second.Names name

end Tree

namespace Node

/-- Something in `c` takes a property of this name apart by a pattern of its own, which stands under
the key of the property or in the declaration around an access to it. -/
inductive Unpacks (c : Node) (name : String) (pattern : Tree) : Prop
  | key {entry : Tree} {kind : PropKind} (hentry : c.Holds entry)
      (htaken : entry.TakesOut name kind (some pattern))
  | access {n d : Node} (hn : n ∈ c.preorder) (hd : d ∈ c.preorder)
      (hkind : n.kind = .memberExpression) (hname : n.tree.memberName? = some name)
      (hparent : n.parent? = some d) (hdeclares : d.kind = .variableDeclarator)
      (hvalue : d.tree.fieldIs .value n.tree = true)
      (hpattern : d.tree.childOf? .name .objectPattern = some pattern)

/-- A pattern that takes a property of this name apart has the key `member` twice. -/
def UnpacksTwice (c : Node) (name member : String) : Prop :=
  ∃ pattern, c.Unpacks name pattern ∧ pattern.NamesTwice member

end Node

namespace Property

/-- What the names of the members repeat is what `R` allows for a property of this name. -/
def RepeatsOnly (R : String → String → Prop) (q : Property) : Prop :=
  q.kind.hasNamedMembers = true → ∀ member, (q.children.map (·.name)).Duplicate member →
    R q.name member

variable {R : String → String → Prop}

theorem admitsDistinct_repeatsOnly : AdmitsDistinct (RepeatsOnly R) where
  of_distinct := by
    intro q hq hkind member hmember
    exact (hmember.not_nodup (hq hkind)).elim
  normalize := by
    intro q hq hkind member hmember
    rw [normalize_kind] at hkind
    rw [normalize_name]
    apply hq hkind
    rw [normalize_children, arranged, if_pos hkind, List.duplicate_iff_two_le_count] at hmember
    rw [List.duplicate_iff_two_le_count]
    rwa [← (names_finalize_perm q.children).count_eq]

theorem repeatsOnly_leaf {q : Property} (h : q.children = []) : Everywhere (RepeatsOnly R) q := by
  refine everywhere_iff.2 ⟨?_, by simp [h]⟩
  intro _ member hmember
  rw [h] at hmember
  exact (List.not_duplicate_nil member hmember).elim

/-! ## Patterns -/

variable {scope : Option Scope} {pattern : Tree}

theorem ofPattern_eq_filterMap :
    ofPattern scope pattern = pattern.namedChildren.filterMap (ofPatternItem? scope) := by
  rw [ofPattern]
  conv_rhs => rw [← List.attach_map_subtype_val pattern.namedChildren, List.filterMap_map]
  rfl

theorem exists_names_of_duplicate {entries : List Tree} {name : String}
    (h : ((entries.filterMap (ofPatternItem? scope)).map (·.name)).Duplicate name) :
    ∃ first second, [first, second].Sublist entries ∧ first.Names name ∧ second.Names name := by
  induction entries with
  | nil => exact (List.not_duplicate_nil name h).elim
  | cons entry rest ih =>
      have hnames : ∀ {entry p}, ofPatternItem? scope entry = some p → entry.Names p.name := by
        intro entry p hp
        obtain ⟨name, kind, inner, htaken, hname, -, -⟩ := isTaken_of_ofPatternItem? hp
        exact ⟨kind, inner, hname ▸ htaken⟩
      have hlater : ((rest.filterMap (ofPatternItem? scope)).map (·.name)).Duplicate name →
          ∃ first second, [first, second].Sublist (entry :: rest) ∧ first.Names name ∧
            second.Names name := by
        intro hrest
        obtain ⟨first, second, hsub, hboth⟩ := ih hrest
        exact ⟨first, second, hsub.cons entry, hboth⟩
      cases hentry : ofPatternItem? scope entry with
      | none =>
          rw [List.filterMap_cons_none hentry] at h
          exact hlater h
      | some p =>
          rw [List.filterMap_cons_some hentry, List.map_cons, List.duplicate_cons_iff] at h
          rcases h with ⟨rfl, hmem⟩ | hrest
          · obtain ⟨q, hq, hname⟩ := List.mem_map.1 hmem
            obtain ⟨second, hsecond, heq⟩ := List.mem_filterMap.1 hq
            exact ⟨entry, second, (List.singleton_sublist.2 hsecond).cons_cons entry,
              hnames hentry, hname ▸ hnames heq⟩
          · exact hlater hrest

/-- The properties of a pattern repeat a name only if the pattern does. -/
theorem namesTwice_of_duplicate {name : String}
    (h : ((ofPattern scope pattern).map (·.name)).Duplicate name) : pattern.NamesTwice name := by
  rw [ofPattern_eq_filterMap] at h
  exact exists_names_of_duplicate h

variable {c : Node}

theorem holds_of_takesOut {entry inner : Tree} {name : String} {kind : PropKind}
    (hentry : c.Holds entry) (h : entry.TakesOut name kind (some inner)) :
    c.Holds inner ∧ sizeOf inner < sizeOf entry := by
  cases h with
  | pair _ _ hvalue htaken =>
      have hmem := Tree.mem_children_of_child? hvalue
      have hlt := Tree.sizeOf_child_lt hmem
      cases htaken with
      | apart _ => exact ⟨hentry.child hmem, hlt⟩
      | apartDefault _ hleft _ _ =>
          have hinner := Tree.mem_children_of_child? hleft
          exact ⟨(hentry.child hmem).child hinner, Nat.lt_trans (Tree.sizeOf_child_lt hinner) hlt⟩

theorem repeatsOnly_ofPattern {pattern : Tree} (hpattern : c.Holds pattern) :
    ∀ p ∈ ofPattern scope pattern, Everywhere (RepeatsOnly c.UnpacksTwice) p := by
  intro p hp
  obtain ⟨entry, hmem, heq⟩ := mem_ofPattern_iff.1 hp
  obtain ⟨name, kind, inner, htaken, hname, -, hchildren⟩ := isTaken_of_ofPatternItem? heq
  have hchild := Tree.mem_children_of_mem_namedChildren hmem
  have hentry := hpattern.child hchild
  cases inner with
  | none => exact repeatsOnly_leaf hchildren
  | some inner =>
      obtain ⟨hinner, hlt⟩ := holds_of_takesOut hentry htaken
      have hsmaller : sizeOf inner < sizeOf pattern :=
        Nat.lt_trans hlt (Tree.sizeOf_child_lt hchild)
      have hmembers : p.children = ofPattern scope inner :=
        hchildren.trans (List.flatMap_singleton ..)
      refine everywhere_iff.2 ⟨?_, ?_⟩
      · intro _ member hmember
        rw [hmembers] at hmember
        rw [hname]
        exact ⟨inner, .key hentry htaken, namesTwice_of_duplicate hmember⟩
      · rw [hmembers]
        exact repeatsOnly_ofPattern hinner
termination_by sizeOf pattern

/-! ## Accesses -/

theorem repeatsOnly_ofChain {name : String} {t : Tree} {trail : List Step}
    (hc : c.kind ≠ .memberExpression) (hn : ⟨t, trail⟩ ∈ c.preorder)
    (hkind : t.kind = .memberExpression) (hname : t.memberName? = some name) :
    Everywhere (RepeatsOnly c.UnpacksTwice) (ofChain name t trail) := by
  obtain ⟨hread, -, hchildren⟩ := isRead_ofChain name t trail
  rcases hchildren with hnone | ⟨step, above, htrail, haround⟩
  · exact repeatsOnly_leaf hnone
  · have hshorter : above.length < trail.length := by
      rw [htrail]
      exact Nat.lt_succ_self _
    have hparent : Node.parent? ⟨t, trail⟩ = some ⟨step.parent, above⟩ := by
      rw [htrail]
      rfl
    have hinside : ⟨step.parent, above⟩ ∈ c.preorder :=
      Node.parent?_mem_preorder hn (fun heq => hc (heq.symm.trans hkind)) hparent
    rcases haround with ⟨haround, -, member, hmember, hone⟩ |
      ⟨haround, hvalue, scope, pattern, hpattern, hmany⟩
    · -- one member, which the next access of the chain reads
      refine everywhere_iff.2 ⟨?_, ?_⟩
      · intro _ other hother
        rw [hone] at hother
        exact (List.not_duplicate_singleton other _ hother).elim
      · intro p hp
        rw [hone, List.mem_singleton] at hp
        rw [hp]
        exact repeatsOnly_ofChain hc hinside haround hmember
    · -- the members that the declaration takes out
      have hholds : c.Holds pattern :=
        Node.Holds.child ⟨_, hinside, rfl⟩
          (Tree.mem_children_of_child? (Option.filter_eq_some_iff.1 hpattern).1)
      refine everywhere_iff.2 ⟨?_, ?_⟩
      · intro _ other hother
        rw [hmany] at hother
        rw [hread]
        exact ⟨pattern, .access hn hinside hkind hname hparent haround hvalue hpattern,
          namesTwice_of_duplicate hother⟩
      · rw [hmany]
        exact repeatsOnly_ofPattern hholds
termination_by trail.length
decreasing_by exact hshorter

/-- Patterns and accesses repeat what is unpacked twice and nothing else. -/
theorem meets_repeatsOnly (hc : c.kind ≠ .memberExpression) :
    c.Meets (RepeatsOnly c.UnpacksTwice) where
  pattern := fun hn _ => repeatsOnly_ofPattern ⟨_, hn, rfl⟩
  access := by
    intro n hn hkind p hp
    obtain ⟨name, hname, rfl⟩ := Option.map_eq_some_iff.1 hp
    exact repeatsOnly_ofChain hc hn hkind hname

theorem repeatsOnly_combine {used : List Property}
    (hused : ∀ p ∈ used, Everywhere (RepeatsOnly R) p) (object : Option Tree) :
    ∀ p ∈ combine [] used (ofDefaults object), Everywhere (RepeatsOnly R) p := by
  refine admitsDistinct_repeatsOnly.everywhere_mergeLists ?_ ?_
  · refine admitsDistinct_repeatsOnly.everywhere_mergeLists ?_ hused
    exact admitsDistinct_repeatsOnly.everywhere_mergeLists (by simp) (by simp)
  · exact fun p hp => repeatsOnly_leaf (children_of_mem_ofDefaults hp)

end Property

/-! ## Completion -/

namespace Completion

open Property

variable {R : String → String → Prop} {component : Node}

theorem repeatsOnly_outcome {p : Property} (hp : Everywhere (RepeatsOnly R) p)
    (hevidence : ∀ f ∈ evidence component p, Everywhere (RepeatsOnly R) f) :
    Everywhere (RepeatsOnly R) (outcome component p) := by
  by_cases hcalled : isCalled component p = true
  · rw [outcome_of_called hcalled]
    exact repeatsOnly_leaf rfl
  · by_cases hsilent : evidence component p = []
    · rwa [outcome_of_silent hcalled hsilent]
    · rw [outcome_of_evidence hcalled hsilent]
      refine everywhere_iff.2 ⟨admitsDistinct_repeatsOnly.of_distinct _ ?_, ?_⟩
      · exact fun _ => nodup_mergeLists _ _ _ _
      · exact admitsDistinct_repeatsOnly.everywhere_mergeLists (everywhere_iff.1 hp).2 hevidence

theorem repeatsOnly_modifyAt {properties : List Property} {place : List Nat} {r changed : Property}
    (hall : ∀ p ∈ properties, Everywhere (RepeatsOnly R) p) (hat : at? place properties = some r)
    (hname : changed.name = r.name) (hchanged : Everywhere (RepeatsOnly R) changed) :
    ∀ p ∈ modifyAt (fun _ => changed) place properties, Everywhere (RepeatsOnly R) p := by
  induction place generalizing properties with
  | nil => exact hall
  | cons i rest ih =>
      cases rest with
      | nil => exact forall_mem_modify hall fun _ _ => hchanged
      | cons j rest =>
          rw [modifyAt_cons_of_ne_nil (by simp)]
          refine forall_mem_modify hall ?_
          intro p hp
          rw [at?_cons_of_ne_nil (by simp), hp] at hat
          obtain ⟨hself, hmembers⟩ := everywhere_iff.1 (hall p (List.mem_of_getElem? hp))
          refine everywhere_iff.2 ⟨?_, ih hmembers hat⟩
          -- the names of the members stay, so what they repeat does too
          have hnames : (modifyAt (fun _ => changed) (j :: rest) p.children).map (·.name) =
              p.children.map (·.name) := by
            refine map_name_modifyAt ?_
            intro q hq
            cases hat.symm.trans hq
            exact hname
          intro hkind member hmember
          dsimp only at hmember
          rw [hnames] at hmember
          exact hself hkind member hmember

theorem Completes.repeatsOnly {made : List Waiting} {a b : List Property}
    (h : Completes component made a b)
    (hevidence : ∀ p, ∀ f ∈ evidence component p, Everywhere (RepeatsOnly R) f)
    (hall : ∀ p ∈ a, Everywhere (RepeatsOnly R) p) : ∀ p ∈ b, Everywhere (RepeatsOnly R) p := by
  induction h with
  | refl => exact hall
  | @step properties place w _ _ here _ ih =>
      refine repeatsOnly_modifyAt ih here (outcome_name component _) ?_
      exact repeatsOnly_outcome (everywhere_at? ih here) (hevidence w.property)

/-- A completed list repeats only what was repeated before or in the evidence. -/
theorem repeatsOnly_complete {properties : List Property} (except : List String)
    (hevidence : ∀ p, ∀ f ∈ evidence component p, Everywhere (RepeatsOnly R) f)
    (hall : ∀ p ∈ properties, Everywhere (RepeatsOnly R) p) :
    ∀ p ∈ (complete component properties except).properties, Everywhere (RepeatsOnly R) p := by
  unfold complete
  split
  · exact hall
  · have hrun := (invariant_initial component properties except).completes_run
      (budget component properties)
    intro p hp
    obtain ⟨q, hq, rfl⟩ := List.mem_map.1 hp
    exact (hrun.repeatsOnly hevidence hall q hq).normalize admitsDistinct_repeatsOnly.normalize

end Completion

/-! ## Inferred shapes and written objects -/

namespace Property

theorem keys_entries (settings : Settings) (inner : String) (properties : List Property) :
    (entries settings inner properties).map Prod.fst =
      (properties.map (·.name)).map (Key.render settings.quoteChar) := by
  rw [entries_eq_map, List.map_map, List.map_map]
  rfl

theorem keys_defaultEntries (settings : Settings) (properties : List Property) :
    ((defaultEntries settings properties).map Prod.fst).Sublist
      ((properties.map (·.name)).map (Key.render settings.quoteChar)) := by
  rw [defaultEntries, List.map_map, List.map_map]
  exact List.filter_sublist.map _

theorem exists_duplicate_of_key {settings : Settings} {names : List String} {key : String}
    (h : (names.map (Key.render settings.quoteChar)).Duplicate key) :
    ∃ name, key = Key.render settings.quoteChar name ∧ names.Duplicate name := by
  rw [List.duplicate_iff_sublist, List.sublist_map_iff] at h
  obtain ⟨twice, hsub, heq⟩ := h
  obtain ⟨first, rest, rfl, hfirst, hrest⟩ := List.map_eq_cons_iff.1 heq.symm
  obtain ⟨second, rfl, hsecond⟩ := List.map_eq_singleton_iff.1 hrest
  obtain rfl : first = second :=
    Key.render_injective settings.quote (hfirst.trans hsecond.symm)
  exact ⟨first, hfirst.symm, List.duplicate_iff_sublist.2 hsub⟩

end Property

open Property

theorem Inference.repeatsOnly_properties {component : Node}
    (hc : component.kind ≠ .memberExpression) (defaultProps : Option Node) :
    ∀ p ∈ (Inference.of component none defaultProps).properties,
      Everywhere (RepeatsOnly component.UnpacksTwice) p := by
  intro p hp
  obtain ⟨q, hq, rfl⟩ := mem_finalize.1 hp
  have hmeets := meets_repeatsOnly hc
  have hused := hmeets.ofUsage (fun _ => admitsDistinct_repeatsOnly.everywhere_mergeLists)
    (Node.mem_preorder_self component)
  have hmerged := repeatsOnly_combine hused
    ((defaultProps.bind Node.declaredObject?).map (·.tree))
  have hcompleted := Completion.repeatsOnly_complete []
    (fun p => hmeets.membersOf (Completion.lookupBlock_mem_preorder component p) _) hmerged
  exact (hcompleted q hq).normalize admitsDistinct_repeatsOnly.normalize

theorem Node.kind_of_mem_component? {root n : Node} {name : String}
    (h : n ∈ root.component? name) : n.kind ≠ .memberExpression := by
  have hcandidate := (Node.mem_select_iff.1 (List.mem_of_find?_eq_some h)).2
  intro hkind
  rw [hkind] at hcandidate
  cases hcandidate

namespace Analysis

/-- Without a declaration, a member that an inferred shape has twice stands twice in a pattern that
takes a property of its name apart. In what is written for the component, a key is repeated only for
such a member, and never at the top. -/
theorem unpacksTwice_of_duplicate {d : Document} {name : String} {label : Option String}
    {a : Analysis} (h : Analysis.of d name label = .ok a) (hnone : a.propTypes = none)
    (settings : Settings) (inner : String) :
    ((entries settings inner a.properties).map Prod.fst).Nodup ∧
      ((defaultEntries settings a.properties).map Prod.fst).Nodup ∧
        ∀ p ∈ a.properties, ∀ q ∈ p.preorder, q.kind.hasNamedMembers = true →
          (∀ member, (q.children.map (·.name)).Duplicate member →
            a.component.UnpacksTwice q.name member) ∧
          ∀ key, ((entries settings inner q.children).map Prod.fst).Duplicate key →
            ∃ member, key = Key.render settings.quoteChar member ∧
              (q.children.map (·.name)).Duplicate member := by
  obtain ⟨component, hcomponent, rfl⟩ := Option.map_eq_some_iff.1 (locate?_of_eq_ok h)
  have hkind := Node.kind_of_mem_component? hcomponent
  have hnone : d.node.declaration? name (typesLabel label) = none := hnone
  generalize d.node.declaration? name Declaration.defaultPropsLabel = defaultProps
  rw [hnone]
  have hnames : ((Inference.of component none defaultProps).properties.map (·.name)).Nodup :=
    (Inference.settles_properties component none defaultProps).names_ascend.imp String.ne_of_lt
  have hkeys := hnames.map (Key.render_injective settings.quote)
  refine ⟨?_, hkeys.sublist (keys_defaultEntries settings _), ?_⟩
  · rw [keys_entries]
    exact hkeys
  · intro p hp q hq hnamed
    refine ⟨Inference.repeatsOnly_properties hkind defaultProps p hp q hq hnamed, ?_⟩
    intro key hkey
    rw [keys_entries] at hkey
    exact exists_duplicate_of_key hkey

end Analysis

namespace Tree

/-- The pattern `{n,n:m}` from a byte on. -/
def repeatingPattern (start : Nat) (role : Field) : Tree :=
  piece .objectPattern start (start + 7) "\x7bn,n:m\x7d" [role] [
    piece .shorthandPropertyIdentifierPattern (start + 1) (start + 2) "n",
    piece .pairPattern (start + 3) (start + 6) "n:m" [] [
      piece .propertyIdentifier (start + 3) (start + 4) "n" [.key],
      piece .identifier (start + 5) (start + 6) "m" [.value]]]

/-- The program `function F({u:{n,n:m}}){}`. -/
def repeatedUnderKey : Tree :=
  let entry := piece .pairPattern 12 21 "u:\x7bn,n:m\x7d" [] [
    piece .propertyIdentifier 12 13 "u" [.key], repeatingPattern 14 .value]
  piece .program 0 25 "function F(\x7bu:\x7bn,n:m\x7d\x7d)\x7b\x7d" [] [
    piece .functionDeclaration 0 25 "function F(\x7bu:\x7bn,n:m\x7d\x7d)\x7b\x7d" [] [
      piece .identifier 9 10 "F" [.name],
      piece .formalParameters 10 23 "(\x7bu:\x7bn,n:m\x7d\x7d)" [.parameters] [
        piece .objectPattern 11 22 "\x7bu:\x7bn,n:m\x7d\x7d" [] [entry]],
      piece .statementBlock 23 25 "\x7b\x7d" [.body]]]

/-- The program `function F({u}){let{n,n:m}=u.w}`. -/
def repeatedFromAccess : Tree :=
  let access := piece .memberExpression 27 30 "u.w" [.value] [
    piece .identifier 27 28 "u" [.object], piece .propertyIdentifier 29 30 "w" [.property]]
  piece .program 0 31 "function F(\x7bu\x7d)\x7blet\x7bn,n:m\x7d=u.w\x7d" [] [
    piece .functionDeclaration 0 31 "function F(\x7bu\x7d)\x7blet\x7bn,n:m\x7d=u.w\x7d" [] [
      piece .identifier 9 10 "F" [.name],
      piece .formalParameters 10 15 "(\x7bu\x7d)" [.parameters] [
        piece .objectPattern 11 14 "\x7bu\x7d" [] [
          piece .shorthandPropertyIdentifierPattern 12 13 "u"]],
      piece .statementBlock 15 31 "\x7blet\x7bn,n:m\x7d=u.w\x7d" [.body] [
        piece .variableDeclarator 19 30 "\x7bn,n:m\x7d=u.w" [] [
          repeatingPattern 19 .name, access]]]]

def file (t : Tree) : Document :=
  ⟨"f.js", "javascript", t.text, t⟩

end Tree

namespace Analysis

/-- No declaration belongs to the component `F` of the program, and a shape that is inferred for it
has two members of this name. -/
def RepeatsMember (t : Tree) (name member : String) : Prop :=
  ∃ a, Analysis.of t.file "F" none = .ok a ∧ a.propTypes = none ∧
    ∃ p ∈ a.properties, ∃ q ∈ p.preorder, q.name = name ∧ q.kind = .shape ∧
      q.children.map (·.name) = [member, member]

def outlineOfF (t : Tree) : Option (Bool × List (String × PropKind × List String)) :=
  (Analysis.of t.file "F" none).toOption.map fun a =>
    (a.propTypes.isSome,
      (a.properties.flatMap preorder).map fun q => (q.name, q.kind, q.children.map (·.name)))

theorem repeatsMember_of_outlineOfF {t : Tree} {name member : String}
    {outline : List (String × PropKind × List String)} (h : outlineOfF t = some (false, outline))
    (hmem : (name, .shape, [member, member]) ∈ outline) : RepeatsMember t name member := by
  unfold outlineOfF at h
  cases ha : Analysis.of t.file "F" none with
  | error failure =>
      rw [ha] at h
      cases h
  | ok a =>
      rw [ha] at h
      obtain ⟨hnone, rfl⟩ := Prod.mk.inj (Option.some.inj h)
      obtain ⟨q, hq, heq⟩ := List.mem_map.1 hmem
      obtain ⟨p, hp, hq⟩ := List.mem_flatMap.1 hq
      obtain ⟨hname, hkind, hmembers⟩ : q.name = name ∧ q.kind = .shape ∧
          q.children.map (·.name) = [member, member] := by simpa using heq
      exact ⟨a, ha, by simpa using hnone, p, hp, q, hq, hname, hkind, hmembers⟩

theorem repeatsMember_underKey : RepeatsMember Tree.repeatedUnderKey "u" "n" := by
  have houtline : outlineOfF Tree.repeatedUnderKey =
      some (false, [("u", .shape, ["n", "n"]), ("n", .any, []), ("n", .any, [])]) := by cbv
  exact repeatsMember_of_outlineOfF houtline List.mem_cons_self

/-- The member that the shape has twice stands twice in the pattern under its key. -/
theorem unpacksTwice_underKey :
    ∃ a, Analysis.of Tree.repeatedUnderKey.file "F" none = .ok a ∧ a.propTypes = none ∧
      a.component.UnpacksTwice "u" "n" := by
  obtain ⟨a, ha, hnone, p, hp, q, hq, hname, hkind, hmembers⟩ := repeatsMember_underKey
  obtain ⟨-, -, hall⟩ := unpacksTwice_of_duplicate ha hnone {} ""
  have hshape := (hall p hp q hq (by rw [hkind]; rfl)).1
  rw [hname, hmembers] at hshape
  exact ⟨a, ha, hnone, hshape "n" (List.duplicate_cons_self_iff.2 List.mem_cons_self)⟩

/-- A pattern under a key can repeat a member, and so can one around an access. -/
theorem repeatsMember_underKey_fromAccess :
    RepeatsMember Tree.repeatedUnderKey "u" "n" ∧
      RepeatsMember Tree.repeatedFromAccess "w" "n" := by
  have houtline : outlineOfF Tree.repeatedFromAccess =
      some (false, [("u", .shape, ["w"]), ("w", .shape, ["n", "n"]), ("n", .any, []),
        ("n", .any, [])]) := by cbv
  exact ⟨repeatsMember_underKey,
    repeatsMember_of_outlineOfF houtline (List.mem_cons_of_mem _ List.mem_cons_self)⟩

end Analysis

end PropTyper
