import PropTyper.Edit.Plan
import PropTyper.Proofs.Component.Inferred
import PropTyper.Proofs.Edit.Splice
import PropTyper.Proofs.Tree.Spans

/-! # Planned edits that overlap

Of the edits that are planned for a component only the replacement of a declaration takes bytes out.
So a plan overlaps just where default values or the import are to go into the bytes of the
declaration that is replaced. In a tree as parsers leave it, the one such place is the first byte: a
declaration that opens the file before the library is brought in, or that touches what stands before
it.
-/

namespace PropTyper

namespace Analysis

open Edit

def insertions (a : Analysis) (root : Node) (settings : Settings) (data : List UInt8) : List Edit :=
  a.defaultsEdit settings data ++ importEdit root settings

theorem plan_eq (a : Analysis) (root : Node) (settings : Settings) (data : List UInt8) :
    a.plan root settings data = a.typesEdit settings data ++ a.insertions root settings data := by
  rw [plan, insertions, List.append_assoc]

theorem insertion?_cases {a : Analysis} {settings : Settings} {data : List UInt8} {label : String}
    {x : Edit} (h : a.insertion? settings data label = some x) :
    x.IsInsertion ∧
      ((a.codeStyle settings = .field ∧
          ∃ body, a.component.tree.child? .body = some body ∧ x.start = body.span.start + 1) ∨
        (a.codeStyle settings = .assignment ∧ x.start = a.component.topLevel.span.stop)) := by
  unfold insertion? at h
  split at h
  · next hstyle =>
    obtain ⟨body, hbody, rfl⟩ := Option.map_eq_some_iff.1 h
    exact ⟨rfl, .inl ⟨hstyle, body, hbody, rfl⟩⟩
  · next hstyle =>
    cases h
    exact ⟨rfl, .inr ⟨hstyle, rfl⟩⟩

theorem isInsertion_of_insertion? {a : Analysis} {settings : Settings} {data : List UInt8}
    {label : String} {x : Edit} (h : a.insertion? settings data label = some x) :
    x.IsInsertion ∧ 0 ≤ x.start := by
  obtain ⟨hinsertion, ⟨-, body, -, hstart⟩ | ⟨-, hstart⟩⟩ := insertion?_cases h
  · exact ⟨hinsertion, by omega⟩
  · exact ⟨hinsertion, by omega⟩

theorem mem_defaultsEdit {a : Analysis} {settings : Settings} {data : List UInt8} {x : Edit}
    (h : x ∈ a.defaultsEdit settings data) :
    a.insertion? settings data Declaration.defaultPropsLabel = some x := by
  unfold defaultsEdit at h
  split at h
  · exact Option.mem_toList.1 h
  · cases h

theorem mem_importEdit {root : Node} {settings : Settings} {x : Edit}
    (h : x ∈ importEdit root settings) :
    x.IsInsertion ∧ ∃ first rest, root.statements = first :: rest ∧ x.start = first.span.start := by
  unfold importEdit at h
  split at h
  · split at h
    · cases h
    · next first rest hstatements =>
      obtain rfl := List.mem_singleton.1 h
      exact ⟨rfl, first, rest, hstatements, rfl⟩
  · cases h

theorem isInsertion_of_mem_insertions {a : Analysis} {root : Node} {settings : Settings}
    {data : List UInt8} {x : Edit} (h : x ∈ a.insertions root settings data) :
    x.IsInsertion ∧ 0 ≤ x.start := by
  rcases List.mem_append.1 h with h | h
  · exact isInsertion_of_insertion? (mem_defaultsEdit h)
  · obtain ⟨hinsertion, first, rest, -, hstart⟩ := mem_importEdit h
    exact ⟨hinsertion, by omega⟩

/-- A plan overlaps if and only if an insertion lies in the declaration that is replaced. -/
theorem overlap_iff_insertion_inside (a : Analysis) (root : Node) (settings : Settings)
    (data : List UInt8) :
    (∃ start, Edit.apply data (a.plan root settings data) = .error (.overlap start)) ↔
      ∃ declaration ∈ a.propTypes, ∃ x ∈ a.insertions root settings data,
        declaration.declarationSpan.start ≤ x.start ∧ x.start < declaration.declarationSpan.stop := by
  have hinsertions : ∀ x ∈ a.insertions root settings data, x.IsInsertion :=
    fun x hx => (isInsertion_of_mem_insertions hx).1
  have hstarts : ∀ x ∈ a.insertions root settings data, 0 ≤ x.start :=
    fun x hx => (isInsertion_of_mem_insertions hx).2
  rw [plan_eq, typesEdit]
  cases hdeclared : a.propTypes with
  | none =>
      have hall : ∀ x ∈ (a.insertion? settings data settings.labelText).toList ++
          a.insertions root settings data, x.IsInsertion ∧ 0 ≤ x.start := by
        intro x hx
        rcases List.mem_append.1 hx with hx | hx
        · exact isInsertion_of_insertion? (Option.mem_toList.1 hx)
        · exact isInsertion_of_mem_insertions hx
      rw [overlap_iff_not_separate fun x hx => (hall x hx).2]
      simp [separate_of_isInsertion fun x hx => (hall x hx).1]
  | some declaration =>
      dsimp only
      rw [List.singleton_append, overlap_iff_not_separate, separate_cons_iff hinsertions]
      · simp
      · intro x hx
        rcases List.mem_cons.1 hx with rfl | hx
        · exact Int.natCast_nonneg _
        · exact hstarts x hx

end Analysis

namespace Node

/-! ## Trees that parsers leave -/

/-- A tree as a parser leaves it: nested bytes, one program whose statements hold the expressions,
and class bodies that open with a bracket before their fields. -/
structure WellParsed (r : Node) : Prop where
  nested : r.WellNested
  program : r.kind = .program
  only_program : ∀ n ∈ r.preorder, n.kind = .program → n = r
  statements : ∀ c ∈ r.children, c.kind ≠ .assignmentExpression
  braces : ∀ n ∈ r.preorder, n.kind = .classBody →
    ∀ c ∈ n.children, c.kind.isClassField = true → n.span.start < c.span.start

theorem declarationSpan_inside {r n p : Node} (hr : r.trail = []) (h : r.WellNested)
    (hn : n ∈ r.preorder) (hp : n.parent? = some p) :
    p.span.start ≤ n.declarationSpan.start ∧ n.declarationSpan.stop ≤ p.span.stop := by
  obtain ⟨hpr, hnp⟩ := mem_children_of_parent? hr hn hp
  have inside : ∀ c ∈ p.children, p.span.start ≤ c.span.start ∧ c.span.stop ≤ p.span.stop :=
    fun c hc => (h p hpr).inside c.tree (tree_mem_of_mem_children hc)
  unfold declarationSpan
  dsimp only
  split
  · next q hq =>
    obtain ⟨hq, -⟩ := Option.filter_eq_some_iff.1 hq
    cases hp.symm.trans hq
    exact ⟨Nat.le_refl _, Nat.le_refl _⟩
  · split
    · next semicolon hsemicolon =>
      obtain ⟨hnext, -⟩ := Option.filter_eq_some_iff.1 hsemicolon
      exact ⟨(inside n hnp).1, (inside semicolon (mem_children_of_nextSibling? hnp hnext)).2⟩
    · exact inside n hnp

theorem declarationSpan_start_of_isClassField {n : Node} (h : n.kind.isClassField = true) :
    n.declarationSpan.start = n.span.start := by
  have hkind : n.kind ≠ .assignmentExpression := by
    rintro hkind
    rw [hkind] at h
    cases h
  unfold declarationSpan
  simp only [hkind, decide_false, Bool.false_and]
  split
  · next q hq => simp at hq
  · split <;> rfl

theorem mem_preorder_of_declaration? {r n : Node} {name label : String}
    (h : r.declaration? name label = some n) :
    n ∈ r.preorder ∧
      (n.isDeclarationField name label = true ∨ n.isDeclarationAssignment name label = true) := by
  unfold declaration? at h
  rcases Option.or_eq_some_iff.1 h with h | ⟨-, h⟩
  · exact ⟨(mem_select_iff.1 (List.mem_of_find?_eq_some h)).1, .inl (List.find?_some h)⟩
  · exact ⟨(mem_select_iff.1 (List.mem_of_find?_eq_some h)).1, .inr (List.find?_some h)⟩

theorem kind_of_isDeclarationAssignment {n : Node} {name label : String}
    (h : n.isDeclarationAssignment name label = true) : n.kind = .assignmentExpression := by
  unfold isDeclarationAssignment at h
  simpa using (Bool.and_eq_true_iff.1 h).1

theorem isDeclarationField_cases {n : Node} {name label : String}
    (h : n.isDeclarationField name label = true) :
    n.kind.isClassField = true ∧ ∃ body owner, n.parent? = some body ∧ body.kind = .classBody ∧
      body.parent? = some owner ∧ owner.kind.isClass = true ∧ owner.declaredName? = some name := by
  unfold isDeclarationField at h
  rw [Bool.and_eq_true_iff, Bool.and_eq_true_iff] at h
  obtain ⟨⟨hkind, -⟩, h⟩ := h
  refine ⟨hkind, ?_⟩
  split at h
  · next key object owner _ _ howner =>
    have hname : owner.declaredName? = some name := by
      simpa using (Bool.and_eq_true_iff.1 h).2
    unfold enclosingClass? at howner
    split at howner
    · cases howner
    · next body hbody =>
      split at howner
      · next hclass =>
        obtain ⟨hparent, howner⟩ := Option.filter_eq_some_iff.1 howner
        exact ⟨body, owner, hbody, hclass, hparent, howner, hname⟩
      · cases howner
  · cases h

theorem WellParsed.declaration_inside_statement {r n : Node} (h : r.WellParsed)
    (hr : r.trail = []) {name label : String} (hn : r.declaration? name label = some n) :
    ∃ c ∈ r.children, c.span.start ≤ n.declarationSpan.start ∧
      n.declarationSpan.stop ≤ c.span.stop := by
  obtain ⟨hmem, hcases⟩ := mem_preorder_of_declaration? hn
  obtain ⟨p, hp, hne⟩ : ∃ p, n.parent? = some p ∧ p ≠ r := by
    rcases hcases with hfield | hassignment
    · obtain ⟨-, body, -, hbody, hkind, -⟩ := isDeclarationField_cases hfield
      refine ⟨body, hbody, ?_⟩
      rintro rfl
      rw [h.program] at hkind
      cases hkind
    · have hkind := kind_of_isDeclarationAssignment hassignment
      cases hparent : n.parent? with
      | none =>
          have htrail : n.trail = [] := by
            unfold parent? at hparent
            split at hparent
            · assumption
            · cases hparent
          rw [eq_of_trail_eq_nil hmem htrail, h.program] at hkind
          cases hkind
      | some p =>
          refine ⟨p, rfl, ?_⟩
          rintro rfl
          exact h.statements n (mem_children_of_parent? hr hmem hparent).2 hkind
  obtain ⟨hstart, hstop⟩ := declarationSpan_inside hr h.nested hmem hp
  have hpr := (mem_children_of_parent? hr hmem hp).1
  rcases mem_preorder_iff.1 hpr with rfl | ⟨c, hc, hpc⟩
  · exact (hne rfl).elim
  · obtain ⟨hcstart, hcstop⟩ := span_of_mem_preorder (h.nested.child hc) hpc
    exact ⟨c, hc, Nat.le_trans hcstart hstart, Nat.le_trans hstop hcstop⟩

theorem WellParsed.topLevel_mem_children {r n : Node} (h : r.WellParsed) (hr : r.trail = [])
    (hn : n ∈ r.preorder) (hne : n ≠ r) : n.topLevel ∈ r.children := by
  obtain ⟨t, trail⟩ := n
  unfold topLevel
  dsimp only
  induction trail generalizing t with
  | nil => exact (hne (eq_of_trail_eq_nil hn rfl)).elim
  | cons step rest ih =>
      obtain ⟨hparent, hchild⟩ := mem_children_of_parent? hr hn rfl
      unfold topLevel.climb
      split
      · next hkind =>
        rwa [h.only_program _ hparent hkind] at hchild
      · next hkind =>
        refine ih step.parent hparent ?_
        rintro rfl
        exact hkind h.program

/-- In a class that is declared in, the start of the body lies before the declaration or after it.
-/
theorem WellParsed.body_start_outside {r n component : Node} {body : Tree} {name label : String}
    (h : r.WellParsed) (hr : r.trail = []) (hcomponent : r.component? name = some component)
    (hbody : component.tree.child? .body = some body) (hn : n ∈ r.preorder)
    (hfield : n.isDeclarationField name label = true) :
    body.span.start + 1 ≤ n.declarationSpan.start ∨ n.declarationSpan.stop ≤ body.span.start := by
  obtain ⟨hkind, block, owner, hblock, hblockKind, howner, hclass, hname⟩ :=
    isDeclarationField_cases hfield
  obtain ⟨hblockMem, hnblock⟩ := mem_children_of_parent? hr hn hblock
  obtain ⟨hownerMem, hblockOwner⟩ := mem_children_of_parent? hr hblockMem howner
  have hmem : component ∈ r.preorder :=
    (mem_select_iff.1 (List.mem_of_find?_eq_some hcomponent)).1
  have hbrace : block.span.start < n.declarationSpan.start := by
    rw [declarationSpan_start_of_isClassField hkind]
    exact h.braces block hblockMem hblockKind n hnblock hkind
  have hinside := declarationSpan_inside hr h.nested hn hblock
  obtain ⟨b, hb, rfl⟩ : ∃ b ∈ component.children, b.tree = body := by
    have := Tree.mem_children_of_child? hbody
    rw [← map_tree_children] at this
    exact List.mem_map.1 this
  have hbMem := mem_preorder_of_mem_children hmem hb
  rcases below_or_apart h.nested hblockMem hbMem with hbelow | hbelow | hafter | hbefore
  · have := (span_of_mem_preorder (fun m hm => h.nested m (mem_preorder_trans hbMem hm)) hbelow).1
    exact .inl (Nat.lt_of_le_of_lt this hbrace)
  · rcases eq_or_mem_children hbelow with rfl | ⟨p, hp, hbp⟩
    · exact .inl hbrace
    · -- the component would stand below a class of its name, though it is the first of them
      cases (parent?_of_mem_children hb).symm.trans (parent?_of_mem_children hbp)
      have hfirst : component = owner := by
        refine not_below_of_find? hcomponent (mem_select_iff.2 ⟨hownerMem, ?_⟩)
          (decide_eq_true hname) (mem_preorder_iff.2 (.inr ⟨block, hblockOwner, hp⟩))
        rw [isCandidate, hclass, Bool.true_or]
      have hle := sizeOf_le_of_mem_preorder hp
      rw [hfirst] at hle
      exact absurd (sizeOf_child_lt hblockOwner) (Nat.not_lt.2 hle)
  · exact .inr (Nat.le_trans hinside.2 hafter)
  · have hle := span_le h.nested hbMem
    exact .inl (Nat.lt_of_le_of_lt (Nat.le_trans hle hbefore) hbrace)

end Node

namespace Analysis

theorem of_eq_ok {d : Document} {name : String} {label : Option String} {a : Analysis}
    (h : Analysis.of d name label = .ok a) :
    a.component ∈ d.node.component? name ∧
      a.propTypes = d.node.declaration? name (typesLabel label) := by
  obtain ⟨component, hcomponent, rfl⟩ := Option.map_eq_some_iff.1 (locate?_of_eq_ok h)
  exact ⟨hcomponent, rfl⟩

/-- In a tree that a parser leaves, an insertion inside the declaration is at its first byte. -/
theorem start_eq_of_inside {d : Document} {name : String} {label : Option String} {a : Analysis}
    (ha : Analysis.of d name label = .ok a) (hparsed : d.node.WellParsed) {declaration : Node}
    (hdeclaration : a.propTypes = some declaration) {settings : Settings} {data : List UInt8}
    {x : Edit} (hx : x ∈ a.insertions d.node settings data)
    (hstart : declaration.declarationSpan.start ≤ x.start)
    (hstop : x.start < declaration.declarationSpan.stop) :
    x.start = declaration.declarationSpan.start := by
  obtain ⟨hcomponent, hpropTypes⟩ := of_eq_ok ha
  rw [hdeclaration] at hpropTypes
  obtain ⟨c, hc, hcstart, hcstop⟩ := hparsed.declaration_inside_statement rfl hpropTypes.symm
  have hroot := hparsed.nested d.node (Node.mem_preorder_self _)
  have hspan : ∀ s ∈ d.node.children, s.span.start ≤ s.span.stop := fun s hs =>
    Node.span_le hparsed.nested (Node.mem_preorder_of_mem_children (Node.mem_preorder_self _) hs)
  rcases List.mem_append.1 hx with hx | hx
  · obtain ⟨-, ⟨hstyle, body, hbody, heq⟩ | ⟨-, heq⟩⟩ := insertion?_cases (mem_defaultsEdit hx)
    · obtain ⟨hmem, hfield | hassignment⟩ := Node.mem_preorder_of_declaration? hpropTypes.symm
      · rcases hparsed.body_start_outside rfl hcomponent hbody hmem hfield with h | h
        · omega
        · omega
      · simp [codeStyle, hdeclaration, Node.kind_of_isDeclarationAssignment hassignment,
          Kind.isClassField] at hstyle
    · have htop : a.component.topLevel ∈ d.node.children := by
        obtain ⟨hmem, hcandidate⟩ := Node.mem_select_iff.1 (List.mem_of_find?_eq_some hcomponent)
        refine hparsed.topLevel_mem_children rfl hmem ?_
        intro hroot
        rw [hroot, hparsed.program] at hcandidate
        cases hcandidate
      have hle := hspan _ htop
      rcases Node.children_apart hroot hc htop with rfl | hafter | hbefore
      · omega
      · omega
      · omega
  · obtain ⟨-, first, rest, hstatements, heq⟩ := mem_importEdit hx
    have hfirst : first ∈ d.node.children := by
      have : first ∈ d.node.statements := by rw [hstatements]; exact List.mem_cons_self
      exact (List.mem_filter.1 (List.mem_filter.1 this).1).1
    have hle := hspan _ hfirst
    rcases Node.children_apart hroot hc hfirst with rfl | hafter | hbefore
    · omega
    · omega
    · omega

/-- The edits planned for a component overlap if and only if default values or the import are to go
inside the declaration that is replaced; in a tree that a parser leaves, if and only if they are to
go to its first byte. -/
theorem plan_overlaps_iff {d : Document} {name : String} {label : Option String} {a : Analysis}
    (ha : Analysis.of d name label = .ok a) (settings : Settings) (data : List UInt8) :
    ((∃ start, Edit.apply data (a.plan d.node settings data) = .error (.overlap start)) ↔
      ∃ declaration ∈ a.propTypes, ∃ x ∈ a.insertions d.node settings data,
        declaration.declarationSpan.start ≤ x.start ∧
          x.start < declaration.declarationSpan.stop) ∧
    (d.node.WellParsed →
      ((∃ start, Edit.apply data (a.plan d.node settings data) = .error (.overlap start)) ↔
        ∃ declaration ∈ a.propTypes,
          declaration.declarationSpan.start < declaration.declarationSpan.stop ∧
            ∃ x ∈ a.insertions d.node settings data,
              x.start = declaration.declarationSpan.start)) := by
  refine ⟨overlap_iff_insertion_inside a d.node settings data, fun hparsed => ?_⟩
  rw [overlap_iff_insertion_inside]
  constructor
  · rintro ⟨declaration, hdeclaration, x, hx, hstart, hstop⟩
    have heq := start_eq_of_inside ha hparsed hdeclaration hx hstart hstop
    exact ⟨declaration, hdeclaration, by omega, x, hx, heq⟩
  · rintro ⟨declaration, hdeclaration, hlt, x, hx, heq⟩
    exact ⟨declaration, hdeclaration, x, hx, by omega, by omega⟩

/-- The program `F.propTypes={a:any};function F(){}`, whose first statement is the declaration. -/
def declarationFirst : Tree :=
  let target : Tree :=
    { kind := .memberExpression, span := ⟨0, 11⟩, text := "F.propTypes", fields := [.left]
      children := [
        { kind := .identifier, span := ⟨0, 1⟩, text := "F", fields := [.object] },
        { kind := .propertyIdentifier, span := ⟨2, 11⟩, text := "propTypes", fields := [.property] }] }
  let entry : Tree :=
    { kind := .pair, span := ⟨13, 18⟩, text := "a:any"
      children := [
        { kind := .propertyIdentifier, span := ⟨13, 14⟩, text := "a", fields := [.key] },
        { kind := .identifier, span := ⟨15, 18⟩, text := "any", fields := [.value] }] }
  let types : Tree :=
    { kind := .object, span := ⟨12, 19⟩, text := "\x7ba:any\x7d", fields := [.right]
      children := [entry] }
  let assignment : Tree :=
    { kind := .assignmentExpression, span := ⟨0, 19⟩, text := "F.propTypes=\x7ba:any\x7d"
      children := [target, types] }
  let statement : Tree :=
    { kind := .expressionStatement, span := ⟨0, 20⟩, text := "F.propTypes=\x7ba:any\x7d;"
      children := [assignment] }
  let component : Tree :=
    { kind := .functionDeclaration, span := ⟨20, 34⟩, text := "function F()\x7b\x7d"
      children := [{ kind := .identifier, span := ⟨29, 30⟩, text := "F", fields := [.name] }] }
  { kind := .program, span := ⟨0, 34⟩, text := "F.propTypes=\x7ba:any\x7d;function F()\x7b\x7d"
    children := [statement, component] }

def declarationFirstFile : Document :=
  ⟨"f.js", "javascript", declarationFirst.text, declarationFirst⟩

theorem wellParsed_declarationFirst : declarationFirstFile.node.WellParsed := by
  have hall : declarationFirstFile.node.preorder.all (fun n =>
      decide n.tree.Nested && (n.kind ≠ .program || n.trail.isEmpty) && n.kind ≠ .classBody) = true := by
    decide +kernel
  have hnode := List.all_eq_true.1 hall
  refine ⟨fun n hn => ?_, rfl, fun n hn hkind => ?_, ?_, fun n hn hkind => ?_⟩
  · have := hnode n hn
    simp at this
    exact this.1.1
  · have := hnode n hn
    simp [hkind] at this
    exact Node.eq_of_trail_eq_nil hn this.2
  · intro c hc
    have hkinds : declarationFirstFile.node.children.all
        (fun c => c.kind ≠ .assignmentExpression) = true := by decide +kernel
    simpa using List.all_eq_true.1 hkinds c hc
  · have := hnode n hn
    simp [hkind] at this

theorem typesEdit_of_span {a : Analysis} {span : Span}
    (h : a.propTypes.map Node.declarationSpan = some span) (settings : Settings) (data : List UInt8) :
    a.typesEdit settings data = [⟨span.start, span.stop,
      a.statement settings settings.labelText (lineIndent data span.start)⟩] := by
  obtain ⟨declaration, hdeclaration, rfl⟩ := Option.map_eq_some_iff.1 h
  unfold typesEdit
  rw [hdeclaration]

theorem importEdit_declarationFirst :
    importEdit declarationFirstFile.node {} = [⟨0, 0, "import PropTypes from 'prop-types';\n"⟩] := by
  decide +kernel

theorem overlap_of_declarationFirst (data : List UInt8) :
    ∃ a, Analysis.of declarationFirstFile "F" none = .ok a ∧
      Edit.apply data (a.plan declarationFirstFile.node {} data) = .error (.overlap 0) := by
  have hspan : (Analysis.of declarationFirstFile "F" none).toOption.bind
      (fun a => a.propTypes.map Node.declarationSpan) = some ⟨0, 20⟩ := by
    decide +kernel
  cases ha : Analysis.of declarationFirstFile "F" none with
  | error failure =>
      rw [ha] at hspan
      cases hspan
  | ok a =>
      rw [ha] at hspan
      have hplan : ∃ statement line, a.plan declarationFirstFile.node {} data =
          [⟨0, 20, statement⟩, ⟨0, 0, line⟩] := by
        rw [plan, typesEdit_of_span hspan, importEdit_declarationFirst]
        exact ⟨_, _, rfl⟩
      obtain ⟨statement, line, hplan⟩ := hplan
      refine ⟨a, rfl, ?_⟩
      rw [hplan, Edit.apply, Edit.splice, Edit.inOrder, List.mergeSort_of_pairwise (by simp)]
      rfl

/-- There the import is to go to the first byte of the declaration. -/
theorem insertion_at_declarationFirst :
    ∃ a, Analysis.of declarationFirstFile "F" none = .ok a ∧
      ∃ declaration ∈ a.propTypes,
        declaration.declarationSpan.start < declaration.declarationSpan.stop ∧
          ∃ x ∈ a.insertions declarationFirstFile.node {} [],
            x.start = declaration.declarationSpan.start := by
  obtain ⟨a, ha, happly⟩ := overlap_of_declarationFirst []
  exact ⟨a, ha, ((plan_overlaps_iff ha {} []).2 wellParsed_declarationFirst).1 ⟨0, happly⟩⟩

/-- The edits that are planned for a component of a well-formed file can overlap. -/
theorem exists_plan_overlaps :
    declarationFirstFile.node.WellParsed ∧
      ∃ a, Analysis.of declarationFirstFile "F" none = .ok a ∧
        Edit.apply declarationFirst.text.toUTF8.toList
            (a.plan declarationFirstFile.node {} declarationFirst.text.toUTF8.toList) =
          .error (.overlap 0) :=
  ⟨wellParsed_declarationFirst, overlap_of_declarationFirst _⟩

end Analysis

end PropTyper
