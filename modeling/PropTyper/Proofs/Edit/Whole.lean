import PropTyper.Proofs.Edit.Overlap
import PropTyper.Proofs.Evidence.Usage

/-! # Which bytes a declaration is replaced in

The new declaration is a statement or a field of a class and ends in a semicolon. The bytes that it
replaces are a whole statement or a whole field if the old declaration stands alone. An assignment
inside another expression is a declaration too, and there the new text lands in the middle of the
code around it.
-/

namespace PropTyper

namespace Node

/-! ## Whole declarations -/

def WithSemicolon (n : Node) (span : Span) : Prop :=
  span = n.span ∨
    ∃ s, n.nextSibling? = some s ∧ s.kind = .other ";" ∧ span = ⟨n.span.start, s.span.stop⟩

/-- The bytes of a whole statement, or of a whole field of a class. -/
def IsWhole (m : Node) (span : Span) : Prop :=
  (m.kind = .expressionStatement ∧ span = m.span) ∨
    (m.kind.isClassField = true ∧ m.WithSemicolon span)

/-- A declaration that is a field of a class, or that makes up a statement. -/
def StandsAlone (n : Node) : Prop :=
  n.kind.isClassField = true ∨ ∃ p, n.parent? = some p ∧ p.kind = .expressionStatement

theorem isClassField_of_isDeclarationField {n : Node} {name label : String}
    (h : n.isDeclarationField name label = true) : n.kind.isClassField = true :=
  (isDeclarationField_cases h).1

theorem declarationSpan_of_statement {n p : Node} (hkind : n.kind = .assignmentExpression)
    (hp : n.parent? = some p) (hstatement : p.kind = .expressionStatement) :
    n.declarationSpan = p.span := by
  simp [declarationSpan, hkind, hp, hstatement, Option.filter]

theorem withSemicolon_declarationSpan {n : Node}
    (h : n.kind = .assignmentExpression → ∀ p, n.parent? = some p → p.kind ≠ .expressionStatement) :
    n.WithSemicolon n.declarationSpan := by
  unfold declarationSpan
  dsimp only
  split
  · next p hp =>
    obtain ⟨hp, hboth⟩ := Option.filter_eq_some_iff.1 hp
    simp only [Bool.and_eq_true, decide_eq_true_eq] at hboth
    exact absurd hboth.2 (h hboth.1 p hp)
  · split
    · next s hs =>
      obtain ⟨hs, hkind⟩ := Option.filter_eq_some_iff.1 hs
      exact .inr ⟨s, hs, of_decide_eq_true hkind, rfl⟩
    · exact .inl rfl

/-- A declaration that stands alone is replaced as a whole. -/
theorem exists_isWhole_of_standsAlone {r n : Node} {name label : String} (hr : r.trail = [])
    (hn : r.declaration? name label = some n) (h : n.StandsAlone) :
    ∃ m ∈ r.preorder, m.IsWhole n.declarationSpan := by
  obtain ⟨hmem, hcases⟩ := mem_preorder_of_declaration? hn
  by_cases hfield : n.kind.isClassField = true
  · have hkind : n.kind ≠ .assignmentExpression := by
      intro hkind
      rw [hkind] at hfield
      cases hfield
    exact ⟨n, hmem, .inr ⟨hfield, withSemicolon_declarationSpan fun h => absurd h hkind⟩⟩
  · obtain ⟨p, hp, hstatement⟩ := h.resolve_left hfield
    have hkind : n.kind = .assignmentExpression :=
      kind_of_isDeclarationAssignment
        (hcases.resolve_left fun h => hfield (isClassField_of_isDeclarationField h))
    exact ⟨p, (mem_children_of_parent? hr hmem hp).1,
      .inl ⟨hstatement, declarationSpan_of_statement hkind hp hstatement⟩⟩

/-! ## Bytes of neighbours -/

theorem apart_of_nextSibling? {p n s c : Node} (h : p.tree.Nested) (hn : n ∈ p.children)
    (hs : n.nextSibling? = some s) (hc : c ∈ p.children) :
    c = n ∨ c = s ∨ c.span.stop ≤ n.span.start ∨ s.span.stop ≤ c.span.start := by
  obtain ⟨i, t, ht, rfl⟩ := mem_children_iff.1 hn
  obtain ⟨j, u, hu, rfl⟩ := mem_children_iff.1 hc
  obtain ⟨v, hv, rfl⟩ := Option.map_eq_some_iff.1 hs
  rcases Nat.lt_trichotomy j i with hji | rfl | hij
  · exact .inr (.inr (.inl (h.stop_le_start hu ht hji)))
  · cases hu.symm.trans ht
    exact .inl rfl
  · rcases Nat.lt_or_eq_of_le (Nat.succ_le_of_lt hij) with hlt | rfl
    · exact .inr (.inr (.inr (h.stop_le_start hv hu hlt)))
    · cases hu.symm.trans hv
      exact .inr (.inl rfl)

theorem stop_le_start_of_nextSibling? {p n s : Node} (h : p.tree.Nested) (hn : n ∈ p.children)
    (hs : n.nextSibling? = some s) : n.span.stop ≤ s.span.start := by
  obtain ⟨i, t, ht, rfl⟩ := mem_children_iff.1 hn
  obtain ⟨v, hv, rfl⟩ := Option.map_eq_some_iff.1 hs
  exact h.stop_le_start ht hv (Nat.lt_succ_self i)

theorem WithSemicolon.bounds {p n : Node} {span : Span} (h : n.WithSemicolon span)
    (hnested : ∀ c ∈ p.children, c.span.start ≤ c.span.stop) (hp : p.tree.Nested)
    (hn : n ∈ p.children) :
    span.start = n.span.start ∧ n.span.stop ≤ span.stop ∧ span.stop ≤ p.span.stop := by
  have inside : ∀ c ∈ p.children, c.span.stop ≤ p.span.stop :=
    fun c hc => (hp.inside c.tree (tree_mem_of_mem_children hc)).2
  rcases h with rfl | ⟨s, hs, -, rfl⟩
  · exact ⟨rfl, Nat.le_refl _, inside n hn⟩
  · have hsp := mem_children_of_nextSibling? hn hs
    have hle := stop_le_start_of_nextSibling? hp hn hs
    exact ⟨rfl, Nat.le_trans hle (hnested s hsp), inside s hsp⟩

/-! ## Declarations inside other code -/

/-- A tree as a parser leaves it: nested bytes below one program; literals, accesses, statements and
fields have bytes; and an assignment fills nothing but a statement, since all other code that holds
one has a token beside it. -/
structure Delimited (r : Node) : Prop where
  nested : r.WellNested
  program : r.kind = .program
  solid : ∀ n ∈ r.preorder, n.kind = .object ∨ n.kind = .memberExpression ∨
    n.kind = .expressionStatement ∨ n.kind.isClassField = true → n.span.start < n.span.stop
  fills : ∀ n ∈ r.preorder, n.kind = .assignmentExpression → ∀ p, n.parent? = some p →
    p.span = n.declarationSpan → p.kind = .expressionStatement

theorem sides_of_isDeclarationAssignment {n : Node} {name label : String}
    (h : n.isDeclarationAssignment name label = true) :
    (∃ c ∈ n.children, c.kind = .memberExpression) ∧ ∃ c ∈ n.children, c.kind = .object := by
  have child : ∀ {field kind side}, n.tree.childOf? field kind = some side →
      ∃ c ∈ n.children, c.kind = kind := by
    intro field kind side hside
    obtain ⟨hside, hkind⟩ := Option.filter_eq_some_iff.1 hside
    have hmem := Tree.mem_children_of_child? hside
    rw [← map_tree_children] at hmem
    obtain ⟨c, hc, rfl⟩ := List.mem_map.1 hmem
    exact ⟨c, hc, of_decide_eq_true hkind⟩
  unfold isDeclarationAssignment at h
  cases hleft : n.tree.childOf? .left .memberExpression with
  | none => simp [hleft] at h
  | some left =>
    cases hright : n.tree.childOf? .right .object with
    | none => simp [hleft, hright] at h
    | some right => exact ⟨child hleft, child hright⟩

theorem IsWhole.withSemicolon {m : Node} {span : Span} (h : m.IsWhole span) :
    m.WithSemicolon span :=
  h.elim (fun h => .inl h.2) fun h => h.2

theorem IsWhole.kind_ne {m : Node} {span : Span} {kind : Kind} (h : m.IsWhole span)
    (hstatement : kind ≠ .expressionStatement) (hfield : kind.isClassField = false) :
    m.kind ≠ kind := by
  intro hkind
  rcases h with ⟨hother, -⟩ | ⟨hother, -⟩
  · exact hstatement (hkind.symm.trans hother)
  · rw [hkind, hfield] at hother
    cases hother

namespace Delimited

variable {r n m : Node} {name label : String} {span : Span}

theorem start_lt_stop_of_isWhole (h : r.Delimited) (hm : m ∈ r.preorder) (hwhole : m.IsWhole span) :
    m.span.start < m.span.stop :=
  h.solid m hm (.inr (.inr (hwhole.imp And.left And.left)))

theorem bounds_of_isWhole (h : r.Delimited) (hm : m ∈ r.preorder) (hwhole : m.IsWhole span) :
    ∃ q ∈ r.preorder, m ∈ q.children ∧ span.start = m.span.start ∧ m.span.stop ≤ span.stop ∧
      span.stop ≤ q.span.stop := by
  rcases eq_or_mem_children hm with rfl | ⟨q, hq, hmq⟩
  · exact absurd h.program (hwhole.kind_ne (by decide) rfl)
  · have hle : ∀ c ∈ q.children, c.span.start ≤ c.span.stop :=
      fun c hc => span_le h.nested (mem_preorder_of_mem_children hq hc)
    exact ⟨q, hq, hmq, hwhole.withSemicolon.bounds hle (h.nested q hq) hmq⟩

/-- The literal on the right of a declaration by assignment has some of its bytes. -/
theorem exists_literal (h : r.Delimited) (hn : n ∈ r.preorder)
    (hdeclaration : n.isDeclarationAssignment name label = true) :
    ∃ right ∈ n.children, right.kind = .object ∧ n.span.start ≤ right.span.start ∧
      right.span.start < right.span.stop ∧ right.span.stop ≤ n.span.stop := by
  obtain ⟨-, right, hright, hkind⟩ := sides_of_isDeclarationAssignment hdeclaration
  obtain ⟨hstart, hstop⟩ := (h.nested n hn).inside right.tree (tree_mem_of_mem_children hright)
  exact ⟨right, hright, hkind, hstart,
    h.solid right (mem_preorder_of_mem_children hn hright) (.inl hkind), hstop⟩

theorem not_covered_by_child (h : r.Delimited) (hn : n ∈ r.preorder)
    (hdeclaration : n.isDeclarationAssignment name label = true) {c : Node} (hc : c ∈ n.children) :
    ¬ (c.span.start ≤ n.span.start ∧ n.span.stop ≤ c.span.stop) := by
  rintro ⟨hstart, hstop⟩
  obtain ⟨⟨left, hleft, hleftKind⟩, right, hright, hrightKind⟩ :=
    sides_of_isDeclarationAssignment hdeclaration
  -- One of the two sides is another child than `c`, has bytes, and finds no room beside it.
  obtain ⟨x, hx, hne, hlt⟩ : ∃ x ∈ n.children, c ≠ x ∧ x.span.start < x.span.stop := by
    by_cases heq : c = left
    · refine ⟨right, hright, ?_, h.solid right (mem_preorder_of_mem_children hn hright)
        (.inl hrightKind)⟩
      rintro rfl
      rw [heq, hleftKind] at hrightKind
      cases hrightKind
    · exact ⟨left, hleft, heq, h.solid left (mem_preorder_of_mem_children hn hleft)
        (.inr (.inl hleftKind))⟩
  have hinside : n.span.start ≤ x.span.start ∧ x.span.stop ≤ n.span.stop :=
    (h.nested n hn).inside x.tree (tree_mem_of_mem_children hx)
  rcases (children_apart (h.nested n hn) hc hx).resolve_left hne with hafter | hbefore
  · omega
  · omega

/-- No statement or field below a declaration by assignment reaches over all of its bytes. -/
theorem not_isWhole_below (h : r.Delimited) (hn : n ∈ r.preorder)
    (hdeclaration : n.isDeclarationAssignment name label = true) {q : Node} (hq : q ∈ n.preorder)
    (hm : m ∈ q.children) (hwhole : m.IsWhole span) (hstart : span.start = n.span.start)
    (hstop : n.span.stop ≤ span.stop) : False := by
  have hqr := mem_preorder_trans hn hq
  have hmr := mem_preorder_of_mem_children hqr hm
  obtain ⟨q', -, hmq', hspan, hmstop, hqstop⟩ := h.bounds_of_isWhole hmr hwhole
  cases (parent?_of_mem_children hm).symm.trans (parent?_of_mem_children hmq')
  have hmlt := h.start_lt_stop_of_isWhole hmr hwhole
  have hqm : q.span.start ≤ m.span.start :=
    ((h.nested q hqr).inside m.tree (tree_mem_of_mem_children hm)).1
  rcases mem_preorder_iff.1 hq with rfl | ⟨c, hc, hqc⟩
  · -- The literal on the right is neither the field nor its semicolon, and has no room.
    obtain ⟨right, hright, hkind, hrightStart, hlt, hrightStop⟩ := h.exists_literal hn hdeclaration
    have hne : right ≠ m := by
      rintro rfl
      exact hwhole.kind_ne (by decide) rfl hkind
    rcases hwhole.withSemicolon with rfl | ⟨s, hs, hsemicolon, rfl⟩
    · exact h.not_covered_by_child hn hdeclaration hm ⟨by omega, by omega⟩
    · have hnes : right ≠ s := by
        rintro rfl
        rw [hkind] at hsemicolon
        cases hsemicolon
      dsimp only at hstart hstop hqstop
      rcases ((apart_of_nextSibling? (h.nested q hn) hm hs hright).resolve_left hne).resolve_left
        hnes with hbefore | hafter
      · omega
      · omega
  · -- All of it lies below one child, which would have all of the bytes.
    have hcr := mem_preorder_of_mem_children hn hc
    have hcq := span_of_mem_preorder (fun x hx => h.nested x (mem_preorder_trans hcr hx)) hqc
    exact h.not_covered_by_child hn hdeclaration hc ⟨by omega, by omega⟩

/-- A statement or field that ends with a declaration by assignment below it, and starts with it, has
the declaration for its expression. -/
theorem standsAlone_of_isWhole_above (h : r.Delimited) (hr : r.trail = []) (hm : m ∈ r.preorder)
    (hkind : n.kind = .assignmentExpression) (hbelow : n ∈ m.preorder)
    (hwhole : m.IsWhole n.declarationSpan) : n.StandsAlone := by
  rcases eq_or_mem_children hbelow with rfl | ⟨p, hp, hnp⟩
  · exact absurd hkind (hwhole.kind_ne (by decide) rfl)
  · have hparent := parent?_of_mem_children hnp
    have hnr := mem_preorder_trans hm hbelow
    obtain ⟨-, -, -, hstart, hstop, -⟩ := h.bounds_of_isWhole hm hwhole
    have hpm := span_of_mem_preorder (fun x hx => h.nested x (mem_preorder_trans hm hx)) hp
    have hinside := declarationSpan_inside hr h.nested hnr hparent
    have hspan : p.span = n.declarationSpan := by
      rw [Span.mk.injEq]
      omega
    exact .inr ⟨p, hparent, h.fills n hnr hkind p hparent hspan⟩

theorem start_lt_stop_of_isDeclarationAssignment (h : r.Delimited) (hn : n ∈ r.preorder)
    (hdeclaration : n.isDeclarationAssignment name label = true) : n.span.start < n.span.stop := by
  obtain ⟨right, -, -, hstart, hlt, hstop⟩ := h.exists_literal hn hdeclaration
  omega

theorem exists_parent (h : r.Delimited) (hn : n ∈ r.preorder)
    (hkind : n.kind = .assignmentExpression) : ∃ p ∈ r.preorder, n ∈ p.children := by
  rcases eq_or_mem_children hn with rfl | hparent
  · rw [h.program] at hkind
    cases hkind
  · exact hparent

/-- Only what stands alone is replaced as a whole. -/
theorem standsAlone_of_isWhole (h : r.Delimited) (hr : r.trail = [])
    (hn : r.declaration? name label = some n) (hm : m ∈ r.preorder)
    (hwhole : m.IsWhole n.declarationSpan) : n.StandsAlone := by
  obtain ⟨hmem, hfield | hdeclaration⟩ := mem_preorder_of_declaration? hn
  · exact .inl (isClassField_of_isDeclarationField hfield)
  · by_contra hnot
    have hkind := kind_of_isDeclarationAssignment hdeclaration
    have hlt := h.start_lt_stop_of_isDeclarationAssignment hmem hdeclaration
    have hmlt := h.start_lt_stop_of_isWhole hm hwhole
    obtain ⟨p, hp, hnp⟩ := h.exists_parent hmem hkind
    have hspan : n.WithSemicolon n.declarationSpan :=
      withSemicolon_declarationSpan fun _ p hp hstatement => hnot (.inr ⟨p, hp, hstatement⟩)
    obtain ⟨hstart, hstop, -⟩ := hspan.bounds
      (fun c hc => span_le h.nested (mem_preorder_of_mem_children hp hc)) (h.nested p hp) hnp
    obtain ⟨-, -, -, hmstart, hmstop, -⟩ := h.bounds_of_isWhole hm hwhole
    -- The two start together and have bytes, so one of them is below the other.
    rcases below_or_apart h.nested hm hmem with hbelow | habove | hafter | hbefore
    · rcases eq_or_mem_children hbelow with rfl | ⟨q, hqn, hmq⟩
      · exact hnot (h.standsAlone_of_isWhole_above hr hmem hkind (mem_preorder_self m) hwhole)
      · exact h.not_isWhole_below hmem hdeclaration hqn hmq hwhole hstart hstop
    · exact hnot (h.standsAlone_of_isWhole_above hr hm hkind habove hwhole)
    · omega
    · omega

/-- What does not stand alone is part of something larger. -/
theorem inside_of_not_standsAlone (h : r.Delimited) (hr : r.trail = [])
    (hn : r.declaration? name label = some n) (hnot : ¬ n.StandsAlone) :
    ∃ p ∈ r.preorder, n ∈ p.children ∧ p.kind ≠ .expressionStatement ∧
      p.span.start ≤ n.declarationSpan.start ∧ n.declarationSpan.stop ≤ p.span.stop ∧
      p.span ≠ n.declarationSpan := by
  obtain ⟨hmem, hfield | hdeclaration⟩ := mem_preorder_of_declaration? hn
  · exact absurd (.inl (isClassField_of_isDeclarationField hfield)) hnot
  · have hkind := kind_of_isDeclarationAssignment hdeclaration
    obtain ⟨p, hp, hnp⟩ := h.exists_parent hmem hkind
    have hparent := parent?_of_mem_children hnp
    have hstatement : p.kind ≠ .expressionStatement := fun hk => hnot (.inr ⟨p, hparent, hk⟩)
    have hinside := declarationSpan_inside hr h.nested hmem hparent
    exact ⟨p, hp, hnp, hstatement, hinside.1, hinside.2,
      fun heq => hstatement (h.fills n hmem hkind p hparent heq)⟩

end Delimited

end Node

/-! ## A declaration in a conditional expression -/

/-- The assignment in `D?F.propTypes={}:x;` -/
def Tree.chosenDeclaration : Tree :=
  piece .assignmentExpression 2 16 "F.propTypes=\x7b\x7d" [] [
    piece .memberExpression 2 13 "F.propTypes" [.left] [
      piece .identifier 2 3 "F" [.object], piece .propertyIdentifier 4 13 "propTypes" [.property]],
    piece .object 14 16 "\x7b\x7d" [.right]]

def Tree.choice : Tree :=
  piece (.other "ternary_expression") 0 18 "" [] [
    piece .identifier 0 1 "D", Tree.chosenDeclaration, piece .identifier 17 18 "x"]

def Tree.chosenStatement : Tree :=
  piece .expressionStatement 0 19 "" [] [Tree.choice, piece (.other ";") 18 19 ";"]

/-- `D?F.propTypes={}:x;` as a file. -/
def Tree.chosen : Tree :=
  piece .program 0 19 "" [] [Tree.chosenStatement]

namespace Node

def chosen : Node :=
  ⟨Tree.chosenDeclaration, [⟨Tree.choice, 1⟩, ⟨Tree.chosenStatement, 0⟩, ⟨Tree.chosen, 0⟩]⟩

theorem declaration?_chosen : declaration? ⟨Tree.chosen, []⟩ "F" "propTypes" = some chosen := by
  cbv

theorem delimited_chosen : Delimited ⟨Tree.chosen, []⟩ := by
  have hall : (preorder ⟨Tree.chosen, []⟩).all (fun n =>
      decide n.tree.Nested && decide (n.span.start < n.span.stop) &&
        n.parent?.all fun p => p.span ≠ n.declarationSpan || p.kind = .expressionStatement ||
          n.kind ≠ .assignmentExpression) = true := by
    cbv
  have hnode := List.all_eq_true.1 hall
  refine ⟨fun n hn => ?_, rfl, fun n hn _ => ?_, fun n hn hkind p hp hspan => ?_⟩
  · have := hnode n hn
    simp only [Bool.and_eq_true, decide_eq_true_eq] at this
    exact this.1.1
  · have := hnode n hn
    simp only [Bool.and_eq_true, decide_eq_true_eq] at this
    exact this.1.2
  · have := hnode n hn
    simpa [hp, hspan, hkind] using (Bool.and_eq_true_iff.1 this).2

theorem not_standsAlone_chosen : ¬ chosen.StandsAlone := by
  rintro (h | ⟨p, hp, hkind⟩)
  · cases h
  · cases hp
    cases hkind

end Node

/-! ## Replacement -/

theorem Analysis.typesEdit_of_propTypes {a : Analysis} {n : Node} (h : a.propTypes = some n)
    (settings : Settings) (data : List UInt8) :
    ∃ text, a.typesEdit settings data =
      [⟨n.declarationSpan.start, n.declarationSpan.stop, text ++ ";"⟩] := by
  unfold typesEdit
  rw [h]
  exact ⟨_, rfl⟩

namespace Node

/-- The declaration that a component has is replaced, by a text that ends in a semicolon, as a whole
statement or field if it stands alone. In a tree as parsers leave it this is the only way: any other
declaration is replaced inside a larger piece of code. -/
theorem replaces_whole_iff_standsAlone {r n : Node} {name label : String} (hr : r.trail = [])
    (hn : r.declaration? name label = some n) :
    (∀ a : Analysis, a.propTypes = some n → ∀ settings data, ∃ text,
        a.typesEdit settings data =
          [⟨n.declarationSpan.start, n.declarationSpan.stop, text ++ ";"⟩]) ∧
      (n.StandsAlone → ∃ m ∈ r.preorder, m.IsWhole n.declarationSpan) ∧
      (r.Delimited →
        ((∃ m ∈ r.preorder, m.IsWhole n.declarationSpan) ↔ n.StandsAlone) ∧
        (¬ n.StandsAlone → ∃ p ∈ r.preorder, n ∈ p.children ∧ p.kind ≠ .expressionStatement ∧
          p.span.start ≤ n.declarationSpan.start ∧ n.declarationSpan.stop ≤ p.span.stop ∧
          p.span ≠ n.declarationSpan)) := by
  refine ⟨fun a ha => Analysis.typesEdit_of_propTypes ha, exists_isWhole_of_standsAlone hr hn, ?_⟩
  intro h
  refine ⟨⟨?_, exists_isWhole_of_standsAlone hr hn⟩, h.inside_of_not_standsAlone hr hn⟩
  rintro ⟨m, hm, hwhole⟩
  exact h.standsAlone_of_isWhole hr hn hm hwhole

theorem replaces_whole_iff_standsAlone_chosen :
    declaration? ⟨Tree.chosen, []⟩ "F" "propTypes" = some chosen ∧ ¬ chosen.StandsAlone ∧
      ∃ p ∈ preorder ⟨Tree.chosen, []⟩, chosen ∈ p.children ∧ p.kind ≠ .expressionStatement ∧
        p.span.start ≤ chosen.declarationSpan.start ∧
        chosen.declarationSpan.stop ≤ p.span.stop ∧ p.span ≠ chosen.declarationSpan :=
  ⟨declaration?_chosen, not_standsAlone_chosen,
    ((replaces_whole_iff_standsAlone rfl declaration?_chosen).2.2 delimited_chosen).2
      not_standsAlone_chosen⟩

/-- No statement and no field of the file has the bytes in which the declaration is replaced. -/
theorem not_isWhole_chosen :
    declaration? ⟨Tree.chosen, []⟩ "F" "propTypes" = some chosen ∧
      chosen.declarationSpan = ⟨2, 16⟩ ∧
      ∀ m ∈ preorder ⟨Tree.chosen, []⟩, ¬ m.IsWhole chosen.declarationSpan :=
  ⟨declaration?_chosen, rfl, fun _ hm hwhole =>
    not_standsAlone_chosen
      (delimited_chosen.standsAlone_of_isWhole rfl declaration?_chosen hm hwhole)⟩

end Node

end PropTyper
