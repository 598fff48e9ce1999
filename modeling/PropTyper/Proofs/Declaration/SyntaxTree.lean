import PropTyper.Proofs.Declaration.Syntax

/-! # A tree for every canonical property

`syntaxTree` puts together the tree that the validator of a property is parsed to, as far as its
nodes and their texts go; it has no places in a file. For a canonical property it spells the
validator.
-/

namespace PropTyper

open Declaration

namespace Tree

def leaf (kind : Kind) (text : String) (fields : List Field) : Tree :=
  { kind, span := ⟨0, 0⟩, text, fields }

def ofMember (fields : List Field) (object : Tree) (member : String) : Tree :=
  { leaf .memberExpression (object.text ++ "." ++ member) fields with
    children := [object, leaf .propertyIdentifier member [.property]] }

def ofArgument (argument : Tree) : Tree :=
  { leaf .arguments ("(" ++ argument.text ++ ")") [.arguments] with children := [argument] }

def ofCall (fields : List Field) (callee argument : Tree) : Tree :=
  { leaf .callExpression (callee.text ++ "(" ++ argument.text ++ ")") fields with
    children := [callee, ofArgument argument] }

def ofPair (key value : Tree) : Tree :=
  { leaf .pair (key.text ++ ": " ++ value.text) [] with children := [key, value] }

def ofObject (indent inner : String) (entries : List Tree) : Tree :=
  { leaf .object
      (if entries.isEmpty then "\x7b\x7d"
        else "\x7b\n" ++ ",\n".intercalate (entries.map fun e => inner ++ e.text) ++ "\n" ++ indent ++
          "\x7d") [] with
    children := entries }

def ofArray (elements : List Tree) : Tree :=
  { leaf .array ("[" ++ ", ".intercalate (elements.map (·.text)) ++ "]") [] with
    children := elements }

def ofKey (quote : Char) (name : String) : Tree :=
  leaf (if Key.isPlain name.toList then .propertyIdentifier else .string) (Key.render quote name) [.key]

def ofKind (fields : List Field) (kind : PropKind) : Tree :=
  ofMember fields (leaf .identifier moduleIdentifier [.object]) kind.name

theorem isMember_ofMember {fields : List Field} {object : Tree} {member : String}
    (h : object.fields = [.object]) : (ofMember fields object member).IsMember object member := by
  refine ⟨rfl, ?_, ?_, rfl⟩
  · simp [ofMember, child?, h]
  · simp [ofMember, childText, child?, h, leaf]

theorem isKindName_ofKind (fields : List Field) (kind : PropKind) :
    (ofKind fields kind).IsKindName kind :=
  ⟨_, rfl, isMember_ofMember rfl⟩

theorem isCall_ofCall {fields : List Field} {callee argument : Tree}
    (hcallee : callee.fields = [.function]) (hnamed : argument.named = true)
    (hkind : argument.kind ≠ .comment) : (ofCall fields callee argument).IsCall callee argument := by
  refine ⟨rfl, by simp [ofCall, child?, hcallee], ⟨ofArgument argument, ?_, ?_⟩, rfl⟩
  · simp [ofCall, child?, hcallee, ofArgument, leaf]
  · simp [ofArgument, withoutComments, namedChildren, hnamed, hkind]

theorem isPair_ofPair {key value : Tree} (hkey : key.fields = [.key])
    (hvalue : value.fields = [.value]) : (ofPair key value).IsPair key value :=
  ⟨rfl, by simp [ofPair, child?, hkey], by simp [ofPair, child?, hkey, hvalue], rfl⟩

end Tree

namespace Property

variable {settings : Settings} {indent : String} {p : Property}

/-- The argument of a validator, with the trees of the validators inside as elements of a list and
as entries of an object. -/
def argumentTree (indent inner : String) (p : Property) (elements entries : List Tree) : Tree :=
  match p.kind, p.literal with
  | .shape, none | .exact, none => .ofObject indent inner entries
  | .oneOfType, none => .ofArray elements
  | .arrayOf, _ | .objectOf, _ => elements.headD (.leaf .identifier "" [])
  | .oneOf, literal => .leaf .array (literal.getD "") []
  | _, literal => .leaf .identifier (literal.getD "") []

def unmarkedTree (p : Property) (argument : Tree) (fields : List Field) : Tree :=
  if p.kind.takesArgument then .ofCall fields (.ofKind [.function] p.kind) argument
  else .ofKind fields p.kind

/-- A tree for the validator of a property, in the given roles under its parent. -/
def syntaxTree (settings : Settings) (indent : String) (fields : List Field) (p : Property) : Tree :=
  let inner := indent ++ settings.indentUnit
  let argument := argumentTree indent inner p
    (p.children.map fun c => syntaxTree settings indent [] c)
    (p.children.map fun c =>
      .ofPair (.ofKey settings.quoteChar c.name) (syntaxTree settings inner [.value] c))
  if p.kind = .custom then .leaf .arrowFunction (p.literal.getD "") fields
  else if p.required then .ofMember fields (unmarkedTree p argument [.object]) requiredMember
  else unmarkedTree p argument fields
termination_by sizeOf p
decreasing_by all_goals exact sizeOf_child_lt ‹_›

theorem unmarkedTree_fields (p : Property) (argument : Tree) (fields : List Field) :
    (unmarkedTree p argument fields).fields = fields := by
  unfold unmarkedTree
  split <;> rfl

theorem syntaxTree_fields (settings : Settings) (indent : String) (fields : List Field)
    (p : Property) : (syntaxTree settings indent fields p).fields = fields := by
  rw [syntaxTree]
  split
  · rfl
  · split
    · rfl
    · exact unmarkedTree_fields p _ fields

def IsOperand (t : Tree) : Prop :=
  t.named = true ∧ t.kind ≠ .comment

theorem isOperand_syntaxTree (settings : Settings) (indent : String) (fields : List Field)
    (p : Property) : IsOperand (syntaxTree settings indent fields p) := by
  rw [syntaxTree]
  split
  · exact ⟨rfl, nofun⟩
  · split
    · exact ⟨rfl, nofun⟩
    · unfold unmarkedTree
      split
      · exact ⟨rfl, nofun⟩
      · exact ⟨rfl, nofun⟩

theorem namedChildren_of_all {t : Tree} (h : ∀ c ∈ t.children, c.named = true) :
    t.namedChildren = t.children :=
  List.filter_eq_self.2 h

theorem isObject_ofObject {indent inner : String} {entries : List Tree}
    (h : ∀ e ∈ entries, e.named = true) :
    (Tree.ofObject indent inner entries).IsObject indent inner := by
  refine ⟨rfl, ?_⟩
  rw [namedChildren_of_all h]
  rfl

theorem isArray_ofArray {elements : List Tree} (h : ∀ e ∈ elements, e.named = true) :
    (Tree.ofArray elements).IsArray := by
  refine ⟨rfl, ?_⟩
  rw [namedChildren_of_all h]
  rfl

section Argument

variable {sub : String → List Field → Property → Tree}

def argumentOf (settings : Settings) (indent : String) (p : Property)
    (sub : String → List Field → Property → Tree) : Tree :=
  argumentTree indent (indent ++ settings.indentUnit) p (p.children.map fun c => sub indent [] c)
    (p.children.map fun c => .ofPair (.ofKey settings.quoteChar c.name)
      (sub (indent ++ settings.indentUnit) [.value] c))

theorem isOperand_argumentOf (hp : HasCanonicalParts settings p)
    (hsub : ∀ indent fields c, IsOperand (sub indent fields c)) :
    IsOperand (argumentOf settings indent p sub) := by
  unfold argumentOf argumentTree
  split
  · exact ⟨rfl, by simp [Tree.ofObject, Tree.leaf]⟩
  · exact ⟨rfl, by simp [Tree.ofObject, Tree.leaf]⟩
  · exact ⟨rfl, by simp [Tree.ofArray, Tree.leaf]⟩
  · next hkind =>
    simp only [HasCanonicalParts, hkind] at hp
    obtain ⟨-, c, hchildren, -⟩ := hp
    rw [hchildren]
    exact hsub indent [] c
  · next hkind =>
    simp only [HasCanonicalParts, hkind] at hp
    obtain ⟨-, c, hchildren, -⟩ := hp
    rw [hchildren]
    exact hsub indent [] c
  · exact ⟨rfl, by simp [Tree.leaf]⟩
  · exact ⟨rfl, by simp [Tree.leaf]⟩

theorem spellsArgument_argumentOf (hp : HasCanonicalParts settings p)
    (hkind : p.kind.takesArgument = true) {member : String → Property → Tree → Prop}
    (hfields : ∀ indent fields c, (sub indent fields c).fields = fields)
    (hnamed : ∀ indent fields c, IsOperand (sub indent fields c))
    (hsub : ∀ indent fields, ∀ c ∈ p.children, member indent c (sub indent fields c)) :
    SpellsArgument settings indent p (argumentOf settings indent p sub) member := by
  unfold SpellsArgument argumentOf argumentTree
  unfold HasCanonicalParts at hp
  cases hk : p.kind with
  | shape | exact =>
      simp only [hk] at hp ⊢
      cases hliteral : p.literal with
      | some reference => exact ⟨rfl, rfl⟩
      | none =>
          have hall : ∀ e ∈ p.children.map fun c => Tree.ofPair (.ofKey settings.quoteChar c.name)
              (sub (indent ++ settings.indentUnit) [.value] c), e.named = true := by
            intro e he
            obtain ⟨c, -, rfl⟩ := List.mem_map.1 he
            rfl
          refine ⟨isObject_ofObject hall, ?_⟩
          rw [namedChildren_of_all hall]
          refine List.forall₂_map_right_iff.2 (List.forall₂_same.2 fun c hc => ?_)
          exact ⟨_, _, Tree.isPair_ofPair rfl (hfields _ _ c), ⟨rfl, rfl⟩, hsub _ _ c hc⟩
  | oneOfType =>
      simp only [hk] at hp ⊢
      cases hliteral : p.literal with
      | some reference => exact ⟨rfl, rfl⟩
      | none =>
          have hall : ∀ e ∈ p.children.map fun c => sub indent [] c, e.named = true := by
            intro e he
            obtain ⟨c, -, rfl⟩ := List.mem_map.1 he
            exact (hnamed indent [] c).1
          refine ⟨isArray_ofArray hall, ?_⟩
          rw [namedChildren_of_all hall]
          exact List.forall₂_map_right_iff.2 (List.forall₂_same.2 fun c hc => hsub _ _ c hc)
  | arrayOf | objectOf =>
      simp only [hk] at hp ⊢
      obtain ⟨-, c, hchildren, -⟩ := hp
      rw [hchildren] at hsub ⊢
      exact .cons (hsub _ _ c List.mem_cons_self) .nil
  | oneOf =>
      simp only [hk] at hp ⊢
      obtain ⟨-, text, hliteral, -⟩ := hp
      rw [hliteral]
      exact ⟨rfl, rfl⟩
  | instanceOf =>
      simp only [hk] at hp ⊢
      obtain ⟨-, text, hliteral, -⟩ := hp
      rw [hliteral]
      exact ⟨nofun, nofun, rfl⟩
  | _ => simp [hk, PropKind.takesArgument] at hkind

end Argument

/-- Every canonical property has a tree that spells its validator. -/
theorem spells_syntaxTree (fields : List Field) (hp : Everywhere (Canonical settings) p) :
    Spells settings indent p (syntaxTree settings indent fields p) := by
  induction p using inductionOn generalizing indent fields with
  | step p ih =>
    obtain ⟨hself, hbelow⟩ := everywhere_iff.1 hp
    have hunmarked : ∀ fields, SpellsUnmarked settings indent p
        (unmarkedTree p (argumentOf settings indent p (syntaxTree settings)) fields)
        fun indent c value => ∃ _ : c ∈ p.children, Spells settings indent c value := by
      intro fields
      unfold SpellsUnmarked unmarkedTree
      split
      · next hkind =>
        obtain ⟨hnamed, hcomment⟩ :=
          isOperand_argumentOf hself.parts (isOperand_syntaxTree settings)
        refine ⟨_, _, Tree.isKindName_ofKind _ p.kind, Tree.isCall_ofCall rfl hnamed hcomment, ?_⟩
        exact spellsArgument_argumentOf hself.parts hkind (syntaxTree_fields settings)
          (isOperand_syntaxTree settings) fun indent fields c hc => ⟨hc, ih c hc fields (hbelow c hc)⟩
      · exact Tree.isKindName_ofKind fields p.kind
    rw [Spells, syntaxTree]
    split
    · next hcustom =>
      have hparts := hself.parts
      simp only [HasCanonicalParts, hcustom] at hparts
      obtain ⟨-, ⟨text, hliteral, -⟩, -⟩ := hparts
      exact ⟨rfl, by rw [hliteral]; rfl⟩
    · split
      · next hrequired =>
        refine ⟨_, ?_, hunmarked [.object]⟩
        rw [Tree.IsMarked, if_pos hrequired]
        exact Tree.isMember_ofMember (unmarkedTree_fields p _ _)
      · next hrequired =>
        refine ⟨_, ?_, hunmarked fields⟩
        rw [Tree.IsMarked, if_neg hrequired]
        rfl

end Property

end PropTyper
