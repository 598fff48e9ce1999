import Mathlib.Data.List.Forall2
import PropTyper.Evidence.Declared
import PropTyper.Proofs.Declaration.Validator
import PropTyper.Proofs.Property.Normalize

/-! # Validators as syntax

How the text of a validator is parsed, form by form: which node stands for it, which nodes are its
parts, and how its text is put together from theirs. `Spells settings indent p t` says that `t` is
such a tree for the validator of `p`. It covers the canonical properties, those that a declaration
can state in full.
-/

namespace PropTyper

open Declaration

def PropKind.takesArgument : PropKind → Bool
  | shape | exact | oneOf | oneOfType | arrayOf | objectOf | instanceOf => true
  | _ => false

namespace Tree

structure IsMember (t object : Tree) (member : String) : Prop where
  kind_eq : t.kind = .memberExpression
  object_eq : t.child? .object = some object
  property_eq : t.childText .property = member
  text_eq : t.text = object.text ++ "." ++ member

structure IsCall (t callee argument : Tree) : Prop where
  kind_eq : t.kind = .callExpression
  function_eq : t.child? .function = some callee
  argument_eq : ∃ list, t.child? .arguments = some list ∧ list.withoutComments = [argument]
  text_eq : t.text = callee.text ++ "(" ++ argument.text ++ ")"

structure IsPair (t key value : Tree) : Prop where
  kind_eq : t.kind = .pair
  key_eq : t.child? .key = some key
  value_eq : t.child? .value = some value
  text_eq : t.text = key.text ++ ": " ++ value.text

structure IsObject (t : Tree) (indent inner : String) : Prop where
  kind_eq : t.kind = .object
  text_eq : t.text =
    if t.namedChildren.isEmpty then "\x7b\x7d"
    else "\x7b\n" ++ ",\n".intercalate (t.namedChildren.map fun e => inner ++ e.text) ++ "\n" ++
      indent ++ "\x7d"

structure IsArray (t : Tree) : Prop where
  kind_eq : t.kind = .array
  text_eq : t.text = "[" ++ ", ".intercalate (t.namedChildren.map (·.text)) ++ "]"

structure IsKey (t : Tree) (quote : Char) (name : String) : Prop where
  kind_eq : t.kind = if Key.isPlain name.toList then .propertyIdentifier else .string
  text_eq : t.text = Key.render quote name

def IsKindName (t : Tree) (kind : PropKind) : Prop :=
  ∃ library : Tree, library.text = moduleIdentifier ∧ t.IsMember library kind.name

/-- `t` is `base`, with the mark for required properties where it belongs. -/
def IsMarked (t base : Tree) (required : Bool) : Prop :=
  if required then t.IsMember base requiredMember else t = base

end Tree

namespace Property

/-- The forms of the argument of a validator; `member` relates the validators inside that start on
lines of an indentation to their trees. -/
def SpellsArgument (settings : Settings) (indent : String) (p : Property) (argument : Tree)
    (member : String → Property → Tree → Prop) : Prop :=
  match p.kind with
  | .shape | .exact =>
    match p.literal with
    | some reference => argument.kind = .identifier ∧ argument.text = reference
    | none =>
      let inner := indent ++ settings.indentUnit
      argument.IsObject indent inner ∧
        List.Forall₂
          (fun c entry => ∃ key value, Tree.IsPair entry key value ∧
            key.IsKey settings.quoteChar c.name ∧ member inner c value)
          p.children argument.namedChildren
  | .oneOfType =>
    match p.literal with
    | some reference => argument.kind = .identifier ∧ argument.text = reference
    | none => argument.IsArray ∧ List.Forall₂ (member indent) p.children argument.namedChildren
  | .arrayOf | .objectOf => List.Forall₂ (member indent) p.children [argument]
  | .oneOf => argument.kind = .array ∧ p.literal = some argument.text
  | .instanceOf =>
    argument.kind ≠ .object ∧ argument.kind ≠ .array ∧ p.literal = some argument.text
  | _ => True

/-- The forms of a validator without its mark. -/
def SpellsUnmarked (settings : Settings) (indent : String) (p : Property) (base : Tree)
    (member : String → Property → Tree → Prop) : Prop :=
  if p.kind.takesArgument then
    ∃ callee argument : Tree, callee.IsKindName p.kind ∧ base.IsCall callee argument ∧
      SpellsArgument settings indent p argument member
  else base.IsKindName p.kind

/-- The tree is that of the validator of a property; `indent` is that of the line it starts on. -/
def Spells (settings : Settings) (indent : String) (p : Property) (t : Tree) : Prop :=
  if p.kind = .custom then t.kind.isFunctionValue = true ∧ p.literal = some t.text
  else
    ∃ base : Tree, t.IsMarked base p.required ∧
      SpellsUnmarked settings indent p base fun indent c value =>
        ∃ _ : c ∈ p.children, Spells settings indent c value
termination_by sizeOf p
decreasing_by exact sizeOf_child_lt ‹_›

/-! ## Canonical properties -/

/-- A literal that refers to members stated elsewhere, or none. -/
def IsReference (literal : Option String) : Prop :=
  ∀ text ∈ literal, text ≠ "" ∧ PropKind.ofName? text = none

/-- A literal that is written as it stands. -/
def IsStated (literal : Option String) : Prop :=
  ∃ text, literal = some text ∧ text ≠ ""

/-- A name that stands in quotes as it is. -/
def IsPlainName (settings : Settings) (name : String) : Prop :=
  name ≠ "" ∧ ∀ c ∈ name.toList, c ≠ '\\' ∧ c ≠ '\n' ∧ c ≠ settings.quoteChar

instance (settings : Settings) (name : String) : Decidable (IsPlainName settings name) :=
  -- through the list: there are too many characters to try all of them
  haveI : Decidable (∀ c ∈ name.toList, c ≠ '\\' ∧ c ≠ '\n' ∧ c ≠ settings.quoteChar) :=
    List.decidableBAll _ name.toList
  inferInstanceAs (Decidable (_ ∧ _))

/-- Which members and which literal a canonical property has. -/
def HasCanonicalParts (settings : Settings) (p : Property) : Prop :=
  match p.kind with
  | .shape | .exact =>
    (p.children = [] ∧ IsReference p.literal) ∨
      (p.literal = none ∧ ∀ c ∈ p.children, IsPlainName settings c.name)
  | .oneOfType =>
    (p.children = [] ∧ IsReference p.literal) ∨ (p.literal = none ∧ ∀ c ∈ p.children, c.name = "")
  | .arrayOf | .objectOf => p.literal = none ∧ ∃ c, p.children = [c] ∧ c.name = ""
  | .oneOf | .instanceOf => p.children = [] ∧ IsStated p.literal
  | .custom => p.children = [] ∧ IsStated p.literal ∧ p.required = false
  | _ => p.children = [] ∧ p.literal = none

/-- A property that a declaration can state in full. -/
structure Canonical (settings : Settings) (p : Property) : Prop where
  binding_eq : p.binding = none
  scope_eq : p.scope = none
  defaultText_eq : p.defaultText = none
  parts : HasCanonicalParts settings p

/-! ## The text of the tree -/

variable {settings : Settings} {indent : String} {p : Property} {t base argument : Tree}

theorem text_of_isMarked {required : Bool} (h : t.IsMarked base required) :
    t.text = withRequired required base.text := by
  cases required with
  | false => exact congrArg Tree.text h
  | true => exact Tree.IsMember.text_eq h

theorem text_of_isKindName {kind : PropKind} (h : t.IsKindName kind) :
    t.text = moduleIdentifier ++ "." ++ kind.name := by
  obtain ⟨library, hlibrary, hmember⟩ := h
  rw [hmember.text_eq, hlibrary]

theorem literalOr_of_stated (h : IsStated p.literal) (otherwise : String) :
    some (p.literalOr otherwise) = p.literal := by
  obtain ⟨text, hliteral, hne⟩ := h
  simp [literalOr, hliteral, Filled, hne]

theorem literalOr_of_none (h : p.literal = none) (otherwise : String) :
    p.literalOr otherwise = otherwise := by
  simp [literalOr, h, Filled]

theorem literalOr_of_reference {reference : String} (hreference : IsReference p.literal)
    (h : p.literal = some reference) (otherwise : String) : p.literalOr otherwise = reference := by
  have hne : reference ≠ "" := (hreference reference h).1
  simp [literalOr, h, Filled, hne]

section Argument

variable {member : String → Property → Tree → Prop}
  (hmember : ∀ indent c value, member indent c value → value.text = validator settings indent c)

include hmember

theorem lines_of_entries {inner : String} {children : List Property} {trees : List Tree}
    (h : List.Forall₂
      (fun c entry => ∃ key value, Tree.IsPair entry key value ∧
        key.IsKey settings.quoteChar c.name ∧ member inner c value) children trees) :
    (entries settings inner children).map (fun e => inner ++ e.1 ++ ": " ++ e.2) =
      trees.map fun e => inner ++ e.text := by
  induction h with
  | nil => rfl
  | cons hentry _ ih =>
      obtain ⟨key, value, hpair, hkey, hvalue⟩ := hentry
      rw [entries, List.map_cons, List.map_cons, ih, hpair.text_eq, hkey.text_eq,
        hmember _ _ _ hvalue]
      simp only [String.append_assoc]

theorem texts_of_members {children : List Property} {trees : List Tree}
    (h : List.Forall₂ (member indent) children trees) :
    children.map (validator settings indent) = trees.map (·.text) := by
  induction h with
  | nil => rfl
  | cons hvalue _ ih => rw [List.map_cons, List.map_cons, ih, hmember _ _ _ hvalue]

theorem text_of_spellsArgument (hp : HasCanonicalParts settings p)
    (hkind : p.kind.takesArgument = true) (h : SpellsArgument settings indent p argument member) :
    Property.argument settings indent p = "(" ++ argument.text ++ ")" := by
  unfold SpellsArgument at h
  unfold HasCanonicalParts at hp
  unfold Property.argument
  cases hk : p.kind with
  | shape | exact =>
      simp only [hk] at h hp ⊢
      cases hliteral : p.literal with
      | some reference =>
          simp only [hliteral, reduceCtorEq, false_and, or_false] at h hp
          rw [← hliteral] at hp
          rw [hp.1, List.isEmpty_nil, if_pos rfl, literalOr_of_reference hp.2 hliteral, h.2]
      | none =>
          simp only [hliteral] at h
          obtain ⟨hobject, hall⟩ := h
          have hlines := lines_of_entries hmember hall
          rw [hobject.text_eq, ← hlines]
          cases hchildren : p.children with
          | nil =>
              rw [hchildren, List.forall₂_nil_left_iff] at hall
              simp [hall, literalOr_of_none hliteral]
          | cons c rest =>
              rw [hchildren] at hall
              have hne : argument.namedChildren ≠ [] := by
                intro hnil
                rw [hnil] at hall
                cases hall
              simp [hne, objectLiteral, String.append_assoc]
  | oneOfType =>
      simp only [hk] at h hp ⊢
      cases hliteral : p.literal with
      | some reference =>
          simp only [hliteral, reduceCtorEq, false_and, or_false] at h hp
          rw [← hliteral] at hp
          rw [hp.1, List.isEmpty_nil, if_pos rfl, literalOr_of_reference hp.2 hliteral, h.2]
      | none =>
          simp only [hliteral] at h
          obtain ⟨harray, hall⟩ := h
          rw [harray.text_eq, ← texts_of_members hmember hall]
          cases hchildren : p.children with
          | nil => simp [literalOr_of_none hliteral]
          | cons c rest =>
              have hopening : "([" = "(" ++ "[" := rfl
              have hclosing : "])" = "]" ++ ")" := rfl
              rw [if_neg (by simp), hopening, hclosing]
              simp only [String.append_assoc]
  | arrayOf | objectOf =>
      simp only [hk] at h hp ⊢
      obtain ⟨-, c, hchildren, -⟩ := hp
      rw [hchildren] at h ⊢
      cases h with
      | cons hvalue _ => simp [hmember _ _ _ hvalue]
  | oneOf =>
      simp only [hk] at h hp ⊢
      rw [Option.some.inj ((literalOr_of_stated hp.2 "[]").trans h.2)]
  | instanceOf =>
      simp only [hk] at h hp ⊢
      rw [Option.some.inj ((literalOr_of_stated hp.2 "Object").trans h.2.2)]
  | _ => simp [hk, PropKind.takesArgument] at hkind

end Argument

/-- The text of the tree is the text that the property is written as. -/
theorem text_of_spells (hp : Everywhere (Canonical settings) p) (h : Spells settings indent p t) :
    t.text = validator settings indent p := by
  induction p using inductionOn generalizing indent t with
  | step p ih =>
    obtain ⟨hself, hbelow⟩ := everywhere_iff.1 hp
    rw [Spells] at h
    by_cases hcustom : p.kind = .custom
    · rw [if_pos hcustom] at h
      have hstated : IsStated p.literal := by
        have hparts := hself.parts
        simp only [HasCanonicalParts, hcustom] at hparts
        exact hparts.2.1
      rw [validator_of_custom hcustom]
      exact Option.some.inj (h.2.symm.trans (literalOr_of_stated hstated _).symm)
    · rw [if_neg hcustom] at h
      obtain ⟨base, hmarked, hform⟩ := h
      rw [validator_of_ne_custom hcustom, text_of_isMarked hmarked]
      refine congrArg (withRequired p.required) ?_
      by_cases hkind : p.kind.takesArgument = true
      · rw [SpellsUnmarked, if_pos hkind] at hform
        obtain ⟨callee, argument, hcallee, hcall, hargument⟩ := hform
        rw [hcall.text_eq, text_of_isKindName hcallee,
          text_of_spellsArgument ?_ hself.parts hkind hargument]
        · simp only [String.append_assoc]
        · rintro indent c value ⟨hc, hvalue⟩
          exact ih c hc (hbelow c hc) hvalue
      · rw [SpellsUnmarked, if_neg hkind] at hform
        have hnone : Property.argument settings indent p = "" := by
          unfold Property.argument
          cases hk : p.kind <;> simp_all [PropKind.takesArgument]
        rw [text_of_isKindName hform, hnone, String.append_empty]

end Property

end PropTyper
