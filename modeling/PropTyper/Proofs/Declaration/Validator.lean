import PropTyper.Declaration.Render

/-! # The text of a validator

Apart from custom validators, whose text is their literal, a validator is written as its kind, an
argument and the mark for required properties. `argument` is the middle part. It shows all of a list
of alternatives, and the first member alone of the other positional kinds.
-/

namespace PropTyper.Property

open Declaration

def withRequired (required : Bool) (expression : String) : String :=
  if required then expression ++ "." ++ requiredMember else expression

theorem withRequired_inj {required : Bool} {a b : String} :
    withRequired required a = withRequired required b ↔ a = b := by
  unfold withRequired
  cases required with
  | false => rfl
  | true =>
      constructor
      · intro h
        have hlists := congrArg String.toList h
        simp only [if_true, String.toList_append, List.append_assoc] at hlists
        exact String.toList_inj.1 (List.append_cancel_right hlists)
      · rintro rfl
        rfl

theorem validators_eq_map (settings : Settings) (indent : String) (properties : List Property) :
    validators settings indent properties = properties.map (validator settings indent) := by
  induction properties with
  | nil => rfl
  | cons p rest ih => rw [validators, List.map_cons, ih]

theorem entries_eq_map (settings : Settings) (inner : String) (properties : List Property) :
    entries settings inner properties =
      properties.map fun p => (Key.render settings.quoteChar p.name, validator settings inner p) := by
  induction properties with
  | nil => rfl
  | cons p rest ih => rw [entries, List.map_cons, ih]

/-- What stands between the kind of a validator and its mark. -/
def argument (settings : Settings) (indent : String) (p : Property) : String :=
  match p.kind with
  | .shape | .exact =>
    let inner := indent ++ settings.indentUnit
    if p.children.isEmpty then "(" ++ p.literalOr "\x7b\x7d" ++ ")"
    else "(" ++ objectLiteral indent inner (entries settings inner p.children) ++ ")"
  | .oneOf => "(" ++ p.literalOr "[]" ++ ")"
  | .oneOfType =>
    if p.children.isEmpty then "(" ++ p.literalOr "[]" ++ ")"
    else "([" ++ ", ".intercalate (p.children.map (validator settings indent)) ++ "])"
  | .arrayOf | .objectOf =>
    "(" ++ (p.children.head?.map (validator settings indent)).getD
      (p.literalOr (moduleIdentifier ++ ".any")) ++ ")"
  | .instanceOf => "(" ++ p.literalOr "Object" ++ ")"
  | _ => ""

theorem validator_of_custom {p : Property} (h : p.kind = .custom) (settings : Settings)
    (indent : String) : validator settings indent p = p.literalOr (moduleIdentifier ++ ".any") := by
  cases p
  cases h
  rfl

theorem validator_of_ne_custom {p : Property} (h : p.kind ≠ .custom) (settings : Settings)
    (indent : String) :
    validator settings indent p =
      withRequired p.required
        (moduleIdentifier ++ "." ++ p.kind.name ++ argument settings indent p) := by
  cases p with
  | mk name binding kind required children literal defaultText scope =>
    rw [validator]
    dsimp only at h ⊢
    rw [if_neg h]
    refine congrArg (withRequired required) ?_
    cases kind with
    | custom => exact (h rfl).elim
    | shape | exact | oneOf | oneOfType | arrayOf | objectOf | instanceOf =>
        cases children <;> simp [argument, validators_eq_map, String.append_assoc]
    | _ => exact (String.append_empty).symm

theorem validator_congr {p q : Property} (hkind : p.kind = q.kind)
    (hrequired : p.required = q.required)
    (hliteral : ∀ otherwise, p.literalOr otherwise = q.literalOr otherwise)
    (hmembers : p.kind.isContainer = false) (settings : Settings) (indent : String) :
    validator settings indent p = validator settings indent q := by
  by_cases hcustom : p.kind = .custom
  · rw [validator_of_custom hcustom, validator_of_custom (hkind ▸ hcustom), hliteral]
  · have hargument : argument settings indent p = argument settings indent q := by
      unfold argument
      rw [← hkind]
      generalize p.kind = kind at hmembers
      cases kind <;> cases hmembers <;> simp only [hliteral]
    rw [validator_of_ne_custom hcustom, validator_of_ne_custom (hkind ▸ hcustom), hargument,
      hkind, hrequired]

theorem validator_ne_empty (settings : Settings) (indent : String) (p : Property) :
    validator settings indent p ≠ "" := by
  by_cases hcustom : p.kind = .custom
  · rw [validator_of_custom hcustom, literalOr]
    cases hliteral : p.literal with
    | none => simp [Filled, moduleIdentifier]
    | some text =>
        by_cases htext : text = ""
        · simp [Filled, htext, moduleIdentifier]
        · simp [Filled, htext]
  · rw [validator_of_ne_custom hcustom]
    unfold withRequired
    split
    · simp [moduleIdentifier]
    · simp [moduleIdentifier]

end PropTyper.Property
