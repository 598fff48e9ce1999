import PropTyper.Proofs.Declaration.ReadBack

/-! # Arguments that are no literals

The argument of a validator may be any expression. The reader first takes it for a validator, and
keeps its text only if it is none. `IsValidator` says which expressions those are. It goes by the
form alone: a member of anything is a validator, whatever it is a member of, and the text of such an
argument is lost.
-/

namespace PropTyper

open Declaration

namespace Tree

/-- For a reader at the depth the expression is a validator. -/
inductive IsValidator : Int → Tree → Prop
  /-- Not looked at. -/
  | tooDeep {depth : Int} {t : Tree} (hdepth : Property.maxDepth < depth) : IsValidator depth t
  | call {depth : Int} {t : Tree} {kind : PropKind} (hkind : t.kind = .callExpression)
      (hcalled : t.calledKind? = some kind) : IsValidator depth t
  /-- The member need not name a kind. -/
  | member {depth : Int} {t : Tree} (hkind : t.kind = .memberExpression)
      (hmark : t.isRequiredMark = false) : IsValidator depth t
  | marked {depth : Int} {t base : Tree} (hkind : t.kind = .memberExpression)
      (hmark : t.isRequiredMark = true) (hobject : t.child? .object = some base)
      (hbase : IsValidator (depth + 1) base) : IsValidator depth t
  | name {depth : Int} {t : Tree} {kind : PropKind} (hkind : t.kind = .identifier)
      (hname : PropKind.ofName? t.text = some kind) : IsValidator depth t
  | function {depth : Int} {t : Tree} (hkind : t.kind.isFunctionValue = true) : IsValidator depth t

end Tree

namespace Property

variable {depth : Int} {name : String} {kind : PropKind} {t operand : Tree}

/-- Too deep, anything is read. -/
theorem exists_ofValidator?_of_shallow
    (h : ¬ maxDepth < depth → ∃ p, ofValidator? depth name t = some p ∧ p.name = name) :
    ∃ p, ofValidator? depth name t = some p ∧ p.name = name := by
  by_cases hdepth : maxDepth < depth
  · rw [ofValidator?, if_pos hdepth]
    exact ⟨_, rfl, rfl⟩
  · exact h hdepth

theorem exists_ofParts?_of_call (hkind : t.kind = .callExpression)
    (hcalled : t.calledKind? = some kind) (parts : List Property) :
    ∃ p, ofParts? name t parts = some p ∧ p.name = name := by
  unfold ofParts?
  rw [hkind]
  dsimp only
  rw [hcalled]
  dsimp only
  split
  · exact ⟨_, rfl, rfl⟩
  · split
    · exact ⟨_, rfl, rfl⟩
    · split <;> exact ⟨_, rfl, rfl⟩
    · split <;> exact ⟨_, rfl, rfl⟩

theorem exists_ofValidator? (h : t.IsValidator depth) (name : String) :
    ∃ p, ofValidator? depth name t = some p ∧ p.name = name := by
  apply exists_ofValidator?_of_shallow
  intro hshallow
  -- the only validator inside another that decides on it is the one that a mark stands at
  induction h with
  | tooDeep hdepth => exact absurd hdepth hshallow
  | call hkind hcalled =>
      rw [ofValidator?_of_le hshallow]
      exact exists_ofParts?_of_call hkind hcalled _
  | member hkind hmark =>
      rw [ofValidator?_of_le hshallow, ofParts?, hkind]
      simp [hmark]
  | marked hkind hmark hobject hbase ih =>
      obtain ⟨q, hq, hname⟩ := exists_ofValidator?_of_shallow ih
      rw [ofValidator?_of_le hshallow, Tree.subvalidators_of_mark hkind hmark hobject, ofParts?,
        hkind]
      simp [hmark, hq, hname]
  | name hkind hname =>
      rw [ofValidator?_of_le hshallow, ofParts?, hkind]
      simp [hname]
  | function hkind =>
      rw [ofValidator?_of_function hshallow hkind]
      exact ⟨_, rfl, rfl⟩

theorem isValidator_of_ofValidator? {depth : Int} {name : String} {t : Tree} {p : Property}
    (h : ofValidator? depth name t = some p) : t.IsValidator depth := by
  by_cases hdepth : maxDepth < depth
  · exact .tooDeep hdepth
  · rw [ofValidator?_of_le hdepth] at h
    unfold ofParts? at h
    split at h
    · next hkind =>
      split at h
      · cases h
      · next hcalled => exact .call hkind hcalled
    · next hkind =>
      split at h
      · next hmark =>
        obtain ⟨q, hq, -⟩ := Option.map_eq_some_iff.1 h
        cases hobject : t.child? .object with
        | none => simp [Tree.subvalidators, hkind, hmark, hobject] at hq
        | some base =>
            rw [Tree.subvalidators_of_mark hkind hmark hobject] at hq
            obtain ⟨s, hs, hbase⟩ := List.mem_filterMap.1 (List.mem_of_head? hq)
            cases List.mem_singleton.1 hs
            exact .marked hkind hmark hobject (isValidator_of_ofValidator? hbase)
      · next hmark => exact .member hkind (by simpa using hmark)
    · next hkind =>
      obtain ⟨kind, hname, -⟩ := Option.map_eq_some_iff.1 h
      exact .name hkind hname
    · next hkind => exact .function (by rw [hkind]; rfl)
    · next hkind => exact .function (by rw [hkind]; rfl)
    · next hkind => exact .function (by rw [hkind]; rfl)
    · cases h
termination_by sizeOf t
decreasing_by exact Tree.sizeOf_child_lt (Tree.mem_children_of_child? hobject)

theorem ofValidator?_eq_none_iff : ofValidator? depth name t = none ↔ ¬ t.IsValidator depth := by
  constructor
  · intro hnone h
    obtain ⟨p, hp, -⟩ := exists_ofValidator? h name
    rw [hnone] at hp
    cases hp
  · intro h
    cases hread : ofValidator? depth name t with
    | none => rfl
    | some p => exact absurd (isValidator_of_ofValidator? hread) h

/-! ## What is written again -/

/-- What a call of the validator `kind` is written with when its argument was read as `member`. -/
def reread (settings : Settings) (indent : String) (kind : PropKind) (member : Property) : String :=
  match kind with
  | .oneOf => "[]"
  | .oneOfType => "[" ++ validator settings indent member ++ "]"
  | .arrayOf | .objectOf => validator settings indent member
  | _ =>
    let inner := indent ++ settings.indentUnit
    objectLiteral indent inner
      [(Key.render settings.quoteChar member.name, validator settings inner member)]

variable {p : Property}

theorem argument_of_text (settings : Settings) (indent : String) {text : String}
    (hkind : p.kind.takesArgument = true) (hchildren : p.children = [])
    (hliteral : p.literal = some text) (htext : text ≠ "") :
    argument settings indent p = "(" ++ text ++ ")" := by
  have hor : ∀ otherwise, p.literalOr otherwise = text := by
    intro otherwise
    simp [literalOr, Filled, hliteral, htext]
  unfold argument
  cases hk : p.kind <;> simp [hk, PropKind.takesArgument] at hkind <;> simp [hchildren, hor]

theorem argument_of_member (settings : Settings) (indent : String) {member : Property}
    (hkind : p.kind.takesArgument = true) (hne : p.kind ≠ .instanceOf)
    (hchildren : p.children = arranged p.kind [member]) (hliteral : p.literal = none) :
    argument settings indent p = "(" ++ reread settings indent p.kind member ++ ")" := by
  have hor : ∀ otherwise, p.literalOr otherwise = otherwise := literalOr_of_none hliteral
  have hsort : sortByName [member] = [member] :=
    sortByName_eq_self (List.pairwise_singleton _ member)
  unfold argument reread
  rw [hchildren]
  cases hk : p.kind with
  | shape | exact =>
      simp [arranged, PropKind.hasNamedMembers, hsort, entries_eq_map, String.append_assoc]
  | oneOf => simp [hor]
  | oneOfType =>
      have hmembers : arranged .oneOfType [member] = [member] := rfl
      have hopen : "([" = "(" ++ "[" := by decide
      have hclose : "])" = "]" ++ ")" := by decide
      rw [hmembers, hopen, hclose]
      simp only [List.isEmpty_cons, List.map_cons, List.map_nil, String.append_assoc]
      simp
  | arrayOf | objectOf =>
      simp [arranged, PropKind.hasNamedMembers, PropKind.hasPositionalMembers]
  | instanceOf => exact absurd hk hne
  | _ => simp [hk, PropKind.takesArgument] at hkind

section Written

variable (settings : Settings) (indent : String) (hkind : p.kind.takesArgument = true)
  (hrequired : p.required = false)

include hkind hrequired

theorem validator_normalize :
    validator settings indent p.normalize =
      moduleIdentifier ++ "." ++ p.kind.name ++ argument settings indent p.normalize := by
  have hcustom : p.kind ≠ .custom := by
    intro h
    rw [h] at hkind
    cases hkind
  rw [validator_of_ne_custom (by rwa [normalize_kind]), normalize_kind, normalize_required,
    hrequired]
  rfl

theorem validator_of_text {text : String} (hchildren : p.children = [])
    (hliteral : p.literal = some text) (htext : text ≠ "") :
    validator settings indent p.normalize =
      moduleIdentifier ++ "." ++ p.kind.name ++ "(" ++ text ++ ")" := by
  have hnone : p.normalize.children = [] := by
    rw [List.eq_nil_iff_forall_not_mem]
    intro c hc
    rw [normalize_children, hchildren] at hc
    exact absurd (mem_of_mem_arranged hc) List.not_mem_nil
  rw [validator_normalize settings indent hkind hrequired,
    argument_of_text settings indent (by rwa [normalize_kind]) hnone
      (by rw [normalize_literal, hliteral]) htext]
  simp only [String.append_assoc]

theorem validator_of_member {member : Property} (hne : p.kind ≠ .instanceOf)
    (hchildren : p.children = [member]) (hliteral : p.literal = none) :
    validator settings indent p.normalize =
      moduleIdentifier ++ "." ++ p.kind.name ++ "(" ++
        reread settings indent p.kind member.normalize ++ ")" := by
  have harranged : p.normalize.children = arranged p.normalize.kind [member.normalize] := by
    rw [normalize_children, normalize_kind, hchildren, List.map_singleton]
  rw [validator_normalize settings indent hkind hrequired,
    argument_of_member settings indent (by rwa [normalize_kind]) (by rwa [normalize_kind])
      harranged (by rw [normalize_literal, hliteral]), normalize_kind]
  simp only [String.append_assoc]

end Written

/-! ## Calls -/

theorem ofValidator?_operand_cases (hdepth : depth ≤ maxDepth) (hcall : t.Calls kind operand)
    (hobject : operand.kind ≠ .object) (harray : operand.kind ≠ .array) (name : String) :
    ((kind = .instanceOf ∨ ¬ operand.IsValidator (depth + 1)) ∧
        ofValidator? depth name t = some { name, kind, literal := some operand.text }) ∨
      (kind ≠ .instanceOf ∧ operand.IsValidator (depth + 1) ∧
        ∃ member, ofValidator? (depth + 1) "" operand = some member ∧ member.name = "" ∧
          ofValidator? depth name t = some { name, kind, children := [member] }) := by
  have hshallow : ¬ maxDepth < depth := by omega
  by_cases hinstance : kind = .instanceOf
  · left
    exact ⟨.inl hinstance, ofValidator?_of_constructor hshallow hcall hobject harray hinstance⟩
  · by_cases hvalidator : operand.IsValidator (depth + 1)
    · right
      obtain ⟨member, hmember, hname⟩ := exists_ofValidator? hvalidator ""
      refine ⟨hinstance, hvalidator, member, hmember, hname, ?_⟩
      rw [ofValidator?_of_operand hshallow hcall hobject harray hinstance, hmember]
    · left
      refine ⟨.inr hvalidator, ?_⟩
      rw [ofValidator?_of_operand hshallow hcall hobject harray hinstance,
        ofValidator?_eq_none_iff.2 hvalidator]

/-- An argument that is no literal is kept with its text if and only if the validator asks for a
constructor or the argument is no validator itself, and then the text is written again. Any other is
replaced by what it was read as. -/
theorem ofValidator?_keeps_text_iff (hdepth : depth ≤ maxDepth) (hcall : t.Calls kind operand)
    (hkind : kind.takesArgument = true) (hobject : operand.kind ≠ .object)
    (harray : operand.kind ≠ .array) (name : String) :
    ∃ p, ofValidator? depth name t = some p ∧ p.name = name ∧ p.kind = kind ∧
      ((p.children = [] ∧ p.literal = some operand.text) ↔
        kind = .instanceOf ∨ ¬ operand.IsValidator (depth + 1)) ∧
      (p.children = [] → operand.text ≠ "" → ∀ settings indent,
        validator settings indent p.normalize =
          moduleIdentifier ++ "." ++ kind.name ++ "(" ++ operand.text ++ ")") ∧
      (p.children ≠ [] → p.literal = none ∧
        ∃ member, ofValidator? (depth + 1) "" operand = some member ∧ member.name = "" ∧
          p.children = [member] ∧ ∀ settings indent,
            validator settings indent p.normalize =
              moduleIdentifier ++ "." ++ kind.name ++ "(" ++
                reread settings indent kind member.normalize ++ ")") := by
  rcases ofValidator?_operand_cases hdepth hcall hobject harray name with
    ⟨hkept, hread⟩ | ⟨hinstance, hvalidator, member, hmember, hname, hread⟩
  · refine ⟨_, hread, rfl, rfl, iff_of_true ⟨rfl, rfl⟩ hkept, ?_, fun h => absurd rfl h⟩
    intro hchildren htext settings indent
    exact validator_of_text settings indent hkind rfl hchildren rfl htext
  · refine ⟨_, hread, rfl, rfl, ?_, fun h => absurd h (List.cons_ne_nil member []), ?_⟩
    · apply iff_of_false
      · rintro ⟨hchildren, -⟩
        exact absurd hchildren (List.cons_ne_nil member [])
      · rintro (h | h)
        · exact hinstance h
        · exact h hvalidator
    · intro _
      refine ⟨rfl, member, hmember, hname, rfl, ?_⟩
      intro settings indent
      exact validator_of_member settings indent hkind rfl hinstance rfl rfl

def pickedSizes : Tree :=
  { Tree.leaf .callExpression "pick(sizes)" [] with
    children := [.leaf .identifier "pick" [.function], .ofArgument (.leaf .identifier "sizes" [])] }

/-- A choice out of them, with a comment before the argument and without the library's name. -/
def choiceOfSizes : Tree :=
  { Tree.leaf .callExpression "oneOf(/* all */ pick(sizes))" [] with
    children :=
      [.leaf .identifier "oneOf" [.function],
        { Tree.leaf .arguments "(/* all */ pick(sizes))" [.arguments] with
          children := [.leaf .comment "/* all */" [], pickedSizes] }] }

theorem ofValidator?_choiceOfSizes :
    choiceOfSizes.Calls .oneOf pickedSizes ∧
      ∃ p, ofValidator? 0 "size" choiceOfSizes = some p ∧ p.children = [] ∧
        p.literal = some "pick(sizes)" ∧
        validator {} "" p.normalize = "PropTypes.oneOf(pick(sizes))" := by
  have hcall : choiceOfSizes.Calls .oneOf pickedSizes := ⟨rfl, by decide, rfl⟩
  have hnone : ¬ pickedSizes.IsValidator (0 + 1) := by
    intro h
    cases h with
    | tooDeep hdepth => exact absurd hdepth (by decide)
    | call _ hcalled =>
        have hnone : pickedSizes.calledKind? = none := by decide
        rw [hnone] at hcalled
        cases hcalled
    | member hkind | marked hkind | name hkind | function hkind => cases hkind
  obtain ⟨p, hread, -, -, hkept, hwritten, -⟩ :=
    ofValidator?_keeps_text_iff (show (0 : Int) ≤ maxDepth by decide) hcall rfl nofun nofun "size"
  obtain ⟨hchildren, hliteral⟩ := hkept.2 (.inr hnone)
  refine ⟨hcall, p, hread, hchildren, hliteral, ?_⟩
  rw [hwritten hchildren (by decide)]
  decide

/-- A shape that a file of shapes has under a name. -/
def shapesUser : Tree :=
  .ofMember [] (.leaf .identifier "shapes" [.object]) "user"

/-- The text is lost, and the shape that is written has one entry without a name. -/
theorem validator_shapesUser_ne :
    shapesUser.kind ≠ .object ∧ shapesUser.kind ≠ .array ∧
      ∃ t : Tree, t.Calls .shape shapesUser ∧ t.text = "PropTypes.shape(shapes.user)" ∧
        ∃ p, ofValidator? 0 "user" t = some p ∧ p.children ≠ [] ∧ p.literal = none ∧
          validator {} "" p.normalize = "PropTypes.shape(\x7b\n  '': PropTypes.any\n\x7d)" := by
  have hcall : (Tree.ofCall [] (.ofKind [.function] .shape) shapesUser).Calls .shape shapesUser :=
    (Tree.isCall_ofCall rfl rfl (by decide)).calls (Tree.isKindName_ofKind [.function] .shape)
  have hmember : ofValidator? (0 + 1) "" shapesUser = some { name := "" } := by
    rw [ofValidator?_of_le (by decide)]
    rfl
  have hread : ofValidator? 0 "user" (.ofCall [] (.ofKind [.function] .shape) shapesUser) =
      some { name := "user", kind := .shape, children := [{ name := "" }] } := by
    rw [ofValidator?_of_operand (by decide) hcall (by decide) (by decide) (by decide), hmember]
  have hplain : normalize { name := "" } = { name := "" } := by
    rw [normalize_eq]
    rfl
  refine ⟨by decide, by decide, _, hcall, by decide, _, hread, List.cons_ne_nil _ _, rfl, ?_⟩
  rw [validator_of_member {} "" rfl rfl (by decide) rfl rfl, hplain]
  decide

end Property

end PropTyper
