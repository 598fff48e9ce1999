import PropTyper.Proofs.Declaration.Key
import PropTyper.Proofs.Declaration.SyntaxTree
import PropTyper.Proofs.Property.Merge

/-! # Reading a validator back

A validator that is written for a canonical property and parsed states that property again, as far
as the reader follows it. It follows `maxDepth` levels and the one where it starts; `cut` says what
it makes of a property when fewer levels are left than there are, and `levels` how many there are.
-/

namespace PropTyper

open Declaration

namespace Tree

variable {t base callee argument key : Tree}

theorem IsKey.keyName? {settings : Settings} {name : String}
    (hkey : key.IsKey settings.quoteChar name) (hname : Property.IsPlainName settings name) :
    key.keyName? = some name := by
  obtain ⟨hne, hplain⟩ := hname
  have hverbatim : Key.isVerbatim settings.quote name = true := by
    refine List.all_eq_true.2 fun c hc => ?_
    obtain ⟨hbackslash, -, hquote⟩ := hplain c hc
    simpa [Key.isEscaped, hbackslash, Settings.quoteChar] using hquote
  have hread : key.keyName? = some (Key.readBack settings.quote name) := hkey.keyName?_eq hne
  rw [hread, Key.readBack_eq_iff.2 hverbatim]

/-- A call of the validator `kind`, however its name is spelled, with `argument` as the first
argument. -/
structure Calls (t : Tree) (kind : PropKind) (argument : Tree) : Prop where
  kind_eq : t.kind = .callExpression
  calledKind?_eq : t.calledKind? = some kind
  firstArgument?_eq : t.firstArgument? = some argument

theorem IsCall.calledKind? {kind : PropKind} (hcall : t.IsCall callee argument)
    (hcallee : callee.IsKindName kind) : t.calledKind? = some kind := by
  obtain ⟨library, -, hmember⟩ := hcallee
  unfold Tree.calledKind?
  rw [hcall.function_eq]
  dsimp only
  rw [hmember.kind_eq]
  dsimp only
  rw [hmember.property_eq, PropKind.ofName?_name]

theorem IsCall.firstArgument? (hcall : t.IsCall callee argument) :
    t.firstArgument? = some argument := by
  obtain ⟨list, hlist, hargument⟩ := hcall.argument_eq
  unfold Tree.firstArgument?
  rw [hlist]
  dsimp only
  rw [hargument]
  rfl

theorem IsCall.calls {kind : PropKind} (hcall : t.IsCall callee argument)
    (hcallee : callee.IsKindName kind) : t.Calls kind argument :=
  ⟨hcall.kind_eq, hcall.calledKind? hcallee, hcall.firstArgument?⟩

theorem subvalidators_of_mark {name : String} (hkind : t.kind = .memberExpression)
    (hmark : t.isRequiredMark = true) (hobject : t.child? .object = some base) :
    t.subvalidators name = [(name, base)] := by
  unfold subvalidators
  rw [hkind]
  dsimp only
  rw [if_pos hmark, hobject]
  rfl

end Tree

namespace Property

/-- What a reader that follows `n` levels makes of a canonical property. -/
def cut : Nat → Property → Property
  | 0, p => { name := p.name }
  | n + 1, p =>
    if p.required then { cut n { p with required := false } with required := true }
    else if p.kind.isContainer then
      -- a reference is an argument too, and what is too deep counts as a validator
      if p.literal.isSome && n = 0 then { p with literal := none, children := [{ name := "" }] }
      else { p with children := p.children.map (cut n) }
    else p

theorem cut_succ_of_required (n : Nat) {p : Property} (h : p.required = true) :
    p.cut (n + 1) = { cut n { p with required := false } with required := true } := by
  rw [cut, if_pos h]

theorem cut_succ_of_leaf (n : Nat) {p : Property} (hrequired : p.required = false)
    (hkind : p.kind.isContainer = false) : p.cut (n + 1) = p := by
  simp [cut, hrequired, hkind]

theorem cut_succ_of_members (n : Nat) {p : Property} (hrequired : p.required = false)
    (hkind : p.kind.isContainer = true) (hliteral : p.literal = none) :
    p.cut (n + 1) = { p with children := p.children.map (cut n) } := by
  simp [cut, hrequired, hkind, hliteral]

theorem cut_succ_of_reference (n : Nat) {p : Property} (hrequired : p.required = false)
    (hkind : p.kind.isContainer = true) (hliteral : p.literal.isSome = true)
    (hchildren : p.children = []) :
    p.cut (n + 1) =
      if n = 0 then { p with literal := none, children := [{ name := "" }] } else p := by
  have hsame : ({ p with children := p.children.map (cut n) } : Property) = p := by
    rw [hchildren, List.map_nil, ← hchildren, eta]
  rw [cut, if_neg (by simp [hrequired]), if_pos hkind, hsame]
  simp [hliteral]

variable {settings : Settings} {indent name : String} {p : Property} {t base argument : Tree}

/-! ## One level of the reader -/

theorem ofValidator?_of_le {depth : Int} (h : ¬ maxDepth < depth) (name : String) (t : Tree) :
    ofValidator? depth name t =
      ofParts? name t ((t.subvalidators name).filterMap fun s => ofValidator? (depth + 1) s.1 s.2) := by
  have hattach : ∀ s : { s // s ∈ t.subvalidators name },
      ofValidator? (depth + 1) s.1.1 s.1.2 =
        ((fun s => ofValidator? (depth + 1) s.1 s.2) ∘ Subtype.val) s := fun _ => rfl
  rw [ofValidator?, if_neg h, funext hattach, ← List.filterMap_map, List.attach_map_subtype_val]

theorem filterMap_entries {children : List Property} {member : Property → Tree → Prop}
    {read : String → Tree → Option Property} {result : Property → Property}
    (hall : List.Forall₂
      (fun c entry => ∃ key value, Tree.IsPair entry key value ∧
        key.IsKey settings.quoteChar c.name ∧ member c value) children argument.namedChildren)
    (hnames : ∀ c ∈ children, IsPlainName settings c.name)
    (hread : ∀ c ∈ children, ∀ value, member c value → read c.name value = some (result c)) :
    argument.entries.filterMap (fun s => read s.1 s.2) = children.map result := by
  unfold Tree.entries
  rw [List.filterMap_filterMap]
  generalize argument.namedChildren = trees at hall
  induction hall with
  | nil => rfl
  | cons hentry _ ih =>
      obtain ⟨key, value, hpair, hkey, hvalue⟩ := hentry
      have hplain := hnames _ List.mem_cons_self
      rw [List.filterMap_cons, List.map_cons, hpair.kind_eq, hpair.key_eq, hpair.value_eq]
      simp only [Option.bind_some, hkey.keyName? hplain, if_pos, if_neg hplain.1,
        hread _ List.mem_cons_self _ hvalue]
      rw [ih (fun c hc => hnames c (List.mem_cons_of_mem _ hc)) fun c hc =>
        hread c (List.mem_cons_of_mem _ hc)]

theorem filterMap_elements {children : List Property} {trees : List Tree}
    {member : Property → Tree → Prop} {read : String → Tree → Option Property}
    {result : Property → Property} (hall : List.Forall₂ member children trees)
    (hnames : ∀ c ∈ children, c.name = "")
    (hread : ∀ c ∈ children, ∀ value, member c value → read c.name value = some (result c)) :
    (trees.map fun e => ("", e)).filterMap (fun s => read s.1 s.2) = children.map result := by
  induction hall with
  | nil => rfl
  | cons hvalue _ ih =>
      have hfirst := hread _ List.mem_cons_self _ hvalue
      rw [hnames _ List.mem_cons_self] at hfirst
      rw [List.map_cons, List.filterMap_cons, List.map_cons]
      simp only [hfirst]
      rw [ih (fun c hc => hnames c (List.mem_cons_of_mem _ hc)) fun c hc =>
        hread c (List.mem_cons_of_mem _ hc)]

theorem ofValidator?_of_mark {depth : Int} (h : ¬ maxDepth < depth)
    (ht : t.IsMember base requiredMember) {q : Property}
    (hbase : ofValidator? (depth + 1) name base = some q) :
    ofValidator? depth name t = some { q with required := true } := by
  have hmark : t.isRequiredMark = true := by
    rw [Tree.isRequiredMark, ht.property_eq]
    exact decide_eq_true rfl
  rw [ofValidator?_of_le h, Tree.subvalidators_of_mark ht.kind_eq hmark ht.object_eq]
  simp only [List.filterMap_cons, hbase, List.filterMap_nil]
  unfold ofParts?
  rw [ht.kind_eq]
  dsimp only
  rw [if_pos hmark]
  rfl

theorem ofValidator?_of_isKindName {depth : Int} (h : ¬ maxDepth < depth) {kind : PropKind}
    (ht : t.IsKindName kind) : ofValidator? depth name t = some { name, kind } := by
  obtain ⟨library, -, hmember⟩ := ht
  have hmark : ¬ t.isRequiredMark = true := by
    rw [Tree.isRequiredMark, hmember.property_eq]
    cases kind <;> decide
  rw [ofValidator?_of_le h]
  unfold ofParts?
  rw [hmember.kind_eq]
  dsimp only
  rw [if_neg hmark, hmember.property_eq, PropKind.ofName?_name]
  rfl

theorem ofValidator?_of_function {depth : Int} (h : ¬ maxDepth < depth)
    (ht : t.kind.isFunctionValue = true) :
    ofValidator? depth name t = some { name, kind := .custom, literal := some t.text } := by
  rw [ofValidator?_of_le h]
  unfold ofParts?
  cases hkind : t.kind <;> simp_all [Kind.isFunctionValue]

/-! ## Calls -/

section Call

variable {depth : Int} {kind : PropKind} (hdepth : ¬ maxDepth < depth)
  (hcall : t.Calls kind argument)

include hdepth hcall

theorem ofValidator?_of_object (hobject : argument.kind = .object) :
    ofValidator? depth name t =
      some
        { name, kind
          children := argument.entries.filterMap fun s => ofValidator? (depth + 1) s.1 s.2 } := by
  obtain ⟨hkind, hcalled, hargument⟩ := hcall
  rw [ofValidator?_of_le hdepth]
  simp only [ofParts?, Tree.subvalidators, hkind, hcalled, hargument, hobject]

theorem ofValidator?_of_array (harray : argument.kind = .array) (hne : kind ≠ .oneOf) :
    ofValidator? depth name t =
      some
        { name, kind
          children := (argument.namedChildren.map fun e => ("", e)).filterMap fun s =>
            ofValidator? (depth + 1) s.1 s.2 } := by
  obtain ⟨hkind, hcalled, hargument⟩ := hcall
  rw [ofValidator?_of_le hdepth]
  simp only [ofParts?, Tree.subvalidators, hkind, hcalled, hargument, harray, if_neg hne]

theorem ofValidator?_of_choices (harray : argument.kind = .array) (hone : kind = .oneOf) :
    ofValidator? depth name t = some { name, kind, literal := some argument.text } := by
  obtain ⟨hkind, hcalled, hargument⟩ := hcall
  rw [ofValidator?_of_le hdepth]
  simp only [ofParts?, Tree.subvalidators, hkind, hcalled, hargument, harray, if_pos hone]

theorem ofValidator?_of_operand (hobject : argument.kind ≠ .object)
    (harray : argument.kind ≠ .array) (hne : kind ≠ .instanceOf) :
    ofValidator? depth name t =
      some
        (match ofValidator? (depth + 1) "" argument with
        | some q => { name, kind, children := [q] }
        | none => { name, kind, literal := some argument.text }) := by
  obtain ⟨hkind, hcalled, hargument⟩ := hcall
  rw [ofValidator?_of_le hdepth]
  simp only [ofParts?, Tree.subvalidators, hkind, hcalled, hargument, if_neg hne]
  cases hread : ofValidator? (depth + 1) "" argument with
  | none => simp [hread]
  | some q => simp [hread]

theorem ofValidator?_of_constructor (hobject : argument.kind ≠ .object)
    (harray : argument.kind ≠ .array) (hinstance : kind = .instanceOf) :
    ofValidator? depth name t = some { name, kind, literal := some argument.text } := by
  obtain ⟨hkind, hcalled, hargument⟩ := hcall
  rw [ofValidator?_of_le hdepth]
  simp only [ofParts?, Tree.subvalidators, hkind, hcalled, hargument, if_pos hinstance]
  simp

end Call

/-! ## All levels of the reader -/

def levelsLeft (depth : Int) : Nat :=
  (maxDepth + 1 - depth).toNat

theorem levelsLeft_eq_zero_iff {depth : Int} : levelsLeft depth = 0 ↔ maxDepth < depth := by
  unfold levelsLeft
  omega

theorem levelsLeft_succ {depth : Int} {n : Nat} (h : levelsLeft depth = n + 1) :
    ¬ maxDepth < depth ∧ levelsLeft (depth + 1) = n := by
  unfold levelsLeft at *
  omega

theorem ofValidator?_of_reference {depth : Int} {n : Nat} (hn : levelsLeft depth = n)
    (hkind : argument.kind = .identifier) (hname : PropKind.ofName? argument.text = none) :
    ofValidator? depth "" argument = if n = 0 then some { name := "" } else none := by
  cases n with
  | zero => rw [ofValidator?, if_pos (levelsLeft_eq_zero_iff.1 hn), if_pos rfl]
  | succ n =>
      rw [ofValidator?_of_le (levelsLeft_succ hn).1, if_neg (by simp), ofParts?, hkind]
      simp [hname]

theorem kind_of_spells (h : Spells settings indent p t) : t.kind ≠ .object ∧ t.kind ≠ .array := by
  rw [Spells] at h
  split at h
  · obtain ⟨hfunction, -⟩ := h
    cases hkind : t.kind <;> simp_all [Kind.isFunctionValue]
  · obtain ⟨base, hmarked, hform⟩ := h
    have hbase : base.kind = .callExpression ∨ base.kind = .memberExpression := by
      unfold SpellsUnmarked at hform
      split at hform
      · obtain ⟨callee, argument, -, hcall, -⟩ := hform
        exact .inl hcall.kind_eq
      · obtain ⟨library, -, hmember⟩ := hform
        exact .inr hmember.kind_eq
    have htree : t.kind = .callExpression ∨ t.kind = .memberExpression := by
      unfold Tree.IsMarked at hmarked
      split at hmarked
      · exact .inr hmarked.kind_eq
      · rwa [hmarked]
    rcases htree with hkind | hkind <;> simp [hkind]

/-- What is read of a reference: the members that it stands for are not looked up. -/
theorem ofValidator?_of_call_reference {depth : Int} {n : Nat} {kind : PropKind}
    {reference : String} (hn : levelsLeft depth = n + 1) (hcall : t.Calls kind argument)
    (hne : kind ≠ .instanceOf)
    (hkind : argument.kind = .identifier) (htext : argument.text = reference)
    (hname : PropKind.ofName? reference = none) :
    ofValidator? depth name t =
      some
        (if n = 0 then { name, kind, children := [{ name := "" }] }
        else { name, kind, literal := some reference }) := by
  obtain ⟨hdepth, hnext⟩ := levelsLeft_succ hn
  rw [ofValidator?_of_operand hdepth hcall (by simp [hkind]) (by simp [hkind]) hne,
    ofValidator?_of_reference hnext hkind (htext ▸ hname), htext]
  by_cases hlast : n = 0
  · simp only [if_pos hlast]
  · simp only [if_neg hlast]

theorem ofValidator?_of_unmarked {depth : Int} {n : Nat}
    {member : String → Property → Tree → Prop} (hn : levelsLeft depth = n + 1)
    (hp : Canonical settings p) (hrequired : p.required = false) (hcustom : p.kind ≠ .custom)
    (hform : SpellsUnmarked settings indent p t member)
    (hoperand : ∀ indent c value, member indent c value →
      value.kind ≠ .object ∧ value.kind ≠ .array)
    (hread : ∀ indent c value, member indent c value →
      ofValidator? (depth + 1) c.name value = some (c.cut n)) :
    ofValidator? depth p.name t = some (p.cut (n + 1)) := by
  obtain ⟨hdepth, -⟩ := levelsLeft_succ hn
  obtain ⟨name, binding, kind, required, children, literal, defaultText, scope⟩ := p
  obtain ⟨hbinding, hscope, hdefault, hparts⟩ := hp
  dsimp only at hbinding hscope hdefault hrequired hcustom
  subst hbinding hscope hdefault hrequired
  unfold SpellsUnmarked at hform
  split at hform
  · obtain ⟨callee, argument, hcallee, hform, hargument⟩ := hform
    have hcall := hform.calls hcallee
    unfold SpellsArgument at hargument
    unfold HasCanonicalParts at hparts
    dsimp only at *
    -- the form of the argument decides how a call is read; kinds with the same forms share a case
    cases kind with
    | shape | exact =>
        cases literal with
        | some reference =>
            obtain ⟨hchildren, hreference⟩ | ⟨hnone, -⟩ := hparts
            · rw [ofValidator?_of_call_reference hn hcall (by decide) hargument.1 hargument.2
                (hreference reference rfl).2, cut_succ_of_reference n rfl rfl rfl hchildren, hchildren]
            · cases hnone
        | none =>
            have hnames : ∀ c ∈ children, IsPlainName settings c.name := by
              rcases hparts with ⟨hchildren, -⟩ | ⟨-, hnames⟩
              · simp [hchildren]
              · exact hnames
            rw [ofValidator?_of_object hdepth hcall hargument.1.kind_eq,
              filterMap_entries hargument.2 hnames fun c _ => hread _ c,
              cut_succ_of_members n rfl rfl rfl]
    | oneOfType =>
        cases literal with
        | some reference =>
            obtain ⟨hchildren, hreference⟩ | ⟨hnone, -⟩ := hparts
            · rw [ofValidator?_of_call_reference hn hcall (by decide) hargument.1 hargument.2
                (hreference reference rfl).2, cut_succ_of_reference n rfl rfl rfl hchildren, hchildren]
            · cases hnone
        | none =>
            have hnames : ∀ c ∈ children, c.name = "" := by
              rcases hparts with ⟨hchildren, -⟩ | ⟨-, hnames⟩
              · simp [hchildren]
              · exact hnames
            rw [ofValidator?_of_array hdepth hcall hargument.1.kind_eq (by decide),
              filterMap_elements hargument.2 hnames fun c _ => hread _ c,
              cut_succ_of_members n rfl rfl rfl]
    | arrayOf | objectOf =>
        obtain ⟨rfl, c, rfl, hname⟩ := hparts
        cases hargument with
        | cons hvalue _ =>
            have hsub := hread _ c argument hvalue
            obtain ⟨hobject, harray⟩ := hoperand _ c argument hvalue
            rw [hname] at hsub
            rw [ofValidator?_of_operand hdepth hcall hobject harray (by decide), hsub,
              cut_succ_of_members n rfl rfl rfl]
            rfl
    | oneOf =>
        obtain ⟨hchildren, -⟩ := hparts
        rw [ofValidator?_of_choices hdepth hcall hargument.1 rfl,
          cut_succ_of_leaf n rfl rfl, hargument.2, hchildren]
    | instanceOf =>
        obtain ⟨hchildren, -⟩ := hparts
        rw [ofValidator?_of_constructor hdepth hcall hargument.1 hargument.2.1 rfl,
          cut_succ_of_leaf n rfl rfl, hargument.2.2, hchildren]
    | _ => simp [PropKind.takesArgument] at *
  · next hkind =>
    have hleaf : kind.isContainer = false ∧ children = [] ∧ literal = none := by
      cases kind <;> simp_all [PropKind.takesArgument, HasCanonicalParts, PropKind.isContainer,
        PropKind.hasNamedMembers, PropKind.hasPositionalMembers]
    obtain ⟨hcontainer, rfl, rfl⟩ := hleaf
    rw [ofValidator?_of_isKindName hdepth hform, cut_succ_of_leaf n rfl hcontainer]

theorem ofValidator?_of_custom {depth : Int} (n : Nat) (hdepth : ¬ maxDepth < depth)
    (hp : Canonical settings p) (hcustom : p.kind = .custom) (h : Spells settings indent p t) :
    ofValidator? depth p.name t = some (p.cut (n + 1)) := by
  have hparts := hp.parts
  simp only [HasCanonicalParts, hcustom] at hparts
  obtain ⟨hchildren, -, hrequired⟩ := hparts
  rw [Spells, if_pos hcustom] at h
  rw [ofValidator?_of_function hdepth h.1, cut_succ_of_leaf n hrequired (by rw [hcustom]; rfl)]
  refine congrArg some ?_
  exact eq_of_fields rfl hp.binding_eq.symm hcustom.symm hrequired.symm hchildren.symm h.2.symm
    hp.defaultText_eq.symm hp.scope_eq.symm

theorem Canonical.unmarked (hp : Everywhere (Canonical settings) p) :
    Everywhere (Canonical settings) { p with required := false } := by
  obtain ⟨hself, hbelow⟩ := everywhere_iff.1 hp
  refine everywhere_iff.2 ⟨⟨hself.binding_eq, hself.scope_eq, hself.defaultText_eq, ?_⟩, hbelow⟩
  have hparts := hself.parts
  unfold HasCanonicalParts at hparts ⊢
  cases hkind : p.kind <;> simp_all

/-- A validator that spells a property is read as what the levels that are left show of it. -/
theorem ofValidator?_of_spells {depth : Int} {n : Nat} (hn : levelsLeft depth = n)
    (hp : Everywhere (Canonical settings) p) (h : Spells settings indent p t) :
    ofValidator? depth p.name t = some (p.cut n) := by
  -- each level of the tree takes one of the levels that are left, and so does a mark
  induction n generalizing depth indent p t with
  | zero =>
      rw [ofValidator?, if_pos (levelsLeft_eq_zero_iff.1 hn)]
      rfl
  | succ n ih =>
      obtain ⟨hdepth, hnext⟩ := levelsLeft_succ hn
      obtain ⟨hself, hbelow⟩ := everywhere_iff.1 hp
      by_cases hcustom : p.kind = .custom
      · exact ofValidator?_of_custom n hdepth hself hcustom h
      · rw [Spells, if_neg hcustom] at h
        obtain ⟨base, hmarked, hform⟩ := h
        cases hrequired : p.required with
        | false =>
            rw [hrequired] at hmarked
            have hbase : t = base := hmarked
            subst hbase
            refine ofValidator?_of_unmarked hn hself hrequired hcustom hform ?_ ?_
            · rintro indent c value ⟨-, hvalue⟩
              exact kind_of_spells hvalue
            · rintro indent c value ⟨hc, hvalue⟩
              exact ih hnext (hbelow c hc) hvalue
        | true =>
            rw [hrequired] at hmarked
            have hspells : Spells settings indent { p with required := false } base := by
              rw [Spells, if_neg hcustom]
              exact ⟨base, rfl, hform⟩
            rw [ofValidator?_of_mark hdepth hmarked (ih hnext (Canonical.unmarked hp) hspells),
              cut_succ_of_required n hrequired]

/-! ## When all levels are read -/

/-- How many levels a canonical property has for a reader; a level that only says `any` needs none. -/
def levels (p : Property) : Nat :=
  let below := (p.children.map levels).foldl max (if p.literal.isSome then 1 else 0)
  let unmarked := if p.kind = .any then 0 else if p.kind.isContainer then below + 1 else 1
  if p.required then unmarked + 1 else unmarked
termination_by sizeOf p
decreasing_by exact sizeOf_child_lt ‹_›

theorem levels_of_required (h : p.required = true) :
    p.levels = levels { p with required := false } + 1 := by
  rw [levels, levels]
  simp [h]

theorem levels_eq_zero_iff : p.levels = 0 ↔ p.required = false ∧ p.kind = .any := by
  rw [levels]
  cases p.required with
  | true => simp
  | false =>
      by_cases hany : p.kind = .any
      · simp [hany]
      · by_cases hkind : p.kind.isContainer = true <;> simp [hany, hkind]

theorem levels_le_one (hrequired : p.required = false) (hkind : p.kind.isContainer = false) :
    p.levels ≤ 1 := by
  rw [levels, hrequired, hkind]
  by_cases hany : p.kind = .any <;> simp [hany]

theorem levels_le_succ_iff {n : Nat} (hrequired : p.required = false)
    (hkind : p.kind.isContainer = true) :
    p.levels ≤ n + 1 ↔ (p.literal.isSome = true → 1 ≤ n) ∧ ∀ c ∈ p.children, c.levels ≤ n := by
  have hany : p.kind ≠ .any := by
    intro h
    rw [h] at hkind
    cases hkind
  rw [levels]
  simp only [hrequired, hkind, if_neg hany, if_true, Bool.false_eq_true, if_false,
    Nat.add_le_add_iff_right, foldl_max_le_iff, List.forall_mem_map]
  cases p.literal <;> simp

theorem required_cut (n : Nat) (h : p.required = false) : (p.cut n).required = false := by
  cases n with
  | zero => rfl
  | succ n =>
      rw [cut, if_neg (by simp [h])]
      split
      · split <;> exact h
      · exact h

theorem marked_eq_iff {q : Property} (hq : q.required = false) (hp : p.required = true) :
    { q with required := true } = p ↔ q = { p with required := false } := by
  constructor
  · rintro rfl
    exact eq_of_fields rfl rfl rfl hq rfl rfl rfl rfl
  · rintro rfl
    exact eq_of_fields rfl rfl rfl hp.symm rfl rfl rfl rfl

theorem children_of_reference {reference : String} (hp : HasCanonicalParts settings p)
    (hkind : p.kind.isContainer = true) (h : p.literal = some reference) : p.children = [] := by
  unfold HasCanonicalParts at hp
  cases hk : p.kind <;> simp_all [PropKind.isContainer, PropKind.hasNamedMembers,
    PropKind.hasPositionalMembers]

theorem cut_succ_eq_self_iff {n : Nat} (hp : HasCanonicalParts settings p)
    (hrequired : p.required = false) (hkind : p.kind.isContainer = true)
    (hbelow : ∀ c ∈ p.children, (c.cut n = c ↔ c.levels ≤ n)) :
    p.cut (n + 1) = p ↔ p.levels ≤ n + 1 := by
  rw [levels_le_succ_iff hrequired hkind]
  cases hliteral : p.literal with
  | none =>
      have hmembers : p.children.map (cut n) = p.children ↔ ∀ c ∈ p.children, c.levels ≤ n := by
        rw [← forall₂_congr hbelow]
        conv_lhs => rhs; rw [← List.map_id p.children]
        exact List.map_inj_left
      rw [cut_succ_of_members n hrequired hkind hliteral, ← hmembers]
      simp only [Option.isSome_none, Bool.false_eq_true, false_implies, true_and]
      exact ⟨congrArg children, fun h => eq_of_fields rfl rfl rfl rfl h rfl rfl rfl⟩
  | some reference =>
      have hchildren := children_of_reference hp hkind hliteral
      rw [cut_succ_of_reference n hrequired hkind (by rw [hliteral]; rfl) hchildren, hchildren]
      by_cases hlast : n = 0
      · have hne : p ≠ { p with literal := none, children := [{ name := "" }] } := by
          intro h
          simpa [hliteral] using congrArg literal h
        simp [hlast, hne.symm]
      · simp [hlast, Nat.one_le_iff_ne_zero]

/-- A canonical property is shown in full when no level is missing. -/
theorem cut_eq_self_iff {n : Nat} (hp : Everywhere (Canonical settings) p) :
    p.cut n = p ↔ p.levels ≤ n := by
  induction n generalizing p with
  | zero =>
      rw [Nat.le_zero, levels_eq_zero_iff]
      constructor
      · intro h
        exact ⟨by rw [← h]; rfl, by rw [← h]; rfl⟩
      · rintro ⟨hrequired, hkind⟩
        have hself := (everywhere_iff.1 hp).1
        have hparts := hself.parts
        simp only [HasCanonicalParts, hkind] at hparts
        exact eq_of_fields rfl hself.binding_eq.symm hkind.symm hrequired.symm hparts.1.symm
          hparts.2.symm hself.defaultText_eq.symm hself.scope_eq.symm
  | succ n ih =>
      obtain ⟨hself, hbelow⟩ := everywhere_iff.1 hp
      cases hrequired : p.required with
      | true =>
          rw [cut_succ_of_required n hrequired, levels_of_required hrequired,
            Nat.add_le_add_iff_right, ← ih (Canonical.unmarked hp)]
          exact marked_eq_iff (required_cut n rfl) hrequired
      | false =>
          by_cases hkind : p.kind.isContainer = true
          · exact cut_succ_eq_self_iff hself.parts hrequired hkind fun c hc => ih (hbelow c hc)
          · rw [Bool.not_eq_true] at hkind
            have hlevels := levels_le_one hrequired hkind
            simp only [cut_succ_of_leaf n hrequired hkind, true_iff]
            omega

/-- Reading a validator undoes writing it, as far as the reader goes. A canonical property has a
tree for its validator; every such tree has the text that is written; what is read at some depth is
what the levels that are left show; and that is the whole property if and only if it has no more
levels than these. -/
theorem ofValidator?_written (hp : Everywhere (Canonical settings) p) (indent : String) :
    (∃ t, Spells settings indent p t) ∧
      ∀ t, Spells settings indent p t →
        t.text = validator settings indent p ∧
          ∀ depth, ofValidator? depth p.name t = some (p.cut (levelsLeft depth)) ∧
            (ofValidator? depth p.name t = some p ↔ p.levels ≤ levelsLeft depth) := by
  refine ⟨⟨_, spells_syntaxTree [] hp⟩, ?_⟩
  intro t h
  refine ⟨text_of_spells hp h, ?_⟩
  intro depth
  have hread : ofValidator? depth p.name t = some (p.cut (levelsLeft depth)) :=
    ofValidator?_of_spells rfl hp h
  refine ⟨hread, ?_⟩
  rw [hread, Option.some_inj, cut_eq_self_iff hp]

/-- A shape with a quoted key, a reference and a list of choices. -/
def account : Property :=
  { name := "account", kind := .shape, required := true
    children :=
      [{ name := "full-name", kind := .string, required := true },
        { name := "home", kind := .shape, literal := some "addressShape" },
        { name := "tags", kind := .arrayOf
          children := [{ name := "", kind := .oneOf, literal := some "['a', 'b']" }] }] }

theorem canonical_account : Everywhere (Canonical {}) account := by
  refine everywhere_iff.2 ⟨⟨rfl, rfl, rfl, .inr ⟨rfl, by decide⟩⟩, ?_⟩
  simp only [account, List.forall_mem_cons]
  refine ⟨?_, ?_, ?_, nofun⟩
  · exact everywhere_iff.2 ⟨⟨rfl, rfl, rfl, rfl, rfl⟩, nofun⟩
  · refine everywhere_iff.2 ⟨⟨rfl, rfl, rfl, .inl ⟨rfl, ?_⟩⟩, nofun⟩
    rintro text ⟨⟩
    exact ⟨by decide, by decide⟩
  · refine everywhere_iff.2 ⟨⟨rfl, rfl, rfl, rfl, _, rfl, rfl⟩, ?_⟩
    simp only [List.forall_mem_cons]
    exact ⟨everywhere_iff.2 ⟨⟨rfl, rfl, rfl, rfl, _, rfl, by decide⟩, nofun⟩, nofun⟩

theorem ofValidator?_account :
    Everywhere (Canonical {}) account ∧ account.levels = 4 ∧
      ∃ t : Tree,
        t.text = "PropTypes.shape(\x7b\n  'full-name': PropTypes.string.isRequired,\n" ++
          "  home: PropTypes.shape(addressShape),\n" ++
          "  tags: PropTypes.arrayOf(PropTypes.oneOf(['a', 'b']))\n\x7d).isRequired" ∧
        ofValidator? 0 "account" t = some account ∧ ofValidator? 30 "account" t ≠ some account := by
  have hlevels : account.levels = 4 := by
    simp [account, levels, PropKind.isContainer, PropKind.hasNamedMembers,
      PropKind.hasPositionalMembers]
  obtain ⟨⟨t, ht⟩, hall⟩ := ofValidator?_written canonical_account ""
  obtain ⟨htext, hread⟩ := hall t ht
  refine ⟨canonical_account, hlevels, t, ?_, (hread 0).2.2 ?_, fun h => ?_⟩
  · rw [htext]
    decide +kernel
  · rw [hlevels]
    decide
  · have hle := (hread 30).2.1 h
    rw [hlevels] at hle
    exact absurd hle (by decide)

def nestedLists : Nat → Property
  | 0 => { name := "", kind := .string }
  | n + 1 => { name := "", kind := .arrayOf, children := [nestedLists n] }

theorem nestedLists_name (n : Nat) : (nestedLists n).name = "" := by
  cases n <;> rfl

theorem canonical_nestedLists (n : Nat) : Everywhere (Canonical settings) (nestedLists n) := by
  induction n with
  | zero => exact everywhere_iff.2 ⟨⟨rfl, rfl, rfl, rfl, rfl⟩, fun c hc => absurd hc List.not_mem_nil⟩
  | succ n ih =>
      refine everywhere_iff.2 ⟨⟨rfl, rfl, rfl, rfl, nestedLists n, rfl, nestedLists_name n⟩, ?_⟩
      rintro c hc
      rw [List.mem_singleton.1 hc]
      exact ih

theorem levels_nestedLists (n : Nat) : (nestedLists n).levels = n + 1 := by
  induction n with
  | zero => simp [nestedLists, levels, PropKind.isContainer, PropKind.hasNamedMembers,
      PropKind.hasPositionalMembers]
  | succ n ih =>
      rw [nestedLists, levels]
      simp [ih, PropKind.isContainer, PropKind.hasPositionalMembers]

/-- Lists that are nested deeper than the reader follows are not read again. -/
theorem ofValidator?_nestedLists_ne :
    Everywhere (Canonical {}) (nestedLists 33) ∧
      Spells {} "" (nestedLists 33) (syntaxTree {} "" [] (nestedLists 33)) ∧
      ofValidator? 0 (nestedLists 33).name (syntaxTree {} "" [] (nestedLists 33)) ≠
        some (nestedLists 33) := by
  have hp : Everywhere (Canonical {}) (nestedLists 33) := canonical_nestedLists 33
  have hspells : Spells {} "" _ (syntaxTree {} "" [] (nestedLists 33)) := spells_syntaxTree [] hp
  refine ⟨hp, hspells, fun h => ?_⟩
  rw [ofValidator?_of_spells rfl hp hspells, Option.some_inj, cut_eq_self_iff hp,
    levels_nestedLists] at h
  exact absurd h (by decide)

end Property

end PropTyper
