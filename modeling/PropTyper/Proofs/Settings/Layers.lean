import PropTyper.Proofs.Settings.Reported

/-! # How layers are resolved

Each field is taken from the first layer that has a value for it: arguments that are not null, the
settings file under any spelling of the key, the environment, the defaults. The value is checked for
that field alone, and all values that are refused are reported together. So it is with every settings
class that prefers given values to the environment and checks field by field, as long as no key begins
with an underscore: such a key is not looked up but changes where the class looks.
-/

namespace PropTyper

namespace Settings

def isGiven : Json → Bool
  | .null => false
  | _ => true

/-- The value that the arguments have for a field: the last one that is not null. -/
def argument? (overrides : Json.Members) (setting : Setting) : Option Json :=
  (overrides.reverse.find? fun o => o.1 = LooseText.ofString setting.key && isGiven o.2).map (·.2)

/-- The value that the members of a file have for a field: the last one under any spelling of the
key. -/
def stated? (members : Json.Members) (setting : Setting) : Option Json :=
  (members.reverse.find? fun m => snakeKey m.1 = LooseText.ofString setting.key).map (·.2)

/-- The value of a field in the first layer that has one. -/
def first? (overrides members : Json.Members) (exported : Setting → Option Json) (setting : Setting) :
    Option Json :=
  (argument? overrides setting).or ((stated? members setting).or (exported setting))

theorem lookup_eq_find? (members : Json.Members) (key : LooseText) :
    members.lookup key = (members.find? fun m => m.1 = key).map (·.2) := by
  induction members with
  | nil => rfl
  | cons m rest ih =>
      rw [List.lookup_cons, List.find?_cons, ih]
      by_cases h : key = m.1
      · simp [h]
      · simp [beq_eq_false_iff_ne.2 h, Ne.symm h]

theorem override_eq_setAll (file overrides : Json.Members) :
    override file overrides = Json.setAll (overrides.filter fun o => isGiven o.2) file := by
  unfold override
  induction overrides generalizing file with
  | nil => rfl
  | cons o rest ih =>
      obtain ⟨key, v⟩ := o
      rw [List.foldl_cons, ih]
      cases v <;> rfl

theorem lookup_override (file overrides : Json.Members) (setting : Setting) :
    (override file overrides).lookup (LooseText.ofString setting.key) =
      (argument? overrides setting).or (file.lookup (LooseText.ofString setting.key)) := by
  rw [override_eq_setAll, Json.lookup_setAll, lookup_eq_find? (List.reverse _), ← List.filter_reverse,
    List.find?_filter, argument?]
  simp only [Bool.and_comm, Bool.decide_and, Bool.decide_eq_true]

theorem lookup_snakeMembers_eq (members : Json.Members) (setting : Setting) :
    (snakeMembers members).lookup (LooseText.ofString setting.key) = stated? members setting := by
  rw [ConfigFile.lookup_snakeMembers, ← List.map_reverse, lookup_eq_find?, List.find?_map,
    Option.map_map]
  rfl

end Settings

namespace ConfigFile

open Settings

/-- The members of the settings file as they are spelled there; none if there is no file or nothing in
it. -/
inductive States (s : Store) (p : Path) : Json.Members → Prop
  | absent {cause : PathCause} (hentry : s.entry p = .error cause) (hshort : cause ≠ .tooLong) :
      States s p []
  | blank {bytes : List UInt8} {raw : String} (hentry : s.entry p = .ok (.file bytes))
      (htext : Text.ofFile bytes = .ok raw) (hblank : Text.isAllBlank raw = true) : States s p []
  | object {bytes : List UInt8} {raw : String} {members : Json.Members}
      (hentry : s.entry p = .ok (.file bytes)) (htext : Text.ofFile bytes = .ok raw)
      (hfilled : Text.isAllBlank raw = false)
      (hparse : Json.parse raw.toList = .ok (.object members)) : States s p members

variable {s : Store} {env : Environment} {asked : Option String} {overrides members : Json.Members}
variable {c : SettingsClass} {check : (Setting → Option Json) → Except (List Refusal) Settings}
variable {checked : Setting → Json → Except SettingFault Json}
variable {exported : LooseText → Environment → Setting → Option Json}

theorem States.read_eq {p : Path} (h : States s p members) : read s p = .ok (snakeMembers members) := by
  cases h with
  | absent hentry hshort => exact read_of_absent hentry hshort
  | blank hentry htext hblank =>
      rw [read_of_text hentry htext, parse, if_pos hblank]
      rfl
  | object hentry htext hfilled hparse =>
      rw [read_of_text hentry htext, parse, hfilled, hparse]
      rfl

theorem isSettingKey_override (hmembers : ∀ m ∈ members, IsSettingKey (snakeKey m.1))
    (hoverrides : ∀ o ∈ overrides, isGiven o.2 = true → IsSettingKey o.1) :
    ∀ m ∈ override (snakeMembers members) overrides, IsSettingKey m.1 := by
  intro m hm
  rw [override_eq_setAll] at hm
  rcases Json.mem_setAll hm with hm | hm
  · obtain ⟨hmem, hgiven⟩ := List.mem_filter.1 hm
    exact hoverrides m hmem hgiven
  · rcases Json.mem_setAll hm with hm | hm
    · obtain ⟨spelled, hspelled, rfl⟩ := List.mem_map.1 hm
      exact hmembers spelled hspelled
    · cases hm

/-- Loading checks the value of each field in the first layer that has one. -/
theorem load_eq (hclass : c.Resolves check checked exported)
    (hfile : States s (path env asked) members)
    (harguments : overrides.lookup (LooseText.ofString fileKey) = none)
    (hmembers : ∀ m ∈ members, IsSettingKey (snakeKey m.1))
    (hoverrides : ∀ o ∈ overrides, isGiven o.2 = true → IsSettingKey o.1) :
    load c s env asked overrides =
      (check (first? overrides members (exported marker env))).mapError
        fun refusals => .reported (.config (.invalid refusals)) := by
  have hchosen : (fun setting : Setting =>
      ((override (snakeMembers members) overrides).lookup (LooseText.ofString setting.key)).or
        (exported marker env setting)) = first? overrides members (exported marker env) := by
    funext setting
    rw [lookup_override, lookup_snakeMembers_eq, Option.or_assoc, first?]
  rw [load_of_read harguments hfile.read_eq,
    hclass.precedence s env _ (isSettingKey_override hmembers hoverrides), hchosen]
  cases check (first? overrides members (exported marker env)) <;> rfl

/-- Settings are resolved field by field. They are loaded exactly if each field has the checked form of
its value in the first layer that has one, or else its default; and loading fails exactly if some such
value is refused, with a report that lists the refused ones in the order of the fields. -/
theorem load_resolves (hclass : c.Resolves check checked exported)
    (hfile : States s (path env asked) members)
    (harguments : overrides.lookup (LooseText.ofString fileKey) = none)
    (hmembers : ∀ m ∈ members, IsSettingKey (snakeKey m.1))
    (hoverrides : ∀ o ∈ overrides, isGiven o.2 = true → IsSettingKey o.1) :
    (∀ settings, load c s env asked overrides = .ok settings ↔
      Fits checked (first? overrides members (exported marker env)) settings) ∧
    ∀ fault, load c s env asked overrides = .error fault ↔
      refused checked (first? overrides members (exported marker env)) Setting.all ≠ [] ∧
        fault = .reported (.config (.invalid
          (refused checked (first? overrides members (exported marker env)) Setting.all))) ∧
        fault.message = "Invalid settings" := by
  rw [load_eq hclass hfile harguments hmembers hoverrides]
  generalize first? overrides members (exported marker env) = chosen
  constructor
  · intro settings
    rw [mapError_eq_ok_iff, hclass.accepts]
  · intro fault
    rw [mapError_eq_error_iff]
    constructor
    · rintro ⟨refusals, hcheck, rfl⟩
      obtain ⟨rfl, hsome⟩ := (hclass.refuses chosen refusals).1 hcheck
      exact ⟨hsome, rfl, rfl⟩
    · rintro ⟨hsome, rfl, -⟩
      exact ⟨_, (hclass.refuses chosen _).2 ⟨rfl, hsome⟩, rfl⟩

theorem states_of_bytesOf {p : Path} (hfaithful : (Json.object members).all Json.isFaithful = true)
    (hshort : (Json.object members).all Json.isShort = true)
    (hentry : s.entry p = .ok (.file (bytesOf members))) : States s p members :=
  .object hentry (ofFile_bytesOf hfaithful) (isAllBlank_print members)
    (by rw [toList_print]; exact Json.parse_render hfaithful hshort)

/-- A width, a style that is refused, and a quote under two spellings of its key. -/
def widthStyleQuotes : Json.Members :=
  [(LooseText.ofString "tabWidth", .int 4), (LooseText.ofString "codeStyle", .str "sideways"),
    (LooseText.ofString "Quote", .str "single"), (LooseText.ofString "quote", .str "double")]

def widthAndTruth : Environment :=
  [("PROPTYPES_TAB_WIDTH", "abc"), ("proptypes_with_defaults", "yes")]

def styleArgument : Json.Members :=
  [(LooseText.ofString "code_style", .str "class"), (LooseText.ofString "quote", .null)]

def styleWidthQuoteTruth : Setting → Option Json
  | .codeStyle => some (.str "class")
  | .quote => some (.str "double")
  | .tabWidth => some (.int 4)
  | .withDefaults => some (.str "yes")
  | _ => none

theorem exported_withDefaults :
    SettingsClass.exported marker widthAndTruth .withDefaults = some (.str "yes") := by
  have hnames : ∀ v ∈ widthAndTruth, IsVariableOf marker .withDefaults v.1 ↔
      v.1.toList.map Char.toLower = "proptypes_with_defaults".toList := by
    intro v hv
    exact isVariableOf_of_ascii (by decide) (by revert v; decide) .withDefaults
  have htruth : ("proptypes_with_defaults", "yes") ∈ widthAndTruth := by decide
  refine VariableRules.layer_of_named htruth ((hnames _ htruth).2 (by decide)) ?_
  intro w hw hname
  rw [hnames w hw] at hname
  revert w
  decide

theorem exported_eq_none {setting : Setting} (h : ∀ v ∈ widthAndTruth,
      v.1.toList.map Char.toLower ≠ ("PROPTYPES_" ++ setting.key).toList.map Char.toLower) :
    SettingsClass.exported marker widthAndTruth setting = none := by
  apply VariableRules.layer_of_unnamed
  intro v hv hname
  have hascii : (v.1.toList.all fun c => c.toNat < 0x80) = true := by
    clear hname h
    revert v
    decide
  exact h v hv ((isVariableOf_of_ascii (by decide) hascii setting).1 hname)

theorem first?_styleWidthQuoteTruth :
    first? styleArgument widthStyleQuotes (SettingsClass.exported marker widthAndTruth) =
      styleWidthQuoteTruth := by
  funext setting
  unfold first?
  cases setting with
  | name | label | autoImport =>
      rw [exported_eq_none (by decide)]
      rfl
  | withDefaults =>
      rw [exported_withDefaults]
      rfl
  | codeStyle | quote | tabWidth => rfl

/-- The refused values lie below others and do no harm. -/
theorem load_resolves_styleWidthQuoteTruth :
    load .ofSources (holding (bytesOf widthStyleQuotes)) widthAndTruth (some "c.json") styleArgument =
      .ok { codeStyle := some .field, quote := .double, tabWidth := 4, withDefaults := true } := by
  have hfile : States (holding (bytesOf widthStyleQuotes)) (path widthAndTruth (some "c.json"))
      widthStyleQuotes :=
    states_of_bytesOf rfl rfl rfl
  apply ((load_resolves SettingsClass.resolves_ofSources hfile rfl (by decide) (by decide)).1 _).2
  rw [first?_styleWidthQuoteTruth]
  constructor
  · intro setting v hv
    cases setting <;> cases hv <;> rfl
  · intro setting hnone
    cases setting <;> cases hnone <;> rfl

/-! ## Keys that change the layers -/

/-- A file that has no setting but says what the names of variables begin with. -/
def markedElsewhere : Json.Members :=
  [(LooseText.ofString "_env_prefix", .str "X_")]

def quoteVariable : Environment :=
  [("PROPTYPES_QUOTE", "double")]

theorem states_markedElsewhere :
    States (holding (bytesOf markedElsewhere)) (path quoteVariable (some "c.json")) markedElsewhere :=
  states_of_bytesOf rfl rfl rfl

section

variable (hclass : c.Resolves check checked exported)
include hclass

theorem first?_quoteVariable :
    first? [] markedElsewhere (exported marker quoteVariable) .quote = some (.str "double") := by
  have hquote : exported marker quoteVariable .quote = some (.str "double") := by
    refine hclass.named marker quoteVariable .quote ("PROPTYPES_QUOTE", "double") (by decide) ?_ ?_
    · exact (isVariableOf_of_ascii (by decide) (by decide) .quote).2 (by decide)
    · intro w hw _
      exact List.mem_singleton.1 hw
  rw [first?, hquote]
  rfl

theorem load_markedElsewhere :
    load c (holding (bytesOf markedElsewhere)) quoteVariable (some "c.json") [] = .ok {} := by
  have hmembers : override (snakeMembers markedElsewhere) [] = markedElsewhere := rfl
  have hnone : exported (LooseText.ofString "X_") quoteVariable = fun _ => none := by
    funext setting
    apply hclass.unnamed
    intro v hv hname
    rw [List.mem_singleton.1 hv, isVariableOf_of_ascii (by decide) (by decide)] at hname
    cases setting <;> exact absurd hname (by decide)
  have hfits : Fits checked (fun _ => none) {} := by
    constructor
    · intro setting v hv
      cases hv
    · intro setting _
      rfl
  rw [load_of_read rfl states_markedElsewhere.read_eq, hmembers, markedElsewhere, hclass.marked, hnone,
    (hclass.accepts _ _).2 hfits]
  rfl

end

/-- With such a key, what is loaded need not fit the layers, whatever the settings class. -/
theorem not_fits_markedElsewhere :
    (∃ c check checked exported, SettingsClass.Resolves c check checked exported) ∧
    States (holding (bytesOf markedElsewhere)) (path quoteVariable (some "c.json")) markedElsewhere ∧
    ∀ c check checked exported, SettingsClass.Resolves c check checked exported →
      first? [] markedElsewhere (exported marker quoteVariable) .quote = some (.str "double") ∧
      load c (holding (bytesOf markedElsewhere)) quoteVariable (some "c.json") [] = .ok {} ∧
      ¬ Fits checked (first? [] markedElsewhere (exported marker quoteVariable)) {} := by
  refine ⟨⟨_, _, _, _, SettingsClass.resolves_ofSources⟩, states_markedElsewhere, ?_⟩
  intro c check checked exported hclass
  refine ⟨first?_quoteVariable hclass, load_markedElsewhere hclass, ?_⟩
  intro hfits
  -- settings with the other quote show what the field makes of the value
  have hkept := hclass.keeps { quote := .double } .quote
  have htaken := hfits.taken .quote _ (first?_quoteVariable hclass)
  have hsame := Except.ok.inj (hkept.symm.trans htaken)
  exact absurd (Json.str.inj hsame) (by decide)

end ConfigFile

end PropTyper
