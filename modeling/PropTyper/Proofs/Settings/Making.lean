import PropTyper.Proofs.Settings.Check
import PropTyper.Proofs.Settings.Keys
import PropTyper.Settings.Making

/-! # The settings class of the commands

The class that commands run with does what settings classes are documented to do.
-/

namespace PropTyper

theorem mapError_eq_ok_iff {ε ε' α : Type} {r : Except ε α} {f : ε → ε'} {a : α} :
    r.mapError f = .ok a ↔ r = .ok a := by
  cases r with
  | ok b =>
      constructor <;> intro h <;> cases h <;> rfl
  | error e => exact iff_of_false (fun h => by cases h) (fun h => by cases h)

theorem mapError_eq_error_iff {ε ε' α : Type} {r : Except ε α} {f : ε → ε'} {e' : ε'} :
    r.mapError f = .error e' ↔ ∃ e, r = .error e ∧ e' = f e := by
  cases r with
  | ok b => exact iff_of_false (fun h => by cases h) (fun ⟨_, h, _⟩ => by cases h)
  | error e =>
      constructor
      · intro h
        cases h
        exact ⟨e, rfl, rfl⟩
      · rintro ⟨_, h, rfl⟩
        cases h
        rfl

/-! ## Variables -/

/-- In ASCII, the name of a variable counts in any case of its letters. -/
theorem Settings.isVariableOf_of_ascii {begin name : String}
    (hbegin : (begin.toList.all fun c => c.toNat < 0x80) = true)
    (hname : (name.toList.all fun c => c.toNat < 0x80) = true) (setting : Setting) :
    Settings.IsVariableOf (LooseText.ofString begin) setting name ↔
      name.toList.map Char.toLower = (begin ++ setting.key).toList.map Char.toLower := by
  have hown : ((begin ++ setting.key).toList.all fun c => c.toNat < 0x80) = true := by
    rw [String.toList_append, List.all_append, hbegin]
    cases setting <;> rfl
  have hjoined : LooseText.ofString begin ++ LooseText.ofString setting.key =
      LooseText.ofString (begin ++ setting.key) := by
    simp [LooseText.ofString]
  rw [IsVariableOf, hjoined, LooseText.lower_of_ascii hname, LooseText.lower_of_ascii hown]
  exact List.map_inj_right fun _ _ => Sign.char.inj

namespace VariableRules

open Settings (IsVariableOf)

variable {other : LooseText} {env : Environment} {setting : Setting}

theorem isFor_iff {name : String} :
    isFor { marker := other } setting name = true ↔ IsVariableOf other setting name :=
  decide_eq_true_iff

theorem value_marker (text : String) : value { marker := other } setting text = .str text := by
  have hnone : (setting.choices.find? fun word =>
      capitalChoices { marker := other } && word.toUpper = text) = none := by
    simp
  unfold value
  rw [hnone]
  rfl

theorem mem_own {w : String × Option String} :
    w ∈ (env.toVariables.filter fun v =>
        !(skipEmpty { marker := other } && v.2 = some "") && isFor { marker := other } setting v.1) ↔
      ∃ v ∈ env, w = (v.1, some v.2) ∧ IsVariableOf other setting v.1 := by
  rw [List.mem_filter, Bool.false_and, Bool.not_false, Bool.true_and, isFor_iff,
    Environment.toVariables, List.mem_map]
  constructor
  · rintro ⟨⟨v, hv, rfl⟩, hname⟩
    exact ⟨v, hv, rfl, hname⟩
  · rintro ⟨v, hv, rfl, hname⟩
    exact ⟨⟨v, hv, rfl⟩, hname⟩

theorem layer_of_unnamed (h : ∀ v ∈ env, ¬ IsVariableOf other setting v.1) :
    layer { marker := other } env.toVariables setting = none := by
  have hown : (env.toVariables.filter fun v =>
      !(skipEmpty { marker := other } && v.2 = some "") && isFor { marker := other } setting v.1) = [] := by
    apply List.eq_nil_iff_forall_not_mem.2
    intro w hw
    obtain ⟨v, hv, -, hname⟩ := mem_own.1 hw
    exact h v hv hname
  unfold layer
  rw [hown]
  rfl

theorem layer_of_named {v : String × String} (hv : v ∈ env) (hname : IsVariableOf other setting v.1)
    (honly : ∀ w ∈ env, IsVariableOf other setting w.1 → w = v) :
    layer { marker := other } env.toVariables setting = some (.str v.2) := by
  have hown := List.ne_nil_of_mem (mem_own.2 ⟨v, hv, rfl, hname⟩)
  obtain ⟨w, hw, hlast, hwname⟩ := mem_own.1 (List.getLast_mem hown)
  unfold layer
  dsimp only
  rw [List.getLast?_eq_some_getLast hown, hlast, honly w hw hwname]
  exact congrArg some (value_marker v.2)

end VariableRules

/-! ## What is given -/

namespace Sources

open Settings

variable {given : Json.Members}

theorem lookup_eq_none (h : ∀ m ∈ given, IsSettingKey m.1) {key : LooseText}
    (hkey : key.head? = some (.char '_')) : given.lookup key = none := by
  rw [List.lookup_eq_none_iff]
  intro m hm
  have hne : key ≠ m.1 := by
    rintro rfl
    exact h m hm hkey
  simpa using hne

theorem option?_eq_none (h : ∀ m ∈ given, IsSettingKey m.1) {key : String}
    (hkey : (LooseText.ofString key).head? = some (.char '_')) : option? given key = none := by
  rw [option?, lookup_eq_none h hkey]

theorem of_isSettingKey (h : ∀ m ∈ given, IsSettingKey m.1) : Sources.of given = .ok {} := by
  have hself : given.lookup (LooseText.ofString selfKey) = none := lookup_eq_none h (by decide)
  have hmarker : Sources.marker given = .ok (VariableRules.marker {}) := by
    rw [Sources.marker, option?_eq_none h (by decide)]
  have hlimit : checkLimit given = .ok () := by
    rw [checkLimit, option?_eq_none h (by decide)]
  have hnull : nullText given = none := by
    rw [nullText, option?_eq_none h (by decide)]
  have hflag : ∀ {key : String}, (LooseText.ofString key).head? = some (.char '_') →
      flag given key = false := by
    intro key hkey
    rw [flag, option?_eq_none h hkey]
    rfl
  have hpaths : ∀ {key : String}, (LooseText.ofString key).head? = some (.char '_') →
      paths given key = .ok [] := by
    intro key hkey
    rw [paths, option?_eq_none h hkey]
  unfold Sources.of
  rw [hself, hmarker, hlimit, hnull, hpaths (by decide), hpaths (by decide), hflag (by decide),
    hflag (by decide), hflag (by decide)]
  rfl

theorem paths_of_namesNoFiles (h : NamesNoFiles given) {key : String}
    (hkey : key ∈ ["_env_file", "_secrets_dir"]) : paths given key = .ok [] := by
  unfold paths option?
  cases hlookup : given.lookup (LooseText.ofString key) with
  | none => rfl
  | some v =>
      rw [h key hkey v hlookup]

theorem of_namesNoFiles (h : NamesNoFiles given) {sources : Sources} (hof : Sources.of given = .ok sources) :
    sources.variableFiles = [] ∧ sources.secretDirectories = [] := by
  unfold Sources.of at hof
  rw [paths_of_namesNoFiles h (by decide), paths_of_namesNoFiles h (by decide)] at hof
  split at hof
  · cases hof
  · cases hmarker : Sources.marker given with
    | error misfit =>
        rw [hmarker] at hof
        cases hof
    | ok marker =>
        rw [hmarker] at hof
        cases hlimit : checkLimit given with
        | error misfit =>
            rw [hlimit] at hof
            cases hof
        | ok limit =>
            rw [hlimit] at hof
            cases hof
            exact ⟨rfl, rfl⟩

theorem of_secretsOption (directory : String) :
    Sources.of (SettingsClass.secretsOption directory) = .ok { secretDirectories := [directory] } := by
  have hfilled : LooseText.filled (LooseText.ofString directory) = directory := by
    simp [LooseText.filled, LooseText.ofString, Function.comp_def, Sign.char?]
  have hof : Sources.of (SettingsClass.secretsOption directory) =
      .ok { secretDirectories := [LooseText.filled (LooseText.ofString directory)] } := rfl
  rw [hof, hfilled]

end Sources

/-! ## The class -/

namespace SettingsClass

open Settings

section

variable {s : Store} {env : Environment} {given : Json.Members} {sources : Sources}

theorem make_ofSources (hof : Sources.of given = .ok sources) :
    ofSources.make s env given = (sources.layers s env).bind fun below =>
      (check (chosen (givenLayer given :: below))).mapError .refused := by
  show Settings.ofSources s env given = _
  rw [Settings.ofSources, hof]
  rfl

theorem layers_of_noFiles (hfiles : sources.variableFiles = [])
    (hdirectories : sources.secretDirectories = []) (s : Store) (env : Environment) :
    sources.layers s env =
      .ok [sources.rules.layer env.toVariables, sources.rules.layer []] := by
  rw [Sources.layers, hfiles, hdirectories]
  rfl

/-- Without files there are the given values and the environment. -/
theorem make_of_marker {other : LooseText}
    (hof : Sources.of given = .ok { rules := { marker := other } }) :
    ofSources.make s env given = (check fun setting =>
      (given.lookup (LooseText.ofString setting.key)).or
        (VariableRules.layer { marker := other } env.toVariables setting)).mapError .refused := by
  have hchosen : chosen [givenLayer given, VariableRules.layer { marker := other } env.toVariables,
      VariableRules.layer { marker := other } []] = fun setting =>
        (given.lookup (LooseText.ofString setting.key)).or
          (VariableRules.layer { marker := other } env.toVariables setting) := by
    funext setting
    have hempty : VariableRules.layer { marker := other } [] setting = none := rfl
    simp only [chosen, List.findSome?, givenLayer, hempty]
    cases given.lookup (LooseText.ofString setting.key) <;>
      cases VariableRules.layer { marker := other } env.toVariables setting <;> rfl
  rw [make_ofSources hof, layers_of_noFiles rfl rfl, ← hchosen]
  rfl

end

theorem takesDictionaries_ofSources : ofSources.TakesDictionaries :=
  fun _ _ _ => rfl

theorem readsNamedFiles_ofSources : ofSources.ReadsNamedFiles := by
  intro s s' env values hvalues
  cases hof : Sources.of values with
  | error misfit =>
      show Settings.ofSources s env values = Settings.ofSources s' env values
      rw [Settings.ofSources, Settings.ofSources, hof]
      rfl
  | ok sources =>
      obtain ⟨hfiles, hdirectories⟩ := Sources.of_namesNoFiles hvalues hof
      rw [make_ofSources hof, make_ofSources hof, layers_of_noFiles hfiles hdirectories,
        layers_of_noFiles hfiles hdirectories]

theorem hasDefaults_ofSources : ofSources.HasDefaults := by
  intro s env henv
  have hnone : (fun setting : Setting => (([] : Json.Members).lookup (LooseText.ofString setting.key)).or
      (VariableRules.layer { marker := Settings.marker } env.toVariables setting)) = fun _ => none := by
    funext setting
    rw [VariableRules.layer_of_unnamed fun v hv => henv v hv setting]
    rfl
  have hof : Sources.of [] = .ok { rules := { marker := Settings.marker } } := rfl
  rw [make_of_marker hof, hnone]
  rfl

theorem refusesOnly_ofSources : ofSources.RefusesOnly := by
  intro s env values hvalues rejection h
  rw [make_of_marker (Sources.of_isSettingKey hvalues)] at h
  obtain ⟨refusals, -, rfl⟩ := mapError_eq_error_iff.1 h
  exact ⟨refusals, rfl⟩

/-! ### Secrets -/

theorem expanded_eq {directory : String} (h : startsAtHome (Path.ofString directory) = false) :
    Sources.expanded directory = Path.ofString directory := by
  unfold Sources.expanded
  dsimp only
  split
  · next hnames =>
    rw [startsAtHome, hnames] at h
    cases h
  · rfl

theorem make_secretsOption {s : Store} {directory : String} {secrets : Layer}
    (h : Sources.secretsIn s {} directory = .ok secrets) :
    ofSources.make s [] (secretsOption directory) = (check secrets).mapError .refused := by
  have hlayers : Sources.layers { secretDirectories := [directory] } s [] =
      .ok [VariableRules.layer {} [], VariableRules.layer {} [], secrets] := by
    unfold Sources.layers
    rw [List.mapM_cons, h]
    rfl
  have hchosen : chosen [givenLayer (secretsOption directory), VariableRules.layer {} [],
      VariableRules.layer {} [], secrets] = secrets := by
    funext setting
    have hgiven : givenLayer (secretsOption directory) setting = none := by
      cases setting <;> rfl
    have hempty : VariableRules.layer {} [] setting = none := rfl
    simp only [chosen, List.findSome?, hgiven, hempty]
    cases secrets setting <;> rfl
  rw [make_ofSources (Sources.of_secretsOption directory), hlayers, Except.bind, hchosen]

theorem isFor_tabWidth : VariableRules.isFor {} .tabWidth "proptypes_tab_width" = true := by
  have hnamed : IsVariableOf (LooseText.ofString "PROPTYPES_") .tabWidth "proptypes_tab_width" :=
    (isVariableOf_of_ascii (by decide) (by decide) .tabWidth).2 (by decide)
  exact VariableRules.isFor_iff.2 hnamed

theorem readsSecrets_ofSources : ofSources.ReadsSecrets where
  absent s directory hpath hentry := by
    have hsecrets : Sources.secretsIn s {} directory = .ok fun _ => none := by
      rw [Sources.secretsIn, expanded_eq hpath, hentry]
    rw [make_secretsOption hsecrets]
    rfl
  refused s directory bytes text hpath hentry htext hdigits := by
    have hnoDigit : Numeral.HasNoDigit (String.ofList (Text.trim text.toList)).toList := by
      intro c hc
      rw [String.toList_ofList] at hc
      simpa using List.all_eq_true.1 hdigits c (Text.dropEnds_subset _ _ hc)
    obtain ⟨secrets, hsecrets, hwidth⟩ : ∃ secrets, Sources.secretsIn s {} directory = .ok secrets ∧
        secrets .tabWidth = some (.str (String.ofList (Text.trim text.toList))) := by
      have hfind : [("proptypes_tab_width", Entry.file bytes)].find? (fun e =>
          VariableRules.isFor {} .tabWidth e.1) = some ("proptypes_tab_width", .file bytes) :=
        List.find?_cons_of_pos isFor_tabWidth
      rw [Sources.secretsIn, expanded_eq hpath, hentry]
      refine ⟨_, rfl, ?_⟩
      rw [hfind]
      dsimp only
      rw [htext]
    rw [make_secretsOption hsecrets]
    rcases check_cases secrets with ⟨settings, -, hfits⟩ | ⟨hcheck, -⟩
    · cases (checked_tabWidth hnoDigit).symm.trans (hfits.taken .tabWidth _ hwidth)
    · rw [hcheck]
      exact ⟨_, rfl⟩

/-! ### Fields -/

/-- What the environment has for a field, under names that begin in a certain way. -/
def exported (other : LooseText) (env : Environment) : Layer :=
  VariableRules.layer { marker := other } env.toVariables

theorem resolves_ofSources : ofSources.Resolves check checked exported where
  precedence _ _ _ hvalues := make_of_marker (Sources.of_isSettingKey hvalues)
  marked s env other := by
    have hof : Sources.of [(LooseText.ofString "_env_prefix", .str other)] =
        .ok { rules := { marker := other } } := rfl
    rw [make_of_marker hof]
    congr 2
    funext setting
    cases setting <;> rfl
  accepts chosen _ := check_eq_ok_iff chosen
  refuses chosen _ := check_eq_error_iff chosen
  keeps := checked_value
  unnamed _ _ _ h := VariableRules.layer_of_unnamed h
  named _ _ _ _ hv hname honly := VariableRules.layer_of_named hv hname honly

end SettingsClass

end PropTyper
