import PropTyper.Proofs.Files.Plain
import PropTyper.Proofs.Json.RoundTrip
import PropTyper.Proofs.Settings.Making
import PropTyper.Proofs.Text.Lines
import PropTyper.Settings.ConfigFile

/-! # What the settings file keeps

After any number of writes the file holds the members of those that were taken, merged in their order
under keys of one form. A write that fails leaves the file as it is, and what is in the file makes good
settings, unless it names further files to take them from. The settings class is any one that takes a
dictionary like arguments, reads no files but those that it is told of, and has the defaults.
-/

namespace PropTyper

/-! ## Members under keys of one form -/

/-- Members that the file gives back: the keys are different, have the form of the settings and no
pair of halves, and the values are read as they are written. -/
structure IsKept (members : Json.Members) : Prop where
  names : (members.map Prod.fst).Nodup
  keys : ∀ m ∈ members, LooseText.IsSettled m.1 ∧ m.1.hasPair = false
  values : ∀ m ∈ members, m.2.all Json.isFaithful = true

def IsWritable (m : LooseText × Json) : Prop :=
  m.1.hasPair = false ∧ m.2.all Json.isFaithful = true

theorem isWritable_of_all {values : Json.Members} (h : (Json.object values).all Json.isFaithful = true) :
    ∀ m ∈ values, IsWritable m := by
  rw [Json.all_object] at h
  have hself := h.1
  simp only [Json.isFaithful, Bool.and_eq_true, List.all_eq_true, Bool.not_eq_true'] at hself
  exact fun m hm => ⟨hself.2 m hm, h.2 m hm⟩

theorem isKept_snakeMembers {values : Json.Members} (h : ∀ m ∈ values, IsWritable m) :
    IsKept (Settings.snakeMembers values) := by
  have horigin : ∀ m ∈ Settings.snakeMembers values,
      ∃ m' ∈ values, m = (Settings.snakeKey m'.1, m'.2) := by
    intro m hm
    rcases Json.mem_setAll hm with hm | hm
    · obtain ⟨m', hm', rfl⟩ := List.mem_map.1 hm
      exact ⟨m', hm', rfl⟩
    · cases hm
  refine ⟨Json.nodup_setAll List.nodup_nil, fun m hm => ?_, fun m hm => ?_⟩
  · obtain ⟨m', hm', rfl⟩ := horigin m hm
    exact ⟨Settings.isSettled_snakeKey _, Settings.hasPair_snakeKey (h m' hm').1⟩
  · obtain ⟨m', hm', rfl⟩ := horigin m hm
    exact (h m' hm').2

theorem snakeMembers_eq_self {members : Json.Members} (hnames : (members.map Prod.fst).Nodup)
    (hkeys : ∀ m ∈ members, Settings.snakeKey m.1 = m.1) : Settings.snakeMembers members = members := by
  have hsame : ∀ m ∈ members, (Settings.snakeKey m.1, m.2) = m := fun m hm => by rw [hkeys m hm]
  rw [Settings.snakeMembers, List.map_congr_left hsame, List.map_id', Json.distinctMembers_of_nodup hnames]

theorem IsKept.snakeMembers_eq {members : Json.Members} (h : IsKept members) :
    Settings.snakeMembers members = members :=
  snakeMembers_eq_self h.names fun m hm => Settings.snakeKey_of_isSettled (h.keys m hm).1

theorem IsKept.all_isFaithful {members : Json.Members} (h : IsKept members) :
    (Json.object members).all Json.isFaithful = true := by
  rw [Json.all_object]
  refine ⟨?_, h.values⟩
  simp only [Json.isFaithful, Bool.and_eq_true, decide_eq_true_eq, List.all_eq_true, Bool.not_eq_true']
  exact ⟨h.names, fun m hm => (h.keys m hm).2⟩

namespace ConfigFile

/-- Old members under new ones are the members of both, one after the other. -/
theorem merged_snakeMembers (old new : Json.Members) :
    merged (Settings.snakeMembers old) new = Settings.snakeMembers (old ++ new) := by
  have hmerged : merged (Settings.snakeMembers old) new =
      Json.setAll (Settings.snakeMembers new) (Settings.snakeMembers old) := rfl
  rw [hmerged, Settings.snakeMembers, Json.setAll_distinctMembers, Settings.snakeMembers,
    Settings.snakeMembers, List.map_append, Json.distinctMembers_eq, Json.distinctMembers_eq,
    Json.setAll_append]

/-- The value of a key is the last one that was given for it. -/
theorem lookup_snakeMembers (values : Json.Members) (key : LooseText) :
    (Settings.snakeMembers values).lookup key =
      (values.map fun m => (Settings.snakeKey m.1, m.2)).reverse.lookup key := by
  rw [Settings.snakeMembers, Json.distinctMembers_eq, Json.lookup_setAll]
  simp

/-! ## Reading what was written -/

def bytesOf (members : Json.Members) : List UInt8 :=
  Text.Utf8.encode (Json.print .ascii (.object members))

theorem toList_print (members : Json.Members) :
    (Json.print .ascii (.object members)).toList = Json.render .ascii 0 (.object members) :=
  String.toList_ofList

theorem isAllBlank_print (members : Json.Members) :
    Text.isAllBlank (Json.print .ascii (.object members)) = false := by
  rw [Text.isAllBlank, toList_print]
  cases members <;> rfl

theorem ofFile_bytesOf {members : Json.Members} (h : (Json.object members).all Json.isFaithful = true) :
    Text.ofFile (bytesOf members) = .ok (Json.print .ascii (.object members)) := by
  apply Text.ofFile_encode
  rw [toList_print]
  exact Json.cr_not_mem_render h 0

theorem parse_print {members : Json.Members} (h : IsKept members)
    (hshort : (Json.object members).all Json.isShort = true) (source : String) :
    parse (Json.print .ascii (.object members)) source = .ok members := by
  have hparse : Json.parse (Json.render .ascii 0 (.object members)) = .ok (.object members) :=
    Json.parse_render h.all_isFaithful hshort
  unfold parse
  simp only [isAllBlank_print, toList_print, hparse, Bool.false_eq_true, if_false, h.snakeMembers_eq]

variable {s s' : Store} {env : Environment} {p : Path}

theorem read_of_text {bytes : List UInt8} {raw : String} (hentry : s.entry p = .ok (.file bytes))
    (htext : Text.ofFile bytes = .ok raw) : read s p = parse raw p.toString := by
  have hread : s.read p = .ok bytes := by rw [Store.read, hentry]
  unfold read
  rw [hentry, hread]
  dsimp only
  rw [htext]

theorem read_of_absent {cause : PathCause} (hentry : s.entry p = .error cause)
    (hshort : cause ≠ .tooLong) : read s p = .ok [] := by
  unfold read
  rw [hentry]
  cases cause <;> first | rfl | exact (hshort rfl).elim

theorem read_of_entry {members : Json.Members} (h : IsKept members)
    (hshort : (Json.object members).all Json.isShort = true)
    (hentry : s.entry p = .ok (.file (bytesOf members))) : read s p = .ok members := by
  rw [read_of_text hentry (ofFile_bytesOf h.all_isFaithful), parse_print h hshort]

theorem read_of_find?_eq_none (hp : p.IsPlain) (h : s.find? p = none) : read s p = .ok [] := by
  obtain ⟨cause, hentry, hshort⟩ := Store.find?_eq_none hp h
  exact read_of_absent hentry hshort

/-! ## One write -/

/-- Members are saved as they are, or the file stays as it was. -/
theorem save_cases (hp : p.IsPlain) (hinside : p.root = "" → p.names ≠ []) (members : Json.Members) :
    (∃ s', save s p members = (s', .ok ()) ∧ (Json.object members).all Json.isShort = true ∧
      s'.entry p = .ok (.file (bytesOf members))) ∨
    ∃ s' fault, save s p members = (s', .error fault) ∧ s'.find? p = s.find? p := by
  have hframe := Store.find?_of_ensureDirectories (s := s) hp hinside
  unfold save
  cases hmade : s.ensureDirectories p.parent with
  | mk made fault =>
      rw [hmade] at hframe
      cases fault with
      | some fault => exact .inr ⟨made, _, rfl, hframe⟩
      | none =>
          dsimp only
          cases hshort : (Json.object members).all Json.isShort with
          | false => exact .inr ⟨made, _, rfl, hframe⟩
          | true =>
              simp only [Bool.not_true, Bool.false_eq_true, if_false]
              rw [← bytesOf]
              cases hwrite : made.write p (bytesOf members) with
              | error fault => exact .inr ⟨made, _, rfl, hframe⟩
              | ok s' =>
                  obtain ⟨place, -, hput, hresolve, -⟩ := Store.write_eq_ok hwrite
                  refine .inl ⟨s', rfl, trivial, ?_⟩
                  unfold Store.entry
                  rw [hresolve, hput]
                  simp only [Entry.get?_put_self]

/-- One write: the merge of the old members and the new ones makes good settings and is in the file
then, or there is a fault and the file stays as it was. -/
theorem write_cases (hp : p.IsPlain) (hinside : p.root = "" → p.names ≠ []) {old : Json.Members}
    (hold : read s p = .ok old) (c : SettingsClass) (env : Environment) (values : Json.Members) :
    (∃ s' settings, write c s env p values = (s', .ok ()) ∧
      c.validate s env (merged old values) = .ok settings ∧
      (Json.object (merged old values)).all Json.isShort = true ∧
      s'.entry p = .ok (.file (bytesOf (merged old values)))) ∨
    ∃ s' fault, write c s env p values = (s', .error fault) ∧ s'.find? p = s.find? p := by
  unfold write
  rw [hold]
  dsimp only
  cases hmade : c.validate s env (merged old values) with
  | error rejection => exact .inr ⟨s, _, rfl, rfl⟩
  | ok settings =>
      dsimp only
      rcases save_cases hp hinside (merged old values) with
        ⟨s', hsave, hshort, hentry⟩ | ⟨s', fault, hsave, hfind⟩
      · exact .inl ⟨s', settings, hsave, rfl, hshort, hentry⟩
      · exact .inr ⟨s', fault, hsave, hfind⟩

theorem checkArguments_fileKey {overrides : Json.Members}
    (h : overrides.lookup (LooseText.ofString Settings.fileKey) = none) :
    Settings.checkArguments Settings.fileKey overrides = .ok () := by
  rw [Settings.checkArguments, h]
  rfl

/-- Settings are made of the members in the file and the arguments. -/
theorem load_of_read {asked : Option String} {file overrides : Json.Members}
    (harguments : overrides.lookup (LooseText.ofString Settings.fileKey) = none)
    (hread : read s (path env asked) = .ok file) (c : SettingsClass) :
    load c s env asked overrides =
      (c.make s env (Settings.override file overrides)).mapError .ofRejection := by
  unfold load
  rw [checkArguments_fileKey harguments, hread]
  dsimp only
  cases c.make s env (Settings.override file overrides) <;> rfl

/-! ## All writes -/

/-- Writes one after the other: the store after them, and the values that were taken. -/
def writeAll (c : SettingsClass) (env : Environment) (p : Path) :
    List Json.Members → Store → Store × List Json.Members
  | [], s => (s, [])
  | values :: rest, s =>
    match write c s env p values with
    | (s, .ok _) => ((writeAll c env p rest s).1, values :: (writeAll c env p rest s).2)
    | (s, .error _) => writeAll c env p rest s

theorem writeAll_sublist (c : SettingsClass) (env : Environment) (p : Path) (calls : List Json.Members)
    (s : Store) : (writeAll c env p calls s).2.Sublist calls := by
  induction calls generalizing s with
  | nil => exact .slnil
  | cons values rest ih =>
      rw [writeAll]
      split
      · exact (ih _).cons_cons values
      · exact (ih _).cons values

/-- The file has these members, or there is none and there are no members. In the file stands only
what made good settings when it was written. -/
structure Holds (c : SettingsClass) (env : Environment) (p : Path) (s : Store) (members : Json.Members) :
    Prop where
  kept : IsKept members
  file : (s.find? p = none ∧ members = []) ∨
    s.entry p = .ok (.file (bytesOf members)) ∧ (Json.object members).all Json.isShort = true ∧
      ∃ before settings, c.make before env members = .ok settings

variable {c : SettingsClass}

theorem Holds.read_eq {members : Json.Members} (hp : p.IsPlain) (h : Holds c env p s members) :
    read s p = .ok members := by
  rcases h.file with ⟨hnone, rfl⟩ | ⟨hentry, hshort, -⟩
  · exact read_of_find?_eq_none hp hnone
  · exact read_of_entry h.kept hshort hentry

theorem Holds.congr {members : Json.Members} (h : Holds c env p s members)
    (hsame : s'.find? p = s.find? p) : Holds c env p s' members := by
  refine ⟨h.kept, ?_⟩
  rcases h.file with ⟨hnone, hnil⟩ | ⟨hentry, hrest⟩
  · exact .inl ⟨hsame.trans hnone, hnil⟩
  · have hfile : s.find? p = some (.file (bytesOf members)) := by
      rw [Store.find?, hentry]
      rfl
    exact .inr ⟨Store.entry_of_find? (hsame.trans hfile), hrest⟩

theorem Holds.load (hnamed : c.ReadsNamedFiles) (hdefaults : c.HasDefaults) {asked : Option String}
    {members : Json.Members} (hp : (path env asked).IsPlain)
    (h : Holds c env (path env asked) s members) (henv : Settings.HasNoField env)
    (hfiles : Settings.NamesNoFiles members) : ∃ settings, load c s env asked [] = .ok settings := by
  have hmade : ∃ settings, c.make s env members = .ok settings := by
    rcases h.file with ⟨-, rfl⟩ | ⟨-, -, before, settings, hbefore⟩
    · exact ⟨{}, hdefaults s env henv⟩
    · exact ⟨settings, (hnamed s before env members hfiles).trans hbefore⟩
  obtain ⟨settings, hsettings⟩ := hmade
  have hoverride : Settings.override members [] = members := rfl
  refine ⟨settings, ?_⟩
  rw [load_of_read rfl (h.read_eq hp), hoverride, hsettings]
  rfl

/-- The step: values that are taken come to the members in the file. -/
theorem holds_writeAll (hdict : c.TakesDictionaries) (hp : p.IsPlain)
    (hinside : p.root = "" → p.names ≠ []) {calls : List Json.Members}
    (hcalls : ∀ values ∈ calls, ∀ m ∈ values, IsWritable m) {taken : Json.Members}
    (htaken : ∀ m ∈ taken, IsWritable m) (h : Holds c env p s (Settings.snakeMembers taken)) :
    Holds c env p (writeAll c env p calls s).1
      (Settings.snakeMembers (taken ++ (writeAll c env p calls s).2.flatten)) := by
  induction calls generalizing s taken with
  | nil => simpa [writeAll] using h
  | cons values rest ih =>
      rw [List.forall_mem_cons] at hcalls
      rw [writeAll]
      rcases write_cases hp hinside (h.read_eq hp) c env values with
        ⟨s', settings, hwrite, hmade, hshort, hentry⟩ | ⟨s', fault, hwrite, hfind⟩
      · rw [merged_snakeMembers] at hmade hshort hentry
        rw [hdict] at hmade
        have hboth : ∀ m ∈ taken ++ values, IsWritable m :=
          fun m hm => (List.mem_append.1 hm).elim (htaken m) (hcalls.1 m)
        have hnext : Holds c env p s' (Settings.snakeMembers (taken ++ values)) :=
          ⟨isKept_snakeMembers hboth, .inr ⟨hentry, hshort, s, settings, hmade⟩⟩
        have hlater := ih hcalls.2 hboth hnext
        rw [hwrite]
        simpa [List.append_assoc] using hlater
      · rw [hwrite]
        exact ih hcalls.2 htaken (h.congr hfind)

/-- After any number of writes to a plain path where there was nothing, what is read is the merge of
the values that were taken, the last one for each key. If they name no files it makes good settings,
and a write that fails leaves what the path leads to as it is. -/
theorem read_writeAll {c : SettingsClass} (hdict : c.TakesDictionaries) (hnamed : c.ReadsNamedFiles)
    (hdefaults : c.HasDefaults) {env : Environment} {asked : Option String} {s : Store}
    {calls : List Json.Members} (hp : (path env asked).IsPlain)
    (hstart : s.find? (path env asked) = none) (henv : Settings.HasNoField env)
    (hcalls : ∀ values ∈ calls, (Json.object values).all Json.isFaithful = true) :
    ∃ after taken, writeAll c env (path env asked) calls s = (after, taken) ∧
      read after (path env asked) = .ok (Settings.snakeMembers taken.flatten) ∧
      (∀ key, (Settings.snakeMembers taken.flatten).lookup key =
        (taken.flatten.map fun m => (Settings.snakeKey m.1, m.2)).reverse.lookup key) ∧
      (Settings.NamesNoFiles (Settings.snakeMembers taken.flatten) →
        ∃ settings, load c after env asked [] = .ok settings) ∧
      ∀ values s' fault, write c after env (path env asked) values = (s', .error fault) →
        s'.find? (path env asked) = after.find? (path env asked) := by
  have hinside := Store.names_ne_nil_of_find? hp hstart
  have hempty : Holds c env (path env asked) s (Settings.snakeMembers []) :=
    ⟨isKept_snakeMembers (by simp), .inl ⟨hstart, rfl⟩⟩
  have hholds := holds_writeAll hdict hp hinside
    (fun values hv => isWritable_of_all (hcalls values hv)) (by simp) hempty
  rw [List.nil_append] at hholds
  refine ⟨_, _, rfl, hholds.read_eq hp, lookup_snakeMembers _, hholds.load hnamed hdefaults hp henv,
    fun values s' fault hwrite => ?_⟩
  rcases write_cases hp hinside (hholds.read_eq hp) c env values with
    ⟨_, _, hother, -⟩ | ⟨_, _, hother, hfind⟩
  · rw [hwrite] at hother
    cases hother
  · rw [hwrite] at hother
    cases hother
    exact hfind

/-- A good value under a key of another form, and then one that is refused. -/
def widthThenQuote : List Json.Members :=
  [[(LooseText.ofString "tabWidth", .int 4)], [(LooseText.ofString "quote", .int 1)]]

theorem isPlain_configPath : (path [] (some "c.json")).IsPlain :=
  ⟨by decide, by decide, rfl⟩

/-- Of these the first is in the file, and settings can be made of it. -/
theorem read_widthThenQuote :
    ∃ after, (writeAll .ofSources [] (path [] (some "c.json")) widthThenQuote Store.empty).1 = after ∧
      read after (path [] (some "c.json")) = .ok [(LooseText.ofString "tab_width", .int 4)] ∧
      ∃ settings, load .ofSources after [] (some "c.json") [] = .ok settings := by
  have hstart : Store.empty.find? (path [] (some "c.json")) = none := by
    rw [Store.find?_eq isPlain_configPath]
    rfl
  have hfaithful : ∀ values ∈ widthThenQuote, (Json.object values).all Json.isFaithful = true := by
    decide +kernel
  have hfirst : (writeAll .ofSources [] (path [] (some "c.json")) widthThenQuote Store.empty).2 =
      [[(LooseText.ofString "tabWidth", .int 4)]] := by
    have hnames : (writeAll .ofSources [] (path [] (some "c.json")) widthThenQuote Store.empty).2.map
        (·.map Prod.fst) = [[LooseText.ofString "tabWidth"]] := by
      decide +kernel
    obtain ⟨only, honly, hkeys⟩ := List.map_eq_singleton_iff.1 hnames
    have hmem := (writeAll_sublist .ofSources [] (path [] (some "c.json")) widthThenQuote Store.empty).subset
      (honly ▸ List.mem_cons_self : only ∈ _)
    rw [honly]
    rcases List.mem_cons.1 hmem with rfl | hmem
    · rfl
    · rw [List.mem_singleton.1 hmem] at hkeys
      exact absurd hkeys (by decide)
  have hkey : Settings.snakeKey (LooseText.ofString "tabWidth") = LooseText.ofString "tab_width" := by
    decide +kernel
  have hmembers : Settings.snakeMembers [(LooseText.ofString "tabWidth", .int 4)] =
      [(LooseText.ofString "tab_width", .int 4)] := by
    rw [Settings.snakeMembers, List.map_cons, hkey]
    rfl
  obtain ⟨after, taken, hrun, hread, -, hload, -⟩ :=
    read_writeAll SettingsClass.takesDictionaries_ofSources SettingsClass.readsNamedFiles_ofSources
      SettingsClass.hasDefaults_ofSources isPlain_configPath hstart (fun v hv => by cases hv) hfaithful
  rw [hrun] at hfirst
  subst hfirst
  rw [List.flatten_cons, List.flatten_nil, List.append_nil, hmembers] at hread hload
  refine ⟨after, by rw [hrun], hread, hload ?_⟩
  intro key hkey v hlookup
  have hnone : ∀ key ∈ ["_env_file", "_secrets_dir"],
      ([(LooseText.ofString "tab_width", .int 4)] : Json.Members).lookup (LooseText.ofString key) =
        none := by
    decide +kernel
  rw [hnone key hkey] at hlookup
  cases hlookup

/-! ## Where the file is of no use -/

/-- A file that has the name of a secret. -/
def secretPath : Path := path [] (some "d/proptypes_tab_width")

/-- Values that name its directory as one of secrets. -/
def namingOwnDirectory : Json.Members := SettingsClass.secretsOption "d"

theorem isPlain_secretPath : secretPath.IsPlain :=
  ⟨by decide, by decide, rfl⟩

theorem find?_secretPath : Store.empty.find? secretPath = none := by
  rw [Store.find?_eq isPlain_secretPath]
  rfl

theorem snakeMembers_namingOwnDirectory :
    Settings.snakeMembers namingOwnDirectory = namingOwnDirectory :=
  snakeMembers_eq_self (by decide) (by decide)

def secretStore : Store :=
  .directory [("d", .directory [("proptypes_tab_width", .file (bytesOf namingOwnDirectory))])]

theorem save_namingOwnDirectory :
    save Store.empty secretPath namingOwnDirectory = (secretStore, .ok ()) := by
  have hplace : Store.newPlace Store.empty secretPath.parent = .ok (some ["d"]) := rfl
  have hmade : Store.ensureDirectory Store.empty secretPath.parent =
      .ok (.directory [("d", .directory [])]) := by
    rw [Store.ensureDirectory, Store.makeDirectory, hplace]
    rfl
  have hdirs : Store.ensureDirectories Store.empty secretPath.parent =
      (.directory [("d", .directory [])], none) := by
    rw [Store.ensureDirectories, hmade]
  have hshort : (Json.object namingOwnDirectory).all Json.isShort = true := rfl
  have hwrite : Store.write (.directory [("d", .directory [])]) secretPath
      (bytesOf namingOwnDirectory) = .ok secretStore := by
    have hinside : Store.newPlace (.directory [("d", .directory [])]) secretPath =
        .ok (some ["d", "proptypes_tab_width"]) := rfl
    rw [Store.write, hinside]
    rfl
  rw [bytesOf] at hwrite
  unfold save
  rw [hdirs]
  simp only [hshort, Bool.not_true, Bool.false_eq_true, if_false, hwrite]

section

variable (hdict : c.TakesDictionaries) (hsecrets : c.ReadsSecrets)
include hdict hsecrets

/-- Values that name a directory of secrets are taken, as long as there is no such directory. -/
theorem write_namingOwnDirectory :
    write c Store.empty [] secretPath namingOwnDirectory = (secretStore, .ok ()) := by
  have hold := read_of_find?_eq_none isPlain_secretPath find?_secretPath
  have hmerged : merged [] namingOwnDirectory = namingOwnDirectory :=
    (merged_snakeMembers [] namingOwnDirectory).trans snakeMembers_namingOwnDirectory
  have hmade : c.validate Store.empty [] namingOwnDirectory = .ok {} := by
    rw [hdict]
    exact hsecrets.absent Store.empty "d" rfl rfl
  unfold write
  rw [hold]
  dsimp only
  rw [hmerged, hmade]
  exact save_namingOwnDirectory

omit hdict in
/-- Then the file is a secret itself, and its text is refused. -/
theorem load_namingOwnDirectory :
    ∃ fault, load c secretStore [] (some "d/proptypes_tab_width") [] = .error fault := by
  have hfaithful : (Json.object namingOwnDirectory).all Json.isFaithful = true := rfl
  have hkept : IsKept namingOwnDirectory :=
    snakeMembers_namingOwnDirectory ▸ isKept_snakeMembers (isWritable_of_all hfaithful)
  have hentry : secretStore.entry secretPath = .ok (.file (bytesOf namingOwnDirectory)) := rfl
  have hread := read_of_entry hkept rfl hentry
  obtain ⟨refusals, hrefused⟩ := hsecrets.refused secretStore "d" _ _ rfl rfl
    (ofFile_bytesOf hfaithful) (by decide +kernel)
  have hoverride : Settings.override namingOwnDirectory [] = SettingsClass.secretsOption "d" := rfl
  refine ⟨.ofRejection (.refused refusals), ?_⟩
  rw [load_of_read rfl hread, hoverride, hrefused]
  rfl

end

/-- A place that is reached through a directory which need not be there. -/
def roundabout : Path := Path.ofString "a/../d"

def targetOnly : Store := .directory [("d", .directory [])]

def bothMade : Store := .directory [("d", .directory []), ("a", .directory [])]

theorem ensureDirectories_roundabout :
    targetOnly.ensureDirectories roundabout.parent = (bothMade, none) := by
  have hmissing : targetOnly.newPlace roundabout.parent = .error .notFound := rfl
  have hnew : targetOnly.newPlace roundabout.parent.parent = .ok (some ["a"]) := rfl
  have hup : targetOnly.ensureDirectory roundabout.parent =
      .error ⟨.notFound, roundabout.parent.toString⟩ := by
    rw [Store.ensureDirectory, Store.makeDirectory, hmissing]
    rfl
  have hmade : targetOnly.ensureDirectory roundabout.parent.parent = .ok bothMade := by
    rw [Store.ensureDirectory, Store.makeDirectory, hnew]
    rfl
  have hthere : bothMade.ensureDirectory roundabout.parent = .ok bothMade :=
    Store.ensureDirectory_of_there rfl rfl
  have hparents : targetOnly.ensureDirectories roundabout.parent.parent = (bothMade, none) := by
    rw [Store.ensureDirectories, hmade]
  have hnames : roundabout.parent.names ≠ [] := by decide
  rw [Store.ensureDirectories, hup]
  simp only [ne_eq, not_true_eq_false, if_false, hnames, dif_neg, not_false_eq_true, hparents, hthere]

theorem entry_roundabout : targetOnly.entry roundabout = .error .notFound := by
  have hnone : targetOnly.resolve roundabout = .error .notFound := rfl
  rw [Store.entry, hnone]

theorem read_roundabout (hdict : c.TakesDictionaries) (hdefaults : c.HasDefaults) :
    ∃ after fault later, write c targetOnly [] roundabout [] = (after, .error fault) ∧
      read after roundabout = .error later := by
  have hold : read targetOnly roundabout = .ok [] := read_of_absent entry_roundabout (by simp)
  have hplace : bothMade.newPlace roundabout = .ok (some ["d"]) := rfl
  have hresolve : bothMade.resolve roundabout = .ok ["d"] := rfl
  have hthere : bothMade.entry roundabout = .ok (.directory []) := by
    rw [Store.entry, hresolve]
    rfl
  have hrefused : ∀ content, bothMade.write roundabout content =
      .error ⟨.isDirectory, roundabout.toString⟩ := by
    intro content
    rw [Store.write, hplace]
    rfl
  have hmade : c.validate targetOnly [] [] = .ok {} := by
    rw [hdict]
    exact hdefaults _ [] fun v hv => by cases hv
  have hmerged : merged [] [] = [] := rfl
  have hshort : (Json.object []).all Json.isShort = true := rfl
  have hsaved : ∃ fault, save targetOnly roundabout [] = (bothMade, .error fault) := by
    unfold save
    rw [ensureDirectories_roundabout]
    simp only [hshort, Bool.not_true, Bool.false_eq_true, if_false, hrefused]
    exact ⟨_, rfl⟩
  have hlost : ∃ later, read bothMade roundabout = .error later := by
    unfold read Store.read
    rw [hthere]
    exact ⟨_, rfl⟩
  obtain ⟨fault, hsaved⟩ := hsaved
  obtain ⟨later, hlost⟩ := hlost
  refine ⟨_, fault, later, ?_, hlost⟩
  unfold write
  rw [hold]
  dsimp only
  rw [hmerged, hmade]
  exact hsaved

/-- Neither condition on the values and the path can be left out, whatever the settings class. -/
theorem exists_unusable :
    (∃ c : SettingsClass, c.TakesDictionaries ∧ c.HasDefaults ∧ c.ReadsSecrets) ∧
    (∃ file values, (Json.object values).all Json.isFaithful = true ∧ (path [] (some file)).IsPlain ∧
      Store.empty.find? (path [] (some file)) = none ∧
      ∀ c : SettingsClass, c.TakesDictionaries → c.ReadsSecrets →
        ∃ s', write c Store.empty [] (path [] (some file)) values = (s', .ok ()) ∧
          ∃ fault, load c s' [] (some file) [] = .error fault) ∧
    ∃ s p values, (Json.object values).all Json.isFaithful = true ∧ s.find? p = none ∧
      ∀ c : SettingsClass, c.TakesDictionaries → c.HasDefaults →
        ∃ s' fault later, write c s [] p values = (s', .error fault) ∧ read s' p = .error later := by
  refine ⟨⟨.ofSources, SettingsClass.takesDictionaries_ofSources, SettingsClass.hasDefaults_ofSources,
    SettingsClass.readsSecrets_ofSources⟩, ?_, ?_⟩
  · refine ⟨_, namingOwnDirectory, rfl, isPlain_secretPath, find?_secretPath, ?_⟩
    intro c hdict hsecrets
    exact ⟨secretStore, write_namingOwnDirectory hdict hsecrets, load_namingOwnDirectory hsecrets⟩
  · refine ⟨targetOnly, roundabout, [], rfl, ?_, ?_⟩
    · rw [Store.find?, entry_roundabout]
      rfl
    · intro c hdict hdefaults
      exact read_roundabout hdict hdefaults

end ConfigFile

end PropTyper
