import PropTyper.Proofs.Json.Digits
import PropTyper.Proofs.Settings.ConfigFile

/-! # How settings files fail

A settings file that is of no use should fail with a report about the configuration. It does, if its
bytes spell a text and no whole number in it is too long. Further on, when settings are made of its
members, everything else is checked and reported, except for members whose keys begin with an
underscore: those are no settings but options of the settings class.
-/

namespace PropTyper.ConfigFile

/-- A result that is a success, or else a report about the configuration. -/
def Reports {α : Type} (r : Except Fault α) : Prop :=
  ∀ fault, r = .error fault → ∃ failure, fault = .reported (.config failure)

section

variable {α : Type}

theorem reports_ok (v : α) : Reports (.ok v : Except Fault α) := by
  intro fault h
  cases h

theorem reports_config (failure : ConfigFailure) :
    Reports (.error (.reported (.config failure)) : Except Fault α) := by
  intro fault h
  cases h
  exact ⟨failure, rfl⟩

theorem reports_error_iff {β : Type} {fault : Fault} :
    Reports (.error fault : Except Fault α) ↔ Reports (.error fault : Except Fault β) := by
  constructor
  · intro h fault' heq
    cases heq
    exact h fault rfl
  · intro h fault' heq
    cases heq
    exact h fault rfl

theorem not_reports {fault : Fault} (h : ∀ failure, fault ≠ .reported (.config failure)) :
    ¬ Reports (.error fault : Except Fault α) := by
  intro hreports
  obtain ⟨failure, heq⟩ := hreports fault rfl
  exact h failure heq

end

/-! ## Texts -/

/-- Some whole number in a settings text has too many digits. -/
def Overlong (raw : String) : Prop :=
  ∃ count rest, Json.parse raw.toList = .error ⟨.fewerDigits count, rest⟩

theorem isBlank_of_isDigit {c : Char} (h : c.isDigit = true) : Text.isBlank c = false := by
  have hrange : 48 ≤ c.toNat ∧ c.toNat ≤ 57 := by
    simp only [Char.isDigit, Bool.and_eq_true, decide_eq_true_eq, ge_iff_le,
      UInt32.le_iff_toNat_le] at h
    exact h
  simp only [Text.isBlank, Bool.or_eq_false_iff, Bool.and_eq_false_iff, decide_eq_false_iff_not]
  omega

theorem hasLongRun_of_overlong {raw : String} (h : Overlong raw) : Json.HasLongRun raw.toList := by
  obtain ⟨count, rest, h⟩ := h
  exact Json.hasLongRun_of_parse h

theorem not_overlong_of_isAllBlank {raw : String} (h : Text.isAllBlank raw = true) :
    ¬ Overlong raw := by
  intro hlong
  obtain ⟨run, hrun, hdigits, hlength⟩ := hasLongRun_of_overlong hlong
  obtain ⟨c, hc⟩ := List.exists_mem_of_length_pos (Nat.zero_lt_of_lt hlength)
  have hblank := List.all_eq_true.1 h c (hrun.subset hc)
  rw [isBlank_of_isDigit (hdigits c hc)] at hblank
  cases hblank

theorem reports_parse_iff (raw source : String) : Reports (parse raw source) ↔ ¬ Overlong raw := by
  unfold parse
  dsimp only
  split
  · next hblank => exact iff_of_true (reports_ok _) (not_overlong_of_isAllBlank hblank)
  · split
    · next members hparse =>
      refine iff_of_true (reports_ok _) ?_
      rintro ⟨count, rest, hlong⟩
      cases hparse.symm.trans hlong
    · next v _ hparse =>
      refine iff_of_true (reports_config _) ?_
      rintro ⟨count, rest, hlong⟩
      cases hparse.symm.trans hlong
    · next fault hparse =>
      obtain ⟨expected, rest⟩ := fault
      split
      · next count hexpected =>
        cases hexpected
        exact iff_of_false (not_reports (by simp)) (not_not_intro ⟨count, rest, hparse⟩)
      · next hother =>
        refine iff_of_true (reports_config _) ?_
        rintro ⟨count, rest', hlong⟩
        cases hparse.symm.trans hlong
        exact hother count rfl

/-! ## Files -/

/-- Bytes that spell a text in which no whole number is too long. -/
def IsLegible (bytes : List UInt8) : Prop :=
  ∃ text, bytes = Text.Utf8.encode text ∧
    ¬ Overlong (String.ofList (Text.unifyLineEnds text.toList))

theorem reports_read_file {s : Store} {p : Path} {bytes : List UInt8}
    (h : s.entry p = .ok (.file bytes)) : Reports (read s p) ↔ IsLegible bytes := by
  cases hdecode : Text.Utf8.decode bytes with
  | error fault =>
    have hread : s.read p = .ok bytes := by rw [Store.read, h]
    unfold read
    rw [h, hread]
    dsimp only
    rw [Text.ofFile, hdecode]
    refine iff_of_false (not_reports (by simp)) ?_
    rintro ⟨text, rfl, -⟩
    rw [Text.Utf8.decode_encode] at hdecode
    cases hdecode
  | ok text =>
    rw [read_of_text h (Text.ofFile_of_decode hdecode), reports_parse_iff]
    constructor
    · exact fun hshort => ⟨text, (Text.Utf8.encode_of_decode hdecode).symm, hshort⟩
    · rintro ⟨text', rfl, hshort⟩
      rw [Text.Utf8.decode_encode] at hdecode
      cases hdecode
      exact hshort

/-- Whatever a path leads to, the settings there are read, or the failure is reported, unless it is a
file that is not legible or the path is too long to be followed. -/
theorem reports_read_iff (s : Store) (p : Path) :
    Reports (read s p) ↔
      s.entry p ≠ .error .tooLong ∧ ∀ bytes, s.entry p = .ok (.file bytes) → IsLegible bytes := by
  cases hentry : s.entry p with
  | error cause =>
    by_cases hlong : cause = .tooLong
    · subst hlong
      refine iff_of_false ?_ (by simp)
      rw [read, hentry]
      exact not_reports (by simp)
    · refine iff_of_true ?_ ⟨by simpa using hlong, by simp⟩
      rw [read_of_absent hentry hlong]
      exact reports_ok _
  | ok e =>
    cases e with
    | file bytes =>
      rw [reports_read_file hentry]
      simp
    | directory entries =>
      refine iff_of_true ?_ ⟨by simp, by simp⟩
      have hread : s.read p = .error ⟨.isDirectory, p.toString⟩ := by
        rw [Store.read, hentry]
        rfl
      rw [read, hentry, hread]
      exact reports_config _

/-! ## Settings -/

section

variable {c : SettingsClass} {s : Store} {env : Environment} {asked : Option String}
variable {overrides : Json.Members}

theorem reports_read_of_load (h : Reports (load c s env asked overrides)) :
    Reports (read s (path env asked)) := by
  unfold load at h
  split at h
  · exact absurd h (not_reports (by simp))
  · split at h
    · next fault hread =>
      rw [hread]
      exact reports_error_iff.1 h
    · next file hread =>
      rw [hread]
      exact reports_ok file

theorem reports_load_of_read (hrefuses : c.RefusesOnly)
    (harguments : overrides.lookup (LooseText.ofString Settings.fileKey) = none)
    (hkeys : ∀ file, read s (path env asked) = .ok file →
      ∀ m ∈ Settings.override file overrides, Settings.IsSettingKey m.1)
    (h : Reports (read s (path env asked))) : Reports (load c s env asked overrides) := by
  cases hread : read s (path env asked) with
  | error fault =>
      rw [hread] at h
      unfold load
      rw [checkArguments_fileKey harguments, hread]
      exact reports_error_iff.1 h
  | ok file =>
      rw [load_of_read harguments hread]
      cases hmade : c.make s env (Settings.override file overrides) with
      | ok settings => exact reports_ok settings
      | error rejection =>
          obtain ⟨refusals, rfl⟩ := hrefuses s env _ (hkeys file hread) rejection hmade
          exact reports_config _

end

/-! ## Files that fail -/

def holding (bytes : List UInt8) : Store :=
  .directory [("c.json", .file bytes)]

theorem entry_holding (bytes : List UInt8) :
    (holding bytes).entry (path [] (some "c.json")) = .ok (.file bytes) := rfl

theorem encode_openBrace : Text.Utf8.encode "\x7b" = [123] := rfl

theorem isLegible_openBrace : IsLegible [123] := by
  refine ⟨"\x7b", encode_openBrace.symm, ?_⟩
  intro hlong
  obtain ⟨run, hrun, -, hlength⟩ := hasLongRun_of_overlong hlong
  have hle : run.length ≤ 1 := hrun.length_le
  have hmany : 4300 < run.length := hlength
  omega

theorem not_isLegible_ff : ¬ IsLegible [255] := by
  have hdecode : (Text.Utf8.decode [255]).isOk = false := by
    rw [Text.Utf8.decode, Text.Utf8.decodeFrom]
    rfl
  rintro ⟨text, heq, -⟩
  rw [heq, Text.Utf8.decode_encode] at hdecode
  cases hdecode

/-! ## Every content, environment and override -/

/-- Settings are read, or the failure is reported, unless the bytes of the file are not legible or its
path is too long to be followed; a whole number is too long only in a text with that many digits in a
row. Loading fails without a report wherever reading does, and nowhere else as long as no key that is
given begins with an underscore and the settings class does nothing but refuse other values. -/
theorem reports_load_iff_isLegible {c : SettingsClass} (hrefuses : c.RefusesOnly) (s : Store)
    (env : Environment) (asked : Option String) (overrides : Json.Members)
    (harguments : overrides.lookup (LooseText.ofString Settings.fileKey) = none) :
    (Reports (read s (path env asked)) ↔ s.entry (path env asked) ≠ .error .tooLong ∧
        ∀ bytes, s.entry (path env asked) = .ok (.file bytes) → IsLegible bytes) ∧
      (∀ raw, Overlong raw → Json.HasLongRun raw.toList) ∧
      (Reports (load c s env asked overrides) → Reports (read s (path env asked))) ∧
      ((∀ file, read s (path env asked) = .ok file →
          ∀ m ∈ Settings.override file overrides, Settings.IsSettingKey m.1) →
        (Reports (load c s env asked overrides) ↔ Reports (read s (path env asked)))) := by
  refine ⟨reports_read_iff s _, fun raw => hasLongRun_of_overlong, reports_read_of_load, ?_⟩
  intro hkeys
  exact ⟨reports_read_of_load, reports_load_of_read hrefuses harguments hkeys⟩

/-- A text that breaks off is reported. -/
theorem reports_load_iff_isLegible_openBrace :
    (read (holding [123]) (path [] (some "c.json"))).isOk = false ∧
      Reports (load .ofSources (holding [123]) [] (some "c.json") []) := by
  have hbad : (read (holding [123]) (path [] (some "c.json"))).isOk = false := by
    have htext : Text.ofFile [123] = .ok "\x7b" := by
      rw [← encode_openBrace]
      exact Text.ofFile_encode (by decide)
    have hparse : Json.parse "\x7b".toList = .error ⟨.propertyName, []⟩ := rfl
    have hblank : Text.isAllBlank "\x7b" = false := rfl
    rw [read_of_text (entry_holding [123]) htext, parse, hparse, hblank]
    rfl
  have hall := reports_load_iff_isLegible SettingsClass.refusesOnly_ofSources (holding [123]) []
    (some "c.json") [] rfl
  have hread : Reports (read (holding [123]) (path [] (some "c.json"))) := by
    rw [hall.1, entry_holding]
    refine ⟨by simp, ?_⟩
    intro bytes hbytes
    cases hbytes
    exact isLegible_openBrace
  refine ⟨hbad, (hall.2.2.2 ?_).2 hread⟩
  intro file hfile
  rw [hfile] at hbad
  cases hbad

/-- A byte that spells no text is a fault of another kind, whatever the settings class. -/
theorem not_reports_ff :
    ¬ Reports (read (holding [255]) (path [] (some "c.json"))) ∧
      ∀ c : SettingsClass, ¬ Reports (load c (holding [255]) [] (some "c.json") []) := by
  have hread : ¬ Reports (read (holding [255]) (path [] (some "c.json"))) := by
    rw [reports_read_file (entry_holding _)]
    exact not_isLegible_ff
  refine ⟨hread, ?_⟩
  intro c h
  exact hread (reports_read_of_load h)

end PropTyper.ConfigFile
