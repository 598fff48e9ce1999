import PropTyper.Proofs.Batch.Turns
import PropTyper.Proofs.Edit.Kept
import PropTyper.Proofs.Text.Lines

/-! # Writing a file back

A source file is read with one kind of line end and written as it is. So a file that is written back
without a change keeps its bytes exactly if it has no carriage return, and the edits that a turn plans
are made in the bytes of the text that was read, not in those of the file.
-/

namespace PropTyper

theorem name_of_languageOf? {p : Path} (h : (languageOf? p).isSome) : p.names ≠ [] ∧ p.name ≠ ".." := by
  have hsuffix : Path.suffixOf p.name.toList ≠ [] := by
    intro hnone
    rw [languageOf?, Path.extension, hnone] at h
    revert h
    decide +kernel
  refine ⟨fun hnames => hsuffix ?_, fun hdots => hsuffix ?_⟩
  · rw [Path.name, hnames]
    rfl
  · rw [hdots]
    rfl

namespace SourceFile

/-- A source file that has been read can be written, and then has the new text. -/
theorem exists_write {s : Store} {text : String} {source : SourceFile}
    (h : SourceFile.read s (Path.ofString text) none = .ok source) (new : String) :
    ∃ s', source.write s new = .ok (s', { source with text := new }) ∧
      s'.read (Path.ofString text) = .ok (Text.Utf8.encode new) := by
  rw [read_eq_ofContent] at h
  obtain ⟨hpath, hlanguage, bytes, hread⟩ := ofContent_eq_ok h
  obtain ⟨hnames, hdots⟩ := name_of_languageOf? hlanguage
  obtain ⟨s', hwrite⟩ := Store.exists_write_of_read hread hnames hdots (Text.Utf8.encode new)
  refine ⟨s', ?_, Store.read_of_write hwrite⟩
  rw [write, hpath, Path.ofString_toString, hwrite]

end SourceFile

namespace Batch

variable {parse : Parser} {file : String} {settings : Settings}

theorem apply_of_updated {d : Document} {a : Analysis} {text : String}
    (h : updated d settings a = .ok text) :
    Edit.apply (Text.Utf8.encode d.text) (a.plan d.node settings (Text.Utf8.encode d.text)) = .ok text := by
  unfold updated at h
  dsimp only at h
  split at h
  · cases h
  · next edits hedits =>
    split at h
    · cases h
    · split at h
      · next made hmade =>
        injection h with h
        rw [← h, ← hmade, ← Reading.value_of_result hedits]
        rfl
      · cases h

/-- What a turn writes are the edits that it plans, made in the text of the file. -/
theorem apply_of_rewrite {content : Content} {bytes : List UInt8} {generated : Generated}
    (h : rewrite parse file settings content = .ok (bytes, generated)) :
    ∃ source a text,
      SourceFile.ofContent (Path.ofString file) (languageOf? (Path.ofString file)) content = .ok source ∧
      Analysis.of (source.document parse) generated.component (some settings.labelText) = .ok a ∧
      Edit.apply (Text.Utf8.encode source.text)
        (a.plan (source.document parse).node settings (Text.Utf8.encode source.text)) = .ok text ∧
      bytes = Text.Utf8.encode text := by
  unfold rewrite at h
  split at h
  · cases h
  · next name hname =>
    split at h
    · cases h
    · next source hsource =>
      split at h
      · cases h
      · cases h
      · next a ha =>
        split at h
        · cases h
        · next text htext =>
          injection h with h
          injection h with hbytes hgenerated
          have happly := apply_of_updated htext
          rw [SourceFile.document_text] at happly
          refine ⟨source, a, text, hsource, ?_, happly, hbytes.symm⟩
          rw [← hgenerated]
          exact (Analysis.of_readLoose ha).2

/-- A file that is read and written back without a change then has the bytes of the text that was
read, and these are its own exactly if it had no carriage return. What a turn leaves are the same bytes
with the edits that it plans: without them only those of the declaration that it replaces are missing. -/
theorem writeBack_eq_iff {s : Store} {bytes : List UInt8} {text : String}
    (hlanguage : (languageOf? (Path.ofString file)).isSome)
    (hread : s.read (Path.ofString file) = .ok bytes) (htext : Text.Utf8.decode bytes = .ok text)
    (hne : bytes ≠ []) :
    ∃ source s', SourceFile.read s (Path.ofString file) none = .ok source ∧
      source.text = String.ofList (Text.unifyLineEnds text.toList) ∧
      source.write s source.text = .ok (s', source) ∧
      s'.read (Path.ofString file) = .ok (Text.Utf8.encode source.text) ∧
      (Text.Utf8.encode source.text = bytes ↔ '\r' ∉ text.toList) ∧
      ∀ parse settings after generated, generate parse s file settings = (after, .ok generated) →
        ∃ a new,
          Analysis.of (source.document parse) generated.component (some settings.labelText) = .ok a ∧
          Edit.apply (Text.Utf8.encode source.text)
            (a.plan (source.document parse).node settings (Text.Utf8.encode source.text)) = .ok new ∧
          after.read (Path.ofString file) = .ok (Text.Utf8.encode new) ∧
          Edit.withdraw? (Text.Utf8.encode source.text).length
              (a.plan (source.document parse).node settings (Text.Utf8.encode source.text))
              (Text.Utf8.encode new) =
            some (a.undeclared (Text.Utf8.encode source.text)) := by
  obtain ⟨language, hlanguage⟩ := Option.isSome_iff_exists.1 hlanguage
  have hcontent := SourceFile.ofContent_of_decode htext hne (Path.ofString file) language
  have hsource : SourceFile.read s (Path.ofString file) none = .ok
      ⟨(Path.ofString file).toString, String.ofList (Text.unifyLineEnds text.toList), language⟩ := by
    rw [SourceFile.read_eq_ofContent, hlanguage, hread, hcontent]
  obtain ⟨s', hwrite, hwritten⟩ := SourceFile.exists_write hsource
    (String.ofList (Text.unifyLineEnds text.toList))
  refine ⟨_, s', hsource, rfl, hwrite, hwritten, Text.encode_ofFile_eq_iff htext, ?_⟩
  intro parse settings after generated hgenerate
  rcases generate_cases parse s file settings with
    ⟨made, new, report, hmade, hrewrite, hnew, -⟩ | ⟨fault, hfault, -⟩
  · obtain ⟨rfl, heq⟩ := Prod.mk.inj (hgenerate.symm.trans hmade)
    injection heq with heq
    obtain ⟨source, a, text, hof, ha, happly, rfl⟩ := apply_of_rewrite hrewrite
    rw [hlanguage, hread, hcontent] at hof
    injection hof with hof
    subst hof heq
    refine ⟨a, text, ha, happly, hnew, ?_⟩
    have hstarts {root : Node} {data : List UInt8} : ∀ x ∈ a.plan root settings data, 0 ≤ x.start :=
      fun x hx => Analysis.start_nonneg_of_mem_plan hx
    rw [Edit.withdraw?_of_apply hstarts happly,
      Analysis.keptFrom_plan (Edit.separate_of_apply hstarts happly)]
  · rw [hfault] at hgenerate
    cases hgenerate

/-- The file of two that declares `F` has no carriage return and keeps its bytes. -/
theorem writeBack_twoFiles :
    ∃ source s', SourceFile.read twoFiles (Path.ofString "f.js") none = .ok source ∧
      source.write twoFiles source.text = .ok (s', source) ∧
      s'.read (Path.ofString "f.js") = .ok (Text.Utf8.encode Analysis.declarationFirst.text) := by
  have hread : twoFiles.read (Path.ofString "f.js") =
      .ok (Text.Utf8.encode Analysis.declarationFirst.text) := by
    decide +kernel
  obtain ⟨source, s', hsource, -, hwrite, hwritten, hsame, -⟩ :=
    writeBack_eq_iff (by decide +kernel) hread (Text.Utf8.decode_encode _) (by decide +kernel)
  exact ⟨source, s', hsource, hwrite, by rw [hwritten, hsame.2 (by decide +kernel)]⟩

/-- One file, whose only line ends with a carriage return and a line feed. -/
def returnFile : Store :=
  .directory [("a.js", .file [0x61, 0x0d, 0x0a])]

/-- Reading that file and writing it back takes the carriage return away. -/
theorem writeBack_returnFile :
    ∃ source s', SourceFile.read returnFile (Path.ofString "a.js") none = .ok source ∧
      source.write returnFile source.text = .ok (s', source) ∧
      returnFile.read (Path.ofString "a.js") = .ok [0x61, 0x0d, 0x0a] ∧
      s'.read (Path.ofString "a.js") = .ok [0x61, 0x0a] := by
  have hread : returnFile.read (Path.ofString "a.js") = .ok [0x61, 0x0d, 0x0a] := by decide +kernel
  have hsource : SourceFile.read returnFile (Path.ofString "a.js") none =
      .ok ⟨"a.js", "a\n", "javascript"⟩ := by
    have htext : Text.Utf8.decode [0x61, 0x0d, 0x0a] = .ok "a\r\n" := by decide +kernel
    have hlanguage : languageOf? (Path.ofString "a.js") = some "javascript" := by decide +kernel
    rw [SourceFile.read_eq_ofContent, hread, hlanguage,
      SourceFile.ofContent_of_decode htext (by decide)]
    exact congrArg Except.ok (by decide +kernel)
  obtain ⟨s', hwrite, hwritten⟩ := SourceFile.exists_write hsource "a\n"
  exact ⟨_, s', hsource, hwrite, hread, hwritten⟩

end Batch

end PropTyper
