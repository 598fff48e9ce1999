import PropTyper.Proofs.Batch.Walk
import PropTyper.Proofs.Batch.WriteBack
import PropTyper.Proofs.Edit.OneByOne

/-! # Files of a project by themselves

What is done in a file depends on nothing but what is in it, and changes nothing else. So the files of a
project can be worked on in any company: each gets the report, and is left with the content, that it
has when it is the only one to be worked on.
-/

namespace PropTyper

namespace Batch

open Store (SameShape)

variable {parse : Parser} {settings : Settings} {file : String} {p : Path} {s s' t t' : Store}

/-! ## One file -/

/-- The store differs at most in the content of one file, and has kept its shape. -/
structure Confined (p : Path) (s s' : Store) : Prop extends Touches p s s' where
  shape : SameShape s s'

theorem Confined.refl (p : Path) (s : Store) : Confined p s s :=
  ⟨.refl p s, .refl s⟩

theorem Confined.trans (h : Confined p s s') (h' : Confined p s' t) : Confined p s t :=
  ⟨h.toTouches.trans h'.toTouches, h.shape.trans h'.shape⟩

theorem Confined.read (h : Confined p s s') {q : Path} (hq : s.resolve p ≠ s.resolve q) :
    s'.read q = s.read q :=
  h.shape.read fun place content hplace hcontent =>
    (h.others place content (hplace ▸ hq)).2 hcontent

/-- The same comes of two runs, and the file has the same content after them. -/
structure Agree {β : Type} (p : Path) (r r' : Store × Except Fault β) : Prop where
  outcome : r.2 = r'.2
  content : r.1.read p = r'.1.read p

theorem generate_of_error {fault : Fault}
    (h : rewrite parse file settings (s.read (Path.ofString file)) = .error fault) :
    generate parse s file settings = (s, .error fault) := by
  rw [generate_eq_rewrite, h]

theorem generate_of_ok {bytes : List UInt8} {generated : Generated}
    (h : rewrite parse file settings (s.read (Path.ofString file)) = .ok (bytes, generated)) :
    ∃ s', generate parse s file settings = (s', .ok generated) ∧
      s'.read (Path.ofString file) = .ok bytes ∧ Confined (Path.ofString file) s s' := by
  obtain ⟨source, a, text, hsource, -⟩ := apply_of_rewrite h
  obtain ⟨-, hlanguage, old, hold⟩ := SourceFile.ofContent_eq_ok hsource
  obtain ⟨hnames, hdots⟩ := name_of_languageOf? hlanguage
  obtain ⟨s', hwrite⟩ := Store.exists_write_of_read hold hnames hdots bytes
  refine ⟨s', ?_, Store.read_of_write hwrite, touches_write hold hwrite, Store.sameShape_write hold hwrite⟩
  rw [generate_eq_rewrite, h]
  dsimp only
  rw [hwrite]

theorem confined_generateAll (parse : Parser) (file : String) (settings : Settings)
    (names : List LooseText) (s : Store) (report : Report) :
    Confined (Path.ofString file) s (generateAll parse file settings names s report).1 := by
  induction names generalizing s report with
  | nil => exact .refl _ s
  | cons name rest ih =>
      cases hrewrite : rewrite parse file (naming settings name) (s.read (Path.ofString file)) with
      | ok made =>
          obtain ⟨s', hgenerate, -, hconfined⟩ := generate_of_ok hrewrite
          rw [generateAll_of_ok hgenerate]
          exact hconfined.trans (ih s' _)
      | error fault =>
          have hgenerate := generate_of_error hrewrite
          by_cases hinference : ∃ failure, fault = .reported (.inference failure)
          · obtain ⟨failure, rfl⟩ := hinference
            rw [generateAll_of_inference hgenerate]
            exact ih s _
          · rw [generateAll_of_fault hgenerate fun failure heq => hinference ⟨failure, heq⟩]
            exact .refl _ s

/-- Runs over components agree where the file has the same content. -/
theorem agree_generateAll (parse : Parser) (file : String) (settings : Settings)
    (names : List LooseText) (report : Report) (h : t.read (Path.ofString file) = s.read (Path.ofString file)) :
    Agree (Path.ofString file) (generateAll parse file settings names t report)
      (generateAll parse file settings names s report) := by
  induction names generalizing s t report with
  | nil => exact ⟨rfl, h⟩
  | cons name rest ih =>
      cases hrewrite : rewrite parse file (naming settings name) (s.read (Path.ofString file)) with
      | ok made =>
          obtain ⟨s', hs, hread, -⟩ := generate_of_ok hrewrite
          obtain ⟨t', ht, hread', -⟩ := generate_of_ok (h ▸ hrewrite)
          rw [generateAll_of_ok hs, generateAll_of_ok ht]
          exact ih _ (hread'.trans hread.symm)
      | error fault =>
          have hs := generate_of_error hrewrite
          have ht := generate_of_error (h ▸ hrewrite)
          by_cases hinference : ∃ failure, fault = .reported (.inference failure)
          · obtain ⟨failure, rfl⟩ := hinference
            rw [generateAll_of_inference hs, generateAll_of_inference ht]
            exact ih _ h
          · have hother := fun failure heq => hinference ⟨failure, heq⟩
            rw [generateAll_of_fault hs hother, generateAll_of_fault ht hother]
            exact ⟨rfl, h⟩

theorem componentsOf_eq (parse : Parser) (settings : Settings) (names : Option (List LooseText))
    (h : t.read (Path.ofString file) = s.read (Path.ofString file)) :
    componentsOf parse t file settings names = componentsOf parse s file settings names := by
  unfold componentsOf
  rw [SourceFile.read_eq_ofContent, SourceFile.read_eq_ofContent, h]

theorem confined_generateFile (parse : Parser) (s : Store) (file : String) (settings : Settings)
    (names : Option (List LooseText)) :
    Confined (Path.ofString file) s (generateFile parse s file settings names).1 := by
  rw [generateFile]
  cases componentsOf parse s file settings names with
  | error fault => exact .refl _ s
  | ok names => exact confined_generateAll parse file settings names s { file }

/-- What is done in a file depends on its content only. -/
theorem agree_generateFile (parse : Parser) (file : String) (settings : Settings)
    (names : Option (List LooseText)) (h : t.read (Path.ofString file) = s.read (Path.ofString file)) :
    Agree (Path.ofString file) (generateFile parse t file settings names)
      (generateFile parse s file settings names) := by
  rw [generateFile, generateFile, componentsOf_eq parse settings names h]
  cases componentsOf parse s file settings names with
  | error fault => exact ⟨rfl, h⟩
  | ok names => exact agree_generateAll parse file settings names { file } h

/-! ## All files -/

theorem confined_generateDetected (parse : Parser) (settings : Settings) (s : Store)
    (hp : Path.ofString p.toString = p) : Confined p s (generateDetected parse settings s p).1 := by
  have h := confined_generateFile parse s p.toString { settings with name := none } none
  rwa [hp] at h

theorem agree_generateDetected (parse : Parser) (settings : Settings) (hp : Path.ofString p.toString = p)
    (h : t.read p = s.read p) :
    Agree p (generateDetected parse settings t p) (generateDetected parse settings s p) := by
  have hagree := agree_generateFile (t := t) (s := s) parse p.toString { settings with name := none } none
  rw [hp] at hagree
  exact hagree h

variable {reports reports' : List Report}

theorem generateReport_eq (parse : Parser) (settings : Settings) (p : Path) (s : Store)
    (reports : List Report) :
    generateReport parse settings p s reports =
      ((generateDetected parse settings s p).1,
        (settle p.toString (generateDetected parse settings s p).2).map fun report =>
          reports ++ [report]) := rfl

theorem generateReport_eq_ok (h : generateReport parse settings p s reports = (t, .ok reports')) :
    ∃ outcome report, generateDetected parse settings s p = (t, outcome) ∧
      settle p.toString outcome = .ok report ∧ reports' = reports ++ [report] := by
  rw [generateReport_eq] at h
  cases hdone : generateDetected parse settings s p with
  | mk s₁ outcome =>
      rw [hdone] at h
      cases hsettle : settle p.toString outcome with
      | error fault =>
          rw [hsettle] at h
          cases h
      | ok report =>
          rw [hsettle] at h
          cases h
          exact ⟨outcome, report, rfl, hsettle, rfl⟩

theorem sameShape_generateReport (parse : Parser) (settings : Settings) (p : Path) (s : Store)
    (reports : List Report) : SameShape s (generateReport parse settings p s reports).1 := by
  rw [generateReport_eq]
  dsimp only
  rw [generateDetected]
  exact (confined_generateFile parse s p.toString { settings with name := none } none).shape

/-- Places that none of the files is at keep what they have. -/
theorem get?_of_workOn {files : List Path} (htexts : ∀ q ∈ files, Path.ofString q.toString = q)
    (h : workOn (generateReport parse settings) files s reports = (t, .ok reports'))
    {place : List String} (hplace : ∀ q ∈ files, s.resolve q ≠ .ok place) (content : List UInt8) :
    t.get? place = some (.file content) ↔ s.get? place = some (.file content) := by
  induction files generalizing s reports with
  | nil =>
      cases h
      rfl
  | cons p rest ih =>
      obtain ⟨s₁, reports₁, hp, hrest⟩ := andThen_eq_ok h
      obtain ⟨outcome, report, hdone, -⟩ := generateReport_eq_ok hp
      rw [List.forall_mem_cons] at htexts hplace
      have hconfined := confined_generateDetected parse settings s htexts.1
      rw [hdone] at hconfined
      have hlater := ih htexts.2 hrest fun q hq => hconfined.shape.resolve q ▸ hplace.2 q hq
      exact hlater.trans (hconfined.others place content hplace.1)

theorem read_of_workOn {files : List Path} (htexts : ∀ q ∈ files, Path.ofString q.toString = q)
    (h : workOn (generateReport parse settings) files s reports = (t, .ok reports'))
    (hp : ∀ q ∈ files, s.resolve p ≠ s.resolve q) : t.read p = s.read p :=
  (sameShape_of_workOn (sameShape_generateReport parse settings) h).read
    fun _ content hplace hcontent =>
      (get?_of_workOn htexts h (fun q hq heq => hp q hq (hplace.trans heq.symm)) content).2 hcontent

theorem Apart.later {files : List Path} (h : Apart s (p :: files)) (hshape : SameShape s t) :
    Apart t files := by
  refine ⟨fun q hq => h.texts q (List.mem_cons_of_mem p hq), (List.nodup_cons.1 h.nodup).2, ?_⟩
  refine (List.pairwise_cons.1 h.places).2.imp fun hne => ?_
  rwa [hshape.resolve, hshape.resolve]

/-- Work on files that are apart: each gets the report and the content that it gets by itself. -/
theorem workOn_generateReport {files : List Path} (hapart : Apart s files)
    (h : workOn (generateReport parse settings) files s reports = (t, .ok reports')) :
    ∃ new, reports' = reports ++ new ∧
      new.map Except.ok =
        files.map (fun q => settle q.toString (generateDetected parse settings s q).2) ∧
      ∀ q ∈ files, t.read q = (generateDetected parse settings s q).1.read q := by
  induction files generalizing s reports with
  | nil =>
      cases h
      exact ⟨[], (List.append_nil _).symm, rfl, fun q hq => absurd hq List.not_mem_nil⟩
  | cons p rest ih =>
      obtain ⟨s₁, reports₁, hp, hrest⟩ := andThen_eq_ok h
      obtain ⟨outcome, report, hdone, hsettle, rfl⟩ := generateReport_eq_ok hp
      have hconfined := confined_generateDetected parse settings s (hapart.texts p List.mem_cons_self)
      rw [hdone] at hconfined
      have hlater := hapart.later hconfined.shape
      obtain ⟨new, rfl, hreports, hcontents⟩ := ih hlater hrest
      -- the files that follow are as they were before the first
      have hagree : ∀ q ∈ rest, Agree q (generateDetected parse settings s₁ q)
          (generateDetected parse settings s q) := fun q hq =>
        agree_generateDetected parse settings (hlater.texts q hq)
          (hconfined.read ((List.pairwise_cons.1 hapart.places).1 q hq))
      refine ⟨report :: new, by simp, ?_, List.forall_mem_cons.2 ⟨?_, fun q hq => ?_⟩⟩
      · have hsame : rest.map (fun q => settle q.toString (generateDetected parse settings s₁ q).2) =
            rest.map fun q => settle q.toString (generateDetected parse settings s q).2 :=
          List.map_congr_left fun q hq => by rw [(hagree q hq).outcome]
        rw [List.map_cons, List.map_cons, hdone, hsettle, hreports, hsame]
      · -- and none of them is at the place of the first
        rw [hdone]
        refine read_of_workOn hlater.texts hrest fun q hq => ?_
        rw [hconfined.shape.resolve, hconfined.shape.resolve]
        exact (List.pairwise_cons.1 hapart.places).1 q hq
      · rw [hcontents q hq, (hagree q hq).content]

/-- Work on files that are apart returns, if none of them has a fault that ends it. -/
theorem exists_workOn {files : List Path} (hapart : Apart s files)
    (h : ∀ q ∈ files, ∃ report, settle q.toString (generateDetected parse settings s q).2 = .ok report)
    (reports : List Report) :
    ∃ t reports', workOn (generateReport parse settings) files s reports = (t, .ok reports') := by
  induction files generalizing s reports with
  | nil => exact ⟨s, reports, rfl⟩
  | cons p rest ih =>
      obtain ⟨⟨report, hreport⟩, hrest⟩ := List.forall_mem_cons.1 h
      have hconfined := confined_generateDetected parse settings s (hapart.texts p List.mem_cons_self)
      have hlater := hapart.later hconfined.shape
      obtain ⟨t, reports', hrun⟩ := ih hlater (fun q hq => by
        have hagree := agree_generateDetected parse settings (hlater.texts q hq)
          (hconfined.read ((List.pairwise_cons.1 hapart.places).1 q hq))
        rw [hagree.outcome]
        exact hrest q hq) (reports ++ [report])
      refine ⟨t, reports', ?_⟩
      rw [workOn, generateReport_eq, hreport]
      exact hrun

/-- A run over a project that returns reports once on each of the files that are listed, in their
order. The report on a file and what it leaves there are those of the file by itself, and would be the
same in any other store where the file has this content. No other file changes. -/
theorem generateProject_isolated {root : String} (htree : s.isTree = true)
    (h : generateProject parse s (Path.ofString root) settings = (t, .ok reports)) :
    ∃ files, projectFiles s (Path.ofString root) = .ok files ∧ files.Nodup ∧
      reports.map Except.ok =
        files.map (fun p => settle p.toString (generateDetected parse settings s p).2) ∧
      (∀ p ∈ files, t.read p = (generateDetected parse settings s p).1.read p ∧
        ∀ other : Store, other.read p = s.read p →
          (generateDetected parse settings other p).2 = (generateDetected parse settings s p).2 ∧
          (generateDetected parse settings other p).1.read p =
            (generateDetected parse settings s p).1.read p) ∧
      ∀ place content, (∀ p ∈ files, s.resolve p ≠ .ok place) →
        (t.get? place = some (.file content) ↔ s.get? place = some (.file content)) := by
  obtain ⟨files, hlisted, hrun⟩ := listed_of_walkProject (sameShape_generateReport parse settings) h
  have hapart := hlisted.apart htree
  obtain ⟨new, hnew, hreports, hcontents⟩ := workOn_generateReport hapart hrun
  rw [List.nil_append] at hnew
  refine ⟨files, projectFiles_of_listed hlisted, hapart.nodup, hnew ▸ hreports, ?_, ?_⟩
  · intro p hp
    refine ⟨hcontents p hp, fun other hother => ?_⟩
    have hagree := agree_generateDetected parse settings (hapart.texts p hp) hother
    exact ⟨hagree.outcome, hagree.content⟩
  · exact fun place content hplace => get?_of_workOn hapart.texts hrun hplace content

/-- The program `function F({a}){<i/>}`, with another name of one letter for `F`. -/
def drawing (name : String) : Tree :=
  let parameters : Tree :=
    { kind := .formalParameters, span := ⟨10, 15⟩, text := "(\x7ba\x7d)", fields := [.parameters]
      children := [
        { kind := .objectPattern, span := ⟨11, 14⟩, text := "\x7ba\x7d"
          children := [
            { kind := .shorthandPropertyIdentifierPattern, span := ⟨12, 13⟩, text := "a" }] }] }
  let body : Tree :=
    { kind := .statementBlock, span := ⟨15, 21⟩, text := "\x7b<i/>\x7d", fields := [.body]
      children := [{ kind := .jsxSelfClosingElement, span := ⟨16, 20⟩, text := "<i/>" }] }
  let component : Tree :=
    { kind := .functionDeclaration, span := ⟨0, 21⟩
      text := "function " ++ name ++ "(\x7ba\x7d)\x7b<i/>\x7d"
      children := [
        { kind := .identifier, span := ⟨9, 10⟩, text := name, fields := [.name] }, parameters,
        body] }
  { kind := .program, span := ⟨0, 21⟩, text := component.text, children := [component] }

def declaredDrawing (name : String) : String :=
  (drawing name).text ++ "\n\n" ++ name ++ ".propTypes = \x7b\n  a: PropTypes.any\n\x7d;"

def parseDrawing : Parser := fun _ text =>
  if text = (drawing "G").text then drawing "G" else drawing "F"

def drawingReport (file name : String) : Report :=
  { file, generated := [{ file, component := name, style := .assignment, replaced := false
                          properties := ["a"] }] }

def drawingFile (file name : String) : SourceFile :=
  ⟨file, (drawing name).text, "javascript"⟩

theorem ofContent_drawing {file name : String} (hname : name = "F" ∨ name = "G")
    (hlanguage : languageOf? (Path.ofString file) = some "javascript") :
    SourceFile.ofContent (Path.ofString file) (languageOf? (Path.ofString file))
      (.ok (Text.Utf8.encode (drawing name).text)) =
      .ok (drawingFile (Path.ofString file).toString name) := by
  rw [hlanguage]
  have hends : String.ofList (Text.unifyLineEnds (drawing name).text.toList) = (drawing name).text := by
    rcases hname with rfl | rfl <;> decide +kernel
  have hne : Text.Utf8.encode (drawing name).text ≠ [] := by
    rcases hname with rfl | rfl <;> decide
  rw [SourceFile.ofContent_of_decode (Text.Utf8.decode_encode _) hne, hends]
  rfl

theorem readComponentNames_drawing {name : String} (hname : name = "F" ∨ name = "G") (file : String) :
    ((drawingFile file name).document parseDrawing).node.readComponentNames.result = .ok [name] := by
  rcases hname with rfl | rfl <;> cbv

def drawingEdit (name : String) : Edit :=
  ⟨21, 21, "\n\n" ++ name ++ ".propTypes = \x7b\n  a: PropTypes.any\n\x7d;"⟩

theorem lineIndent_zero (data : List UInt8) : lineIndent data 0 = "" := by
  simp [lineIndent, Edit.between, Edit.offset]

theorem located_drawing {name : String} (hname : name = "F" ∨ name = "G") (file : String) :
    let settings := naming { autoImport := false } name
    ((Analysis.readLoose ((drawingFile file name).document parseDrawing) name
        (some (Settings.labelText { autoImport := false }))).result.toOption.bind Except.toOption).map
      (fun a => (a.component.topLevel.span, a.statement settings settings.labelText "",
        a.codeStyle settings, a.propTypes.isSome, a.properties.map (·.name))) =
      some (⟨0, 21⟩, name ++ ".propTypes = \x7b\n  a: PropTypes.any\n\x7d;", .assignment, false,
        ["a"]) := by
  rcases hname with rfl | rfl <;> cbv

theorem apply_drawing {name : String} (hname : name = "F" ∨ name = "G") :
    Edit.apply (Text.Utf8.encode (drawing name).text) [drawingEdit name] =
      .ok (declaredDrawing name) := by
  have hsplice : Edit.splice (Text.Utf8.encode (drawing name).text) [drawingEdit name] =
      .ok (Text.Utf8.encode (declaredDrawing name)) := by
    rw [Edit.splice, Edit.inOrder, List.mergeSort_singleton]
    rcases hname with rfl | rfl <;> decide +kernel
  exact ((Edit.leaves_of_splice hsplice).apply_eq_ok_iff _).2 rfl

theorem plan_drawing {a : Analysis} {name : String} (root : Node) (data : List UInt8)
    (hspan : a.component.topLevel.span = ⟨0, 21⟩)
    (hstatement : a.statement (naming { autoImport := false } name)
      (naming { autoImport := false } name).labelText "" =
        name ++ ".propTypes = \x7b\n  a: PropTypes.any\n\x7d;")
    (hstyle : a.codeStyle (naming { autoImport := false } name) = .assignment)
    (hnew : a.propTypes.isSome = false) :
    a.plan root (naming { autoImport := false } name) data = [drawingEdit name] := by
  have hindent : lineIndent data (Span.start ⟨0, 21⟩) = "" := lineIndent_zero data
  rw [Option.isSome_eq_false_iff, Option.isNone_iff_eq_none] at hnew
  rw [Analysis.plan, Analysis.typesEdit, hnew]
  dsimp only
  rw [Analysis.insertion?, hstyle]
  dsimp only
  rw [hspan, hindent, hstatement]
  rfl

theorem rewrite_drawing {file name : String} (hname : name = "F" ∨ name = "G")
    (hlanguage : languageOf? (Path.ofString file) = some "javascript") :
    rewrite parseDrawing file (naming { autoImport := false } name)
        (.ok (Text.Utf8.encode (drawing name).text)) =
      .ok (Text.Utf8.encode (declaredDrawing name),
        { file, component := name, style := .assignment, replaced := false, properties := ["a"] }) := by
  have hne : LooseText.ofString name ≠ [] := by
    rcases hname with rfl | rfl <;> decide
  obtain ⟨a, hlocated, hall⟩ :=
    Option.map_eq_some_iff.1 (located_drawing hname (Path.ofString file).toString)
  obtain ⟨hspan, hstatement, hstyle, hreplaced, hproperties⟩ :
      _ ∧ _ ∧ _ ∧ _ ∧ _ := by simpa only [Prod.mk.injEq] using hall
  have ha := Reading.result_of_toOption hlocated
  have hown : name = a.name := LooseText.ofString_injective (Analysis.of_readLoose ha).1
  have hread : (a.readPlan ((drawingFile (Path.ofString file).toString name).document parseDrawing).node
      (naming { autoImport := false } name) (Text.Utf8.encode (drawing name).text)).result =
        .ok [drawingEdit name] := by
    rw [Analysis.readPlan, plan_drawing _ _ hspan hstatement hstyle hreplaced]
    rfl
  rw [rewrite_of_plan hne (ofContent_drawing hname hlanguage) ha hread rfl (apply_drawing hname), hstyle,
    hreplaced, hproperties, ← hown]

theorem generateDetected_drawing {p : Path} {name : String} (hname : name = "F" ∨ name = "G")
    (hp : Path.ofString p.toString = p) (hlanguage : languageOf? p = some "javascript")
    (hread : s.read p = .ok (Text.Utf8.encode (drawing name).text)) :
    ∃ s', generateDetected parseDrawing { autoImport := false } s p =
        (s', .ok (drawingReport p.toString name)) ∧
      s'.read p = .ok (Text.Utf8.encode (declaredDrawing name)) := by
  rw [← hp] at hlanguage hread
  have hsource := ofContent_drawing hname hlanguage
  have hnames : componentsOf parseDrawing s p.toString { autoImport := false } none = .ok [name] := by
    rw [componentsOf, show Settings.component? { autoImport := false } = none from rfl]
    dsimp only
    rw [SourceFile.read_eq_ofContent, hread, hsource]
    dsimp only
    rw [readComponentNames_drawing hname]
    rfl
  obtain ⟨s', hgenerate, hwritten, -⟩ :=
    generate_of_ok (hread.symm ▸ rewrite_drawing hname hlanguage)
  rw [hp] at hwritten
  refine ⟨s', ?_, hwritten⟩
  rw [generateDetected, generateFile, hnames]
  dsimp only
  rw [generateAll_of_ok hgenerate]
  rfl

/-- Three files, of which the second is no text, next to a directory that is skipped. -/
def mixedFiles : Store :=
  .directory
    [("f.js", .file (Text.Utf8.encode (drawing "F").text)), ("g.js", .file [0xff]),
      ("h.js", .file (Text.Utf8.encode (drawing "G").text)),
      ("node_modules", .directory [("i.js", .file (Text.Utf8.encode (drawing "I").text))])]

theorem listed_mixedFiles :
    ListedProject mixedFiles (Path.ofString ".")
      [Path.ofString "f.js", Path.ofString "g.js", Path.ofString "h.js"] := by
  have hsorted : sortedNames mixedFiles.entries = ["f.js", "g.js", "h.js", "node_modules"] :=
    List.mergeSort_of_pairwise (by decide)
  have hroot : mixedFiles.entry (Path.ofString ".") = .ok (.directory mixedFiles.entries) := rfl
  refine .directory hroot ?_
  rw [hsorted]
  exact .file (isFlat_of_file rfl) (by decide +kernel)
    (.file (isFlat_of_file rfl) (by decide +kernel)
      (.file (isFlat_of_file rfl) (by decide +kernel) (.skipped rfl (by decide +kernel) (.nil _))))

theorem generateDetected_unreadable {file : String}
    (hlanguage : languageOf? (Path.ofString file) = some "javascript")
    (hread : s.read (Path.ofString file) = .ok [0xff]) :
    generateDetected parse settings s (Path.ofString file) =
      (s, .error (.reported (.unreadable (Path.ofString file).toString
        (.undecodable ⟨0xff, 0, 1, .invalidStart⟩)))) := by
  have htext : Text.ofFile [0xff] = .error ⟨0xff, 0, 1, .invalidStart⟩ := by
    rw [Text.ofFile, Text.Utf8.decode, Text.Utf8.decodeFrom]
    rfl
  have hnames : componentsOf parse s (Path.ofString file).toString { settings with name := none } none =
      .error (.reported (.unreadable (Path.ofString file).toString
        (.undecodable ⟨0xff, 0, 1, .invalidStart⟩))) := by
    rw [componentsOf, show Settings.component? { settings with name := none } = none from rfl]
    dsimp only
    rw [SourceFile.read_eq_ofContent, Path.ofString_toString, hread, hlanguage, SourceFile.ofContent]
    rw [htext]
  rw [generateDetected, generateFile, hnames]

/-- There the second file fails, the first and the third one are rewritten, and the skipped one stays
as it was. -/
theorem generateProject_mixedFiles :
    mixedFiles.isTree = true ∧ ∃ t,
      generateProject parseDrawing mixedFiles (Path.ofString ".") { autoImport := false } =
        (t, .ok [drawingReport "f.js" "F",
          { file := "g.js", failures := [("*", "can't resolve filePath: g.js")] },
          drawingReport "h.js" "G"]) ∧
      t.read (Path.ofString "f.js") = .ok (Text.Utf8.encode (declaredDrawing "F")) ∧
      t.read (Path.ofString "g.js") = .ok [0xff] ∧
      t.read (Path.ofString "h.js") = .ok (Text.Utf8.encode (declaredDrawing "G")) ∧
      t.get? ["node_modules", "i.js"] = some (.file (Text.Utf8.encode (drawing "I").text)) := by
  have htree : mixedFiles.isTree = true := by decide +kernel
  have hreadF : mixedFiles.read (Path.ofString "f.js") = .ok (Text.Utf8.encode (drawing "F").text) := rfl
  have hreadG : mixedFiles.read (Path.ofString "g.js") = .ok [0xff] := rfl
  have hreadH : mixedFiles.read (Path.ofString "h.js") = .ok (Text.Utf8.encode (drawing "G").text) := rfl
  obtain ⟨sf, hf, hfRead⟩ := generateDetected_drawing (.inl rfl) rfl (by decide +kernel) hreadF
  have hg : generateDetected parseDrawing { autoImport := false } mixedFiles (Path.ofString "g.js") = _ :=
    generateDetected_unreadable (by decide +kernel) hreadG
  obtain ⟨sh, hh, hhRead⟩ := generateDetected_drawing (.inr rfl) rfl (by decide +kernel) hreadH
  have hreports : ∀ q ∈ [Path.ofString "f.js", Path.ofString "g.js", Path.ofString "h.js"], ∃ report,
      settle q.toString (generateDetected parseDrawing { autoImport := false } mixedFiles q).2 =
        .ok report := by
    simp only [List.forall_mem_cons, hf, hg, hh]
    exact ⟨⟨_, rfl⟩, ⟨_, rfl⟩, ⟨_, rfl⟩, by simp⟩
  obtain ⟨t, reports, hdone⟩ := exists_workOn (listed_mixedFiles.apart htree) hreports []
  have hrun : generateProject parseDrawing mixedFiles (Path.ofString ".") { autoImport := false } =
      (t, .ok reports) :=
    (walkProject_of_listed (sameShape_generateReport parseDrawing { autoImport := false })
      listed_mixedFiles []).trans hdone
  obtain ⟨files, hfiles, -, hall, hcontents, hothers⟩ := generateProject_isolated htree hrun
  rw [projectFiles_of_listed listed_mixedFiles] at hfiles
  injection hfiles with hfiles
  subst hfiles
  simp only [List.forall_mem_cons, List.map_cons, List.map_nil, hf, hg, hh] at hcontents hall
  have hlist := List.map_injective_iff.2 (fun _ _ => Except.ok.inj) (hall.trans rfl :
    reports.map Except.ok = [drawingReport "f.js" "F",
      { file := "g.js", failures := [("*", "can't resolve filePath: g.js")] },
      drawingReport "h.js" "G"].map Except.ok)
  refine ⟨htree, t, hlist ▸ hrun, hcontents.1.1.trans hfRead, hcontents.2.1.1.trans rfl,
    hcontents.2.2.1.1.trans hhRead, (hothers _ _ ?_).2 rfl⟩
  decide +kernel

end Batch

end PropTyper
