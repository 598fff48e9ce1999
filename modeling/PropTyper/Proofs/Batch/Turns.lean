import PropTyper.Batch
import PropTyper.Proofs.Edit.Overlap
import PropTyper.Proofs.Files.Path
import PropTyper.Proofs.Files.Store
import PropTyper.Proofs.Text.Lines

/-! # The turns of components in a file

What is done for one component depends on the content of its file and on nothing else in the store,
and only that content changes. `Turns` lists what a run over several components makes of a content:
each turn starts from what the one before has left, and a component that cannot be inferred leaves
the content alone. A run over a file is such a list, up to the first fault of another kind.
-/

namespace PropTyper

abbrev Content := Except PathFault (List UInt8)

/-- The source file in a language that has a content. -/
def SourceFile.ofContent (p : Path) (language : Option String) (content : Content) :
    Except Fault SourceFile :=
  match language with
  | none => .error (.reported (.undetectedLanguage p.toString))
  | some language =>
    match content with
    | .error fault => .error (.ofPath (fun f => .unreadable p.toString (.path f)) fault)
    | .ok bytes =>
      match Text.ofFile bytes with
      | .error fault => .error (.reported (.unreadable p.toString (.undecodable fault)))
      | .ok text =>
        if text = "" then .error (.reported (.unreadable p.toString .empty))
        else .ok ⟨p.toString, text, language⟩

theorem SourceFile.read_eq_ofContent (s : Store) (p : Path) :
    SourceFile.read s p none = SourceFile.ofContent p (languageOf? p) (s.read p) := by
  rw [SourceFile.read, Option.none_or]
  cases languageOf? p with
  | none => rfl
  | some language => cases s.read p <;> rfl

theorem SourceFile.ofContent_eq_ok {p : Path} {language : Option String} {content : Content}
    {source : SourceFile} (h : SourceFile.ofContent p language content = .ok source) :
    source.path = p.toString ∧ language.isSome ∧ ∃ bytes, content = .ok bytes := by
  unfold SourceFile.ofContent at h
  split at h
  · cases h
  · split at h
    · cases h
    · split at h
      · cases h
      · split at h
        · cases h
        · injection h with h
          exact ⟨by rw [← h], rfl, _, rfl⟩

theorem SourceFile.document_text (f : SourceFile) (parse : Parser) :
    (f.document parse).text = f.text := rfl

theorem SourceFile.ofContent_of_decode {bytes : List UInt8} {text : String} (htext : Text.Utf8.decode bytes = .ok text)
    (hne : bytes ≠ []) (p : Path) (language : String) :
    ofContent p (some language) (.ok bytes) =
      .ok ⟨p.toString, String.ofList (Text.unifyLineEnds text.toList), language⟩ := by
  have hfilled : String.ofList (Text.unifyLineEnds text.toList) ≠ "" := by
    intro hempty
    rw [String.ofList_eq_empty_iff, Text.unifyLineEnds_eq_nil_iff, String.toList_eq_nil_iff] at hempty
    subst hempty
    exact hne (Text.Utf8.encode_of_decode htext).symm
  simp [ofContent, Text.ofFile_of_decode htext, hfilled]

theorem toOption_eq_some {ε α : Type} {outcome : Except ε α} {a : α}
    (h : outcome.toOption = some a) : outcome = .ok a := by
  cases outcome with
  | error e => cases h
  | ok b => rw [Option.some.inj h]

theorem Reading.result_of_toOption {ε α : Type} {r : Reading (Except ε α)} {a : α}
    (h : r.result.toOption.bind Except.toOption = some a) : r.result = .ok (.ok a) := by
  obtain ⟨outcome, hresult, houtcome⟩ := Option.bind_eq_some_iff.1 h
  rw [toOption_eq_some hresult, toOption_eq_some houtcome]

/-- A component that can be analysed goes by a name without halves. -/
theorem Analysis.of_readLoose {d : Document} {name : LooseText} {label : Option String} {a : Analysis}
    (h : (Analysis.readLoose d name label).result = .ok (.ok a)) :
    name = LooseText.ofString a.name ∧ Analysis.of d a.name label = .ok a := by
  unfold readLoose at h
  split at h
  · next whole hwhole =>
    have hof : Analysis.of d whole label = .ok a := Reading.value_of_result h
    obtain ⟨component, -, rfl⟩ := Option.map_eq_some_iff.1 (locate?_of_eq_ok hof)
    exact ⟨LooseText.eq_ofString_of_toString? hwhole, hof⟩
  · cases Reading.value_of_result h

namespace Batch

def naming (settings : Settings) (name : LooseText) : Settings :=
  { settings with name := some name }

theorem component?_naming (settings : Settings) (name : LooseText) :
    (naming settings name).component? = if name = [] then none else some name := by
  rw [Settings.component?, naming, Option.filter_some]
  by_cases h : name = [] <;> simp [h]

/-- What the turn of the component that the settings name makes of a content: the new bytes, and what
is reported. -/
def rewrite (parse : Parser) (file : String) (settings : Settings) (content : Content) :
    Except Fault (List UInt8 × Generated) :=
  match settings.component? with
  | none => .error (.reported (.inference (.notNamed file)))
  | some name =>
    match SourceFile.ofContent (Path.ofString file) (languageOf? (Path.ofString file)) content with
    | .error fault => .error fault
    | .ok source =>
      match (Analysis.readLoose (source.document parse) name (some settings.labelText)).result with
      | .error fault => .error (.undecodable fault)
      | .ok (.error failure) => .error (.reported (.inference failure))
      | .ok (.ok a) =>
        match updated (source.document parse) settings a with
        | .error fault => .error fault
        | .ok text =>
          .ok (Text.Utf8.encode text,
            { file, component := a.name, style := a.codeStyle settings
              replaced := a.propTypes.isSome, properties := a.properties.map (·.name) })

variable {parse : Parser} {s s' : Store} {file : String} {settings : Settings}

/-- A turn writes what the content is rewritten to, and does nothing else. -/
theorem generate_eq_rewrite (parse : Parser) (s : Store) (file : String) (settings : Settings) :
    generate parse s file settings =
      match rewrite parse file settings (s.read (Path.ofString file)) with
      | .error fault => (s, .error fault)
      | .ok (bytes, generated) =>
        match s.write (Path.ofString file) bytes with
        | .error fault => (s, .error (.ofPath (.unwritable (Path.ofString file).toString) fault))
        | .ok s' => (s', .ok generated) := by
  rw [generate, rewrite, SourceFile.read_eq_ofContent]
  cases settings.component? with
  | none => rfl
  | some name =>
      dsimp only
      cases hsource : SourceFile.ofContent (Path.ofString file) (languageOf? (Path.ofString file))
          (s.read (Path.ofString file)) with
      | error fault => rfl
      | ok source =>
          dsimp only
          cases (Analysis.readLoose (source.document parse) name (some settings.labelText)).result with
          | error fault => rfl
          | ok outcome =>
              cases outcome with
              | error failure => rfl
              | ok a =>
                  dsimp only
                  cases updated (source.document parse) settings a with
                  | error fault => rfl
                  | ok text =>
                      dsimp only
                      rw [SourceFile.write, (SourceFile.ofContent_eq_ok hsource).1,
                        Path.ofString_toString]
                      cases s.write (Path.ofString file) (Text.Utf8.encode text) <;> rfl

theorem rewrite_eq_ok {content : Content} {bytes : List UInt8} {generated : Generated}
    (h : rewrite parse file settings content = .ok (bytes, generated)) :
    settings.component? = some (LooseText.ofString generated.component) ∧
      ∃ old, content = .ok old := by
  unfold rewrite at h
  split at h
  · cases h
  · next name hname =>
    split at h
    · cases h
    · next source hsource =>
      split at h
      · cases h
      · cases h
      · next a ha =>
        split at h
        · cases h
        · injection h with h
          injection h with hbytes hgenerated
          refine ⟨?_, (SourceFile.ofContent_eq_ok hsource).2.2⟩
          rw [hname, ← hgenerated, ← (Analysis.of_readLoose ha).1]

/-- A content is rewritten to what the edits that are planned for it make of it. -/
theorem rewrite_of_plan {content : Content} {name : LooseText} {source : SourceFile} {a : Analysis}
    {edits : List Edit} {text : String} (hname : name ≠ [])
    (hsource : SourceFile.ofContent (Path.ofString file) (languageOf? (Path.ofString file)) content =
      .ok source)
    (ha : (Analysis.readLoose (source.document parse) name (some settings.labelText)).result = .ok (.ok a))
    (hplan : (a.readPlan (source.document parse).node (naming settings name)
      (Text.Utf8.encode source.text)).result = .ok edits)
    (hwhole : settings.label.hasHalf = false)
    (happly : Edit.apply (Text.Utf8.encode source.text) edits = .ok text) :
    rewrite parse file (naming settings name) content =
      .ok (Text.Utf8.encode text,
        { file, component := a.name, style := a.codeStyle (naming settings name)
          replaced := a.propTypes.isSome, properties := a.properties.map (·.name) }) := by
  have hlabel : (naming settings name).labelText = settings.labelText := rfl
  have hown : (naming settings name).label.hasHalf = false := hwhole
  rw [rewrite, component?_naming, if_neg hname]
  dsimp only
  rw [hsource]
  dsimp only
  rw [hlabel, ha]
  dsimp only
  rw [updated, SourceFile.document_text, hplan]
  dsimp only
  rw [Analysis.unencodable?_eq_none hown, happly]

/-! ## One turn -/

structure Touches (p : Path) (s s' : Store) : Prop where
  resolve : s'.resolve p = s.resolve p
  others : ∀ other content, s.resolve p ≠ .ok other →
    (s'.get? other = some (.file content) ↔ s.get? other = some (.file content))

theorem Touches.refl (p : Path) (s : Store) : Touches p s s :=
  ⟨rfl, fun _ _ _ => Iff.rfl⟩

theorem Touches.trans {p : Path} {s'' : Store} (h : Touches p s s') (h' : Touches p s' s'') :
    Touches p s s'' :=
  ⟨h'.resolve.trans h.resolve, fun other content hother =>
    (h'.others other content (h.resolve ▸ hother)).trans (h.others other content hother)⟩

theorem touches_write {p : Path} {old new : List UInt8} (hread : s.read p = .ok old)
    (hwrite : s.write p new = .ok s') : Touches p s s' := by
  obtain ⟨place, -, -, hresolve, huse⟩ := Store.write_eq_ok hwrite
  obtain ⟨before, hbefore, -⟩ := Store.read_eq_ok_iff.1 hread
  have hsame : s'.resolve p = s.resolve p := by rw [hresolve, hbefore, huse before hbefore]
  exact ⟨hsame, fun other content hother => Store.get?_of_write hwrite (hsame ▸ hother)⟩

/-- One turn: the content is rewritten and nothing else changes, or there is a fault and nothing
changes at all. A fault of inference is one of rewriting. -/
theorem generate_cases (parse : Parser) (s : Store) (file : String) (settings : Settings) :
    (∃ s' bytes generated, generate parse s file settings = (s', .ok generated) ∧
      rewrite parse file settings (s.read (Path.ofString file)) = .ok (bytes, generated) ∧
      s'.read (Path.ofString file) = .ok bytes ∧ Touches (Path.ofString file) s s') ∨
    ∃ fault, generate parse s file settings = (s, .error fault) ∧
      ∀ failure, fault = .reported (.inference failure) →
        rewrite parse file settings (s.read (Path.ofString file)) = .error fault := by
  rw [generate_eq_rewrite]
  cases hrewrite : rewrite parse file settings (s.read (Path.ofString file)) with
  | error fault => exact .inr ⟨fault, rfl, fun _ _ => rfl⟩
  | ok made =>
      obtain ⟨bytes, generated⟩ := made
      obtain ⟨-, old, hold⟩ := rewrite_eq_ok hrewrite
      dsimp only
      cases hwrite : s.write (Path.ofString file) bytes with
      | ok s' =>
          exact .inl ⟨s', bytes, generated, rfl, rfl, Store.read_of_write hwrite,
            touches_write hold hwrite⟩
      | error fault =>
          refine .inr ⟨_, rfl, fun failure hfailure => ?_⟩
          unfold Fault.ofPath at hfailure
          split at hfailure <;> cases hfailure

/-! ## All turns -/

/-- What the turns of components, one after the other, make of a content: the last content, and
what is reported of those that were rewritten and of those that could not be inferred. -/
inductive Turns (parse : Parser) (file : String) (settings : Settings) :
    Content → List LooseText → Content → List Generated → List (LooseText × String) → Prop
  | nil (content : Content) : Turns parse file settings content [] content [] []
  | rewritten {content last : Content} {name : LooseText} {rest : List LooseText} {bytes : List UInt8}
      {generated : Generated} {more : List Generated} {failures : List (LooseText × String)}
      (turn : rewrite parse file (naming settings name) content = .ok (bytes, generated))
      (later : Turns parse file settings (.ok bytes) rest last more failures) :
      Turns parse file settings content (name :: rest) last (generated :: more) failures
  | kept {content last : Content} {name : LooseText} {rest : List LooseText}
      {failure : InferenceFailure} {generated : List Generated} {more : List (LooseText × String)}
      (turn : rewrite parse file (naming settings name) content =
        .error (.reported (.inference failure)))
      (later : Turns parse file settings content rest last generated more) :
      Turns parse file settings content (name :: rest) last generated
        ((name, failure.notice.message) :: more)

theorem component_of_rewrite {content : Content} {name : LooseText} {bytes : List UInt8}
    {generated : Generated}
    (h : rewrite parse file (naming settings name) content = .ok (bytes, generated)) :
    LooseText.ofString generated.component = name := by
  obtain ⟨hname, -⟩ := rewrite_eq_ok h
  rw [component?_naming] at hname
  split at hname
  · cases hname
  · exact (Option.some.inj hname).symm

/-- Each component is reported once, as rewritten or as failed, and both in their order. -/
theorem Turns.reported {content last : Content} {names : List LooseText} {generated : List Generated}
    {failures : List (LooseText × String)}
    (h : Turns parse file settings content names last generated failures) :
    (generated.map fun g => LooseText.ofString g.component).Sublist names ∧
      (failures.map Prod.fst).Sublist names ∧
      (generated.map (fun g => LooseText.ofString g.component) ++ failures.map Prod.fst).Perm names := by
  induction h with
  | nil => simp
  | rewritten turn later ih =>
      obtain ⟨hgenerated, hfailures, hall⟩ := ih
      rw [List.map_cons, component_of_rewrite turn]
      exact ⟨hgenerated.cons_cons _, hfailures.cons _, hall.cons _⟩
  | kept turn later ih =>
      obtain ⟨hgenerated, hfailures, hall⟩ := ih
      exact ⟨hgenerated.cons _, hfailures.cons_cons _, List.perm_middle.trans (hall.cons _)⟩

section Step

variable {name : LooseText} {rest : List LooseText} {report : Report}

theorem generateAll_of_ok {generated : Generated}
    (h : generate parse s file (naming settings name) = (s', .ok generated)) :
    generateAll parse file settings (name :: rest) s report =
      generateAll parse file settings rest s'
        { report with generated := report.generated ++ [generated] } := by
  unfold naming at h
  rw [generateAll, h]

theorem generateAll_of_inference {failure : InferenceFailure}
    (h : generate parse s file (naming settings name) =
      (s', .error (.reported (.inference failure)))) :
    generateAll parse file settings (name :: rest) s report =
      generateAll parse file settings rest s'
        { report with
          failures := Json.setMember name failure.notice.message report.failures } := by
  unfold naming at h
  rw [generateAll, h]

theorem generateAll_of_fault {fault : Fault}
    (h : generate parse s file (naming settings name) = (s', .error fault))
    (hother : ∀ failure, fault ≠ .reported (.inference failure)) :
    generateAll parse file settings (name :: rest) s report = (s', .error fault) := by
  unfold naming at h
  rw [generateAll, h]
  split
  · next heq => cases heq
  · next failure heq => cases heq; exact (hother failure rfl).elim
  · next heq => cases heq; rfl

end Step

/-- A run over components is a list of turns, for all of them or up to one with a fault of another
kind than inference. -/
theorem generateAll_turns (parse : Parser) (file : String) (settings : Settings)
    (names : List LooseText) (s : Store) (report : Report)
    (hnames : (report.failures.map Prod.fst ++ names).Nodup) :
    ∃ done rest s' outcome generated failures, names = done ++ rest ∧
      generateAll parse file settings names s report = (s', outcome) ∧
      Turns parse file settings (s.read (Path.ofString file)) done (s'.read (Path.ofString file))
        generated failures ∧
      Touches (Path.ofString file) s s' ∧
      ((rest = [] ∧ outcome = .ok { report with
          generated := report.generated ++ generated, failures := report.failures ++ failures }) ∨
        ∃ name later fault, rest = name :: later ∧ outcome = .error fault ∧
          generate parse s' file (naming settings name) = (s', .error fault) ∧
          ∀ failure, fault ≠ .reported (.inference failure)) := by
  induction names generalizing s report with
  | nil =>
      exact ⟨[], [], s, .ok report, [], [], rfl, rfl, .nil _, .refl _ s, .inl ⟨rfl, by simp⟩⟩
  | cons name names ih =>
      rcases generate_cases parse s file (naming settings name) with
        ⟨s₁, bytes, made, hgenerate, hrewrite, hread, htouches⟩ | ⟨fault, hgenerate, hrewrite⟩
      · have hrest : (report.failures.map Prod.fst ++ names).Nodup :=
          hnames.sublist ((List.sublist_cons_self name names).append_left _)
        obtain ⟨done, rest, s', outcome, generated, failures, hsplit, hrun, hturns, hlater, hend⟩ :=
          ih s₁ { report with generated := report.generated ++ [made] } hrest
        refine ⟨name :: done, rest, s', outcome, made :: generated, failures, by rw [hsplit]; rfl, ?_,
          .rewritten hrewrite (hread ▸ hturns), htouches.trans hlater, ?_⟩
        · rw [generateAll_of_ok hgenerate, hrun]
        · simpa using hend
      · by_cases hinference : ∃ failure, fault = .reported (.inference failure)
        · obtain ⟨failure, rfl⟩ := hinference
          have hnew : name ∉ report.failures.map Prod.fst := by
            intro hmem
            exact (List.nodup_append.1 hnames).2.2 name hmem name List.mem_cons_self rfl
          have hset := Json.setMember_of_not_mem hnew failure.notice.message
          obtain ⟨done, rest, s', outcome, generated, failures, hsplit, hrun, hturns, hlater, hend⟩ :=
            ih s { report with failures := Json.setMember name failure.notice.message report.failures }
              (by simpa [hset] using hnames)
          refine ⟨name :: done, rest, s', outcome, generated, (name, failure.notice.message) :: failures,
            by rw [hsplit]; rfl, ?_, .kept (hrewrite failure rfl) hturns, hlater, ?_⟩
          · rw [generateAll_of_inference hgenerate, hrun]
          · simpa [hset] using hend
        · have hother : ∀ failure, fault ≠ .reported (.inference failure) :=
            fun failure heq => hinference ⟨failure, heq⟩
          refine ⟨[], name :: names, s, .error fault, [], [], rfl, ?_, .nil _, .refl _ s,
            .inr ⟨name, names, fault, rfl, rfl, hgenerate, hother⟩⟩
          rw [generateAll_of_fault hgenerate hother]

/-! ## The run over a file -/

theorem nodup_addComponentName {names : List String} (h : names.Nodup) (n : Node) :
    (n.addComponentName names).Nodup := by
  unfold Node.addComponentName
  split
  · exact h
  · next name hname =>
    split
    · next hnew =>
      simp only [Bool.and_eq_true, Bool.not_eq_true', List.contains_eq_mem, decide_eq_false_iff_not] at hnew
      rw [List.nodup_append]
      exact ⟨h, by simp, fun a ha b hb heq => hnew.1.2 (List.mem_singleton.1 hb ▸ heq ▸ ha)⟩
    · exact h

theorem nodup_readComponentNames (root : Node) : root.readComponentNames.value.Nodup := by
  unfold Node.readComponentNames
  have hfold : ∀ (nodes : List Node) (r : Reading (List String)), r.value.Nodup →
      (nodes.foldl (fun r n => (⟨r.acts ++ Act.reads (Node.componentNameNodes r.value n),
        n.addComponentName r.value⟩ : Reading (List String))) r).value.Nodup := by
    intro nodes
    induction nodes with
    | nil => exact fun r hr => hr
    | cons n rest ih => exact fun r hr => ih _ (nodup_addComponentName hr n)
  exact hfold _ _ List.nodup_nil

theorem nodup_componentsOf {names : Option (List LooseText)} {list : List LooseText}
    (hnames : ∀ given, names = some given → given.Nodup)
    (h : componentsOf parse s file settings names = .ok list) : list.Nodup := by
  unfold componentsOf at h
  split at h
  · next given =>
    injection h with h
    exact h ▸ hnames given rfl
  · split at h
    · injection h with h
      simp [← h]
    · split at h
      · cases h
      · next source hsource =>
        split at h
        · cases h
        · next found hfound =>
          injection h with h
          rw [← h, ← Reading.value_of_result hfound]
          exact (nodup_readComponentNames _).map LooseText.ofString_injective

/-- A run over a file: if its components can be told, each has its turn on what the one before has
left, up to a fault of another kind than inference, and no other file changes. A run that returns
reports each component once. -/
theorem generateFile_turns (parse : Parser) (s : Store) (file : String) (settings : Settings)
    (names : Option (List LooseText)) (hnames : ∀ given, names = some given → given.Nodup) :
    (∃ fault, componentsOf parse s file settings names = .error fault ∧
      generateFile parse s file settings names = (s, .error fault)) ∨
    ∃ list done rest s' outcome generated failures,
      componentsOf parse s file settings names = .ok list ∧ list.Nodup ∧ list = done ++ rest ∧
      generateFile parse s file settings names = (s', outcome) ∧
      (∀ other content, s.resolve (Path.ofString file) ≠ .ok other →
        (s'.get? other = some (.file content) ↔ s.get? other = some (.file content))) ∧
      Turns parse file settings (s.read (Path.ofString file)) done (s'.read (Path.ofString file))
        generated failures ∧
      ((rest = [] ∧ outcome = .ok { file, generated, failures } ∧
          (generated.map fun g => LooseText.ofString g.component).Sublist list ∧
          (failures.map Prod.fst).Sublist list ∧
          (generated.map (fun g => LooseText.ofString g.component) ++
            failures.map Prod.fst).Perm list) ∨
        ∃ name later fault, rest = name :: later ∧ outcome = .error fault ∧
          generate parse s' file (naming settings name) = (s', .error fault) ∧
          ∀ failure, fault ≠ .reported (.inference failure)) := by
  rw [generateFile]
  cases hlist : componentsOf parse s file settings names with
  | error fault => exact .inl ⟨fault, rfl, rfl⟩
  | ok list =>
      have hnodup := nodup_componentsOf hnames hlist
      obtain ⟨done, rest, s', outcome, generated, failures, hsplit, hrun, hturns, htouches, hend⟩ :=
        generateAll_turns parse file settings list s { file } hnodup
      refine .inr ⟨list, done, rest, s', outcome, generated, failures, rfl, hnodup, hsplit, hrun,
        htouches.others, hturns, hend.imp_left ?_⟩
      rintro ⟨rfl, houtcome⟩
      rw [List.append_nil] at hsplit
      subst hsplit
      exact ⟨rfl, by simpa using houtcome, hturns.reported⟩

/-! ## Two components of a file -/

/-- A file that is taken for the program which declares `F` and no `G`, whatever its text. -/
def declarationSource (text : String) : SourceFile :=
  ⟨"f.js", text, "javascript"⟩

def parseDeclarationFirst : Parser := fun _ _ => Analysis.declarationFirst

theorem ofContent_declarationSource {text : String} (hne : Text.Utf8.encode text ≠ []) :
    SourceFile.ofContent (Path.ofString "f.js") (languageOf? (Path.ofString "f.js"))
      (.ok (Text.Utf8.encode text)) =
      .ok (declarationSource (String.ofList (Text.unifyLineEnds text.toList))) := by
  have hlanguage : languageOf? (Path.ofString "f.js") = some "javascript" := by decide +kernel
  rw [hlanguage, SourceFile.ofContent_of_decode (Text.Utf8.decode_encode text) hne]
  rfl

theorem apply_declarationFirst (statement : String) :
    Edit.apply (Text.Utf8.encode Analysis.declarationFirst.text) [⟨0, 20, statement⟩] =
      .ok (statement ++ "function F()\x7b\x7d") := by
  have hafter : Edit.between (Text.Utf8.encode Analysis.declarationFirst.text) 20
      (Text.Utf8.encode Analysis.declarationFirst.text).length =
      Text.Utf8.encode "function F()\x7b\x7d" := by
    decide +kernel
  have hbefore : Edit.between (Text.Utf8.encode Analysis.declarationFirst.text) 0 0 = [] := by
    decide +kernel
  have hsplice : Edit.splice (Text.Utf8.encode Analysis.declarationFirst.text) [⟨0, 20, statement⟩] =
      .ok (Text.Utf8.encode (statement ++ "function F()\x7b\x7d")) := by
    rw [Edit.splice, Edit.inOrder, List.mergeSort_singleton, Edit.spliceFrom, if_neg (by simp),
      Edit.spliceFrom]
    dsimp only
    rw [hbefore, hafter, List.nil_append]
    simp [Text.Utf8.encode]
  rw [Edit.apply, hsplice]
  dsimp only
  rw [Text.Utf8.decode_encode]

theorem located_declared (text : String) :
    ∃ a, (Analysis.readLoose ((declarationSource text).document parseDeclarationFirst) "F"
        (some (Settings.labelText {}))).result = .ok (.ok a) ∧
      a.propTypes.map Node.declarationSpan = some ⟨0, 20⟩ := by
  have hspan : ((Analysis.of ((declarationSource "").document parseDeclarationFirst) "F"
      (some (Settings.labelText {}))).toOption.bind fun a => a.propTypes.map Node.declarationSpan) =
        some ⟨0, 20⟩ := by
    decide +kernel
  have htexts : (Analysis.acts ⟨Analysis.declarationFirst, []⟩ "F"
      (some (Settings.labelText {}))).findSome? Act.flaw? = none := by
    cbv
  obtain ⟨a, ha, hspan⟩ := Option.bind_eq_some_iff.1 hspan
  refine ⟨a, Reading.result_eq_ok_iff.2 ⟨?_, toOption_eq_some ha⟩, hspan⟩
  exact List.findSome?_eq_none_iff.1 htexts

theorem rewrite_declared :
    ∃ text generated, Text.Utf8.encode text ≠ [] ∧
      rewrite parseDeclarationFirst "f.js" (naming { autoImport := false } "F")
        (.ok (Text.Utf8.encode Analysis.declarationFirst.text)) =
          .ok (Text.Utf8.encode text, generated) ∧
      generated.component = "F" := by
  obtain ⟨a, ha, hspan⟩ := located_declared Analysis.declarationFirst.text
  have hplan : ∃ statement, a.plan ((declarationSource Analysis.declarationFirst.text).document
      parseDeclarationFirst).node (naming { autoImport := false } "F")
        (Text.Utf8.encode Analysis.declarationFirst.text) = [⟨0, 20, statement⟩] := by
    rw [Analysis.plan, Analysis.typesEdit_of_span hspan]
    exact ⟨_, rfl⟩
  obtain ⟨statement, hplan⟩ := hplan
  have hread : (a.readPlan ((declarationSource Analysis.declarationFirst.text).document
      parseDeclarationFirst).node (naming { autoImport := false } "F")
        (Text.Utf8.encode Analysis.declarationFirst.text)).result = .ok [⟨0, 20, statement⟩] := by
    rw [Analysis.readPlan, hplan]
    rfl
  have hends : String.ofList (Text.unifyLineEnds Analysis.declarationFirst.text.toList) =
      Analysis.declarationFirst.text := by
    decide +kernel
  have hsource := ofContent_declarationSource
    (by decide : Text.Utf8.encode Analysis.declarationFirst.text ≠ [])
  rw [hends] at hsource
  refine ⟨_, _, ?_, rewrite_of_plan (by decide) hsource ha hread rfl (apply_declarationFirst statement),
    (LooseText.ofString_injective (Analysis.of_readLoose ha).1).symm⟩
  simp [Text.Utf8.encode, String.utf8EncodeChar]

theorem rewrite_missing {text : String} (hne : Text.Utf8.encode text ≠ []) :
    rewrite parseDeclarationFirst "f.js" (naming { autoImport := false } "G")
      (.ok (Text.Utf8.encode text)) = .error (.reported (.inference (.notFound "G" "f.js"))) := by
  have hname : LooseText.ofString "G" ≠ [] := by decide
  have hmissing : ∀ text, (Analysis.readLoose ((declarationSource text).document parseDeclarationFirst)
      "G" (some (naming { autoImport := false } "G").labelText)).result =
        .ok (.error (.notFound "G" "f.js")) := by
    intro text
    cbv
  rw [rewrite, component?_naming, if_neg hname]
  dsimp only
  rw [ofContent_declarationSource hne]
  dsimp only
  rw [hmissing]

/-- Two files, of which the first declares `F` and no `G`. -/
def twoFiles : Store :=
  .directory [("f.js", .file (Text.Utf8.encode Analysis.declarationFirst.text)),
    ("g.js", .file [0x67])]

def twoFilesWith (content : List UInt8) : Store :=
  .directory [("f.js", .file content), ("g.js", .file [0x67])]

/-- There `F` is rewritten, `G` fails and the second file stays as it was. -/
theorem generateFile_twoFiles :
    [LooseText.ofString "F", LooseText.ofString "G"].Nodup ∧ ∃ s' report,
      generateFile (fun _ _ => Analysis.declarationFirst) twoFiles "f.js" { autoImport := false }
        (some ["F", "G"]) = (s', .ok report) ∧
      report.generated.map (·.component) = ["F"] ∧
      report.failures.map Prod.fst = [LooseText.ofString "G"] ∧
      s'.get? ["g.js"] = some (.file [0x67]) := by
  have hnodup : [LooseText.ofString "F", LooseText.ofString "G"].Nodup := by decide
  obtain ⟨text, generated, hne, hdeclared, hcomponent⟩ := rewrite_declared
  have hreadF : twoFiles.read (Path.ofString "f.js") =
      .ok (Text.Utf8.encode Analysis.declarationFirst.text) := rfl
  have hwrite : twoFiles.write (Path.ofString "f.js") (Text.Utf8.encode text) =
      .ok (twoFilesWith (Text.Utf8.encode text)) := rfl
  have hreadG : (twoFilesWith (Text.Utf8.encode text)).read (Path.ofString "f.js") =
      .ok (Text.Utf8.encode text) := rfl
  have hfirst : generate parseDeclarationFirst twoFiles "f.js" (naming { autoImport := false } "F") =
      (twoFilesWith (Text.Utf8.encode text), .ok generated) := by
    rw [generate_eq_rewrite, hreadF, hdeclared]
    dsimp only
    rw [hwrite]
  have hsecond : generate parseDeclarationFirst (twoFilesWith (Text.Utf8.encode text)) "f.js"
      (naming { autoImport := false } "G") = (twoFilesWith (Text.Utf8.encode text),
        .error (.reported (.inference (.notFound "G" "f.js")))) := by
    rw [generate_eq_rewrite, hreadG, rewrite_missing hne]
  have hrun : ∃ report, generateFile parseDeclarationFirst twoFiles "f.js" { autoImport := false }
      (some ["F", "G"]) = (twoFilesWith (Text.Utf8.encode text), .ok report) ∧
        report.generated = [generated] ∧ report.failures.map Prod.fst = [LooseText.ofString "G"] := by
    rw [generateFile, componentsOf]
    dsimp only
    rw [generateAll_of_ok hfirst, generateAll_of_inference hsecond]
    exact ⟨_, rfl, rfl, rfl⟩
  obtain ⟨report, hrun, hgenerated, hfailures⟩ := hrun
  have hplace : twoFiles.resolve (Path.ofString "f.js") = .ok ["f.js"] := rfl
  refine ⟨hnodup, twoFilesWith (Text.Utf8.encode text), report, hrun, ?_, hfailures, ?_⟩
  · rw [hgenerated, List.map_singleton, hcomponent]
  · rcases generateFile_turns parseDeclarationFirst twoFiles "f.js"
        { autoImport := false } (some ["F", "G"])
        (fun given hgiven => by cases hgiven; exact hnodup) with
      ⟨fault, -, hfailed⟩ | ⟨_, _, _, s', outcome, _, _, -, -, -, hdone, hothers, -⟩
    · cases (Prod.mk.inj (hrun.symm.trans hfailed)).2
    · rw [(Prod.mk.inj (hrun.symm.trans hdone)).1]
      exact (hothers ["g.js"] [0x67] (by rw [hplace]; simp)).2 rfl

end Batch

end PropTyper
