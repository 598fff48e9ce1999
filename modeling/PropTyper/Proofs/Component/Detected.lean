import Mathlib.Data.List.Basic
import PropTyper.Component.Analysis
import PropTyper.Proofs.Evidence.Usage
import PropTyper.Reading.Component

/-! # Detected components

A file's components are detected definition by definition: a name is added as soon as one definition
of it looks like a component. A component is looked up by its name alone, and the first definition
counts. So a name that was detected is always found, but what is found looks like a component only if
no other definition of the name comes before the one that was detected.
-/

namespace PropTyper

theorem Text.occursIn_iff {part text : List Char} : occursIn part text = true ↔ part <:+: text := by
  induction text with
  | nil => simp [occursIn, List.isEmpty_iff]
  | cons c rest ih =>
    rw [occursIn, Bool.or_eq_true, ih, List.isPrefixOf_iff_prefix, List.infix_cons_iff]

namespace Node

/-! ## Definitions of a name -/

def definitions (root : Node) (name : String) : List Node :=
  root.preorder.filter fun n => n.declaredName? = some name

theorem isCandidate_of_declaredName? {n : Node} {name : String} (h : n.declaredName? = some name) :
    isCandidate n.kind = true := by
  unfold declaredName? at h
  split at h
  · cases h
  · split at h <;> simp_all [isCandidate, Kind.isClass, Kind.isFunction, Kind.isFunctionValue]

theorem mem_definitions_iff {root n : Node} {name : String} :
    n ∈ root.definitions name ↔ n ∈ root.select isCandidate ∧ n.declaredName? = some name := by
  rw [definitions, List.mem_filter, mem_select_iff, decide_eq_true_iff]
  constructor
  · exact fun h => ⟨⟨h.1, isCandidate_of_declaredName? h.2⟩, h.2⟩
  · exact fun h => ⟨h.1.1, h.2⟩

/-- A component is looked up as the first definition of its name. -/
theorem component?_eq_head? (root : Node) (name : String) :
    root.component? name = (root.definitions name).head? := by
  rw [component?, select_eq_filter, List.find?_filter, definitions, List.head?_filter]
  congr 1
  funext n
  by_cases h : n.declaredName? = some name
  · simp [h, isCandidate_of_declaredName? h]
  · simp [h]

/-! ## What looks like a component -/

/-- A class derived from something that is called a component, or a function with markup anywhere
below it. -/
inductive IsComponentLike (n : Node) : Prop
  | derived {heritage : Tree} (isClass : n.kind.isClass = true)
      (first : n.tree.children.find? (fun c => c.kind = .classHeritage) = some heritage)
      (mention : "Component".toList <:+: heritage.text.toList)
  | rendering {m : Node} (isFunction : n.kind.isFunction = true) (below : m ∈ n.preorder)
      (isJsx : m.kind.isJsx = true)

theorem extendsComponent_iff {n : Node} :
    n.extendsComponent = true ↔
      ∃ heritage, n.tree.children.find? (fun c => c.kind = .classHeritage) = some heritage ∧
        "Component".toList <:+: heritage.text.toList := by
  unfold extendsComponent
  cases n.tree.children.find? (fun c => c.kind = .classHeritage) with
  | none => simp
  | some heritage => simp [Text.occursIn_iff]

theorem containsJsx_iff {n : Node} :
    n.containsJsx = true ↔ ∃ m ∈ n.preorder, m.kind.isJsx = true := by
  rw [containsJsx, Bool.not_eq_true', List.isEmpty_eq_false_iff_exists_mem]
  simp only [mem_select_iff]

theorem isFunction_eq_false {kind : Kind} (h : kind.isClass = true) : kind.isFunction = false := by
  cases kind <;> first | rfl | cases h

theorem looksLikeComponent_iff {n : Node} (h : isCandidate n.kind = true) :
    n.looksLikeComponent = true ↔ n.IsComponentLike := by
  unfold looksLikeComponent
  split
  · next hclass =>
    rw [extendsComponent_iff]
    constructor
    · rintro ⟨heritage, hfirst, hmention⟩
      exact .derived hclass hfirst hmention
    · rintro (⟨_, hfirst, hmention⟩ | ⟨hfunction, _, _⟩)
      · exact ⟨_, hfirst, hmention⟩
      · simp [isFunction_eq_false hclass] at hfunction
  · next hclass =>
    rw [containsJsx_iff]
    constructor
    · rintro ⟨m, hm, hjsx⟩
      exact .rendering (by simpa [isCandidate, hclass] using h) hm hjsx
    · rintro (⟨hclass', _, _⟩ | ⟨_, hm, hjsx⟩)
      · exact absurd hclass' hclass
      · exact ⟨_, hm, hjsx⟩

theorem mem_addComponentName_iff {names : List String} {n : Node} {name : String} :
    name ∈ n.addComponentName names ↔
      name ∈ names ∨
        (n.declaredName? = some name ∧ startsUpper name = true ∧ n.looksLikeComponent = true) := by
  unfold addComponentName
  cases hname : n.declaredName? with
  | none => simp
  | some own =>
    simp only [Bool.and_eq_true, Bool.not_eq_true', List.contains_eq_mem, decide_eq_false_iff_not,
      Option.some.injEq]
    split
    · next h =>
      rw [List.mem_append, List.mem_singleton]
      constructor
      · rintro (hold | rfl)
        · exact .inl hold
        · exact .inr ⟨rfl, h.1.1, h.2⟩
      · exact Or.imp_right fun hnew => hnew.1.symm
    · next h =>
      -- Not added: the name is known already, or something is amiss with the definition.
      constructor
      · exact .inl
      · rintro (hold | ⟨rfl, hupper, hlooks⟩)
        · exact hold
        · by_contra hnew
          exact h ⟨⟨hupper, hnew⟩, hlooks⟩

theorem mem_foldl_addComponentName_iff {names : List String} {nodes : List Node} {name : String} :
    name ∈ nodes.foldl addComponentName names ↔
      name ∈ names ∨ ∃ n ∈ nodes,
        n.declaredName? = some name ∧ startsUpper name = true ∧ n.looksLikeComponent = true := by
  induction nodes generalizing names with
  | nil => simp
  | cons n rest ih =>
    rw [List.foldl_cons, ih, mem_addComponentName_iff, List.exists_mem_cons_iff, or_assoc]

/-- The names of a file are those in upper case of which some definition looks like a component. -/
theorem mem_componentNames_iff {root : Node} {name : String} :
    name ∈ root.componentNames ↔
      startsUpper name = true ∧ ∃ n ∈ root.definitions name, n.looksLikeComponent = true := by
  rw [componentNames, mem_foldl_addComponentName_iff]
  simp only [List.not_mem_nil, false_or, mem_definitions_iff]
  constructor
  · rintro ⟨n, hn, hname, hupper, hlooks⟩
    exact ⟨hupper, n, ⟨hn, hname⟩, hlooks⟩
  · rintro ⟨hupper, n, ⟨hn, hname⟩, hlooks⟩
    exact ⟨n, hn, hname, hupper, hlooks⟩

/-! ## What is read -/

def readName (r : Reading (List String)) (n : Node) : Reading (List String) :=
  ⟨r.acts ++ Act.reads (componentNameNodes r.value n), addComponentName r.value n⟩

theorem readComponentNames_eq_foldl (root : Node) :
    root.readComponentNames = (root.select isCandidate).foldl readName (.known []) := rfl

theorem value_readComponentNames (root : Node) :
    root.readComponentNames.value = root.componentNames := by
  rw [readComponentNames_eq_foldl, componentNames]
  exact (List.foldl_hom Reading.value (fun _ _ => rfl)).symm

/-- Whatever is read early stays read, and the name of every definition is read in its turn. -/
theorem mem_acts_foldl_readName {nodes : List Node} {r : Reading (List String)} {act : Act}
    (h : act ∈ r.acts ∨ ∃ n ∈ nodes, act ∈ Act.reads n.nameNodes) :
    act ∈ (nodes.foldl readName r).acts := by
  induction nodes generalizing r with
  | nil => simpa using h
  | cons n rest ih =>
    apply ih
    rw [List.exists_mem_cons_iff] at h
    rcases h with hold | hname | hrest
    · exact .inl (List.mem_append_left _ hold)
    · left
      rw [readName, Act.reads, componentNameNodes, List.map_append]
      exact List.mem_append_right _ (List.mem_append_left _ hname)
    · exact .inr hrest

theorem mem_of_mem_upTo {found : Node → Bool} {nodes : List Node} {n : Node}
    (h : n ∈ upTo found nodes) : n ∈ nodes := by
  induction nodes with
  | nil => cases h
  | cons m rest ih =>
    rw [upTo] at h
    split at h
    · exact List.mem_cons.2 (.inl (List.mem_singleton.1 h))
    · exact List.mem_cons.2 ((List.mem_cons.1 h).imp_right ih)

/-- Where all names of a file can be read, a component can be looked up: that reads no more. -/
theorem result_readComponent_of_names {root : Node} {names : List String}
    (h : root.readComponentNames.result = .ok names) (name : String) :
    (root.readComponent name).result = .ok (root.component? name) := by
  refine Reading.result_eq_ok_iff.2 ⟨?_, rfl⟩
  intro act hact
  rw [readComponent, List.mem_append] at hact
  rcases hact with hread | hnote
  · obtain ⟨t, ht, rfl⟩ := List.mem_map.1 hread
    obtain ⟨n, hn, htn⟩ := List.mem_flatMap.1 ht
    apply (Reading.result_eq_ok_iff.1 h).1
    rw [readComponentNames_eq_foldl]
    exact mem_acts_foldl_readName (.inr ⟨n, mem_of_mem_upTo hn, List.mem_map_of_mem htn⟩)
  · obtain ⟨n, _, rfl⟩ := List.mem_map.1 hnote
    rfl

end Node

namespace Tree

def plainFunction : Tree :=
  piece .functionDeclaration 0 14 "function F()\x7b\x7d" [] [
    piece .identifier 9 10 "F" [.name], piece .formalParameters 10 12 "()" [.parameters],
    piece .statementBlock 12 14 "\x7b\x7d" [.body]]

/-- `function F(){}function G(){const F=()=><i/>}` -/
def shadowed : Tree :=
  let arrow := piece .arrowFunction 35 43 "()=><i/>" [.value] [
    piece .formalParameters 35 37 "()" [.parameters],
    piece .jsxSelfClosingElement 39 43 "<i/>" [.body]]
  let inner := piece (.other "lexical_declaration") 27 43 "const F=()=><i/>" [] [
    piece .variableDeclarator 33 43 "F=()=><i/>" [] [piece .identifier 33 34 "F" [.name], arrow]]
  piece .program 0 44 "" [] [
    plainFunction,
    piece .functionDeclaration 14 44 "" [] [
      piece .identifier 23 24 "G" [.name], piece .formalParameters 24 26 "()" [.parameters],
      piece .statementBlock 26 44 "" [.body] [inner]]]

end Tree

namespace Node

/-! ## Detection and lookup -/

/-- A name that was detected has a definition that looks like a component; `early` are the
definitions of the name before the first such one. The name is looked up and analysed as the first
of them all, which looks like a component exactly if nothing is early. -/
theorem readComponent_of_detected {root : Node} {names : List String} {name : String}
    (hnames : root.readComponentNames.result = .ok names) (hname : name ∈ names) :
    ∃ early detected late, root.definitions name = early ++ detected :: late ∧
      detected.IsComponentLike ∧ (∀ d ∈ early, ¬ d.IsComponentLike) ∧
      ∃ found, (root.readComponent name).result = .ok (some found) ∧
        (root.definitions name).head? = some found ∧
        (found.IsComponentLike ↔ early = []) ∧
        ∀ label, (Analysis.locate? root name label).map (·.component) = some found := by
  have hlike : ∀ n ∈ root.definitions name, n.looksLikeComponent = true ↔ n.IsComponentLike :=
    fun n hn => looksLikeComponent_iff (isCandidate_of_declaredName? (mem_definitions_iff.1 hn).2)
  have hmem : name ∈ root.componentNames := by
    rwa [← value_readComponentNames, (Reading.result_eq_ok_iff.1 hnames).2]
  obtain ⟨-, n, hn, hlooks⟩ := mem_componentNames_iff.1 hmem
  obtain ⟨detected, hdetected⟩ :=
    Option.isSome_iff_exists.1 (List.find?_isSome.2 ⟨n, hn, hlooks⟩)
  obtain ⟨hdetects, early, late, hsplit, hearly⟩ := List.find?_eq_some_iff_append.1 hdetected
  have hnot : ∀ d ∈ early, ¬ d.IsComponentLike := by
    intro d hd hd'
    have hdef : d ∈ root.definitions name := by simp [hsplit, hd]
    simpa [(hlike d hdef).2 hd'] using hearly d hd
  have hdetectedLike : detected.IsComponentLike :=
    (hlike detected (by simp [hsplit])).1 hdetects
  obtain ⟨found, hfound⟩ : ∃ found, (root.definitions name).head? = some found := by
    rw [hsplit]
    cases early <;> simp
  refine ⟨early, detected, late, hsplit, hdetectedLike, hnot, found, ?_, hfound, ?_, ?_⟩
  · rw [result_readComponent_of_names hnames, component?_eq_head?, hfound]
  · rw [hsplit] at hfound
    cases early with
    | nil =>
      cases hfound
      simp [hdetectedLike]
    | cons d rest =>
      cases hfound
      simp [hnot]
  · intro label
    rw [Analysis.locate?, component?_eq_head?, hfound]
    rfl

theorem names_shadowed :
    (readComponentNames ⟨Tree.shadowed, []⟩).result = .ok ["G", "F"] := by
  cbv

theorem readComponent_of_detected_shadowed :
    (readComponentNames ⟨Tree.shadowed, []⟩).result = .ok ["G", "F"] ∧
      ∃ early detected late,
        definitions ⟨Tree.shadowed, []⟩ "F" = early ++ detected :: late ∧
        detected.IsComponentLike ∧ (∀ d ∈ early, ¬ d.IsComponentLike) ∧
        ∃ found, (readComponent ⟨Tree.shadowed, []⟩ "F").result = .ok (some found) ∧
          (definitions ⟨Tree.shadowed, []⟩ "F").head? = some found ∧
          (found.IsComponentLike ↔ early = []) ∧
          ∀ label, (Analysis.locate? ⟨Tree.shadowed, []⟩ "F" label).map (·.component) = some found :=
  ⟨names_shadowed, readComponent_of_detected names_shadowed (by simp)⟩

/-- The name is detected at the inner definition, and looked up as the outer one, which makes no
markup. -/
theorem not_isComponentLike_shadowed :
    ∃ names found, (readComponentNames ⟨Tree.shadowed, []⟩).result = .ok names ∧ "F" ∈ names ∧
      (readComponent ⟨Tree.shadowed, []⟩ "F").result = .ok (some found) ∧
      ¬ found.IsComponentLike := by
  let outer : Node := ⟨Tree.plainFunction, [⟨Tree.shadowed, 0⟩]⟩
  have hcandidate : isCandidate outer.kind = true := rfl
  have hlooks : outer.looksLikeComponent = false := by cbv
  refine ⟨["G", "F"], outer, names_shadowed, by simp, by cbv, ?_⟩
  rw [← looksLikeComponent_iff hcandidate, hlooks]
  exact Bool.false_ne_true

end Node

end PropTyper
