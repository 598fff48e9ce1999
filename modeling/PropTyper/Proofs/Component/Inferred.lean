import PropTyper.Proofs.Completion.Frame
import PropTyper.Proofs.Property.Combine
import PropTyper.Reading.Analysis

/-! # Inferred properties

Whatever the three sources say, the final list has each name that one of them has, once and in
ascending order, and nothing in it holds members that its kind cannot carry. It is empty only if the
sources are.
-/

namespace PropTyper

namespace Inference

open Property

/-- The list has exactly the names that the three sources have, in ascending order, and its
properties are tidy at every depth. -/
structure Settles (declared used defaults properties : List Property) : Prop where
  names_ascend : (properties.map (·.name)).Pairwise (· < ·)
  names_iff : ∀ name, name ∈ properties.map (·.name) ↔
    name ∈ declared.map (·.name) ∨ name ∈ used.map (·.name) ∨ name ∈ defaults.map (·.name)
  tidy : ∀ p ∈ properties, p.Everywhere Tidy

theorem Settles.eq_nil_iff {declared used defaults properties : List Property}
    (h : Settles declared used defaults properties) :
    properties = [] ↔ declared = [] ∧ used = [] ∧ defaults = [] := by
  have hmap : ∀ l : List Property, l = [] ↔ ∀ name, name ∉ l.map (·.name) := by
    intro l
    rw [← List.map_eq_nil_iff, List.eq_nil_iff_forall_not_mem]
  rw [hmap, hmap declared, hmap used, hmap defaults]
  simp only [h.names_iff, not_or, forall_and]

theorem settles_properties (component : Node) (propTypes defaultProps : Option Node) :
    Settles (ofDeclaration (Node.declaredTree? propTypes)) (ofUsage component)
      (ofDefaults (Node.declaredTree? defaultProps))
      (Inference.of component propTypes defaultProps).properties := by
  generalize hi : Inference.of component propTypes defaultProps = i
  have hmerged : i.merged = combine (ofDeclaration (Node.declaredTree? propTypes))
      (ofUsage component) (ofDefaults (Node.declaredTree? defaultProps)) := by rw [← hi]; rfl
  have hproperties : i.properties =
      finalize (Completion.complete component i.merged (i.declared.map (·.name))).properties := by
    rw [← hi]
    rfl
  have hnames := Completion.map_name_complete component i.merged (i.declared.map (·.name))
  rw [hproperties]
  refine ⟨pairwise_lt_finalize ?_, ?_, ?_⟩
  · rw [hnames, hmerged]
    exact nodup_names_combine _ _ _
  · intro name
    rw [(names_finalize_perm _).mem_iff, hnames, hmerged, mem_names_combine]
  · intro p hp
    obtain ⟨q, -, rfl⟩ := mem_finalize.1 hp
    exact everywhere_tidy_normalize q

/-- All that is read for an inference can be read exactly if each source can, and what completes
them. -/
theorem read_result_iff (component : Node) (propTypes defaultProps : Option Node) (j : Inference) :
    let i := Inference.of component propTypes defaultProps
    (Inference.read component propTypes defaultProps).result = .ok j ↔
      j = i ∧ (readUsage component).result = .ok i.used ∧
        (readDefaults (Node.declaredTree? defaultProps)).result = .ok i.defaults ∧
        (readDeclaration (Node.declaredTree? propTypes)).result = .ok i.declared ∧
        (Completion.read component i.merged (i.declared.map (·.name))).result =
          .ok i.completion := by
  intro i
  have hdone : ∀ act ∈ if i.properties.isEmpty then []
      else [Act.note (.propertiesInferred i.declared.length i.used.length i.defaults.length
        i.properties.length)], act.flaw? = none := by
    intro act hact
    split at hact
    · cases hact
    · rw [List.mem_singleton.1 hact]
      rfl
  have hused : (readUsage component).value = i.used := rfl
  have hdefaults : (readDefaults (Node.declaredTree? defaultProps)).value = i.defaults := rfl
  have hdeclared : (readDeclaration (Node.declaredTree? propTypes)).value = i.declared := rfl
  have hcompletion : (Completion.read component i.merged (i.declared.map (·.name))).value =
      i.completion := rfl
  simp only [Reading.result_eq_ok_iff, hused, hdefaults, hdeclared, hcompletion, and_true]
  rw [and_comm, eq_comm]
  refine and_congr_right fun _ => ?_
  simp only [Inference.read, List.forall_mem_append]
  exact ⟨fun ⟨⟨⟨⟨h₁, h₂⟩, h₃⟩, h₄⟩, _⟩ => ⟨h₁, h₂, h₃, h₄⟩,
    fun ⟨h₁, h₂, h₃, h₄⟩ => ⟨⟨⟨⟨h₁, h₂⟩, h₃⟩, h₄⟩, hdone⟩⟩

/-- Either declaration, uses and default values say nothing, which is the failure, or there is a
result with exactly their names. The inference is read if and only if its sources, and what
completes them, can be read. -/
theorem result_cases (component : Node) (propTypes defaultProps : Option Node) (file : String) :
    let declared := ofDeclaration (Node.declaredTree? propTypes)
    let used := ofUsage component
    let defaults := ofDefaults (Node.declaredTree? defaultProps)
    let i := Inference.of component propTypes defaultProps
    ((declared = [] ∧ used = [] ∧ defaults = [] ∧
          i.result file = .error (.noProperties file none)) ∨
        ((declared ≠ [] ∨ used ≠ [] ∨ defaults ≠ []) ∧
          ∃ properties, i.result file = .ok properties ∧
            Settles declared used defaults properties)) ∧
      ∀ j, (Inference.read component propTypes defaultProps).result = .ok j ↔
        j = i ∧ (readUsage component).result = .ok used ∧
          (readDefaults (Node.declaredTree? defaultProps)).result = .ok defaults ∧
          (readDeclaration (Node.declaredTree? propTypes)).result = .ok declared ∧
          (Completion.read component (combine declared used defaults)
            (declared.map (·.name))).result = .ok i.completion := by
  intro declared used defaults i
  have hsettles : Settles declared used defaults i.properties :=
    settles_properties component propTypes defaultProps
  refine ⟨?_, read_result_iff component propTypes defaultProps⟩
  by_cases hsilent : declared = [] ∧ used = [] ∧ defaults = []
  · have hnil := hsettles.eq_nil_iff.2 hsilent
    obtain ⟨hdeclared, hused, hdefaults⟩ := hsilent
    exact .inl ⟨hdeclared, hused, hdefaults, by simp [result, hnil]⟩
  · have hne : i.properties ≠ [] := mt hsettles.eq_nil_iff.1 hsilent
    have hsome : declared ≠ [] ∨ used ≠ [] ∨ defaults ≠ [] := by
      simpa only [Ne, ← Decidable.not_and_iff_not_or_not] using hsilent
    exact .inr ⟨hsome, i.properties, by simp [result, hne], hsettles⟩

end Inference

theorem Analysis.locate?_of_eq_ok {d : Document} {name : String} {label : Option String}
    {a : Analysis} (h : Analysis.of d name label = .ok a) :
    Analysis.locate? d.node name label = some a := by
  unfold Analysis.of at h
  split at h
  · cases h
  · next located hlocated =>
    split at h
    · cases h
    · cases h
      exact hlocated

end PropTyper
