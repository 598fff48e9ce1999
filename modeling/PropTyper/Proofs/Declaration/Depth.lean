import Mathlib.Data.List.Permutation
import PropTyper.Proofs.Declaration.ReadBack

/-! # The limit on nested validators

A declaration is followed through `maxDepth` levels of validators. Each entry of an object, each
element of a list, each single argument and each mark leads one level down, although a mark nests no
property. So what is read has at most one level of members more than that, and where no validator
lies deeper the limit makes no difference.
-/

namespace PropTyper

namespace Tree

/-- A validator stands directly inside another one. -/
inductive Encloses (t : Tree) : Tree → Prop
  | entry {kind : PropKind} {argument inner : Tree} {name : String} (hcall : t.Calls kind argument)
      (hobject : argument.kind = .object) (hentry : (name, inner) ∈ argument.entries) :
      Encloses t inner
  | element {kind : PropKind} {argument inner : Tree} (hcall : t.Calls kind argument)
      (harray : argument.kind = .array) (hkind : kind ≠ .oneOf)
      (helement : inner ∈ argument.namedChildren) : Encloses t inner
  | argument {kind : PropKind} {argument : Tree} (hcall : t.Calls kind argument)
      (hobject : argument.kind ≠ .object) (harray : argument.kind ≠ .array)
      (hkind : kind ≠ .instanceOf) : Encloses t argument
  | marked {inner : Tree} (hkind : t.kind = .memberExpression) (hmark : t.isRequiredMark = true)
      (hobject : t.child? .object = some inner) : Encloses t inner

theorem encloses_of_mem_subvalidators {name : String} {t : Tree} {s : String × Tree}
    (h : s ∈ t.subvalidators name) : t.Encloses s.2 := by
  unfold subvalidators at h
  split at h
  · next hcall =>
    split at h
    · next kind argument hcalled hargument =>
      have hcalls : t.Calls kind argument := ⟨hcall, hcalled, hargument⟩
      split at h
      · next hobject => exact .entry hcalls hobject h
      · next harray =>
        split at h
        · cases h
        · next hkind =>
          obtain ⟨e, he, rfl⟩ := List.mem_map.1 h
          exact .element hcalls harray hkind he
      · next hobject harray =>
        split at h
        · cases h
        · next hkind =>
          obtain rfl := List.mem_singleton.1 h
          exact .argument hcalls hobject harray hkind
    · cases h
  · next hmember =>
    split at h
    · next hmark =>
      obtain ⟨o, ho, rfl⟩ := List.mem_map.1 h
      exact .marked hmember hmark (Option.mem_toList.1 ho)
    · cases h
  · cases h

end Tree

namespace Property

/-- A chain of `n` validators, each directly inside the one before, leads from an entry of a
declaration to `t`. -/
inductive Nests (object : Option Tree) : Nat → Tree → Prop
  | entry {name : String} {t : Tree} (h : (name, t) ∈ declaredEntries object) : Nests object 1 t
  | inside {n : Nat} {t inner : Tree} (ht : Nests object n t) (h : t.Encloses inner) :
      Nests object (n + 1) inner

/-! ## Levels of what is read -/

theorem children_of_ofParts? {name : String} {t : Tree} {parts : List Property} {p : Property}
    (h : ofParts? name t parts = some p) :
    p.children = [] ∨ p.children = parts ∨ ∃ q ∈ parts, p.children = q.children := by
  unfold ofParts? at h
  split at h
  · split at h
    · cases h
    · split at h
      · cases h
        exact .inl rfl
      · split at h
        · cases h
          exact .inr (.inl rfl)
        · split at h
          · cases h
            exact .inl rfl
          · cases h
            exact .inr (.inl rfl)
        · split at h
          · cases h
            exact .inl rfl
          · cases h
            exact .inr (.inl rfl)
  · split at h
    · obtain ⟨q, hq, rfl⟩ := Option.map_eq_some_iff.1 h
      exact .inr (.inr ⟨q, List.mem_of_head? hq, rfl⟩)
    · cases h
      exact .inl rfl
  · obtain ⟨kind, -, rfl⟩ := Option.map_eq_some_iff.1 h
    exact .inl rfl
  · cases h
    exact .inl rfl
  · cases h
    exact .inl rfl
  · cases h
    exact .inl rfl
  · cases h

theorem height_ofParts?_le {name : String} {t : Tree} {parts : List Property} {p : Property} {n : Nat}
    (hparts : ∀ q ∈ parts, q.height ≤ n) (h : ofParts? name t parts = some p) :
    p.height ≤ n + 1 := by
  rw [height_le_succ_iff]
  rcases children_of_ofParts? h with hnone | hall | ⟨q, hq, hsame⟩
  · simp [hnone]
  · rwa [hall]
  · have hnext : q.height ≤ n + 1 := Nat.le_succ_of_le (hparts q hq)
    rw [hsame]
    exact height_le_succ_iff.1 hnext

/-- Below a validator there are no more levels than the reader has left. -/
theorem height_ofValidator?_le {depth : Int} {name : String} {t : Tree} {p : Property} {n : Nat}
    (hleft : maxDepth < depth + n) (h : ofValidator? depth name t = some p) : p.height ≤ n + 1 := by
  induction n generalizing depth name t p with
  | zero =>
      have hdepth : maxDepth < depth := by omega
      rw [ofValidator?, if_pos hdepth] at h
      cases h
      simp [height]
  | succ n ih =>
      by_cases hdepth : maxDepth < depth
      · rw [ofValidator?, if_pos hdepth] at h
        cases h
        simp [height]
      · rw [ofValidator?_of_le hdepth] at h
        refine height_ofParts?_le ?_ h
        intro q hq
        obtain ⟨s, -, hs⟩ := List.mem_filterMap.1 hq
        exact ih (by omega) hs

/-! ## Reading without a limit -/

/-- The property `name` as the validator `t` states it, however deep it goes. -/
def ofWholeValidator? (name : String) (t : Tree) : Option Property :=
  ofParts? name t ((t.subvalidators name).attach.filterMap fun s => ofWholeValidator? s.1.1 s.1.2)
termination_by sizeOf t
decreasing_by exact Tree.sizeOf_subvalidator_lt s.2

def ofWholeDeclaration (object : Option Tree) : List Property :=
  (declaredEntries object).filterMap fun e => ofWholeValidator? e.1 e.2

/-- Where no validator lies below the limit, each is read whole. -/
theorem ofValidator?_eq_whole {object : Option Tree}
    (hlimit : ∀ n t, Nests object n t → n ≤ maxDepth) {n : Nat} {name : String} {t : Tree}
    (ht : Nests object n t) : ofValidator? n name t = ofWholeValidator? name t := by
  rw [ofValidator?, if_neg (Int.not_lt.2 (hlimit n t ht)), ofWholeValidator?]
  refine congrArg (ofParts? name t) (List.filterMap_congr ?_)
  rintro ⟨s, hs⟩ -
  exact ofValidator?_eq_whole hlimit (ht.inside (Tree.encloses_of_mem_subvalidators hs))
termination_by sizeOf t
decreasing_by exact Tree.sizeOf_subvalidator_lt hs

/-- The limit bounds what is read and distorts nothing: there is at most one level of properties more
than the reader follows validators, and if no chain of validators is longer than the limit, the
declaration is read as if there were none. -/
theorem ofDeclaration_limited (object : Option Tree) :
    (∀ p ∈ ofDeclaration object, p.height ≤ maxDepth + 1) ∧
      ((∀ n t, Nests object n t → n ≤ maxDepth) →
        ofDeclaration object = ofWholeDeclaration object) := by
  constructor
  · intro p hp
    obtain ⟨e, -, he⟩ := List.mem_filterMap.1 hp
    have hheight : p.height ≤ 32 + 1 := height_ofValidator?_le (by decide) he
    have hmax : maxDepth = 32 := rfl
    omega
  · intro hlimit
    refine List.filterMap_congr ?_
    intro e he
    exact ofValidator?_eq_whole hlimit (.entry he)

def requiredText : Tree :=
  .ofMember [.value] (.ofKind [.object] .string) Declaration.requiredMember

/-- The declaration of an `id` that must be there. -/
def declaredId : Tree :=
  .ofObject "" "  " [.ofPair (.ofKey '\x27' "id") requiredText]

/-- Its chain of two validators is short enough, so that it is read whole. -/
theorem ofDeclaration_declaredId :
    (∀ n t, Nests (some declaredId) n t → n ≤ maxDepth) ∧
      ofWholeDeclaration (some declaredId) = [{ name := "id", kind := .string, required := true }] := by
  have hentries : declaredEntries (some declaredId) = [("id", requiredText)] := by rfl
  have hchains : ∀ n t, Nests (some declaredId) n t →
      (n = 1 ∧ t = requiredText) ∨ (n = 2 ∧ t = .ofKind [.object] .string) := by
    intro n t h
    induction h with
    | entry h =>
        rw [hentries, List.mem_singleton] at h
        cases h
        exact .inl ⟨rfl, rfl⟩
    | inside ht h ih =>
        rcases ih with ⟨rfl, rfl⟩ | ⟨rfl, rfl⟩
        · cases h with
          | entry hcall => cases hcall.kind_eq
          | element hcall => cases hcall.kind_eq
          | argument hcall => cases hcall.kind_eq
          | marked hkind hmark hobject =>
              cases hobject
              exact .inr ⟨rfl, rfl⟩
        · cases h with
          | entry hcall => cases hcall.kind_eq
          | element hcall => cases hcall.kind_eq
          | argument hcall => cases hcall.kind_eq
          | marked hkind hmark => cases hmark
  have hlimit : ∀ n t, Nests (some declaredId) n t → n ≤ maxDepth := by
    intro n t h
    rcases hchains n t h with ⟨rfl, -⟩ | ⟨rfl, -⟩
    · decide
    · decide
  refine ⟨hlimit, ?_⟩
  rw [← (ofDeclaration_limited (some declaredId)).2 hlimit]
  cbv

end Property

end PropTyper
