import Mathlib.Data.List.Nodup
import PropTyper.Proofs.Completion.Budget

/-! # The work on a list comes to an end

`Turn` is one turn of the work without any budget. Each turn passes over an entry whose name is
looked up already, or looks up a name for the first time. The names that can come up are fixed when
the work starts, whatever is taken out of them and bound anew on the way, so only finitely many turns
are lookups; and between two lookups the entries only become fewer.
-/

namespace PropTyper.Completion

open Property

variable {component : Node} {names : List String} {s s' e : State} {m n : Nat}

/-- One turn of the work, which no budget ends. -/
inductive Turn (component : Node) : State → State → Prop
  | passed {properties : List Property} {w : Waiting} {rest : List Waiting} {resolved : List Key}
      (known : keyOf component w.property ∈ resolved) :
      Turn component ⟨properties, w :: rest, resolved⟩ ⟨properties, rest, resolved⟩
  | lookedUp {properties : List Property} {w : Waiting} {rest : List Waiting} {resolved : List Key}
      (new : keyOf component w.property ∉ resolved) :
      Turn component ⟨properties, w :: rest, resolved⟩
        (Completion.resolve component ⟨properties, rest, resolved⟩ w)

inductive Turns (component : Node) : Nat → State → State → Prop
  | refl (s : State) : Turns component 0 s s
  | step {n : Nat} {s s₁ s' : State} (first : Turn component s s₁) (later : Turns component n s₁ s') :
      Turns component (n + 1) s s'

theorem Turn.unique {s₁ s₂ : State} (h₁ : Turn component s s₁) (h₂ : Turn component s s₂) :
    s₁ = s₂ := by
  cases h₁ with
  | passed known =>
      cases h₂ with
      | passed => rfl
      | lookedUp new => exact (new known).elim
  | lookedUp new =>
      cases h₂ with
      | passed known => exact (new known).elim
      | lookedUp => rfl

theorem not_turn_of_waiting_eq_nil (h : s.waiting = []) : ¬ Turn component s s' := by
  intro hturn
  cases hturn <;> cases h

theorem Turns.le_of_waiting_eq_nil (hend : Turns component n s e) (hnil : e.waiting = [])
    (h : Turns component m s s') : m ≤ n := by
  induction hend generalizing m with
  | refl s =>
      cases h with
      | refl => exact Nat.le_refl 0
      | step first _ => exact (not_turn_of_waiting_eq_nil hnil first).elim
  | step first _ ih =>
      cases h with
      | refl => exact Nat.zero_le _
      | step other later =>
          rw [other.unique first] at later
          exact Nat.succ_le_succ (ih hnil later)

theorem exists_turns_run (component : Node) (budget : Nat) (s : State) :
    ∃ n, Turns component n s (run component budget s) := by
  fun_induction run component budget s with
  | case1 => exact ⟨0, .refl _⟩
  | case2 budget properties w rest resolved hkey ih =>
    obtain ⟨n, hn⟩ := ih
    exact ⟨n + 1, .step (.passed (by simpa using hkey)) hn⟩
  | case3 => exact ⟨0, .refl _⟩
  | case4 properties w rest resolved hkey budget ih =>
    obtain ⟨n, hn⟩ := ih
    exact ⟨n + 1, .step (.lookedUp (by simpa using hkey)) hn⟩

/-! ## What turns keep -/

theorem Turn.bounded {r : Node} (hr : r.trail = []) (hcomponent : component ∈ r.preorder)
    (hnames : r.identifiers ⊆ names) (h : Turn component s s') (hs : Bounded component names s) :
    Bounded component names s' := by
  cases h with
  | passed => exact hs.dropFirst
  | lookedUp => exact hs.resolve hr hcomponent hnames

theorem Turns.bounded {r : Node} (hr : r.trail = []) (hcomponent : component ∈ r.preorder)
    (hnames : r.identifiers ⊆ names) (h : Turns component n s s') (hs : Bounded component names s) :
    Bounded component names s' := by
  induction h with
  | refl => exact hs
  | step first _ ih => exact ih (first.bounded hr hcomponent hnames hs)

theorem Turn.nodup_resolved (h : Turn component s s') (hs : s.resolved.Nodup) :
    s'.resolved.Nodup := by
  cases h with
  | passed => exact hs
  | @lookedUp properties w rest resolved new =>
      rw [(resolve_cases component ⟨properties, rest, resolved⟩ w).1]
      exact hs.append (List.nodup_singleton _) (List.disjoint_singleton.2 new)

theorem Turns.nodup_resolved (h : Turns component n s s') (hs : s.resolved.Nodup) :
    s'.resolved.Nodup := by
  induction h with
  | refl => exact hs
  | step first _ ih => exact ih (first.nodup_resolved hs)

/-! ## The end -/

/-- What a turn does with the next entry: it is passed over and nothing else changes, or its name is
added to those that are looked up, of which it was none. -/
theorem Turn.cases_next (h : Turn component s s') :
    ∃ w rest, s.waiting = w :: rest ∧
      ((keyOf component w.property ∈ s.resolved ∧ s' = { s with waiting := rest }) ∨
        (keyOf component w.property ∉ s.resolved ∧
          s'.resolved = s.resolved ++ [keyOf component w.property])) := by
  cases h with
  | @passed properties w rest resolved known => exact ⟨w, rest, rfl, .inl ⟨known, rfl⟩⟩
  | @lookedUp properties w rest resolved new =>
      exact ⟨w, rest, rfl, .inr ⟨new, (resolve_cases component ⟨properties, rest, resolved⟩ w).1⟩⟩

/-- A name that is bound in the list or is an identifier of the tree, together with a block of the
component or with none. -/
structure Occurs (t : Tree) (component : Node) (properties : List Property) (key : Key) : Prop where
  binding : (∃ p ∈ properties, ∃ q ∈ p.preorder, q.binding = some key.binding) ∨
    ∃ n ∈ (⟨t, []⟩ : Node).preorder,
      (n.kind = .identifier ∨ n.kind = .shorthandPropertyIdentifierPattern) ∧ n.text = key.binding
  block : key.block = none ∨ ∃ b ∈ blocks component, key.block = some b.span.toScope

theorem occurs_of_mem_possibleKeys {t : Tree} (hcomponent : component ∈ (⟨t, []⟩ : Node).preorder)
    {properties : List Property} {key : Key}
    (h : key ∈ possibleKeys component (bindings component properties)) :
    Occurs t component properties key := by
  obtain ⟨b, hb, hkey⟩ := List.mem_flatMap.1 h
  obtain ⟨block, hblock, rfl⟩ := List.mem_map.1 hkey
  refine ⟨?_, ?_⟩
  · rw [bindings_eq rfl hcomponent] at hb
    rcases List.mem_append.1 hb with hb | hb
    · obtain ⟨q, hq, hbound⟩ := List.mem_filterMap.1 hb
      obtain ⟨p, hp, hqp⟩ := List.mem_flatMap.1 hq
      exact .inl ⟨p, hp, q, hqp, hbound⟩
    · obtain ⟨n, hn, htext⟩ := List.mem_map.1 hb
      obtain ⟨hmem, hkind⟩ := Node.mem_select_iff.1 hn
      rw [Bool.or_eq_true] at hkind
      exact .inr ⟨n, hmem, hkind.imp of_decide_eq_true of_decide_eq_true, htext⟩
  · rcases List.mem_cons.1 hblock with hnone | hsome
    · exact .inl hnone
    · obtain ⟨b, hb, heq⟩ := List.mem_map.1 hsome
      exact .inr ⟨b, hb, heq.symm⟩

/-- The work on a list takes a number of turns and then nothing waits any more, and where it then
stands is where it ends under its budget. There is no longer run. In every state on the way the names
that wait or are looked up are those of the list and of the tree, each is looked up once, and a turn
passes over an entry or looks up a new name. -/
theorem turns_end {t : Tree} (hcomponent : component ∈ (⟨t, []⟩ : Node).preorder)
    (properties : List Property) (except : List String) :
    ∃ n, Turns component n ⟨properties, initialWaiting properties except, []⟩
        (final component properties except) ∧
      (final component properties except).waiting = [] ∧
      ∀ m s, Turns component m ⟨properties, initialWaiting properties except, []⟩ s →
        m ≤ n ∧ s.resolved.Nodup ∧ (∀ key ∈ s.resolved, Occurs t component properties key) ∧
        (∀ w ∈ s.waiting, Occurs t component properties (keyOf component w.property)) ∧
        ∀ s', Turn component s s' → ∃ w rest, s.waiting = w :: rest ∧
          ((keyOf component w.property ∈ s.resolved ∧ s' = { s with waiting := rest }) ∨
            (keyOf component w.property ∉ s.resolved ∧
              s'.resolved = s.resolved ++ [keyOf component w.property])) := by
  obtain ⟨n, hn⟩ := exists_turns_run component (budget component properties)
    ⟨properties, initialWaiting properties except, []⟩
  have hnil := final_waiting_eq_nil rfl hcomponent properties except
  refine ⟨n, hn, hnil, fun m s hs => ?_⟩
  have hbounded := hs.bounded rfl hcomponent (identifiers_subset_bindings rfl hcomponent properties)
    (bounded_initial component properties except)
  refine ⟨hn.le_of_waiting_eq_nil hnil hs, hs.nodup_resolved List.nodup_nil, ?_, ?_, ?_⟩
  · exact fun key hkey => occurs_of_mem_possibleKeys hcomponent (hbounded.possible hkey)
  · intro w hw
    obtain ⟨hopen, hbound⟩ := hbounded.bound w hw
    exact occurs_of_mem_possibleKeys hcomponent (keyOf_mem_possibleKeys hopen hbound)
  · exact fun s' hturn => hturn.cases_next

/-- The declaration `{ node } = node`, which binds the name that it reads. -/
def rebindingNode : Tree :=
  { kind := .variableDeclarator, span := ⟨0, 15⟩, text := "{ node } = node"
    children :=
      [{ kind := .objectPattern, span := ⟨0, 8⟩, text := "{ node }", fields := [.name]
         children := [{ kind := .shorthandPropertyIdentifierPattern, span := ⟨2, 6⟩, text := "node" }] },
        { kind := .identifier, span := ⟨11, 15⟩, text := "node", fields := [.value] }] }

def heldByNode : List Property :=
  [{ name := "node", binding := some "node" }, { name := "next", binding := some "node" }]

/-- The member that the declaration takes out is bound to the name that is looked up already, so the
work ends with that one lookup. -/
theorem turns_end_rebindingNode :
    ∃ n, Turns ⟨rebindingNode, []⟩ n ⟨heldByNode, initialWaiting heldByNode [], []⟩
        (final ⟨rebindingNode, []⟩ heldByNode []) ∧
      (final ⟨rebindingNode, []⟩ heldByNode []).waiting = [] ∧
      (final ⟨rebindingNode, []⟩ heldByNode []).resolved = [⟨"node", none⟩] ∧
      Occurs rebindingNode ⟨rebindingNode, []⟩ heldByNode ⟨"node", none⟩ := by
  have hresolved : (final ⟨rebindingNode, []⟩ heldByNode []).resolved = [⟨"node", none⟩] := by cbv
  obtain ⟨n, hn, hnil, hall⟩ := turns_end (t := rebindingNode) (Node.mem_preorder_self _) heldByNode []
  obtain ⟨-, -, hoccurs, -⟩ := hall n _ hn
  exact ⟨n, hn, hnil, hresolved, hoccurs _ (hresolved ▸ List.mem_cons_self)⟩

end PropTyper.Completion
