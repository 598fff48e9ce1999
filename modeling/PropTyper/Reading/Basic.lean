import PropTyper.Journal.Event
import PropTyper.Tree.Basic

/-! # Readings

A node whose bytes cut a character has no text, and what depends on it cannot be known. So whatever is
found out about a file comes as a reading: the result, and what was done for it in order. The first
node without a text that was read spoils the result, and nothing that comes after it is noted.
-/

namespace PropTyper

/-- One thing that is done for a result. -/
inductive Act where
  /-- The text of a node is read. -/
  | read (node : Tree)
  /-- An event goes into the journal. -/
  | note (event : Journal.Event)
deriving Repr, Inhabited

namespace Act

/-- What is wrong with the text that is read. -/
def flaw? : Act → Option Text.Utf8.Fault
  | read node => node.flaw
  | note _ => none

def event? : Act → Option Journal.Event
  | read _ => none
  | note event => some event

def reads (nodes : List Tree) : List Act :=
  nodes.map read

end Act

/-- A result with what was done for it. -/
structure Reading (α : Type) where
  acts : List Act
  value : α
deriving Repr, Inhabited

namespace Reading

/-- The value, or what is wrong with the first node that has no text. -/
def result {α : Type} (r : Reading α) : Except Text.Utf8.Fault α :=
  match r.acts.findSome? Act.flaw? with
  | some fault => .error fault
  | none => .ok r.value

theorem result_eq_ok_iff {α : Type} {r : Reading α} {value : α} :
    r.result = .ok value ↔ (∀ act ∈ r.acts, act.flaw? = none) ∧ r.value = value := by
  rw [result]
  cases h : r.acts.findSome? Act.flaw? with
  | none =>
    have hnone := List.findSome?_eq_none_iff.1 h
    simp only [Except.ok.injEq]
    exact (and_iff_right hnone).symm
  | some fault =>
    obtain ⟨act, hact, hfault⟩ := List.exists_of_findSome?_eq_some h
    simp only [reduceCtorEq, false_iff, not_and]
    intro hnone
    rw [hnone act hact] at hfault
    cases hfault

theorem value_of_result {α : Type} {r : Reading α} {value : α} (h : r.result = .ok value) :
    r.value = value :=
  (result_eq_ok_iff.1 h).2

/-- The events up to the first node that has no text. -/
def events {α : Type} (r : Reading α) : List Journal.Event :=
  (r.acts.takeWhile fun act => act.flaw?.isNone).filterMap Act.event?

/-- A result that takes nothing but the texts of some nodes. -/
def ofNodes {α : Type} (nodes : List Tree) (value : α) : Reading α :=
  ⟨Act.reads nodes, value⟩

def andThen {α β : Type} (r : Reading α) (next : α → Reading β) : Reading β :=
  ⟨r.acts ++ (next r.value).acts, (next r.value).value⟩

def map {α β : Type} (f : α → β) (r : Reading α) : Reading β :=
  ⟨r.acts, f r.value⟩

def known {α : Type} (value : α) : Reading α :=
  ⟨[], value⟩

def inTurn {α : Type} (readings : List (Reading α)) : Reading (List α) :=
  ⟨readings.flatMap (·.acts), readings.map (·.value)⟩

end Reading

end PropTyper
