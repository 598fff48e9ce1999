import Mathlib.Data.List.Basic
import PropTyper.Proofs.Property.Merge

/-! # Combined sources

The three sources are one list after the other: declarations join as peers, and what is used and
what defaults show joins them, with authority on the side of a declared name. The combined list has
every name of a source once, under the property that all those of the name have joined.
-/

namespace PropTyper.Property

def joinStated (declared : List Property) (q p : Property) : Property :=
  merge (if (declared.map (·.name)).contains p.name then .authoritative else .priority) q p

@[simp] theorem joinStated_name (declared : List Property) (q p : Property) :
    (joinStated declared q p).name = q.name :=
  merge_name _ q p

theorem joinStated_of_mem {declared : List Property} {p : Property}
    (h : p.name ∈ declared.map (·.name)) (q : Property) :
    joinStated declared q p = merge .authoritative q p := by
  rw [joinStated, if_pos (List.contains_iff_mem.2 h)]

theorem joinStated_of_not_mem {declared : List Property} {p : Property}
    (h : p.name ∉ declared.map (·.name)) (q : Property) :
    joinStated declared q p = merge .priority q p := by
  rw [joinStated, if_neg (mt List.contains_iff_mem.1 h)]

def joinedPeers (declared : List Property) : List Property :=
  joinAll (merge .peer) [] declared

theorem nodup_joinedPeers (declared : List Property) :
    ((joinedPeers declared).map (·.name)).Nodup :=
  nodup_joinAll (merge_name .peer) (by simp) declared

theorem mem_names_joinedPeers {declared : List Property} {name : String} :
    name ∈ (joinedPeers declared).map (·.name) ↔ name ∈ declared.map (·.name) := by
  rw [joinedPeers, mem_names_joinAll (merge_name .peer)]
  simp

theorem combine_eq (declared used defaults : List Property) :
    combine declared used defaults =
      joinAll (joinStated declared) (joinedPeers declared) (used ++ defaults) := by
  have hstated : mergeLists .peer declared [] = joinedPeers declared := mergeLists_eq_joinAll ..
  have hnodup := nodup_joinedPeers declared
  unfold combine
  dsimp only
  rw [hstated, mergeLists_of_nodup hnodup, mergeLists_of_nodup, joinAll_append]
  · rfl
  · exact nodup_joinAll (joinStated_name declared) hnodup used

theorem nodup_names_combine (declared used defaults : List Property) :
    ((combine declared used defaults).map (·.name)).Nodup := by
  rw [combine_eq]
  exact nodup_joinAll (joinStated_name declared) (nodup_joinedPeers declared) _

/-- The combined list has the names of the sources and no other. -/
theorem mem_names_combine {declared used defaults : List Property} {name : String} :
    name ∈ (combine declared used defaults).map (·.name) ↔
      name ∈ declared.map (·.name) ∨ name ∈ used.map (·.name) ∨ name ∈ defaults.map (·.name) := by
  rw [combine_eq, mem_names_joinAll (joinStated_name declared), mem_names_joinedPeers,
    List.map_append, List.mem_append]

def joining (used defaults : List Property) (name : String) : List Property :=
  (used ++ defaults).filter fun p => p.name = name

theorem mem_joining {used defaults : List Property} {name : String} {p : Property} :
    p ∈ joining used defaults name ↔ p ∈ used ++ defaults ∧ p.name = name := by
  rw [joining, List.mem_filter, decide_eq_true_iff]

/-- A declared name stands in the combined list for the declarations of it, joined with authority
by all that has the name. -/
theorem exists_of_mem_combine_declared {declared used defaults : List Property} {m : Property}
    (hm : m ∈ combine declared used defaults) (hname : m.name ∈ declared.map (·.name)) :
    ∃ e ∈ joinedPeers declared, e.name = m.name ∧
      m = (joining used defaults m.name).foldl (merge .authoritative) e := by
  rw [combine_eq] at hm
  rcases exists_of_mem_joinAll (joinStated_name declared) (nodup_joinedPeers declared) hm with
    ⟨e, he, hem, heq⟩ | ⟨hfresh, -⟩
  · refine ⟨e, he, hem, heq.trans (List.foldl_ext _ _ _ ?_)⟩
    intro q p hp
    exact joinStated_of_mem ((mem_joining.1 hp).2 ▸ hname) q
  · exact (hfresh (mem_names_joinedPeers.2 hname)).elim

/-- Any other name stands for the first property that has it, joined by the later ones. -/
theorem exists_of_mem_combine_undeclared {declared used defaults : List Property} {m : Property}
    (hm : m ∈ combine declared used defaults) (hname : m.name ∉ declared.map (·.name)) :
    ∃ p rest, joining used defaults m.name = p :: rest ∧ m = rest.foldl (merge .priority) p := by
  rw [combine_eq] at hm
  rcases exists_of_mem_joinAll (joinStated_name declared) (nodup_joinedPeers declared) hm with
    ⟨e, he, hem, -⟩ | ⟨-, p, rest, hfilter, heq⟩
  · exact (hname (hem ▸ mem_names_joinedPeers.1 (List.mem_map_of_mem he))).elim
  · refine ⟨p, rest, hfilter, heq.trans (List.foldl_ext _ _ _ ?_)⟩
    intro q u hu
    have hmem : u ∈ joining used defaults m.name := by
      rw [joining, hfilter]
      exact List.mem_cons_of_mem p hu
    exact joinStated_of_not_mem ((mem_joining.1 hmem).2 ▸ hname) q

end PropTyper.Property
