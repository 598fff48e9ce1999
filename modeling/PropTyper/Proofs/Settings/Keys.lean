import PropTyper.Proofs.Json.Quoted
import PropTyper.Proofs.Text.Case
import PropTyper.Settings.Keys

/-! # Keys of one form

A key that has been brought into the form of the settings stays as it is when that is done again, and
no pair of halves comes up by it that was not there before.
-/

namespace PropTyper

namespace LooseText

def IsSettled (text : LooseText) : Prop :=
  ∀ c, Sign.char c ∈ text → Text.IsSettled c

theorem mem_mapRuns {change : List Char → List Char} {run : List Char} {text : LooseText} {c : Char}
    (h : Sign.char c ∈ mapRuns change run text) : ∃ part, c ∈ change part := by
  induction text generalizing run with
  | nil =>
      rw [mapRuns] at h
      exact ⟨run.reverse, by simpa using h⟩
  | cons s rest ih =>
      cases s with
      | char d => exact ih h
      | half offset =>
          rw [mapRuns, List.mem_append, List.mem_cons] at h
          rcases h with h | h | h
          · exact ⟨run.reverse, by simpa using h⟩
          · cases h
          · exact ih h

theorem isSettled_lower (text : LooseText) : IsSettled (lower text) := by
  intro c hc
  obtain ⟨part, hpart⟩ := mem_mapRuns hc
  rw [Text.lower, String.toList_ofList] at hpart
  exact Text.isSettled_of_mem_lowerFrom hpart

theorem mapRuns_eq_self {change : List Char → List Char} {P : Char → Prop}
    (hchange : ∀ part, (∀ c ∈ part, P c) → change part = part) {run : List Char} {text : LooseText}
    (hrun : ∀ c ∈ run, P c) (htext : ∀ c, Sign.char c ∈ text → P c) :
    mapRuns change run text = run.reverse.map .char ++ text := by
  have hpart : ∀ {run : List Char}, (∀ c ∈ run, P c) → change run.reverse = run.reverse :=
    fun h => hchange _ (by simpa using h)
  induction text generalizing run with
  | nil => rw [mapRuns, hpart hrun, List.append_nil]
  | cons s rest ih =>
      have hrest : ∀ c, Sign.char c ∈ rest → P c := fun c hc => htext c (List.mem_cons_of_mem _ hc)
      cases s with
      | char d =>
          rw [mapRuns, ih (List.forall_mem_cons.2 ⟨htext d List.mem_cons_self, hrun⟩) hrest]
          simp
      | half offset =>
          rw [mapRuns, hpart hrun, ih (by simp) hrest]
          simp

theorem lower_of_isSettled {text : LooseText} (h : IsSettled text) : lower text = text := by
  refine mapRuns_eq_self (fun part hpart => ?_) (by simp) h
  rw [Text.lower, String.toList_ofList, String.toList_ofList, Text.lowerFrom_of_isSettled hpart]

theorem mapRuns_map_char (change : List Char → List Char) (run text : List Char) :
    mapRuns change run (text.map .char) = (change (run.reverse ++ text)).map .char := by
  induction text generalizing run with
  | nil => rw [List.map_nil, mapRuns, List.append_nil]
  | cons c rest ih => rw [List.map_cons, mapRuns, ih, List.reverse_cons, List.append_assoc,
      List.singleton_append]

/-- In ASCII, lower case is that of each letter. -/
theorem lower_of_ascii {text : String} (h : (text.toList.all fun c => c.toNat < 0x80) = true) :
    lower (ofString text) = (text.toList.map Char.toLower).map .char := by
  have hascii : ∀ c ∈ text.toList, c.toNat < 0x80 := by
    intro c hc
    exact of_decide_eq_true (List.all_eq_true.1 h c hc)
  rw [lower, ofString, mapRuns_map_char, List.reverse_nil, List.nil_append, Text.lower,
    String.toList_ofList, String.toList_ofList, Text.lowerFrom_of_ascii hascii]

/-! ## Pairs of halves -/

theorem hasPair_map_char (part : List Char) (text : LooseText) :
    hasPair (part.map .char ++ text) = hasPair text := by
  induction part with
  | nil => rfl
  | cons c rest ih =>
      rw [List.map_cons, List.cons_append, ← ih]
      cases hrest : rest.map Sign.char ++ text with
      | nil => rfl
      | cons next more => rw [hasPair, (Sign.not_pair_char c).1, Bool.false_and, Bool.false_or]

theorem hasPair_cons_of_closesPair {s : Sign} {text : LooseText} (htext : hasPair text = false)
    (h : ∀ next more, text = next :: more → s.opensPair = true → next.closesPair = false) :
    hasPair (s :: text) = false := by
  cases text with
  | nil => rfl
  | cons next more =>
      rw [hasPair, htext, Bool.or_false, Bool.and_eq_false_iff]
      cases hopens : s.opensPair with
      | false => exact .inl rfl
      | true => exact .inr (h next more rfl hopens)

theorem mapRuns_eq_char {change : List Char → List Char} (hchange : ∀ c rest, change (c :: rest) ≠ [])
    {run : List Char} (hrun : run ≠ []) (text : LooseText) :
    ∃ c more, mapRuns change run text = .char c :: more := by
  induction text generalizing run with
  | nil =>
      obtain ⟨c, rest, hrest⟩ := List.exists_cons_of_ne_nil (List.reverse_ne_nil_iff.2 hrun)
      obtain ⟨d, more, hmore⟩ := List.exists_cons_of_ne_nil (hrest ▸ hchange c rest : change run.reverse ≠ [])
      exact ⟨d, more.map .char, by rw [mapRuns, hmore, List.map_cons]⟩
  | cons s rest ih =>
      cases s with
      | char d => exact ih (List.cons_ne_nil d run)
      | half offset =>
          obtain ⟨c, tail, htail⟩ := List.exists_cons_of_ne_nil (List.reverse_ne_nil_iff.2 hrun)
          obtain ⟨d, more, hmore⟩ := List.exists_cons_of_ne_nil (htail ▸ hchange c tail : change run.reverse ≠ [])
          exact ⟨d, _, by rw [mapRuns, hmore, List.map_cons, List.cons_append]⟩

theorem hasPair_mapRuns {change : List Char → List Char} (hnil : change [] = [])
    (hchange : ∀ c rest, change (c :: rest) ≠ []) {run : List Char} {text : LooseText}
    (h : hasPair text = false) : hasPair (mapRuns change run text) = false := by
  induction text generalizing run with
  | nil =>
      have hpart := hasPair_map_char (change run.reverse) []
      rwa [List.append_nil] at hpart
  | cons s rest ih =>
      obtain ⟨hrest, hnext⟩ := hasPair_cons h
      cases s with
      | char d => exact ih hrest
      | half offset =>
          rw [mapRuns, hasPair_map_char]
          refine hasPair_cons_of_closesPair (ih hrest) fun next more heq hopens => ?_
          cases rest with
          | nil => simp [mapRuns, hnil] at heq
          | cons second others =>
              cases second with
              | char c =>
                  obtain ⟨d, tail, htail⟩ := mapRuns_eq_char hchange (List.cons_ne_nil c []) others
                  rw [mapRuns, htail] at heq
                  injection heq with hd
                  rw [← hd]
                  exact (Sign.not_pair_char d).2
              | half other =>
                  rw [mapRuns, List.reverse_nil, hnil, List.map_nil, List.nil_append] at heq
                  injection heq with hd
                  rw [← hd]
                  exact hnext _ _ rfl hopens

theorem hasPair_lower {text : LooseText} (h : hasPair text = false) : hasPair (lower text) = false := by
  refine hasPair_mapRuns ?_ (fun c rest => ?_) h
  · simp [Text.lower, Text.lowerFrom]
  · simpa [Text.lower] using Text.lowerFrom_cons_ne_nil [] c rest

end LooseText

namespace Settings

def parted (s : Sign) : LooseText :=
  if isCapital s then [.char '_', s] else [s]

theorem snakeKey_cons (first : Sign) (rest : LooseText) :
    snakeKey (first :: rest) = LooseText.lower (first :: rest.flatMap parted) := rfl

theorem parted_of_isSettled {s : Sign} (h : LooseText.IsSettled [s]) : parted s = [s] := by
  cases s with
  | half offset => rfl
  | char c =>
      have hcapital := Text.not_capital_of_isSettled (h c List.mem_cons_self)
      rw [parted, isCapital, hcapital]
      rfl

theorem isSettled_snakeKey (key : LooseText) : LooseText.IsSettled (snakeKey key) := by
  cases key with
  | nil => intro c hc; cases hc
  | cons first rest => exact LooseText.isSettled_lower _

/-- A key of the right form stays as it is. -/
theorem snakeKey_of_isSettled {key : LooseText} (h : LooseText.IsSettled key) : snakeKey key = key := by
  cases key with
  | nil => rfl
  | cons first rest =>
      have hparts : ∀ s ∈ rest, parted s = [s] := fun s hs =>
        parted_of_isSettled fun c hc => h c (List.mem_cons_of_mem _ (List.mem_singleton.1 hc ▸ hs))
      have hrest : rest.flatMap parted = rest := by
        rw [List.flatMap_def, List.map_congr_left hparts, ← List.flatMap_def, List.flatMap_singleton']
      rw [snakeKey_cons, hrest, LooseText.lower_of_isSettled h]

theorem hasPair_parted {s : Sign} {rest : LooseText} (h : LooseText.hasPair (s :: rest) = false) :
    LooseText.hasPair (s :: rest.flatMap parted) = false := by
  induction rest generalizing s with
  | nil => rfl
  | cons next more ih =>
      obtain ⟨hmore, hnext⟩ := LooseText.hasPair_cons h
      have hlater := ih hmore
      rw [List.flatMap_cons, parted]
      split
      · refine LooseText.hasPair_cons_of_closesPair ?_ fun n m heq _ => ?_
        · exact (LooseText.hasPair_map_char ['_'] _).trans hlater
        · injection heq with hn
          rw [← hn]
          exact (Sign.not_pair_char '_').2
      · refine LooseText.hasPair_cons_of_closesPair hlater fun n m heq hopens => ?_
        injection heq with hn
        rw [← hn]
        exact hnext next more rfl hopens

theorem hasPair_snakeKey {key : LooseText} (h : key.hasPair = false) : (snakeKey key).hasPair = false := by
  cases key with
  | nil => rfl
  | cons first rest => exact LooseText.hasPair_lower (hasPair_parted h)

end Settings

end PropTyper
