import PropTyper.Files.Path

/-! # Paths and their texts

A text is divided into the parts that are joined again by the mark at which it is divided. So a path
that has been read from a text is read from its own text as it is.
-/

namespace PropTyper

namespace Text

variable {isEnd : Char → Bool} {text : List Char}

theorem parts_of_no_end (h : ∀ c ∈ text, isEnd c = false) : parts isEnd text = [text] := by
  induction text with
  | nil => rfl
  | cons c rest ih =>
      rw [List.forall_mem_cons] at h
      simp [parts, h.1, ih h.2]

theorem parts_append_cons (h : ∀ c ∈ text, isEnd c = false) {mark : Char} (hmark : isEnd mark = true)
    (rest : List Char) : parts isEnd (text ++ mark :: rest) = text :: parts isEnd rest := by
  induction text with
  | nil => simp [parts, hmark]
  | cons c more ih =>
      rw [List.forall_mem_cons] at h
      simp [parts, h.1, ih h.2]

theorem parts_intercalate {mark : Char} (hmark : isEnd mark = true) {pieces : List (List Char)}
    (hne : pieces ≠ []) (h : ∀ piece ∈ pieces, ∀ c ∈ piece, isEnd c = false) :
    parts isEnd ([mark].intercalate pieces) = pieces := by
  induction pieces with
  | nil => exact (hne rfl).elim
  | cons first rest ih =>
      rw [List.forall_mem_cons] at h
      cases rest with
      | nil => simpa using parts_of_no_end h.1
      | cons second more =>
          rw [List.intercalate_cons_cons, List.append_assoc, List.singleton_append,
            parts_append_cons h.1 hmark, ih (by simp) h.2]

theorem isEnd_of_mem_parts {piece : List Char} (h : piece ∈ parts isEnd text) :
    ∀ c ∈ piece, isEnd c = false := by
  induction text generalizing piece with
  | nil => simp_all [parts]
  | cons c rest ih =>
      rw [parts] at h
      split at h
      · rcases List.mem_cons.1 h with rfl | h
        · simp
        · exact ih h
      · next hc =>
        have hc : isEnd c = false := by simpa using hc
        split at h
        · next first others hparts =>
          rcases List.mem_cons.1 h with rfl | h
          · have hfirst := ih (hparts ▸ List.mem_cons_self : first ∈ parts isEnd rest)
            exact List.forall_mem_cons.2 ⟨hc, hfirst⟩
          · exact ih (hparts ▸ List.mem_cons_of_mem _ h)
        · next hparts => exact (parts_ne_nil isEnd rest hparts).elim

end Text

namespace Path

structure IsName (name : String) : Prop where
  ne_empty : name ≠ ""
  ne_dot : name ≠ "."
  no_slash : ∀ c ∈ name.toList, c ≠ '/'

theorem isName_of_mem_names {text name : String} (h : name ∈ (ofString text).names) :
    IsName name := by
  obtain ⟨hmem, hname⟩ := List.mem_filter.1 h
  obtain ⟨piece, hpiece, rfl⟩ := List.mem_map.1 hmem
  simp only [Bool.and_eq_true, decide_eq_true_eq] at hname
  refine ⟨hname.1, hname.2, fun c hc => ?_⟩
  have hend := Text.isEnd_of_mem_parts hpiece c (by simpa using hc)
  simpa using hend

theorem rootOf_cases (text : List Char) :
    rootOf text = "" ∨ rootOf text = "/" ∨ rootOf text = "//" := by
  unfold rootOf
  split <;> simp

theorem filter_splitNames_intercalate {names : List String} (h : ∀ name ∈ names, IsName name) :
    ((splitNames ("/".intercalate names).toList).filter fun name => name ≠ "" && name ≠ ".") =
      names := by
  cases names with
  | nil => rfl
  | cons first rest =>
      have hparts : Text.parts (· = '/') ("/".intercalate (first :: rest)).toList =
          (first :: rest).map String.toList := by
        have hmark : "/".toList = ['/'] := rfl
        rw [String.toList_intercalate, hmark]
        refine Text.parts_intercalate rfl (by simp) fun piece hpiece c hc => ?_
        obtain ⟨name, hname, rfl⟩ := List.mem_map.1 hpiece
        simpa using (h name hname).no_slash c hc
      rw [splitNames, hparts, List.map_map, List.filter_eq_self.2]
      · simp
      · intro name hname
        have hkept := h name (by simpa using hname)
        simp [hkept.ne_empty, hkept.ne_dot]

theorem head_intercalate_ne_slash {names : List String} (h : ∀ name ∈ names, IsName name)
    {rest : List Char} : ("/".intercalate names).toList ≠ '/' :: rest := by
  cases names with
  | nil => simp
  | cons first more =>
      have hfirst := h first List.mem_cons_self
      have hne : first.toList ≠ [] := by simpa using hfirst.ne_empty
      obtain ⟨c, chars, hchars⟩ := List.exists_cons_of_ne_nil hne
      have hc : c ≠ '/' := hfirst.no_slash c (by simp [hchars])
      intro heq
      rw [String.toList_intercalate] at heq
      cases more with
      | nil => simp [hchars, hc] at heq
      | cons second others => simp [List.intercalate_cons_cons, hchars, hc] at heq

theorem rootOf_append {names : List String} (h : ∀ name ∈ names, IsName name) {root : String}
    (hroot : root = "" ∨ root = "/" ∨ root = "//") :
    rootOf (root.toList ++ ("/".intercalate names).toList) = root := by
  have hhead := @head_intercalate_ne_slash names h
  generalize ("/".intercalate names).toList = text at hhead
  rcases hroot with rfl | rfl | rfl
  all_goals
    cases text with
    | nil => rfl
    | cons c rest =>
        have hc : c ≠ '/' := fun heq => hhead (congrArg (· :: rest) heq)
        simp [rootOf, hc]

/-- A path is read from its own text. -/
theorem ofString_toString_of_isName {p : Path} (hroot : p.root = "" ∨ p.root = "/" ∨ p.root = "//")
    (hnames : ∀ name ∈ p.names, IsName name) : ofString p.toString = p := by
  obtain ⟨root, names⟩ := p
  by_cases hdot : root = "" ∧ names = []
  · obtain ⟨rfl, rfl⟩ := hdot
    decide +kernel
  · have htext : toString ⟨root, names⟩ = root ++ "/".intercalate names := by
      rw [toString, if_neg (by simpa using hdot)]
    have hsplit := filter_splitNames_intercalate hnames
    rw [htext, ofString, String.toList_append, rootOf_append hnames hroot]
    congr 1
    -- separators of the root only add names that are dropped
    rcases hroot with rfl | rfl | rfl
    all_goals simpa [splitNames, Text.parts] using hsplit

theorem ofString_toString (text : String) : ofString (ofString text).toString = ofString text :=
  ofString_toString_of_isName (rootOf_cases text.toList) fun _ => isName_of_mem_names

end Path

end PropTyper
