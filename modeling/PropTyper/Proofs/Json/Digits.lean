import PropTyper.Json.Reader

/-! # Numbers with too many digits

Whatever is read of a JSON text leaves an end of it, so that what a fault is about stands in the text.
Of the faults, only one is about the length of a number: there the text has a run of digits that is
longer than whole numbers may be.
-/

namespace PropTyper.Json

/-- Somewhere in the text stand more digits in a row than a whole number may have. -/
def HasLongRun (text : List Char) : Prop :=
  ∃ run, run <:+: text ∧ (∀ c ∈ run, c.isDigit = true) ∧ maxDigits < run.length

theorem HasLongRun.mono {text whole : List Char} (h : HasLongRun text) (hpart : text <:+: whole) :
    HasLongRun whole := by
  obtain ⟨run, hrun, hdigits, hlong⟩ := h
  exact ⟨run, hrun.trans hpart, hdigits, hlong⟩

/-- What comes of reading at the start of a text: an end of it is left, and a number is too long only
if the text has such a run of digits. -/
structure Follows {α : Type} (text : List Char) (r : Result α) : Prop where
  rest : ∀ v rest, r = .ok (v, rest) → rest <:+ text
  digits : ∀ count rest, r = .error ⟨.fewerDigits count, rest⟩ → HasLongRun text

section

variable {α : Type} {text whole rest : List Char} {r : Result α}

theorem Follows.of_suffix (h : Follows text r) (hsuffix : text <:+ whole) : Follows whole r where
  rest v rest heq := (h.rest v rest heq).trans hsuffix
  digits count rest heq := (h.digits count rest heq).mono hsuffix.isInfix

theorem follows_ok {v : α} (h : rest <:+ text) : Follows text (.ok (v, rest)) where
  rest v' rest' heq := by
    cases heq
    exact h
  digits count rest' heq := by cases heq

theorem follows_error {fault : Fault} (h : ∀ count, fault.expected ≠ .fewerDigits count) :
    Follows text (.error fault : Result α) where
  rest v rest heq := by cases heq
  digits count rest heq := by
    cases heq
    exact absurd rfl (h count)

theorem Follows.error {β : Type} {fault : Fault} (h : Follows text r) (heq : r = .error fault) :
    Follows text (.error fault : Result β) where
  rest v rest hok := by cases hok
  digits count rest herror := by
    cases herror
    exact h.digits count rest heq

end

theorem skipSpace_suffix (text : List Char) : skipSpace text <:+ text :=
  List.dropWhile_suffix _

/-! ## Strings and words -/

theorem follows_stringFrom (opening : List Char) (read : LooseText) (text : List Char) :
    Follows text (stringFrom opening read text) := by
  fun_induction stringFrom opening read text with
  | case1 => exact follows_error (by simp)
  | case2 => exact follows_ok (List.suffix_cons _ _)
  | case3 => exact follows_error (by simp)
  | case4 => exact follows_error (by simp)
  | case5 => exact follows_error (by simp)
  | case6 _ _ _ _ _ _ _ _ _ _ _ _ _ _ _ _ _ ih =>
    exact ih.of_suffix ⟨[_, _, _, _, _, _, _, _, _, _, _, _], rfl⟩
  | case7 _ _ _ _ _ _ _ _ _ _ _ _ _ _ _ _ ih => exact ih.of_suffix ⟨[_, _, _, _, _, _], rfl⟩
  | case8 _ _ _ _ _ _ _ _ _ _ _ _ _ ih => exact ih.of_suffix ⟨[_, _, _, _, _, _], rfl⟩
  | case9 _ _ _ _ _ _ _ _ _ ih => exact ih.of_suffix ⟨[_, _, _, _, _, _], rfl⟩
  | case10 => exact follows_error (by simp)
  | case11 _ _ _ _ _ _ _ ih => exact ih.of_suffix ⟨[_, _], rfl⟩
  | case12 => exact follows_error (by simp)
  | case13 => exact follows_error (by simp)
  | case14 _ _ _ _ _ _ _ _ _ ih => exact ih.of_suffix (List.suffix_cons _ _)

theorem follows_string (opening : List Char) : Follows opening (string opening) :=
  (follows_stringFrom opening [] (opening.drop 1)).of_suffix (List.drop_suffix 1 opening)

theorem suffix_of_word? {text rest : List Char} {v : Json} (h : word? text = some (v, rest)) :
    rest <:+ text := by
  obtain ⟨w, -, heq⟩ := Option.map_eq_some_iff.1 h
  cases heq
  exact List.drop_suffix _ _

/-! ## Numbers -/

theorem wholePart_spec (text : List Char) :
    (wholePart text).1 ++ (wholePart text).2 = text ∧ ∀ c ∈ (wholePart text).1, c.isDigit = true := by
  unfold wholePart
  split
  · exact ⟨rfl, by simp⟩
  · exact ⟨List.takeWhile_append_dropWhile, List.all_eq_true.1 List.all_takeWhile⟩

theorem digits_suffix (text : List Char) : (digits text).2 <:+ text :=
  List.dropWhile_suffix _

theorem fractionPart_suffix (text : List Char) : (fractionPart text).2 <:+ text := by
  unfold fractionPart
  split
  · next rest =>
    split
    · exact List.suffix_refl _
    · exact (digits_suffix rest).trans (List.suffix_cons _ _)
  · exact List.suffix_refl _

theorem exponentPart_suffix (text : List Char) : (exponentPart text).2 <:+ text := by
  have hread : ∀ (sign : Int) (rest : List Char), rest <:+ text →
      (if (digits rest).1.isEmpty then ((none : Option Int), text)
        else (some (sign * natOf (digits rest).1), (digits rest).2)).2 <:+ text := by
    intro sign rest hrest
    split
    · exact List.suffix_refl _
    · exact (digits_suffix rest).trans hrest
  unfold exponentPart
  dsimp only
  split
  · next c rest =>
    split
    · split
      · exact hread 1 _ ⟨[_, _], rfl⟩
      · exact hread (-1) _ ⟨[_, _], rfl⟩
      · exact hread 1 _ (List.suffix_cons _ _)
    · exact List.suffix_refl _
  · exact List.suffix_refl _

theorem follows_number (text : List Char) : Follows text (number text) := by
  unfold number
  split
  next negative body hsign =>
  have hbody : body <:+ text := by
    split at hsign
    · cases hsign
      exact List.suffix_cons _ _
    · cases hsign
      exact List.suffix_refl _
  obtain ⟨hsplit, hdigits⟩ := wholePart_spec body
  dsimp only
  split
  · exact follows_error (by simp)
  · have hrest : (exponentPart (fractionPart (wholePart body).2).2).2 <:+ text :=
      (exponentPart_suffix _).trans ((fractionPart_suffix _).trans
        (.trans ⟨_, hsplit⟩ hbody))
    split
    · split
      · next hlong =>
        have hwhole : (wholePart body).1 <+: body := ⟨_, hsplit⟩
        refine ⟨?_, ?_⟩
        · intro v rest heq
          cases heq
        · intro count rest _
          exact ⟨_, hwhole.isInfix.trans hbody.isInfix, hdigits, hlong⟩
      · exact follows_ok hrest
    · exact follows_ok hrest

/-! ## Values -/

section

variable {fuel : Nat}

theorem suffix_of_skipSpace {text rest more : List Char} {c : Char} (h : rest <:+ text)
    (heq : skipSpace rest = c :: more) : more <:+ text := by
  have hskip := (skipSpace_suffix rest).trans h
  rw [heq] at hskip
  exact (List.suffix_cons c more).trans hskip

theorem follows_value_succ (hitems : ∀ read text, Follows text (itemsFrom fuel read text))
    (hmembers : ∀ read text, Follows text (membersFrom fuel read text)) (text : List Char) :
    Follows text (value (fuel + 1) text) := by
  unfold value
  split
  · next first =>
    have hstring := follows_string ('\x22' :: first)
    split
    · next s rest hread => exact follows_ok (hstring.rest _ _ hread)
    · next fault hread => exact hstring.error hread
  · next rest =>
    split
    · next more hclose => exact follows_ok (suffix_of_skipSpace (List.suffix_cons _ rest) hclose)
    · exact (hmembers [] _).of_suffix ((skipSpace_suffix rest).trans (List.suffix_cons _ rest))
  · next rest =>
    split
    · next more hclose => exact follows_ok (suffix_of_skipSpace (List.suffix_cons _ rest) hclose)
    · exact (hitems [] _).of_suffix ((skipSpace_suffix rest).trans (List.suffix_cons _ rest))
  · split
    · next found hword => exact follows_ok (suffix_of_word? hword)
    · exact follows_number text

theorem follows_itemsFrom_succ (hvalue : ∀ text, Follows text (value fuel text))
    (hitems : ∀ read text, Follows text (itemsFrom fuel read text)) (read : List Json)
    (text : List Char) : Follows text (itemsFrom (fuel + 1) read text) := by
  unfold itemsFrom
  split
  · next fault hread => exact (hvalue text).error hread
  · next v rest hread =>
    have hrest := (hvalue text).rest v rest hread
    split
    · next more hclose => exact follows_ok (suffix_of_skipSpace hrest hclose)
    · next more hcomma =>
      have hmore := suffix_of_skipSpace hrest hcomma
      exact (hitems _ _).of_suffix ((skipSpace_suffix more).trans hmore)
    · exact follows_error (by simp)

theorem follows_membersFrom_succ (hvalue : ∀ text, Follows text (value fuel text))
    (hmembers : ∀ read text, Follows text (membersFrom fuel read text)) (read : Members)
    (text : List Char) : Follows text (membersFrom (fuel + 1) read text) := by
  unfold membersFrom
  split
  · next first =>
    have hstring := follows_string ('\x22' :: first)
    split
    · next fault hread => exact hstring.error hread
    · next name rest hread =>
      have hrest := hstring.rest name rest hread
      split
      · next more hcolon =>
        have hmore := suffix_of_skipSpace hrest hcolon
        have hafter := (hvalue (skipSpace more)).of_suffix ((skipSpace_suffix more).trans hmore)
        split
        · next fault hread => exact hafter.error hread
        · next v rest hread =>
          have hrest := hafter.rest v rest hread
          split
          · next more hclose => exact follows_ok (suffix_of_skipSpace hrest hclose)
          · next more hcomma =>
            have hmore := suffix_of_skipSpace hrest hcomma
            exact (hmembers _ _).of_suffix ((skipSpace_suffix more).trans hmore)
          · exact follows_error (by simp)
      · exact follows_error (by simp)
  · exact follows_error (by simp)

end

theorem follows_nested (fuel : Nat) :
    (∀ text, Follows text (value fuel text)) ∧
      (∀ read text, Follows text (itemsFrom fuel read text)) ∧
      ∀ read text, Follows text (membersFrom fuel read text) := by
  induction fuel with
  | zero =>
    refine ⟨fun text => ?_, fun read text => ?_, fun read text => ?_⟩
    · exact follows_error (by simp)
    · exact follows_error (by simp)
    · exact follows_error (by simp)
  | succ fuel ih =>
    obtain ⟨hvalue, hitems, hmembers⟩ := ih
    exact ⟨follows_value_succ hitems hmembers, follows_itemsFrom_succ hvalue hitems,
      follows_membersFrom_succ hvalue hmembers⟩

/-- A text is refused for the length of a number only if it has too many digits in a row. -/
theorem hasLongRun_of_parse {text rest : List Char} {count : Nat}
    (h : parse text = .error ⟨.fewerDigits count, rest⟩) : HasLongRun text := by
  unfold parse at h
  split at h
  · cases h
  · split at h
    · next fault hread =>
      cases h
      have hvalue := (follows_nested (2 * text.length + 2)).1 (skipSpace text)
      exact (hvalue.digits count rest hread).mono (skipSpace_suffix text).isInfix
    · split at h
      · cases h
      · cases h

end PropTyper.Json
