import PropTyper.Json.Printer
import PropTyper.Json.Reader

/-! # Reading quoted texts back

A quoted text is read as the text that was quoted, in either charset. Only two halves side by side
are lost, since they are read as the one character that they make.
-/

namespace PropTyper

namespace Sign

def number : Sign → Nat
  | char c => c.toNat
  | half offset => firstHalf + offset.val

def opensPair (s : Sign) : Bool :=
  Json.isHighSurrogate s.number

def closesPair (s : Sign) : Bool :=
  Json.isLowSurrogate s.number

theorem ofNat_number (s : Sign) : ofNat s.number = s := by
  cases s with
  | char c =>
      have hvalid := c.valid
      have hnot : ¬ (firstHalf ≤ c.toNat ∧ c.toNat - firstHalf < 0x800) := by
        simp only [firstHalf, UInt32.isValidChar, Nat.isValidChar, Char.toNat] at hvalid ⊢
        omega
      rw [number, ofNat]
      split
      · next hlt => rw [if_neg fun hle => hnot ⟨hle, hlt⟩, Char.ofNat_toNat]
      · rw [Char.ofNat_toNat]
  | half offset => simp [ofNat, number]

theorem not_pair_char (c : Char) : (char c).opensPair = false ∧ (char c).closesPair = false := by
  have hvalid := c.valid
  have hnumber : (char c).number = c.val.toNat := rfl
  simp only [UInt32.isValidChar, Nat.isValidChar] at hvalid
  simp only [opensPair, closesPair, Json.isHighSurrogate, Json.isLowSurrogate,
    Bool.and_eq_false_iff, decide_eq_false_iff_not]
  omega

theorem number_lt (s : Sign) : s.number < 0x110000 := by
  cases s with
  | char c =>
      have hvalid := c.valid
      simp only [number, UInt32.isValidChar, Nat.isValidChar, Char.toNat] at *
      omega
  | half offset =>
      have := offset.isLt
      simp only [number, firstHalf]
      omega

end Sign

/-- Two halves that make one character stand side by side. -/
def LooseText.hasPair : LooseText → Bool
  | first :: second :: rest =>
    first.opensPair && second.closesPair || hasPair (second :: rest)
  | _ => false

theorem LooseText.hasPair_cons {s : Sign} {text : LooseText} (h : hasPair (s :: text) = false) :
    hasPair text = false ∧
      ∀ next more, text = next :: more → s.opensPair = true → next.closesPair = false := by
  cases text with
  | nil => simp [hasPair]
  | cons next more =>
      simp only [hasPair, Bool.or_eq_false_iff, Bool.and_eq_false_iff] at h
      refine ⟨h.2, fun n m heq hopen => ?_⟩
      injection heq with hn hm
      subst hn
      simpa [hopen] using h.1

namespace Json

theorem hexValue?_digitChar {d : Nat} (h : d < 16) : hexValue? d.digitChar = some d := by
  have hall : ∀ d : Fin 16, hexValue? d.val.digitChar = some d.val := by decide
  exact hall ⟨d, h⟩

theorem hex4?_hex4 {n : Nat} (h : n < 0x10000) (c : Char) (rest : List Char) :
    hex4? (hex4 n ++ c :: rest) = some n := by
  have hdigit : ∀ m, hexValue? (m % 16).digitChar = some (m % 16) :=
    fun m => hexValue?_digitChar (Nat.mod_lt m (by decide))
  simp only [hex4, List.map_cons, List.map_nil, List.cons_append, List.nil_append, hex4?, hdigit]
  congr 1
  omega

/-! ## One sign -/

section Step

variable {opening : List Char} {read : LooseText} {rest : List Char}

theorem stringFrom_plain {c : Char} (hquote : c ≠ '\x22') (hslash : c ≠ '\\') (hc : 0x20 ≤ c.toNat) :
    stringFrom opening read (c :: rest) = stringFrom opening (.char c :: read) rest := by
  rw [stringFrom.eq_7 _ _ _ _ hquote (fun h => (hslash h).elim) (fun _ _ _ _ _ h => (hslash h).elim)
    (fun _ h => (hslash h).elim) (fun _ _ h => (hslash h).elim), if_neg (by omega)]

theorem stringFrom_escape {e c : Char} (hu : e ≠ 'u') (he : simpleEscape? e = some c) :
    stringFrom opening read ('\\' :: e :: rest) = stringFrom opening (.char c :: read) rest := by
  rw [stringFrom.eq_6 _ _ _ _ (fun _ _ _ _ _ h => (hu h).elim) hu, he]

def NoClosing (rest : List Char) : Prop :=
  ∀ e f g h more, rest = '\\' :: 'u' :: e :: f :: g :: h :: more →
    ∃ low, hex4? (e :: f :: g :: h :: more) = some low ∧ isLowSurrogate low = false

theorem hex4_eq (n : Nat) : ∃ a b c d, hex4 n = [a, b, c, d] :=
  ⟨_, _, _, _, rfl⟩

theorem stringFrom_unit {n : Nat} (hn : n < 0x10000) (hne : rest ≠ [])
    (hrest : isHighSurrogate n = true → NoClosing rest) :
    stringFrom opening read ('\\' :: 'u' :: hex4 n ++ rest) =
      stringFrom opening (Sign.ofNat n :: read) rest := by
  obtain ⟨first, more, rfl⟩ := List.exists_cons_of_ne_nil hne
  have hvalue := hex4?_hex4 hn first more
  obtain ⟨a, b, c, d, hdigits⟩ := hex4_eq n
  simp only [hdigits, List.cons_append, List.nil_append] at hvalue ⊢
  rw [stringFrom.eq_4, hvalue]
  dsimp only
  split
  · next e f g h tail heq =>
    split
    · next hhigh =>
      obtain ⟨low, hlow, hnot⟩ := hrest hhigh e f g h tail heq
      rw [hlow]
      simp only [hnot, Bool.false_eq_true, if_false, heq]
    · rw [heq]
  · rfl

theorem stringFrom_pair (opening : List Char) (read : LooseText) {offset : Nat}
    (hoffset : offset < 0x100000) (hne : rest ≠ []) :
    stringFrom opening read
        ('\\' :: 'u' :: hex4 (0xd800 + offset / 0x400) ++
          ('\\' :: 'u' :: hex4 (0xdc00 + offset % 0x400) ++ rest)) =
      stringFrom opening (Sign.ofNat (0x10000 + offset) :: read) rest := by
  obtain ⟨first, more, rfl⟩ := List.exists_cons_of_ne_nil hne
  have hlow := hex4?_hex4 (n := 0xdc00 + offset % 0x400) (by omega) first more
  have hhigh := hex4?_hex4 (n := 0xd800 + offset / 0x400) (by omega) '\\'
    ('u' :: hex4 (0xdc00 + offset % 0x400) ++ first :: more)
  have hopens : isHighSurrogate (0xd800 + offset / 0x400) = true := by
    simp only [isHighSurrogate, Bool.and_eq_true, decide_eq_true_eq]
    omega
  have hcloses : isLowSurrogate (0xdc00 + offset % 0x400) = true := by
    simp only [isLowSurrogate, Bool.and_eq_true, decide_eq_true_eq]
    omega
  have hcode : 0x10000 + (0xd800 + offset / 0x400 - 0xd800) * 0x400 +
      (0xdc00 + offset % 0x400 - 0xdc00) = 0x10000 + offset := by
    omega
  obtain ⟨a, b, c, d, hfirst⟩ := hex4_eq (0xd800 + offset / 0x400)
  obtain ⟨e, f, g, h, hsecond⟩ := hex4_eq (0xdc00 + offset % 0x400)
  simp only [hfirst, hsecond, List.cons_append, List.nil_append] at hlow hhigh ⊢
  rw [stringFrom.eq_4, hhigh]
  simp only [hopens, if_true, hlow, hcloses, hcode]

end Step

theorem escapeSign_cases (charset : Charset) (s : Sign) :
    (∃ c, s = .char c ∧ c ≠ '\x22' ∧ c ≠ '\\' ∧ 0x20 ≤ c.toNat ∧ escapeSign charset s = [c]) ∨
    (∃ c e, s = .char c ∧ e ≠ 'u' ∧ simpleEscape? e = some c ∧ escapeSign charset s = ['\\', e]) ∨
    escapeSign charset s = numbered s.number := by
  cases s with
  | half offset => exact .inr (.inr rfl)
  | char c =>
      rw [escapeSign, escapeChar]
      split
      · next h => exact .inr (.inl ⟨c, '\x22', rfl, by decide, by rw [h]; rfl, rfl⟩)
      · next hquote =>
        split
        · next h => exact .inr (.inl ⟨c, '\\', rfl, by decide, by rw [h]; rfl, rfl⟩)
        · next hslash =>
          split
          · next h => exact .inr (.inl ⟨c, 'n', rfl, by decide, by rw [h]; rfl, rfl⟩)
          · split
            · next h => exact .inr (.inl ⟨c, 'r', rfl, by decide, by rw [h]; rfl, rfl⟩)
            · split
              · next h => exact .inr (.inl ⟨c, 't', rfl, by decide, by rw [h]; rfl, rfl⟩)
              · split
                · next h => exact .inr (.inl ⟨c, 'f', rfl, by decide, by rw [h]; rfl, rfl⟩)
                · split
                  · next h => exact .inr (.inl ⟨c, 'b', rfl, by decide, by rw [h]; rfl, rfl⟩)
                  · split
                    · exact .inr (.inr rfl)
                    · next hplain =>
                      simp only [Bool.or_eq_true, decide_eq_true_eq, not_or, Nat.not_lt] at hplain
                      exact .inl ⟨c, rfl, hquote, hslash, hplain.1, rfl⟩

/-! ## The whole text -/

variable {charset : Charset}

theorem noClosing_flatMap {text : LooseText} (rest : List Char)
    (h : ∀ next more, text = next :: more → next.closesPair = false) :
    NoClosing (text.flatMap (escapeSign charset) ++ '\x22' :: rest) := by
  intro e f g i more heq
  cases text with
  | nil => simp at heq
  | cons next others =>
      have hnext := h next others rfl
      rw [List.flatMap_cons, List.append_assoc] at heq
      rcases escapeSign_cases charset next with ⟨c, -, -, hslash, -, hform⟩ | ⟨c, e', -, hu, -, hform⟩ | hform
      · rw [hform, List.singleton_append] at heq
        injection heq with hc
        exact (hslash hc).elim
      · rw [hform] at heq
        injection heq with _ heq
        injection heq with hc
        exact (hu hc).elim
      · obtain ⟨first, tail, htail⟩ := List.exists_cons_of_ne_nil
          (show others.flatMap (escapeSign charset) ++ '\x22' :: rest ≠ [] by simp)
        rw [hform, numbered, htail] at heq
        split at heq
        · next hlt =>
          have hvalue := hex4?_hex4 hlt first tail
          simp only [List.cons_append, List.cons.injEq, true_and] at heq
          rw [heq] at hvalue
          exact ⟨_, hvalue, hnext⟩
        · next hle =>
          have hbound := next.number_lt
          have hvalue := hex4?_hex4 (n := 0xd800 + (next.number - 0x10000) / 0x400) (by omega) '\\'
            ('u' :: hex4 (0xdc00 + (next.number - 0x10000) % 0x400) ++ first :: tail)
          simp only [List.append_assoc, List.cons_append, List.cons.injEq, true_and] at heq hvalue
          rw [heq] at hvalue
          refine ⟨_, hvalue, ?_⟩
          simp only [isLowSurrogate, Bool.and_eq_false_iff, decide_eq_false_iff_not]
          omega

/-- One sign is read as it was written. -/
theorem stringFrom_escapeSign {s : Sign} {opening : List Char} {read : LooseText} {rest : List Char}
    (hne : rest ≠ []) (hrest : s.opensPair = true → NoClosing rest) :
    stringFrom opening read (escapeSign charset s ++ rest) = stringFrom opening (s :: read) rest := by
  rcases escapeSign_cases charset s with
    ⟨c, rfl, hquote, hslash, hc, hform⟩ | ⟨c, e, rfl, hu, he, hform⟩ | hform
  · rw [hform, List.singleton_append, stringFrom_plain hquote hslash hc]
  · rw [hform, List.cons_append, List.singleton_append, stringFrom_escape hu he]
  · rw [hform, numbered]
    split
    · next hlt => rw [stringFrom_unit hlt hne hrest, Sign.ofNat_number]
    · next hle =>
      have hbound := s.number_lt
      have hsum : 0x10000 + (s.number - 0x10000) = s.number := by omega
      have hoffset : s.number - 0x10000 < 0x100000 := by omega
      have hpair := stringFrom_pair opening read hoffset hne
      rw [hsum, Sign.ofNat_number] at hpair
      simpa using hpair

theorem stringFrom_flatMap (charset : Charset) {text : LooseText} (h : text.hasPair = false)
    (opening : List Char) (read : LooseText) (rest : List Char) :
    stringFrom opening read (text.flatMap (escapeSign charset) ++ '\x22' :: rest) =
      .ok (read.reverse ++ text, rest) := by
  induction text generalizing read with
  | nil => simp [stringFrom]
  | cons s more ih =>
      obtain ⟨hmore, hpair⟩ := LooseText.hasPair_cons h
      rw [List.flatMap_cons, List.append_assoc, stringFrom_escapeSign (by simp) fun hopens =>
        noClosing_flatMap rest fun next others heq => hpair next others heq hopens, ih hmore]
      simp

/-- A quoted text is read back. -/
theorem string_quoted {text : LooseText} (h : text.hasPair = false) (rest : List Char) :
    string (quoted charset text ++ rest) = .ok (text, rest) := by
  have hread := stringFrom_flatMap charset h (quoted charset text ++ rest) [] rest
  simpa [string, quoted] using hread

/-! ## Line ends -/

theorem cr_not_mem_hex4 (n : Nat) : '\r' ∉ hex4 n := by
  have hdigit : ∀ d : Fin 16, d.val.digitChar ≠ '\r' := by decide
  intro hmem
  obtain ⟨d, hd, heq⟩ := List.mem_map.1 hmem
  have hlt : d < 16 := by
    simp only [List.mem_cons, List.not_mem_nil, or_false] at hd
    omega
  exact hdigit ⟨d, hlt⟩ heq

theorem cr_not_mem_escapeSign (charset : Charset) (s : Sign) : '\r' ∉ escapeSign charset s := by
  rcases escapeSign_cases charset s with ⟨c, -, -, -, hc, hform⟩ | ⟨c, e, -, -, he, hform⟩ | hform
  · rw [hform, List.mem_singleton]
    rintro rfl
    exact absurd hc (by decide)
  · rw [hform]
    intro hmem
    have hletter : '\r' = e := by simpa using hmem
    subst hletter
    cases he
  · rw [hform, numbered]
    split <;> simp [cr_not_mem_hex4]

theorem cr_not_mem_quoted (charset : Charset) (text : LooseText) : '\r' ∉ quoted charset text := by
  simp [quoted, cr_not_mem_escapeSign]

end Json

end PropTyper
