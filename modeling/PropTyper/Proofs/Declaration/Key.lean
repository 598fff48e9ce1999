import PropTyper.Proofs.Declaration.Syntax

/-! # Keys written and read again

A key that needs quotes is written with a backslash before each backslash and each quote. The reader
takes off the quotes and leaves the rest as it is, so a name in which something was escaped comes
back longer than it was. It then holds a backslash and grows again each time it is written.
-/

namespace PropTyper

namespace Key

/-! ## Escapes -/

def isEscaped (quote c : Char) : Bool :=
  c = '\\' || c = quote

theorem escape_cons (quote c : Char) (rest : List Char) :
    escape quote (c :: rest) =
      (if isEscaped quote c then ['\\', c] else [c]) ++ escape quote rest := rfl

theorem escape_cons_of_isEscaped {quote c : Char} (h : isEscaped quote c = true)
    (rest : List Char) : escape quote (c :: rest) = '\\' :: c :: escape quote rest := by
  rw [escape_cons, if_pos h]
  rfl

theorem escape_cons_of_not_isEscaped {quote c : Char} (h : ¬ isEscaped quote c = true)
    (rest : List Char) : escape quote (c :: rest) = c :: escape quote rest := by
  rw [escape_cons, if_neg h]
  rfl

theorem length_escape (quote : Char) (text : List Char) :
    (escape quote text).length = text.length + text.countP (isEscaped quote) := by
  induction text with
  | nil => rfl
  | cons c rest ih =>
      by_cases hc : isEscaped quote c = true
      · rw [escape_cons_of_isEscaped hc, List.countP_cons_of_pos hc]
        simp only [List.length_cons, ih]
        omega
      · rw [escape_cons_of_not_isEscaped hc, List.countP_cons_of_neg hc]
        simp only [List.length_cons, ih]
        omega

theorem escape_eq_self_iff {quote : Char} {text : List Char} :
    escape quote text = text ↔ ∀ c ∈ text, isEscaped quote c = false := by
  constructor
  · intro h
    have hlength := length_escape quote text
    rw [h] at hlength
    have hnone : text.countP (isEscaped quote) = 0 := by omega
    simpa using List.countP_eq_zero.1 hnone
  · intro h
    induction text with
    | nil => rfl
    | cons c rest ih =>
        have hc := Bool.eq_false_iff.1 (h c List.mem_cons_self)
        rw [escape_cons_of_not_isEscaped hc, ih fun d hd => h d (List.mem_cons_of_mem c hd)]

theorem backslash_mem_escape {quote c : Char} {text : List Char} (hc : c ∈ text)
    (h : isEscaped quote c = true) : '\\' ∈ escape quote text := by
  have hpart : '\\' ∈ (if isEscaped quote c then ['\\', c] else [c]) := by
    rw [if_pos h]
    exact List.mem_cons_self
  exact List.mem_flatMap.2 ⟨c, hc, hpart⟩

def unescape : List Char → List Char
  | [] => []
  | '\\' :: c :: rest => c :: unescape rest
  | c :: rest => c :: unescape rest

theorem unescape_escape (quote : Char) (text : List Char) :
    unescape (escape quote text) = text := by
  induction text with
  | nil => rfl
  | cons c rest ih =>
      by_cases hc : isEscaped quote c = true
      · rw [escape_cons_of_isEscaped hc, unescape, ih]
      · have hne : c ≠ '\\' := by
          rintro rfl
          exact hc rfl
        rw [escape_cons_of_not_isEscaped hc, unescape, ih]
        intro d tail hcd
        exact (hne hcd).elim

theorem escape_injective (quote : Char) : Function.Injective (escape quote) :=
  Function.LeftInverse.injective (unescape_escape quote)

/-! ## Names -/

theorem isEscaped_of_isPlain {text : List Char} (h : isPlain text = true) (quote : QuoteStyle) :
    ∀ c ∈ text, isEscaped quote.char c = false := by
  have hsafe : ∀ c, continuesPlain c = true ∨ c = '\n' → isEscaped quote.char c = false := by
    intro c hc
    refine Bool.eq_false_iff.2 fun hescaped => ?_
    simp only [isEscaped, Bool.or_eq_true, decide_eq_true_eq] at hescaped
    rcases hescaped with rfl | rfl
    · exact absurd hc (by decide)
    · cases quote with
      | single => exact absurd hc (by decide)
      | double => exact absurd hc (by decide)
  intro c hc
  apply hsafe
  cases text with
  | nil => cases hc
  | cons first rest =>
      rw [isPlain, Bool.and_eq_true] at h
      obtain ⟨hfirst, hrest⟩ := h
      rcases List.mem_cons.1 hc with rfl | hc
      · exact .inl (by rw [continuesPlain, hfirst, Bool.true_or])
      · rw [← List.takeWhile_append_dropWhile (p := continuesPlain) (l := rest)] at hc
        rcases List.mem_append.1 hc with hc | hc
        · exact .inl (List.all_eq_true.1 List.all_takeWhile c hc)
        · split at hrest
          · next hnone => simp [hnone] at hc
          · next last hlast =>
            rw [hlast, List.mem_singleton] at hc
            exact .inr (hc.trans (of_decide_eq_true hrest))
          · cases hrest

theorem not_isPlain_quoted (quote : QuoteStyle) (text : List Char) :
    ¬ isPlain (quoted quote.char text) = true := by
  rw [quoted, isPlain, Bool.and_eq_true]
  rintro ⟨hfirst, -⟩
  cases quote with
  | single => exact absurd hfirst (by decide)
  | double => exact absurd hfirst (by decide)

/-- Different names are written as different keys. -/
theorem render_injective (quote : QuoteStyle) : Function.Injective (render quote.char) := by
  intro first second h
  have hlist := congrArg String.toList h
  unfold render at hlist
  by_cases hfirst : isPlain first.toList = true
  · by_cases hsecond : isPlain second.toList = true
    · rw [if_pos hfirst, if_pos hsecond] at hlist
      exact String.toList_inj.1 hlist
    · rw [if_pos hfirst, if_neg hsecond, String.toList_ofList] at hlist
      exact absurd (hlist ▸ hfirst) (not_isPlain_quoted quote _)
  · by_cases hsecond : isPlain second.toList = true
    · rw [if_neg hfirst, if_pos hsecond, String.toList_ofList] at hlist
      exact absurd (hlist ▸ hsecond) (not_isPlain_quoted quote _)
    · rw [if_neg hfirst, if_neg hsecond, String.toList_ofList, String.toList_ofList] at hlist
      have hescaped := List.append_cancel_right (List.cons.inj hlist).2
      exact String.toList_inj.1 (escape_injective quote.char hescaped)

def isVerbatim (quote : QuoteStyle) (name : String) : Bool :=
  name.toList.all fun c => !isEscaped quote.char c

/-- The name as it is read from a key that was written for it. -/
def readBack (quote : QuoteStyle) (name : String) : String :=
  String.ofList (escape quote.char name.toList)

theorem toList_readBack (quote : QuoteStyle) (name : String) :
    (readBack quote name).toList = escape quote.char name.toList :=
  String.toList_ofList

theorem length_readBack (quote : QuoteStyle) (name : String) :
    (readBack quote name).length = name.length + name.toList.countP (isEscaped quote.char) := by
  rw [← String.length_toList, toList_readBack, length_escape, String.length_toList]

theorem readBack_ne_empty {name : String} (h : name ≠ "") (quote : QuoteStyle) :
    readBack quote name ≠ "" := by
  intro hempty
  have hlength := length_readBack quote name
  rw [hempty, String.length_empty] at hlength
  exact h (String.length_eq_zero_iff.1 (by omega))

theorem readBack_eq_iff {quote : QuoteStyle} {name : String} :
    readBack quote name = name ↔ isVerbatim quote name = true := by
  rw [← String.toList_inj, toList_readBack, escape_eq_self_iff, isVerbatim, List.all_eq_true]
  simp only [Bool.not_eq_true']

/-- A name that is not read as it was gets longer, and never is again. -/
theorem readBack_of_not_isVerbatim {quote : QuoteStyle} {name : String}
    (h : isVerbatim quote name = false) :
    name.length < (readBack quote name).length ∧
      ∀ other, isVerbatim other (readBack quote name) = false := by
  obtain ⟨c, hc, hescaped⟩ := List.all_eq_false.1 h
  rw [Bool.not_eq_true, Bool.not_eq_false'] at hescaped
  constructor
  · have hcount : 0 < name.toList.countP (isEscaped quote.char) :=
      List.countP_pos_iff.2 ⟨c, hc, hescaped⟩
    rw [length_readBack]
    omega
  · intro other
    refine List.all_eq_false.2 ⟨'\\', ?_, by simp [isEscaped]⟩
    rw [toList_readBack]
    exact backslash_mem_escape hc hescaped

end Key

/-- A key that is written for a name is read as the name with its escapes. -/
theorem Tree.IsKey.keyName?_eq {key : Tree} {quote : QuoteStyle} {name : String}
    (hkey : key.IsKey quote.char name) (hname : name ≠ "") :
    key.keyName? = some (Key.readBack quote name) := by
  have hkind := hkey.kind_eq
  have htext := hkey.text_eq
  unfold Key.render at htext
  unfold Tree.keyName?
  by_cases hplain : Key.isPlain name.toList = true
  · have hsame : Key.readBack quote name = name := by
      rw [← String.toList_inj, Key.toList_readBack, Key.escape_eq_self_iff]
      exact Key.isEscaped_of_isPlain hplain quote
    rw [if_pos hplain] at hkind htext
    rw [hkind, htext, hsame]
    rfl
  · rw [if_neg hplain] at hkind htext
    have hunquoted : unquoted key.text = Key.readBack quote name := by
      rw [htext, unquoted, Key.quoted, Key.readBack]
      simp
    rw [if_pos hkind]
    dsimp only
    rw [hunquoted, if_neg (Key.readBack_ne_empty hname quote)]

namespace Key

/-! ## Round after round -/

/-- A key is written for a name in one style after the other, each time for the name that was read
from the key before. -/
inductive Rewritten : List QuoteStyle → String → String → Prop
  | nil (name : String) : Rewritten [] name name
  | cons {quote : QuoteStyle} {styles : List QuoteStyle} {name next last : String} {key : Tree}
      (hkey : key.IsKey quote.char name) (hread : key.keyName? = some next)
      (hrest : Rewritten styles next last) : Rewritten (quote :: styles) name last

theorem exists_rewritten (styles : List QuoteStyle) {name : String} (hname : name ≠ "") :
    ∃ last, Rewritten styles name last := by
  induction styles generalizing name with
  | nil => exact ⟨name, .nil name⟩
  | cons quote styles ih =>
      let key : Tree :=
        { kind := if isPlain name.toList then .propertyIdentifier else .string
          span := ⟨0, 0⟩
          text := render quote.char name }
      have hkey : key.IsKey quote.char name := ⟨rfl, rfl⟩
      obtain ⟨last, hlast⟩ := ih (readBack_ne_empty hname quote)
      exact ⟨last, .cons hkey (hkey.keyName?_eq hname) hlast⟩

theorem Rewritten.length_le {styles : List QuoteStyle} {name last : String}
    (h : Rewritten styles name last) (hname : name ≠ "") :
    name.length + styles.countP (fun quote => !isVerbatim quote name) ≤ last.length := by
  induction h with
  | nil name => simp
  | @cons quote styles name next last key hkey hread hrest ih =>
      obtain rfl : readBack quote name = next :=
        Option.some.inj ((hkey.keyName?_eq hname).symm.trans hread)
      have hnext := ih (readBack_ne_empty hname quote)
      by_cases hverbatim : isVerbatim quote name = true
      · rw [readBack_eq_iff.2 hverbatim] at hnext
        rwa [List.countP_cons_of_neg (by simp [hverbatim])]
      · rw [Bool.not_eq_true] at hverbatim
        obtain ⟨hlonger, hnever⟩ := readBack_of_not_isVerbatim hverbatim
        -- from here on no style is safe, so every later round counts
        have hall : styles.countP (fun quote => !isVerbatim quote name) ≤
            styles.countP fun other => !isVerbatim other (readBack quote name) := by
          refine List.countP_mono_left ?_
          intro other _ _
          simp [hnever other]
        rw [List.countP_cons_of_pos (by simp [hverbatim])]
        omega

theorem Rewritten.eq_of_isVerbatim {styles : List QuoteStyle} {name last : String}
    (h : Rewritten styles name last) (hname : name ≠ "")
    (hverbatim : ∀ quote ∈ styles, isVerbatim quote name = true) : last = name := by
  induction h with
  | nil name => rfl
  | @cons quote styles name next last key hkey hread hrest ih =>
      have hsame := readBack_eq_iff.2 (hverbatim quote List.mem_cons_self)
      obtain rfl : name = next :=
        Option.some.inj ((hsame ▸ hkey.keyName?_eq hname).symm.trans hread)
      exact ih hname fun other hother => hverbatim other (List.mem_cons_of_mem quote hother)

/-- A key is read as the name that it was written for if and only if nothing in the name had to be
escaped. Written and read again and again, the name stays the same exactly if that holds of every
style that it is written in; otherwise it grows in each of those rounds. -/
theorem rewritten_eq_iff {name : String} (hname : name ≠ "") :
    (∀ (quote : QuoteStyle) (key : Tree), key.IsKey quote.char name →
        ∃ read, key.keyName? = some read ∧ (read = name ↔ isVerbatim quote name = true)) ∧
      ∀ styles, (∃ last, Rewritten styles name last) ∧ ∀ last, Rewritten styles name last →
        name.length + styles.countP (fun quote => !isVerbatim quote name) ≤ last.length ∧
          (last = name ↔ ∀ quote ∈ styles, isVerbatim quote name = true) := by
  constructor
  · intro quote key hkey
    exact ⟨_, hkey.keyName?_eq hname, readBack_eq_iff⟩
  · intro styles
    refine ⟨exists_rewritten styles hname, fun last h => ?_⟩
    have hlength := h.length_le hname
    refine ⟨hlength, ?_, h.eq_of_isVerbatim hname⟩
    intro hsame quote hquote
    rw [hsame] at hlength
    have hnone : styles.countP (fun quote => !isVerbatim quote name) = 0 := by omega
    simpa using List.countP_eq_zero.1 hnone quote hquote

/-- An apostrophe is safe between double quotes and lost at the first single ones. -/
theorem rewritten_possessive :
    "it\x27s" ≠ "" ∧
      (∀ last, Rewritten [.double, .double] "it\x27s" last → last = "it\x27s") ∧
        ∀ last, Rewritten [.double, .single] "it\x27s" last → last ≠ "it\x27s" := by
  have hname : "it\x27s" ≠ "" := by decide
  obtain ⟨-, hrounds⟩ := rewritten_eq_iff hname
  refine ⟨hname, fun last h => ?_, fun last h hsame => ?_⟩
  · exact ((hrounds _).2 last h).2.2 (by decide)
  · exact absurd (((hrounds _).2 last h).2.1 hsame) (by decide)

/-- The key `'it\'s'` with its quotes. -/
def possessiveKey : Tree :=
  { kind := .string, span := ⟨0, 7⟩, text := "\x27it\\\x27s\x27" }

/-- It is what is written for a name with an apostrophe, and it is read with the backslash. -/
theorem keyName?_possessiveKey :
    possessiveKey.IsKey QuoteStyle.single.char "it\x27s" ∧
      possessiveKey.keyName? = some "it\\\x27s" :=
  ⟨⟨by decide, by decide⟩, by decide⟩

end Key

end PropTyper
