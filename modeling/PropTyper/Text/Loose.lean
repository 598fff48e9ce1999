import PropTyper.Text.Case

/-! # Texts with loose halves

Characters beyond the first plane may be written as two halves, and nothing keeps a writer from
leaving one of them alone. A loose text is a text in which that can happen.
-/

namespace PropTyper

inductive Sign where
  | char (c : Char)
  /-- Half of a pair, by its distance from the first of all halves. -/
  | half (offset : Fin 0x800)
deriving DecidableEq, Repr, Inhabited

/-- The number of the first half. -/
def Sign.firstHalf : Nat := 0xd800

def Sign.ofNat (n : Nat) : Sign :=
  if h : n - firstHalf < 0x800 then
    if firstHalf ≤ n then half ⟨n - firstHalf, h⟩ else char (Char.ofNat n)
  else char (Char.ofNat n)

def Sign.char? : Sign → Option Char
  | char c => some c
  | half _ => none

abbrev LooseText := List Sign

namespace LooseText

def ofString (text : String) : LooseText :=
  text.toList.map .char

instance : Coe String LooseText := ⟨ofString⟩

/-- The same text without halves, if there are none. -/
def toString? (text : LooseText) : Option String :=
  (text.mapM Sign.char?).map String.ofList

def hasHalf (text : LooseText) : Bool :=
  text.any fun s => s.char?.isNone

/-- A text with the sign for a missing character in the place of each half. -/
def filled (text : LooseText) : String :=
  String.ofList (text.map fun s => s.char?.getD '\ufffd')

/-- Changes what stands between halves, `run` of which has been read, the last character first. -/
def mapRuns (change : List Char → List Char) (run : List Char) : LooseText → LooseText
  | [] => (change run.reverse).map .char
  | .char c :: rest => mapRuns change (c :: run) rest
  | .half offset :: rest =>
    (change run.reverse).map .char ++ .half offset :: mapRuns change [] rest

def lower (text : LooseText) : LooseText :=
  mapRuns (fun run => (Text.lower (String.ofList run)).toList) [] text

theorem char?_ofString (text : String) : (ofString text).mapM Sign.char? = some text.toList := by
  unfold ofString
  induction text.toList with
  | nil => rfl
  | cons c rest ih => simp [Sign.char?, ih]

theorem toString?_ofString (text : String) : toString? (ofString text) = some text := by
  simp [toString?, char?_ofString]

theorem ofString_injective : Function.Injective ofString := by
  intro a b h
  have hboth := congrArg toString? h
  rw [toString?_ofString, toString?_ofString] at hboth
  exact Option.some.inj hboth

/-- Only the text itself is read as a text of characters. -/
theorem eq_ofString_of_toString? {text : LooseText} {whole : String} (h : toString? text = some whole) :
    text = ofString whole := by
  obtain ⟨chars, hchars, rfl⟩ := Option.map_eq_some_iff.1 h
  rw [ofString, String.toList_ofList]
  clear h
  induction text generalizing chars with
  | nil =>
    cases hchars
    rfl
  | cons s rest ih =>
    cases s with
    | half offset => simp [Sign.char?] at hchars
    | char c =>
      simp only [List.mapM_cons, Sign.char?, Option.pure_def, Option.bind_eq_bind, Option.bind_some,
        Option.bind_eq_some_iff, Option.some.injEq] at hchars
      obtain ⟨more, hmore, rfl⟩ := hchars
      rw [ih more hmore, List.map_cons]

end LooseText

end PropTyper
