import PropTyper.Proofs.Json.Members
import PropTyper.Proofs.Json.Quoted

/-! # Reading written values back

A value that holds no fraction is read as it was written, if a reader could have it at all: the names
in an object differ, no text has a pair of halves, and no whole number has too many digits.
-/

namespace PropTyper.Json

/-- What holds of a value as soon as it holds of its parts holds of every value. -/
theorem ind {P : Json → Prop} (null : P null) (bool : ∀ b, P (bool b)) (int : ∀ n, P (int n))
    (float : ∀ x, P (float x)) (str : ∀ s, P (str s))
    (list : ∀ items, (∀ item ∈ items, P item) → P (list items))
    (object : ∀ members, (∀ m ∈ members, P m.2) → P (object members)) (v : Json) : P v :=
  @Json.rec P (fun items => ∀ item ∈ items, P item) (fun members => ∀ m ∈ members, P m.2)
    (fun m => P m.2) null bool int float str list object (by simp)
    (fun _ _ hhead htail => List.forall_mem_cons.2 ⟨hhead, htail⟩) (by simp)
    (fun _ _ hhead htail => List.forall_mem_cons.2 ⟨hhead, htail⟩) (fun _ _ h => h) v

theorem allItems_iff {asked : Json → Bool} {items : List Json} :
    allItems asked items = true ↔ ∀ item ∈ items, item.all asked = true := by
  induction items with
  | nil => simp [allItems]
  | cons item rest ih => simp [allItems, ih]

theorem allMembers_iff {asked : Json → Bool} {members : Members} :
    allMembers asked members = true ↔ ∀ m ∈ members, m.2.all asked = true := by
  induction members with
  | nil => simp [allMembers]
  | cons m rest ih => simp [allMembers, ih]

theorem all_list {asked : Json → Bool} {items : List Json} :
    (list items).all asked = true ↔
      asked (list items) = true ∧ ∀ item ∈ items, item.all asked = true := by
  rw [all, Bool.and_eq_true, allItems_iff]

theorem all_object {asked : Json → Bool} {members : Members} :
    (object members).all asked = true ↔
      asked (object members) = true ∧ ∀ m ∈ members, m.2.all asked = true := by
  rw [all, Bool.and_eq_true, allMembers_iff]

/-! ## Numbers -/

def endsNumber : List Char → Bool
  | [] => true
  | c :: _ => !(c.isDigit || c = '.' || c = 'e' || c = 'E')

theorem natOf_toDigits (n : Nat) : natOf (Nat.toDigits 10 n) = n := by
  have hsame : natOf (Nat.toDigits 10 n) = Nat.ofDigitChars 10 (Nat.toDigits 10 n) 0 := by
    simp only [natOf, Nat.ofDigitChars, Nat.mul_comm]
  rw [hsame, Nat.ofDigitChars_toDigits (by decide) (by decide)]

theorem toDigits_eq_cons {n : Nat} (h : 0 < n) :
    ∃ c rest, Nat.toDigits 10 n = c :: rest ∧ c ≠ '0' := by
  induction n using Nat.strongRecOn with
  | ind n ih =>
      rw [Nat.toDigits_eq_if (by decide)]
      split
      · next hlt =>
        have hdigit : ∀ d : Fin 10, 0 < d.val → d.val.digitChar ≠ '0' := by decide
        exact ⟨_, _, rfl, hdigit ⟨n, hlt⟩ h⟩
      · next hge =>
        obtain ⟨c, rest, hrest, hc⟩ := ih (n / 10) (by omega) (by omega)
        exact ⟨c, _, by rw [hrest, List.cons_append], hc⟩

theorem digits_append {ds rest : List Char} (hds : ∀ c ∈ ds, c.isDigit = true)
    (hrest : endsNumber rest = true) : digits (ds ++ rest) = (ds, rest) := by
  have hstop : rest.takeWhile Char.isDigit = [] ∧ rest.dropWhile Char.isDigit = rest := by
    cases rest with
    | nil => simp
    | cons c more =>
        simp only [endsNumber, Bool.not_eq_true', Bool.or_eq_false_iff] at hrest
        simp [hrest.1.1.1]
  rw [digits, List.takeWhile_append_of_pos hds, List.dropWhile_append_of_pos hds, hstop.1, hstop.2,
    List.append_nil]

theorem wholePart_toDigits {rest : List Char} (n : Nat) (hrest : endsNumber rest = true) :
    wholePart (Nat.toDigits 10 n ++ rest) = (Nat.toDigits 10 n, rest) := by
  have hdigits : digits (Nat.toDigits 10 n ++ rest) = (Nat.toDigits 10 n, rest) :=
    digits_append (fun c hc => Nat.isDigit_of_mem_toDigits (by decide) (by decide) hc) hrest
  rcases Nat.eq_zero_or_pos n with rfl | hpos
  · rfl
  · obtain ⟨c, more, hmore, hc⟩ := toDigits_eq_cons hpos
    rw [← hdigits, hmore, List.cons_append, wholePart]
    simp [hc]

theorem fractionPart_of_endsNumber {rest : List Char} (h : endsNumber rest = true) :
    fractionPart rest = ([], rest) := by
  cases rest with
  | nil => rfl
  | cons c more =>
      simp only [endsNumber, Bool.not_eq_true', Bool.or_eq_false_iff, decide_eq_false_iff_not] at h
      simp [fractionPart, h.1.1.2]

theorem exponentPart_of_endsNumber {rest : List Char} (h : endsNumber rest = true) :
    exponentPart rest = (none, rest) := by
  cases rest with
  | nil => rfl
  | cons c more =>
      simp only [endsNumber, Bool.not_eq_true', Bool.or_eq_false_iff, decide_eq_false_iff_not] at h
      simp [exponentPart, h.1.2, h.2]

theorem toDigits_append_eq_cons (n : Nat) (rest : List Char) :
    ∃ c more, Nat.toDigits 10 n ++ rest = c :: more ∧ c.isDigit = true := by
  obtain ⟨c, more, hmore⟩ := List.exists_cons_of_ne_nil (Nat.toDigits_ne_nil (n := n) (b := 10))
  exact ⟨c, more ++ rest, by rw [hmore, List.cons_append],
    Nat.isDigit_of_mem_toDigits (by decide) (by decide) (hmore ▸ List.mem_cons_self)⟩

section Number

variable {rest : List Char} {n : Nat} (hshort : (Nat.toDigits 10 n).length ≤ maxDigits)
  (hrest : endsNumber rest = true)
include hshort hrest

theorem number_minus : number ('-' :: (Nat.toDigits 10 n ++ rest)) = .ok (.int (-n), rest) := by
  have hne : (Nat.toDigits 10 n).isEmpty = false := by simp [Nat.toDigits_ne_nil]
  simp [number, wholePart_toDigits n hrest, fractionPart_of_endsNumber hrest,
    exponentPart_of_endsNumber hrest, hne, natOf_toDigits, Nat.not_lt.2 hshort]

theorem number_toDigits : number (Nat.toDigits 10 n ++ rest) = .ok (.int n, rest) := by
  have hne : (Nat.toDigits 10 n).isEmpty = false := by simp [Nat.toDigits_ne_nil]
  unfold number
  split
  next negative body heq =>
    split at heq
    · next more hminus =>
      obtain ⟨c, tail, htail, hdigit⟩ := toDigits_append_eq_cons n rest
      rw [hminus] at htail
      injection htail with hc
      exact absurd (hc ▸ hdigit : '-'.isDigit = true) (by decide)
    · cases heq
      simp [wholePart_toDigits n hrest, fractionPart_of_endsNumber hrest,
        exponentPart_of_endsNumber hrest, hne, natOf_toDigits, Nat.not_lt.2 hshort]

end Number

theorem word?_of_isDigit {c : Char} (h : c.isDigit = true) (more : List Char) :
    word? (c :: more) = none ∧ word? ('-' :: c :: more) = none := by
  have hnone : (['n', 't', 'f', 'N', 'I', '-'].any Char.isDigit) = false := by decide
  have hne : ∀ d ∈ ['n', 't', 'f', 'N', 'I', '-'], d ≠ c := by
    intro d hd heq
    exact List.any_eq_false.1 hnone d hd (heq ▸ h)
  simp only [List.forall_mem_cons] at hne
  constructor <;> simp [word?, words, List.isPrefixOf, hne]

theorem value_int {n : Int} {rest : List Char} (fuel : Nat)
    (hshort : (toString n.natAbs).length ≤ maxDigits) (hrest : endsNumber rest = true) :
    value (fuel + 1) ((toString n).toList ++ rest) = .ok (.int n, rest) := by
  have hdigits : ∀ m : Nat, (toString m).toList = Nat.toDigits 10 m := fun m => Nat.toList_repr
  rw [← String.length_toList, hdigits] at hshort
  cases n with
  | ofNat m =>
      have htext : (toString (Int.ofNat m)).toList = Nat.toDigits 10 m := hdigits m
      obtain ⟨c, more, hmore, hdigit⟩ := toDigits_append_eq_cons m rest
      have hnumber : number (Nat.toDigits 10 m ++ rest) = .ok (.int m, rest) :=
        number_toDigits hshort hrest
      rw [hmore] at hnumber
      rw [htext, hmore, value.eq_5, (word?_of_isDigit hdigit more).1, hnumber]
      · rfl
      all_goals
        intro tail heq
        injection heq with hc
        subst hc
        revert hdigit
        decide
  | negSucc m =>
      have htext : (toString (Int.negSucc m)).toList = '-' :: Nat.toDigits 10 (m + 1) := by
        show ("-" ++ (m + 1).repr).toList = _
        rw [String.toList_append, Nat.toList_repr]
        rfl
      obtain ⟨c, more, hmore, hdigit⟩ := toDigits_append_eq_cons (m + 1) rest
      have hnumber : number ('-' :: (Nat.toDigits 10 (m + 1) ++ rest)) =
          .ok (.int (Int.negSucc m), rest) :=
        number_minus hshort hrest
      rw [hmore] at hnumber
      rw [htext, List.cons_append, hmore, value.eq_5, (word?_of_isDigit hdigit more).2, hnumber]
      all_goals
        intro tail heq
        injection heq with hc
        revert hc
        decide

/-! ## Values -/

/-- A value that is read as it was written: no fraction, no pair of halves in a text or a name, and
the names of an object different. -/
def isFaithful : Json → Bool
  | float _ => false
  | str s => !s.hasPair
  | object members => decide (members.map Prod.fst).Nodup && members.all fun m => !m.1.hasPair
  | _ => true

variable {charset : Charset}

theorem skipSpace_newline (level : Nat) (text : List Char) :
    skipSpace (newline level ++ text) = skipSpace text := by
  have hspaces : ∀ c ∈ newline level, isSpace c = true := by
    intro c hc
    rcases List.mem_cons.1 hc with rfl | hc
    · rfl
    · rw [List.eq_of_mem_replicate hc]
      rfl
  rw [skipSpace, List.dropWhile_append_of_pos hspaces, skipSpace]

theorem skipSpace_cons {c : Char} (h : isSpace c = false) (rest : List Char) :
    skipSpace (c :: rest) = c :: rest := by
  simp [skipSpace, h]

theorem isSpace_of_isDigit {c : Char} (h : c.isDigit = true) :
    isSpace c = false ∧ c ≠ ']' ∧ c ≠ '\ufeff' := by
  have hnone : ([' ', '\t', '\n', '\r', ']', '\ufeff'].any Char.isDigit) = false := by decide
  have hne : ∀ d ∈ [' ', '\t', '\n', '\r', ']', '\ufeff'], c ≠ d := by
    intro d hd heq
    exact List.any_eq_false.1 hnone d hd (heq ▸ h)
  simp only [List.forall_mem_cons] at hne
  simp [isSpace, hne]

theorem render_eq_cons {v : Json} (h : v.isFaithful = true) (charset : Charset) (level : Nat) :
    ∃ c more, render charset level v = c :: more ∧ isSpace c = false ∧ c ≠ ']' ∧ c ≠ '\ufeff' := by
  cases v with
  | null => exact ⟨_, _, rfl, rfl, by decide⟩
  | bool b => cases b <;> exact ⟨_, _, rfl, rfl, by decide⟩
  | int n =>
      cases n with
      | ofNat m =>
          obtain ⟨c, more, hmore, hdigit⟩ := toDigits_append_eq_cons m []
          have hspace := isSpace_of_isDigit hdigit
          refine ⟨c, more, ?_, hspace⟩
          rw [← hmore, List.append_nil, ← Nat.toList_repr]
          rfl
      | negSucc m =>
          refine ⟨'-', (m + 1).repr.toList, ?_, rfl, by decide⟩
          show ("-" ++ (m + 1).repr).toList = _
          rw [String.toList_append]
          rfl
  | float x => cases h
  | str s => exact ⟨_, _, rfl, rfl, by decide⟩
  | list items => cases items <;> exact ⟨_, _, rfl, rfl, by decide⟩
  | object members => cases members <;> exact ⟨_, _, rfl, rfl, by decide⟩

/-- The value is read back wherever no number goes on after it. -/
def ReadsBack (charset : Charset) (v : Json) : Prop :=
  ∀ level fuel rest, endsNumber rest = true → (render charset level v).length ≤ fuel →
    value fuel (render charset level v ++ rest) = .ok (v, rest)

/-- The items of a list are read back one after the other. -/
theorem itemsFrom_render {item : Json} {items : List Json}
    (h : ∀ v ∈ item :: items, v.isFaithful = true ∧ ReadsBack charset v) {level outer fuel : Nat}
    (read : List Json) {rest : List Char}
    (hfuel : (render charset level item).length + (renderItems charset level items).length < fuel) :
    itemsFrom fuel read (render charset level item ++
        (renderItems charset level items ++ (newline outer ++ ']' :: rest))) =
      .ok (.list (read.reverse ++ item :: items), rest) := by
  induction items generalizing item fuel read with
  | nil =>
      obtain ⟨fuel, rfl⟩ : ∃ f, fuel = f + 1 := ⟨fuel - 1, by omega⟩
      have hitem := (h item List.mem_cons_self).2 level fuel (newline outer ++ ']' :: rest) rfl (by omega)
      rw [renderItems, List.nil_append, itemsFrom.eq_2, hitem]
      dsimp only
      rw [skipSpace_newline, skipSpace_cons rfl]
      simp
  | cons next more ih =>
      obtain ⟨fuel, rfl⟩ : ∃ f, fuel = f + 1 := ⟨fuel - 1, by omega⟩
      obtain ⟨hitem, hlater⟩ := List.forall_mem_cons.1 h
      have hfirst := hitem.2 level fuel (renderItems charset level (next :: more) ++
        (newline outer ++ ']' :: rest)) rfl (by omega)
      obtain ⟨c, tail, hnext, hspace, -⟩ := render_eq_cons (hlater next List.mem_cons_self).1 charset level
      have hlength : (render charset level next).length + (renderItems charset level more).length < fuel := by
        simp only [renderItems, List.length_cons, List.length_append] at hfuel
        omega
      have hrest := ih hlater (item :: read) hlength
      rw [itemsFrom.eq_2, hfirst]
      dsimp only
      rw [renderItems, List.cons_append, skipSpace_cons rfl]
      simp only [List.append_assoc]
      rw [skipSpace_newline, hnext, List.cons_append, skipSpace_cons hspace, ← List.cons_append, ← hnext,
        hrest]
      simp

def afterMember (fuel : Nat) (read : Members) (tail : List Char) : Result Json :=
  match skipSpace tail with
  | '\x7d' :: more => .ok (.object (distinctMembers read.reverse), more)
  | ',' :: more => membersFrom fuel read (skipSpace more)
  | other => .error ⟨.comma, other⟩

theorem membersFrom_member {name : LooseText} {v : Json} (hname : name.hasPair = false)
    (hfaithful : v.isFaithful = true) (hreads : ReadsBack charset v) {level fuel : Nat} (read : Members)
    {tail : List Char} (htail : endsNumber tail = true) (hfuel : (render charset level v).length ≤ fuel) :
    membersFrom (fuel + 1) read (quoted charset name ++ ':' :: ' ' :: (render charset level v ++ tail)) =
      afterMember fuel ((name, v) :: read) tail := by
  obtain ⟨more, hmore⟩ : ∃ more, quoted charset name ++ ':' :: ' ' :: (render charset level v ++ tail) =
      '\x22' :: more := ⟨_, rfl⟩
  have hstart : skipSpace (' ' :: (render charset level v ++ tail)) = render charset level v ++ tail := by
    obtain ⟨c, more, hvalue, hspace, -⟩ := render_eq_cons hfaithful charset level
    rw [hvalue, List.cons_append]
    exact skipSpace_cons hspace _
  rw [hmore, membersFrom.eq_2, ← hmore, string_quoted hname]
  dsimp only
  rw [skipSpace_cons rfl]
  simp only [hstart, hreads level fuel tail htail hfuel]
  rfl

/-- The members of an object are read back one after the other. -/
theorem membersFrom_render {name : LooseText} {v : Json} {members : Members}
    (h : ∀ m ∈ (name, v) :: members,
      m.1.hasPair = false ∧ m.2.isFaithful = true ∧ ReadsBack charset m.2)
    {level outer fuel : Nat} (read : Members) {rest : List Char}
    (hfuel : (render charset level v).length + (renderMembers charset level members).length < fuel) :
    membersFrom fuel read (quoted charset name ++ ':' :: ' ' :: (render charset level v ++
        (renderMembers charset level members ++ (newline outer ++ '\x7d' :: rest)))) =
      .ok (.object (distinctMembers (read.reverse ++ (name, v) :: members)), rest) := by
  induction members generalizing name v fuel read with
  | nil =>
      obtain ⟨fuel, rfl⟩ : ∃ f, fuel = f + 1 := ⟨fuel - 1, by omega⟩
      obtain ⟨hname, hfaithful, hreads⟩ := h (name, v) List.mem_cons_self
      have hlength : (render charset level v).length ≤ fuel := by omega
      rw [renderMembers, List.nil_append, membersFrom_member hname hfaithful hreads read rfl hlength,
        afterMember, skipSpace_newline, skipSpace_cons rfl]
      simp
  | cons next members ih =>
      obtain ⟨fuel, rfl⟩ : ∃ f, fuel = f + 1 := ⟨fuel - 1, by omega⟩
      obtain ⟨nextName, nextValue⟩ := next
      obtain ⟨⟨hname, hfaithful, hreads⟩, hlater⟩ := List.forall_mem_cons.1 h
      have hfirst : (render charset level v).length ≤ fuel := by omega
      have hlength : (render charset level nextValue).length +
          (renderMembers charset level members).length < fuel := by
        simp only [renderMembers, List.length_cons, List.length_append] at hfuel
        omega
      have hrest := ih hlater ((name, v) :: read) hlength
      have hquote : ∀ tail, skipSpace (quoted charset nextName ++ tail) = quoted charset nextName ++ tail :=
        fun _ => skipSpace_cons rfl _
      rw [membersFrom_member hname hfaithful hreads read rfl hfirst, afterMember, renderMembers,
        List.cons_append, skipSpace_cons rfl]
      simp only [List.append_assoc, List.cons_append, List.nil_append]
      rw [skipSpace_newline, hquote, hrest]
      simp

theorem asked_of_all {asked : Json → Bool} {v : Json} (h : v.all asked = true) : asked v = true := by
  cases v with
  | list items => exact (all_list.1 h).1
  | object members => exact (all_object.1 h).1
  | _ => exact h

theorem readsBack_of_succ {v : Json} (hfaithful : v.isFaithful = true)
    (h : ∀ level fuel rest, endsNumber rest = true → (render charset level v).length ≤ fuel + 1 →
      value (fuel + 1) (render charset level v ++ rest) = .ok (v, rest)) : ReadsBack charset v := by
  intro level fuel rest hrest hfuel
  obtain ⟨c, more, hcons, -⟩ := render_eq_cons hfaithful charset level
  obtain ⟨fuel, rfl⟩ : ∃ f, fuel = f + 1 := by
    refine ⟨fuel - 1, ?_⟩
    rw [hcons, List.length_cons] at hfuel
    omega
  exact h level fuel rest hrest hfuel

theorem value_str {s : LooseText} (h : s.hasPair = false) (fuel : Nat) (rest : List Char) :
    value (fuel + 1) (quoted charset s ++ rest) = .ok (.str s, rest) := by
  obtain ⟨more, hmore⟩ : ∃ more, quoted charset s ++ rest = '\x22' :: more := ⟨_, rfl⟩
  rw [hmore, value.eq_2, ← hmore, string_quoted h]

theorem value_list {items : List Json} (h : ∀ v ∈ items, v.isFaithful = true ∧ ReadsBack charset v)
    {level fuel : Nat} {rest : List Char} (hfuel : (render charset level (.list items)).length ≤ fuel + 1) :
    value (fuel + 1) (render charset level (.list items) ++ rest) = .ok (.list items, rest) := by
  cases items with
  | nil => rfl
  | cons item items =>
      obtain ⟨c, more, hitem, hspace, hclose, -⟩ :=
        render_eq_cons (h item List.mem_cons_self).1 charset (level + 1)
      have hlength : (render charset (level + 1) item).length +
          (renderItems charset (level + 1) items).length < fuel := by
        simp only [render, newline, List.length_cons, List.length_append] at hfuel
        omega
      have hitems : itemsFrom fuel [] (render charset (level + 1) item ++
          (renderItems charset (level + 1) items ++ (newline level ++ ']' :: rest))) =
          .ok (.list (item :: items), rest) :=
        itemsFrom_render h [] hlength
      rw [render, List.cons_append, value.eq_4]
      simp only [List.append_assoc, List.singleton_append]
      rw [skipSpace_newline, hitem, List.cons_append, skipSpace_cons hspace]
      rw [hitem, List.cons_append] at hitems
      split
      · next heq =>
        injection heq with hc
        exact (hclose hc).elim
      · exact hitems

theorem value_object {members : Members}
    (h : ∀ m ∈ members, m.1.hasPair = false ∧ m.2.isFaithful = true ∧ ReadsBack charset m.2)
    (hnames : (members.map Prod.fst).Nodup) {level fuel : Nat} {rest : List Char}
    (hfuel : (render charset level (.object members)).length ≤ fuel + 1) :
    value (fuel + 1) (render charset level (.object members) ++ rest) = .ok (.object members, rest) := by
  cases members with
  | nil => rfl
  | cons m members =>
      obtain ⟨name, v⟩ := m
      have hlength : (render charset (level + 1) v).length +
          (renderMembers charset (level + 1) members).length < fuel := by
        simp only [render, newline, List.length_cons, List.length_append] at hfuel
        omega
      have hmembers : membersFrom fuel [] (quoted charset name ++
          ':' :: ' ' :: (render charset (level + 1) v ++
            (renderMembers charset (level + 1) members ++ (newline level ++ '\x7d' :: rest)))) =
          .ok (.object (distinctMembers ((name, v) :: members)), rest) :=
        membersFrom_render h [] hlength
      have hquote : ∀ tail, skipSpace (quoted charset name ++ tail) = quoted charset name ++ tail :=
        fun _ => skipSpace_cons rfl _
      rw [distinctMembers_of_nodup hnames] at hmembers
      rw [render, List.cons_append, value.eq_3]
      simp only [List.append_assoc, List.cons_append, List.nil_append]
      rw [skipSpace_newline, hquote]
      split
      · next heq => cases heq
      · exact hmembers

/-- Every value that can be read back is. -/
theorem readsBack {v : Json} (h : v.all isFaithful = true) (hshort : v.all isShort = true) :
    ReadsBack charset v := by
  have hself := asked_of_all h
  induction v using ind with
  | null => exact readsBack_of_succ hself fun _ _ _ _ _ => rfl
  | bool b => cases b <;> exact readsBack_of_succ hself fun _ _ _ _ _ => rfl
  | int n =>
      have hdigits : (toString n.natAbs).length ≤ maxDigits := by simpa [all, isShort] using hshort
      exact readsBack_of_succ hself fun _ fuel _ hrest _ => value_int fuel hdigits hrest
  | float x => cases h
  | str s =>
      have hpair : s.hasPair = false := by simpa [isFaithful] using hself
      exact readsBack_of_succ hself fun _ fuel rest _ _ => value_str hpair fuel rest
  | list items ih =>
      rw [all_list] at h hshort
      exact readsBack_of_succ hself fun _ _ _ _ hfuel => value_list
        (fun v hv => ⟨asked_of_all (h.2 v hv), ih v hv (h.2 v hv) (hshort.2 v hv) (asked_of_all (h.2 v hv))⟩) hfuel
  | object members ih =>
      rw [all_object] at h hshort
      have hnames := hself
      simp only [isFaithful, Bool.and_eq_true, decide_eq_true_eq, List.all_eq_true,
        Bool.not_eq_true'] at hnames
      exact readsBack_of_succ hself fun _ _ _ _ hfuel => value_object
        (fun m hm => ⟨hnames.2 m hm, asked_of_all (h.2 m hm),
          ih m hm (h.2 m hm) (hshort.2 m hm) (asked_of_all (h.2 m hm))⟩) hnames.1 hfuel

/-- A whole text is read back. -/
theorem parse_render {v : Json} (h : v.all isFaithful = true) (hshort : v.all isShort = true) :
    parse (render charset 0 v) = .ok v := by
  have hreads : ReadsBack charset v := readsBack h hshort
  have hvalue := hreads 0 (2 * (render charset 0 v).length + 2) [] rfl (by omega)
  obtain ⟨c, more, hcons, hspace, -, hmark⟩ := render_eq_cons (asked_of_all h) charset 0
  rw [List.append_nil, hcons] at hvalue
  rw [hcons, parse]
  · rw [skipSpace_cons hspace, hvalue]
    rfl
  · intro tail heq
    injection heq with hc
    exact hmark hc

/-! ## Line ends -/

theorem cr_not_mem_newline (level : Nat) : '\r' ∉ newline level := by
  simp [newline]

theorem cr_not_mem_toString (n : Int) : '\r' ∉ (toString n).toList := by
  have hdigits : ∀ m, '\r' ∉ Nat.toDigits 10 m := fun m hmem =>
    absurd (Nat.isDigit_of_mem_toDigits (by decide) (by decide) hmem) (by decide)
  cases n with
  | ofNat m =>
      show '\r' ∉ m.repr.toList
      rw [Nat.toList_repr]
      exact hdigits m
  | negSucc m =>
      show '\r' ∉ ("-" ++ (m + 1).repr).toList
      rw [String.toList_append, Nat.toList_repr, List.mem_append, not_or]
      exact ⟨by decide, hdigits (m + 1)⟩

theorem cr_not_mem_renderItems {items : List Json} {level : Nat}
    (h : ∀ item ∈ items, '\r' ∉ render charset level item) : '\r' ∉ renderItems charset level items := by
  induction items with
  | nil => simp [renderItems]
  | cons item rest ih =>
      rw [List.forall_mem_cons] at h
      simp [renderItems, cr_not_mem_newline, h.1, ih h.2]

theorem cr_not_mem_renderMembers {members : Members} {level : Nat}
    (h : ∀ m ∈ members, '\r' ∉ render charset level m.2) : '\r' ∉ renderMembers charset level members := by
  induction members with
  | nil => simp [renderMembers]
  | cons m rest ih =>
      rw [List.forall_mem_cons] at h
      simp [renderMembers, cr_not_mem_newline, cr_not_mem_quoted, h.1, ih h.2]

theorem cr_not_mem_render {v : Json} (h : v.all isFaithful = true) (level : Nat) :
    '\r' ∉ render charset level v := by
  induction v using ind generalizing level with
  | null => simp [render]
  | bool b => cases b <;> simp [render]
  | int n => exact cr_not_mem_toString n
  | float x => cases h
  | str s => exact cr_not_mem_quoted charset s
  | list items ih =>
      have hitems : ∀ item ∈ items, '\r' ∉ render charset (level + 1) item :=
        fun item hitem => ih item hitem ((all_list.1 h).2 item hitem) (level + 1)
      cases items with
      | nil => simp [render]
      | cons item rest =>
          rw [List.forall_mem_cons] at hitems
          simp [render, cr_not_mem_newline, hitems.1, cr_not_mem_renderItems hitems.2]
  | object members ih =>
      have hmembers : ∀ m ∈ members, '\r' ∉ render charset (level + 1) m.2 :=
        fun m hm => ih m hm ((all_object.1 h).2 m hm) (level + 1)
      cases members with
      | nil => simp [render]
      | cons m rest =>
          rw [List.forall_mem_cons] at hmembers
          simp [render, cr_not_mem_newline, cr_not_mem_quoted, hmembers.1,
            cr_not_mem_renderMembers hmembers.2]

end PropTyper.Json
