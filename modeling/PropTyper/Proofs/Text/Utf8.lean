import PropTyper.Text.Utf8

/-! # Texts and their bytes

Decoding undoes encoding, and what can be decoded is the encoding of the text that it gives. Both
rest on one character: the first byte promises how many follow, and the bounds on the second keep
out long forms, halves of pairs and what lies past the last code point.
-/

namespace PropTyper.Text.Utf8

def secondLow (b : Nat) : Nat :=
  if b = 0xe0 then 0xa0 else if b = 0xf0 then 0x90 else 0x80

def secondHigh (b : Nat) : Nat :=
  if b = 0xed then 0x9f else if b = 0xf4 then 0x8f else 0xbf

theorem secondLow_bounds (b : Nat) :
    0x80 ≤ secondLow b ∧ (b = 0xe0 → 0xa0 ≤ secondLow b) ∧ (b = 0xf0 → 0x90 ≤ secondLow b) := by
  unfold secondLow
  grind

theorem secondHigh_bounds (b : Nat) :
    secondHigh b ≤ 0xbf ∧ (b = 0xed → secondHigh b ≤ 0x9f) ∧ (b = 0xf4 → secondHigh b ≤ 0x8f) := by
  unfold secondHigh
  grind

theorem lead?_cases {b : Nat} {lead : Lead} (h : lead? b = some lead) :
    (b < 0x80 ∧ lead = ⟨b, 0, 0x80, 0xbf⟩) ∨
    (0xc2 ≤ b ∧ b < 0xe0 ∧ lead = ⟨b - 0xc0, 1, 0x80, 0xbf⟩) ∨
    (0xe0 ≤ b ∧ b < 0xf0 ∧ lead = ⟨b - 0xe0, 2, secondLow b, secondHigh b⟩) ∨
    (0xf0 ≤ b ∧ b < 0xf5 ∧ lead = ⟨b - 0xf0, 3, secondLow b, secondHigh b⟩) := by
  unfold lead? at h
  unfold secondLow secondHigh
  grind

theorem lead?_one {b : Nat} (h : b < 0x80) : lead? b = some ⟨b, 0, 0x80, 0xbf⟩ := by
  simp [lead?, h]

theorem lead?_two {b : Nat} (hlow : 0xc2 ≤ b) (hhigh : b < 0xe0) :
    lead? b = some ⟨b - 0xc0, 1, 0x80, 0xbf⟩ := by
  unfold lead?
  grind

theorem lead?_three {b : Nat} (hlow : 0xe0 ≤ b) (hhigh : b < 0xf0) :
    lead? b = some ⟨b - 0xe0, 2, secondLow b, secondHigh b⟩ := by
  unfold lead? secondLow secondHigh
  grind

theorem lead?_four {b : Nat} (hlow : 0xf0 ≤ b) (hhigh : b < 0xf5) :
    lead? b = some ⟨b - 0xf0, 3, secondLow b, secondHigh b⟩ := by
  unfold lead? secondLow secondHigh
  grind

theorem complete_cons_iff {code low high count n : Nat} {b : UInt8} {rest : List UInt8} :
    complete code low high (count + 1) (b :: rest) = .ok n ↔
      low ≤ b.toNat ∧ b.toNat ≤ high ∧
        complete (code * 64 + b.toNat % 64) 0x80 0xbf count rest = .ok n := by
  by_cases hb : low ≤ b.toNat ∧ b.toNat ≤ high
  · cases hrest : complete (code * 64 + b.toNat % 64) 0x80 0xbf count rest with
    | ok m => simp [complete, hb, hrest]
    | error fault => simp [complete, hb, hrest]
  · have hbounds : (decide (low ≤ b.toNat) && decide (b.toNat ≤ high)) = false := by simpa using hb
    simp only [complete, hbounds, Bool.false_eq_true, if_false, reduceCtorEq, false_iff]
    exact fun h => hb ⟨h.1, h.2.1⟩

theorem complete_zero_iff {code low high n : Nat} {bytes : List UInt8} :
    complete code low high 0 bytes = .ok n ↔ code = n := by
  simp [complete]

theorem complete_nil_ne {code low high count n : Nat} :
    complete code low high (count + 1) [] ≠ .ok n := by
  simp [complete]

/-! ## One character -/

/-- The bytes of a character are read as that character. -/
theorem complete_utf8EncodeChar (c : Char) (rest : List UInt8) :
    ∃ b more lead, String.utf8EncodeChar c ++ rest = b :: more ∧ lead? b.toNat = some lead ∧
      complete lead.bits lead.low lead.high lead.tails more = .ok c.toNat ∧
      more.drop lead.tails = rest := by
  have hvalid : c.toNat < 0xd800 ∨ 0xdfff < c.toNat ∧ c.toNat < 0x110000 := c.valid
  unfold String.utf8EncodeChar
  rw [Char.toNat_val]
  dsimp only
  generalize c.toNat = v at hvalid ⊢
  have htail : ∀ n, (UInt8.ofNat (n % 64 + 128)).toNat = n % 64 + 128 := by
    intro n
    rw [UInt8.toNat_ofNat']
    omega
  split
  · have hb : (UInt8.ofNat v).toNat = v := by rw [UInt8.toNat_ofNat']; omega
    refine ⟨UInt8.ofNat v, rest, ⟨v, 0, 0x80, 0xbf⟩, rfl, ?_, complete_zero_iff.2 rfl, rfl⟩
    rw [hb]
    exact lead?_one (by omega)
  · split
    · have hb : (UInt8.ofNat (v / 64 % 32 + 192)).toNat = v / 64 + 192 := by
        rw [UInt8.toNat_ofNat']; omega
      refine ⟨_, UInt8.ofNat (v % 64 + 128) :: rest, _, rfl, lead?_two ?_ ?_, ?_, rfl⟩
      · omega
      · omega
      · simp only [hb, complete_cons_iff, complete_zero_iff, htail]
        omega
    · split
      · have hb : (UInt8.ofNat (v / 4096 % 16 + 224)).toNat = v / 4096 + 224 := by
          rw [UInt8.toNat_ofNat']; omega
        refine ⟨_, UInt8.ofNat (v / 64 % 64 + 128) :: UInt8.ofNat (v % 64 + 128) :: rest, _, rfl,
          lead?_three ?_ ?_, ?_, rfl⟩
        · omega
        · omega
        · have hlow : secondLow (v / 4096 + 224) ≤ v / 64 % 64 + 128 := by unfold secondLow; grind
          have hhigh : v / 64 % 64 + 128 ≤ secondHigh (v / 4096 + 224) := by unfold secondHigh; grind
          simp only [hb, complete_cons_iff, complete_zero_iff, htail]
          omega
      · have hb : (UInt8.ofNat (v / 262144 % 8 + 240)).toNat = v / 262144 + 240 := by
          rw [UInt8.toNat_ofNat']; omega
        refine ⟨_, UInt8.ofNat (v / 4096 % 64 + 128) :: UInt8.ofNat (v / 64 % 64 + 128) ::
          UInt8.ofNat (v % 64 + 128) :: rest, _, rfl, lead?_four ?_ ?_, ?_, rfl⟩
        · omega
        · omega
        · have hlow : secondLow (v / 262144 + 240) ≤ v / 4096 % 64 + 128 := by unfold secondLow; grind
          have hhigh : v / 4096 % 64 + 128 ≤ secondHigh (v / 262144 + 240) := by
            unfold secondHigh; grind
          simp only [hb, complete_cons_iff, complete_zero_iff, htail]
          omega

theorem toNat_ofNat_of_isValidChar {n : Nat} (h : n.isValidChar) : (Char.ofNat n).toNat = n := by
  rw [Char.ofNat, dif_pos h]
  rfl

theorem eq_ofNat {b : UInt8} {n : Nat} (h : b.toNat = n) : b = UInt8.ofNat n := by
  rw [← h, UInt8.ofNat_toNat]

theorem utf8EncodeChar_ofNat {n : Nat} (h : n.isValidChar) :
    String.utf8EncodeChar (Char.ofNat n) =
      if n ≤ 127 then [UInt8.ofNat n]
      else if n ≤ 2047 then [UInt8.ofNat (n / 64 % 32 + 192), UInt8.ofNat (n % 64 + 128)]
      else if n ≤ 65535 then
        [UInt8.ofNat (n / 4096 % 16 + 224), UInt8.ofNat (n / 64 % 64 + 128),
          UInt8.ofNat (n % 64 + 128)]
      else
        [UInt8.ofNat (n / 262144 % 8 + 240), UInt8.ofNat (n / 4096 % 64 + 128),
          UInt8.ofNat (n / 64 % 64 + 128), UInt8.ofNat (n % 64 + 128)] := by
  rw [String.utf8EncodeChar, Char.toNat_val, toNat_ofNat_of_isValidChar h]

/-- Bytes that are read as a character are the bytes of that character. -/
theorem eq_utf8EncodeChar_append {b : UInt8} {rest : List UInt8} {lead : Lead} {code : Nat}
    (hlead : lead? b.toNat = some lead)
    (hcode : complete lead.bits lead.low lead.high lead.tails rest = .ok code) :
    b :: rest = String.utf8EncodeChar (Char.ofNat code) ++ rest.drop lead.tails := by
  -- in each case the bounds say in which range the code lies, and hence how it is written
  rcases lead?_cases hlead with ⟨hb, rfl⟩ | ⟨hlow, hhigh, rfl⟩ | ⟨hlow, hhigh, rfl⟩ |
    ⟨hlow, hhigh, rfl⟩
  · dsimp only at hcode ⊢
    obtain rfl := complete_zero_iff.1 hcode
    rw [utf8EncodeChar_ofNat (by left; omega), if_pos (by omega), ← eq_ofNat rfl]
    rfl
  · dsimp only at hcode ⊢
    cases rest with
    | nil => exact absurd hcode complete_nil_ne
    | cons b₁ rest =>
        rw [complete_cons_iff, complete_zero_iff] at hcode
        obtain ⟨hlow₁, hhigh₁, rfl⟩ := hcode
        rw [utf8EncodeChar_ofNat (by left; omega), if_neg (by omega), if_pos (by omega),
          ← eq_ofNat (b := b) (by omega), ← eq_ofNat (b := b₁) (by omega)]
        rfl
  · dsimp only at hcode ⊢
    match rest with
    | [] => exact absurd hcode complete_nil_ne
    | [_] => rw [complete_cons_iff] at hcode; exact absurd hcode.2.2 complete_nil_ne
    | b₁ :: b₂ :: rest =>
        rw [complete_cons_iff, complete_cons_iff, complete_zero_iff] at hcode
        obtain ⟨hlow₁, hhigh₁, hlow₂, hhigh₂, rfl⟩ := hcode
        have hmin := secondLow_bounds b.toNat
        have hmax := secondHigh_bounds b.toNat
        rw [utf8EncodeChar_ofNat (by unfold Nat.isValidChar; omega), if_neg (by omega), if_neg (by omega),
          if_pos (by omega), ← eq_ofNat (b := b) (by omega), ← eq_ofNat (b := b₁) (by omega),
          ← eq_ofNat (b := b₂) (by omega)]
        rfl
  · dsimp only at hcode ⊢
    match rest with
    | [] => exact absurd hcode complete_nil_ne
    | [_] => rw [complete_cons_iff] at hcode; exact absurd hcode.2.2 complete_nil_ne
    | [_, _] =>
        rw [complete_cons_iff, complete_cons_iff] at hcode
        exact absurd hcode.2.2.2.2 complete_nil_ne
    | b₁ :: b₂ :: b₃ :: rest =>
        rw [complete_cons_iff, complete_cons_iff, complete_cons_iff, complete_zero_iff] at hcode
        obtain ⟨hlow₁, hhigh₁, hlow₂, hhigh₂, hlow₃, hhigh₃, rfl⟩ := hcode
        have hmin := secondLow_bounds b.toNat
        have hmax := secondHigh_bounds b.toNat
        rw [utf8EncodeChar_ofNat (by unfold Nat.isValidChar; omega), if_neg (by omega), if_neg (by omega),
          if_neg (by omega), ← eq_ofNat (b := b) (by omega), ← eq_ofNat (b := b₁) (by omega),
          ← eq_ofNat (b := b₂) (by omega), ← eq_ofNat (b := b₃) (by omega)]
        rfl

/-! ## Whole texts -/

theorem decodeFrom_utf8EncodeChar (position : Nat) (c : Char) (rest : List UInt8) :
    ∃ next, decodeFrom position (String.utf8EncodeChar c ++ rest) =
      (decodeFrom next rest).map (c :: ·) := by
  obtain ⟨b, more, lead, heq, hlead, hcode, hdrop⟩ := complete_utf8EncodeChar c rest
  refine ⟨position + lead.tails + 1, ?_⟩
  rw [heq, decodeFrom]
  simp only [hlead, hcode, hdrop, Char.ofNat_toNat]
  cases decodeFrom (position + lead.tails + 1) rest with
  | ok text => rfl
  | error fault => rfl

theorem decodeFrom_flatMap (position : Nat) (text : List Char) :
    decodeFrom position (text.flatMap String.utf8EncodeChar) = .ok text := by
  induction text generalizing position with
  | nil => simp [decodeFrom]
  | cons c rest ih =>
      obtain ⟨next, hnext⟩ :=
        decodeFrom_utf8EncodeChar position c (rest.flatMap String.utf8EncodeChar)
      rw [List.flatMap_cons, hnext, ih next]
      rfl

theorem flatMap_of_decodeFrom {position : Nat} {bytes : List UInt8} {text : List Char}
    (h : decodeFrom position bytes = .ok text) : text.flatMap String.utf8EncodeChar = bytes := by
  fun_induction decodeFrom position bytes generalizing text with
  | case1 => cases h; rfl
  | case2 => cases h
  | case3 => cases h
  | case4 position b rest lead hlead code hcode later hlater ih =>
    cases h
    rw [List.flatMap_cons, ih hlater]
    exact (eq_utf8EncodeChar_append hlead hcode).symm
  | case5 => cases h

/-- Decoding undoes encoding. -/
theorem decode_encode (text : String) : decode (encode text) = .ok text := by
  rw [decode, encode, decodeFrom_flatMap]
  simp

/-- Only the bytes of a text can be decoded to it. -/
theorem encode_of_decode {bytes : List UInt8} {text : String} (h : decode bytes = .ok text) :
    encode text = bytes := by
  unfold decode at h
  split at h
  · next decoded hdecoded =>
    cases h
    rw [encode, String.toList_ofList, flatMap_of_decodeFrom hdecoded]
  · cases h

end PropTyper.Text.Utf8
