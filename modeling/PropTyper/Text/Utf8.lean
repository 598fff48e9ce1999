/-! # UTF-8

Texts as bytes and back. Bytes that are no text are refused at the first character that cannot be
completed; the fault covers the bytes that would have begun it.
-/

namespace PropTyper.Text.Utf8

inductive Reason where
  | invalidStart
  | invalidContinuation
  | unexpectedEnd
deriving DecidableEq, Repr, Inhabited

/-- Bytes that begin no character. -/
structure Fault where
  /-- The first of them. -/
  byte : UInt8
  position : Nat
  /-- How many they are, at least one. -/
  count : Nat
  reason : Reason
deriving DecidableEq, Repr, Inhabited

def Reason.message : Reason → String
  | invalidStart => "invalid start byte"
  | invalidContinuation => "invalid continuation byte"
  | unexpectedEnd => "unexpected end of data"

def hexDigits (n : Nat) : String :=
  String.ofList [Nat.digitChar (n / 16 % 16), Nat.digitChar (n % 16)]

def Fault.message (f : Fault) : String :=
  let what :=
    if f.count ≤ 1 then
      "byte 0x" ++ hexDigits f.byte.toNat ++ " in position " ++ toString f.position
    else
      "bytes in position " ++ toString f.position ++ "-" ++ toString (f.position + f.count - 1)
  "'utf-8' codec can't decode " ++ what ++ ": " ++ f.reason.message

def encode (text : String) : List UInt8 :=
  text.toList.flatMap String.utf8EncodeChar

/-- What a first byte promises: its share of the code point, how many bytes follow, and the least
and the greatest value of the next one. -/
structure Lead where
  bits : Nat
  tails : Nat
  low : Nat
  high : Nat

def lead? (b : Nat) : Option Lead :=
  if b < 0x80 then some ⟨b, 0, 0x80, 0xbf⟩
  else if b < 0xc2 then none
  else if b < 0xe0 then some ⟨b - 0xc0, 1, 0x80, 0xbf⟩
  else if b = 0xe0 then some ⟨0, 2, 0xa0, 0xbf⟩
  else if b = 0xed then some ⟨0xd, 2, 0x80, 0x9f⟩
  else if b < 0xf0 then some ⟨b - 0xe0, 2, 0x80, 0xbf⟩
  else if b = 0xf0 then some ⟨0, 3, 0x90, 0xbf⟩
  else if b < 0xf4 then some ⟨b - 0xf0, 3, 0x80, 0xbf⟩
  else if b = 0xf4 then some ⟨4, 3, 0x80, 0x8f⟩
  else none

/-- The code point that `count` more bytes complete, or how many of them are good and what is wrong
with the next. -/
def complete (code : Nat) (low high : Nat) : Nat → List UInt8 → Except (Nat × Reason) Nat
  | 0, _ => .ok code
  | _ + 1, [] => .error (0, .unexpectedEnd)
  | count + 1, b :: rest =>
    if low ≤ b.toNat && b.toNat ≤ high then
      match complete (code * 64 + b.toNat % 64) 0x80 0xbf count rest with
      | .ok code => .ok code
      | .error (good, reason) => .error (good + 1, reason)
    else .error (0, .invalidContinuation)

/-- Decodes what follows the first `position` bytes. -/
def decodeFrom (position : Nat) (bytes : List UInt8) : Except Fault (List Char) :=
  match bytes with
  | [] => .ok []
  | b :: rest =>
    match lead? b.toNat with
    | none => .error ⟨b, position, 1, .invalidStart⟩
    | some lead =>
      match complete lead.bits lead.low lead.high lead.tails rest with
      | .error (good, reason) => .error ⟨b, position, good + 1, reason⟩
      | .ok code =>
        match decodeFrom (position + lead.tails + 1) (rest.drop lead.tails) with
        | .ok text => .ok (Char.ofNat code :: text)
        | .error fault => .error fault
termination_by bytes.length
decreasing_by
  simp only [List.length_drop, List.length_cons]
  omega

def decode (bytes : List UInt8) : Except Fault String :=
  match decodeFrom 0 bytes with
  | .ok text => .ok (String.ofList text)
  | .error fault => .error fault

end PropTyper.Text.Utf8
