import PropTyper.Proofs.Text.Utf8
import PropTyper.Text.Lines

/-! # Line ends of texts

The text of a file has line feeds only. So it is the text that its bytes spell exactly if no carriage
return stands there.
-/

namespace PropTyper.Text

theorem unifyLineEnds_eq_self {text : List Char} (h : '\r' ∉ text) : unifyLineEnds text = text := by
  fun_induction unifyLineEnds text with
  | case1 => rfl
  | case2 rest ih => simp at h
  | case3 rest hrest ih => simp at h
  | case4 c rest hc hr ih =>
      rw [List.mem_cons, not_or] at h
      rw [ih h.2]

theorem not_mem_unifyLineEnds (text : List Char) : '\r' ∉ unifyLineEnds text := by
  fun_induction unifyLineEnds text with
  | case1 => exact List.not_mem_nil
  | case2 rest ih => exact List.not_mem_cons_of_ne_of_not_mem (by decide) ih
  | case3 rest hrest ih => exact List.not_mem_cons_of_ne_of_not_mem (by decide) ih
  | case4 c rest hpair hreturn ih =>
      exact List.not_mem_cons_of_ne_of_not_mem (fun heq => hreturn heq.symm) ih

theorem unifyLineEnds_eq_self_iff {text : List Char} : unifyLineEnds text = text ↔ '\r' ∉ text :=
  ⟨fun h => h ▸ not_mem_unifyLineEnds text, unifyLineEnds_eq_self⟩

theorem unifyLineEnds_eq_nil_iff {text : List Char} : unifyLineEnds text = [] ↔ text = [] := by
  fun_cases unifyLineEnds text <;> simp

theorem ofFile_of_decode {bytes : List UInt8} {text : String} (h : Utf8.decode bytes = .ok text) :
    ofFile bytes = .ok (String.ofList (unifyLineEnds text.toList)) := by
  rw [ofFile, h]

theorem ofFile_encode {text : String} (h : '\r' ∉ text.toList) :
    ofFile (Utf8.encode text) = .ok text := by
  rw [ofFile_of_decode (Utf8.decode_encode text), unifyLineEnds_eq_self h, String.ofList_toList]

/-- The bytes of the text of a file are those of the file exactly if it has no carriage return. -/
theorem encode_ofFile_eq_iff {bytes : List UInt8} {text : String} (h : Utf8.decode bytes = .ok text) :
    Utf8.encode (String.ofList (unifyLineEnds text.toList)) = bytes ↔ '\r' ∉ text.toList := by
  rw [← unifyLineEnds_eq_self_iff, ← Utf8.encode_of_decode h]
  refine ⟨fun heq => ?_, fun heq => by rw [heq, String.ofList_toList]⟩
  have hdecoded := congrArg Utf8.decode heq
  rw [Utf8.decode_encode, Utf8.decode_encode] at hdecoded
  injection hdecoded with hdecoded
  rw [← String.toList_ofList (l := unifyLineEnds text.toList), hdecoded]

end PropTyper.Text
