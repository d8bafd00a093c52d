import IdRegistry.Markup.Encoding

namespace IdRegistry.Markup

theorem scalar?_toNat (c : Char) : scalar? c.toNat = some c := by
  have valid : c.toNat.isValidChar := c.valid
  have same := Char.ofNat_toNat c
  rw [Char.ofNat, dif_pos valid] at same
  rw [scalar?, dif_pos valid, same]

namespace Decoder

/-- The bytes are those of one character, which the last of them completes. -/
inductive Completes : Decoder → List UInt8 → Decoder → Char → Prop where
  | last {decoder after : Decoder} {byte : UInt8} {c : Char}
      (stepped : decoder.step byte = some (after, some c)) : Completes decoder [byte] after c
  | more {decoder next after : Decoder} {byte : UInt8} {bytes : List UInt8} {c : Char}
      (stepped : decoder.step byte = some (next, none)) (completes : Completes next bytes after c) :
      Completes decoder (byte :: bytes) after c

section Bytes

variable {marked untouched : Bool} {part : Utf8Partial} {missing value least : Nat} {c : Char}

theorem step_utf8 {byte : Nat} (small : byte < 256) :
    (Decoder.utf8 marked untouched part).step (UInt8.ofNat byte) =
      stepUtf8 marked untouched part byte := by
  simp only [step, UInt8.toNat_ofNat', Nat.mod_eq_of_lt (show byte < 2 ^ 8 from small)]

theorem step_ascii (small : c.toNat < 0x80) (shown : ¬ (untouched = true ∧ c = '\uFEFF')) :
    (Decoder.utf8 marked untouched .none).step (UInt8.ofNat c.toNat) =
      some (.utf8 marked false .none, some c) := by
  have stepped : Utf8Partial.none.step c.toNat = some (.none, some c) := by
    rw [Utf8Partial.step, if_pos (show Utf8Partial.none.missing = 0 from rfl), if_pos small,
      scalar?_toNat]
  rw [step_utf8 (by omega), stepUtf8, stepped]
  exact if_neg shown

/-- The first byte of several: how many are to come, and the bits that it holds. -/
theorem step_lead (missing bits byte least : Nat)
    (form : bits < 0x20 ∧ missing = 1 ∧ byte = bits + 0xC0 ∧ least = 0x80 ∨
      bits < 0x10 ∧ missing = 2 ∧ byte = bits + 0xE0 ∧ least = 0x800 ∨
      bits < 0x8 ∧ missing = 3 ∧ byte = bits + 0xF0 ∧ least = 0x10000) :
    (Decoder.utf8 marked untouched .none).step (UInt8.ofNat byte) =
      some (.utf8 marked untouched ⟨missing, bits, least⟩, none) := by
  have small : byte < 256 := by omega
  rw [step_utf8 small, stepUtf8]
  have stepped : Utf8Partial.none.step byte = some (⟨missing, bits, least⟩, none) := by
    rw [Utf8Partial.step, if_pos (show Utf8Partial.none.missing = 0 from rfl), if_neg (by omega),
      if_neg (by omega)]
    rcases form with ⟨bound, rfl, rfl, rfl⟩ | ⟨bound, rfl, rfl, rfl⟩ | ⟨bound, rfl, rfl, rfl⟩
    · rw [if_pos (by omega), Nat.add_sub_cancel]
    · rw [if_neg (by omega), if_pos (by omega), Nat.add_sub_cancel]
    · rw [if_neg (by omega), if_neg (by omega), if_pos (by omega), Nat.add_sub_cancel]
  rw [stepped]

theorem step_middle (bits : Nat) (small : bits < 0x40) :
    (Decoder.utf8 marked untouched ⟨missing + 2, value, least⟩).step (UInt8.ofNat (bits + 0x80)) =
      some (.utf8 marked untouched ⟨missing + 1, value * 0x40 + bits, least⟩, none) := by
  have stepped : Utf8Partial.step ⟨missing + 2, value, least⟩ (bits + 0x80) =
      some (⟨missing + 1, value * 0x40 + bits, least⟩, none) := by
    simp only [Utf8Partial.step]
    rw [if_neg (by omega), if_neg (by omega), if_neg (by omega), Nat.add_sub_cancel]
    rfl
  rw [step_utf8 (by omega), stepUtf8, stepped]

theorem step_last (bits : Nat) (small : bits < 0x40) (whole : value * 0x40 + bits = c.toNat)
    (long : least ≤ c.toNat) (shown : ¬ (untouched = true ∧ c = '\uFEFF')) :
    (Decoder.utf8 marked untouched ⟨1, value, least⟩).step (UInt8.ofNat (bits + 0x80)) =
      some (.utf8 marked false .none, some c) := by
  have stepped : Utf8Partial.step ⟨1, value, least⟩ (bits + 0x80) = some (.none, some c) := by
    simp only [Utf8Partial.step, Nat.add_sub_cancel, whole, if_true]
    rw [if_neg (by omega), if_neg (by omega), if_neg (by omega), scalar?_toNat]
    rfl
  rw [step_utf8 (by omega), stepUtf8, stepped]
  exact if_neg shown

theorem utf8_completes (shown : ¬ (untouched = true ∧ c = '\uFEFF')) :
    Completes (.utf8 marked untouched .none) (String.utf8EncodeChar c)
      (.utf8 marked false .none) c := by
  have bound : c.toNat < 0x110000 := by
    rcases c.valid with low | high
    · exact Nat.lt_trans low (by decide)
    · exact high.2
  simp only [String.utf8EncodeChar, Char.toNat_val]
  split
  · exact .last (step_ascii (by omega) shown)
  split
  · refine .more (step_lead 1 (c.toNat / 64 % 0x20) _ 0x80 (by omega)) (.last ?_)
    exact step_last _ (by omega) (by omega) (by omega) shown
  split
  · refine .more (step_lead 2 (c.toNat / 4096 % 0x10) _ 0x800 (by omega))
      (.more (step_middle _ (by omega)) (.last ?_))
    exact step_last _ (by omega) (by omega) (by omega) shown
  · refine .more (step_lead 3 (c.toNat / 262144 % 0x08) _ 0x10000 (by omega))
      (.more (step_middle _ (by omega)) (.more (step_middle _ (by omega)) (.last ?_)))
    exact step_last _ (by omega) (by omega) (by omega) shown

end Bytes

/-- Without a byte order mark a document is read as UTF-8 from the start. -/
theorem step_opening {byte : UInt8} (plain : byte.toNat < 0xFE) :
    Decoder.opening.step byte = (Decoder.utf8 false true .none).step byte := by
  simp only [step]
  rw [if_neg (by omega), if_neg (by omega)]

theorem exists_utf8EncodeChar (c : Char) :
    ∃ byte bytes, String.utf8EncodeChar c = byte :: bytes ∧ byte.toNat < 0xFE := by
  simp only [String.utf8EncodeChar]
  split
  · exact ⟨_, _, rfl, by rw [UInt8.toNat_ofNat']; omega⟩
  split
  · exact ⟨_, _, rfl, by rw [UInt8.toNat_ofNat']; omega⟩
  split
  · exact ⟨_, _, rfl, by rw [UInt8.toNat_ofNat']; omega⟩
  · exact ⟨_, _, rfl, by rw [UInt8.toNat_ofNat']; omega⟩

end Decoder

theorem toList_loop (bytes : ByteArray) (position : Nat) (before : List UInt8) :
    ByteArray.toList.loop bytes position before =
      before.reverse ++ bytes.data.toList.drop position := by
  fun_induction ByteArray.toList.loop bytes position before with
  | case1 position before inside ih =>
      have inside' : position < bytes.data.toList.length := by simpa using inside
      rw [ih, List.drop_eq_getElem_cons inside']
      simp [ByteArray.get!, inside]
  | case2 position before outside =>
      rw [List.drop_eq_nil_of_le (by simpa using Nat.le_of_not_lt outside), List.append_nil]

theorem toUTF8_ofList (text : List Char) :
    (String.ofList text).toUTF8.toList = text.flatMap String.utf8EncodeChar := by
  have encoded : (String.ofList text).toUTF8 =
      (text.flatMap String.utf8EncodeChar).toByteArray := String.toByteArray_ofList
  rw [encoded, ByteArray.toList, toList_loop, List.drop_zero, List.toList_data_toByteArray]
  rfl

end IdRegistry.Markup
