/-
  Text as bytes. Decoding undoes encoding and accepts nothing but encoded text
  (`decodeText_eq_ok_iff`). The byte of the line feed stands for the line feed and is part of no
  other character (`newline_mem_encodeText_iff`), so lines can be cut before they are decoded.
-/
import AskSheet.Storage

namespace AskSheet

/-- The bytes of a text in UTF-8. -/
def encodeText (text : String) : List UInt8 := text.toUTF8.data.toList

theorem encodeText_eq_flatMap (text : String) :
    encodeText text = text.toList.flatMap String.utf8EncodeChar := by
  rw [encodeText, String.toUTF8_eq_toByteArray, ← String.utf8Encode_toList, List.utf8Encode,
    List.toList_data_toByteArray]

theorem encodeText_append (s t : String) : encodeText (s ++ t) = encodeText s ++ encodeText t := by
  rw [encodeText_eq_flatMap, encodeText_eq_flatMap, encodeText_eq_flatMap, String.toList_append,
    List.flatMap_append]

theorem encodeText_newline : encodeText "\n" = [10] := by decide +kernel

theorem decodeText_encodeText (text : String) : decodeText (encodeText text) = .ok text := by
  have hbytes : (encodeText text).toByteArray = text.toByteArray := by
    rw [encodeText_eq_flatMap, ← String.utf8Encode_toList, List.utf8Encode]
  have hvalid : String.fromUTF8? text.toByteArray = some text := by
    rw [String.fromUTF8?, dif_pos text.isValidUTF8]
    rfl
  rw [decodeText, hbytes, hvalid]

/-- The bytes of a text are those that decode to it. -/
theorem decodeText_eq_ok_iff {bytes : List UInt8} {text : String} :
    decodeText bytes = .ok text ↔ bytes = encodeText text := by
  constructor
  · intro h
    rw [decodeText, String.fromUTF8?] at h
    split at h
    · rename_i t ht
      split at ht
      · obtain rfl : t = text := Except.ok.inj h
        obtain rfl := Option.some.inj ht
        rw [encodeText]
        exact List.toList_data_toByteArray.symm
      · exact absurd ht (by simp)
    · exact absurd h (by simp)
  · rintro rfl
    exact decodeText_encodeText text

/-- These bytes are the UTF-8 of a text. -/
def IsText (bytes : List UInt8) : Prop := ∃ text, bytes = encodeText text

/-- Bytes of no text are refused. -/
theorem decodeText_of_not_isText {bytes : List UInt8} (h : ¬IsText bytes) :
    decodeText bytes = .error .notUtf8 := by
  cases hdecode : decodeText bytes with
  | ok text => exact absurd ⟨text, decodeText_eq_ok_iff.mp hdecode⟩ h
  | error e =>
    rw [decodeText] at hdecode
    split at hdecode
    · exact absurd hdecode nofun
    · exact hdecode.symm

/-! ## The line feed -/

theorem utf8EncodeChar_ne_nil (c : Char) : String.utf8EncodeChar c ≠ [] := by
  intro h
  have hlen := congrArg List.length h
  have := c.utf8Size_pos
  rw [String.length_utf8EncodeChar, List.length_nil] at hlen
  omega

theorem newline_mem_utf8EncodeChar_iff {c : Char} : 10 ∈ String.utf8EncodeChar c ↔ c = '\n' := by
  constructor
  · intro h
    have hval : c.val.toNat = 10 := by
      rw [String.utf8EncodeChar] at h
      -- a character of several bytes has the highest bit set in each of them
      repeat' split at h
      all_goals
        simp only [List.mem_cons, List.not_mem_nil, or_false, ← UInt8.toNat_inj,
          UInt8.toNat_ofNat', UInt8.reduceToNat] at h
        omega
    exact Char.ext (UInt32.toNat_inj.mp hval)
  · rintro rfl
    decide

/-- A line feed in the bytes is one in the text. -/
theorem newline_mem_encodeText_iff {text : String} :
    10 ∈ encodeText text ↔ '\n' ∈ text.toList := by
  rw [encodeText_eq_flatMap, List.mem_flatMap]
  simp only [newline_mem_utf8EncodeChar_iff, exists_eq_right]

/-- A text whose bytes have the line feed only at their end has it only at its end. -/
theorem newline_not_mem_dropLast {text : String} (h : 10 ∉ (encodeText text).dropLast) :
    '\n' ∉ text.toList.dropLast := by
  rcases List.eq_nil_or_concat text.toList with hnil | ⟨cs, c, hcs⟩
  · rw [hnil]
    exact List.not_mem_nil
  · rw [List.concat_eq_append] at hcs
    rw [encodeText_eq_flatMap, hcs, List.flatMap_append, List.flatMap_singleton,
      List.dropLast_append_of_ne_nil (utf8EncodeChar_ne_nil c)] at h
    rw [hcs, List.dropLast_concat]
    intro hmem
    exact h (List.mem_append_left _
      (List.mem_flatMap.mpr ⟨'\n', hmem, newline_mem_utf8EncodeChar_iff.mpr rfl⟩))

end AskSheet
