import LinkReport.Text.Bytes
import Mathlib.Data.List.Basic

/-!
# Texts as UTF-8

The encoding that `ofUtf8?` undoes, and where line feeds stand in it. A line feed is one
byte, and no other character has a byte of that value, so a file is cut into lines at the
same places whether it is read in bytes or in characters.
-/

namespace LinkReport.Text

/-- The UTF-8 bytes of a text. -/
def utf8 (cs : List Char) : List UInt8 :=
  cs.flatMap String.utf8EncodeChar

@[simp] theorem utf8_nil : utf8 [] = [] := rfl

@[simp] theorem utf8_append (xs ys : List Char) : utf8 (xs ++ ys) = utf8 xs ++ utf8 ys :=
  List.flatMap_append

/-- Decoding gives back what was encoded. -/
theorem ofUtf8?_utf8 (cs : List Char) : ofUtf8? (utf8 cs) = some cs := by
  have hbytes : (⟨(utf8 cs).toArray⟩ : ByteArray) = (String.ofList cs).toByteArray := by
    rw [String.toByteArray_ofList, List.utf8Encode, utf8]
    exact ByteArray.ext List.data_toByteArray.symm
  have hvalid : (String.ofList cs).toByteArray.IsValidUTF8 := (String.ofList cs).isValidUTF8
  rw [ofUtf8?, hbytes, String.fromUTF8?, dif_pos hvalid]
  exact congrArg some String.toList_ofList

/-- Bytes are decoded exactly if they are the encoding of a text. -/
theorem ofUtf8?_eq_some_iff {bytes : List UInt8} {cs : List Char} :
    ofUtf8? bytes = some cs ↔ bytes = utf8 cs := by
  constructor
  · intro h
    unfold ofUtf8? String.fromUTF8? at h
    split at h
    · have hcs := Option.some.inj h
      have hbytes : (String.ofList cs).toByteArray = ⟨bytes.toArray⟩ := by
        rw [← hcs, String.ofList_toList]
        rfl
      rw [String.toByteArray_ofList, List.utf8Encode] at hbytes
      have hlist := congrArg (fun b : ByteArray => b.data.toList) hbytes
      simpa [utf8] using hlist.symm
    · cases h
  · rintro rfl
    exact ofUtf8?_utf8 cs

/-! ## Line feeds -/

@[simp] theorem utf8_lineFeed (cs : List Char) : utf8 ('\n' :: cs) = 10 :: utf8 cs := rfl

/-- A byte of a character above ASCII is no line feed. -/
private theorem lineFeed_ne_highByte {n m k : Nat} (h : 0 < m ∧ 0x80 ≤ k ∧ m + k ≤ 256) :
    10 ≠ UInt8.ofNat (n % m + k) := by
  intro hten
  have hlt : n % m < m := Nat.mod_lt n h.1
  have hval := congrArg UInt8.toNat hten
  rw [UInt8.toNat_ofNat', Nat.mod_eq_of_lt (by omega)] at hval
  have : (10 : UInt8).toNat = 10 := rfl
  omega

/-- Only a line feed is written with the byte of a line feed. -/
theorem lineFeed_mem_utf8EncodeChar_iff {c : Char} :
    10 ∈ String.utf8EncodeChar c ↔ c = '\n' := by
  constructor
  · intro h
    rw [String.utf8EncodeChar] at h
    split at h
    · rw [List.mem_singleton] at h
      have hval := congrArg UInt8.toNat h
      rw [UInt8.toNat_ofNat', Nat.mod_eq_of_lt (by omega)] at hval
      exact Char.ext (UInt32.toNat_inj.1 hval.symm)
    · -- the bytes of the longer forms are all at least 0x80
      split at h
      · simp only [List.mem_cons, List.not_mem_nil, or_false] at h
        rcases h with h | h <;> exact absurd h (lineFeed_ne_highByte (by omega))
      · split at h <;> simp only [List.mem_cons, List.not_mem_nil, or_false] at h
        · rcases h with h | h | h <;> exact absurd h (lineFeed_ne_highByte (by omega))
        · rcases h with h | h | h | h <;> exact absurd h (lineFeed_ne_highByte (by omega))
  · rintro rfl
    decide

theorem lineFeed_mem_utf8_iff {cs : List Char} : 10 ∈ utf8 cs ↔ '\n' ∈ cs := by
  rw [utf8, List.mem_flatMap]
  constructor
  · intro hmem
    obtain ⟨c, hc, hten⟩ := hmem
    rwa [← lineFeed_mem_utf8EncodeChar_iff.1 hten]
  · intro h
    exact ⟨'\n', h, lineFeed_mem_utf8EncodeChar_iff.2 rfl⟩

/-- A line feed after bytes is a line feed after the text that they encode, if they encode one. -/
theorem ofUtf8?_append_lineFeed (bytes : List UInt8) :
    ofUtf8? (bytes ++ [10]) = (ofUtf8? bytes).map (· ++ ['\n']) := by
  cases htext : ofUtf8? bytes with
  | some cs =>
    rw [ofUtf8?_eq_some_iff] at htext
    exact ofUtf8?_eq_some_iff.2 (by rw [htext, utf8_append]; rfl)
  | none =>
    rw [Option.map_none, Option.eq_none_iff_forall_ne_some]
    intro ds hds
    rw [ofUtf8?_eq_some_iff] at hds
    rcases List.eq_nil_or_concat ds with rfl | ⟨front, c, rfl⟩
    · exact absurd hds (List.append_ne_nil_of_right_ne_nil _ (by decide))
    · rw [List.concat_eq_append, utf8_append] at hds
      have hbytes : utf8 [c] = String.utf8EncodeChar c := List.append_nil _
      have hne : utf8 [c] ≠ [] := by
        rw [hbytes]
        exact List.ne_nil_of_length_pos (by rw [String.length_utf8EncodeChar]; exact c.utf8Size_pos)
      -- the last byte is that of a line feed, so the last character is one
      have hlast : (utf8 [c]).getLast? = some 10 := by
        rw [← List.getLast?_append_of_ne_nil (utf8 front) hne, ← hds, List.getLast?_concat]
      have hmem : 10 ∈ String.utf8EncodeChar c := by
        rw [← hbytes]
        exact List.mem_of_getLast? hlast
      rw [lineFeed_mem_utf8EncodeChar_iff.1 hmem] at hds
      rw [ofUtf8?_eq_some_iff.2 (List.append_cancel_right hds)] at htext
      cases htext

end LinkReport.Text
