import IngressGuard.Bytes

/-!
# ASCII text and its UTF-8 bytes

An ASCII character is written in UTF-8 as the one byte of its code, so the bytes of an ASCII
text are its codes and a text whose bytes are all below 128 is the text of those codes. Reading
bytes as UTF-8 gives back the text they were written from, and a text read from bytes writes
them again. Lowercasing moves `A`–`Z` up by 32 and keeps every other character.
-/

namespace IngressGuard

theorem ByteArray.toList_loop_eq (bs : ByteArray) (i : Nat) (r : List UInt8) :
    ByteArray.toList.loop bs i r = r.reverse ++ bs.data.toList.drop i := by
  fun_induction ByteArray.toList.loop bs i r with
  | case1 i r hi ih =>
    have hi' : i < bs.data.toList.length := by simpa using hi
    rw [ih, List.drop_eq_getElem_cons hi']
    simp [ByteArray.get!, hi]
  | case2 i r hi =>
    have hlen : bs.data.toList.length ≤ i := by simpa using hi
    simp [List.drop_eq_nil_of_le hlen]

theorem ByteArray.toList_eq_data_toList (bs : ByteArray) : bs.toList = bs.data.toList := by
  simp [ByteArray.toList, ByteArray.toList_loop_eq]

theorem utf8EncodeChar_of_ascii {c : Char} (h : c.toNat < 128) :
    String.utf8EncodeChar c = [c.toNat.toUInt8] := by
  have hv : c.val.toNat ≤ 0x7f := by
    change c.val.toNat < 128 at h
    omega
  unfold String.utf8EncodeChar
  rw [if_pos hv]
  rfl

theorem utf8Encode_of_ascii (cs : List Char) (h : ∀ c ∈ cs, c.toNat < 128) :
    cs.utf8Encode.data.toList = cs.map fun c => c.toNat.toUInt8 := by
  induction cs with
  | nil => simp
  | cons c cs ih =>
    rw [List.utf8Encode_cons, List.utf8Encode_singleton, utf8EncodeChar_of_ascii (h c (by simp)),
      ByteArray.toList_data_append, List.toList_data_toByteArray,
      ih fun d hd => h d (by simp [hd])]
    rfl

theorem toNat_ofNat_of_lt {n : Nat} (h : n < 128) : (Char.ofNat n).toNat = n := by
  rw [Char.ofNat, dif_pos (by unfold Nat.isValidChar; omega)]
  rfl

/-- Lowercasing moves `A`–`Z` up by 32 and keeps every other character. -/
theorem toNat_toLower (c : Char) :
    c.toLower.toNat = if 65 ≤ c.toNat ∧ c.toNat ≤ 90 then c.toNat + 32 else c.toNat := by
  unfold Char.toLower
  have hv : c.toNat = c.val.toNat := rfl
  split
  · rename_i h
    have h' : 65 ≤ c.toNat ∧ c.toNat ≤ 90 := by
      simp only [ge_iff_le, UInt32.le_iff_toNat_le] at h
      exact h
    rw [if_pos h']
    show (c.val + ('a'.val - 'A'.val)).toNat = c.toNat + 32
    have h32 : 'a'.val - 'A'.val = 32 := by decide
    rw [h32, UInt32.toNat_add, hv]
    simp only [UInt32.reduceToNat]
    omega
  · rename_i h
    have h' : ¬ (65 ≤ c.toNat ∧ c.toNat ≤ 90) := by
      simp only [ge_iff_le, UInt32.le_iff_toNat_le] at h
      exact h
    rw [if_neg h']

theorem toList_toLower (s : String) : s.toLower.toList = s.toList.map Char.toLower :=
  String.toList_map

/-- The bytes of an ASCII text are the codes of its characters. -/
theorem utf8_ofList_of_ascii {cs : List Char} (h : ∀ c ∈ cs, c.toNat < 128) :
    Bytes.utf8 (String.ofList cs) = cs.map fun c => c.toNat.toUInt8 := by
  rw [Bytes.utf8, String.toUTF8_eq_toByteArray, String.toByteArray_ofList,
    ByteArray.toList_eq_data_toList, utf8Encode_of_ascii _ h]

theorem ofBytes_utf8 (s : String) : ByteArray.mk (Bytes.utf8 s).toArray = s.toByteArray := by
  rw [Bytes.utf8, ByteArray.toList_eq_data_toList, Array.toArray_toList]
  rfl

/-- A text is read back from its UTF-8 bytes. -/
theorem fromUTF8?_utf8 (s : String) :
    String.fromUTF8? (ByteArray.mk (Bytes.utf8 s).toArray) = some s := by
  rw [ofBytes_utf8, String.fromUTF8?, dif_pos s.isValidUTF8]
  rfl

/-- A text read from bytes has those bytes as its UTF-8. -/
theorem utf8_of_fromUTF8? {bytes : List UInt8} {t : String}
    (h : String.fromUTF8? (ByteArray.mk bytes.toArray) = some t) : Bytes.utf8 t = bytes := by
  rw [String.fromUTF8?] at h
  split at h
  · cases h
    rw [Bytes.utf8, ByteArray.toList_eq_data_toList]
    rfl
  · cases h

/-- A text whose UTF-8 bytes are all below 128 is the text of those bytes read as codes. -/
theorem eq_ofList_of_utf8_ascii {s : String} (h : ∀ b ∈ Bytes.utf8 s, b.toNat < 128) :
    s = String.ofList ((Bytes.utf8 s).map fun b => Char.ofNat b.toNat) := by
  have hascii : ∀ c ∈ (Bytes.utf8 s).map (fun b => Char.ofNat b.toNat), c.toNat < 128 := by
    intro c hc
    obtain ⟨b, hb, rfl⟩ := List.mem_map.1 hc
    rw [toNat_ofNat_of_lt (h b hb)]
    exact h b hb
  -- UTF-8 is injective, and both texts have the bytes of `s`
  apply String.toByteArray_inj.1
  rw [← ofBytes_utf8, ← ofBytes_utf8 (String.ofList _), utf8_ofList_of_ascii hascii,
    List.map_map]
  congr
  refine ((List.map_congr_left fun b hb => ?_).trans (List.map_id _)).symm
  simp only [Function.comp_apply, id, toNat_ofNat_of_lt (h b hb), UInt8.ofNat_toNat]

end IngressGuard
