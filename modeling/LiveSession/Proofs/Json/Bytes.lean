import LiveSession.Json.Read
/-!
# UTF-8 bytes of strings

The JSON reader works on the UTF-8 bytes of its input and the printer on strings. This module
is the bridge between the two.

* `toUTF8_toList`: the bytes of a string are the encodings of its characters, one after
  another, so the bytes of a concatenation are the concatenated bytes;
* `utf8EncodeChar_of_lt`: an ASCII character is the single byte of its code point;
* `le_toNat_of_mem_utf8EncodeChar`: every byte of a longer character lies at or above `0x80`,
  so none of them is a quote, a backslash or a control byte;
* `decodeUtf8_toUTF8`: decoding the bytes of a string gives the string back.
-/

namespace LiveSession.Json

/-- The byte loop of `ByteArray.toList` collects the bytes from index `i` on. -/
theorem byteArray_toList_loop (bs : ByteArray) (i : Nat) (r : List UInt8) :
    ByteArray.toList.loop bs i r = r.reverse ++ bs.data.toList.drop i := by
  fun_induction ByteArray.toList.loop bs i r with
  | case1 i r hi ih =>
    have hlen : i < bs.data.toList.length := by
      rw [Array.length_toList, ByteArray.size_data]; exact hi
    have hget : bs.get! i = bs.data.toList[i] := by
      rcases bs with ⟨arr⟩
      have hi' : i < arr.size := hi
      simp [ByteArray.get!, getElem!_pos arr i hi']
    rw [ih, List.drop_eq_getElem_cons hlen, hget, List.reverse_cons, List.append_assoc,
      List.singleton_append]
  | case2 i r hi =>
    have hlen : bs.data.toList.length ≤ i := by
      rw [Array.length_toList, ByteArray.size_data]; omega
    rw [List.drop_eq_nil_of_le hlen, List.append_nil]

theorem byteArray_toList (bs : ByteArray) : bs.toList = bs.data.toList := by
  rw [ByteArray.toList, byteArray_toList_loop, List.reverse_nil, List.nil_append,
    List.drop_zero]

/-- The UTF-8 bytes of a string are the encodings of its characters. -/
theorem toUTF8_toList (s : String) :
    s.toUTF8.toList = s.toList.flatMap String.utf8EncodeChar := by
  obtain ⟨l, rfl⟩ : ∃ l, s = String.ofList l := ⟨s.toList, by simp⟩
  rw [byteArray_toList, String.toUTF8_eq_toByteArray, String.toByteArray_ofList,
    List.utf8Encode, List.toList_data_toByteArray, String.toList_ofList]

theorem toUTF8_toList_append (s t : String) :
    (s ++ t).toUTF8.toList = s.toUTF8.toList ++ t.toUTF8.toList := by
  simp only [toUTF8_toList, String.toList_append, List.flatMap_append]

/-- An ASCII character is one byte, its code point. -/
theorem utf8EncodeChar_of_lt {c : Char} (hc : c.toNat < 128) :
    String.utf8EncodeChar c = [c.toNat.toUInt8] := by
  have hval : c.val.toNat = c.toNat := rfl
  have hsize : c.utf8Size = 1 := by
    rw [Char.utf8Size_eq_one_iff, UInt32.le_iff_toNat_le]
    have h127 : (127 : UInt32).toNat = 127 := rfl
    omega
  rw [String.utf8EncodeChar_eq_singleton hsize]
  rfl

/-- Text of ASCII characters is one byte per character. -/
theorem flatMap_utf8EncodeChar_of_ascii (l : List Char) (h : ∀ c ∈ l, c.toNat < 128) :
    l.flatMap String.utf8EncodeChar = l.map (·.toNat.toUInt8) := by
  induction l with
  | nil => rfl
  | cons d l ih =>
    rw [List.flatMap_cons, utf8EncodeChar_of_lt (h d (by simp)), List.map_cons,
      ih (fun e he => h e (by simp [he]))]
    rfl

/-- A number below `0x100` as a byte keeps its value. -/
theorem toNat_toUInt8 {n : Nat} (hn : n < 256) : n.toUInt8.toNat = n := by
  simp only [Nat.toUInt8, UInt8.toNat_ofNat', Nat.mod_eq_of_lt hn]

/-- The bytes the reader produces for a code point are the encoding of its character. -/
theorem utf8Bytes_toNat (ch : Char) : utf8Bytes ch.toNat = String.utf8EncodeChar ch := by
  rw [utf8Bytes, Char.ofNat_toNat, toUTF8_toList]
  simp

/-- A byte with its top bit forced on. -/
theorem le_toNat_or {x k : UInt8} (hk : 128 ≤ k.toNat) : 128 ≤ (x ||| k).toNat := by
  rw [UInt8.toNat_or]
  exact Nat.le_trans hk Nat.right_le_or

/-- Every byte of a character beyond ASCII has its top bit set. -/
theorem le_toNat_of_mem_utf8EncodeChar {c : Char} {b : UInt8} (hc : 128 ≤ c.toNat)
    (hb : b ∈ String.utf8EncodeChar c) : 128 ≤ b.toNat := by
  have hval : c.val.toNat = c.toNat := rfl
  -- the encodings of two, three and four bytes set the top bit of every byte
  rcases Char.utf8Size_eq c with h1 | h2 | h3 | h4
  · have := UInt32.le_iff_toNat_le.mp (Char.utf8Size_eq_one_iff.mp h1)
    have h127 : (127 : UInt32).toNat = 127 := rfl
    omega
  · rw [String.utf8EncodeChar_eq_cons_cons h2] at hb
    simp only [List.mem_cons, List.not_mem_nil, or_false] at hb
    rcases hb with rfl | rfl <;> exact le_toNat_or (by decide)
  · rw [String.utf8EncodeChar_eq_cons_cons_cons h3] at hb
    simp only [List.mem_cons, List.not_mem_nil, or_false] at hb
    rcases hb with rfl | rfl | rfl <;> exact le_toNat_or (by decide)
  · rw [String.utf8EncodeChar_eq_cons_cons_cons_cons h4] at hb
    simp only [List.mem_cons, List.not_mem_nil, or_false] at hb
    rcases hb with rfl | rfl | rfl | rfl <;> exact le_toNat_or (by decide)

/-- Decoding the bytes of a string gives the string back. -/
theorem decodeUtf8_toUTF8 (s : String) : decodeUtf8 s.toUTF8.toList = s := by
  have harr : (⟨s.toUTF8.toList.toArray⟩ : ByteArray) = s.toUTF8 := by
    rw [byteArray_toList, Array.toArray_toList]
  rw [decodeUtf8, harr, String.toUTF8_eq_toByteArray]
  simp [String.fromUTF8?, s.isValidUTF8]
  rfl

end LiveSession.Json
