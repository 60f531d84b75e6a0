import LiveSession.Json.Print
import LiveSession.Proofs.Json.Bytes
/-!
# Reading scalars back from their text

The reader's pieces undo the printer's, one kind of scalar at a time. Each statement reads from
a cursor whose unread bytes are the printed text followed by anything, and says what comes back
and that exactly what followed is left.

* `readWord_append`: a literal word, as in `null`, `true` and `false`;
* `readNumber_repr`: a decimal numeral below `2^64`, which the number reader folds digit by
  digit into its significand (`readNumber_go_digits`) before looking at what follows;
* `readString_quote`: a quoted string, whatever its characters: each character's escape is read
  back as the character's UTF-8 bytes (`readString_go_escapeChar`), and the bytes decode to the
  string.
-/

namespace LiveSession.Json

namespace Cursor

variable {c : Cursor} {b : UInt8} {bs : List UInt8}

theorem peek_of_rest (h : c.rest = b :: bs) : c.peek = some b := by
  simp [peek, h]

theorem rest_next (h : c.rest = b :: bs) : c.next.rest = bs := by
  simp only [next, h]
  split <;> rfl

/-- Skipping blanks stops at once on a byte that is not blank. -/
theorem skipBlank_of_rest (h : c.rest = b :: bs)
    (hb : (b == 32 || b == 10 || b == 9 || b == 13) = false) : c.skipBlank = c := by
  simp [skipBlank, h, skipBlank.go, peek, hb]

theorem rest_next_eq_tail (c : Cursor) : c.next.rest = c.rest.tail := by
  simp only [next]
  split
  · simp_all
  · split <;> simp_all

theorem rest_skip (c : Cursor) (n : Nat) : (c.skip n).rest = c.rest.drop n := by
  induction n generalizing c with
  | zero => rfl
  | succ n ih => rw [skip, ih, rest_next_eq_tail, List.drop_tail]

theorem skipBlank_of_nil (h : c.rest = []) : c.skipBlank = c := by
  simp [skipBlank, h, skipBlank.go]

end Cursor

/-- Reading a literal word consumes exactly its bytes. -/
theorem readWord_append (w : List UInt8) {rest : List UInt8} :
    ∀ c : Cursor, c.rest = w ++ rest → ∃ c', c'.rest = rest ∧ readWord c w = .ok c' := by
  induction w with
  | nil => intro c h; exact ⟨c, h, rfl⟩
  | cons b w ih =>
    intro c h
    obtain ⟨c', hc', hread⟩ := ih c.next (Cursor.rest_next h)
    refine ⟨c', hc', ?_⟩
    simp [readWord, Cursor.peek_of_rest h, hread]


/-! ### Integers -/

/-- What may follow a value in compact text: nothing, a comma, or a closing bracket or brace. -/
def Delimits (rest : List UInt8) : Prop := ∀ b ∈ rest.head?, b = 44 ∨ b = 93 ∨ b = 125

theorem Delimits.not_digit {rest : List UInt8} (h : Delimits rest) :
    ∀ b ∈ rest.head?, isDigit b = false := by
  intro b hb
  rcases h b hb with rfl | rfl | rfl <;> decide

/-- Each digit folded into a number only makes it larger. -/
theorem le_ofDigitChars (l : List Char) (init : Nat) : init ≤ Nat.ofDigitChars 10 l init := by
  induction l generalizing init with
  | nil => simp [Nat.ofDigitChars_nil]
  | cons d l ih =>
    rw [Nat.ofDigitChars_cons]
    exact Nat.le_trans (by omega) (ih _)

/-- The code point of a decimal digit character. -/
theorem toNat_of_isDigit {d : Char} (hd : d.isDigit = true) : 48 ≤ d.toNat ∧ d.toNat ≤ 57 := by
  have hclass : (d.val ≥ '0'.val && d.val ≤ '9'.val) = true := hd
  have hval : d.val.toNat = d.toNat := rfl
  have h0 : '0'.val.toNat = 48 := rfl
  have h9 : '9'.val.toNat = 57 := rfl
  simp only [Bool.and_eq_true, decide_eq_true_eq, UInt32.le_iff_toNat_le] at hclass
  omega

/-- A decimal digit character as a byte. -/
theorem digit_byte {d : Char} (hd : d.isDigit = true) :
    isDigit d.toNat.toUInt8 = true ∧ (d.toNat.toUInt8 - 48).toNat = d.toNat - '0'.toNat := by
  obtain ⟨h48, h57⟩ := toNat_of_isDigit hd
  have hbyte := toNat_toUInt8 (show d.toNat < 256 by omega)
  refine ⟨?_, ?_⟩
  · simp only [isDigit, Bool.and_eq_true, decide_eq_true_eq, UInt8.le_iff_toNat_le, hbyte,
      UInt8.reduceToNat]
    omega
  · rw [UInt8.toNat_sub_of_le _ _ (by rw [UInt8.le_iff_toNat_le, hbyte]; simp; omega), hbyte]
    rfl

/-- The bytes of a decimal numeral. -/
theorem toUTF8_toList_repr (n : Nat) :
    (Nat.repr n).toUTF8.toList = (Nat.toDigits 10 n).map (·.toNat.toUInt8) := by
  rw [toUTF8_toList, Nat.toList_repr]
  apply flatMap_utf8EncodeChar_of_ascii
  intro d hd
  have := toNat_of_isDigit (Nat.isDigit_of_mem_toDigits (by decide) (by decide) hd)
  omega

/-- The digit loop of the number reader folds a run of digits into the significand. -/
theorem readNumber_go_digits (positive : Bool) {rest : List UInt8}
    (hrest : ∀ b ∈ rest.head?, isDigit b = false) (ds : List Char)
    (hds : ∀ d ∈ ds, d.isDigit = true) :
    ∀ (c : Cursor) (sig fuel : Nat), c.rest = ds.map (·.toNat.toUInt8) ++ rest →
      ds.length < fuel → Nat.ofDigitChars 10 ds sig ≤ u64Max →
      ∃ c', c'.rest = rest ∧
        readNumber.go positive c sig fuel = readNumberTail c' positive (Nat.ofDigitChars 10 ds sig) := by
  induction ds with
  | nil =>
    intro c sig fuel h hfuel _
    obtain ⟨f, rfl⟩ : ∃ f, fuel = f + 1 := ⟨fuel - 1, by simp at hfuel; omega⟩
    refine ⟨c, by simpa using h, ?_⟩
    simp only [List.map_nil, List.nil_append] at h
    cases hr : rest with
    | nil => simp [readNumber.go, Cursor.peek, h, hr, Nat.ofDigitChars_nil]
    | cons b bs =>
      have hb := hrest b (by simp [hr])
      simp [readNumber.go, Cursor.peek, h, hr, hb, Nat.ofDigitChars_nil]
  | cons d ds ih =>
    intro c sig fuel h hfuel hbound
    obtain ⟨f, rfl⟩ : ∃ f, fuel = f + 1 := ⟨fuel - 1, by simp at hfuel; omega⟩
    obtain ⟨hdig, hval⟩ := digit_byte (hds d (by simp))
    rw [Nat.ofDigitChars_cons] at hbound ⊢
    have hle := le_ofDigitChars ds (10 * sig + (d.toNat - '0'.toNat))
    have hstep : sig * 10 + (d.toNat.toUInt8 - 48).toNat = 10 * sig + (d.toNat - '0'.toNat) := by
      rw [hval]; omega
    have hcons : c.rest = d.toNat.toUInt8 :: (ds.map (·.toNat.toUInt8) ++ rest) := by
      simpa using h
    obtain ⟨c', hc', hgo⟩ := ih (fun e he => hds e (by simp [he])) c.next _ f
      (Cursor.rest_next hcons) (by simp at hfuel; omega) hbound
    refine ⟨c', hc', ?_⟩
    have hnot : ¬ (10 * sig + (d.toNat - '0'.toNat) > u64Max) := by omega
    simp only [readNumber.go, Cursor.peek_of_rest hcons, hdig, if_true, hstep, hnot, if_false]
    exact hgo


/-- A delimiter ends an integer: what follows is no fraction and no exponent. -/
theorem readNumberTail_of_delimits {c : Cursor} (h : Delimits c.rest) (positive : Bool)
    (n : Nat) :
    readNumberTail c positive n =
      if positive then .ok (.int n, c)
      else if n == 0 || n > 9223372036854775808 then .ok (.float (-(Float.ofNat n)), c)
      else .ok (.int (-(n : Int)), c) := by
  cases hr : c.rest with
  | nil => simp [readNumberTail, Cursor.peek, hr]
  | cons b bs =>
    rcases h b (by simp [hr]) with rfl | rfl | rfl <;> simp [readNumberTail, Cursor.peek, hr]

/-- A numeral has no leading zero. -/
theorem toDigits_head_ne_zero (n : Nat) (hn : 0 < n) :
    ∃ d ds, Nat.toDigits 10 n = d :: ds ∧ d ≠ '0' := by
  induction n using Nat.strongRecOn with
  | ind n ih =>
    rw [Nat.toDigits_eq_if (by decide)]
    split
    · exact ⟨_, [], rfl, by rw [Ne, Nat.digitChar_eq_zero]; omega⟩
    · obtain ⟨d, ds, hds, hd⟩ := ih (n / 10) (by omega) (by omega)
      exact ⟨d, ds ++ [(n % 10).digitChar], by rw [hds, List.cons_append], hd⟩

/-- The number reader reads a decimal numeral back as its value. -/
theorem readNumber_repr (positive : Bool) (n : Nat) (hn : n ≤ u64Max) {rest : List UInt8}
    (hrest : Delimits rest) (c : Cursor) (h : c.rest = (Nat.repr n).toUTF8.toList ++ rest) :
    ∃ c', c'.rest = rest ∧ readNumber c positive = readNumberTail c' positive n := by
  rw [toUTF8_toList_repr] at h
  have hdigits := fun d (hd : d ∈ Nat.toDigits 10 n) =>
    Nat.isDigit_of_mem_toDigits (by decide) (by decide) hd
  rcases Nat.eq_zero_or_pos n with rfl | hpos
  · -- a lone zero: the reader only checks that no digit follows it
    have hcons : c.rest = 48 :: rest := by simpa [Nat.toDigits_zero] using h
    refine ⟨c.next, Cursor.rest_next hcons, ?_⟩
    cases hr : rest with
    | nil =>
      have hnext : c.next.peek = none := by simp [Cursor.peek, Cursor.rest_next hcons, hr]
      simp [readNumber, Cursor.peek_of_rest hcons, hnext]
    | cons b bs =>
      have hnext : c.next.peek = some b := by simp [Cursor.peek, Cursor.rest_next hcons, hr]
      have hb := hrest.not_digit b (by simp [hr])
      simp [readNumber, Cursor.peek_of_rest hcons, hnext, hb]
  · obtain ⟨d, ds, hds, hd⟩ := toDigits_head_ne_zero n hpos
    rw [hds] at h hdigits
    obtain ⟨hdig, hval⟩ := digit_byte (hdigits d (by simp))
    have hcons : c.rest = d.toNat.toUInt8 :: (ds.map (·.toNat.toUInt8) ++ rest) := by
      simpa using h
    have hne : (d.toNat.toUInt8 == 48) = false := by
      have hd' : d.toNat ≠ 48 := fun h48 => hd (Char.ext (UInt32.toNat_inj.mp h48))
      have hbyte := toNat_toUInt8 (show d.toNat < 256 by
        have := toNat_of_isDigit (hdigits d (by simp)); omega)
      rw [beq_eq_false_iff_ne, Ne, ← UInt8.toNat_inj, hbyte]
      exact hd'
    have hvalue : Nat.ofDigitChars 10 ds (d.toNat.toUInt8 - 48).toNat = n := by
      rw [hval, ← Nat.ofDigitChars_ten_toDigits (n := n), hds, Nat.ofDigitChars_cons]
      simp
    obtain ⟨c', hc', hgo⟩ := readNumber_go_digits positive hrest.not_digit ds
      (fun e he => hdigits e (by simp [he])) c.next _ (c.next.rest.length + 1)
      (Cursor.rest_next hcons)
      (by rw [Cursor.rest_next hcons, List.length_append, List.length_map]; omega)
      (by rw [hvalue]; exact hn)
    refine ⟨c', hc', ?_⟩
    rw [hvalue] at hgo
    simp only [readNumber, Cursor.peek_of_rest hcons, hne, hdig]
    exact hgo


/-! ### Strings -/

section ReadString

variable {c : Cursor} {acc : Array UInt8} {bs r : List UInt8}

theorem readString_go_close (h : c.rest = 34 :: bs) (fuel : Nat) :
    readString.go c acc (fuel + 1) = .ok (decodeUtf8 acc.toList, c.next) := by
  simp [readString.go, Cursor.peek_of_rest h]

theorem readString_go_plain {b : UInt8} (h : c.rest = b :: bs) (hb : 32 ≤ b.toNat)
    (h34 : b ≠ 34) (h92 : b ≠ 92) (fuel : Nat) :
    readString.go c acc (fuel + 1) = readString.go c.next (acc.push b) fuel := by
  have hlt : ¬ b < 32 := by rw [UInt8.lt_iff_toNat_lt]; simp; omega
  simp [readString.go, Cursor.peek_of_rest h, h34, h92, hlt]

theorem readString_go_escape {out : List UInt8} {c' : Cursor} (h : c.rest = 92 :: bs)
    (he : readEscape c.next = .ok (out, c')) (fuel : Nat) :
    readString.go c acc (fuel + 1) = readString.go c' (acc ++ out.toArray) fuel := by
  simp [readString.go, Cursor.peek_of_rest h, he]

/-- A run of bytes that are neither quote, backslash nor control byte is copied as it is. -/
theorem readString_go_plainRun (bs : List UInt8)
    (hbs : ∀ b ∈ bs, 32 ≤ b.toNat ∧ b ≠ 34 ∧ b ≠ 92) :
    ∀ (c : Cursor) (acc : Array UInt8) (fuel : Nat), c.rest = bs ++ r → bs.length ≤ fuel →
      ∃ c', c'.rest = r ∧
        readString.go c acc fuel = readString.go c' (acc ++ bs.toArray) (fuel - bs.length) := by
  induction bs with
  | nil => intro c acc fuel h _; exact ⟨c, by simpa using h, by simp⟩
  | cons b bs ih =>
    intro c acc fuel h hfuel
    obtain ⟨f, rfl⟩ : ∃ f, fuel = f + 1 := ⟨fuel - 1, by simp at hfuel; omega⟩
    obtain ⟨hb32, hb34, hb92⟩ := hbs b (by simp)
    have hcons : c.rest = b :: (bs ++ r) := by simpa using h
    obtain ⟨c', hc', hgo⟩ := ih (fun x hx => hbs x (by simp [hx])) c.next (acc.push b) f
      (Cursor.rest_next hcons) (by simp at hfuel; omega)
    refine ⟨c', hc', ?_⟩
    rw [readString_go_plain hcons hb32 hb34 hb92, hgo]
    simp


/-- An escape of two bytes, a backslash and `e`, that the reader turns into the byte `x`. -/
theorem readString_go_twoByte {ch : Char} (e x : UInt8) {t : String}
    (ht : t.toUTF8.toList = [92, e]) (hx : String.utf8EncodeChar ch = [x])
    (hesc : ∀ d : Cursor, d.rest = e :: r → readEscape d = .ok ([x], d.next)) {fuel : Nat}
    (h : c.rest = t.toUTF8.toList ++ r) (hfuel : t.toUTF8.toList.length ≤ fuel) :
    ∃ c' fuel', c'.rest = r ∧ fuel - t.toUTF8.toList.length ≤ fuel' ∧
      readString.go c acc fuel = readString.go c' (acc ++ (String.utf8EncodeChar ch).toArray) fuel' := by
  rw [ht] at h hfuel ⊢
  obtain ⟨f, rfl⟩ : ∃ f, fuel = f + 1 := ⟨fuel - 1, by simp at hfuel; omega⟩
  have hcons : c.rest = 92 :: e :: r := h
  have hnext := Cursor.rest_next hcons
  refine ⟨c.next.next, f, Cursor.rest_next hnext, by simp, ?_⟩
  rw [readString_go_escape hcons (hesc c.next hnext), hx]

/-- The four hex digits `00XY` of a code point below `0x100`. -/
theorem readUnicodeEscape_of_hex {b₁ b₂ : UInt8} {k₁ k₂ : Nat} (h : c.rest = 48 :: 48 :: b₁ :: b₂ :: r)
    (h₁ : hexValue b₁ = some k₁) (h₂ : hexValue b₂ = some k₂) (hk : k₁ * 16 + k₂ < 0xD800) :
    readUnicodeEscape c = .ok (utf8Bytes (k₁ * 16 + k₂), c.skip 4) := by
  have hdc : ¬ (0xDC00 ≤ k₁ * 16 + k₂) := by omega
  have hd8 : k₁ * 16 + k₂ < 0xD800 := hk
  have h0 : hexValue 48 = some 0 := by decide
  simp [readUnicodeEscape, readHex4, h, h₁, h₂, h0, hdc, hd8, bind, Except.bind, pure, Except.pure]


theorem readEscape_of_u {d : Cursor} (h : d.rest = 117 :: bs) :
    readEscape d = readUnicodeEscape d.next := by
  simp [readEscape, Cursor.peek_of_rest h]

theorem hexValue_hexDigitLower : ∀ k < 16, hexValue (hexDigitLower k).toNat.toUInt8 = some k := by
  decide

theorem toNat_hexDigitLower_lt : ∀ k < 16, (hexDigitLower k).toNat < 128 := by
  decide

/-- The bytes of a character that is written as it is: none is a quote, a backslash or a control
byte. -/
theorem plain_of_mem_utf8EncodeChar {ch : Char} (h32 : 32 ≤ ch.toNat) (hq : ch ≠ '"')
    (hbs : ch ≠ '\\') : ∀ b ∈ String.utf8EncodeChar ch, 32 ≤ b.toNat ∧ b ≠ 34 ∧ b ≠ 92 := by
  intro b hb
  rcases Nat.lt_or_ge ch.toNat 128 with hlt | hge
  · rw [utf8EncodeChar_of_lt hlt, List.mem_singleton] at hb
    subst hb
    have hbyte := toNat_toUInt8 (show ch.toNat < 256 by omega)
    have hq' : ch.toNat ≠ 34 := fun h => hq (Char.ext (UInt32.toNat_inj.mp h))
    have hbs' : ch.toNat ≠ 92 := fun h => hbs (Char.ext (UInt32.toNat_inj.mp h))
    refine ⟨by omega, fun h => hq' ?_, fun h => hbs' ?_⟩ <;>
      · rw [← hbyte, h]; rfl
  · have := le_toNat_of_mem_utf8EncodeChar hge hb
    refine ⟨by omega, fun h => ?_, fun h => ?_⟩ <;> (subst h; simp at this)


/-- One character's escape is read back as the character's bytes; the reader spends no more
fuel than the escape has bytes. -/
theorem readString_go_escapeChar (ch : Char) (acc : Array UInt8) (fuel : Nat)
    (h : c.rest = (escapeChar ch).toUTF8.toList ++ r)
    (hfuel : (escapeChar ch).toUTF8.toList.length ≤ fuel) :
    ∃ c' fuel', c'.rest = r ∧ fuel - (escapeChar ch).toUTF8.toList.length ≤ fuel' ∧
      readString.go c acc fuel = readString.go c' (acc ++ (String.utf8EncodeChar ch).toArray) fuel' := by
  have hval : ch.val.toNat = ch.toNat := rfl
  -- take the printer's cases one at a time on an equation for its text, so the reader's goal
  -- stays small: the seven two-byte escapes, the `\u00XY` escape, and a character as it is
  generalize hs : escapeChar ch = s at h hfuel ⊢
  unfold escapeChar at hs
  by_cases hq : ch = '"'
  · subst hq; rw [if_pos (beq_iff_eq.mpr rfl)] at hs; subst hs
    exact readString_go_twoByte 34 34 (by rw [toUTF8_toList]; rfl) (by decide)
      (fun d hd => by simp [readEscape, Cursor.peek, hd]) h hfuel
  rw [if_neg (mt beq_iff_eq.mp hq)] at hs
  by_cases hbs : ch = '\\'
  · subst hbs; rw [if_pos (beq_iff_eq.mpr rfl)] at hs; subst hs
    exact readString_go_twoByte 92 92 (by rw [toUTF8_toList]; rfl) (by decide)
      (fun d hd => by simp [readEscape, Cursor.peek, hd]) h hfuel
  rw [if_neg (mt beq_iff_eq.mp hbs)] at hs
  by_cases hn : ch = '\n'
  · subst hn; rw [if_pos (beq_iff_eq.mpr rfl)] at hs; subst hs
    exact readString_go_twoByte 110 10 (by rw [toUTF8_toList]; rfl) (by decide)
      (fun d hd => by simp [readEscape, Cursor.peek, hd]) h hfuel
  rw [if_neg (mt beq_iff_eq.mp hn)] at hs
  by_cases hr : ch = '\r'
  · subst hr; rw [if_pos (beq_iff_eq.mpr rfl)] at hs; subst hs
    exact readString_go_twoByte 114 13 (by rw [toUTF8_toList]; rfl) (by decide)
      (fun d hd => by simp [readEscape, Cursor.peek, hd]) h hfuel
  rw [if_neg (mt beq_iff_eq.mp hr)] at hs
  by_cases ht : ch = '\t'
  · subst ht; rw [if_pos (beq_iff_eq.mpr rfl)] at hs; subst hs
    exact readString_go_twoByte 116 9 (by rw [toUTF8_toList]; rfl) (by decide)
      (fun d hd => by simp [readEscape, Cursor.peek, hd]) h hfuel
  rw [if_neg (mt beq_iff_eq.mp ht)] at hs
  by_cases h8 : ch.toNat = 8
  · rw [if_pos (beq_iff_eq.mpr h8)] at hs; subst hs
    exact readString_go_twoByte 98 8 (by rw [toUTF8_toList]; rfl)
      (by rw [utf8EncodeChar_of_lt (by omega), h8]; rfl)
      (fun d hd => by simp [readEscape, Cursor.peek, hd]) h hfuel
  rw [if_neg (mt beq_iff_eq.mp h8)] at hs
  by_cases h12 : ch.toNat = 12
  · rw [if_pos (beq_iff_eq.mpr h12)] at hs; subst hs
    exact readString_go_twoByte 102 12 (by rw [toUTF8_toList]; rfl)
      (by rw [utf8EncodeChar_of_lt (by omega), h12]; rfl)
      (fun d hd => by simp [readEscape, Cursor.peek, hd]) h hfuel
  rw [if_neg (mt beq_iff_eq.mp h12)] at hs
  by_cases hlt : ch.toNat < 32
  · rw [if_pos hlt] at hs; subst hs
    have hk₁ : ch.toNat / 16 < 16 := by omega
    have hk₂ : ch.toNat % 16 < 16 := Nat.mod_lt _ (by decide)
    have hbytes : ("\\u00" ++ String.singleton (hexDigitLower (ch.toNat / 16)) ++
        String.singleton (hexDigitLower (ch.toNat % 16))).toUTF8.toList =
        [92, 117, 48, 48, (hexDigitLower (ch.toNat / 16)).toNat.toUInt8,
          (hexDigitLower (ch.toNat % 16)).toNat.toUInt8] := by
      simp only [toUTF8_toList, String.toList_append, List.flatMap_append,
        String.toList_singleton, List.flatMap_cons, List.flatMap_nil, List.append_nil,
        utf8EncodeChar_of_lt (toNat_hexDigitLower_lt _ hk₁),
        utf8EncodeChar_of_lt (toNat_hexDigitLower_lt _ hk₂)]
      rfl
    rw [hbytes] at h hfuel ⊢
    obtain ⟨f, rfl⟩ : ∃ f, fuel = f + 1 := ⟨fuel - 1, by simp at hfuel; omega⟩
    have hcons : c.rest = 92 :: 117 :: 48 :: 48 :: _ := h
    have hu := Cursor.rest_next hcons
    have hhex := readUnicodeEscape_of_hex (Cursor.rest_next hu)
      (hexValue_hexDigitLower _ hk₁) (hexValue_hexDigitLower _ hk₂) (by omega)
    rw [Nat.div_add_mod', utf8Bytes_toNat] at hhex
    refine ⟨c.next.next.skip 4, f, by rw [Cursor.rest_skip, Cursor.rest_next hu]; rfl,
      by simp, ?_⟩
    rw [readString_go_escape hcons (by rw [readEscape_of_u hu, hhex])]
  · rw [if_neg hlt] at hs; subst hs
    have hplain := plain_of_mem_utf8EncodeChar (show 32 ≤ ch.toNat by omega) hq hbs
    have hbytes : (String.singleton ch).toUTF8.toList = String.utf8EncodeChar ch := by
      rw [toUTF8_toList]; simp
    rw [hbytes] at h hfuel ⊢
    obtain ⟨c', hc', hgo⟩ := readString_go_plainRun _ hplain c acc fuel h hfuel
    exact ⟨c', _, hc', Nat.le_refl _, hgo⟩

/-- The escaped characters of a string body are read back as the body's bytes. -/
theorem readString_go_body (l : List Char) :
    ∀ (c : Cursor) (acc : Array UInt8) (fuel : Nat),
      c.rest = l.flatMap (fun ch => (escapeChar ch).toUTF8.toList) ++ 34 :: r →
      (l.flatMap (fun ch => (escapeChar ch).toUTF8.toList)).length < fuel →
      ∃ c', c'.rest = r ∧
        readString.go c acc fuel =
          .ok (decodeUtf8 (acc.toList ++ l.flatMap String.utf8EncodeChar), c') := by
  induction l with
  | nil =>
    intro c acc fuel h hfuel
    obtain ⟨f, rfl⟩ : ∃ f, fuel = f + 1 := ⟨fuel - 1, by simp at hfuel; omega⟩
    have hclose : c.rest = 34 :: r := by simpa using h
    exact ⟨c.next, Cursor.rest_next hclose, by simp [readString_go_close hclose]⟩
  | cons ch l ih =>
    intro c acc fuel h hfuel
    rw [List.flatMap_cons, List.append_assoc] at h
    rw [List.flatMap_cons, List.length_append] at hfuel
    obtain ⟨c', fuel', hc', hfuel', hgo⟩ := readString_go_escapeChar ch acc fuel h (by omega)
    obtain ⟨c'', hc'', hbody⟩ := ih c' (acc ++ (String.utf8EncodeChar ch).toArray) fuel' hc'
      (by omega)
    refine ⟨c'', hc'', ?_⟩
    rw [hgo, hbody, List.flatMap_cons]
    simp

/-- The bytes of a quoted string: the quotes around the escaped characters. -/
theorem toUTF8_toList_quote (s : String) :
    (quote s).toUTF8.toList =
      34 :: s.toList.flatMap (fun ch => (escapeChar ch).toUTF8.toList) ++ [34] := by
  simp only [quote, toUTF8_toList, String.toList_append, List.flatMap_append,
    String.toList_join, List.flatMap_map, List.flatMap_assoc]
  rfl

/-- After its opening quote, a quoted string is read back as the string, and exactly the bytes
after its closing quote are left. -/
theorem readString_quote (s : String) (c : Cursor) (h : c.rest = (quote s).toUTF8.toList ++ r) :
    ∃ c', c'.rest = r ∧ readString c.next = .ok (s, c') := by
  rw [toUTF8_toList_quote] at h
  simp only [List.cons_append, List.append_assoc, List.nil_append] at h
  have hnext := Cursor.rest_next h
  obtain ⟨c', hc', hgo⟩ := readString_go_body s.toList c.next #[] (c.next.rest.length + 1) hnext
    (by rw [hnext, List.length_append, List.length_cons]; omega)
  refine ⟨c', hc', ?_⟩
  rw [readString, hgo, List.nil_append, ← toUTF8_toList, decodeUtf8_toUTF8]

end ReadString

end LiveSession.Json
