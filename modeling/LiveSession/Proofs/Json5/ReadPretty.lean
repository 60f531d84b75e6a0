import Mathlib.Data.List.TakeWhile
import LiveSession.Proofs.Json.RoundTrip
import LiveSession.Proofs.Scaffold.TemplateRender
import LiveSession.Json5.Read
import LiveSession.Json.Print
/-!
# Reading pretty text back as JSON5

The pretty printer and the JSON5 reader agree on the shape of a document: when the reader
accepts the pretty text of a value, what it returns has the same nulls, booleans and strings,
arrays of as many items and objects with the same keys in the same order (`Agrees`). Only a
number may come back as something else, since the reader keeps integers to 64 bits and reads a
float's shortest text as the nearest double.

The reader need not accept the text: a string holding U+2028 or U+2029 is printed with the
character as it is, and a JSON5 string may not hold a line end. So the statements here are about
a read that succeeds, and say what it must have returned:

* `read_pretty`: a value read from `v.pretty` and a line break agrees with `v`;
* `value_prettyAt`, `items_prettyItems` and `members_prettyMembers`: the mutual induction behind
  it, over the value, its items and its members, one reader step per case (`items_eq_some`,
  `members_quoted`, `value_quote`, `value_numeral`);
* `string_quote`: the reader takes a quoted string back as the string, one escape at a time
  (`stringBody_escapeChar`);
* `numberToken_split`: a number token never runs past a comma or a line break, so a number's
  text is read to its end, or the reader stops inside it, before a numeral no reader goes on
  from (`Stuck`);
* `AgreesMembers.keys`, `AgreesMembers.lookup` and `AgreesItems.mem_str`: a read-back object has
  the printed keys, each with an agreeing value, and a read-back array every printed string;
* `read_obj_nodup`: an object the reader returns repeats no key.
-/

namespace LiveSession.Json5

open LiveSession.Json

/-! ### Characters -/

/-- A character of a number's text: a digit, a point, an exponent mark or a sign. -/
def isNumeral (c : Char) : Bool := isDigit c || c == '.' || c == 'e' || c == '+' || c == '-'

theorem toNat_of_isNumeral {c : Char} (h : isNumeral c = true) :
    c.toNat = 43 ∨ c.toNat = 45 ∨ c.toNat = 46 ∨ c.toNat = 101 ∨
      (48 ≤ c.toNat ∧ c.toNat ≤ 57) := by
  simp only [isNumeral, isDigit, Bool.or_eq_true, Bool.and_eq_true, decide_eq_true_eq,
    beq_iff_eq] at h
  rcases h with (((⟨h1, h2⟩ | rfl) | rfl) | rfl) | rfl
  · simp only [Char.le_def, UInt32.le_iff_toNat_le] at h1 h2
    exact .inr (.inr (.inr (.inr ⟨h1, h2⟩)))
  all_goals simp

/-- A printable ASCII character is no blank. -/
theorem isBlank_of_toNat {c : Char} (h : 33 ≤ c.toNat ∧ c.toNat ≤ 126) : isBlank c = false := by
  simp only [isBlank, isSpaceSeparator, isLineTerminator, Bool.or_eq_false_iff,
    beq_eq_false_iff_ne, ne_eq, ← Char.toNat_inj]
  simp
  omega

theorem isBlank_of_isNumeral {c : Char} (h : isNumeral c = true) : isBlank c = false :=
  isBlank_of_toNat (by rcases toNat_of_isNumeral h with h | h | h | h | h <;> omega)

/-- A numeral is none of the characters that are not numerals. -/
theorem ne_of_isNumeral {c d : Char} (hc : isNumeral c = true) (hd : isNumeral d = false) :
    c ≠ d := by
  rintro rfl
  simp [hc] at hd

theorem isNumeral_of_mem_toDigits {n : Nat} {c : Char} (h : c ∈ Nat.toDigits 10 n) :
    isNumeral c = true := by
  have hd := Nat.isDigit_of_mem_toDigits (by decide) (by decide) h
  simp only [Char.isDigit, Bool.and_eq_true, decide_eq_true_eq] at hd
  simp only [isNumeral, isDigit, Char.le_def, Bool.or_eq_true, Bool.and_eq_true,
    decide_eq_true_eq]
  exact .inl (.inl (.inl (.inl ⟨hd.1, hd.2⟩)))

/-! ### Skipping blanks -/

theorem skipTrivia_blank {b : Char} (hb : isBlank b = true) (cs : List Char) (f : Nat) :
    skipTrivia (b :: cs) (f + 1) = skipTrivia cs f := by
  have hslash : b ≠ '/' := by rintro rfl; exact absurd hb (by decide)
  rw [skipTrivia.eq_def]
  simp [hslash, hb]

theorem skipTrivia_token {c : Char} (hb : isBlank c = false) (hs : c ≠ '/') (cs : List Char)
    (f : Nat) : skipTrivia (c :: cs) (f + 1) = c :: cs := by
  rw [skipTrivia.eq_def]
  simp [hs, hb]

/-- A text that skipping blanks stops at: it starts with a character that is neither blank nor
the start of a comment. -/
def Opens (t : List Char) : Prop := ∃ c cs, t = c :: cs ∧ isBlank c = false ∧ c ≠ '/'

theorem opens_cons {c : Char} (cs : List Char) (hb : isBlank c = false) (hs : c ≠ '/') :
    Opens (c :: cs) :=
  ⟨c, cs, rfl, hb, hs⟩

theorem Opens.append {t : List Char} (h : Opens t) (u : List Char) : Opens (t ++ u) := by
  obtain ⟨c, cs, rfl, hb, hs⟩ := h
  exact ⟨c, cs ++ u, rfl, hb, hs⟩

/-- Blanks are skipped up to a text that opens with a token. -/
theorem trivia_blanks {bs t : List Char} (hbs : ∀ b ∈ bs, isBlank b = true) (ht : Opens t) :
    trivia (bs ++ t) = t := by
  obtain ⟨c, cs, rfl, hb, hs⟩ := ht
  have go : ∀ (bs : List Char) (f : Nat), (∀ b ∈ bs, isBlank b = true) → bs.length < f →
      skipTrivia (bs ++ c :: cs) f = c :: cs := by
    intro bs
    induction bs with
    | nil =>
      intro f _ hf
      obtain ⟨f, rfl⟩ : ∃ f', f = f' + 1 := ⟨f - 1, by simp at hf; omega⟩
      exact skipTrivia_token hb hs cs f
    | cons b bs ih =>
      intro f hbs hf
      obtain ⟨f, rfl⟩ : ∃ f', f = f' + 1 := ⟨f - 1, by simp at hf; omega⟩
      rw [List.cons_append, skipTrivia_blank (hbs b List.mem_cons_self)]
      exact ih f (fun b hb => hbs b (List.mem_cons_of_mem _ hb)) (by simp at hf; omega)
  exact go bs _ hbs (by simp only [List.length_append, List.length_cons]; omega)

theorem trivia_of_opens {t : List Char} (ht : Opens t) : trivia t = t :=
  @trivia_blanks [] t (by simp) ht

theorem trivia_space {t : List Char} (ht : Opens t) : trivia (' ' :: t) = t :=
  @trivia_blanks [' '] t (List.all_eq_true.mp (by decide)) ht

theorem indent_toList (n : Nat) : (indent n).toList = List.replicate (2 * n) ' ' := by
  simp [indent]

/-- The line break and indentation before a pretty line are skipped. -/
theorem trivia_newline_indent {t : List Char} (n : Nat) (ht : Opens t) :
    trivia ('\n' :: ((indent n).toList ++ t)) = t := by
  rw [← List.cons_append]
  refine trivia_blanks ?_ ht
  intro b hb'
  rw [indent_toList] at hb'
  rcases List.mem_cons.mp hb' with rfl | h
  · decide
  · rw [List.eq_of_mem_replicate h]; decide

/-! ### Words and strings -/

theorem word_eq_some {w : String} {cs r : List Char} {u : Unit} (h : word w cs = some (u, r)) :
    w.toList ++ r = cs := by
  unfold word at h
  split_ifs at h with hp
  simp only [Option.some.injEq, Prod.mk.injEq] at h
  obtain ⟨-, rfl⟩ := h
  rw [List.isPrefixOf_iff_prefix] at hp
  simpa [← String.length_toList] using List.prefix_iff_eq_append.mp hp

theorem hexDigit?_hexDigitLower : ∀ k < 16, hexDigit? (hexDigitLower k) = some k := by decide

/-- The `\u00XX` escape of a control character reads back as the character. -/
theorem unicodeEscape_control {c : Char} (h : c.toNat < 32) (more : List Char) :
    unicodeEscape true ('0' :: '0' :: hexDigitLower (c.toNat / 16) ::
      hexDigitLower (c.toNat % 16) :: more) = some (c, more) := by
  have hzero : hexDigit? '0' = some 0 := by decide
  have hhi := hexDigit?_hexDigitLower (c.toNat / 16) (by omega)
  have hlo := hexDigit?_hexDigitLower (c.toNat % 16) (Nat.mod_lt _ (by decide))
  have hval : hexValue ['0', '0', hexDigitLower (c.toNat / 16), hexDigitLower (c.toNat % 16)] =
      c.toNat := by
    simp only [hexValue, List.foldl_cons, List.foldl_nil, hzero, hhi, hlo, Option.getD_some]
    omega
  have hhigh : isHighSurrogate c.toNat = false := by simp [isHighSurrogate]; omega
  have hlow : isLowSurrogate c.toNat = false := by simp [isLowSurrogate]; omega
  simp [unicodeEscape, hexDigits, hzero, hhi, hlo, hval, hhigh, hlow]

/-- One printed character of a string body is read back as the character, unless it is a raw
line end, which the reader refuses. -/
theorem stringBody_escapeChar {c : Char} {acc more : List Char} {fuel : Nat}
    {res : String × List Char}
    (h : stringBody '"' acc ((escapeChar c).toList ++ more) fuel = some res) :
    ∃ f, fuel = f + 1 ∧ stringBody '"' (c :: acc) more f = some res := by
  obtain ⟨f, rfl⟩ : ∃ f, fuel = f + 1 := by
    cases fuel with
    | zero => simp [stringBody] at h
    | succ f => exact ⟨f, rfl⟩
  refine ⟨f, rfl, ?_⟩
  -- the short escapes
  by_cases h1 : c = '"'
  · subst h1; simpa [escapeChar, stringBody, escapeBody, singleEscape?, isLineTerminator] using h
  by_cases h2 : c = '\\'
  · subst h2; simpa [escapeChar, stringBody, escapeBody, singleEscape?, isLineTerminator] using h
  by_cases h3 : c = '\n'
  · subst h3; simpa [escapeChar, stringBody, escapeBody, singleEscape?, isLineTerminator] using h
  by_cases h4 : c = '\r'
  · subst h4; simpa [escapeChar, stringBody, escapeBody, singleEscape?, isLineTerminator] using h
  by_cases h5 : c = '\t'
  · subst h5; simpa [escapeChar, stringBody, escapeBody, singleEscape?, isLineTerminator] using h
  by_cases h6 : c = '\x08'
  · subst h6; simpa [escapeChar, stringBody, escapeBody, singleEscape?, isLineTerminator] using h
  by_cases h7 : c = '\x0C'
  · subst h7; simpa [escapeChar, stringBody, escapeBody, singleEscape?, isLineTerminator] using h
  have h6' : (c.toNat == 8) = false := by
    rw [beq_eq_false_iff_ne]; exact fun e => h6 (Char.toNat_inj.mp e)
  have h7' : (c.toNat == 12) = false := by
    rw [beq_eq_false_iff_ne]; exact fun e => h7 (Char.toNat_inj.mp e)
  by_cases h8 : c.toNat < 32
  · -- the other control characters, as `\u00XX`
    simp only [escapeChar, h1, h2, h3, h4, h5, h6', h7', h8, beq_iff_eq, if_false, if_true,
      Bool.false_eq_true] at h
    simpa [stringBody, escapeBody, singleEscape?, isLineTerminator, unicodeEscape_control h8]
      using h
  · -- a character written as it is
    simp only [escapeChar, h1, h2, h3, h4, h5, h6', h7', h8, beq_iff_eq, if_false,
      Bool.false_eq_true] at h
    have hterm : isLineTerminator c = false := by
      cases ht : isLineTerminator c
      · rfl
      · simp [stringBody, h1, h2, ht] at h
    simpa [stringBody, h1, h2, hterm] using h

theorem quote_toList (s : String) :
    (quote s).toList = '"' :: ((s.toList.flatMap fun c => (escapeChar c).toList) ++ ['"']) := by
  simp [quote, String.toList_join, List.flatMap_map]

theorem stringBody_escaped : ∀ (cs acc rest : List Char) (fuel : Nat) {res : String × List Char},
    stringBody '"' acc ((cs.flatMap fun c => (escapeChar c).toList) ++ '"' :: rest) fuel =
      some res → res = (String.ofList (acc.reverse ++ cs), rest)
  | [], acc, rest, fuel, res, h => by
    cases fuel with
    | zero => simp [stringBody] at h
    | succ f => simp [stringBody] at h; simp [h]
  | c :: cs, acc, rest, fuel, res, h => by
    rw [List.flatMap_cons, List.append_assoc] at h
    obtain ⟨f, rfl, h'⟩ := stringBody_escapeChar h
    simpa using stringBody_escaped cs (c :: acc) rest f h'

/-- A quoted string that the reader accepts is read back as the string, up to its closing
quote. -/
theorem string_quote {s : String} {rest : List Char} {res : String × List Char}
    (h : string ((quote s).toList ++ rest) = some res) : res = (s, rest) := by
  rw [quote_toList, List.cons_append, List.append_assoc, List.singleton_append] at h
  simp only [string, beq_self_eq_true, Bool.true_or, if_true] at h
  simpa using stringBody_escaped _ [] rest _ h

/-! ### Numbers -/

/-- A text free of the characters that end a value in pretty text. -/
def Unbroken (t : List Char) : Prop := ∀ c ∈ t, c ≠ ',' ∧ c ≠ '\n'

theorem Unbroken.append {t u : List Char} (ht : Unbroken t) (hu : Unbroken u) :
    Unbroken (t ++ u) := by
  intro c hc
  rcases List.mem_append.mp hc with h | h
  · exact ht c h
  · exact hu c h

theorem unbroken_nil : Unbroken [] := by simp [Unbroken]

theorem unbroken_cons {c : Char} {t : List Char} (hc : c ≠ ',' ∧ c ≠ '\n') (ht : Unbroken t) :
    Unbroken (c :: t) := by
  intro d hd
  rcases List.mem_cons.mp hd with rfl | h
  · exact hc
  · exact ht d h

theorem unbroken_takeWhile {p : Char → Bool} (h1 : p ',' = false) (h2 : p '\n' = false)
    (l : List Char) : Unbroken (l.takeWhile p) := by
  intro c hc
  have hp := List.mem_takeWhile_imp hc
  exact ⟨by rintro rfl; simp [h1] at hp, by rintro rfl; simp [h2] at hp⟩

theorem unbroken_digits (l : List Char) : Unbroken (l.takeWhile isDigit) :=
  unbroken_takeWhile (by decide) (by decide) l

theorem isBreak_of_sign {s : Char} (hs : (s == '+' || s == '-') = true) :
    s ≠ ',' ∧ s ≠ '\n' := by
  simp only [Bool.or_eq_true, beq_iff_eq] at hs
  rcases hs with rfl | rfl <;> decide

theorem exponentPart_split {cs t r : List Char} (h : exponentPart cs = some (t, r)) :
    t ++ r = cs ∧ Unbroken t := by
  cases cs with
  | nil => simp [exponentPart] at h
  | cons e rest =>
    by_cases he : (e == 'e' || e == 'E') = true
    · have hbe : e ≠ ',' ∧ e ≠ '\n' := by
        simp only [Bool.or_eq_true, beq_iff_eq] at he
        rcases he with rfl | rfl <;> decide
      cases rest with
      | nil => simp [exponentPart, he] at h
      | cons s more =>
        by_cases hs : (s == '+' || s == '-') = true
        · simp only [exponentPart, he, hs, if_true, List.isEmpty_iff,
            Option.ite_none_left_eq_some, Option.some.injEq, Prod.mk.injEq] at h
          obtain ⟨-, rfl, rfl⟩ := h
          refine ⟨?_, unbroken_cons hbe (unbroken_cons (isBreak_of_sign hs) (unbroken_digits _))⟩
          simp [Scaffold.takeWhile_append_drop]
        · simp only [exponentPart, he, hs, if_true, List.isEmpty_iff, Bool.false_eq_true,
            if_false, Option.ite_none_left_eq_some, Option.some.injEq, Prod.mk.injEq] at h
          obtain ⟨-, rfl, rfl⟩ := h
          refine ⟨?_, unbroken_cons hbe (unbroken_digits _)⟩
          simp [Scaffold.takeWhile_append_drop]
    · simp [exponentPart, he] at h

theorem optExponent_split (cs : List Char) :
    (optExponent cs).1 ++ (optExponent cs).2 = cs ∧ Unbroken (optExponent cs).1 := by
  unfold optExponent
  cases h : exponentPart cs with
  | none => simp [unbroken_nil]
  | some p => simpa using exponentPart_split h

theorem integerPart_split {cs t r : List Char} (h : integerPart cs = some (t, r)) :
    t ++ r = cs ∧ Unbroken t := by
  cases cs with
  | nil => simp [integerPart] at h
  | cons c rest =>
    by_cases h0 : c = '0'
    · subst h0
      simp only [integerPart, Option.some.injEq, Prod.mk.injEq] at h
      obtain ⟨rfl, rfl⟩ := h
      exact ⟨rfl, unbroken_cons (by decide) unbroken_nil⟩
    · by_cases hd : isDigit c = true
      · simp only [integerPart, hd, if_true, Option.some.injEq, Prod.mk.injEq] at h
        obtain ⟨rfl, rfl⟩ := h
        exact ⟨Scaffold.takeWhile_append_drop _ _, unbroken_digits _⟩
      · simp [integerPart, hd] at h

theorem decimalLiteral_split {cs t r : List Char} (h : decimalLiteral cs = some (t, r)) :
    t ++ r = cs ∧ Unbroken t := by
  cases hi : integerPart cs with
  | none =>
    -- a fraction alone
    cases cs with
    | nil => simp [decimalLiteral, hi] at h
    | cons c rest =>
      by_cases hc : c = '.'
      · subst hc
        simp only [decimalLiteral, hi, List.isEmpty_iff] at h
        split_ifs at h
        simp only [Option.some.injEq, Prod.mk.injEq] at h
        obtain ⟨rfl, rfl⟩ := h
        obtain ⟨he, hue⟩ := optExponent_split (rest.drop (rest.takeWhile isDigit).length)
        refine ⟨?_, unbroken_cons (by decide) ((unbroken_digits _).append hue)⟩
        simp only [List.cons_append, List.append_assoc, he, Scaffold.takeWhile_append_drop]
      · simp [decimalLiteral, hi, hc] at h
  | some p =>
    obtain ⟨ip, rest⟩ := p
    obtain ⟨hip, huip⟩ := integerPart_split hi
    obtain ⟨he, hue⟩ := optExponent_split rest
    by_cases hd : ∃ more, rest = '.' :: more
    · -- an integer part with a fraction
      obtain ⟨more, rfl⟩ := hd
      simp only [decimalLiteral, hi, Option.some.injEq, Prod.mk.injEq] at h
      obtain ⟨rfl, rfl⟩ := h
      obtain ⟨he', hue'⟩ := optExponent_split (more.drop (more.takeWhile isDigit).length)
      refine ⟨?_, (huip.append (unbroken_cons (by decide) (unbroken_digits _))).append hue'⟩
      simp only [List.append_assoc, List.cons_append, he', Scaffold.takeWhile_append_drop, hip]
    · -- an integer part alone
      have h' : decimalLiteral cs = some (ip ++ (optExponent rest).1, (optExponent rest).2) := by
        unfold decimalLiteral
        cases rest with
        | nil => simp [hi]
        | cons d more =>
          have hd' : d ≠ '.' := fun e => hd ⟨more, by rw [e]⟩
          simp [hi, hd']
      rw [h', Option.some.injEq, Prod.mk.injEq] at h
      obtain ⟨rfl, rfl⟩ := h
      exact ⟨by rw [List.append_assoc, he, hip], huip.append hue⟩

/-- A number token is a prefix of the input that holds no comma and no line break. -/
theorem numberToken_split {cs t r : List Char} (h : numberToken cs = some (t, r)) :
    t ++ r = cs ∧ Unbroken t := by
  unfold numberToken at h
  split at h
  next _ sign body hsb =>
  -- the sign, if any, comes off the front
  have hsign : sign ++ body = cs ∧ Unbroken sign := by
    split at hsb
    · next s rest =>
      split_ifs at hsb with hs
      · simp only [Prod.mk.injEq] at hsb
        obtain ⟨rfl, rfl⟩ := hsb
        exact ⟨rfl, unbroken_cons (isBreak_of_sign hs) unbroken_nil⟩
      · simp only [Prod.mk.injEq] at hsb
        obtain ⟨rfl, rfl⟩ := hsb
        exact ⟨rfl, unbroken_nil⟩
    · simp only [Prod.mk.injEq] at hsb
      obtain ⟨rfl, rfl⟩ := hsb
      exact ⟨rfl, unbroken_nil⟩
  simp only at h
  obtain ⟨⟨t', r'⟩, hl, heq⟩ := Option.map_eq_some_iff.mp h
  simp only [Prod.mk.injEq] at heq
  obtain ⟨rfl, rfl⟩ := heq
  suffices hlit : t' ++ r' = body ∧ Unbroken t' from
    ⟨by rw [List.append_assoc, hlit.1, hsign.1], hsign.2.append hlit.2⟩
  -- then a hexadecimal literal, a decimal one, `Infinity` or `NaN`
  split at hl
  · next p hhex =>
    rw [Option.some.injEq] at hl
    subst hl
    split at hhex
    · next x rest =>
      split_ifs at hhex with hx hds
      simp only [Option.some.injEq, Prod.mk.injEq] at hhex
      obtain ⟨rfl, rfl⟩ := hhex
      have hbx : x ≠ ',' ∧ x ≠ '\n' := by
        simp only [Bool.or_eq_true, beq_iff_eq] at hx
        rcases hx with rfl | rfl <;> decide
      refine ⟨?_, unbroken_cons (by decide) (unbroken_cons hbx
        (unbroken_takeWhile (by decide) (by decide) _))⟩
      simp [Scaffold.takeWhile_append_drop]
    · simp at hhex
  · split at hl
    · next p hdec =>
      rw [Option.some.injEq] at hl
      subst hl
      exact decimalLiteral_split hdec
    · split at hl
      · next u rest hinf =>
        simp only [Option.some.injEq, Prod.mk.injEq] at hl
        obtain ⟨rfl, rfl⟩ := hl
        exact ⟨word_eq_some hinf, by simp [Unbroken]⟩
      · split at hl
        · next u rest hnan =>
          simp only [Option.some.injEq, Prod.mk.injEq] at hl
          obtain ⟨rfl, rfl⟩ := hl
          exact ⟨word_eq_some hnan, by simp [Unbroken]⟩
        · simp at hl

/-! ### The characters of a number's text -/

theorem numeral_digitText (n : Nat) :
    ∀ c ∈ (Decimal.digitText n).toList, isNumeral c = true := by
  intro c hc
  simp only [Decimal.digitText, String.toList_ofList] at hc
  exact isNumeral_of_mem_toDigits hc

theorem numeral_zeros (n : Nat) : ∀ c ∈ (Decimal.zeros n).toList, isNumeral c = true := by
  intro c hc
  simp only [Decimal.zeros, String.toList_ofList, List.mem_replicate] at hc
  rw [hc.2]
  decide

theorem numeral_render (t : Nat) (q : Int) :
    ∀ c ∈ (Decimal.Layout.standard.render t q).toList, isNumeral c = true := by
  have hds := numeral_digitText t
  intro c hc
  unfold Decimal.Layout.render at hc
  simp only at hc
  split at hc
  · -- digits, zeros, `.0`
    simp only [String.toList_append, List.mem_append] at hc
    rcases hc with (h | h) | h
    · exact hds c h
    · exact numeral_zeros _ c h
    · exact List.all_eq_true.mp (by decide) c h
  split at hc
  · -- digits around a point
    simp only [String.toList_append, String.toList_ofList, List.mem_append] at hc
    rcases hc with (h | h) | h
    · exact hds c (List.mem_of_mem_take h)
    · exact List.all_eq_true.mp (by decide) c h
    · exact hds c (List.mem_of_mem_drop h)
  split at hc
  · -- `0.`, zeros, digits
    simp only [String.toList_append, List.mem_append] at hc
    rcases hc with (h | h) | h
    · exact List.all_eq_true.mp (by decide) c h
    · exact numeral_zeros _ c h
    · exact hds c h
  -- a mantissa, `e` and a signed exponent
  simp only [String.toList_append, List.mem_append] at hc
  rcases hc with (h | h) | h
  · split at h
    · next d hd =>
      simp only [String.toList_singleton, List.mem_singleton] at h
      subst h
      exact hds c (by simp [hd])
    · next d rest _ hd =>
      simp only [String.toList_append, String.toList_singleton, String.toList_ofList,
        List.mem_append, List.mem_singleton] at h
      rcases h with (rfl | h) | h
      · exact hds c (by simp [hd])
      · exact List.all_eq_true.mp (by decide) c h
      · exact hds c (by simp [hd, h])
    · exact List.all_eq_true.mp (by decide) c h
  · exact List.all_eq_true.mp (by decide) c h
  · split at h <;>
    · simp only [String.toList_append, List.mem_append] at h
      rcases h with h | h
      · exact List.all_eq_true.mp (by decide) c h
      · exact numeral_digitText _ c h

theorem numeral_floatText (f : Float) :
    ∀ c ∈ (Decimal.floatText f).toList, isNumeral c = true := by
  intro c hc
  unfold Decimal.floatText at hc
  simp only at hc
  split at hc
  · simp only [String.toList_append, List.mem_append] at hc
    rcases hc with h | h
    · split at h <;> exact List.all_eq_true.mp (by decide) c h
    · exact List.all_eq_true.mp (by decide) c h
  · simp only [String.toList_append, List.mem_append] at hc
    rcases hc with h | h
    · split at h <;> exact List.all_eq_true.mp (by decide) c h
    · exact numeral_render _ _ c h

theorem toList_repr (m : Nat) : (Nat.repr m).toList = Nat.toDigits 10 m := by
  simp [Nat.repr]

/-- A number is written with numerals only. -/
theorem numeral_text (n : Number) : ∀ c ∈ n.text.toList, isNumeral c = true := by
  cases n with
  | int i =>
    intro c hc
    cases i with
    | ofNat m =>
      have htext : (Number.int (Int.ofNat m)).text = Nat.repr m := rfl
      rw [htext, toList_repr] at hc
      exact isNumeral_of_mem_toDigits hc
    | negSucc m =>
      have htext : (Number.int (Int.negSucc m)).text = "-" ++ Nat.repr (m + 1) := rfl
      rw [htext, String.toList_append, toList_repr, List.mem_append] at hc
      rcases hc with h | h
      · exact List.all_eq_true.mp (by decide) c h
      · exact isNumeral_of_mem_toDigits h
  | float f => exact numeral_floatText f

theorem render_ne_empty (t : Nat) (q : Int) : Decimal.Layout.standard.render t q ≠ "" := by
  unfold Decimal.Layout.render
  simp only
  split
  · simp
  split
  · simp
  split
  · simp
  · simp

theorem text_ne_empty (n : Number) : n.text ≠ "" := by
  cases n with
  | int i =>
    cases i with
    | ofNat m => simp [Number.text, Int.repr, Nat.repr]
    | negSucc m => simp [Number.text, Int.repr]
  | float f =>
    simp only [Number.text, Decimal.floatText]
    split
    · simp
    · simp [render_ne_empty]


/-! ### One step of the reader -/

theorem value_brace (cs : List Char) (f : Nat) :
    value ('{' :: cs) (f + 1) = members (trivia cs) [] f := by
  simp [value]

theorem value_bracket (cs : List Char) (f : Nat) :
    value ('[' :: cs) (f + 1) = items (trivia cs) [] f := by
  simp [value]

theorem value_null (cs : List Char) (f : Nat) :
    value ("null".toList ++ cs) (f + 1) = some (.null, cs) := by
  simp [value, word, ← String.length_toList]

theorem value_true (cs : List Char) (f : Nat) :
    value ("true".toList ++ cs) (f + 1) = some (.bool true, cs) := by
  simp [value, word, ← String.length_toList]

theorem value_false (cs : List Char) (f : Nat) :
    value ("false".toList ++ cs) (f + 1) = some (.bool false, cs) := by
  simp [value, word, ← String.length_toList]

theorem numberToken_quote (cs : List Char) : numberToken ('"' :: cs) = none := by
  simp [numberToken, decimalLiteral, integerPart, word, isDigit]

/-- At a quote the reader reads a string or nothing. -/
theorem value_quote {cs : List Char} {f : Nat} {w : Value} {r : List Char}
    (h : value ('"' :: cs) (f + 1) = some (w, r)) :
    ∃ s, string ('"' :: cs) = some (s, r) ∧ w = .str s := by
  cases hs : string ('"' :: cs) with
  | none => simp [value, word, hs, numberToken_quote] at h
  | some p =>
    obtain ⟨s, rest⟩ := p
    simp [value, word, hs] at h
    obtain ⟨rfl, rfl⟩ := h
    exact ⟨s, rfl, rfl⟩

/-- At a numeral the reader reads a number token. -/
theorem value_numeral {c : Char} {cs : List Char} {f : Nat} {w : Value} {r : List Char}
    (hc : isNumeral c = true) (h : value (c :: cs) (f + 1) = some (w, r)) :
    ∃ t, numberToken (c :: cs) = some (t, r) := by
  have hquote : c ≠ '"' := ne_of_isNumeral hc (by decide)
  have happ : c ≠ '\'' := ne_of_isNumeral hc (by decide)
  have hstr : string (c :: cs) = none := by simp [string, hquote, happ]
  have hn : 'n' ≠ c := (ne_of_isNumeral hc (by decide)).symm
  have ht : 't' ≠ c := (ne_of_isNumeral hc (by decide)).symm
  have hf : 'f' ≠ c := (ne_of_isNumeral hc (by decide)).symm
  have hbrace : c ≠ '{' := ne_of_isNumeral hc (by decide)
  have hbracket : c ≠ '[' := ne_of_isNumeral hc (by decide)
  simp [value, word, hstr, hn, ht, hf, hbrace, hbracket] at h
  obtain ⟨⟨t, rest⟩, htok, h⟩ := Option.bind_eq_some_iff.mp h
  obtain ⟨v, -, h⟩ := Option.bind_eq_some_iff.mp h
  simp only [Option.some.injEq, Prod.mk.injEq] at h
  exact ⟨t, by rw [htok, h.2]⟩

/-- An array item is read, then a comma and the next item, or the closing bracket. -/
theorem items_eq_some {cs : List Char} {acc : List Value} {f : Nat} {w : Value} {r : List Char}
    (hc : cs.head? ≠ some ']') (h : items cs acc (f + 1) = some (w, r)) :
    ∃ v rest, value cs f = some (v, rest) ∧
      ((∃ more, trivia rest = ',' :: more ∧ items (trivia more) (v :: acc) f = some (w, r)) ∨
       (∃ more, trivia rest = ']' :: more ∧ w = .arr (v :: acc).reverse ∧ r = more)) := by
  unfold items at h
  split at h
  · simp at hc
  · simp only [Option.bind_eq_bind, Option.bind_eq_some_iff] at h
    obtain ⟨⟨v, rest⟩, hv, h⟩ := h
    refine ⟨v, rest, hv, ?_⟩
    split at h
    · next more hm => exact .inl ⟨more, hm, h⟩
    · next more hm =>
      simp only [Option.some.injEq, Prod.mk.injEq] at h
      exact .inr ⟨more, hm, h.1.symm, h.2.symm⟩
    · simp at h

theorem identifier_quote (cs : List Char) : identifier ('"' :: cs) = none := by
  have hstart : isIdentifierStart '"' = false := by decide
  simp [identifier, hstart]

/-- An object member whose key is quoted: the key, a colon and the value, then a comma and the
next member or the closing brace. No identifier starts with a quote, so a key the string reader
refuses is no key at all. -/
theorem members_quoted {cs : List Char} {acc : List (String × Value)} {f : Nat} {w : Value}
    {r : List Char} (h : members ('"' :: cs) acc (f + 1) = some (w, r)) :
    ∃ k rest₁ more v rest₂, string ('"' :: cs) = some (k, rest₁) ∧
      trivia rest₁ = ':' :: more ∧ value (trivia more) f = some (v, rest₂) ∧
      ((∃ more', trivia rest₂ = ',' :: more' ∧
          members (trivia more') (setMember k v acc) f = some (w, r)) ∨
       (∃ more', trivia rest₂ = '}' :: more' ∧ w = .obj (setMember k v acc) ∧ r = more')) := by
  cases hs : string ('"' :: cs) with
  | none => simp [members, hs, identifier_quote] at h
  | some p =>
    obtain ⟨k, rest₁⟩ := p
    simp only [members, hs, Option.bind_eq_bind, Option.bind_some] at h
    split at h
    · next heq => simp at heq
    split at h
    · next more hm =>
      simp only [Option.bind_eq_some_iff] at h
      obtain ⟨⟨v, rest₂⟩, hv, h⟩ := h
      refine ⟨k, rest₁, more, v, rest₂, rfl, hm, hv, ?_⟩
      split at h
      · next more' hm' => exact .inl ⟨more', hm', h⟩
      · next more' hm' =>
        simp only [Option.some.injEq, Prod.mk.injEq] at h
        exact .inr ⟨more', hm', h.1.symm, h.2.symm⟩
      · simp at h
    · simp at h


theorem value_fuel {cs : List Char} {f : Nat} {p : Value × List Char}
    (h : value cs f = some p) : ∃ f', f = f' + 1 := by
  cases f with
  | zero => simp [value] at h
  | succ f => exact ⟨f, rfl⟩

theorem items_fuel {cs : List Char} {acc : List Value} {f : Nat} {p : Value × List Char}
    (h : items cs acc f = some p) : ∃ f', f = f' + 1 := by
  cases f with
  | zero => simp [items] at h
  | succ f => exact ⟨f, rfl⟩

theorem members_fuel {cs : List Char} {acc : List (String × Value)} {f : Nat}
    {p : Value × List Char} (h : members cs acc f = some p) : ∃ f', f = f' + 1 := by
  cases f with
  | zero => simp [members] at h
  | succ f => exact ⟨f, rfl⟩

theorem items_close (cs : List Char) (acc : List Value) (f : Nat) :
    items (']' :: cs) acc (f + 1) = some (.arr acc.reverse, cs) := by
  simp [items]

theorem members_close (cs : List Char) (acc : List (String × Value)) (f : Nat) :
    members ('}' :: cs) acc (f + 1) = some (.obj acc, cs) := by
  simp [members]

/-! ### Pretty text -/

theorem prettyAt_arr_append {xs : List Value} (hxs : xs ≠ []) (l : Nat) (rest : List Char) :
    (Value.prettyAt l (.arr xs)).toList ++ rest =
      '[' :: '\n' :: ((prettyItems (l + 1) xs).toList ++
        '\n' :: ((indent l).toList ++ ']' :: rest)) := by
  cases xs with
  | nil => contradiction
  | cons x xs => simp [Value.prettyAt]

theorem prettyAt_obj_append {ms : List (String × Value)} (hms : ms ≠ []) (l : Nat)
    (rest : List Char) :
    (Value.prettyAt l (.obj ms)).toList ++ rest =
      '{' :: '\n' :: ((prettyMembers (l + 1) ms).toList ++
        '\n' :: ((indent l).toList ++ '}' :: rest)) := by
  cases ms with
  | nil => contradiction
  | cons m ms => simp [Value.prettyAt]

/-- Pretty text opens with a token, never with a closing bracket. -/
theorem prettyAt_head (v : Value) (l : Nat) :
    ∃ c cs, (v.prettyAt l).toList = c :: cs ∧ isBlank c = false ∧ c ≠ '/' ∧ c ≠ ']' := by
  cases v with
  | null => exact ⟨'n', ['u', 'l', 'l'], by simp [Value.prettyAt, Value.compactLeaf], by decide⟩
  | bool b =>
    cases b
    · exact ⟨'f', ['a', 'l', 's', 'e'], by simp [Value.prettyAt, Value.compactLeaf], by decide⟩
    · exact ⟨'t', ['r', 'u', 'e'], by simp [Value.prettyAt, Value.compactLeaf], by decide⟩
  | num n =>
    obtain ⟨c, cs, hcs⟩ := List.exists_cons_of_ne_nil
      (by rw [Ne, String.toList_eq_nil_iff]; exact text_ne_empty n)
    have hc := numeral_text n c (by rw [hcs]; exact List.mem_cons_self)
    exact ⟨c, cs, hcs, isBlank_of_isNumeral hc, ne_of_isNumeral hc (by decide),
      ne_of_isNumeral hc (by decide)⟩
  | str s => exact ⟨'"', _, quote_toList s, by decide⟩
  | arr xs =>
    by_cases hxs : xs = []
    · subst hxs
      exact ⟨'[', [']'], by simp [Value.prettyAt], by decide⟩
    · exact ⟨'[', _, by simpa using prettyAt_arr_append hxs l [], by decide⟩
  | obj ms =>
    by_cases hms : ms = []
    · subst hms
      exact ⟨'{', ['}'], by simp [Value.prettyAt], by decide⟩
    · exact ⟨'{', _, by simpa using prettyAt_obj_append hms l [], by decide⟩

theorem opens_prettyAt (v : Value) (l : Nat) (tail : List Char) :
    Opens ((v.prettyAt l).toList ++ tail) := by
  obtain ⟨c, cs, hcs, hb, hs, -⟩ := prettyAt_head v l
  rw [hcs]
  exact opens_cons _ hb hs

theorem prettyItems_singleton_append (x : Value) (l : Nat) (tail : List Char) :
    (prettyItems l [x]).toList ++ tail = (indent l).toList ++ ((x.prettyAt l).toList ++ tail) := by
  simp [prettyItems]

theorem prettyItems_cons_append (x : Value) {xs : List Value} (hxs : xs ≠ []) (l : Nat)
    (tail : List Char) :
    (prettyItems l (x :: xs)).toList ++ tail = (indent l).toList ++ ((x.prettyAt l).toList ++
      ',' :: '\n' :: ((prettyItems l xs).toList ++ tail)) := by
  cases xs with
  | nil => contradiction
  | cons y ys => simp [prettyItems]

theorem prettyMembers_singleton_append (k : String) (v : Value) (l : Nat) (tail : List Char) :
    (prettyMembers l [(k, v)]).toList ++ tail =
      (indent l).toList ++ ((quote k).toList ++ ':' :: ' ' :: ((v.prettyAt l).toList ++ tail)) := by
  simp [prettyMembers]

theorem prettyMembers_cons_append (k : String) (v : Value) {ms : List (String × Value)}
    (hms : ms ≠ []) (l : Nat) (tail : List Char) :
    (prettyMembers l ((k, v) :: ms)).toList ++ tail =
      (indent l).toList ++ ((quote k).toList ++ ':' :: ' ' :: ((v.prettyAt l).toList ++
        ',' :: '\n' :: ((prettyMembers l ms).toList ++ tail))) := by
  cases ms with
  | nil => contradiction
  | cons m ms => simp [prettyMembers]


/-! ### Where a value's text ends -/

/-- What follows a value in pretty text: a comma or a line break. -/
def Follows (rest : List Char) : Prop := ∃ more, rest = ',' :: more ∨ rest = '\n' :: more

/-- Where the reader stops inside a number's text: at a numeral, which neither a comma nor a
closing bracket nor the end of the text is. -/
def Stuck (r : List Char) : Prop := ∃ c more, r = c :: more ∧ isNumeral c = true

theorem Stuck.trivia_ne {r : List Char} (h : Stuck r) {d : Char} (hd : isNumeral d = false)
    (more : List Char) : trivia r ≠ d :: more := by
  obtain ⟨c, cs, rfl, hc⟩ := h
  rw [trivia_of_opens (opens_cons cs (isBlank_of_isNumeral hc) (ne_of_isNumeral hc (by decide)))]
  intro heq
  exact ne_of_isNumeral hc hd (List.cons.inj heq).1

/-! The list readers choose, after each element, between a comma and the closing `c`; the
three lemmas below say which way that choice goes after an element's pretty text. -/

/-- A line break, indentation and the closing `c` after the last element take the closing
branch, which sees the text after `c`. -/
theorem close_after_indent {c : Char} {m : Nat} {rest : List Char} {P Q : List Char → Prop}
    (hb : isBlank c = false) (hs : c ≠ '/') (hc : c ≠ ',')
    (h : (∃ more, trivia ('\n' :: ((indent m).toList ++ c :: rest)) = ',' :: more ∧ P more) ∨
      (∃ more, trivia ('\n' :: ((indent m).toList ++ c :: rest)) = c :: more ∧ Q more)) :
    Q rest := by
  rw [trivia_newline_indent m (opens_cons rest hb hs)] at h
  rcases h with ⟨more, hmore, -⟩ | ⟨more, hmore, hq⟩
  · exact absurd (List.cons.inj hmore).1 hc
  · obtain ⟨-, rfl⟩ := List.cons.inj hmore
    exact hq

/-- A comma after an element takes the comma branch, which sees the text after it. -/
theorem comma_after {c : Char} {rest : List Char} {P Q : List Char → Prop} (hc : c ≠ ',')
    (h : (∃ more, trivia (',' :: rest) = ',' :: more ∧ P more) ∨
      (∃ more, trivia (',' :: rest) = c :: more ∧ Q more)) : P rest := by
  rw [trivia_of_opens (opens_cons rest (by decide) (by decide))] at h
  rcases h with ⟨more, hmore, hp⟩ | ⟨more, hmore, -⟩
  · obtain ⟨-, rfl⟩ := List.cons.inj hmore
    exact hp
  · exact absurd (List.cons.inj hmore).1 (Ne.symm hc)

/-- A reader stuck inside a number's text finds neither a comma nor the closing `c`. -/
theorem Stuck.no_separator {r : List Char} (hstuck : Stuck r) {c : Char}
    (hc : isNumeral c = false) {P Q : List Char → Prop}
    (h : (∃ more, trivia r = ',' :: more ∧ P more) ∨ (∃ more, trivia r = c :: more ∧ Q more)) :
    False := by
  rcases h with ⟨more, hmore, -⟩ | ⟨more, hmore, -⟩
  · exact hstuck.trivia_ne (by decide) more hmore
  · exact hstuck.trivia_ne hc more hmore

/-- A number's text is read to its end, or the token stops inside it, at a numeral. -/
theorem numberToken_text {n : Number} {rest t r : List Char} (hrest : Follows rest)
    (h : numberToken (n.text.toList ++ rest) = some (t, r)) : r = rest ∨ Stuck r := by
  obtain ⟨hsplit, ht⟩ := numberToken_split h
  rcases List.append_eq_append_iff.mp hsplit with ⟨a, htext, hr⟩ | ⟨b, htok, hrest'⟩
  · -- the token ends inside the text, or at its end
    cases a with
    | nil => exact .inl (by simpa using hr)
    | cons c a =>
      have hc : isNumeral c = true := numeral_text n c (by rw [htext]; simp)
      exact .inr ⟨c, a ++ rest, by rw [hr, List.cons_append], hc⟩
  · -- a token past the text would hold the comma or line break after it
    cases b with
    | nil => exact .inl (by simpa using hrest'.symm)
    | cons c b =>
      obtain ⟨more, hm | hm⟩ := hrest <;>
      · rw [hm, List.cons_append, List.cons.injEq] at hrest'
        have hmem := ht c (by rw [htok]; simp)
        rw [← hrest'.1] at hmem
        simp at hmem

/-! ### What a read of pretty text returns -/

mutual

/-- The value `w` read back from the pretty text of `v`: the same null, boolean or string, an
array of as many items or an object with the same keys in the same order, each agreeing in turn,
written as the reader writes members; a number may come back as anything. -/
noncomputable def Agrees : Value → Value → Prop
  | .null, w => w = .null
  | .bool b, w => w = .bool b
  | .num _, _ => True
  | .str s, w => w = .str s
  | .arr xs, w => ∃ ys, w = .arr ys ∧ AgreesItems xs ys
  | .obj ms, w => ∃ ns, w = .obj (membersOf ns) ∧ AgreesMembers ms ns

/-- Array items read back, one for each. -/
noncomputable def AgreesItems : List Value → List Value → Prop
  | [], ys => ys = []
  | x :: xs, ys => ∃ y ys', ys = y :: ys' ∧ Agrees x y ∧ AgreesItems xs ys'

/-- Object members read back, one for each, under the same keys. -/
noncomputable def AgreesMembers : List (String × Value) → List (String × Value) → Prop
  | [], ns => ns = []
  | (k, v) :: ms, ns => ∃ w ns', ns = (k, w) :: ns' ∧ Agrees v w ∧ AgreesMembers ms ns'

end


/-- A pretty member line: its quoted key is read back as the key, then the colon, and the reader
goes on to the value. -/
theorem members_member {k : String} {v : Value} {l : Nat} {tail r : List Char}
    {acc : List (String × Value)} {f : Nat} {w : Value}
    (h : members (trivia ('\n' :: ((indent l).toList ++
      ((quote k).toList ++ ':' :: ' ' :: ((v.prettyAt l).toList ++ tail))))) acc (f + 1) =
        some (w, r)) :
    ∃ v' rest₂, value ((v.prettyAt l).toList ++ tail) f = some (v', rest₂) ∧
      ((∃ more, trivia rest₂ = ',' :: more ∧
          members (trivia more) (setMember k v' acc) f = some (w, r)) ∨
       (∃ more, trivia rest₂ = '}' :: more ∧ w = .obj (setMember k v' acc) ∧ r = more)) := by
  have hquote : Opens ((quote k).toList ++ ':' :: ' ' :: ((v.prettyAt l).toList ++ tail)) := by
    rw [quote_toList]
    exact opens_cons _ (by decide) (by decide)
  rw [trivia_newline_indent l hquote, quote_toList, List.cons_append] at h
  obtain ⟨k', rest₁, more, v', rest₂, hk, hcolon, hv, hnext⟩ := members_quoted h
  rw [← List.cons_append, ← quote_toList] at hk
  obtain ⟨rfl, rfl⟩ := Prod.mk.inj (string_quote hk)
  rw [trivia_of_opens (opens_cons _ (by decide) (by decide)), List.cons.injEq] at hcolon
  obtain ⟨-, rfl⟩ := hcolon
  rw [trivia_space (opens_prettyAt v l _)] at hv
  exact ⟨v', rest₂, hv, hnext⟩

mutual

/-- A value read from the pretty text of `v`, followed by a comma or a line break, agrees with
`v`; the reader stops at the end of the text, or inside a number's text. -/
theorem value_prettyAt : ∀ (v : Value) (l : Nat) {rest r : List Char} {f : Nat} {w : Value},
    Follows rest → value ((v.prettyAt l).toList ++ rest) f = some (w, r) →
    Agrees v w ∧ (r = rest ∨ Stuck r)
  | .null, l, rest, r, f, w => by
    intro _ h
    obtain ⟨f, rfl⟩ := value_fuel h
    have htext : (Value.prettyAt l .null).toList = "null".toList := by
      simp [Value.prettyAt, Value.compactLeaf]
    rw [htext, value_null, Option.some.injEq, Prod.mk.injEq] at h
    obtain ⟨rfl, rfl⟩ := h
    exact ⟨rfl, .inl rfl⟩
  | .bool b, l, rest, r, f, w => by
    intro _ h
    obtain ⟨f, rfl⟩ := value_fuel h
    cases b with
    | false =>
      have htext : (Value.prettyAt l (.bool false)).toList = "false".toList := by
        simp [Value.prettyAt, Value.compactLeaf]
      rw [htext, value_false, Option.some.injEq, Prod.mk.injEq] at h
      obtain ⟨rfl, rfl⟩ := h
      exact ⟨rfl, .inl rfl⟩
    | true =>
      have htext : (Value.prettyAt l (.bool true)).toList = "true".toList := by
        simp [Value.prettyAt, Value.compactLeaf]
      rw [htext, value_true, Option.some.injEq, Prod.mk.injEq] at h
      obtain ⟨rfl, rfl⟩ := h
      exact ⟨rfl, .inl rfl⟩
  | .num n, l, rest, r, f, w => by
    intro hrest h
    obtain ⟨f, rfl⟩ := value_fuel h
    have htext : (Value.prettyAt l (.num n)).toList = n.text.toList := by
      simp [Value.prettyAt, Value.compactLeaf]
    obtain ⟨c, cs, hcs⟩ := List.exists_cons_of_ne_nil
      (by rw [Ne, String.toList_eq_nil_iff]; exact text_ne_empty n)
    have hc := numeral_text n c (by rw [hcs]; exact List.mem_cons_self)
    rw [htext, hcs, List.cons_append] at h
    obtain ⟨t, ht⟩ := value_numeral hc h
    rw [← List.cons_append, ← hcs] at ht
    exact ⟨trivial, numberToken_text hrest ht⟩
  | .str s, l, rest, r, f, w => by
    intro _ h
    obtain ⟨f, rfl⟩ := value_fuel h
    have htext : (Value.prettyAt l (.str s)).toList = (quote s).toList := by
      simp [Value.prettyAt, Value.compactLeaf]
    rw [htext, quote_toList, List.cons_append] at h
    obtain ⟨s', hs', rfl⟩ := value_quote h
    rw [← List.cons_append, ← quote_toList] at hs'
    obtain ⟨rfl, rfl⟩ := Prod.mk.inj (string_quote hs')
    exact ⟨rfl, .inl rfl⟩
  | .arr xs, l, rest, r, f, w => by
    intro _ h
    obtain ⟨f, rfl⟩ := value_fuel h
    by_cases hxs : xs = []
    · -- `[]`
      subst hxs
      have htext : (Value.prettyAt l (.arr [])).toList ++ rest = '[' :: ']' :: rest := by
        simp [Value.prettyAt]
      rw [htext, value_bracket, trivia_of_opens (opens_cons rest (by decide) (by decide))] at h
      obtain ⟨f, rfl⟩ := items_fuel h
      rw [items_close, Option.some.injEq, Prod.mk.injEq] at h
      obtain ⟨rfl, rfl⟩ := h
      exact ⟨⟨[], rfl, rfl⟩, .inl rfl⟩
    · rw [prettyAt_arr_append hxs, value_bracket] at h
      obtain ⟨ys, rfl, hys, rfl⟩ := items_prettyItems xs (l + 1) l hxs h
      exact ⟨⟨ys, by simp, hys⟩, .inl rfl⟩
  | .obj ms, l, rest, r, f, w => by
    intro _ h
    obtain ⟨f, rfl⟩ := value_fuel h
    by_cases hms : ms = []
    · -- `{}`
      subst hms
      have htext : (Value.prettyAt l (.obj [])).toList ++ rest = '{' :: '}' :: rest := by
        simp [Value.prettyAt]
      rw [htext, value_brace, trivia_of_opens (opens_cons rest (by decide) (by decide))] at h
      obtain ⟨f, rfl⟩ := members_fuel h
      rw [members_close, Option.some.injEq, Prod.mk.injEq] at h
      obtain ⟨rfl, rfl⟩ := h
      exact ⟨⟨[], rfl, rfl⟩, .inl rfl⟩
    · rw [prettyAt_obj_append hms, value_brace] at h
      obtain ⟨ns, rfl, hns, rfl⟩ := members_prettyMembers ms (l + 1) l hms h
      exact ⟨⟨ns, rfl, hns⟩, .inl rfl⟩

/-- Array items read from their pretty lines up to the closing bracket, each after its line
break and indentation. -/
theorem items_prettyItems : ∀ (xs : List Value) (l m : Nat) {rest r : List Char}
    {acc : List Value} {f : Nat} {w : Value}, xs ≠ [] →
    items (trivia ('\n' :: ((prettyItems l xs).toList ++
      '\n' :: ((indent m).toList ++ ']' :: rest)))) acc f = some (w, r) →
    ∃ ys, w = .arr (acc.reverse ++ ys) ∧ AgreesItems xs ys ∧ r = rest
  | [], _, _, _, _, _, _, _ => fun hxs _ => absurd rfl hxs
  | x :: xs, l, m, rest, r, acc, f, w => by
    intro _ h
    obtain ⟨f, rfl⟩ := items_fuel h
    obtain ⟨c, cs, hx, -, -, hcr⟩ := prettyAt_head x l
    have hhead : ∀ tail, ((x.prettyAt l).toList ++ tail).head? ≠ some ']' := by
      intro tail
      simp [hx, hcr]
    by_cases hxs : xs = []
    · -- the last item, then the closing bracket
      subst hxs
      rw [prettyItems_singleton_append, trivia_newline_indent l (opens_prettyAt x l _)] at h
      obtain ⟨v, rest', hv, hnext⟩ := items_eq_some (hhead _) h
      obtain ⟨hxv, hrest'⟩ := value_prettyAt x l ⟨_, .inr rfl⟩ hv
      rcases hrest' with rfl | hstuck
      · obtain ⟨rfl, rfl⟩ := close_after_indent (by decide) (by decide) (by decide) hnext
        exact ⟨[v], by simp, ⟨v, [], rfl, hxv, rfl⟩, rfl⟩
      · exact (hstuck.no_separator (by decide) hnext).elim
    · -- an item and a comma, then the next items
      rw [prettyItems_cons_append x hxs, trivia_newline_indent l (opens_prettyAt x l _)] at h
      obtain ⟨v, rest', hv, hnext⟩ := items_eq_some (hhead _) h
      obtain ⟨hxv, hrest'⟩ := value_prettyAt x l ⟨_, .inl rfl⟩ hv
      rcases hrest' with rfl | hstuck
      · obtain ⟨ys, rfl, hys, rfl⟩ :=
          items_prettyItems xs l m hxs (comma_after (by decide) hnext)
        exact ⟨v :: ys, by simp, ⟨v, ys, rfl, hxv, hys⟩, rfl⟩
      · exact (hstuck.no_separator (by decide) hnext).elim

/-- Object members read from their pretty lines up to the closing brace, each after its line
break and indentation; the reader writes them into the members it started with. -/
theorem members_prettyMembers : ∀ (ms : List (String × Value)) (l m : Nat) {rest r : List Char}
    {acc : List (String × Value)} {f : Nat} {w : Value}, ms ≠ [] →
    members (trivia ('\n' :: ((prettyMembers l ms).toList ++
      '\n' :: ((indent m).toList ++ '}' :: rest)))) acc f = some (w, r) →
    ∃ ns, w = .obj (ns.foldl (fun acc p => setMember p.1 p.2 acc) acc) ∧
      AgreesMembers ms ns ∧ r = rest
  | [], _, _, _, _, _, _, _ => fun hms _ => absurd rfl hms
  | (k, v) :: ms, l, m, rest, r, acc, f, w => by
    intro _ h
    obtain ⟨f, rfl⟩ := members_fuel h
    by_cases hms : ms = []
    · -- the last member, then the closing brace
      subst hms
      rw [prettyMembers_singleton_append] at h
      obtain ⟨v', rest₂, hv, hnext⟩ := members_member h
      obtain ⟨hvv, hrest₂⟩ := value_prettyAt v l ⟨_, .inr rfl⟩ hv
      rcases hrest₂ with rfl | hstuck
      · obtain ⟨rfl, rfl⟩ := close_after_indent (by decide) (by decide) (by decide) hnext
        exact ⟨[(k, v')], rfl, ⟨v', [], rfl, hvv, rfl⟩, rfl⟩
      · exact (hstuck.no_separator (by decide) hnext).elim
    · -- a member and a comma, then the next members
      rw [prettyMembers_cons_append k v hms] at h
      obtain ⟨v', rest₂, hv, hnext⟩ := members_member h
      obtain ⟨hvv, hrest₂⟩ := value_prettyAt v l ⟨_, .inl rfl⟩ hv
      rcases hrest₂ with rfl | hstuck
      · obtain ⟨ns, rfl, hns, rfl⟩ :=
          members_prettyMembers ms l m hms (comma_after (by decide) hnext)
        exact ⟨(k, v') :: ns, rfl, ⟨v', ns, rfl, hvv, hns⟩, rfl⟩
      · exact (hstuck.no_separator (by decide) hnext).elim
end


/-- A value read from the pretty text of `v` and a line break agrees with `v`. -/
theorem read_pretty {v w : Value} (h : read (v.pretty ++ "\n") = some w) : Agrees v w := by
  have htext : (v.pretty ++ "\n").toList = (v.prettyAt 0).toList ++ ['\n'] := by
    simp [Value.pretty]
  simp only [read, htext, trivia_of_opens (opens_prettyAt v 0 _)] at h
  obtain ⟨⟨w', r⟩, hv, h⟩ := Option.bind_eq_some_iff.mp h
  split_ifs at h
  cases h
  exact (value_prettyAt v 0 ⟨[], .inr rfl⟩ hv).1

/-! ### What agreeing values share -/

/-- Agreeing items list every string item of the printed array. -/
theorem AgreesItems.mem_str {s : String} :
    ∀ {xs ys : List Value}, AgreesItems xs ys → Value.str s ∈ xs → Value.str s ∈ ys
  | [], _, _, hs => absurd hs List.not_mem_nil
  | x :: xs, ys, h, hs => by
    obtain ⟨y, ys', rfl, hxy, hrest⟩ := h
    rcases List.mem_cons.mp hs with rfl | hs
    · -- a string reads back as itself
      have hy : y = .str s := hxy
      simp [hy]
    · exact List.mem_cons_of_mem y (AgreesItems.mem_str hrest hs)

/-- Agreeing members carry the same keys in the same order. -/
theorem AgreesMembers.keys :
    ∀ {ms ns : List (String × Value)}, AgreesMembers ms ns → ns.map Prod.fst = ms.map Prod.fst
  | [], _, h => by
    have hns : _ = [] := h
    simp [hns]
  | (k, v) :: ms, _, h => by
    obtain ⟨w, ns', rfl, -, hrest⟩ := h
    simp [AgreesMembers.keys hrest]

/-- A key of the printed object looks up, among the members read back, a value agreeing with
its own. -/
theorem AgreesMembers.lookup {k : String} {v : Value} :
    ∀ {ms ns : List (String × Value)}, AgreesMembers ms ns → ms.lookup k = some v →
      ∃ w, ns.lookup k = some w ∧ Agrees v w
  | [], _, _, hk => absurd hk (by simp)
  | (j, u) :: ms, _, h, hk => by
    obtain ⟨w, ns', rfl, huw, hrest⟩ := h
    by_cases hkj : k = j
    · subst hkj
      simp only [List.lookup_cons_self, Option.some.injEq] at hk
      subst hk
      exact ⟨w, by simp, huw⟩
    · -- the first member is another key's: look further
      rw [List.lookup_cons, beq_eq_false_iff_ne.mpr hkj] at hk
      rw [List.lookup_cons, beq_eq_false_iff_ne.mpr hkj]
      exact AgreesMembers.lookup hrest hk

/-- Members under distinct keys, written one after another, build the list they form. -/
theorem foldl_setMember : ∀ {acc ns : List (String × Value)}, ((acc ++ ns).map Prod.fst).Nodup →
    ns.foldl (fun acc p => setMember p.1 p.2 acc) acc = acc ++ ns
  | acc, [], _ => by simp
  | acc, (k, v) :: ns, h => by
    have hk : k ∉ acc.map Prod.fst := by
      simp only [List.map_append, List.map_cons, List.nodup_append, List.nodup_cons] at h
      exact fun hk => h.2.2 k hk k List.mem_cons_self rfl
    rw [List.foldl_cons, setMember_of_not_mem hk, foldl_setMember (by simpa using h)]
    simp

/-- An object built from members under distinct keys keeps them as they are. -/
theorem membersOf_of_nodup {ns : List (String × Value)} (h : (ns.map Prod.fst).Nodup) :
    membersOf ns = ns :=
  foldl_setMember (by simpa using h)

/-! ### Objects the reader returns repeat no key -/

theorem mem_keys_setMember {k x : String} {v : Value} :
    ∀ {acc : List (String × Value)}, x ∈ (setMember k v acc).map Prod.fst →
      x ∈ acc.map Prod.fst ∨ x = k
  | [], h => by simp [setMember] at h; exact .inr h
  | (k', w) :: rest, h => by
    unfold setMember at h
    split_ifs at h with hk
    · simp only [List.map_cons, List.mem_cons] at h
      rcases h with rfl | h
      · exact .inl (by simp)
      · exact .inl (by simp [h])
    · simp only [List.map_cons, List.mem_cons] at h
      rcases h with rfl | h
      · exact .inl (by simp)
      · rcases mem_keys_setMember h with h | h
        · exact .inl (by simp [h])
        · exact .inr h

theorem nodup_setMember (k : String) (v : Value) :
    ∀ {acc : List (String × Value)}, (acc.map Prod.fst).Nodup →
      ((setMember k v acc).map Prod.fst).Nodup
  | [], _ => by simp [setMember]
  | (k', w) :: rest, h => by
    rw [List.map_cons, List.nodup_cons] at h
    unfold setMember
    split_ifs with hk
    · simpa using h
    · rw [List.map_cons, List.nodup_cons]
      refine ⟨fun hmem => ?_, nodup_setMember k v h.2⟩
      rcases mem_keys_setMember hmem with hm | rfl
      · exact h.1 hm
      · exact hk (by simp)

/-- The members reader writes each member with `setMember`, so the keys it has written stay
distinct. -/
theorem members_nodup : ∀ (f : Nat) {cs : List Char} {acc ms : List (String × Value)}
    {r : List Char}, members cs acc f = some (.obj ms, r) → (acc.map Prod.fst).Nodup →
    (ms.map Prod.fst).Nodup
  | 0, _, _, _, _, h, _ => by simp [members] at h
  | f + 1, cs, acc, ms, r, h, hacc => by
    unfold members at h
    split at h
    · simp only [Option.some.injEq, Prod.mk.injEq, Value.obj.injEq] at h
      rw [← h.1]
      exact hacc
    · -- a quoted or an identifier key, a colon and a value, written into the members
      simp only at h
      split at h <;>
      · obtain ⟨⟨k, rest₁⟩, -, h⟩ := Option.bind_eq_some_iff.mp h
        simp only at h
        split at h
        · obtain ⟨rest₂, -, h⟩ := Option.bind_eq_some_iff.mp h
          obtain ⟨⟨v, rest₃⟩, -, h⟩ := Option.bind_eq_some_iff.mp h
          simp only at h
          have hacc' := nodup_setMember k v hacc
          split at h
          · exact members_nodup f h hacc'
          · simp only [Option.some.injEq, Prod.mk.injEq, Value.obj.injEq] at h
            rw [← h.1]
            exact hacc'
          · simp at h
        · simp at h

theorem items_arr : ∀ (f : Nat) {cs : List Char} {acc : List Value} {w : Value} {r : List Char},
    items cs acc f = some (w, r) → ∃ xs, w = .arr xs
  | 0, _, _, _, _, h => by simp [items] at h
  | f + 1, cs, acc, w, r, h => by
    unfold items at h
    split at h
    · simp only [Option.some.injEq, Prod.mk.injEq] at h
      exact ⟨_, h.1.symm⟩
    · simp only [Option.bind_eq_bind] at h
      obtain ⟨⟨v, rest⟩, -, h⟩ := Option.bind_eq_some_iff.mp h
      split at h
      · exact items_arr f h
      · simp only [Option.some.injEq, Prod.mk.injEq] at h
        exact ⟨_, h.1.symm⟩
      · simp at h

theorem numberValue_ne_obj (t : List Char) (ms : List (String × Value)) :
    numberValue t ≠ some (.obj ms) := by
  unfold numberValue
  simp only
  split_ifs <;> simp [Value.int, Value.float]

/-- An object the reader returns repeats no key. -/
theorem value_obj_nodup {cs : List Char} {f : Nat} {ms : List (String × Value)} {r : List Char}
    (h : value cs f = some (.obj ms, r)) : (ms.map Prod.fst).Nodup := by
  obtain ⟨f, rfl⟩ := value_fuel h
  unfold value at h
  split at h
  · exact members_nodup f h List.nodup_nil
  · obtain ⟨xs, hxs⟩ := items_arr f h
    cases hxs
  · -- no other value is an object
    split at h
    · simp at h
    · split at h
      · simp at h
      · split at h
        · simp at h
        · split at h
          · simp at h
          · obtain ⟨⟨t, rest⟩, -, h⟩ := Option.bind_eq_some_iff.mp h
            obtain ⟨v, hv, h⟩ := Option.bind_eq_some_iff.mp h
            simp only [Option.pure_def, Option.some.injEq, Prod.mk.injEq] at h
            rw [h.1] at hv
            exact absurd hv (numberValue_ne_obj t ms)

theorem read_obj_nodup {text : String} {ms : List (String × Value)}
    (h : read text = some (.obj ms)) : (ms.map Prod.fst).Nodup := by
  unfold read at h
  obtain ⟨⟨w, r⟩, hv, h⟩ := Option.bind_eq_some_iff.mp h
  simp only at h
  split_ifs at h
  cases h
  exact value_obj_nodup hv

end LiveSession.Json5
