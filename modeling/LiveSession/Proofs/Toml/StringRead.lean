import LiveSession.Toml.Read
import LiveSession.Toml.Write
import LiveSession.Proofs.Json.Bytes
/-!
# Written strings read back

The writer puts a string in the first of six forms that holds it (`stringRepr`); the reader
takes each of them back to the string, whatever follows the form but a quote:

* `readValue_stringRepr`: reading `stringRepr s` gives `s`;
* `stringRepr_head`: every form opens with a quote, so nothing before it is taken for blanks.

The basic forms escape what they cannot hold, and `basicChar_cases` says once how a character
is written: an escape that `readEscape` reads back (`EscapeOf`), or the character itself where
the reader takes it as it is. The multi-line forms are read a run of quotes at a time; their
lemmas carry the number of quotes written just before the part still to read, and the
multi-line basic body escapes every third quote of a run, so the run never reaches three before
the closing quotes. The literal forms rest on what the metrics of the string say
(`le_maxSingleQuotes`, `isTextChar_of_escapeCodes`, `newline_of_mem`).
-/

namespace LiveSession.Toml

/-! ### Escapes -/

theorem hexVal_hexDigitUpper : ∀ k < 16, hexVal (hexDigitUpper k) = some k := by decide

theorem hexNumber_hex4 {n : Nat} (hn : n < 65536) : hexNumber (hex4 n).toList = some n := by
  have h1 := hexVal_hexDigitUpper (n / 4096 % 16) (Nat.mod_lt _ (by omega))
  have h2 := hexVal_hexDigitUpper (n / 256 % 16) (Nat.mod_lt _ (by omega))
  have h3 := hexVal_hexDigitUpper (n / 16 % 16) (Nat.mod_lt _ (by omega))
  have h4 := hexVal_hexDigitUpper (n % 16) (Nat.mod_lt _ (by omega))
  simp only [hexNumber, hex4, String.toList_ofList, List.foldlM_cons, List.foldlM_nil, h1, h2,
    h3, h4]
  simp
  omega

theorem length_hex4 (n : Nat) : (hex4 n).toList.length = 4 := by
  simp [hex4]

/-- An escape of `c` after a backslash: text that `readEscape` reads back as `c`, and that
does not start like a line continuation. -/
structure EscapeOf (c : Char) (t : List Char) : Prop where
  reads : ∀ rest, readEscape (t ++ rest) = some (c, rest)
  head : ∃ e ∈ t.head?, e ≠ ' ' ∧ e ≠ '\t' ∧ e ≠ '\n' ∧ e ≠ '\r'

theorem EscapeOf.single {c e : Char} (h : ∀ rest, readEscape (e :: rest) = some (c, rest))
    (he : e ≠ ' ' ∧ e ≠ '\t' ∧ e ≠ '\n' ∧ e ≠ '\r') : EscapeOf c [e] :=
  ⟨h, ⟨e, rfl, he⟩⟩

/-- A character below the surrogates as a `\u` escape. -/
theorem EscapeOf.unicode {c : Char} (hc : c.toNat < 0xD800) :
    EscapeOf c ('u' :: (hex4 c.toNat).toList) := by
  refine ⟨fun rest => ?_, ⟨'u', rfl, by decide⟩⟩
  have hlen := length_hex4 c.toNat
  have htake : ((hex4 c.toNat).toList ++ rest).take 4 = (hex4 c.toNat).toList := by
    rw [List.take_left' hlen]
  have hdrop : ((hex4 c.toNat).toList ++ rest).drop 4 = rest := by
    rw [List.drop_left' hlen]
  simp only [List.cons_append, readEscape, htake, hexNumber_hex4 (by omega : c.toNat < 65536),
    hdrop]
  simp [hlen]
  omega

theorem basicChar_cases (m : Bool) (c : Char) :
    (∃ t, (basicChar m c).toList = '\\' :: t ∧ EscapeOf c t) ∨
      ((basicChar m c).toList = [c] ∧
        (isBasicChar c = true ∨ m = true ∧ (c = '\n' ∨ c = '"'))) := by
  unfold basicChar
  by_cases h8 : c.toNat = 8
  · have hc : c = Char.ofNat 8 := by rw [← h8, Char.ofNat_toNat]
    rw [if_pos (by simpa using h8)]
    exact .inl ⟨['b'], rfl, .single (fun _ => by rw [hc]; rfl) (by decide)⟩
  rw [if_neg (by simpa using h8)]
  by_cases ht : c = '\t'
  · rw [if_pos (by simpa using ht)]
    exact .inl ⟨['t'], rfl, .single (fun _ => by rw [ht]; rfl) (by decide)⟩
  rw [if_neg (by simpa using ht)]
  by_cases hn : c = '\n'
  · rw [if_pos (by simpa using hn)]
    cases m
    · exact .inl ⟨['n'], rfl, .single (fun _ => by rw [hn]; rfl) (by decide)⟩
    · exact .inr ⟨by rw [hn]; rfl, .inr ⟨rfl, .inl hn⟩⟩
  rw [if_neg (by simpa using hn)]
  by_cases h12 : c.toNat = 12
  · have hc : c = Char.ofNat 12 := by rw [← h12, Char.ofNat_toNat]
    rw [if_pos (by simpa using h12)]
    exact .inl ⟨['f'], rfl, .single (fun _ => by rw [hc]; rfl) (by decide)⟩
  rw [if_neg (by simpa using h12)]
  by_cases hr : c = '\r'
  · rw [if_pos (by simpa using hr)]
    exact .inl ⟨['r'], rfl, .single (fun _ => by rw [hr]; rfl) (by decide)⟩
  rw [if_neg (by simpa using hr)]
  by_cases hq : c = '"'
  · rw [if_pos (by simpa using hq)]
    cases m
    · exact .inl ⟨['"'], rfl, .single (fun _ => by rw [hq]; rfl) (by decide)⟩
    · exact .inr ⟨by rw [hq]; rfl, .inr ⟨rfl, .inr hq⟩⟩
  rw [if_neg (by simpa using hq)]
  by_cases hb : c = '\\'
  · rw [if_pos (by simpa using hb)]
    exact .inl ⟨['\\'], rfl, .single (fun _ => by rw [hb]; rfl) (by decide)⟩
  rw [if_neg (by simpa using hb)]
  by_cases hctl : c.toNat < 0x20 ∨ c.toNat = 0x7f
  · rw [if_pos (by simpa using hctl)]
    exact .inl ⟨_, by simp, .unicode (by omega)⟩
  rw [if_neg (by simpa using hctl)]
  refine .inr ⟨by simp, .inl ?_⟩
  simp [isBasicChar, isTextChar, hq, hb]
  omega

/-! ### One written character -/

/-- A character allowed in comments and literal strings is no line end. -/
theorem ne_of_isTextChar {c : Char} (h : isTextChar c = true) : c ≠ '\n' ∧ c ≠ '\r' := by
  constructor <;> rintro rfl <;> simp [isTextChar] at h

theorem ne_of_isBasicChar {c : Char} (h : isBasicChar c = true) :
    c ≠ '"' ∧ c ≠ '\\' ∧ isTextChar c = true := by
  simp only [isBasicChar, Bool.and_eq_true, bne_iff_ne] at h
  exact ⟨h.1.1, h.1.2, h.2⟩

/-- A written character is never empty. -/
theorem length_basicChar_pos (m : Bool) (c : Char) : 0 < (basicChar m c).toList.length := by
  rcases basicChar_cases m c with ⟨t, ht, -⟩ | ⟨hraw, -⟩ <;> simp [*]

/-- A written character starts with a double quote only when it is one, kept in a multi-line
string. -/
theorem basicChar_head_ne {m : Bool} {c : Char} (hc : m = true → c ≠ '"') (rest : List Char) :
    ∀ e ∈ ((basicChar m c).toList ++ rest).head?, e ≠ '"' := by
  rcases basicChar_cases m c with ⟨t, ht, -⟩ | ⟨hraw, hbasic | ⟨hm, -⟩⟩
  · simp [ht]
  · simp [hraw, (ne_of_isBasicChar hbasic).1]
  · simp [hraw, hc hm]

/-- A character that is no line end or blank opens no line continuation. -/
theorem skipLineContinuation_of_head {e : Char} (he : e ≠ ' ' ∧ e ≠ '\t' ∧ e ≠ '\n' ∧ e ≠ '\r')
    (r : List Char) : skipLineContinuation (e :: r) = none := by
  obtain ⟨h1, h2, h3, h4⟩ := he
  simp [skipLineContinuation, skipSpace, lineEnd, h1, h2, h3, h4]

theorem readBasic_plain {c : Char} (hc : isBasicChar c = true) (acc rest : List Char) (f : Nat) :
    readBasic acc (c :: rest) (f + 1) = readBasic (c :: acc) rest f := by
  obtain ⟨hq, hb, -⟩ := ne_of_isBasicChar hc
  simp only [readBasic, if_pos hc]

theorem readMlBasic_plain {c : Char} (hc : isBasicChar c = true) (acc rest : List Char)
    (f : Nat) : readMlBasic acc (c :: rest) (f + 1) = readMlBasic (c :: acc) rest f := by
  obtain ⟨hq, hb, htext⟩ := ne_of_isBasicChar hc
  obtain ⟨hn, hr⟩ := ne_of_isTextChar htext
  -- `c` is none of the characters the earlier arms look for
  rw [readMlBasic]
  split
  · rfl
  · exact absurd hc ‹_›
  · exact hq
  · exact hb
  · exact fun _ h _ => hr h
  · exact hn

/-- An escape in a one-line basic string. -/
theorem readBasic_escape {c : Char} {t : List Char} (h : EscapeOf c t) (acc rest : List Char)
    (f : Nat) : readBasic acc ('\\' :: (t ++ rest)) (f + 1) = readBasic (c :: acc) rest f := by
  simp [readBasic, h.reads rest]

theorem readBasic_basicChar (acc rest : List Char) (c : Char) (f : Nat) :
    readBasic acc ((basicChar false c).toList ++ rest) (f + 1) = readBasic (c :: acc) rest f := by
  rcases basicChar_cases false c with ⟨t, ht, hesc⟩ | ⟨hraw, hbasic | ⟨hm, -⟩⟩
  · rw [ht, List.cons_append, readBasic_escape hesc]
  · rw [hraw, List.singleton_append, readBasic_plain hbasic]
  · cases hm

/-- An escape in a multi-line basic string: it never reads as a line continuation. -/
theorem readMlBasic_escape {c : Char} {t : List Char} (h : EscapeOf c t) (acc rest : List Char)
    (f : Nat) : readMlBasic acc ('\\' :: (t ++ rest)) (f + 1) = readMlBasic (c :: acc) rest f := by
  obtain ⟨e, he, hne⟩ := h.head
  obtain ⟨t', rfl⟩ : ∃ t', t = e :: t' := by
    cases t with
    | nil => cases he
    | cons e' t' => cases he; exact ⟨t', rfl⟩
  have hskip := skipLineContinuation_of_head hne (t' ++ rest)
  have hread := h.reads rest
  rw [List.cons_append] at hread
  simp [readMlBasic, hskip, hread]

theorem readMlBasic_basicChar (acc rest : List Char) {c : Char} (hc : c ≠ '"') (f : Nat) :
    readMlBasic acc ((basicChar true c).toList ++ rest) (f + 1) =
      readMlBasic (c :: acc) rest f := by
  rcases basicChar_cases true c with ⟨t, ht, hesc⟩ | ⟨hraw, hbasic | ⟨-, rfl | rfl⟩⟩
  · rw [ht, List.cons_append, readMlBasic_escape hesc]
  · rw [hraw, List.singleton_append, readMlBasic_plain hbasic]
  · rw [hraw, List.singleton_append]
    rfl
  · exact absurd rfl hc

/-! ### Basic strings -/

theorem readBasic_chars (cs : List Char) : ∀ (acc rest : List Char) (fuel : Nat),
    (cs.flatMap fun c => (basicChar false c).toList).length < fuel →
    readBasic acc ((cs.flatMap fun c => (basicChar false c).toList) ++ '"' :: rest) fuel =
      some (String.ofList (acc.reverse ++ cs), rest) := by
  induction cs with
  | nil =>
    intro acc rest fuel hfuel
    obtain ⟨f, rfl⟩ : ∃ f, fuel = f + 1 := ⟨fuel - 1, by omega⟩
    simp [readBasic]
  | cons c cs ih =>
    intro acc rest fuel hfuel
    have hlen := length_basicChar_pos false c
    rw [List.flatMap_cons, List.length_append] at hfuel
    obtain ⟨f, rfl⟩ : ∃ f, fuel = f + 1 := ⟨fuel - 1, by omega⟩
    rw [List.flatMap_cons, List.append_assoc, readBasic_basicChar, ih _ _ _ (by omega)]
    simp

theorem basicString_toList (s : String) :
    (basicString s).toList =
      '"' :: ((s.toList.flatMap fun c => (basicChar false c).toList) ++ ['"']) := by
  simp [basicString, String.toList_join, List.flatMap_map]

/-- A basic string reads back as the string it was written from. -/
theorem readValue_basicString (s : String) (d f : Nat) {rest : List Char}
    (hrest : ∀ e ∈ rest.head?, e ≠ '"') :
    readValue d ((basicString s).toList ++ rest) (f + 1) = some (.str s, rest) := by
  have hopen : ∀ r, (s.toList.flatMap fun c => (basicChar false c).toList) ++ '"' :: rest ≠
      '"' :: '"' :: r := by
    intro r
    cases hs : s.toList with
    | nil => simpa using fun h => hrest '"' (by simp [h]) rfl
    | cons c cs =>
      have hne := @basicChar_head_ne false c nofun
        ((cs.flatMap fun c => (basicChar false c).toList) ++ '"' :: rest)
      intro h
      rw [List.flatMap_cons, List.append_assoc] at h
      rw [h] at hne
      exact hne '"' rfl rfl
  rw [basicString_toList, List.cons_append, List.append_assoc, List.singleton_append]
  simp only [readValue]
  rw [readBasic_chars _ _ _ _ (by simp only [List.length_append, List.length_cons]; omega)]
  simp

/-! ### Multi-line basic strings -/

/-- The number of quotes at the start of a run of them. -/
theorem quoteRun_replicate_append (q : Char) (k : Nat) {cs : List Char}
    (hcs : ∀ e ∈ cs.head?, e ≠ q) : quoteRun q (List.replicate k q ++ cs) = k := by
  induction k with
  | zero =>
    cases cs with
    | nil => rfl
    | cons e cs => simp [quoteRun, hcs e rfl]
  | succ k ih =>
    simp only [quoteRun] at *
    rw [List.replicate_succ, List.cons_append, List.takeWhile_cons_of_pos (by simp),
      List.length_cons, ih]

/-- A run of double quotes in a multi-line basic string: fewer than three are text, three to
five close it. -/
theorem readMlBasic_quotes (acc cs : List Char) {k : Nat} (hk : 0 < k)
    (hcs : ∀ e ∈ cs.head?, e ≠ '"') (f : Nat) :
    readMlBasic acc (List.replicate k '"' ++ cs) (f + 1) =
      if k < 3 then readMlBasic (List.replicate k '"' ++ acc) cs f
      else if k ≤ 5 then some (String.ofList (List.replicate (k - 3) '"' ++ acc).reverse, cs)
      else none := by
  obtain ⟨j, rfl⟩ : ∃ j, k = j + 1 := ⟨k - 1, by omega⟩
  have hrun := quoteRun_replicate_append '"' (j + 1) hcs
  have hdrop : (List.replicate (j + 1) '"' ++ cs).drop (j + 1) = cs :=
    List.drop_left' List.length_replicate
  have hcons : List.replicate (j + 1) '"' ++ cs = '"' :: (List.replicate j '"' ++ cs) := rfl
  rw [hcons, readMlBasic, ← hcons, hrun, hdrop]

theorem mlBasicBody_quote_escaped {run : Nat} (h : 2 ≤ run) (cs : List Char) :
    (mlBasicBody run ('"' :: cs)).toList = '\\' :: '"' :: (mlBasicBody 0 cs).toList := by
  simp [mlBasicBody, show 3 ≤ run + 1 by omega]

theorem mlBasicBody_quote {run : Nat} (h : run < 2) (cs : List Char) :
    (mlBasicBody run ('"' :: cs)).toList = '"' :: (mlBasicBody (run + 1) cs).toList := by
  simp [mlBasicBody, show ¬3 ≤ run + 1 by omega]

theorem mlBasicBody_char {c : Char} (hc : c ≠ '"') (run : Nat) (cs : List Char) :
    (mlBasicBody run (c :: cs)).toList =
      (basicChar true c).toList ++ (mlBasicBody 0 cs).toList := by
  simp [mlBasicBody, hc]

/-- Reading a multi-line basic body back, after `run` double quotes that were written just
before it. The body never holds three double quotes in a row, so only its closing quotes,
with at most two quotes of its own before them, end it. -/
theorem readMlBasic_body (cs : List Char) : ∀ (run : Nat) (acc rest : List Char) (fuel : Nat),
    run ≤ 2 → (∀ e ∈ rest.head?, e ≠ '"') →
    (mlBasicBody run cs).toList.length + run < fuel →
    readMlBasic acc
        (List.replicate run '"' ++ (mlBasicBody run cs).toList ++ '"' :: '"' :: '"' :: rest) fuel =
      some (String.ofList (acc.reverse ++ List.replicate run '"' ++ cs), rest) := by
  induction cs with
  | nil =>
    intro run acc rest fuel hrun hrest hfuel
    obtain ⟨f, rfl⟩ : ∃ f, fuel = f + 1 := ⟨fuel - 1, by omega⟩
    have htext : List.replicate run '"' ++ (mlBasicBody run []).toList ++
        '"' :: '"' :: '"' :: rest = List.replicate (run + 3) '"' ++ rest := by
      have hnil : (mlBasicBody run []).toList = [] := by simp [mlBasicBody]
      rw [hnil, List.append_nil, ← List.replicate_append_replicate, List.append_assoc]
      rfl
    rw [htext, readMlBasic_quotes acc rest (by omega) hrest, if_neg (by omega),
      if_pos (by omega)]
    simp
  | cons c cs ih =>
    intro run acc rest fuel hrun hrest hfuel
    by_cases hc : c = '"'
    · subst hc
      by_cases hlt : run < 2
      · -- the quote joins the run written before it
        rw [mlBasicBody_quote hlt] at hfuel ⊢
        have hrep : List.replicate run '"' ++ '"' :: (mlBasicBody (run + 1) cs).toList =
            List.replicate (run + 1) '"' ++ (mlBasicBody (run + 1) cs).toList := by
          rw [List.replicate_succ', List.append_assoc, List.singleton_append]
        rw [hrep, ih (run + 1) acc rest fuel (by omega) hrest (by simp at hfuel; omega)]
        simp [List.replicate_succ']
      · -- a third quote in a row is escaped, and the run starts again after it
        obtain rfl : run = 2 := by omega
        rw [mlBasicBody_quote_escaped (Nat.le_refl 2)] at hfuel ⊢
        obtain ⟨f, rfl⟩ : ∃ f, fuel = f + 2 := ⟨fuel - 2, by simp at hfuel; omega⟩
        have hq : EscapeOf '"' ['"'] := .single (fun _ => rfl) (by decide)
        have hstep := readMlBasic_escape hq (List.replicate 2 '"' ++ acc)
          ((mlBasicBody 0 cs).toList ++ '"' :: '"' :: '"' :: rest) f
        rw [List.singleton_append] at hstep
        rw [List.append_assoc, readMlBasic_quotes acc _ (by omega) (by simp) (f + 1),
          if_pos (by omega), List.cons_append, List.cons_append, hstep]
        have h0 := ih 0 ('"' :: (List.replicate 2 '"' ++ acc)) rest f (by omega) hrest
          (by simp at hfuel ⊢; omega)
        simp only [List.replicate_zero, List.nil_append, List.append_nil] at h0
        rw [h0]
        simp
    · rw [mlBasicBody_char hc] at hfuel ⊢
      have hlen := length_basicChar_pos true c
      rw [List.length_append] at hfuel
      -- the character ends the run of quotes before it, and a new run starts after it
      have hread : ∀ acc' g, (mlBasicBody 0 cs).toList.length < g →
          readMlBasic acc' ((basicChar true c).toList ++ ((mlBasicBody 0 cs).toList ++
            '"' :: '"' :: '"' :: rest)) (g + 1) =
            some (String.ofList (acc'.reverse ++ c :: cs), rest) := by
        intro acc' g hg
        have h0 := ih 0 (c :: acc') rest g (by omega) hrest (by omega)
        simp only [List.replicate_zero, List.nil_append, List.append_nil] at h0
        rw [readMlBasic_basicChar _ _ hc, h0]
        simp
      rcases Nat.eq_zero_or_pos run with rfl | hpos
      · obtain ⟨f, rfl⟩ : ∃ f, fuel = f + 1 := ⟨fuel - 1, by omega⟩
        rw [List.replicate_zero, List.nil_append, List.append_assoc, hread acc f (by omega)]
        simp
      · obtain ⟨f, rfl⟩ : ∃ f, fuel = f + 2 := ⟨fuel - 2, by omega⟩
        rw [List.append_assoc, List.append_assoc,
          readMlBasic_quotes acc _ hpos (basicChar_head_ne (fun _ => hc) _) (f + 1),
          if_pos (by omega), hread _ f (by omega)]
        simp

theorem dropFirstNewline_of_head {cs : List Char} (h : ∀ e ∈ cs.head?, e ≠ '\n' ∧ e ≠ '\r') :
    dropFirstNewline cs = cs := by
  rcases cs with _ | ⟨e, cs⟩
  · rfl
  · obtain ⟨hn, hr⟩ := h e rfl
    simp [dropFirstNewline, hn, hr]

/-- A body that does not open with a line feed does not open with a line end. -/
theorem mlBasicBody_head {cs : List Char} (hcs : cs.head? ≠ some '\n') {r : List Char}
    (hr : ∀ e ∈ r.head?, e ≠ '\n' ∧ e ≠ '\r') :
    ∀ e ∈ ((mlBasicBody 0 cs).toList ++ r).head?, e ≠ '\n' ∧ e ≠ '\r' := by
  rcases cs with _ | ⟨c, cs⟩
  · simpa [mlBasicBody] using hr
  · by_cases hq : c = '"'
    · subst hq
      simp [mlBasicBody_quote (by omega : 0 < 2)]
    · rw [mlBasicBody_char hq]
      rcases basicChar_cases true c with ⟨t, ht, -⟩ | ⟨hraw, hbasic | ⟨-, hn | hq'⟩⟩
      · simp [ht]
      · simpa [hraw] using ne_of_isTextChar (ne_of_isBasicChar hbasic).2.2
      · exact absurd (by simp [hn]) hcs
      · exact absurd hq' hq

theorem mlBasicString_toList (s : String) (nl : Bool) :
    (mlBasicString s nl).toList = '"' :: '"' :: '"' ::
      ((if nl then ['\n'] else []) ++ ((mlBasicBody 0 s.toList).toList ++ ['"', '"', '"'])) := by
  cases nl <;> simp [mlBasicString]

/-- A multi-line basic string reads back as the string it was written from, provided it opens
with a line break whenever the string starts with one (the reader drops a first line break). -/
theorem readValue_mlBasicString (s : String) {nl : Bool}
    (hnl : s.toList.head? = some '\n' → nl = true) (d f : Nat) {rest : List Char}
    (hrest : ∀ e ∈ rest.head?, e ≠ '"') :
    readValue d ((mlBasicString s nl).toList ++ rest) (f + 1) = some (.str s, rest) := by
  have hbody : dropFirstNewline ((if nl then ['\n'] else []) ++
      ((mlBasicBody 0 s.toList).toList ++ '"' :: '"' :: '"' :: rest)) =
      (mlBasicBody 0 s.toList).toList ++ '"' :: '"' :: '"' :: rest := by
    cases nl
    · rw [if_neg Bool.false_ne_true, List.nil_append]
      exact dropFirstNewline_of_head
        (mlBasicBody_head (fun h => absurd (hnl h) nofun) (by simp))
    · rfl
  rw [mlBasicString_toList]
  simp only [List.cons_append, List.nil_append, List.append_assoc, readValue, hbody]
  have hread := readMlBasic_body s.toList 0 [] rest
    (((mlBasicBody 0 s.toList).toList ++ '"' :: '"' :: '"' :: rest).length + 1) (by omega) hrest
    (by simp only [List.length_append, List.length_cons]; omega)
  simp only [List.replicate_zero, List.nil_append] at hread
  rw [hread]
  simp

/-! ### Literal strings -/

theorem readLiteral_text {cs : List Char} (htext : ∀ c ∈ cs, isTextChar c = true)
    (hq : '\'' ∉ cs) (rest : List Char) :
    readLiteral (cs ++ '\'' :: rest) = some (String.ofList cs, rest) := by
  have htake : (cs ++ '\'' :: rest).takeWhile (· != '\'') = cs := by
    have hne : ∀ a ∈ cs, (a != '\'') = true := fun a ha => by
      have : a ≠ '\'' := fun h => hq (h ▸ ha)
      simpa using this
    rw [List.takeWhile_append_of_pos hne]
    simp
  simp [readLiteral, htake, List.all_eq_true.mpr htext]

/-- A literal string reads back as the string it was written from. -/
theorem readValue_literal {s : String} (htext : ∀ c ∈ s.toList, isTextChar c = true)
    (hq : '\'' ∉ s.toList) (d f : Nat) {rest : List Char} (hrest : ∀ e ∈ rest.head?, e ≠ '\'') :
    readValue d (("'" ++ s ++ "'").toList ++ rest) (f + 1) = some (.str s, rest) := by
  have hopen : ∀ r, s.toList ++ '\'' :: rest ≠ '\'' :: '\'' :: r := by
    intro r h
    cases hs : s.toList with
    | nil => rw [hs] at h; simp at h; exact hrest '\'' (by simp [h]) rfl
    | cons c cs => rw [hs] at h hq; simp at h; exact hq (by simp [h.1])
  have hstr : ("'" ++ s ++ "'").toList ++ rest = '\'' :: (s.toList ++ '\'' :: rest) := by simp
  rw [hstr]
  simp only [readValue, readLiteral_text htext hq]
  simp

/-! ### Multi-line literal strings -/

theorem readMlLiteral_char {c : Char} (hc : isTextChar c = true ∨ c = '\n') (hq : c ≠ '\'')
    (acc rest : List Char) (f : Nat) :
    readMlLiteral acc (c :: rest) (f + 1) = readMlLiteral (c :: acc) rest f := by
  rcases hc with htext | rfl
  · obtain ⟨hn, hr⟩ := ne_of_isTextChar htext
    -- `c` is none of the characters the earlier arms look for
    rw [readMlLiteral]
    split
    · rfl
    · exact absurd htext ‹_›
    · exact hq
    · exact fun _ h _ => hr h
    · exact hn
  · rfl

/-- A run of single quotes in a multi-line literal string: fewer than three are text, three to
five close it. -/
theorem readMlLiteral_quotes (acc cs : List Char) {k : Nat} (hk : 0 < k)
    (hcs : ∀ e ∈ cs.head?, e ≠ '\'') (f : Nat) :
    readMlLiteral acc (List.replicate k '\'' ++ cs) (f + 1) =
      if k < 3 then readMlLiteral (List.replicate k '\'' ++ acc) cs f
      else if k ≤ 5 then some (String.ofList (List.replicate (k - 3) '\'' ++ acc).reverse, cs)
      else none := by
  obtain ⟨j, rfl⟩ : ∃ j, k = j + 1 := ⟨k - 1, by omega⟩
  have hrun := quoteRun_replicate_append '\'' (j + 1) hcs
  have hdrop : (List.replicate (j + 1) '\'' ++ cs).drop (j + 1) = cs :=
    List.drop_left' List.length_replicate
  have hcons : List.replicate (j + 1) '\'' ++ cs = '\'' :: (List.replicate j '\'' ++ cs) := rfl
  rw [hcons, readMlLiteral, ← hcons, hrun, hdrop]

theorem replicate_infix_of_le {q : Char} {run : Nat} (h : 3 ≤ run) (l : List Char) :
    List.replicate 3 q <:+: List.replicate run q ++ l := by
  have hsplit : List.replicate run q = List.replicate 3 q ++ List.replicate (run - 3) q := by
    rw [List.replicate_append_replicate, Nat.add_sub_cancel' h]
  rw [hsplit, List.append_assoc]
  exact List.infix_append_left

/-- Reading a multi-line literal body back, after `run` single quotes that were written just
before it. -/
theorem readMlLiteral_body (cs : List Char) : ∀ (run : Nat) (acc rest : List Char) (fuel : Nat),
    (∀ c ∈ cs, isTextChar c = true ∨ c = '\n') →
    ¬List.replicate 3 '\'' <:+: List.replicate run '\'' ++ cs →
    (∀ e ∈ rest.head?, e ≠ '\'') → cs.length + run < fuel →
    readMlLiteral acc (List.replicate run '\'' ++ cs ++ '\'' :: '\'' :: '\'' :: rest) fuel =
      some (String.ofList (acc.reverse ++ List.replicate run '\'' ++ cs), rest) := by
  induction cs with
  | nil =>
    intro run acc rest fuel _ hq hrest hfuel
    have hrun : run ≤ 2 := Nat.le_of_not_lt fun h => hq (replicate_infix_of_le h [])
    obtain ⟨f, rfl⟩ : ∃ f, fuel = f + 1 := ⟨fuel - 1, by omega⟩
    have htext : List.replicate run '\'' ++ [] ++ '\'' :: '\'' :: '\'' :: rest =
        List.replicate (run + 3) '\'' ++ rest := by
      rw [List.append_nil, ← List.replicate_append_replicate, List.append_assoc]
      rfl
    rw [htext, readMlLiteral_quotes acc rest (by omega) hrest, if_neg (by omega),
      if_pos (by omega)]
    simp
  | cons c cs ih =>
    intro run acc rest fuel hchars hq hrest hfuel
    simp only [List.length_cons] at hfuel
    by_cases hc : c = '\''
    · -- the quote joins the run written before it
      subst hc
      have hrep : List.replicate run '\'' ++ '\'' :: cs = List.replicate (run + 1) '\'' ++ cs := by
        rw [List.replicate_succ', List.append_assoc, List.singleton_append]
      rw [hrep] at hq ⊢
      rw [ih (run + 1) acc rest fuel (fun c hc => hchars c (by simp [hc])) hq hrest (by omega)]
      simp [List.replicate_succ']
    · -- the character ends the run of quotes before it, and a new run starts after it
      have hcs : ¬List.replicate 3 '\'' <:+: cs := fun h =>
        hq (h.trans ((List.infix_cons (List.infix_refl cs)).trans List.infix_append_right))
      have hchars' : ∀ c ∈ cs, isTextChar c = true ∨ c = '\n' :=
        fun c' hc' => hchars c' (by simp [hc'])
      have hread : ∀ acc' g, cs.length < g →
          readMlLiteral acc' (c :: (cs ++ '\'' :: '\'' :: '\'' :: rest)) (g + 1) =
            some (String.ofList (acc'.reverse ++ c :: cs), rest) := by
        intro acc' g hg
        have h0 := ih 0 (c :: acc') rest g hchars' (by simpa using hcs) hrest (by omega)
        simp only [List.replicate_zero, List.nil_append, List.append_nil] at h0
        rw [readMlLiteral_char (hchars c (by simp)) hc, h0]
        simp
      rcases Nat.eq_zero_or_pos run with rfl | hpos
      · obtain ⟨f, rfl⟩ : ∃ f, fuel = f + 1 := ⟨fuel - 1, by omega⟩
        rw [List.replicate_zero, List.nil_append, List.cons_append, hread acc f (by omega)]
        simp
      · have hrun : run ≤ 2 := Nat.le_of_not_lt fun h => hq (replicate_infix_of_le h _)
        obtain ⟨f, rfl⟩ : ∃ f, fuel = f + 2 := ⟨fuel - 2, by omega⟩
        rw [List.append_assoc, List.cons_append,
          readMlLiteral_quotes acc _ hpos (by simpa using hc) (f + 1), if_pos (by omega),
          hread _ f (by omega)]
        simp

theorem mlLiteral_toList (s : String) (nl : Bool) :
    ("'''" ++ (if nl then "\n" else "") ++ s ++ "'''").toList = '\'' :: '\'' :: '\'' ::
      ((if nl then ['\n'] else []) ++ (s.toList ++ ['\'', '\'', '\''])) := by
  cases nl <;> simp

/-- A multi-line literal string reads back as the string it was written from, when the string
has no control characters but tab and line feed, never three single quotes in a row, and the
form opens with a line break whenever the string starts with one. -/
theorem readValue_mlLiteral {s : String} {nl : Bool}
    (hchars : ∀ c ∈ s.toList, isTextChar c = true ∨ c = '\n')
    (hq : ¬List.replicate 3 '\'' <:+: s.toList) (hnl : s.toList.head? = some '\n' → nl = true)
    (d f : Nat) {rest : List Char} (hrest : ∀ e ∈ rest.head?, e ≠ '\'') :
    readValue d (("'''" ++ (if nl then "\n" else "") ++ s ++ "'''").toList ++ rest) (f + 1) =
      some (.str s, rest) := by
  have hbody : dropFirstNewline ((if nl then ['\n'] else []) ++
      (s.toList ++ '\'' :: '\'' :: '\'' :: rest)) = s.toList ++ '\'' :: '\'' :: '\'' :: rest := by
    cases nl
    · apply dropFirstNewline_of_head
      cases hs : s.toList with
      | nil => simp
      | cons c cs =>
        have hn : c ≠ '\n' := fun h => absurd (hnl (by simp [hs, h])) nofun
        have htext : isTextChar c = true := (hchars c (by simp [hs])).resolve_right hn
        simpa using ⟨hn, (ne_of_isTextChar htext).2⟩
    · rfl
  rw [mlLiteral_toList]
  simp only [List.cons_append, List.nil_append, List.append_assoc, readValue, hbody]
  have hread := readMlLiteral_body s.toList 0 [] rest
    ((s.toList ++ '\'' :: '\'' :: '\'' :: rest).length + 1) hchars (by simpa using hq) hrest
    (by simp only [List.length_append, List.length_cons]; omega)
  simp only [List.replicate_zero, List.nil_append] at hread
  rw [hread]
  simp

/-! ### What the metrics say about a string -/

namespace RunState

theorem step_single (st : RunState) (b : UInt8) :
    (st.step b).single = if b = 39 then st.single + 1 else 0 := by
  by_cases h39 : b = 39 <;> by_cases h34 : b = 34 <;> simp [step, h39, h34]

theorem step_maxSingle (st : RunState) (b : UInt8) :
    (st.step b).maxSingle = if b = 39 then st.maxSingle else max st.maxSingle st.single := by
  by_cases h39 : b = 39 <;> by_cases h34 : b = 34 <;> simp [step, h39, h34]

/-- A step never lowers the longest run of single quotes, the current one counted. -/
theorem topSingle_le_step (st : RunState) (b : UInt8) :
    max st.maxSingle st.single ≤ max (st.step b).maxSingle (st.step b).single := by
  rw [step_single, step_maxSingle]
  by_cases h39 : b = 39
  · rw [if_pos h39, if_pos h39]
    omega
  · rw [if_neg h39, if_neg h39]
    omega

theorem topSingle_le_foldl (bs : List UInt8) (st : RunState) :
    max st.maxSingle st.single ≤
      max (bs.foldl step st).maxSingle (bs.foldl step st).single := by
  induction bs generalizing st with
  | nil => exact Nat.le_refl _
  | cons b bs ih => exact Nat.le_trans (topSingle_le_step st b) (ih _)

/-- Single quotes extend the current run. -/
theorem single_foldl_replicate (k : Nat) (st : RunState) :
    ((List.replicate k 39).foldl step st).single = st.single + k := by
  induction k generalizing st with
  | zero => rfl
  | succ k ih =>
    rw [List.replicate_succ, List.foldl_cons, ih, step_single, if_pos rfl]
    omega

end RunState

/-- A run of `k` single quotes in a string makes its longest run at least `k`. -/
theorem le_maxSingleQuotes {s : String} {k : Nat} (h : List.replicate k '\'' <:+: s.toList) :
    k ≤ (StringMetrics.of s).maxSingleQuotes := by
  obtain ⟨a, b, hab⟩ := h
  have hquote : String.utf8EncodeChar '\'' = [39] := by decide
  have hbytes : s.toUTF8.toList = a.flatMap String.utf8EncodeChar ++ List.replicate k 39 ++
      b.flatMap String.utf8EncodeChar := by
    rw [Json.toUTF8_toList, ← hab, List.flatMap_append, List.flatMap_append,
      List.flatMap_replicate, hquote, List.flatten_replicate_singleton]
  simp only [StringMetrics.of, hbytes, List.foldl_append]
  generalize (a.flatMap String.utf8EncodeChar).foldl RunState.step ⟨0, 0, 0, 0⟩ = st
  calc k ≤ ((List.replicate k 39).foldl RunState.step st).single := by
        rw [RunState.single_foldl_replicate]; omega
    _ ≤ _ := Nat.le_max_right _ _
    _ ≤ _ := RunState.topSingle_le_foldl _ _

theorem needsEscapeCode_iff (b : UInt8) :
    needsEscapeCode b = true ↔ (b.toNat < 32 ∧ b.toNat ≠ 9 ∧ b.toNat ≠ 10) ∨ b.toNat = 127 := by
  simp [needsEscapeCode, UInt8.lt_iff_toNat_lt, ← UInt8.toNat_inj, and_assoc]

/-- With no escape codes, every character of a string is text or a line feed. -/
theorem isTextChar_of_escapeCodes {s : String} (h : (StringMetrics.of s).escapeCodes = false)
    {c : Char} (hc : c ∈ s.toList) : isTextChar c = true ∨ c = '\n' := by
  by_cases hctl : (c.toNat < 32 ∧ c.toNat ≠ 9 ∧ c.toNat ≠ 10) ∨ c.toNat = 127
  · -- such a character is one byte, and that byte needs an escape code
    have hascii : c.toNat < 128 := by omega
    have hmem : c.toNat.toUInt8 ∈ s.toUTF8.toList := by
      rw [Json.toUTF8_toList, List.mem_flatMap]
      exact ⟨c, hc, by simp [Json.utf8EncodeChar_of_lt hascii]⟩
    have hneed : needsEscapeCode c.toNat.toUInt8 = true := by
      rw [needsEscapeCode_iff, Json.toNat_toUInt8 (by omega)]
      exact hctl
    have hany : (StringMetrics.of s).escapeCodes = true := List.any_eq_true.mpr ⟨_, hmem, hneed⟩
    rw [h] at hany
    cases hany
  · by_cases h9 : c.toNat = 9
    · left
      have : c = '\t' := by rw [← Char.ofNat_toNat c, h9]
      simp [isTextChar, this]
    by_cases h10 : c.toNat = 10
    · right
      rw [← Char.ofNat_toNat c, h10]
    · left
      simp only [isTextChar, Bool.or_eq_true, beq_iff_eq, Bool.and_eq_true, decide_eq_true_eq,
        bne_iff_ne, ne_eq]
      omega

/-- A line feed in a string sets its newline flag. -/
theorem newline_of_mem {s : String} (h : '\n' ∈ s.toList) :
    (StringMetrics.of s).newline = true := by
  have hmem : (10 : UInt8) ∈ s.toUTF8.toList := by
    rw [Json.toUTF8_toList, List.mem_flatMap]
    exact ⟨'\n', h, by decide⟩
  exact List.any_eq_true.mpr ⟨10, hmem, rfl⟩

/-! ### Every written string reads back -/

/-- Each form `stringRepr` picks reads back as the string, whatever follows it but a quote. -/
theorem readValue_stringRepr (s : String) (d f : Nat) {rest : List Char}
    (hrest : ∀ e ∈ rest.head?, e ≠ '"' ∧ e ≠ '\'') :
    readValue d ((stringRepr s).toList ++ rest) (f + 1) = some (.str s, rest) := by
  have hdq : ∀ e ∈ rest.head?, e ≠ '"' := fun e he => (hrest e he).1
  have hsq : ∀ e ∈ rest.head?, e ≠ '\'' := fun e he => (hrest e he).2
  -- a string that starts with a line feed has one, so a multi-line form opens with a line break
  have hnl : s.toList.head? = some '\n' → (StringMetrics.of s).newline = true :=
    fun h => newline_of_mem (List.mem_of_mem_head? h)
  unfold stringRepr
  simp only
  by_cases h1 : (!(StringMetrics.of s).escapeCodes && !(StringMetrics.of s).backslash &&
      (StringMetrics.of s).maxDoubleQuotes == 0 && !(StringMetrics.of s).newline) = true
  · rw [if_pos h1]
    exact readValue_basicString s d f hdq
  rw [if_neg h1]
  by_cases h2 : (!(StringMetrics.of s).escapeCodes && (StringMetrics.of s).maxSingleQuotes == 0 &&
      !(StringMetrics.of s).newline) = true
  · -- a literal string: no quote, no line feed, only text
    rw [if_pos h2]
    simp only [Bool.and_eq_true, Bool.not_eq_true', beq_iff_eq] at h2
    obtain ⟨⟨hesc, hsingle⟩, hnewline⟩ := h2
    have htext : ∀ c ∈ s.toList, isTextChar c = true := fun c hc =>
      (isTextChar_of_escapeCodes hesc hc).resolve_right fun h =>
        absurd (newline_of_mem (h ▸ hc)) (by simp [hnewline])
    have hq : '\'' ∉ s.toList := fun h => by
      obtain ⟨a, b, hab⟩ := List.append_of_mem h
      have hone : List.replicate 1 '\'' <:+: s.toList := ⟨a, b, by simp [hab]⟩
      have := le_maxSingleQuotes hone
      omega
    exact readValue_literal htext hq d f hsq
  rw [if_neg h2]
  by_cases h3 : (!(StringMetrics.of s).escapeCodes && !(StringMetrics.of s).backslash &&
      decide ((StringMetrics.of s).maxDoubleQuotes ≤ 2)) = true
  · rw [if_pos h3]
    exact readValue_mlBasicString s hnl d f hdq
  rw [if_neg h3]
  by_cases h4 : (!(StringMetrics.of s).escapeCodes &&
      decide ((StringMetrics.of s).maxSingleQuotes ≤ 2)) = true
  · -- a multi-line literal string: text and line feeds, never three single quotes in a row
    rw [if_pos h4]
    simp only [Bool.and_eq_true, Bool.not_eq_true', decide_eq_true_eq] at h4
    obtain ⟨hesc, hsingle⟩ := h4
    have hq : ¬List.replicate 3 '\'' <:+: s.toList := fun h =>
      absurd (le_maxSingleQuotes h) (by omega)
    exact readValue_mlLiteral (fun c hc => isTextChar_of_escapeCodes hesc hc) hq hnl d f hsq
  rw [if_neg h4]
  by_cases h5 : (StringMetrics.of s).newline = true
  · rw [if_pos h5]
    exact readValue_mlBasicString s (fun _ => rfl) d f hdq
  · rw [if_neg h5]
    exact readValue_basicString s d f hdq

/-- Every form opens with a quote. -/
theorem stringRepr_head (s : String) :
    ∃ q ∈ (stringRepr s).toList.head?, q = '"' ∨ q = '\'' := by
  unfold stringRepr
  simp only
  -- every branch is one of the four forms
  repeat' split
  all_goals simp [basicString_toList, mlBasicString_toList]

end LiveSession.Toml
