import LiveSession.Proofs.Toml.StringRead
import LiveSession.Proofs.Json.ReadScalar
/-!
# Documents of tables read back

A writer that lays a document out as tables, each a `[name]` header followed by one
`key = value` line per setting and a blank line between two tables, is read back exactly:

* `readDocument_tables`: tables of distinct bare names, with distinct bare keys and values
  spelled as the reader reads them (`Table.Ok`), read as a root table holding each table's
  entries in order.

It rests on reading line by line. `Line.readStatement_text` says what the reader does with one
line of the writer, and `readStatements_lines` that reading the text of lines applies each line
in turn (`Line.apply`); `DocState.header_fresh` and `DocState.keyval_last` say what a header and
a setting do to the document so far. What a value's text must do is `Spells`: strings in every
form the writer picks, numerals of the signed 64-bit range and the two booleans spell their
values (`spells_stringRepr`, `spells_numeral`, `spells_bool`).
-/

namespace LiveSession.Toml

/-! ### Numerals -/

/-- A decimal digit in the reader's sense is one in the library's. -/
theorem isDigit_of_isDigit {c : Char} (h : c.isDigit = true) : isDigit c = true := by
  have hdigit := Json.toNat_of_isDigit h
  have hval : c.val.toNat = c.toNat := rfl
  have h0 : '0'.val.toNat = 48 := rfl
  have h9 : '9'.val.toNat = 57 := rfl
  simp only [isDigit, Bool.and_eq_true, decide_eq_true_eq, Char.le_def, UInt32.le_iff_toNat_le]
  omega

theorem digitsWithUnderscores_digits {cs : List Char} (hne : cs ≠ [])
    (h : ∀ c ∈ cs, isDigit c = true) : digitsWithUnderscores isDigit cs = some cs := by
  obtain ⟨c, cs', rfl⟩ := List.exists_cons_of_ne_nil hne
  have hund : ∀ x ∈ c :: cs', x ≠ '_' := fun x hx hx' => absurd (h x hx) (by rw [hx']; decide)
  have hlast : (c :: cs').getLast? ≠ some '_' := fun hl => hund _ (List.mem_of_getLast? hl) rfl
  have hpairs : ((c :: cs').zip (c :: cs').tail).all (fun p => !(p.1 == '_' && p.2 == '_')) =
      true := by
    rw [List.all_eq_true]
    intro p hp
    have := hund p.1 (List.of_mem_zip hp).1
    simp [this]
  have hfilter : (c :: cs').filter (· != '_') = c :: cs' := by
    rw [List.filter_eq_self]
    intro x hx
    simpa using hund x hx
  have hall : ((c :: cs').all fun c => isDigit c || c == '_') = true :=
    List.all_eq_true.mpr fun x hx => by simp [h x hx]
  simp only [digitsWithUnderscores, h c (by simp), Bool.not_true, Bool.false_or, hlast,
    beq_iff_eq, hfilter]
  rw [if_neg not_false, hpairs, hall]
  rfl

/-- Digits fold to the number they write. -/
theorem digitsValue_ten {ds : List Char} (h : ∀ c ∈ ds, c.isDigit = true) (init : Nat) :
    ds.foldl (fun acc c => acc * 10 + (hexVal c).getD 0) init = Nat.ofDigitChars 10 ds init := by
  induction ds generalizing init with
  | nil => simp
  | cons d ds ih =>
    have hd := h d (by simp)
    have hval : hexVal d = some (d.toNat - 48) := by
      have hdig : (decide ('0' ≤ d) && decide (d ≤ '9')) = true := isDigit_of_isDigit hd
      rw [hexVal, if_pos hdig]
    rw [List.foldl_cons, Nat.ofDigitChars_cons, hval, Option.getD_some,
      ih (fun c hc => h c (by simp [hc]))]
    congr 1
    have : '0'.toNat = 48 := rfl
    omega

/-- A numeral within the signed 64-bit range reads as its number. -/
theorem integerOf_toDigits {n : Nat} (hn : (n : Int) ≤ i64Max) :
    integerOf (Nat.toDigits 10 n) = some n := by
  rcases Nat.eq_zero_or_pos n with rfl | hpos
  · rfl
  obtain ⟨d, ds, hds, hd0⟩ := Json.toDigits_head_ne_zero n hpos
  have hdigits : ∀ c ∈ Nat.toDigits 10 n, c.isDigit = true :=
    fun c hc => Nat.isDigit_of_mem_toDigits (by decide) (by decide) hc
  have hd := Json.toNat_of_isDigit (hdigits d (by simp [hds]))
  have hdm : d ≠ '-' := fun h => by rw [h] at hd; simp at hd
  have hdp : d ≠ '+' := fun h => by rw [h] at hd; simp at hd
  have hvalue : digitsValue 10 (d :: ds) = n := by
    rw [digitsValue, digitsValue_ten (hds ▸ hdigits), ← hds, Nat.ofDigitChars_ten_toDigits]
  have hwith : digitsWithUnderscores isDigit (d :: ds) = some (d :: ds) :=
    digitsWithUnderscores_digits (by simp) fun c hc => isDigit_of_isDigit (hdigits c (hds ▸ hc))
  rw [hds]
  have hrange : i64Min ≤ (n : Int) ∧ (n : Int) ≤ i64Max := ⟨by rw [i64Min]; omega, hn⟩
  simp [integerOf, hd0, hdm, hdp, hwith, hvalue, hrange]

/-- After a run of digits, a window of the text that holds only digits ends at a digit or at
the character after the run. -/
theorem head_drop_of_take_digits {D : List Char} (hD : ∀ c ∈ D, isDigit c = true) {e : Char}
    (he : isDigit e = false) (rest : List Char) {k : Nat}
    (hk : ((D ++ e :: rest).take k).all isDigit = true) :
    ∀ x ∈ ((D ++ e :: rest).drop k).head?, isDigit x = true ∨ x = e := by
  by_cases hkD : k ≤ D.length
  · rw [List.drop_append_of_le_length hkD]
    cases hdrop : D.drop k with
    | nil => simp
    | cons x xs =>
      have hx : x ∈ D := List.mem_of_mem_drop (by rw [hdrop]; exact List.mem_cons_self)
      simp [hD x hx]
  · -- the window reaches past the digits, to a character that is none
    have hmem : e ∈ (D ++ e :: rest).take k := by
      rw [List.take_append, List.take_of_length_le (by omega)]
      obtain ⟨j, hj⟩ : ∃ j, k - D.length = j + 1 := ⟨k - D.length - 1, by omega⟩
      simp [hj]
    exact absurd (List.all_eq_true.mp hk e hmem) (by simp [he])

/-- Digits followed by a line end do not look like a date or a time. -/
theorem looksLikeDateTime_digits {D : List Char} (hD : ∀ c ∈ D, isDigit c = true)
    (rest : List Char) : looksLikeDateTime (D ++ '\n' :: rest) = false := by
  -- a window of digits is followed by a digit or the line end, never a dash or a colon
  have hfollow : ∀ k, ((D ++ '\n' :: rest).take k).all isDigit = true →
      ∀ x ∈ ((D ++ '\n' :: rest).drop k).head?, x ≠ '-' ∧ x ≠ ':' := by
    intro k hk x hx
    rcases head_drop_of_take_digits hD (by decide) rest hk x hx with h | rfl
    · constructor <;> rintro rfl <;> exact absurd h (by decide)
    · decide
  rw [looksLikeDateTime, Bool.eq_false_iff]
  intro h
  simp only [Bool.or_eq_true, Bool.and_eq_true, beq_iff_eq, decide_eq_true_eq] at h
  rcases h with ⟨⟨h4, -⟩, hdash⟩ | ⟨⟨h2, -⟩, hcolon⟩
  · exact (hfollow 4 h4 '-' (by simp [hdash])).1 rfl
  · exact (hfollow 2 h2 ':' (by simp [hcolon])).2 rfl

/-- A value that opens with no quote, bracket or brace is a scalar. -/
theorem readValue_scalar (d f : Nat) {c : Char} (hc : c ≠ '"' ∧ c ≠ '\'' ∧ c ≠ '[' ∧ c ≠ '{')
    (cs : List Char) : readValue d (c :: cs) (f + 1) = readScalar (c :: cs) := by
  obtain ⟨h1, h2, h3, h4⟩ := hc
  -- every other arm asks for a first character that `c` is not
  rw [readValue] <;> simp_all

/-- A numeral within the signed 64-bit range, ended by a line end, reads as its number. -/
theorem readValue_numeral {n : Nat} (hn : (n : Int) ≤ i64Max) (d f : Nat) (rest : List Char) :
    readValue d ((toString n).toList ++ '\n' :: rest) (f + 1) = some (.int n, '\n' :: rest) := by
  have hdigits : ∀ c ∈ Nat.toDigits 10 n, c.isDigit = true :=
    fun c hc => Nat.isDigit_of_mem_toDigits (by decide) (by decide) hc
  have htok : (Nat.toDigits 10 n ++ '\n' :: rest).takeWhile
      (fun c => c.isAlphanum || c == '_' || c == '+' || c == '-' || c == '.') =
      Nat.toDigits 10 n := by
    have halnum : ∀ c ∈ Nat.toDigits 10 n,
        (c.isAlphanum || c == '_' || c == '+' || c == '-' || c == '.') = true := by
      intro c hc
      have : c.isAlphanum = true := by
        show (c.isAlpha || c.isDigit) = true
        rw [hdigits c hc, Bool.or_true]
      simp [this]
    rw [List.takeWhile_append_of_pos halnum]
    simp
  obtain ⟨x, xs, hds⟩ := List.exists_cons_of_ne_nil (@Nat.toDigits_ne_nil n 10)
  have hd := Json.toNat_of_isDigit (hdigits x (by simp [hds]))
  have hhead : x ≠ '"' ∧ x ≠ '\'' ∧ x ≠ '[' ∧ x ≠ '{' := by
    refine ⟨?_, ?_, ?_, ?_⟩ <;> rintro rfl <;> simp at hd
  have hword : Nat.toDigits 10 n ≠ ['t', 'r', 'u', 'e'] ∧
      Nat.toDigits 10 n ≠ ['f', 'a', 'l', 's', 'e'] := by
    rw [hds]
    constructor <;> rintro ⟨⟩ <;> simp at hd
  have htext : (toString n).toList = Nat.toDigits 10 n := by simp
  rw [htext, hds, List.cons_append, readValue_scalar d f hhead, ← List.cons_append, ← hds,
    readScalar, looksLikeDateTime_digits (fun c hc => isDigit_of_isDigit (hdigits c hc)),
    if_neg Bool.false_ne_true]
  simp only [htok, integerOf_toDigits hn]
  simp [hword]

/-! ### Keys and statements -/

/-- A bare key: one or more letters, digits, underscores and dashes. -/
def IsBareKey (k : String) : Prop := k.toList ≠ [] ∧ ∀ c ∈ k.toList, isBareKeyChar c = true

instance : DecidablePred IsBareKey := fun k =>
  decidable_of_iff ((!k.toList.isEmpty && k.toList.all isBareKeyChar) = true)
    (by simp [IsBareKey])

theorem ne_of_isBareKeyChar {c : Char} (h : isBareKeyChar c = true) :
    c ≠ ' ' ∧ c ≠ '\t' ∧ c ≠ '\n' ∧ c ≠ '\r' ∧ c ≠ '#' ∧ c ≠ '[' ∧ c ≠ '"' ∧ c ≠ '\'' := by
  refine ⟨?_, ?_, ?_, ?_, ?_, ?_, ?_, ?_⟩ <;> rintro rfl <;> exact absurd h (by decide)

theorem readSimpleKey_bare {k : String} (hk : IsBareKey k) {rest : List Char}
    (hrest : ∀ e ∈ rest.head?, isBareKeyChar e = false) :
    readSimpleKey (k.toList ++ rest) = some (k, rest) := by
  obtain ⟨hne, hbare⟩ := hk
  obtain ⟨c, cs, hcs⟩ : ∃ c cs, k.toList = c :: cs := List.exists_cons_of_ne_nil hne
  obtain ⟨-, -, -, -, -, -, hq, hs⟩ := ne_of_isBareKeyChar (hbare c (by simp [hcs]))
  have htake : (k.toList ++ rest).takeWhile isBareKeyChar = k.toList := by
    rw [List.takeWhile_append_of_pos hbare]
    cases rest with
    | nil => simp
    | cons e r => simp [hrest e rfl]
  rw [readSimpleKey]
  split
  · rename_i hempty
    rw [htake, hcs] at hempty
    cases hempty
  · rw [htake, List.drop_left]
    simp
  -- the key opens with neither quote
  · intro r h
    rw [hcs] at h
    exact hq (List.cons.inj h).1
  · intro r h
    rw [hcs] at h
    exact hs (List.cons.inj h).1

/-- A bare key that nothing extends reads as a key of one part. -/
theorem readKey_bare {k : String} (hk : IsBareKey k) {rest : List Char}
    (hrest : ∀ e ∈ rest.head?, isBareKeyChar e = false) (hdot : ∀ m, skipSpace rest ≠ '.' :: m) :
    readKey (k.toList ++ rest) = some ([k], rest) := by
  simp only [readKey, readKey.go, readSimpleKey_bare hk hrest, Option.bind_eq_bind,
    Option.bind_some]
  split
  · rfl
  · rename_i hlong
    exact absurd (by simp [nestingLimit]) hlong

theorem skipSpace_of_head {c : Char} (hc : c ≠ ' ' ∧ c ≠ '\t') (cs : List Char) :
    skipSpace (c :: cs) = c :: cs := by
  simp [skipSpace, hc.1, hc.2]

theorem endOfStatement_newline (rest : List Char) : endOfStatement ('\n' :: rest) = some rest :=
  rfl

/-- A header line of a bare name. -/
theorem readStatement_header (st : DocState) {name : String} (hn : IsBareKey name)
    (rest : List Char) :
    readStatement st ('[' :: (name.toList ++ ']' :: '\n' :: rest)) =
      (st.header [name]).map (·, rest) := by
  have hkey : readKey (name.toList ++ ']' :: '\n' :: rest) = some ([name], ']' :: '\n' :: rest) :=
    readKey_bare hn (fun x hx => by cases hx; decide) (by simp [skipSpace])
  obtain ⟨c, cs, hcs⟩ := List.exists_cons_of_ne_nil hn.1
  obtain ⟨h1, h2, -, -, -, h6, -, -⟩ := ne_of_isBareKeyChar (hn.2 c (by simp [hcs]))
  rw [hcs, List.cons_append] at hkey
  rw [readStatement, skipSpace_of_head (by decide), hcs, List.cons_append]
  simp [h6, hkey, skipSpace_of_head ⟨h1, h2⟩,
    skipSpace_of_head (show ']' ≠ ' ' ∧ ']' ≠ '\t' by decide), endOfStatement_newline]
  cases st.header [name] <;> rfl

/-- What the writer spells for a value: read where a setting's value starts, the text gives the
value and stops at the line end; and it opens with no blank, which the reader would skip. -/
structure Spells (text : String) (v : Value) : Prop where
  reads : ∀ rest f, readValue 0 (text.toList ++ '\n' :: rest) (f + 1) = some (v, '\n' :: rest)
  head : ∀ e ∈ text.toList.head?, e ≠ ' ' ∧ e ≠ '\t'

theorem Spells.skipSpace {text : String} {v : Value} (hv : Spells text v) (rest : List Char) :
    skipSpace (text.toList ++ '\n' :: rest) = text.toList ++ '\n' :: rest := by
  cases ht : text.toList with
  | nil => exact skipSpace_of_head (by decide) rest
  | cons e t =>
    rw [List.cons_append]
    exact skipSpace_of_head (hv.head e (by simp [ht])) _

/-- A setting line `key = text`. -/
theorem readStatement_setting (st : DocState) {key text : String} {v : Value}
    (hk : IsBareKey key) (hv : Spells text v) (rest : List Char) :
    readStatement st (key.toList ++ ' ' :: '=' :: ' ' :: (text.toList ++ '\n' :: rest)) =
      (st.keyval [key] v).map (·, rest) := by
  have hkey : readKey (key.toList ++ ' ' :: '=' :: ' ' :: (text.toList ++ '\n' :: rest)) =
      some ([key], ' ' :: '=' :: ' ' :: (text.toList ++ '\n' :: rest)) :=
    readKey_bare hk (fun x hx => by cases hx; decide) (by simp [skipSpace])
  obtain ⟨c, cs, hcs⟩ := List.exists_cons_of_ne_nil hk.1
  obtain ⟨h1, h2, h3, h4, h5, h6, -, -⟩ := ne_of_isBareKeyChar (hk.2 c (by simp [hcs]))
  have hafter : skipSpace (' ' :: '=' :: ' ' :: (text.toList ++ '\n' :: rest)) =
      '=' :: ' ' :: (text.toList ++ '\n' :: rest) := by
    simp [skipSpace]
  have hvalue : skipSpace (' ' :: (text.toList ++ '\n' :: rest)) = text.toList ++ '\n' :: rest :=
    hv.skipSpace rest
  rw [hcs, List.cons_append] at hkey
  rw [readStatement, hcs, List.cons_append, skipSpace_of_head ⟨h1, h2⟩]
  simp [h3, h4, h5, h6, hkey, hafter, hvalue, hv.reads, endOfStatement_newline]
  cases st.keyval [key] v <;> rfl

/-- A blank line. -/
theorem readStatement_blank (st : DocState) (rest : List Char) :
    readStatement st ('\n' :: rest) = some (st, rest) := by
  simp [readStatement, skipSpace_of_head (show '\n' ≠ ' ' ∧ '\n' ≠ '\t' by decide),
    endOfStatement_newline]

theorem spells_stringRepr (s : String) : Spells (stringRepr s) (.str s) where
  reads rest f := readValue_stringRepr s 0 f (by simp)
  head e he := by
    obtain ⟨q, hq, hq'⟩ := stringRepr_head s
    rw [Option.mem_def] at hq he
    rw [hq, Option.some.injEq] at he
    subst he
    rcases hq' with rfl | rfl <;> decide

theorem spells_numeral {n : Nat} (hn : (n : Int) ≤ i64Max) : Spells (toString n) (.int n) where
  reads rest f := readValue_numeral hn 0 f rest
  head e he := by
    have hmem : e ∈ Nat.toDigits 10 n := List.mem_of_mem_head? (by simpa using he)
    have hdigit := Json.toNat_of_isDigit (Nat.isDigit_of_mem_toDigits (by decide) (by decide) hmem)
    constructor <;> rintro rfl <;> simp at hdigit

theorem spells_bool (b : Bool) : Spells (if b then "true" else "false") (.bool b) where
  reads rest f := by
    cases b <;> simp [readValue, readScalar, looksLikeDateTime, isDigit]
  head e he := by
    cases b <;> simp at he <;> subst he <;> decide

/-! ### Lines -/

/-- A line of a document as the configuration writer lays one out: a table header, a setting
with the text of its value and the value that text spells, or a blank line. -/
inductive Line where
  | header (name : String)
  | setting (key text : String) (value : Value)
  | blank

namespace Line

/-- The text of a line, with its line end. -/
def text : Line → String
  | header name => "[" ++ name ++ "]\n"
  | setting key t _ => key ++ " = " ++ t ++ "\n"
  | blank => "\n"

/-- What reading the line does to the document read so far. -/
def apply : Line → DocState → Option DocState
  | header name, st => st.header [name]
  | setting key _ v, st => st.keyval [key] v
  | blank, st => some st

/-- A line as the writer makes it: bare names and keys, values spelled as the reader reads
them. -/
def Ok : Line → Prop
  | header name => IsBareKey name
  | setting key t v => IsBareKey key ∧ Spells t v
  | blank => True

theorem text_ne_nil (l : Line) : l.text.toList ≠ [] := by
  cases l <;> simp [text]

/-- Reading a line of the writer does what the line says. -/
theorem readStatement_text {l : Line} (hl : l.Ok) (st : DocState) (rest : List Char) :
    readStatement st (l.text.toList ++ rest) = (l.apply st).map (·, rest) := by
  cases l with
  | header name =>
    have h := readStatement_header st hl rest
    simpa [text, apply] using h
  | setting key t v =>
    have h := readStatement_setting st hl.1 hl.2 rest
    simpa [text, apply] using h
  | blank => exact readStatement_blank st rest

end Line

/-- Reading the text of the writer's lines applies each line in turn. -/
theorem readStatements_lines (ls : List Line) (hok : ∀ l ∈ ls, l.Ok) :
    ∀ (st : DocState) (fuel : Nat), (String.join (ls.map Line.text)).toList.length < fuel →
      readStatements st (String.join (ls.map Line.text)).toList fuel =
        ls.foldlM (fun st l => l.apply st) st := by
  induction ls with
  | nil =>
    intro st fuel hfuel
    obtain ⟨f, rfl⟩ : ∃ f, fuel = f + 1 := ⟨fuel - 1, by omega⟩
    simp [readStatements]
  | cons l ls ih =>
    intro st fuel hfuel
    obtain ⟨f, rfl⟩ : ∃ f, fuel = f + 1 := ⟨fuel - 1, by omega⟩
    have hlen := List.length_pos_iff.mpr l.text_ne_nil
    simp only [List.map_cons, String.join_cons, String.toList_append, List.length_append]
      at hfuel ⊢
    have hne : (l.text.toList ++ (String.join (ls.map Line.text)).toList).isEmpty = false := by
      simp [l.text_ne_nil]
    rw [readStatements, if_neg (Bool.eq_false_iff.mp hne),
      Line.readStatement_text (hok l (by simp)), List.foldlM_cons]
    cases l.apply st with
    | none => rfl
    | some st' =>
      have hshorter : (String.join (ls.map Line.text)).toList.length <
          (l.text.toList ++ (String.join (ls.map Line.text)).toList).length := by
        rw [List.length_append]
        omega
      simp only [Option.map_some, Option.bind_eq_bind, Option.bind_some, if_pos hshorter]
      exact ih (fun l hl => hok l (by simp [hl])) st' f (by omega)

/-- A document written as lines, with no byte order mark to drop, reads as what its lines do,
one after another, to an empty document. -/
theorem readDocument_lines (ls : List Line) (hok : ∀ l ∈ ls, l.Ok)
    (hmark : ∀ c ∈ (String.join (ls.map Line.text)).toList.head?, c.toNat ≠ 0xFEFF) :
    readDocument (String.join (ls.map Line.text)) =
      (ls.foldlM (fun st (l : Line) => l.apply st) (⟨[], []⟩ : DocState)).map
        fun st => .table (bodyToValues st.root) := by
  have hread := readStatements_lines ls hok ⟨[], []⟩
    ((String.join (ls.map Line.text)).toList.length + 1) (by omega)
  rw [readDocument]
  cases htext : (String.join (ls.map Line.text)).toList with
  | nil =>
    rw [htext] at hread
    simp only [hread]
  | cons c cs =>
    rw [htext] at hread hmark
    have hc : (c.toNat == 0xFEFF) = false := by simpa using hmark c rfl
    simp only [hc, Bool.false_eq_true, if_false, hread]

/-! ### What the lines do to the document -/

theorem replaceEntry_append_of_lookup {pre : Body} {k : String} (h : pre.lookup k = none)
    (i j : Item) : replaceEntry k i (pre ++ [(k, j)]) = pre ++ [(k, i)] := by
  induction pre with
  | nil => simp [replaceEntry]
  | cons e pre ih =>
    obtain ⟨k', j'⟩ := e
    by_cases hk : k' = k
    · subst hk
      simp at h
    · have hk' : (k == k') = false := beq_false_of_ne fun h => hk h.symm
      rw [List.lookup_cons, hk'] at h
      simp [replaceEntry, hk, ih h]

/-- A header of a name the document does not have yet opens a new table at the end. -/
theorem DocState.header_fresh {root : Body} {name : String} (h : root.lookup name = none)
    (cur : List String) :
    (⟨root, cur⟩ : DocState).header [name] =
      some ⟨root ++ [(name, .table false false [])], [name]⟩ := by
  simp [DocState.header, modifyAt, h]

/-- A setting goes at the end of the table the last header opened, when its key is new there. -/
theorem DocState.keyval_last {pre : Body} {name k : String} (hname : pre.lookup name = none)
    {entries : Body} (hk : entries.lookup k = none) (v : Value) :
    (⟨pre ++ [(name, .table false false entries)], [name]⟩ : DocState).keyval [k] v =
      some ⟨pre ++ [(name, .table false false (entries ++ [(k, .value v)]))], [name]⟩ := by
  have hlookup : (pre ++ [(name, Item.table false false entries)]).lookup name =
      some (.table false false entries) := by
    simp [List.lookup_append, hname]
  simp [DocState.keyval, modifyAt, hlookup, hk, replaceEntry_append_of_lookup hname]

/-! ### Documents of tables -/

/-- A table as the writer lays it out: its name, and for each setting its key, the text of its
value and the value that text spells. -/
structure Table where
  name : String
  settings : List (String × String × Value)

namespace Table

/-- The header line, then one line per setting. -/
def lines (t : Table) : List Line :=
  .header t.name :: t.settings.map fun s => .setting s.1 s.2.1 s.2.2

/-- The entries of the table as the reader keeps them. -/
def entries (t : Table) : List (String × Value) := t.settings.map fun s => (s.1, s.2.2)

/-- The table as the reader builds it. -/
def item (t : Table) : String × Item :=
  (t.name, .table false false (t.settings.map fun s => (s.1, .value s.2.2)))

/-- A table as the writer makes it: a bare name, bare keys that do not repeat, and values
spelled as the reader reads them. -/
structure Ok (t : Table) : Prop where
  name : IsBareKey t.name
  keys : (t.settings.map (·.1)).Nodup
  settings : ∀ s ∈ t.settings, IsBareKey s.1 ∧ Spells s.2.1 s.2.2

theorem Ok.lines {t : Table} (h : t.Ok) : ∀ l ∈ t.lines, l.Ok := by
  intro l hl
  simp only [Table.lines, List.mem_cons, List.mem_map] at hl
  rcases hl with rfl | ⟨s, hs, rfl⟩
  · exact h.name
  · exact h.settings s hs

end Table

/-- Tables one after another, with a blank line between two. -/
def tablesLines : List Table → List Line
  | [] => []
  | [t] => t.lines
  | t :: ts => t.lines ++ Line.blank :: tablesLines ts

theorem mem_tablesLines {l : Line} {ts : List Table} (h : l ∈ tablesLines ts) :
    l = .blank ∨ ∃ t ∈ ts, l ∈ t.lines := by
  fun_induction tablesLines ts with
  | case1 => cases h
  | case2 t => exact .inr ⟨t, by simp, h⟩
  | case3 t ts hts ih =>
    simp only [List.mem_append, List.mem_cons] at h
    rcases h with h | rfl | h
    · exact .inr ⟨t, by simp, h⟩
    · exact .inl rfl
    · rcases ih h with rfl | ⟨t', ht', hl⟩
      · exact .inl rfl
      · exact .inr ⟨t', by simp [ht'], hl⟩

theorem lookup_eq_none_of_not_mem {l : Body} {k : String} (h : k ∉ l.map Prod.fst) :
    l.lookup k = none := by
  rw [List.lookup_eq_none_iff]
  intro p hp
  have : k ≠ p.1 := fun hk => h (List.mem_map.mpr ⟨p, hp, hk.symm⟩)
  simpa using this

/-- The settings of a table go in order at the end of the table its header opened. -/
theorem foldlM_settings {pre : Body} {name : String} (hname : pre.lookup name = none)
    (settings : List (String × String × Value)) :
    ∀ entries : Body, (entries.map Prod.fst ++ settings.map (·.1)).Nodup →
      (settings.map fun s => Line.setting s.1 s.2.1 s.2.2).foldlM (fun st l => l.apply st)
          (⟨pre ++ [(name, .table false false entries)], [name]⟩ : DocState) =
        some ⟨pre ++ [(name, .table false false
          (entries ++ settings.map fun s => (s.1, .value s.2.2)))], [name]⟩ := by
  induction settings with
  | nil => intro entries _; simp
  | cons s settings ih =>
    intro entries hnodup
    have hk : entries.lookup s.1 = none := by
      apply lookup_eq_none_of_not_mem
      intro hmem
      simp only [List.map_cons] at hnodup
      exact (List.nodup_append.mp hnodup).2.2 _ hmem _ (by simp) rfl
    have hnodup' : ((entries ++ [(s.1, Item.value s.2.2)]).map Prod.fst ++
        settings.map (·.1)).Nodup := by
      simpa using hnodup
    have happly : (Line.setting s.1 s.2.1 s.2.2).apply
        (⟨pre ++ [(name, .table false false entries)], [name]⟩ : DocState) =
        some ⟨pre ++ [(name, .table false false (entries ++ [(s.1, .value s.2.2)]))], [name]⟩ :=
      DocState.keyval_last hname hk s.2.2
    rw [List.map_cons, List.foldlM_cons, happly, Option.bind_eq_bind, Option.bind_some,
      ih _ hnodup']
    simp

/-- A table reads as a new table at the end of the document. -/
theorem foldlM_lines {pre : Body} {t : Table} (ht : t.Ok) (hname : pre.lookup t.name = none)
    (cur : List String) :
    t.lines.foldlM (fun st l => l.apply st) (⟨pre, cur⟩ : DocState) =
      some ⟨pre ++ [t.item], [t.name]⟩ := by
  have happly : (Line.header t.name).apply (⟨pre, cur⟩ : DocState) =
      some ⟨pre ++ [(t.name, .table false false [])], [t.name]⟩ :=
    DocState.header_fresh hname cur
  rw [Table.lines, List.foldlM_cons, happly, Option.bind_eq_bind, Option.bind_some,
    foldlM_settings hname t.settings [] (by simpa using ht.keys)]
  simp [Table.item]

/-- Tables of new, distinct names read as new tables at the end of the document, in order. -/
theorem foldlM_tablesLines (ts : List Table) (hok : ∀ t ∈ ts, t.Ok) :
    ∀ (pre : Body) (cur : List String), (pre.map Prod.fst ++ ts.map Table.name).Nodup →
      ∃ cur', (tablesLines ts).foldlM (fun st l => l.apply st) (⟨pre, cur⟩ : DocState) =
        some ⟨pre ++ ts.map Table.item, cur'⟩ := by
  induction ts with
  | nil => intro pre cur _; exact ⟨cur, by simp [tablesLines]⟩
  | cons t ts ih =>
    intro pre cur hnodup
    have hname : pre.lookup t.name = none := by
      apply lookup_eq_none_of_not_mem
      intro hmem
      exact (List.nodup_append.mp hnodup).2.2 _ hmem _ (by simp) rfl
    have hfirst := foldlM_lines (hok t (by simp)) hname cur
    cases ts with
    | nil => exact ⟨[t.name], by simpa [tablesLines] using hfirst⟩
    | cons t' ts =>
      have hnodup' : ((pre ++ [t.item]).map Prod.fst ++ (t' :: ts).map Table.name).Nodup := by
        simpa [Table.item] using hnodup
      obtain ⟨cur', hrest⟩ := ih (fun t ht => hok t (by simp [ht])) _ [t.name] hnodup'
      refine ⟨cur', ?_⟩
      have hblank : (Line.blank).apply (⟨pre ++ [t.item], [t.name]⟩ : DocState) =
          some ⟨pre ++ [t.item], [t.name]⟩ := rfl
      rw [tablesLines, List.foldlM_append, hfirst, Option.bind_eq_bind, Option.bind_some,
        List.foldlM_cons, hblank, Option.bind_eq_bind, Option.bind_some, hrest]
      · simp
      · exact List.cons_ne_nil _ _

theorem bodyToValues_settings (settings : List (String × String × Value)) :
    bodyToValues (settings.map fun s => (s.1, .value s.2.2)) =
      settings.map fun s => (s.1, s.2.2) := by
  induction settings with
  | nil => rfl
  | cons s settings ih => simp [bodyToValues, Item.toValue, ih]

theorem bodyToValues_items (ts : List Table) :
    bodyToValues (ts.map Table.item) = ts.map fun t => (t.name, .table t.entries) := by
  induction ts with
  | nil => rfl
  | cons t ts ih =>
    simp [bodyToValues, Table.item, Item.toValue, bodyToValues_settings, Table.entries, ih]

/-- A document of tables of distinct names, each as the writer makes it, reads back as the
tables with their entries, in order. -/
theorem readDocument_tables (ts : List Table) (hok : ∀ t ∈ ts, t.Ok)
    (hnames : (ts.map Table.name).Nodup) :
    readDocument (String.join ((tablesLines ts).map Line.text)) =
      some (.table (ts.map fun t => (t.name, .table t.entries))) := by
  have hlines : ∀ l ∈ tablesLines ts, l.Ok := by
    intro l hl
    rcases mem_tablesLines hl with rfl | ⟨t, ht, hlt⟩
    · trivial
    · exact (hok t ht).lines l hlt
  -- the text opens with a header's bracket, or is empty
  have hmark : ∀ c ∈ (String.join ((tablesLines ts).map Line.text)).toList.head?,
      c.toNat ≠ 0xFEFF := by
    cases ts with
    | nil => simp [tablesLines]
    | cons t ts =>
      cases ts <;> simp [tablesLines, Table.lines, Line.text]
  obtain ⟨cur, hfold⟩ := foldlM_tablesLines ts hok [] [] (by simpa using hnames)
  rw [readDocument_lines _ hlines hmark, hfold]
  simp [bodyToValues_items]

/-- The text of tables one after another: each table's lines, the tables joined by line ends
that leave a blank line between two. -/
theorem text_tablesLines (ts : List Table) :
    String.join ((tablesLines ts).map Line.text) =
      "\n".intercalate (ts.map fun t => String.join (t.lines.map Line.text)) := by
  fun_induction tablesLines ts with
  | case1 => simp
  | case2 t => simp [String.intercalate_singleton]
  | case3 t ts hts ih =>
    rw [List.map_append, List.map_cons, String.join_append, String.join_cons, ih, List.map_cons,
      String.intercalate_cons_of_ne_nil (by simpa using hts)]
    simp [Line.text, String.append_assoc]

end LiveSession.Toml
