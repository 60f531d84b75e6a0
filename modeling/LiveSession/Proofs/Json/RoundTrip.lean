import LiveSession.Proofs.Json.ReadScalar
/-!
# Compact text reads back as the value

The printer and the reader agree on every value that the compact text carries exactly: a value
whose numbers are integers of the 64-bit ranges and whose objects repeat no key
(`Value.faithful`). The reader also counts how deeply containers nest and refuses the 128th
level, and that bound is exact:

* `readValue_compact`: a faithful value nested fewer than 128 containers deep reads back from
  its compact text;
* `readValue_compact_deep`: a faithful value nested 128 deep or more is refused.

Both rest on one mutual induction over the value, its array elements and its object members
(`readAny_compact`, `readItems_compact`, `readMembers_compact` and their `_deep` partners),
each case taking one step of the reader by the lemmas of the first sections. The reader is
given fuel for as many steps as the text has bytes, which is always enough.
-/

namespace LiveSession.Json

/-! ### Depth and faithful values -/

mutual

/-- How deeply a value nests containers: an array or an object is one deeper than its deepest
element, and any other value has depth zero. -/
def Value.depth : Value → Nat
  | .arr xs => itemsDepth xs + 1
  | .obj ms => membersDepth ms + 1
  | _ => 0

/-- The greatest depth among array elements. -/
def itemsDepth : List Value → Nat
  | [] => 0
  | x :: xs => max x.depth (itemsDepth xs)

/-- The greatest depth among member values. -/
def membersDepth : List (String × Value) → Nat
  | [] => 0
  | (_, v) :: ms => max v.depth (membersDepth ms)

end

/-- An integer of the 64-bit ranges the reader keeps as an integer, `[-2^63, 2^64)`. -/
def isInt64 (i : Int) : Bool := decide (-9223372036854775808 ≤ i ∧ i < 18446744073709551616)

mutual

/-- A value that its compact text carries exactly: every number is an integer of the 64-bit
ranges, and no object repeats a key. -/
def Value.faithful : Value → Bool
  | .num (.int i) => isInt64 i
  | .num (.float _) => false
  | .arr xs => itemsFaithful xs
  | .obj ms => decide (ms.map Prod.fst).Nodup && membersFaithful ms
  | _ => true

/-- Every array element is faithful. -/
def itemsFaithful : List Value → Bool
  | [] => true
  | x :: xs => x.faithful && itemsFaithful xs

/-- Every member value is faithful. -/
def membersFaithful : List (String × Value) → Bool
  | [] => true
  | (_, v) :: ms => v.faithful && membersFaithful ms

end

/-- Reading from any cursor at `bytes ++ rest` yields `a` and leaves exactly `rest`. -/
def ReadsBack (step : Cursor → Step α) (bytes rest : List UInt8) (a : α) : Prop :=
  ∀ c : Cursor, c.rest = bytes ++ rest → ∃ c', c'.rest = rest ∧ step c = .ok (a, c')

/-! ### One step of the reader -/

/-- A digit byte is neither blank nor any byte that starts another kind of value. -/
theorem range_of_isDigit {b : UInt8} (hb : isDigit b = true) : 48 ≤ b.toNat ∧ b.toNat ≤ 57 := by
  simpa [isDigit, UInt8.le_iff_toNat_le] using hb

theorem not_blank_of_isDigit {b : UInt8} (hb : isDigit b = true) :
    (b == 32 || b == 10 || b == 9 || b == 13) = false := by
  have hrange := range_of_isDigit hb
  simp only [Bool.or_eq_false_iff, beq_eq_false_iff_ne, ne_eq, ← UInt8.toNat_inj]
  simp; omega

section ReadAny

variable {d f : Nat} {c : Cursor} {bs : List UInt8}

theorem readAny_of_n (h : c.rest = 110 :: bs) :
    readAny d c (f + 1) = (readWord c.next [117, 108, 108]).map fun c => (.null, c) := by
  simp [readAny, Cursor.skipBlank_of_rest h rfl, Cursor.peek_of_rest h]

theorem readAny_of_t (h : c.rest = 116 :: bs) :
    readAny d c (f + 1) = (readWord c.next [114, 117, 101]).map fun c => (.bool true, c) := by
  simp [readAny, Cursor.skipBlank_of_rest h rfl, Cursor.peek_of_rest h]

theorem readAny_of_f (h : c.rest = 102 :: bs) :
    readAny d c (f + 1) = (readWord c.next [97, 108, 115, 101]).map fun c => (.bool false, c) := by
  simp [readAny, Cursor.skipBlank_of_rest h rfl, Cursor.peek_of_rest h]

theorem readAny_of_minus (h : c.rest = 45 :: bs) :
    readAny d c (f + 1) = (readNumber c.next false).map fun (n, c) => (.num n, c) := by
  simp [readAny, Cursor.skipBlank_of_rest h rfl, Cursor.peek_of_rest h]

theorem readAny_of_digit {b : UInt8} (h : c.rest = b :: bs) (hb : isDigit b = true) :
    readAny d c (f + 1) = (readNumber c true).map fun (n, c) => (.num n, c) := by
  have hrange := range_of_isDigit hb
  have h110 : b ≠ 110 := by intro h; subst h; simp at hrange
  have h116 : b ≠ 116 := by intro h; subst h; simp at hrange
  have h102 : b ≠ 102 := by intro h; subst h; simp at hrange
  have h45 : b ≠ 45 := by intro h; subst h; simp at hrange
  simp [readAny, Cursor.skipBlank_of_rest h (not_blank_of_isDigit hb), Cursor.peek_of_rest h, hb,
    h110, h116, h102, h45]

theorem readAny_of_quote (h : c.rest = 34 :: bs) :
    readAny d c (f + 1) = (readString c.next).map fun (s, c) => (.str s, c) := by
  simp [readAny, Cursor.skipBlank_of_rest h rfl, Cursor.peek_of_rest h, isDigit]

theorem readAny_of_bracket (h : c.rest = 91 :: bs) (hd : 2 ≤ d) :
    readAny d c (f + 1) = readItems (d - 1) c.next true #[] f := by
  have hd' : ¬ d ≤ 1 := by omega
  simp [readAny, Cursor.skipBlank_of_rest h rfl, Cursor.peek_of_rest h, isDigit, hd']

theorem readAny_of_brace (h : c.rest = 123 :: bs) (hd : 2 ≤ d) :
    readAny d c (f + 1) = readMembers (d - 1) c.next true [] f := by
  have hd' : ¬ d ≤ 1 := by omega
  simp [readAny, Cursor.skipBlank_of_rest h rfl, Cursor.peek_of_rest h, isDigit, hd']


theorem readAny_of_bracket_limit (h : c.rest = 91 :: bs) (hd : d ≤ 1) :
    readAny d c (f + 1) = .error (c.failAhead .recursionLimitExceeded) := by
  simp [readAny, Cursor.skipBlank_of_rest h rfl, Cursor.peek_of_rest h, isDigit, hd]

theorem readAny_of_brace_limit (h : c.rest = 123 :: bs) (hd : d ≤ 1) :
    readAny d c (f + 1) = .error (c.failAhead .recursionLimitExceeded) := by
  simp [readAny, Cursor.skipBlank_of_rest h rfl, Cursor.peek_of_rest h, isDigit, hd]

theorem readItems_close {first : Bool} {acc : Array Value} {g : Nat} (h : c.rest = 93 :: bs) :
    readItems d c first acc (g + 1) = .ok (.arr acc.toList, c.next) := by
  simp [readItems, Cursor.skipBlank_of_rest h rfl, Cursor.peek_of_rest h]

theorem readItems_first {b : UInt8} {acc : Array Value} {g : Nat}
    (h : c.rest = b :: bs) (hb : (b == 32 || b == 10 || b == 9 || b == 13) = false)
    (h93 : b ≠ 93) :
    readItems d c true acc (g + 1) =
      (readAny d c g).bind fun p => readItems d p.2 false (acc.push p.1) g := by
  cases hv : readAny d c g with
  | error e => simp [readItems, Cursor.skipBlank_of_rest h hb, Cursor.peek_of_rest h, hv, Except.bind]
  | ok p => simp [readItems, Cursor.skipBlank_of_rest h hb, Cursor.peek_of_rest h, hv, Except.bind]

theorem readItems_comma {b : UInt8} {acc : Array Value} {g : Nat}
    (h : c.rest = 44 :: b :: bs) (hb : (b == 32 || b == 10 || b == 9 || b == 13) = false)
    (h93 : b ≠ 93) :
    readItems d c false acc (g + 1) =
      (readAny d c.next g).bind fun p => readItems d p.2 false (acc.push p.1) g := by
  have hnext := Cursor.rest_next h
  cases hv : readAny d c.next g with
  | error e =>
    simp [readItems, Cursor.skipBlank_of_rest h rfl, Cursor.peek_of_rest h,
      Cursor.skipBlank_of_rest hnext hb, Cursor.peek_of_rest hnext, hv, Except.bind]
  | ok p =>
    simp [readItems, Cursor.skipBlank_of_rest h rfl, Cursor.peek_of_rest h,
      Cursor.skipBlank_of_rest hnext hb, Cursor.peek_of_rest hnext, hv, Except.bind]

theorem readMembers_close {first : Bool} {acc : List (String × Value)} {g : Nat}
    (h : c.rest = 125 :: bs) : readMembers d c first acc (g + 1) = .ok (.obj acc, c.next) := by
  simp [readMembers, Cursor.skipBlank_of_rest h rfl, Cursor.peek_of_rest h]

theorem readMembers_first {acc : List (String × Value)} {g : Nat} {k : String}
    {c₁ : Cursor} {bs' : List UInt8} (h : c.rest = 34 :: bs)
    (hk : readString c.next = .ok (k, c₁)) (hc₁ : c₁.rest = 58 :: bs') :
    readMembers d c true acc (g + 1) =
      (readAny d c₁.next g).bind fun p => readMembers d p.2 false (setMember k p.1 acc) g := by
  cases hv : readAny d c₁.next g with
  | error e =>
    simp [readMembers, Cursor.skipBlank_of_rest h rfl, Cursor.peek_of_rest h, hk,
      Cursor.skipBlank_of_rest hc₁ rfl, Cursor.peek_of_rest hc₁, hv, Except.bind]
  | ok p =>
    simp [readMembers, Cursor.skipBlank_of_rest h rfl, Cursor.peek_of_rest h, hk,
      Cursor.skipBlank_of_rest hc₁ rfl, Cursor.peek_of_rest hc₁, hv, Except.bind]

theorem readMembers_comma {acc : List (String × Value)} {g : Nat} {k : String}
    {c₁ : Cursor} {bs' : List UInt8} (h : c.rest = 44 :: 34 :: bs)
    (hk : readString c.next.next = .ok (k, c₁)) (hc₁ : c₁.rest = 58 :: bs') :
    readMembers d c false acc (g + 1) =
      (readAny d c₁.next g).bind fun p => readMembers d p.2 false (setMember k p.1 acc) g := by
  have hnext := Cursor.rest_next h
  cases hv : readAny d c₁.next g with
  | error e =>
    simp [readMembers, Cursor.skipBlank_of_rest h rfl, Cursor.peek_of_rest h,
      Cursor.skipBlank_of_rest hnext rfl, Cursor.peek_of_rest hnext, hk,
      Cursor.skipBlank_of_rest hc₁ rfl, Cursor.peek_of_rest hc₁, hv, Except.bind]
  | ok p =>
    simp [readMembers, Cursor.skipBlank_of_rest h rfl, Cursor.peek_of_rest h,
      Cursor.skipBlank_of_rest hnext rfl, Cursor.peek_of_rest hnext, hk,
      Cursor.skipBlank_of_rest hc₁ rfl, Cursor.peek_of_rest hc₁, hv, Except.bind]

end ReadAny

/-- Writing a key that is not yet present appends the member. -/
theorem setMember_of_not_mem {k : String} {v : Value} :
    ∀ {acc : List (String × Value)}, k ∉ acc.map Prod.fst → setMember k v acc = acc ++ [(k, v)]
  | [], _ => rfl
  | (k', w) :: acc, h => by
    simp only [List.map_cons, List.mem_cons, not_or] at h
    have hne : (k' == k) = false := by simpa using Ne.symm h.1
    simp [setMember, hne, setMember_of_not_mem h.2]

/-! ### Compact text as bytes -/

theorem compact_arr_bytes (xs : List Value) :
    (Value.arr xs).compact.toUTF8.toList = 91 :: (compactItems xs).toUTF8.toList ++ [93] := by
  simp only [Value.compact, toUTF8_toList, String.toList_append, List.flatMap_append]
  rfl

theorem compact_obj_bytes (ms : List (String × Value)) :
    (Value.obj ms).compact.toUTF8.toList = 123 :: (compactMembers ms).toUTF8.toList ++ [125] := by
  simp only [Value.compact, toUTF8_toList, String.toList_append, List.flatMap_append]
  rfl

theorem compactItems_cons_bytes (x : Value) (xs : List Value) :
    (compactItems (x :: xs)).toUTF8.toList =
      x.compact.toUTF8.toList ++ xs.flatMap (fun y => 44 :: y.compact.toUTF8.toList) := by
  induction xs generalizing x with
  | nil => simp [compactItems]
  | cons y ys ih =>
    have hcomma : ",".toUTF8.toList = [44] := by rw [toUTF8_toList]; rfl
    simp only [compactItems]
    rw [toUTF8_toList_append, toUTF8_toList_append, ih, List.flatMap_cons, List.append_assoc,
      hcomma]
    rfl

theorem member_bytes (k : String) (v : Value) :
    (quote k ++ ":" ++ v.compact).toUTF8.toList =
      (quote k).toUTF8.toList ++ 58 :: v.compact.toUTF8.toList := by
  simp only [toUTF8_toList, String.toList_append, List.flatMap_append, List.append_assoc]
  rfl

theorem compactMembers_cons_bytes (k : String) (v : Value) (ms : List (String × Value)) :
    (compactMembers ((k, v) :: ms)).toUTF8.toList =
      (quote k ++ ":" ++ v.compact).toUTF8.toList ++
        ms.flatMap (fun m => 44 :: (quote m.1 ++ ":" ++ m.2.compact).toUTF8.toList) := by
  induction ms generalizing k v with
  | nil => simp [compactMembers]
  | cons m ms ih =>
    obtain ⟨k', v'⟩ := m
    have hcomma : ",".toUTF8.toList = [44] := by rw [toUTF8_toList]; rfl
    simp only [compactMembers]
    rw [toUTF8_toList_append _ (compactMembers _), toUTF8_toList_append _ ",", ih,
      List.flatMap_cons, List.append_assoc, hcomma]
    rfl

theorem int_ofNat_bytes (n : Nat) :
    (Value.num (.int (Int.ofNat n))).compact.toUTF8.toList = (Nat.repr n).toUTF8.toList := rfl

theorem int_negSucc_bytes (m : Nat) :
    (Value.num (.int (Int.negSucc m))).compact.toUTF8.toList =
      45 :: (Nat.repr (m + 1)).toUTF8.toList := by
  rw [Value.compact, Number.text]
  show ("-" ++ Nat.repr (m + 1)).toUTF8.toList = _
  rw [toUTF8_toList, toUTF8_toList, String.toList_append, List.flatMap_append]
  rfl

/-- A decimal numeral starts with a digit. -/
theorem repr_bytes_head (n : Nat) :
    ∃ b bs, (Nat.repr n).toUTF8.toList = b :: bs ∧ isDigit b = true := by
  rw [toUTF8_toList_repr]
  obtain ⟨d, ds, hds⟩ : ∃ d ds, Nat.toDigits 10 n = d :: ds :=
    List.exists_cons_of_ne_nil Nat.toDigits_ne_nil
  have hd := Nat.isDigit_of_mem_toDigits (by decide) (by decide) (hds ▸ List.mem_cons_self)
  exact ⟨_, _, by rw [hds, List.map_cons], (digit_byte hd).1⟩

/-- The compact text of a faithful value starts with a byte that is neither blank nor a closing
bracket. -/
theorem compact_bytes_head (v : Value) (hv : v.faithful = true) :
    ∃ b bs, v.compact.toUTF8.toList = b :: bs ∧
      (b == 32 || b == 10 || b == 9 || b == 13) = false ∧ b ≠ 93 := by
  rcases v with _ | b | (i | f) | s | xs | ms
  · exact ⟨110, [117, 108, 108], by rw [toUTF8_toList]; rfl, rfl, by decide⟩
  · cases b
    · exact ⟨102, [97, 108, 115, 101], by rw [toUTF8_toList]; rfl, rfl, by decide⟩
    · exact ⟨116, [114, 117, 101], by rw [toUTF8_toList]; rfl, rfl, by decide⟩
  · cases i with
    | ofNat n =>
      obtain ⟨b, bs, hbs, hdigit⟩ := repr_bytes_head n
      have hrange := range_of_isDigit hdigit
      exact ⟨b, bs, by rw [int_ofNat_bytes, hbs], not_blank_of_isDigit hdigit,
        by intro h; subst h; simp at hrange⟩
    | negSucc m => exact ⟨45, _, int_negSucc_bytes m, rfl, by decide⟩
  · simp [Value.faithful] at hv
  · refine ⟨34, s.toList.flatMap (fun ch => (escapeChar ch).toUTF8.toList) ++ [34], ?_, rfl,
      by decide⟩
    exact toUTF8_toList_quote s
  · exact ⟨91, _, compact_arr_bytes xs, rfl, by decide⟩
  · exact ⟨123, _, compact_obj_bytes ms, rfl, by decide⟩


/-- A nonempty array's text, and what follows it: the bracket, the first element, each further
element after its comma, and the closing bracket. -/
theorem compact_arr_cons_append (x : Value) (xs : List Value) (rest : List UInt8) :
    (Value.arr (x :: xs)).compact.toUTF8.toList ++ rest = 91 :: (x.compact.toUTF8.toList ++
      (xs.flatMap (fun y => 44 :: y.compact.toUTF8.toList) ++ 93 :: rest)) := by
  rw [compact_arr_bytes, compactItems_cons_bytes]
  simp

theorem compact_arr_cons_length (x : Value) (xs : List Value) :
    (Value.arr (x :: xs)).compact.toUTF8.toList.length = x.compact.toUTF8.toList.length +
      (xs.flatMap (fun y => 44 :: y.compact.toUTF8.toList)).length + 2 := by
  have h := congrArg List.length (compact_arr_cons_append x xs [])
  simp only [List.append_nil, List.length_cons, List.length_append, List.length_nil] at h
  omega

/-- A nonempty object's text, and what follows it: the brace, the first key, its colon and
value, each further member after its comma, and the closing brace. -/
theorem compact_obj_cons_append (k : String) (v : Value) (ms : List (String × Value))
    (rest : List UInt8) :
    (Value.obj ((k, v) :: ms)).compact.toUTF8.toList ++ rest =
      123 :: ((quote k).toUTF8.toList ++ 58 :: (v.compact.toUTF8.toList ++
        (ms.flatMap (fun m => 44 :: (quote m.1 ++ ":" ++ m.2.compact).toUTF8.toList) ++
          125 :: rest))) := by
  rw [compact_obj_bytes, compactMembers_cons_bytes, member_bytes]
  simp

theorem compact_obj_cons_length (k : String) (v : Value) (ms : List (String × Value)) :
    (Value.obj ((k, v) :: ms)).compact.toUTF8.toList.length =
      (quote k).toUTF8.toList.length + v.compact.toUTF8.toList.length +
        (ms.flatMap (fun m => 44 :: (quote m.1 ++ ":" ++ m.2.compact).toUTF8.toList)).length +
          3 := by
  have h := congrArg List.length (compact_obj_cons_append k v ms [])
  simp only [List.append_nil, List.length_cons, List.length_append, List.length_nil] at h
  omega

theorem compact_length_pos (v : Value) (hv : v.faithful = true) :
    0 < v.compact.toUTF8.toList.length := by
  obtain ⟨b, bs, hbs, -⟩ := compact_bytes_head v hv
  rw [hbs]; exact Nat.zero_lt_succ _

theorem compactItems_nil_bytes : (compactItems []).toUTF8.toList = [] := by
  rw [toUTF8_toList]; rfl

theorem compactMembers_nil_bytes : (compactMembers []).toUTF8.toList = [] := by
  rw [toUTF8_toList]; rfl

theorem delimits_items_tail (xs : List Value) (rest : List UInt8) :
    Delimits (xs.flatMap (fun y => 44 :: y.compact.toUTF8.toList) ++ 93 :: rest) := by
  cases xs <;> simp [Delimits]

theorem delimits_members_tail (ms : List (String × Value)) (rest : List UInt8) :
    Delimits (ms.flatMap (fun m => 44 :: (quote m.1 ++ ":" ++ m.2.compact).toUTF8.toList) ++
      125 :: rest) := by
  cases ms <;> simp [Delimits]

/-! ### Reading compact text back -/

section Scalars

variable {d fuel : Nat} {rest : List UInt8}

theorem readAny_null_compact (hfuel : 0 < fuel) :
    ReadsBack (fun c => readAny d c fuel) Value.null.compact.toUTF8.toList rest .null := by
  intro c hc
  obtain ⟨f, rfl⟩ : ∃ f, fuel = f + 1 := ⟨fuel - 1, by omega⟩
  have hc' : c.rest = 110 :: ([117, 108, 108] ++ rest) := by rw [hc, toUTF8_toList]; rfl
  obtain ⟨c', hrest', hword⟩ := readWord_append [117, 108, 108] c.next (Cursor.rest_next hc')
  exact ⟨c', hrest', by dsimp only; rw [readAny_of_n hc', hword]; rfl⟩

theorem readAny_bool_compact (b : Bool) (hfuel : 0 < fuel) :
    ReadsBack (fun c => readAny d c fuel) (Value.bool b).compact.toUTF8.toList rest (.bool b) := by
  intro c hc
  obtain ⟨f, rfl⟩ : ∃ f, fuel = f + 1 := ⟨fuel - 1, by omega⟩
  cases b with
  | false =>
    have hc' : c.rest = 102 :: ([97, 108, 115, 101] ++ rest) := by rw [hc, toUTF8_toList]; rfl
    obtain ⟨c', hrest', hword⟩ :=
      readWord_append [97, 108, 115, 101] c.next (Cursor.rest_next hc')
    exact ⟨c', hrest', by dsimp only; rw [readAny_of_f hc', hword]; rfl⟩
  | true =>
    have hc' : c.rest = 116 :: ([114, 117, 101] ++ rest) := by rw [hc, toUTF8_toList]; rfl
    obtain ⟨c', hrest', hword⟩ := readWord_append [114, 117, 101] c.next (Cursor.rest_next hc')
    exact ⟨c', hrest', by dsimp only; rw [readAny_of_t hc', hword]; rfl⟩

theorem readAny_int_compact {i : Int} (hi : isInt64 i = true) (hfuel : 0 < fuel)
    (hrest : Delimits rest) :
    ReadsBack (fun c => readAny d c fuel) (Value.num (.int i)).compact.toUTF8.toList rest
      (.num (.int i)) := by
  intro c hc
  obtain ⟨f, rfl⟩ : ∃ f, fuel = f + 1 := ⟨fuel - 1, by omega⟩
  simp only [isInt64, decide_eq_true_eq] at hi
  cases i with
  | ofNat n =>
    simp only [Int.ofNat_eq_natCast] at hi
    rw [int_ofNat_bytes] at hc
    obtain ⟨b, bs, hbs, hdigit⟩ := repr_bytes_head n
    obtain ⟨c', hrest', hnum⟩ := readNumber_repr true n (by simp [u64Max]; omega) hrest c hc
    refine ⟨c', hrest', ?_⟩
    dsimp only
    rw [readAny_of_digit (by rw [hc, hbs]; rfl) hdigit, hnum,
      readNumberTail_of_delimits (hrest' ▸ hrest)]
    rfl
  | negSucc m =>
    rw [int_negSucc_bytes, List.cons_append] at hc
    obtain ⟨c', hrest', hnum⟩ := readNumber_repr false (m + 1) (by simp [u64Max]; omega) hrest
      c.next (Cursor.rest_next hc)
    refine ⟨c', hrest', ?_⟩
    have hsmall : ¬ (m + 1 == 0 || m + 1 > 9223372036854775808) = true := by simp; omega
    dsimp only
    rw [readAny_of_minus hc, hnum, readNumberTail_of_delimits (hrest' ▸ hrest)]
    simp only [Bool.false_eq_true, if_false, hsmall]
    rfl

theorem readAny_str_compact (s : String) (hfuel : 0 < fuel) :
    ReadsBack (fun c => readAny d c fuel) (Value.str s).compact.toUTF8.toList rest (.str s) := by
  intro c hc
  obtain ⟨f, rfl⟩ : ∃ f, fuel = f + 1 := ⟨fuel - 1, by omega⟩
  have hquote : c.rest = (quote s).toUTF8.toList ++ rest := hc
  have hc' : c.rest = 34 :: (s.toList.flatMap (fun ch => (escapeChar ch).toUTF8.toList) ++
      [34] ++ rest) := by
    rw [hquote, toUTF8_toList_quote]; rfl
  obtain ⟨c', hrest', hs⟩ := readString_quote s c hquote
  exact ⟨c', hrest', by dsimp only; rw [readAny_of_quote hc', hs]; rfl⟩

end Scalars


mutual

/-- A faithful value nested less deeply than the reader allows is read back from its compact text,
given fuel for its bytes; exactly what follows is left. -/
theorem readAny_compact : ∀ (v : Value) (d fuel : Nat) (rest : List UInt8), v.faithful = true →
    v.depth < d → v.compact.toUTF8.toList.length ≤ fuel → Delimits rest →
    ReadsBack (fun c => readAny d c fuel) v.compact.toUTF8.toList rest v
  | .null, _, _, _, hv, _, hfuel, _ =>
    readAny_null_compact (Nat.lt_of_lt_of_le (compact_length_pos _ hv) hfuel)
  | .bool b, _, _, _, hv, _, hfuel, _ =>
    readAny_bool_compact b (Nat.lt_of_lt_of_le (compact_length_pos _ hv) hfuel)
  | .num (.int _), _, _, _, hv, _, hfuel, hrest =>
    readAny_int_compact hv (Nat.lt_of_lt_of_le (compact_length_pos _ hv) hfuel) hrest
  | .num (.float _), _, _, _, hv, _, _, _ => by simp [Value.faithful] at hv
  | .str s, _, _, _, hv, _, hfuel, _ =>
    readAny_str_compact s (Nat.lt_of_lt_of_le (compact_length_pos _ hv) hfuel)
  | .arr [], d, fuel, rest, _, hd, hfuel, _ => by
    intro c hc
    rw [compact_arr_bytes, compactItems_nil_bytes] at hc hfuel
    simp only [Value.depth, itemsDepth] at hd
    obtain ⟨g, rfl⟩ : ∃ g, fuel = g + 1 + 1 := ⟨fuel - 2, by simp at hfuel; omega⟩
    have hc' : c.rest = 91 :: 93 :: rest := hc
    refine ⟨c.next.next, Cursor.rest_next (Cursor.rest_next hc'), ?_⟩
    dsimp only
    rw [readAny_of_bracket hc' (by omega), readItems_close (Cursor.rest_next hc')]
  | .arr (x :: xs), d, fuel, rest, hv, hd, hfuel, _ => by
    intro c hc
    rw [compact_arr_cons_append] at hc
    rw [compact_arr_cons_length] at hfuel
    simp only [Value.faithful, itemsFaithful, Bool.and_eq_true] at hv
    simp only [Value.depth, itemsDepth] at hd
    obtain ⟨b, bs, hxb, hblank, h93⟩ := compact_bytes_head x hv.1
    have hxlen := compact_length_pos x hv.1
    obtain ⟨g, rfl⟩ : ∃ g, fuel = g + 1 + 1 := ⟨fuel - 2, by omega⟩
    have hnext := Cursor.rest_next hc
    obtain ⟨c₁, hc₁, hx⟩ := readAny_compact x (d - 1) g _ hv.1 (by omega) (by omega)
      (delimits_items_tail xs rest) c.next hnext
    obtain ⟨c₂, hc₂, hxs⟩ := readItems_compact xs (d - 1) g rest (#[].push x) hv.2 (by omega)
      (by omega) c₁ (by rw [hc₁]; simp)
    refine ⟨c₂, hc₂, ?_⟩
    dsimp only at hx hxs ⊢
    rw [readAny_of_bracket hc (by omega),
      readItems_first (by rw [hnext, hxb]; rfl) hblank h93, hx]
    exact hxs
  | .obj [], d, fuel, rest, _, hd, hfuel, _ => by
    intro c hc
    rw [compact_obj_bytes, compactMembers_nil_bytes] at hc hfuel
    simp only [Value.depth, membersDepth] at hd
    obtain ⟨g, rfl⟩ : ∃ g, fuel = g + 1 + 1 := ⟨fuel - 2, by simp at hfuel; omega⟩
    have hc' : c.rest = 123 :: 125 :: rest := hc
    refine ⟨c.next.next, Cursor.rest_next (Cursor.rest_next hc'), ?_⟩
    dsimp only
    rw [readAny_of_brace hc' (by omega), readMembers_close (Cursor.rest_next hc')]
  | .obj ((k, v) :: ms), d, fuel, rest, hv, hd, hfuel, _ => by
    intro c hc
    rw [compact_obj_cons_append] at hc
    rw [compact_obj_cons_length] at hfuel
    simp only [Value.faithful, membersFaithful, Bool.and_eq_true, decide_eq_true_eq] at hv
    simp only [Value.depth, membersDepth] at hd
    obtain ⟨g, rfl⟩ : ∃ g, fuel = g + 1 + 1 := ⟨fuel - 2, by omega⟩
    have hnext := Cursor.rest_next hc
    obtain ⟨c₁, hc₁, hk⟩ := readString_quote k c.next hnext
    obtain ⟨c₂, hc₂, hv'⟩ := readAny_compact v (d - 1) g _ hv.2.1 (by omega) (by omega)
      (delimits_members_tail ms rest) c₁.next (Cursor.rest_next hc₁)
    obtain ⟨c₃, hc₃, hms⟩ := readMembers_compact ms (d - 1) g rest [(k, v)] hv.2.2 (by omega)
      (by simpa using hv.1) (by omega) c₂ (by rw [hc₂]; simp)
    refine ⟨c₃, hc₃, ?_⟩
    dsimp only at hv' hms ⊢
    rw [readAny_of_brace hc (by omega),
      readMembers_first (by rw [hnext, toUTF8_toList_quote]; rfl) hk hc₁, hv']
    simpa [Except.bind, setMember] using hms

/-- Array elements after the first, each after its comma, up to the closing bracket. -/
theorem readItems_compact : ∀ (xs : List Value) (d g : Nat) (rest : List UInt8) (acc : Array Value),
    itemsFaithful xs = true → itemsDepth xs < d →
    (xs.flatMap (fun y => 44 :: y.compact.toUTF8.toList)).length < g →
    ReadsBack (fun c => readItems d c false acc g)
      (xs.flatMap (fun y => 44 :: y.compact.toUTF8.toList) ++ [93]) rest (.arr (acc.toList ++ xs))
  | [], _, g, rest, acc, _, _, hg => by
    intro c hc
    obtain ⟨g', rfl⟩ : ∃ g', g = g' + 1 := ⟨g - 1, by simp at hg; omega⟩
    have hc' : c.rest = 93 :: rest := by simpa using hc
    exact ⟨c.next, Cursor.rest_next hc', by dsimp only; rw [readItems_close hc']; simp⟩
  | y :: ys, d, g, rest, acc, hv, hd, hg => by
    intro c hc
    simp only [itemsFaithful, Bool.and_eq_true] at hv
    simp only [itemsDepth] at hd
    simp only [List.flatMap_cons, List.length_append, List.length_cons] at hg
    obtain ⟨g', rfl⟩ : ∃ g', g = g' + 1 := ⟨g - 1, by omega⟩
    obtain ⟨b, bs, hyb, hblank, h93⟩ := compact_bytes_head y hv.1
    have hc' : c.rest = 44 :: (y.compact.toUTF8.toList ++
        (ys.flatMap (fun y => 44 :: y.compact.toUTF8.toList) ++ 93 :: rest)) := by
      rw [hc]; simp
    obtain ⟨c₁, hc₁, hy⟩ := readAny_compact y d g' _ hv.1 (by omega) (by omega)
      (delimits_items_tail ys rest) c.next (Cursor.rest_next hc')
    obtain ⟨c₂, hc₂, hys⟩ := readItems_compact ys d g' rest (acc.push y) hv.2 (by omega)
      (by omega) c₁ (by rw [hc₁]; simp)
    refine ⟨c₂, hc₂, ?_⟩
    dsimp only at hy hys ⊢
    rw [readItems_comma (by rw [hc', hyb]; rfl) hblank h93, hy]
    simpa [Except.bind] using hys

/-- Object members after the first, each after its comma, up to the closing brace; no key is
repeated, so each member is appended. -/
theorem readMembers_compact : ∀ (ms : List (String × Value)) (d g : Nat) (rest : List UInt8)
    (acc : List (String × Value)), membersFaithful ms = true → membersDepth ms < d →
    (acc.map Prod.fst ++ ms.map Prod.fst).Nodup →
    (ms.flatMap (fun m => 44 :: (quote m.1 ++ ":" ++ m.2.compact).toUTF8.toList)).length < g →
    ReadsBack (fun c => readMembers d c false acc g)
      (ms.flatMap (fun m => 44 :: (quote m.1 ++ ":" ++ m.2.compact).toUTF8.toList) ++ [125]) rest (.obj (acc ++ ms))
  | [], _, g, rest, acc, _, _, _, hg => by
    intro c hc
    obtain ⟨g', rfl⟩ : ∃ g', g = g' + 1 := ⟨g - 1, by simp at hg; omega⟩
    have hc' : c.rest = 125 :: rest := by simpa using hc
    exact ⟨c.next, Cursor.rest_next hc', by dsimp only; rw [readMembers_close hc']; simp⟩
  | (k, v) :: ms, d, g, rest, acc, hv, hd, hnd, hg => by
    intro c hc
    simp only [membersFaithful, Bool.and_eq_true] at hv
    simp only [membersDepth] at hd
    rw [List.flatMap_cons, member_bytes] at hg
    simp only [List.length_append, List.length_cons] at hg
    obtain ⟨g', rfl⟩ : ∃ g', g = g' + 1 := ⟨g - 1, by omega⟩
    have hc' : c.rest = 44 :: ((quote k).toUTF8.toList ++ 58 :: (v.compact.toUTF8.toList ++
        (ms.flatMap (fun m => 44 :: (quote m.1 ++ ":" ++ m.2.compact).toUTF8.toList) ++ 125 :: rest))) := by
      rw [hc, List.flatMap_cons, member_bytes]
      simp only [List.cons_append, List.append_assoc, List.nil_append]
    have hnext := Cursor.rest_next hc'
    obtain ⟨c₁, hc₁, hk⟩ := readString_quote k c.next hnext
    obtain ⟨c₂, hc₂, hv'⟩ := readAny_compact v d g' _ hv.1 (by omega) (by omega)
      (delimits_members_tail ms rest) c₁.next (Cursor.rest_next hc₁)
    have hfresh : k ∉ acc.map Prod.fst := by
      intro hk'
      simp only [List.map_cons, List.nodup_append, List.mem_cons] at hnd
      exact hnd.2.2 k hk' k (Or.inl rfl) rfl
    obtain ⟨c₃, hc₃, hms⟩ := readMembers_compact ms d g' rest (acc ++ [(k, v)]) hv.2 (by omega)
      (by simpa using hnd) (by omega) c₂ (by rw [hc₂]; simp)
    refine ⟨c₃, hc₃, ?_⟩
    dsimp only at hv' hms ⊢
    rw [readMembers_comma (by rw [hc', toUTF8_toList_quote]; rfl) hk hc₁, hv']
    simpa [Except.bind, setMember_of_not_mem hfresh] using hms

end

/-- The compact text of a faithful value nested fewer than 128 containers deep reads back as the
value. -/
theorem readValue_compact (v : Value) (hv : v.faithful = true) (hd : v.depth < 128) :
    readValue v.compact = .ok v := by
  obtain ⟨c, hc, hread⟩ := readAny_compact v 128 (2 * v.compact.toUTF8.toList.length + 2) [] hv
    hd (by omega) (by simp [Delimits]) (Cursor.start v.compact.toUTF8.toList)
    (by simp [Cursor.start])
  dsimp only at hread
  rw [readValue, readBytes, hread]
  simp [Cursor.skipBlank_of_nil hc, Cursor.peek, hc]


/-! ### Refusing values nested too deeply -/

mutual

/-- A faithful value nested at least as deeply as the reader still allows is refused. -/
theorem readAny_compact_deep : ∀ (v : Value) (d fuel : Nat) (rest : List UInt8),
    v.faithful = true → 0 < d → d ≤ v.depth → v.compact.toUTF8.toList.length ≤ fuel →
    ∀ c : Cursor, c.rest = v.compact.toUTF8.toList ++ rest → ∃ e, readAny d c fuel = .error e
  | .null, _, _, _, _, hpos, hd, _ => by simp [Value.depth] at hd; omega
  | .bool _, _, _, _, _, hpos, hd, _ => by simp [Value.depth] at hd; omega
  | .num _, _, _, _, _, hpos, hd, _ => by simp [Value.depth] at hd; omega
  | .str _, _, _, _, _, hpos, hd, _ => by simp [Value.depth] at hd; omega
  | .arr [], d, fuel, rest, _, hpos, hd, hfuel => by
    intro c hc
    rw [compact_arr_bytes, compactItems_nil_bytes] at hc hfuel
    simp only [Value.depth, itemsDepth] at hd
    obtain ⟨f, rfl⟩ : ∃ f, fuel = f + 1 := ⟨fuel - 1, by simp at hfuel; omega⟩
    exact ⟨_, readAny_of_bracket_limit hc (by omega)⟩
  | .arr (x :: xs), d, fuel, rest, hv, hpos, hd, hfuel => by
    intro c hc
    rw [compact_arr_cons_append] at hc
    rw [compact_arr_cons_length] at hfuel
    simp only [Value.faithful, itemsFaithful, Bool.and_eq_true] at hv
    simp only [Value.depth, itemsDepth] at hd
    obtain ⟨b, bs, hxb, hblank, h93⟩ := compact_bytes_head x hv.1
    have hxlen := compact_length_pos x hv.1
    obtain ⟨g, rfl⟩ : ∃ g, fuel = g + 1 + 1 := ⟨fuel - 2, by omega⟩
    rcases Nat.lt_or_ge 1 d with hd1 | hd1
    · have hnext := Cursor.rest_next hc
      rw [readAny_of_bracket hc hd1, readItems_first (by rw [hnext, hxb]; rfl) hblank h93]
      -- the first element is refused, or it is read and a later one is refused
      rcases Nat.lt_or_ge x.depth (d - 1) with hx | hx
      · obtain ⟨c₁, hc₁, hread⟩ := readAny_compact x (d - 1) g _ hv.1 hx (by omega)
          (delimits_items_tail xs rest) c.next hnext
        dsimp only at hread
        rw [hread]
        exact readItems_compact_deep xs (d - 1) g rest (#[].push x) hv.2 (by omega) (by omega)
          (by omega) c₁ (by rw [hc₁])
      · obtain ⟨e, he⟩ := readAny_compact_deep x (d - 1) g _ hv.1 (by omega) hx (by omega)
          c.next hnext
        exact ⟨e, by rw [he]; rfl⟩
    · exact ⟨_, readAny_of_bracket_limit hc hd1⟩
  | .obj [], d, fuel, rest, _, hpos, hd, hfuel => by
    intro c hc
    rw [compact_obj_bytes, compactMembers_nil_bytes] at hc hfuel
    simp only [Value.depth, membersDepth] at hd
    obtain ⟨f, rfl⟩ : ∃ f, fuel = f + 1 := ⟨fuel - 1, by simp at hfuel; omega⟩
    exact ⟨_, readAny_of_brace_limit hc (by omega)⟩
  | .obj ((k, v) :: ms), d, fuel, rest, hv, hpos, hd, hfuel => by
    intro c hc
    rw [compact_obj_cons_append] at hc
    rw [compact_obj_cons_length] at hfuel
    simp only [Value.faithful, membersFaithful, Bool.and_eq_true, decide_eq_true_eq] at hv
    simp only [Value.depth, membersDepth] at hd
    obtain ⟨g, rfl⟩ : ∃ g, fuel = g + 1 + 1 := ⟨fuel - 2, by omega⟩
    rcases Nat.lt_or_ge 1 d with hd1 | hd1
    · have hnext := Cursor.rest_next hc
      obtain ⟨c₁, hc₁, hk⟩ := readString_quote k c.next hnext
      rw [readAny_of_brace hc hd1,
        readMembers_first (by rw [hnext, toUTF8_toList_quote]; rfl) hk hc₁]
      -- the first member's value is refused, or it is read and a later one is refused
      rcases Nat.lt_or_ge v.depth (d - 1) with hvd | hvd
      · obtain ⟨c₂, hc₂, hread⟩ := readAny_compact v (d - 1) g _ hv.2.1 hvd (by omega)
          (delimits_members_tail ms rest) c₁.next (Cursor.rest_next hc₁)
        dsimp only at hread
        rw [hread]
        exact readMembers_compact_deep ms (d - 1) g rest _ hv.2.2 (by omega) (by omega)
          (by omega) c₂ (by rw [hc₂])
      · obtain ⟨e, he⟩ := readAny_compact_deep v (d - 1) g _ hv.2.1 (by omega) hvd (by omega)
          c₁.next (Cursor.rest_next hc₁)
        exact ⟨e, by rw [he]; rfl⟩
    · exact ⟨_, readAny_of_brace_limit hc hd1⟩

/-- Array elements after the first: one of them nests too deeply, so the array is refused. -/
theorem readItems_compact_deep : ∀ (xs : List Value) (d g : Nat) (rest : List UInt8)
    (acc : Array Value), itemsFaithful xs = true → 0 < d → d ≤ itemsDepth xs →
    (xs.flatMap (fun y => 44 :: y.compact.toUTF8.toList)).length < g →
    ∀ c : Cursor, c.rest = xs.flatMap (fun y => 44 :: y.compact.toUTF8.toList) ++ 93 :: rest →
      ∃ e, readItems d c false acc g = .error e
  | [], _, _, _, _, _, hpos, hd, _ => by simp [itemsDepth] at hd; omega
  | y :: ys, d, g, rest, acc, hv, hpos, hd, hg => by
    intro c hc
    simp only [itemsFaithful, Bool.and_eq_true] at hv
    simp only [itemsDepth] at hd
    simp only [List.flatMap_cons, List.length_append, List.length_cons] at hg
    obtain ⟨g', rfl⟩ : ∃ g', g = g' + 1 := ⟨g - 1, by omega⟩
    obtain ⟨b, bs, hyb, hblank, h93⟩ := compact_bytes_head y hv.1
    have hc' : c.rest = 44 :: (y.compact.toUTF8.toList ++
        (ys.flatMap (fun y => 44 :: y.compact.toUTF8.toList) ++ 93 :: rest)) := by
      rw [hc]; simp
    rw [readItems_comma (by rw [hc', hyb]; rfl) hblank h93]
    rcases Nat.lt_or_ge y.depth d with hy | hy
    · obtain ⟨c₁, hc₁, hread⟩ := readAny_compact y d g' _ hv.1 hy (by omega)
        (delimits_items_tail ys rest) c.next (Cursor.rest_next hc')
      dsimp only at hread
      rw [hread]
      exact readItems_compact_deep ys d g' rest (acc.push y) hv.2 hpos (by omega) (by omega) c₁
        (by rw [hc₁])
    · obtain ⟨e, he⟩ := readAny_compact_deep y d g' _ hv.1 hpos hy (by omega) c.next
        (Cursor.rest_next hc')
      exact ⟨e, by rw [he]; rfl⟩

/-- Object members after the first: one of their values nests too deeply, so the object is
refused. -/
theorem readMembers_compact_deep : ∀ (ms : List (String × Value)) (d g : Nat)
    (rest : List UInt8) (acc : List (String × Value)), membersFaithful ms = true → 0 < d →
    d ≤ membersDepth ms →
    (ms.flatMap (fun m => 44 :: (quote m.1 ++ ":" ++ m.2.compact).toUTF8.toList)).length < g →
    ∀ c : Cursor, c.rest =
      ms.flatMap (fun m => 44 :: (quote m.1 ++ ":" ++ m.2.compact).toUTF8.toList) ++ 125 :: rest →
      ∃ e, readMembers d c false acc g = .error e
  | [], _, _, _, _, _, hpos, hd, _ => by simp [membersDepth] at hd; omega
  | (k, v) :: ms, d, g, rest, acc, hv, hpos, hd, hg => by
    intro c hc
    simp only [membersFaithful, Bool.and_eq_true] at hv
    simp only [membersDepth] at hd
    rw [List.flatMap_cons, member_bytes] at hg
    simp only [List.length_append, List.length_cons] at hg
    obtain ⟨g', rfl⟩ : ∃ g', g = g' + 1 := ⟨g - 1, by omega⟩
    have hc' : c.rest = 44 :: ((quote k).toUTF8.toList ++ 58 :: (v.compact.toUTF8.toList ++
        (ms.flatMap (fun m => 44 :: (quote m.1 ++ ":" ++ m.2.compact).toUTF8.toList) ++
          125 :: rest))) := by
      rw [hc, List.flatMap_cons, member_bytes]
      simp only [List.cons_append, List.append_assoc]
    have hnext := Cursor.rest_next hc'
    obtain ⟨c₁, hc₁, hk⟩ := readString_quote k c.next hnext
    rw [readMembers_comma (by rw [hc', toUTF8_toList_quote]; rfl) hk hc₁]
    rcases Nat.lt_or_ge v.depth d with hvd | hvd
    · obtain ⟨c₂, hc₂, hread⟩ := readAny_compact v d g' _ hv.1 hvd (by omega)
        (delimits_members_tail ms rest) c₁.next (Cursor.rest_next hc₁)
      dsimp only at hread
      rw [hread]
      exact readMembers_compact_deep ms d g' rest _ hv.2 hpos (by omega) (by omega) c₂
        (by rw [hc₂])
    · obtain ⟨e, he⟩ := readAny_compact_deep v d g' _ hv.1 hpos hvd (by omega) c₁.next
        (Cursor.rest_next hc₁)
      exact ⟨e, by rw [he]; rfl⟩

end

/-- The compact text of a faithful value nested 128 containers deep or more is refused. -/
theorem readValue_compact_deep (v : Value) (hv : v.faithful = true) (hd : 128 ≤ v.depth) :
    ∃ e, readValue v.compact = .error e := by
  obtain ⟨e, he⟩ := readAny_compact_deep v 128 (2 * v.compact.toUTF8.toList.length + 2) [] hv
    (by decide) hd (by omega) (Cursor.start v.compact.toUTF8.toList) (by simp [Cursor.start])
  exact ⟨e, by rw [readValue, readBytes, he]⟩

end LiveSession.Json
