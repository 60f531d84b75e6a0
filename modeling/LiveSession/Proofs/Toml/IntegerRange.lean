import LiveSession.Toml.Read
/-!
# Integers a document holds fit 64 bits

`Value.Fits` says that every integer of a value, at every depth, lies between `i64Min` and
`i64Max`; `Item.Fits` and `Body.Fits` say the same of tables under construction. Main statement:
`readDocument_fits`, the value of every document that reads fits.

The integer reader checks the range of every number it gives (`integerOf_range`), so the value
readers give values that fit (`readers_fit`, one induction on the fuel they share). A change that
keeps a table fitting keeps it fitting when made along a path (`modifyAt_keepsFits`), so every
statement keeps the document fitting, and so does every run of statements.
-/

namespace LiveSession.Toml

/-- A value whose integers, at every depth, fit 64 bits. -/
inductive Value.Fits : Value → Prop
  | str (s : String) : Value.Fits (.str s)
  | int {i : Int} (lo : i64Min ≤ i) (hi : i ≤ i64Max) : Value.Fits (.int i)
  | float (f : Float) : Value.Fits (.float f)
  | bool (b : Bool) : Value.Fits (.bool b)
  | datetime (text : String) : Value.Fits (.datetime text)
  | arr {items : List Value} (h : ∀ v ∈ items, Value.Fits v) : Value.Fits (.arr items)
  | table {entries : List (String × Value)} (h : ∀ e ∈ entries, Value.Fits e.2) :
      Value.Fits (.table entries)

/-- An item under construction whose integers fit 64 bits. -/
inductive Item.Fits : Item → Prop
  | value {v : Value} (h : v.Fits) : Item.Fits (.value v)
  | table {imp dot : Bool} {entries : Body} (h : ∀ e ∈ entries, Item.Fits e.2) :
      Item.Fits (.table imp dot entries)
  | tables {elems : List Body} (h : ∀ b ∈ elems, ∀ e ∈ b, Item.Fits e.2) :
      Item.Fits (.tables elems)

/-- The entries of a table under construction fit 64 bits. -/
def Body.Fits (b : Body) : Prop := ∀ e ∈ b, e.2.Fits

theorem integerOf_range {tok : List Char} {i : Int} (h : integerOf tok = some i) :
    i64Min ≤ i ∧ i ≤ i64Max := by
  -- every branch passes its number through the range check, but the literal zero
  have hzero : i64Min ≤ 0 ∧ (0 : Int) ≤ i64Max := by decide
  unfold integerOf at h
  repeat' split at h
  all_goals simp_all [Option.bind_eq_some_iff]
  all_goals obtain ⟨_, -, hr, rfl⟩ := h; exact hr

theorem readDateTime_fits {cs r : List Char} {v : Value} (h : readDateTime cs = some (v, r)) :
    v.Fits := by
  -- every branch gives the text it read as a date-time
  unfold readDateTime at h
  simp only at h
  split at h
  · obtain ⟨_, -, h⟩ := Option.bind_eq_some_iff.mp h
    cases h
    exact .datetime _
  · obtain ⟨_, -, h⟩ := Option.bind_eq_some_iff.mp h
    split at h
    · split at h
      · obtain ⟨_, -, h⟩ := Option.bind_eq_some_iff.mp h
        obtain ⟨_, -, h⟩ := Option.bind_eq_some_iff.mp h
        cases h
        exact .datetime _
      · cases h
        exact .datetime _
    · cases h
      exact .datetime _

theorem readScalar_fits {cs r : List Char} {v : Value} (h : readScalar cs = some (v, r)) :
    v.Fits := by
  unfold readScalar at h
  split at h
  · exact readDateTime_fits h
  · simp only at h
    repeat' split at h
    · cases h; exact .bool true
    · cases h; exact .bool false
    · cases h
      obtain ⟨lo, hi⟩ := integerOf_range ‹_›
      exact .int lo hi
    · obtain ⟨f, -, hf⟩ := Option.map_eq_some_iff.mp h
      cases hf
      exact .float f
    · cases h

/-! ### Tables under construction -/

theorem bodyToValues_eq_map (b : Body) :
    bodyToValues b = b.map fun e => (e.1, e.2.toValue) := by
  induction b with
  | nil => rfl
  | cons e b ih => simp [bodyToValues, ih]

theorem tablesToValues_eq_map (bs : List Body) :
    tablesToValues bs = bs.map fun b => .table (bodyToValues b) := by
  induction bs with
  | nil => rfl
  | cons b bs ih => simp [tablesToValues, ih]

theorem Item.Fits.toValue {i : Item} (h : i.Fits) : i.toValue.Fits := by
  induction h with
  | value h => exact h
  | table _ ih =>
    rw [Item.toValue, bodyToValues_eq_map]
    refine .table fun e he => ?_
    obtain ⟨e', he', rfl⟩ := List.mem_map.mp he
    exact ih e' he'
  | tables _ ih =>
    rw [Item.toValue, tablesToValues_eq_map]
    refine .arr fun v hv => ?_
    obtain ⟨b, hb, rfl⟩ := List.mem_map.mp hv
    rw [bodyToValues_eq_map]
    refine .table fun e he => ?_
    obtain ⟨e', he', rfl⟩ := List.mem_map.mp he
    exact ih b hb e' he'

/-- A finished table whose entries fit. -/
theorem Body.Fits.toValue {b : Body} (h : Body.Fits b) : Value.Fits (.table (bodyToValues b)) :=
  (Item.Fits.table h : Item.Fits (.table false false b)).toValue

theorem Body.Fits.append {b b' : Body} (h : Body.Fits b) (h' : Body.Fits b') :
    Body.Fits (b ++ b') := by
  intro e he
  rcases List.mem_append.mp he with he | he
  · exact h e he
  · exact h' e he

theorem Body.Fits.push {b : Body} (h : Body.Fits b) {i : Item} (hi : i.Fits) (k : String) :
    Body.Fits (b ++ [(k, i)]) :=
  h.append fun e he => by
    rw [List.mem_singleton.mp he]
    exact hi

theorem Body.Fits.lookup {b : Body} {k : String} {i : Item} (h : Body.Fits b)
    (hk : b.lookup k = some i) : i.Fits := by
  obtain ⟨l₁, l₂, rfl, -⟩ := List.lookup_eq_some_iff.mp hk
  exact h (k, i) (by simp)

theorem Body.Fits.replaceEntry {b : Body} {i : Item} (h : Body.Fits b) (hi : i.Fits)
    (k : String) : Body.Fits (Toml.replaceEntry k i b) := by
  induction b with
  | nil => exact h
  | cons e b ih =>
    intro e' he'
    rw [Toml.replaceEntry] at he'
    split at he' <;> rcases List.mem_cons.mp he' with rfl | he'
    · exact hi
    · exact h e' (List.mem_cons_of_mem _ he')
    · exact h _ List.mem_cons_self
    · exact ih (fun e'' he'' => h e'' (List.mem_cons_of_mem _ he'')) e' he'

/-- A change to a table that keeps its integers within 64 bits. -/
def KeepsFits (f : Flags → Body → Option (Flags × Body)) : Prop :=
  ∀ fl b r, Body.Fits b → f fl b = some r → Body.Fits r.2

theorem Body.Fits.nil : Body.Fits [] := nofun

/-- Reaching into a table along a path keeps what the change at its end keeps. -/
theorem modifyAt_keepsFits {f : Flags → Body → Option (Flags × Body)} (hf : KeepsFits f)
    (dotted : Bool) : ∀ ks, KeepsFits (modifyAt dotted f ks) := by
  intro ks
  induction ks with
  | nil => exact hf
  | cons k ks ih =>
    intro flags body r hbody h
    rw [modifyAt] at h
    split at h
    · obtain ⟨⟨fl, b⟩, hb, h⟩ := Option.bind_eq_some_iff.mp h
      cases h
      exact hbody.push (.table (ih _ _ _ Body.Fits.nil hb)) k
    · cases h
    · rename_i elems hk
      obtain ⟨last, hlast, h⟩ := Option.bind_eq_some_iff.mp h
      obtain ⟨⟨fl, b⟩, hb, h⟩ := Option.bind_eq_some_iff.mp h
      cases h
      have helems := hbody.lookup hk
      cases helems with
      | tables helems =>
        have hlastFits : Body.Fits last := helems last (List.mem_of_getLast? hlast)
        have hfits := ih _ _ _ hlastFits hb
        refine hbody.replaceEntry (.tables fun b' hb' => ?_) k
        rcases List.mem_append.mp hb' with hb' | hb'
        · exact helems b' (List.dropLast_subset _ hb')
        · rw [List.mem_singleton.mp hb']
          exact hfits
    · rename_i imp dot entries hk
      split at h
      · cases h
      · obtain ⟨⟨fl, b⟩, hb, h⟩ := Option.bind_eq_some_iff.mp h
        cases h
        have hentries := hbody.lookup hk
        cases hentries with
        | table hentries => exact hbody.replaceEntry (.table (ih _ _ _ hentries hb)) k

theorem modifyInline_keepsFits {f : Flags → Body → Option (Flags × Body)} (hf : KeepsFits f) :
    ∀ ks, KeepsFits (inlineInsert.modifyInline ks f) := by
  intro ks
  induction ks with
  | nil => exact hf
  | cons k ks ih =>
    intro flags body r hbody h
    rw [inlineInsert.modifyInline] at h
    split at h
    · obtain ⟨⟨fl, b⟩, hb, h⟩ := Option.bind_eq_some_iff.mp h
      cases h
      exact hbody.push (.table (ih _ _ _ Body.Fits.nil hb)) k
    · rename_i imp dot entries hk
      obtain ⟨⟨fl, b⟩, hb, h⟩ := Option.bind_eq_some_iff.mp h
      cases h
      have hentries := hbody.lookup hk
      cases hentries with
      | table hentries => exact hbody.replaceEntry (.table (ih _ _ _ hentries hb)) k
    · cases h

/-- Defining a key as a value that fits, whatever the guards, keeps the table fitting. -/
theorem keepsFits_define {v : Value} (hv : v.Fits) (k : String)
    (g₁ g₂ : Flags → Body → Bool) :
    KeepsFits fun fl b =>
      if g₁ fl b then none else if g₂ fl b then none else some (fl, b ++ [(k, .value v)]) := by
  intro fl b r hb h
  dsimp only at h
  split at h
  · cases h
  · split at h
    · cases h
    · cases h
      exact hb.push (.value hv) k

theorem inlineInsert_fits {path : List String} {v : Value} {body body' : Body} (hv : v.Fits)
    (hbody : Body.Fits body) (h : inlineInsert path v body = some body') : Body.Fits body' := by
  unfold inlineInsert at h
  split at h
  · cases h
  · obtain ⟨⟨fl, b⟩, hb, rfl⟩ := Option.map_eq_some_iff.mp h
    exact modifyInline_keepsFits (keepsFits_define hv _ _ _) _ _ _ _ hbody hb

/-! ### Values read -/

/-- Whatever the value readers give fits 64 bits, at every fuel. -/
theorem readers_fit (fuel : Nat) :
    (∀ d cs v r, readValue d cs fuel = some (v, r) → v.Fits) ∧
    (∀ d acc cs v r, (∀ a ∈ acc, a.Fits) → readArray d acc cs fuel = some (v, r) →
      v.Fits) ∧
    (∀ d body first cs v r, Body.Fits body → readInline d body first cs fuel = some (v, r) →
      v.Fits) := by
  induction fuel with
  | zero =>
    refine ⟨?_, ?_, ?_⟩ <;> intros <;> simp_all [readValue, readArray, readInline]
  | succ fuel ih =>
    obtain ⟨ihValue, ihArray, ihInline⟩ := ih
    refine ⟨?_, ?_, ?_⟩
    · intro d cs v r h
      rw [readValue.eq_def] at h
      dsimp only at h
      split at h
      -- the four kinds of strings
      iterate 4
        · obtain ⟨⟨str, _⟩, -, h⟩ := Option.map_eq_some_iff.mp h
          cases h
          exact .str str
      · split at h
        · exact ihArray _ [] _ _ _ nofun h
        · cases h
      · split at h
        · exact ihInline _ _ _ _ _ _ Body.Fits.nil h
        · cases h
      · exact readScalar_fits h
    · intro d acc cs v r hacc h
      rw [readArray.eq_2] at h
      obtain ⟨cs', -, h⟩ := Option.bind_eq_some_iff.mp h
      split at h
      · cases h
        exact .arr fun a ha => hacc a (List.mem_reverse.mp ha)
      · obtain ⟨⟨w, rest⟩, hw, h⟩ := Option.bind_eq_some_iff.mp h
        -- the element read joins the elements before it
        have hacc' : ∀ a ∈ w :: acc, a.Fits := by
          intro a ha
          rcases List.mem_cons.mp ha with rfl | ha
          · exact ihValue _ _ _ _ hw
          · exact hacc a ha
        obtain ⟨rest', -, h⟩ := Option.bind_eq_some_iff.mp h
        split at h
        · exact ihArray _ _ _ _ _ hacc' h
        · cases h
          exact .arr fun a ha => hacc' a (List.mem_reverse.mp ha)
        · cases h
    · intro d body first cs v r hbody h
      rw [readInline.eq_def] at h
      dsimp only at h
      split at h
      · split at h
        · cases h
          exact .table nofun
        · cases h
      · obtain ⟨⟨path, rest⟩, -, h⟩ := Option.bind_eq_some_iff.mp h
        dsimp only at h
        -- past the key there must be an equals sign
        split at h
        · obtain ⟨rest', -, h⟩ := Option.bind_eq_some_iff.mp h
          obtain ⟨⟨w, rest''⟩, hw, h⟩ := Option.bind_eq_some_iff.mp h
          obtain ⟨body', hbody', h⟩ := Option.bind_eq_some_iff.mp h
          -- the entry read joins the entries before it
          have hfits := inlineInsert_fits (ihValue _ _ _ _ hw) hbody hbody'
          split at h
          · exact ihInline _ _ _ _ _ _ hfits h
          · cases h
            exact hfits.toValue
          · cases h
        · obtain ⟨_, hnone, -⟩ := Option.bind_eq_some_iff.mp h
          cases hnone


/-! ### Documents read -/

theorem DocState.keyval_fits {st st' : DocState} {path : List String} {v : Value}
    (hst : Body.Fits st.root) (hv : v.Fits) (h : st.keyval path v = some st') :
    Body.Fits st'.root := by
  unfold DocState.keyval at h
  split at h
  · cases h
  · obtain ⟨⟨fl, r⟩, hr, rfl⟩ := Option.map_eq_some_iff.mp h
    -- the key is defined in a table reached from the current one
    refine modifyAt_keepsFits ?_ false _ _ _ _ hst hr
    exact fun fl b r => modifyAt_keepsFits (keepsFits_define hv _ _ _) true _ fl b r

theorem DocState.header_fits {st st' : DocState} {path : List String}
    (hst : Body.Fits st.root) (h : st.header path = some st') : Body.Fits st'.root := by
  unfold DocState.header at h
  split at h
  · cases h
  · obtain ⟨⟨fl, r⟩, hr, rfl⟩ := Option.map_eq_some_iff.mp h
    refine modifyAt_keepsFits ?_ false _ _ _ _ hst hr
    intro fl b r hb hdefine
    dsimp only at hdefine
    split at hdefine
    · cases hdefine
      exact hb.push (.table Body.Fits.nil) _
    · rename_i entries hk
      cases hdefine
      cases hb.lookup hk with
      | table hentries => exact hb.replaceEntry (.table hentries) _
    · cases hdefine

theorem DocState.arrayHeader_fits {st st' : DocState} {path : List String}
    (hst : Body.Fits st.root) (h : st.arrayHeader path = some st') : Body.Fits st'.root := by
  unfold DocState.arrayHeader at h
  split at h
  · cases h
  · obtain ⟨⟨fl, r⟩, hr, rfl⟩ := Option.map_eq_some_iff.mp h
    refine modifyAt_keepsFits ?_ false _ _ _ _ hst hr
    intro fl b r hb happend
    dsimp only at happend
    split at happend
    · cases happend
      exact hb.push (.tables fun b' hb' => by rw [List.mem_singleton.mp hb']; exact nofun) _
    · rename_i elems hk
      cases happend
      cases hb.lookup hk with
      | tables helems =>
        refine hb.replaceEntry (.tables fun b' hb' => ?_) _
        rcases List.mem_append.mp hb' with hb' | hb'
        · exact helems b' hb'
        · rw [List.mem_singleton.mp hb']
          exact nofun
    · cases happend

theorem readStatement_fits {st st' : DocState} {cs rest : List Char} (hst : Body.Fits st.root)
    (h : readStatement st cs = some (st', rest)) : Body.Fits st'.root := by
  unfold readStatement at h
  dsimp only at h
  split at h
  -- a comment or a line end leaves the document as it was
  iterate 3
    · obtain ⟨_, -, h⟩ := Option.bind_eq_some_iff.mp h
      cases h
      exact hst
  · obtain ⟨⟨path, r⟩, -, h⟩ := Option.bind_eq_some_iff.mp h
    dsimp only at h
    split at h
    · obtain ⟨_, -, h⟩ := Option.bind_eq_some_iff.mp h
      obtain ⟨st'', hst'', h⟩ := Option.bind_eq_some_iff.mp h
      obtain ⟨_, -, h⟩ := Option.bind_eq_some_iff.mp h
      cases h
      exact DocState.arrayHeader_fits hst hst''
    · obtain ⟨_, hnone, -⟩ := Option.bind_eq_some_iff.mp h
      cases hnone
  · obtain ⟨⟨path, r⟩, -, h⟩ := Option.bind_eq_some_iff.mp h
    dsimp only at h
    split at h
    · obtain ⟨_, -, h⟩ := Option.bind_eq_some_iff.mp h
      obtain ⟨st'', hst'', h⟩ := Option.bind_eq_some_iff.mp h
      obtain ⟨_, -, h⟩ := Option.bind_eq_some_iff.mp h
      cases h
      exact DocState.header_fits hst hst''
    · obtain ⟨_, hnone, -⟩ := Option.bind_eq_some_iff.mp h
      cases hnone
  · obtain ⟨⟨path, r⟩, -, h⟩ := Option.bind_eq_some_iff.mp h
    dsimp only at h
    split at h
    · obtain ⟨_, -, h⟩ := Option.bind_eq_some_iff.mp h
      obtain ⟨⟨v, r'⟩, hv, h⟩ := Option.bind_eq_some_iff.mp h
      obtain ⟨st'', hst'', h⟩ := Option.bind_eq_some_iff.mp h
      obtain ⟨_, -, h⟩ := Option.bind_eq_some_iff.mp h
      cases h
      exact DocState.keyval_fits hst ((readers_fit _).1 _ _ _ _ hv) hst''
    · obtain ⟨_, hnone, -⟩ := Option.bind_eq_some_iff.mp h
      cases hnone

theorem readStatements_fits (fuel : Nat) :
    ∀ {st st' : DocState} {cs : List Char}, Body.Fits st.root →
      readStatements st cs fuel = some st' → Body.Fits st'.root := by
  induction fuel with
  | zero => intro st st' cs _ h; cases h
  | succ fuel ih =>
    intro st st' cs hst h
    rw [readStatements] at h
    split at h
    · cases h
      exact hst
    · obtain ⟨⟨st'', rest⟩, hstep, h⟩ := Option.bind_eq_some_iff.mp h
      dsimp only at h
      split at h
      · exact ih (readStatement_fits hst hstep) h
      · cases h

/-- Every integer a document holds, at every depth, fits 64 bits. -/
theorem readDocument_fits {text : String} {v : Value} (h : readDocument text = some v) :
    v.Fits := by
  unfold readDocument at h
  obtain ⟨st, hst, rfl⟩ := Option.map_eq_some_iff.mp h
  exact (readStatements_fits _ Body.Fits.nil hst).toValue

end LiveSession.Toml
