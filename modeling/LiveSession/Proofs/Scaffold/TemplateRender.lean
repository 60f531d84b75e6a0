import LiveSession.Scaffold.Template
/-!
# Rendering a template marker by marker

A marker is two opening braces, optional blanks (the Unicode `White_Space` class), an
identifier of ASCII letters, digits and underscores not starting with a digit, optional blanks
and two closing braces (`IsMarker`). A template is read as `l₀ m₁ l₁ … mₖ lₖ`, where each
marker `mᵢ` is the leftmost one that starts at or after the end of `mᵢ₋₁`: no marker starts
inside any literal `lᵢ` (`LeftmostCut`). Every text has such a cut
(`exists_leftmostCut`).

Main statement, `render_substitutes_leftmost_markers`: on any leftmost cut, rendering gives
`l₀ v₁ l₁ … vₖ lₖ` with each `vᵢ` the value of `mᵢ`'s name when every name has a value, and
otherwise fails on the first name without one, at the byte offset where its marker starts. The
values are never read for markers, and a text without markers renders to itself.

The proof reads `markerAt` against `IsMarker` (`markerAt_append_of_isMarker`,
`markerAt_eq_none_iff`), follows `cut` over one literal and one marker (`cut_literal`,
`cut_marker`), and renders the resulting pieces (`renderPieces_cut`).
-/

namespace LiveSession.Scaffold

/-! ### Character classes -/

/-- An identifier character is an ASCII letter, digit or underscore, hence not blank. -/
theorem isBlank_eq_false_of_isIdentChar {c : Char} (h : isIdentChar c = true) :
    Text.isBlank c = false := by
  -- the ASCII letter and digit ranges of `Char.isAlphanum`, and the underscore
  have hclass : (((decide (c.val ≥ 'A'.val ∧ c.val ≤ 'Z'.val) ||
      (c.val ≥ 'a'.val && c.val ≤ 'z'.val)) || (c.val ≥ '0'.val && c.val ≤ '9'.val)) ||
      c == '_') = true := h
  simp only [Bool.or_eq_true, Bool.and_eq_true, decide_eq_true_eq, beq_iff_eq, ge_iff_le,
    UInt32.le_iff_toNat_le] at hclass
  have hn : c.toNat = c.val.toNat := rfl
  have hA : 'A'.val.toNat = 65 := rfl
  have hZ : 'Z'.val.toNat = 90 := rfl
  have ha : 'a'.val.toNat = 97 := rfl
  have hz : 'z'.val.toNat = 122 := rfl
  have h0 : '0'.val.toNat = 48 := rfl
  have h9 : '9'.val.toNat = 57 := rfl
  simp only [Text.isBlank, Bool.or_eq_false_iff, Bool.and_eq_false_iff, decide_eq_false_iff_not,
    beq_eq_false_iff_ne]
  rcases hclass with ((⟨h1, h2⟩ | ⟨h1, h2⟩) | ⟨h1, h2⟩) | rfl
  · omega
  · omega
  · omega
  · decide

/-- A character that may start an identifier may continue one. -/
theorem isIdentChar_of_isIdentStart {c : Char} (h : isIdentStart c = true) :
    isIdentChar c = true := by
  have hstart : (c.isAlpha || c == '_') = true := h
  show ((c.isAlpha || c.isDigit) || c == '_') = true
  simp only [Bool.or_eq_true] at hstart ⊢
  rcases hstart with h | h
  · exact .inl (.inl h)
  · exact .inr h

/-- A list is its longest prefix whose elements satisfy `p`, then the rest. -/
theorem takeWhile_append_drop {α : Type} (p : α → Bool) (l : List α) :
    l.takeWhile p ++ l.drop (l.takeWhile p).length = l := by
  have hpre : l.takeWhile p = l.take (l.takeWhile p).length :=
    List.prefix_iff_eq_take.mp (List.takeWhile_prefix p)
  conv => rhs; rw [← List.take_append_drop (l.takeWhile p).length l, ← hpre]

theorem all_of_mem_takeWhile {α : Type} {p : α → Bool} {l : List α} :
    ∀ x ∈ l.takeWhile p, p x = true :=
  List.all_eq_true.mp List.all_takeWhile

/-! ### Markers -/

/-- `m` spells a marker naming `name`: two opening braces, blanks, an identifier, blanks and two
closing braces. -/
def IsMarker (m : List Char) (name : String) : Prop :=
  ∃ b₁ c tail b₂, (∀ x ∈ b₁, Text.isBlank x = true) ∧ isIdentStart c = true ∧
    (∀ x ∈ tail, isIdentChar x = true) ∧ (∀ x ∈ b₂, Text.isBlank x = true) ∧
    name = String.ofList (c :: tail) ∧ m = '{' :: '{' :: (b₁ ++ c :: (tail ++ (b₂ ++ ['}', '}'])))

/-- No marker starts inside the literal `l`, which the text `rest` follows. -/
def NoMarkerIn (l rest : List Char) : Prop :=
  ∀ j < l.length, ∀ m name, IsMarker m name → ¬ m <+: (l ++ rest).drop j

/-- `markerAt` finds a marker at the start of the text. -/
theorem markerAt_append_of_isMarker {m : List Char} {name : String} (hm : IsMarker m name)
    (rest : List Char) : markerAt (m ++ rest) = some (name, m.length) := by
  obtain ⟨b₁, c, tail, b₂, hb₁, hc, htail, hb₂, rfl, rfl⟩ := hm
  have hcb : Text.isBlank c = false :=
    isBlank_eq_false_of_isIdentChar (isIdentChar_of_isIdentStart hc)
  have hblank₁ : List.takeWhile Text.isBlank (b₁ ++ c :: (tail ++ (b₂ ++ ['}', '}'] ++ rest))) =
      b₁ := by
    rw [List.takeWhile_append_of_pos hb₁, List.takeWhile_cons_of_neg (by simp [hcb]),
      List.append_nil]
  have hname : List.takeWhile isIdentChar (tail ++ (b₂ ++ ['}', '}'] ++ rest)) = tail := by
    rw [List.takeWhile_append_of_pos htail]
    cases b₂ with
    | nil => simp [isIdentChar]
    | cons x xs =>
      have hx : Text.isBlank x = true := hb₂ x (by simp)
      have hxi : isIdentChar x = false := by
        cases hi : isIdentChar x
        · rfl
        · simp [isBlank_eq_false_of_isIdentChar hi] at hx
      simp [hxi]
  have hblank₂ : List.takeWhile Text.isBlank (b₂ ++ ['}', '}'] ++ rest) = b₂ := by
    rw [List.append_assoc, List.takeWhile_append_of_pos hb₂]
    simp [Text.isBlank]
  simp only [List.cons_append, List.append_assoc] at hblank₁ hname hblank₂ ⊢
  simp only [markerAt, hblank₁, List.drop_left', hc, if_true, hname, List.drop_left', hblank₂]
  simp only [List.length_append, List.length_cons, List.length_nil, Option.some.injEq,
    Prod.mk.injEq, true_and]
  omega

/-- What `markerAt` finds is a marker at the start of the text, of the length it reports. -/
theorem isMarker_of_markerAt {cs : List Char} {name : String} {len : Nat}
    (h : markerAt cs = some (name, len)) :
    ∃ m rest, IsMarker m name ∧ cs = m ++ rest ∧ m.length = len := by
  unfold markerAt at h
  split at h
  · next rest =>
    dsimp only at h
    split at h
    · next c more hdrop =>
      split at h
      · next hc =>
        split at h
        · next rest' hdrop₂ =>
          simp only [Option.some.injEq, Prod.mk.injEq] at h
          obtain ⟨rfl, rfl⟩ := h
          generalize hb₁ : List.takeWhile Text.isBlank rest = b₁ at hdrop
          generalize htail : List.takeWhile isIdentChar more = tail at hdrop₂
          generalize hafter : List.drop tail.length more = after at hdrop₂
          generalize hb₂ : List.takeWhile Text.isBlank after = b₂ at hdrop₂
          -- the scanned text is the two blank runs, the identifier and the closing braces
          have hrest : rest = b₁ ++ c :: more := by
            rw [← hdrop, ← hb₁, takeWhile_append_drop]
          have hmore : more = tail ++ after := by
            rw [← hafter, ← htail, takeWhile_append_drop]
          have hafter' : after = b₂ ++ '}' :: '}' :: rest' := by
            rw [← hdrop₂, ← hb₂, takeWhile_append_drop]
          refine ⟨'{' :: '{' :: (b₁ ++ c :: (tail ++ (b₂ ++ ['}', '}']))), rest',
            ⟨b₁, c, tail, b₂, ?_, hc, ?_, ?_, rfl, rfl⟩, ?_, ?_⟩
          · rw [← hb₁]; exact all_of_mem_takeWhile
          · rw [← htail]; exact all_of_mem_takeWhile
          · rw [← hb₂]; exact all_of_mem_takeWhile
          · simp [hrest, hmore, hafter']
          · simp only [List.length_cons, List.length_append, List.length_nil]
            omega
        · simp at h
      · simp at h
    · simp at h
  · simp at h

/-- `markerAt` finds nothing exactly when no marker starts the text. -/
theorem markerAt_eq_none_iff {cs : List Char} :
    markerAt cs = none ↔ ∀ m name, IsMarker m name → ¬ m <+: cs := by
  constructor
  · rintro hnone m name hm ⟨rest, rfl⟩
    simp [markerAt_append_of_isMarker hm] at hnone
  · intro hno
    cases hat : markerAt cs with
    | none => rfl
    | some r =>
      obtain ⟨m, rest, hm, rfl, -⟩ := isMarker_of_markerAt hat
      exact absurd (List.prefix_append m rest) (hno m _ hm)

namespace NoMarkerIn

variable {c : Char} {l rest : List Char}

/-- No marker starts at the first character of the literal. -/
theorem markerAt_cons (h : NoMarkerIn (c :: l) rest) : markerAt (c :: (l ++ rest)) = none :=
  markerAt_eq_none_iff.mpr (h 0 (by simp))

/-- No marker starts inside what is left of the literal after its first character. -/
theorem of_cons (h : NoMarkerIn (c :: l) rest) : NoMarkerIn l rest := by
  intro j hj
  simpa using h (j + 1) (by simp [hj])

/-- A literal free of markers may take one more character in front when no marker starts
there. -/
theorem cons (h : NoMarkerIn l rest) (hc : markerAt (c :: (l ++ rest)) = none) :
    NoMarkerIn (c :: l) rest := by
  intro j hj
  cases j with
  | zero => simpa using markerAt_eq_none_iff.mp hc
  | succ j => simpa using h j (by simpa using hj)

end NoMarkerIn

/-! ### Cutting text into pieces -/

/-- Passing over the rest of a marker, however long, emits the marker with its source text. -/
theorem cut_skip (lit mark : List Char) (name : String) {xs : List Char} (hxs : xs ≠ [])
    (rest : List Char) :
    cut lit mark xs.length name (xs ++ rest) =
      .marker name (String.ofList (mark.reverse ++ xs)) :: cut [] [] 0 "" rest := by
  induction xs generalizing mark with
  | nil => exact absurd rfl hxs
  | cons x xs ih =>
    cases xs with
    | nil => simp [cut]
    | cons y ys =>
      have hnext := ih (x :: mark) (List.cons_ne_nil y ys)
      simp only [List.reverse_cons, List.append_assoc, List.cons_append, List.nil_append,
        List.length_cons] at hnext ⊢
      rw [cut]
      simpa using hnext

/-- A marker at the start of the text closes the literal before it and becomes one piece. -/
theorem cut_marker (lit : List Char) {m : List Char} {name : String} (hm : IsMarker m name)
    (rest : List Char) :
    cut lit [] 0 "" (m ++ rest) =
      flushText lit ++ .marker name (String.ofList m) :: cut [] [] 0 "" rest := by
  have hat := markerAt_append_of_isMarker hm rest
  obtain ⟨b₁, c, tail, b₂, -, -, -, -, -, rfl⟩ := hm
  generalize hm' : '{' :: (b₁ ++ c :: (tail ++ (b₂ ++ ['}', '}']))) = m' at hat
  have hlong : 1 < m'.length + 1 := by
    rw [← hm']
    simp
  have hne : m' ≠ [] := by
    rw [← hm']
    exact List.cons_ne_nil _ _
  simp only [List.cons_append, List.length_cons] at hat ⊢
  rw [cut]
  simp only [hat, Nat.not_le.mpr hlong, if_false, Nat.add_sub_cancel]
  rw [cut_skip [] ['{'] name hne rest]
  rfl

/-- A literal in which no marker starts is passed over character by character. -/
theorem cut_literal (lit : List Char) {l rest : List Char} (hl : NoMarkerIn l rest) :
    cut lit [] 0 "" (l ++ rest) = cut (l.reverse ++ lit) [] 0 "" rest := by
  induction l generalizing lit with
  | nil => rfl
  | cons c l ih =>
    rw [List.cons_append, cut]
    simp only [hl.markerAt_cons]
    rw [ih (c :: lit) hl.of_cons]
    simp

/-! ### Leftmost cuts -/

/-- A marker of a template, with the name it carries and the literal text that follows it. -/
structure Segment where
  name : String
  marker : List Char
  after : List Char

/-- The text of a list of segments: each marker, then the literal after it. -/
def segmentsText : List Segment → List Char
  | [] => []
  | s :: ss => s.marker ++ (s.after ++ segmentsText ss)

/-- `l₀` followed by the segments is a cut by leftmost matching: each segment's marker is a
marker, and no marker starts inside `l₀` or inside any segment's literal. -/
def LeftmostCut : List Char → List Segment → Prop
  | l₀, [] => NoMarkerIn l₀ []
  | l₀, s :: ss =>
    NoMarkerIn l₀ (segmentsText (s :: ss)) ∧ IsMarker s.marker s.name ∧ LeftmostCut s.after ss

/-- The literal of a cut is free of markers up to the first segment. -/
theorem LeftmostCut.noMarkerIn {l₀ : List Char} {segs : List Segment} (h : LeftmostCut l₀ segs) :
    NoMarkerIn l₀ (segmentsText segs) := by
  cases segs with
  | nil => exact h
  | cons s ss => exact h.1

/-- A leftmost cut stays one when its first literal takes a character in front at which no marker
starts. -/
theorem LeftmostCut.cons {c : Char} {l₀ : List Char} {segs : List Segment}
    (h : LeftmostCut l₀ segs) (hc : markerAt (c :: (l₀ ++ segmentsText segs)) = none) :
    LeftmostCut (c :: l₀) segs := by
  cases segs with
  | nil => exact NoMarkerIn.cons h hc
  | cons s ss => exact ⟨NoMarkerIn.cons h.1 hc, h.2⟩

/-- **Every text has a leftmost cut.** By strong induction on the length: either no marker
starts the text, and its first character joins the first literal of the rest's cut, or one
does, and it becomes the first segment before the cut of what follows it. -/
theorem exists_leftmostCut (cs : List Char) :
    ∃ l₀ segs, LeftmostCut l₀ segs ∧ cs = l₀ ++ segmentsText segs := by
  induction hn : cs.length using Nat.strongRecOn generalizing cs with
  | _ n ih =>
    cases cs with
    | nil => exact ⟨[], [], fun j hj => absurd hj (Nat.not_lt_zero j), rfl⟩
    | cons c cs =>
      cases hat : markerAt (c :: cs) with
      | none =>
        obtain ⟨l₀, segs, hcut, rfl⟩ := ih cs.length (by simp [← hn]) cs rfl
        exact ⟨c :: l₀, segs, hcut.cons hat, rfl⟩
      | some r =>
        obtain ⟨m, rest, hm, hcs, -⟩ := isMarker_of_markerAt hat
        have hpos : 0 < m.length := by
          obtain ⟨b₁, c', tail, b₂, -, -, -, -, -, rfl⟩ := hm
          simp
        have hshort : rest.length < n := by
          rw [← hn, hcs, List.length_append]
          omega
        obtain ⟨l₁, segs, hcut, rfl⟩ := ih rest.length hshort rest rfl
        refine ⟨[], ⟨r.1, m, l₁⟩ :: segs, ⟨fun j hj => absurd hj (Nat.not_lt_zero j), hm, hcut⟩,
          ?_⟩
        simpa [segmentsText] using hcs

/-- The pieces of a literal: none when it is empty. -/
theorem flushText_reverse (l : List Char) :
    flushText l.reverse = if l = [] then [] else [.text (String.ofList l)] := by
  simp [flushText]

/-- The pieces of the segments of a cut, after its first literal: each marker with its source
text, then its literal unless that is empty. -/
def segmentPieces (segs : List Segment) : List Piece :=
  segs.flatMap fun s => .marker s.name (String.ofList s.marker) :: flushText s.after.reverse

/-- **The pieces of a leftmost cut**: its literals, the empty ones left out, and its markers
with their source text, in order. -/
theorem cut_of_leftmostCut {l₀ : List Char} {segs : List Segment} (h : LeftmostCut l₀ segs) :
    cut [] [] 0 "" (l₀ ++ segmentsText segs) = flushText l₀.reverse ++ segmentPieces segs := by
  induction segs generalizing l₀ with
  | nil =>
    rw [cut_literal [] h.noMarkerIn]
    simp [segmentsText, segmentPieces, cut]
  | cons s ss ih =>
    obtain ⟨hno, hm, hrest⟩ := h
    rw [cut_literal [] hno, segmentsText, List.append_nil, cut_marker _ hm, ih hrest]
    simp [segmentPieces]

/-! ### Rendering the pieces of a cut -/

section Render

variable (vars : List (String × String))

/-- A literal is copied as it is, its bytes counted towards the offset. -/
theorem renderPieces_literal (offset : Nat) (l : List Char) (ps : List Piece) :
    renderPieces vars offset (flushText l.reverse ++ ps) =
      (renderPieces vars (offset + (String.ofList l).utf8ByteSize) ps).map
        (String.ofList l ++ ·) := by
  rw [flushText_reverse]
  split
  · next hl =>
    subst hl
    cases h : renderPieces vars offset ps <;> simp [Except.map, h]
  · simp [renderPieces]

/-- With a value for every name, the pieces of a cut render to its literals with each marker
replaced by its value. -/
theorem renderPieces_cut_ok (offset : Nat) (l₀ : List Char) (segs : List Segment)
    (hall : ∀ s ∈ segs, (vars.lookup s.name).isSome) :
    renderPieces vars offset (flushText l₀.reverse ++ segmentPieces segs) =
      .ok (String.ofList l₀ ++ String.join (segs.map fun s =>
        (vars.lookup s.name).getD "" ++ String.ofList s.after)) := by
  induction segs generalizing l₀ offset with
  | nil =>
    have hlit := renderPieces_literal vars offset l₀ []
    rw [List.append_nil] at hlit
    rw [segmentPieces, List.flatMap_nil, List.append_nil, hlit]
    simp [renderPieces, Except.map]
  | cons s ss ih =>
    obtain ⟨v, hv⟩ := Option.isSome_iff_exists.mp (hall s (by simp))
    have hrest := ih (offset + (String.ofList l₀).utf8ByteSize + (String.ofList s.marker).utf8ByteSize)
      s.after (fun s' hs' => hall s' (by simp [hs']))
    simp only [segmentPieces, List.flatMap_cons, List.cons_append] at hrest ⊢
    rw [renderPieces_literal, renderPieces, hv]
    simp [hrest, hv, Except.map, String.append_assoc]

/-- The first name without a value fails the rendering, at the bytes of everything before its
marker. -/
theorem renderPieces_cut_error (offset : Nat) (l₀ : List Char) (pre : List Segment) (s : Segment)
    (post : List Segment) (hpre : ∀ p ∈ pre, (vars.lookup p.name).isSome)
    (hs : vars.lookup s.name = none) :
    renderPieces vars offset (flushText l₀.reverse ++ segmentPieces (pre ++ s :: post)) =
      .error ⟨s.name, offset + (String.ofList (l₀ ++ segmentsText pre)).utf8ByteSize⟩ := by
  induction pre generalizing l₀ offset with
  | nil =>
    rw [renderPieces_literal]
    simp [segmentPieces, renderPieces, hs, segmentsText, Except.map]
  | cons p pre ih =>
    obtain ⟨v, hv⟩ := Option.isSome_iff_exists.mp (hpre p (by simp))
    have hrest := ih (offset + (String.ofList l₀).utf8ByteSize + (String.ofList p.marker).utf8ByteSize)
      p.after (fun p' hp' => hpre p' (by simp [hp']))
    simp only [segmentPieces, List.cons_append, List.flatMap_cons] at hrest ⊢
    rw [renderPieces_literal, renderPieces, hv, hrest]
    simp only [segmentsText, String.ofList_append, String.utf8ByteSize_append, Except.map]
    congr 2
    omega

end Render

/-! ### Rendering a template -/

/-- **Rendering substitutes the leftmost markers.** Every template has a leftmost cut
`l₀ m₁ l₁ … mₖ lₖ`, and on any such cut: when every marker's name has a value, rendering gives
`l₀ v₁ l₁ … vₖ lₖ`, each `vᵢ` the value of `mᵢ`'s name; otherwise it fails on the first marker
whose name has no value, with the byte length of `l₀ m₁ … lᵢ₋₁`, where that marker starts. The
cut depends on the template alone, so values are never scanned for markers; and a template in
which no marker starts renders to itself. -/
theorem render_substitutes_leftmost_markers (t : String) (vars : List (String × String)) :
    (∃ l₀ segs, LeftmostCut l₀ segs ∧ t.toList = l₀ ++ segmentsText segs) ∧
    (∀ l₀ segs, LeftmostCut l₀ segs → t.toList = l₀ ++ segmentsText segs →
      ((∀ s ∈ segs, (vars.lookup s.name).isSome) →
        render t vars = .ok (String.ofList l₀ ++ String.join (segs.map fun s =>
          (vars.lookup s.name).getD "" ++ String.ofList s.after))) ∧
      (∀ pre s post, segs = pre ++ s :: post → (∀ p ∈ pre, (vars.lookup p.name).isSome) →
        vars.lookup s.name = none →
        render t vars = .error ⟨s.name, (String.ofList (l₀ ++ segmentsText pre)).utf8ByteSize⟩)) ∧
    (NoMarkerIn t.toList [] → render t vars = .ok t) := by
  have hpieces : ∀ l₀ segs, LeftmostCut l₀ segs → t.toList = l₀ ++ segmentsText segs →
      pieces t = flushText l₀.reverse ++ segmentPieces segs := by
    intro l₀ segs hcut ht
    rw [pieces, ht, cut_of_leftmostCut hcut]
  refine ⟨exists_leftmostCut t.toList, fun l₀ segs hcut ht => ⟨fun hall => ?_, ?_⟩, fun hno => ?_⟩
  · rw [render, hpieces l₀ segs hcut ht, renderPieces_cut_ok vars 0 l₀ segs hall]
  · rintro pre s post rfl hpre hs
    rw [render, hpieces l₀ _ hcut ht, renderPieces_cut_error vars 0 l₀ pre s post hpre hs,
      Nat.zero_add]
  · have hcut : LeftmostCut t.toList [] := hno
    rw [render, hpieces t.toList [] hcut (by simp [segmentsText]),
      renderPieces_cut_ok vars 0 t.toList [] (by simp)]
    simp

/-- Values that spell markers are copied as they are. -/
example : render "{{a}} {{ b }}" [("a", "{{b}}"), ("b", "{{a}}")] = .ok "{{b}} {{a}}" := by
  rfl

end LiveSession.Scaffold
