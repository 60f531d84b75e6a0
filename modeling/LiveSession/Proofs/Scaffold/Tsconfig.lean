import Mathlib.Logic.Function.Iterate
import LiveSession.Scaffold.Patch
import LiveSession.Proofs.Files.Walk
import LiveSession.Proofs.Json5.ReadPretty
/-!
# Completing the compiler configuration's include list

`patchTsconfig` reads `tsconfig.json` as JSON5 and makes its include list hold the scratch
directory's pattern and the catch-all pattern. It writes the file only when the document is an
object whose include list is absent or lacks one of the two (`NeedsIncludes`), and then as the
pretty text of the document with that list completed and nothing else changed (`withIncludes`,
`completedText`).

* `includeBoth_of_needs` and `needs_of_includeBoth`: the document changes exactly when it needs
  the entries;
* `patchTsconfig_of_needed` and `patchTsconfig_of_not_needed`: the one write, and every other
  case leaving the tree as it is;
* `patchTsconfig_after_write`: the next patch reads the written text back and writes nothing,
  and finds both entries whenever the JSON5 reader accepts that text (`includeBoth_of_agrees`,
  through `Json5.read_pretty`);
* `patchTsconfig_again` and `patchTsconfig_iterate`: so patching again leaves the tree as the
  first patch left it.

The reader need not accept the written text: the pretty printer writes U+2028 and U+2029 in a
string as they are, and a JSON5 string may not hold them. The second patch then warns and writes
nothing.
-/

namespace LiveSession.Scaffold

open LiveSession.Files LiveSession.Json

/-! ### Include entries -/

/-- Whether an include entry is the text `w`. -/
def isEntry (w : String) : Value → Bool
  | .str s => s == w
  | _ => false

theorem isEntry_iff (w : String) (e : Value) : isEntry w e = true ↔ e = .str w := by
  cases e <;> simp [isEntry]

/-- A test on entries that holds of the text `w` alone finds it exactly when it is listed. -/
theorem any_iff_mem {f : Value → Bool} {w : String} (hf : ∀ e, f e = true ↔ e = .str w)
    (es : List Value) : es.any f = true ↔ Value.str w ∈ es := by
  simp [List.any_eq_true, hf]

instance (w : String) (es : List Value) : Decidable (Value.str w ∈ es) :=
  decidable_of_iff _ (any_iff_mem (isEntry_iff w) es)

/-- The wanted entries an include list lacks, in order: the scratch directory's pattern, then
the catch-all one. -/
def missingIncludes (es : List Value) : List String :=
  [scratchInclude, catchAllInclude].filter fun w => Value.str w ∉ es

/-- An include list with the wanted entries it lacks appended. -/
def completeIncludes (es : List Value) : List Value := es ++ (missingIncludes es).map .str

theorem str_mem_completeIncludes (es : List Value) {w : String}
    (hw : w ∈ [scratchInclude, catchAllInclude]) : Value.str w ∈ completeIncludes es := by
  by_cases h : Value.str w ∈ es
  · exact List.mem_append_left _ h
  · have hmiss : w ∈ missingIncludes es := List.mem_filter.mpr ⟨hw, by simpa using h⟩
    exact List.mem_append_right _ (List.mem_map_of_mem hmiss)

theorem missingIncludes_eq_nil {es : List Value} (hs : Value.str scratchInclude ∈ es)
    (hc : Value.str catchAllInclude ∈ es) : missingIncludes es = [] := by
  simp [missingIncludes, hs, hc]

/-- Members whose include list the patch completes: it is absent, or an array lacking a wanted
entry. -/
def NeedsIncludes (ms : List (String × Value)) : Prop :=
  ms.lookup "include" = none ∨
    ∃ es, ms.lookup "include" = some (.arr es) ∧ missingIncludes es ≠ []

/-- The members with the include list completed: in its place when present, every other member
as it was; as the last member when absent. -/
def withIncludes (ms : List (String × Value)) : List (String × Value) :=
  match ms.lookup "include" with
  | some (.arr es) =>
    ms.map fun m => if m.1 = "include" then ("include", .arr (completeIncludes es)) else m
  | _ => ms ++ [("include", .arr (completeIncludes []))]

/-- The text written for the completed members: their pretty object and a line break. -/
def completedText (ms : List (String × Value)) : String :=
  (Value.obj (withIncludes ms)).pretty ++ "\n"

section Members

variable {ms : List (String × Value)} {k : String} {v : Value}

theorem withIncludes_of_arr {es : List Value} (h : ms.lookup "include" = some (.arr es)) :
    withIncludes ms =
      ms.map fun m => if m.1 = "include" then ("include", .arr (completeIncludes es)) else m := by
  rw [withIncludes, h]

theorem withIncludes_of_none (h : ms.lookup "include" = none) :
    withIncludes ms = ms ++ [("include", .arr (completeIncludes []))] := by
  rw [withIncludes, h]

theorem mem_keys_of_lookup (h : ms.lookup k = some v) : k ∈ ms.map Prod.fst := by
  obtain ⟨l₁, l₂, rfl, -⟩ := List.lookup_eq_some_iff.mp h
  simp

theorem not_mem_keys_of_lookup (h : ms.lookup k = none) : k ∉ ms.map Prod.fst := by
  intro hk
  obtain ⟨p, hp, rfl⟩ := List.mem_map.mp hk
  simpa using List.lookup_eq_none_iff.mp h p hp

/-- Writing a key that the first members lack writes it among the rest. -/
theorem setMember_append (h : k ∉ ms.map Prod.fst) (ns : List (String × Value)) :
    setMember k v (ms ++ ns) = ms ++ setMember k v ns := by
  induction ms with
  | nil => rfl
  | cons m ms ih =>
    obtain ⟨k', w⟩ := m
    simp only [List.map_cons, List.mem_cons, not_or] at h
    have hne : (k' == k) = false := by simpa using Ne.symm h.1
    simp [setMember, hne, ih h.2]

/-- Under distinct keys, writing a present key replaces its member in place. -/
theorem setMember_eq_map : ∀ {ms : List (String × Value)}, (ms.map Prod.fst).Nodup →
    k ∈ ms.map Prod.fst → setMember k v ms = ms.map fun m => if m.1 = k then (k, v) else m
  | [], _, h => absurd h List.not_mem_nil
  | (k', w) :: ms, hnd, h => by
    simp only [List.map_cons, List.nodup_cons, List.mem_cons] at hnd h
    by_cases hkk : k' = k
    · -- the first member is the key's, and no later one is
      subst hkk
      have hrest : (ms.map fun m => if m.1 = k' then (k', v) else m) = ms := by
        conv => rhs; rw [← List.map_id ms]
        exact List.map_congr_left fun m hm =>
          if_neg fun hm' => hnd.1 (List.mem_map.mpr ⟨m, hm, hm'⟩)
      simp [setMember, hrest]
    · have hne : (k' == k) = false := by simpa using hkk
      simp [setMember, hne, hkk, setMember_eq_map hnd.2 (h.resolve_left (Ne.symm hkk))]

/-- Replacing the member of a present key makes the key look up the new value. -/
theorem lookup_map_replace_self : ∀ {ms : List (String × Value)}, k ∈ ms.map Prod.fst →
    (ms.map fun m => if m.1 = k then (k, v) else m).lookup k = some v
  | [], h => absurd h List.not_mem_nil
  | (k', w) :: ms, h => by
    by_cases hkk : k' = k
    · simp [hkk]
    · have hk : k ∈ ms.map Prod.fst := by simpa [Ne.symm hkk] using h
      simp only [List.map_cons, if_neg hkk, Tree.lookup_cons_ite, if_neg (Ne.symm hkk)]
      exact lookup_map_replace_self hk

theorem keys_map_replace (ms : List (String × Value)) :
    (ms.map fun m => if m.1 = k then (k, v) else m).map Prod.fst = ms.map Prod.fst := by
  rw [List.map_map]
  exact List.map_congr_left fun m _ => by by_cases h : m.1 = k <;> simp [h]

end Members

/-! ### The document's patch -/

/-- Appending the missing entries one at a time appends those of the wanted ones that are not
listed, in their order; the wanted entries are distinct, so one appended hides no later one. -/
theorem appendMissing_eq : ∀ (es : List Value) {ws : List String}, ws.Nodup →
    appendMissing es ws =
      (es ++ (ws.filter fun w => Value.str w ∉ es).map .str, ws.filter fun w => Value.str w ∉ es)
  | es, [], _ => by simp [appendMissing]
  | es, w :: ws, hnd => by
    obtain ⟨hw, hnd⟩ := List.nodup_cons.mp hnd
    rw [appendMissing]
    simp only
    split_ifs with hp
    · -- `w` is listed: nothing is appended for it
      have hmem := (@any_iff_mem _ w (fun e => by cases e <;> simp) es).mp hp
      rw [appendMissing_eq es hnd]
      simp [hmem]
    · -- `w` is appended, and the rest are tested against the longer list
      have hmem : Value.str w ∉ es := fun h =>
        hp ((@any_iff_mem _ w (fun e => by cases e <;> simp) es).mpr h)
      have hfilter : (ws.filter fun w' => Value.str w' ∉ es ++ [.str w]) =
          ws.filter fun w' => Value.str w' ∉ es := by
        refine List.filter_congr fun w' hw' => ?_
        have hne : w' ≠ w := fun h => hw (h ▸ hw')
        simp [hne]
      rw [appendMissing_eq (es ++ [Value.str w]) hnd, hfilter]
      simp [hmem]

theorem wanted_nodup : [scratchInclude, catchAllInclude].Nodup := by
  simp [scratchInclude, catchAllInclude, scratchDirName]

/-- The patch of a document whose include list is the array `es`: none when nothing is missing,
otherwise the list completed in its place. -/
theorem includeBoth_of_arr {ms : List (String × Value)} {es : List Value}
    (h : ms.lookup "include" = some (.arr es)) :
    includeBoth (.obj ms) = if missingIncludes es = [] then .ok none
      else .ok (some (.obj (setMember "include" (.arr (completeIncludes es)) ms))) := by
  simp [includeBoth, h, appendMissing_eq es wanted_nodup, missingIncludes, completeIncludes]

/-- The patch of a document without an include list adds the complete list as its last
member. -/
theorem includeBoth_of_none {ms : List (String × Value)} (h : ms.lookup "include" = none) :
    includeBoth (.obj ms) =
      .ok (some (.obj (ms ++ [("include", .arr (completeIncludes []))]))) := by
  have hl : (ms ++ [("include", Value.arr [])]).lookup "include" = some (.arr []) := by
    simp [List.lookup_append, h]
  simp only [includeBoth, h, Option.isSome_none, Bool.false_eq_true, if_false, hl,
    appendMissing_eq [] wanted_nodup, setMember_append (not_mem_keys_of_lookup h)]
  simp [setMember, completeIncludes, missingIncludes]

/-- The patch changes a document only when it is an object that needs the entries. -/
theorem needs_of_includeBoth {doc doc' : Value} (h : includeBoth doc = .ok (some doc')) :
    ∃ ms, doc = .obj ms ∧ NeedsIncludes ms := by
  cases doc
  case obj ms =>
    refine ⟨ms, rfl, ?_⟩
    cases hl : ms.lookup "include" with
    | none => exact .inl hl
    | some x =>
      cases x
      case arr es =>
        refine .inr ⟨es, hl, fun hm => ?_⟩
        rw [includeBoth_of_arr hl, if_pos hm] at h
        cases h
      -- an include member that is no array is refused
      all_goals simp [includeBoth, hl] at h
  -- so is a document that is no object
  all_goals simp [includeBoth] at h

/-- A document that needs the entries changes into its completed members. -/
theorem includeBoth_of_needs {ms : List (String × Value)} (hnd : (ms.map Prod.fst).Nodup)
    (hn : NeedsIncludes ms) : includeBoth (.obj ms) = .ok (some (.obj (withIncludes ms))) := by
  rcases hn with hl | ⟨es, hl, hm⟩
  · rw [includeBoth_of_none hl, withIncludes_of_none hl]
  · rw [includeBoth_of_arr hl, if_neg hm, withIncludes_of_arr hl,
      setMember_eq_map hnd (mem_keys_of_lookup hl)]

theorem lookup_withIncludes {ms : List (String × Value)} (hn : NeedsIncludes ms) :
    ∃ es, (withIncludes ms).lookup "include" = some (.arr (completeIncludes es)) := by
  rcases hn with hl | ⟨es, hl, -⟩
  · exact ⟨[], by simp [withIncludes_of_none hl, List.lookup_append, hl]⟩
  · refine ⟨es, ?_⟩
    rw [withIncludes_of_arr hl]
    exact lookup_map_replace_self (mem_keys_of_lookup hl)

theorem nodup_withIncludes {ms : List (String × Value)} (hnd : (ms.map Prod.fst).Nodup)
    (hn : NeedsIncludes ms) : ((withIncludes ms).map Prod.fst).Nodup := by
  rcases hn with hl | ⟨es, hl, -⟩
  · rw [withIncludes_of_none hl, List.map_append, List.nodup_append]
    refine ⟨hnd, by simp, fun a ha b hb hab => ?_⟩
    rw [List.map_singleton, List.mem_singleton] at hb
    rw [hab, hb] at ha
    exact not_mem_keys_of_lookup hl ha
  · rw [withIncludes_of_arr hl, keys_map_replace]
    exact hnd

/-- What the reader takes back from the pretty text of the completed members holds both entries,
so the patch leaves it as it is. -/
theorem includeBoth_of_agrees {ms : List (String × Value)} {w : Value}
    (hnd : (ms.map Prod.fst).Nodup) (hn : NeedsIncludes ms)
    (hw : Json5.Agrees (.obj (withIncludes ms)) w) : includeBoth w = .ok none := by
  obtain ⟨ns, rfl, hns⟩ := hw
  -- the members read back carry the printed keys, which are distinct
  have hnodup : (ns.map Prod.fst).Nodup := hns.keys ▸ nodup_withIncludes hnd hn
  rw [Json5.membersOf_of_nodup hnodup]
  obtain ⟨es, hl⟩ := lookup_withIncludes hn
  obtain ⟨y, hy, ys, rfl, hys⟩ := hns.lookup hl
  have hs := hys.mem_str (@str_mem_completeIncludes es scratchInclude (by simp))
  have hc := hys.mem_str (@str_mem_completeIncludes es catchAllInclude (by simp))
  rw [includeBoth_of_arr hy, if_pos (missingIncludes_eq_nil hs hc)]

/-! ### Patching the file -/

section Patch

variable {t : Tree} {path raw : String} {doc : Value}

theorem patchTsconfig_of_not_file (h : t.isFile path = false) :
    patchTsconfig t path = (t, .ok .skipped) := by
  simp [patchTsconfig, h]

theorem patchTsconfig_of_read_error {e : IoError} (hf : t.isFile path = true)
    (hr : t.readText path = .error e) :
    patchTsconfig t path = (t, .error ⟨path, "read failed: " ++ e⟩) := by
  simp [patchTsconfig, hf, hr]

theorem patchTsconfig_of_unparsed (hf : t.isFile path = true) (hr : t.readText path = .ok raw)
    (hp : Json5.read raw = none) :
    patchTsconfig t path = (t, .error ⟨path, "Failed to parse tsconfig.json: <json5 error>"⟩) := by
  simp [patchTsconfig, hf, hr, hp]

theorem patchTsconfig_of_refused {m : String} (hf : t.isFile path = true)
    (hr : t.readText path = .ok raw) (hp : Json5.read raw = some doc)
    (hi : includeBoth doc = .error m) : patchTsconfig t path = (t, .error ⟨path, m⟩) := by
  simp [patchTsconfig, hf, hr, hp, hi]

theorem patchTsconfig_of_complete (hf : t.isFile path = true) (hr : t.readText path = .ok raw)
    (hp : Json5.read raw = some doc) (hi : includeBoth doc = .ok none) :
    patchTsconfig t path = (t, .ok .alreadyPresent) := by
  simp [patchTsconfig, hf, hr, hp, hi]

theorem patchTsconfig_of_written {doc' : Value} {t' : Tree} (hf : t.isFile path = true)
    (hr : t.readText path = .ok raw) (hp : Json5.read raw = some doc)
    (hi : includeBoth doc = .ok (some doc'))
    (hw : t.writeText path (doc'.pretty ++ "\n") = .ok t') :
    patchTsconfig t path = (t', .ok .applied) := by
  simp [patchTsconfig, hf, hr, hp, hi, hw]

/-- A document that needs the entries is written back completed, at the file's key. -/
theorem patchTsconfig_of_needed {ms : List (String × Value)} (hf : t.isFile path = true)
    (hr : t.readText path = .ok raw) (hp : Json5.read raw = some (.obj ms))
    (hn : NeedsIncludes ms) :
    ∃ k, t.locate path = some k ∧
      t.writeText path (completedText ms) =
        .ok (t.setEntry k (.file (completedText ms).toUTF8.toList)) ∧
      patchTsconfig t path =
        (t.setEntry k (.file (completedText ms).toUTF8.toList), .ok .applied) := by
  obtain ⟨k, hk, hw⟩ := Tree.writeText_of_isFile hf (completedText ms)
  have hi := includeBoth_of_needs (Json5.read_obj_nodup hp) hn
  exact ⟨k, hk, hw, patchTsconfig_of_written hf hr hp hi hw⟩

/-- Every case but a document that needs the entries leaves the tree as it is and reports no
write. -/
theorem patchTsconfig_of_not_needed
    (h : ¬ ∃ raw ms, t.isFile path = true ∧ t.readText path = .ok raw ∧
      Json5.read raw = some (.obj ms) ∧ NeedsIncludes ms) :
    (patchTsconfig t path).1 = t ∧ (patchTsconfig t path).2 ≠ .ok .applied := by
  cases hf : t.isFile path with
  | false => simp [patchTsconfig_of_not_file hf]
  | true =>
    cases hr : t.readText path with
    | error e => simp [patchTsconfig_of_read_error hf hr]
    | ok raw =>
      cases hp : Json5.read raw with
      | none => simp [patchTsconfig_of_unparsed hf hr hp]
      | some doc =>
        cases hi : includeBoth doc with
        | error m => simp [patchTsconfig_of_refused hf hr hp hi]
        | ok res =>
          cases res with
          | none => simp [patchTsconfig_of_complete hf hr hp hi]
          | some doc' =>
            -- a changed document needs the entries, which the hypothesis rules out
            obtain ⟨ms, rfl, hn⟩ := needs_of_includeBoth hi
            exact absurd ⟨raw, ms, hf, hr, hp, hn⟩ h

/-- After the completed document is written, the next patch reads it back and writes nothing;
it finds both entries when the reader accepts the text. -/
theorem patchTsconfig_after_write {ms : List (String × Value)} {t' : Tree}
    (hnd : (ms.map Prod.fst).Nodup) (hn : NeedsIncludes ms)
    (hw : t.writeText path (completedText ms) = .ok t') :
    (patchTsconfig t' path).1 = t' ∧
      ((Json5.read (completedText ms)).isSome →
        (patchTsconfig t' path).2 = .ok .alreadyPresent) := by
  have hr := Tree.readText_writeText hw
  have hf := Tree.isFile_of_readText hr
  cases hp : Json5.read (completedText ms) with
  | none => simp [patchTsconfig_of_unparsed hf hr hp]
  | some w =>
    have hi := includeBoth_of_agrees hnd hn (Json5.read_pretty hp)
    simp [patchTsconfig_of_complete hf hr hp hi]

/-- Patching again leaves the tree as the first patch left it. -/
theorem patchTsconfig_again (t : Tree) (path : String) :
    (patchTsconfig (patchTsconfig t path).1 path).1 = (patchTsconfig t path).1 := by
  by_cases hneeds : ∃ raw ms, t.isFile path = true ∧ t.readText path = .ok raw ∧
      Json5.read raw = some (.obj ms) ∧ NeedsIncludes ms
  · obtain ⟨raw, ms, hf, hr, hp, hn⟩ := hneeds
    obtain ⟨k, -, hw, hpatch⟩ := patchTsconfig_of_needed hf hr hp hn
    rw [hpatch]
    exact (patchTsconfig_after_write (Json5.read_obj_nodup hp) hn hw).1
  · have hsame := (patchTsconfig_of_not_needed hneeds).1
    rw [hsame, hsame]

theorem patchTsconfig_iterate (t : Tree) (path : String) (n : Nat) :
    (fun u => (patchTsconfig u path).1)^[n + 1] t = (patchTsconfig t path).1 := by
  induction n with
  | zero => rfl
  | succ n ih =>
    rw [Function.iterate_succ_apply', ih]
    exact patchTsconfig_again t path

end Patch

/-- Patching `tsconfig.json` writes a document only when it is an object that needs the entries,
and then as the pretty text of its members with the include list completed and every other
member kept, at the file's key. Every other case leaves the tree as it is and reports no write.
After a write, the next patch finds both entries when the reader accepts the written text, and
any number of patches leave the tree as one left it. -/
theorem patchTsconfig_completes_includes (t : Tree) (path : String) :
    (∀ raw ms, t.isFile path = true → t.readText path = .ok raw →
        Json5.read raw = some (.obj ms) → NeedsIncludes ms →
      ∃ k, t.locate path = some k ∧
        patchTsconfig t path =
          (t.setEntry k (.file (completedText ms).toUTF8.toList), .ok .applied) ∧
        ((Json5.read (completedText ms)).isSome →
          (patchTsconfig (patchTsconfig t path).1 path).2 = .ok .alreadyPresent)) ∧
    ((¬ ∃ raw ms, t.isFile path = true ∧ t.readText path = .ok raw ∧
        Json5.read raw = some (.obj ms) ∧ NeedsIncludes ms) →
      (patchTsconfig t path).1 = t ∧ (patchTsconfig t path).2 ≠ .ok .applied) ∧
    ∀ n, (fun u => (patchTsconfig u path).1)^[n + 1] t = (patchTsconfig t path).1 := by
  refine ⟨fun raw ms hf hr hp hn => ?_, patchTsconfig_of_not_needed,
    patchTsconfig_iterate t path⟩
  obtain ⟨k, hk, hw, hpatch⟩ := patchTsconfig_of_needed hf hr hp hn
  refine ⟨k, hk, hpatch, fun haccepted => ?_⟩
  rw [hpatch]
  exact (patchTsconfig_after_write (Json5.read_obj_nodup hp) hn hw).2 haccepted

end LiveSession.Scaffold
