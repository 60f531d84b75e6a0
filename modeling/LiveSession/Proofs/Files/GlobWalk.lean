import LiveSession.Files.Glob
import LiveSession.Proofs.Files.Walk
import LiveSession.Proofs.Scaffold.RelativeImport
/-!
# Glob walks behind a literal directory

A glob pattern is a directory's path followed by a pattern of its own. When the directory's path
holds no wildcard, the walk reads it part by part as a path (`Tree.literalWalk`), and what the
walk names below it depends only on where that path leads. This module says so:

* text without wildcards compiles to its characters, and puts nothing in the way of the pattern
  after it (`Glob.compile_literal`, `Glob.compile_join`); `*` followed by such text matches the
  names that end with it (`Glob.accepts_run_literal`);
* the parts of the joined pattern are the directory's, but for a trailing empty one, then the
  pattern's (`Glob.parts_join`);
* a walk by parts without wildcards goes where a path walk by the same parts goes, showing the
  names and `..` it passes (`Tree.literalWalk_walk`, `Tree.literalWalk_of_walk`);
* `**` followed by one more part names the entries below a directory through directories whose
  name the part matches (`Tree.globFrom_dirs`);
* in a tree of well-formed keys, those are exactly the entries some names below it that a walk
  reaches, each once (`Tree.mem_namesBelow`, `Tree.nodup_namesBelow`).
-/

namespace LiveSession.Files

open LiveSession.Path

instance : DecidablePred IsName := fun s =>
  decidable_of_iff (s != "" && s != "." && !s.toList.contains '/') (by simp [IsName, and_assoc])

/-- Names joined with `/` are the path of their parts. -/
theorem intercalate_parts (p : String) : "/".intercalate (Path.parts p) = p := by
  apply String.toList_inj.mp
  have hsep : "/".toList = ['/'] := rfl
  rw [String.toList_intercalate, hsep, Path.parts, List.map_map]
  have hid : (String.toList ∘ String.ofList) = id := funext fun l => String.toList_ofList
  rw [hid, List.map_id, List.intercalate_splitOn]

namespace Glob

/-! ### Patterns without wildcards -/

/-- Text without wildcard or set characters: each of its characters stands for itself. -/
def Plain (cs : List Char) : Prop := ∀ c ∈ cs, c ≠ '?' ∧ c ≠ '*' ∧ c ≠ '['

instance : DecidablePred Plain := fun cs =>
  decidable_of_iff (cs.all fun c => c != '?' && c != '*' && c != '[') (by simp [Plain, and_assoc])

/-- The tokens of a text, each character for itself. -/
def literal (s : String) : List Token := s.toList.map .char

theorem compileFrom_plain_cons {b : Bool} {c : Char} {cs : List Char}
    (hc : c ≠ '?' ∧ c ≠ '*' ∧ c ≠ '[') :
    compileFrom b (c :: cs) = (compileFrom (c == '/') cs).map (.char c :: ·) := by
  obtain ⟨h₁, h₂, h₃⟩ := hc
  rw [compileFrom.eq_def]
  split <;> simp_all

/-- Text without wildcards compiles to its characters, followed by what comes after it; there
`**` may stand when the text ends with a separator, or is empty where `**` may stand. -/
theorem compileFrom_plain_append {cs : List Char} (h : Plain cs) (b : Bool) (rest : List Char) :
    compileFrom b (cs ++ rest) =
      (compileFrom ((cs.getLast?.map (· == '/')).getD b) rest).map (cs.map .char ++ ·) := by
  induction cs generalizing b with
  | nil => simp
  | cons c cs ih =>
    rw [List.cons_append, compileFrom_plain_cons (h c List.mem_cons_self),
      ih (fun d hd => h d (List.mem_cons_of_mem c hd))]
    have hsep : (cs.getLast?.map (· == '/')).getD (c == '/') =
        ((c :: cs).getLast?.map (· == '/')).getD b := by
      rw [List.getLast?_cons]
      cases cs.getLast? <;> rfl
    rw [hsep, Option.map_map]
    rfl

theorem compile_literal {s : String} (h : Plain s.toList) : compile s = some (literal s) := by
  simpa [compile, literal, compileFrom] using compileFrom_plain_append h true []

/-- `*` followed by text without wildcards compiles to a run and the text's characters. -/
theorem compileFrom_run {b : Bool} {cs : List Char} (h : Plain cs) :
    compileFrom b ('*' :: cs) = some (.run :: cs.map .char) := by
  have htail : compileFrom false cs = some (cs.map .char) := by
    simpa [compileFrom] using compileFrom_plain_append h false []
  cases cs with
  | nil => cases b <;> rfl
  | cons c cs =>
    have hc : c ≠ '*' := (h c List.mem_cons_self).2.1
    have hstar : compileFrom b ('*' :: c :: cs) = (compileFrom false (c :: cs)).map (.run :: ·) := by
      cases b <;> simp [compileFrom, hc]
    rw [hstar, htail]
    rfl

theorem mapM_compile_literal {ss : List String} (h : ∀ s ∈ ss, Plain s.toList) :
    ss.mapM compile = some (ss.map literal) := by
  induction ss with
  | nil => rfl
  | cons s ss ih =>
    rw [List.mapM_cons, compile_literal (h s List.mem_cons_self),
      ih fun s' hs' => h s' (List.mem_cons_of_mem s hs')]
    rfl

theorem literalText_literal (s : String) : literalText (literal s) = some s := by
  have hchars : ∀ cs : List Char, (cs.map Token.char).mapM Token.char? = some cs := by
    intro cs
    induction cs with
    | nil => rfl
    | cons c cs ih => simp [Token.char?, ih]
  simp [literalText, literal, hchars]

/-! ### Matching names -/

/-- Characters match exactly themselves. -/
theorem accepts_literal : ∀ (cs l : List Char), accepts (cs.map .char) l = (l == cs)
  | [], l => by cases l <;> simp [accepts]
  | c :: cs, [] => by simp [accepts]
  | c :: cs, d :: l => by simp [accepts, accepts_literal cs l]

/-- `*` followed by characters matches the names that end with them. -/
theorem accepts_run_literal (cs l : List Char) :
    accepts (.run :: cs.map .char) l = decide (cs <:+ l) := by
  rw [accepts, Bool.eq_iff_iff, List.any_eq_true, decide_eq_true_iff]
  simp only [List.mem_range, accepts_literal, beq_iff_eq]
  constructor
  · rintro ⟨k, -, hk⟩
    exact hk ▸ List.drop_suffix k l
  · intro h
    exact ⟨l.length - cs.length, by omega, (List.suffix_iff_eq_drop.mp h).symm⟩

/-- `*` followed by text without wildcards matches the names that end with the text. -/
theorem accepts_run_endsWith (sfx name : String) :
    accepts (.run :: literal sfx) name.toList = name.endsWith sfx := by
  rw [literal, accepts_run_literal, Bool.eq_iff_iff, decide_eq_true_iff, Scaffold.endsWith_iff]

/-! ### A pattern after a directory -/

section Join

variable {root pat : String}

/-- The parts of a path without wildcards have none. -/
theorem plain_of_mem_walkParts {p s : String} (hp : Plain p.toList) (hs : s ∈ walkParts p) :
    Plain s.toList := by
  have hs' : s ∈ Path.parts p := by
    unfold walkParts at hs
    split at hs
    · exact List.mem_of_mem_drop hs
    · exact hs
  obtain ⟨l, hl, rfl⟩ := List.mem_map.mp hs'
  intro c hc
  rw [String.toList_ofList] at hc
  exact hp c (mem_and_ne_of_mem_splitOn hl hc).1

/-- Putting a directory without wildcards in front of a relative pattern leaves the pattern
compiling as before: `**` may stand right after the directory. -/
theorem compile_join (hroot : Plain root.toList) (hpat : isAbsolute pat = false) :
    (compile (join root pat)).isSome = (compile pat).isSome := by
  rcases join_cases root hpat with ⟨-, hj⟩ | ⟨r, rfl, hj⟩ | ⟨-, -, hj⟩
  · rw [hj]
  · -- the directory ends with the separator, after which `**` may stand
    rw [hj]
    unfold compile
    rw [String.toList_append, compileFrom_plain_append hroot]
    have hsep : ((r ++ "/").toList.getLast?.map (· == '/')).getD true = true := by simp
    rw [hsep, Option.isSome_map]
  · rw [hj]
    unfold compile
    have hplain : Plain (root.toList ++ ['/']) := by
      intro c hc
      rcases List.mem_append.mp hc with hc | hc
      · exact hroot c hc
      · simp_all
    have hchars : (root ++ "/" ++ pat).toList = (root.toList ++ ['/']) ++ pat.toList := by simp
    rw [hchars, compileFrom_plain_append hplain]
    simp

theorem withoutEmptyLast_append_empty (ps : List String) : withoutEmptyLast (ps ++ [""]) = ps := by
  simp [withoutEmptyLast]

/-- A path whose last part is empty is empty or ends with a separator. -/
theorem empty_or_endsWith_of_getLast_parts {p : String}
    (h : (Path.parts p).getLast? = some "") : p = "" ∨ p.endsWith "/" = true := by
  obtain ⟨init, hinit⟩ := List.getLast?_eq_some_iff.mp h
  have hp := intercalate_parts p
  rw [hinit] at hp
  by_cases hnil : init = []
  · subst hnil
    exact .inl (by simpa using hp.symm)
  · right
    rw [String.intercalate_append_of_ne_nil hnil (by simp), String.intercalate_singleton,
      String.append_empty] at hp
    rw [← hp, Scaffold.endsWith_iff]
    simp

/-- The parts of a relative pattern put after a directory: the directory's, but for a trailing
empty one, then the pattern's. -/
theorem walkParts_join (root : String) (hpat : isAbsolute pat = false) :
    walkParts (join root pat) = withoutEmptyLast (walkParts root) ++ Path.parts pat := by
  rcases join_cases root hpat with ⟨rfl, hj⟩ | ⟨r, rfl, hj⟩ | ⟨hroot, hend, hj⟩
  · have hnone : withoutEmptyLast (walkParts "") = [] := rfl
    rw [hj, hnone, List.nil_append]
    simp [walkParts, hpat]
  · -- the directory ends in `/`: its last part is empty
    have hrparts : Path.parts r ≠ [] := by simp [Path.parts, List.splitOn_ne_nil]
    have hroot' : Path.parts (r ++ "/") = Path.parts r ++ [""] := by
      have hempty : Path.parts "" = [""] := rfl
      simpa [hempty] using Path.parts_append_slash r ""
    have habs : isAbsolute (r ++ "/" ++ pat) = isAbsolute (r ++ "/") :=
      isAbsolute_append pat (append_slash_ne_empty r)
    have hdrop := @List.drop_append_of_le_length _ _ [""] _ (List.length_pos_iff.mpr hrparts)
    have hdrop' := @List.drop_append_of_le_length _ _ (Path.parts pat) _
      (List.length_pos_iff.mpr hrparts)
    rw [hj]
    unfold walkParts
    rw [habs, Path.parts_append_slash, hroot']
    split
    · rw [hdrop, hdrop', withoutEmptyLast_append_empty]
    · rw [withoutEmptyLast_append_empty]
  · have habs : isAbsolute (root ++ "/" ++ pat) = isAbsolute root := by
      rw [isAbsolute_append pat (append_slash_ne_empty root), isAbsolute_append "/" hroot]
    have hroots : Path.parts root ≠ [] := by simp [Path.parts, List.splitOn_ne_nil]
    -- the directory's last part is not empty, and stays
    have hkeep : withoutEmptyLast (walkParts root) = walkParts root := by
      unfold withoutEmptyLast
      rw [if_neg]
      intro hlast
      have hparts : (Path.parts root).getLast? = some "" := by
        unfold walkParts at hlast
        split at hlast
        · rw [List.getLast?_drop] at hlast
          split at hlast
          · cases hlast
          · simpa using hlast
        · simpa using hlast
      rcases empty_or_endsWith_of_getLast_parts hparts with h | h
      · exact hroot h
      · simp [h] at hend
    rw [hkeep, hj]
    unfold walkParts
    rw [habs, Path.parts_append_slash]
    split <;> simp [List.drop_append_of_le_length (List.length_pos_iff.mpr hroots)]

/-- The glob parts of a relative pattern put after a directory, when the pattern's last part is
not empty. -/
theorem parts_join (root : String) (hpat : isAbsolute pat = false)
    (hlast : (Path.parts pat).getLast? ≠ some "") :
    Glob.parts (join root pat) = withoutEmptyLast (walkParts root) ++ Path.parts pat := by
  have hpats : Path.parts pat ≠ [] := by simp [Path.parts, List.splitOn_ne_nil]
  have hkeep : withoutEmptyLast (withoutEmptyLast (walkParts root) ++ Path.parts pat) =
      withoutEmptyLast (walkParts root) ++ Path.parts pat := by
    obtain ⟨q, hq⟩ := List.getLast?_isSome.mpr hpats |> Option.isSome_iff_exists.mp
    have hlast' : (withoutEmptyLast (walkParts root) ++ Path.parts pat).getLast? = some q := by
      rw [List.getLast?_append, hq]
      rfl
    have hq' : q ≠ "" := fun h => hlast (h ▸ hq)
    rw [withoutEmptyLast, hlast']
    simp [hq']
  obtain ⟨q, qs, hq⟩ := List.exists_cons_of_ne_nil hpats
  rw [Glob.parts, walkParts_join root hpat, hkeep]
  cases withoutEmptyLast (walkParts root) <;> simp [hq]

/-! ### The entries below a directory by the end of their name -/

/-- The pattern `**/*` followed by a text without separators has two parts: `**`, then `*` and
the text. -/
theorem parts_below_suffix {sfx : String} (hslash : '/' ∉ sfx.toList) :
    Path.parts ("**/*" ++ sfx) = ["**", "*" ++ sfx] := by
  have hsplit : "**/*" ++ sfx = "**" ++ "/" ++ ("*" ++ sfx) := String.toList_inj.mp (by simp)
  rw [hsplit, Path.parts_append_slash, parts_of_not_slash (by decide),
    parts_of_not_slash (by simpa using hslash)]
  rfl

theorem compile_below_suffix {sfx : String} (h : Plain sfx.toList) :
    (compile ("**/*" ++ sfx)).isSome = true := by
  have hchars : ("**/*" ++ sfx).toList = '*' :: '*' :: '/' :: '*' :: sfx.toList := by simp
  rw [compile, hchars]
  simp [compileFrom, compileFrom_run h]

theorem endsWith_slash_iff {s : String} : s.endsWith "/" = true ↔ s.toList.getLast? = some '/' := by
  rw [Scaffold.endsWith_iff]
  constructor
  · rintro ⟨pre, hpre⟩
    rw [← hpre]
    simp
  · intro h
    obtain ⟨ys, hys⟩ := List.getLast?_eq_some_iff.mp h
    exact ⟨ys, by rw [hys]; rfl⟩

/-- `**/*` followed by a text without separators does not end with a separator. -/
theorem endsWith_below_suffix {sfx : String} (hslash : '/' ∉ sfx.toList) :
    ("**/*" ++ sfx).endsWith "/" = false := by
  rw [Bool.eq_false_iff, Ne, endsWith_slash_iff]
  have hchars : ("**/*" ++ sfx).toList = ['*', '*', '/', '*'] ++ sfx.toList := by simp
  rw [hchars, List.getLast?_append]
  cases hs : sfx.toList.getLast? with
  | none => simp
  | some c =>
    intro hc
    have hc' : c = '/' := by simpa using hc
    exact hslash (hc' ▸ List.mem_of_getLast? hs)

/-- A relative pattern put after a directory ends with a separator when the pattern does. -/
theorem endsWith_slash_join (root : String) (hpat : isAbsolute pat = false) (hne : pat ≠ "") :
    (join root pat).endsWith "/" = pat.endsWith "/" := by
  obtain ⟨pre, hpre⟩ : ∃ pre, join root pat = pre ++ pat := by
    rcases join_cases root hpat with ⟨-, hj⟩ | ⟨r, -, hj⟩ | ⟨-, -, hj⟩
    · exact ⟨"", by rw [hj, String.empty_append]⟩
    · exact ⟨r ++ "/", hj⟩
    · exact ⟨root ++ "/", hj⟩
  have hchars : pat.toList ≠ [] := fun h => hne (String.toList_inj.mp (by simpa using h))
  obtain ⟨c, hc⟩ := Option.isSome_iff_exists.mp (List.getLast?_isSome.mpr hchars)
  have hlast : (pre ++ pat).toList.getLast? = pat.toList.getLast? := by
    rw [String.toList_append, List.getLast?_append, hc]
    rfl
  rw [hpre, Bool.eq_iff_iff, endsWith_slash_iff, endsWith_slash_iff, hlast]

end Join

end Glob

namespace Tree

open Glob

variable {t : Tree} {a : Bool}

@[simp] theorem isDirAt_iff {here : List String} :
    t.isDirAt a here = true ↔ t.entryAt a here = some .dir := by
  simp [isDirAt]

theorem isFileAt_iff {here : List String} :
    t.isFileAt a here = true ↔ ∃ b, t.entryAt a here = some (.file b) := by
  unfold isFileAt
  split <;> simp_all

/-! ### Walks by parts without wildcards -/

/-- A walk by parts without wildcards, step by step. -/
def literalWalk (t : Tree) (a : Bool) : List String → Spot → Option Spot
  | [], p => some p
  | s :: ss, p => (t.literalStep a s p).bind (t.literalWalk a ss)

/-- The names a walk shows for the parts it passes: `..` and names, not empty or `.` parts. -/
def shownParts (ss : List String) : List String := ss.filter fun s => !s.isEmpty && s != "."

theorem shownParts_cons (s : String) (ss : List String) :
    shownParts (s :: ss) = shownParts [s] ++ shownParts ss :=
  List.filter_append [s] ss

theorem globFrom_literal_append (ss : List String) (rest : List (List Token)) (p : Spot) :
    t.globFrom a (ss.map literal ++ rest) p =
      ((t.literalWalk a ss p).map (t.globFrom a rest)).getD [] := by
  induction ss generalizing p with
  | nil => rfl
  | cons s ss ih =>
    rw [List.map_cons, List.cons_append, globFrom, literalText_literal, literalWalk]
    dsimp only
    cases t.literalStep a s p with
    | none => rfl
    | some p' => exact ih p'

theorem atCurDir_append {shown xs here : List String} (h : Spot.atCurDir ⟨shown, here⟩ = false)
    (hxs : "." ∉ xs) (here' : List String) : Spot.atCurDir ⟨shown ++ xs, here'⟩ = false := by
  simp only [Spot.atCurDir, beq_eq_false_iff_ne, ne_eq] at h ⊢
  rw [List.append_eq_singleton_iff]
  rintro (⟨-, rfl⟩ | ⟨rfl, -⟩)
  · exact hxs List.mem_cons_self
  · exact h rfl

theorem not_dot_mem_shownParts (ss : List String) : "." ∉ shownParts ss := by
  simp [shownParts]

/-- Away from the start of a relative walk, a step by a part without wildcards goes where a path
walk goes, from a directory, and to an entry there when the part is a name. -/
theorem literalStep_eq_some {s : String} {p p' : Spot} (hp : p.atCurDir = false)
    (h : t.literalStep a s p = some p') :
    t.entryAt a p.here = some .dir ∧ p' = ⟨p.shown ++ shownParts [s], stepName p.here s⟩ := by
  unfold literalStep at h
  have hbase : p.base = p.shown := by simp [Spot.base, hp]
  split at h
  · cases h
  · next hdir =>
    have hd : t.entryAt a p.here = some .dir := by simpa [isDirAt] using hdir
    refine ⟨hd, ?_⟩
    split at h
    · next hdot =>
      cases h
      simp_all [shownParts, stepName]
    split at h
    · next hempty =>
      rw [hp] at h
      cases h
      simp_all [shownParts, stepName]
    split at h
    · next hempty hup =>
      cases h
      simp_all [shownParts, stepName]
    split at h
    · cases h
      simp_all [shownParts, stepName, Spot.down]
    · cases h

theorem literalStep_of_dir {s : String} {p : Spot} (hp : p.atCurDir = false)
    (hd : t.entryAt a p.here = some .dir)
    (hs : (s.isEmpty || s == "." || s == "..") = false →
      (t.entryAt a (p.here ++ [s])).isSome = true) :
    t.literalStep a s p = some ⟨p.shown ++ shownParts [s], stepName p.here s⟩ := by
  have hbase : p.base = p.shown := by simp [Spot.base, hp]
  have hdir : t.isDirAt a p.here = true := by simp [isDirAt, hd]
  unfold literalStep
  by_cases hdot : s = "."
  · subst hdot
    simp [hdir, shownParts, stepName]
  by_cases hempty : s.isEmpty = true
  · simp [hdir, hdot, hempty, hp, shownParts, stepName]
  by_cases hup : s = ".."
  · subst hup
    simp [hdir, hbase, shownParts, stepName]
  have hname := hs (by simp_all)
  simp_all [shownParts, stepName, Spot.down]

/-- Away from the start of a relative walk, a walk by parts without wildcards goes where a path
walk by them goes, and shows the names and `..` it passes. -/
theorem literalWalk_walk {ss : List String} {p p' : Spot} (hp : p.atCurDir = false)
    (h : t.literalWalk a ss p = some p') :
    t.walk a p.here ss = .ok p'.here ∧ p'.shown = p.shown ++ shownParts ss := by
  induction ss generalizing p with
  | nil =>
    cases h
    simp [shownParts, walk_nil]
  | cons s ss ih =>
    obtain ⟨q, hq, hrest⟩ := Option.bind_eq_some_iff.mp h
    obtain ⟨hd, rfl⟩ := literalStep_eq_some hp hq
    obtain ⟨hwalk, hshown⟩ :=
      ih (atCurDir_append hp (not_dot_mem_shownParts [s]) (stepName p.here s)) hrest
    refine ⟨by rw [walk_cons, if_pos hd]; exact hwalk, ?_⟩
    rw [hshown, List.append_assoc, ← shownParts_cons]

/-- Away from the start of a relative walk, a path walk by parts to a directory is one a walk by
the same parts without wildcards takes. -/
theorem literalWalk_of_walk {ss r : List String} {p : Spot} (hp : p.atCurDir = false)
    (h : t.walk a p.here ss = .ok r) (hr : t.entryAt a r = some .dir) :
    t.literalWalk a ss p = some ⟨p.shown ++ shownParts ss, r⟩ := by
  induction ss generalizing p with
  | nil =>
    cases h
    simp [literalWalk, shownParts]
  | cons s ss ih =>
    have hd := walk_start_dir h hr
    rw [walk_cons, if_pos hd] at h
    -- a name part steps to an entry: the rest of the walk starts on it
    have hs : (s.isEmpty || s == "." || s == "..") = false →
        (t.entryAt a (p.here ++ [s])).isSome = true := by
      intro hname
      have hstep : stepName p.here s = p.here ++ [s] := by
        simp_all [stepName]
      rw [← hstep, walk_start_dir h hr]
      rfl
    rw [literalWalk, literalStep_of_dir hp hd hs, Option.bind_some,
      ih (atCurDir_append hp (not_dot_mem_shownParts [s]) (stepName p.here s)) h,
      List.append_assoc, ← shownParts_cons]

/-- Where a relative walk starts, a first part that is neither empty nor `.` steps as it would
from a spot that shows nothing. -/
theorem literalStep_start {s : String} (hs : s ≠ "") (hdot : s ≠ ".") :
    t.literalStep a s (Spot.start false) = t.literalStep a s ⟨[], []⟩ := by
  simp [literalStep, Spot.start, Spot.atCurDir, Spot.base, Spot.down, hs, hdot]

/-! ### Below a directory -/

theorem flatMap_ite_singleton {α β : Type} (l : List α) (c : α → Bool) (f : α → β) :
    (l.flatMap fun x => if c x then [f x] else []) = (l.filter c).map f := by
  induction l with
  | nil => rfl
  | cons x l ih => by_cases hc : c x <;> simp [hc, ih]

/-- `**` followed by one more part names the entries below a directory through directories whose
name that part matches. -/
theorem globFrom_dirs {leaf : List Token} (hleaf : leaf ≠ [.dirs]) (p : Spot) :
    t.globFrom a [[.dirs], leaf] p =
      if t.isDirAt a p.here then
        ((t.namesBelow a p.here).filter fun ns => accepts leaf (ns.getLast?.getD "").toList).map
          p.down
      else [] := by
  have hlit : literalText [.dirs] = none := rfl
  rw [globFrom, hlit]
  by_cases hd : t.isDirAt a p.here = true
  · simp only [hd, Bool.not_true, Bool.false_eq_true, if_false, beq_self_eq_true, if_true]
    rw [globBelow, if_neg (by simpa using hleaf)]
    simp only [globFrom]
    exact flatMap_ite_singleton _ _ _
  · simp [hd]

/-- A trailing empty part changes nothing in a walk to a directory. -/
theorem walk_withoutEmptyLast {here r ss : List String} :
    (t.walk a here (withoutEmptyLast ss) = .ok r ∧ t.entryAt a r = some .dir) ↔
      (t.walk a here ss = .ok r ∧ t.entryAt a r = some .dir) := by
  unfold withoutEmptyLast
  split
  · next hlast =>
    obtain ⟨init, rfl⟩ := List.getLast?_eq_some_iff.mp (by simpa using hlast)
    rw [List.dropLast_concat, walk_append]
    cases t.walk a here init with
    | error e => simp
    | ok h =>
      have hstay : stepName h "" = h := by simp [stepName]
      simp only [except_ok_bind, walk_cons, hstay, walk_nil]
      constructor
      · rintro ⟨hh, hd⟩
        cases hh
        simp [hd]
      · rintro ⟨hif, hd⟩
        split at hif
        · exact ⟨hif, hd⟩
        · cases hif
  · rfl

/-- A trailing empty part shows nothing. -/
theorem shownParts_withoutEmptyLast (ss : List String) :
    shownParts (withoutEmptyLast ss) = shownParts ss := by
  unfold withoutEmptyLast
  split
  · next hlast =>
    obtain ⟨init, rfl⟩ := List.getLast?_eq_some_iff.mp (by simpa using hlast)
    simp [shownParts]
  · rfl

/-- Where the walk of a path reaches a directory, its parts without wildcards lead there too,
showing the names and `..` they pass. -/
theorem literalWalk_of_walk_dir {p : Spot} {ss r : List String} (hp : p.atCurDir = false)
    (hss : t.walk a p.here ss = .ok r) (hd : t.isDirAt a r = true) :
    t.literalWalk a (withoutEmptyLast ss) p = some ⟨p.shown ++ shownParts ss, r⟩ := by
  have hdir : t.entryAt a r = some .dir := isDirAt_iff.mp hd
  rw [literalWalk_of_walk hp (walk_withoutEmptyLast.mpr ⟨hss, hdir⟩).1 hdir,
    shownParts_withoutEmptyLast]

/-- After parts without wildcards, `**` and one more part name the entries below the directory
those parts lead to, through directories, whose name that part matches, shown after the names
and `..` the parts pass. -/
theorem globFrom_literalWalk_dirs {p : Spot} (hp : p.atCurDir = false) (ss : List String)
    {leaf : List Token} (hleaf : leaf ≠ [.dirs]) :
    ((t.literalWalk a (withoutEmptyLast ss) p).map (t.globFrom a [[.dirs], leaf])).getD [] =
      match t.walk a p.here ss with
      | .ok r =>
        if t.isDirAt a r then
          ((t.namesBelow a r).filter fun ns => accepts leaf (ns.getLast?.getD "").toList).map
            fun ns => ⟨p.shown ++ shownParts ss ++ ns, r ++ ns⟩
        else []
      | .error _ => [] := by
  cases hw : t.literalWalk a (withoutEmptyLast ss) p with
  | none =>
    -- no walk to a directory, or the walk without wildcards would reach it
    cases hss : t.walk a p.here ss with
    | error e => rfl
    | ok r =>
      have hnd : t.isDirAt a r = false := by
        rw [Bool.eq_false_iff]
        intro hd
        rw [literalWalk_of_walk_dir hp hss hd] at hw
        cases hw
      simp [hnd]
  | some p' =>
    obtain ⟨hlits, hp'⟩ := literalWalk_walk hp hw
    have hcur : p'.atCurDir = false := by
      have h := @atCurDir_append _ _ p.here hp
        (not_dot_mem_shownParts (withoutEmptyLast ss)) p'.here
      rw [← hp'] at h
      exact h
    have hbase : p'.base = p.shown ++ shownParts ss := by
      rw [Spot.base, hcur, if_neg Bool.false_ne_true, hp', shownParts_withoutEmptyLast]
    simp only [Option.map_some, Option.getD_some, globFrom_dirs hleaf]
    by_cases hd : t.isDirAt a p'.here = true
    · have hss := (walk_withoutEmptyLast.mp ⟨hlits, by simpa using hd⟩).1
      simp only [hd, if_true, hss]
      congr 1
      funext ns
      simp [Spot.down, hbase]
    · -- a walk that reaches a directory is the walk without wildcards
      cases hss : t.walk a p.here ss with
      | error e => simp [hd]
      | ok r =>
        have hnd : t.isDirAt a r = false := by
          rw [Bool.eq_false_iff]
          intro hrd
          rw [literalWalk_of_walk_dir hp hss hrd] at hw
          cases hw
          exact hd hrd
        simp [hd, hnd]

/-! ### From the start of a walk -/

/-- A relative path other than the empty one has a first part that is not empty. -/
theorem head_parts_ne_empty {p : String} (habs : isAbsolute p = false) (hp : p ≠ "") :
    ∃ s rest, Path.parts p = s :: rest ∧ s ≠ "" := by
  obtain ⟨c, cs, hcs⟩ : ∃ c cs, p.toList = c :: cs := by
    cases h : p.toList with
    | nil => exact absurd (String.toList_inj.mp (by simpa using h)) hp
    | cons c cs => exact ⟨c, cs, rfl⟩
  have hc : c ≠ '/' := by
    intro hc
    have hleading : isAbsolute p = true := isAbsolute_iff.mpr (by simp [hcs, hc])
    rw [habs] at hleading
    cases hleading
  obtain ⟨l₀, ls, hsplit⟩ := List.exists_cons_of_ne_nil (List.splitOn_ne_nil '/' cs)
  refine ⟨String.ofList (c :: l₀), ls.map String.ofList, ?_, ?_⟩
  · rw [Path.parts, hcs, List.splitOn_cons_eq_if_modifyHead, if_neg (by simpa using hc), hsplit]
    simp
  · intro h
    have hchars := congrArg String.toList h
    simp at hchars

theorem withoutEmptyLast_cons {s : String} (hs : s ≠ "") (ps : List String) :
    withoutEmptyLast (s :: ps) = s :: withoutEmptyLast ps := by
  unfold withoutEmptyLast
  cases ps with
  | nil => simp [hs]
  | cons q qs =>
    rw [List.getLast?_cons_cons]
    split <;> simp

/-- From the start, a walk by the parts of a path that is not empty, with no `.` in front when
relative, goes as one from a spot that shows the root of an absolute path, or nothing. -/
theorem literalWalk_start {root : String}
    (hroot : isAbsolute root = false → (Path.parts root).head? ≠ some ".") (hne : root ≠ "") :
    t.literalWalk a (withoutEmptyLast (walkParts root)) (Spot.start (isAbsolute root)) =
      t.literalWalk a (withoutEmptyLast (walkParts root))
        ⟨if isAbsolute root then ["/"] else [], []⟩ := by
  cases habs : isAbsolute root with
  | true => rfl
  | false =>
    obtain ⟨s, rest, hparts, hs⟩ := head_parts_ne_empty habs hne
    have hdot : s ≠ "." := fun h => hroot habs (by simp [hparts, h])
    have hwalk : walkParts root = s :: rest := by simp [walkParts, habs, hparts]
    rw [hwalk, withoutEmptyLast_cons hs, literalWalk, literalWalk, literalStep_start hs hdot]
    rfl

/-- The components of a path: its root when absolute, then the names and `..` among its parts. -/
theorem components_eq_shownParts (p : String) :
    components p = (if isAbsolute p then ["/"] else []) ++ shownParts (walkParts p) := by
  rw [components_eq, names]
  unfold walkParts
  cases habs : isAbsolute p with
  | false => rfl
  | true =>
    conv => lhs; rw [parts_of_isAbsolute habs]
    simp [shownParts]

/-- A directory path without wildcards, and with no `.` in front when relative, followed by `**`
and one more part, names the entries below the directory the path leads to, through directories,
whose name that part matches, shown after the path's components. -/
theorem globFrom_root {root : String}
    (hroot : isAbsolute root = false → (Path.parts root).head? ≠ some ".") {leaf : List Token}
    (hleaf : leaf ≠ [.dirs]) :
    t.globFrom (isAbsolute root) ((withoutEmptyLast (walkParts root)).map literal ++
        [[.dirs], leaf]) (Spot.start (isAbsolute root)) =
      match t.resolve root with
      | .ok r =>
        if t.isDirAt (isAbsolute root) r then
          ((t.namesBelow (isAbsolute root) r).filter fun ns =>
            accepts leaf (ns.getLast?.getD "").toList).map fun ns => ⟨components root ++ ns, r ++ ns⟩
        else []
      | .error _ => [] := by
  rw [globFrom_literal_append]
  by_cases hne : root = ""
  · -- the working directory itself: no part to walk
    subst hne
    have hnone : withoutEmptyLast (walkParts "") = [] := rfl
    have hres : t.resolve "" = .ok [] := rfl
    have hrel : isAbsolute "" = false := rfl
    have hcomp : components "" = [] := rfl
    rw [hnone, hres]
    simp [literalWalk, globFrom_dirs hleaf, Spot.start, Spot.down, Spot.base, Spot.atCurDir, hrel,
      hcomp]
  · rw [literalWalk_start hroot hne,
      globFrom_literalWalk_dirs (by cases isAbsolute root <;> rfl) (walkParts root) hleaf,
      components_eq_shownParts]
    rfl

/-! ### Trees of well-formed keys -/

/-- A tree whose keys are each the key of a list of names below the start, none of them `..`,
and each key once: the trees a file system holds. -/
def WellKeyed (t : Tree) : Prop :=
  (t.entries.map Prod.fst).Nodup ∧
    ∀ k ∈ t.entries.map Prod.fst, ∀ n ∈ walkParts k, IsName n ∧ n ≠ ".."

instance : DecidablePred WellKeyed := fun t =>
  decidable_of_iff ((t.entries.map Prod.fst).Nodup ∧
    (t.entries.map Prod.fst).all fun k => (walkParts k).all fun n => decide (IsName n ∧ n ≠ ".."))
    (by simp [WellKeyed])

/-- Every key has a part to walk: an absolute one has one after its leading `/`. -/
theorem walkParts_ne_nil (k : String) : walkParts k ≠ [] := by
  unfold walkParts
  split
  · next habs =>
    intro hnil
    have hparts := parts_of_isAbsolute habs
    rw [hnil] at hparts
    have hk := intercalate_parts k
    rw [hparts] at hk
    rw [← hk] at habs
    exact absurd habs (by decide)
  · simp [Path.parts, List.splitOn_ne_nil]

/-- A key is the key of its own parts. -/
theorem keyOf_walkParts (k : String) : keyOf (isAbsolute k) (walkParts k) = k := by
  have hrest := walkParts_ne_nil k
  unfold keyOf walkParts at *
  cases habs : isAbsolute k with
  | false => simp [intercalate_parts]
  | true =>
    rw [habs, if_pos rfl] at hrest
    simp only [if_true]
    conv => rhs; rw [← intercalate_parts k, parts_of_isAbsolute habs]
    rw [String.intercalate_cons_of_ne_nil hrest]
    simp

/-- The names of a key of names. -/
theorem keyNames_keyOf {b : Bool} {ns : List String} (hns : ∀ n ∈ ns, IsName n) (hne : ns ≠ []) :
    keyNames a (keyOf b ns) = if b = a then some ns else none := by
  have hslash : ∀ n ∈ ns, '/' ∉ n.toList := fun n hn => (hns n hn).2.2
  have habs : isAbsolute (keyOf b ns) = b := by
    cases b with
    | true => simp [keyOf, isAbsolute]
    | false =>
      obtain ⟨n, ns', rfl⟩ := List.exists_cons_of_ne_nil hne
      apply isAbsolute_eq_false_of_parts (parts_keyOf hne hslash) (hns n List.mem_cons_self).1
  have hwalk : walkParts (keyOf b ns) = ns := by
    unfold walkParts
    rw [habs, parts_keyOf hne hslash]
    cases b <;> simp
  unfold keyNames
  rw [habs, hwalk, List.filter_eq_self.mpr fun n hn => by simpa using (hns n hn).1]
  cases a <;> cases b <;> simp

namespace WellKeyed

variable (ht : t.WellKeyed)
include ht

/-- In a tree of well-formed keys, the names of a key of the kind asked are its parts. -/
theorem keyNames {k : String} (hk : k ∈ t.entries.map Prod.fst) :
    keyNames a k = if isAbsolute k = a then some (walkParts k) else none := by
  conv => lhs; rw [← keyOf_walkParts k]
  exact keyNames_keyOf (fun n hn => (ht.2 k hk n hn).1) (walkParts_ne_nil k)

/-- An entry some names below others is the entry of their key, and it is named by names. -/
theorem entry_of_keyNames {k : String} (hk : k ∈ t.entries.map Prod.fst)
    {names : List String} (h : Tree.keyNames a k = some names) :
    k = keyOf a names ∧ ∀ n ∈ names, IsName n ∧ n ≠ ".." := by
  rw [ht.keyNames hk] at h
  split at h
  · next habs =>
    cases h
    exact ⟨habs ▸ (keyOf_walkParts k).symm, ht.2 k hk⟩
  · cases h

end WellKeyed

/-- Every entry on the way down some names, but the last, is a directory. -/
theorem dirsBetween_iff {here ns : List String} :
    t.dirsBetween a here ns = true ↔
      ∀ i, 0 < i → i < ns.length → t.entryAt a (here ++ ns.take i) = some .dir := by
  induction ns generalizing here with
  | nil => simp [dirsBetween]
  | cons n ns ih =>
    cases ns with
    | nil =>
      simp only [dirsBetween, true_iff, List.length_singleton]
      omega
    | cons m ms =>
      have hstep : t.dirsBetween a here (n :: m :: ms) =
          (t.isDirAt a (here ++ [n]) && t.dirsBetween a (here ++ [n]) (m :: ms)) := rfl
      rw [hstep, Bool.and_eq_true, ih]
      constructor
      · rintro ⟨hn, hrest⟩ i hi hlt
        cases i with
        | zero => omega
        | succ j =>
          cases j with
          | zero => simpa [isDirAt] using hn
          | succ k =>
            have := hrest (k + 1) (by omega) (by simp at hlt ⊢; omega)
            simpa using this
      · intro h
        refine ⟨by simpa [isDirAt] using h 1 (by omega) (by simp), fun i hi hlt => ?_⟩
        obtain ⟨j, rfl⟩ := Nat.exists_eq_add_of_lt hi
        have := h (j + 2) (by omega) (by simp at hlt ⊢; omega)
        simpa using this

/-- A walk down names passes through directories exactly when it starts on one and every entry
between is one. -/
theorem dirsAlong_iff {here ns : List String} (hne : ns ≠ []) :
    (∀ i < ns.length, t.entryAt a (here ++ ns.take i) = some .dir) ↔
      t.entryAt a here = some .dir ∧ t.dirsBetween a here ns = true := by
  rw [dirsBetween_iff]
  constructor
  · intro h
    exact ⟨by simpa using h 0 (List.length_pos_iff.mpr hne), fun i _ hlt => h i hlt⟩
  · rintro ⟨hd, hbetween⟩ i hlt
    cases i with
    | zero => simpa using hd
    | succ j => exact hbetween (j + 1) (by omega) hlt

/-- What one entry gives to the names below a list of names. -/
theorem namesBelow_entry {here ns : List String} {k : String} :
    (do
      let names ← Tree.keyNames a k
      if here.isPrefixOf names && !(names.drop here.length).isEmpty &&
          t.dirsBetween a here (names.drop here.length) then some (names.drop here.length)
      else none) = some ns ↔
      Tree.keyNames a k = some (here ++ ns) ∧ ns ≠ [] ∧ t.dirsBetween a here ns = true := by
  rw [Option.bind_eq_bind, Option.bind_eq_some_iff]
  constructor
  · rintro ⟨names, hnames, hif⟩
    split at hif
    · next hcond =>
      cases hif
      simp only [Bool.and_eq_true, List.isPrefixOf_iff_prefix, Bool.not_eq_true',
        List.isEmpty_eq_false_iff] at hcond
      obtain ⟨⟨hpre, hne⟩, hdirs⟩ := hcond
      obtain ⟨rest, rfl⟩ := hpre
      simp_all
    · cases hif
  · rintro ⟨hnames, hne, hdirs⟩
    exact ⟨here ++ ns, hnames, by simp [hne, hdirs]⟩

/-- In a tree of well-formed keys, the lists of names below some names are those that lead
through directories to an entry, each a name. -/
theorem mem_namesBelow (ht : t.WellKeyed) {here ns : List String}
    (hhere : ∀ n ∈ here, IsName n) :
    ns ∈ t.namesBelow a here ↔
      ns ≠ [] ∧ (∀ n ∈ ns, IsName n ∧ n ≠ "..") ∧ t.dirsBetween a here ns = true ∧
        (t.entryAt a (here ++ ns)).isSome = true := by
  unfold namesBelow
  rw [List.mem_filterMap]
  constructor
  · rintro ⟨⟨k, n⟩, he, hf⟩
    obtain ⟨hnames, hne, hdirs⟩ := namesBelow_entry.mp hf
    have hk : k ∈ t.entries.map Prod.fst := List.mem_map.mpr ⟨_, he, rfl⟩
    obtain ⟨rfl, hall⟩ := ht.entry_of_keyNames hk hnames
    refine ⟨hne, fun m hm => hall m (List.mem_append_right here hm), hdirs, ?_⟩
    rw [entryAt, if_neg (by simp [hne]), List.lookup_isSome_iff]
    exact ⟨_, he, by simp⟩
  · rintro ⟨hne, hall, hdirs, hentry⟩
    rw [entryAt, if_neg (by simp [hne]), List.lookup_isSome_iff] at hentry
    obtain ⟨⟨k, n⟩, he, hk⟩ := hentry
    simp only [beq_iff_eq] at hk
    subst hk
    have hnames : ∀ m ∈ here ++ ns, IsName m := fun m hm => by
      rcases List.mem_append.mp hm with hm | hm
      · exact hhere m hm
      · exact (hall m hm).1
    refine ⟨_, he, namesBelow_entry.mpr ⟨?_, hne, hdirs⟩⟩
    rw [keyNames_keyOf hnames (by simp [hne]), if_pos rfl]

/-- In a tree of well-formed keys, the lists of names below some names differ. -/
theorem nodup_namesBelow (ht : t.WellKeyed) (here : List String) :
    (t.namesBelow a here).Nodup := by
  have hkeys : t.entries.Pairwise fun e e' => e.1 ≠ e'.1 := List.pairwise_map.mp ht.1
  have hpair : t.entries.Pairwise fun e e' => e.1 ≠ e'.1 ∧ e ∈ t.entries ∧ e' ∈ t.entries :=
    hkeys.imp_of_mem fun he he' hne => ⟨hne, he, he'⟩
  refine List.Pairwise.filterMap _ ?_ hpair
  rintro ⟨k, n⟩ ⟨k', n'⟩ ⟨hne, he, he'⟩ ns hns ns' hns' rfl
  obtain ⟨hnames, -, -⟩ := namesBelow_entry.mp hns
  obtain ⟨hnames', -, -⟩ := namesBelow_entry.mp hns'
  obtain ⟨rfl, -⟩ := ht.entry_of_keyNames (List.mem_map.mpr ⟨_, he, rfl⟩) hnames
  obtain ⟨rfl, -⟩ := ht.entry_of_keyNames (List.mem_map.mpr ⟨_, he', rfl⟩) hnames'
  exact hne rfl

/-! ### The entries below a directory by the end of their name -/

theorem withoutEmptyLast_subset {ps : List String} {s : String} (h : s ∈ withoutEmptyLast ps) :
    s ∈ ps := by
  unfold withoutEmptyLast at h
  split at h
  · exact List.dropLast_subset ps h
  · exact h

/-- A directory path without wildcards, and with no `.` in front when relative, followed by
`**/*` and a text without wildcards or separators, names the entries below the directory the
path leads to, through directories, whose name ends with the text, shown after the path's
components. -/
theorem globPaths_below_suffix {root sfx : String} (hroot : Plain root.toList)
    (hdot : isAbsolute root = false → (Path.parts root).head? ≠ some ".")
    (hsfx : Plain sfx.toList) (hslash : '/' ∉ sfx.toList) :
    t.globPaths (join root ("**/*" ++ sfx)) = some
      (match t.resolve root with
      | .ok r =>
        if t.isDirAt (isAbsolute root) r then
          ((t.namesBelow (isAbsolute root) r).filter fun ns =>
            (ns.getLast?.getD "").endsWith sfx).map fun ns => ⟨components root ++ ns, r ++ ns⟩
        else []
      | .error _ => []) := by
  have hpat : isAbsolute ("**/*" ++ sfx) = false :=
    isAbsolute_eq_false_of_parts (parts_below_suffix hslash) (by decide)
  have hlast : (Path.parts ("**/*" ++ sfx)).getLast? ≠ some "" := by
    rw [parts_below_suffix hslash]
    intro h
    have hchars := congrArg String.toList (Option.some.inj h)
    simp at hchars
  -- the whole pattern compiles, and so does each part
  obtain ⟨tokens, htokens⟩ := Option.isSome_iff_exists.mp
    (show (compile (join root ("**/*" ++ sfx))).isSome = true by
      rw [compile_join hroot hpat]
      exact compile_below_suffix hsfx)
  have hlits : ∀ s ∈ withoutEmptyLast (walkParts root), Plain s.toList :=
    fun s hs => plain_of_mem_walkParts hroot (withoutEmptyLast_subset hs)
  have hleaf : compile ("*" ++ sfx) = some (.run :: literal sfx) := by
    rw [compile, String.toList_append]
    exact compileFrom_run hsfx
  have hparts : (Glob.parts (join root ("**/*" ++ sfx))).mapM compile =
      some ((withoutEmptyLast (walkParts root)).map literal ++ [[.dirs], .run :: literal sfx]) := by
    have hdirs : compile "**" = some [.dirs] := rfl
    rw [parts_join root hpat hlast, parts_below_suffix hslash, List.mapM_append,
      mapM_compile_literal hlits]
    simp [hdirs, hleaf]
  have hend : (join root ("**/*" ++ sfx)).endsWith "/" = false := by
    rw [endsWith_slash_join root hpat (by simp), endsWith_below_suffix hslash]
  unfold globPaths
  rw [htokens, Option.bind_eq_bind, Option.bind_some, hparts, Option.bind_eq_bind, Option.bind_some,
    hend, isAbsolute_join root hpat]
  dsimp only
  rw [globFrom_root hdot (by simp)]
  simp only [Bool.false_eq_true, if_false, accepts_run_endsWith]

end Tree

end LiveSession.Files
