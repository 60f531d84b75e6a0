import LiveSession.Files.Tree
import LiveSession.Proofs.Path.Parts
import LiveSession.Proofs.Json.Bytes
/-!
# Walks, writes and what they leave

Every tree operation walks its path (`Tree.walk`). This module says once what walks, writes and
the making of directories do, so that proofs about the programs using a tree never unfold them:

* keys of different lists of names differ (`keyOf_inj`), and a path leads to a list of names
  (`resolve_names`);
* a joined path leads where its relative part leads from where the base leads (`resolve_join`),
  and a name below a directory one level below it (`resolve_join_name`);
* a write sets the file where its path leads and nothing else (`writeBytes_spec`,
  `node?_writeBytes`);
* making directories only adds directories (`makeDirs_changesOnly`), leaves its path leading to a
  directory (`isDir_createDirAll`), and makes none when run again (`makeDirs_again`), each by
  `makeDirs_induction`, which alone follows the parts through `makeDirs`;
* a tree that keeps every directory keeps every walk (`KeepsDirs.walk`), and setting a key to the
  node it holds in every entry changes nothing (`Holds.setEntry_self`).
-/

namespace LiveSession.Files

open LiveSession.Path

/-! ### Steps in `Except`

Tree operations, and the programs over them, run in `Except`: a failed step is an error that
every later step passes on, and a passed step hands its value to the next. -/

section ExceptSteps

variable {ε α β : Type}

@[simp]
theorem except_pure_eq (a : α) : (pure a : Except ε α) = .ok a := rfl

@[simp]
theorem except_throw_eq (e : ε) : (throw e : Except ε α) = .error e := rfl

@[simp]
theorem except_ok_bind (a : α) (f : α → Except ε β) : (Except.ok a >>= f) = f a := rfl

@[simp]
theorem except_error_bind (e : ε) (f : α → Except ε β) :
    (Except.error e >>= f : Except ε β) = .error e := rfl

end ExceptSteps

/-! ### Keys -/

theorem parts_keyOf {a : Bool} {xs : List String} (hne : xs ≠ [])
    (h : ∀ x ∈ xs, '/' ∉ x.toList) :
    parts (keyOf a xs) = (if a then [""] else []) ++ xs := by
  cases a with
  | false => simpa [keyOf] using parts_intercalate hne h
  | true =>
    have hk : keyOf true xs = "" ++ "/" ++ "/".intercalate xs := by simp [keyOf]
    rw [hk, parts_append_slash, parts_intercalate hne h]
    rfl

/-- Keys of nonempty lists of names are different for different lists. -/
theorem keyOf_inj {a b : Bool} {xs ys : List String} (hx : xs ≠ []) (hy : ys ≠ [])
    (hxn : ∀ x ∈ xs, IsName x) (hyn : ∀ y ∈ ys, IsName y) (h : keyOf a xs = keyOf b ys) :
    a = b ∧ xs = ys := by
  have hparts := congrArg parts h
  rw [parts_keyOf hx fun x hx => (hxn x hx).2.2, parts_keyOf hy fun y hy => (hyn y hy).2.2]
    at hparts
  -- a leading empty part is never a name
  cases a <;> cases b <;> simp only [if_true, Bool.false_eq_true, if_false, List.nil_append,
    List.singleton_append, List.cons.injEq, true_and] at hparts
  · exact ⟨rfl, hparts⟩
  · exact absurd (hparts ▸ List.mem_cons_self) fun hmem => (hxn "" hmem).1 rfl
  · exact absurd (hparts ▸ List.mem_cons_self) fun hmem => (hyn "" hmem).1 rfl
  · exact ⟨rfl, hparts⟩

/-- Keys of lists of names that end differently differ. -/
theorem keyOf_append_ne {a b : Bool} {xs ys us vs : List String} (hlen : us.length = vs.length)
    (hne : us ≠ vs) (hx : ∀ x ∈ xs ++ us, IsName x) (hy : ∀ y ∈ ys ++ vs, IsName y) :
    keyOf a (xs ++ us) ≠ keyOf b (ys ++ vs) := by
  have hus : us ≠ [] := by
    rintro rfl
    exact hne (List.eq_nil_of_length_eq_zero hlen.symm).symm
  have hvs : vs ≠ [] := by
    rintro rfl
    exact hne (List.eq_nil_of_length_eq_zero hlen)
  intro hkey
  have hlists := (keyOf_inj (by simp [hus]) (by simp [hvs]) hx hy hkey).2
  exact hne (List.append_inj' hlists hlen).2

namespace Tree

/-! ### Setting an entry -/

/-- Looking up a key in front of a list, with the key test as a proposition. -/
theorem lookup_cons_ite {β : Type} (k j : String) (m : β) (l : List (String × β)) :
    ((j, m) :: l).lookup k = if k = j then some m else l.lookup k := by
  rw [List.lookup_cons]
  by_cases h : k = j
  · simp [h]
  · rw [beq_eq_false_iff_ne.mpr h, if_neg h]

/-- Replacing the node of every entry of a key changes what that key looks up and nothing else. -/
theorem lookup_map_replace (l : List (String × Node)) (k k' : String) (n : Node) :
    (l.map fun (e : String × Node) => if e.1 == k then (e.1, n) else (e.1, e.2)).lookup k' =
      if k' = k then (l.lookup k).map fun _ => n else l.lookup k' := by
  induction l with
  | nil => simp
  | cons e l ih =>
    obtain ⟨j, m⟩ := e
    by_cases hj : j = k
    · subst hj
      by_cases hk' : k' = j
      · simp [hk']
      · simpa [lookup_cons_ite, hk'] using ih
    · by_cases hk' : k' = j
      · subst hk'
        simp [hj]
      · simpa [lookup_cons_ite, hj, hk', Ne.symm hj] using ih

/-- Setting an entry changes what its key looks up and nothing else. -/
theorem lookup_setEntry (t : Tree) (k k' : String) (n : Node) :
    (t.setEntry k n).entries.lookup k' = if k' = k then some n else t.entries.lookup k' := by
  unfold setEntry
  split
  · next hk =>
    rw [lookup_map_replace]
    obtain ⟨m, hm⟩ := Option.isSome_iff_exists.mp hk
    simp [hm]
  · next hk =>
    rw [List.lookup_append]
    by_cases h : k' = k
    · subst h
      have hnone : t.entries.lookup k' = none := Option.not_isSome_iff_eq_none.mp hk
      simp [hnone]
    · cases t.entries.lookup k' <;> simp [h, lookup_cons_ite]

@[simp] theorem entryAt_nil (t : Tree) (a : Bool) : t.entryAt a [] = some .dir := rfl

theorem entryAt_of_ne_nil (t : Tree) (a : Bool) {here : List String} (h : here ≠ []) :
    t.entryAt a here = t.entries.lookup (keyOf a here) := by
  simp [entryAt, h]

/-- A walk may go on exactly from a directory. -/
theorem dirProblem_eq_none {t : Tree} {a : Bool} {here : List String} :
    t.dirProblem a here = none ↔ t.entryAt a here = some .dir := by
  unfold dirProblem
  split <;> simp_all

/-! ### Walks -/

section Walk

variable {t : Tree} {a : Bool}

theorem walk_nil (here : List String) : t.walk a here [] = .ok here := rfl

theorem walk_cons (here : List String) (part : String) (parts : List String) :
    t.walk a here (part :: parts) =
      if t.entryAt a here = some .dir then t.walk a (stepName here part) parts
      else .error ((t.dirProblem a here).getD notFound) := by
  rw [walk]
  cases h : t.dirProblem a here with
  | none => simp [dirProblem_eq_none.mp h]
  | some e =>
    have hne : t.entryAt a here ≠ some .dir := fun hd => by
      rw [dirProblem_eq_none.mpr hd] at h; cases h
    simp [hne]

/-- Walking two lists of parts is walking the first, then the second from where it ended. -/
theorem walk_append (here : List String) (ps qs : List String) :
    t.walk a here (ps ++ qs) = t.walk a here ps >>= fun h => t.walk a h qs := by
  induction ps generalizing here with
  | nil => rfl
  | cons p ps ih =>
    simp only [List.cons_append, walk]
    cases t.dirProblem a here with
    | some e => rfl
    | none => exact ih _

/-- An empty part before others changes nothing: the part after it checks the same directory. -/
theorem walk_empty_cons (here : List String) {ps : List String} (hps : ps ≠ []) :
    t.walk a here ("" :: ps) = t.walk a here ps := by
  obtain ⟨p, ps, rfl⟩ := List.exists_cons_of_ne_nil hps
  have hstay : stepName here "" = here := by simp [stepName]
  simp only [walk, hstay]
  cases t.dirProblem a here with
  | some e => rfl
  | none => rfl

theorem walk_singleton_empty_bind (here : List String) {ps : List String} (hps : ps ≠ []) :
    (t.walk a here [""] >>= fun h => t.walk a h ps) = t.walk a here ps := by
  rw [← walk_append, List.singleton_append, walk_empty_cons here hps]

/-- A walk down names goes to the names after them, and it goes through exactly when it stands on
a directory before each name. -/
theorem walk_down_iff {here ns r : List String} (hns : ∀ n ∈ ns, IsName n ∧ n ≠ "..") :
    t.walk a here ns = .ok r ↔
      r = here ++ ns ∧ ∀ i < ns.length, t.entryAt a (here ++ ns.take i) = some .dir := by
  induction ns generalizing here with
  | nil => simp [walk_nil, eq_comm]
  | cons n ns ih =>
    have hn := hns n List.mem_cons_self
    have hstep : stepName here n = here ++ [n] := by
      simp [stepName, hn.1.1, hn.1.2.1, hn.2]
    rw [walk_cons]
    by_cases hd : t.entryAt a here = some .dir
    · rw [if_pos hd, hstep, ih fun m hm => hns m (List.mem_cons_of_mem n hm)]
      constructor
      · rintro ⟨rfl, hall⟩
        refine ⟨by simp, fun i hi => ?_⟩
        cases i with
        | zero => simpa using hd
        | succ j => simpa using hall j (by simpa using hi)
      · rintro ⟨rfl, hall⟩
        refine ⟨by simp, fun j hj => ?_⟩
        simpa using hall (j + 1) (by simpa using hj)
    · rw [if_neg hd]
      refine iff_of_false (fun h => by cases h) fun ⟨_, hall⟩ => hd ?_
      simpa using hall 0 (by simp)

/-- One part leads to names when the names before it are names. -/
theorem isName_stepName {here : List String} {part : String} (hhere : ∀ n ∈ here, IsName n)
    (hpart : '/' ∉ part.toList) : ∀ n ∈ stepName here part, IsName n := by
  unfold stepName
  split
  · exact hhere
  · split
    · exact fun n hn => hhere n (List.dropLast_subset here hn)
    · next hstay hup =>
      intro n hn
      rcases List.mem_append.mp hn with hn | hn
      · exact hhere n hn
      · rw [List.mem_singleton] at hn
        subst hn
        simp only [Bool.or_eq_true, String.isEmpty_iff, beq_iff_eq, not_or] at hstay
        exact ⟨hstay.1, hstay.2, hpart⟩

/-- A walk over parts free of `/` reaches a list of names. -/
theorem walk_names {here ps r : List String} (h : t.walk a here ps = .ok r)
    (hps : ∀ p ∈ ps, '/' ∉ p.toList) (hhere : ∀ n ∈ here, IsName n) : ∀ n ∈ r, IsName n := by
  induction ps generalizing here with
  | nil =>
    cases h
    exact hhere
  | cons p ps ih =>
    rw [walk] at h
    split at h
    · cases h
    · exact ih h (fun q hq => hps q (List.mem_cons_of_mem p hq))
        (isName_stepName hhere (hps p List.mem_cons_self))

/-- Where a path leads is a list of names. -/
theorem resolve_names {p : String} {r : List String} (h : t.resolve p = .ok r) :
    ∀ n ∈ r, IsName n := by
  refine walk_names h (fun q hq => ?_) (by simp)
  unfold walkParts at hq
  split at hq
  · exact not_slash_of_mem_parts (List.mem_of_mem_drop hq)
  · exact not_slash_of_mem_parts hq

/-- A path leads where walking all its parts from the start leads: the empty part before the
leading `/` of an absolute path stays at the start. -/
theorem resolve_eq_walk_parts (p : String) :
    t.resolve p = t.walk (isAbsolute p) [] (parts p) := by
  unfold resolve walkParts
  split
  · next habs =>
    conv => rhs; rw [parts_of_isAbsolute habs]
    by_cases hrest : (parts p).drop 1 = []
    · rw [hrest]
      rfl
    · rw [walk_empty_cons [] hrest]
  · rfl

/-- A joined path leads where its relative part leads from where the base leads. -/
theorem resolve_join (base : String) {p : String} (hp : isAbsolute p = false) :
    t.resolve (join base p) =
      t.resolve base >>= fun h => t.walk (isAbsolute base) h (parts p) := by
  have hparts : parts p ≠ [] := by simp [parts, List.splitOn_ne_nil]
  rw [resolve_eq_walk_parts, resolve_eq_walk_parts]
  rcases join_cases base hp with ⟨rfl, hj⟩ | ⟨b', rfl, hj⟩ | ⟨hbase, -, hj⟩
  · have hempty : isAbsolute "" = false := by decide
    have hstart : t.walk false [] (parts "") = .ok [] := rfl
    rw [hj, hp, hempty, hstart]
    rfl
  · -- the base ends in `/`: its last part is empty
    have hbaseParts : parts (b' ++ "/") = parts b' ++ [""] := by
      have h := parts_append_slash b' ""
      rwa [String.append_empty] at h
    rw [hj, isAbsolute_append p (append_slash_ne_empty b'), parts_append_slash, walk_append,
      hbaseParts, walk_append, bind_assoc]
    congr 1
    funext h
    rw [walk_singleton_empty_bind h hparts]
  · rw [hj, isAbsolute_append p (append_slash_ne_empty base), isAbsolute_append "/" hbase,
      parts_append_slash, walk_append]

end Walk

/-! ### What stands at a path -/

section Entries

variable {t : Tree} {p : String}

theorem node?_eq_some {n : Node} :
    t.node? p = some n ↔
      ∃ here, t.resolve p = .ok here ∧ t.entryAt (isAbsolute p) here = some n := by
  unfold node?
  split <;> simp_all

theorem isFile_iff : t.isFile p = true ↔ ∃ b, t.node? p = some (.file b) := by
  unfold isFile
  split <;> simp_all

theorem isDir_iff : t.isDir p = true ↔ t.node? p = some .dir := by
  unfold isDir
  split <;> simp_all

theorem present_iff : t.present p = true ↔ ∃ n, t.node? p = some n := by
  simp [present, Option.isSome_iff_exists]

/-- Reading bytes succeeds exactly at a regular file. -/
theorem readBytes_eq_ok {b : List UInt8} : t.readBytes p = .ok b ↔ t.node? p = some (.file b) := by
  unfold readBytes node?
  cases t.resolve p with
  | error e => simp
  | ok here =>
    dsimp only
    cases t.entryAt (isAbsolute p) here with
    | none => simp
    | some n => cases n <;> simp

/-- Reading a directory fails. -/
theorem readBytes_of_dir (h : t.node? p = some .dir) : t.readBytes p = .error isADirectory := by
  obtain ⟨here, hres, hn⟩ := node?_eq_some.mp h
  simp only [readBytes, hres, hn]

/-- A text read from a path is the text of a regular file there. -/
theorem node?_of_readText {s : String} (h : t.readText p = .ok s) :
    ∃ b, t.node? p = some (.file b) ∧ utf8? b = some s := by
  unfold readText at h
  cases hb : t.readBytes p with
  | error e => simp [hb] at h
  | ok b =>
    refine ⟨b, readBytes_eq_ok.mp hb, ?_⟩
    simp only [hb, except_ok_bind] at h
    split at h
    · next s' hs => cases h; exact hs
    · cases h

theorem isFile_of_readText {s : String} (h : t.readText p = .ok s) : t.isFile p = true := by
  obtain ⟨b, hb, -⟩ := node?_of_readText h
  exact isFile_iff.mpr ⟨b, hb⟩

theorem utf8?_toUTF8 (s : String) : utf8? s.toUTF8.toList = some s := by
  have hbytes : (⟨s.toUTF8.toList.toArray⟩ : ByteArray) = s.toByteArray := by
    rw [LiveSession.Json.byteArray_toList]
    rfl
  rw [utf8?, hbytes, String.fromUTF8?, dif_pos s.isValidUTF8]
  rfl

/-- A name below a directory leads one level below where the directory leads. -/
theorem resolve_join_name {dir name : String} (hdir : t.isDir dir = true) (hname : IsName name)
    (hup : name ≠ "..") : ∃ here, t.resolve dir = .ok here ∧
      t.entryAt (isAbsolute dir) here = some .dir ∧
      t.resolve (join dir name) = .ok (here ++ [name]) := by
  obtain ⟨here, hres, hd⟩ := node?_eq_some.mp (isDir_iff.mp hdir)
  refine ⟨here, hres, hd, ?_⟩
  have hstep : stepName here name = here ++ [name] := by
    simp [stepName, hname.1, hname.2.1, hup]
  rw [resolve_join dir (isAbsolute_of_not_slash hname.2.2), hres, parts_of_not_slash hname.2.2]
  show t.walk _ here [name] = _
  rw [walk_cons, if_pos hd, hstep]
  rfl

theorem locate_of_resolve {here : List String} (h : t.resolve p = .ok here) :
    t.locate p = some (keyOf (isAbsolute p) here) := by
  simp [locate, h]

end Entries

/-! ### Trees that keep their directories -/

/-- Every directory of the first tree is one of the second. -/
def KeepsDirs (t t' : Tree) : Prop :=
  ∀ k, t.entries.lookup k = some .dir → t'.entries.lookup k = some .dir

namespace KeepsDirs

variable {t t' u : Tree} {a : Bool} {here : List String}

protected theorem refl (t : Tree) : t.KeepsDirs t := fun _ h => h

protected theorem trans (h₁ : t.KeepsDirs t') (h₂ : t'.KeepsDirs u) : t.KeepsDirs u :=
  fun k hk => h₂ k (h₁ k hk)

protected theorem entryAt (h : t.KeepsDirs t') (hd : t.entryAt a here = some .dir) :
    t'.entryAt a here = some .dir := by
  by_cases hh : here = []
  · subst hh
    rfl
  · rw [entryAt_of_ne_nil _ _ hh] at hd ⊢
    exact h _ hd

/-- A walk that went through directories goes through them again. -/
protected theorem walk (h : t.KeepsDirs t') {ps r : List String} (hw : t.walk a here ps = .ok r) :
    t'.walk a here ps = .ok r := by
  induction ps generalizing here with
  | nil => exact hw
  | cons p ps ih =>
    rw [walk_cons] at hw ⊢
    split at hw
    · next hd => rw [if_pos (h.entryAt hd)]; exact ih hw
    · cases hw

protected theorem resolve (h : t.KeepsDirs t') {p : String} {r : List String}
    (hr : t.resolve p = .ok r) : t'.resolve p = .ok r :=
  h.walk hr

protected theorem isDir (h : t.KeepsDirs t') {p : String} (hd : t.isDir p = true) :
    t'.isDir p = true := by
  obtain ⟨here, hres, hdir⟩ := node?_eq_some.mp (isDir_iff.mp hd)
  exact isDir_iff.mpr (node?_eq_some.mpr ⟨here, h.resolve hres, h.entryAt hdir⟩)

/-- What stands at a path stays when the entry the path leads to stays. -/
protected theorem node? (h : t.KeepsDirs t') {p : String} {r : List String}
    (hr : t.resolve p = .ok r) (he : t'.entryAt (isAbsolute p) r = t.entryAt (isAbsolute p) r) :
    t'.node? p = t.node? p := by
  simp only [Tree.node?, h.resolve hr, hr, he]

end KeepsDirs

/-- Setting an entry keeps the directories, unless it replaces one by a file. -/
theorem keepsDirs_setEntry {t : Tree} {k : String} {n : Node}
    (h : t.entries.lookup k = some .dir → n = .dir) : t.KeepsDirs (t.setEntry k n) := by
  intro k' hk'
  rw [lookup_setEntry]
  split
  · next heq => subst heq; rw [h hk']
  · exact hk'

/-! ### Trees that change only at some keys -/

/-- The second tree differs from the first only at the given keys and by directories made where
nothing was. -/
def ChangesOnly (t t' : Tree) (ks : List String) : Prop :=
  ∀ k, k ∉ ks → t'.entries.lookup k = t.entries.lookup k ∨
    (t.entries.lookup k = none ∧ t'.entries.lookup k = some .dir)

namespace ChangesOnly

variable {t t' u : Tree} {ks ks' : List String}

protected theorem refl (t : Tree) (ks : List String) : t.ChangesOnly t ks :=
  fun _ _ => .inl rfl

protected theorem trans (h₁ : t.ChangesOnly t' ks) (h₂ : t'.ChangesOnly u ks') :
    t.ChangesOnly u (ks ++ ks') := by
  intro k hk
  rw [List.mem_append, not_or] at hk
  rcases h₁ k hk.1 with h₁ | ⟨hnone, hdir⟩ <;> rcases h₂ k hk.2 with h₂ | ⟨hnone', hdir'⟩
  · exact .inl (h₂.trans h₁)
  · exact .inr ⟨h₁ ▸ hnone', hdir'⟩
  · exact .inr ⟨hnone, h₂.trans hdir⟩
  · rw [hdir] at hnone'
    cases hnone'

protected theorem mono (h : t.ChangesOnly t' ks) (hks : ∀ k ∈ ks, k ∈ ks') :
    t.ChangesOnly t' ks' :=
  fun k hk => h k fun hmem => hk (hks k hmem)

end ChangesOnly

theorem changesOnly_setEntry (t : Tree) (k : String) (n : Node) :
    t.ChangesOnly (t.setEntry k n) [k] := by
  intro k' hk'
  rw [List.mem_singleton] at hk'
  left
  rw [lookup_setEntry, if_neg hk']

theorem changesOnly_setEntry_dir {t : Tree} {k : String} (hk : t.entries.lookup k = none) :
    t.ChangesOnly (t.setEntry k .dir) [] := by
  intro k' _
  rw [lookup_setEntry]
  split
  · next heq => subst heq; exact .inr ⟨hk, rfl⟩
  · exact .inl rfl

/-! ### Keys that hold a node -/

/-- The key holds the node, in every entry of it. -/
def Holds (t : Tree) (k : String) (n : Node) : Prop :=
  t.entries.lookup k = some n ∧ ∀ e ∈ t.entries, e.1 = k → e.2 = n

theorem holds_setEntry (t : Tree) (k : String) (n : Node) : (t.setEntry k n).Holds k n := by
  refine ⟨by rw [lookup_setEntry, if_pos rfl], fun e he hk => ?_⟩
  unfold setEntry at he
  split at he
  · obtain ⟨⟨j, m⟩, _, rfl⟩ := List.mem_map.mp he
    by_cases hj : j = k
    · simp [hj]
    · simp [hj] at hk
  · next hnone =>
    rcases List.mem_append.mp he with he | he
    · -- a key that looks up nothing has no entry
      have hall := List.lookup_eq_none_iff.mp (Option.not_isSome_iff_eq_none.mp hnone) e he
      simp [hk] at hall
    · rw [List.mem_singleton] at he
      rw [he]

theorem Holds.setEntry_of_ne {t : Tree} {k k' : String} {n n' : Node} (h : t.Holds k n)
    (hk : k' ≠ k) : (t.setEntry k' n').Holds k n := by
  refine ⟨by rw [lookup_setEntry, if_neg (Ne.symm hk), h.1], fun e he hek => ?_⟩
  unfold setEntry at he
  split at he
  · obtain ⟨⟨j, m⟩, he₀, rfl⟩ := List.mem_map.mp he
    by_cases hj : j = k'
    · subst hj
      simp only [beq_self_eq_true, if_true] at hek
      exact absurd hek hk
    · have hjk : j = k := by simpa [hj] using hek
      simpa [hj] using h.2 _ he₀ hjk
  · rcases List.mem_append.mp he with he | he
    · exact h.2 e he hek
    · rw [List.mem_singleton] at he
      subst he
      exact absurd hek hk

/-- Setting a key to the node it holds changes nothing. -/
theorem Holds.setEntry_self {t : Tree} {k : String} {n : Node} (h : t.Holds k n) :
    t.setEntry k n = t := by
  have hsome : (t.entries.lookup k).isSome := by rw [h.1]; rfl
  obtain ⟨entries⟩ := t
  simp only [setEntry, hsome, if_true, Tree.mk.injEq]
  conv => rhs; rw [← List.map_id entries]
  refine List.map_congr_left fun ⟨j, m⟩ he => ?_
  by_cases hj : j = k
  · have hm : m = n := h.2 _ he hj
    simp [hj, hm]
  · simp [hj]

/-! ### Writes -/

section Write

variable {t t' : Tree} {p : String} {b : List UInt8}

/-- A write succeeds exactly when its path leads somewhere other than a directory, and then sets
the file there. -/
theorem writeBytes_eq_ok : t.writeBytes p b = .ok t' ↔ ∃ here, t.resolve p = .ok here ∧
    t.entryAt (isAbsolute p) here ≠ some .dir ∧
    t' = t.setEntry (keyOf (isAbsolute p) here) (.file b) := by
  unfold writeBytes
  cases t.resolve p with
  | error e => simp
  | ok here =>
    dsimp only
    cases hn : t.entryAt (isAbsolute p) here with
    | none => simp [hn, eq_comm]
    | some n => cases n <;> simp [hn, eq_comm]

theorem writeBytes_of_resolve {here : List String} (hres : t.resolve p = .ok here)
    (hn : t.entryAt (isAbsolute p) here ≠ some .dir) :
    t.writeBytes p b = .ok (t.setEntry (keyOf (isAbsolute p) here) (.file b)) :=
  writeBytes_eq_ok.mpr ⟨here, hres, hn, rfl⟩

/-- A write to a regular file lands on the file's key. -/
theorem writeText_of_isFile (h : t.isFile p = true) (s : String) :
    ∃ k, t.locate p = some k ∧ t.writeText p s = .ok (t.setEntry k (.file s.toUTF8.toList)) := by
  obtain ⟨b, hb⟩ := isFile_iff.mp h
  obtain ⟨here, hres, hent⟩ := node?_eq_some.mp hb
  exact ⟨_, locate_of_resolve hres, writeBytes_of_resolve hres (by rw [hent]; simp)⟩

/-- What a successful write did: it set the file where the path leads, which was no directory and
is not the start, and it changed nothing else. -/
theorem writeBytes_spec (h : t.writeBytes p b = .ok t') :
    ∃ here, here ≠ [] ∧ t.resolve p = .ok here ∧
      t.entries.lookup (keyOf (isAbsolute p) here) ≠ some .dir ∧
      t' = t.setEntry (keyOf (isAbsolute p) here) (.file b) := by
  obtain ⟨here, hres, hn, rfl⟩ := writeBytes_eq_ok.mp h
  have hne : here ≠ [] := by
    rintro rfl
    exact hn rfl
  exact ⟨here, hne, hres, by rwa [entryAt_of_ne_nil _ _ hne] at hn, rfl⟩

theorem writeBytes_keepsDirs (h : t.writeBytes p b = .ok t') : t.KeepsDirs t' := by
  obtain ⟨here, -, -, hn, rfl⟩ := writeBytes_spec h
  exact keepsDirs_setEntry fun hd => absurd hd hn

/-- After a write, the path leads to the written file. -/
theorem node?_writeBytes (h : t.writeBytes p b = .ok t') : t'.node? p = some (.file b) := by
  obtain ⟨here, hne, hres, -, rfl⟩ := writeBytes_spec h
  refine node?_eq_some.mpr ⟨here, (writeBytes_keepsDirs h).resolve hres, ?_⟩
  rw [entryAt_of_ne_nil _ _ hne, lookup_setEntry, if_pos rfl]

theorem readBytes_writeBytes (h : t.writeBytes p b = .ok t') : t'.readBytes p = .ok b :=
  readBytes_eq_ok.mpr (node?_writeBytes h)

theorem readText_writeText {s : String} (h : t.writeText p s = .ok t') :
    t'.readText p = .ok s := by
  simp only [readText, readBytes_writeBytes h, except_ok_bind, utf8?_toUTF8]

/-- A write leaves what stands at every path that leads to another key. -/
theorem node?_writeBytes_of_ne (h : t.writeBytes p b = .ok t') {q : String} {hq : List String}
    (hres : t.resolve q = .ok hq) (hne : t.locate p ≠ some (keyOf (isAbsolute q) hq)) :
    t'.node? q = t.node? q := by
  obtain ⟨here, -, hres', -, rfl⟩ := writeBytes_spec h
  refine (writeBytes_keepsDirs h).node? hres ?_
  by_cases hnil : hq = []
  · subst hnil
    rfl
  · rw [entryAt_of_ne_nil _ _ hnil, entryAt_of_ne_nil _ _ hnil, lookup_setEntry, if_neg]
    intro heq
    exact hne (by rw [locate_of_resolve hres', heq])

/-- A copy reads the source's bytes and writes them to the destination. -/
theorem copy_eq_ok {src dst : String} :
    t.copy src dst = .ok t' ↔ ∃ b, t.readBytes src = .ok b ∧ t.writeBytes dst b = .ok t' := by
  unfold copy
  cases t.readBytes src with
  | error e => simp
  | ok b => simp

end Write

/-! ### Making directories -/

section MakeDirs

variable {t t' u : Tree} {a : Bool}

/-- Every name leading to a list of names, the list included, is a directory. -/
def DirsAlong (t : Tree) (a : Bool) (here : List String) : Prop :=
  ∀ i, t.entryAt a (here.take i) = some .dir

theorem DirsAlong.nil (t : Tree) (a : Bool) : t.DirsAlong a [] := fun _ => by
  rw [List.take_nil]
  rfl

/-- The list of names itself is a directory. -/
theorem DirsAlong.dir {here : List String} (h : t.DirsAlong a here) :
    t.entryAt a here = some .dir := by
  simpa using h here.length

theorem DirsAlong.keepsDirs {here : List String} (h : t.DirsAlong a here) (ht : t.KeepsDirs t') :
    t'.DirsAlong a here :=
  fun i => ht.entryAt (h i)

theorem DirsAlong.stepName {here : List String} (h : t.DirsAlong a here) {part : String}
    (hpart : part.isEmpty || part == "." || part == "..") :
    t.DirsAlong a (Files.stepName here part) := by
  unfold Files.stepName
  by_cases hstay : (part.isEmpty || part == ".") = true
  · rw [if_pos hstay]
    exact h
  · have hup : (part == "..") = true := by simpa [hstay] using hpart
    rw [if_neg hstay, if_pos hup]
    intro i
    rw [List.dropLast_eq_take, List.take_take]
    exact h _

theorem DirsAlong.append {here : List String} (h : t.DirsAlong a here) {part : String}
    (hdir : t.entryAt a (here ++ [part]) = some .dir) : t.DirsAlong a (here ++ [part]) := by
  intro i
  rw [List.take_append]
  by_cases hi : i - here.length = 0
  · rw [hi, List.take_zero, List.append_nil]
    exact h i
  · have hall : here.take i = here := List.take_of_length_le (by omega)
    obtain ⟨j, hj⟩ := Nat.exists_eq_succ_of_ne_zero hi
    rw [hall, hj, List.take_succ_cons, List.take_nil]
    exact hdir

/-- The names after a name part: the part itself goes down. -/
theorem stepName_name {here : List String} {part : String}
    (hpart : (part.isEmpty || part == "." || part == "..") = false) :
    Files.stepName here part = here ++ [part] := by
  simp only [Bool.or_eq_false_iff] at hpart
  simp [Files.stepName, hpart.1.1, hpart.1.2, hpart.2]

theorem makeDirs_cons_stay {here ps : List String} {part : String}
    (hpart : (part.isEmpty || part == "." || part == "..") = true) :
    makeDirs a t here (part :: ps) = makeDirs a t (Files.stepName here part) ps := by
  rw [makeDirs, if_pos hpart]

/-- What a name part does when making directories: it goes down into the directory there, made
first when nothing is there. -/
theorem makeDirs_cons_name_eq_ok {here ps : List String} {part : String}
    (hpart : (part.isEmpty || part == "." || part == "..") = false) :
    makeDirs a t here (part :: ps) = .ok t' ↔ ∃ u,
      (t.entryAt a (here ++ [part]) = some .dir ∧ u = t ∨
        t.entryAt a (here ++ [part]) = none ∧ u = t.setEntry (keyOf a (here ++ [part])) .dir) ∧
      makeDirs a u (here ++ [part]) ps = .ok t' := by
  rw [makeDirs, if_neg (by rw [hpart]; exact Bool.false_ne_true)]
  dsimp only
  cases t.entryAt a (here ++ [part]) with
  | none => simp
  | some n => cases n <;> simp

/-- The directory a name part goes down into is one once it is made. -/
theorem entryAt_made {here : List String} {part : String}
    (hu : t.entryAt a (here ++ [part]) = some .dir ∧ u = t ∨
      t.entryAt a (here ++ [part]) = none ∧ u = t.setEntry (keyOf a (here ++ [part])) .dir) :
    t.KeepsDirs u ∧ u.entryAt a (here ++ [part]) = some .dir := by
  rcases hu with ⟨hd, rfl⟩ | ⟨-, rfl⟩
  · exact ⟨.refl _, hd⟩
  · refine ⟨keepsDirs_setEntry fun _ => rfl, ?_⟩
    rw [entryAt_of_ne_nil _ _ (by simp), lookup_setEntry, if_pos rfl]

/-- **Induction along making directories that succeeds.** A property of the tree, the names
reached and the parts left holds from the start when it holds at the end, when a name part
passes it back from the directory it goes down into (there already, or made), and when a part
that only moves along passes it back. The induction is on the parts. -/
@[elab_as_elim]
theorem makeDirs_induction {P : Tree → List String → List String → Prop}
    (nil : ∀ here, P t' here [])
    (name : ∀ {t u : Tree} {here ps : List String} {part : String},
      (part.isEmpty || part == "." || part == "..") = false →
      (t.entryAt a (here ++ [part]) = some .dir ∧ u = t ∨
        t.entryAt a (here ++ [part]) = none ∧ u = t.setEntry (keyOf a (here ++ [part])) .dir) →
      makeDirs a u (here ++ [part]) ps = .ok t' → P u (here ++ [part]) ps → P t here (part :: ps))
    (stay : ∀ {t : Tree} {here ps : List String} {part : String},
      (part.isEmpty || part == "." || part == "..") = true →
      makeDirs a t (Files.stepName here part) ps = .ok t' → P t (Files.stepName here part) ps →
      P t here (part :: ps))
    {t : Tree} {here ps : List String} (h : makeDirs a t here ps = .ok t') : P t here ps := by
  induction ps generalizing t here with
  | nil =>
    cases h
    exact nil here
  | cons part ps ih =>
    cases hpart : (part.isEmpty || part == "." || part == "..")
    · obtain ⟨u, hu, hrest⟩ := (makeDirs_cons_name_eq_ok hpart).mp h
      exact name hpart hu hrest (ih hrest)
    · rw [makeDirs_cons_stay hpart] at h
      exact stay hpart h (ih h)

theorem makeDirs_keepsDirs {here ps : List String} (h : makeDirs a t here ps = .ok t') :
    t.KeepsDirs t' := by
  refine makeDirs_induction (fun _ => .refl _) ?name (fun _ _ ih => ih) h
  case name =>
    intro t u here ps part _ hu _ ih
    exact (entryAt_made hu).1.trans ih

theorem makeDirs_changesOnly {here ps : List String} (h : makeDirs a t here ps = .ok t') :
    t.ChangesOnly t' [] := by
  refine makeDirs_induction (fun _ => .refl _ []) ?name (fun _ _ ih => ih) h
  case name =>
    intro t u here ps part _ hu _ ih
    rcases hu with ⟨-, rfl⟩ | ⟨hnone, rfl⟩
    · exact ih
    · rw [entryAt_of_ne_nil _ _ (by simp)] at hnone
      exact (changesOnly_setEntry_dir hnone).trans ih

/-- Making the directories again in a tree that kept them all makes none. -/
theorem makeDirs_again {here ps : List String} (h : makeDirs a t here ps = .ok t')
    (hu : t'.KeepsDirs u) : makeDirs a u here ps = .ok u := by
  refine makeDirs_induction (fun _ => rfl) ?name ?stay h
  case name =>
    intro t v here ps part hpart hv hrest ih
    -- the directory gone down into is in the final tree, hence in `u`
    have hnext : u.entryAt a (here ++ [part]) = some .dir :=
      ((makeDirs_keepsDirs hrest).trans hu).entryAt (entryAt_made hv).2
    exact (makeDirs_cons_name_eq_ok hpart).mpr ⟨u, .inl ⟨hnext, rfl⟩, ih⟩
  case stay =>
    intro t here ps part hpart _ ih
    rw [makeDirs_cons_stay hpart]
    exact ih

/-- Making directories walks to a directory: every step it takes, a walk takes in the tree it
leaves, and every name it passes is a directory there. -/
theorem makeDirs_walk {here ps : List String} (h : makeDirs a t here ps = .ok t')
    (halong : t.DirsAlong a here) :
    ∃ r, t'.walk a here ps = .ok r ∧ t'.entryAt a r = some .dir := by
  revert halong
  refine makeDirs_induction ?nil ?name ?stay h
  case nil =>
    intro here halong
    exact ⟨here, rfl, halong.dir⟩
  case name =>
    intro t u here ps part hpart hu hrest ih halong
    -- the names reached so far are directories in the final tree too
    have hkeep := (entryAt_made hu).1.trans (makeDirs_keepsDirs hrest)
    rw [walk_cons, if_pos (halong.keepsDirs hkeep).dir, stepName_name hpart]
    exact ih ((halong.keepsDirs (entryAt_made hu).1).append (entryAt_made hu).2)
  case stay =>
    intro t here ps part hpart hrest ih halong
    rw [walk_cons, if_pos (halong.keepsDirs (makeDirs_keepsDirs hrest)).dir]
    exact ih (halong.stepName hpart)

/-- A walk that ends on a directory started on one. -/
theorem walk_start_dir {here ps r : List String} (h : t.walk a here ps = .ok r)
    (hr : t.entryAt a r = some .dir) : t.entryAt a here = some .dir := by
  cases ps with
  | nil =>
    cases h
    exact hr
  | cons p ps =>
    rw [walk_cons] at h
    split at h
    · assumption
    · cases h

/-- Making directories along a walk that goes through directories to a directory makes none. -/
theorem makeDirs_of_walk {here ps r : List String} (h : t.walk a here ps = .ok r)
    (hr : t.entryAt a r = some .dir) : makeDirs a t here ps = .ok t := by
  induction ps generalizing here with
  | nil => rfl
  | cons part ps ih =>
    rw [walk_cons] at h
    split at h
    · cases hpart : (part.isEmpty || part == "." || part == "..")
      · rw [stepName_name hpart] at h
        exact (makeDirs_cons_name_eq_ok hpart).mpr ⟨t, .inl ⟨walk_start_dir h hr, rfl⟩, ih h⟩
      · rw [makeDirs_cons_stay hpart]
        exact ih h
    · cases h

/-- Making a directory that is there makes none. -/
theorem createDirAll_of_isDir {p : String} (h : t.isDir p = true) : t.createDirAll p = .ok t := by
  obtain ⟨r, hres, hd⟩ := node?_eq_some.mp (isDir_iff.mp h)
  exact makeDirs_of_walk hres hd

/-- After making a directory and those on its way, the path leads to a directory. -/
theorem isDir_createDirAll {p : String} (h : t.createDirAll p = .ok t') : t'.isDir p = true := by
  obtain ⟨r, hw, hd⟩ := makeDirs_walk h (.nil t _)
  exact isDir_iff.mpr (node?_eq_some.mpr ⟨r, hw, hd⟩)

end MakeDirs

end Tree
end LiveSession.Files
