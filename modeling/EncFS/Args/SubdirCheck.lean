import EncFS.Args.Basic

/-!
# The raw directory below the mount point

`processArgs` rejects a raw directory that lies below the mount point with a test on characters:
the slash-terminated mount point is a prefix of the slash-terminated raw directory. Cut into
`/`-separated components, a slash-terminated path is its components each followed by a `/`, so
the character test is exactly a test on components: the mount point's components are a prefix of
the raw directory's. A sibling that only shares a prefix of a name is never taken for a
subdirectory.
-/

namespace EncFS

/-- The `/`-separated components of a path: `a/b` gives `a, b`, `a/b/` gives `a, b` and an empty
last component, and `/` gives two empty components. -/
def splitPath : List Char → List (List Char)
  | [] => [[]]
  | c :: cs =>
    if c = '/' then [] :: splitPath cs
    else match splitPath cs with
      | [] => [[c]]
      | p :: ps => (c :: p) :: ps

/-- The components of a path, without the empty component a trailing `/` leaves. -/
def pathComponents (path : String) : List (List Char) :=
  if (splitPath path.toList).getLast? = some [] then (splitPath path.toList).dropLast
  else splitPath path.toList

/-- Each component followed by a `/`. -/
def joinSlash (ps : List (List Char)) : List Char :=
  ps.flatMap (· ++ ['/'])

lemma splitPath_ne_nil (s : List Char) : splitPath s ≠ [] := by
  cases s with
  | nil => simp [splitPath]
  | cons c cs => unfold splitPath; split_ifs <;> [simp; (split <;> simp)]

/-- Components hold no `/`. -/
lemma slash_not_mem_splitPath (s : List Char) : ∀ p ∈ splitPath s, '/' ∉ p := by
  induction s with
  | nil => simp [splitPath]
  | cons c cs ih =>
    unfold splitPath
    split_ifs with hc
    · simpa using ih
    · split
      · simpa using Ne.symm hc
      · rename_i p ps hps
        rw [hps] at ih
        simp only [List.mem_cons, forall_eq_or_imp] at ih ⊢
        exact ⟨by simpa [Ne.symm hc] using ih.1, ih.2⟩

/-- The components joined back, each with its `/`, give the path with one `/` more. -/
lemma joinSlash_splitPath (s : List Char) : joinSlash (splitPath s) = s ++ ['/'] := by
  induction s with
  | nil => rfl
  | cons c cs ih =>
    unfold splitPath
    split_ifs with hc
    · simp [joinSlash, hc] at ih ⊢; exact ih
    · split
      · rename_i h; exact absurd h (splitPath_ne_nil cs)
      · rename_i p ps hps
        rw [hps] at ih
        simpa [joinSlash] using ih

/-- A path ending in `/` has the components of what precedes it, and an empty one. -/
lemma splitPath_append_slash (s : List Char) : splitPath (s ++ ['/']) = splitPath s ++ [[]] := by
  induction s with
  | nil => rfl
  | cons c cs ih =>
    rw [List.cons_append, splitPath, splitPath, ih]
    split_ifs
    · rfl
    · obtain ⟨p, ps, h⟩ := List.exists_cons_of_ne_nil (splitPath_ne_nil cs)
      rw [h]; rfl

/-- Joined components are empty or end in `/`. -/
lemma joinSlash_getLast? (ps : List (List Char)) :
    joinSlash ps = [] ∨ (joinSlash ps).getLast? = some '/' := by
  rcases ps.eq_nil_or_concat with rfl | ⟨qs, q, rfl⟩
  · exact .inl rfl
  · right; simp [joinSlash, List.getLast?_append]

/-- A path not ending in `/` has a non-empty last component. -/
lemma splitPath_getLast?_ne {s : List Char} (hs : s ≠ []) (h : s.getLast? ≠ some '/') :
    (splitPath s).getLast? ≠ some [] := by
  intro hl
  have hsplit := List.dropLast_append_getLast? _ hl
  have hjoin := joinSlash_splitPath s
  rw [← hsplit] at hjoin
  simp only [joinSlash, List.flatMap_append, List.flatMap_singleton, List.nil_append,
    List.append_cancel_right_eq] at hjoin
  rcases joinSlash_getLast? (splitPath s).dropLast with h' | h' <;>
    simp only [joinSlash, hjoin] at h' <;> simp_all

/-- A non-empty path, slash terminated, is its components each followed by a `/`. -/
lemma slashTerminate_eq_joinSlash {s : String} (hs : s ≠ "") :
    slashTerminate s = .ok ⟨joinSlash (pathComponents s)⟩ := by
  obtain ⟨cs⟩ := s
  rw [slashTerminate_eq]
  rcases cs.eq_nil_or_concat with rfl | ⟨l, c, rfl⟩
  · exact absurd rfl hs
  · simp only [List.concat_eq_append, String.toList, List.getLast?_append, List.getLast?_singleton,
      pathComponents]
    dsimp only [Option.or]
    by_cases hc : c = '/'
    · subst hc
      simp [splitPath_append_slash, joinSlash_splitPath]
    · have := splitPath_getLast?_ne (s := l ++ [c]) (by simp) (by simpa using hc)
      simp only [hc, this, ne_eq, not_false_eq_true, if_true, if_false, joinSlash_splitPath]
      rfl

/-- Two components without `/`, each followed by its `/`: one run is a prefix of the other exactly
when the components are equal and the rests are prefixes. -/
lemma append_slash_prefix_iff {p q : List Char} (hp : '/' ∉ p) (hq : '/' ∉ q)
    (l l' : List Char) : p ++ '/' :: l <+: q ++ '/' :: l' ↔ p = q ∧ l <+: l' := by
  induction p generalizing q with
  | nil =>
    cases q with
    | nil => simp
    | cons d q => simp only [List.mem_cons, not_or] at hq; simp [hq.1]
  | cons c p ih =>
    simp only [List.mem_cons, not_or] at hp
    cases q with
    | nil => simp [Ne.symm hp.1]
    | cons d q =>
      simp only [List.mem_cons, not_or] at hq
      simp [ih hp.2 hq.2, and_assoc]

/-- Joining keeps and reflects prefixes of component lists whose components hold no `/`. -/
lemma joinSlash_prefix_iff {ps qs : List (List Char)} (hp : ∀ p ∈ ps, '/' ∉ p)
    (hq : ∀ q ∈ qs, '/' ∉ q) : joinSlash ps <+: joinSlash qs ↔ ps <+: qs := by
  induction ps generalizing qs with
  | nil => simp [joinSlash]
  | cons p ps ih =>
    simp only [List.forall_mem_cons] at hp
    cases qs with
    | nil => simp [joinSlash]
    | cons q qs =>
      simp only [List.forall_mem_cons] at hq
      simp only [joinSlash, List.flatMap_cons, List.append_assoc, List.singleton_append,
        List.cons_prefix_cons] at ih ⊢
      rw [append_slash_prefix_iff hp.1 hq.1, ih hp.2 hq.2]

/-- Components of `pathComponents` hold no `/`. -/
lemma slash_not_mem_pathComponents (s : String) : ∀ p ∈ pathComponents s, '/' ∉ p := by
  unfold pathComponents
  split_ifs
  · exact fun p hp => slash_not_mem_splitPath _ p (List.dropLast_subset _ hp)
  · exact slash_not_mem_splitPath _

/-- The test `testMountPoint == rootDir.substr(0, testMountPoint.length())` is a prefix test. -/
lemma rootDirBelowMountPoint_iff (rootDir mountPoint : String) :
    rootDirBelowMountPoint rootDir mountPoint = true ↔ mountPoint.toList <+: rootDir.toList := by
  rw [List.prefix_iff_eq_take, rootDirBelowMountPoint, beq_iff_eq, String.ext_iff]
  exact Iff.rfl

/-- The subdirectory check of `processArgs`, on its two slash-terminated operands, rejects exactly
when the mount point's components are a prefix of the raw directory's, one trailing empty
component dropped from each. -/
theorem subdirCheck_iff_components_prefix (r m : String) (hr : r ≠ "") (hm : m ≠ "") :
    ∃ r' m', slashTerminate r = .ok r' ∧ slashTerminate m = .ok m' ∧
      (rootDirBelowMountPoint r' m' = true ↔ pathComponents m <+: pathComponents r) :=
  ⟨_, _, slashTerminate_eq_joinSlash hr, slashTerminate_eq_joinSlash hm, by
    rw [rootDirBelowMountPoint_iff]
    exact joinSlash_prefix_iff (slash_not_mem_pathComponents m) (slash_not_mem_pathComponents r)⟩

/-- The subdirectory check at `r = "/mnt2"`, `m = "/mnt"`: the raw directory's name starts with the
mount point's, but its path components do not, and the check lets the request through. -/
theorem subdirCheck_iff_components_prefix_mnt :
    "/mnt2" ≠ "" ∧ "/mnt" ≠ "" ∧ ∃ r' m', slashTerminate "/mnt2" = .ok r' ∧
      slashTerminate "/mnt" = .ok m' ∧
      (rootDirBelowMountPoint r' m' = true ↔ pathComponents "/mnt" <+: pathComponents "/mnt2") :=
  ⟨by decide, by decide, subdirCheck_iff_components_prefix "/mnt2" "/mnt" (by decide) (by decide)⟩

example : (do pure (rootDirBelowMountPoint (← slashTerminate "/mnt2") (← slashTerminate "/mnt"))) =
    (.ok false : Except Halt Bool) := rfl

example : (do pure (rootDirBelowMountPoint (← slashTerminate "/mnt/") (← slashTerminate "/mnt"))) =
    (.ok true : Except Halt Bool) := rfl

example : (do pure (rootDirBelowMountPoint (← slashTerminate "a/b") (← slashTerminate "/"))) =
    (.ok false : Except Halt Bool) := rfl

end EncFS
