import EncFS.Args.Spelling

/-!
# Options anywhere

Without `POSIXLY_CORRECT` in the environment, `getopt_long` permutes: it returns the options of
`argv` in their order and leaves the operands, in theirs, at the end. So `processArgs` does not
depend on where the options stand among the operands: an operand may move past options that take
nothing from the elements after them (`processArgs_operand_past_options`). With `POSIXLY_CORRECT`
set, glibc stops at the first operand and this fails: `encfs /raw -i 5 -f /mnt` then takes `-i`
for the mount point and hands `5 -f /mnt` to fuse. An option `getopt_long` does not know is reported with a
diagnostic and returned as `'?'`, which the `switch` ignores, so such an element changes nothing
`processArgs` does (`processArgs_unknown_option`).

Both rest on one fact about the scan: from a point where nothing is pending, the scan of
`pre ++ rest` is the scan of `pre` followed by that of `rest` (`getoptScan_append`).
-/

namespace EncFS

section Scan

variable {optstring : List Char} {longopts : List LongOption}

/-- The operands the scan leaves are those given to it, followed by those it finds. -/
lemma getoptScan_operands (p : Option OptVal) (l ops : List String) :
    getoptScan optstring longopts p l ops =
      ((getoptScan optstring longopts p l []).1, ops ++ (getoptScan optstring longopts p l []).2) := by
  induction l generalizing p ops with
  | nil => cases p <;> simp [getoptScan]
  | cons a l ih =>
    cases p with
    | some v => simp only [getoptScan, ih none ops]
    | none =>
      by_cases h₁ : a = "--"
      · simp [getoptScan, h₁]
      · by_cases h₂ : isNonOption a = true
        · rw [getoptScan_nonOption _ _ h₂, getoptScan_nonOption _ _ h₂, ih none (ops ++ [a]),
            ih none ([] ++ [a])]
          simp
        · simp only [Bool.not_eq_true] at h₂
          rw [getoptScan_option _ _ h₁ h₂, getoptScan_option _ _ h₁ h₂, ih _ ops]

/-- From a point where nothing is pending, the scan of `pre ++ rest` goes on with `rest` from
where the scan of `pre` stopped. -/
lemma getoptScan_append {p : Option OptVal} {pre : List String}
    (hp : pendingAfter optstring longopts p pre = some none) (rest ops : List String) :
    getoptScan optstring longopts p (pre ++ rest) ops =
      ((getoptScan optstring longopts p pre ops).1 ++
          (getoptScan optstring longopts none rest (getoptScan optstring longopts p pre ops).2).1,
        (getoptScan optstring longopts none rest (getoptScan optstring longopts p pre ops).2).2) := by
  induction pre generalizing p ops with
  | nil =>
    simp only [pendingAfter, Option.some.injEq] at hp
    subst hp
    simp [getoptScan]
  | cons x pre ih =>
    cases p with
    | some v =>
      simp only [pendingAfter] at hp
      simp [getoptScan, ih hp]
    | none =>
      simp only [pendingAfter] at hp
      split_ifs at hp with h₁ h₂
      · rw [List.cons_append, getoptScan_nonOption _ _ h₂, getoptScan_nonOption _ _ h₂, ih hp]
      · simp only [Bool.not_eq_true] at h₂
        rw [List.cons_append, getoptScan_option _ _ h₁ h₂, getoptScan_option _ _ h₁ h₂, ih hp]
        simp

/-- An operand may move past elements that hold only options and their arguments. -/
lemma getoptScan_operand_past {a : String} {mid : List String} (ha : isNonOption a = true)
    (hmid : pendingAfter optstring longopts none mid = some none)
    (hops : (getoptScan optstring longopts none mid []).2 = []) (post ops : List String) :
    getoptScan optstring longopts none (a :: (mid ++ post)) ops =
      getoptScan optstring longopts none (mid ++ a :: post) ops := by
  rw [getoptScan_nonOption _ _ ha, getoptScan_append hmid, getoptScan_append hmid,
    getoptScan_operands none mid (ops ++ [a]), getoptScan_operands none mid ops, hops,
    getoptScan_nonOption _ _ ha]
  simp

end Scan

/-- Where the scan reads an option element, `processArgs` depends on what follows only through
its scan. -/
lemma processArgs_congr_after {pre : List String}
    (hp : pendingAfter shortOptions longOptions none pre = some none) {s t : List String}
    (h : ∀ ops, getoptScan shortOptions longOptions none s ops =
      getoptScan shortOptions longOptions none t ops)
    (env : Env) (prog : String) (out : EncFSArgs) :
    processArgs env prog (pre ++ s) out = processArgs env prog (pre ++ t) out := by
  simp only [processArgs, getoptLong, getoptScan_append hp, h]

/-- An operand may move past any options that take their arguments from the elements among
them, without changing what `processArgs` does, in an environment without `POSIXLY_CORRECT`:
`encfs /raw -i 5 -f /mnt` is `encfs -i 5 -f /raw /mnt`. -/
theorem processArgs_operand_past_options {a : String} {pre mid : List String}
    (ha : isNonOption a = true)
    (hpre : pendingAfter shortOptions longOptions none pre = some none)
    (hmid : pendingAfter shortOptions longOptions none mid = some none)
    (hops : (getoptScan shortOptions longOptions none mid []).2 = [])
    (env : Env) (prog : String) (post : List String) (out : EncFSArgs) :
    processArgs env prog (pre ++ a :: (mid ++ post)) out =
      processArgs env prog (pre ++ (mid ++ a :: post)) out :=
  processArgs_congr_after hpre (getoptScan_operand_past ha hmid hops post) env prog out

/-- `encfs /raw -i 5 -f /mnt`, with the raw directory moved past `-i 5 -f`. -/
theorem processArgs_operand_past_options_raw :
    isNonOption "/raw" = true ∧ pendingAfter shortOptions longOptions none [] = some none ∧
      pendingAfter shortOptions longOptions none ["-i", "5", "-f"] = some none ∧
      (getoptScan shortOptions longOptions none ["-i", "5", "-f"] []).2 = [] ∧
      processArgs Env.user "encfs" ([] ++ "/raw" :: (["-i", "5", "-f"] ++ ["/mnt"]))
          EncFSArgs.blank =
        processArgs Env.user "encfs" ([] ++ (["-i", "5", "-f"] ++ "/raw" :: ["/mnt"]))
          EncFSArgs.blank :=
  ⟨rfl, rfl, rfl, rfl,
    @processArgs_operand_past_options "/raw" [] ["-i", "5", "-f"] rfl rfl rfl rfl Env.user "encfs"
      ["/mnt"] EncFSArgs.blank⟩

lemma parseOptions_append (env : Env) (st : ParseState) (l₁ l₂ : List GetoptResult) :
    parseOptions env st (l₁ ++ l₂) = parseOptions env st l₁ >>= (parseOptions env · l₂) :=
  List.foldlM_append _ _ _ _

/-- The `switch` does nothing for `'?'`. -/
lemma parseOptions_errors (env : Env) (st : ParseState) {rs : List GetoptResult}
    (h : ∀ r ∈ rs, r = .error) : parseOptions env st rs = .ok st := by
  induction rs with
  | nil => rfl
  | cons r rs ih =>
    rw [h r (List.mem_cons_self _ _)]
    exact ih fun r hr => h r (List.mem_cons_of_mem _ hr)

/-- An element that `getopt_long` reports only as unknown options, each returned as `'?'` after
its diagnostic, changes nothing `processArgs` does, wherever it stands as an option:
`encfs --bogus /raw /mnt` is `encfs /raw /mnt`. -/
theorem processArgs_unknown_option {u : String} {pre : List String} (hu : u ≠ "--")
    (hu' : isNonOption u = false)
    (hunk : ∀ r ∈ (optionElement shortOptions longOptions u).1, r = .error)
    (hnp : (optionElement shortOptions longOptions u).2 = none)
    (hpre : pendingAfter shortOptions longOptions none pre = some none)
    (env : Env) (prog : String) (post : List String) (out : EncFSArgs) :
    processArgs env prog (pre ++ u :: post) out = processArgs env prog (pre ++ post) out := by
  simp only [processArgs, getoptLong, getoptScan_append hpre, getoptScan_option _ _ hu hu', hnp,
    parseOptions_append, bind_assoc, parseOptions_errors env _ hunk, ok_bind]

/-- `--bogus` in front of a mount of `/raw` at `/mnt`. -/
theorem processArgs_unknown_option_bogus :
    "--bogus" ≠ "--" ∧ isNonOption "--bogus" = false ∧
      (∀ r ∈ (optionElement shortOptions longOptions "--bogus").1, r = .error) ∧
      (optionElement shortOptions longOptions "--bogus").2 = none ∧
      pendingAfter shortOptions longOptions none [] = some none ∧
      processArgs Env.user "encfs" ([] ++ "--bogus" :: ["/raw", "/mnt"]) EncFSArgs.blank =
        processArgs Env.user "encfs" ([] ++ ["/raw", "/mnt"]) EncFSArgs.blank :=
  ⟨by decide, rfl, by decide, rfl, rfl,
    @processArgs_unknown_option "--bogus" [] (by decide) rfl (by decide) rfl rfl Env.user "encfs"
      ["/raw", "/mnt"] EncFSArgs.blank⟩

end EncFS
