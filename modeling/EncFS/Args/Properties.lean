import EncFS.Args.Loop

/-!
# Properties of `processArgs`

The phases after the option loop, one lemma each, and how `processArgs` can stop for each
argument vector: it reads out of range only through an empty directory operand, the `rAssert` of
`PUSHARG` throws exactly when the entries asked of `fuseArgv` outnumber `MaxFuseArgs` and the run
has not read out of range before, and it exits exactly at a `-V` or `-H` whose preceding entries
fit.
-/

namespace EncFS

/-! ### The phases after the loop -/

@[simp] lemma setDefaults_fuseArgc (prog : String) (out : EncFSArgs) :
    (setDefaults prog out).fuseArgc = 2 := rfl

lemma pushSingleThread_eq (out : EncFSArgs) :
    pushSingleThread out = if out.isThreaded then .ok out else pushArg "-s" out := by
  cases h : out.isThreaded <;> simp [pushSingleThread, h]

/-- The checks of a mount request only ever reject. -/
lemma checkArgs_error {env : Env} {out : EncFSArgs} {e : Halt} (h : checkArgs env out = .error e) :
    ∃ msg, e = .reject msg := by
  unfold checkArgs at h
  split at h <;> cases h; exact ⟨_, rfl⟩

lemma unmountOperand_error {out : EncFSArgs} {ops : List String} {e : Halt}
    (h : unmountOperand out ops = .error e) : e = .reject "Expecting one argument, aborting." := by
  unfold unmountOperand at h
  split at h <;> cases h; rfl

lemma pushArgs_error {l : List String} {out : EncFSArgs} {e : Halt} (h : pushArgs l out = .error e) :
    e = .assertFailed "out->fuseArgc < MaxFuseArgs" := by
  rw [pushArgs_eq] at h
  split at h <;> cases h; rfl

/-- The rest of a mount request stops only at a capacity check, or at a check that rejects. -/
lemma finishMount_error {env : Env} {u : Bool} {extra : List String} {out : EncFSArgs} {e : Halt}
    (h : finishMount env u extra out = .error e) :
    e = .assertFailed "out->fuseArgc < MaxFuseArgs" ∨ ∃ msg, e = .reject msg := by
  simp only [finishMount, forwardOperands, bind_eq_error] at h
  rcases h with h | ⟨_, -, h | ⟨_, -, h⟩⟩
  · exact .inl (pushArgs_error h)
  · unfold pushDefaultFlags at h
    split_ifs at h
    · exact .inl (pushArgs_error h)
    · cases h
  · exact .inr (checkArgs_error h)

/-- A mount request with an empty raw directory or mount point reads `result[-1]`. -/
lemma mountOperands_empty (env : Env) (u : Bool) (out : EncFSArgs) {r m : String}
    (extra : List String) (h : r = "" ∨ m = "") :
    mountOperands env u out (r :: m :: extra) = .error .outOfRange := by
  rcases h with rfl | rfl
  · rfl
  · simp only [mountOperands, bind_eq_error]
    cases hr : slashTerminate r with
    | error e => exact .inl (by rw [← (slashTerminate_error hr).2])
    | ok r' => exact .inr ⟨r', rfl, .inl rfl⟩

/-- The rest of a mount request throws exactly when its further operands and default flags
outgrow `fuseArgv`. -/
lemma finishMount_assert_iff (env : Env) (useDefaultFlags : Bool) (extra : List String)
    (out : EncFSArgs) :
    (∃ c, finishMount env useDefaultFlags extra out = .error (.assertFailed c)) ↔
      maxFuseArgs < out.fuseArgc + extra.length + if useDefaultFlags then 4 else 0 := by
  have hc : ∀ out' : EncFSArgs, ¬∃ c, checkArgs env out' = .error (.assertFailed c) :=
    fun _ ⟨_, h⟩ => by simpa using checkArgs_error h
  rw [finishMount, forwardOperands, pushArgs_eq]
  by_cases h₁ : out.fuseArgc + extra.length ≤ maxFuseArgs
  · rw [dif_pos h₁, ok_bind]
    cases useDefaultFlags
    · simp only [pushDefaultFlags, Bool.false_eq_true, if_false, pure_eq, ok_bind,
        iff_false_intro (hc _)]
      simp; omega
    · simp only [pushDefaultFlags, if_true, pushArgs_eq, EncFSArgs.fuseArgc,
        FuseArgv.append_argv, List.length_append, List.length_map]
      split_ifs with h₂
      · rw [ok_bind, iff_false_intro (hc _)]
        simp [EncFSArgs.fuseArgc] at h₂ ⊢; omega
      · simp [EncFSArgs.fuseArgc] at h₂ ⊢; omega
  · rw [dif_neg h₁, error_bind]
    simp; split <;> omega

/-- The entries a mount request pushes after the loop: the further operands and the default flags.
They are counted for every request with two operands, also where an empty one has made
`slashTerminate` read out of range first. -/
def mountDemand (useDefaultFlags : Bool) : List String → Nat
  | _ :: _ :: extra => extra.length + if useDefaultFlags then 4 else 0
  | _ => 0

/-- A mount request throws exactly when its further operands and default flags outgrow
`fuseArgv`, unless an empty directory operand has made it read out of range first. -/
lemma mountOperands_assert_iff (env : Env) (useDefaultFlags : Bool) (out : EncFSArgs)
    (ops : List String) :
    (∃ c, mountOperands env useDefaultFlags out ops = .error (.assertFailed c)) ↔
      maxFuseArgs < out.fuseArgc + mountDemand useDefaultFlags ops ∧
        mountOperands env useDefaultFlags out ops ≠ .error .outOfRange := by
  have hle : out.fuseArgc ≤ maxFuseArgs := out.fuseArgv.length_le
  match ops with
  | [] | [_] => simp only [mountOperands, mountDemand, throw_eq]; simp; omega
  | r :: m :: extra =>
    by_cases hrm : r = "" ∨ m = ""
    · simp [mountOperands_empty env useDefaultFlags out extra hrm]
    · obtain ⟨r', hr⟩ := slashTerminate_ok (not_or.mp hrm).1
      obtain ⟨m', hm⟩ := slashTerminate_ok (not_or.mp hrm).2
      have hne : ∀ out', finishMount env useDefaultFlags extra out' ≠ .error .outOfRange :=
        fun _ h => by rcases finishMount_error h with h | ⟨_, h⟩ <;> cases h
      simp only [mountOperands, hr, hm, ok_bind, finishMount_assert_iff, mountDemand,
        Nat.add_assoc, ne_eq, hne, not_false_eq_true, and_true]
      rfl

/-- After the loop, `processArgs` throws exactly when `-s`, and for a mount request its further
operands and default flags, outgrow `fuseArgv`, unless it has read out of range first. -/
lemma afterOptions_assert_iff (env : Env) (st : ParseState) (ops : List String) :
    (∃ c, afterOptions env st ops = .error (.assertFailed c)) ↔
      maxFuseArgs < st.out.fuseArgc + (if st.out.isThreaded then 0 else 1) +
        (if st.out.opts.unmount then 0 else mountDemand st.useDefaultFlags ops) ∧
        afterOptions env st ops ≠ .error .outOfRange := by
  have hu : ∀ out, ¬∃ c, unmountOperand out ops = .error (.assertFailed c) :=
    fun _ ⟨_, h⟩ => by simpa using unmountOperand_error h
  have hle : st.out.fuseArgc ≤ maxFuseArgs := st.out.fuseArgv.length_le
  rw [afterOptions, pushSingleThread_eq]
  by_cases ht : st.out.isThreaded
  · simp only [ht, if_true, ok_bind, Nat.add_zero]
    by_cases hm : st.out.opts.unmount
    · simp only [hm, if_true, iff_false_intro (hu _), false_iff, not_and, not_lt]; omega
    · simp only [hm, Bool.false_eq_true, if_false]; exact mountOperands_assert_iff ..
  · simp only [ht, if_false, Bool.false_eq_true, pushArg_eq]
    by_cases h₁ : st.out.fuseArgc < maxFuseArgs
    · simp only [dif_pos h₁, ok_bind]
      by_cases hm : st.out.opts.unmount
      · simp only [hm, if_true, iff_false_intro (hu _), false_iff, not_and, not_lt]; omega
      · simp only [hm, Bool.false_eq_true, if_false, mountOperands_assert_iff]
        simp [EncFSArgs.fuseArgc]
    · simp only [dif_neg h₁, error_bind]
      simp; split <;> omega

/-! ### What the phases after the loop keep -/

/-- The fields that the phases after the loop leave as the loop set them. -/
structure EncFSArgs.Keeps (out out' : EncFSArgs) : Prop where
  isDaemon : out'.isDaemon = out.isDaemon
  isThreaded : out'.isThreaded = out.isThreaded
  idleTimeout : out'.idleTimeout = out.idleTimeout
  unmount : out'.opts.unmount = out.opts.unmount

lemma EncFSArgs.Keeps.trans {a b c : EncFSArgs} (h₁ : a.Keeps b) (h₂ : b.Keeps c) : a.Keeps c :=
  ⟨h₂.isDaemon.trans h₁.isDaemon, h₂.isThreaded.trans h₁.isThreaded,
    h₂.idleTimeout.trans h₁.idleTimeout, h₂.unmount.trans h₁.unmount⟩

section Keeps

variable {env : Env} {out out' : EncFSArgs}

lemma pushArgs_keeps {l : List String} (h : pushArgs l out = .ok out') : out.Keeps out' := by
  rw [pushArgs_eq] at h
  split at h <;> cases h; exact ⟨rfl, rfl, rfl, rfl⟩

lemma pushSingleThread_keeps (h : pushSingleThread out = .ok out') : out.Keeps out' := by
  rw [pushSingleThread_eq, pushArg_eq] at h
  split_ifs at h <;> cases h <;> exact ⟨rfl, rfl, rfl, rfl⟩

lemma checkArgs_keeps (h : checkArgs env out = .ok out') : out.Keeps out' := by
  unfold checkArgs at h
  split at h <;> cases h; exact ⟨rfl, rfl, rfl, rfl⟩

lemma finishMount_keeps {u : Bool} {extra : List String} (h : finishMount env u extra out = .ok out') :
    out.Keeps out' := by
  obtain ⟨o₁, h₁, o₂, h₂, h₃⟩ := by simpa only [finishMount, bind_eq_ok] using h
  have h₂' : o₁.Keeps o₂ := by
    unfold pushDefaultFlags at h₂
    split_ifs at h₂
    · exact pushArgs_keeps h₂
    · cases h₂; exact ⟨rfl, rfl, rfl, rfl⟩
  exact (pushArgs_keeps h₁).trans (h₂'.trans (checkArgs_keeps h₃))

lemma afterOptions_keeps {st : ParseState} {ops : List String}
    (h : afterOptions env st ops = .ok out') : st.out.Keeps out' := by
  obtain ⟨o₁, h₁, h₂⟩ := by simpa only [afterOptions, bind_eq_ok] using h
  refine (pushSingleThread_keeps h₁).trans ?_
  split_ifs at h₂
  · unfold unmountOperand at h₂
    split at h₂ <;> cases h₂; exact ⟨rfl, rfl, rfl, rfl⟩
  · unfold mountOperands at h₂
    split at h₂
    · obtain ⟨_, -, _, -, h₃⟩ := by simpa only [bind_eq_ok] using h₂
      have h₄ := finishMount_keeps h₃
      exact ⟨h₄.isDaemon, h₄.isThreaded, h₄.idleTimeout, h₄.unmount⟩
    · cases h₂

end Keeps

/-- An accepted request keeps the time of the last `--idle`, read by `strtol` and narrowed to an
`int`, or `0` without one. -/
lemma processArgs_idleTimeout {env : Env} {prog : String} {args : List String}
    {out out' : EncFSArgs} (h : processArgs env prog args out = .ok out') :
    out'.idleTimeout = ((lastIdleArg none (getoptLong shortOptions longOptions args).1).map
      (intOfLong ∘ strtol)).getD 0 := by
  obtain ⟨st, hp, ha⟩ := by simpa only [processArgs, bind_eq_ok] using h
  rw [(afterOptions_keeps ha).idleTimeout, (parseOptions_ok hp).idleTimeout]
  rfl

/-! ### Concrete requests -/

/-- A user who is not root, on a system where every directory exists. -/
def Env.user : Env := ⟨1000, fun _ => true, fun _ _ _ => true⟩

/-- An `EncFS_Args` with every string empty and every flag clear. -/
def EncFSArgs.blank : EncFSArgs :=
  ⟨false, false, false, 0, ⟨[], by decide⟩, "",
    ⟨"", "", "", false, false, false, false, false, "", false, false, false, false, false, false,
      false, false, false, .prompt, "", false⟩⟩

/-! ### Where `processArgs` reads out of range -/

/-- After the loop `processArgs` never exits. -/
lemma afterOptions_error_ne_exit {env : Env} {st : ParseState} {ops : List String} {e : Halt}
    (h : afterOptions env st ops = .error e) : e ≠ .exit := by
  simp only [afterOptions, bind_eq_error] at h
  rcases h with h | ⟨o, -, h⟩
  · rw [pushSingleThread_eq, pushArg_eq] at h
    split_ifs at h
    cases h
    simp
  · split_ifs at h
    · simp [unmountOperand_error h]
    · unfold mountOperands at h
      split at h
      · simp only [bind_eq_error] at h
        rcases h with h | ⟨_, -, h | ⟨_, -, h⟩⟩
        · simp [(slashTerminate_error h).2]
        · simp [(slashTerminate_error h).2]
        · rcases finishMount_error h with rfl | ⟨_, rfl⟩ <;> simp
      · cases h
        simp

/-- `processArgs` reads outside a string only in `slashTerminate`, on an empty raw directory or
mount point of a mount request. -/
theorem processArgs_outOfRange {env : Env} {prog : String} {args : List String} {out : EncFSArgs}
    (h : processArgs env prog args out = .error .outOfRange) :
    ∃ r m extra, (getoptLong shortOptions longOptions args).2 = r :: m :: extra ∧
      (r = "" ∨ m = "") := by
  simp only [processArgs, afterOptions, bind_eq_error] at h
  rcases h with h | ⟨st, -, h | ⟨o, -, h⟩⟩
  · rcases parseOptions_error h with ⟨h, -⟩ | ⟨c, h⟩ <;> cases h
  · rw [pushSingleThread_eq, pushArg_eq] at h
    split_ifs at h; cases h
  · split_ifs at h
    · cases unmountOperand_error h
    · generalize (getoptLong shortOptions longOptions args).2 = ops at h ⊢
      match ops, h with
      | r :: m :: extra, h =>
        simp only [mountOperands, bind_eq_error] at h
        rcases h with h | ⟨_, -, h | ⟨_, -, h⟩⟩
        · exact ⟨r, m, extra, rfl, .inl (slashTerminate_error h).1⟩
        · exact ⟨r, m, extra, rfl, .inr (slashTerminate_error h).1⟩
        · rcases finishMount_error h with h | ⟨_, h⟩ <;> cases h
      | [], h => cases h
      | [_], h => cases h

/-- `-f "" /mnt`, whose raw directory is empty. -/
theorem processArgs_outOfRange_empty :
    processArgs Env.user "encfs" ["-f", "", "/mnt"] EncFSArgs.blank = .error .outOfRange ∧
      ∃ r m extra, (getoptLong shortOptions longOptions ["-f", "", "/mnt"]).2 = r :: m :: extra ∧
        (r = "" ∨ m = "") :=
  ⟨rfl, @processArgs_outOfRange Env.user "encfs" ["-f", "", "/mnt"] EncFSArgs.blank rfl⟩

/-- An empty raw directory reaches `slashTerminate("")`, which reads `result[-1]`. -/
theorem processArgs_empty_rootDir_outOfRange :
    processArgs Env.user "encfs" ["-f", "", "/mnt"] EncFSArgs.blank = .error .outOfRange := rfl

/-! ### When the capacity check throws -/

/-- The entries of `fuseArgv` that `processArgs` asks for on `args`, counted as if the vector had
room for all of them: the program name and the mount point's slot, the entries of the options up
to the first `-V` or `-H`, and when the loop gets through, `-s`, then for a mount request the
further operands and the default flags, also where an empty directory operand stops the run
before them. -/
def fuseArgDemand (euid : Nat) (args : List String) : Nat :=
  let rs := (getoptLong shortOptions longOptions args).1
  2 + ((rs.takeWhile (!·.exits)).map (fuseEntries euid · |>.length)).sum +
    if rs.any (·.exits) then 0
    else (if rs.all (SwitchCase.ofRes ·.res != .singleThread) then 0 else 1) +
      if rs.any (SwitchCase.ofRes ·.res == .unmount) then 0
      else mountDemand (rs.all (SwitchCase.ofRes ·.res != .noDefaultFlags))
        (getoptLong shortOptions longOptions args).2

/-- `-f "" /mnt` with 26 further operands asks for 33 entries, but reads out of range before the
first of them is forwarded. -/
example :
    maxFuseArgs < fuseArgDemand 1000 (["-f", "", "/mnt"] ++ List.replicate 26 "x") ∧
      processArgs Env.user "encfs" (["-f", "", "/mnt"] ++ List.replicate 26 "x") EncFSArgs.blank =
        .error .outOfRange :=
  ⟨by decide, rfl⟩

/-- `processArgs` exits, for `-V` or `-H`, exactly when one is given and the entries that the
options before the first of them push fit `fuseArgv`. -/
theorem processArgs_exit_iff (env : Env) (prog : String) (args : List String) (out : EncFSArgs) :
    processArgs env prog args out = .error .exit ↔
      (getoptLong shortOptions longOptions args).1.any (·.exits) ∧
        2 + (((getoptLong shortOptions longOptions args).1.takeWhile (!·.exits)).map
          (fuseEntries env.euid · |>.length)).sum ≤ maxFuseArgs := by
  unfold processArgs
  generalize (getoptLong shortOptions longOptions args).1 = rs
  generalize (getoptLong shortOptions longOptions args).2 = ops
  have hpa := parseOptions_assert_iff env ⟨setDefaults prog out, true⟩ rs
  rw [setDefaults_fuseArgc] at hpa
  cases hp : parseOptions env ⟨setDefaults prog out, true⟩ rs with
  | error e =>
    rw [hp] at hpa
    rw [error_bind, Except.error.injEq]
    rcases parseOptions_error hp with ⟨rfl, r, hr, hx⟩ | ⟨c, rfl⟩
    · refine iff_of_true rfl ⟨List.any_eq_true.mpr ⟨r, hr, hx⟩, not_lt.mp fun hlt => ?_⟩
      obtain ⟨_, hc⟩ := hpa.mpr hlt
      cases hc
    · exact iff_of_false (by simp) fun ⟨_, hle⟩ => absurd (hpa.mp ⟨c, rfl⟩) (not_lt.mpr hle)
  | ok st =>
    have hx : rs.any (·.exits) = false := by simpa using (parseOptions_ok hp).continues
    rw [ok_bind, hx]
    exact iff_of_false (fun h => afterOptions_error_ne_exit h rfl) (by simp)

end EncFS
