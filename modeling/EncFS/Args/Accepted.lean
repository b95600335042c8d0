import EncFS.Args.Properties

/-!
# Accepted requests

What `processArgs` returns when it returns `true`. For a mount request, `fuseArgv` holds exactly
the program's name, the mount point, the entries of the options in their order, `-s`, the further
operands and the default flags. An unmount request named exactly one operand, kept as the unmount
point, and runs in the foreground.
-/

namespace EncFS

/-! ### Mount requests -/

/-- The checks of `checkArgs` read only `isDaemon` and the options. -/
lemma mountChecks_congr (env : Env) {out out' : EncFSArgs} (h₁ : out'.isDaemon = out.isDaemon)
    (h₂ : out'.opts = out.opts) : mountChecks env out' = mountChecks env out := by
  simp only [mountChecks, h₁, h₂]

/-- An accepted request passed every check, and has the mount point filled in for fuse. -/
lemma checkArgs_ok {env : Env} {out out' : EncFSArgs} (h : checkArgs env out = .ok out') :
    (∀ c ∈ mountChecks env out, c.1 = false) ∧
      out' = { out with fuseArgv := out.fuseArgv.setMountPoint out.opts.mountPoint } := by
  unfold checkArgs at h
  split at h
  · cases h
  · rename_i hf
    cases h
    exact ⟨fun c hc => by simpa using List.find?_eq_none.mp hf c hc, rfl⟩

/-- The rest of an accepted mount request: the checks pass on what it returns, and `fuseArgv` is
extended by the further operands and the default flags, with the mount point in `fuseArgv[1]`. -/
lemma finishMount_ok {env : Env} {u : Bool} {extra : List String} {out out' : EncFSArgs}
    (h : finishMount env u extra out = .ok out') :
    out'.isDaemon = out.isDaemon ∧ out'.isThreaded = out.isThreaded ∧ out'.opts = out.opts ∧
      (∀ c ∈ mountChecks env out', c.1 = false) ∧
      out'.fuseArgv.argv = (out.fuseArgv.argv ++
        (extra ++ if u then ["-o", "use_ino", "-o", "default_permissions"] else []).map some).set 1
          (some out.opts.mountPoint) := by
  obtain ⟨o₁, h₁, o₂, h₂, h₃⟩ := by simpa only [finishMount, bind_eq_ok] using h
  rw [forwardOperands, pushArgs_eq] at h₁
  split at h₁ <;> cases h₁
  have ho₂ : o₂.isDaemon = out.isDaemon ∧ o₂.isThreaded = out.isThreaded ∧ o₂.opts = out.opts ∧
      o₂.fuseArgv.argv = out.fuseArgv.argv ++
        (extra ++ if u then ["-o", "use_ino", "-o", "default_permissions"] else []).map some := by
    unfold pushDefaultFlags at h₂
    split_ifs at h₂ with hu
    · rw [pushArgs_eq] at h₂
      split at h₂ <;> cases h₂
      simp [hu]
    · cases h₂
      simp [hu]
  obtain ⟨hc, rfl⟩ := checkArgs_ok h₃
  exact ⟨ho₂.1, ho₂.2.1, ho₂.2.2.1, by rwa [mountChecks_congr env rfl rfl],
    by simp only [FuseArgv.setMountPoint, ho₂.2.2.1, ho₂.2.2.2]⟩

/-- An accepted mount request, taken apart: the state the loop ended in, the operands, and the two
directories as `slashTerminate` returned them. -/
lemma processArgs_mount_ok {env : Env} {prog : String} {args : List String}
    {out out' : EncFSArgs} (h : processArgs env prog args out = .ok out')
    (hu : out'.opts.unmount = false) :
    ∃ st r m extra r' m',
      parseOptions env ⟨setDefaults prog out, true⟩ (getoptLong shortOptions longOptions args).1 =
        .ok st ∧
      (getoptLong shortOptions longOptions args).2 = r :: m :: extra ∧
      slashTerminate r = .ok r' ∧ slashTerminate m = .ok m' ∧
      out'.isThreaded = st.out.isThreaded ∧
      out'.opts = { st.out.opts with rootDir := r', unmountPoint := m, mountPoint := m' } ∧
      (∀ c ∈ mountChecks env out', c.1 = false) ∧
      out'.fuseArgv.argv = (st.out.fuseArgv.argv ++
        (if st.out.isThreaded then [] else [some "-s"]) ++
        (extra ++ if st.useDefaultFlags then ["-o", "use_ino", "-o", "default_permissions"]
          else []).map some).set 1 (some m') := by
  obtain ⟨st, hp, ha⟩ := by simpa only [processArgs, bind_eq_ok] using h
  have hu₁ : st.out.opts.unmount = false := (afterOptions_keeps ha).unmount ▸ hu
  obtain ⟨o₁, h₁, hm⟩ := by simpa only [afterOptions, bind_eq_ok] using ha
  have ho₁ : o₁.isThreaded = st.out.isThreaded ∧ o₁.opts = st.out.opts ∧
      o₁.fuseArgv.argv = st.out.fuseArgv.argv ++ (if st.out.isThreaded then [] else [some "-s"]) := by
    rw [pushSingleThread_eq, pushArg_eq] at h₁
    split_ifs at h₁ with ht <;> cases h₁ <;> simp [ht]
  rw [if_neg (by simp [ho₁.2.1, hu₁])] at hm
  generalize (getoptLong shortOptions longOptions args).2 = ops at hm ⊢
  match ops, hm with
  | r :: m :: extra, hm =>
    obtain ⟨r', hr, m', hm', hf⟩ := by simpa only [mountOperands, bind_eq_ok] using hm
    obtain ⟨-, ht, ho, hc, hv⟩ := finishMount_ok hf
    refine ⟨st, r, m, extra, r', m', hp, rfl, hr, hm', ht.trans ho₁.1, ?_, hc, ?_⟩
    · rw [ho, ← ho₁.2.1]
    · rw [hv, ← ho₁.2.2]
  | [], hm => cases hm
  | [_], hm => cases hm

/-- What an accepted mount request passes to fuse: the program's name, the mount point, the
entries of the options in their order, `-s` for a single thread, the operands after the two
directories, and the default flags unless `--no-default-flags`. -/
theorem processArgs_fuseArgv {env : Env} {prog : String} {args : List String}
    {out out' : EncFSArgs} (h : processArgs env prog args out = .ok out')
    (hu : out'.opts.unmount = false) :
    out'.fuseArgv.argv = [some (lastPathElement prog), some out'.opts.mountPoint] ++
      ((getoptLong shortOptions longOptions args).1.flatMap (fuseEntries env.euid) ++
        (if out'.isThreaded then [] else ["-s"]) ++
        (getoptLong shortOptions longOptions args).2.drop 2 ++
        (if (getoptLong shortOptions longOptions args).1.all
            (SwitchCase.ofRes ·.res != .noDefaultFlags)
          then ["-o", "use_ino", "-o", "default_permissions"] else [])).map some := by
  obtain ⟨st, r, m, extra, r', m', hp, hops, -, -, ht, ho, -, hv⟩ := processArgs_mount_ok h hu
  have ha := parseOptions_ok hp
  rw [hv, ht, ho, hops, ha.fuseArgv, ha.useDefaultFlags, Bool.true_and]
  split_ifs <;> simp [setDefaults, FuseArgv.initial]

/-- A foreground mount with a fuse option and a further operand, which is accepted. -/
theorem processArgs_fuseArgv_foreground :
    ∃ out', processArgs Env.user "encfs" ["-f", "-o", "ro", "/raw", "/mnt", "x"]
        EncFSArgs.blank = .ok out' ∧ out'.opts.unmount = false ∧
      out'.fuseArgv.argv = [some (lastPathElement "encfs"), some out'.opts.mountPoint] ++
        ((getoptLong shortOptions longOptions ["-f", "-o", "ro", "/raw", "/mnt", "x"]).1.flatMap
            (fuseEntries Env.user.euid) ++
          (if out'.isThreaded then [] else ["-s"]) ++
          (getoptLong shortOptions longOptions ["-f", "-o", "ro", "/raw", "/mnt", "x"]).2.drop 2 ++
          (if (getoptLong shortOptions longOptions ["-f", "-o", "ro", "/raw", "/mnt", "x"]).1.all
              (SwitchCase.ofRes ·.res != .noDefaultFlags)
            then ["-o", "use_ino", "-o", "default_permissions"] else [])).map some :=
  ⟨_, rfl, rfl, @processArgs_fuseArgv Env.user "encfs" ["-f", "-o", "ro", "/raw", "/mnt", "x"]
    EncFSArgs.blank _ rfl rfl⟩

/-- An accepted unmount request named exactly one operand, kept as the unmount point, and runs in
the foreground. -/
theorem processArgs_unmount {env : Env} {prog : String} {args : List String}
    {out out' : EncFSArgs} (h : processArgs env prog args out = .ok out')
    (hu : out'.opts.unmount = true) :
    (getoptLong shortOptions longOptions args).2 = [out'.opts.unmountPoint] ∧
      out'.isDaemon = false := by
  obtain ⟨st, hp, ha⟩ := by simpa only [processArgs, bind_eq_ok] using h
  have hk := afterOptions_keeps ha
  have hs := parseOptions_ok hp
  have hu₁ : st.out.opts.unmount = true := hk.unmount ▸ hu
  obtain ⟨o₁, h₁, hm⟩ := by simpa only [afterOptions, bind_eq_ok] using ha
  rw [if_pos ((pushSingleThread_keeps h₁).unmount.trans hu₁)] at hm
  refine ⟨?_, ?_⟩
  · unfold unmountOperand at hm
    split at hm
    · rename_i m hops
      cases hm
      exact hops
    · cases hm
  · rw [hs.unmount] at hu₁
    rw [hk.isDaemon, hs.isDaemon]
    simp only [setDefaults, Bool.false_or, List.any_eq_true, beq_iff_eq] at hu₁
    obtain ⟨r, hr, hr'⟩ := hu₁
    simp only [setDefaults, Bool.true_and, List.all_eq_false]
    exact ⟨r, hr, by simp [hr']⟩

/-- `-u /mnt`, which is accepted. -/
theorem processArgs_unmount_mnt :
    ∃ out', processArgs Env.user "encfs" ["-u", "/mnt"] EncFSArgs.blank = .ok out' ∧
      out'.opts.unmount = true ∧
      ((getoptLong shortOptions longOptions ["-u", "/mnt"]).2 = [out'.opts.unmountPoint] ∧
        out'.isDaemon = false) :=
  ⟨_, rfl, rfl, @processArgs_unmount Env.user "encfs" ["-u", "/mnt"] EncFSArgs.blank _ rfl rfl⟩

end EncFS
