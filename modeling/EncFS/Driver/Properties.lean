import EncFS.Driver.Main
import EncFS.Args.Properties

/-!
# What `main` does

The saved `stderr` is the only raw descriptor `main` and `encfs_init` write to or close, and the
static `oldStderr` keeps them from using it twice: `encfs_init` sets it to `-1` when it closes it,
and `main` writes its late message only to a descriptor that is still `>= 0`. So the process
writes to that descriptor at most once, closes it at most once, and never writes after the close
(`main_descriptors`). The late message is written exactly when `fuse_main` failed within a second,
in daemon mode, with `stderr` saved, without calling `encfs_init`, and `fdopen` gives a stream
(`main_fuseFailed_iff`).

A mount ends the same way whatever `fuse_main` does, unless it does something undefined: the
supervisor is stopped, the root released and the libraries shut down, and the status is
`EXIT_SUCCESS` only when `fuse_main` returned `0`. The undefined ends are a late message due with
no stream from `fdopen`, and a join of `monitorThread` when `encfs_init` created no supervisor
(`main_mount`).

Each stage of a mount (`encfs_init`, the `try` block, the serve loop, the block under
`if (rootInfo)`) is first put in a normal form: a process that keeps `oldStderr`, uses no
descriptor and only appends to the trace, followed by what the stage does to the saved `stderr`.
The results on descriptors, status and trace are read off these forms.
-/

namespace EncFS

/-- The effects that use a descriptor, in order. -/
def fdEffects (t : List Effect) : List Effect := t.filter (·.fd?.isSome)

@[simp] lemma fdEffects_nil : fdEffects [] = [] := rfl

@[simp] lemma fdEffects_append (s t : List Effect) :
    fdEffects (s ++ t) = fdEffects s ++ fdEffects t := List.filter_append _ _

@[simp] lemma fdEffects_cons (e : Effect) (t : List Effect) :
    fdEffects (e :: t) = (if e.fd?.isSome then [e] else []) ++ fdEffects t := by
  simp only [fdEffects, List.filter_cons]; split <;> rfl

@[simp] lemma fdEffects_ite (c : Prop) [Decidable c] (s t : List Effect) :
    fdEffects (if c then s else t) = if c then fdEffects s else fdEffects t :=
  apply_ite _ _ _ _

/-! ### `encfs_init` -/

/-- `encfs_init` first starts the supervisor, which uses no descriptor, and then looks at the
saved `stderr`. -/
lemma encfsInit_eq (res : Int) (msg : String) (a : EncFSArgs) (p : Proc) :
    ∃ q : Proc, q.oldStderr = p.oldStderr ∧ fdEffects q.trace = fdEffects p.trace ∧
      p.trace <+: q.trace ∧
      encfsInit res msg a p =
        if a.isDaemon ∧ 0 ≤ q.oldStderr then ⟨-1, q.trace ++ [.close q.oldStderr]⟩ else q := by
  refine ⟨_, ?_, ?_, ?_, rfl⟩ <;> split <;> simp [Effect.fd?]

lemma encfsInit_oldStderr (res : Int) (msg : String) (a : EncFSArgs) (p : Proc) :
    (encfsInit res msg a p).oldStderr =
      if a.isDaemon ∧ 0 ≤ p.oldStderr then -1 else p.oldStderr := by
  obtain ⟨q, hq, -, -, h⟩ := encfsInit_eq res msg a p
  rw [h, ← hq]; split <;> rfl

lemma encfsInit_fdEffects (res : Int) (msg : String) (a : EncFSArgs) (p : Proc) :
    fdEffects (encfsInit res msg a p).trace = fdEffects p.trace ++
      if a.isDaemon ∧ 0 ≤ p.oldStderr then [.close p.oldStderr] else [] := by
  obtain ⟨q, hq, hf, -, h⟩ := encfsInit_eq res msg a p
  rw [h, ← hq]; split <;> simp [hf, Effect.fd?]

lemma encfsInit_extends (res : Int) (msg : String) (a : EncFSArgs) (p : Proc) :
    p.trace <+: (encfsInit res msg a p).trace := by
  obtain ⟨q, -, -, hq, h⟩ := encfsInit_eq res msg a p
  rw [h]; split
  · exact hq.trans (List.prefix_append _ _)
  · exact hq

/-! ### The `try` block -/

/-- `fuse_main` returned an error within a second. -/
def Host.failsAtOnce (host : Host) : Bool :=
  match host.fuseEnd with
  | .returns res => res ≠ 0 && host.elapsed ≤ 1
  | _ => false

lemma Host.failsAtOnce_iff (host : Host) :
    host.failsAtOnce = true ↔
      (∃ res, host.fuseEnd = .returns res ∧ res ≠ 0) ∧ host.elapsed ≤ 1 := by
  unfold Host.failsAtOnce; split <;> simp_all

/-- A failure within a second is a failure. -/
lemma Host.fuseEnd_ne_of_failsAtOnce {host : Host} (h : host.failsAtOnce = true) :
    host.fuseEnd ≠ .returns 0 := by
  obtain ⟨⟨res, hr, h0⟩, -⟩ := (Host.failsAtOnce_iff host).mp h
  rw [hr]; simpa using h0

/-- What the `try` block does after `fuse_main`: the annotation or the log line of an exception,
and then, on a failure within a second with the saved `stderr` open in daemon mode, the message,
written only when `fdopen` gives a stream. -/
lemma afterFuseMain_eq (host : Host) (a : EncFSArgs) (p : Proc) :
    ∃ q : Proc, q.oldStderr = p.oldStderr ∧ fdEffects q.trace = fdEffects p.trace ∧
      p.trace <+: q.trace ∧
      afterFuseMain host a p =
        if a.isDaemon ∧ 0 ≤ p.oldStderr ∧ host.failsAtOnce then
          if host.fdopen then
            ((q.emit (.write p.oldStderr fuseFailedText)).emit (.close p.oldStderr), some exitFailure)
          else (q, none)
        else (q, some (if host.fuseEnd = .returns 0 then exitSuccess else exitFailure)) := by
  unfold afterFuseMain Host.failsAtOnce
  cases host.fuseEnd with
  | returns res =>
    refine ⟨p.emitIf a.opts.annotate (.err "$STATUS$ fuse_main_end"), by simp,
      by simp [Effect.fd?], by simp, ?_⟩
    by_cases hr : res = 0 <;> simp [hr]
  | throwsException what =>
    exact ⟨p.emit (.logError ("Internal error: Caught exception from main loop: " ++ what)), rfl,
      by simp [Effect.fd?], by simp, by simp⟩
  | throwsOther =>
    exact ⟨p.emit (.logError "Internal error: Caught unexpected exception"), rfl,
      by simp [Effect.fd?], by simp, by simp⟩

/-- What `main` does to a saved `stderr` `o` that is still open when `fuse_main` has ended: on a
failure within a second, when `fdopen` gives a stream, the message is written to it and `fclose`
closes it. -/
def lateFds (host : Host) (o : Int) : List Effect :=
  if host.failsAtOnce ∧ host.fdopen then [.write o fuseFailedText, .close o] else []

lemma afterFuseMain_fdEffects (host : Host) (a : EncFSArgs) (p : Proc) :
    fdEffects (afterFuseMain host a p).1.trace = fdEffects p.trace ++
      if a.isDaemon ∧ 0 ≤ p.oldStderr then lateFds host p.oldStderr else [] := by
  obtain ⟨q, -, hf, -, h⟩ := afterFuseMain_eq host a p
  rw [h, lateFds]
  by_cases hd : a.isDaemon ∧ 0 ≤ p.oldStderr <;> cases hfa : host.failsAtOnce <;>
    cases hfo : host.fdopen <;> simp [hd, hfa, hfo, hf, Effect.fd?]

lemma afterFuseMain_extends (host : Host) (a : EncFSArgs) (p : Proc) :
    p.trace <+: (afterFuseMain host a p).1.trace := by
  obtain ⟨q, -, -, hq, h⟩ := afterFuseMain_eq host a p
  rw [h]; split_ifs <;> simp [hq.trans]

/-- The `try` block returns `fuse_main`'s status, unless the late message is due and `fdopen`
gives no stream. -/
lemma afterFuseMain_status (host : Host) (a : EncFSArgs) (p : Proc) :
    (afterFuseMain host a p).2 =
      if a.isDaemon ∧ 0 ≤ p.oldStderr ∧ host.failsAtOnce ∧ host.fdopen = false then none
      else some (if host.fuseEnd = .returns 0 then exitSuccess else exitFailure) := by
  obtain ⟨q, -, -, -, h⟩ := afterFuseMain_eq host a p
  rw [h]
  cases hfa : host.failsAtOnce
  · simp
  · have hr := Host.fuseEnd_ne_of_failsAtOnce hfa
    by_cases hd : a.isDaemon ∧ 0 ≤ p.oldStderr <;> cases host.fdopen <;> simp [hd, hr]

/-! ### The serve loop -/

/-- What the serve loop does to a saved `stderr` `o` that is open in daemon mode: `encfs_init`
closes it if it runs, and otherwise it is left to `lateFds`. -/
def serveFds (host : Host) (a : EncFSArgs) (o : Int) : List Effect :=
  if a.isDaemon ∧ 0 ≤ o then
    match host.init with
    | .once _ _ => [.close o]
    | .never => lateFds host o
  else []

lemma serveFds_suffix (host : Host) (a : EncFSArgs) (o : Int) :
    serveFds host a o <:+ [.write o fuseFailedText, .close o] := by
  unfold serveFds
  split_ifs
  · cases host.init
    · unfold lateFds; split_ifs
      · exact List.suffix_refl _
      · exact List.nil_suffix
    · exact List.suffix_cons _ _
  · exact List.nil_suffix

/-- The serve loop writes the message exactly when the saved `stderr` is open in daemon mode,
`encfs_init` never ran, `fuse_main` returned an error within a second, and `fdopen` gives a
stream. -/
lemma write_mem_serveFds (host : Host) (a : EncFSArgs) (o : Int) :
    .write o fuseFailedText ∈ serveFds host a o ↔
      a.isDaemon = true ∧ 0 ≤ o ∧ host.init = .never ∧ host.failsAtOnce = true ∧
        host.fdopen = true := by
  unfold serveFds lateFds
  by_cases hc : a.isDaemon ∧ 0 ≤ o
  · cases host.init <;> simp [hc]
  · simp only [hc, if_false, List.not_mem_nil, false_iff]
    exact fun h => hc ⟨h.1, h.2.1⟩

/-- The serve loop is `fuse_main`, with `encfs_init` when it calls it, and then the `try` block. -/
lemma serve_eq (host : Host) (a : EncFSArgs) (p : Proc) :
    ∃ q : Proc, q.oldStderr =
        (if a.isDaemon ∧ 0 ≤ p.oldStderr ∧ host.init ≠ .never then -1 else p.oldStderr) ∧
      fdEffects q.trace = fdEffects p.trace ++
        (if a.isDaemon ∧ 0 ≤ p.oldStderr ∧ host.init ≠ .never then [.close p.oldStderr] else []) ∧
      p.trace <+: q.trace ∧ serve host a p = afterFuseMain host a q := by
  refine ⟨_, ?_, ?_, ?_, rfl⟩ <;> cases host.init
  · simp
  · simp [encfsInit_oldStderr]
  · simp [Effect.fd?]
  · simp [encfsInit_fdEffects, Effect.fd?]
  · simp
  · exact List.IsPrefix.trans (by simp) (encfsInit_extends _ _ _ _)

lemma serve_fdEffects (host : Host) (a : EncFSArgs) (p : Proc) :
    fdEffects (serve host a p).1.trace = fdEffects p.trace ++ serveFds host a p.oldStderr := by
  obtain ⟨q, hq, hf, -, h⟩ := serve_eq host a p
  rw [h, afterFuseMain_fdEffects, hf, hq, serveFds]
  by_cases hc : a.isDaemon ∧ 0 ≤ p.oldStderr <;> cases host.init <;> simp [hc]

lemma serve_extends (host : Host) (a : EncFSArgs) (p : Proc) :
    p.trace <+: (serve host a p).1.trace := by
  obtain ⟨q, -, -, hq, h⟩ := serve_eq host a p
  exact h ▸ hq.trans (afterFuseMain_extends host a q)

lemma serve_status (host : Host) (a : EncFSArgs) (p : Proc) :
    (serve host a p).2 =
      if a.isDaemon ∧ 0 ≤ p.oldStderr ∧ host.init = .never ∧ host.failsAtOnce ∧
        host.fdopen = false then none
      else some (if host.fuseEnd = .returns 0 then exitSuccess else exitFailure) := by
  obtain ⟨q, hq, -, -, h⟩ := serve_eq host a p
  rw [h, afterFuseMain_status, hq]
  cases a.isDaemon <;> by_cases ho : 0 ≤ p.oldStderr <;> cases host.init <;> simp [ho]

/-! ### The block under `if (rootInfo)` and the mount -/

lemma beforeServe_oldStderr (host : Host) (a : EncFSArgs) (p : Proc) :
    (beforeServe host a p).oldStderr = if a.isDaemon then host.dup else p.oldStderr := by
  unfold beforeServe; split_ifs <;> simp

lemma beforeServe_trace (host : Host) (a : EncFSArgs) (p : Proc) :
    (beforeServe host a p).trace = p.trace ++ .setRoot ::
      (if !a.isThreaded && 0 < a.idleTimeout then [.err singleThreadNote] else []) ++
      .umask 0 :: if a.isDaemon then [.dup] else [] := by
  by_cases hd : a.isDaemon <;> simp [beforeServe, hd]

lemma beforeServe_extends (host : Host) (a : EncFSArgs) (p : Proc) :
    p.trace <+: (beforeServe host a p).trace := by
  rw [beforeServe_trace, List.append_assoc]; exact List.prefix_append _ _

/-- Where a mount with a root does something undefined: the late message is due and `fdopen`
gives no stream, or, with an idle timeout, `encfs_init` created no supervisor for `main` to
join. -/
def Host.mountUndefined (host : Host) (a : EncFSArgs) : Bool :=
  (a.isDaemon && 0 ≤ host.dup && host.init == .never && host.failsAtOnce && !host.fdopen) ||
    (0 < a.idleTimeout && !host.created)

/-- The block under `if (rootInfo)` adds to the serve loop the stop of the supervisor, when the
loop returns a status and there is an idle timeout; the join is undefined where `encfs_init`
created no supervisor. -/
lemma withRoot_eq (host : Host) (a : EncFSArgs) (p : Proc) :
    withRoot host a p =
      ((serve host a (beforeServe host a p)).1.emitIf
          ((serve host a (beforeServe host a p)).2.isSome && 0 < a.idleTimeout) .stopMonitor,
        if 0 < a.idleTimeout ∧ host.created = false then none
        else (serve host a (beforeServe host a p)).2) := by
  unfold withRoot
  generalize serve host a (beforeServe host a p) = r
  rcases r with ⟨q, _ | code⟩ <;> by_cases h : 0 < a.idleTimeout <;> cases host.created <;>
    simp [h, Proc.emitIf]

lemma withRoot_fdEffects (host : Host) (a : EncFSArgs) (p : Proc) :
    fdEffects (withRoot host a p).1.trace = fdEffects p.trace ++ serveFds host a host.dup := by
  rw [withRoot_eq]
  cases hd : a.isDaemon <;>
    simp [serve_fdEffects, beforeServe_oldStderr, beforeServe_trace, serveFds, hd, Effect.fd?]

lemma withRoot_status (host : Host) (a : EncFSArgs) (p : Proc) :
    (withRoot host a p).2 = if host.mountUndefined a then none
      else some (if host.fuseEnd = .returns 0 then exitSuccess else exitFailure) := by
  rw [withRoot_eq, serve_status, beforeServe_oldStderr, Host.mountUndefined]
  by_cases hc : 0 < a.idleTimeout ∧ host.created = false
  · simp [hc]
  · cases a.isDaemon <;> simp [hc, and_assoc]

lemma withRoot_extends (host : Host) (a : EncFSArgs) (p : Proc) :
    p.trace <+: (withRoot host a p).1.trace := by
  rw [withRoot_eq, Proc.emitIf_trace]
  exact ((beforeServe_extends host a p).trans (serve_extends _ _ _)).trans (List.prefix_append _ _)

/-- Unless the block does something undefined, it ends with the stop of the supervisor when there
is an idle timeout. -/
lemma withRoot_trace (host : Host) (a : EncFSArgs) (p : Proc) :
    ∃ mid, (withRoot host a p).1.trace = p.trace ++ mid ++
      if host.mountUndefined a = false ∧ 0 < a.idleTimeout then [.stopMonitor] else [] := by
  cases hu : host.mountUndefined a
  · have hs : (serve host a (beforeServe host a p)).2.isSome := by
      have h := withRoot_status host a p
      rw [withRoot_eq, hu] at h
      split_ifs at h <;> simp_all
    obtain ⟨mid, h⟩ := (beforeServe_extends host a p).trans (serve_extends host a _)
    exact ⟨mid, by rw [withRoot_eq]; simp [← h, hs]⟩
  · obtain ⟨mid, h⟩ := withRoot_extends host a p
    exact ⟨mid, by simp [h]⟩

lemma mount_fdEffects (host : Host) (a : EncFSArgs) (p : Proc) :
    fdEffects (mount host a p).1.trace =
      fdEffects p.trace ++ if host.root then serveFds host a host.dup else [] := by
  unfold mount cleanup
  cases host.root <;> dsimp only <;> (try split) <;> simp_all [withRoot_fdEffects, Effect.fd?]

lemma mount_status (host : Host) (a : EncFSArgs) (p : Proc) :
    (mount host a p).2 = if host.root = true ∧ host.mountUndefined a = true then none
      else some (if host.root = true ∧ host.fuseEnd = .returns 0 then exitSuccess
        else exitFailure) := by
  unfold mount
  cases host.root
  · simp
  · simp only [if_true, withRoot_status]
    cases hu : host.mountUndefined a <;> simp [withRoot_status, hu]

/-- A mount starts with `openssl_init` and `initFS` with the parsed options, and, unless it does
something undefined, ends with the stop of the supervisor when there is a root and an idle
timeout, and then the cleanup. -/
lemma mount_trace (host : Host) (a : EncFSArgs) (p : Proc) :
    ∃ mid, (mount host a p).1.trace = p.trace ++ .opensslInit a.isThreaded ::
      .initFS a.opts.ownerCreate a.opts :: mid ++
      if host.root = true ∧ host.mountUndefined a = true then []
      else (if host.root = true ∧ 0 < a.idleTimeout then [.stopMonitor] else []) ++
        [.releaseRoot, .destroyAll, .opensslShutdown a.isThreaded] := by
  let p' := (p.emit (.opensslInit a.isThreaded)).emit (.initFS a.opts.ownerCreate a.opts)
  cases hr : host.root
  · exact ⟨[], by simp [mount, hr, cleanup]⟩
  · obtain ⟨mid, h⟩ := withRoot_trace host a p'
    refine ⟨mid, ?_⟩
    unfold mount
    simp only [hr, if_true, withRoot_status]
    cases hu : host.mountUndefined a <;> simp_all [cleanup, p']

/-! ### `main` -/

/-- A host on which everything succeeds: `initFS` gives a root, `dup` returns descriptor `3`,
`fuse_main` calls `encfs_init`, whose `pthread_create` succeeds, `fdopen` works, and `fuse_main`
returns `0` after a minute. -/
def Host.ok : Host :=
  ⟨Env.user, EncFSArgs.blank, true, true, 3, .once 0 "", true, .returns 0, 60⟩

/-- The process once `main` has set up logging for the arguments `a`. -/
def Proc.logged (a : EncFSArgs) : Proc :=
  (Proc.initial.emit (.initLogging a.isVerbose a.isDaemon)).emit (.initSyslog a.syslogTag)

@[simp] lemma fdEffects_logged (a : EncFSArgs) : fdEffects (Proc.logged a).trace = [] := rfl

/-- `processArgs` rejects a command line with no arguments. -/
lemma processArgs_nil (env : Env) (prog : String) (out : EncFSArgs) :
    processArgs env prog [] out = .error (.reject "Missing one or more arguments, aborting.") :=
  rfl

/-- `main` on a mount request that `processArgs` accepts. -/
lemma main_of_mount {host : Host} {prog : String} {args : List String} {a : EncFSArgs}
    (hp : host.pidinfo = true) (ha : processArgs host.env prog args host.fresh = .ok a)
    (hu : a.opts.unmount = false) :
    main host prog args =
      ⟨(mount host a (Proc.logged a)).1.trace, .ofStatus (mount host a (Proc.logged a)).2⟩ := by
  have hargs : args ≠ [] := by rintro rfl; rw [processArgs_nil] at ha; cases ha
  simp [main, hp, hargs, ha, afterParse, hu, Proc.logged]

/-- The descriptors `main` uses are those of the serve loop of an accepted mount with a root. -/
lemma main_fdEffects (host : Host) (prog : String) (args : List String) :
    (fdEffects (main host prog args).trace = []) ∨
      ∃ a, host.pidinfo = true ∧ processArgs host.env prog args host.fresh = .ok a ∧
        a.opts.unmount = false ∧ host.root = true ∧
        fdEffects (main host prog args).trace = serveFds host a host.dup := by
  by_cases hp : host.pidinfo = true
  · cases ha : processArgs host.env prog args host.fresh with
    | error e =>
      left
      unfold main
      split_ifs <;> first | rfl | (rw [ha]; cases e <;> simp [afterParse, Proc.initial, Effect.fd?])
    | ok a =>
      cases hu : a.opts.unmount
      · rw [main_of_mount hp ha hu]
        simp only [mount_fdEffects, fdEffects_logged, List.nil_append]
        cases hr : host.root
        · exact .inl rfl
        · exact .inr ⟨a, hp, rfl, hu, rfl, rfl⟩
      · left
        unfold main
        split_ifs <;> first | rfl | simp [ha, afterParse, hu, Proc.initial, Effect.fd?]
  · left; simp [main, hp, Effect.fd?]

/-- The only writes and closes of a raw descriptor in a run of `main`, `encfs_init` included, are
at most one write of the failure message to the descriptor `dup` returned, and at most one close of
it, after the write: whatever `fuse_main` does and whether it calls `encfs_init`. As `dup` never
returns an open descriptor, `STDERR_FILENO` itself is never closed. -/
theorem main_descriptors (host : Host) (prog : String) (args : List String) :
    fdEffects (main host prog args).trace <:+ [.write host.dup fuseFailedText, .close host.dup] := by
  rcases main_fdEffects host prog args with h | ⟨a, -, -, -, -, h⟩ <;> rw [h]
  · exact List.nil_suffix
  · exact serveFds_suffix host a host.dup

/-- `main` writes the message "fuse failed" exactly when it mounts with a root in daemon mode,
`dup` saved `stderr`, `fuse_main` returned an error within a second without calling `encfs_init`,
and `fdopen` gives a stream: a call of `encfs_init` has closed the saved descriptor, however
quickly `fuse_main` fails afterwards. -/
theorem main_fuseFailed_iff (host : Host) (prog : String) (args : List String) :
    .write host.dup fuseFailedText ∈ (main host prog args).trace ↔
      host.pidinfo = true ∧ ∃ a, processArgs host.env prog args host.fresh = .ok a ∧
        a.opts.unmount = false ∧ host.root = true ∧ a.isDaemon = true ∧ 0 ≤ host.dup ∧
        host.init = .never ∧ (∃ res, host.fuseEnd = .returns res ∧ res ≠ 0) ∧
        host.elapsed ≤ 1 ∧ host.fdopen = true := by
  have hw : .write host.dup fuseFailedText ∈ (main host prog args).trace ↔
      .write host.dup fuseFailedText ∈ fdEffects (main host prog args).trace := by
    simp [fdEffects, Effect.fd?]
  rw [hw]
  constructor
  · intro hm
    rcases main_fdEffects host prog args with h | ⟨a, hp, ha, hu, hr, h⟩
    · rw [h] at hm; cases hm
    · rw [h, write_mem_serveFds, Host.failsAtOnce_iff] at hm
      obtain ⟨hd, hdup, hi, ⟨hres, hel⟩, hf⟩ := hm
      exact ⟨hp, a, ha, hu, hr, hd, hdup, hi, hres, hel, hf⟩
  · rintro ⟨hp, a, ha, hu, hr, hd, hdup, hi, hres, hel, hf⟩
    rw [main_of_mount hp ha hu]
    simp only [mount_fdEffects, fdEffects_logged, List.nil_append, hr, if_true,
      write_mem_serveFds, Host.failsAtOnce_iff]
    exact ⟨hd, hdup, hi, ⟨hres, hel⟩, hf⟩

/-- A mount that fails at once in daemon mode writes the message; had `fuse_main` called
`encfs_init` first, or had `fdopen` failed, it would not. -/
example :
    .write 3 fuseFailedText ∈
        (main { Host.ok with init := .never, fuseEnd := .returns 1, elapsed := 0 } "encfs"
          ["/raw", "/mnt"]).trace ∧
      .write 3 fuseFailedText ∉
        (main { Host.ok with fuseEnd := .returns 1, elapsed := 0 } "encfs" ["/raw", "/mnt"]).trace ∧
      .write 3 fuseFailedText ∉
        (main { Host.ok with init := .never, fdopen := false, fuseEnd := .returns 1, elapsed := 0 }
          "encfs" ["/raw", "/mnt"]).trace := by
  decide

end EncFS
