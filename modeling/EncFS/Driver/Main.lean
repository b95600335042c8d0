import EncFS.Args.ProcessArgs

/-!
# `main`

`main` parses its arguments with `processArgs` and then prints the usage, or sets up logging and
asks the system to unmount, or mounts. A mount initialises openssl, makes the context public as
`--public` asked, builds the root with `initFS` from the parsed options, runs `fuse_main`
inside a `try`, stops the idle supervisor, and then releases the root and shuts the libraries
down. `fuse_main` calls `encfs_init` when the kernel's `INIT` arrives, at most once; with an idle
timeout `encfs_init` starts the supervisor, and in daemon mode it closes the copy of `stderr` that
`main` kept for a late message. The two share it through the static `oldStderr`.

Two paths of `main` leave C++ behaviour undefined, and the model ends the run there: a late
message written with `fputs` to the null stream of a failed `fdopen`, and, with an idle timeout,
the join of `monitorThread` when `encfs_init` created no supervisor.

The model is `main` for a Linux build, as a function of what its collaborators do (`Host`). It
returns what the process does, in order, and how it ends (`Run`). The interleaving of `main`'s
shutdown with `idleMonitor` is the subject of `EncFS.Mount.Threads`; here that shutdown is one
effect, made with or without a supervisor to join.
-/

namespace EncFS

/-- `EXIT_SUCCESS`. -/
def exitSuccess : Int := 0

/-- `EXIT_FAILURE`. -/
def exitFailure : Int := 1

/-- `STDERR_FILENO`, the value `oldStderr` starts from. -/
def stderrFileno : Int := 2

/-- The note `main` prints when single-threaded operation is asked for with an idle timeout. -/
def singleThreadNote : String :=
  "Note: requested single-threaded mode, but an idle\ntimeout was specified.  The filesystem " ++
  "will operate\nsingle-threaded, but threads will still be used to\nimplement idle checking."

/-- What `main` writes to the saved `stderr` when `fuse_main` fails at once in daemon mode. -/
def fuseFailedText : String :=
  "fuse failed.  Common problems:\n - fuse kernel module not installed (modprobe fuse)\n" ++
  " - invalid options -- see usage message\n"

/-- How `fuse_main` ends, as `main` sees it. -/
inductive FuseEnd
  /-- It returns `res`. -/
  | returns (res : Int)
  /-- A `std::exception` leaves it, with this `what()`. -/
  | throwsException (what : String)
  /-- An exception of another type leaves it. -/
  | throwsOther
  deriving DecidableEq, Repr

/-- What `fuse_main` does with `encfs_init`. libfuse calls it at most once, on the kernel's
`INIT` request, as `EncFS.Mount.Threads` assumes too. -/
inductive InitCall
  /-- `fuse_main` returns before the `INIT` request. -/
  | never
  /-- `fuse_main` calls `encfs_init`. With an idle timeout, `pthread_create` returns `res` there,
  and `strerror(res)` is `msg`. -/
  | once (res : Int) (msg : String)
  deriving DecidableEq, Repr

/-- What `main`'s collaborators do; none of them is under src/. -/
structure Host where
  /-- What `processArgs` asks of the system. -/
  env : Env
  /-- `new EncFS_Args`. The fields that `processArgs` does not set come from the constructor of
  `EncFS_Opts`. -/
  fresh : EncFSArgs
  /-- Whether `init_encfs_pidinfo()` succeeds. -/
  pidinfo : Bool
  /-- Whether `initFS` returns a root. -/
  root : Bool
  /-- What `dup(STDERR_FILENO)` returns: a new descriptor, or `-1`. -/
  dup : Int
  /-- Whether `fuse_main` calls `encfs_init`, and what `pthread_create` returns there. -/
  init : InitCall
  /-- Whether `fdopen(oldStderr, "a")` returns a stream; it returns `NULL`, for one, for a
  descriptor open only for reading. -/
  fdopen : Bool
  /-- How `fuse_main` ends. -/
  fuseEnd : FuseEnd
  /-- `endTime - startTime`: the seconds `fuse_main` took, when it returns. -/
  elapsed : Int

/-- What the process does that can be seen from outside it. -/
inductive Effect
  /-- `encfs::initLogging(isVerbose, isDaemon)`. -/
  | initLogging (verbose daemon : Bool)
  /-- `ELPP_INITIALIZE_SYSLOG(syslogTag, LOG_PID, LOG_USER)`. -/
  | initSyslog (tag : String)
  /-- A line on `cerr`. -/
  | err (line : String)
  /-- A line on `cout`. -/
  | out (line : String)
  /-- `RLOG(ERROR)`. -/
  | logError (line : String)
  /-- `usage(argv[0])`. -/
  | usage (name : String)
  /-- `unmountFS(path)`. -/
  | unmountFS (path : String)
  /-- `openssl_init(threaded)`. -/
  | opensslInit (threaded : Bool)
  /-- `ctx->publicFilesystem = publicFilesystem`, then `initFS(ctx.get(), opts)`. -/
  | initFS (publicFilesystem : Bool) (opts : EncFSOpts)
  /-- `ctx->setRoot(rootInfo->root)`. -/
  | setRoot
  /-- `umask(mask)`. -/
  | umask (mask : Nat)
  /-- `oldStderr = dup(STDERR_FILENO)`. -/
  | dup
  /-- `fuse_main(fuseArgc, fuseArgv, &encfs_oper, ctx)`, with `fuseArgv[0 .. fuseArgc)`. -/
  | fuseMain (argv : List (Option String))
  /-- `encfs_init` sets `running` and calls `pthread_create` for the supervisor thread. -/
  | startMonitor
  /-- `text` written to the descriptor `fd`. -/
  | write (fd : Int) (text : String)
  /-- `close(fd)`, directly or through `fclose`. -/
  | close (fd : Int)
  /-- `running = false`, the signal under `wakeupMutex`, and `pthread_join(ctx->monitorThread)`. -/
  | stopMonitor
  /-- `rootInfo.reset(); ctx->setRoot(std::shared_ptr<DirNode>())`. -/
  | releaseRoot
  /-- `MemoryPool::destroyAll()`. -/
  | destroyAll
  /-- `openssl_shutdown(threaded)`. -/
  | opensslShutdown (threaded : Bool)
  deriving DecidableEq, Repr

/-- The descriptor an effect uses, if it uses one. -/
def Effect.fd? : Effect → Option Int
  | .write fd _ => some fd
  | .close fd => some fd
  | _ => none

/-- What `main` and `encfs_init` share: the static `oldStderr`, and what the process has done. -/
structure Proc where
  oldStderr : Int
  trace : List Effect

/-- The process when `main` starts. -/
def Proc.initial : Proc := ⟨stderrFileno, []⟩

/-- The process after one more effect. -/
def Proc.emit (p : Proc) (e : Effect) : Proc := { p with trace := p.trace ++ [e] }

@[simp] lemma Proc.emit_oldStderr (p : Proc) (e : Effect) : (p.emit e).oldStderr = p.oldStderr :=
  rfl

@[simp] lemma Proc.emit_trace (p : Proc) (e : Effect) : (p.emit e).trace = p.trace ++ [e] := rfl

/-- The process after `e` when `c` holds. -/
def Proc.emitIf (p : Proc) (c : Bool) (e : Effect) : Proc := if c then p.emit e else p

@[simp] lemma Proc.emitIf_oldStderr (p : Proc) (c : Bool) (e : Effect) :
    (p.emitIf c e).oldStderr = p.oldStderr := by
  unfold Proc.emitIf; split <;> rfl

@[simp] lemma Proc.emitIf_trace (p : Proc) (c : Bool) (e : Effect) :
    (p.emitIf c e).trace = p.trace ++ if c then [e] else [] := by
  unfold Proc.emitIf; split <;> simp

/-- The line `encfs_init` logs when `pthread_create` fails with `res`, where `strerror(res)` is
`msg`. -/
def createFailedText (res : Int) (msg : String) : String :=
  "error starting idle monitor thread, res = " ++ toString res ++ ", " ++ msg

/-- `encfs_init`, for the arguments `main` stored in the context, where `pthread_create` returns
`res`: with an idle timeout it starts the supervisor and logs a failure to create it, and in
daemon mode it closes the saved `stderr` and forgets it. -/
def encfsInit (res : Int) (msg : String) (a : EncFSArgs) (p : Proc) : Proc :=
  let p := if 0 < a.idleTimeout then
      (p.emit .startMonitor).emitIf (res ≠ 0) (.logError (createFailedText res msg))
    else p
  if a.isDaemon ∧ 0 ≤ p.oldStderr then ⟨-1, p.trace ++ [.close p.oldStderr]⟩ else p

/-- With an idle timeout: whether `encfs_init` creates the supervisor, that is whether it runs and
its `pthread_create` succeeds. -/
def Host.created (host : Host) : Bool :=
  match host.init with
  | .once res _ => res = 0
  | .never => false

/-- What the `try` block of `main` does once `fuse_main` has ended, leaving the process `p`: the
return code, and, when `fuse_main` failed within a second in daemon mode, the message on the saved
`stderr`, which `fclose` then closes. `fdopen` is not checked: when it gives no stream, `fputs`
writes to `NULL`, which is undefined (`none`). An exception is caught and logged, and leaves
`EXIT_FAILURE`. -/
def afterFuseMain (host : Host) (a : EncFSArgs) (p : Proc) : Proc × Option Int :=
  match host.fuseEnd with
  | .returns res =>
    let p := p.emitIf a.opts.annotate (.err "$STATUS$ fuse_main_end")
    let code := if res = 0 then exitSuccess else exitFailure
    if res ≠ 0 ∧ a.isDaemon ∧ 0 ≤ p.oldStderr ∧ host.elapsed ≤ 1 then
      if host.fdopen then
        ((p.emit (.write p.oldStderr fuseFailedText)).emit (.close p.oldStderr), some code)
      else (p, none)
    else (p, some code)
  | .throwsException what =>
    (p.emit (.logError ("Internal error: Caught exception from main loop: " ++ what)),
      some exitFailure)
  | .throwsOther =>
    (p.emit (.logError "Internal error: Caught unexpected exception"), some exitFailure)

/-- The `try` block of `main`: `fuse_main`, during which `encfs_init` runs if `fuse_main` calls
it, and what follows it. -/
def serve (host : Host) (a : EncFSArgs) (p : Proc) : Proc × Option Int :=
  let p := (p.emitIf a.opts.annotate (.err "$STATUS$ fuse_main_start")).emit
    (.fuseMain a.fuseArgv.argv)
  afterFuseMain host a
    (match host.init with
      | .never => p
      | .once res msg => encfsInit res msg a p)

/-- What `main` does under `if (rootInfo)` before its `try` block: the root is set, the note on
single-threaded operation with an idle timeout, `umask(0)`, and in daemon mode
`oldStderr = dup(STDERR_FILENO)`. -/
def beforeServe (host : Host) (a : EncFSArgs) (p : Proc) : Proc :=
  let p := ((p.emit .setRoot).emitIf (!a.isThreaded && 0 < a.idleTimeout)
    (.err singleThreadNote)).emit (.umask 0)
  if a.isDaemon then ⟨host.dup, p.trace ++ [.dup]⟩ else p

/-- The block of `main` under `if (rootInfo)`: the serve loop, and with an idle timeout the stop of
the supervisor, whose join is undefined when `encfs_init` created none. -/
def withRoot (host : Host) (a : EncFSArgs) (p : Proc) : Proc × Option Int :=
  let r := serve host a (beforeServe host a p)
  match r.2 with
  | none => r
  | some code =>
    if 0 < a.idleTimeout then (r.1.emit .stopMonitor, if host.created then some code else none)
    else (r.1, some code)

/-- The cleanup at the end of `main`, which every mount reaches. -/
def cleanup (a : EncFSArgs) (p : Proc) : Proc :=
  ((p.emit .releaseRoot).emit .destroyAll).emit (.opensslShutdown a.isThreaded)

/-- `main` for an accepted mount request, with the status it returns, or `none` where it has done
something undefined. -/
def mount (host : Host) (a : EncFSArgs) (p : Proc) : Proc × Option Int :=
  let p := (p.emit (.opensslInit a.isThreaded)).emit (.initFS a.opts.ownerCreate a.opts)
  let r := if host.root then withRoot host a p else (p, some exitFailure)
  match r.2 with
  | some code => (cleanup a r.1, some code)
  | none => r

/-- How a run of `main` ends. -/
inductive Exit
  /-- `main` returns this status. -/
  | returned (status : Int)
  /-- `exit(status)` inside `processArgs`, for `-V` or `-H`. -/
  | exited (status : Int)
  /-- The `encfs::Error` of a failed `rAssert` in `processArgs` leaves `main`, which has no `try`
  around it, and `std::terminate` ends the process. -/
  | terminated (what : String)
  /-- `main` did something whose behaviour C++ leaves undefined: `slashTerminate` read outside its
  string, `fputs` wrote to the null stream of a failed `fdopen`, or `pthread_join` joined a handle
  `pthread_create` never set. -/
  | undefined
  deriving DecidableEq, Repr

/-- How `main` ends after `initFS`: it returns the status, or it has done something undefined. -/
def Exit.ofStatus : Option Int → Exit
  | some code => .returned code
  | none => .undefined

/-- A run of `main`: what the process did, in order, and how it ended. The trace leaves out what
is printed on the way without changing the course of the run: the diagnostics of `getopt_long`,
the warning of `processArgs` for `--public` without root, the text of `-V` and `-H`, and the
debug lines of `VLOG`. -/
structure Run where
  trace : List Effect
  exit : Exit

/-- `main` once `processArgs` has returned or stopped. -/
def afterParse (host : Host) (prog : String) (p : Proc) : Except Halt EncFSArgs → Run
  | .error (.reject msg) => ⟨((p.emit (.err msg)).emit (.usage prog)).trace, .returned exitFailure⟩
  | .error .exit => ⟨p.trace, .exited exitSuccess⟩
  | .error (.assertFailed c) => ⟨p.trace, .terminated c⟩
  | .error .outOfRange => ⟨p.trace, .undefined⟩
  | .ok a =>
    let p := (p.emit (.initLogging a.isVerbose a.isDaemon)).emit (.initSyslog a.syslogTag)
    if a.opts.unmount then
      ⟨((p.emit (.out ("Filesystem unmounting: " ++ a.opts.unmountPoint))).emit
        (.unmountFS a.opts.unmountPoint)).trace, .returned 0⟩
    else ⟨(mount host a p).1.trace, .ofStatus (mount host a p).2⟩

/-- `main(argc, argv)` for `argv = prog :: args`. -/
def main (host : Host) (prog : String) (args : List String) : Run :=
  if !host.pidinfo then ⟨[.err "Init encfs pid info failed"], .returned exitFailure⟩
  else if args = [] then ⟨[.usage prog], .returned exitFailure⟩
  else afterParse host prog Proc.initial (processArgs host.env prog args host.fresh)

end EncFS
