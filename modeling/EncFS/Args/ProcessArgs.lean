import EncFS.Args.Basic
import EncFS.Libc.Getopt

/-!
# `processArgs`

The option processor of `main.cpp`, for a Linux build (neither `__CYGWIN__` nor `__APPLE__`).
It sets its defaults, runs the `getopt_long` loop with one `switch` per returned value, adds `-s`
for single-threaded operation, and then takes either the one operand of `--unmount` or the raw
directory and mount point, forwards further operands to fuse, adds the default fuse flags, and
makes its checks.

Each phase after the loop is a definition of its own, so that properties of `processArgs` are
assembled from one lemma per phase.
-/

namespace EncFS

/-- `LONG_OPT_ANNOTATE`. -/
@[match_pattern] def longOptAnnotate : OptVal := .long 513

/-- `LONG_OPT_NOCACHE`. -/
@[match_pattern] def longOptNocache : OptVal := .long 514

/-- `LONG_OPT_NODATACACHE`. -/
@[match_pattern] def longOptNodatacache : OptVal := .long 515

/-- `LONG_OPT_NOATTRCACHE`. -/
@[match_pattern] def longOptNoattrcache : OptVal := .long 516

/-- `LONG_OPT_REQUIRE_MAC`. -/
@[match_pattern] def longOptRequireMac : OptVal := .long 517

/-- `LONG_OPT_INSECURE`. -/
@[match_pattern] def longOptInsecure : OptVal := .long 518

/-- The short options `processArgs` passes to `getopt_long`. -/
def shortOptions : List Char := "HsSfvdmEi:o:t:c:u".toList

/-- `long_options`, in its order. -/
def longOptions : List LongOption :=
  [⟨"fuse-debug", false, .char 'd'⟩,
   ⟨"forcedecode", false, .char 'D'⟩,
   ⟨"fuse-help", false, .char 'H'⟩,
   ⟨"idle", true, .char 'i'⟩,
   ⟨"anykey", false, .char 'k'⟩,
   ⟨"no-default-flags", false, .char 'N'⟩,
   ⟨"ondemand", false, .char 'm'⟩,
   ⟨"delaymount", false, .char 'M'⟩,
   ⟨"public", false, .char 'P'⟩,
   ⟨"extpass", true, .char 'p'⟩,
   ⟨"stdinpass", false, .char 'S'⟩,
   ⟨"syslogtag", true, .char 't'⟩,
   ⟨"annotate", false, longOptAnnotate⟩,
   ⟨"nocache", false, longOptNocache⟩,
   ⟨"nodatacache", false, longOptNodatacache⟩,
   ⟨"noattrcache", false, longOptNoattrcache⟩,
   ⟨"verbose", false, .char 'v'⟩,
   ⟨"version", false, .char 'V'⟩,
   ⟨"reverse", false, .char 'r'⟩,
   ⟨"reversewrite", false, .char 'R'⟩,
   ⟨"standard", false, .char '1'⟩,
   ⟨"paranoia", false, .char '2'⟩,
   ⟨"require-macs", false, longOptRequireMac⟩,
   ⟨"insecure", false, longOptInsecure⟩,
   ⟨"config", true, .char 'c'⟩,
   ⟨"unmount", true, .char 'u'⟩]

/-- The defaults `processArgs` sets before it parses, with `fuseArgv` holding the program name
and the slot kept for the mount point. -/
def setDefaults (prog : String) (out : EncFSArgs) : EncFSArgs :=
  { out with
    isDaemon := true, isThreaded := true, isVerbose := false, idleTimeout := 0,
    fuseArgv := .initial (lastPathElement prog), syslogTag := "encfs",
    opts := { out.opts with
      idleTracking := false, checkKey := true, forceDecode := false, ownerCreate := false,
      useStdin := false, useEnv := false, annotate := false, reverseEncryption := false,
      requireMac := false, insecure := false, unmount := false } }

/-- What the option loop of `processArgs` threads: the arguments, and `useDefaultFlags`. -/
structure ParseState where
  out : EncFSArgs
  useDefaultFlags : Bool

/-- The `case` labels of the `switch (res)` in `processArgs`, and its `default`. -/
inductive SwitchCase
  | standard | paranoia | singleThread | stdinPass | envPass | syslogTag | annotate
  | requireMac | insecure | config | unmount | foreground | verbose | fuseDebug | idle
  | anyKey | forceDecode | reverse | reverseWrite | noCache | noDataCache | noAttrCache
  | onDemand | delayMount | noDefaultFlags | fuseOption | extPass | public | version
  | fuseHelp | invalidOption | missingParameter | default
  deriving DecidableEq, Repr

/-- The label that the value `getopt_long` returned selects. -/
def SwitchCase.ofRes : OptVal → SwitchCase
  | .char '1' => .standard
  | .char '2' => .paranoia
  | .char 's' => .singleThread
  | .char 'S' => .stdinPass
  | .char 'E' => .envPass
  | .char 't' => .syslogTag
  | longOptAnnotate => .annotate
  | longOptRequireMac => .requireMac
  | longOptInsecure => .insecure
  | .char 'c' => .config
  | .char 'u' => .unmount
  | .char 'f' => .foreground
  | .char 'v' => .verbose
  | .char 'd' => .fuseDebug
  | .char 'i' => .idle
  | .char 'k' => .anyKey
  | .char 'D' => .forceDecode
  | .char 'r' => .reverse
  | .char 'R' => .reverseWrite
  | longOptNocache => .noCache
  | longOptNodatacache => .noDataCache
  | longOptNoattrcache => .noAttrCache
  | .char 'm' => .onDemand
  | .char 'M' => .delayMount
  | .char 'N' => .noDefaultFlags
  | .char 'o' => .fuseOption
  | .char 'p' => .extPass
  | .char 'P' => .public
  | .char 'V' => .version
  | .char 'H' => .fuseHelp
  | .char '?' => .invalidOption
  | .char ':' => .missingParameter
  | _ => .default

/-- One pass of the option loop: the `switch` on what `getopt_long` returned. `optarg` is read only
for options that require an argument, for which `getopt_long` always sets it. -/
def handleOption (env : Env) (st : ParseState) (r : GetoptResult) : Except Halt ParseState :=
  let out := st.out
  let opts := out.opts
  let optarg := r.optarg.getD ""
  match SwitchCase.ofRes r.res with
  | .standard => pure { st with out.opts := { opts with configMode := .standard } }
  | .paranoia => pure { st with out.opts := { opts with configMode := .paranoia } }
  | .singleThread => pure { st with out.isThreaded := false }
  | .stdinPass => pure { st with out.opts := { opts with useStdin := true } }
  | .envPass => pure { st with out.opts := { opts with useEnv := true } }
  | .syslogTag => pure { st with out.syslogTag := optarg }
  | .annotate => pure { st with out.opts := { opts with annotate := true } }
  | .requireMac => pure { st with out.opts := { opts with requireMac := true } }
  | .insecure => pure { st with out.opts := { opts with insecure := true } }
  | .config => pure { st with out.opts := { opts with config := optarg } }
  | .unmount => pure { st with out := { out with isDaemon := false, opts.unmount := true } }
  | .foreground => do
    let out ← pushArg "-f" { out with isDaemon := false }
    pure { st with out }
  | .verbose => pure { st with out.isVerbose := true }
  | .fuseDebug => do
    let out ← pushArg "-d" out
    pure { st with out }
  | .idle =>
    pure { st with
      out := { out with idleTimeout := intOfLong (strtol optarg), opts.idleTracking := true } }
  | .anyKey => pure { st with out.opts := { opts with checkKey := false } }
  | .forceDecode => pure { st with out.opts := { opts with forceDecode := true } }
  | .reverse =>
    pure { st with out.opts := { opts with reverseEncryption := true, readOnly := true } }
  | .reverseWrite =>
    pure { st with out.opts := { opts with reverseEncryption := true, readOnly := false } }
  | .noCache => do
    let out ← pushArgs ["-oattr_timeout=0", "-oentry_timeout=0"] { out with opts.noCache := true }
    pure { st with out }
  | .noDataCache => pure { st with out.opts := { opts with noCache := true } }
  | .noAttrCache => do
    let out ← pushArgs ["-oattr_timeout=0", "-oentry_timeout=0"] out
    pure { st with out }
  | .onDemand => pure { st with out.opts := { opts with mountOnDemand := true } }
  | .delayMount => pure { st with out.opts := { opts with delayMount := true } }
  | .noDefaultFlags => pure { st with useDefaultFlags := false }
  | .fuseOption => do
    let out ← pushArgs ["-o", optarg] out
    pure { st with out }
  | .extPass => pure { st with out.opts := { opts with passwordProgram := optarg } }
  | .public =>
    if env.euid ≠ 0 then pure st
    else do
      let out ← pushArgs ["-o", "allow_other"] { out with opts.ownerCreate := true }
      pure { st with out }
  | .version => throw .exit
  | .fuseHelp => throw .exit
  | .invalidOption => pure st
  | .missingParameter => pure st
  | .default => pure st

/-- The `while (true)` loop of `processArgs`, over every value `getopt_long` returns. -/
def parseOptions (env : Env) (st : ParseState) (rs : List GetoptResult) : Except Halt ParseState :=
  rs.foldlM (handleOption env) st

/-- After the loop: `-s` for single-threaded operation. -/
def pushSingleThread (out : EncFSArgs) : Except Halt EncFSArgs :=
  if !out.isThreaded then pushArg "-s" out else pure out

/-- `--unmount`: exactly one operand, kept as given. -/
def unmountOperand (out : EncFSArgs) : List String → Except Halt EncFSArgs
  | [m] => pure { out with opts.unmountPoint := m }
  | _ => throw (.reject "Expecting one argument, aborting.")

/-- The operands after the raw directory and the mount point, passed on to fuse. The `rAssert`
before the forwarding loop repeats the check of its first pass. -/
def forwardOperands (extra : List String) (out : EncFSArgs) : Except Halt EncFSArgs :=
  pushArgs extra out

/-- `use_ino` and `default_permissions`, unless `--no-default-flags`. -/
def pushDefaultFlags (useDefaultFlags : Bool) (out : EncFSArgs) : Except Halt EncFSArgs :=
  if useDefaultFlags then pushArgs ["-o", "use_ino", "-o", "default_permissions"] out
  else pure out

/-- `fuseArgv[1] = mountPoint`. -/
def FuseArgv.setMountPoint (v : FuseArgv) (mountPoint : String) : FuseArgv :=
  ⟨v.argv.set 1 (some mountPoint), by simpa using v.length_le⟩

/-- The checks of a parsed mount request, in their order: each condition under which
`processArgs` gives up, with the message it prints. -/
def mountChecks (env : Env) (out : EncFSArgs) : List (Bool × String) :=
  let opts := out.opts
  [(out.isDaemon && (!isAbsolutePath opts.mountPoint || !isAbsolutePath opts.rootDir),
      "When specifying daemon mode, you must use absolute paths (beginning with '/')"),
   (rootDirBelowMountPoint opts.rootDir opts.mountPoint,
      "The raw directory may not be a subdirectory of the mount point."),
   (opts.delayMount && !opts.mountOnDemand,
      "You must use mount-on-demand with delay-mount"),
   (opts.mountOnDemand && opts.passwordProgram.isEmpty,
      "Must set password program when using mount-on-demand"),
   (!env.isDirectory opts.rootDir &&
      !env.userAllowMkdir (if opts.annotate then 1 else 0) opts.rootDir 0o700,
      "Unable to locate root directory, aborting."),
   (!env.isDirectory opts.mountPoint &&
      !env.userAllowMkdir (if opts.annotate then 2 else 0) opts.mountPoint 0o700,
      "Unable to locate mount point, aborting.")]

/-- The checks of a parsed mount request: the first that fails rejects it with its message;
when none fails, the mount point is filled in for fuse. -/
def checkArgs (env : Env) (out : EncFSArgs) : Except Halt EncFSArgs :=
  match (mountChecks env out).find? (·.1) with
  | some (_, msg) => throw (.reject msg)
  | none => pure { out with fuseArgv := out.fuseArgv.setMountPoint out.opts.mountPoint }

/-- A mount request once its directories are in place: the further operands for fuse, the
default flags, and the checks. -/
def finishMount (env : Env) (useDefaultFlags : Bool) (extra : List String) (out : EncFSArgs) :
    Except Halt EncFSArgs := do
  let out ← forwardOperands extra out
  let out ← pushDefaultFlags useDefaultFlags out
  checkArgs env out

/-- A mount request: the raw directory and the mount point, both slash terminated, then the rest
of the request. -/
def mountOperands (env : Env) (useDefaultFlags : Bool) (out : EncFSArgs) :
    List String → Except Halt EncFSArgs
  | r :: m :: extra => do
    let rootDir ← slashTerminate r
    let mountPoint ← slashTerminate m
    finishMount env useDefaultFlags extra
      { out with opts := { out.opts with rootDir, unmountPoint := m, mountPoint } }
  | _ => throw (.reject "Missing one or more arguments, aborting.")

/-- After the option loop: `-s` for single-threaded operation, then the unmount or the mount
request. -/
def afterOptions (env : Env) (st : ParseState) (operands : List String) :
    Except Halt EncFSArgs := do
  let out ← pushSingleThread st.out
  if out.opts.unmount then unmountOperand out operands
  else mountOperands env st.useDefaultFlags out operands

/-- `processArgs(argc, argv, out)` for `argv = prog :: args`: `.ok` with the filled-in arguments
where it returns `true`, and the way it stopped otherwise. -/
def processArgs (env : Env) (prog : String) (args : List String) (out : EncFSArgs) :
    Except Halt EncFSArgs := do
  let st ← parseOptions env ⟨setDefaults prog out, true⟩
    (getoptLong shortOptions longOptions args).1
  afterOptions env st (getoptLong shortOptions longOptions args).2

end EncFS
