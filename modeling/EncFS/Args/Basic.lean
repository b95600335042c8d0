import EncFS.Libc.Strtol
import Mathlib.Data.List.Basic

/-!
# Parsed arguments

The data `processArgs` fills in: `EncFS_Args`, and the `EncFS_Opts` it points to, with the fuse
argument vector as a list that cannot outgrow `MaxFuseArgs`. `PUSHARG` is the only way to add to
it, and its `rAssert` is the check that keeps it in bounds.

`processArgs` stops in one of four ways when it does not return `true`, and `Halt` records which:
`return false` after a message, `exit` for `-V` and `-H`, the exception of a failed `rAssert`, and
the undefined read of `slashTerminate` on an empty string.
-/

namespace EncFS

/-- `MaxFuseArgs`: the capacity of `fuseArgv`. -/
def maxFuseArgs : Nat := 32

/-- `fuseArgv[0 .. fuseArgc)`, with `none` for a null pointer. It never holds more than
`MaxFuseArgs` entries. -/
structure FuseArgv where
  argv : List (Option String)
  length_le : argv.length ≤ maxFuseArgs
  deriving DecidableEq

/-- `fuseArgv[fuseArgc++] = a`, for a vector that has room for it. -/
def FuseArgv.push (v : FuseArgv) (a : Option String) (h : v.argv.length < maxFuseArgs) :
    FuseArgv :=
  ⟨v.argv ++ [a], by simp; omega⟩

/-- The vector `processArgs` starts from: the program name, and a slot left for the mount point. -/
def FuseArgv.initial (prog : String) : FuseArgv :=
  ⟨[some prog, none], by simp [maxFuseArgs]⟩

@[simp] lemma FuseArgv.push_argv (v : FuseArgv) (a : Option String) (h) :
    (v.push a h).argv = v.argv ++ [a] := rfl

/-- `ConfigMode` of `FileUtils.h`, which is not under src/: `processArgs` sets
`Config_Standard` or `Config_Paranoia`, and `EncFS_Opts` starts from the prompt. -/
inductive ConfigMode
  | prompt
  | standard
  | paranoia
  deriving DecidableEq, Repr

/-- The fields of `EncFS_Opts` that `processArgs` reads or writes. -/
structure EncFSOpts where
  rootDir : String
  mountPoint : String
  unmountPoint : String
  idleTracking : Bool
  mountOnDemand : Bool
  delayMount : Bool
  checkKey : Bool
  forceDecode : Bool
  passwordProgram : String
  useStdin : Bool
  useEnv : Bool
  annotate : Bool
  ownerCreate : Bool
  reverseEncryption : Bool
  noCache : Bool
  readOnly : Bool
  requireMac : Bool
  insecure : Bool
  configMode : ConfigMode
  config : String
  unmount : Bool
  deriving DecidableEq, Repr

/-- `EncFS_Args`. `idleTimeout` is an `int`. -/
structure EncFSArgs where
  isDaemon : Bool
  isThreaded : Bool
  isVerbose : Bool
  idleTimeout : Int
  fuseArgv : FuseArgv
  syslogTag : String
  opts : EncFSOpts
  deriving DecidableEq

/-- `fuseArgc`. -/
def EncFSArgs.fuseArgc (out : EncFSArgs) : Nat := out.fuseArgv.argv.length

/-- How `processArgs` stops when it does not return `true`. -/
inductive Halt
  /-- `return false`, after printing the message on `cerr`. -/
  | reject (msg : String)
  /-- `exit(EXIT_SUCCESS)`, after `-V` or `-H`. -/
  | exit
  /-- A failed `rAssert`, which throws an `encfs::Error` naming the condition. -/
  | assertFailed (cond : String)
  /-- A `std::string` read past its end, which C++ leaves undefined. -/
  | outOfRange
  deriving DecidableEq, Repr

section

variable {α β : Type}

@[simp] lemma ok_bind (a : α) (f : α → Except Halt β) : (Except.ok a >>= f) = f a := rfl

@[simp] lemma error_bind (e : Halt) (f : α → Except Halt β) :
    (Except.error e >>= f : Except Halt β) = .error e := rfl

@[simp] lemma pure_eq (a : α) : (pure a : Except Halt α) = .ok a := rfl

@[simp] lemma throw_eq (e : Halt) : (throw e : Except Halt α) = .error e := rfl

lemma bind_eq_ok {x : Except Halt α} {f : α → Except Halt β} {b : β} :
    x >>= f = .ok b ↔ ∃ a, x = .ok a ∧ f a = .ok b := by
  cases x <;> simp

lemma bind_eq_error {x : Except Halt α} {f : α → Except Halt β} {e : Halt} :
    x >>= f = .error e ↔ x = .error e ∨ ∃ a, x = .ok a ∧ f a = .error e := by
  cases x <;> simp

end

/-- What `processArgs` asks of the system: `geteuid()`, and `isDirectory` and `userAllowMkdir`
of `FileUtils` (the latter asks the user, by prompt number, and may create the directory). The
process environment is assumed to have no `POSIXLY_CORRECT`, so that `getopt_long` permutes. -/
structure Env where
  euid : Nat
  isDirectory : String → Bool
  userAllowMkdir : Nat → String → Nat → Bool

/-- Modelled from the spec: `rAssert` of `Error.h`, which is not under src/. A check that fails
throws an `encfs::Error` naming the condition, and a check that holds gives its proof. -/
def rAssert (cond : Prop) [Decidable cond] (text : String) : Except Halt (PLift cond) :=
  if h : cond then .ok ⟨h⟩ else .error (.assertFailed text)

/-- `PUSHARG(ARG)`: `rAssert(out->fuseArgc < MaxFuseArgs)`, then `fuseArgv[fuseArgc++] = ARG`. -/
def pushArg (a : String) (out : EncFSArgs) : Except Halt EncFSArgs := do
  let ⟨h⟩ ← rAssert (out.fuseArgc < maxFuseArgs) "out->fuseArgc < MaxFuseArgs"
  return { out with fuseArgv := out.fuseArgv.push (some a) h }

/-- `pushArg` adds its entry exactly when there is room, and throws otherwise. -/
lemma pushArg_eq (a : String) (out : EncFSArgs) :
    pushArg a out =
      if h : out.fuseArgc < maxFuseArgs then
        .ok { out with fuseArgv := out.fuseArgv.push (some a) h }
      else .error (.assertFailed "out->fuseArgc < MaxFuseArgs") := by
  unfold pushArg rAssert
  split_ifs <;> rfl

/-- `PUSHARG` of each entry in turn. -/
def pushArgs (l : List String) (out : EncFSArgs) : Except Halt EncFSArgs :=
  l.foldlM (fun out a => pushArg a out) out

/-- The vector with `l` added, when it has room for all of it. -/
def FuseArgv.append (v : FuseArgv) (l : List String)
    (h : v.argv.length + l.length ≤ maxFuseArgs) : FuseArgv :=
  ⟨v.argv ++ l.map some, by simpa using h⟩

@[simp] lemma FuseArgv.append_argv (v : FuseArgv) (l : List String) (h) :
    (v.append l h).argv = v.argv ++ l.map some := rfl

lemma FuseArgv.append_nil (v : FuseArgv) (h) : v.append [] h = v := by
  cases v; simp [FuseArgv.append]

lemma FuseArgv.append_cons (v : FuseArgv) (a : String) (l : List String) (h h₁ h₂) :
    v.append (a :: l) h = (v.push (some a) h₁).append l h₂ := by
  simp [FuseArgv.append, FuseArgv.push]

/-- `pushArgs` adds all its entries when there is room for them, and throws otherwise. -/
lemma pushArgs_eq (l : List String) (out : EncFSArgs) :
    pushArgs l out =
      if h : out.fuseArgc + l.length ≤ maxFuseArgs then
        .ok { out with fuseArgv := out.fuseArgv.append l h }
      else .error (.assertFailed "out->fuseArgc < MaxFuseArgs") := by
  induction l generalizing out with
  | nil =>
    rw [dif_pos (by exact out.fuseArgv.length_le), FuseArgv.append_nil]; rfl
  | cons a l ih =>
    simp only [pushArgs] at ih ⊢
    rw [List.foldlM_cons, pushArg_eq]
    simp only [EncFSArgs.fuseArgc, List.length_cons] at ih ⊢
    by_cases h : out.fuseArgv.argv.length < maxFuseArgs
    · rw [dif_pos h]
      dsimp only [bind, Except.bind]
      rw [ih]
      simp only [FuseArgv.push_argv, List.length_append, List.length_singleton]
      split_ifs <;> first | omega | rfl | rw [FuseArgv.append_cons]
    · rw [dif_neg h, dif_neg (by omega)]
      rfl

/-- `a - b` on `size_t`, for a length `a` (below `2^64`): it wraps around below zero. -/
def sizeSub (a b : Nat) : Nat := if b ≤ a then a - b else 2 ^ 64 + a - b

/-- `s[i]` on a `std::string`: `s[s.length()]` is the terminating `'\0'`, and a read past it is
undefined. -/
def charAt (s : String) (i : Nat) : Except Halt Char :=
  match s.toList.get? i with
  | some c => .ok c
  | none => if i = s.length then .ok '\x00' else .error .outOfRange

/-- `slashTerminate`: append a `/` unless the last character is one. The index
`result.length() - 1` is computed in `size_t`. -/
def slashTerminate (src : String) : Except Halt String := do
  let result := src
  if (← charAt result (sizeSub result.length 1)) ≠ '/' then
    return result ++ "/"
  return result

/-- The read of `slashTerminate` at `length() - 1` gives the last character, and is out of range
on an empty string. -/
lemma charAt_last (s : String) :
    charAt s (sizeSub s.length 1) =
      match s.toList.getLast? with
      | none => .error .outOfRange
      | some c => .ok c := by
  obtain ⟨cs⟩ := s
  rcases cs.eq_nil_or_concat with rfl | ⟨l, c, rfl⟩
  · rfl
  · simp [charAt, sizeSub, String.length, List.get?_eq_getElem?]

/-- `slashTerminate` appends a `/` to a string that does not end in one, and reads past the end
of an empty string. -/
lemma slashTerminate_eq (src : String) :
    slashTerminate src =
      match src.toList.getLast? with
      | none => .error .outOfRange
      | some c => .ok (if c ≠ '/' then src ++ "/" else src) := by
  simp only [slashTerminate, charAt_last]
  split
  · rfl
  · dsimp only [bind, Except.bind]
    split_ifs <;> rfl

lemma slashTerminate_empty : slashTerminate "" = .error .outOfRange := rfl

/-- `slashTerminate` fails only on the empty string, by reading out of range. -/
lemma slashTerminate_error {s : String} {e : Halt} (h : slashTerminate s = .error e) :
    s = "" ∧ e = .outOfRange := by
  rw [slashTerminate_eq] at h
  split at h
  · rename_i hl; cases h
    exact ⟨String.ext (List.getLast?_eq_none_iff.mp hl), rfl⟩
  · cases h

lemma slashTerminate_ok {s : String} (h : s ≠ "") : ∃ s', slashTerminate s = .ok s' := by
  rw [slashTerminate_eq]
  split
  · rename_i hl; exact absurd (String.ext (List.getLast?_eq_none_iff.mp hl)) h
  · exact ⟨_, rfl⟩

/-- Modelled from the spec: `isAbsolutePath` of `FileUtils`, which is not under src/. An absolute
path is one beginning with `/`, as the message of `processArgs` says. -/
def isAbsolutePath (path : String) : Bool :=
  path.toList.head? = some '/'

/-- Modelled from the spec: `lastPathElement` of `FileUtils`, which is not under src/. The program
name passed to fuse, here what follows the last `/` of `argv[0]`. -/
def lastPathElement (name : String) : String :=
  ⟨(name.toList.reverse.takeWhile (· ≠ '/')).reverse⟩

/-- The test of `processArgs` that the raw directory lies below the mount point:
`testMountPoint == rootDir.substr(0, testMountPoint.length())`. -/
def rootDirBelowMountPoint (rootDir mountPoint : String) : Bool :=
  mountPoint == ⟨rootDir.toList.take mountPoint.length⟩

end EncFS
