import EncFS.Args.Properties

/-!
# What each option sets

The `switch` of `processArgs` is written option by option. Read field by field, it says which
options store a value in each setting: `--reverse` and `--reversewrite` both store
`reverseEncryption`, `--standard` and `--paranoia` store `configMode`, `--nocache` and
`--nodatacache` store `noCache`, `--public` stores `ownerCreate` only when run as root, and so
on. Only `-V` reads a setting, and it exits, so after a loop that gets through every
setting holds the value of the last option that stores one, or its value from before the loop
(`Settings.ofOptions`). The rest of `processArgs` only fills in `fuseArgv` and the paths, so this
is every setting of an accepted request (`processArgs_settings`).
-/

namespace EncFS

/-- The fields of `EncFS_Args` and `EncFS_Opts` that the options set: all but `fuseArgv` and the
three paths. -/
structure Settings where
  isDaemon : Bool
  isThreaded : Bool
  isVerbose : Bool
  idleTimeout : Int
  syslogTag : String
  idleTracking : Bool
  mountOnDemand : Bool
  delayMount : Bool
  checkKey : Bool
  forceDecode : Bool
  passwordProgram : String
  useStdin : Bool
  useEnv : Bool
  annotate : Bool
  ownerCreate : Bool
  reverseEncryption : Bool
  noCache : Bool
  readOnly : Bool
  requireMac : Bool
  insecure : Bool
  configMode : ConfigMode
  config : String
  unmount : Bool

/-- The settings of parsed arguments. -/
def EncFSArgs.settings (out : EncFSArgs) : Settings :=
  ⟨out.isDaemon, out.isThreaded, out.isVerbose, out.idleTimeout, out.syslogTag,
    out.opts.idleTracking, out.opts.mountOnDemand, out.opts.delayMount, out.opts.checkKey,
    out.opts.forceDecode, out.opts.passwordProgram, out.opts.useStdin, out.opts.useEnv,
    out.opts.annotate, out.opts.ownerCreate, out.opts.reverseEncryption, out.opts.noCache,
    out.opts.readOnly, out.opts.requireMac, out.opts.insecure, out.opts.configMode,
    out.opts.config, out.opts.unmount⟩

/-- The options of label `c` store `v`, whatever their argument. -/
def storeOn {α : Type} (c : SwitchCase) (v : α) (c' : SwitchCase) (_arg : String) : Option α :=
  if c' = c then some v else none

/-- The options of label `c` store their argument, as `f` reads it. -/
def storeArg {α : Type} (c : SwitchCase) (f : String → α) (c' : SwitchCase) (arg : String) :
    Option α :=
  if c' = c then some (f arg) else none

/-- The value of a setting after the options `rs`, where an option of label `c` and argument
`arg` stores `set c arg` when that is some value: the value the last of them stores, or `d` when
none does. -/
def lastSet {α : Type} (set : SwitchCase → String → Option α) (rs : List GetoptResult) (d : α) :
    α :=
  rs.foldl (fun v r => (set (SwitchCase.ofRes r.res) (r.optarg.getD "")).getD v) d

lemma lastSet_cons {α : Type} (set : SwitchCase → String → Option α) (r : GetoptResult)
    (rs : List GetoptResult) (d : α) :
    lastSet set (r :: rs) d =
      lastSet set rs ((set (SwitchCase.ofRes r.res) (r.optarg.getD "")).getD d) := rfl

/-- Every setting after the options `rs`, from `s`, for a user of effective id `euid`: each is
set by the last option that stores a value in it, as the `switch` says. -/
def Settings.ofOptions (euid : Nat) (rs : List GetoptResult) (s : Settings) : Settings where
  isDaemon := lastSet (fun c a => (storeOn .unmount false c a).or (storeOn .foreground false c a))
    rs s.isDaemon
  isThreaded := lastSet (storeOn .singleThread false) rs s.isThreaded
  isVerbose := lastSet (storeOn .verbose true) rs s.isVerbose
  idleTimeout := lastSet (storeArg .idle (intOfLong ∘ strtol)) rs s.idleTimeout
  syslogTag := lastSet (storeArg .syslogTag id) rs s.syslogTag
  idleTracking := lastSet (storeOn .idle true) rs s.idleTracking
  mountOnDemand := lastSet (storeOn .onDemand true) rs s.mountOnDemand
  delayMount := lastSet (storeOn .delayMount true) rs s.delayMount
  checkKey := lastSet (storeOn .anyKey false) rs s.checkKey
  forceDecode := lastSet (storeOn .forceDecode true) rs s.forceDecode
  passwordProgram := lastSet (storeArg .extPass id) rs s.passwordProgram
  useStdin := lastSet (storeOn .stdinPass true) rs s.useStdin
  useEnv := lastSet (storeOn .envPass true) rs s.useEnv
  annotate := lastSet (storeOn .annotate true) rs s.annotate
  ownerCreate := lastSet (fun c a => (storeOn .public true c a).filter fun _ => euid = 0)
    rs s.ownerCreate
  reverseEncryption := lastSet
    (fun c a => (storeOn .reverse true c a).or (storeOn .reverseWrite true c a)) rs
    s.reverseEncryption
  noCache := lastSet (fun c a => (storeOn .noCache true c a).or (storeOn .noDataCache true c a))
    rs s.noCache
  readOnly := lastSet (fun c a => (storeOn .reverse true c a).or (storeOn .reverseWrite false c a))
    rs s.readOnly
  requireMac := lastSet (storeOn .requireMac true) rs s.requireMac
  insecure := lastSet (storeOn .insecure true) rs s.insecure
  configMode := lastSet
    (fun c a => (storeOn .standard .standard c a).or (storeOn .paranoia .paranoia c a)) rs
    s.configMode
  config := lastSet (storeArg .config id) rs s.config
  unmount := lastSet (storeOn .unmount true) rs s.unmount

/-- Options one after the other set what each sets in turn. -/
lemma Settings.ofOptions_cons (euid : Nat) (r : GetoptResult) (rs : List GetoptResult)
    (s : Settings) : s.ofOptions euid (r :: rs) = (s.ofOptions euid [r]).ofOptions euid rs := rfl

/-- One pass of the `switch` that does not stop the loop sets the settings as the option
says. -/
lemma handleOption_settings {env : Env} {st st' : ParseState} {r : GetoptResult}
    (h : handleOption env st r = .ok st') :
    st'.out.settings = st.out.settings.ofOptions env.euid [r] := by
  unfold handleOption at h
  simp only [Settings.ofOptions, lastSet, List.foldl_cons, List.foldl_nil]
  generalize SwitchCase.ofRes r.res = c at h ⊢
  cases c <;> simp only [pushArg_eq, pushArgs_eq] at h
  all_goals first | cases h | (split_ifs at h with he <;> cases h)
  all_goals first | rfl | simp_all [EncFSArgs.settings, storeOn, storeArg, Option.filter]

/-- A loop that gets through sets every setting as the options say, one after the other. -/
lemma parseOptions_settings {env : Env} {st st' : ParseState} {rs : List GetoptResult}
    (h : parseOptions env st rs = .ok st') :
    st'.out.settings = st.out.settings.ofOptions env.euid rs := by
  induction rs generalizing st with
  | nil => cases h; rfl
  | cons r rs ih =>
    rw [parseOptions_cons] at h
    rcases handleOption_spec env st r with ⟨-, h₁⟩ | ⟨-, -, h₁⟩ | ⟨-, -, s₁, h₁, -⟩ <;>
      rw [h₁] at h
    · cases h
    · cases h
    · rw [ih h, handleOption_settings h₁, Settings.ofOptions_cons _ r rs]

/-! ### The phases after the loop fill in only `fuseArgv` and the paths -/

section After

variable {env : Env} {out out' : EncFSArgs}

lemma pushArgs_settings {l : List String} (h : pushArgs l out = .ok out') :
    out'.settings = out.settings := by
  rw [pushArgs_eq] at h
  split at h <;> cases h; rfl

lemma finishMount_settings {u : Bool} {extra : List String}
    (h : finishMount env u extra out = .ok out') : out'.settings = out.settings := by
  obtain ⟨o₁, h₁, o₂, h₂, h₃⟩ := by simpa only [finishMount, bind_eq_ok] using h
  have h₂' : o₂.settings = o₁.settings := by
    unfold pushDefaultFlags at h₂
    split_ifs at h₂
    · exact pushArgs_settings h₂
    · cases h₂; rfl
  unfold checkArgs at h₃
  split at h₃ <;> cases h₃
  exact h₂'.trans (pushArgs_settings h₁)

lemma afterOptions_settings {st : ParseState} {ops : List String}
    (h : afterOptions env st ops = .ok out') : out'.settings = st.out.settings := by
  obtain ⟨o₁, h₁, h₂⟩ := by simpa only [afterOptions, bind_eq_ok] using h
  have h₁' : o₁.settings = st.out.settings := by
    rw [pushSingleThread_eq, pushArg_eq] at h₁
    split_ifs at h₁ <;> cases h₁ <;> rfl
  rw [← h₁']
  split_ifs at h₂
  · unfold unmountOperand at h₂
    split at h₂ <;> cases h₂; rfl
  · unfold mountOperands at h₂
    split at h₂
    · obtain ⟨_, -, _, -, h₃⟩ := by simpa only [bind_eq_ok] using h₂
      rw [finishMount_settings h₃]; rfl
    · cases h₂

end After

/-- Every setting of an accepted request is that of the last option that stores one, as the
`switch` says, or else its default: the one `processArgs` sets before the loop, or for the fields
it leaves alone, the one the request came with. -/
theorem processArgs_settings {env : Env} {prog : String} {args : List String}
    {out out' : EncFSArgs} (h : processArgs env prog args out = .ok out') :
    out'.settings = (setDefaults prog out).settings.ofOptions env.euid
      (getoptLong shortOptions longOptions args).1 := by
  obtain ⟨st, hp, ha⟩ := by simpa only [processArgs, bind_eq_ok] using h
  rw [afterOptions_settings ha, parseOptions_settings hp]

/-- `encfs --reverse --reversewrite /raw /mnt`. -/
theorem processArgs_settings_reverse :
    ∃ out', processArgs Env.user "encfs" ["--reverse", "--reversewrite", "/raw", "/mnt"]
        EncFSArgs.blank = .ok out' ∧
      out'.settings = (setDefaults "encfs" EncFSArgs.blank).settings.ofOptions Env.user.euid
        (getoptLong shortOptions longOptions ["--reverse", "--reversewrite", "/raw", "/mnt"]).1 :=
  ⟨_, rfl, processArgs_settings rfl⟩

/-- `--reversewrite` after `--reverse` leaves the filesystem writable, and `--public` is ignored
for a user other than root. -/
example :
    let s := (setDefaults "encfs" EncFSArgs.blank).settings.ofOptions Env.user.euid
      (getoptLong shortOptions longOptions ["--reverse", "--reversewrite", "--public", "/m"]).1
    s.readOnly = false ∧ s.ownerCreate = false := by
  decide

/-! ### `--public` -/

/-- A setting that the options of one label store a constant in, under a guard that does not
depend on the option, holds that constant exactly when the guard holds and one such option is
given, wherever it stands. -/
lemma lastSet_storeOn_filter {α : Type} (c : SwitchCase) (v : α) (p : Bool)
    (rs : List GetoptResult) (d : α) :
    lastSet (fun c' a => (storeOn c v c' a).filter fun _ => p) rs d =
      if p ∧ ∃ r ∈ rs, SwitchCase.ofRes r.res = c then v else d := by
  induction rs generalizing d with
  | nil => simp [lastSet]
  | cons r rs ih =>
    rw [lastSet_cons, ih]
    by_cases hc : SwitchCase.ofRes r.res = c <;> cases p <;> simp [storeOn, Option.filter, hc]

/-- An accepted request makes the file system public (`ownerCreate`, which `main` hands to the
context and to `initFS`) exactly when `--public` is given by a user of effective id `0`: wherever
it stands among the options, and whatever the request came with. -/
theorem processArgs_ownerCreate_iff {env : Env} {prog : String} {args : List String}
    {out out' : EncFSArgs} (h : processArgs env prog args out = .ok out') :
    out'.opts.ownerCreate = true ↔ env.euid = 0 ∧
      ∃ r ∈ (getoptLong shortOptions longOptions args).1, SwitchCase.ofRes r.res = .public := by
  obtain ⟨st, hp, ha⟩ := by simpa only [processArgs, bind_eq_ok] using h
  have hs := congrArg Settings.ownerCreate
    ((afterOptions_settings ha).trans (parseOptions_settings hp))
  simp only [EncFSArgs.settings, Settings.ofOptions, lastSet_storeOn_filter] at hs
  simp [hs, setDefaults]

/-- `encfs --public /raw /mnt` run as root, which makes the file system public. -/
theorem processArgs_ownerCreate_iff_public :
    ∃ out', processArgs { Env.user with euid := 0 } "encfs" ["--public", "/raw", "/mnt"]
        EncFSArgs.blank = .ok out' ∧ out'.opts.ownerCreate = true ∧
      (out'.opts.ownerCreate = true ↔ ({ Env.user with euid := 0 } : Env).euid = 0 ∧
        ∃ r ∈ (getoptLong shortOptions longOptions ["--public", "/raw", "/mnt"]).1,
          SwitchCase.ofRes r.res = .public) :=
  ⟨_, rfl, rfl,
    @processArgs_ownerCreate_iff { Env.user with euid := 0 } "encfs" _ EncFSArgs.blank _ rfl⟩

end EncFS
