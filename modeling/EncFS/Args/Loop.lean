import EncFS.Args.ProcessArgs

/-!
# The option loop

What one pass of the `switch` can do, said once (`handleOption_spec`), and what the whole loop
then does (`parseOptions_*`): it stops at the first `-V` or `-H`, throws exactly when the
entries it pushes outgrow `fuseArgv`, and otherwise leaves `fuseArgv` extended by every option's
entries, with the fields the rest of `processArgs` reads set by the options that name them.
-/

namespace EncFS

/-- Whether a return of `getopt_long` makes `processArgs` exit: `-V` and `-H`. -/
def GetoptResult.exits (r : GetoptResult) : Bool :=
  SwitchCase.ofRes r.res = .version || SwitchCase.ofRes r.res = .fuseHelp

/-- The entries of `fuseArgv` that the `switch` pushes for one return of `getopt_long`. -/
def fuseEntries (euid : Nat) (r : GetoptResult) : List String :=
  match SwitchCase.ofRes r.res with
  | .foreground => ["-f"]
  | .fuseDebug => ["-d"]
  | .noCache | .noAttrCache => ["-oattr_timeout=0", "-oentry_timeout=0"]
  | .fuseOption => ["-o", r.optarg.getD ""]
  | .public => if euid ≠ 0 then [] else ["-o", "allow_other"]
  | _ => []

/-- The argument of the last `-i`/`--idle` among `rs`, after the one already seen. -/
def lastIdleArg (seen : Option String) (rs : List GetoptResult) : Option String :=
  rs.foldl (fun a r => if SwitchCase.ofRes r.res = .idle then some (r.optarg.getD "") else a) seen

/-- The fields of the loop state the rest of `processArgs` reads, after one option that did not
stop the loop. -/
structure ParseState.Next (env : Env) (st : ParseState) (r : GetoptResult) (st' : ParseState) :
    Prop where
  continues : r.exits = false
  fuseArgv : st'.out.fuseArgv.argv = st.out.fuseArgv.argv ++ (fuseEntries env.euid r).map some
  isDaemon : st'.out.isDaemon = (st.out.isDaemon &&
    !(SwitchCase.ofRes r.res == .unmount || SwitchCase.ofRes r.res == .foreground))
  isThreaded : st'.out.isThreaded = (st.out.isThreaded && SwitchCase.ofRes r.res != .singleThread)
  unmount : st'.out.opts.unmount = (st.out.opts.unmount || SwitchCase.ofRes r.res == .unmount)
  useDefaultFlags :
    st'.useDefaultFlags = (st.useDefaultFlags && SwitchCase.ofRes r.res != .noDefaultFlags)
  idleTimeout : st'.out.idleTimeout =
    if SwitchCase.ofRes r.res = .idle then intOfLong (strtol (r.optarg.getD ""))
    else st.out.idleTimeout

/-- A pass of the loop with an option that does not stop it. -/
lemma handleOption_ok {env : Env} {st st' : ParseState} {r : GetoptResult}
    (h : handleOption env st r = .ok st') : ParseState.Next env st r st' := by
  unfold handleOption at h
  cases hc : SwitchCase.ofRes r.res <;> simp only [hc, pushArg_eq, pushArgs_eq] at h
  case version | fuseHelp => cases h
  case foreground | fuseDebug | noCache | noAttrCache | fuseOption | public =>
    split_ifs at h <;> cases h <;> constructor <;> simp [GetoptResult.exits, fuseEntries, hc, *]
  all_goals cases h; constructor <;> simp [GetoptResult.exits, fuseEntries, hc]

/-- A pass of the loop that stops it: `exit` for `-V` and `-H`, or the `rAssert` of a push that
does not fit. -/
lemma handleOption_error {env : Env} {st : ParseState} {r : GetoptResult} {e : Halt}
    (h : handleOption env st r = .error e) :
    (r.exits ∧ e = .exit) ∨
    (r.exits = false ∧ maxFuseArgs < st.out.fuseArgc + (fuseEntries env.euid r).length ∧
      e = .assertFailed "out->fuseArgc < MaxFuseArgs") := by
  unfold handleOption at h
  cases hc : SwitchCase.ofRes r.res <;> simp only [hc, pushArg_eq, pushArgs_eq] at h
  case version | fuseHelp => cases h; simp [GetoptResult.exits, hc]
  case foreground | fuseDebug =>
    split_ifs at h <;> cases h
    right
    simp_all [GetoptResult.exits, fuseEntries, EncFSArgs.fuseArgc]
    omega
  case noCache | noAttrCache | fuseOption | public =>
    split_ifs at h <;> cases h
    right
    simp_all [GetoptResult.exits, fuseEntries, EncFSArgs.fuseArgc]
  all_goals cases h

/-- One pass of the loop: it exits for `-V` and `-H`; otherwise it pushes the option's entries,
and throws exactly when they do not fit. -/
lemma handleOption_spec (env : Env) (st : ParseState) (r : GetoptResult) :
    (r.exits ∧ handleOption env st r = .error .exit) ∨
    (r.exits = false ∧ maxFuseArgs < st.out.fuseArgc + (fuseEntries env.euid r).length ∧
      handleOption env st r = .error (.assertFailed "out->fuseArgc < MaxFuseArgs")) ∨
    (r.exits = false ∧ st.out.fuseArgc + (fuseEntries env.euid r).length ≤ maxFuseArgs ∧
      ∃ st', handleOption env st r = .ok st' ∧ ParseState.Next env st r st') := by
  cases h : handleOption env st r with
  | error e =>
    rcases handleOption_error h with ⟨hx, rfl⟩ | ⟨hx, hlt, rfl⟩
    · exact .inl ⟨hx, rfl⟩
    · exact .inr (.inl ⟨hx, hlt, rfl⟩)
  | ok st' =>
    have hn := handleOption_ok h
    have hle := st'.out.fuseArgv.length_le
    rw [hn.fuseArgv, List.length_append, List.length_map] at hle
    exact .inr (.inr ⟨hn.continues, hle, st', rfl, hn⟩)

lemma parseOptions_cons (env : Env) (st : ParseState) (r : GetoptResult)
    (rs : List GetoptResult) :
    parseOptions env st (r :: rs) = handleOption env st r >>= (parseOptions env · rs) := rfl

lemma lastIdleArg_eq_or (seen : Option String) (rs : List GetoptResult) :
    lastIdleArg seen rs = (lastIdleArg none rs).or seen := by
  induction rs generalizing seen with
  | nil => rfl
  | cons r rs ih =>
    simp only [lastIdleArg, List.foldl_cons] at ih ⊢
    rw [ih, ih (ite _ _ _)]
    split_ifs <;> cases List.foldl _ none rs <;> rfl

lemma lastIdleArg_cons (r : GetoptResult) (rs : List GetoptResult) :
    lastIdleArg none (r :: rs) = (lastIdleArg none rs).or
      (if SwitchCase.ofRes r.res = .idle then some (r.optarg.getD "") else none) := by
  rw [← lastIdleArg_eq_or]; rfl

/-- The loop throws exactly when the entries of the options before the first `-V` or `-H`
outgrow `fuseArgv`. -/
lemma parseOptions_assert_iff (env : Env) (st : ParseState) (rs : List GetoptResult) :
    (∃ c, parseOptions env st rs = .error (.assertFailed c)) ↔
      maxFuseArgs < st.out.fuseArgc +
        ((rs.takeWhile (!·.exits)).map (fuseEntries env.euid · |>.length)).sum := by
  induction rs generalizing st with
  | nil =>
    have := st.out.fuseArgv.length_le
    simp only [parseOptions, List.foldlM_nil, List.takeWhile_nil, List.map_nil, List.sum_nil]
    exact ⟨fun ⟨_, h⟩ => (nomatch h), fun h => absurd h (by simp [EncFSArgs.fuseArgc]; omega)⟩
  | cons r rs ih =>
    rw [parseOptions_cons]
    rcases handleOption_spec env st r with ⟨hx, h⟩ | ⟨hx, hlt, h⟩ | ⟨hx, hle, st', h, hn⟩
    · have := st.out.fuseArgv.length_le
      simp only [h, hx, List.takeWhile_cons, Bool.not_true]
      exact ⟨fun ⟨_, h⟩ => (nomatch h), fun h => absurd h (by simp [EncFSArgs.fuseArgc]; omega)⟩
    · simp only [h, hx, List.takeWhile_cons, Bool.not_false, if_true, List.map_cons,
        List.sum_cons]
      exact ⟨fun _ => by omega, fun _ => ⟨_, rfl⟩⟩
    · simp only [h, hx, List.takeWhile_cons, Bool.not_false, if_true, List.map_cons,
        List.sum_cons]
      rw [show st.out.fuseArgc = st'.out.fuseArgc - (fuseEntries env.euid r).length by
        simp [EncFSArgs.fuseArgc, hn.fuseArgv]]
      have : (fuseEntries env.euid r).length ≤ st'.out.fuseArgc := by
        simp [EncFSArgs.fuseArgc, hn.fuseArgv]
      exact (ih st').trans (by omega)

/-- The loop stops with an error only at a `-V` or `-H`, or when the capacity check throws. -/
lemma parseOptions_error {env : Env} {st : ParseState} {rs : List GetoptResult} {e : Halt}
    (h : parseOptions env st rs = .error e) :
    (e = .exit ∧ ∃ r ∈ rs, r.exits) ∨ ∃ c, e = .assertFailed c := by
  induction rs generalizing st with
  | nil => cases h
  | cons r rs ih =>
    rw [parseOptions_cons] at h
    rcases handleOption_spec env st r with ⟨hx, h₁⟩ | ⟨-, -, h₁⟩ | ⟨-, -, s₁, h₁, -⟩ <;>
      rw [h₁] at h
    · cases h; exact .inl ⟨rfl, r, List.mem_cons_self _ _, hx⟩
    · cases h; exact .inr ⟨_, rfl⟩
    · rcases ih h with ⟨he, r', hr', hx⟩ | hc
      · exact .inl ⟨he, r', List.mem_cons_of_mem _ hr', hx⟩
      · exact .inr hc

/-- What the rest of `processArgs` reads of a loop that got through. -/
structure ParseState.After (env : Env) (st : ParseState) (rs : List GetoptResult)
    (st' : ParseState) : Prop where
  continues : ∀ r ∈ rs, r.exits = false
  fuseArgv : st'.out.fuseArgv.argv =
    st.out.fuseArgv.argv ++ (rs.flatMap (fuseEntries env.euid)).map some
  isDaemon : st'.out.isDaemon = (st.out.isDaemon && rs.all fun r =>
    !(SwitchCase.ofRes r.res == .unmount || SwitchCase.ofRes r.res == .foreground))
  isThreaded : st'.out.isThreaded =
    (st.out.isThreaded && rs.all (SwitchCase.ofRes ·.res != .singleThread))
  unmount : st'.out.opts.unmount =
    (st.out.opts.unmount || rs.any (SwitchCase.ofRes ·.res == .unmount))
  useDefaultFlags : st'.useDefaultFlags =
    (st.useDefaultFlags && rs.all (SwitchCase.ofRes ·.res != .noDefaultFlags))
  idleTimeout : st'.out.idleTimeout =
    ((lastIdleArg none rs).map (intOfLong ∘ strtol)).getD st.out.idleTimeout

/-- A loop that gets through pushes every option's entries, and leaves the fields the rest of
`processArgs` reads as the options set them. -/
lemma parseOptions_ok {env : Env} {st st' : ParseState} {rs : List GetoptResult}
    (h : parseOptions env st rs = .ok st') : ParseState.After env st rs st' := by
  induction rs generalizing st with
  | nil => cases h; constructor <;> simp [lastIdleArg]
  | cons r rs ih =>
    rw [parseOptions_cons] at h
    rcases handleOption_spec env st r with ⟨-, h₁⟩ | ⟨-, -, h₁⟩ | ⟨-, -, s₁, h₁, hn⟩ <;>
      rw [h₁] at h
    · cases h
    · cases h
    · have ha := ih h
      constructor
      · simpa [hn.continues] using ha.continues
      · simp [ha.fuseArgv, hn.fuseArgv]
      · simp [ha.isDaemon, hn.isDaemon, Bool.and_assoc]
      · simp [ha.isThreaded, hn.isThreaded, Bool.and_assoc]
      · simp [ha.unmount, hn.unmount, Bool.or_assoc]
      · simp [ha.useDefaultFlags, hn.useDefaultFlags, Bool.and_assoc]
      · rw [ha.idleTimeout, hn.idleTimeout, lastIdleArg_cons]
        split_ifs <;> cases lastIdleArg none rs <;> rfl

end EncFS
