import EncFS.Args.Properties

/-!
# The idle timeout

`--idle=MINUTES` reaches `idleMonitor` through two conversions of C: the `long` that `strtol`
reads is stored in the `int` field `idleTimeout`, and `idleMonitor` counts its cycles as the `int`
product `60 * idleTimeout` divided by `ActivityCheckInterval`. Both are exact for every time up to
`35791394` minutes and for none above: past it the product overflows an `int`, or the narrowing
has already changed the value.
-/

namespace EncFS

/-- `ActivityCheckInterval`: the seconds `idleMonitor` waits between two checks. -/
def activityCheckInterval : Int := 10

/-- `timeoutCycles = 60 * arg->idleTimeout / ActivityCheckInterval`, or `none` when the product
overflows an `int`. -/
def timeoutCycles (idleTimeout : Int) : Option Int :=
  (intMul 60 idleTimeout).map (·.tdiv activityCheckInterval)

/-- The longest idle time, in minutes, whose cycle count `60 * idleTimeout` fits an `int`. -/
def maxIdleMinutes : Int := 35791394

/-- A positive time counts six cycles a minute, exactly when the product fits an `int`. -/
lemma timeoutCycles_eq_six_mul_iff {m : Int} (hm : 0 < m) :
    timeoutCycles m = some (6 * m) ↔ m ≤ maxIdleMinutes := by
  unfold timeoutCycles
  constructor
  · intro h
    obtain ⟨p, hp, -⟩ := Option.map_eq_some'.mp h
    obtain ⟨rfl, -, hp⟩ := intMul_eq_some.mp hp
    simp only [intMax, maxIdleMinutes] at hp ⊢
    omega
  · intro h
    have hmul : intMul 60 m = some (60 * m) := by
      simp only [intMul_eq_some, intMin, intMax, maxIdleMinutes, true_and] at h ⊢
      omega
    rw [hmul, Option.map_some', activityCheckInterval, show 60 * m = 6 * m * 10 by ring,
      Int.mul_tdiv_cancel _ (by decide)]

/-- For an accepted request whose last `--idle` reads, by `strtol`, as a positive `M`: the
supervisor gets `idleTimeout = M` and counts `6 * M` cycles exactly when `M` is at most
`35791394`. -/
theorem processArgs_idle_cycles_iff {env : Env} {prog : String} {args : List String}
    {out out' : EncFSArgs} {a : String} (h : processArgs env prog args out = .ok out')
    (ha : lastIdleArg none (getoptLong shortOptions longOptions args).1 = some a)
    (hpos : 0 < strtol a) :
    (out'.idleTimeout = strtol a ∧ 0 < out'.idleTimeout ∧
      timeoutCycles out'.idleTimeout = some (6 * strtol a)) ↔ strtol a ≤ maxIdleMinutes := by
  rw [processArgs_idleTimeout h, ha, Option.map_some', Option.getD_some, Function.comp_apply]
  generalize strtol a = m at hpos ⊢
  constructor
  · rintro ⟨h₁, -, h₃⟩
    rw [h₁] at h₃
    exact (timeoutCycles_eq_six_mul_iff hpos).mp h₃
  · intro hm
    have h₁ : intOfLong m = m := intOfLong_of_mem (by rw [intMin]; omega)
      (by rw [intMax]; rw [maxIdleMinutes] at hm; omega)
    rw [h₁]
    exact ⟨rfl, hpos, (timeoutCycles_eq_six_mul_iff hpos).mpr hm⟩

/-- `--idle 5`, where the request is accepted and the time is kept. -/
theorem processArgs_idle_cycles_iff_five :
    ∃ out', processArgs Env.user "encfs" ["-i", "5", "/raw", "/mnt"] EncFSArgs.blank = .ok out' ∧
      lastIdleArg none (getoptLong shortOptions longOptions ["-i", "5", "/raw", "/mnt"]).1 =
        some "5" ∧ 0 < strtol "5" ∧
      ((out'.idleTimeout = strtol "5" ∧ 0 < out'.idleTimeout ∧
        timeoutCycles out'.idleTimeout = some (6 * strtol "5")) ↔ strtol "5" ≤ maxIdleMinutes) :=
  ⟨_, rfl, rfl, by decide,
    @processArgs_idle_cycles_iff Env.user "encfs" ["-i", "5", "/raw", "/mnt"] EncFSArgs.blank _ "5"
      rfl rfl (by decide)⟩

/-- Two times the usage's `--idle=MINUTES` accepts and the code loses: `--idle=4294967296` reads
as `2^32` minutes, which the narrowing to an `int` turns into an idle time of `0`, so `encfs_init`
starts no supervisor; `--idle=35791395` is kept, but its cycle count `60 * idleTimeout` overflows
an `int`. -/
theorem processArgs_idle_narrowed_or_overflows :
    strtol "4294967296" = 2 ^ 32 ∧
      (processArgs Env.user "encfs" ["--idle=4294967296", "/raw", "/mnt"] EncFSArgs.blank).map
        (·.idleTimeout) = .ok 0 ∧
    strtol "35791395" = 35791395 ∧
      (processArgs Env.user "encfs" ["--idle=35791395", "/raw", "/mnt"] EncFSArgs.blank).map
        (timeoutCycles ·.idleTimeout) = .ok none :=
  ⟨by decide, rfl, by decide, rfl⟩

end EncFS
