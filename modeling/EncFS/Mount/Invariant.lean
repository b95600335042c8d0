import EncFS.Mount.Threads

/-!
# The invariant of the serve loop and the supervisor

Every reachable state of the two threads is consistent: the mutex is owned by the thread whose
program counter is inside its critical section, and by no other; the supervisor is the only waiter
of `wakeupCond`, exactly while it waits; `running` is set only with an idle timeout and only until
`main` stops it; and once `main` has passed its join, no supervisor runs. Each action keeps the
invariant, so every interleaving does.
-/

namespace EncFS

section Invariant

variable {idleTimeout : Int}

/-- What holds in every reachable state, for the `idleTimeout` of the run. -/
structure Inv (idleTimeout : Int) (s : State) : Prop where
  /-- The mutex is owned by the thread whose program counter holds it. -/
  owner : s.owner =
    if s.main.holds then some .main else if monitorHolds s.monitor then some .monitor else none
  /-- The two threads never hold the mutex together. -/
  exclusive : ¬(s.main.holds = true ∧ monitorHolds s.monitor = true)
  /-- The supervisor is the only waiter, exactly while it waits. -/
  waiters : s.waiters = if s.monitor = some .waiting then [.monitor] else []
  /-- `running` is set only with an idle timeout, and only until `main` stops it. -/
  running : s.running = true → 0 < idleTimeout ∧ (s.main = .serving ∨ s.main = .stopping)
  /-- `main` shuts a supervisor down only with an idle timeout. -/
  shuttingDown : s.main.shuttingDown = true → 0 < idleTimeout
  /-- A supervisor exists only once `encfs_init` has run with an idle timeout. -/
  monitor : s.monitor ≠ none → s.initCalled = true ∧ 0 < idleTimeout
  /-- Once `main` has passed its join, no supervisor runs. -/
  joined : s.main.released = true → s.monitor = none ∨ s.monitor = some .exited
  /-- `main` has joined once when it has passed the join with an idle timeout, and never
  otherwise. -/
  joins : s.joins = if s.main.released = true ∧ 0 < idleTimeout then 1 else 0

lemma inv_initial : Inv idleTimeout State.initial :=
  ⟨rfl, by simp [State.initial, MainPc.holds], rfl, by simp [State.initial],
    by simp [State.initial, MainPc.shuttingDown], by simp [State.initial], by simp [State.initial],
    by simp [State.initial, MainPc.released]⟩

lemma Inv.owner_none {s : State} (hs : Inv idleTimeout s) (h : s.owner = none) :
    s.main.holds = false ∧ monitorHolds s.monitor = false := by
  have := hs.owner
  rw [h] at this
  split_ifs at this; simp_all

/-- A supervisor that has not returned was created by `encfs_init` with an idle timeout, and
`main` has not passed its join. -/
lemma Inv.live {s : State} (hs : Inv idleTimeout s) {p : MonitorPc} (hp : s.monitor = some p)
    (hx : p ≠ .exited) : s.initCalled = true ∧ 0 < idleTimeout ∧ s.main.released = false := by
  refine ⟨(hs.monitor (by simp [hp])).1, (hs.monitor (by simp [hp])).2, ?_⟩
  by_contra h
  simpa [hp, hx] using hs.joined (by simpa using h)

/-- Once `fuse_main` has returned and `main` has gone past the write, `running` is `false`. -/
lemma Inv.running_false {s : State} (hs : Inv idleTimeout s) (h₁ : s.main ≠ .serving)
    (h₂ : s.main ≠ .stopping) : s.running = false := by
  by_contra h
  rcases (hs.running (by simpa using h)).2 with h' | h' <;> contradiction

/-- Each action keeps the invariant. -/
lemma inv_step {s t : State} {a : Action} (hs : Inv idleTimeout s)
    (h : step idleTimeout s a = some t) : Inv idleTimeout t := by
  have hholds (p : MonitorPc) (hp : s.monitor = some p) (hh : p.holds = true) :
      s.main.holds = false := by simpa [hp, monitorHolds, hh] using hs.exclusive
  cases a with
  | encfsInit c =>
    simp only [step, Option.ite_none_right_eq_some, Option.some.injEq] at h
    obtain ⟨⟨hm, hi⟩, rfl⟩ := h
    have h₀ : s.monitor = none := by by_contra h; simpa [hi] using (hs.monitor h).1
    by_cases hpos : 0 < idleTimeout
    · rw [if_pos hpos]
      exact { hs with
        owner := by
          rw [hs.owner]; cases c <;> simp [hm, h₀, MainPc.holds, monitorHolds, MonitorPc.holds]
        exclusive := by simp [hm, MainPc.holds]
        waiters := by rw [hs.waiters]; cases c <;> simp [h₀]
        running := fun _ => ⟨hpos, .inl hm⟩
        monitor := fun _ => ⟨rfl, hpos⟩
        joined := fun h => absurd h (by simp [hm, MainPc.released]) }
    · rw [if_neg hpos]
      exact { hs with monitor := fun h => absurd h₀ h }
  | fuseMainReturn =>
    simp only [step, Option.ite_none_right_eq_some, Option.some.injEq] at h
    obtain ⟨hm, rfl⟩ := h
    exact { hs with
      owner := by rw [hs.owner]; simp [hm, MainPc.holds]
      exclusive := by simp [MainPc.holds]
      running := fun hr => ⟨(hs.running hr).1, .inr rfl⟩
      shuttingDown := fun h => absurd h (by simp [MainPc.shuttingDown])
      joined := fun h => absurd h (by simp [MainPc.released])
      joins := by simp [hs.joins, hm, MainPc.released] }
  | stopRunning =>
    simp only [step, Option.ite_none_right_eq_some, Option.some.injEq] at h
    obtain ⟨hm, rfl⟩ := h
    split_ifs with hpos
    · exact { hs with
        owner := by rw [hs.owner]; simp [hm, MainPc.holds]
        exclusive := by simp [MainPc.holds]
        running := fun h => absurd h (by simp)
        shuttingDown := fun _ => hpos
        joined := fun h => absurd h (by simp [MainPc.released])
        joins := by simp [hs.joins, hm, MainPc.released] }
    · exact { hs with
        owner := by rw [hs.owner]; simp [hm, MainPc.holds]
        exclusive := by simp [MainPc.holds]
        running := fun hr => absurd (hs.running hr).1 hpos
        shuttingDown := fun h => absurd h (by simp [MainPc.shuttingDown])
        joined := fun _ => .inl (by by_contra h; exact hpos (hs.monitor h).2)
        joins := by simp [hs.joins, hm, MainPc.released, hpos] }
  | lockMutex =>
    simp only [step, Option.ite_none_right_eq_some, Option.some.injEq] at h
    obtain ⟨⟨hm, ho⟩, rfl⟩ := h
    exact { hs with
      owner := by simp [MainPc.holds]
      exclusive := by simp [MainPc.holds, (hs.owner_none ho).2]
      running := fun hr => absurd (hs.running hr).2 (by simp [hm])
      shuttingDown := fun _ => hs.shuttingDown (by simp [hm, MainPc.shuttingDown])
      joined := fun h => absurd h (by simp [MainPc.released])
      joins := by simp [hs.joins, hm, MainPc.released] }
  | condSignal =>
    simp only [step, Option.ite_none_right_eq_some, Option.some.injEq] at h
    obtain ⟨hm, rfl⟩ := h
    have hx : monitorHolds s.monitor = false := by simpa [hm, MainPc.holds] using hs.exclusive
    have hsig : s.signal = if s.monitor = some .waiting then
        { s with waiters := [], monitor := some .reacquire } else s := by
      unfold State.signal; rw [hs.waiters]; split_ifs <;> rfl
    rw [hsig]
    split_ifs with hw
    · exact { hs with
        owner := by rw [hs.owner]; simp [hm, MainPc.holds]
        exclusive := by simp [monitorHolds, MonitorPc.holds]
        waiters := by simp
        running := fun hr => absurd (hs.running hr).2 (by simp [hm])
        shuttingDown := fun _ => hs.shuttingDown (by simp [hm, MainPc.shuttingDown])
        monitor := fun _ => hs.monitor (by simp [hw])
        joined := fun h => absurd h (by simp [MainPc.released])
        joins := by simp [hs.joins, hm, MainPc.released] }
    · exact { hs with
        owner := by rw [hs.owner]; simp [hm, MainPc.holds]
        exclusive := by simp [hx]
        running := fun hr => absurd (hs.running hr).2 (by simp [hm])
        shuttingDown := fun _ => hs.shuttingDown (by simp [hm, MainPc.shuttingDown])
        joined := fun h => absurd h (by simp [MainPc.released])
        joins := by simp [hs.joins, hm, MainPc.released] }
  | unlockMutex =>
    simp only [step, Option.ite_none_right_eq_some, Option.some.injEq] at h
    obtain ⟨hm, rfl⟩ := h
    have hx : monitorHolds s.monitor = false := by simpa [hm, MainPc.holds] using hs.exclusive
    exact { hs with
      owner := by simp [MainPc.holds, hx]
      exclusive := by simp [MainPc.holds]
      running := fun hr => absurd (hs.running hr).2 (by simp [hm])
      shuttingDown := fun _ => hs.shuttingDown (by simp [hm, MainPc.shuttingDown])
      joined := fun h => absurd h (by simp [MainPc.released])
      joins := by simp [hs.joins, hm, MainPc.released] }
  | joinMonitor =>
    simp only [step, Option.ite_none_right_eq_some, Option.some.injEq] at h
    obtain ⟨⟨hm, hj⟩, rfl⟩ := h
    have hpos := hs.shuttingDown (by simp [hm, MainPc.shuttingDown])
    exact { hs with
      owner := by rw [hs.owner]; simp [hm, MainPc.holds]
      exclusive := by simp [MainPc.holds]
      running := fun hr => absurd (hs.running hr).2 (by simp [hm])
      shuttingDown := fun h => absurd h (by simp [MainPc.shuttingDown])
      joined := fun _ => hj
      joins := by simp [hs.joins, hm, MainPc.released, hpos] }
  | releaseRoot =>
    simp only [step, Option.ite_none_right_eq_some, Option.some.injEq] at h
    obtain ⟨hm, rfl⟩ := h
    exact { hs with
      owner := by rw [hs.owner]; simp [hm, MainPc.holds]
      exclusive := by simp [MainPc.holds]
      running := fun hr => absurd (hs.running hr).2 (by simp [hm])
      shuttingDown := fun h => absurd h (by simp [MainPc.shuttingDown])
      joined := fun _ => hs.joined (by simp [hm, MainPc.released])
      joins := by simp [hs.joins, hm, MainPc.released] }
  | monitorLock =>
    simp only [step, Option.ite_none_right_eq_some, Option.some.injEq] at h
    obtain ⟨⟨hp, ho⟩, rfl⟩ := h
    have hl := hs.live hp (by decide)
    exact { hs with
      owner := by simp [(hs.owner_none ho).1, monitorHolds, MonitorPc.holds]
      exclusive := by simp [(hs.owner_none ho).1]
      waiters := by simp [hs.waiters, hp]
      monitor := fun _ => ⟨hl.1, hl.2.1⟩
      joined := fun h => absurd h (by simp [hl.2.2]) }
  | readRunning =>
    simp only [step, Option.ite_none_right_eq_some, Option.some.injEq] at h
    obtain ⟨hp, rfl⟩ := h
    have hl := hs.live hp (by decide)
    exact { hs with
      owner := by
        rw [hs.owner]; cases s.running <;> simp [hholds _ hp rfl, hp, monitorHolds, MonitorPc.holds]
      exclusive := by simp [hholds _ hp rfl]
      waiters := by rw [hs.waiters]; cases s.running <;> simp [hp]
      monitor := fun _ => ⟨hl.1, hl.2.1⟩
      joined := fun h => absurd h (by simp [hl.2.2]) }
  | usageAndUnmount b =>
    simp only [step, Option.ite_none_right_eq_some, Option.some.injEq] at h
    obtain ⟨hp, rfl⟩ := h
    have hl := hs.live hp (by decide)
    exact { hs with
      owner := by rw [hs.owner]; cases b <;> simp [hholds _ hp rfl, hp, monitorHolds, MonitorPc.holds]
      exclusive := by simp [hholds _ hp rfl]
      waiters := by rw [hs.waiters]; cases b <;> simp [hp]
      monitor := fun _ => ⟨hl.1, hl.2.1⟩
      joined := fun h => absurd h (by simp [hl.2.2]) }
  | timedWait =>
    simp only [step, Option.ite_none_right_eq_some, Option.some.injEq] at h
    obtain ⟨hp, rfl⟩ := h
    have hl := hs.live hp (by decide)
    exact { hs with
      owner := by simp [hholds _ hp rfl, monitorHolds, MonitorPc.holds]
      exclusive := by simp [monitorHolds, MonitorPc.holds]
      waiters := by simp [hs.waiters, hp]
      monitor := fun _ => ⟨hl.1, hl.2.1⟩
      joined := fun h => absurd h (by simp [hl.2.2]) }
  | wakeUp =>
    simp only [step, Option.ite_none_right_eq_some, Option.some.injEq] at h
    obtain ⟨hp, rfl⟩ := h
    have hl := hs.live hp (by decide)
    exact { hs with
      owner := by rw [hs.owner]; simp [hp, monitorHolds, MonitorPc.holds]
      exclusive := by simp [monitorHolds, MonitorPc.holds]
      waiters := by simp [hs.waiters, hp]
      monitor := fun _ => ⟨hl.1, hl.2.1⟩
      joined := fun h => absurd h (by simp [hl.2.2]) }
  | reacquire =>
    simp only [step, Option.ite_none_right_eq_some, Option.some.injEq] at h
    obtain ⟨⟨hp, ho⟩, rfl⟩ := h
    have hl := hs.live hp (by decide)
    exact { hs with
      owner := by simp [(hs.owner_none ho).1, monitorHolds, MonitorPc.holds]
      exclusive := by simp [(hs.owner_none ho).1]
      waiters := by simp [hs.waiters, hp]
      monitor := fun _ => ⟨hl.1, hl.2.1⟩
      joined := fun h => absurd h (by simp [hl.2.2]) }
  | monitorUnlock =>
    simp only [step, Option.ite_none_right_eq_some, Option.some.injEq] at h
    obtain ⟨hp, rfl⟩ := h
    have hl := hs.live hp (by decide)
    exact { hs with
      owner := by simp [hholds _ hp rfl, monitorHolds, MonitorPc.holds]
      exclusive := by simp [monitorHolds, MonitorPc.holds]
      waiters := by simp [hs.waiters, hp]
      monitor := fun _ => ⟨hl.1, hl.2.1⟩
      joined := fun _ => .inr rfl }

/-- Every run keeps the invariant. -/
lemma inv_run {s t : State} {as : List Action} (hs : Inv idleTimeout s)
    (h : run idleTimeout s as = some t) : Inv idleTimeout t := by
  induction as generalizing s with
  | nil => cases h; exact hs
  | cons a as ih =>
    rw [run_cons, Option.bind_eq_some] at h
    obtain ⟨s', h₁, h₂⟩ := h
    exact ih (inv_step hs h₁) h₂

/-- Every reachable state satisfies the invariant. -/
lemma Reachable.inv {s : State} (hs : Reachable idleTimeout s) : Inv idleTimeout s :=
  let ⟨_, h⟩ := hs
  inv_run inv_initial h

/-- In every interleaving `main` and the supervisor never hold `wakeupMutex` together, the mutex is
owned by the thread inside its critical section, and the supervisor is the only waiter of
`wakeupCond`, exactly while it waits. -/
theorem reachable_mutex_consistent {s : State} (hs : Reachable idleTimeout s) :
    ¬(s.main.holds = true ∧ monitorHolds s.monitor = true) ∧
      s.owner = (if s.main.holds then some .main
        else if monitorHolds s.monitor then some .monitor else none) ∧
      s.waiters = if s.monitor = some .waiting then [.monitor] else [] :=
  let hi := hs.inv
  ⟨hi.exclusive, hi.owner, hi.waiters⟩

end Invariant

/-- The state where the supervisor waits and `main`, holding the mutex, is about to signal it. -/
theorem reachable_mutex_consistent_signalling :
    Reachable 1 ⟨.signalling, some .waiting, false, some .main, [.monitor], true, 0⟩ ∧
      ¬(MainPc.signalling.holds = true ∧ monitorHolds (some .waiting) = true) ∧
      some Tid.main = (if MainPc.signalling.holds then some .main
        else if monitorHolds (some .waiting) then some .monitor else none) ∧
      [Tid.monitor] = if some MonitorPc.waiting = some .waiting then [.monitor] else [] :=
  have hs : Reachable 1 ⟨.signalling, some .waiting, false, some .main, [.monitor], true, 0⟩ :=
    ⟨[.encfsInit true, .monitorLock, .readRunning, .usageAndUnmount false, .timedWait,
      .fuseMainReturn, .stopRunning, .lockMutex], rfl⟩
  ⟨hs, reachable_mutex_consistent hs⟩

end EncFS
