import EncFS.Mount.Invariant

/-!
# Shutting the supervisor down

`main` writes `running = false` without the mutex, so the write can fall at any point of the
supervisor's loop: between its read of `running` and its call of `usageAndUnmount`, too. From the
write on, the supervisor calls `usageAndUnmount` at most once more, and only if it had read
`running` as `true` just before. Its signal, though, is sent under the mutex, when the supervisor cannot be
between its read of `running` and its next wait: it is before its first lock, waiting, woken and
reacquiring, or gone. From the signal on, whatever the interleaving, the supervisor reads
`running` as `false`, calls `usageAndUnmount` no more and starts no new wait; a wait in progress
is ended by the signal itself.

`main` joins the supervisor before it releases the root. It decides whether to join from
`idleTimeout > 0` alone, though, and not from whether `encfs_init` created the thread: when
`fuse_main` returns without calling `encfs_init`, or `pthread_create` failed, it joins a thread
that was never created.
-/

namespace EncFS

/-- Whether `main` has signalled the supervisor. -/
def MainPc.signalled : MainPc → Bool
  | .unlocking | .joining | .releasing | .done => true
  | _ => false

/-- Whether the supervisor is about to call `usageAndUnmount`, or to wait, or waits. -/
def MonitorPc.mayWait : MonitorPc → Bool
  | .usage | .wait | .waiting => true
  | _ => false

/-- What holds from `main`'s signal on: `running` stays `false`, nobody waits, and the supervisor
is at none of the points from which it calls `usageAndUnmount` or waits. -/
structure AfterSignal (s : State) : Prop where
  main : s.main.signalled = true
  running : s.running = false
  waiters : s.waiters = []
  monitor : ∀ p, s.monitor = some p → p.mayWait = false

section Shutdown

variable {idleTimeout : Int}

/-- Each action keeps what holds after the signal. -/
lemma afterSignal_step {s t : State} {a : Action} (hs : AfterSignal s)
    (h : step idleTimeout s a = some t) : AfterSignal t := by
  have hm := hs.main
  have hp := hs.monitor
  cases a <;> simp only [step, Option.ite_none_right_eq_some, Option.some.injEq] at h
  case readRunning =>
    obtain ⟨-, rfl⟩ := h
    exact { hs with monitor := by simp [hs.running, MonitorPc.mayWait] }
  case monitorLock | reacquire | monitorUnlock =>
    obtain ⟨-, rfl⟩ := h
    exact { hs with monitor := by simp [MonitorPc.mayWait] }
  case unlockMutex | joinMonitor | releaseRoot =>
    obtain ⟨-, rfl⟩ := h
    exact { hs with main := rfl }
  case encfsInit | lockMutex =>
    obtain ⟨⟨h₁, -⟩, -⟩ := h
    simp [h₁, MainPc.signalled] at hm
  case fuseMainReturn | stopRunning | condSignal =>
    obtain ⟨h₁, -⟩ := h
    simp [h₁, MainPc.signalled] at hm
  case usageAndUnmount | timedWait | wakeUp =>
    obtain ⟨h₁, -⟩ := h
    simpa [MonitorPc.mayWait] using hp _ h₁

/-- Every run keeps what holds after the signal. -/
lemma afterSignal_run {s t : State} {as : List Action} (hs : AfterSignal s)
    (h : run idleTimeout s as = some t) : AfterSignal t := by
  induction as generalizing s with
  | nil => cases h; exact hs
  | cons a as ih =>
    rw [run_cons, Option.bind_eq_some] at h
    obtain ⟨s', h₁, h₂⟩ := h
    exact ih (afterSignal_step hs h₁) h₂

/-- `main`'s signal, from a reachable state, ends a wait in progress and leaves the supervisor
where it can only wind down. -/
lemma afterSignal_condSignal {s t : State} (hs : Reachable idleTimeout s)
    (h : step idleTimeout s .condSignal = some t) :
    AfterSignal t ∧ (s.monitor = some .waiting → t.monitor = some .reacquire) := by
  have hi := hs.inv
  simp only [step, Option.ite_none_right_eq_some, Option.some.injEq] at h
  obtain ⟨hm, rfl⟩ := h
  have hr := hi.running_false (by simp [hm]) (by simp [hm])
  have hx : monitorHolds s.monitor = false := by simpa [hm, MainPc.holds] using hi.exclusive
  unfold State.signal
  rw [hi.waiters]
  split_ifs with hw
  · exact ⟨⟨rfl, hr, rfl, by simp [MonitorPc.mayWait]⟩, fun _ => rfl⟩
  · refine ⟨⟨rfl, hr, by simp [hi.waiters, hw], fun p hp => ?_⟩, fun h => absurd h hw⟩
    cases p <;> simp_all [monitorHolds, MonitorPc.holds, MonitorPc.mayWait]

/-- Once `main` has signalled, in every interleaving that follows, the supervisor starts no timed
wait, calls `usageAndUnmount` no more, and reads `running` as `false`; a wait in progress at the
signal is ended by it. -/
theorem condSignal_ends_monitor_loop {s t : State} (hs : Reachable idleTimeout s)
    (h : step idleTimeout s .condSignal = some t) :
    (s.monitor = some .waiting → t.monitor = some .reacquire) ∧ Tid.monitor ∉ t.waiters ∧
      ∀ as u a u', run idleTimeout t as = some u → step idleTimeout u a = some u' →
        a ≠ .timedWait ∧ (∀ b, a ≠ .usageAndUnmount b) ∧ (a = .readRunning → u.running = false) := by
  obtain ⟨ht, hw⟩ := afterSignal_condSignal hs h
  refine ⟨hw, by simp [ht.waiters], fun as u a u' hu h' => ?_⟩
  have hu := afterSignal_run ht hu
  refine ⟨?_, fun _ => ?_, fun _ => hu.running⟩ <;> rintro rfl <;>
    simp only [step, Option.ite_none_right_eq_some] at h' <;>
    simpa [MonitorPc.mayWait] using hu.monitor _ h'.1

/-! ### The join -/

/-- Once `main` has passed its join, every supervisor that was created has returned, so the root
is released after it; and `main` has called `pthread_join` once exactly when the idle timeout is
positive, whether or not a supervisor was created. -/
theorem released_joins {s : State} (hs : Reachable idleTimeout s) (h : s.main.released = true) :
    (s.monitor = none ∨ s.monitor = some .exited) ∧
      s.joins = if 0 < idleTimeout then 1 else 0 := by
  have hi := hs.inv
  exact ⟨hi.joined h, by simp [hi.joins, h]⟩

end Shutdown

section Race

variable {idleTimeout : Int}

/-- Whether an action is a call of `usageAndUnmount`. -/
def Action.isUsageAndUnmount : Action → Bool
  | .usageAndUnmount _ => true
  | _ => false

/-- The calls of `usageAndUnmount` the supervisor has left once `running` is `false`: one if it
has read `running` as `true` and not yet made the call. -/
def State.usageLeft (s : State) : Nat := if s.monitor = some .usage then 1 else 0

/-- `main` does not go back to `fuse_main` or to the write of `running`. -/
lemma stopped_step {s t : State} {a : Action} (h₁ : s.main ≠ .serving) (h₂ : s.main ≠ .stopping)
    (h : step idleTimeout s a = some t) : t.main ≠ .serving ∧ t.main ≠ .stopping := by
  cases a <;> simp only [step, Option.ite_none_right_eq_some, Option.some.injEq] at h <;>
    obtain ⟨hg, rfl⟩ := h <;> (try split_ifs) <;> simp_all

/-- With `running` false, a step takes the one call that is left, or leaves it, and never makes
a new one. -/
lemma usageLeft_step {s t : State} {a : Action} (hr : s.running = false)
    (h : step idleTimeout s a = some t) :
    t.usageLeft + (if a.isUsageAndUnmount then 1 else 0) ≤ s.usageLeft := by
  cases a <;> simp only [step, Option.ite_none_right_eq_some, Option.some.injEq] at h <;>
    obtain ⟨hg, rfl⟩ := h <;>
    simp only [Action.isUsageAndUnmount, if_true, Bool.false_eq_true, if_false, Nat.add_zero]
  case usageAndUnmount b => cases b <;> simp [State.usageLeft, hg]
  case condSignal => unfold State.signal; split <;> (try split_ifs) <;> simp [State.usageLeft]
  all_goals (try split_ifs) <;> simp_all [State.usageLeft]

/-- Once `main` has written `running = false`, every interleaving calls `usageAndUnmount` at most
once more: only when the supervisor had read `running` as `true` and not yet made the call. -/
theorem usageAndUnmount_after_stop {s u : State} (hs : Reachable idleTimeout s)
    (h₁ : s.main ≠ .serving) (h₂ : s.main ≠ .stopping) {as : List Action}
    (hu : run idleTimeout s as = some u) : as.countP Action.isUsageAndUnmount ≤ s.usageLeft := by
  induction as generalizing s with
  | nil => simp
  | cons a as ih =>
    rw [run_cons, Option.bind_eq_some] at hu
    obtain ⟨t, ht, hu⟩ := hu
    have hstep := usageLeft_step (hs.inv.running_false h₁ h₂) ht
    have ⟨h₁', h₂'⟩ := stopped_step h₁ h₂ ht
    have := ih (hs.step ht) h₁' h₂' hu
    rw [List.countP_cons]
    split_ifs at hstep ⊢ <;> omega

end Race

/-- The supervisor reads `running` as `true`, `main` writes `running = false`, and the supervisor
still calls `usageAndUnmount`: the one call the bound allows. -/
theorem usageAndUnmount_after_stop_race :
    Reachable 1 ⟨.locking, some .usage, false, some .monitor, [], true, 0⟩ ∧
      MainPc.locking ≠ .serving ∧ MainPc.locking ≠ .stopping ∧
      run 1 ⟨.locking, some .usage, false, some .monitor, [], true, 0⟩ [.usageAndUnmount false] =
        some ⟨.locking, some .wait, false, some .monitor, [], true, 0⟩ ∧
      [Action.usageAndUnmount false].countP Action.isUsageAndUnmount ≤
        State.usageLeft ⟨.locking, some .usage, false, some .monitor, [], true, 0⟩ :=
  have hs : Reachable 1 ⟨.locking, some .usage, false, some .monitor, [], true, 0⟩ :=
    ⟨[.encfsInit true, .monitorLock, .readRunning, .fuseMainReturn, .stopRunning], rfl⟩
  ⟨hs, by decide, by decide, rfl, usageAndUnmount_after_stop hs (by decide) (by decide) rfl⟩

/-- A run in which the supervisor is created, waits, is signalled and returns, and `main` joins it
and releases the root. -/
theorem released_joins_after_exit :
    Reachable 1 ⟨.done, some .exited, false, none, [], true, 1⟩ ∧
      MainPc.done.released = true ∧
      ((some MonitorPc.exited = none ∨ some MonitorPc.exited = some .exited) ∧
        (1 : Nat) = if (0 : Int) < 1 then 1 else 0) :=
  have hs : Reachable 1 ⟨.done, some .exited, false, none, [], true, 1⟩ :=
    ⟨[.encfsInit true, .monitorLock, .readRunning, .usageAndUnmount false, .timedWait,
      .fuseMainReturn, .stopRunning, .lockMutex, .condSignal, .unlockMutex, .reacquire,
      .readRunning, .monitorUnlock, .joinMonitor, .releaseRoot], rfl⟩
  ⟨hs, rfl, released_joins hs rfl⟩

/-- The signal while the supervisor waits, on an idle timeout of one minute. -/
theorem condSignal_ends_monitor_loop_waiting :
    Reachable 1 ⟨.signalling, some .waiting, false, some .main, [.monitor], true, 0⟩ ∧
      step 1 ⟨.signalling, some .waiting, false, some .main, [.monitor], true, 0⟩ .condSignal =
        some ⟨.unlocking, some .reacquire, false, some .main, [], true, 0⟩ ∧
      ((some MonitorPc.waiting = some .waiting → some MonitorPc.reacquire = some .reacquire) ∧
        Tid.monitor ∉ ([] : List Tid) ∧
        ∀ as u a u', run 1 ⟨.unlocking, some .reacquire, false, some .main, [], true, 0⟩ as =
            some u → step 1 u a = some u' →
          a ≠ .timedWait ∧ (∀ b, a ≠ .usageAndUnmount b) ∧ (a = .readRunning → u.running = false)) :=
  have hs : Reachable 1 ⟨.signalling, some .waiting, false, some .main, [.monitor], true, 0⟩ :=
    ⟨[.encfsInit true, .monitorLock, .readRunning, .usageAndUnmount false, .timedWait,
      .fuseMainReturn, .stopRunning, .lockMutex], rfl⟩
  ⟨hs, rfl, condSignal_ends_monitor_loop hs rfl⟩

/-- With an idle timeout, `main` joins `monitorThread` when `fuse_main` returns without having
called `encfs_init`, and when `pthread_create` has failed: in neither run was a supervisor
created, and in both `main` calls `pthread_join` once before it releases the root. -/
theorem joinMonitor_without_thread :
    run 1 State.initial [.fuseMainReturn, .stopRunning, .lockMutex, .condSignal, .unlockMutex,
        .joinMonitor, .releaseRoot] = some ⟨.done, none, false, none, [], false, 1⟩ ∧
      run 1 State.initial [.encfsInit false, .fuseMainReturn, .stopRunning, .lockMutex,
        .condSignal, .unlockMutex, .joinMonitor, .releaseRoot] =
        some ⟨.done, none, false, none, [], true, 1⟩ := ⟨rfl, rfl⟩

end EncFS
