import EncFS.Mount.Shutdown

/-!
# The shutdown can complete, where its join is defined

With a positive idle timeout `main` joins `monitorThread`, but only a successful `pthread_create`
in `encfs_init` has set that handle; a join of it otherwise is undefined. So the shutdown is shown
to complete only from the states where `main`'s join is defined (`JoinDefined`): from those, some
interleaving takes `main` through `fuse_main`'s return, the signal, the join of a supervisor that
has returned, and the release of the root. From every other reachable state, every run that takes
`main` past its join has called `pthread_join` with no supervisor (`reachable_canFinish`).

Neither thread blocks the other for good: once `running` is `false` and `main` is outside the
mutex, the supervisor can always run to its end, whatever point of its loop it is at, and `main`
needs nothing else to go on.
-/

namespace EncFS

/-- The supervisor's steps to its end from a point of its loop, once `running` is `false`: a
pending `usageAndUnmount` that does not unmount, and a wait that times out. -/
def monitorExit : Option MonitorPc → List Action
  | some .start => [.monitorLock, .readRunning, .monitorUnlock]
  | some .check => [.readRunning, .monitorUnlock]
  | some .usage => [.usageAndUnmount false, .timedWait, .wakeUp, .reacquire, .readRunning,
      .monitorUnlock]
  | some .wait => [.timedWait, .wakeUp, .reacquire, .readRunning, .monitorUnlock]
  | some .waiting => [.wakeUp, .reacquire, .readRunning, .monitorUnlock]
  | some .reacquire => [.reacquire, .readRunning, .monitorUnlock]
  | some .unlock => [.monitorUnlock]
  | some .exited | none => []

section Progress

variable {idleTimeout : Int}

/-- With `running` false and `main` outside the mutex, the supervisor runs to its end, and leaves
the mutex free and nobody waiting. -/
lemma run_monitorExit {s : State} (hs : Inv idleTimeout s) (hr : s.running = false)
    (hm : s.main.holds = false) :
    run idleTimeout s (monitorExit s.monitor) =
      some { s with monitor := s.monitor.map fun _ => .exited, owner := none, waiters := [] } := by
  obtain ⟨main, monitor, running, owner, waiters, initCalled, joins⟩ := s
  have ho := hs.owner
  have hw := hs.waiters
  clear hs
  simp only [hm, Bool.false_eq_true, if_false] at hr ho hw ⊢
  subst hr
  rw [ho, hw]
  rcases monitor with _ | ⟨_ | _ | _ | _ | _ | _ | _ | _⟩ <;> simp [hm, monitorHolds, MonitorPc.holds] <;> rfl

/-- `main`'s join, if it makes one, is of a supervisor that exists: with no idle timeout `main`
never joins; otherwise `encfs_init` has created the supervisor, or `fuse_main` may still call
`encfs_init`. -/
def JoinDefined (idleTimeout : Int) (s : State) : Prop :=
  idleTimeout ≤ 0 ∨ s.monitor ≠ none ∨ (s.main = .serving ∧ s.initCalled = false)

/-- Some interleaving from `s` takes `main` past the release of the root, having joined a
supervisor that has returned, or, with no idle timeout, without a join. -/
def CanFinish (idleTimeout : Int) (s : State) : Prop :=
  ∃ as t, run idleTimeout s as = some t ∧ t.main = .done ∧
    (idleTimeout ≤ 0 ∨ t.monitor = some .exited)

lemma CanFinish.of_run {s t : State} {as : List Action} (h : run idleTimeout s as = some t)
    (ht : CanFinish idleTimeout t) : CanFinish idleTimeout s := by
  obtain ⟨bs, u, hu, hd⟩ := ht
  exact ⟨as ++ bs, u, by rw [run_append, h]; exact hu, hd⟩

lemma CanFinish.of_step {s t : State} {a : Action} (h : step idleTimeout s a = some t)
    (ht : CanFinish idleTimeout t) : CanFinish idleTimeout s :=
  CanFinish.of_run (show run idleTimeout s [a] = some t by rw [run_cons, h]; rfl) ht

/-- With `running` false and `main` outside the mutex, the supervisor can end first. -/
lemma CanFinish.of_monitorExit {s : State} (hs : Reachable idleTimeout s)
    (hr : s.running = false) (hm : s.main.holds = false)
    (ht : ∀ t, Reachable idleTimeout t → t.main = s.main → t.owner = none →
      t.monitor = s.monitor.map (fun _ => .exited) → CanFinish idleTimeout t) :
    CanFinish idleTimeout s := by
  have h := run_monitorExit hs.inv hr hm
  exact CanFinish.of_run h (ht _ (hs.run h) rfl rfl rfl)

/-- The signal never removes the supervisor. -/
lemma State.signal_monitor_ne_none {s : State} (h : s.monitor ≠ none) : s.signal.monitor ≠ none := by
  unfold State.signal
  split <;> (try split_ifs) <;> simp_all

lemma canFinish_releasing {s : State} (hm : s.main = .releasing)
    (hd : idleTimeout ≤ 0 ∨ s.monitor = some .exited) : CanFinish idleTimeout s :=
  ⟨[.releaseRoot], { s with main := .done }, by simp [run_cons, step, hm]; rfl, rfl, hd⟩

lemma canFinish_joining {s : State} (hs : Reachable idleTimeout s) (hm : s.main = .joining)
    (hmon : s.monitor ≠ none) : CanFinish idleTimeout s := by
  have hr := hs.inv.running_false (by simp [hm]) (by simp [hm])
  refine CanFinish.of_monitorExit hs hr (by simp [hm, MainPc.holds]) fun t _ ht _ hx => ?_
  obtain ⟨p, hp⟩ := Option.ne_none_iff_exists'.mp hmon
  rw [hp, Option.map_some'] at hx
  have h : step idleTimeout t .joinMonitor =
      some { t with main := .releasing, joins := t.joins + 1 } := by
    simp only [step, ht, hm, hx, true_and, or_true, if_true]
  exact CanFinish.of_step h (canFinish_releasing rfl (.inr hx))

lemma canFinish_signalling {s : State} (hs : Reachable idleTimeout s) (hm : s.main = .signalling)
    (hmon : s.monitor ≠ none) : CanFinish idleTimeout s := by
  have h₁ : step idleTimeout s .condSignal = some { s.signal with main := .unlocking } := by
    simp [step, hm]
  have hs₁ := hs.step h₁
  have h₂ : step idleTimeout { s.signal with main := .unlocking } .unlockMutex =
      some { s.signal with main := .joining, owner := none } := rfl
  exact CanFinish.of_step h₁ (CanFinish.of_step h₂
    (canFinish_joining (hs₁.step h₂) rfl (State.signal_monitor_ne_none hmon)))

lemma canFinish_locking {s : State} (hs : Reachable idleTimeout s) (hm : s.main = .locking)
    (hmon : s.monitor ≠ none) : CanFinish idleTimeout s := by
  have hr := hs.inv.running_false (by simp [hm]) (by simp [hm])
  refine CanFinish.of_monitorExit hs hr (by simp [hm, MainPc.holds]) fun t ht hm' ho hx => ?_
  have h : step idleTimeout t .lockMutex = some { t with main := .signalling, owner := some .main } := by
    simp [step, hm', hm, ho]
  exact CanFinish.of_step h (canFinish_signalling (ht.step h) rfl (by simpa [hx] using hmon))

/-- From a reachable state where the join is defined, some interleaving completes the shutdown. -/
lemma canFinish_of_joinDefined {s : State} (hs : Reachable idleTimeout s)
    (hd : JoinDefined idleTimeout s) : CanFinish idleTimeout s := by
  have hstop : ∀ t, Reachable idleTimeout t → t.main = .stopping →
      (idleTimeout ≤ 0 ∨ t.monitor ≠ none) → CanFinish idleTimeout t := by
    intro t ht hm hd
    by_cases hpos : 0 < idleTimeout
    · have h : step idleTimeout t .stopRunning = some { t with main := .locking, running := false } := by
        simp [step, hm, hpos]
      exact CanFinish.of_step h (canFinish_locking (ht.step h) rfl (hd.resolve_left (by omega)))
    · have h : step idleTimeout t .stopRunning = some { t with main := .releasing } := by
        simp [step, hm, hpos]
      exact CanFinish.of_step h (canFinish_releasing rfl (.inl (by omega)))
  -- past `fuse_main`, the join is defined only through a supervisor or no timeout
  have hpast : s.main ≠ .serving → idleTimeout ≤ 0 ∨ s.monitor ≠ none := fun h => by
    rcases hd with hd | hd | ⟨hm, -⟩
    exacts [.inl hd, .inr hd, absurd hm h]
  -- a shutting-down `main` has an idle timeout, hence a supervisor
  have hshut : s.main.shuttingDown = true → s.monitor ≠ none := fun h =>
    (hpast (by rintro hm; simp [hm, MainPc.shuttingDown] at h)).resolve_left
      (Int.not_le.mpr (hs.inv.shuttingDown h))
  -- once `main` is past the join, a supervisor that exists has returned
  have hrel : s.main.released = true → idleTimeout ≤ 0 ∨ s.monitor = some .exited := fun h => by
    rcases hpast (by rintro hm; simp [hm, MainPc.released] at h) with hd | hd
    · exact .inl hd
    · exact .inr ((hs.inv.joined h).resolve_left hd)
  have hserve : ∀ t, Reachable idleTimeout t → t.main = .serving →
      (idleTimeout ≤ 0 ∨ t.monitor ≠ none) → CanFinish idleTimeout t := by
    intro t ht hm hd
    have h : step idleTimeout t .fuseMainReturn = some { t with main := .stopping } := by
      simp [step, hm]
    exact CanFinish.of_step h (hstop _ (ht.step h) rfl hd)
  cases hm : s.main with
  | serving =>
    by_cases hc : idleTimeout ≤ 0 ∨ s.monitor ≠ none
    · exact hserve s hs hm hc
    · -- no supervisor yet: `fuse_main` calls `encfs_init`, which creates one
      obtain ⟨hpos, hnone⟩ : 0 < idleTimeout ∧ s.monitor = none := by
        simpa only [not_or, Int.not_le, ne_eq, not_not] using hc
      have hi : s.initCalled = false := by
        rcases hd with hd | hd | ⟨-, hi⟩
        exacts [absurd hd (Int.not_le.mpr hpos), absurd hnone hd, hi]
      have h : step idleTimeout s (.encfsInit true) = some
          { s with initCalled := true, running := true, monitor := some .start } := by
        simp [step, hm, hi, hpos]
      exact CanFinish.of_step h (hserve _ (hs.step h) hm (.inr (by simp)))
  | stopping => exact hstop s hs hm (hpast (by simp [hm]))
  | locking => exact canFinish_locking hs hm (hshut (by simp [hm, MainPc.shuttingDown]))
  | signalling => exact canFinish_signalling hs hm (hshut (by simp [hm, MainPc.shuttingDown]))
  | unlocking =>
    have h : step idleTimeout s .unlockMutex = some { s with main := .joining, owner := none } := by
      simp [step, hm]
    exact CanFinish.of_step h
      (canFinish_joining (hs.step h) rfl (hshut (by simp [hm, MainPc.shuttingDown])))
  | joining => exact canFinish_joining hs hm (hshut (by simp [hm, MainPc.shuttingDown]))
  | releasing => exact canFinish_releasing hm (hrel (by simp [hm, MainPc.released]))
  | done => exact ⟨[], s, rfl, hm, hrel (by simp [hm, MainPc.released])⟩

/-- Where the join is not defined, it stays so: no supervisor exists and none can be created any
more. -/
lemma not_joinDefined_step {s t : State} {a : Action} (hs : Inv idleTimeout s)
    (hd : ¬JoinDefined idleTimeout s) (h : step idleTimeout s a = some t) :
    ¬JoinDefined idleTimeout t := by
  simp only [JoinDefined, not_or, not_and, Int.not_le, ne_eq, not_not, Bool.not_eq_false] at hd ⊢
  obtain ⟨hpos, hnone, hserv⟩ := hd
  have hw : s.waiters = [] := by rw [hs.waiters, hnone]; rfl
  cases a <;> simp only [step, Option.ite_none_right_eq_some, Option.some.injEq] at h <;>
    obtain ⟨hg, rfl⟩ := h <;> (try split_ifs) <;> simp_all [State.signal]

lemma not_joinDefined_run {s u : State} {as : List Action} (hs : Reachable idleTimeout s)
    (hd : ¬JoinDefined idleTimeout s) (hu : run idleTimeout s as = some u) :
    ¬JoinDefined idleTimeout u := by
  induction as generalizing s with
  | nil => cases hu; exact hd
  | cons a as ih =>
    rw [run_cons, Option.bind_eq_some] at hu
    obtain ⟨t, ht, hu⟩ := hu
    exact ih (hs.step ht) (not_joinDefined_step hs.inv hd ht) hu

/-- From every reachable state where `main`'s join is defined, some interleaving takes `main`
through the signal, the join of a supervisor that has returned, and the release of the root:
the shutdown never deadlocks, whatever the supervisor and the collaborators have done. From
every other reachable state, every run that takes `main` past its join has called
`pthread_join` with no supervisor. -/
theorem reachable_canFinish {s : State} (hs : Reachable idleTimeout s) :
    (JoinDefined idleTimeout s → CanFinish idleTimeout s) ∧
      (¬JoinDefined idleTimeout s → ∀ as u, run idleTimeout s as = some u →
        u.main.released = true → u.monitor = none ∧ u.joins = 1) := by
  refine ⟨canFinish_of_joinDefined hs, fun hd as u hu hr => ?_⟩
  have hu' := not_joinDefined_run hs hd hu
  simp only [JoinDefined, not_or, ne_eq, not_not] at hu'
  obtain ⟨hpos, hnone, -⟩ := hu'
  rw [(hs.run hu).inv.joins]
  simp [hnone, hr, Int.not_le.mp hpos]

end Progress

/-- The call of `fuse_main` itself, with an idle timeout of one minute. -/
theorem reachable_canFinish_initial :
    Reachable 1 State.initial ∧
      (JoinDefined 1 State.initial → CanFinish 1 State.initial) ∧
      (¬JoinDefined 1 State.initial → ∀ as u, run 1 State.initial as = some u →
        u.main.released = true → u.monitor = none ∧ u.joins = 1) :=
  ⟨⟨[], rfl⟩, reachable_canFinish ⟨[], rfl⟩⟩

end EncFS
