import Mathlib.Data.List.Basic

/-!
# The serve loop and the idle supervisor

After `initFS` has given `main` a root, `main` runs `fuse_main`, which calls `encfs_init` at most
once, on the kernel's `INIT` request. With an idle timeout, `encfs_init` sets `running` and creates
the `idleMonitor` thread, which may fail. When `fuse_main` returns, `main` shuts the supervisor
down, still only on `idleTimeout > 0`: it writes `running = false` without the mutex, signals
`wakeupCond` under `wakeupMutex`, and joins `monitorThread`. Last it releases the root.

`idleMonitor` holds `wakeupMutex` while it reads `running` and calls `usageAndUnmount`, and
releases it only inside `pthread_cond_timedwait`, which returns on a signal, on its timeout or
spuriously, and always reacquires the mutex first.

The model is a step function over both threads' program counters, `running`, the mutex's owner
and the condition variable's waiters. Each action is one call of the code; `none` means that the
action cannot be taken in that state (the thread is elsewhere, or blocked on the mutex or the
join). What the collaborators do is left open: whether `fuse_main` calls `encfs_init`, whether
`pthread_create` succeeds, what `usageAndUnmount` returns, and when a timed wait times out.
-/

namespace EncFS

/-- The two threads. -/
inductive Tid
  | main
  | monitor
  deriving DecidableEq, Repr

/-- Where `main` is, from `fuse_main` on. -/
inductive MainPc
  /-- Inside `fuse_main`. -/
  | serving
  /-- `fuse_main` has returned: `if (idleTimeout > 0) running = false`. -/
  | stopping
  /-- `pthread_mutex_lock(&ctx->wakeupMutex)`. -/
  | locking
  /-- `pthread_cond_signal(&ctx->wakeupCond)`. -/
  | signalling
  /-- `pthread_mutex_unlock(&ctx->wakeupMutex)`. -/
  | unlocking
  /-- `pthread_join(ctx->monitorThread, nullptr)`. -/
  | joining
  /-- `rootInfo.reset(); ctx->setRoot(...)`. -/
  | releasing
  /-- Past the cleanup. -/
  | done
  deriving DecidableEq, Repr

/-- Where `idleMonitor` is. -/
inductive MonitorPc
  /-- Created, before `pthread_mutex_lock`. -/
  | start
  /-- Holds the mutex, about to read `running`. -/
  | check
  /-- Holds the mutex, about to call `usageAndUnmount`. -/
  | usage
  /-- Holds the mutex, about to call `pthread_cond_timedwait`. -/
  | wait
  /-- Inside the timed wait, with the mutex released. -/
  | waiting
  /-- Woken, and reacquiring the mutex before the timed wait returns. -/
  | reacquire
  /-- Out of the loop, about to unlock the mutex. -/
  | unlock
  /-- Returned. -/
  | exited
  deriving DecidableEq, Repr

/-- Whether `main` holds `wakeupMutex` at this point. -/
def MainPc.holds : MainPc → Bool
  | .signalling | .unlocking => true
  | _ => false

/-- Whether `main` has passed its join, and releases the root or has released it. -/
def MainPc.released : MainPc → Bool
  | .releasing | .done => true
  | _ => false

/-- Whether `idleMonitor` holds `wakeupMutex` at this point. -/
def MonitorPc.holds : MonitorPc → Bool
  | .check | .usage | .wait | .unlock => true
  | _ => false

/-- Whether `main` has stopped `running` and not yet joined. -/
def MainPc.shuttingDown : MainPc → Bool
  | .locking | .signalling | .unlocking | .joining => true
  | _ => false

/-- Whether the supervisor, if there is one, holds `wakeupMutex`. -/
def monitorHolds : Option MonitorPc → Bool
  | some p => p.holds
  | none => false

/-- Both threads, the shared flag `running`, `wakeupMutex` and `wakeupCond`. `monitor` is `none`
while no supervisor thread has been created, and `joins` counts the calls of `pthread_join`. -/
structure State where
  main : MainPc
  monitor : Option MonitorPc
  running : Bool
  owner : Option Tid
  waiters : List Tid
  initCalled : Bool
  joins : Nat
  deriving DecidableEq, Repr

/-- `main` as it calls `fuse_main`, with no supervisor and the mutex free. -/
def State.initial : State :=
  ⟨.serving, none, false, none, [], false, 0⟩

/-- One call of either thread. -/
inductive Action
  /-- `fuse_main` calls `encfs_init`; `created` is whether `pthread_create` succeeds. -/
  | encfsInit (created : Bool)
  /-- `fuse_main` returns to `main`. -/
  | fuseMainReturn
  /-- `if (ctx->args->idleTimeout > 0)`, and then `ctx->running = false`. -/
  | stopRunning
  /-- `main`'s `pthread_mutex_lock(&ctx->wakeupMutex)`. -/
  | lockMutex
  /-- `pthread_cond_signal(&ctx->wakeupCond)`. -/
  | condSignal
  /-- `main`'s `pthread_mutex_unlock(&ctx->wakeupMutex)`. -/
  | unlockMutex
  /-- `pthread_join(ctx->monitorThread, nullptr)`, which waits for the supervisor to return; with
  no supervisor, a join of an unset handle. -/
  | joinMonitor
  /-- `rootInfo.reset(); ctx->setRoot(std::shared_ptr<DirNode>())`. -/
  | releaseRoot
  /-- `idleMonitor`'s `pthread_mutex_lock`. -/
  | monitorLock
  /-- `while (ctx->running)`. -/
  | readRunning
  /-- `usageAndUnmount(timeoutCycles)`, which tells whether it unmounted. -/
  | usageAndUnmount (unmounted : Bool)
  /-- `pthread_cond_timedwait`: the mutex is released and the supervisor waits. -/
  | timedWait
  /-- The timed wait times out, or wakes spuriously. -/
  | wakeUp
  /-- The timed wait reacquires the mutex and returns. -/
  | reacquire
  /-- `idleMonitor`'s `pthread_mutex_unlock`. -/
  | monitorUnlock
  deriving DecidableEq, Repr

/-- `pthread_cond_signal`: the first waiter, if any, leaves the wait and has to reacquire the
mutex. -/
def State.signal (s : State) : State :=
  match s.waiters with
  | [] => s
  | t :: ws =>
    { s with waiters := ws, monitor := if t = .monitor then some .reacquire else s.monitor }

section Step

variable (idleTimeout : Int)

/-- One step of the two threads, for the `idleTimeout` of `ctx->args`; `none` where the action
cannot be taken. Where no supervisor was created, `joinMonitor` is `pthread_join` on a handle
`pthread_create` never set, whose behaviour is undefined: the step records the call in `joins` with
`monitor = none`, so that such runs can be told apart (`JoinDefined`), and says nothing more of
them. -/
def step (s : State) : Action → Option State
  | .encfsInit created =>
    if s.main = .serving ∧ s.initCalled = false then
      some (if 0 < idleTimeout then
          { s with initCalled := true, running := true,
                   monitor := if created then some .start else none }
        else { s with initCalled := true })
    else none
  | .fuseMainReturn => if s.main = .serving then some { s with main := .stopping } else none
  | .stopRunning =>
    if s.main = .stopping then
      some (if 0 < idleTimeout then { s with main := .locking, running := false }
        else { s with main := .releasing })
    else none
  | .lockMutex =>
    if s.main = .locking ∧ s.owner = none then
      some { s with main := .signalling, owner := some .main }
    else none
  | .condSignal => if s.main = .signalling then some { s.signal with main := .unlocking } else none
  | .unlockMutex =>
    if s.main = .unlocking then some { s with main := .joining, owner := none } else none
  | .joinMonitor =>
    if s.main = .joining ∧ (s.monitor = none ∨ s.monitor = some .exited) then
      some { s with main := .releasing, joins := s.joins + 1 }
    else none
  | .releaseRoot => if s.main = .releasing then some { s with main := .done } else none
  | .monitorLock =>
    if s.monitor = some .start ∧ s.owner = none then
      some { s with monitor := some .check, owner := some .monitor }
    else none
  | .readRunning =>
    if s.monitor = some .check then
      some { s with monitor := some (if s.running then .usage else .unlock) }
    else none
  | .usageAndUnmount unmounted =>
    if s.monitor = some .usage then
      some { s with monitor := some (if unmounted then .unlock else .wait) }
    else none
  | .timedWait =>
    if s.monitor = some .wait then
      some { s with monitor := some .waiting, owner := none, waiters := s.waiters ++ [.monitor] }
    else none
  | .wakeUp =>
    if s.monitor = some .waiting then
      some { s with monitor := some .reacquire, waiters := s.waiters.erase .monitor }
    else none
  | .reacquire =>
    if s.monitor = some .reacquire ∧ s.owner = none then
      some { s with monitor := some .check, owner := some .monitor }
    else none
  | .monitorUnlock =>
    if s.monitor = some .unlock then some { s with monitor := some .exited, owner := none }
    else none

/-- A run of actions, as long as each can be taken. -/
def run (s : State) (as : List Action) : Option State :=
  as.foldlM (step idleTimeout) s

/-- The states some interleaving reaches from the call of `fuse_main`. -/
def Reachable (s : State) : Prop :=
  ∃ as, run idleTimeout State.initial as = some s

variable {idleTimeout}

lemma run_nil (s : State) : run idleTimeout s [] = some s := rfl

lemma run_cons (s : State) (a : Action) (as : List Action) :
    run idleTimeout s (a :: as) = (step idleTimeout s a).bind (run idleTimeout · as) := rfl

lemma run_append (s : State) (as bs : List Action) :
    run idleTimeout s (as ++ bs) = (run idleTimeout s as).bind (run idleTimeout · bs) := by
  simp only [run, List.foldlM_append]; rfl

/-- A run of runs is a run. -/
lemma Reachable.run {s t : State} (hs : Reachable idleTimeout s) {as : List Action}
    (h : run idleTimeout s as = some t) : Reachable idleTimeout t := by
  obtain ⟨bs, hb⟩ := hs
  exact ⟨bs ++ as, by rw [run_append, hb]; exact h⟩

lemma Reachable.step {s t : State} (hs : Reachable idleTimeout s) {a : Action}
    (h : step idleTimeout s a = some t) : Reachable idleTimeout t :=
  hs.run (show EncFS.run idleTimeout s [a] = some t by rw [run_cons, h]; rfl)

end Step

end EncFS
