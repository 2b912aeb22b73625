import Mathlib.Data.List.Range
import Mathlib.Data.Option.Basic

/-!
# Angular.Core.Scheduler

`ChangeDetectionSchedulerImpl`, the zoneless change-detection scheduler, as a state machine
over every interleaving of its events.

A `notify()` call that finds no render task pending adds a task to `PendingTasks` and
schedules a `setTimeout` callback. The callback runs `appRef.tick()` unless the application is
destroyed, and in its `finally` block clears `pendingRenderTaskId` and then removes the task.
JavaScript runs one callback at a time and `tick` is synchronous, so a run is a sequence of
four events (`SchedulerEvent`): a `notify()` call, from anywhere (outside the callback, from
change detection or an after-render hook during the tick, or from a stable-subscriber that
`PendingTasks.remove` calls synchronously); the start of a scheduled callback; its `finally`
block; and the destruction of the application. Whether the tick returns or throws, the
`finally` block runs the same way, so the two outcomes are one event.

`PendingTasks` is not among the sources. It is modelled as the scheduler uses it: `add()`
returns a fresh id and records the task as outstanding, `remove(id)` removes it.

The state holds what the code holds and nothing more. What the results say about a run is
read off the run: the state before its `i`-th event is `init.run (es.take i)`, and the ids
the `finally` blocks pass to `remove` are the `pendingRenderTaskId` of the states their
events happen in (`SchedulerState.removeCalls`).

The results: `reachable_inv` (the outstanding tasks are the pending render task, which has one
callback scheduled or running); `scheduler_task_accounting` (over every run, the scheduler owns
at most one outstanding task, has its id in `pendingRenderTaskId` between events exactly
while it is outstanding, and has every task it added removed exactly once, by the `finally`
block of its callback); `notify_lost` (a `notify()` made while the callback runs is dropped,
and no tick follows it); `notify_outside_served` (a `notify()` made outside the callback has a
tick started after it, unless the application ends destroyed); and `reachable_settles`.
-/

namespace Angular.Core

/-- The part of `PendingTasks` the scheduler uses. -/
structure PendingTasks where
  /-- The id `add()` hands out next. -/
  taskId : Nat
  /-- The outstanding tasks. -/
  pendingTasks : List Nat
  deriving DecidableEq, Repr

namespace PendingTasks

/-- `add()`: a fresh task, now outstanding. -/
def add (t : PendingTasks) : Nat × PendingTasks :=
  (t.taskId, { taskId := t.taskId + 1, pendingTasks := t.pendingTasks ++ [t.taskId] })

/-- `remove(taskId)`: the task is no longer outstanding. -/
def remove (t : PendingTasks) (taskId : Nat) : PendingTasks :=
  { t with pendingTasks := t.pendingTasks.erase taskId }

/-- `hasPendingTasks`; `ApplicationRef.isStable` is its negation. -/
def hasPendingTasks (t : PendingTasks) : Bool :=
  !t.pendingTasks.isEmpty

end PendingTasks

/-- The scheduler and the services it uses. -/
structure SchedulerState where
  /-- `pendingRenderTaskId`. -/
  pendingRenderTaskId : Option Nat
  /-- `taskService`. -/
  taskService : PendingTasks
  /-- The callbacks scheduled with `setTimeout` that have not started. -/
  timers : Nat
  /-- A callback has started and its `finally` block has not run. -/
  inCallback : Bool
  /-- `appRef.destroyed`. -/
  destroyed : Bool
  deriving DecidableEq, Repr

namespace SchedulerState

/-- The state before any event: no task and no callback. -/
def init : SchedulerState :=
  { pendingRenderTaskId := none, taskService := ⟨0, []⟩, timers := 0, inCallback := false,
    destroyed := false }

/-- `notify()`. -/
def notify (s : SchedulerState) : SchedulerState :=
  if s.pendingRenderTaskId.isSome then s
  else
    let (taskId, taskService) := s.taskService.add
    { s with pendingRenderTaskId := some taskId, taskService, timers := s.timers + 1 }

/-- The start of a scheduled callback. It runs `appRef.tick()` unless the application is
destroyed; the tick's own effects are those of `ApplicationRef.tick`. -/
def startCallback (s : SchedulerState) : SchedulerState :=
  { s with timers := s.timers - 1, inCallback := true }

/-- The `finally` block of the callback: clear the task id, then remove the task. -/
def finishCallback (s : SchedulerState) : SchedulerState :=
  let taskId := s.pendingRenderTaskId
  { s with
    pendingRenderTaskId := none
    taskService := taskId.elim s.taskService s.taskService.remove
    inCallback := false }

end SchedulerState

/-- The events of a run. -/
inductive SchedulerEvent where
  /-- A `notify()` call. -/
  | notify
  /-- A scheduled callback starts; it needs one scheduled and none running. -/
  | startCallback
  /-- The running callback's `finally` block. -/
  | finishCallback
  /-- The application is destroyed. -/
  | destroy
  deriving DecidableEq, Repr

/-- One event; `none` when it cannot happen in this state. -/
def SchedulerState.step (s : SchedulerState) : SchedulerEvent → Option SchedulerState
  | .notify => some s.notify
  | .startCallback => if s.timers ≠ 0 ∧ s.inCallback = false then some s.startCallback else none
  | .finishCallback => if s.inCallback then some s.finishCallback else none
  | .destroy => some { s with destroyed := true }

/-- The states some interleaving of events reaches. -/
inductive SchedulerReachable : SchedulerState → Prop where
  | init : SchedulerReachable .init
  | step {s s' : SchedulerState} {e : SchedulerEvent} :
      SchedulerReachable s → s.step e = some s' → SchedulerReachable s'

/-- Run the events of a list in order. -/
def SchedulerState.run : SchedulerState → List SchedulerEvent → Option SchedulerState
  | s, [] => some s
  | s, e :: es => (s.step e).bind (·.run es)

/-- The ids the `finally` blocks of a run pass to `remove`, in order: at each
`finishCallback`, the `pendingRenderTaskId` of the state it happens in. The scheduler keeps no
such record; it is read off the run. -/
def SchedulerState.removeCalls : SchedulerState → List SchedulerEvent → List (Option Nat)
  | _, [] => []
  | s, e :: es =>
    match s.step e with
    | none => []
    | some s' =>
      (if e = .finishCallback then [s.pendingRenderTaskId] else []) ++ s'.removeCalls es

theorem SchedulerReachable.run {s s' : SchedulerState} (h : SchedulerReachable s) :
    ∀ (es : List SchedulerEvent), s.run es = some s' → SchedulerReachable s'
  | [], hr => by cases hr; exact h
  | e :: es, hr => by
    simp only [SchedulerState.run, Option.bind_eq_some] at hr
    obtain ⟨s₁, h₁, hr⟩ := hr
    exact (h.step h₁).run es hr

/-! ## The transitions, field by field -/

namespace SchedulerState

variable {s s' : SchedulerState} {e : SchedulerEvent}

theorem notify_of_pending {taskId : Nat} (h : s.pendingRenderTaskId = some taskId) :
    s.notify = s := by
  simp [notify, h]

theorem notify_of_none (h : s.pendingRenderTaskId = none) :
    s.notify = { s with
      pendingRenderTaskId := some s.taskService.taskId
      taskService := s.taskService.add.2
      timers := s.timers + 1 } := by
  simp [notify, h, PendingTasks.add]

@[simp] theorem notify_inCallback : s.notify.inCallback = s.inCallback := by
  unfold notify; split <;> rfl

@[simp] theorem notify_destroyed : s.notify.destroyed = s.destroyed := by
  unfold notify; split <;> rfl

theorem timers_le_notify : s.timers ≤ s.notify.timers := by
  unfold notify; split
  · exact le_rfl
  · exact Nat.le_succ _

theorem removeCalls_cons {es : List SchedulerEvent} (h : s.step e = some s') :
    s.removeCalls (e :: es) =
      (if e = .finishCallback then [s.pendingRenderTaskId] else []) ++ s'.removeCalls es := by
  rw [removeCalls, h]

@[simp] theorem startCallback_pendingRenderTaskId :
    s.startCallback.pendingRenderTaskId = s.pendingRenderTaskId := rfl

@[simp] theorem startCallback_taskService : s.startCallback.taskService = s.taskService := rfl

@[simp] theorem startCallback_timers : s.startCallback.timers = s.timers - 1 := rfl

@[simp] theorem startCallback_inCallback : s.startCallback.inCallback = true := rfl

@[simp] theorem startCallback_destroyed : s.startCallback.destroyed = s.destroyed := rfl

theorem run_append : ∀ (s : SchedulerState) (l₁ l₂ : List SchedulerEvent),
    s.run (l₁ ++ l₂) = (s.run l₁).bind (·.run l₂)
  | _, [], _ => rfl
  | s, e :: l₁, l₂ => by
    simp only [List.cons_append, run]
    rcases s.step e with _ | s₁
    · rfl
    · exact run_append s₁ l₁ l₂

/-- What one event does, with the guards under which it can happen. -/
theorem step_eq_some (h : s.step e = some s') :
    (e = .notify ∧ s' = s.notify) ∨
    (e = .startCallback ∧ s.timers ≠ 0 ∧ s.inCallback = false ∧ s' = s.startCallback) ∨
    (e = .finishCallback ∧ s.inCallback = true ∧ s' = s.finishCallback) ∨
    (e = .destroy ∧ s' = { s with destroyed := true }) := by
  cases e with
  | notify => exact .inl ⟨rfl, (Option.some.inj h).symm⟩
  | startCallback =>
    simp only [step] at h
    split at h
    · next hc => exact .inr (.inl ⟨rfl, hc.1, hc.2, (Option.some.inj h).symm⟩)
    · cases h
  | finishCallback =>
    simp only [step] at h
    split at h
    · next hb => exact .inr (.inr (.inl ⟨rfl, hb, (Option.some.inj h).symm⟩))
    · cases h
  | destroy => exact .inr (.inr (.inr ⟨rfl, (Option.some.inj h).symm⟩))

/-- No event undoes the destruction. -/
theorem step_destroyed (h : s.step e = some s') (hd : s.destroyed = true) :
    s'.destroyed = true := by
  obtain ⟨-, rfl⟩ | ⟨-, -, -, rfl⟩ | ⟨-, -, rfl⟩ | ⟨-, rfl⟩ := step_eq_some h
  · simpa using hd
  all_goals first | exact hd | rfl

theorem destroyed_run {es : List SchedulerEvent} (hd : s.destroyed = true)
    (h : s.run es = some s') : s'.destroyed = true := by
  induction es generalizing s with
  | nil => cases h; exact hd
  | cons e es ih =>
    simp only [run, Option.bind_eq_some] at h
    obtain ⟨s₁, h₁, h⟩ := h
    exact ih (step_destroyed h₁ hd) h

end SchedulerState

/-! ## The invariant -/

namespace SchedulerState

/-- What holds between any two events. -/
structure Inv (s : SchedulerState) : Prop where
  /-- The outstanding tasks are the pending render task, if any. -/
  tasks : s.taskService.pendingTasks = s.pendingRenderTaskId.toList
  /-- A pending render task has exactly one callback, scheduled or running; without one,
  no callback is scheduled or running. -/
  callbacks : s.timers + s.inCallback.toNat = s.pendingRenderTaskId.toList.length

theorem inv_init : init.Inv :=
  ⟨rfl, rfl⟩

variable {s : SchedulerState}

theorem Inv.notify (h : s.Inv) : s.notify.Inv := by
  rcases hp : s.pendingRenderTaskId with _ | taskId
  · -- No render task: one is added and its callback scheduled.
    obtain ⟨ht, hc⟩ := h
    rw [hp] at ht hc
    rw [notify_of_none hp]
    have hb : s.inCallback = false := by cases hb : s.inCallback <;> simp_all
    exact ⟨by simp [PendingTasks.add, ht], by simp_all⟩
  · -- A render task is pending: the call is dropped.
    rw [notify_of_pending hp]
    exact h

theorem Inv.startCallback (h : s.Inv) (ht : s.timers ≠ 0) (hb : s.inCallback = false) :
    s.startCallback.Inv where
  tasks := h.tasks
  callbacks := by
    have hc := h.callbacks
    rw [hb, Bool.toNat_false] at hc
    show s.timers - 1 + true.toNat = s.pendingRenderTaskId.toList.length
    rw [Bool.toNat_true]
    omega

theorem Inv.finishCallback (h : s.Inv) (hb : s.inCallback = true) : s.finishCallback.Inv := by
  obtain ⟨ht, hc⟩ := h
  rw [hb] at hc
  rcases hp : s.pendingRenderTaskId with _ | taskId <;> rw [hp] at ht hc
  · simp at hc
  · have h0 : s.timers = 0 := by simpa using hc
    constructor <;> simp_all [SchedulerState.finishCallback, PendingTasks.remove]

theorem Inv.step (h : s.Inv) {e : SchedulerEvent} {s' : SchedulerState}
    (hs : s.step e = some s') : s'.Inv := by
  obtain ⟨-, rfl⟩ | ⟨-, ht, hb, rfl⟩ | ⟨-, hb, rfl⟩ | ⟨-, rfl⟩ := step_eq_some hs
  · exact h.notify
  · exact h.startCallback ht hb
  · exact h.finishCallback hb
  · exact ⟨h.tasks, h.callbacks⟩

end SchedulerState

theorem reachable_inv {s : SchedulerState} (h : SchedulerReachable s) : s.Inv := by
  induction h with
  | init => exact SchedulerState.inv_init
  | step _ hs ih => exact ih.step hs

/-! ## The render task -/

namespace SchedulerState

/-- The ids handed out so far are those in `removed`, once each and in order, followed by the
pending one. -/
def IdsAccounted (s : SchedulerState) (removed : List (Option Nat)) : Prop :=
  removed ++ s.pendingRenderTaskId.toList.map some = (List.range s.taskService.taskId).map some

variable {s s' : SchedulerState} {removed : List (Option Nat)}

/-- One event keeps the ids accounted for, with the id a `finally` block removes. -/
theorem IdsAccounted.step (hi : s.IdsAccounted removed) (h : s.Inv) {e : SchedulerEvent}
    (hs : s.step e = some s') :
    s'.IdsAccounted (removed ++ if e = .finishCallback then [s.pendingRenderTaskId] else []) := by
  obtain ⟨rfl, rfl⟩ | ⟨rfl, -, -, rfl⟩ | ⟨rfl, hb, rfl⟩ | ⟨rfl, rfl⟩ := step_eq_some hs
  · rcases hp : s.pendingRenderTaskId with _ | taskId
    · rw [IdsAccounted, hp] at hi
      simp [IdsAccounted, notify_of_none hp, PendingTasks.add, List.range_succ, ← hi]
    · simpa [notify_of_pending hp] using hi
  · simpa using hi
  · -- The `finally` block of a callback, which has a render task pending.
    have hc := h.callbacks
    rw [hb] at hc
    rcases hp : s.pendingRenderTaskId with _ | taskId
    · simp [hp] at hc
    · rw [IdsAccounted, hp] at hi
      simpa [IdsAccounted, finishCallback, hp, PendingTasks.remove] using hi
  · simpa using hi

theorem IdsAccounted.run {es : List SchedulerEvent} (hi : s.IdsAccounted removed) (h : s.Inv)
    (hr : s.run es = some s') : s'.IdsAccounted (removed ++ s.removeCalls es) := by
  induction es generalizing s removed with
  | nil => cases hr; simpa [removeCalls] using hi
  | cons e es ih =>
    simp only [run, Option.bind_eq_some] at hr
    obtain ⟨s₁, h₁, hr⟩ := hr
    have := ih (hi.step h h₁) (h.step h₁) hr
    rwa [removeCalls_cons h₁, ← List.append_assoc]

end SchedulerState

/-- What the scheduler promises about its render task, given the ids the `finally` blocks of
the run passed to `remove`. -/
structure SchedulerState.TaskAccounting (s : SchedulerState) (removed : List (Option Nat)) :
    Prop where
  /-- The scheduler owns at most one outstanding task. -/
  atMostOne : s.taskService.pendingTasks.length ≤ 1
  /-- Between its events, the render task id is set exactly when a task is outstanding. -/
  pending_iff : s.inCallback = false →
    (s.pendingRenderTaskId.isSome ↔ s.taskService.hasPendingTasks)
  /-- Between its events, a set id is the outstanding task's, and one callback for it is
  scheduled and has not started. -/
  pending_some : s.inCallback = false → ∀ taskId, s.pendingRenderTaskId = some taskId →
    s.taskService.pendingTasks = [taskId] ∧ s.timers = 1
  /-- `isStable` is false while a callback is scheduled or running. -/
  unstable : s.timers ≠ 0 ∨ s.inCallback = true → s.taskService.hasPendingTasks
  /-- Every task the scheduler added has been passed to `remove` by the `finally` block of a
  callback exactly once, in order, except the pending one. -/
  removed_once : removed ++ s.pendingRenderTaskId.toList.map some =
    (List.range s.taskService.taskId).map some
  /-- A task whose callback has finished is no longer outstanding. -/
  removed : ∀ taskId, some taskId ∈ removed → taskId ∉ s.taskService.pendingTasks

/-- **The scheduler's task accounting** holds after every run, with the ids its `finally`
blocks passed to `remove`. -/
theorem scheduler_task_accounting {es : List SchedulerEvent} {s : SchedulerState}
    (h : SchedulerState.init.run es = some s) :
    s.TaskAccounting (SchedulerState.init.removeCalls es) := by
  obtain ⟨ht, hc⟩ := reachable_inv (SchedulerReachable.init.run es h)
  have hi : s.IdsAccounted (SchedulerState.init.removeCalls es) := by
    simpa using (show SchedulerState.init.IdsAccounted [] from rfl).run
      SchedulerState.inv_init h
  refine ⟨by rw [ht]; cases s.pendingRenderTaskId <;> simp, fun hb => ?_, fun hb => ?_,
    fun hr => ?_, hi, fun taskId hr hp => ?_⟩
  · rw [hb] at hc
    rcases hp : s.pendingRenderTaskId with _ | taskId <;>
      simp_all [PendingTasks.hasPendingTasks]
  · rw [hb] at hc
    intro taskId hp
    rw [hp] at ht hc
    exact ⟨ht, by simpa using hc⟩
  · rcases hp : s.pendingRenderTaskId with _ | taskId
    · rw [hp] at hc
      cases hb : s.inCallback <;> simp_all
    · simp [PendingTasks.hasPendingTasks, ht, hp]
  · -- The ids handed out are distinct, and the outstanding task is the pending one.
    rw [ht, Option.mem_toList, Option.mem_def] at hp
    have hnd : ((List.range s.taskService.taskId).map some).Nodup :=
      List.Pairwise.map some (fun _ _ h e => h (Option.some.inj e)) (List.nodup_range _)
    rw [SchedulerState.IdsAccounted.eq_def, hp] at hi
    rw [← hi] at hnd
    exact (List.pairwise_append.mp hnd).2.2 _ hr _ (List.mem_singleton_self _) rfl

/-- A tick during which `notify()` is called, then a `notify()` from a stable-subscriber when
the task is removed. -/
theorem scheduler_task_accounting_reentrant_notify :
    ∃ s, SchedulerState.init.run [.notify, .startCallback, .notify, .finishCallback, .notify] =
        some s ∧
      s.TaskAccounting (SchedulerState.init.removeCalls
        [.notify, .startCallback, .notify, .finishCallback, .notify]) :=
  ⟨_, rfl, scheduler_task_accounting rfl⟩

/-! ## Notifications -/

/-- **A notification made during the callback is lost.** A `notify()` call while the tick
runs finds the render task pending and returns; the `finally` block then clears the task, and
the run ends with no callback scheduled or running, the application not destroyed, and no
tick started after that last `notify()`. -/
theorem notify_lost :
    let es : List SchedulerEvent := [.notify, .startCallback, .notify, .finishCallback]
    (∃ s, SchedulerState.init.run es = some s ∧ s.timers = 0 ∧ s.inCallback = false ∧
      s.destroyed = false) ∧
    es[2]? = some .notify ∧ ∀ j, 2 < j → es[j]? ≠ some .startCallback := by
  refine ⟨⟨_, rfl, rfl, rfl, rfl⟩, rfl, fun j hj => ?_⟩
  match j, hj with
  | 3, _ => decide
  | n + 4, _ => simp

/-- A callback that is scheduled and not running starts, in a state where the application is
not destroyed, in every run from here that ends with no callback scheduled and the
application not destroyed. -/
theorem callback_starts {es : List SchedulerEvent} {s s' : SchedulerState}
    (ht : s.timers ≠ 0) (hb : s.inCallback = false) (hr : s.run es = some s')
    (ht' : s'.timers = 0) (hd' : s'.destroyed = false) :
    ∃ k t, es[k]? = some .startCallback ∧ s.run (es.take k) = some t ∧ t.destroyed = false := by
  induction es generalizing s with
  | nil => cases hr; exact absurd ht' ht
  | cons e es ih =>
    simp only [SchedulerState.run, Option.bind_eq_some] at hr
    obtain ⟨s₁, h₁, hr⟩ := hr
    cases e with
    | notify =>
      cases h₁
      obtain ⟨k, t, hk, hkt, htd⟩ :=
        ih (Nat.pos_iff_ne_zero.mp ((Nat.pos_of_ne_zero ht).trans_le
          SchedulerState.timers_le_notify)) (by simpa using hb) hr
      exact ⟨k + 1, t, by rwa [List.getElem?_cons_succ], hkt, htd⟩
    | startCallback =>
      refine ⟨0, s, List.getElem?_cons_zero, rfl, ?_⟩
      cases hd : s.destroyed
      · rfl
      · exact absurd (SchedulerState.destroyed_run (SchedulerState.step_destroyed h₁ hd) hr)
          (by simp [hd'])
    | finishCallback => simp [SchedulerState.step, hb] at h₁
    | destroy =>
      cases h₁
      exact absurd (SchedulerState.destroyed_run rfl hr) (by simp [hd'])

/-- **A notification made outside the callback is served.** In every run that ends with no
callback scheduled and the application not destroyed, each `notify()` call made outside a
running callback, at event `i`, is followed by the start of a callback, at event `j`, in a
state where the application is not destroyed: a tick started after it. -/
theorem notify_outside_served {es : List SchedulerEvent} {s : SchedulerState}
    (hr : SchedulerState.init.run es = some s) (ht : s.timers = 0) (hd : s.destroyed = false)
    {i : Nat} {si : SchedulerState} (hi : es[i]? = some .notify)
    (hsi : SchedulerState.init.run (es.take i) = some si) (hout : si.inCallback = false) :
    ∃ j sj, i < j ∧ es[j]? = some .startCallback ∧
      SchedulerState.init.run (es.take j) = some sj ∧ sj.destroyed = false := by
  -- The run up to the call, the call, and the rest.
  have htake : es.take (i + 1) = es.take i ++ [.notify] := by rw [List.take_succ, hi]; rfl
  have hnotify : SchedulerState.init.run (es.take (i + 1)) = some si.notify := by
    rw [htake, SchedulerState.run_append, hsi]; rfl
  have hrest : si.notify.run (es.drop (i + 1)) = some s := by
    rw [← List.take_append_drop (i + 1) es, SchedulerState.run_append, hnotify] at hr
    exact hr
  -- After the call a callback is scheduled and not running.
  have hsched : si.notify.timers ≠ 0 := by
    have hc := (reachable_inv (SchedulerReachable.init.run _ hsi)).callbacks
    rcases hp : si.pendingRenderTaskId with _ | taskId
    · simp [SchedulerState.notify_of_none hp]
    · rw [hp, hout, Bool.toNat_false] at hc
      rw [SchedulerState.notify_of_pending hp]
      simp at hc
      omega
  obtain ⟨k, t, hk, hkt, htd⟩ := callback_starts hsched (by simpa using hout) hrest ht hd
  refine ⟨i + 1 + k, t, by omega, by rw [← hk, List.getElem?_drop], ?_, htd⟩
  rw [List.take_add, SchedulerState.run_append, hnotify]
  exact hkt

/-- A `notify()` during the tick is lost, and the `notify()` a stable-subscriber makes when
the task is removed is served by the next callback. -/
theorem notify_served_by_callback :
    let es : List SchedulerEvent :=
      [.notify, .startCallback, .notify, .finishCallback, .notify, .startCallback,
        .finishCallback]
    (∃ s, SchedulerState.init.run es = some s ∧ s.timers = 0 ∧ s.destroyed = false) ∧
    (es[4]? = some .notify ∧ ∃ si, SchedulerState.init.run (es.take 4) = some si ∧
      si.inCallback = false) ∧
    ∃ j sj, 4 < j ∧ es[j]? = some .startCallback ∧
      SchedulerState.init.run (es.take j) = some sj ∧ sj.destroyed = false :=
  ⟨⟨_, rfl, rfl, rfl⟩, ⟨rfl, _, rfl, rfl⟩,
    @notify_outside_served [.notify, .startCallback, .notify, .finishCallback, .notify,
      .startCallback, .finishCallback] _ rfl rfl rfl 4 _ rfl rfl rfl⟩

/-! ## Settling -/
/-- No render task, no outstanding task, and no callback scheduled or running. -/
def SchedulerState.Settled (s : SchedulerState) : Prop :=
  s.pendingRenderTaskId = none ∧ s.taskService.pendingTasks = [] ∧ s.timers = 0 ∧
    s.inCallback = false

/-- **The scheduler settles.** From every reachable state, the callback's own events, at most
two of them and no `notify()`, lead to a settled state: once notifications stop, the pending
task is removed and the application is stable. -/
theorem reachable_settles {s : SchedulerState} (h : SchedulerReachable s) :
    ∃ es s', (∀ e ∈ es, e = .startCallback ∨ e = .finishCallback) ∧ es.length ≤ 2 ∧
      s.run es = some s' ∧ s'.Settled := by
  obtain ⟨ht, hc⟩ := reachable_inv h
  rcases hp : s.pendingRenderTaskId with _ | taskId <;> rw [hp] at ht hc
  · -- Nothing is pending, so no callback is scheduled or running.
    have hb : s.inCallback = false := by cases hb : s.inCallback <;> simp_all
    exact ⟨[], s, by simp, by simp, rfl, hp, ht, by simpa [hb] using hc, hb⟩
  have hremove : (s.taskService.remove taskId).pendingTasks = [] := by
    simp [PendingTasks.remove, ht]
  cases hb : s.inCallback
  · -- The callback is scheduled: it starts, then its `finally` block removes the task.
    have h1 : s.timers = 1 := by simpa [hb] using hc
    refine ⟨[.startCallback, .finishCallback], s.startCallback.finishCallback, by simp, le_rfl,
      by simp [SchedulerState.run, SchedulerState.step, h1, hb], rfl, ?_, by
        simp [SchedulerState.finishCallback, h1], rfl⟩
    simpa [SchedulerState.finishCallback, hp] using hremove
  · -- The callback runs: its `finally` block removes the task.
    refine ⟨[.finishCallback], s.finishCallback, by simp, by simp,
      by simp [SchedulerState.run, SchedulerState.step, hb], rfl, ?_, by simpa [hb] using hc, rfl⟩
    simpa [SchedulerState.finishCallback, hp] using hremove

/-- A `notify()` during the tick is dropped, and the callback's `finally` block still
settles the scheduler. -/
theorem reachable_settles_notify_in_tick :
    ∃ s, SchedulerState.init.run [.notify, .startCallback, .notify] = some s ∧
      SchedulerReachable s ∧ ∃ es s', (∀ e ∈ es, e = .startCallback ∨ e = .finishCallback) ∧
        es.length ≤ 2 ∧ s.run es = some s' ∧ s'.Settled :=
  have h := SchedulerReachable.init.run [.notify, .startCallback, .notify] rfl
  ⟨_, rfl, h, reachable_settles h⟩

end Angular.Core
