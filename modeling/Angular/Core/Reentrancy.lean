import Angular.Core.ApplicationRef
import Mathlib.Data.List.Nodup

/-!
# Angular.Core.Reentrancy

The loops of `tick` and `ngOnDestroy` walk arrays that the code they call can change.
`ApplicationRef` gives each callback by its outcome and reads `_views` once per loop; here a
callback acts on the application while the loop runs, through the application's API
(`Effect`), and the loops are the JavaScript ones:

* `for (let view of this._views)` in `tick` is an array iterator: an index into the live
  array, read again at every step (`forOfViews`);
* `this._destroyListeners.forEach(...)` in `ngOnDestroy` fixes the number of indices when it
  starts and skips an index that is no longer in the array (`forEachListener`);
* `this._views.slice().forEach(...)` in `ngOnDestroy` walks a copy.

A call that removes the entry at the loop's index moves the next entry to that index, which
the loop has passed. A view that detaches itself while it is checked thus hides the view
after it from the loop (`tick_skips_view_after_self_detach`), and a destroy listener that
unregisters itself hides the next listener
(`ngOnDestroy_skips_listener_after_self_unregister`), though neither was detached or
unregistered. The destroy loop over the copy reaches every view. Calls that leave the lists
alone are walked once each, in order (`forOfViews_quiet`, `forEachListener_quiet_take`).
-/

namespace Angular.Core

/-- What a callback does through the application's API while it runs. -/
inductive Effect where
  /-- The function `onDestroy(listener)` returned: `remove(this._destroyListeners, listener)`. -/
  | unregister (listener : Nat)
  /-- `appRef.detachView(view)`, as a view's `destroy()` does when the view is attached. -/
  | detachView (view : Nat)
  /-- `appRef.attachView(view)`. -/
  | attachView (view : Nat)
  deriving DecidableEq, Repr

/-- A call of the application to a callback. -/
inductive Call where
  /-- A destroy listener. -/
  | listener (listener : Nat)
  /-- `view.destroy()`. -/
  | destroy (view : Nat)
  /-- `view.detectChanges()`. -/
  | detectChanges (view : Nat)
  /-- `view.checkNoChanges()`. -/
  | checkNoChanges (view : Nat)
  deriving DecidableEq, Repr

/-- The application with its listener arrays, and the calls it has made so far (a record for
the proofs; the code keeps none). -/
structure LiveApp where
  app : ApplicationRef
  /-- `_destroyListeners`, each listener by its identity. -/
  destroyListeners : List Nat
  /-- `_bootstrapListeners`. -/
  bootstrapListeners : List Nat
  calls : List Call

/-- What each callback does when called in a state: its effects, in order, then whether it
returns or throws. The environment of `tick` is as in `TickEnv`. -/
structure Callbacks where
  devMode : Bool
  execute : Except AppError Bool
  internalErrorHandler : AppError → Except AppError Unit
  listener : Nat → LiveApp → List Effect × Except AppError Unit
  destroy : Nat → LiveApp → List Effect × Except AppError Unit
  detectChanges : Nat → LiveApp → List Effect × Except AppError Unit
  checkNoChanges : Nat → LiveApp → List Effect × Except AppError Unit

namespace LiveApp

/-- A method of `ApplicationRef`, on the application's part of the state. -/
def onApp (x : EStateM AppError ApplicationRef Unit) : EStateM AppError LiveApp Unit :=
  fun s => match x s.app with
    | .ok () app => .ok () { s with app := app }
    | .error e app => .error e { s with app := app }

/-- An effect, through the method it names. -/
def run : Effect → EStateM AppError LiveApp Unit
  | .unregister listener =>
    modify fun s => { s with destroyListeners := remove s.destroyListeners listener }
  | .detachView view => onApp (ApplicationRef.detachView view)
  | .attachView view => onApp (ApplicationRef.attachView view)

/-- A call to a callback that behaves as `behaviour` says in the state it is called in. -/
def invoke (call : Call) (behaviour : LiveApp → List Effect × Except AppError Unit) :
    EStateM AppError LiveApp Unit := do
  let (effects, outcome) := behaviour (← get)
  modify fun s => { s with calls := s.calls ++ [call] }
  effects.forM run
  liftExcept outcome

/-- `for (let view of this._views) f(view)`, from the iterator's index `index` on. The
iterator reads the live `_views` at each step, so it sees the views that its own calls attach
and detach. A loop whose calls keep attaching views does not end, in JavaScript as here:
`fuel` bounds its steps, and the theorems give it enough. -/
def forOfViews (f : Nat → EStateM AppError LiveApp Unit) :
    (fuel index : Nat) → EStateM AppError LiveApp Unit
  | 0, _ => pure ()
  | fuel + 1, index => do
    match (← get).app.views[index]? with
    | none => pure ()
    | some view =>
      f view
      forOfViews f fuel (index + 1)

/-- `this._destroyListeners.forEach(f)`, over the `count` indices from `index` on. The number
of indices is fixed when `forEach` starts, and an index no longer in the live array is
skipped. -/
def forEachListener (f : Nat → EStateM AppError LiveApp Unit) :
    (count index : Nat) → EStateM AppError LiveApp Unit
  | 0, _ => pure ()
  | count + 1, index => do
    match (← get).destroyListeners[index]? with
    | none => forEachListener f count (index + 1)
    | some listener =>
      f listener
      forEachListener f count (index + 1)

/-- `tick()`, with views that act on the application while they are checked. -/
def tick (cb : Callbacks) (fuel : Nat) : EStateM AppError LiveApp Unit := do
  if (← get).app.runningTick then
    throw .recursiveApplicationRefTick
  else
    try
      modify fun s => { s with app := { s.app with runningTick := true } }
      forOfViews (fun view => invoke (.detectChanges view) (cb.detectChanges view)) fuel 0
      if cb.devMode then
        forOfViews (fun view => invoke (.checkNoChanges view) (cb.checkNoChanges view)) fuel 0
    catch e =>
      -- Attention: Don't rethrow as it could cancel subscriptions to Observables!
      liftExcept (cb.internalErrorHandler e)
    finally
      -- Catch any `ExpressionChanged...` errors and report them to error handler like above
      try
        let callbacksExecuted ← liftExcept cb.execute
        if cb.devMode && callbacksExecuted then
          forOfViews (fun view => invoke (.checkNoChanges view) (cb.checkNoChanges view)) fuel 0
      catch e =>
        liftExcept (cb.internalErrorHandler e)
      modify fun s => { s with app := { s.app with runningTick := false } }

/-- `ngOnDestroy()`, with listeners and views that act on the application while they run. -/
def ngOnDestroy (cb : Callbacks) : EStateM AppError LiveApp Unit := do
  if (← get).app.destroyed then
    pure ()
  else
    try
      -- Call all the lifecycle hooks.
      forEachListener (fun listener => invoke (.listener listener) (cb.listener listener))
        (← get).destroyListeners.length 0
      -- Destroy all registered views.
      (← get).app.views.forM fun view => invoke (.destroy view) (cb.destroy view)
    finally
      -- Indicate that this instance is destroyed, and release all references.
      modify fun s => { s with app := { s.app with destroyed := true, views := [] },
                               bootstrapListeners := [], destroyListeners := [] }

/-! ## One step of a loop -/

section Loops

variable {f : Nat → EStateM AppError LiveApp Unit}

theorem forOfViews_none {fuel index : Nat} {s : LiveApp} (h : s.app.views[index]? = none) :
    forOfViews f (fuel + 1) index s = .ok () s := by
  simp only [forOfViews, bind, EStateM.bind, get, getThe, MonadStateOf.get, EStateM.get, h]
  rfl

theorem forOfViews_some {fuel index view : Nat} {s : LiveApp}
    (h : s.app.views[index]? = some view) :
    forOfViews f (fuel + 1) index s = (f view >>= fun _ => forOfViews f fuel (index + 1)) s := by
  simp only [forOfViews, bind, EStateM.bind, get, getThe, MonadStateOf.get, EStateM.get, h]

theorem forEachListener_none {count index : Nat} {s : LiveApp}
    (h : s.destroyListeners[index]? = none) :
    forEachListener f (count + 1) index s = forEachListener f count (index + 1) s := by
  simp only [forEachListener, bind, EStateM.bind, get, getThe, MonadStateOf.get, EStateM.get, h]

theorem forEachListener_some {count index listener : Nat} {s : LiveApp}
    (h : s.destroyListeners[index]? = some listener) :
    forEachListener f (count + 1) index s =
      (f listener >>= fun _ => forEachListener f count (index + 1)) s := by
  simp only [forEachListener, bind, EStateM.bind, get, getThe, MonadStateOf.get, EStateM.get, h]

end Loops

theorem invoke_quiet {call : Call} {behaviour : LiveApp → List Effect × Except AppError Unit}
    {s : LiveApp} (h : behaviour s = ([], .ok ())) :
    invoke call behaviour s = .ok () { s with calls := s.calls ++ [call] } := by
  simp only [invoke, h, bind, EStateM.bind, get, getThe, MonadStateOf.get, EStateM.get, modify,
    modifyGet, MonadStateOf.modifyGet, EStateM.modifyGet, List.forM_nil']
  rfl

theorem invoke_one {call : Call} {behaviour : LiveApp → List Effect × Except AppError Unit}
    {s : LiveApp} {e : Effect} (h : behaviour s = ([e], .ok ())) :
    invoke call behaviour s = run e { s with calls := s.calls ++ [call] } := by
  simp only [invoke, h, bind, EStateM.bind, get, getThe, MonadStateOf.get, EStateM.get, modify,
    modifyGet, MonadStateOf.modifyGet, EStateM.modifyGet, List.forM_cons', List.forM_nil']
  cases run e { s with calls := s.calls ++ [call] } <;> rfl

section Quiet

variable (call : Nat → Call) (behaviour : Nat → LiveApp → List Effect × Except AppError Unit)

/-- Checks that leave the views alone walk them once each, in order. -/
theorem forOfViews_quiet_take :
    ∀ (n fuel index : Nat) (s : LiveApp), index + n ≤ s.app.views.length →
      (∀ v ∈ (s.app.views.drop index).take n, ∀ t, behaviour v t = ([], .ok ())) →
      forOfViews (fun v => invoke (call v) (behaviour v)) (n + fuel) index s =
        forOfViews (fun v => invoke (call v) (behaviour v)) fuel (index + n)
          { s with calls := s.calls ++ ((s.app.views.drop index).take n).map call }
  | 0, fuel, index, s, _, _ => by simp
  | n + 1, fuel, index, s, hn, hq => by
    have hi : index < s.app.views.length := by omega
    have hd := List.drop_eq_getElem_cons hi
    rw [hd, List.take_succ_cons, List.forall_mem_cons] at hq
    rw [Nat.add_right_comm, forOfViews_some (List.getElem?_eq_getElem hi)]
    simp only [bind, EStateM.bind, invoke_quiet (hq.1 s)]
    rw [forOfViews_quiet_take n fuel (index + 1) { s with calls := s.calls ++ [call _] }
      (by simp only; omega) hq.2, hd, show index + 1 + n = index + (n + 1) by omega]
    simp only [List.take_succ_cons, List.map_cons, List.append_assoc, List.singleton_append]

theorem forOfViews_quiet {fuel index : Nat} {s : LiveApp} (hi : index ≤ s.app.views.length)
    (hfuel : s.app.views.length ≤ index + fuel)
    (hq : ∀ v ∈ s.app.views.drop index, ∀ t, behaviour v t = ([], .ok ())) :
    forOfViews (fun v => invoke (call v) (behaviour v)) fuel index s =
      .ok () { s with calls := s.calls ++ (s.app.views.drop index).map call } := by
  obtain ⟨r, rfl⟩ : ∃ r, fuel = (s.app.views.length - index) + r :=
    ⟨fuel - (s.app.views.length - index), by omega⟩
  rw [forOfViews_quiet_take call behaviour _ r index s (by omega)
    (fun v hv => hq v (List.mem_of_mem_take hv)), List.take_of_length_le (by simp)]
  cases r with
  | zero => rfl
  | succ r => exact forOfViews_none (List.getElem?_eq_none (by simp only; omega))

/-- Listeners that leave the array alone are called once each, in order. -/
theorem forEachListener_quiet_take :
    ∀ (n count index : Nat) (s : LiveApp), index + n ≤ s.destroyListeners.length →
      (∀ l ∈ (s.destroyListeners.drop index).take n, ∀ t, behaviour l t = ([], .ok ())) →
      forEachListener (fun l => invoke (call l) (behaviour l)) (n + count) index s =
        forEachListener (fun l => invoke (call l) (behaviour l)) count (index + n)
          { s with calls := s.calls ++ ((s.destroyListeners.drop index).take n).map call }
  | 0, count, index, s, _, _ => by simp
  | n + 1, count, index, s, hn, hq => by
    have hi : index < s.destroyListeners.length := by omega
    have hd := List.drop_eq_getElem_cons hi
    rw [hd, List.take_succ_cons, List.forall_mem_cons] at hq
    rw [Nat.add_right_comm, forEachListener_some (List.getElem?_eq_getElem hi)]
    simp only [bind, EStateM.bind, invoke_quiet (hq.1 s)]
    rw [forEachListener_quiet_take n count (index + 1) { s with calls := s.calls ++ [call _] }
      (by simp only; omega) hq.2, hd, show index + 1 + n = index + (n + 1) by omega]
    simp only [List.take_succ_cons, List.map_cons, List.append_assoc, List.singleton_append]

end Quiet

variable {f : Nat → EStateM AppError LiveApp Unit}

/-- Past the end of the array, `forEach` has nothing left to call. -/
theorem forEachListener_past_end :
    ∀ (count index : Nat) (s : LiveApp), s.destroyListeners.length ≤ index →
      forEachListener f count index s = .ok () s
  | 0, _, _, _ => rfl
  | count + 1, index, s, h => by
    rw [forEachListener_none (List.getElem?_eq_none h)]
    exact forEachListener_past_end count (index + 1) s (by omega)

/-- **A view that detaches itself while it is checked.** The iterator moves on to the next
index, where the view after it now stands: that view is not checked in this step. -/
theorem forOfViews_self_detach {call : Nat → Call}
    {behaviour : Nat → LiveApp → List Effect × Except AppError Unit} {fuel index view : Nat}
    {s : LiveApp} (h : s.app.views[index]? = some view)
    (hb : behaviour view s = ([.detachView view], .ok ())) :
    forOfViews (fun v => invoke (call v) (behaviour v)) (fuel + 1) index s =
      forOfViews (fun v => invoke (call v) (behaviour v)) fuel (index + 1)
        { s with calls := s.calls ++ [call view],
                 app := { s.app with views := remove s.app.views view,
                                     appRef := Function.update s.app.appRef view false } } := by
  rw [forOfViews_some h]
  simp only [bind, EStateM.bind, invoke_one hb]
  rfl

/-- **A listener that unregisters itself.** `forEach` moves on to the next index, where the
listener after it now stands: that listener is not called in this step. -/
theorem forEachListener_self_unregister {call : Nat → Call}
    {behaviour : Nat → LiveApp → List Effect × Except AppError Unit} {count index listener : Nat}
    {s : LiveApp} (h : s.destroyListeners[index]? = some listener)
    (hb : behaviour listener s = ([.unregister listener], .ok ())) :
    forEachListener (fun l => invoke (call l) (behaviour l)) (count + 1) index s =
      forEachListener (fun l => invoke (call l) (behaviour l)) count (index + 1)
        { s with calls := s.calls ++ [call listener],
                 destroyListeners := remove s.destroyListeners listener } := by
  rw [forEachListener_some h]
  simp only [bind, EStateM.bind, invoke_one hb]
  rfl

/-- A tick outside dev mode, with no after-render callback, is its check loop between setting
and clearing `_runningTick`. -/
theorem tick_of_loop {cb : Callbacks} {fuel : Nat} {s s' : LiveApp}
    (hr : s.app.runningTick = false) (hdev : cb.devMode = false) (hexec : cb.execute = .ok false)
    (hloop : forOfViews (fun view => invoke (.detectChanges view) (cb.detectChanges view)) fuel 0
      { s with app := { s.app with runningTick := true } } = .ok () s') :
    tick cb fuel s = .ok () { s' with app := { s'.app with runningTick := false } } := by
  simp only [tick, bind, EStateM.bind, get, getThe, MonadStateOf.get, EStateM.get, hr,
    Bool.false_eq_true, ite_false]
  rw [tryFinally_apply, tryCatch_apply]
  dsimp only at hloop
  simp only [modify, modifyGet, MonadStateOf.modifyGet, EStateM.modifyGet, EStateM.bind, hloop,
    hdev, hexec, Bool.false_eq_true, ite_false, Bool.false_and, liftExcept, pure, EStateM.pure]
  rfl

/-- **A view that detaches itself while it is checked hides the next view from the tick.**
Outside dev mode, with views `pre ++ v :: w :: post` of which `v` detaches itself in
`detectChanges` and the others change nothing, the tick returns with `w` still attached,
having called `detectChanges` on every view but `w`. -/
theorem tick_skips_view_after_self_detach (cb : Callbacks) (fuel : Nat) (s : LiveApp)
    (pre post : List Nat) (v w : Nat) (hr : s.app.runningTick = false)
    (hviews : s.app.views = pre ++ v :: w :: post) (hnd : s.app.views.Nodup)
    (hquiet : ∀ u ∈ pre ++ post, ∀ t, cb.detectChanges u t = ([], .ok ()))
    (hdetach : ∀ t, cb.detectChanges v t = ([.detachView v], .ok ()))
    (hdev : cb.devMode = false) (hexec : cb.execute = .ok false)
    (hfuel : s.app.views.length ≤ fuel) :
    ∃ s', tick cb fuel s = .ok () s' ∧ s'.app.views = pre ++ w :: post ∧
      s'.app.runningTick = false ∧
      s'.calls = s.calls ++ (pre ++ v :: post).map Call.detectChanges ∧
      Call.detectChanges w ∉ s'.calls.drop s.calls.length := by
  rw [hviews] at hnd hfuel
  have hv : v ∉ pre := fun h => List.disjoint_of_nodup_append hnd h (List.mem_cons_self _ _)
  have hw : w ∉ pre ++ v :: post := by
    have := (@List.perm_middle _ w (pre ++ [v]) post).nodup_iff.mp (by simpa using hnd)
    simpa using (List.nodup_cons.mp this).1
  obtain ⟨fuel, rfl⟩ : ∃ r, fuel = pre.length + (r + 1) := ⟨fuel - pre.length - 1, by
    simp only [List.length_append, List.length_cons] at hfuel; omega⟩
  set s₁ : LiveApp := { s with app := { s.app with runningTick := true } }
  have hv₁ : s₁.app.views = pre ++ v :: w :: post := hviews
  have hget : (pre ++ v :: w :: post)[pre.length]? = some v := by
    rw [List.getElem?_append_right (Nat.le_refl _), Nat.sub_self]; rfl
  -- The quiet views before `v`, then `v` detaching itself, then the quiet views after `w`.
  have e₁ := forOfViews_quiet_take Call.detectChanges cb.detectChanges pre.length (fuel + 1) 0
    s₁ (by rw [hv₁]; simp) (by
      rw [hv₁, List.drop_zero, List.take_left]; exact fun u hu => hquiet u (List.mem_append_left _ hu))
  rw [Nat.zero_add, hv₁, List.drop_zero, List.take_left] at e₁
  have e₂ := @forOfViews_self_detach Call.detectChanges cb.detectChanges fuel pre.length v
    { s₁ with calls := s₁.calls ++ pre.map Call.detectChanges } (by rw [← hv₁] at hget; exact hget)
    (hdetach _)
  have hv₃ : remove s₁.app.views v = pre ++ w :: post := by
    rw [hv₁, remove, List.erase_append_right _ hv, List.erase_cons_head]
  rw [@forOfViews_quiet Call.detectChanges cb.detectChanges fuel (pre.length + 1) _ ?le ?fuel
    ?quiet] at e₂
  case le => dsimp only; rw [hv₃]; simp
  case fuel => dsimp only; rw [hv₃]; simp only [List.length_append, List.length_cons] at hfuel ⊢; omega
  case quiet =>
    dsimp only; rw [hv₃]
    simpa using fun u hu => hquiet u (List.mem_append_right _ hu)
  refine ⟨_, tick_of_loop hr hdev hexec (e₁.trans e₂), hv₃, rfl, ?_, ?_⟩
  · simp [hv₃]
  · simpa [hv₃] using hw

/-- Two attached views `0` and `1`, destroy listeners `0` and `1`, no tick running. -/
def twoViews : LiveApp :=
  { app := { views := [0, 1], runningTick := false, destroyed := false,
             appRef := fun v => v == 0 || v == 1, attachedToViewContainer := fun _ => false },
    destroyListeners := [0, 1], bootstrapListeners := [], calls := [] }

/-- View `0` detaches itself when checked, listener `0` unregisters itself, and a view's
`destroy()` detaches it; nothing else acts or throws. -/
def selfRemoving : Callbacks :=
  { devMode := false, execute := .ok false, internalErrorHandler := fun e => .error e,
    listener := fun l _ => if l = 0 then ([.unregister 0], .ok ()) else ([], .ok ()),
    destroy := fun v _ => ([.detachView v], .ok ()),
    detectChanges := fun v _ => if v = 0 then ([.detachView 0], .ok ()) else ([], .ok ()),
    checkNoChanges := fun _ _ => ([], .ok ()) }

theorem tick_skips_view_after_self_detach_two :
    (twoViews.app.views = [] ++ 0 :: 1 :: [] ∧ twoViews.app.views.Nodup) ∧
    ∃ s', tick selfRemoving 2 twoViews = .ok () s' ∧ s'.app.views = [] ++ 1 :: [] ∧
      s'.app.runningTick = false ∧
      s'.calls = twoViews.calls ++ ([] ++ 0 :: []).map Call.detectChanges ∧
      Call.detectChanges 1 ∉ s'.calls.drop twoViews.calls.length :=
  ⟨⟨rfl, by decide⟩, tick_skips_view_after_self_detach selfRemoving 2 twoViews [] [] 0 1 rfl rfl
    (by decide) (by simp) (fun _ => rfl) rfl rfl (by decide)⟩

/-- An effect other than attaching a view returns. -/
theorem run_ok {e : Effect} (he : ∀ u, e ≠ .attachView u) (s : LiveApp) :
    ∃ t, run e s = .ok () t ∧ t.calls = s.calls := by
  cases e with
  | unregister l => exact ⟨_, rfl, rfl⟩
  | detachView v => exact ⟨_, rfl, rfl⟩
  | attachView v => exact absurd rfl (he v)

theorem forM_run_ok :
    ∀ (es : List Effect), (∀ e ∈ es, ∀ u, e ≠ .attachView u) →
      ∀ s, ∃ t, es.forM run s = .ok () t ∧ t.calls = s.calls
  | [], _, s => ⟨s, rfl, rfl⟩
  | e :: es, h, s => by
    obtain ⟨t, ht, hc⟩ := run_ok (h e (List.mem_cons_self _ _)) s
    obtain ⟨t', ht', hc'⟩ := forM_run_ok es (fun e' he' => h e' (List.mem_cons_of_mem _ he')) t
    refine ⟨t', ?_, hc'.trans hc⟩
    simp only [List.forM_cons', bind, EStateM.bind, ht, ht']

/-- A call that returns, and whose effects attach no view, returns. -/
theorem invoke_ok {call : Call} {behaviour : LiveApp → List Effect × Except AppError Unit}
    {s : LiveApp} (h : (behaviour s).2 = .ok ())
    (he : ∀ e ∈ (behaviour s).1, ∀ u, e ≠ .attachView u) :
    ∃ t, invoke call behaviour s = .ok () t ∧ t.calls = s.calls ++ [call] := by
  obtain ⟨t, ht, hc⟩ := forM_run_ok _ he { s with calls := s.calls ++ [call] }
  refine ⟨t, ?_, hc⟩
  rcases hb : behaviour s with ⟨effects, outcome⟩
  rw [hb] at h he ht
  simp only at h he ht
  subst h
  simp only [invoke, hb, bind, EStateM.bind, get, getThe, MonadStateOf.get, EStateM.get, modify,
    modifyGet, MonadStateOf.modifyGet, EStateM.modifyGet, ht]
  rfl

/-- The views' destroy loop over the copy calls `destroy()` on each view of the copy once, in
order, whatever the calls do to `_views`. -/
theorem forM_invoke_ok (call : Nat → Call)
    (behaviour : Nat → LiveApp → List Effect × Except AppError Unit)
    (hb : ∀ v t, (behaviour v t).2 = .ok () ∧ ∀ e ∈ (behaviour v t).1, ∀ u, e ≠ .attachView u) :
    ∀ (views : List Nat) (s : LiveApp), ∃ t,
      (views.forM fun v => invoke (call v) (behaviour v)) s = .ok () t ∧
        t.calls = s.calls ++ views.map call
  | [], s => ⟨s, rfl, by simp⟩
  | v :: views, s => by
    obtain ⟨t, ht, hc⟩ := @invoke_ok (call v) (behaviour v) s (hb v s).1 (hb v s).2
    obtain ⟨t', ht', hc'⟩ := forM_invoke_ok call behaviour hb views t
    refine ⟨t', ?_, by simp [hc', hc]⟩
    simp only [List.forM_cons', bind, EStateM.bind, ht, ht']

/-- Once destroyed, `ngOnDestroy` calls nothing and changes nothing. -/
theorem ngOnDestroy_of_destroyed (cb : Callbacks) {s : LiveApp} (h : s.app.destroyed = true) :
    ngOnDestroy cb s = .ok () s := by
  simp [ngOnDestroy, h, bind, EStateM.bind, get, getThe, MonadStateOf.get, EStateM.get, pure,
    EStateM.pure]

/-- An `ngOnDestroy` whose listeners and views return: the `finally` block releases the
arrays after both loops. -/
theorem ngOnDestroy_of_loops {cb : Callbacks} {s t u : LiveApp} (h : s.app.destroyed = false)
    (hl : forEachListener (fun l => invoke (.listener l) (cb.listener l))
      s.destroyListeners.length 0 s = .ok () t)
    (hv : (t.app.views.forM fun v => invoke (.destroy v) (cb.destroy v)) t = .ok () u) :
    ngOnDestroy cb s = .ok () { u with app := { u.app with destroyed := true, views := [] },
                                       bootstrapListeners := [], destroyListeners := [] } := by
  simp only [ngOnDestroy, bind, EStateM.bind, get, getThe, MonadStateOf.get, EStateM.get, h,
    Bool.false_eq_true, ite_false]
  rw [tryFinally_apply]
  simp only [EStateM.bind, get, getThe, MonadStateOf.get, EStateM.get, hl, hv]
  rfl

/-- **A destroy listener that unregisters itself hides the next listener.** With destroy
listeners `pre ++ l :: m :: post`, of which `l` unregisters itself and the others change
nothing, and views whose `destroy()` returns and attaches nothing, `ngOnDestroy` calls every
listener but `m`, though `m` was registered when it started and never unregistered; it calls
`destroy()` on every view once, ends destroyed with its arrays empty, and a later
`ngOnDestroy` does nothing. -/
theorem ngOnDestroy_skips_listener_after_self_unregister (cb : Callbacks) (s : LiveApp)
    (pre post : List Nat) (l m : Nat) (hd : s.app.destroyed = false)
    (hls : s.destroyListeners = pre ++ l :: m :: post) (hnd : s.destroyListeners.Nodup)
    (hquiet : ∀ k ∈ pre ++ post, ∀ t, cb.listener k t = ([], .ok ()))
    (hself : ∀ t, cb.listener l t = ([.unregister l], .ok ()))
    (hdestroy : ∀ v t, (cb.destroy v t).2 = .ok () ∧
      ∀ e ∈ (cb.destroy v t).1, ∀ u, e ≠ .attachView u) :
    ∃ s', ngOnDestroy cb s = .ok () s' ∧ s'.app.destroyed = true ∧ s'.app.views = [] ∧
      s'.bootstrapListeners = [] ∧ s'.destroyListeners = [] ∧
      s'.calls = s.calls ++ (pre ++ l :: post).map Call.listener ++ s.app.views.map Call.destroy ∧
      Call.listener m ∉ s'.calls.drop s.calls.length ∧
      ngOnDestroy cb s' = .ok () s' := by
  rw [hls] at hnd
  have hl : l ∉ pre := fun h => List.disjoint_of_nodup_append hnd h (List.mem_cons_self _ _)
  have hm : m ∉ pre ++ l :: post := by
    have := (@List.perm_middle _ m (pre ++ [l]) post).nodup_iff.mp (by simpa using hnd)
    simpa using (List.nodup_cons.mp this).1
  have hget : (pre ++ l :: m :: post)[pre.length]? = some l := by
    rw [List.getElem?_append_right (Nat.le_refl _), Nat.sub_self]; rfl
  have hrest : remove (pre ++ l :: m :: post) l = pre ++ m :: post := by
    rw [remove, List.erase_append_right _ hl, List.erase_cons_head]
  have hdrop : (pre ++ m :: post).drop (pre.length + 1) = post := by
    rw [← List.drop_drop, List.drop_left]; rfl
  -- The quiet listeners before `l`, then `l` unregistering itself, then those after `m`.
  have e₁ := forEachListener_quiet_take Call.listener cb.listener pre.length
    (post.length + 1 + 1) 0 s (by rw [hls]; simp) (by
      rw [hls, List.drop_zero, List.take_left]; exact fun k hk => hquiet k (List.mem_append_left _ hk))
  rw [Nat.zero_add, show (s.destroyListeners.drop 0).take pre.length = pre by
    rw [hls, List.drop_zero, List.take_left]] at e₁
  have e₂ := @forEachListener_self_unregister Call.listener cb.listener (post.length + 1)
    pre.length l { s with calls := s.calls ++ pre.map Call.listener }
    (show s.destroyListeners[pre.length]? = some l by rw [hls]; exact hget) (hself _)
  rw [@forEachListener_quiet_take Call.listener cb.listener post.length 1 (pre.length + 1) _
      ?le ?quiet, forEachListener_past_end 1 (pre.length + 1 + post.length) _ ?past] at e₂
  case le => dsimp only; rw [hls, hrest]; simp; omega
  case quiet =>
    dsimp only; rw [hls, hrest, hdrop, List.take_length]
    exact fun k hk => hquiet k (List.mem_append_right _ hk)
  case past => dsimp only; rw [hls, hrest]; simp; omega
  rw [show pre.length + (post.length + 1 + 1) = s.destroyListeners.length by
    rw [hls]; simp] at e₁
  obtain ⟨u, hu, hcalls⟩ := forM_invoke_ok Call.destroy cb.destroy hdestroy _ _
  refine ⟨_, ngOnDestroy_of_loops hd (e₁.trans e₂) hu, rfl, rfl, rfl, rfl, ?_, ?_,
    ngOnDestroy_of_destroyed cb rfl⟩
  · simp [hcalls, hls, hrest, hdrop]
  · simpa [hcalls, hls, hrest, hdrop] using hm

theorem ngOnDestroy_skips_listener_after_self_unregister_two :
    (twoViews.destroyListeners = [] ++ 0 :: 1 :: [] ∧ twoViews.destroyListeners.Nodup) ∧
    ∃ s', ngOnDestroy selfRemoving twoViews = .ok () s' ∧ s'.app.destroyed = true ∧
      s'.app.views = [] ∧ s'.bootstrapListeners = [] ∧ s'.destroyListeners = [] ∧
      s'.calls = twoViews.calls ++ ([] ++ 0 :: []).map Call.listener ++
        twoViews.app.views.map Call.destroy ∧
      Call.listener 1 ∉ s'.calls.drop twoViews.calls.length ∧
      ngOnDestroy selfRemoving s' = .ok () s' :=
  ⟨⟨rfl, by decide⟩, ngOnDestroy_skips_listener_after_self_unregister selfRemoving twoViews [] []
    0 1 rfl rfl (by decide) (by simp) (fun _ => rfl) (fun _ _ => ⟨rfl, by simp [selfRemoving]⟩)⟩

end LiveApp

end Angular.Core
