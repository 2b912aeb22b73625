import Mathlib.Logic.Function.Basic

/-!
# Angular.Core.ApplicationRef

The part of `ApplicationRef` (`packages/core/src/application/application_ref.ts`) that keeps
the attached views and runs change detection over them: `tick`, `attachView`, `detachView`,
`ngOnDestroy` and `viewCount`.

Design points:

* **Exceptions keep the state.** The methods run in `EStateM AppError ApplicationRef`: a call
  that throws leaves its writes behind, as in JavaScript. The source's
  `try`/`catch`/`finally` is Lean's, whose `finally` for `EStateM` runs its block on both
  outcomes and lets an exception thrown there replace the pending one.
* **The environment by its outcomes.** The callbacks `tick` makes (`detectChanges`,
  `checkNoChanges`, `afterRenderEffectManager.execute`, `internalErrorHandler`) are given by
  what they return or throw (`TickEnv`). A view that calls `tick` re-entrantly is one such
  outcome: the nested call throws `RECURSIVE_APPLICATION_REF_TICK` before it writes anything
  (`tick_of_runningTick`).
* **Views by their identity.** A view is a number. Its back-reference `_appRef` is the field
  `appRef`, which says whether it points to this application, and `attachedToViewContainer`
  says whether it sits in a `ViewContainer`. The view's side (`attachToAppRef`,
  `detachFromAppRef`, `destroy`) is not among the sources; it is modelled as `attachView`'s
  documentation describes it: attaching throws for a view in a `ViewContainer` and otherwise
  sets the back-reference, and a destroyed view is detached through it.
* `warnIfDestroyed` only writes to the console and is left out.

The main results: `tick_eq` says what a tick does in terms of the outcomes of its
callbacks; from it, a tick whose handler rethrows an after-render error leaves `_runningTick`
set, and every later tick then fails (`tick_rethrowing_handler_sticks`).
-/

namespace Angular.Core

/-- What a call can throw. -/
inductive AppError where
  /-- `RuntimeErrorCode.RECURSIVE_APPLICATION_REF_TICK`. -/
  | recursiveApplicationRefTick
  /-- `RuntimeErrorCode.VIEW_ALREADY_ATTACHED`, thrown by `attachToAppRef`. -/
  | viewAlreadyAttached
  /-- An exception thrown by a callback of the environment. -/
  | thrown (e : Nat)
  deriving DecidableEq, Repr

/-- The fields of `ApplicationRef` that these methods use, with the views' side of the
back-reference. -/
structure ApplicationRef where
  /-- `_views`. -/
  views : List Nat
  /-- `_runningTick`. -/
  runningTick : Bool
  /-- `_destroyed`. -/
  destroyed : Bool
  /-- Whether a view's `_appRef` is this application. -/
  appRef : Nat → Bool
  /-- Whether a view is attached to a `ViewContainer`. -/
  attachedToViewContainer : Nat → Bool

/-- The outcomes of the callbacks that `tick` makes. -/
structure TickEnv where
  /-- `ngDevMode`. -/
  devMode : Bool
  /-- `view.detectChanges()`. -/
  detectChanges : Nat → Except AppError Unit
  /-- `view.checkNoChanges()`. -/
  checkNoChanges : Nat → Except AppError Unit
  /-- `afterRenderEffectManager.execute()`: whether any callback was executed. -/
  execute : Except AppError Bool
  /-- `internalErrorHandler(e)`. -/
  internalErrorHandler : AppError → Except AppError Unit

/-- `remove(list, el)`: splice out the first occurrence of `el`, if any. -/
def remove {α : Type} [DecidableEq α] (list : List α) (el : α) : List α :=
  list.erase el

namespace ApplicationRef

/-! ## The methods -/

/-- `tick()`: change-detect every attached view (and check them in dev mode), report an
error to `internalErrorHandler`, then run the after-render effects and reset
`_runningTick`. -/
def tick (env : TickEnv) : EStateM AppError ApplicationRef Unit := do
  if (← get).runningTick then
    throw .recursiveApplicationRefTick
  else
    try
      modify fun app => { app with runningTick := true }
      (← get).views.forM fun view => liftExcept (env.detectChanges view)
      if env.devMode then
        (← get).views.forM fun view => liftExcept (env.checkNoChanges view)
    catch e =>
      -- Attention: Don't rethrow as it could cancel subscriptions to Observables!
      liftExcept (env.internalErrorHandler e)
    finally
      -- Catch any `ExpressionChanged...` errors and report them to error handler like above
      try
        let callbacksExecuted ← liftExcept env.execute
        if env.devMode && callbacksExecuted then
          (← get).views.forM fun view => liftExcept (env.checkNoChanges view)
      catch e =>
        liftExcept (env.internalErrorHandler e)
      modify fun app => { app with runningTick := false }

/-- `view.attachToAppRef(this)`: throws for a view attached to a `ViewContainer`, and
otherwise points the view's back-reference at this application. -/
def attachToAppRef (view : Nat) : EStateM AppError ApplicationRef Unit := do
  if (← get).attachedToViewContainer view then
    throw .viewAlreadyAttached
  else
    modify fun app => { app with appRef := Function.update app.appRef view true }

/-- `view.detachFromAppRef()`: clear the view's back-reference. -/
def detachFromAppRef (view : Nat) : EStateM AppError ApplicationRef Unit :=
  modify fun app => { app with appRef := Function.update app.appRef view false }

/-- `attachView(viewRef)`: push the view, then attach it. -/
def attachView (view : Nat) : EStateM AppError ApplicationRef Unit := do
  modify fun app => { app with views := app.views ++ [view] }
  attachToAppRef view

/-- `detachView(viewRef)`: remove the view, then detach it. -/
def detachView (view : Nat) : EStateM AppError ApplicationRef Unit := do
  modify fun app => { app with views := remove app.views view }
  detachFromAppRef view

/-- `view.destroy()`, as far as this application sees it: a view whose back-reference points
here is detached through it. -/
def destroyView (view : Nat) : EStateM AppError ApplicationRef Unit := do
  if (← get).appRef view then detachView view else pure ()

/-- `ngOnDestroy()`, given the outcomes of the registered destroy listeners: call them,
destroy every attached view, and in any case mark the application destroyed and release the
views. -/
def ngOnDestroy (listeners : List (Except AppError Unit)) :
    EStateM AppError ApplicationRef Unit := do
  if (← get).destroyed then
    pure ()
  else
    try
      listeners.forM liftExcept
      -- `this._views.slice()`: the views are read once, before any is destroyed.
      (← get).views.forM destroyView
    finally
      modify fun app => { app with destroyed := true, views := [] }

/-- `viewCount`. -/
def viewCount (app : ApplicationRef) : Nat :=
  app.views.length

end ApplicationRef

/-! ## Calls that keep the state

Most blocks of these methods write nothing: their result is an outcome and the state they
started in. -/

/-- The result of a call that has outcome `r` and leaves the state `app`. -/
def resultOf {α : Type} (r : Except AppError α) (app : ApplicationRef) :
    EStateM.Result AppError ApplicationRef α :=
  match r with
  | .ok a => .ok a app
  | .error e => .error e app

@[simp] theorem liftExcept_apply {α : Type} (r : Except AppError α) (app : ApplicationRef) :
    (liftExcept r : EStateM AppError ApplicationRef α) app = resultOf r app := by
  cases r <;> rfl

/-- A loop of calls that keep the state is one call that keeps it. -/
theorem forM_liftExcept {α : Type} (f : α → Except AppError Unit) :
    ∀ l : List α, (l.forM fun v => (liftExcept (f v) : EStateM AppError ApplicationRef Unit)) =
      liftExcept (l.forM f)
  | [] => rfl
  | v :: l => by
    funext app
    cases h : f v <;>
      simp [List.forM_cons, bind, EStateM.bind, Except.bind, h, resultOf, forM_liftExcept f l]

theorem tryCatch_apply {σ α : Type} (x : EStateM AppError σ α)
    (h : AppError → EStateM AppError σ α) (app : σ) :
    tryCatch x h app = match x app with
      | .ok a app => .ok a app
      | .error e app => h e app := by
  show EStateM.tryCatch x h app = _
  simp only [EStateM.tryCatch]
  cases x app <;> rfl

/-- `finally` in `EStateM`: the block runs on both outcomes, and its own exception wins. -/
theorem tryFinally_apply {σ α β : Type} (x : EStateM AppError σ α)
    (f : EStateM AppError σ β) (app : σ) :
    tryFinally x f app = match x app with
      | .ok a app => match f app with
        | .ok _ app => .ok a app
        | .error e app => .error e app
      | .error e app => match f app with
        | .ok _ app => .error e app
        | .error e' app => .error e' app := by
  simp only [tryFinally, MonadFinally.tryFinally', Functor.map, EStateM.map]
  cases x app <;> dsimp only <;> cases f _ <;> rfl

/-! ## The view calls, one by one -/

namespace ApplicationRef

theorem attachView_apply (view : Nat) (app : ApplicationRef) :
    attachView view app =
      if app.attachedToViewContainer view then
        .error .viewAlreadyAttached { app with views := app.views ++ [view] }
      else .ok () { app with views := app.views ++ [view],
                             appRef := Function.update app.appRef view true } := by
  simp only [attachView, attachToAppRef, bind, EStateM.bind, modify, modifyGet,
    MonadStateOf.modifyGet, EStateM.modifyGet, get, getThe, MonadStateOf.get, EStateM.get]
  split <;> rfl

theorem detachView_apply (view : Nat) (app : ApplicationRef) :
    detachView view app =
      .ok () { app with views := remove app.views view,
                        appRef := Function.update app.appRef view false } := rfl

theorem destroyView_apply (view : Nat) (app : ApplicationRef) :
    destroyView view app = if app.appRef view then detachView view app else .ok () app := by
  simp only [destroyView, bind, EStateM.bind, get, getThe, MonadStateOf.get, EStateM.get]
  split <;> rfl

theorem ngOnDestroy_apply (listeners : List (Except AppError Unit)) (app : ApplicationRef) :
    ngOnDestroy listeners app =
      if app.destroyed then .ok () app
      else match listeners.forM id with
        | .error e => .error e { app with destroyed := true, views := [] }
        | .ok () => match app.views.forM destroyView app with
          | .ok _ app' => .ok () { app' with destroyed := true, views := [] }
          | .error e app' => .error e { app' with destroyed := true, views := [] } := by
  simp only [ngOnDestroy, bind, EStateM.bind, get, getThe, MonadStateOf.get, EStateM.get]
  split
  · rfl
  rw [tryFinally_apply]
  have : (listeners.forM liftExcept : EStateM AppError ApplicationRef Unit) =
      liftExcept (listeners.forM id) := forM_liftExcept id listeners
  simp only [this, liftExcept_apply]
  cases listeners.forM id with
  | error e => rfl
  | ok u =>
    simp only [resultOf, EStateM.bind, liftExcept_apply, EStateM.get]
    cases app.views.forM destroyView app <;> rfl

end ApplicationRef

/-! ## What a tick does

A tick's blocks leave the state alone apart from `_runningTick`, so each is described by its
outcome alone: the change detection of the `try` block, the after-render part of the
`finally` block, and the `catch` blocks that hand an error to `internalErrorHandler`. -/

namespace TickEnv

/-- The outcome of the `try` block of `tick`. -/
def changeDetection (env : TickEnv) (views : List Nat) : Except AppError Unit := do
  views.forM env.detectChanges
  if env.devMode then views.forM env.checkNoChanges

/-- The outcome of the inner `try` block in the `finally` block of `tick`. -/
def afterRender (env : TickEnv) (views : List Nat) : Except AppError Unit := do
  let callbacksExecuted ← env.execute
  if env.devMode && callbacksExecuted then views.forM env.checkNoChanges

/-- An outcome after a `catch` block has passed its error to `internalErrorHandler`. -/
def report (env : TickEnv) : Except AppError Unit → Except AppError Unit
  | .ok () => .ok ()
  | .error e => env.internalErrorHandler e

end TickEnv

/-- A `catch` block that reports to `internalErrorHandler`, around a block with outcome `r`. -/
theorem tryCatch_resultOf (env : TickEnv) {x : EStateM AppError ApplicationRef Unit}
    {app : ApplicationRef} (r : Except AppError Unit) (app' : ApplicationRef)
    (h : x app = resultOf r app') :
    tryCatch x (fun e => liftExcept (env.internalErrorHandler e)) app =
      resultOf (env.report r) app' := by
  rw [tryCatch_apply, h]
  cases r with
  | ok => rfl
  | error e => exact liftExcept_apply _ _

namespace ApplicationRef

variable (env : TickEnv) {app : ApplicationRef}

/-- A tick inside a tick throws before it writes anything. -/
theorem tick_of_runningTick (h : app.runningTick = true) :
    tick env app = .error .recursiveApplicationRefTick app := by
  simp [tick, h, bind, EStateM.bind, get, getThe, MonadStateOf.get, EStateM.get, throw,
    throwThe, MonadExceptOf.throw, EStateM.throw]

/-- **A tick, by the outcomes of its callbacks.** If the `finally` block's reporting throws,
that exception escapes with `_runningTick` still set; otherwise `_runningTick` is reset and
the reported outcome of the change detection is the tick's. -/
theorem tick_eq (h : app.runningTick = false) :
    tick env app =
      match env.report (env.afterRender app.views) with
      | .error e => .error e { app with runningTick := true }
      | .ok () => resultOf (env.report (env.changeDetection app.views))
          { app with runningTick := false } := by
  simp only [tick, bind, EStateM.bind, get, getThe, MonadStateOf.get, EStateM.get, h,
    Bool.false_eq_true, ite_false]
  rw [tryFinally_apply, tryCatch_resultOf env (env.changeDetection app.views)
    { app with runningTick := true } ?body]
  case body =>
    cases hd : env.devMode <;> cases hc : app.views.forM env.detectChanges <;>
      simp [bind, EStateM.bind, modify, modifyGet, MonadStateOf.modifyGet, EStateM.modifyGet,
        get, getThe, MonadStateOf.get, EStateM.get, forM_liftExcept, TickEnv.changeDetection, hd,
        hc, resultOf, Except.bind, pure, EStateM.pure, Except.pure]
  cases hr : env.report (env.changeDetection app.views) <;> simp only [resultOf, EStateM.bind]
  all_goals
    rw [tryCatch_resultOf env (env.afterRender app.views) { app with runningTick := true } ?fin]
    case fin =>
      cases hd : env.devMode <;> rcases hc : env.execute with _ | (_ | _) <;>
        simp [bind, EStateM.bind, get, getThe, MonadStateOf.get, EStateM.get, forM_liftExcept,
          TickEnv.afterRender, hd, hc, resultOf, Except.bind, pure, EStateM.pure, Except.pure]
    cases env.report (env.afterRender app.views) <;> rfl

/-- **An after-render error that the handler rethrows sticks.** The tick throws with
`_runningTick` still set, and from then on every tick fails as a recursive one. -/
theorem tick_rethrowing_handler_sticks {e : AppError} (h : app.runningTick = false)
    (he : env.report (env.afterRender app.views) = .error e) :
    tick env app = .error e { app with runningTick := true } ∧
      ∀ env' : TickEnv, tick env' { app with runningTick := true } =
        .error .recursiveApplicationRefTick { app with runningTick := true } := by
  refine ⟨?_, fun env' => tick_of_runningTick env' rfl⟩
  rw [tick_eq env h, he]

/-- An application with one attached view and no tick running, whose after-render effects
throw and whose error handler rethrows: its first tick throws, and its second is refused. -/
theorem tick_sticks_on_rethrown_after_render_error :
    let app : ApplicationRef :=
      { views := [0], runningTick := false, destroyed := false, appRef := fun v => v == 0,
        attachedToViewContainer := fun _ => false }
    let env : TickEnv :=
      { devMode := false, detectChanges := fun _ => .ok (), checkNoChanges := fun _ => .ok (),
        execute := .error (.thrown 0), internalErrorHandler := fun e => .error e }
    (app.runningTick = false ∧ env.report (env.afterRender app.views) = .error (.thrown 0)) ∧
      tick env app = .error (.thrown 0) { app with runningTick := true } ∧
      ∀ env' : TickEnv, tick env' { app with runningTick := true } =
        .error .recursiveApplicationRefTick { app with runningTick := true } :=
  ⟨⟨rfl, rfl⟩, tick_rethrowing_handler_sticks _ rfl rfl⟩

end ApplicationRef

end Angular.Core
