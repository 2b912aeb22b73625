import Angular.Core.Reentrancy

/-!
# Angular.Core.Lifecycle

The destruction protocol of `ApplicationRef` (`packages/core/src/application/application_ref.ts`):
`onDestroy` and the function it returns, `destroy()`, and `ngOnDestroy`, over whole runs of the
application's API in which the callbacks act on the application while they run
(`Angular.Core.Reentrancy`).

Design points:

* **A script of calls.** A call of the API is an `ApiCall`. An exception one call throws is the
  caller's to catch, and the script goes on with the state the call left (`ApiCall.exec`,
  `execAll`).
* **The injector by what `destroy()` reads of it**: whether it has `destroy`, and whether it
  was destroyed (`DestroyableInjector`). Destroying it runs the application's `ngOnDestroy`;
  the injector's other services are outside the model, and so is a second destruction of the
  same injector, which the injector itself prevents.
* `warnIfDestroyed` only writes to the console: after destruction `onDestroy`, `attachView` and
  `tick` go on as before.
* **Guarantees.** `Guarantees R x` says that every state `x` leaves, whether it returns or
  throws, is `R`-related to the one it started in. For a reflexive and transitive `R` this
  composes through `bind`, `try`/`catch`/`finally` and the loops, which is how the invariant
  of a destroyed application is carried through `tick`.

The main results: a destroyed application never again calls a destroy listener or destroys a
view, whatever the calls made to it and whatever its callbacks do (`destroyed_final`); once
`destroy()` has run on a destroyable injector, every later `destroy()` throws
`APPLICATION_REF_ALREADY_DESTROYED` (`destroy_throws_after_destroy`); a destroy listener that
throws, whatever the listeners before it did, leaves the attached views released but never
destroyed (`ngOnDestroy_throwing_listener_strands_views`).
-/

namespace Angular.Core

/-- The state a call leaves, whether it returns or throws. -/
def stateOf {ε σ α : Type} : EStateM.Result ε σ α → σ
  | .ok _ s => s
  | .error _ s => s

/-! ## Guarantees of programs -/

section Guarantees

variable {ε ε' σ α β : Type} {R : σ → σ → Prop}

/-- `x` guarantees `R`: the state it leaves, whether it returns or throws, is `R`-related to the
one it starts in. -/
def Guarantees (R : σ → σ → Prop) (x : EStateM ε σ α) : Prop :=
  ∀ s, R s (stateOf (x s))

namespace Guarantees

theorem pure (refl : ∀ s, R s s) (a : α) : Guarantees R (Pure.pure a : EStateM ε σ α) := refl

theorem throw (refl : ∀ s, R s s) (e : ε) : Guarantees R (throw e : EStateM ε σ α) := refl

theorem get (refl : ∀ s, R s s) : Guarantees R (get : EStateM ε σ σ) := refl

theorem modify {f : σ → σ} (h : ∀ s, R s (f s)) : Guarantees R (modify f : EStateM ε σ PUnit) :=
  h

theorem liftExcept (refl : ∀ s, R s s) (r : Except ε α) :
    Guarantees R (liftExcept r : EStateM ε σ α) := by
  intro s
  cases r <;> exact refl s

theorem bind (trans : ∀ ⦃a b c⦄, R a b → R b c → R a c) {x : EStateM ε σ α}
    {f : α → EStateM ε σ β} (hx : Guarantees R x) (hf : ∀ a, Guarantees R (f a)) :
    Guarantees R (x >>= f) := by
  intro s
  have hs := hx s
  show R s (stateOf (EStateM.bind x f s))
  unfold EStateM.bind
  cases hr : x s with
  | ok a t => rw [hr] at hs; exact trans hs (hf a t)
  | error e t => rw [hr] at hs; exact hs

theorem tryCatch (trans : ∀ ⦃a b c⦄, R a b → R b c → R a c) {x : EStateM AppError σ α}
    {h : AppError → EStateM AppError σ α} (hx : Guarantees R x) (hh : ∀ e, Guarantees R (h e)) :
    Guarantees R (tryCatch x h) := by
  intro s
  have hs := hx s
  rw [tryCatch_apply]
  cases hr : x s with
  | ok a t => rw [hr] at hs; exact hs
  | error e t => rw [hr] at hs; exact trans hs (hh e t)

theorem tryFinally (trans : ∀ ⦃a b c⦄, R a b → R b c → R a c) {x : EStateM AppError σ α}
    {y : EStateM AppError σ β} (hx : Guarantees R x) (hy : Guarantees R y) :
    Guarantees R (tryFinally x y) := by
  intro s
  have hs := hx s
  rw [tryFinally_apply]
  cases hr : x s <;> rw [hr] at hs <;> dsimp only <;> rename_i t <;>
    have ht := trans hs (hy t) <;> cases hq : y t <;> rw [hq] at ht <;> exact ht

theorem adaptExcept {x : EStateM ε σ α} (f : ε → ε') (hx : Guarantees R x) :
    Guarantees R (EStateM.adaptExcept f x) := by
  intro s
  have hs := hx s
  show R s (stateOf (EStateM.adaptExcept f x s))
  unfold EStateM.adaptExcept
  cases hr : x s <;> rw [hr] at hs <;> exact hs

theorem forM (refl : ∀ s, R s s) (trans : ∀ ⦃a b c⦄, R a b → R b c → R a c) {γ : Type}
    {f : γ → EStateM ε σ PUnit} : ∀ {l : List γ}, (∀ a ∈ l, Guarantees R (f a)) →
      Guarantees R (l.forM f)
  | [], _ => refl
  | a :: l, h => by
    rw [List.forM_cons']
    exact Guarantees.bind trans (h a (List.mem_cons_self _ _))
      fun _ => forM refl trans fun b hb => h b (List.mem_cons_of_mem _ hb)

end Guarantees

end Guarantees

/-! ## The loops and calls of the application -/

namespace Guarantees

section

variable {R : LiveApp → LiveApp → Prop} (refl : ∀ s, R s s)
  (trans : ∀ ⦃a b c⦄, R a b → R b c → R a c)
include refl trans

theorem forOfViews {f : Nat → EStateM AppError LiveApp Unit} (hf : ∀ v, Guarantees R (f v)) :
    ∀ fuel index, Guarantees R (LiveApp.forOfViews f fuel index)
  | 0, _ => refl
  | fuel + 1, index => by
    rw [LiveApp.forOfViews]
    refine Guarantees.bind trans (Guarantees.get refl) fun s => ?_
    split
    · exact Guarantees.pure refl ()
    · exact Guarantees.bind trans (hf _) fun _ => forOfViews hf fuel (index + 1)

theorem forEachListener {f : Nat → EStateM AppError LiveApp Unit}
    (hf : ∀ l, Guarantees R (f l)) :
    ∀ count index, Guarantees R (LiveApp.forEachListener f count index)
  | 0, _ => refl
  | count + 1, index => by
    rw [LiveApp.forEachListener]
    refine Guarantees.bind trans (Guarantees.get refl) fun s => ?_
    split
    · exact forEachListener hf count (index + 1)
    · exact Guarantees.bind trans (hf _) fun _ => forEachListener hf count (index + 1)

/-- A call to a callback guarantees `R` when recording it and every effect do. -/
theorem invoke {call : Call} {behaviour : LiveApp → List Effect × Except AppError Unit}
    (hc : ∀ s, R s { s with calls := s.calls ++ [call] }) (he : ∀ e, Guarantees R (LiveApp.run e)) :
    Guarantees R (LiveApp.invoke call behaviour) := by
  rw [LiveApp.invoke]
  refine Guarantees.bind trans (Guarantees.get refl) fun s => ?_
  rcases behaviour s with ⟨effects, outcome⟩
  exact Guarantees.bind trans (Guarantees.modify hc) fun _ =>
    Guarantees.bind trans (Guarantees.forM refl trans fun e _ => he e) fun _ =>
      Guarantees.liftExcept refl outcome

end

end Guarantees

/-! ## The destruction protocol -/

/-- What `destroy()` throws: its own error, and what `ngOnDestroy` throws. -/
inductive LifecycleError where
  /-- `RuntimeErrorCode.APPLICATION_REF_ALREADY_DESTROYED`. -/
  | applicationRefAlreadyDestroyed
  /-- An error of a method of the application or of a callback. -/
  | app (e : AppError)
  deriving DecidableEq, Repr

/-- The environment injector, as `destroy()` reads it. -/
structure DestroyableInjector where
  /-- `injector.destroy` is defined. -/
  hasDestroy : Bool
  /-- `injector.destroyed`. -/
  destroyed : Bool
  deriving DecidableEq, Repr

namespace LiveApp

/-- `onDestroy(callback)`: register the callback; the function returned is the effect that
unregisters it. -/
def onDestroy (callback : Nat) : EStateM AppError LiveApp Effect := do
  modify fun s => { s with destroyListeners := s.destroyListeners ++ [callback] }
  pure (.unregister callback)

/-- `destroy()`: throws on a destroyed application; otherwise destroys the environment injector
if it supports it and is not yet destroyed, which runs `ngOnDestroy`. -/
def destroy (cb : Callbacks) (injector : DestroyableInjector) :
    EStateM LifecycleError LiveApp Unit := do
  if (← get).app.destroyed then
    throw .applicationRefAlreadyDestroyed
  -- Check that this injector instance supports destroy operation.
  if injector.hasDestroy && !injector.destroyed then
    -- Destroying an underlying injector will trigger the `ngOnDestroy` lifecycle hook, which
    -- invokes the remaining cleanup actions.
    EStateM.adaptExcept .app (ngOnDestroy cb)

end LiveApp

/-- A call that a script makes to the application. -/
inductive ApiCall where
  /-- `onDestroy(listener)`. -/
  | onDestroy (listener : Nat)
  /-- A call of the function that `onDestroy(listener)` returned. -/
  | unregister (listener : Nat)
  /-- `attachView(view)`. -/
  | attachView (view : Nat)
  /-- `detachView(view)`. -/
  | detachView (view : Nat)
  /-- `tick()`, whose loops take at most `fuel` steps. -/
  | tick (fuel : Nat)
  /-- `destroy()`. -/
  | destroy (injector : DestroyableInjector)
  /-- The environment injector destroyed by another owner, which calls `ngOnDestroy()`. -/
  | ngOnDestroy
  deriving DecidableEq, Repr

namespace ApiCall

/-- A call, with the callbacks' behaviour `cb`. -/
def run (cb : Callbacks) : ApiCall → EStateM LifecycleError LiveApp Unit
  | .onDestroy listener => EStateM.adaptExcept .app (discard (LiveApp.onDestroy listener))
  | .unregister listener => EStateM.adaptExcept .app (LiveApp.run (.unregister listener))
  | .attachView view => EStateM.adaptExcept .app (LiveApp.run (.attachView view))
  | .detachView view => EStateM.adaptExcept .app (LiveApp.run (.detachView view))
  | .tick fuel => EStateM.adaptExcept .app (LiveApp.tick cb fuel)
  | .destroy injector => LiveApp.destroy cb injector
  | .ngOnDestroy => EStateM.adaptExcept .app (LiveApp.ngOnDestroy cb)

/-- The state a call leaves: the script goes on after a call that throws. -/
def exec (cb : Callbacks) (call : ApiCall) (s : LiveApp) : LiveApp :=
  stateOf (call.run cb s)

end ApiCall

/-- The state after a script of calls. -/
def execAll (cb : Callbacks) (calls : List ApiCall) (s : LiveApp) : LiveApp :=
  calls.foldl (fun s call => call.exec cb s) s

/-! ## A destroyed application -/

/-- A change detection call, of `detectChanges` or `checkNoChanges`. -/
def Call.isCheck : Call → Bool
  | .detectChanges _ | .checkNoChanges _ => true
  | .listener _ | .destroy _ => false

namespace LiveApp

/-- From a destroyed application: `t` is destroyed too, and every call made on the way is a
change detection call. -/
def StaysDestroyed (s t : LiveApp) : Prop :=
  s.app.destroyed = true →
    t.app.destroyed = true ∧ ∃ new, t.calls = s.calls ++ new ∧ ∀ c ∈ new, c.isCheck

namespace StaysDestroyed

theorem refl (s : LiveApp) : StaysDestroyed s s :=
  fun h => ⟨h, [], (List.append_nil _).symm, fun _ h => nomatch h⟩

theorem trans ⦃s t u : LiveApp⦄ (h₁ : StaysDestroyed s t) (h₂ : StaysDestroyed t u) :
    StaysDestroyed s u := by
  intro hs
  obtain ⟨ht, n₁, c₁, k₁⟩ := h₁ hs
  obtain ⟨hu, n₂, c₂, k₂⟩ := h₂ ht
  exact ⟨hu, n₁ ++ n₂, by rw [c₂, c₁, List.append_assoc],
    fun c hc => (List.mem_append.mp hc).elim (k₁ c) (k₂ c)⟩

/-- A step that leaves `destroyed` and the calls alone. -/
theorem of_eq {s t : LiveApp} (hd : t.app.destroyed = s.app.destroyed) (hc : t.calls = s.calls) :
    StaysDestroyed s t :=
  fun h => ⟨hd.trans h, [], by rw [hc, List.append_nil], fun _ h => nomatch h⟩

end StaysDestroyed

theorem run_staysDestroyed : ∀ e, Guarantees StaysDestroyed (run e)
  | .unregister _ => Guarantees.modify fun _ => .of_eq rfl rfl
  | .detachView _ => fun _ => .of_eq rfl rfl
  | .attachView view => fun s => by
    show StaysDestroyed s (stateOf (onApp (ApplicationRef.attachView view) s))
    unfold onApp
    rw [ApplicationRef.attachView_apply]
    split_ifs <;> exact .of_eq rfl rfl

/-- A loop of change detection calls. -/
theorem forOfChecks_staysDestroyed (call : Nat → Call) (hc : ∀ v, (call v).isCheck)
    (behaviour : Nat → LiveApp → List Effect × Except AppError Unit) (fuel : Nat) :
    Guarantees StaysDestroyed (forOfViews (fun v => invoke (call v) (behaviour v)) fuel 0) :=
  Guarantees.forOfViews StaysDestroyed.refl StaysDestroyed.trans
    (fun v => Guarantees.invoke StaysDestroyed.refl StaysDestroyed.trans
      (fun _ h => ⟨h, [call v], rfl, by simpa using hc v⟩) run_staysDestroyed) fuel 0

theorem tick_staysDestroyed (cb : Callbacks) (fuel : Nat) :
    Guarantees StaysDestroyed (tick cb fuel) := by
  have hc := forOfChecks_staysDestroyed Call.checkNoChanges (fun _ => rfl) cb.checkNoChanges fuel
  rw [tick]
  refine Guarantees.bind StaysDestroyed.trans (Guarantees.get StaysDestroyed.refl) fun s => ?_
  split
  · exact Guarantees.throw StaysDestroyed.refl _
  refine Guarantees.tryFinally StaysDestroyed.trans (Guarantees.tryCatch StaysDestroyed.trans ?_
    fun _ => Guarantees.liftExcept StaysDestroyed.refl _) (Guarantees.bind StaysDestroyed.trans
      (Guarantees.tryCatch StaysDestroyed.trans ?_
        fun _ => Guarantees.liftExcept StaysDestroyed.refl _)
      fun _ => Guarantees.modify fun _ => .of_eq rfl rfl)
  · refine Guarantees.bind StaysDestroyed.trans (Guarantees.modify fun _ => .of_eq rfl rfl)
      fun _ => Guarantees.bind StaysDestroyed.trans
        (forOfChecks_staysDestroyed Call.detectChanges (fun _ => rfl) cb.detectChanges fuel) fun _ => ?_
    split
    · exact hc
    · exact Guarantees.pure StaysDestroyed.refl ()
  · refine Guarantees.bind StaysDestroyed.trans (Guarantees.liftExcept StaysDestroyed.refl _)
      fun _ => ?_
    split
    · exact hc
    · exact Guarantees.pure StaysDestroyed.refl ()

theorem ngOnDestroy_staysDestroyed (cb : Callbacks) :
    Guarantees StaysDestroyed (ngOnDestroy cb) := fun s hs => by
  rw [ngOnDestroy_of_destroyed cb hs]
  exact StaysDestroyed.refl s hs

end LiveApp

namespace LiveApp

theorem destroy_apply (cb : Callbacks) (injector : DestroyableInjector) (s : LiveApp) :
    destroy cb injector s =
      if s.app.destroyed then .error .applicationRefAlreadyDestroyed s
      else if injector.hasDestroy && !injector.destroyed then
        EStateM.adaptExcept .app (ngOnDestroy cb) s
      else .ok () s := by
  simp only [destroy, bind, EStateM.bind, get, getThe, MonadStateOf.get, EStateM.get]
  split_ifs <;> rfl

/-- Whatever its listeners and views do, `ngOnDestroy` leaves the application destroyed. -/
theorem ngOnDestroy_destroyed (cb : Callbacks) (s : LiveApp) :
    (stateOf (ngOnDestroy cb s)).app.destroyed = true := by
  cases hd : s.app.destroyed
  · simp only [ngOnDestroy, bind, EStateM.bind, get, getThe, MonadStateOf.get, EStateM.get, hd,
      Bool.false_eq_true, ite_false]
    rw [tryFinally_apply]
    split <;> rfl
  · rw [ngOnDestroy_of_destroyed cb hd]
    exact hd

end LiveApp

namespace ApiCall

theorem run_staysDestroyed (cb : Callbacks) :
    ∀ call : ApiCall, Guarantees LiveApp.StaysDestroyed (call.run cb)
  | .onDestroy _ | .unregister _ | .detachView _ => fun _ => .of_eq rfl rfl
  | .attachView view =>
    Guarantees.adaptExcept LifecycleError.app (LiveApp.run_staysDestroyed (.attachView view))
  | .tick fuel => Guarantees.adaptExcept LifecycleError.app (LiveApp.tick_staysDestroyed cb fuel)
  | .destroy injector => fun s hs => by
    rw [show run cb (.destroy injector) s = LiveApp.destroy cb injector s from rfl,
      LiveApp.destroy_apply, if_pos hs]
    exact LiveApp.StaysDestroyed.refl s hs
  | .ngOnDestroy =>
    Guarantees.adaptExcept LifecycleError.app (LiveApp.ngOnDestroy_staysDestroyed cb)

end ApiCall

theorem execAll_staysDestroyed (cb : Callbacks) :
    ∀ (calls : List ApiCall) (s : LiveApp), LiveApp.StaysDestroyed s (execAll cb calls s)
  | [], s => LiveApp.StaysDestroyed.refl s
  | call :: calls, s =>
    LiveApp.StaysDestroyed.trans (call.run_staysDestroyed cb s) (execAll_staysDestroyed cb calls _)

/-- **Destruction is final.** Once the application is destroyed, whatever a script calls and
whatever the callbacks do, it stays destroyed, and the only callbacks it calls are the change
detection of its views: never a destroy listener, not even one registered after the
destruction, and never a view's `destroy()`. -/
theorem destroyed_final (cb : Callbacks) (calls : List ApiCall) {s : LiveApp}
    (h : s.app.destroyed = true) :
    (execAll cb calls s).app.destroyed = true ∧
      ∃ new, (execAll cb calls s).calls = s.calls ++ new ∧ ∀ c ∈ new, c.isCheck :=
  execAll_staysDestroyed cb calls s h

/-- **A second `destroy()` throws.** Once `destroy()` has been called with an injector that can
be destroyed, every later `destroy()` throws `APPLICATION_REF_ALREADY_DESTROYED` and changes
nothing, whatever was called in between and whether the first call threw. -/
theorem destroy_throws_after_destroy (cb : Callbacks) {injector : DestroyableInjector}
    (hi : injector.hasDestroy = true) (hn : injector.destroyed = false)
    (injector' : DestroyableInjector) (calls : List ApiCall) (s : LiveApp) :
    (ApiCall.destroy injector').run cb (execAll cb (.destroy injector :: calls) s) =
      .error .applicationRefAlreadyDestroyed (execAll cb (.destroy injector :: calls) s) := by
  have h₁ : ((ApiCall.destroy injector).exec cb s).app.destroyed = true := by
    show (stateOf (LiveApp.destroy cb injector s)).app.destroyed = true
    rw [LiveApp.destroy_apply]
    split_ifs with hd
    · exact hd
    · show (stateOf (EStateM.adaptExcept _ (LiveApp.ngOnDestroy cb) s)).app.destroyed = true
      have := LiveApp.ngOnDestroy_destroyed cb s
      unfold EStateM.adaptExcept
      cases hr : LiveApp.ngOnDestroy cb s <;> rw [hr] at this <;> exact this
    · simp [hi, hn] at *
  exact (LiveApp.destroy_apply cb injector' _).trans
    (if_pos (execAll_staysDestroyed cb calls _ h₁).1)

/-! ## Listeners -/

namespace LiveApp

theorem invoke_throws {call : Call} {behaviour : LiveApp → List Effect × Except AppError Unit}
    {s : LiveApp} {e : AppError} (h : behaviour s = ([], .error e)) :
    invoke call behaviour s = .error e { s with calls := s.calls ++ [call] } := by
  simp only [invoke, h, bind, EStateM.bind, get, getThe, MonadStateOf.get, EStateM.get, modify,
    modifyGet, MonadStateOf.modifyGet, EStateM.modifyGet, List.forM_nil']
  rfl

/-- An `ngOnDestroy` whose listener loop throws: the views are not destroyed, and the `finally`
block releases the arrays. -/
theorem ngOnDestroy_of_listener_error {cb : Callbacks} {s t : LiveApp} {e : AppError}
    (h : s.app.destroyed = false)
    (hl : forEachListener (fun l => invoke (.listener l) (cb.listener l))
      s.destroyListeners.length 0 s = .error e t) :
    ngOnDestroy cb s = .error e { t with app := { t.app with destroyed := true, views := [] },
                                         bootstrapListeners := [], destroyListeners := [] } := by
  simp only [ngOnDestroy, bind, EStateM.bind, get, getThe, MonadStateOf.get, EStateM.get, h,
    Bool.false_eq_true, ite_false]
  rw [tryFinally_apply]
  simp only [EStateM.bind, get, getThe, MonadStateOf.get, EStateM.get, hl]
  rfl

/-- **The destroy loops, when nothing acts on the arrays.** With destroy listeners that return
and change nothing, and views whose `destroy()` returns and attaches no view, `ngOnDestroy`
calls every destroy listener once, in the order of registration, then `destroy()` on every
view attached when it started, once each and in order, and ends destroyed with its arrays
released. -/
theorem ngOnDestroy_calls_listeners_then_views (cb : Callbacks) (s : LiveApp)
    (hd : s.app.destroyed = false)
    (hquiet : ∀ k ∈ s.destroyListeners, ∀ t, cb.listener k t = ([], .ok ()))
    (hdestroy : ∀ v t, (cb.destroy v t).2 = .ok () ∧
      ∀ e ∈ (cb.destroy v t).1, ∀ u, e ≠ .attachView u) :
    ∃ t, ngOnDestroy cb s = .ok () t ∧ t.app.destroyed = true ∧ t.app.views = [] ∧
      t.destroyListeners = [] ∧ t.bootstrapListeners = [] ∧
      t.calls = s.calls ++ s.destroyListeners.map Call.listener ++ s.app.views.map Call.destroy := by
  have e₁ := forEachListener_quiet_take Call.listener cb.listener s.destroyListeners.length 0 0 s
    (by simp) (by simpa using hquiet)
  rw [Nat.add_zero, Nat.zero_add, List.drop_zero, List.take_length] at e₁
  obtain ⟨u, hu, hcalls⟩ := forM_invoke_ok Call.destroy cb.destroy hdestroy _ _
  exact ⟨_, ngOnDestroy_of_loops hd (e₁.trans rfl) hu, rfl, rfl, rfl, rfl, by simp [hcalls]⟩

/-- `t` extends the calls of `s` with calls of destroy listeners only. -/
def ListenerCalls (s t : LiveApp) : Prop :=
  ∃ new, t.calls = s.calls ++ new ∧ ∀ c ∈ new, ∃ k, c = .listener k

namespace ListenerCalls

theorem refl (s : LiveApp) : ListenerCalls s s :=
  ⟨[], (List.append_nil _).symm, fun _ h => nomatch h⟩

theorem trans ⦃s t u : LiveApp⦄ (h₁ : ListenerCalls s t) (h₂ : ListenerCalls t u) :
    ListenerCalls s u := by
  obtain ⟨n₁, c₁, k₁⟩ := h₁
  obtain ⟨n₂, c₂, k₂⟩ := h₂
  exact ⟨n₁ ++ n₂, by rw [c₂, c₁, List.append_assoc],
    fun c hc => (List.mem_append.mp hc).elim (k₁ c) (k₂ c)⟩

/-- A step that leaves the calls alone. -/
theorem of_calls {s t : LiveApp} (hc : t.calls = s.calls) : ListenerCalls s t :=
  ⟨[], by rw [hc, List.append_nil], fun _ h => nomatch h⟩

end ListenerCalls

/-- A method of the application makes no call. -/
theorem onApp_calls (x : EStateM AppError ApplicationRef Unit) (s : LiveApp) :
    (stateOf (onApp x s)).calls = s.calls := by
  unfold onApp; split <;> rfl

/-- An effect calls nothing. -/
theorem run_listenerCalls : ∀ e, Guarantees ListenerCalls (run e)
  | .unregister _ => Guarantees.modify fun _ => .of_calls rfl
  | .detachView view => fun s => .of_calls (onApp_calls (ApplicationRef.detachView view) s)
  | .attachView view => fun s => .of_calls (onApp_calls (ApplicationRef.attachView view) s)

/-- From a destroyed state reached from `s` by listener calls only, no call ever destroys a
view. -/
theorem no_destroy_call_after {cb : Callbacks} {s t : LiveApp} (htd : t.app.destroyed = true)
    (hc : ListenerCalls s t) :
    ∀ calls, ∀ c ∈ (execAll cb calls t).calls.drop s.calls.length, ∀ v, c ≠ .destroy v := by
  intro calls c hmem v
  obtain ⟨new, hnew, hlisteners⟩ := hc
  obtain ⟨-, new', hnew', hchecks⟩ := execAll_staysDestroyed cb calls t htd
  simp only [hnew', hnew, List.append_assoc, List.drop_left, List.mem_append] at hmem
  rintro rfl
  rcases hmem with hmem | hmem
  · obtain ⟨k, hk⟩ := hlisteners _ hmem
    exact nomatch hk
  · exact Bool.false_ne_true (hchecks _ hmem)

/-- **A throwing destroy listener strands the views.** When the listener loop of
`ngOnDestroy` throws, whatever the listeners before the throwing one did (unregister
listeners, attach or detach views), `ngOnDestroy` throws the same error with no call made
after it: no later listener and no view's `destroy()`. The `finally` block leaves the
application destroyed with its views and listener arrays released, and no call made later
ever destroys a view. -/
theorem ngOnDestroy_throwing_listener_strands_views (cb : Callbacks) (s : LiveApp)
    {e : AppError} {t₀ : LiveApp} (hd : s.app.destroyed = false)
    (hl : forEachListener (fun l => invoke (.listener l) (cb.listener l))
      s.destroyListeners.length 0 s = .error e t₀) :
    ∃ t, ngOnDestroy cb s = .error e t ∧ t.app.destroyed = true ∧ t.app.views = [] ∧
      t.destroyListeners = [] ∧ t.bootstrapListeners = [] ∧ t.calls = t₀.calls ∧
      ∀ calls, ∀ c ∈ (execAll cb calls t).calls.drop s.calls.length, ∀ v, c ≠ .destroy v := by
  -- The listener loop calls listeners only.
  have hlc := Guarantees.forEachListener ListenerCalls.refl ListenerCalls.trans
    (f := fun l => invoke (.listener l) (cb.listener l)) (fun l => Guarantees.invoke
      ListenerCalls.refl ListenerCalls.trans (fun _ => ⟨[.listener l], rfl, by simp⟩)
      run_listenerCalls) s.destroyListeners.length 0 s
  rw [hl] at hlc
  exact ⟨_, ngOnDestroy_of_listener_error hd hl, rfl, rfl, rfl, rfl, rfl,
    no_destroy_call_after rfl hlc⟩

end LiveApp

/-! ## Examples -/

namespace LiveApp

/-- The application `twoViews`, destroyed. -/
def destroyedTwoViews : LiveApp :=
  { twoViews with app := { twoViews.app with destroyed := true } }

/-- A script that registers a listener, destroys the application twice, and ticks. -/
def destroyScript : List ApiCall :=
  [.onDestroy 2, .ngOnDestroy, .destroy ⟨true, false⟩, .tick 2]

theorem destroyed_final_destroyScript :
    destroyedTwoViews.app.destroyed = true ∧
      (execAll selfRemoving destroyScript destroyedTwoViews).app.destroyed = true ∧
        ∃ new, (execAll selfRemoving destroyScript destroyedTwoViews).calls =
          destroyedTwoViews.calls ++ new ∧ ∀ c ∈ new, c.isCheck :=
  ⟨rfl, destroyed_final selfRemoving destroyScript rfl⟩

theorem destroy_throws_after_destroy_twoViews :
    ((⟨true, false⟩ : DestroyableInjector).hasDestroy = true ∧
      (⟨true, false⟩ : DestroyableInjector).destroyed = false) ∧
    (ApiCall.destroy ⟨true, true⟩).run selfRemoving
        (execAll selfRemoving (.destroy ⟨true, false⟩ :: [.onDestroy 2, .tick 2]) twoViews) =
      .error .applicationRefAlreadyDestroyed
        (execAll selfRemoving (.destroy ⟨true, false⟩ :: [.onDestroy 2, .tick 2]) twoViews) :=
  ⟨⟨rfl, rfl⟩, destroy_throws_after_destroy selfRemoving rfl rfl ⟨true, true⟩ _ twoViews⟩

/-- Listeners that return and do nothing; a view's `destroy()` detaches it. -/
def quietListeners : Callbacks :=
  { selfRemoving with listener := fun _ _ => ([], .ok ()) }

theorem ngOnDestroy_calls_listeners_then_views_two :
    twoViews.app.destroyed = false ∧
    ∃ t, ngOnDestroy quietListeners twoViews = .ok () t ∧ t.app.destroyed = true ∧
      t.app.views = [] ∧ t.destroyListeners = [] ∧ t.bootstrapListeners = [] ∧
      t.calls = twoViews.calls ++ twoViews.destroyListeners.map Call.listener ++
        twoViews.app.views.map Call.destroy :=
  ⟨rfl, ngOnDestroy_calls_listeners_then_views quietListeners twoViews rfl (fun _ _ _ => rfl)
    fun _ _ => ⟨rfl, by simp [quietListeners, selfRemoving]⟩⟩

/-- Listener `0` detaches view `0` and returns; listener `1` throws. -/
def detachThenThrow : Callbacks :=
  { selfRemoving with
    listener := fun l _ => if l = 0 then ([.detachView 0], .ok ()) else ([], .error (.thrown 1)) }

theorem ngOnDestroy_throwing_listener_strands_views_two :
    ∃ t₀, (twoViews.app.destroyed = false ∧
      forEachListener (fun l => invoke (.listener l) (detachThenThrow.listener l))
        twoViews.destroyListeners.length 0 twoViews = .error (.thrown 1) t₀) ∧
    ∃ t, ngOnDestroy detachThenThrow twoViews = .error (.thrown 1) t ∧
      t.app.destroyed = true ∧ t.app.views = [] ∧ t.destroyListeners = [] ∧
      t.bootstrapListeners = [] ∧ t.calls = t₀.calls ∧
      ∀ calls, ∀ c ∈ (execAll detachThenThrow calls t).calls.drop twoViews.calls.length,
        ∀ v, c ≠ .destroy v :=
  ⟨_, ⟨rfl, rfl⟩, ngOnDestroy_throwing_listener_strands_views detachThenThrow twoViews rfl rfl⟩

end LiveApp

end Angular.Core
