import Angular.Core.Lifecycle

/-!
# Angular.Core.Refinement

**The live loops refine the outcome model.** `ApplicationRef` gives the callbacks of `tick`
and `ngOnDestroy` by their outcomes and reads `_views` once per loop; `LiveApp` runs the
callbacks against the application and walks the live arrays as JavaScript does. The two are
one design at two levels. When the callbacks act on nothing but what the outcome model
describes (`TickEnv.callbacks`), they agree on the application's fields: the live `tick`
does what `ApplicationRef.tick` does (`tick_refines`), and the live `ngOnDestroy` does what
`ApplicationRef.ngOnDestroy` does with the listeners' outcomes (`ngOnDestroy_refines`). So
the results proved of `ApplicationRef` hold of the live model for such callbacks, and the
behaviours only the live model has (a view that detaches itself while it is checked, a
listener that unregisters itself) come from callbacks that act on the arrays.

The proofs relate the two programs block by block: `Simulates P x y` says that, from every
state where `P` holds, the live block `x` does on the application's fields what `y` does,
and keeps `P`; it composes through `bind`, `try`/`catch`, `finally` and the loops.
-/

namespace Angular.Core

/-- A result of the live application, seen on the application's fields. -/
def appResult {α : Type} : EStateM.Result AppError LiveApp α →
    EStateM.Result AppError ApplicationRef α
  | .ok a t => .ok a t.app
  | .error e t => .error e t.app

/-- The callbacks whose behaviour the outcome model describes: views are checked with the
outcomes of `env`, destroy listeners return `r`, and a view's `destroy()` detaches it from
this application when it is attached here. None of them acts on anything else. -/
def TickEnv.callbacks (env : TickEnv) (r : Nat → Except AppError Unit) : Callbacks where
  devMode := env.devMode
  execute := env.execute
  internalErrorHandler := env.internalErrorHandler
  listener l _ := ([], r l)
  destroy v t := (if t.app.appRef v then [.detachView v] else [], .ok ())
  detectChanges v _ := ([], env.detectChanges v)
  checkNoChanges v _ := ([], env.checkNoChanges v)

/-! ## Simulation of blocks -/

section Simulates

variable {α β : Type} {P Q R : LiveApp → Prop}

/-- From every state where `P` holds, `x` does on the application's fields what `y` does,
and leaves a state where `Q` holds. -/
def Simulates (P Q : LiveApp → Prop) (x : EStateM AppError LiveApp α)
    (y : EStateM AppError ApplicationRef α) : Prop :=
  ∀ t, P t → appResult (x t) = y t.app ∧ Q (stateOf (x t))

namespace Simulates

theorem pure (a : α) : Simulates P P (Pure.pure a) (Pure.pure a) := fun _ ht => ⟨rfl, ht⟩

theorem throw (e : AppError) :
    Simulates P P (throw e : EStateM AppError LiveApp α) (throw e) := fun _ ht => ⟨rfl, ht⟩

theorem liftExcept (r : Except AppError α) : Simulates P P (liftExcept r) (liftExcept r) := by
  intro _ ht
  cases r <;> exact ⟨rfl, ht⟩

/-- An update of the live state that does to the application what `f` does. -/
theorem modify {g : LiveApp → LiveApp} {f : ApplicationRef → ApplicationRef}
    (h : ∀ t, P t → (g t).app = f t.app ∧ Q (g t)) : Simulates P Q (modify g) (modify f) :=
  fun t ht => ⟨congrArg (EStateM.Result.ok ()) (h t ht).1, (h t ht).2⟩

/-- A block that reads the state simulates one that reads the application. -/
theorem get_bind {f : LiveApp → EStateM AppError LiveApp α}
    {g : ApplicationRef → EStateM AppError ApplicationRef α}
    (h : ∀ t, P t → Simulates P Q (f t) (g t.app)) : Simulates P Q (get >>= f) (get >>= g) :=
  fun t ht => h t ht t ht

/-- A block that reads the state simulates one that does not read it. -/
theorem get_bind_left {f : LiveApp → EStateM AppError LiveApp α}
    {y : EStateM AppError ApplicationRef α} (h : ∀ t, P t → Simulates P Q (f t) y) :
    Simulates P Q (get >>= f) y :=
  fun t ht => h t ht t ht

theorem ite {c : Prop} [Decidable c] {x x' : EStateM AppError LiveApp α}
    {y y' : EStateM AppError ApplicationRef α} (h : Simulates P Q x y)
    (h' : Simulates P Q x' y') : Simulates P Q (if c then x else x') (if c then y else y') := by
  split <;> assumption

theorem bind {x : EStateM AppError LiveApp α} {y : EStateM AppError ApplicationRef α}
    {f : α → EStateM AppError LiveApp β} {g : α → EStateM AppError ApplicationRef β}
    (hx : Simulates P Q x y) (hf : ∀ a, Simulates Q Q (f a) (g a)) :
    Simulates P Q (x >>= f) (y >>= g) := by
  intro t ht
  obtain ⟨he, hq⟩ := hx t ht
  show appResult (EStateM.bind x f t) = EStateM.bind y g t.app ∧ Q (stateOf (EStateM.bind x f t))
  unfold EStateM.bind
  cases hr : x t with
  | ok a u => simp only [hr, appResult] at he hq; rw [← he]; exact hf a u hq
  | error e u => simp only [hr, appResult] at he hq; rw [← he]; exact ⟨rfl, hq⟩

theorem tryCatch {x : EStateM AppError LiveApp α} {y : EStateM AppError ApplicationRef α}
    {h : AppError → EStateM AppError LiveApp α} {k : AppError → EStateM AppError ApplicationRef α}
    (hx : Simulates P Q x y) (hh : ∀ e, Simulates Q Q (h e) (k e)) :
    Simulates P Q (tryCatch x h) (tryCatch y k) := by
  intro t ht
  obtain ⟨he, hq⟩ := hx t ht
  rw [tryCatch_apply, tryCatch_apply]
  cases hr : x t with
  | ok a u => simp only [hr, appResult] at he hq; rw [← he]; exact ⟨rfl, hq⟩
  | error e u => simp only [hr, appResult] at he hq; rw [← he]; exact hh e u hq

/-- `finally`: the block runs from whatever state the body leaves, on both outcomes. -/
theorem tryFinally {x : EStateM AppError LiveApp α} {y : EStateM AppError ApplicationRef α}
    {f : EStateM AppError LiveApp β} {g : EStateM AppError ApplicationRef β}
    (hx : Simulates P Q x y) (hf : Simulates Q R f g) :
    Simulates P R (tryFinally x f) (tryFinally y g) := by
  intro t ht
  obtain ⟨he, hq⟩ := hx t ht
  rw [tryFinally_apply, tryFinally_apply]
  cases hr : x t <;> simp only [hr, appResult] at he hq <;> rw [← he] <;> dsimp only <;>
    rename_i u <;> obtain ⟨he', hr'⟩ := hf u hq <;> cases hs : f u <;>
    simp only [hs, appResult] at he' hr' <;> rw [← he'] <;> exact ⟨rfl, hr'⟩

theorem forM {γ : Type} {f : γ → EStateM AppError LiveApp PUnit}
    {g : γ → EStateM AppError ApplicationRef PUnit} :
    ∀ {l : List γ}, (∀ a ∈ l, Simulates P P (f a) (g a)) → Simulates P P (l.forM f) (l.forM g)
  | [], _ => Simulates.pure _
  | a :: l, h => by
    rw [List.forM_cons', List.forM_cons']
    exact (h a (List.mem_cons_self _ _)).bind fun _ =>
      forM fun b hb => h b (List.mem_cons_of_mem _ hb)

end Simulates

end Simulates


/-! ## The calls and the loops -/

namespace LiveApp

/-- **The live `for (let view of this._views)` with inert calls.** From the index `index` on,
with fuel for the views left, it has the outcome of the calls on those views in order. -/
theorem forOfViews_inert {call : Nat → Call}
    {behaviour : Nat → LiveApp → List Effect × Except AppError Unit}
    {r : Nat → Except AppError Unit} (hb : ∀ v t, behaviour v t = ([], r v)) :
    ∀ (fuel index : Nat) (t : LiveApp), t.app.views.length ≤ index + fuel →
      appResult (forOfViews (fun v => invoke (call v) (behaviour v)) fuel index t) =
          resultOf ((t.app.views.drop index).forM r) t.app ∧
        (stateOf (forOfViews (fun v => invoke (call v) (behaviour v)) fuel index t)).app = t.app
  | 0, index, t, h => by
    rw [List.drop_eq_nil_of_le (by omega)]
    exact ⟨rfl, rfl⟩
  | fuel + 1, index, t, h => by
    cases hv : t.app.views[index]? with
    | none =>
      rw [forOfViews_none hv, List.drop_eq_nil_of_le (List.getElem?_eq_none_iff.mp hv)]
      exact ⟨rfl, rfl⟩
    | some v =>
      obtain ⟨hi, rfl⟩ := List.getElem?_eq_some_iff.mp hv
      rw [forOfViews_some hv, List.drop_eq_getElem_cons hi, List.forM_cons']
      show appResult (EStateM.bind _ _ t) = _ ∧ (stateOf (EStateM.bind _ _ t)).app = _
      unfold EStateM.bind
      cases hr : r t.app.views[index] with
      | error e => rw [invoke_throws ((hb _ t).trans (by rw [hr]))]; exact ⟨rfl, rfl⟩
      | ok u =>
        rw [invoke_quiet ((hb _ t).trans (by rw [hr]))]
        exact forOfViews_inert hb fuel (index + 1) _
          (h.trans (by omega) : t.app.views.length ≤ index + 1 + fuel)

/-- The live loop over the views, from a state with the views `vs` and fuel for them,
simulates the outcome model's loop over `_views` as read when it starts. -/
theorem simulates_forOfViews {call : Nat → Call}
    {behaviour : Nat → LiveApp → List Effect × Except AppError Unit}
    {r : Nat → Except AppError Unit} (hb : ∀ v t, behaviour v t = ([], r v)) {vs : List Nat}
    {fuel : Nat} (hfuel : vs.length ≤ fuel) :
    Simulates (fun t => t.app.views = vs) (fun t => t.app.views = vs)
      (forOfViews (fun v => invoke (call v) (behaviour v)) fuel 0)
      (get >>= fun app => app.views.forM fun v => liftExcept (r v)) := by
  intro t ht
  obtain ⟨h₁, h₂⟩ := forOfViews_inert hb fuel 0 t (by rw [ht]; omega)
  refine ⟨h₁.trans ?_, (congrArg ApplicationRef.views h₂).trans ht⟩
  show resultOf ((t.app.views.drop 0).forM r) t.app =
    (t.app.views.forM fun v => (liftExcept (r v) : EStateM AppError ApplicationRef Unit)) t.app
  rw [List.drop_zero, forM_liftExcept, liftExcept_apply]

/-- **The live `forEach` over the destroy listeners with inert listeners.** Over `count`
indices from `index` on, covering the rest of the array, it has the outcome of the listeners
from `index` on, in order, and changes neither the application nor the listeners. -/
theorem forEachListener_inert {r : Nat → Except AppError Unit} :
    ∀ (count index : Nat) (t : LiveApp), t.destroyListeners.length ≤ index + count →
      appResult (forEachListener (fun l => invoke (.listener l) fun _ => ([], r l)) count index t) =
          resultOf (((t.destroyListeners.drop index).map r).forM id) t.app ∧
        (stateOf (forEachListener (fun l => invoke (.listener l) fun _ => ([], r l))
          count index t)).app = t.app ∧
        (stateOf (forEachListener (fun l => invoke (.listener l) fun _ => ([], r l))
          count index t)).destroyListeners = t.destroyListeners
  | 0, index, t, h => by
    rw [List.drop_eq_nil_of_le (by omega)]
    exact ⟨rfl, rfl, rfl⟩
  | count + 1, index, t, h => by
    cases hl : t.destroyListeners[index]? with
    | none =>
      rw [forEachListener_none hl, List.drop_eq_nil_of_le (List.getElem?_eq_none_iff.mp hl)]
      have := forEachListener_inert (r := r) count (index + 1) t (by omega)
      rwa [List.drop_eq_nil_of_le (by have := List.getElem?_eq_none_iff.mp hl; omega)] at this
    | some l =>
      obtain ⟨hi, rfl⟩ := List.getElem?_eq_some_iff.mp hl
      rw [forEachListener_some hl, List.drop_eq_getElem_cons hi, List.map_cons, List.forM_cons']
      show appResult (EStateM.bind _ _ t) = _ ∧ (stateOf (EStateM.bind _ _ t)).app = _ ∧ _
      unfold EStateM.bind
      cases hr : r t.destroyListeners[index] with
      | error e => rw [invoke_throws rfl]; exact ⟨rfl, rfl, rfl⟩
      | ok u =>
        rw [invoke_quiet rfl]
        exact forEachListener_inert count (index + 1) _
          (h.trans (by omega) : t.destroyListeners.length ≤ index + 1 + count)

/-- A view's `destroy()` that detaches it when it is attached here does what `destroyView`
does. -/
theorem simulates_destroy {P : LiveApp → Prop} {v : Nat}
    (hP : ∀ t (app : ApplicationRef), P t →
      P { t with app := app, calls := t.calls ++ [.destroy v] })
    (hc : ∀ t, P t → P { t with calls := t.calls ++ [.destroy v] }) :
    Simulates P P
      (invoke (.destroy v) fun t => (if t.app.appRef v then [.detachView v] else [], .ok ()))
      (ApplicationRef.destroyView v) := by
  intro t ht
  rw [ApplicationRef.destroyView_apply]
  cases ha : t.app.appRef v
  · rw [invoke_quiet (by rw [ha]; rfl)]; exact ⟨rfl, hc t ht⟩
  · rw [invoke_one (by rw [ha]; rfl), if_pos rfl]
    exact ⟨rfl, hP t _ ht⟩

end LiveApp

/-! ## The two methods -/

section

variable (env : TickEnv) (r : Nat → Except AppError Unit)

/-- The live `tick` simulates the outcome model's, block by block, on states with the views
`vs`, which neither changes. -/
theorem tick_simulates {fuel : Nat} {vs : List Nat} (hfuel : vs.length ≤ fuel) :
    Simulates (fun t => t.app.views = vs) (fun t => t.app.views = vs)
      (LiveApp.tick (env.callbacks r) fuel) (ApplicationRef.tick env) := by
  unfold LiveApp.tick ApplicationRef.tick
  refine Simulates.get_bind fun t _ => Simulates.ite (Simulates.throw _) ?_
  refine Simulates.tryFinally (Q := fun t => t.app.views = vs)
    (Simulates.tryCatch ?_ fun _ => Simulates.liftExcept _) ?_
  · -- The checks of the `try` block.
    refine Simulates.bind (Simulates.modify fun _ ht => ⟨rfl, ht⟩) fun _ => ?_
    refine (LiveApp.simulates_forOfViews (fun _ _ => rfl) hfuel).bind fun _ => ?_
    exact Simulates.ite (LiveApp.simulates_forOfViews (fun _ _ => rfl) hfuel) (Simulates.pure _)
  · -- The after-render effects and the reset of the `finally` block.
    refine (Simulates.tryCatch ((Simulates.liftExcept _).bind fun _ =>
      Simulates.ite (LiveApp.simulates_forOfViews (fun _ _ => rfl) hfuel) (Simulates.pure _))
        fun _ => Simulates.liftExcept _).bind fun _ => ?_
    exact Simulates.modify fun _ ht => ⟨rfl, ht⟩

/-- **The live `tick` refines the outcome model.** With callbacks that act on nothing, and
fuel for the attached views, the live `tick` does on the application's fields what
`ApplicationRef.tick` does with the callbacks' outcomes: the same outcome and the same
fields, whatever the views' checks, the after-render effects and the error handler return. -/
theorem tick_refines {fuel : Nat} (s : LiveApp) (hfuel : s.app.views.length ≤ fuel) :
    appResult (LiveApp.tick (env.callbacks r) fuel s) = ApplicationRef.tick env s.app :=
  (tick_simulates env r hfuel s rfl).1

/-- Two attached views in development mode, the second of whose checks throws, with a
rethrowing error handler: the live `tick` ends as the outcome model's does. -/
theorem tick_refines_throwing_check :
    let env : TickEnv :=
      { devMode := true, detectChanges := fun v => if v = 1 then .error (.thrown 1) else .ok (),
        checkNoChanges := fun _ => .ok (), execute := .ok false,
        internalErrorHandler := fun e => .error e }
    LiveApp.twoViews.app.views.length ≤ 2 ∧
      appResult (LiveApp.tick (env.callbacks fun _ => .ok ()) 2 LiveApp.twoViews) =
        ApplicationRef.tick env LiveApp.twoViews.app :=
  ⟨by decide, tick_refines _ _ LiveApp.twoViews (by decide)⟩

/-- The live `ngOnDestroy` simulates the outcome model's with the outcomes of the listeners
`ls`, from a state whose listeners are `ls`. -/
theorem ngOnDestroy_simulates (ls : List Nat) :
    Simulates (fun t => t.destroyListeners = ls) (fun _ => True)
      (LiveApp.ngOnDestroy (env.callbacks r)) (ApplicationRef.ngOnDestroy (ls.map r)) := by
  unfold LiveApp.ngOnDestroy ApplicationRef.ngOnDestroy
  refine Simulates.get_bind fun t _ =>
    Simulates.ite (fun _ _ => ⟨rfl, trivial⟩)
      (Simulates.tryFinally (Q := fun t => t.destroyListeners = ls) ?_ ?_)
  · -- The listeners, then the views read once.
    refine Simulates.get_bind_left fun t ht => Simulates.bind (fun t' ht' => ?_) fun _ => ?_
    · obtain ⟨h₁, -, h₃⟩ := LiveApp.forEachListener_inert (r := r)
        t.destroyListeners.length 0 t' (by rw [ht, ht', Nat.zero_add])
      refine ⟨h₁.trans ?_, h₃.trans ht'⟩
      rw [List.drop_zero, ht']
      exact (liftExcept_apply _ _).symm.trans (congrFun (forM_liftExcept id _) _).symm
    · exact Simulates.get_bind fun t _ => Simulates.forM fun v _ =>
        LiveApp.simulates_destroy (fun _ _ h => h) fun _ h => h
  · -- The `finally` block.
    exact Simulates.modify fun _ _ => ⟨rfl, trivial⟩

/-- **The live `ngOnDestroy` refines the outcome model.** With destroy listeners that act on
nothing and views whose `destroy()` detaches them from this application, the live
`ngOnDestroy` does on the application's fields what `ApplicationRef.ngOnDestroy` does with
the outcomes of the registered listeners. -/
theorem ngOnDestroy_refines (s : LiveApp) :
    appResult (LiveApp.ngOnDestroy (env.callbacks r) s) =
      ApplicationRef.ngOnDestroy (s.destroyListeners.map r) s.app :=
  (ngOnDestroy_simulates env r s.destroyListeners s rfl).1

end

end Angular.Core
