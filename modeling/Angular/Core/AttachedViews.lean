import Angular.Core.ApplicationRef
import Mathlib.Data.List.Nodup

/-!
# Angular.Core.AttachedViews

`_views` against the views' back-references, over whole runs of calls on an
`ApplicationRef`.

`ViewsAgree` is the representation invariant one expects: `_views` has no duplicates and
holds a view exactly when the view's back-reference points to this application. The calls
do not keep it in general. `attachView` pushes the view before `attachToAppRef` can throw,
so attaching a view that sits in a `ViewContainer` leaves a view in `_views` that does not
point here (`views_disagree_after_failed_attach`); attaching a view twice duplicates it; and
`ngOnDestroy` empties `_views` in its `finally` block even when a destroy listener threw
before the views were destroyed.

`viewsAgree_of_reachable` is what does hold: over runs in which `attachView` is only given a
view that is neither in a `ViewContainer` nor already attached here, and in which the destroy
listeners return, every reachable state satisfies `ViewsAgree`. It is assembled from one
lemma per call.
-/

namespace Angular.Core

namespace ApplicationRef

/-- The state after a call, whether it returned or threw. -/
def after (x : EStateM AppError ApplicationRef Unit) (app : ApplicationRef) : ApplicationRef :=
  match x app with
  | .ok _ app => app
  | .error _ app => app

/-- `_views` has no duplicates and holds exactly the views whose back-reference points to
this application. -/
structure ViewsAgree (app : ApplicationRef) : Prop where
  nodup : app.views.Nodup
  mem_iff : ∀ v, v ∈ app.views ↔ app.appRef v = true

/-- A fresh application: no view attached, no tick running, and no view pointing here. -/
structure Initial (app : ApplicationRef) : Prop where
  views : app.views = []
  runningTick : app.runningTick = false
  destroyed : app.destroyed = false
  appRef : ∀ v, app.appRef v = false

end ApplicationRef

open ApplicationRef

/-- One call on the application. -/
inductive AppCall where
  | attachView (view : Nat)
  | detachView (view : Nat)
  /-- A view is destroyed by its owner. -/
  | destroyView (view : Nat)
  | tick (env : TickEnv)
  /-- `ngOnDestroy`, with the outcomes of the destroy listeners. -/
  | ngOnDestroy (listeners : List (Except AppError Unit))

/-- The method a call runs. -/
def AppCall.run : AppCall → EStateM AppError ApplicationRef Unit
  | .attachView view => ApplicationRef.attachView view
  | .detachView view => ApplicationRef.detachView view
  | .destroyView view => ApplicationRef.destroyView view
  | .tick env => ApplicationRef.tick env
  | .ngOnDestroy listeners => ApplicationRef.ngOnDestroy listeners

/-- The states reachable from a fresh application by calls that `allowed` admits. -/
inductive AppReachable (allowed : ApplicationRef → AppCall → Prop) : ApplicationRef → Prop where
  | init {app : ApplicationRef} : app.Initial → AppReachable allowed app
  | step {app : ApplicationRef} {call : AppCall} :
      AppReachable allowed app → allowed app call → AppReachable allowed (after call.run app)

/-- The calls of the restricted runs: `attachView` only of a view that is not in a
`ViewContainer` and not attached here, `ngOnDestroy` only with listeners that return. -/
def AppCall.Admissible (app : ApplicationRef) : AppCall → Prop
  | .attachView view => app.attachedToViewContainer view = false ∧ app.appRef view = false
  | .ngOnDestroy listeners => ∀ l ∈ listeners, l = .ok ()
  | _ => True

/-! ## One call at a time -/

namespace ApplicationRef

variable {app : ApplicationRef}

/-- A tick only writes `_runningTick`. -/
theorem after_tick (env : TickEnv) (app : ApplicationRef) :
    ∃ b, after (tick env) app = { app with runningTick := b } := by
  cases hr : app.runningTick
  · rw [after, tick_eq env hr]
    cases env.report (env.afterRender app.views) <;> dsimp only
    · exact ⟨_, rfl⟩
    · cases env.report (env.changeDetection app.views) <;> exact ⟨_, rfl⟩
  · exact ⟨true, by rw [after, tick_of_runningTick env hr]; cases app; cases hr; rfl⟩

theorem ViewsAgree.attach (h : app.ViewsAgree) {view : Nat} (ha : app.appRef view = false) :
    ({ app with
        views := app.views ++ [view]
        appRef := Function.update app.appRef view true } : ApplicationRef).ViewsAgree where
  nodup := h.nodup.append (List.nodup_singleton view) fun w hw hv => by
    rw [List.mem_singleton.mp hv, h.mem_iff, ha] at hw
    exact Bool.false_ne_true hw
  mem_iff w := by
    by_cases hw : w = view
    · subst hw; simp
    · simp [hw, h.mem_iff w]

theorem ViewsAgree.detach (h : app.ViewsAgree) (view : Nat) :
    ({ app with
        views := remove app.views view
        appRef := Function.update app.appRef view false } : ApplicationRef).ViewsAgree where
  nodup := h.nodup.erase view
  mem_iff w := by
    by_cases hw : w = view
    · subst hw; simp [remove, h.nodup.not_mem_erase]
    · simp [remove, hw, List.mem_erase_of_ne hw, h.mem_iff w]

/-- Destroying a view keeps the invariant, clears the view's back-reference, and sets no
other. -/
theorem ViewsAgree.destroy (h : app.ViewsAgree) (view : Nat) :
    ∃ app', ApplicationRef.destroyView view app = .ok () app' ∧ app'.ViewsAgree ∧ app'.appRef view = false ∧
      (∀ w, app'.appRef w = true → app.appRef w = true) ∧ app'.destroyed = app.destroyed := by
  rw [destroyView_apply]
  split
  · rw [detachView_apply]
    refine ⟨_, rfl, h.detach view, by simp, fun w hw => ?_, rfl⟩
    by_cases hv : w = view
    · subst hv; simp at hw
    · simpa [hv] using hw
  · next hv => exact ⟨app, rfl, h, by simpa using hv, fun _ hw => hw, rfl⟩

/-- Destroying the views of a list, one after the other. -/
theorem ViewsAgree.destroyAll :
    ∀ (l : List Nat) {app : ApplicationRef}, app.ViewsAgree →
      ∃ app', l.forM ApplicationRef.destroyView app = .ok () app' ∧ app'.ViewsAgree ∧
        ∀ w, app'.appRef w = true → app.appRef w = true ∧ w ∉ l
  | [], app, h => ⟨app, rfl, h, fun _ hw => ⟨hw, List.not_mem_nil _⟩⟩
  | v :: l, app, h => by
    obtain ⟨app₁, e₁, h₁, hv, hs₁, -⟩ := h.destroy v
    obtain ⟨app₂, e₂, h₂, hs₂⟩ := h₁.destroyAll l
    refine ⟨app₂, by simp [List.forM_cons, bind, EStateM.bind, e₁, e₂], h₂, fun w hw => ?_⟩
    obtain ⟨hw₁, hl⟩ := hs₂ w hw
    refine ⟨hs₁ w hw₁, List.not_mem_cons_of_ne_of_not_mem (fun hwv => ?_) hl⟩
    rw [hwv, hv] at hw₁
    exact Bool.false_ne_true hw₁

/-- With listeners that return, `ngOnDestroy` keeps the invariant: every attached view is
destroyed, which clears its back-reference, before `_views` is emptied. -/
theorem ViewsAgree.onDestroy (h : app.ViewsAgree) {listeners : List (Except AppError Unit)}
    (hl : ∀ l ∈ listeners, l = .ok ()) : (after (ngOnDestroy listeners) app).ViewsAgree := by
  have listeners_ok : listeners.forM id = .ok () := by
    induction listeners with
    | nil => rfl
    | cons l ls ih =>
      rw [hl l (List.mem_cons_self _ _)]
      exact ih fun l' h' => hl l' (List.mem_cons_of_mem _ h')
  rw [after, ngOnDestroy_apply]
  cases hd : app.destroyed
  · obtain ⟨app', e, -, hs⟩ := h.destroyAll app.views
    simp only [Bool.false_eq_true, ite_false, listeners_ok, e]
    refine ⟨List.nodup_nil, fun w => ⟨fun hw => absurd hw (List.not_mem_nil _), fun hw => ?_⟩⟩
    obtain ⟨hw, hn⟩ := hs w hw
    exact absurd ((h.mem_iff w).mpr hw) hn
  · simpa using h

/-- A call the restricted runs admit keeps the invariant. -/
theorem ViewsAgree.step (h : app.ViewsAgree) {call : AppCall} (hc : call.Admissible app) :
    (after call.run app).ViewsAgree := by
  cases call with
  | attachView view =>
    rw [after, AppCall.run, attachView_apply, if_neg (by simp [hc.1])]
    exact h.attach hc.2
  | detachView view => exact h.detach view
  | destroyView view =>
    obtain ⟨app', e, h', -⟩ := h.destroy view
    simpa [after, AppCall.run, e] using h'
  | tick env =>
    obtain ⟨b, e⟩ := after_tick env app
    rw [AppCall.run, e]
    exact ⟨h.nodup, h.mem_iff⟩
  | ngOnDestroy listeners => exact h.onDestroy hc

end ApplicationRef

/-! ## The counterexample -/

/-- Attaching a view that sits in a `ViewContainer` throws, and leaves the view in `_views`
without a back-reference to the application. -/
theorem views_disagree_after_failed_attach :
    ∃ app, AppReachable (fun _ _ => True) app ∧ ¬ app.ViewsAgree := by
  let app₀ : ApplicationRef :=
    { views := [], runningTick := false, destroyed := false, appRef := fun _ => false,
      attachedToViewContainer := fun _ => true }
  refine ⟨after (AppCall.attachView 0).run app₀, .step (.init ⟨rfl, rfl, rfl, fun _ => rfl⟩)
    trivial, fun h => ?_⟩
  have := (h.mem_iff 0).mp (by decide)
  exact absurd this (by decide)

/-! ## The invariant over restricted runs -/

/-- Once detached, a view is no longer among the views a tick change-detects. -/
theorem ApplicationRef.ViewsAgree.not_mem_after_detachView {app : ApplicationRef}
    (h : app.ViewsAgree) (view : Nat) :
    view ∉ (after (ApplicationRef.detachView view) app).views := by
  simpa [after, ApplicationRef.detachView_apply, remove] using h.nodup.not_mem_erase

/-- **`_views` agrees with the back-references.** Over runs in which `attachView` is only
given a view that is neither in a `ViewContainer` nor attached here, the destroy listeners
return, and a view's `destroy()` only detaches it (as `ApplicationRef.destroyView` does: no
destroy hook throws or attaches a view), `_views` never holds a view twice and holds exactly
the views whose back-reference points to this application, so `viewCount` counts them; and
after `detachView(v)` the views a tick change-detects no longer include `v`. -/
theorem viewsAgree_of_reachable {app : ApplicationRef} (h : AppReachable AppCall.Admissible app) :
    app.ViewsAgree ∧ ∀ view, view ∉ (after (ApplicationRef.detachView view) app).views := by
  have hv : app.ViewsAgree := by
    induction h with
    | init h₀ =>
      exact ⟨by simp [h₀.views], fun v => by simp [h₀.views, h₀.appRef v]⟩
    | step _ hc ih => exact ih.step hc
  exact ⟨hv, hv.not_mem_after_detachView⟩

/-- Views whose checks return, with no after-render effects, and a rethrowing handler. -/
def quietEnv : TickEnv :=
  { devMode := false, detectChanges := fun _ => .ok (), checkNoChanges := fun _ => .ok (),
    execute := .ok false, internalErrorHandler := fun e => .error e }

/-- A fresh application with no view attached and none in a `ViewContainer`. -/
def freshApp : ApplicationRef :=
  { views := [], runningTick := false, destroyed := false, appRef := fun _ => false,
    attachedToViewContainer := fun _ => false }

/-- Views `0` and `1` attached to `freshApp`, then `0` destroyed by its owner, a tick, and `1`
detached. -/
def attachDestroyDetach : ApplicationRef :=
  after (AppCall.detachView 1).run <| after (AppCall.tick quietEnv).run <|
    after (AppCall.destroyView 0).run <| after (AppCall.attachView 1).run <|
      after (AppCall.attachView 0).run freshApp

theorem viewsAgree_after_attachDestroyDetach :
    AppReachable AppCall.Admissible attachDestroyDetach ∧
      attachDestroyDetach.ViewsAgree ∧
      ∀ view, view ∉ (after (ApplicationRef.detachView view) attachDestroyDetach).views :=
  have h : AppReachable AppCall.Admissible attachDestroyDetach :=
    .step (.step (.step (.step (.step (.init ⟨rfl, rfl, rfl, fun _ => rfl⟩) ⟨rfl, rfl⟩)
      ⟨rfl, rfl⟩) trivial) trivial) trivial
  ⟨h, viewsAgree_of_reachable h⟩

end Angular.Core
