import Angular.Compiler.IngestSound.Lowering
import Angular.Compiler.IngestSound.Host

/-!
# Angular.Compiler.IngestSound.HostMeaning

**Host bindings keep their meaning.** `ingestHostBinding` builds a job of one unit, the root,
whose update list holds one binding per host property followed by one per host attribute, and
whose create list holds one host listener per event, each in the order of the input
(`ingestHostBinding_keeps_meaning`). A property's binding names the property without its
`attr.` prefix and evaluates as the property's expression does, an attribute's binding
evaluates as the attribute's expression, and a listener's handler runs the event's handler.
As for a template, the root view's context must be the component, and the runtime must give
each operator token the meaning of the output operator the imported table maps it to.

Each of the three loops of `ingestHostBinding` extends the root by one op per item
(`mapJob_extends_root`, `foldl_extends_root`, `foldlM_extends_root`), and `Extends.trans`
joins the three.
-/

namespace Angular.Compiler

theorem Extends.root_eq {u : Nat} {J J' : CompilationJob} {δ : Delta} (h : Extends u J J' δ) :
    J'.root = J.root :=
  (congrArg CompilationJob.root h.eq : J'.root = (δ.apply u J J'.nextXrefId).root)

section

variable {V σ : Type} (rt : Runtime V σ) (scope : TemplateScope V) (ctx : Nat → V)

/-- The update op binds `name` on the unit `x` to an expression whose value, with the views'
contexts `ctx`, is `value`. -/
def UpdateOp.BindsTo (x : Nat) (name : String) (value : StateT σ (Except V) V) : UpdateOp → Prop
  | .binding b => b.target = x ∧ b.name = name ∧ evalBinding rt scope ctx b.expression = value
  | _ => False

/-- The create op is a host listener on the unit `x` for `name`, whose statements run as
`handler` does. -/
def CreateOp.ListensTo (x : Nat) (name : String) (handler : StateT σ (Except V) (Option V)) :
    CreateOp → Prop
  | .listener l => l.target = x ∧ l.name = name ∧ l.hostListener = true ∧
      execStatements rt scope ctx l.handlerOps = handler
  | _ => False

/-- **What a host binding job means.** One unit, the root `0`: its update list binds every
property, renamed as `ingestHostBinding` renames it, to its expression's value, then every
attribute to its expression's value; its create list listens for every event with the event's
handler. -/
def HostBindingMeans (input : HostBindingInput) (J : CompilationJob) : Prop :=
  ∃ (props attrs : List UpdateOp) (listeners : List CreateOp),
    J.views = [{ ViewCompilationUnit.new 0 none with
      create := listeners, update := props ++ attrs }] ∧
    List.Forall₂ (fun p op => op.BindsTo rt scope ctx 0 p.name (evalAst rt scope (astOf p.expression)))
      ((input.properties.getD []).map renamedProperty) props ∧
    List.Forall₂ (fun a op => op.BindsTo rt scope ctx 0 a.1 (evalExpr rt scope ctx a.2))
      input.attributes attrs ∧
    List.Forall₂ (fun e op => op.ListensTo rt scope ctx 0 e.name
        (evalAst rt scope (astOf e.handler) >>= fun v => pure (some v)))
      (input.events.getD []) listeners

end

/-! ## The loops extend the root -/

section

variable {x : Nat}

/-- `mapJob` over a step that adds to the root one update op, related to the step's result by
`R`, adds one op per item, in order. -/
theorem mapJob_extends_root {α β : Type}
    {f : α → CompilationJob → Except String (β × CompilationJob)} (R : β → UpdateOp → Prop)
    (hf : ∀ a J p, f a J = .ok p → J.root = x → x < J.nextXrefId →
      ∃ op, Extends x J p.2 ⟨[], [op], []⟩ ∧ R p.1 op) :
    ∀ (as : List α) {J p}, mapJob f as J = .ok p → J.root = x → x < J.nextXrefId →
      ∃ ops, Extends x J p.2 ⟨[], ops, []⟩ ∧ List.Forall₂ R p.1 ops
  | [], J, _, h, _, _ => by cases h; exact ⟨[], Extends.refl x J, .nil⟩
  | a :: as, J, _, h, hx, hlt => by
    simp only [mapJob, bind_eq_ok_iff] at h
    obtain ⟨⟨_, _⟩, h₁, ⟨_, _⟩, h₂, h⟩ := h
    cases h
    obtain ⟨op, e₁, r₁⟩ := hf a J _ h₁ hx hlt
    obtain ⟨ops, e₂, r₂⟩ :=
      mapJob_extends_root R hf as h₂ (e₁.root_eq.trans hx) (hlt.trans_le e₁.le)
    exact ⟨op :: ops, e₁.trans hlt e₂, .cons r₁ r₂⟩

/-- A `foldl` of steps that each add one update op to the root. -/
theorem foldl_extends_root {α : Type} {g : CompilationJob → α → CompilationJob}
    (R : α → UpdateOp → Prop)
    (hg : ∀ J a, J.root = x → ∃ op, Extends x J (g J a) ⟨[], [op], []⟩ ∧ R a op) :
    ∀ (as : List α) (J : CompilationJob), J.root = x → x < J.nextXrefId →
      ∃ ops, Extends x J (as.foldl g J) ⟨[], ops, []⟩ ∧ List.Forall₂ R as ops
  | [], J, _, _ => ⟨[], Extends.refl x J, .nil⟩
  | a :: as, J, hx, hlt => by
    obtain ⟨op, e₁, r₁⟩ := hg J a hx
    obtain ⟨ops, e₂, r₂⟩ :=
      foldl_extends_root R hg as _ (e₁.root_eq.trans hx) (hlt.trans_le e₁.le)
    exact ⟨op :: ops, e₁.trans hlt e₂, .cons r₁ r₂⟩

/-- A `foldlM` of steps that each add one create op to the root. -/
theorem foldlM_extends_root {α : Type} {g : CompilationJob → α → Except String CompilationJob}
    (R : α → CreateOp → Prop)
    (hg : ∀ J a J', g J a = .ok J' → J.root = x → x < J.nextXrefId →
      ∃ op, Extends x J J' ⟨[op], [], []⟩ ∧ R a op) :
    ∀ (as : List α) {J J'}, as.foldlM g J = .ok J' → J.root = x → x < J.nextXrefId →
      ∃ ops, Extends x J J' ⟨ops, [], []⟩ ∧ List.Forall₂ R as ops
  | [], J, _, h, _, _ => by cases h; exact ⟨[], Extends.refl x J, .nil⟩
  | a :: as, J, _, h, hx, hlt => by
    obtain ⟨J₁, h₁, h₂⟩ := bind_eq_ok_iff.mp h
    obtain ⟨op, e₁, r₁⟩ := hg J a J₁ h₁ hx hlt
    obtain ⟨ops, e₂, r₂⟩ :=
      foldlM_extends_root R hg as h₂ (e₁.root_eq.trans hx) (hlt.trans_le e₁.le)
    exact ⟨op :: ops, e₁.trans hlt e₂, .cons r₁ r₂⟩

end

/-! ## One host binding -/

section

variable {V σ : Type} (rt : Runtime V σ) (scope : TemplateScope V) (imports : Imports)
  (ctx : Nat → V)
  (hbin : ∀ s o, imports.binaryOperators s = some o → rt.binaryToken s = some (rt.binary o))
include hbin

/-- A host property's value evaluates as its expression: an interpolation builds its string
from the converted expressions, anything else is converted whole. -/
theorem hostPropertyExpression_eval {J : CompilationJob} {property : ParsedProperty}
    {r : BindingExpression × CompilationJob} (h : hostPropertyExpression imports J property = .ok r)
    (hroot : ctx J.root = scope.root) :
    evalBinding rt scope ctx r.1 = evalAst rt scope (astOf property.expression) := by
  unfold hostPropertyExpression at h
  split at h
  next _ strings expressions heq =>
    obtain ⟨⟨xs, _⟩, h₁, h⟩ := bind_eq_ok_iff.mp h
    cases h
    simp only [heq, evalBinding, evalAst, convertAstList_eval rt scope imports ctx hbin _ h₁ hroot]
  next =>
    obtain ⟨⟨x, _⟩, h₁, h⟩ := bind_eq_ok_iff.mp h
    cases h
    exact convertAst_eval rt scope imports ctx hbin _ h₁ hroot

theorem ingestHostProperty_binds {J J' : CompilationJob} {property : ParsedProperty}
    {bindingKind : BindingKind} {securityContexts : List SecurityContext}
    (h : ingestHostProperty imports J property bindingKind securityContexts = .ok J')
    (hroot : ctx J.root = scope.root) (hlt : J.root < J.nextXrefId) :
    ∃ op, Extends J.root J J' ⟨[], [op], []⟩ ∧
      op.BindsTo rt scope ctx J.root property.name (evalAst rt scope (astOf property.expression)) := by
  rw [ingestHostProperty_eq] at h
  rcases he : hostPropertyExpression imports J property with _ | ⟨e, J₀⟩ <;> rw [he] at h <;>
    cases h
  obtain ⟨ids, hd⟩ := hostPropertyExpression_drew imports he
  obtain rfl := hd.1
  exact ⟨_, (Extends.drew J.root hd).trans hlt (Extends.pushUpdate _ _ _),
    rfl, rfl, hostPropertyExpression_eval rt scope imports ctx hbin he hroot⟩

theorem ingestHostEvent_listens {J J' : CompilationJob} {event : ParsedEvent}
    (h : ingestHostEvent imports J event = .ok J') (hroot : ctx J.root = scope.root)
    (hlt : J.root < J.nextXrefId) :
    ∃ op, Extends J.root J J' ⟨[op], [], []⟩ ∧ op.ListensTo rt scope ctx J.root event.name
      (evalAst rt scope (astOf event.handler) >>= fun v => pure (some v)) := by
  unfold ingestHostEvent at h
  obtain ⟨⟨ops, J₀⟩, h₁, h⟩ := bind_eq_ok_iff.mp h
  cases h
  have hd : Drew J J₀ (ops.flatMap Statement.pipeIds) := makeListenerHandlerOps_drew imports h₁
  obtain rfl := hd.1
  exact ⟨_, (Extends.drew J.root hd).trans hlt (Extends.pushCreate _ _ _),
    rfl, rfl, rfl, makeListenerHandlerOps_eval rt scope imports ctx hbin h₁ hroot⟩

/-- One pass of the properties loop binds the property as the pass leaves it. -/
theorem ingestHostBindingProperty_binds {bindingParser : BindingParser} {selector : String}
    {property : ParsedProperty} {J : CompilationJob} {r : ParsedProperty × CompilationJob}
    (h : ingestHostBindingProperty imports bindingParser selector property J = .ok r)
    (hroot : ctx J.root = scope.root) (hlt : J.root < J.nextXrefId) :
    ∃ op, Extends J.root J r.2 ⟨[], [op], []⟩ ∧
      op.BindsTo rt scope ctx J.root r.1.name (evalAst rt scope (astOf r.1.expression)) := by
  unfold ingestHostBindingProperty at h
  obtain ⟨J', hJ', h⟩ := bind_eq_ok_iff.mp h
  cases h
  exact ingestHostProperty_binds rt scope imports ctx hbin hJ' hroot hlt

/-- **Host bindings keep their meaning.** Where `ingestHostBinding` returns, its job has the
one root unit, which binds each property and each attribute and listens for each event of
the input, in order, with the values and the handlers of the input. -/
theorem ingestHostBinding_keeps_meaning {bindingParser : BindingParser}
    {input : HostBindingInput} {J : CompilationJob} {input' : HostBindingInput}
    (h : ingestHostBinding imports bindingParser input = .ok (J, input'))
    (hroot : ctx 0 = scope.root) : HostBindingMeans rt scope ctx input J := by
  simp only [ingestHostBinding, bind_eq_ok_iff] at h
  obtain ⟨⟨properties, J₁⟩, h₁, J₂, h₂, h⟩ := h
  cases h
  have hprops := mapJob_fst (g := renamedProperty)
    (fun _ _ _ h => ingestHostBindingProperty_fst imports h) _ h₁
  obtain ⟨props, e₁, r₁⟩ := mapJob_extends_root (x := 0)
    (fun p op => op.BindsTo rt scope ctx 0 p.name (evalAst rt scope (astOf p.expression)))
    (fun _ J _ hp hx hlt => by
      rw [← hx] at hlt ⊢
      exact ingestHostBindingProperty_binds rt scope imports ctx hbin hp (hx ▸ hroot) hlt)
    _ h₁ rfl Nat.one_pos
  obtain ⟨attrs, e₂, r₂⟩ := foldl_extends_root (x := 0) (g := fun job a =>
      ingestHostAttribute job a.1 a.2 (hostSecurityContexts bindingParser input.componentSelector a.1 true))
    (fun a op => op.BindsTo rt scope ctx 0 a.1 (evalExpr rt scope ctx a.2))
    (fun J _ hx => by rw [← hx]; exact ⟨_, Extends.pushUpdate _ _ _, rfl, rfl, rfl⟩)
    input.attributes J₁ e₁.root_eq (Nat.one_pos.trans_le e₁.le)
  obtain ⟨listeners, e₃, r₃⟩ := foldlM_extends_root (x := 0)
    (fun e op => op.ListensTo rt scope ctx 0 e.name
      (evalAst rt scope (astOf e.handler) >>= fun v => pure (some v)))
    (fun J _ _ hJ hx hlt => by
      rw [← hx] at hlt ⊢
      exact ingestHostEvent_listens rt scope imports ctx hbin hJ (hx ▸ hroot) hlt)
    _ h₂ (e₂.root_eq.trans e₁.root_eq) (Nat.one_pos.trans_le (e₁.le.trans e₂.le))
  have e := (e₁.trans Nat.one_pos e₂).trans Nat.one_pos e₃
  refine ⟨props, attrs, listeners, ?_, hprops ▸ r₁, r₂, r₃⟩
  rw [e.eq]
  simp [CompilationJob.host, CompilationJob.component]

end

/-- `(click)="a"` on the host. -/
def clickEvent : ParsedEvent :=
  { name := "click", type := .regular, targetOrPhase := none,
    handler := .propertyRead ⟨0, 1⟩ (.implicitReceiver ⟨0, 0⟩) "a", sourceSpan := exampleSpan,
    handlerSpan := exampleSpan }

/-- The host bindings of `C` with the property `[attr.title]="'t'"`, the attribute
`role="button"` and the listener `(click)="a"`. -/
def clickHost : HostBindingInput :=
  { componentName := "C", componentSelector := "c", properties := some [titleProperty],
    attributes := [("role", Expression.literal (.string "button") none)],
    events := some [clickEvent] }

theorem ingestHostBinding_keeps_meaning_clickHost :
    ∃ J input', ingestHostBinding Imports.plain noSecurityContexts clickHost = .ok (J, input') ∧
      HostBindingMeans intRuntime localA (fun _ => 1) clickHost J :=
  ⟨_, _, rfl, ingestHostBinding_keeps_meaning intRuntime localA Imports.plain (fun _ => 1)
    (fun _ _ h => by cases h) rfl rfl⟩

end Angular.Compiler
