import Angular.Compiler.IngestSound.Lowering
import Angular.Compiler.IngestSound.Attributes

/-!
# Angular.Compiler.IngestSound.Meaning

**Ingestion invents no meaning.** Every op of the job `ingestComponent` builds that holds
an expression means something the template binds: a binding op evaluates to what a binding
of the same name in the template evaluates to, a listener runs what an output of the same
name handles, and the expressions of interpolated text, conditionals, repeaters, track
functions and `when` triggers evaluate to expressions of the template
(`ingestComponent_faithful`). This holds in every runtime and scope whose component is the
context of the root view, and in every view, since conversion only reads the root's context.

`Faithful T J` is the invariant: the root context is the component, and every op of every
unit of `J` means a value of `T`. Each job primitive keeps it when the ops it adds do
(`Faithful.pushCreate`, `Faithful.pushUpdate`, ...), each ingester keeps it when `T` holds
its node's values (`Keeps`), and the recursion over the template assembles these.
-/

namespace Angular.Compiler

/-- One thing a template binds: a binding's name and value, an output, or an expression that
an op is converted from. -/
inductive TemplateValue where
  | binding (name : String) (value : BindingValue)
  | output (event : BoundEvent)
  | expression (ast : AST)

/-! ## What a template binds -/

/-- An entry of `template.templateAttrs`, as `templateAttrBinding` binds it. -/
def TemplateAttr.templateValue : TemplateAttr → TemplateValue
  | .bound attr => .binding attr.name (.ast (astOf attr.value))
  | .text attr => .binding attr.name (.text attr.value)

/-- A static attribute, bound to its text. -/
def TextAttribute.templateValue (attr : TextAttribute) : TemplateValue :=
  .binding attr.name (.text attr.value)

/-- An input, bound to its expression. -/
def BoundAttribute.templateValue (input : BoundAttribute) : TemplateValue :=
  .binding input.name (.ast (astOf input.value))

def Element.values (element : Element) : List TemplateValue :=
  element.attributes.map TextAttribute.templateValue ++ element.inputs.map BoundAttribute.templateValue ++
    element.outputs.map TemplateValue.output

def Template.values (tmpl : Template) : List TemplateValue :=
  tmpl.templateAttrs.map TemplateAttr.templateValue ++ tmpl.attributes.map TextAttribute.templateValue ++
    tmpl.inputs.map BoundAttribute.templateValue ++ tmpl.outputs.map TemplateValue.output

/-- The interpolations of an ICU's variables and bound placeholders. -/
def Icu.values (icu : Icu) : List TemplateValue :=
  icu.vars.map (fun kv => .expression (astOf kv.2.value)) ++
    icu.placeholders.filterMap fun kv => match kv.2 with
      | .boundText text => some (.expression (astOf text.value))
      | .text _ => none

/-- The expression of a `when` trigger. -/
def DeferredBlockTriggers.values (triggers : DeferredBlockTriggers) : List TemplateValue :=
  (triggers.when.map fun w => .expression w.value).toList

mutual

/-- What a node and its descendants bind. -/
def Node.values : Node → List TemplateValue
  | .element element children => element.values ++ nodesValues children
  | .template tmpl children => tmpl.values ++ nodesValues children
  | .content content => content.attributes.map TextAttribute.templateValue
  | .text _ => []
  | .boundText text => [.expression (astOf text.value)]
  | .ifBlock _ branches => branchesValues branches
  | .switchBlock block cases => .expression block.expression :: casesValues cases
  | .deferredBlock block children placeholder loading error =>
    block.triggers.values ++ block.prefetchTriggers.values ++ nodesValues children ++
      secondaryValues placeholder ++ secondaryValues loading ++ secondaryValues error
  | .icu icu => icu.values
  | .forLoopBlock block children empty =>
    .expression block.expression :: .expression block.trackBy :: nodesValues children ++
      emptyValues empty
  | .comment _ | .unknownBlock _ => []

def nodesValues : List Node → List TemplateValue
  | [] => []
  | n :: ns => n.values ++ nodesValues ns

def branchesValues : List (IfBlockBranch × List Node) → List TemplateValue
  | [] => []
  | (branch, children) :: branches =>
    (branch.expression.map .expression).toList ++ nodesValues children ++ branchesValues branches

def casesValues : List (SwitchBlockCase × List Node) → List TemplateValue
  | [] => []
  | (switchCase, children) :: cases =>
    (switchCase.expression.map .expression).toList ++ nodesValues children ++ casesValues cases

def secondaryValues : Option (DeferredBlockSecondary × List Node) → List TemplateValue
  | none => []
  | some (_, children) => nodesValues children

def emptyValues : Option (ForLoopBlockEmpty × List Node) → List TemplateValue
  | none => []
  | some (_, children) => nodesValues children

end

/-! ## What an op means -/

section

variable {V σ : Type} (rt : Runtime V σ) (scope : TemplateScope V) (ctx : Nat → V)
  (T : List TemplateValue)

/-- The output expression `x` evaluates to what an expression of `T` evaluates to. -/
def ExprMeans (x : Expression) : Prop :=
  ∃ a, .expression a ∈ T ∧ evalExpr rt scope ctx x = evalAst rt scope a

/-- What the expressions of an update op mean. -/
def UpdateOp.Means : UpdateOp → Prop
  | .binding b => ∃ name value, .binding name value ∈ T ∧ b.name = name ∧
      evalBinding rt scope ctx b.expression = evalBindingValue rt scope value
  | .interpolateText _ interpolation _ => ∃ a, .expression a ∈ T ∧
      evalBinding rt scope ctx (.interpolation interpolation) = evalAst rt scope a
  | .conditional _ _ test conditions _ => (∀ x ∈ test, ExprMeans rt scope ctx T x) ∧
      ∀ c ∈ conditions, ∀ x ∈ c.expr, ExprMeans rt scope ctx T x
  | .repeater _ _ collection _ => ExprMeans rt scope ctx T collection
  | .deferWhen _ x _ _ => ExprMeans rt scope ctx T x

/-- What the expressions of a create op mean: a listener's handler, a repeater's track
function and an extracted attribute's expression. -/
def CreateOp.Means : CreateOp → Prop
  | .listener l => ∃ o, .output o ∈ T ∧ l.name = o.name ∧
      execStatements rt scope ctx l.handlerOps =
        evalAst rt scope (astOf o.handler) >>= fun v => pure (some v)
  | .repeaterCreate op => ExprMeans rt scope ctx T op.track
  | .extractedAttribute op => ∀ x ∈ op.expression, ExprMeans rt scope ctx T x
  | _ => True

/-- **The invariant**: the root view's context is the component, and every op of every unit
means a value of `T`. -/
structure Faithful (J : CompilationJob) : Prop where
  root : ctx J.root = scope.root
  create : ∀ v ∈ J.views, ∀ op ∈ v.create, CreateOp.Means rt scope ctx T op
  update : ∀ v ∈ J.views, ∀ op ∈ v.update, UpdateOp.Means rt scope ctx T op

/-- An ingest step that keeps the invariant. -/
def Keeps (f : CompilationJob → Except String CompilationJob) : Prop :=
  ∀ J J', f J = .ok J' → Faithful rt scope ctx T J → Faithful rt scope ctx T J'

/-- An entry of the `bindings` arrays means a value of `T`, as the op it becomes. -/
def EntryMeans : Option BindingEntry → Prop
  | some (.binding b) => UpdateOp.Means rt scope ctx T (.binding b)
  | some (.extractedAttribute a) => CreateOp.Means rt scope ctx T (.extractedAttribute a)
  | none => True

end

/-! ## The job primitives keep the invariant -/

namespace Faithful

variable {V σ : Type} {rt : Runtime V σ} {scope : TemplateScope V} {ctx : Nat → V}
  {T : List TemplateValue} {J J' : CompilationJob}

/-- A change of one unit keeps the invariant when every op it leaves is an old one or means a
value of `T`. -/
theorem modifyView (h : Faithful rt scope ctx T J) (u : Nat)
    {f : ViewCompilationUnit → ViewCompilationUnit}
    (hc : ∀ v, ∀ op ∈ (f v).create, op ∈ v.create ∨ CreateOp.Means rt scope ctx T op)
    (hu : ∀ v, ∀ op ∈ (f v).update, op ∈ v.update ∨ UpdateOp.Means rt scope ctx T op) :
    Faithful rt scope ctx T (J.modifyView u f) where
  root := h.root
  create w hw op hop := by
    obtain ⟨v, hv, rfl⟩ := List.mem_map.mp hw
    split at hop
    · exact (hc v op hop).elim (h.create v hv op) id
    · exact h.create v hv op hop
  update w hw op hop := by
    obtain ⟨v, hv, rfl⟩ := List.mem_map.mp hw
    split at hop
    · exact (hu v op hop).elim (h.update v hv op) id
    · exact h.update v hv op hop

theorem pushCreate (h : Faithful rt scope ctx T J) (u : Nat) {ops : List CreateOp}
    (hops : ∀ op ∈ ops, CreateOp.Means rt scope ctx T op) :
    Faithful rt scope ctx T (J.pushCreate u ops) :=
  h.modifyView u (fun _ op hop => (List.mem_append.mp hop).imp id (hops op))
    fun _ _ hop => .inl hop

theorem pushUpdate (h : Faithful rt scope ctx T J) (u : Nat) {ops : List UpdateOp}
    (hops : ∀ op ∈ ops, UpdateOp.Means rt scope ctx T op) :
    Faithful rt scope ctx T (J.pushUpdate u ops) :=
  h.modifyView u (fun _ _ hop => .inl hop)
    fun _ op hop => (List.mem_append.mp hop).imp id (hops op)

theorem insertCreate (h : Faithful rt scope ctx T J) (u : Nat) {op : CreateOp}
    (hop : CreateOp.Means rt scope ctx T op) (target : Nat) :
    Faithful rt scope ctx T (J.insertCreate u op target) :=
  h.modifyView u (fun v o ho => by
      rcases List.mem_append.mp ho with ho | ho
      · exact .inl (List.mem_of_mem_take ho)
      rcases List.mem_cons.mp ho with rfl | ho
      · exact .inr hop
      · exact .inl (List.mem_of_mem_drop ho))
    fun _ _ hop => .inl hop

theorem setContextVariable (h : Faithful rt scope ctx T J) (u : Nat) (name value : String) :
    Faithful rt scope ctx T (J.setContextVariable u name value) :=
  h.modifyView u (fun _ _ hop => .inl hop) fun _ _ hop => .inl hop

theorem addAlias (h : Faithful rt scope ctx T J) (u : Nat) (a : AliasVariable) :
    Faithful rt scope ctx T (J.addAlias u a) :=
  h.modifyView u (fun _ _ hop => .inl hop) fun _ _ hop => .inl hop

theorem allocateXrefId (h : Faithful rt scope ctx T J) :
    Faithful rt scope ctx T J.allocateXrefId.2 :=
  ⟨h.root, h.create, h.update⟩

/-- A new unit has no ops. -/
theorem allocateView (h : Faithful rt scope ctx T J) (p : Nat) :
    Faithful rt scope ctx T (J.allocateView p).2 where
  root := h.root
  create v hv op hop := by
    rcases List.mem_append.mp hv with hv | hv
    · exact h.create v hv op hop
    · rw [List.mem_singleton.mp hv] at hop; cases hop
  update v hv op hop := by
    rcases List.mem_append.mp hv with hv | hv
    · exact h.update v hv op hop
    · rw [List.mem_singleton.mp hv] at hop; cases hop

/-- Drawing xrefs changes no unit. -/
theorem drew (h : Faithful rt scope ctx T J) {ids : List Nat} (d : Drew J J' ids) :
    Faithful rt scope ctx T J' := by
  obtain ⟨rfl, -⟩ := d
  exact ⟨h.root, h.create, h.update⟩

/-- A fold of steps that keep the invariant keeps it. -/
theorem foldl {α : Type} {g : CompilationJob → α → CompilationJob}
    (hg : ∀ J a, Faithful rt scope ctx T J → Faithful rt scope ctx T (g J a)) :
    ∀ (xs : List α) {J : CompilationJob}, Faithful rt scope ctx T J →
      Faithful rt scope ctx T (xs.foldl g J)
  | [], _, h => h
  | a :: xs, _, h => foldl hg xs (hg _ a h)

/-- The job a component starts from has no ops. -/
theorem component (hroot : ctx 0 = scope.root) (componentName : String)
    (compatibility : CompatibilityMode)
    (deferBlocksMeta : DeferredBlock → Option R3DeferBlockMetadata) :
    Faithful rt scope ctx T (CompilationJob.component componentName compatibility deferBlocksMeta)
    where
  root := hroot
  create _ hv _ hop := by rw [List.mem_singleton.mp hv] at hop; cases hop
  update _ hv _ hop := by rw [List.mem_singleton.mp hv] at hop; cases hop

end Faithful

/-! ## Where the values of a node are -/

theorem values_subset_nodesValues {n : Node} : ∀ {ns : List Node}, n ∈ ns → n.values ⊆ nodesValues ns
  | m :: ms, h => by
    rw [nodesValues]
    rcases List.mem_cons.mp h with rfl | h
    · exact List.subset_append_left _ _
    · exact (values_subset_nodesValues h).trans (List.subset_append_right _ _)

/-! ## Ops that mean values of the template -/

section

variable {V σ : Type} {rt : Runtime V σ} {scope : TemplateScope V} {ctx : Nat → V}
  {T : List TemplateValue}

theorem bindingOps_means {bs : List (Option BindingEntry)}
    (h : ∀ e ∈ bs, EntryMeans rt scope ctx T e) :
    ∀ op ∈ bindingOps bs, UpdateOp.Means rt scope ctx T op := by
  intro op hop
  obtain ⟨e, he, hop⟩ := List.mem_filterMap.mp hop
  rcases e with _ | b | _ <;> simp at hop
  subst hop
  exact h _ he

theorem extractedOps_means {bs : List (Option BindingEntry)}
    (h : ∀ e ∈ bs, EntryMeans rt scope ctx T e) :
    ∀ op ∈ extractedOps bs, CreateOp.Means rt scope ctx T op := by
  intro op hop
  obtain ⟨e, he, hop⟩ := List.mem_filterMap.mp hop
  rcases e with _ | _ | a <;> simp at hop
  subst hop
  exact h _ he

theorem Binds.entryMeans {x : Nat} {name : String} {value : BindingValue} {e : Option BindingEntry}
    (h : Binds rt scope ctx x name value e) (hT : .binding name value ∈ T) :
    EntryMeans rt scope ctx T e := by
  obtain ⟨_, rfl, -, hn, hv⟩ := h
  exact ⟨name, value, hT, hn, hv⟩

theorem Listens.means {x : Nat} {output : BoundEvent} {o : CreateOp}
    (h : Listens rt scope ctx x output o) (hT : .output output ∈ T) :
    CreateOp.Means rt scope ctx T o := by
  obtain ⟨l, rfl, -, hn, he⟩ := h
  exact ⟨output, hT, hn, he⟩

/-- The common end of the bindings of an element and of a template. -/
theorem Faithful.bindingsTail {u x : Nat} {J J₁ J₃ : CompilationJob} {ids₁ ids₃ : List Nat}
    {bs : List (Option BindingEntry)} {ls : List CreateOp} (hJ : Faithful rt scope ctx T J)
    (d₁ : Drew J J₁ ids₁) (hb : ∀ e ∈ bs, EntryMeans rt scope ctx T e)
    (d₃ : Drew ((J₁.pushCreate u (extractedOps bs)).pushUpdate u (bindingOps bs)) J₃ ids₃)
    (hl : ∀ o ∈ ls, CreateOp.Means rt scope ctx T o) :
    Faithful rt scope ctx T (ingestI18nAttributes u x bs (J₃.pushCreate u ls)) := by
  rw [ingestI18nAttributes_eq]
  exact (((((hJ.drew d₁).pushCreate u (extractedOps_means hb)).pushUpdate u
    (bindingOps_means hb)).drew d₃).pushCreate u hl).allocateXrefId.pushCreate u
    (List.forall_mem_singleton.2 trivial)

end

/-- The attributes an insertion point copies are attributes of one of the children. -/
theorem controlFlowRoot_attributes {children : List Node} {r : InsertionRoot}
    (h : controlFlowRoot none children = some r) :
    ∀ a ∈ r.attributes, a.templateValue ∈ nodesValues children := by
  obtain ⟨pre, c, post, rfl, -, hc, -⟩ := controlFlowRoot_none_eq_some.mp h
  intro a ha
  refine values_subset_nodesValues (List.mem_append_right _ (List.mem_cons_self c post)) ?_
  cases c with
  | element element _ =>
    cases hc
    simp only [Node.values, Element.values, List.append_assoc, List.mem_append]
    exact .inl (List.mem_map_of_mem _ ha)
  | template tmpl _ =>
    obtain ⟨tag, -, rfl⟩ := Option.map_eq_some'.mp hc
    simp only [Node.values, Template.values, List.append_assoc, List.mem_append]
    exact .inr (.inl (List.mem_map_of_mem _ ha))
  | _ => simp [controlFlowRoot] at hc

/-! ## Leaves and insertion points -/

section

variable (imports : Imports) {V σ : Type} {rt : Runtime V σ} {scope : TemplateScope V}
  {ctx : Nat → V} {T : List TemplateValue}

theorem ingestText_faithful {J : CompilationJob} (h : Faithful rt scope ctx T J) (u : Nat)
    (text : Text) (icuPlaceholder : Option String) :
    Faithful rt scope ctx T (ingestText u text icuPlaceholder J) :=
  h.allocateXrefId.pushCreate u (List.forall_mem_singleton.2 trivial)

/-- A static attribute is bound to its text. -/
theorem staticAttributeBinding_means {tag : String} {x : Nat} {attr : TextAttribute}
    {op : UpdateOp} (h : staticAttributeBinding imports tag x attr = .ok op)
    (hT : attr.templateValue ∈ T) : UpdateOp.Means rt scope ctx T op := by
  simp only [staticAttributeBinding, bind_eq_ok_iff] at h
  obtain ⟨_, -, h⟩ := h
  cases h
  exact ⟨_, _, hT, rfl, rfl⟩

theorem staticAttributeBindings_means {tag : String} {x : Nat} {attrs : List TextAttribute}
    {ops : List UpdateOp} (h : attrs.mapM (staticAttributeBinding imports tag x) = .ok ops)
    (hT : ∀ a ∈ attrs, a.templateValue ∈ T) : ∀ op ∈ ops, UpdateOp.Means rt scope ctx T op :=
  fun op hop =>
    let ⟨a, ha, hop⟩ := mem_mapM h op hop
    staticAttributeBinding_means imports hop (hT a ha)

theorem ingestContent_keeps (u : Nat) (content : Content)
    (hT : ∀ a ∈ content.attributes, a.templateValue ∈ T) :
    Keeps rt scope ctx T (ingestContent imports u content) := by
  intro J J' h hJ
  simp only [ingestContent, bind_eq_ok_iff] at h
  obtain ⟨_, -, bs, hbs, h⟩ := h
  cases h
  exact (hJ.allocateXrefId.pushUpdate u (staticAttributeBindings_means imports hbs hT)).pushCreate u
    (List.forall_mem_singleton.2 trivial)

/-- An insertion point binds attributes of one of the children. -/
theorem ingestControlFlowInsertionPoint_faithful {u x : Nat} {children : List Node}
    {J : CompilationJob} {p : Option String × CompilationJob}
    (h : ingestControlFlowInsertionPoint imports u x children J = .ok p)
    (hT : nodesValues children ⊆ T) (hJ : Faithful rt scope ctx T J) :
    Faithful rt scope ctx T p.2 := by
  unfold ingestControlFlowInsertionPoint at h
  split at h
  · cases h; exact hJ
  · rename_i r hr
    obtain ⟨bs, hbs, h⟩ := bind_eq_ok_iff.mp h
    cases h
    exact hJ.pushUpdate u (staticAttributeBindings_means imports hbs
      fun a ha => hT (controlFlowRoot_attributes hr a ha))

/-- A `@defer` view keeps the invariant when the ingestion of its children does. -/
theorem ingestDeferView_faithful {u : Nat} {suffix : String} {i18nMeta : Option I18nMeta}
    {view : Option (IngestChildren × ParseSourceSpan)} {J : CompilationJob}
    {p : Option TemplateOp × CompilationJob} (hv : ∀ c ∈ view, ∀ v, Keeps rt scope ctx T (c.1 v))
    (h : ingestDeferView u suffix i18nMeta view J = .ok p) (hJ : Faithful rt scope ctx T J) :
    Faithful rt scope ctx T p.2 := by
  simp only [ingestDeferView, bind_eq_ok_iff] at h
  obtain ⟨_, -, h⟩ := h
  rcases view with _ | ⟨ingestChildren, span⟩
  · cases h; exact hJ
  obtain ⟨J₁, h₁, h⟩ := bind_eq_ok_iff.mp h
  cases h
  exact (hv _ rfl _ _ _ h₁ (hJ.allocateView u)).pushCreate u
    (List.forall_mem_singleton.2 (by trivial))

theorem deferOnTriggers_means (x : Nat) (prefetch : Bool) (triggers : DeferredBlockTriggers) :
    ∀ op ∈ deferOnTriggers x prefetch triggers, CreateOp.Means rt scope ctx T op := by
  intro op hop
  simp only [deferOnTriggers, List.mem_append, Option.mem_toList, Option.mem_def,
    Option.map_eq_some'] at hop
  rcases hop with ((((⟨_, _, rfl⟩ | ⟨_, _, rfl⟩) | ⟨_, _, rfl⟩) | ⟨_, _, rfl⟩) | ⟨_, _, rfl⟩) |
    ⟨_, _, rfl⟩ <;> trivial

theorem ConditionalAcc.add_means {acc : ConditionalAcc} {xref : Nat} {c : ConditionalCaseExpr}
    (hacc : ∀ c ∈ acc.conditions, ∀ x ∈ c.expr, ExprMeans rt scope ctx T x)
    (hc : ∀ x ∈ c.expr, ExprMeans rt scope ctx T x) :
    ∀ c' ∈ (acc.add xref c).conditions, ∀ x ∈ c'.expr, ExprMeans rt scope ctx T x := by
  intro c' hc'
  rcases List.mem_append.mp hc' with hc' | hc'
  · exact hacc c' hc'
  · exact List.mem_singleton.mp hc' ▸ hc

/-- The interpolated placeholders of an ICU are its variables and bound placeholders. -/
theorem Icu.mem_values_of_mem_placeholderEntries {icu : Icu} {p : String} {text : BoundText}
    (h : (p, .boundText text) ∈ icu.placeholderEntries) :
    TemplateValue.expression (astOf text.value) ∈ icu.values := by
  rcases mem_foldl_mapSet h with h | h
  · rcases List.mem_append.mp h with h | h
    · obtain ⟨kv, hkv, he⟩ := List.mem_map.mp h
      cases he
      exact List.mem_append_left _ (List.mem_map_of_mem _ hkv)
    · exact List.mem_append_right _ (List.mem_filterMap.mpr ⟨_, h, rfl⟩)
  · cases h

end

/-! ## Converted expressions, bindings and listeners -/

section

variable (imports : Imports) {V σ : Type} {rt : Runtime V σ} {scope : TemplateScope V}
  {ctx : Nat → V} {T : List TemplateValue}
  (hbin : ∀ s o, imports.binaryOperators s = some o → rt.binaryToken s = some (rt.binary o))
include hbin

/-- Converting an expression of the template only draws xrefs, and gives an expression that
evaluates to it. -/
theorem convertAst_faithful {a : AST} {J : CompilationJob} {base p}
    (h : convertAst imports a J base = .ok p) (hJ : Faithful rt scope ctx T J)
    (hT : .expression a ∈ T) : Faithful rt scope ctx T p.2 ∧ ExprMeans rt scope ctx T p.1 :=
  ⟨hJ.drew (convertAst_drew imports _ h), a, hT, convertAst_eval rt scope imports ctx hbin a h hJ.root⟩

/-- An interpolated text evaluates to the text's interpolation. -/
theorem ingestBoundText_keeps (u : Nat) (text : BoundText) (icuPlaceholder : Option String)
    (hT : .expression (astOf text.value) ∈ T) :
    Keeps rt scope ctx T (ingestBoundText imports u text icuPlaceholder) := by
  intro J J' h hJ
  simp only [ingestBoundText, bind_eq_ok_iff] at h
  obtain ⟨⟨strings, expressions⟩, hv, placeholders, -, h⟩ := h
  obtain ⟨span, hv⟩ : ∃ span, astOf text.value = .interpolation span strings expressions := by
    split at hv
    · cases hv; exact ⟨_, ‹_›⟩
    · cases hv
  split at h
  · obtain ⟨_, h, -⟩ := bind_eq_ok_iff.mp h
    cases h
  simp only [bind_eq_ok_iff, pure_bind] at h
  obtain ⟨⟨xs, J₁⟩, h₁, _, hi, h⟩ := h
  obtain ⟨_, rfl⟩ := Interpolation.eq_of_new hi
  cases h
  refine ((hJ.allocateXrefId.pushCreate u (List.forall_mem_singleton.2 (by trivial))).drew
    (convertAstList_drew imports _ h₁)).pushUpdate u (List.forall_mem_singleton.2 ⟨_, hT, ?_⟩)
  rw [hv, evalBinding, evalAst, convertAstList_eval rt scope imports ctx hbin _ h₁ hJ.root]

theorem ingestElementBindings_faithful {u : Nat} {op : ElementStartOp} {element : Element}
    {J J' : CompilationJob} (h : ingestElementBindings imports u op element J = .ok J')
    (hT : element.values ⊆ T) (hJ : Faithful rt scope ctx T J) : Faithful rt scope ctx T J' := by
  simp only [ingestElementBindings, bind_eq_ok_iff] at h
  obtain ⟨⟨attrs, J₁⟩, h₁, ⟨inputs, J₂⟩, h₂, ⟨ls, J₃⟩, h₃, h⟩ := h
  cases h
  simp only [Element.values, List.append_subset] at hT
  obtain ⟨⟨hA, hI⟩, hO⟩ := hT
  obtain ⟨q₁, r₁⟩ := mapJob_all (fun J => ctx J.root = scope.root) (·.templateValue ∈ T)
    (EntryMeans rt scope ctx T) (fun _ _ _ hp hq =>
      (elementAttributeBinding_binds rt scope imports ctx hbin hp hq).imp_right (·.entryMeans))
    (fun a ha => hA (List.mem_map_of_mem _ ha)) h₁ hJ.root
  obtain ⟨q₂, r₂⟩ := mapJob_all (fun J => ctx J.root = scope.root) (·.templateValue ∈ T)
    (EntryMeans rt scope ctx T) (fun _ _ _ hp hq =>
      (elementInputBinding_binds rt scope imports ctx hbin hp hq).imp_right (·.entryMeans))
    (fun a ha => hI (List.mem_map_of_mem _ ha)) h₂ q₁
  obtain ⟨-, r₃⟩ := mapJob_all (fun J => ctx J.root = scope.root) (.output · ∈ T)
    (CreateOp.Means rt scope ctx T) (fun _ _ _ hp hq => by
      obtain ⟨_, -, hp⟩ := bind_eq_ok_iff.mp hp
      exact (createListener_listens rt scope imports ctx hbin hp hq).imp_right (·.means))
    (fun o ho => hO (List.mem_map_of_mem _ ho)) h₃ q₂
  exact hJ.bindingsTail (((elementAttributeBinding_step imports element op.xref).mapJob h₁).1.trans
    ((elementInputBinding_step imports op.xref).mapJob h₂).1)
    (fun e he => (List.mem_append.mp he).elim (r₁ e) (r₂ e))
    (mapJob_spec CreateOp.introduced (CreateOp.On op.xref) (fun _ _ _ hp => by
      obtain ⟨_, -, hp⟩ := bind_eq_ok_iff.mp hp
      exact createListener_spec imports hp) _ h₃).1 r₃

/-! ## A template's bindings -/

theorem createTemplateBinding_means {J : CompilationJob} {x : Nat} {type : BindingType}
    {name : String} {value : BindingValue} {unit : Option String} {sc : SecurityContext}
    {structural : Bool} {kind : TemplateKind} {message : Option Message} {span : ParseSourceSpan}
    {p} (h : createTemplateBinding imports J x type name value unit sc structural kind message span
      = .ok p) (hroot : ctx J.root = scope.root) :
    ctx p.2.root = scope.root ∧ (.binding name value ∈ T → EntryMeans rt scope ctx T p.1) := by
  simp only [createTemplateBinding] at h
  split_ifs at h
  · cases h; exact ⟨hroot, fun _ _ h => nomatch h⟩
  · cases h; exact ⟨hroot, fun _ => trivial⟩
  all_goals
    obtain ⟨⟨_, _⟩, h₁, h⟩ := bind_eq_ok_iff.mp h
    cases h
    exact ⟨(convertAstWithInterpolation_drew imports h₁).1 ▸ hroot, fun hT => ⟨name, value, hT, rfl,
      convertAstWithInterpolation_eval rt scope imports ctx hbin h₁ hroot⟩⟩

theorem templateAttrBinding_means {x : Nat} {kind : TemplateKind} {attr : TemplateAttr}
    {J : CompilationJob} {p} (h : templateAttrBinding imports x kind attr J = .ok p)
    (hroot : ctx J.root = scope.root) :
    ctx p.2.root = scope.root ∧ (attr.templateValue ∈ T → EntryMeans rt scope ctx T p.1) := by
  cases attr <;> simp only [templateAttrBinding, bind_eq_ok_iff] at h <;>
    obtain ⟨_, -, h⟩ := h <;> exact createTemplateBinding_means imports hbin h hroot

theorem templateAttributeBinding_means {x : Nat} {kind : TemplateKind} {attr : TextAttribute}
    {J : CompilationJob} {p} (h : templateAttributeBinding imports x kind attr J = .ok p)
    (hroot : ctx J.root = scope.root) :
    ctx p.2.root = scope.root ∧ (attr.templateValue ∈ T → EntryMeans rt scope ctx T p.1) := by
  simp only [templateAttributeBinding, bind_eq_ok_iff] at h
  obtain ⟨_, -, h⟩ := h
  exact createTemplateBinding_means imports hbin h hroot

theorem templateInputBinding_means {x : Nat} {kind : TemplateKind} {input : BoundAttribute}
    {J : CompilationJob} {p} (h : templateInputBinding imports x kind input J = .ok p)
    (hroot : ctx J.root = scope.root) :
    ctx p.2.root = scope.root ∧ (input.templateValue ∈ T → EntryMeans rt scope ctx T p.1) := by
  simp only [templateInputBinding, bind_eq_ok_iff] at h
  obtain ⟨_, -, h⟩ := h
  exact createTemplateBinding_means imports hbin h hroot

/-- A template's output is a listener on a plain template, and an extracted attribute, with no
expression, on a structural one. -/
theorem templateOutputOps_means {op : TemplateOp} {kind : TemplateKind} {output : BoundEvent}
    {J : CompilationJob} {p} (h : templateOutputOps imports op kind output J = .ok p)
    (hroot : ctx J.root = scope.root) :
    ctx p.2.root = scope.root ∧
      (.output output ∈ T → ∀ o ∈ p.1, CreateOp.Means rt scope ctx T o) := by
  simp only [templateOutputOps, bind_eq_ok_iff] at h
  obtain ⟨_, -, ⟨ls, J₁⟩, h₁, h⟩ := h
  cases h
  have hl : ctx J₁.root = scope.root ∧
      (.output output ∈ T → ∀ o ∈ ls, CreateOp.Means rt scope ctx T o) := by
    split at h₁
    · simp only [bind_eq_ok_iff, pure_bind] at h₁
      obtain ⟨⟨_, _⟩, h₁, h⟩ := h₁
      cases h
      exact (createListener_listens rt scope imports ctx hbin h₁ hroot).imp_right
        fun hl hT => List.forall_mem_singleton.2 (hl.means hT)
    · cases h₁; exact ⟨hroot, fun _ _ h => nomatch h⟩
  refine ⟨hl.1, fun hT o ho => (List.mem_append.mp ho).elim (hl.2 hT o) fun ho => ?_⟩
  split at ho <;> simp only [List.mem_singleton, List.not_mem_nil] at ho
  subst ho
  exact fun _ h => nomatch h

theorem ingestTemplateBindings_faithful {u : Nat} {op : TemplateOp} {tmpl : Template}
    {kind : TemplateKind} {J J' : CompilationJob}
    (h : ingestTemplateBindings imports u op tmpl kind J = .ok J') (hT : tmpl.values ⊆ T)
    (hJ : Faithful rt scope ctx T J) : Faithful rt scope ctx T J' := by
  simp only [ingestTemplateBindings, bind_eq_ok_iff] at h
  obtain ⟨⟨tas, J₁⟩, h₁, ⟨attrs, J₂⟩, h₂, ⟨inputs, J₃⟩, h₃, ⟨outs, J₄⟩, h₄, h⟩ := h
  cases h
  simp only [Template.values, List.append_subset] at hT
  obtain ⟨⟨⟨hA, hB⟩, hI⟩, hO⟩ := hT
  obtain ⟨q₁, r₁⟩ := mapJob_all (fun J => ctx J.root = scope.root) (·.templateValue ∈ T)
    (EntryMeans rt scope ctx T) (fun _ _ _ hp hq => templateAttrBinding_means imports hbin hp hq)
    (fun a ha => hA (List.mem_map_of_mem _ ha)) h₁ hJ.root
  obtain ⟨q₂, r₂⟩ := mapJob_all (fun J => ctx J.root = scope.root) (·.templateValue ∈ T)
    (EntryMeans rt scope ctx T)
    (fun _ _ _ hp hq => templateAttributeBinding_means imports hbin hp hq)
    (fun a ha => hB (List.mem_map_of_mem _ ha)) h₂ q₁
  obtain ⟨q₃, r₃⟩ := mapJob_all (fun J => ctx J.root = scope.root) (·.templateValue ∈ T)
    (EntryMeans rt scope ctx T) (fun _ _ _ hp hq => templateInputBinding_means imports hbin hp hq)
    (fun a ha => hI (List.mem_map_of_mem _ ha)) h₃ q₂
  obtain ⟨-, r₄⟩ := mapJob_all (fun J => ctx J.root = scope.root) (.output · ∈ T)
    (∀ o ∈ ·, CreateOp.Means rt scope ctx T o)
    (fun _ _ _ hp hq => templateOutputOps_means imports hbin hp hq)
    (fun o ho => hO (List.mem_map_of_mem _ ho)) h₄ q₃
  exact hJ.bindingsTail ((((templateAttrBinding_step imports op.xref kind).mapJob h₁).1.trans
      ((templateAttributeBinding_step imports op.xref kind).mapJob h₂).1).trans
      ((templateInputBinding_step imports op.xref kind).mapJob h₃).1)
    (fun e he => by
      simp only [List.mem_append] at he
      exact he.elim (fun he => he.elim (r₁ e) (r₂ e)) (r₃ e))
    (mapJob_spec (·.flatMap CreateOp.introduced) (∀ o ∈ ·, o.On op.xref)
      (fun _ _ _ hp => templateOutputOps_spec imports hp) _ h₄).1
    fun o ho => let ⟨l, hl, ho⟩ := List.mem_flatten.mp ho; r₄ l hl o ho

/-! ## Elements and templates -/

theorem ingestElement_keeps (u : Nat) (element : Element) {ingestChildren : IngestChildren}
    (hc : Keeps rt scope ctx T (ingestChildren u)) (hT : element.values ⊆ T) :
    Keeps rt scope ctx T (ingestElement imports u element ingestChildren) := by
  intro J J' h hJ
  simp only [ingestElement, bind_eq_ok_iff] at h
  obtain ⟨_, -, J₃, h₃, J₅, h₅, h⟩ := h
  have hJ₃ := ingestElementBindings_faithful imports hbin h₃ hT
    (hJ.allocateXrefId.pushCreate u (List.forall_mem_singleton.2 (by trivial)))
  rcases hm : element.i18n with _ | (m | n) <;> simp only [hm] at h₅ h <;> cases h
  case some.message.refl =>
    exact ((hc _ _ h₅ (hJ₃.allocateXrefId.pushCreate u (List.forall_mem_singleton.2 (by trivial)))
      ).pushCreate u (List.forall_mem_singleton.2 (by trivial))).insertCreate u (by trivial) _
  all_goals exact (hc _ _ h₅ hJ₃).pushCreate u (List.forall_mem_singleton.2 (by trivial))

theorem ingestTemplate_keeps (u : Nat) (tmpl : Template) {ingestChildren : IngestChildren}
    (hc : ∀ v, Keeps rt scope ctx T (ingestChildren v)) (hT : tmpl.values ⊆ T) :
    Keeps rt scope ctx T (ingestTemplate imports u tmpl ingestChildren) := by
  intro J J' h hJ
  simp only [ingestTemplate, bind_eq_ok_iff] at h
  obtain ⟨_, -, J₃, h₃, J₄, h₄, h⟩ := h
  have hJ₄ := hc _ _ _ h₄ (ingestTemplateBindings_faithful imports hbin h₃ hT
    ((hJ.allocateView u).pushCreate u (List.forall_mem_singleton.2 (by trivial))))
  -- The template's variables only set context variables of the child view.
  have hJ₅ := fun xs => Faithful.foldl (fun _ (v : Reference) h => h.setContextVariable
    (J.allocateView u).1 v.name (if v.value != "" then v.value else "$implicit")) xs hJ₄
  split at h <;> cases h
  · exact ((hJ₅ _).allocateXrefId.insertCreate _ (by trivial) 0).insertCreate _ (by trivial) _
  · exact hJ₅ _

/-! ## Control flow -/

/-- A branch's case expression, converted, evaluates to the template's. -/
theorem caseExpr_means {e : Option AST} {J : CompilationJob} {base : Option ParseSourceSpan}
    {p : Option Expression × CompilationJob}
    (h : (match e with
      | some expression => do
        let (x, job) ← convertAst imports expression J base
        pure (some x, job)
      | none => pure (none, J)) = Except.ok p)
    (hJ : Faithful rt scope ctx T J) (hT : (e.map TemplateValue.expression).toList ⊆ T) :
    Faithful rt scope ctx T p.2 ∧ ∀ x ∈ p.1, ExprMeans rt scope ctx T x := by
  rcases e with _ | a
  · cases h; exact ⟨hJ, fun _ h => by cases h⟩
  obtain ⟨⟨x, J'⟩, hx, h⟩ := bind_eq_ok_iff.mp h
  cases h
  have ⟨hJ', hx⟩ := convertAst_faithful imports hbin hx hJ (hT (List.mem_singleton_self _))
  exact ⟨hJ', fun y hy => Option.mem_some_iff.mp hy ▸ hx⟩

theorem ingestIfBranches_faithful {u : Nat} :
    ∀ (i : Nat) (branches : List (IfBlockBranch × List Node × IngestChildren))
      (acc : ConditionalAcc) {J : CompilationJob} {p : ConditionalAcc × CompilationJob},
      (∀ b ∈ branches, (b.1.expression.map TemplateValue.expression).toList ⊆ T ∧
        nodesValues b.2.1 ⊆ T ∧ ∀ v, Keeps rt scope ctx T (b.2.2 v)) →
      ingestIfBranches imports u i branches acc J = .ok p → Faithful rt scope ctx T J →
      (∀ c ∈ acc.conditions, ∀ x ∈ c.expr, ExprMeans rt scope ctx T x) →
      Faithful rt scope ctx T p.2 ∧ ∀ c ∈ p.1.conditions, ∀ x ∈ c.expr, ExprMeans rt scope ctx T x
  | _, [], _, _, _, _, h, hJ, hacc => by cases h; exact ⟨hJ, hacc⟩
  | i, (ifCase, children, ingestChildren) :: branches, acc, J, p, hb, h, hJ, hacc => by
    simp only [ingestIfBranches, bind_eq_ok_iff] at h
    obtain ⟨⟨tag, J₂⟩, h₂, m, -, ⟨caseExpr, J₄⟩, h₄, J₅, h₅, h⟩ := h
    obtain ⟨hE, hN, hK⟩ := hb _ (List.mem_cons_self _ _)
    -- Only the first branch gets the insertion point's bindings.
    have hJ₂ : Faithful rt scope ctx T J₂ := by
      split at h₂
      · exact ingestControlFlowInsertionPoint_faithful imports h₂ hN (hJ.allocateView u)
      · cases h₂; exact hJ.allocateView u
    obtain ⟨hJ₄, hx⟩ := caseExpr_means imports hbin h₄ (by
      refine Faithful.pushCreate ?_ u (List.forall_mem_singleton.2 (by trivial))
      split
      · exact hJ₂.setContextVariable _ _ _
      · exact hJ₂ : Faithful rt scope ctx T _) hE
    exact ingestIfBranches_faithful (i + 1) branches _
      (fun b hb' => hb b (List.mem_cons_of_mem _ hb')) h (hK _ _ _ h₅ hJ₄)
      (ConditionalAcc.add_means hacc hx)

theorem ingestIfBlock_keeps (u : Nat) (ifBlock : IfBlock)
    {branches : List (IfBlockBranch × List Node × IngestChildren)}
    (hb : ∀ b ∈ branches, (b.1.expression.map TemplateValue.expression).toList ⊆ T ∧
      nodesValues b.2.1 ⊆ T ∧ ∀ v, Keeps rt scope ctx T (b.2.2 v)) :
    Keeps rt scope ctx T (ingestIfBlock imports u ifBlock branches) := by
  intro J J' h hJ
  simp only [ingestIfBlock, bind_eq_ok_iff] at h
  obtain ⟨⟨acc, J₁⟩, h₁, h⟩ := h
  cases h
  obtain ⟨hJ₁, hacc⟩ :=
    ingestIfBranches_faithful imports hbin 0 branches _ hb h₁ hJ fun _ h => by cases h
  exact hJ₁.pushUpdate u (List.forall_mem_singleton.2 ⟨(fun _ h => nomatch h), hacc⟩)

theorem ingestSwitchCases_faithful {u : Nat} (switchBlock : SwitchBlock) :
    ∀ (cases : List (SwitchBlockCase × IngestChildren)) (acc : ConditionalAcc)
      {J : CompilationJob} {p : ConditionalAcc × CompilationJob},
      (∀ c ∈ cases, (c.1.expression.map TemplateValue.expression).toList ⊆ T ∧
        ∀ v, Keeps rt scope ctx T (c.2 v)) →
      ingestSwitchCases imports u switchBlock cases acc J = .ok p → Faithful rt scope ctx T J →
      (∀ c ∈ acc.conditions, ∀ x ∈ c.expr, ExprMeans rt scope ctx T x) →
      Faithful rt scope ctx T p.2 ∧ ∀ c ∈ p.1.conditions, ∀ x ∈ c.expr, ExprMeans rt scope ctx T x
  | [], _, _, _, _, h, hJ, hacc => by cases h; exact ⟨hJ, hacc⟩
  | (switchCase, ingestChildren) :: cases, acc, J, p, hc, h, hJ, hacc => by
    simp only [ingestSwitchCases, bind_eq_ok_iff] at h
    obtain ⟨m, -, ⟨caseExpr, J₄⟩, h₄, J₅, h₅, h⟩ := h
    obtain ⟨hE, hK⟩ := hc _ (List.mem_cons_self _ _)
    obtain ⟨hJ₄, hx⟩ := caseExpr_means imports hbin h₄
      ((hJ.allocateView u).pushCreate u (List.forall_mem_singleton.2 (by trivial))) hE
    exact ingestSwitchCases_faithful switchBlock cases _
      (fun c hc' => hc c (List.mem_cons_of_mem _ hc')) h (hK _ _ _ h₅ hJ₄)
      (ConditionalAcc.add_means hacc hx)

theorem ingestSwitchBlock_keeps (u : Nat) (switchBlock : SwitchBlock)
    {cases : List (SwitchBlockCase × IngestChildren)}
    (hE : .expression switchBlock.expression ∈ T)
    (hc : ∀ c ∈ cases, (c.1.expression.map TemplateValue.expression).toList ⊆ T ∧
      ∀ v, Keeps rt scope ctx T (c.2 v)) :
    Keeps rt scope ctx T (ingestSwitchBlock imports u switchBlock cases) := by
  intro J J' h hJ
  unfold ingestSwitchBlock at h
  split at h
  · cases h; exact hJ
  simp only [bind_eq_ok_iff] at h
  obtain ⟨⟨acc, J₁⟩, h₁, ⟨test, J₂⟩, h₂, h⟩ := h
  cases h
  obtain ⟨hJ₁, hacc⟩ :=
    ingestSwitchCases_faithful imports hbin switchBlock cases _ hc h₁ hJ fun _ h => by cases h
  have ⟨hJ₂, htest⟩ := convertAst_faithful imports hbin h₂ hJ₁ hE
  exact hJ₂.pushUpdate u
    (List.forall_mem_singleton.2 ⟨fun x hx => Option.mem_some_iff.mp hx ▸ htest, hacc⟩)

theorem ingestDeferTriggers_faithful {x : Nat} {prefetch : Bool}
    {triggers : DeferredBlockTriggers} {ons ons' : List CreateOp} {whens whens' : List UpdateOp}
    {J J' : CompilationJob}
    (h : ingestDeferTriggers imports x prefetch triggers ons whens J = .ok ((ons', whens'), J'))
    (hJ : Faithful rt scope ctx T J) (hT : triggers.values ⊆ T)
    (hons : ∀ op ∈ ons, CreateOp.Means rt scope ctx T op)
    (hwhens : ∀ op ∈ whens, UpdateOp.Means rt scope ctx T op) :
    Faithful rt scope ctx T J' ∧ (∀ op ∈ ons', CreateOp.Means rt scope ctx T op) ∧
      ∀ op ∈ whens', UpdateOp.Means rt scope ctx T op := by
  simp only [ingestDeferTriggers, bind_eq_ok_iff] at h
  obtain ⟨⟨ws, J₁⟩, h₁, h⟩ := h
  cases h
  have hw : Faithful rt scope ctx T J₁ ∧ ∀ op ∈ ws, UpdateOp.Means rt scope ctx T op := by
    rcases hw : triggers.when with _ | w <;> simp only [hw] at h₁
    · cases h₁; exact ⟨hJ, hwhens⟩
    split at h₁
    · cases h₁
    obtain ⟨⟨e, J₂⟩, he, h₁⟩ := bind_eq_ok_iff.mp h₁
    cases h₁
    have ⟨hJ₂, hwhen⟩ := convertAst_faithful imports hbin he hJ
      (hT (by simp only [DeferredBlockTriggers.values, hw]; exact List.mem_singleton_self _))
    exact ⟨hJ₂, fun op hop => (List.mem_append.mp hop).elim (hwhens op) fun hop =>
      List.mem_singleton.mp hop ▸ hwhen⟩
  refine ⟨hw.1, ?_, hw.2⟩
  have ht : ∀ op ∈ deferOnTriggers x prefetch triggers, CreateOp.Means rt scope ctx T op :=
    deferOnTriggers_means x prefetch triggers
  split_ifs
  · intro op hop
    simp only [List.mem_append, List.mem_singleton] at hop
    rcases hop with (hop | hop) | rfl
    exacts [hons op hop, ht op hop, trivial]
  · exact fun op hop => (List.mem_append.mp hop).elim (hons op) (ht op)

theorem ingestDeferBlock_keeps (u : Nat) (deferBlock : DeferredBlock)
    {ingestChildren : IngestChildren}
    {placeholder loading error : Option (DeferredBlockSecondary × IngestChildren)}
    (hc : ∀ v, Keeps rt scope ctx T (ingestChildren v))
    (hp : ∀ s ∈ placeholder, ∀ v, Keeps rt scope ctx T (s.2 v))
    (hl : ∀ s ∈ loading, ∀ v, Keeps rt scope ctx T (s.2 v))
    (he : ∀ s ∈ error, ∀ v, Keeps rt scope ctx T (s.2 v))
    (hT : deferBlock.triggers.values ⊆ T) (hT' : deferBlock.prefetchTriggers.values ⊆ T) :
    Keeps rt scope ctx T
      (ingestDeferBlock imports u deferBlock ingestChildren placeholder loading error) := by
  intro J J' h hJ
  simp only [ingestDeferBlock, bind_eq_ok_iff] at h
  obtain ⟨_, -, ⟨main, J₁⟩, h₁, ⟨loadingOp, J₂⟩, h₂, ⟨placeholderOp, J₃⟩, h₃, ⟨errorOp, J₄⟩, h₄,
    ⟨⟨ons, whens⟩, J₅⟩, h₅, ⟨⟨ons', whens'⟩, J₆⟩, h₆, h⟩ := h
  cases h
  have secondary (b : Option (DeferredBlockSecondary × IngestChildren))
      (hb : ∀ s ∈ b, ∀ v, Keeps rt scope ctx T (s.2 v)) :
      ∀ c ∈ b.map (fun x => (x.2, x.1.sourceSpan)), ∀ v, Keeps rt scope ctx T (c.1 v) := by
    intro c hc
    obtain ⟨s, hs, rfl⟩ := Option.mem_map.mp hc
    exact hb s hs
  have hJ₄ := ingestDeferView_faithful (secondary _ he) h₄ <|
    ingestDeferView_faithful (secondary _ hp) h₃ <| ingestDeferView_faithful (secondary _ hl) h₂ <|
    ingestDeferView_faithful (by rintro _ ⟨⟩; exact hc) h₁ hJ
  dsimp only at h₅ h₆
  obtain ⟨hJ₅, hons, hws⟩ := ingestDeferTriggers_faithful imports hbin h₅
    (hJ₄.allocateXrefId.pushCreate u (List.forall_mem_singleton.2 (by trivial))) hT
    (fun _ h => nomatch h) fun _ h => nomatch h
  obtain ⟨hJ₆, hons', hws'⟩ := ingestDeferTriggers_faithful imports hbin h₆ hJ₅ hT' hons hws
  exact (hJ₆.pushCreate u hons').pushUpdate u hws'

/-- An ICU's placeholders are texts and interpolated texts of the template. -/
theorem ingestIcu_keeps (u : Nat) (icu : Icu) (hT : icu.values ⊆ T) :
    Keeps rt scope ctx T (ingestIcu imports u icu) := by
  intro J J' h hJ
  unfold ingestIcu at h
  split at h
  · split_ifs at h
    obtain ⟨J₁, h₁, h⟩ := bind_eq_ok_iff.mp h
    cases h
    refine (foldlM_inv (Faithful rt scope ctx T) ?_ h₁
      (hJ.allocateXrefId.pushCreate u (List.forall_mem_singleton.2 (by trivial)))).pushCreate u
      (List.forall_mem_singleton.2 (by trivial))
    rintro ⟨p, t | t⟩ hm J J' h hJ
    · cases h; exact ingestText_faithful hJ u t (some p)
    · exact ingestBoundText_keeps imports hbin u t (some p)
        (hT (Icu.mem_values_of_mem_placeholderEntries hm)) J J' h hJ
  · cases h

/-- A `@for` block's track function and collection evaluate to the block's, and its
`@empty` block's insertion point binds attributes of the block's children. -/
theorem ingestForBlock_keeps (u : Nat) (forBlock : ForLoopBlock) (children : List Node)
    {ingestChildren : IngestChildren}
    {empty : Option (ForLoopBlockEmpty × List Node × IngestChildren)}
    (hc : ∀ v, Keeps rt scope ctx T (ingestChildren v))
    (he : ∀ e ∈ empty, nodesValues e.2.1 ⊆ T ∧ ∀ v, Keeps rt scope ctx T (e.2.2 v))
    (hE : .expression forBlock.expression ∈ T) (hK : .expression forBlock.trackBy ∈ T)
    (hN : nodesValues children ⊆ T) :
    Keeps rt scope ctx T (ingestForBlock imports u forBlock children ingestChildren empty) := by
  intro J J' h hJ
  simp only [ingestForBlock, bind_eq_ok_iff] at h
  obtain ⟨⟨track, J₁⟩, h₁, J₂, h₂, ⟨emptyView, emptyTag, J₃⟩, h₃, -, -, -, -, ⟨tag, J₄⟩, h₄,
    ⟨expression, J₅⟩, h₅, h⟩ := h
  cases h
  dsimp only at h₂ h₃ h₄
  -- The context variables and aliases of the repeater view hold no op.
  have ⟨hJ₁, htrack⟩ := convertAst_faithful imports hbin h₁ ((((((((((hJ.allocateView u
    ).setContextVariable _ _ _).setContextVariable _ _ _).setContextVariable _ _ _
    ).setContextVariable _ _ _).setContextVariable _ _ _).addAlias _ _).addAlias _ _).addAlias _ _
    ).addAlias _ _) hK
  have hJ₂ := hc _ _ _ h₂ hJ₁
  have hJ₃ : Faithful rt scope ctx T J₃ := by
    rcases empty with _ | ⟨blk, emptyChildren, ingestEmpty⟩
    · cases h₃; exact hJ₂
    simp only [bind_eq_ok_iff] at h₃
    obtain ⟨Je, hJe, ⟨tagE, J₃'⟩, hins, h₃⟩ := h₃
    cases h₃
    obtain ⟨hN', hK'⟩ := he _ rfl
    exact ingestControlFlowInsertionPoint_faithful imports hins hN'
      (hK' _ _ _ hJe (hJ₂.allocateView u))
  have ⟨hJ₅, hcollection⟩ := convertAst_faithful imports hbin h₅
    ((ingestControlFlowInsertionPoint_faithful imports h₄ hN hJ₃).pushCreate u
      (List.forall_mem_singleton.2 htrack)) hE
  exact hJ₅.pushUpdate u (List.forall_mem_singleton.2 hcollection)

end

/-! ## The recursion over the template -/

section

variable (imports : Imports) {V σ : Type} {rt : Runtime V σ} {scope : TemplateScope V}
  {ctx : Nat → V} {T : List TemplateValue}

mutual

theorem ingestNodes_keeps (hbin : ∀ s o, imports.binaryOperators s = some o →
      rt.binaryToken s = some (rt.binary o)) : ∀ (ns : List Node) (u : Nat), nodesValues ns ⊆ T →
    Keeps rt scope ctx T (ingestNodes imports u ns)
  | [], _, _ => fun _ _ h hJ => by cases h; exact hJ
  | n :: ns, u, hT => fun J J' h hJ => by
    rw [nodesValues, List.append_subset] at hT
    obtain ⟨J₁, h₁, h⟩ := bind_eq_ok_iff.mp h
    exact ingestNodes_keeps hbin ns u hT.2 _ _ h (ingestNode_keeps hbin n u hT.1 _ _ h₁ hJ)

theorem ingestNode_keeps (hbin : ∀ s o, imports.binaryOperators s = some o →
      rt.binaryToken s = some (rt.binary o)) : ∀ (n : Node) (u : Nat), n.values ⊆ T →
    Keeps rt scope ctx T (ingestNode imports u n)
  | .element element children, u, hT => fun J J' h => by
    rw [ingestNode] at h
    rw [Node.values, List.append_subset] at hT
    exact ingestElement_keeps imports hbin u element (ingestNodes_keeps hbin children u hT.2) hT.1 J J' h
  | .template tmpl children, u, hT => fun J J' h => by
    rw [ingestNode] at h
    rw [Node.values, List.append_subset] at hT
    exact ingestTemplate_keeps imports hbin u tmpl (fun v => ingestNodes_keeps hbin children v hT.2) hT.1
      J J' h
  | .content content, u, hT => fun J J' h => by
    rw [ingestNode] at h
    rw [Node.values] at hT
    exact ingestContent_keeps imports u content (fun a ha => hT (List.mem_map_of_mem _ ha)) J J' h
  | .text text, u, _ => fun J J' h hJ => by
    rw [ingestNode] at h
    cases h
    exact ingestText_faithful hJ u text none
  | .boundText text, u, hT => fun J J' h => by
    rw [ingestNode] at h
    rw [Node.values] at hT
    exact ingestBoundText_keeps imports hbin u text none (hT (List.mem_singleton_self _)) J J' h
  | .ifBlock block branches, u, hT => fun J J' h => by
    rw [ingestNode] at h
    rw [Node.values] at hT
    exact ingestIfBlock_keeps imports hbin u block (closeIfBranches_keeps hbin branches hT) J J' h
  | .switchBlock block cases, u, hT => fun J J' h => by
    rw [ingestNode] at h
    rw [Node.values, List.cons_subset] at hT
    exact ingestSwitchBlock_keeps imports hbin u block hT.1 (closeSwitchCases_keeps hbin cases hT.2)
      J J' h
  | .deferredBlock block children placeholder loading error, u, hT => fun J J' h => by
    rw [ingestNode] at h
    simp only [Node.values, List.append_subset] at hT
    obtain ⟨⟨⟨⟨⟨ht, hp⟩, hc⟩, hph⟩, hl⟩, he⟩ := hT
    exact ingestDeferBlock_keeps imports hbin u block (fun v => ingestNodes_keeps hbin children v hc)
      (closeDeferSecondary_keeps hbin placeholder hph) (closeDeferSecondary_keeps hbin loading hl)
      (closeDeferSecondary_keeps hbin error he) ht hp J J' h
  | .icu icu, u, hT => fun J J' h => by
    rw [ingestNode] at h
    rw [Node.values] at hT
    exact ingestIcu_keeps imports hbin u icu hT J J' h
  | .forLoopBlock block children empty, u, hT => fun J J' h => by
    rw [ingestNode] at h
    simp only [Node.values, List.cons_subset, List.append_subset] at hT
    obtain ⟨⟨hE, hK, hc⟩, he⟩ := hT
    exact ingestForBlock_keeps imports hbin u block children
      (fun v => ingestNodes_keeps hbin children v hc) (closeForEmpty_keeps hbin empty he) hE hK hc J J' h
  | .comment _, _, _ | .unknownBlock _, _, _ => fun _ _ h => by
    rw [ingestNode] at h
    cases h

theorem closeIfBranches_keeps (hbin : ∀ s o, imports.binaryOperators s = some o →
      rt.binaryToken s = some (rt.binary o)) :
    ∀ (branches : List (IfBlockBranch × List Node)),
    branchesValues branches ⊆ T → ∀ b ∈ closeIfBranches imports branches,
      (b.1.expression.map TemplateValue.expression).toList ⊆ T ∧ nodesValues b.2.1 ⊆ T ∧
        ∀ v, Keeps rt scope ctx T (b.2.2 v)
  | [], _ => fun _ hb => by rw [closeIfBranches] at hb; cases hb
  | (_, children) :: branches, hT => fun b hb => by
    rw [branchesValues, List.append_subset, List.append_subset] at hT
    rw [closeIfBranches] at hb
    rcases List.mem_cons.mp hb with rfl | hb
    · exact ⟨hT.1.1, hT.1.2, fun v => ingestNodes_keeps hbin children v hT.1.2⟩
    · exact closeIfBranches_keeps hbin branches hT.2 b hb

theorem closeSwitchCases_keeps (hbin : ∀ s o, imports.binaryOperators s = some o →
      rt.binaryToken s = some (rt.binary o)) :
    ∀ (cases : List (SwitchBlockCase × List Node)),
    casesValues cases ⊆ T → ∀ c ∈ closeSwitchCases imports cases,
      (c.1.expression.map TemplateValue.expression).toList ⊆ T ∧ ∀ v, Keeps rt scope ctx T (c.2 v)
  | [], _ => fun _ hc => by rw [closeSwitchCases] at hc; cases hc
  | (_, children) :: cases, hT => fun c hc => by
    rw [casesValues, List.append_subset, List.append_subset] at hT
    rw [closeSwitchCases] at hc
    rcases List.mem_cons.mp hc with rfl | hc
    · exact ⟨hT.1.1, fun v => ingestNodes_keeps hbin children v hT.1.2⟩
    · exact closeSwitchCases_keeps hbin cases hT.2 c hc

theorem closeDeferSecondary_keeps (hbin : ∀ s o, imports.binaryOperators s = some o →
      rt.binaryToken s = some (rt.binary o)) :
    ∀ (block : Option (DeferredBlockSecondary × List Node)),
    secondaryValues block ⊆ T → ∀ s ∈ closeDeferSecondary imports block, ∀ v,
      Keeps rt scope ctx T (s.2 v)
  | none, _ => fun _ hs => by rw [closeDeferSecondary] at hs; cases hs
  | some (_, children), hT => fun s hs v => by
    rw [closeDeferSecondary] at hs
    cases hs
    exact ingestNodes_keeps hbin children v hT

theorem closeForEmpty_keeps (hbin : ∀ s o, imports.binaryOperators s = some o →
      rt.binaryToken s = some (rt.binary o)) :
    ∀ (empty : Option (ForLoopBlockEmpty × List Node)),
    emptyValues empty ⊆ T → ∀ e ∈ closeForEmpty imports empty,
      nodesValues e.2.1 ⊆ T ∧ ∀ v, Keeps rt scope ctx T (e.2.2 v)
  | none, _ => fun _ he => by rw [closeForEmpty] at he; cases he
  | some (_, children), hT => fun e he => by
    rw [closeForEmpty] at he
    cases he
    exact ⟨hT, fun v => ingestNodes_keeps hbin children v hT⟩

end

/-- **Ingestion invents no meaning.** In every runtime whose binary operators are the ones the
imports name, with every context of the views in which the root view's is the component, every
op of the job `ingestComponent` builds that holds an expression means something the template
binds: a binding op evaluates to a binding of the same name of the template, a listener's
handler returns what an output of the same name handles, and interpolated texts, conditions,
`@switch` tests, `@for` collections and track functions and `when` triggers evaluate to
expressions of the template. -/
theorem ingestComponent_faithful
    (hbin : ∀ s o, imports.binaryOperators s = some o → rt.binaryToken s = some (rt.binary o))
    {componentName : String} {template : List Node}
    {deferBlocksMeta : DeferredBlock → Option R3DeferBlockMetadata} {J : CompilationJob}
    (h : ingestComponent imports componentName template deferBlocksMeta = .ok J)
    (hroot : ctx 0 = scope.root) : Faithful rt scope ctx (nodesValues template) J :=
  ingestNodes_keeps imports hbin template 0 (List.Subset.refl _) _ _ h (.component hroot _ _ _)

end

/-- The text `{{a}}`. -/
def interpolatedA : BoundText :=
  ⟨.interpolation ⟨0, 5⟩ ["", ""] [.propertyRead ⟨2, 3⟩ (.implicitReceiver ⟨2, 2⟩) "a"],
    exampleSpan, none⟩

/-- The read `a`. -/
def readA : AST := .propertyRead ⟨2, 3⟩ (.implicitReceiver ⟨2, 2⟩) "a"

/-- `[title]="a"`. -/
def titleInput : BoundAttribute :=
  { name := "title", type := .property, securityContext := .none, value := readA, unit := none,
    sourceSpan := exampleSpan, i18n := none }

/-- `(click)="a"`. -/
def clickOutput : BoundEvent :=
  { name := "click", type := .regular, handler := readA, target := none, phase := none,
    sourceSpan := exampleSpan, handlerSpan := exampleSpan }

/-- `<div [title]="a" (click)="a">`. -/
def boundDiv : Element :=
  { name := "div", attributes := [], inputs := [titleInput], outputs := [clickOutput],
    references := [], sourceSpan := exampleSpan, startSourceSpan := exampleSpan,
    endSourceSpan := none, i18n := none }

/-- `<div [title]="a" (click)="a">{{a}}</div>`: a binding, a listener and an interpolated text
each mean what the template says. -/
theorem ingestComponent_faithful_boundDiv :
    ∃ J, ingestComponent Imports.plain "C" [.element boundDiv [.boundText interpolatedA]]
        (fun _ => none) = .ok J ∧
      Faithful intRuntime localA (fun _ => 1)
        (nodesValues [.element boundDiv [.boundText interpolatedA]]) J :=
  ⟨_, rfl, ingestComponent_faithful Imports.plain (fun _ _ h => by cases h) rfl rfl⟩

end Angular.Compiler
