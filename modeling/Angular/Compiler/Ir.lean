import Angular.Compiler.Ast

/-!
# Angular.Compiler.Ir

The **target of ingestion**: the output/IR expressions (`o.*`, `ir.*Expr`), the create and
update ops (`ir.*Op`) and the compilation job with its units (`compilation.ts`).

The `ir` module, `output/output_ast` and `compilation.ts` are not under src. The ops and
expressions keep the fields that the `ir.create*Op` calls of `ingest.ts` set; the job and
its units are modelled from the spec (§3, §9). Design points:

* **Xrefs are numbers.** `ir.XrefId` is a branded `number` drawn from the job's counter;
  here it is a `Nat`.
* **Units live in an arena.** `CompilationJob.views` holds every unit, the root first, in
  allocation order; a unit is addressed by its xref (spec §9: "an arena of compilation
  units keyed by integer id"). Mutating `unit.create` in the source is `pushCreate` on
  the job here.
* **Slot handles are named by their owner.** `new ir.SlotHandle()` is created together
  with exactly one op or pipe, so a handle is modelled by the xref of that op or pipe; an
  op whose own handle the source creates carries no handle field, and an op that
  refers to another op's handle stores `SlotHandle.ofOp owner`.
* **Ops in an `OpList` are addressed by position.** The source inserts relative to an op
  object (`OpList.insertBefore(op, target)`); the model inserts before the target's index.
  `head` and `tail` are the list's sentinels, so inserting after `head` prepends and
  inserting before `tail` appends.
-/

namespace Angular.Compiler

/-- `ir.SlotHandle`, named by the xref of the op or pipe created with it. -/
inductive SlotHandle where
  /-- The handle created together with the op or pipe `owner`. -/
  | ofOp (owner : Nat)
  /-- A handle created on its own (the target slot of a host listener). -/
  | fresh
  deriving Repr, DecidableEq

/-! ## Output and IR expressions -/

/-- `o.UnaryOperator`. -/
inductive UnaryOperator where
  | minus | plus
  deriving Repr, DecidableEq

/-- `o.BinaryOperator`. -/
inductive BinaryOperator where
  | equals | notEquals | identical | notIdentical | minus | plus | divide | multiply
  | modulo | and | or | bitwiseOr | bitwiseAnd | lower | lowerEquals | bigger
  | biggerEquals | nullishCoalesce
  deriving Repr, DecidableEq

/-- `o.Expression` together with the IR expressions ingestion creates. -/
inductive Expression where
  /-- `ir.LexicalReadExpr`: a read of a name resolved later through the view's scope. -/
  | lexicalRead (name : String)
  /-- `ir.ContextExpr`: the context object of the view `view`. -/
  | context (view : Nat)
  | readProp (receiver : Expression) (name : String) (sourceSpan : Option ParseSourceSpan)
  | writeProp (receiver : Expression) (name : String) (value : Expression)
      (sourceSpan : Option ParseSourceSpan)
  | readKey (receiver index : Expression) (sourceSpan : Option ParseSourceSpan)
  | writeKey (receiver index value : Expression) (sourceSpan : Option ParseSourceSpan)
  | invokeFunction (fn : Expression) (args : List Expression)
      (sourceSpan : Option ParseSourceSpan)
  | literal (value : LiteralValue) (sourceSpan : Option ParseSourceSpan)
  | unaryOperator (operator : UnaryOperator) (expr : Expression)
      (sourceSpan : Option ParseSourceSpan)
  | binaryOperator (operator : BinaryOperator) (lhs rhs : Expression)
      (sourceSpan : Option ParseSourceSpan)
  /-- `o.LiteralMapExpr`; an entry is a key (with its `quoted` flag) and a value. -/
  | literalMap (entries : List (LiteralMapKey × Expression)) (sourceSpan : Option ParseSourceSpan)
  | literalArray (entries : List Expression)
  | conditional (condition trueCase falseCase : Expression) (sourceSpan : Option ParseSourceSpan)
  | not (condition : Expression) (sourceSpan : Option ParseSourceSpan)
  /-- `ir.PipeBindingExpr`: a pipe, with its own xref (and the slot handle it owns). -/
  | pipeBinding (target : Nat) (name : String) (args : List Expression)
  | safeKeyedRead (receiver index : Expression) (sourceSpan : Option ParseSourceSpan)
  | safePropertyRead (receiver : Expression) (name : String)
  | safeInvokeFunction (receiver : Expression) (args : List Expression)
  /-- `ir.EmptyExpr`. -/
  | empty (sourceSpan : Option ParseSourceSpan)
  deriving Repr

/-- `expr.sourceSpan` (`null` for the expressions built without one). -/
def Expression.sourceSpan : Expression → Option ParseSourceSpan
  | .readProp _ _ s | .writeProp _ _ _ s | .readKey _ _ s | .writeKey _ _ _ s
  | .invokeFunction _ _ s | .literal _ s | .unaryOperator _ _ s | .binaryOperator _ _ _ s
  | .literalMap _ s | .conditional _ _ _ s | .not _ s | .safeKeyedRead _ _ s | .empty s => s
  | _ => none

/-- `o.Statement`, as the statement ops of a listener's handler hold them. -/
inductive Statement where
  | expression (expr : Expression) (sourceSpan : Option ParseSourceSpan)
  | «return» (value : Expression) (sourceSpan : Option ParseSourceSpan)
  deriving Repr

/-- `ir.Interpolation`: the strings and expressions of an interpolation, and the i18n
placeholder names of its expressions, none or one per expression (the constructor checks
this, see `Interpolation.new`). -/
structure Interpolation where
  strings : List String
  expressions : List Expression
  i18nPlaceholders : List String
  placeholders_count : i18nPlaceholders.length = 0 ∨ i18nPlaceholders.length = expressions.length
  deriving Repr

/-- `new ir.Interpolation(strings, expressions, i18nPlaceholders)`, which throws unless there
are no placeholders or one per expression. -/
def Interpolation.new (strings : List String) (expressions : List Expression)
    (i18nPlaceholders : List String) : Except String Interpolation :=
  if h : i18nPlaceholders.length ≠ 0 ∧ i18nPlaceholders.length ≠ expressions.length then
    .error ("Expected " ++ toString expressions.length ++
      " placeholders to match interpolation expression count, but got " ++
      toString i18nPlaceholders.length)
  else .ok ⟨strings, expressions, i18nPlaceholders, by omega⟩

/-- Without placeholders (a host property) the constructor cannot throw. -/
@[simp]
theorem Interpolation.new_nil (strings : List String) (expressions : List Expression) :
    Interpolation.new strings expressions [] = .ok ⟨strings, expressions, [], .inl rfl⟩ := rfl

/-- What the constructor returns is what it was given. -/
theorem Interpolation.eq_of_new {strings : List String} {expressions : List Expression}
    {i18nPlaceholders : List String} {i : Interpolation}
    (h : Interpolation.new strings expressions i18nPlaceholders = .ok i) :
    ∃ hc, i = ⟨strings, expressions, i18nPlaceholders, hc⟩ := by
  unfold Interpolation.new at h
  split at h
  · cases h
  · cases h; exact ⟨_, rfl⟩

/-- The constructor keeps what it is given when the placeholder count fits. -/
theorem Interpolation.new_of_count {strings : List String} {expressions : List Expression}
    {i18nPlaceholders : List String}
    (h : i18nPlaceholders.length = 0 ∨ i18nPlaceholders.length = expressions.length) :
    Interpolation.new strings expressions i18nPlaceholders = .ok ⟨strings, expressions, i18nPlaceholders, h⟩ := by
  rw [Interpolation.new, dif_neg (by omega)]

/-- The value of a binding: `o.Expression | ir.Interpolation`. -/
inductive BindingExpression where
  | expression (expr : Expression)
  | interpolation (interpolation : Interpolation)
  deriving Repr

/-! ## Ops -/

/-- `ir.Namespace`. -/
inductive Namespace where
  | html | svg | math
  deriving Repr, DecidableEq

/-- `ir.TemplateKind`. -/
inductive TemplateKind where
  | ngTemplate | structural | block
  deriving Repr, DecidableEq

/-- `ir.BindingKind`. -/
inductive BindingKind where
  | attribute | className | styleProperty | property | template | i18n | animation
  deriving Repr, DecidableEq

/-- `ir.CompatibilityMode`; `normal` is the falsy member. -/
inductive CompatibilityMode where
  | normal | templateDefinitionBuilder
  deriving Repr, DecidableEq

/-- `ir.LocalRef`: a local reference `#name="target"` of an element or template. -/
structure LocalRef where
  name : String
  target : String
  deriving Repr, DecidableEq

/-- `R3DeferBlockMetadata`: the resolved dependencies of a `@defer` block, opaque to
ingestion. -/
structure R3DeferBlockMetadata where
  deps : List String
  deriving Repr

/-- `ir.ElementStartOp`. -/
structure ElementStartOp where
  tag : String
  xref : Nat
  «namespace» : Namespace
  i18nPlaceholder : Option I18nMeta
  startSourceSpan : ParseSourceSpan
  wholeSourceSpan : ParseSourceSpan
  localRefs : List LocalRef
  deriving Repr

/-- `ir.TemplateOp`: declares the view `xref` in its parent. -/
structure TemplateOp where
  xref : Nat
  templateKind : TemplateKind
  tag : Option String
  functionNameSuffix : String
  «namespace» : Namespace
  i18nPlaceholder : Option I18nMeta
  startSourceSpan : ParseSourceSpan
  wholeSourceSpan : ParseSourceSpan
  localRefs : List LocalRef
  deriving Repr

/-- `ir.ListenerOp`. -/
structure ListenerOp where
  target : Nat
  targetSlot : SlotHandle
  name : String
  tag : Option String
  handlerOps : List Statement
  animationPhase : Option String
  eventTarget : Option String
  hostListener : Bool
  sourceSpan : ParseSourceSpan
  deriving Repr

/-- `ir.ExtractedAttributeOp`. -/
structure ExtractedAttributeOp where
  target : Nat
  bindingKind : BindingKind
  «namespace» : Option String
  name : String
  expression : Option Expression
  i18nContext : Option Nat
  i18nMessage : Option Message
  securityContext : SecurityContext
  deriving Repr

/-- `ir.DeferOp`. -/
structure DeferOp where
  xref : Nat
  mainView : Nat
  mainSlot : SlotHandle
  metadata : R3DeferBlockMetadata
  sourceSpan : ParseSourceSpan
  placeholderView : Option Nat
  placeholderSlot : Option SlotHandle
  loadingSlot : Option SlotHandle
  errorSlot : Option SlotHandle
  placeholderMinimumTime : Option Nat
  loadingMinimumTime : Option Nat
  loadingAfterTime : Option Nat
  deriving Repr

/-- `ir.DeferTrigger`; the target of a hover, interaction or viewport trigger is only
named here (its `targetXref`, `targetSlot`, `targetView` and `targetSlotViewSteps` are
`null` until a later phase resolves them). -/
inductive DeferTrigger where
  | idle
  | immediate
  | timer (delay : Nat)
  | hover (targetName : Option String)
  | interaction (targetName : Option String)
  | viewport (targetName : Option String)
  deriving Repr, DecidableEq

/-- `ir.RepeaterVarNames`. -/
structure RepeaterVarNames where
  «$index» : String
  «$count» : String
  «$first» : String
  «$last» : String
  «$even» : String
  «$odd» : String
  «$implicit» : String
  deriving Repr, DecidableEq

/-- `ir.RepeaterCreateOp`: declares the item view `xref` and the optional `emptyView`. -/
structure RepeaterCreateOp where
  xref : Nat
  emptyView : Option Nat
  tag : Option String
  track : Expression
  varNames : RepeaterVarNames
  emptyTag : Option String
  i18nPlaceholder : Option I18nMeta
  emptyI18nPlaceholder : Option I18nMeta
  startSourceSpan : ParseSourceSpan
  wholeSourceSpan : ParseSourceSpan
  deriving Repr

/-- `ir.CreateOp`: the ops of a unit's create list. -/
inductive CreateOp where
  | elementStart (op : ElementStartOp)
  | elementEnd (xref : Nat) (sourceSpan : ParseSourceSpan)
  | template (op : TemplateOp)
  | text (xref : Nat) (initialValue : String) (icuPlaceholder : Option String)
      (sourceSpan : ParseSourceSpan)
  | projection (xref : Nat) (selector : String) (i18nPlaceholder : Option I18nMeta)
      (sourceSpan : ParseSourceSpan)
  | listener (op : ListenerOp)
  | i18nStart (xref : Nat) (message : Message) (sourceSpan : ParseSourceSpan)
  | i18nEnd (xref : Nat) (sourceSpan : ParseSourceSpan)
  /-- `ir.I18nAttributesOp` for the element or template `target`. -/
  | i18nAttributes (xref : Nat) (target : Nat)
  | icuStart (xref : Nat) (message : Message)
  | icuEnd (xref : Nat)
  | defer (op : DeferOp)
  | deferOn (defer : Nat) (trigger : DeferTrigger) (prefetch : Bool)
      (sourceSpan : Option ParseSourceSpan)
  | repeaterCreate (op : RepeaterCreateOp)
  | extractedAttribute (op : ExtractedAttributeOp)
  deriving Repr

/-- `ir.BindingOp`. -/
structure BindingOp where
  target : Nat
  bindingKind : BindingKind
  name : String
  expression : BindingExpression
  unit : Option String
  securityContext : List SecurityContext
  isTextAttribute : Bool
  isStructuralTemplateAttribute : Bool
  templateKind : Option TemplateKind
  i18nMessage : Option Message
  sourceSpan : Option ParseSourceSpan
  deriving Repr

/-- `ir.ConditionalCaseExpr`: a guard (none for an `else`/`default` branch) and the view it
selects. -/
structure ConditionalCaseExpr where
  expr : Option Expression
  target : Nat
  targetSlot : SlotHandle
  «alias» : Option Reference
  deriving Repr

/-- `ir.UpdateOp`: the ops of a unit's update list. -/
inductive UpdateOp where
  | binding (op : BindingOp)
  | interpolateText (target : Nat) (interpolation : Interpolation)
      (sourceSpan : ParseSourceSpan)
  /-- `ir.ConditionalOp`; its target is `firstXref!`, which is `null` for an `@if` without
  branches. -/
  | conditional (target : Option Nat) (targetSlot : Option SlotHandle)
      (test : Option Expression) (conditions : List ConditionalCaseExpr)
      (sourceSpan : ParseSourceSpan)
  | repeater (target : Nat) (targetSlot : SlotHandle) (collection : Expression)
      (sourceSpan : ParseSourceSpan)
  | deferWhen (target : Nat) (expr : Expression) (prefetch : Bool)
      (sourceSpan : ParseSourceSpan)
  deriving Repr

/-- `OpList.insertBefore(op, target)` for the target at index `target`. -/
def insertBefore {α : Type} (op : α) (target : Nat) (ops : List α) : List α :=
  ops.take target ++ op :: ops.drop target

@[simp] theorem insertBefore_length_append {α : Type} (op a : α) (ops : List α) :
    insertBefore op ops.length (ops ++ [a]) = ops ++ [op, a] := by
  simp [insertBefore]

@[simp] theorem insertBefore_zero {α : Type} (op : α) (ops : List α) :
    insertBefore op 0 ops = op :: ops := rfl

@[simp] theorem insertBefore_length {α : Type} (op : α) (ops : List α) :
    insertBefore op ops.length ops = ops ++ [op] := by
  simp [insertBefore]

/-! ## Compilation units and the job -/

/-- An alias of a view (`{kind: Alias, name: null, identifier, expression}`). -/
structure AliasVariable where
  identifier : String
  expression : Expression
  deriving Repr

/-- Modelled from the spec: `ViewCompilationUnit` of `compilation.ts`, which is not under
src. A unit has its xref, its parent (set at creation), its create and update lists,
its context variables (a `Map` in insertion order) and its aliases. -/
structure ViewCompilationUnit where
  xref : Nat
  parent : Option Nat
  create : List CreateOp
  update : List UpdateOp
  contextVariables : List (String × String)
  aliases : List AliasVariable
  deriving Repr

/-- A fresh unit, with empty lists. -/
def ViewCompilationUnit.new (xref : Nat) (parent : Option Nat) : ViewCompilationUnit :=
  { xref, parent, create := [], update := [], contextVariables := [], aliases := [] }

/-- `Map.set`: replace the value of an existing key in place, or append a new entry. -/
def mapSet {β : Type} (entries : List (String × β)) (key : String) (value : β) :
    List (String × β) :=
  if entries.any (·.1 == key) then entries.map (fun e => if e.1 == key then (key, value) else e)
  else entries ++ [(key, value)]

/-- Modelled from the spec: `ComponentCompilationJob` and `HostBindingCompilationJob` of
`compilation.ts`. The job owns the xref counter, the compatibility mode, the `@defer`
metadata map and the units; `root` is the xref of the root unit. -/
structure CompilationJob where
  componentName : String
  compatibility : CompatibilityMode
  deferBlocksMeta : DeferredBlock → Option R3DeferBlockMetadata
  root : Nat
  nextXrefId : Nat
  views : List ViewCompilationUnit

namespace CompilationJob

/-- The job a `ComponentCompilationJob` constructor builds: the root unit takes the first
xref. -/
def component (componentName : String) (compatibility : CompatibilityMode)
    (deferBlocksMeta : DeferredBlock → Option R3DeferBlockMetadata) : CompilationJob :=
  { componentName, compatibility, deferBlocksMeta, root := 0, nextXrefId := 1,
    views := [ViewCompilationUnit.new 0 none] }

/-- Modelled from the spec: `job.allocateXrefId()` hands out the counter's value and
increments it ("monotonically-allocated ... never reused or recycled within a job"). -/
def allocateXrefId (job : CompilationJob) : Nat × CompilationJob :=
  (job.nextXrefId, { job with nextXrefId := job.nextXrefId + 1 })

/-- Modelled from the spec: `job.allocateView(parent)` creates a unit with a fresh xref and
the given parent and registers it. -/
def allocateView (job : CompilationJob) (parent : Nat) : Nat × CompilationJob :=
  (job.nextXrefId,
    { job with nextXrefId := job.nextXrefId + 1,
               views := job.views ++ [ViewCompilationUnit.new job.nextXrefId (some parent)] })

/-- Apply `f` to the unit with xref `unit`. -/
def modifyView (job : CompilationJob) (unit : Nat)
    (f : ViewCompilationUnit → ViewCompilationUnit) : CompilationJob :=
  { job with views := job.views.map (fun v => if v.xref = unit then f v else v) }

/-- `unit.create.push(ops)`. -/
def pushCreate (job : CompilationJob) (unit : Nat) (ops : List CreateOp) : CompilationJob :=
  job.modifyView unit (fun v => { v with create := v.create ++ ops })

/-- `unit.update.push(ops)`. -/
def pushUpdate (job : CompilationJob) (unit : Nat) (ops : List UpdateOp) : CompilationJob :=
  job.modifyView unit (fun v => { v with update := v.update ++ ops })

/-- `OpList.insertBefore(op, target)` in the create list of `unit`. -/
def insertCreate (job : CompilationJob) (unit : Nat) (op : CreateOp) (target : Nat) :
    CompilationJob :=
  job.modifyView unit (fun v => { v with create := insertBefore op target v.create })

/-- `unit.contextVariables.set(name, value)`. -/
def setContextVariable (job : CompilationJob) (unit : Nat) (name value : String) :
    CompilationJob :=
  job.modifyView unit (fun v => { v with contextVariables := mapSet v.contextVariables name value })

/-- `unit.aliases.add(alias)`; every alias is a new object, so it is always added. -/
def addAlias (job : CompilationJob) (unit : Nat) (a : AliasVariable) : CompilationJob :=
  job.modifyView unit (fun v => { v with aliases := v.aliases ++ [a] })

/-- The unit with xref `unit`. -/
def view? (job : CompilationJob) (unit : Nat) : Option ViewCompilationUnit :=
  job.views.find? (·.xref = unit)

/-- The create list of the unit `unit` (empty when there is no such unit). -/
def createOf (job : CompilationJob) (unit : Nat) : List CreateOp :=
  (job.view? unit).elim [] ViewCompilationUnit.create

/-- `job.compatibility` as a truth value. -/
def inCompatibilityMode (job : CompilationJob) : Bool :=
  job.compatibility != .normal

@[simp] theorem modifyView_nextXrefId (job : CompilationJob) (unit : Nat)
    (f : ViewCompilationUnit → ViewCompilationUnit) :
    (job.modifyView unit f).nextXrefId = job.nextXrefId := rfl

@[simp] theorem pushCreate_nextXrefId (job : CompilationJob) (unit : Nat) (ops : List CreateOp) :
    (job.pushCreate unit ops).nextXrefId = job.nextXrefId := rfl

@[simp] theorem pushUpdate_nextXrefId (job : CompilationJob) (unit : Nat) (ops : List UpdateOp) :
    (job.pushUpdate unit ops).nextXrefId = job.nextXrefId := rfl

@[simp] theorem insertCreate_nextXrefId (job : CompilationJob) (unit : Nat) (op : CreateOp)
    (target : Nat) : (job.insertCreate unit op target).nextXrefId = job.nextXrefId := rfl

@[simp] theorem setContextVariable_nextXrefId (job : CompilationJob) (unit : Nat)
    (name value : String) : (job.setContextVariable unit name value).nextXrefId = job.nextXrefId :=
  rfl

@[simp] theorem addAlias_nextXrefId (job : CompilationJob) (unit : Nat) (a : AliasVariable) :
    (job.addAlias unit a).nextXrefId = job.nextXrefId := rfl

@[simp] theorem allocateXrefId_fst (job : CompilationJob) :
    job.allocateXrefId.1 = job.nextXrefId := rfl

@[simp] theorem allocateView_fst (job : CompilationJob) (p : Nat) :
    (job.allocateView p).1 = job.nextXrefId := rfl

@[simp] theorem allocateXrefId_snd_nextXrefId (job : CompilationJob) :
    job.allocateXrefId.2.nextXrefId = job.nextXrefId + 1 := rfl

@[simp] theorem allocateView_snd_nextXrefId (job : CompilationJob) (p : Nat) :
    (job.allocateView p).2.nextXrefId = job.nextXrefId + 1 := rfl

/-- A change that keeps every unit's xref is seen, at `unit`, as a change of the unit found. -/
theorem view?_modifyView (job : CompilationJob) (unit : Nat)
    {f : ViewCompilationUnit → ViewCompilationUnit} (hf : ∀ v, (f v).xref = v.xref) :
    (job.modifyView unit f).view? unit = (job.view? unit).map f := by
  simp only [view?, modifyView]
  induction job.views with
  | nil => rfl
  | cons v vs ih => by_cases hv : v.xref = unit <;> simp [hv, hf, ih]

@[simp] theorem view?_pushCreate (job : CompilationJob) (unit : Nat) (ops : List CreateOp) :
    (job.pushCreate unit ops).view? unit =
      (job.view? unit).map fun v => { v with create := v.create ++ ops } :=
  view?_modifyView job unit fun _ => rfl

@[simp] theorem view?_pushUpdate (job : CompilationJob) (unit : Nat) (ops : List UpdateOp) :
    (job.pushUpdate unit ops).view? unit =
      (job.view? unit).map fun v => { v with update := v.update ++ ops } :=
  view?_modifyView job unit fun _ => rfl

@[simp] theorem view?_allocateXrefId (job : CompilationJob) (unit : Nat) :
    job.allocateXrefId.2.view? unit = job.view? unit := rfl

end CompilationJob

end Angular.Compiler
