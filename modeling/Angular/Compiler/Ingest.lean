import Angular.Compiler.Ir

/-!
# Angular.Compiler.Ingest

**Template ingestion** (`template/pipeline/src/ingest.ts`): `ingestComponent` lowers a
template AST into a compilation job, `ingestHostBinding` lowers host bindings, and
`convertAst` lowers the expression AST into IR expressions.

The functions keep the names, the argument order and the order of effects of the source.
A function of the source that mutates the job takes the job and returns the new one, in
`Except String` for the ones that can throw; the string is the thrown error's message.
Design points:

* **Collaborators are parameters.** `splitNsName`, `namespaceForKey`,
  `prefixWithNamespace`, `BINARY_OPERATORS`, the DOM schema's `securityContext`,
  `isSingleI18nIcu` and `ir.CTX_REF` are imported from modules that are not under src;
  they are the fields of `Imports`, and every result holds for all of them.
* **Children are ingested through closures.** `ingestElement unit element ingestChildren`
  receives `ingestChildren = fun u => ingestNodes u element.children`; the dispatcher
  `ingestNode` builds these closures, which keeps the recursion structural and lets each
  node kind be reasoned about once, for any children.
* `ingestReferences` fills `op.localRefs` in place after the op was pushed; nothing reads
  them in between, so the model builds the op with its local references.
-/

namespace Angular.Compiler

/-- The imports of `ingest.ts` that are not under src. -/
structure Imports where
  /-- `splitNsName` of `ml_parser/tags`: the namespace key and the local name. -/
  splitNsName : String → Option String × String
  /-- `namespaceForKey` of `./conversion`. -/
  namespaceForKey : Option String → Namespace
  /-- `prefixWithNamespace` of `./conversion`. -/
  prefixWithNamespace : String → Namespace → String
  /-- `BINARY_OPERATORS.get` of `./conversion`. -/
  binaryOperators : String → Option BinaryOperator
  /-- `domSchema.securityContext(tagName, propName, isAttribute)`. -/
  securityContext : String → String → Bool → SecurityContext
  /-- `isSingleI18nIcu` of `render3/view/i18n/util`. -/
  isSingleI18nIcu : Message → Bool
  /-- `ir.CTX_REF`. -/
  ctxRef : String

/-- Ingesting a list of children into a given unit. -/
abbrev IngestChildren := Nat → CompilationJob → Except String CompilationJob

/-- Tag name of the `ng-template` element. -/
def NG_TEMPLATE_TAG_NAME : String := "ng-template"

/-- `e.AST | string`: the value of a binding, parsed or literal text. -/
inductive BindingValue where
  | ast (ast : AST)
  | text (value : String)
  deriving Repr

/-- An entry of the `bindings` arrays: `ir.BindingOp | ir.ExtractedAttributeOp`. -/
inductive BindingEntry where
  | binding (op : BindingOp)
  | extractedAttribute (op : ExtractedAttributeOp)
  deriving Repr

/-- `b?.i18nMessage`. -/
def BindingEntry.i18nMessage : BindingEntry → Option Message
  | .binding op => op.i18nMessage
  | .extractedAttribute op => op.i18nMessage

/-- The entries that `bindings.filter(b => b?.kind === ir.OpKind.ExtractedAttribute)` keeps. -/
def extractedOps (bindings : List (Option BindingEntry)) : List CreateOp :=
  bindings.filterMap fun
    | some (.extractedAttribute op) => some (.extractedAttribute op)
    | _ => none

/-- The entries that `bindings.filter(b => b?.kind === ir.OpKind.Binding)` keeps. -/
def bindingOps (bindings : List (Option BindingEntry)) : List UpdateOp :=
  bindings.filterMap fun
    | some (.binding op) => some (.binding op)
    | _ => none

/-- `BINDING_KINDS.get(type)!`. -/
def BINDING_KINDS : BindingType → BindingKind
  | .property => .property
  | .attribute => .attribute
  | .class => .className
  | .style => .styleProperty
  | .animation => .animation

/-- Run `f` over `xs` in order, threading the job: `xs.map(x => f(x))` where `f` uses the
job. -/
def mapJob {α β : Type} (f : α → CompilationJob → Except String (β × CompilationJob)) :
    List α → CompilationJob → Except String (List β × CompilationJob)
  | [], job => .ok ([], job)
  | x :: xs, job => do
    let (y, job) ← f x job
    let (ys, job) ← mapJob f xs job
    pure (y :: ys, job)

/-- `asMessage`: ensures that the i18n metadata, if provided, is an `i18n.Message`. -/
def asMessage : Option I18nMeta → Except String (Option Message)
  | none => .ok none
  | some (.message m) => .ok (some m)
  | some meta =>
    throw ("Expected i18n meta to be a Message, but got: " ++ meta.constructorName)

/-- `convertSourceSpan`: an absolute span for the relative `span`, or `null` without a base
span. -/
def convertSourceSpan (span : ParseSpan) : Option ParseSourceSpan → Option ParseSourceSpan
  | none => none
  | some base =>
    some { start := base.start.moveBy span.start, «end» := base.start.moveBy span.end,
           fullStart := base.fullStart.moveBy span.start }

section

variable (imports : Imports)

/-! ## Expressions -/

mutual

/-- `convertAst`: convert a template AST expression into an output AST expression. -/
def convertAst : AST → CompilationJob → Option ParseSourceSpan →
    Except String (Expression × CompilationJob)
  | .astWithSource _ ast, job, base => convertAst ast job base
  | .propertyRead span receiver name, job, base =>
    let isThisReceiver := receiver.isThisReceiver
    -- Whether this is an implicit receiver, *excluding* explicit reads of `this`.
    let isImplicitReceiver := receiver.isImplicitReceiver && !receiver.isThisReceiver
    -- Whether the name of the read is a node that should never retain its explicit this
    -- receiver.
    let isSpecialNode := name == "$any" || name == "$event"
    if isImplicitReceiver || (isThisReceiver && !isSpecialNode) then
      .ok (.lexicalRead name, job)
    else do
      let (r, job) ← convertAst receiver job base
      pure (.readProp r name (convertSourceSpan span base), job)
  | .propertyWrite span receiver name value, job, base =>
    if receiver.isImplicitReceiver then do
      let (v, job) ← convertAst value job base
      pure (.writeProp (.context job.root) name v (convertSourceSpan span base), job)
    else do
      let (r, job) ← convertAst receiver job base
      let (v, job) ← convertAst value job base
      pure (.writeProp r name v (convertSourceSpan span base), job)
  | .keyedWrite span receiver key value, job, base => do
    let (r, job) ← convertAst receiver job base
    let (k, job) ← convertAst key job base
    let (v, job) ← convertAst value job base
    pure (.writeKey r k v (convertSourceSpan span base), job)
  | .call span receiver args, job, base =>
    if receiver.isImplicitReceiver then throw "Unexpected ImplicitReceiver"
    else do
      let (r, job) ← convertAst receiver job base
      let (as, job) ← convertAstList args job base
      pure (.invokeFunction r as (convertSourceSpan span base), job)
  | .literalPrimitive span value, job, base =>
    .ok (.literal value (convertSourceSpan span base), job)
  | .unary span operator expr, job, base =>
    if operator = "+" then do
      let (x, job) ← convertAst expr job base
      pure (.unaryOperator .plus x (convertSourceSpan span base), job)
    else if operator = "-" then do
      let (x, job) ← convertAst expr job base
      pure (.unaryOperator .minus x (convertSourceSpan span base), job)
    else throw ("AssertionError: unknown unary operator " ++ operator)
  | .binary span operation left right, job, base =>
    match imports.binaryOperators operation with
    | none => throw ("AssertionError: unknown binary operator " ++ operation)
    | some operator => do
      let (l, job) ← convertAst left job base
      let (r, job) ← convertAst right job base
      pure (.binaryOperator operator l r (convertSourceSpan span base), job)
  | .thisReceiver _, job, _ => .ok (.context job.root, job)
  | .keyedRead span receiver key, job, base => do
    let (r, job) ← convertAst receiver job base
    let (k, job) ← convertAst key job base
    pure (.readKey r k (convertSourceSpan span base), job)
  | .chain _ _, _, _ => throw "AssertionError: Chain in unknown context"
  | .literalMap span keys values, job, base => do
    let (entries, job) ← convertLiteralMapEntries keys values job base
    pure (.literalMap entries (convertSourceSpan span base), job)
  | .literalArray _ expressions, job, base => do
    let (entries, job) ← convertAstList expressions job base
    pure (.literalArray entries, job)
  | .conditional span condition trueExp falseExp, job, base => do
    let (c, job) ← convertAst condition job base
    let (t, job) ← convertAst trueExp job base
    let (f, job) ← convertAst falseExp job base
    pure (.conditional c t f (convertSourceSpan span base), job)
  -- A non-null assertion shouldn't impact generated instructions, so it is dropped.
  | .nonNullAssert _ expression, job, base => convertAst expression job base
  | .bindingPipe _ exp name args, job, base => do
    let (xref, job) := job.allocateXrefId
    let (e, job) ← convertAst exp job base
    let (as, job) ← convertAstList args job base
    pure (.pipeBinding xref name (e :: as), job)
  | .safeKeyedRead span receiver key, job, base => do
    let (r, job) ← convertAst receiver job base
    let (k, job) ← convertAst key job base
    pure (.safeKeyedRead r k (convertSourceSpan span base), job)
  | .safePropertyRead _ receiver name, job, base => do
    let (r, job) ← convertAst receiver job base
    pure (.safePropertyRead r name, job)
  | .safeCall _ receiver args, job, base => do
    let (r, job) ← convertAst receiver job base
    let (as, job) ← convertAstList args job base
    pure (.safeInvokeFunction r as, job)
  | .emptyExpr span, job, base => .ok (.empty (convertSourceSpan span base), job)
  | .prefixNot span expression, job, base => do
    let (x, job) ← convertAst expression job base
    pure (.not x (convertSourceSpan span base), job)
  | ast@(.implicitReceiver _), _, base | ast@(.interpolation ..), _, base =>
    throw ("Unhandled expression type \"" ++ ast.constructorName ++ "\" in file \"" ++
      (base.map (·.start.file)).getD "undefined" ++ "\"")

/-- `asts.map(a => convertAst(a, job, baseSourceSpan))`. -/
def convertAstList : List AST → CompilationJob → Option ParseSourceSpan →
    Except String (List Expression × CompilationJob)
  | [], job, _ => .ok ([], job)
  | a :: as, job, base => do
    let (x, job) ← convertAst a job base
    let (xs, job) ← convertAstList as job base
    pure (x :: xs, job)

/-- The entries of a `LiteralMap`: `ast.keys.map((key, idx) => ... ast.values[idx] ...)`.
A key without a value reads `undefined`, whose conversion fails. -/
def convertLiteralMapEntries : List LiteralMapKey → List AST → CompilationJob →
    Option ParseSourceSpan → Except String (List (LiteralMapKey × Expression) × CompilationJob)
  | keys, [], job, _ => match keys with
    | [] => .ok ([], job)
    | _ :: _ => throw "Cannot read properties of undefined (reading 'constructor')"
  | keys, value :: values, job, base => match keys with
    | [] => .ok ([], job)
    | key :: keys => do
      let (x, job) ← convertAst value job base
      let (xs, job) ← convertLiteralMapEntries keys values job base
      pure ((key, x) :: xs, job)

end

/-- `convertAstWithInterpolation`. -/
def convertAstWithInterpolation (job : CompilationJob) (value : BindingValue)
    (i18nMeta : Option I18nMeta) (sourceSpan : Option ParseSourceSpan) :
    Except String (BindingExpression × CompilationJob) :=
  match value with
  | .ast (.interpolation _ strings expressions) => do
    let (xs, job) ← convertAstList imports expressions job sourceSpan
    let message ← asMessage i18nMeta
    let interpolation ← Interpolation.new strings xs ((message.map (·.placeholders)).getD [])
    pure (.interpolation interpolation, job)
  | .ast ast => do
    let (x, job) ← convertAst imports ast job sourceSpan
    pure (.expression x, job)
  | .text value => .ok (.expression (.literal (.string value) none), job)

/-- `makeListenerHandlerOps`: every expression of a handler chain but the last becomes a
statement, the last is returned. -/
def makeListenerHandlerOps (job : CompilationJob) (handler : AST)
    (handlerSpan : ParseSourceSpan) : Except String (List Statement × CompilationJob) := do
  let handlerExprs := match astOf handler with
    | .chain _ expressions => expressions
    | h => [h]
  if handlerExprs.length = 0 then throw "Expected listener to have non-empty expression list."
  let (expressions, job) ← convertAstList imports handlerExprs job (some handlerSpan)
  let returnExpr := expressions.getLast?.getD (.empty none)
  pure (expressions.dropLast.map (fun e => .expression e e.sourceSpan) ++
    [.return returnExpr returnExpr.sourceSpan], job)

/-! ## Bindings -/

/-- `ingestReferences`: the local references of an element or template. -/
def ingestReferences (references : List Reference) : List LocalRef :=
  references.map fun r => { name := r.name, target := r.value }

/-- A listener for the event `output` of the element or template `xref`. -/
def createListener (job : CompilationJob) (xref : Nat) (tag : Option String)
    (output : BoundEvent) : Except String (CreateOp × CompilationJob) := do
  let (handlerOps, job) ← makeListenerHandlerOps imports job output.handler output.handlerSpan
  pure (.listener
    { target := xref, targetSlot := .ofOp xref, name := output.name, tag := tag,
      handlerOps := handlerOps, animationPhase := output.phase, eventTarget := output.target,
      hostListener := false, sourceSpan := output.sourceSpan }, job)

/-- The check of `element.outputs` and `template.outputs`. -/
def checkAnimationPhase (output : BoundEvent) : Except String Unit :=
  if output.type = .animation && output.phase.isNone then
    throw "Animation listener should have a phase"
  else .ok ()

/-- The i18n attributes op appended for an element or template. The guard of the source,
`bindings.some(b => b?.i18nMessage) !== null`, compares a boolean with `null`. -/
def ingestI18nAttributes (unit target : Nat) (bindings : List (Option BindingEntry))
    (job : CompilationJob) : CompilationJob :=
  let someI18n : Option Bool := some (bindings.any fun b => (b.bind BindingEntry.i18nMessage).isSome)
  if someI18n != none then
    let (xref, job) := job.allocateXrefId
    job.pushCreate unit [.i18nAttributes xref target]
  else job

/-- The binding of a static attribute of an element. -/
def elementAttributeBinding (element : Element) (xref : Nat) (attr : TextAttribute)
    (job : CompilationJob) : Except String (Option BindingEntry × CompilationJob) := do
  let securityContext := imports.securityContext element.name attr.name true
  let (expression, job) ← convertAstWithInterpolation imports job (.text attr.value) attr.i18n none
  let i18nMessage ← asMessage attr.i18n
  pure (some (.binding
    { target := xref, bindingKind := .attribute, name := attr.name, expression := expression,
      unit := none, securityContext := [securityContext], isTextAttribute := true,
      isStructuralTemplateAttribute := false, templateKind := none, i18nMessage := i18nMessage,
      sourceSpan := some attr.sourceSpan }), job)

/-- The binding of an input of an element. -/
def elementInputBinding (xref : Nat) (input : BoundAttribute) (job : CompilationJob) :
    Except String (Option BindingEntry × CompilationJob) := do
  let (expression, job) ←
    convertAstWithInterpolation imports job (.ast (astOf input.value)) input.i18n none
  let i18nMessage ← asMessage input.i18n
  pure (some (.binding
    { target := xref, bindingKind := BINDING_KINDS input.type, name := input.name,
      expression := expression, unit := input.unit,
      securityContext := [input.securityContext], isTextAttribute := false,
      isStructuralTemplateAttribute := false, templateKind := none, i18nMessage := i18nMessage,
      sourceSpan := some input.sourceSpan }), job)

/-- `ingestElementBindings`: the bindings, listeners and i18n attributes op of an element. -/
def ingestElementBindings (unit : Nat) (op : ElementStartOp) (element : Element)
    (job : CompilationJob) : Except String CompilationJob := do
  let (attrs, job) ← mapJob (elementAttributeBinding imports element op.xref) element.attributes job
  let (inputs, job) ← mapJob (elementInputBinding imports op.xref) element.inputs job
  let bindings := attrs ++ inputs
  let job := (job.pushCreate unit (extractedOps bindings)).pushUpdate unit (bindingOps bindings)
  let (listeners, job) ← mapJob (fun output job => do
      checkAnimationPhase output
      createListener imports job op.xref (some op.tag) output) element.outputs job
  let job := job.pushCreate unit listeners
  pure (ingestI18nAttributes unit op.xref bindings job)

/-- `createTemplateBinding`: the op for one binding of a template, or none when it is
skipped. -/
def createTemplateBinding (job : CompilationJob) (xref : Nat) (type : BindingType)
    (name : String) (value : BindingValue) (unit : Option String)
    (securityContext : SecurityContext) (isStructuralTemplateAttribute : Bool)
    (templateKind : TemplateKind) (i18nMessage : Option Message)
    (sourceSpan : ParseSourceSpan) : Except String (Option BindingEntry × CompilationJob) :=
  let isTextBinding := match value with | .text _ => true | .ast _ => false
  if templateKind = .structural && !isStructuralTemplateAttribute &&
      (type = .property || type = .class || type = .style) then
    -- A binding on an inner node of a structural template: kept for the consts, with no
    -- update instruction.
    .ok (some (.extractedAttribute
      { target := xref, bindingKind := .property, «namespace» := none, name := name,
        expression := none, i18nContext := none, i18nMessage := i18nMessage,
        securityContext := securityContext }), job)
  else if templateKind = .structural && !isTextBinding &&
      (type = .attribute || type = .animation) then
    .ok (none, job)
  else
    let bindingType :=
      if templateKind = .ngTemplate &&
          (type = .class || type = .style || (type = .attribute && !isTextBinding)) then
        BindingKind.property
      else BINDING_KINDS type
    do
      let (expression, job) ← convertAstWithInterpolation imports job value
        (i18nMessage.map .message) none
      pure (some (.binding
        { target := xref, bindingKind := bindingType, name := name, expression := expression,
          unit := unit, securityContext := [securityContext], isTextAttribute := isTextBinding,
          isStructuralTemplateAttribute := isStructuralTemplateAttribute,
          templateKind := some templateKind, i18nMessage := i18nMessage,
          sourceSpan := some sourceSpan }), job)

/-- An entry of `template.templateAttrs`. -/
def templateAttrBinding (xref : Nat) (templateKind : TemplateKind) (attr : TemplateAttr)
    (job : CompilationJob) : Except String (Option BindingEntry × CompilationJob) :=
  match attr with
  | .text attr => do
    let securityContext := imports.securityContext NG_TEMPLATE_TAG_NAME attr.name true
    let i18nMessage ← asMessage attr.i18n
    createTemplateBinding imports job xref .attribute attr.name (.text attr.value) none
      securityContext true templateKind i18nMessage attr.sourceSpan
  | .bound attr => do
    let i18nMessage ← asMessage attr.i18n
    createTemplateBinding imports job xref attr.type attr.name (.ast (astOf attr.value))
      attr.unit attr.securityContext true templateKind i18nMessage attr.sourceSpan

/-- An entry of `template.attributes`. -/
def templateAttributeBinding (xref : Nat) (templateKind : TemplateKind)
    (attr : TextAttribute) (job : CompilationJob) :
    Except String (Option BindingEntry × CompilationJob) := do
  let securityContext := imports.securityContext NG_TEMPLATE_TAG_NAME attr.name true
  let i18nMessage ← asMessage attr.i18n
  createTemplateBinding imports job xref .attribute attr.name (.text attr.value) none
    securityContext false templateKind i18nMessage attr.sourceSpan

/-- An entry of `template.inputs`. -/
def templateInputBinding (xref : Nat) (templateKind : TemplateKind)
    (input : BoundAttribute) (job : CompilationJob) :
    Except String (Option BindingEntry × CompilationJob) := do
  let i18nMessage ← asMessage input.i18n
  createTemplateBinding imports job xref input.type input.name (.ast (astOf input.value))
    input.unit input.securityContext false templateKind i18nMessage input.sourceSpan

/-- The ops for one output of a template: a listener on a plain `ng-template`, an
extracted attribute on a structural template unless it is an animation. -/
def templateOutputOps (op : TemplateOp) (templateKind : TemplateKind) (output : BoundEvent)
    (job : CompilationJob) : Except String (List CreateOp × CompilationJob) := do
  checkAnimationPhase output
  let (listener, job) ← (if templateKind = .ngTemplate then do
      let (l, job) ← createListener imports job op.xref op.tag output
      pure ([l], job)
    else pure ([], job))
  let extracted : List CreateOp :=
    if templateKind = .structural && output.type != .animation then
      [.extractedAttribute
        { target := op.xref, bindingKind := .property, «namespace» := none, name := output.name,
          expression := none, i18nContext := none, i18nMessage := none,
          securityContext := imports.securityContext NG_TEMPLATE_TAG_NAME output.name false }]
    else []
  pure (listener ++ extracted, job)

/-- `ingestTemplateBindings`: the bindings, listeners and i18n attributes op of a template. -/
def ingestTemplateBindings (unit : Nat) (op : TemplateOp) (template : Template)
    (templateKind : TemplateKind) (job : CompilationJob) : Except String CompilationJob := do
  let (templateAttrs, job) ←
    mapJob (templateAttrBinding imports op.xref templateKind) template.templateAttrs job
  let (attributes, job) ←
    mapJob (templateAttributeBinding imports op.xref templateKind) template.attributes job
  let (inputs, job) ←
    mapJob (templateInputBinding imports op.xref templateKind) template.inputs job
  let bindings := templateAttrs ++ attributes ++ inputs
  let job := (job.pushCreate unit (extractedOps bindings)).pushUpdate unit (bindingOps bindings)
  let (outputs, job) ← mapJob (templateOutputOps imports op templateKind) template.outputs job
  let job := job.pushCreate unit outputs.flatten
  pure (ingestI18nAttributes unit op.xref bindings job)

/-- The update op for a static attribute `attr` of the node `xref` with tag `tagName`, as
`ingestContent` and `ingestControlFlowInsertionPoint` push it. -/
def staticAttributeBinding (tagName : String) (xref : Nat) (attr : TextAttribute) :
    Except String UpdateOp := do
  let securityContext := imports.securityContext tagName attr.name true
  let i18nMessage ← asMessage attr.i18n
  pure (.binding
    { target := xref, bindingKind := .attribute, name := attr.name,
      expression := .expression (.literal (.string attr.value) none), unit := none,
      securityContext := [securityContext], isTextAttribute := true,
      isStructuralTemplateAttribute := false, templateKind := none, i18nMessage := i18nMessage,
      sourceSpan := some attr.sourceSpan })

/-- The root that `ingestControlFlowInsertionPoint` looks for: the tag name and static
attributes of an element, or of a template with a tag name. -/
structure InsertionRoot where
  tagName : String
  attributes : List TextAttribute
  deriving Repr

/-- The loop of `ingestControlFlowInsertionPoint`: skip comments, give up at a second
non-comment child, and take a first child that is an element or a template with a tag
name as the root. -/
def controlFlowRoot : Option InsertionRoot → List Node → Option InsertionRoot
  | root, [] => root
  | root, .comment _ :: children => controlFlowRoot root children
  | root, child :: children =>
    if root.isSome then none
    else
      let root := match child with
        | .element element _ => some ⟨element.name, element.attributes⟩
        | .template tmpl _ => tmpl.tagName.map fun tagName => ⟨tagName, tmpl.attributes⟩
        | _ => none
      controlFlowRoot root children

/-- `ingestControlFlowInsertionPoint`: copy the tag name and static attributes of the
single root element or template of an `@if` branch, `@for` or `@empty` block onto the
block's template. -/
def ingestControlFlowInsertionPoint (unit xref : Nat) (children : List Node)
    (job : CompilationJob) : Except String (Option String × CompilationJob) :=
  match controlFlowRoot none children with
  | none => .ok (none, job)
  | some root => do
    let bindings ← root.attributes.mapM (staticAttributeBinding imports NG_TEMPLATE_TAG_NAME xref)
    -- Don't pass along the `ng-template` tag name since it enables directive matching.
    pure (if root.tagName = NG_TEMPLATE_TAG_NAME then none else some root.tagName,
      job.pushUpdate unit bindings)

/-! ## Nodes -/

/-- The check of `element.i18n` and `tmpl.i18n`: a message or a tag placeholder, if any. -/
def checkI18nMeta (what : String) : Option I18nMeta → Except String Unit
  | none | some (.message _) | some (.node .tagPlaceholder) => .ok ()
  | some meta => throw ("Unhandled i18n metadata type for " ++ what ++ ": " ++ meta.constructorName)

/-- The check of `content.i18n`: a tag placeholder, if any. -/
def checkContentI18n : Option I18nMeta → Except String Unit
  | none | some (.node .tagPlaceholder) => .ok ()
  | some meta => throw ("Unhandled i18n metadata type for element: " ++ meta.constructorName)

/-- The checks of a `@defer` view's, a `@for`'s and an `@empty`'s i18n metadata: a block
placeholder, if any. -/
def checkBlockPlaceholder (error : String) : Option I18nMeta → Except String Unit
  | none | some (.node .blockPlaceholder) => .ok ()
  | some _ => throw error

/-- `ingestElement`: ingest an element AST into the given unit. -/
def ingestElement (unit : Nat) (element : Element) (ingestChildren : IngestChildren)
    (job : CompilationJob) : Except String CompilationJob := do
  checkI18nMeta "element" element.i18n
  let (id, job) := job.allocateXrefId
  let (namespaceKey, elementName) := imports.splitNsName element.name
  let startOp : ElementStartOp :=
    { tag := elementName, xref := id, «namespace» := imports.namespaceForKey namespaceKey,
      i18nPlaceholder := match element.i18n with
        | some (.node .tagPlaceholder) => element.i18n
        | _ => none,
      startSourceSpan := element.startSourceSpan, wholeSourceSpan := element.sourceSpan,
      localRefs := ingestReferences element.references }
  let job := job.pushCreate unit [.elementStart startOp]
  let job ← ingestElementBindings imports unit startOp element job
  -- Start i18n, if needed, goes after the element create and bindings, but before the nodes.
  let (i18nBlockId, job) := match element.i18n with
    | some (.message message) =>
      let (i18nBlockId, job) := job.allocateXrefId
      (some i18nBlockId,
        job.pushCreate unit [.i18nStart i18nBlockId message element.startSourceSpan])
    | _ => (none, job)
  let job ← ingestChildren unit job
  let endSpan := element.endSourceSpan.getD element.startSourceSpan
  let endOpIndex := (job.createOf unit).length
  let job := job.pushCreate unit [.elementEnd id endSpan]
  -- If there is an i18n message associated with this element, insert the i18n end op.
  match i18nBlockId with
  | some i18nBlockId => pure (job.insertCreate unit (.i18nEnd i18nBlockId endSpan) endOpIndex)
  | none => pure job

/-- `isPlainTemplate`: whether the template is a plain `ng-template`, by its tag name. -/
def isPlainTemplate (tmpl : Template) : Bool :=
  (imports.splitNsName (tmpl.tagName.getD "")).2 == NG_TEMPLATE_TAG_NAME

/-- The template op of `ingestTemplate`: the tag name split from its namespace (a null or
empty tag name is not split), the function name suffix, and `ir.createTemplateOp`. -/
def templateOpOf (tmpl : Template) (childView : Nat) (templateKind : TemplateKind) :
    TemplateOp :=
  -- `if (tmpl.tagName)`: a null or empty tag name is not split.
  let (namespacePrefix, tagNameWithoutNamespace) : Option String × Option String :=
    match tmpl.tagName with
    | some tagName =>
      if tagName = "" then (some "", some tagName)
      else let (p, n) := imports.splitNsName tagName; (p, some n)
    | none => (some "", none)
  let «namespace» := imports.namespaceForKey namespacePrefix
  let functionNameSuffix := match tagNameWithoutNamespace with
    | none => ""
    | some tagName => imports.prefixWithNamespace tagName «namespace»
  { xref := childView, templateKind := templateKind, tag := tagNameWithoutNamespace,
    functionNameSuffix := functionNameSuffix, «namespace» := «namespace»,
    i18nPlaceholder := match tmpl.i18n with
      | some (.node .tagPlaceholder) => tmpl.i18n
      | _ => none,
    startSourceSpan := tmpl.startSourceSpan, wholeSourceSpan := tmpl.sourceSpan,
    localRefs := ingestReferences tmpl.references }

/-- `ingestTemplate`: ingest an `ng-template` node into the given unit. -/
def ingestTemplate (unit : Nat) (tmpl : Template) (ingestChildren : IngestChildren)
    (job : CompilationJob) : Except String CompilationJob := do
  checkI18nMeta "template" tmpl.i18n
  let (childView, job) := job.allocateView unit
  let templateKind := if isPlainTemplate imports tmpl then TemplateKind.ngTemplate
    else .structural
  let templateOp := templateOpOf imports tmpl childView templateKind
  let job := job.pushCreate unit [.template templateOp]
  let job ← ingestTemplateBindings imports unit templateOp tmpl templateKind job
  let job ← ingestChildren childView job
  let job := tmpl.variables.foldl (fun job v =>
    job.setContextVariable childView v.name (if v.value != "" then v.value else "$implicit")) job
  -- For a plain template with an i18n message, the i18n ops enclose the child view's whole
  -- create list.
  match templateKind, tmpl.i18n with
  | .ngTemplate, some (.message message) =>
    let (id, job) := job.allocateXrefId
    let job := job.insertCreate childView (.i18nStart id message tmpl.startSourceSpan) 0
    let endSpan := tmpl.endSourceSpan.getD tmpl.startSourceSpan
    pure (job.insertCreate childView (.i18nEnd id endSpan) (job.createOf childView).length)
  | _, _ => pure job

/-- `ingestContent`: ingest a content node into the given unit. -/
def ingestContent (unit : Nat) (content : Content) (job : CompilationJob) :
    Except String CompilationJob := do
  checkContentI18n content.i18n
  let (xref, job) := job.allocateXrefId
  let bindings ← content.attributes.mapM (staticAttributeBinding imports content.name xref)
  let job := job.pushUpdate unit bindings
  pure (job.pushCreate unit [.projection xref content.selector content.i18n content.sourceSpan])

/-- `ingestText`: ingest a literal text node into the given unit. -/
def ingestText (unit : Nat) (text : Text) (icuPlaceholder : Option String)
    (job : CompilationJob) : CompilationJob :=
  let (xref, job) := job.allocateXrefId
  job.pushCreate unit [.text xref text.value icuPlaceholder text.sourceSpan]

/-- The placeholder names of the children of an `i18n.Container`. -/
def containerPlaceholders : List I18nNode → List String
  | [] => []
  | .placeholder name :: nodes => name :: containerPlaceholders nodes
  | _ :: nodes => containerPlaceholders nodes

/-- `ingestBoundText`: ingest an interpolated text node into the given unit. -/
def ingestBoundText (unit : Nat) (text : BoundText) (icuPlaceholder : Option String)
    (job : CompilationJob) : Except String CompilationJob := do
  let value := astOf text.value
  let (strings, expressions) ← (match value with
    | .interpolation _ strings expressions => pure (strings, expressions)
    | value => throw ("AssertionError: expected Interpolation for BoundText node, got " ++
        value.constructorName))
  let i18nPlaceholders ← (match text.i18n with
    | none => pure []
    | some (.node (.container children)) => pure (containerPlaceholders children)
    | some meta =>
      throw ("Unhandled i18n metadata type for text interpolation: " ++ meta.constructorName))
  if i18nPlaceholders.length > 0 && i18nPlaceholders.length != expressions.length then
    throw ("Unexpected number of i18n placeholders (" ++ toString expressions.length ++
      ") for BoundText with " ++ toString expressions.length ++ " expressions")
  let (textXref, job) := job.allocateXrefId
  let job := job.pushCreate unit [.text textXref "" icuPlaceholder text.sourceSpan]
  -- TemplateDefinitionBuilder does not generate source maps for sub-expressions inside an
  -- interpolation; compatibility mode copies that.
  let baseSourceSpan := if job.inCompatibilityMode then none else some text.sourceSpan
  let (xs, job) ← convertAstList imports expressions job baseSourceSpan
  let interpolation ← Interpolation.new strings xs i18nPlaceholders
  pure (job.pushUpdate unit [.interpolateText textXref interpolation text.sourceSpan])

/-- The accumulators of the branch loops of `@if` and `@switch`: `firstXref`,
`firstSlotHandle` and `conditions`. -/
structure ConditionalAcc where
  firstXref : Option Nat
  firstSlotHandle : Option SlotHandle
  conditions : List ConditionalCaseExpr

/-- Record a branch's template in the accumulators. -/
def ConditionalAcc.add (acc : ConditionalAcc) (xref : Nat) (case : ConditionalCaseExpr) :
    ConditionalAcc :=
  { firstXref := acc.firstXref.orElse fun _ => some xref,
    firstSlotHandle := acc.firstSlotHandle.orElse fun _ => some (.ofOp xref),
    conditions := acc.conditions ++ [case] }

/-- The i18n metadata of a block branch, which must be a block placeholder. -/
def blockPlaceholder (what : String) : Option I18nMeta → Except String (Option I18nMeta)
  | none => .ok none
  | some (.node .blockPlaceholder) => .ok (some (.node .blockPlaceholder))
  | some meta =>
    throw ("Unhandled i18n metadata type for " ++ what ++ ": " ++ meta.constructorName)

/-- The loop of `ingestIfBlock`, from branch index `i` on. -/
def ingestIfBranches (unit : Nat) :
    Nat → List (IfBlockBranch × List Node × IngestChildren) → ConditionalAcc →
    CompilationJob → Except String (ConditionalAcc × CompilationJob)
  | _, [], acc, job => .ok (acc, job)
  | i, (ifCase, children, ingestChildren) :: branches, acc, job => do
    let (cView, job) := job.allocateView unit
    -- Only the first branch can be used for projection, because the conditional uses the
    -- container of the first branch as the insertion point for all branches.
    let (tagName, job) ← (if i = 0 then
        ingestControlFlowInsertionPoint imports unit cView children job
      else pure (none, job))
    let job := match ifCase.expressionAlias with
      | some expressionAlias => job.setContextVariable cView expressionAlias.name imports.ctxRef
      | none => job
    let ifCaseI18nMeta ← blockPlaceholder "if block" ifCase.i18n
    let templateOp : TemplateOp :=
      { xref := cView, templateKind := .block, tag := tagName,
        functionNameSuffix := "Conditional", «namespace» := .html,
        i18nPlaceholder := ifCaseI18nMeta, startSourceSpan := ifCase.startSourceSpan,
        wholeSourceSpan := ifCase.sourceSpan, localRefs := [] }
    let job := job.pushCreate unit [.template templateOp]
    let (caseExpr, job) ← (match ifCase.expression with
      | some expression => do
        let (x, job) ← convertAst imports expression job none
        pure (some x, job)
      | none => pure (none, job))
    let acc := acc.add cView ⟨caseExpr, cView, .ofOp cView, ifCase.expressionAlias⟩
    let job ← ingestChildren cView job
    ingestIfBranches unit (i + 1) branches acc job

/-- `ingestIfBlock`: ingest an `@if` block into the given unit. -/
def ingestIfBlock (unit : Nat) (ifBlock : IfBlock)
    (branches : List (IfBlockBranch × List Node × IngestChildren)) (job : CompilationJob) :
    Except String CompilationJob := do
  let (acc, job) ← ingestIfBranches imports unit 0 branches ⟨none, none, []⟩ job
  pure (job.pushUpdate unit
    [.conditional acc.firstXref acc.firstSlotHandle none acc.conditions ifBlock.sourceSpan])

/-- The loop of `ingestSwitchBlock`. -/
def ingestSwitchCases (unit : Nat) (switchBlock : SwitchBlock) :
    List (SwitchBlockCase × IngestChildren) → ConditionalAcc → CompilationJob →
    Except String (ConditionalAcc × CompilationJob)
  | [], acc, job => .ok (acc, job)
  | (switchCase, ingestChildren) :: cases, acc, job => do
    let (cView, job) := job.allocateView unit
    let switchCaseI18nMeta ← blockPlaceholder "switch block" switchCase.i18n
    let templateOp : TemplateOp :=
      { xref := cView, templateKind := .block, tag := none, functionNameSuffix := "Case",
        «namespace» := .html, i18nPlaceholder := switchCaseI18nMeta,
        startSourceSpan := switchCase.startSourceSpan, wholeSourceSpan := switchCase.sourceSpan,
        localRefs := [] }
    let job := job.pushCreate unit [.template templateOp]
    let (caseExpr, job) ← (match switchCase.expression with
      | some expression => do
        let (x, job) ← convertAst imports expression job (some switchBlock.startSourceSpan)
        pure (some x, job)
      | none => pure (none, job))
    let acc := acc.add cView ⟨caseExpr, cView, .ofOp cView, none⟩
    let job ← ingestChildren cView job
    ingestSwitchCases unit switchBlock cases acc job

/-- `ingestSwitchBlock`: ingest a `@switch` block into the given unit. A switch without
cases is not ingested, since it can never render anything. -/
def ingestSwitchBlock (unit : Nat) (switchBlock : SwitchBlock)
    (cases : List (SwitchBlockCase × IngestChildren)) (job : CompilationJob) :
    Except String CompilationJob :=
  if cases.length = 0 then .ok job
  else do
    let (acc, job) ← ingestSwitchCases imports unit switchBlock cases ⟨none, none, []⟩ job
    let (test, job) ← convertAst imports switchBlock.expression job none
    pure (job.pushUpdate unit
      [.conditional acc.firstXref acc.firstSlotHandle (some test) acc.conditions
        switchBlock.sourceSpan])

/-- `ingestDeferView`: the view of one part of a `@defer` block, if the part exists. -/
def ingestDeferView (unit : Nat) (suffix : String) (i18nMeta : Option I18nMeta)
    (view : Option (IngestChildren × ParseSourceSpan)) (job : CompilationJob) :
    Except String (Option TemplateOp × CompilationJob) := do
  checkBlockPlaceholder "Unhandled i18n metadata type for defer block" i18nMeta
  match view with
  | none => pure (none, job)
  | some (ingestChildren, sourceSpan) =>
    let (secondaryView, job) := job.allocateView unit
    let job ← ingestChildren secondaryView job
    let templateOp : TemplateOp :=
      { xref := secondaryView, templateKind := .block, tag := none,
        functionNameSuffix := "Defer" ++ suffix, «namespace» := .html,
        i18nPlaceholder := i18nMeta, startSourceSpan := sourceSpan,
        wholeSourceSpan := sourceSpan, localRefs := [] }
    pure (some templateOp, job.pushCreate unit [.template templateOp])

/-- The `on` triggers of one pass of `ingestDeferBlock`, in the order the source tests
them. -/
def deferOnTriggers (deferXref : Nat) (prefetch : Bool) (triggers : DeferredBlockTriggers) :
    List CreateOp :=
  (triggers.idle.map fun s => CreateOp.deferOn deferXref .idle prefetch (some s)).toList ++
  (triggers.immediate.map fun s => CreateOp.deferOn deferXref .immediate prefetch (some s)).toList ++
  (triggers.timer.map fun t =>
    CreateOp.deferOn deferXref (.timer t.delay) prefetch (some t.sourceSpan)).toList ++
  (triggers.hover.map fun t =>
    CreateOp.deferOn deferXref (.hover t.reference) prefetch (some t.sourceSpan)).toList ++
  (triggers.interaction.map fun t =>
    CreateOp.deferOn deferXref (.interaction t.reference) prefetch (some t.sourceSpan)).toList ++
  (triggers.viewport.map fun t =>
    CreateOp.deferOn deferXref (.viewport t.reference) prefetch (some t.sourceSpan)).toList

/-- One pass of the trigger loop of `ingestDeferBlock`, extending `deferOnOps` and
`deferWhenOps`. -/
def ingestDeferTriggers (deferXref : Nat) (prefetch : Bool)
    (triggers : DeferredBlockTriggers) (deferOnOps : List CreateOp)
    (deferWhenOps : List UpdateOp) (job : CompilationJob) :
    Except String ((List CreateOp × List UpdateOp) × CompilationJob) := do
  let deferOnOps := deferOnOps ++ deferOnTriggers deferXref prefetch triggers
  let (deferWhenOps, job) ← (match triggers.when with
    | none => pure (deferWhenOps, job)
    | some when => match when.value with
      | .interpolation .. => throw "Unexpected interpolation in defer block when trigger"
      | value => do
        let (x, job) ← convertAst imports value job (some when.sourceSpan)
        pure (deferWhenOps ++ [.deferWhen deferXref x prefetch when.sourceSpan], job))
  -- If no (non-prefetching) defer triggers were provided, default to `idle`.
  let deferOnOps := if deferOnOps.length = 0 && deferWhenOps.length = 0 then
      deferOnOps ++ [.deferOn deferXref .idle false none]
    else deferOnOps
  pure ((deferOnOps, deferWhenOps), job)

/-- `ingestDeferBlock`: ingest a `@defer` block and its secondary blocks into the given
unit. -/
def ingestDeferBlock (unit : Nat) (deferBlock : DeferredBlock) (ingestChildren : IngestChildren)
    (placeholder loading error : Option (DeferredBlockSecondary × IngestChildren))
    (job : CompilationJob) : Except String CompilationJob := do
  let blockMeta ← (match job.deferBlocksMeta deferBlock with
    | some blockMeta => pure blockMeta
    | none => throw "AssertionError: unable to find metadata for deferred block")
  -- Generate the defer main view and all secondary views.
  let (main, job) ← ingestDeferView unit "" deferBlock.i18n
    (some (ingestChildren, deferBlock.sourceSpan)) job
  let secondary (b : Option (DeferredBlockSecondary × IngestChildren)) :=
    b.map fun (s, ingest) => (ingest, s.sourceSpan)
  let (loadingOp, job) ← ingestDeferView unit "Loading" (loading.bind (·.1.i18n))
    (secondary loading) job
  let (placeholderOp, job) ← ingestDeferView unit "Placeholder"
    (placeholder.bind (·.1.i18n)) (secondary placeholder) job
  let (errorOp, job) ← ingestDeferView unit "Error" (error.bind (·.1.i18n))
    (secondary error) job
  -- `main` is always a template op, since the main block always has children.
  let mainView := (main.map (·.xref)).getD 0
  -- Create the main defer op, and ops for all secondary views.
  let (deferXref, job) := job.allocateXrefId
  let deferOp : DeferOp :=
    { xref := deferXref, mainView := mainView, mainSlot := .ofOp mainView,
      metadata := blockMeta, sourceSpan := deferBlock.sourceSpan,
      placeholderView := placeholderOp.map (·.xref),
      placeholderSlot := placeholderOp.map (.ofOp ·.xref),
      loadingSlot := loadingOp.map (.ofOp ·.xref),
      errorSlot := errorOp.map (.ofOp ·.xref),
      placeholderMinimumTime := placeholder.bind (·.1.minimumTime),
      loadingMinimumTime := loading.bind (·.1.minimumTime),
      loadingAfterTime := loading.bind (·.1.afterTime) }
  let job := job.pushCreate unit [.defer deferOp]
  -- Configure all defer `on` conditions.
  let ((deferOnOps, deferWhenOps), job) ←
    ingestDeferTriggers imports deferXref false deferBlock.triggers [] [] job
  let ((deferOnOps, deferWhenOps), job) ←
    ingestDeferTriggers imports deferXref true deferBlock.prefetchTriggers deferOnOps
      deferWhenOps job
  pure ((job.pushCreate unit deferOnOps).pushUpdate unit deferWhenOps)

/-- `Object.entries({...icu.vars, ...icu.placeholders})`. -/
def Icu.placeholderEntries (icu : Icu) : List (String × IcuPlaceholder) :=
  (icu.vars.map (fun kv => (kv.1, IcuPlaceholder.boundText kv.2)) ++ icu.placeholders).foldl
    (fun entries kv => mapSet entries kv.1 kv.2) []

/-- `ingestIcu`: ingest an ICU into the given unit. -/
def ingestIcu (unit : Nat) (icu : Icu) (job : CompilationJob) :
    Except String CompilationJob :=
  match icu.i18n with
  | some (.message message) =>
    if imports.isSingleI18nIcu message then do
      let (xref, job) := job.allocateXrefId
      let job := job.pushCreate unit [.icuStart xref message]
      let job ← icu.placeholderEntries.foldlM (fun job (placeholder, text) =>
        match text with
        | .boundText text => ingestBoundText imports unit text (some placeholder) job
        | .text text => .ok (ingestText unit text (some placeholder) job)) job
      pure (job.pushCreate unit [.icuEnd xref])
    else throw "Unhandled i18n metadata type for ICU: Message"
  | meta => throw ("Unhandled i18n metadata type for ICU: " ++
      (meta.map I18nMeta.constructorName).getD "undefined")

/-- The `ɵ`-prefixed, view-suffixed name `ingestForBlock` gives `$index` and `$count`. -/
def forLoopVarName (name : String) (view : Nat) : String :=
  "ɵ" ++ name ++ "_" ++ toString view

/-- `ingestForBlock`: ingest a `@for` block and its `@empty` block into the given unit. -/
def ingestForBlock (unit : Nat) (forBlock : ForLoopBlock) (children : List Node)
    (ingestChildren : IngestChildren)
    (empty : Option (ForLoopBlockEmpty × List Node × IngestChildren))
    (job : CompilationJob) : Except String CompilationJob := do
  let ctx := forBlock.contextVariables
  let (repeaterView, job) := job.allocateView unit
  -- Set all the context variables and aliases available in the repeater.
  let job := job.setContextVariable repeaterView forBlock.item.name forBlock.item.value
  let job := job.setContextVariable repeaterView ctx.«$index».name ctx.«$index».value
  let job := job.setContextVariable repeaterView ctx.«$count».name ctx.«$count».value
  -- TemplateDefinitionBuilder's scheme of suffixed names for `$count` and `$index`, which
  -- tells the levels of nested loops apart.
  let indexName := forLoopVarName ctx.«$index».name repeaterView
  let countName := forLoopVarName ctx.«$count».name repeaterView
  let job := job.setContextVariable repeaterView indexName ctx.«$index».value
  let job := job.setContextVariable repeaterView countName ctx.«$count».value
  let index := Expression.lexicalRead indexName
  let lit (n : Int) := Expression.literal (.number n) none
  let job := job.addAlias repeaterView
    ⟨ctx.«$first».name, .binaryOperator .identical index (lit 0) none⟩
  let job := job.addAlias repeaterView
    ⟨ctx.«$last».name, .binaryOperator .identical index
      (.binaryOperator .minus (.lexicalRead countName) (lit 1) none) none⟩
  let job := job.addAlias repeaterView
    ⟨ctx.«$even».name, .binaryOperator .identical
      (.binaryOperator .modulo index (lit 2) none) (lit 0) none⟩
  let job := job.addAlias repeaterView
    ⟨ctx.«$odd».name, .binaryOperator .notIdentical
      (.binaryOperator .modulo index (lit 2) none) (lit 0) none⟩
  let sourceSpan := convertSourceSpan forBlock.trackBy.span (some forBlock.sourceSpan)
  let (track, job) ← convertAst imports forBlock.trackBy job sourceSpan
  let job ← ingestChildren repeaterView job
  let (emptyView, emptyTagName, job) ← (match empty with
    | none => pure (none, none, job)
    | some (_, emptyChildren, ingestEmpty) => do
      let (emptyView, job) := job.allocateView unit
      let job ← ingestEmpty emptyView job
      let (emptyTagName, job) ←
        ingestControlFlowInsertionPoint imports unit emptyView emptyChildren job
      pure (some emptyView, emptyTagName, job))
  let varNames : RepeaterVarNames :=
    { «$index» := ctx.«$index».name, «$count» := ctx.«$count».name,
      «$first» := ctx.«$first».name, «$last» := ctx.«$last».name,
      «$even» := ctx.«$even».name, «$odd» := ctx.«$odd».name,
      «$implicit» := forBlock.item.name }
  checkBlockPlaceholder "AssertionError: Unhandled i18n metadata type or @for" forBlock.i18n
  checkBlockPlaceholder "AssertionError: Unhandled i18n metadata type or @empty"
    (empty.bind (·.1.i18n))
  let (tagName, job) ← ingestControlFlowInsertionPoint imports unit repeaterView children job
  let repeaterCreate : RepeaterCreateOp :=
    { xref := repeaterView, emptyView := emptyView, tag := tagName, track := track,
      varNames := varNames, emptyTag := emptyTagName, i18nPlaceholder := forBlock.i18n,
      emptyI18nPlaceholder := empty.bind (·.1.i18n),
      startSourceSpan := forBlock.startSourceSpan, wholeSourceSpan := forBlock.sourceSpan }
  let job := job.pushCreate unit [.repeaterCreate repeaterCreate]
  let (expression, job) ← convertAst imports forBlock.expression job
    (convertSourceSpan forBlock.expression.span (some forBlock.sourceSpan))
  pure (job.pushUpdate unit
    [.repeater repeaterView (.ofOp repeaterView) expression forBlock.sourceSpan])

mutual

/-- `ingestNodes`: ingest the nodes of a template AST into the given unit, in order. -/
def ingestNodes (unit : Nat) : List Node → CompilationJob → Except String CompilationJob
  | [], job => .ok job
  | node :: nodes, job => do
    let job ← ingestNode unit node job
    ingestNodes unit nodes job

/-- The dispatch of `ingestNodes` on the kind of one node. -/
def ingestNode (unit : Nat) : Node → CompilationJob → Except String CompilationJob
  | .element element children, job =>
    ingestElement imports unit element (fun u => ingestNodes u children) job
  | .template tmpl children, job =>
    ingestTemplate imports unit tmpl (fun u => ingestNodes u children) job
  | .content content, job => ingestContent imports unit content job
  | .text text, job => .ok (ingestText unit text none job)
  | .boundText text, job => ingestBoundText imports unit text none job
  | .ifBlock ifBlock branches, job =>
    ingestIfBlock imports unit ifBlock (closeIfBranches branches) job
  | .switchBlock switchBlock cases, job =>
    ingestSwitchBlock imports unit switchBlock (closeSwitchCases cases) job
  | .deferredBlock deferBlock children placeholder loading error, job =>
    ingestDeferBlock imports unit deferBlock (fun u => ingestNodes u children)
      (closeDeferSecondary placeholder) (closeDeferSecondary loading)
      (closeDeferSecondary error) job
  | .icu icu, job => ingestIcu imports unit icu job
  | .forLoopBlock forBlock children empty, job =>
    ingestForBlock imports unit forBlock children (fun u => ingestNodes u children)
      (closeForEmpty empty) job
  | node@(.comment _), _ | node@(.unknownBlock _), _ =>
    throw ("Unsupported template node: " ++ node.constructorName)

/-- The branches of an `@if`, each with its children and their ingestion. -/
def closeIfBranches :
    List (IfBlockBranch × List Node) → List (IfBlockBranch × List Node × IngestChildren)
  | [] => []
  | (branch, children) :: branches =>
    (branch, children, fun u => ingestNodes u children) :: closeIfBranches branches

/-- The cases of a `@switch`, each with the ingestion of its children. -/
def closeSwitchCases :
    List (SwitchBlockCase × List Node) → List (SwitchBlockCase × IngestChildren)
  | [] => []
  | (switchCase, children) :: cases =>
    (switchCase, fun u => ingestNodes u children) :: closeSwitchCases cases

/-- A secondary block of a `@defer`, with the ingestion of its children. -/
def closeDeferSecondary :
    Option (DeferredBlockSecondary × List Node) → Option (DeferredBlockSecondary × IngestChildren)
  | none => none
  | some (block, children) => some (block, fun u => ingestNodes u children)

/-- The `@empty` block of a `@for`, with its children and their ingestion. -/
def closeForEmpty :
    Option (ForLoopBlockEmpty × List Node) → Option (ForLoopBlockEmpty × List Node × IngestChildren)
  | none => none
  | some (block, children) => some (block, children, fun u => ingestNodes u children)

end

/-- `ingestComponent`: process a template AST into a component compilation job. -/
def ingestComponent (componentName : String) (template : List Node)
    (deferBlocksMeta : DeferredBlock → Option R3DeferBlockMetadata) :
    Except String CompilationJob :=
  let job := CompilationJob.component componentName .templateDefinitionBuilder deferBlocksMeta
  ingestNodes imports job.root template job

/-! ## Host bindings -/

/-- `e.ParsedProperty`, with the fields `ingestHostBinding` reads; `expression` is the
`ASTWithSource` of the binding. -/
structure ParsedProperty where
  name : String
  expression : AST
  isAnimation : Bool
  sourceSpan : ParseSourceSpan
  deriving Repr

/-- `e.ParsedEvent`. -/
structure ParsedEvent where
  name : String
  type : ParsedEventType
  targetOrPhase : Option String
  handler : AST
  sourceSpan : ParseSourceSpan
  handlerSpan : ParseSourceSpan
  deriving Repr

/-- `HostBindingInput`; `attributes` lists the entries of the attribute map in order. -/
structure HostBindingInput where
  componentName : String
  componentSelector : String
  properties : Option (List ParsedProperty)
  attributes : List (String × Expression)
  events : Option (List ParsedEvent)
  deriving Repr

/-- The method of `BindingParser` that `ingestHostBinding` calls. -/
structure BindingParser where
  calcPossibleSecurityContexts : String → String → Bool → List SecurityContext

/-- The job a `HostBindingCompilationJob` constructor builds: the root unit takes the first
xref, and there are no `@defer` blocks. -/
def CompilationJob.host (componentName : String) (compatibility : CompatibilityMode) :
    CompilationJob :=
  CompilationJob.component componentName compatibility fun _ => none

/-- The security contexts of a host binding, without `SecurityContext.NONE`. -/
def hostSecurityContexts (bindingParser : BindingParser) (selector name : String)
    (isAttribute : Bool) : List SecurityContext :=
  (bindingParser.calcPossibleSecurityContexts selector name isAttribute).filter
    (· != SecurityContext.none)

/-- The value of a host property binding, as `ingestHostProperty` computes it: an
interpolation converts its expressions and has no i18n placeholders. -/
def hostPropertyExpression (job : CompilationJob) (property : ParsedProperty) :
    Except String (BindingExpression × CompilationJob) :=
  match astOf property.expression with
  | .interpolation _ strings expressions => do
    let (xs, job) ← convertAstList imports expressions job (some property.sourceSpan)
    let interpolation ← Interpolation.new strings xs []
    pure (BindingExpression.interpolation interpolation, job)
  | ast => do
    let (x, job) ← convertAst imports ast job (some property.sourceSpan)
    pure (.expression x, job)

/-- `ingestHostProperty`: the update op of a host property binding, on the root unit. -/
def ingestHostProperty (job : CompilationJob) (property : ParsedProperty)
    (bindingKind : BindingKind) (securityContexts : List SecurityContext) :
    Except String CompilationJob := do
  let (expression, job) ← hostPropertyExpression imports job property
  pure (job.pushUpdate job.root [.binding
    { target := job.root, bindingKind := bindingKind, name := property.name,
      expression := expression, unit := none, securityContext := securityContexts,
      isTextAttribute := false, isStructuralTemplateAttribute := false, templateKind := none,
      i18nMessage := none, sourceSpan := some property.sourceSpan }])

/-- `ingestHostAttribute`: the update op of a host attribute, always extracted. -/
def ingestHostAttribute (job : CompilationJob) (name : String) (value : Expression)
    (securityContexts : List SecurityContext) : CompilationJob :=
  job.pushUpdate job.root [.binding
    { target := job.root, bindingKind := .attribute, name := name,
      expression := .expression value, unit := none, securityContext := securityContexts,
      isTextAttribute := true, isStructuralTemplateAttribute := false, templateKind := none,
      i18nMessage := none, sourceSpan := value.sourceSpan }]

/-- `ingestHostEvent`: the listener op of a host event, on the root unit. -/
def ingestHostEvent (job : CompilationJob) (event : ParsedEvent) :
    Except String CompilationJob := do
  let (phase, target) : Option String × Option String :=
    if event.type = .regular then (none, event.targetOrPhase) else (event.targetOrPhase, none)
  let (handlerOps, job) ← makeListenerHandlerOps imports job event.handler event.handlerSpan
  pure (job.pushCreate job.root [.listener
    { target := job.root, targetSlot := .fresh, name := event.name, tag := none,
      handlerOps := handlerOps, animationPhase := phase, eventTarget := target,
      hostListener := true, sourceSpan := event.sourceSpan }])

/-- One pass of the properties loop of `ingestHostBinding`. A name with the `attr.` prefix
loses it in place, `property.name = property.name.substring('attr.'.length)`, so the pass
returns the property as it leaves it. -/
def ingestHostBindingProperty (bindingParser : BindingParser) (selector : String)
    (property : ParsedProperty) (job : CompilationJob) :
    Except String (ParsedProperty × CompilationJob) := do
  let (property, bindingKind) :=
    if "attr.".toList.isPrefixOf property.name.toList then
      ({ property with name := String.mk (property.name.toList.drop "attr.".length) },
        BindingKind.attribute)
    else (property, BindingKind.property)
  let bindingKind := if property.isAnimation then BindingKind.animation else bindingKind
  let securityContexts :=
    hostSecurityContexts bindingParser selector property.name (bindingKind == .attribute)
  let job ← ingestHostProperty imports job property bindingKind securityContexts
  pure (property, job)

/-- `ingestHostBinding`: process host bindings into a host binding compilation job. The
result holds the job and the input as the call leaves it, its properties renamed. -/
def ingestHostBinding (bindingParser : BindingParser) (input : HostBindingInput) :
    Except String (CompilationJob × HostBindingInput) := do
  let job := CompilationJob.host input.componentName .templateDefinitionBuilder
  let (properties, job) ← mapJob
    (ingestHostBindingProperty imports bindingParser input.componentSelector)
    (input.properties.getD []) job
  let job := input.attributes.foldl (fun job (name, expr) =>
    ingestHostAttribute job name expr
      (hostSecurityContexts bindingParser input.componentSelector name true)) job
  let job ← (input.events.getD []).foldlM (ingestHostEvent imports) job
  pure (job, { input with properties := input.properties.map fun _ => properties })

end

end Angular.Compiler
