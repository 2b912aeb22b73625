import Mathlib.Data.List.Basic

/-!
# Angular.Compiler.Ast

The **inputs of template ingestion**: the source spans of `parse_util`, the expression AST
(`e.*`, `expression_parser/ast`), the i18n metadata (`i18n.*`, `i18n/i18n_ast`) and the
template AST (`t.*`, `render3/r3_ast`).

None of these modules is under src. The spec treats them as collaborators "specified only
at their interface" (§1, §6), so each type keeps exactly the fields that `ingest.ts`
reads, under their TypeScript names. Design points:

* A template node is its own record plus the node lists it owns:
  `Node.element element children` is a `t.Element` whose `children` are `children`. An
  `@if` branch, a `@switch` case and the secondary blocks of `@defer` and `@for` are pairs
  of a record and their children. Ingestion then recurses structurally.
* `ThisReceiver` is a subclass of `ImplicitReceiver` in the expression AST, so the
  `instanceof ImplicitReceiver` test of `convertAst` holds for both
  (`AST.isImplicitReceiver`).
* The i18n metadata keeps the kinds ingestion tests for (`instanceof i18n.Message`, ...),
  the placeholder names of a container, and the nodes and placeholder keys of a message.
-/

namespace Angular.Compiler

/-! ## Source spans -/

/-- `ParseLocation`: a position in a source file (its url and character offset). -/
structure ParseLocation where
  file : String
  offset : Nat
  deriving Repr, DecidableEq

/-- Modelled from the spec: `ParseLocation.moveBy` of `parse_util` is not under src. The
spec's span remapping "translat[es] a relative parse-span through a base span's
start/full-start anchors", i.e. moves the anchor forward by the relative offset. -/
def ParseLocation.moveBy (loc : ParseLocation) (delta : Nat) : ParseLocation :=
  { loc with offset := loc.offset + delta }

/-- `ParseSourceSpan`: an absolute span of the template source. -/
structure ParseSourceSpan where
  start : ParseLocation
  «end» : ParseLocation
  fullStart : ParseLocation
  deriving Repr, DecidableEq

/-- `ParseSpan`: a span relative to the start of the expression it belongs to. -/
structure ParseSpan where
  start : Nat
  «end» : Nat
  deriving Repr, DecidableEq

/-! ## The expression AST (`e.*`) -/

/-- The value of a `LiteralPrimitive`: a string, number, boolean, `null` or `undefined`.
Numbers are modelled as integers. -/
inductive LiteralValue where
  | string (value : String)
  | number (value : Int)
  | boolean (value : Bool)
  | null
  | undefined
  deriving Repr, DecidableEq

/-- A key of a `LiteralMap`. -/
structure LiteralMapKey where
  key : String
  quoted : Bool
  deriving Repr, DecidableEq

/-- `e.AST`: the expression AST produced by the expression parser. -/
inductive AST where
  /-- `ASTWithSource`: a parsed expression together with its source text. -/
  | astWithSource (span : ParseSpan) (ast : AST)
  | implicitReceiver (span : ParseSpan)
  /-- `ThisReceiver`: an explicit `this` (a subclass of `ImplicitReceiver`). -/
  | thisReceiver (span : ParseSpan)
  | propertyRead (span : ParseSpan) (receiver : AST) (name : String)
  | propertyWrite (span : ParseSpan) (receiver : AST) (name : String) (value : AST)
  | keyedRead (span : ParseSpan) (receiver key : AST)
  | keyedWrite (span : ParseSpan) (receiver key value : AST)
  | call (span : ParseSpan) (receiver : AST) (args : List AST)
  | safePropertyRead (span : ParseSpan) (receiver : AST) (name : String)
  | safeKeyedRead (span : ParseSpan) (receiver key : AST)
  | safeCall (span : ParseSpan) (receiver : AST) (args : List AST)
  | literalPrimitive (span : ParseSpan) (value : LiteralValue)
  /-- `Unary` (`+x`, `-x`); in the parser a subclass of `Binary`, tested first. -/
  | unary (span : ParseSpan) (operator : String) (expr : AST)
  | binary (span : ParseSpan) (operation : String) (left right : AST)
  | chain (span : ParseSpan) (expressions : List AST)
  | conditional (span : ParseSpan) (condition trueExp falseExp : AST)
  | literalMap (span : ParseSpan) (keys : List LiteralMapKey) (values : List AST)
  | literalArray (span : ParseSpan) (expressions : List AST)
  | nonNullAssert (span : ParseSpan) (expression : AST)
  | bindingPipe (span : ParseSpan) (exp : AST) (name : String) (args : List AST)
  | emptyExpr (span : ParseSpan)
  | prefixNot (span : ParseSpan) (expression : AST)
  | interpolation (span : ParseSpan) (strings : List String) (expressions : List AST)
  deriving Repr

namespace AST

/-- `ast.span`. -/
def span : AST → ParseSpan
  | astWithSource s _ | implicitReceiver s | thisReceiver s | propertyRead s _ _
  | propertyWrite s _ _ _ | keyedRead s _ _ | keyedWrite s _ _ _ | call s _ _
  | safePropertyRead s _ _ | safeKeyedRead s _ _ | safeCall s _ _ | literalPrimitive s _
  | unary s _ _ | binary s _ _ _ | chain s _ | conditional s _ _ _ | literalMap s _ _
  | literalArray s _ | nonNullAssert s _ | bindingPipe s _ _ _ | emptyExpr s | prefixNot s _
  | interpolation s _ _ => s

/-- `ast.constructor.name`, as the error messages print it. -/
def constructorName : AST → String
  | astWithSource .. => "ASTWithSource"
  | implicitReceiver .. => "ImplicitReceiver"
  | thisReceiver .. => "ThisReceiver"
  | propertyRead .. => "PropertyRead"
  | propertyWrite .. => "PropertyWrite"
  | keyedRead .. => "KeyedRead"
  | keyedWrite .. => "KeyedWrite"
  | call .. => "Call"
  | safePropertyRead .. => "SafePropertyRead"
  | safeKeyedRead .. => "SafeKeyedRead"
  | safeCall .. => "SafeCall"
  | literalPrimitive .. => "LiteralPrimitive"
  | unary .. => "Unary"
  | binary .. => "Binary"
  | chain .. => "Chain"
  | conditional .. => "Conditional"
  | literalMap .. => "LiteralMap"
  | literalArray .. => "LiteralArray"
  | nonNullAssert .. => "NonNullAssert"
  | bindingPipe .. => "BindingPipe"
  | emptyExpr .. => "EmptyExpr"
  | prefixNot .. => "PrefixNot"
  | interpolation .. => "Interpolation"

/-- `ast instanceof e.ImplicitReceiver`: true of `ThisReceiver` too. -/
def isImplicitReceiver : AST → Bool
  | implicitReceiver _ | thisReceiver _ => true
  | _ => false

/-- `ast instanceof e.ThisReceiver`. -/
def isThisReceiver : AST → Bool
  | thisReceiver _ => true
  | _ => false

end AST

/-- `astOf`: the expression inside an `ASTWithSource`. -/
def astOf : AST → AST
  | .astWithSource _ ast => ast
  | ast => ast

/-- `e.BindingType`. -/
inductive BindingType where
  | property | attribute | «class» | style | animation
  deriving Repr, DecidableEq

/-- `e.ParsedEventType`. -/
inductive ParsedEventType where
  | regular | animation
  deriving Repr, DecidableEq

/-- `core.SecurityContext`. -/
inductive SecurityContext where
  | none | html | style | script | url | resourceUrl
  deriving Repr, DecidableEq

/-! ## i18n metadata (`i18n.*`) -/

/-- `i18n.Node`. A container keeps its children and a placeholder its name, which is what
ingestion reads; the other kinds are tested for only. -/
inductive I18nNode where
  | text
  | container (children : List I18nNode)
  | icu
  | tagPlaceholder
  | placeholder (name : String)
  | icuPlaceholder
  | blockPlaceholder
  deriving Repr

/-- `i18n.Message`: its nodes and the keys of its `placeholders` map, in insertion order. -/
structure Message where
  nodes : List I18nNode
  placeholders : List String
  deriving Repr

/-- `i18n.I18nMeta`: a whole message, or a node standing for a part of one. -/
inductive I18nMeta where
  | message (message : Message)
  | node (node : I18nNode)
  deriving Repr

/-- `i18nMeta.constructor.name`. -/
def I18nMeta.constructorName : I18nMeta → String
  | .message _ => "Message"
  | .node .text => "Text"
  | .node (.container _) => "Container"
  | .node .icu => "Icu"
  | .node .tagPlaceholder => "TagPlaceholder"
  | .node (.placeholder _) => "Placeholder"
  | .node .icuPlaceholder => "IcuPlaceholder"
  | .node .blockPlaceholder => "BlockPlaceholder"

/-! ## The template AST (`t.*`) -/

/-- `t.TextAttribute`: a static attribute `name="value"`. -/
structure TextAttribute where
  name : String
  value : String
  sourceSpan : ParseSourceSpan
  i18n : Option I18nMeta
  deriving Repr

/-- `t.BoundAttribute`: an input, property, attribute, class, style or animation binding. -/
structure BoundAttribute where
  name : String
  type : BindingType
  securityContext : SecurityContext
  value : AST
  unit : Option String
  sourceSpan : ParseSourceSpan
  i18n : Option I18nMeta
  deriving Repr

/-- `t.BoundEvent`: an event binding `(name)="handler"`. -/
structure BoundEvent where
  name : String
  type : ParsedEventType
  handler : AST
  target : Option String
  phase : Option String
  sourceSpan : ParseSourceSpan
  handlerSpan : ParseSourceSpan
  deriving Repr

/-- `t.Reference` and `t.Variable`: a name bound to a value. -/
structure Reference where
  name : String
  value : String
  deriving Repr, DecidableEq

/-- `t.Element`, without its children. -/
structure Element where
  name : String
  attributes : List TextAttribute
  inputs : List BoundAttribute
  outputs : List BoundEvent
  references : List Reference
  sourceSpan : ParseSourceSpan
  startSourceSpan : ParseSourceSpan
  endSourceSpan : Option ParseSourceSpan
  i18n : Option I18nMeta
  deriving Repr

/-- An entry of `t.Template.templateAttrs`: a bound or a text attribute. -/
inductive TemplateAttr where
  | bound (attr : BoundAttribute)
  | text (attr : TextAttribute)
  deriving Repr

/-- `t.Template`, without its children. -/
structure Template where
  tagName : Option String
  attributes : List TextAttribute
  inputs : List BoundAttribute
  outputs : List BoundEvent
  templateAttrs : List TemplateAttr
  references : List Reference
  «variables» : List Reference
  sourceSpan : ParseSourceSpan
  startSourceSpan : ParseSourceSpan
  endSourceSpan : Option ParseSourceSpan
  i18n : Option I18nMeta
  deriving Repr

/-- `t.Content`: an `<ng-content>` projection slot. -/
structure Content where
  selector : String
  attributes : List TextAttribute
  sourceSpan : ParseSourceSpan
  i18n : Option I18nMeta
  deriving Repr

/-- `t.Content.name`, the fixed tag name of a projection slot. -/
def Content.name (_ : Content) : String := "ng-content"

/-- `t.Text`. -/
structure Text where
  value : String
  sourceSpan : ParseSourceSpan
  deriving Repr

/-- `t.BoundText`: text with interpolations. -/
structure BoundText where
  value : AST
  sourceSpan : ParseSourceSpan
  i18n : Option I18nMeta
  deriving Repr

/-- A placeholder of an ICU: literal or interpolated text. -/
inductive IcuPlaceholder where
  | text (text : Text)
  | boundText (text : BoundText)
  deriving Repr

/-- `t.Icu`. `placeholderEntries` is `Object.entries({...icu.vars, ...icu.placeholders})`:
the spread keeps the key order of `vars`, then appends the keys of `placeholders` that are
new, and a key present in both takes the value from `placeholders`. -/
structure Icu where
  vars : List (String × BoundText)
  placeholders : List (String × IcuPlaceholder)
  sourceSpan : ParseSourceSpan
  i18n : Option I18nMeta
  deriving Repr

/-- `t.IfBlock`, without its branches. -/
structure IfBlock where
  sourceSpan : ParseSourceSpan
  deriving Repr

/-- `t.IfBlockBranch`, without its children. -/
structure IfBlockBranch where
  expression : Option AST
  expressionAlias : Option Reference
  sourceSpan : ParseSourceSpan
  startSourceSpan : ParseSourceSpan
  i18n : Option I18nMeta
  deriving Repr

/-- `t.SwitchBlock`, without its cases. -/
structure SwitchBlock where
  expression : AST
  sourceSpan : ParseSourceSpan
  startSourceSpan : ParseSourceSpan
  deriving Repr

/-- `t.SwitchBlockCase`, without its children. -/
structure SwitchBlockCase where
  expression : Option AST
  sourceSpan : ParseSourceSpan
  startSourceSpan : ParseSourceSpan
  i18n : Option I18nMeta
  deriving Repr

/-- A trigger that names another element (`hover`, `interaction`, `viewport`). -/
structure ReferenceTrigger where
  reference : Option String
  sourceSpan : ParseSourceSpan
  deriving Repr

/-- `t.BoundDeferredTrigger`: `when <expression>`. -/
structure BoundDeferredTrigger where
  value : AST
  sourceSpan : ParseSourceSpan
  deriving Repr

/-- `t.TimerDeferredTrigger`: `on timer(<delay>)`. -/
structure TimerDeferredTrigger where
  delay : Nat
  sourceSpan : ParseSourceSpan
  deriving Repr

/-- `t.DeferredBlockTriggers`: at most one trigger of each kind. -/
structure DeferredBlockTriggers where
  when : Option BoundDeferredTrigger
  idle : Option ParseSourceSpan
  immediate : Option ParseSourceSpan
  hover : Option ReferenceTrigger
  timer : Option TimerDeferredTrigger
  interaction : Option ReferenceTrigger
  viewport : Option ReferenceTrigger
  deriving Repr

/-- `t.DeferredBlock`, without its children and secondary blocks. -/
structure DeferredBlock where
  triggers : DeferredBlockTriggers
  prefetchTriggers : DeferredBlockTriggers
  sourceSpan : ParseSourceSpan
  i18n : Option I18nMeta
  deriving Repr

/-- A secondary block of `@defer` (`@placeholder`, `@loading`, `@error`) without its
children; `minimumTime` and `afterTime` are set only where the block kind has them. -/
structure DeferredBlockSecondary where
  minimumTime : Option Nat
  afterTime : Option Nat
  sourceSpan : ParseSourceSpan
  i18n : Option I18nMeta
  deriving Repr

/-- `t.ForLoopBlockContext`: the six implicit variables of a `@for`. -/
structure ForLoopBlockContext where
  «$index» : Reference
  «$first» : Reference
  «$last» : Reference
  «$even» : Reference
  «$odd» : Reference
  «$count» : Reference
  deriving Repr

/-- `t.ForLoopBlock`, without its children and `@empty` block. -/
structure ForLoopBlock where
  item : Reference
  expression : AST
  trackBy : AST
  contextVariables : ForLoopBlockContext
  sourceSpan : ParseSourceSpan
  startSourceSpan : ParseSourceSpan
  i18n : Option I18nMeta
  deriving Repr

/-- `t.ForLoopBlockEmpty`, without its children. -/
structure ForLoopBlockEmpty where
  sourceSpan : ParseSourceSpan
  i18n : Option I18nMeta
  deriving Repr

/-- `t.Node`: the template AST. -/
inductive Node where
  | element (element : Element) (children : List Node)
  | template (template : Template) (children : List Node)
  | content (content : Content)
  | text (text : Text)
  | boundText (text : BoundText)
  | ifBlock (block : IfBlock) (branches : List (IfBlockBranch × List Node))
  | switchBlock (block : SwitchBlock) (cases : List (SwitchBlockCase × List Node))
  /-- `t.DeferredBlock` with its children and its `@placeholder`, `@loading` and `@error`
  blocks. -/
  | deferredBlock (block : DeferredBlock) (children : List Node)
      (placeholder loading error : Option (DeferredBlockSecondary × List Node))
  | icu (icu : Icu)
  | forLoopBlock (block : ForLoopBlock) (children : List Node)
      (empty : Option (ForLoopBlockEmpty × List Node))
  /-- `t.Comment`, kept by the parser only on request. -/
  | comment (value : String)
  /-- `t.UnknownBlock`: a block with a name the parser does not know. -/
  | unknownBlock (name : String)
  deriving Repr

/-- `node.constructor.name`, for the nodes `ingestNodes` does not support. -/
def Node.constructorName : Node → String
  | .element .. => "Element"
  | .template .. => "Template"
  | .content .. => "Content"
  | .text .. => "Text"
  | .boundText .. => "BoundText"
  | .ifBlock .. => "IfBlock"
  | .switchBlock .. => "SwitchBlock"
  | .deferredBlock .. => "DeferredBlock"
  | .icu .. => "Icu"
  | .forLoopBlock .. => "ForLoopBlock"
  | .comment .. => "Comment"
  | .unknownBlock .. => "UnknownBlock"

end Angular.Compiler
