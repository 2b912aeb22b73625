import Angular.Compiler.Ir

/-!
# Angular.Compiler.Semantics

**What an expression means.** Two evaluators over one runtime: `evalAst` gives the template
expression language its meaning, and `evalExpr` gives one to the output expressions that
ingestion builds. Both are relative to a `Runtime`, which supplies JavaScript's values and
operations (property and keyed reads and writes, calls, pipes, the operators) over a heap
`σ`, and to a `TemplateScope`, the template's local variables over the root component
context. An evaluation is a program of `StateT σ (Except V)`: it returns a value together
with the heap its writes leave, or throws a value.

`evalAst` is written from the meaning of template expressions, not from ingestion: a read
with an implicit receiver resolves through the scope, a write with one goes to the
component, `ASTWithSource` and `NonNullAssert` are transparent, a pipe receives its input and
then its arguments, safe reads and calls stop at `null` and `undefined`, and an explicit
`this.x` reads like `x` except that `this.$any` and `this.$event` read the component (the
legacy rule the compiler keeps).
-/

namespace Angular.Compiler

/-- The meaning of a binary operator: an optional short circuit on the left operand (`&&`,
`||`, `??`), and otherwise the function of both operands. -/
structure BinarySem (V : Type) where
  shortCircuit : V → Option V
  apply : V → V → V

/-- The values and operations of the JavaScript runtime an expression runs against, over a
heap `σ`. An operation that reads or writes the heap is a program of `StateT σ (Except V)`. -/
structure Runtime (V σ : Type) where
  literal : LiteralValue → V
  undefined : V
  ofBool : Bool → V
  truthy : V → Bool
  /-- `v == null`: `null` or `undefined`. -/
  isNullish : V → Bool
  unary : UnaryOperator → V → V
  binary : BinaryOperator → BinarySem V
  /-- The meaning of a binary operator as a template writes it (`"+"`, `"&&"`, ...). -/
  binaryToken : String → Option (BinarySem V)
  getProp : V → String → StateT σ (Except V) V
  setProp : V → String → V → StateT σ (Except V) Unit
  getKey : V → V → StateT σ (Except V) V
  setKey : V → V → V → StateT σ (Except V) Unit
  /-- A call of a function value (a method value carries the receiver it is bound to). -/
  call : V → List V → StateT σ (Except V) V
  /-- A call of the pipe `name` on its arguments, the piped value first. -/
  pipe : String → List V → StateT σ (Except V) V
  makeMap : List (LiteralMapKey × V) → StateT σ (Except V) V
  makeArray : List V → StateT σ (Except V) V
  /-- The string an interpolation builds from its strings and its values. -/
  interpolate : List String → List V → V
  /-- What an expression the language leaves undefined throws. -/
  invalid : V

/-- The template's local variables over the root component context. -/
structure TemplateScope (V : Type) where
  locals : String → Option V
  root : V

variable {V σ : Type} (rt : Runtime V σ) (scope : TemplateScope V)

/-- `l op r` for an operator with meaning `b`: `r` runs only when `l` does not decide. -/
def BinarySem.eval (b : BinarySem V) (l r : StateT σ (Except V) V) : StateT σ (Except V) V := do
  let a ← l
  match b.shortCircuit a with
  | some v => pure v
  | none => do
    let c ← r
    pure (b.apply a c)

/-- A read of `name` through the scope: a local variable, or else the component's property. -/
def resolve (name : String) : StateT σ (Except V) V :=
  match scope.locals name with
  | some v => pure v
  | none => rt.getProp scope.root name

/-! ## Output expressions -/

section

-- The context object of each view.
variable (ctx : Nat → V)

mutual

/-- The value of an output expression. -/
def evalExpr : Expression → StateT σ (Except V) V
  | .lexicalRead name => resolve rt scope name
  | .context view => pure (ctx view)
  | .readProp receiver name _ => do
    let o ← evalExpr receiver
    rt.getProp o name
  | .writeProp receiver name value _ => do
    let o ← evalExpr receiver
    let v ← evalExpr value
    rt.setProp o name v
    pure v
  | .readKey receiver index _ => do
    let o ← evalExpr receiver
    let k ← evalExpr index
    rt.getKey o k
  | .writeKey receiver index value _ => do
    let o ← evalExpr receiver
    let k ← evalExpr index
    let v ← evalExpr value
    rt.setKey o k v
    pure v
  | .invokeFunction fn args _ => do
    let f ← evalExpr fn
    let vs ← evalExprs args
    rt.call f vs
  | .literal value _ => pure (rt.literal value)
  | .unaryOperator operator expr _ => do
    let v ← evalExpr expr
    pure (rt.unary operator v)
  | .binaryOperator operator lhs rhs _ => (rt.binary operator).eval (evalExpr lhs) (evalExpr rhs)
  | .literalMap entries _ => do
    let vs ← evalEntries entries
    rt.makeMap vs
  | .literalArray entries => do
    let vs ← evalExprs entries
    rt.makeArray vs
  | .conditional condition trueCase falseCase _ => do
    let c ← evalExpr condition
    if rt.truthy c then evalExpr trueCase else evalExpr falseCase
  | .not condition _ => do
    let c ← evalExpr condition
    pure (rt.ofBool !rt.truthy c)
  | .pipeBinding _ name args => do
    let vs ← evalExprs args
    rt.pipe name vs
  | .safeKeyedRead receiver index _ => do
    let o ← evalExpr receiver
    if rt.isNullish o then pure rt.undefined
    else do
      let k ← evalExpr index
      rt.getKey o k
  | .safePropertyRead receiver name => do
    let o ← evalExpr receiver
    if rt.isNullish o then pure rt.undefined else rt.getProp o name
  | .safeInvokeFunction receiver args => do
    let f ← evalExpr receiver
    if rt.isNullish f then pure rt.undefined
    else do
      let vs ← evalExprs args
      rt.call f vs
  | .empty _ => pure rt.undefined

/-- The values of a list of output expressions, left to right. -/
def evalExprs : List Expression → StateT σ (Except V) (List V)
  | [] => pure []
  | e :: es => do
    let v ← evalExpr e
    let vs ← evalExprs es
    pure (v :: vs)

/-- The entries of a literal map, values left to right. -/
def evalEntries : List (LiteralMapKey × Expression) →
    StateT σ (Except V) (List (LiteralMapKey × V))
  | [] => pure []
  | (key, e) :: es => do
    let v ← evalExpr e
    let vs ← evalEntries es
    pure ((key, v) :: vs)

end

theorem evalExprs_cons (e : Expression) (es : List Expression) :
    evalExprs rt scope ctx (e :: es) = (do
      let v ← evalExpr rt scope ctx e
      let vs ← evalExprs rt scope ctx es
      pure (v :: vs)) :=
  rfl

/-- The value of a binding: an interpolation builds its string from the values of its
expressions. -/
def evalBinding : BindingExpression → StateT σ (Except V) V
  | .expression e => evalExpr rt scope ctx e
  | .interpolation i => do
    let vs ← evalExprs rt scope ctx i.expressions
    pure (rt.interpolate i.strings vs)

/-- A handler's statements run in order, and a `return` ends the handler with its value. -/
def execStatements : List Statement → StateT σ (Except V) (Option V)
  | [] => pure none
  | .expression e _ :: ss => do
    let _ ← evalExpr rt scope ctx e
    execStatements ss
  | .return e _ :: _ => do
    let v ← evalExpr rt scope ctx e
    pure (some v)

end

/-! ## Template expressions -/

/-- A property read `receiver.name`: through the scope for an implicit receiver and, by the
legacy rule, for an explicit `this` too, unless the name is `$any` or `$event`. -/
def readProperty (evalReceiver : StateT σ (Except V) V) : AST → String → StateT σ (Except V) V
  | .implicitReceiver _, name => resolve rt scope name
  | .thisReceiver _, name =>
    if name = "$any" ∨ name = "$event" then rt.getProp scope.root name
    else resolve rt scope name
  | _, name => do
    let o ← evalReceiver
    rt.getProp o name

theorem readProperty_thisReceiver (ev : StateT σ (Except V) V) (s : ParseSpan) (name : String) :
    readProperty rt scope ev (.thisReceiver s) name =
      if name = "$any" ∨ name = "$event" then rt.getProp scope.root name
      else resolve rt scope name :=
  rfl

mutual

/-- The value of a template expression. -/
def evalAst : AST → StateT σ (Except V) V
  | .astWithSource _ ast => evalAst ast
  | .implicitReceiver _ | .thisReceiver _ => pure scope.root
  | .propertyRead _ receiver name => readProperty rt scope (evalAst receiver) receiver name
  | .propertyWrite _ receiver name value => do
    let o ← evalAst receiver
    let v ← evalAst value
    rt.setProp o name v
    pure v
  | .keyedRead _ receiver key => do
    let o ← evalAst receiver
    let k ← evalAst key
    rt.getKey o k
  | .keyedWrite _ receiver key value => do
    let o ← evalAst receiver
    let k ← evalAst key
    let v ← evalAst value
    rt.setKey o k v
    pure v
  | .call _ receiver args => do
    let f ← evalAst receiver
    let vs ← evalAsts args
    rt.call f vs
  | .safePropertyRead _ receiver name => do
    let o ← evalAst receiver
    if rt.isNullish o then pure rt.undefined else rt.getProp o name
  | .safeKeyedRead _ receiver key => do
    let o ← evalAst receiver
    if rt.isNullish o then pure rt.undefined
    else do
      let k ← evalAst key
      rt.getKey o k
  | .safeCall _ receiver args => do
    let f ← evalAst receiver
    if rt.isNullish f then pure rt.undefined
    else do
      let vs ← evalAsts args
      rt.call f vs
  | .literalPrimitive _ value => pure (rt.literal value)
  | .unary _ operator expr => do
    let v ← evalAst expr
    if operator = "+" then pure (rt.unary .plus v)
    else if operator = "-" then pure (rt.unary .minus v)
    else throw rt.invalid
  | .binary _ operation left right =>
    match rt.binaryToken operation with
    | some b => b.eval (evalAst left) (evalAst right)
    | none => throw rt.invalid
  | .chain _ expressions => do
    let vs ← evalAsts expressions
    pure (vs.getLast?.getD rt.undefined)
  | .conditional _ condition trueExp falseExp => do
    let c ← evalAst condition
    if rt.truthy c then evalAst trueExp else evalAst falseExp
  | .literalMap _ keys values => do
    let vs ← evalAstEntries keys values
    rt.makeMap vs
  | .literalArray _ expressions => do
    let vs ← evalAsts expressions
    rt.makeArray vs
  | .nonNullAssert _ expression => evalAst expression
  | .bindingPipe _ exp name args => do
    let v ← evalAst exp
    let vs ← evalAsts args
    rt.pipe name (v :: vs)
  | .emptyExpr _ => pure rt.undefined
  | .prefixNot _ expression => do
    let c ← evalAst expression
    pure (rt.ofBool !rt.truthy c)
  | .interpolation _ strings expressions => do
    let vs ← evalAsts expressions
    pure (rt.interpolate strings vs)

/-- The values of a list of template expressions, left to right. -/
def evalAsts : List AST → StateT σ (Except V) (List V)
  | [] => pure []
  | a :: as => do
    let v ← evalAst a
    let vs ← evalAsts as
    pure (v :: vs)

/-- The entries of a literal map: each key with the value at its index. -/
def evalAstEntries : List LiteralMapKey → List AST →
    StateT σ (Except V) (List (LiteralMapKey × V))
  | key :: keys, value :: values => do
    let v ← evalAst value
    let vs ← evalAstEntries keys values
    pure ((key, v) :: vs)
  | _, _ => pure []

end

theorem evalAstEntries_cons_cons (key : LiteralMapKey) (keys : List LiteralMapKey) (value : AST)
    (values : List AST) :
    evalAstEntries rt scope (key :: keys) (value :: values) = (do
      let v ← evalAst rt scope value
      let vs ← evalAstEntries rt scope keys values
      pure ((key, v) :: vs)) :=
  rfl

end Angular.Compiler
