import Angular.Compiler.IngestSound.Component
import Angular.Compiler.Semantics

/-!
# Angular.Compiler.IngestSound.Lowering

**Conversion keeps an expression's meaning.** Where `convertAst` returns, the output
expression evaluates, in every runtime and scope whose root context is the context of the
job's root view, to what the template expression evaluates to: the same value, the same
writes and the same errors (`convertAst_eval`). The runtime must give each operator token the
meaning of the output operator the imported table maps it to. The same holds of the two
callers that convert lists: a binding's value (`convertAstWithInterpolation_eval`) and a
listener's handler, whose statements return the value of its chain
(`makeListenerHandlerOps_eval`).

The receiver rules are where the two sides differ in form: `convertAst` reads flags of the
receiver, `readProperty` matches it, and `readProperty_of_isImplicitReceiver_false` and
`evalAst_of_isImplicitReceiver` say they agree.
-/

namespace Angular.Compiler

variable {V σ : Type} (rt : Runtime V σ) (scope : TemplateScope V)

theorem AST.isImplicitReceiver_cases (r : AST) :
    (∃ s, r = .implicitReceiver s) ∨ (∃ s, r = .thisReceiver s) ∨ r.isImplicitReceiver = false := by
  cases r <;> first | exact .inl ⟨_, rfl⟩ | exact .inr (.inl ⟨_, rfl⟩) | exact .inr (.inr rfl)

theorem AST.isThisReceiver_of_isImplicitReceiver_false {r : AST}
    (hr : r.isImplicitReceiver = false) : r.isThisReceiver = false := by
  cases r <;> first | rfl | cases hr

/-- A receiver that is neither implicit nor `this` is evaluated and its property read. -/
theorem readProperty_of_isImplicitReceiver_false {r : AST} (hr : r.isImplicitReceiver = false)
    (ev : StateT σ (Except V) V) (name : String) :
    readProperty rt scope ev r name = ev >>= fun o => rt.getProp o name := by
  cases r <;> first | rfl | cases hr

/-- An implicit receiver, or `this`, evaluates to the component. -/
theorem evalAst_of_isImplicitReceiver {r : AST} (hr : r.isImplicitReceiver = true) :
    evalAst rt scope r = pure scope.root := by
  cases r <;> first | rfl | cases hr

/-- The value of a bound template value: an expression, or a static text. -/
def evalBindingValue : BindingValue → StateT σ (Except V) V
  | .ast a => evalAst rt scope a
  | .text value => pure (rt.literal (.string value))

/-- The entry `e` binds `name` on `x` to an expression that means, with the views' contexts
`ctx`, what `value` means. -/
def Binds (ctx : Nat → V) (x : Nat) (name : String) (value : BindingValue)
    (e : Option BindingEntry) : Prop :=
  ∃ b, e = some (.binding b) ∧ b.target = x ∧ b.name = name ∧
    evalBinding rt scope ctx b.expression = evalBindingValue rt scope value

/-- The op `o` listens on `x` for `output`, and its handler, with the views' contexts `ctx`,
returns what the output's handler evaluates to. -/
def Listens (ctx : Nat → V) (x : Nat) (output : BoundEvent) (o : CreateOp) : Prop :=
  ∃ l, o = .listener l ∧ l.target = x ∧ l.name = output.name ∧
    execStatements rt scope ctx l.handlerOps =
      evalAst rt scope (astOf output.handler) >>= fun v => pure (some v)

section

variable (imports : Imports) (ctx : Nat → V)

/-- The statements `makeListenerHandlerOps` makes of the expressions `xs` return the value of
the last, after running the others in order. -/
theorem execStatements_handler :
    ∀ (xs : List Expression), xs ≠ [] → ∀ d : V,
      execStatements rt scope ctx (xs.dropLast.map (fun e => .expression e e.sourceSpan) ++
        [.return (xs.getLast?.getD (.empty none)) (xs.getLast?.getD (.empty none)).sourceSpan]) =
      evalExprs rt scope ctx xs >>= fun vs => pure (some (vs.getLast?.getD d))
  | [], h, _ => absurd rfl h
  | [x], _, d => by
    simp only [List.dropLast_single, List.map_nil, List.nil_append, List.getLast?_singleton,
      Option.getD_some, execStatements, evalExprs, bind_assoc, pure_bind]
  | x :: y :: ys, _, d => by
    rw [List.dropLast_cons₂, List.getLast?_cons_cons, List.map_cons, List.cons_append,
      execStatements, evalExprs_cons]
    simp only [bind_assoc, pure_bind, List.getLast?_cons, Option.getD_some]
    refine congrArg (evalExpr rt scope ctx x >>= ·) (funext fun v => ?_)
    simpa only [List.getLast?_cons, Option.getD_some] using
      execStatements_handler (y :: ys) (List.cons_ne_nil _ _) v

theorem convertAst_root {a : AST} {J : CompilationJob} {base p}
    (h : convertAst imports a J base = .ok p) : p.2.root = J.root := by
  rw [(convertAst_drew imports a h).1]

mutual
theorem convertAst_eval (hbin : ∀ s o, imports.binaryOperators s = some o →
      rt.binaryToken s = some (rt.binary o)) :
    ∀ (a : AST) {J : CompilationJob} {base p}, convertAst imports a J base = .ok p →
      ctx J.root = scope.root → evalExpr rt scope ctx p.1 = evalAst rt scope a
  | .astWithSource _ ast, _, _, _, h, hroot => by
    rw [convertAst] at h; exact convertAst_eval hbin ast h hroot
  | .propertyRead _ r name, J, _, _, h, hroot => by
    rcases AST.isImplicitReceiver_cases r with ⟨s, rfl⟩ | ⟨s, rfl⟩ | hr
    · cases h; rfl
    · by_cases hs : name = "$any" ∨ name = "$event"
      · have hs' : (name == "$any" || name == "$event") = true := by
          rcases hs with rfl | rfl <;> rfl
        simp only [convertAst, AST.isThisReceiver, AST.isImplicitReceiver, hs'] at h
        cases h
        simp only [evalExpr, evalAst, readProperty_thisReceiver, if_pos hs, hroot, pure_bind]
      · have hs' : (name == "$any" || name == "$event") = false := by
          simpa [not_or] using hs
        simp only [convertAst, AST.isThisReceiver, AST.isImplicitReceiver, hs'] at h
        cases h
        simp only [evalExpr, evalAst, readProperty_thisReceiver, if_neg hs]
    · simp only [convertAst, hr, AST.isThisReceiver_of_isImplicitReceiver_false hr,
        Bool.false_and, Bool.false_or, Bool.false_eq_true, if_false, bind_eq_ok_iff] at h
      obtain ⟨⟨_, _⟩, h₁, h⟩ := h
      cases h
      simp only [evalExpr, evalAst, readProperty_of_isImplicitReceiver_false rt scope hr,
        convertAst_eval hbin r h₁ hroot]
  | .propertyWrite _ r _ v, J, _, _, h, hroot => by
    simp only [convertAst] at h
    split at h
    · rename_i hr
      simp only [bind_eq_ok_iff] at h
      obtain ⟨⟨_, J₁⟩, h₁, h⟩ := h
      cases h
      have hroot₁ : ctx J₁.root = scope.root := (convertAst_root imports h₁).symm ▸ hroot
      simp only [evalExpr, evalAst, evalAst_of_isImplicitReceiver rt scope hr,
        convertAst_eval hbin v h₁ hroot, hroot₁]
    · simp only [bind_eq_ok_iff] at h
      obtain ⟨⟨_, _⟩, h₁, ⟨_, _⟩, h₂, h⟩ := h
      cases h
      simp only [evalExpr, evalAst, convertAst_eval hbin r h₁ hroot,
        convertAst_eval hbin v h₂ ((convertAst_root imports h₁).symm ▸ hroot)]
  | .keyedWrite _ r k v, J, _, _, h, hroot => by
    simp only [convertAst, bind_eq_ok_iff] at h
    obtain ⟨⟨_, _⟩, h₁, ⟨_, _⟩, h₂, ⟨_, _⟩, h₃, h⟩ := h
    cases h
    have hroot₂ := (convertAst_root imports h₁).symm ▸ hroot
    simp only [evalExpr, evalAst, convertAst_eval hbin r h₁ hroot,
      convertAst_eval hbin k h₂ hroot₂,
      convertAst_eval hbin v h₃ ((convertAst_root imports h₂).symm ▸ hroot₂)]
  | .call _ r as, J, _, _, h, hroot => by
    simp only [convertAst] at h
    split at h
    · cases h
    · simp only [bind_eq_ok_iff] at h
      obtain ⟨⟨_, _⟩, h₁, ⟨_, _⟩, h₂, h⟩ := h
      cases h
      simp only [evalExpr, evalAst, convertAst_eval hbin r h₁ hroot,
        convertAstList_eval hbin as h₂ ((convertAst_root imports h₁).symm ▸ hroot)]
  | .literalPrimitive .., J, _, _, h, _ => by
    rw [convertAst] at h; cases h; rfl
  | .unary _ op x, J, _, _, h, hroot => by
    simp only [convertAst] at h
    split at h
    · rename_i hp
      simp only [bind_eq_ok_iff] at h
      obtain ⟨⟨_, _⟩, h₁, h⟩ := h
      cases h
      simp only [evalExpr, evalAst, convertAst_eval hbin x h₁ hroot, if_pos hp]
    · rename_i hp
      split at h
      · rename_i hm
        simp only [bind_eq_ok_iff] at h
        obtain ⟨⟨_, _⟩, h₁, h⟩ := h
        cases h
        simp only [evalExpr, evalAst, convertAst_eval hbin x h₁ hroot, if_neg hp, if_pos hm]
      · cases h
  | .binary _ op l r, J, _, _, h, hroot => by
    simp only [convertAst] at h
    split at h
    · cases h
    · rename_i o ho
      simp only [bind_eq_ok_iff] at h
      obtain ⟨⟨_, _⟩, h₁, ⟨_, _⟩, h₂, h⟩ := h
      cases h
      simp only [evalExpr, evalAst, hbin op o ho, convertAst_eval hbin l h₁ hroot,
        convertAst_eval hbin r h₂ ((convertAst_root imports h₁).symm ▸ hroot)]
  | .thisReceiver _, J, _, _, h, hroot => by
    rw [convertAst] at h; cases h
    simp only [evalExpr, evalAst, hroot]
  | .keyedRead _ r k, J, _, _, h, hroot => by
    simp only [convertAst, bind_eq_ok_iff] at h
    obtain ⟨⟨_, _⟩, h₁, ⟨_, _⟩, h₂, h⟩ := h
    cases h
    simp only [evalExpr, evalAst, convertAst_eval hbin r h₁ hroot,
      convertAst_eval hbin k h₂ ((convertAst_root imports h₁).symm ▸ hroot)]
  | .chain .., J, _, _, h, _ => by
    rw [convertAst] at h; cases h
  | .literalMap _ keys values, J, _, _, h, hroot => by
    simp only [convertAst, bind_eq_ok_iff] at h
    obtain ⟨⟨_, _⟩, h₁, h⟩ := h
    cases h
    simp only [evalExpr, evalAst, convertLiteralMapEntries_eval hbin keys values h₁ hroot]
  | .literalArray _ xs, J, _, _, h, hroot => by
    simp only [convertAst, bind_eq_ok_iff] at h
    obtain ⟨⟨_, _⟩, h₁, h⟩ := h
    cases h
    simp only [evalExpr, evalAst, convertAstList_eval hbin xs h₁ hroot]
  | .conditional _ c t f, J, _, _, h, hroot => by
    simp only [convertAst, bind_eq_ok_iff] at h
    obtain ⟨⟨_, _⟩, h₁, ⟨_, _⟩, h₂, ⟨_, _⟩, h₃, h⟩ := h
    cases h
    have hroot₂ := (convertAst_root imports h₁).symm ▸ hroot
    simp only [evalExpr, evalAst, convertAst_eval hbin c h₁ hroot,
      convertAst_eval hbin t h₂ hroot₂,
      convertAst_eval hbin f h₃ ((convertAst_root imports h₂).symm ▸ hroot₂)]
  | .nonNullAssert _ x, _, _, _, h, hroot => by
    rw [convertAst] at h; exact convertAst_eval hbin x h hroot
  | .bindingPipe _ x _ as, J, _, _, h, hroot => by
    simp only [convertAst, bind_eq_ok_iff] at h
    obtain ⟨⟨_, _⟩, h₁, ⟨_, _⟩, h₂, h⟩ := h
    cases h
    simp only [evalExpr, evalExprs, evalAst, bind_assoc, pure_bind, convertAst_eval hbin x h₁ hroot,
      convertAstList_eval hbin as h₂ ((convertAst_root imports h₁).symm ▸ hroot)]
  | .safeKeyedRead _ r k, J, _, _, h, hroot => by
    simp only [convertAst, bind_eq_ok_iff] at h
    obtain ⟨⟨_, _⟩, h₁, ⟨_, _⟩, h₂, h⟩ := h
    cases h
    simp only [evalExpr, evalAst, convertAst_eval hbin r h₁ hroot,
      convertAst_eval hbin k h₂ ((convertAst_root imports h₁).symm ▸ hroot)]
  | .safePropertyRead _ r _, J, _, _, h, hroot => by
    simp only [convertAst, bind_eq_ok_iff] at h
    obtain ⟨⟨_, _⟩, h₁, h⟩ := h
    cases h
    simp only [evalExpr, evalAst, convertAst_eval hbin r h₁ hroot]
  | .safeCall _ r as, J, _, _, h, hroot => by
    simp only [convertAst, bind_eq_ok_iff] at h
    obtain ⟨⟨_, _⟩, h₁, ⟨_, _⟩, h₂, h⟩ := h
    cases h
    simp only [evalExpr, evalAst, convertAst_eval hbin r h₁ hroot,
      convertAstList_eval hbin as h₂ ((convertAst_root imports h₁).symm ▸ hroot)]
  | .emptyExpr _, J, _, _, h, _ => by
    rw [convertAst] at h; cases h; rfl
  | .prefixNot _ x, J, _, _, h, hroot => by
    simp only [convertAst, bind_eq_ok_iff] at h
    obtain ⟨⟨_, _⟩, h₁, h⟩ := h
    cases h
    simp only [evalExpr, evalAst, convertAst_eval hbin x h₁ hroot]
  | .implicitReceiver _, J, _, _, h, _ | .interpolation .., J, _, _, h, _ => by
    rw [convertAst] at h; cases h

theorem convertAstList_eval (hbin : ∀ s o, imports.binaryOperators s = some o →
      rt.binaryToken s = some (rt.binary o)) :
    ∀ (as : List AST) {J : CompilationJob} {base p}, convertAstList imports as J base = .ok p →
      ctx J.root = scope.root → evalExprs rt scope ctx p.1 = evalAsts rt scope as
  | [], J, _, _, h, _ => by
    rw [convertAstList] at h; cases h; rfl
  | a :: as, J, _, _, h, hroot => by
    simp only [convertAstList, bind_eq_ok_iff] at h
    obtain ⟨⟨_, _⟩, h₁, ⟨_, _⟩, h₂, h⟩ := h
    cases h
    simp only [evalExprs, evalAsts, convertAst_eval hbin a h₁ hroot,
      convertAstList_eval hbin as h₂ ((convertAst_root imports h₁).symm ▸ hroot)]

theorem convertLiteralMapEntries_eval (hbin : ∀ s o, imports.binaryOperators s = some o →
      rt.binaryToken s = some (rt.binary o)) :
    ∀ (keys : List LiteralMapKey) (values : List AST) {J : CompilationJob} {base p},
      convertLiteralMapEntries imports keys values J base = .ok p → ctx J.root = scope.root →
        evalEntries rt scope ctx p.1 = evalAstEntries rt scope keys values
  | [], [], J, _, _, h, _ | [], _ :: _, J, _, _, h, _ => by
    rw [convertLiteralMapEntries] at h; cases h; rfl
  | _ :: _, [], J, _, _, h, _ => by
    rw [convertLiteralMapEntries] at h; cases h
  | _ :: keys, v :: values, J, _, _, h, hroot => by
    simp only [convertLiteralMapEntries, bind_eq_ok_iff] at h
    obtain ⟨⟨_, _⟩, h₁, ⟨_, _⟩, h₂, h⟩ := h
    cases h
    simp only [evalEntries, evalAstEntries_cons_cons, convertAst_eval hbin v h₁ hroot,
      convertLiteralMapEntries_eval hbin keys values h₂
        ((convertAst_root imports h₁).symm ▸ hroot)]
end

/-- **Lowering keeps meaning.** Where `convertAst` returns `x` for `e`, running `x` from any
heap gives what running `e` gives: the same value and the heap after the same writes, or the
same error. -/
theorem convertAst_preserves_meaning (hbin : ∀ s o, imports.binaryOperators s = some o →
      rt.binaryToken s = some (rt.binary o))
    {e : AST} {J : CompilationJob} {base : Option ParseSourceSpan} {x : Expression}
    {J' : CompilationJob} (h : convertAst imports e J base = .ok (x, J'))
    (hroot : ctx J.root = scope.root) (heap : σ) :
    (evalExpr rt scope ctx x).run heap = (evalAst rt scope e).run heap := by
  rw [convertAst_eval rt scope imports ctx hbin e h hroot]

section

variable (hbin : ∀ s o, imports.binaryOperators s = some o →
  rt.binaryToken s = some (rt.binary o))
include hbin

/-- **A binding keeps its value.** An interpolation's expressions are converted one by one, any
other expression by `convertAst`, and a text becomes a string literal. -/
theorem convertAstWithInterpolation_eval {J : CompilationJob} {value : BindingValue}
    {i18nMeta : Option I18nMeta} {span : Option ParseSourceSpan} {p}
    (h : convertAstWithInterpolation imports J value i18nMeta span = .ok p)
    (hroot : ctx J.root = scope.root) :
    evalBinding rt scope ctx p.1 = evalBindingValue rt scope value := by
  unfold convertAstWithInterpolation at h
  split at h
  · simp only [bind_eq_ok_iff] at h
    obtain ⟨⟨_, _⟩, h₁, _, -, _, hi, h⟩ := h
    obtain ⟨_, rfl⟩ := Interpolation.eq_of_new hi
    cases h
    simp only [evalBinding, evalBindingValue, evalAst,
      convertAstList_eval rt scope imports ctx hbin _ h₁ hroot]
  · simp only [bind_eq_ok_iff] at h
    obtain ⟨⟨_, _⟩, h₁, h⟩ := h
    cases h
    exact convertAst_eval rt scope imports ctx hbin _ h₁ hroot
  · cases h; rfl

/-- **A listener's handler keeps its meaning.** Its statements run the expressions of the
handler's chain in order and return the value of the last, which is what the chain evaluates
to; a handler that is not a chain is returned. -/
theorem makeListenerHandlerOps_eval {J : CompilationJob} {handler : AST}
    {span : ParseSourceSpan} {p} (h : makeListenerHandlerOps imports J handler span = .ok p)
    (hroot : ctx J.root = scope.root) :
    execStatements rt scope ctx p.1 = (do
      let v ← evalAst rt scope (astOf handler)
      pure (some v)) := by
  simp only [makeListenerHandlerOps] at h
  split_ifs at h with h0
  · cases h
  simp only [bind_eq_ok_iff, pure_bind] at h
  obtain ⟨⟨xs, _⟩, h₁, h⟩ := h
  cases h
  have hxs : xs ≠ [] := by
    rw [← List.length_pos, convertAstList_length imports h₁]; exact Nat.pos_of_ne_zero h0
  rw [execStatements_handler rt scope ctx xs hxs rt.undefined,
    convertAstList_eval rt scope imports ctx hbin _ h₁ hroot]
  split
  · rename_i heq
    simp only [heq, evalAst, bind_assoc, pure_bind]
  · simp only [evalAsts, bind_assoc, pure_bind, List.getLast?_singleton, Option.getD_some]

/-! ## An element's bindings -/

theorem elementAttributeBinding_binds {element : Element} {x : Nat} {attr : TextAttribute}
    {J : CompilationJob} {p} (h : elementAttributeBinding imports element x attr J = .ok p)
    (hroot : ctx J.root = scope.root) :
    ctx p.2.root = scope.root ∧ Binds rt scope ctx x attr.name (.text attr.value) p.1 := by
  simp only [elementAttributeBinding, bind_eq_ok_iff] at h
  obtain ⟨⟨_, _⟩, h₁, _, -, h⟩ := h
  cases h
  exact ⟨(convertAstWithInterpolation_drew imports h₁).1 ▸ hroot, _, rfl, rfl, rfl,
    convertAstWithInterpolation_eval rt scope imports ctx hbin h₁ hroot⟩

theorem elementInputBinding_binds {x : Nat} {input : BoundAttribute} {J : CompilationJob} {p}
    (h : elementInputBinding imports x input J = .ok p) (hroot : ctx J.root = scope.root) :
    ctx p.2.root = scope.root ∧ Binds rt scope ctx x input.name (.ast (astOf input.value)) p.1 := by
  simp only [elementInputBinding, bind_eq_ok_iff] at h
  obtain ⟨⟨_, _⟩, h₁, _, -, h⟩ := h
  cases h
  exact ⟨(convertAstWithInterpolation_drew imports h₁).1 ▸ hroot, _, rfl, rfl, rfl,
    convertAstWithInterpolation_eval rt scope imports ctx hbin h₁ hroot⟩

theorem createListener_listens {J : CompilationJob} {x : Nat} {tag : Option String}
    {output : BoundEvent} {p} (h : createListener imports J x tag output = .ok p)
    (hroot : ctx J.root = scope.root) :
    ctx p.2.root = scope.root ∧ Listens rt scope ctx x output p.1 := by
  simp only [createListener, bind_eq_ok_iff] at h
  obtain ⟨⟨_, _⟩, h₁, h⟩ := h
  cases h
  exact ⟨(makeListenerHandlerOps_drew imports h₁).1 ▸ hroot, _, rfl, rfl, rfl,
    makeListenerHandlerOps_eval rt scope imports ctx hbin h₁ hroot⟩

end

end

/-- A runtime of integers with nothing on the heap: properties read `0`, writes are lost,
and a pipe returns its first argument. -/
def intRuntime : Runtime Int Unit where
  literal
    | .number n => n
    | _ => 0
  undefined := 0
  ofBool b := if b then 1 else 0
  truthy v := v != 0
  isNullish _ := false
  unary
    | .minus, v => -v
    | .plus, v => v
  binary _ := ⟨fun _ => none, (· + ·)⟩
  binaryToken _ := none
  getProp _ _ := pure 0
  setProp _ _ _ := pure ()
  getKey _ _ := pure 0
  setKey _ _ _ := pure ()
  call _ _ := pure 0
  pipe _ args := pure (args.headD 0)
  makeMap _ := pure 0
  makeArray _ := pure 0
  interpolate _ _ := 0
  invalid := 0

/-- The scope of a template with the local `a = 7`, over the component `1`. -/
def localA : TemplateScope Int := ⟨fun name => if name = "a" then some 7 else none, 1⟩

/-- The template expression `this.a | p : this.$any`. -/
def pipeOfThis : AST :=
  .bindingPipe ⟨0, 19⟩ (.propertyRead ⟨0, 6⟩ (.thisReceiver ⟨0, 4⟩) "a") "p"
    [.propertyRead ⟨11, 19⟩ (.thisReceiver ⟨11, 15⟩) "$any"]

theorem convertAst_preserves_meaning_pipeOfThis :
    ∃ x J', convertAst Imports.plain pipeOfThis textJob none = .ok (x, J') ∧
      ∀ heap, (evalExpr intRuntime localA (fun _ => 1) x).run heap =
        (evalAst intRuntime localA pipeOfThis).run heap :=
  ⟨_, _, rfl, convertAst_preserves_meaning intRuntime localA Imports.plain (fun _ => 1)
    (fun _ _ h => by cases h) rfl rfl⟩

end Angular.Compiler
