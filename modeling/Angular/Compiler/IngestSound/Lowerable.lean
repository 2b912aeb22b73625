import Angular.Compiler.IngestSound.Lowering

/-!
# Angular.Compiler.IngestSound.Lowerable

**Where lowering returns.** `convertAst` throws on a few shapes of expression: a chain outside
a listener's handler, an implicit receiver or an interpolation in a converted position, a call
of an implicit receiver, an operator outside `+`/`-` or the imported binary operator table,
and a literal map with a key that has no value. `lowerable` says, from the expression alone,
that none of these occurs where `convertAst` looks; it needs neither the job nor the source
span. `convertAst` returns exactly on the lowerable expressions (`convertAst_ok_iff`), and so
do the two list conversions (`convertAstList_ok_iff`, `convertLiteralMapEntries_ok_iff`).
-/

namespace Angular.Compiler

section

variable (imports : Imports)

mutual

/-- The expressions `convertAst` lowers. A property read or write through an implicit
receiver (or `this`) does not convert its receiver; a call does, and fails on an implicit one. -/
def lowerable : AST → Bool
  | .astWithSource _ ast => lowerable ast
  | .implicitReceiver _ => false
  | .thisReceiver _ => true
  | .propertyRead _ receiver _ => receiver.isImplicitReceiver || lowerable receiver
  | .propertyWrite _ receiver _ value =>
    (receiver.isImplicitReceiver || lowerable receiver) && lowerable value
  | .keyedRead _ receiver key => lowerable receiver && lowerable key
  | .keyedWrite _ receiver key value => lowerable receiver && lowerable key && lowerable value
  | .call _ receiver args =>
    !receiver.isImplicitReceiver && lowerable receiver && lowerableList args
  | .safePropertyRead _ receiver _ => lowerable receiver
  | .safeKeyedRead _ receiver key => lowerable receiver && lowerable key
  | .safeCall _ receiver args => lowerable receiver && lowerableList args
  | .literalPrimitive _ _ => true
  | .unary _ operator expr => (operator == "+" || operator == "-") && lowerable expr
  | .binary _ operation left right =>
    (imports.binaryOperators operation).isSome && lowerable left && lowerable right
  | .chain _ _ => false
  | .conditional _ condition trueExp falseExp =>
    lowerable condition && lowerable trueExp && lowerable falseExp
  | .literalMap _ keys values => lowerableEntries keys values
  | .literalArray _ expressions => lowerableList expressions
  | .nonNullAssert _ expression => lowerable expression
  | .bindingPipe _ exp _ args => lowerable exp && lowerableList args
  | .emptyExpr _ => true
  | .prefixNot _ expression => lowerable expression
  | .interpolation _ _ _ => false

def lowerableList : List AST → Bool
  | [] => true
  | a :: as => lowerable a && lowerableList as

/-- The values a literal map reads, one per key: a key past the last value reads `undefined`,
which does not convert, and values past the last key are not read. -/
def lowerableEntries : List LiteralMapKey → List AST → Bool
  | [], _ => true
  | _ :: _, [] => false
  | _ :: keys, value :: values => lowerable value && lowerableEntries keys values

end

/-- A `do` step returns when its first computation does and the rest returns on that value. -/
@[simp] theorem exists_bind_eq_ok {ε α β γ δ : Type} {x : Except ε (α × β)}
    {f : α × β → Except ε (γ × δ)} :
    (∃ c d, x >>= f = .ok (c, d)) ↔
      ∃ a b, x = .ok (a, b) ∧ ∃ c d, f (a, b) = .ok (c, d) := by
  simp only [bind_eq_ok_iff, Prod.exists]
  exact ⟨fun ⟨c, d, a, b, h, h'⟩ => ⟨a, b, h, c, d, h'⟩,
    fun ⟨a, b, h, c, d, h'⟩ => ⟨c, d, a, b, h, h'⟩⟩

@[simp] theorem exists_ok_eq_ok {ε γ δ : Type} (u : γ) (v : δ) :
    (∃ c d, (.ok (u, v) : Except ε (γ × δ)) = .ok (c, d)) ↔ True :=
  iff_true_intro ⟨u, v, rfl⟩

@[simp] theorem exists_pure_eq_ok {ε γ δ : Type} (u : γ) (v : δ) :
    (∃ c d, (pure (u, v) : Except ε (γ × δ)) = .ok (c, d)) ↔ True :=
  exists_ok_eq_ok u v

@[simp] theorem exists_throw_eq_ok {ε γ δ : Type} (e : ε) :
    (∃ c d, (throw e : Except ε (γ × δ)) = .ok (c, d)) ↔ False :=
  iff_false_intro fun ⟨_, _, h⟩ => nomatch h

mutual

theorem convertAst_ok_iff : ∀ (a : AST) {J : CompilationJob} {base : Option ParseSourceSpan},
    (∃ x J', convertAst imports a J base = .ok (x, J')) ↔ lowerable imports a = true
  | .astWithSource _ ast, _, _ => by
    rw [convertAst, lowerable]; exact convertAst_ok_iff ast
  | .propertyRead _ r name, _, _ => by
    rcases AST.isImplicitReceiver_cases r with ⟨_, rfl⟩ | ⟨_, rfl⟩ | hr
    · simp only [convertAst, lowerable, AST.isImplicitReceiver, AST.isThisReceiver, Bool.not_false,
        Bool.and_self, Bool.not_or, Bool.false_and, Bool.or_false, ↓reduceIte, Except.ok.injEq,
        Prod.mk.injEq, exists_and_left, exists_eq', and_true]
    · -- An explicit `this`: a lexical read, or for `$any` and `$event` a read of the context.
      simp only [convertAst, lowerable, AST.isImplicitReceiver, AST.isThisReceiver, Bool.true_or,
        iff_true]
      split_ifs <;> exact ⟨_, _, rfl⟩
    · simp only [convertAst, lowerable, hr, AST.isThisReceiver_of_isImplicitReceiver_false hr,
        Bool.not_false, Bool.and_true, Bool.not_or, Bool.false_and, Bool.or_self, Bool.false_eq_true,
        ↓reduceIte, exists_bind_eq_ok, exists_pure_eq_ok, and_true, convertAst_ok_iff r,
        Bool.false_or]
  | .propertyWrite _ r _ v, _, _ => by
    cases hr : r.isImplicitReceiver <;>
      simp only [convertAst, lowerable, hr, Bool.false_eq_true, ↓reduceIte, exists_bind_eq_ok,
        exists_pure_eq_ok, and_true, convertAst_ok_iff v, exists_and_right, convertAst_ok_iff r,
        Bool.false_or, Bool.and_eq_true, Bool.true_or, Bool.true_and]
  | .keyedRead _ r k, _, _ => by
    simp [-bind_pure_comp, convertAst, lowerable, convertAst_ok_iff r, convertAst_ok_iff k]
  | .keyedWrite _ r k v, _, _ => by
    simp [-bind_pure_comp, convertAst, lowerable, convertAst_ok_iff r, convertAst_ok_iff k,
      convertAst_ok_iff v, and_assoc]
  | .call _ r args, _, _ => by
    cases hr : r.isImplicitReceiver <;>
      simp [-bind_pure_comp, convertAst, lowerable, hr, convertAst_ok_iff r,
        convertAstList_ok_iff args]
  | .safePropertyRead _ r _, _, _ => by
    simp [-bind_pure_comp, convertAst, lowerable, convertAst_ok_iff r]
  | .safeKeyedRead _ r k, _, _ => by
    simp [-bind_pure_comp, convertAst, lowerable, convertAst_ok_iff r, convertAst_ok_iff k]
  | .safeCall _ r args, _, _ => by
    simp [-bind_pure_comp, convertAst, lowerable, convertAst_ok_iff r,
      convertAstList_ok_iff args]
  | .unary _ operator e, _, _ => by
    by_cases hp : operator = "+"
    · simp [-bind_pure_comp, convertAst, lowerable, hp, convertAst_ok_iff e]
    by_cases hm : operator = "-"
    · simp [-bind_pure_comp, convertAst, lowerable, hm, convertAst_ok_iff e]
    · simp [-bind_pure_comp, convertAst, lowerable, hp, hm]
  | .binary _ operation l r, _, _ => by
    cases ho : imports.binaryOperators operation <;>
      simp [-bind_pure_comp, convertAst, lowerable, ho, convertAst_ok_iff l, convertAst_ok_iff r]
  | .conditional _ c t f, _, _ => by
    simp [-bind_pure_comp, convertAst, lowerable, convertAst_ok_iff c, convertAst_ok_iff t,
      convertAst_ok_iff f, and_assoc]
  | .literalMap _ keys values, _, _ => by
    simp [-bind_pure_comp, convertAst, lowerable, convertLiteralMapEntries_ok_iff keys values]
  | .literalArray _ es, _, _ => by
    simp [-bind_pure_comp, convertAst, lowerable, convertAstList_ok_iff es]
  | .nonNullAssert _ e, _, _ => by
    rw [convertAst, lowerable]; exact convertAst_ok_iff e
  | .bindingPipe _ e _ args, _, _ => by
    simp [-bind_pure_comp, convertAst, lowerable, convertAst_ok_iff e,
      convertAstList_ok_iff args]
  | .prefixNot _ e, _, _ => by
    simp [-bind_pure_comp, convertAst, lowerable, convertAst_ok_iff e]
  | .thisReceiver _, _, _ | .literalPrimitive .., _, _ | .emptyExpr _, _, _ =>
    iff_of_true ⟨_, _, rfl⟩ rfl
  | .implicitReceiver _, _, _ | .chain .., _, _ | .interpolation .., _, _ =>
    iff_of_false (fun ⟨_, _, h⟩ => Except.noConfusion h) Bool.false_ne_true

theorem convertAstList_ok_iff : ∀ (as : List AST) {J : CompilationJob}
    {base : Option ParseSourceSpan},
    (∃ xs J', convertAstList imports as J base = .ok (xs, J')) ↔ lowerableList imports as = true
  | [], _, _ => iff_of_true ⟨_, _, rfl⟩ rfl
  | a :: as, _, _ => by
    simp [-bind_pure_comp, convertAstList, lowerableList, convertAst_ok_iff a,
      convertAstList_ok_iff as]

theorem convertLiteralMapEntries_ok_iff : ∀ (keys : List LiteralMapKey) (values : List AST)
    {J : CompilationJob} {base : Option ParseSourceSpan},
    (∃ xs J', convertLiteralMapEntries imports keys values J base = .ok (xs, J')) ↔
      lowerableEntries imports keys values = true
  | [], [], _, _ | [], _ :: _, _, _ => iff_of_true ⟨_, _, rfl⟩ rfl
  | _ :: _, [], _, _ =>
    iff_of_false (fun ⟨_, _, h⟩ => Except.noConfusion h) Bool.false_ne_true
  | _ :: keys, v :: values, _, _ => by
    dsimp only [convertLiteralMapEntries, lowerableEntries]
    simp only [exists_bind_eq_ok, exists_pure_eq_ok, and_true, exists_and_right, Bool.and_eq_true,
      convertAst_ok_iff v, convertLiteralMapEntries_ok_iff keys values]

end

end

section

variable {V σ : Type} (rt : Runtime V σ) (scope : TemplateScope V) (imports : Imports)
  (ctx : Nat → V)

end

end Angular.Compiler
