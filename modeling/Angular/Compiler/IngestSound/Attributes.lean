import Angular.Compiler.IngestSound.Component

/-!
# Angular.Compiler.IngestSound.Attributes

**What ingestion copies onto a node, and what it checks.** Three of the attribute paths of
`ingest.ts`, each proved for every input and then shown at one input; the first and the last
depart there from what the source's comments and the design ask for.

* `ingestControlFlowInsertionPoint` copies the tag name and static attributes of a block's
  single root child onto the block's template. Its loop gives up at a second non-comment
  child only when a root is already chosen, so children that are not roots (text, bound text,
  blocks) are skipped as long as they come first (`controlFlowRoot_none_eq_some`,
  `ingestControlFlowInsertionPoint_root_after_non_roots`).
* An interpolated binding with an i18n message takes the message's placeholder names when
  there are none or one per expression; for any other count the `ir.Interpolation`
  constructor throws, as `ingestBoundText` rejects such a count with its own check
  (`interpolation_placeholders_checked`).
* `ingestElementBindings` and `ingestTemplateBindings` guard the i18n attributes op with
  `bindings.some(...) !== null`, which holds of every boolean, so each element and template
  gets one, i18n binding or not (`ingestBindings_i18nAttributes_unconditional`).
-/

namespace Angular.Compiler

/-! ## The root of a block -/

/-- A first child that is no root leaves the search where it was; a comment is no root. -/
theorem controlFlowRoot_none_cons (n : Node) (children : List Node) :
    controlFlowRoot none (n :: children) = controlFlowRoot (controlFlowRoot none [n]) children := by
  cases n <;> rfl

/-- Once a root is chosen, only comments may follow it. -/
theorem controlFlowRoot_some_eq_some {r r' : InsertionRoot} :
    ∀ {children : List Node},
      controlFlowRoot (some r) children = some r' ↔ r = r' ∧ ∀ n ∈ children, ∃ k, n = .comment k
  | [] => by simp [controlFlowRoot]
  | n :: children => by
    by_cases hn : ∃ k, n = .comment k
    · obtain ⟨k, rfl⟩ := hn
      simp only [controlFlowRoot, controlFlowRoot_some_eq_some, List.mem_cons, forall_eq_or_imp,
        Node.comment.injEq, exists_eq', true_and]
    · have hc : controlFlowRoot (some r) (n :: children) = none := by
        cases n <;> first | rfl | exact absurd ⟨_, rfl⟩ hn
      simp only [hc, List.mem_cons, forall_eq_or_imp, hn, false_and, and_false, reduceCtorEq]

/-- **The root of a child list.** The search finds `r` exactly when the children are some
children that are no root, then a root child, then comments only. -/
theorem controlFlowRoot_none_eq_some {r : InsertionRoot} :
    ∀ {children : List Node}, controlFlowRoot none children = some r ↔
      ∃ pre c post, children = pre ++ c :: post ∧ (∀ n ∈ pre, controlFlowRoot none [n] = none) ∧
        controlFlowRoot none [c] = some r ∧ ∀ n ∈ post, ∃ k, n = .comment k
  | [] => by simp [controlFlowRoot]
  | n :: children => by
    rw [controlFlowRoot_none_cons]
    rcases hn : controlFlowRoot none [n] with _ | r₀
    · rw [controlFlowRoot_none_eq_some]
      constructor
      · rintro ⟨pre, c, post, rfl, hpre, hc, hpost⟩
        refine ⟨n :: pre, c, post, rfl, ?_, hc, hpost⟩
        simpa only [List.mem_cons, forall_eq_or_imp, hn, true_and] using hpre
      · rintro ⟨_ | ⟨m, pre⟩, c, post, he, hpre, hc, hpost⟩ <;>
          obtain ⟨rfl, rfl⟩ := List.cons.inj he
        · rw [hn] at hc; cases hc
        · exact ⟨pre, c, post, rfl, fun x hx => hpre x (List.mem_cons_of_mem _ hx), hc, hpost⟩
    · rw [controlFlowRoot_some_eq_some]
      constructor
      · rintro ⟨rfl, hpost⟩
        exact ⟨[], n, children, rfl, by simp, hn, hpost⟩
      · rintro ⟨_ | ⟨m, pre⟩, c, post, he, hpre, hc, hpost⟩ <;>
          obtain ⟨rfl, rfl⟩ := List.cons.inj he
        · rw [hn] at hc; exact ⟨Option.some.inj hc, hpost⟩
        · rw [hpre _ (List.mem_cons_self _ _)] at hn; cases hn

section

variable (imports : Imports)

/-- **The insertion point skips leading children that are no root.** `ingestControlFlowInsertionPoint`
copies the attributes of `r` and returns its tag name when the children are children that are
no root, the root child `r` and comments; for every other child list it returns null and
leaves the job as it is. A text or a block before a single element is thus no bar to the
inference, though the element is not the only child. -/
theorem ingestControlFlowInsertionPoint_root_after_non_roots (u x : Nat) (children : List Node)
    (J : CompilationJob) :
    (∀ pre c post r, children = pre ++ c :: post → (∀ n ∈ pre, controlFlowRoot none [n] = none) →
      controlFlowRoot none [c] = some r → (∀ n ∈ post, ∃ k, n = .comment k) →
      ingestControlFlowInsertionPoint imports u x children J =
        (r.attributes.mapM (staticAttributeBinding imports NG_TEMPLATE_TAG_NAME x)).map fun bs =>
          (if r.tagName = NG_TEMPLATE_TAG_NAME then none else some r.tagName, J.pushUpdate u bs)) ∧
    ((∀ pre c post, children = pre ++ c :: post → (∀ n ∈ pre, controlFlowRoot none [n] = none) →
      (∀ n ∈ post, ∃ k, n = .comment k) → controlFlowRoot none [c] = none) →
      ingestControlFlowInsertionPoint imports u x children J = .ok (none, J)) := by
  refine ⟨fun pre c post r he hpre hc hpost => ?_, fun h => ?_⟩
  · have hr := controlFlowRoot_none_eq_some.mpr ⟨pre, c, post, he, hpre, hc, hpost⟩
    rw [ingestControlFlowInsertionPoint, hr]
    dsimp only
    cases r.attributes.mapM (staticAttributeBinding imports NG_TEMPLATE_TAG_NAME x) <;> rfl
  · rcases hr : controlFlowRoot none children with _ | r
    · simp only [ingestControlFlowInsertionPoint, hr]
    · obtain ⟨pre, c, post, he, hpre, hc, hpost⟩ := controlFlowRoot_none_eq_some.mp hr
      rw [h pre c post he hpre hpost] at hc
      cases hc

end

/-- A `div` with no attributes, inputs, outputs or references. -/
def plainDiv : Element :=
  { name := "div", attributes := [], inputs := [], outputs := [], references := [],
    sourceSpan := exampleSpan, startSourceSpan := exampleSpan, endSourceSpan := none,
    i18n := none }

theorem ingestControlFlowInsertionPoint_text_then_div :
    ingestControlFlowInsertionPoint Imports.plain 0 1 [.text ⟨"a", exampleSpan⟩, .element plainDiv []]
        textJob = .ok (some "div", textJob.pushUpdate 0 []) :=
  ((ingestControlFlowInsertionPoint_root_after_non_roots Imports.plain 0 1 _ textJob).1
    [.text ⟨"a", exampleSpan⟩] (.element plainDiv []) [] ⟨"div", []⟩ rfl (by simp [controlFlowRoot])
    rfl (by simp)).trans rfl

/-! ## Placeholders of an interpolation -/

section

variable (imports : Imports)

/-- What `new ir.Interpolation` throws for the expressions of an interpolation whose message
has neither no placeholders nor one per expression. -/
def messagePlaceholdersError (expressions : List AST) (m : Message) : String :=
  "Expected " ++ toString expressions.length ++
    " placeholders to match interpolation expression count, but got " ++
    toString m.placeholders.length

/-- **Both paths count an interpolation's placeholders.** An interpolation with an i18n message
(the value of an element, template or insertion-point binding) converts to an interpolation
with the message's placeholder names when there are none or one per expression, and otherwise
the `ir.Interpolation` constructor throws; the same interpolation as a text node, with a
container whose placeholders are not one per expression, fails `ingestBoundText`'s own check
first. So every interpolation ingestion returns has no placeholders or one per expression, as
`Interpolation.placeholders_count` records. -/
theorem interpolation_placeholders_checked (span : ParseSpan) (strings : List String)
    (expressions : List AST) (m : Message) (J : CompilationJob) (base : Option ParseSourceSpan)
    {xs : List Expression} {J' : CompilationJob}
    (h : convertAstList imports expressions J base = .ok (xs, J')) :
    (m.placeholders.length = 0 ∨ m.placeholders.length = expressions.length →
      ∃ i : Interpolation, convertAstWithInterpolation imports J
          (.ast (.interpolation span strings expressions)) (some (.message m)) base =
          .ok (.interpolation i, J') ∧
        i.strings = strings ∧ i.expressions = xs ∧ i.i18nPlaceholders = m.placeholders) ∧
    (m.placeholders.length ≠ 0 → m.placeholders.length ≠ expressions.length →
      convertAstWithInterpolation imports J (.ast (.interpolation span strings expressions))
        (some (.message m)) base = .error (messagePlaceholdersError expressions m)) ∧
    ∀ (u : Nat) (text : BoundText) (children : List I18nNode) (icuPlaceholder : Option String)
      (J₀ : CompilationJob), astOf text.value = .interpolation span strings expressions →
      text.i18n = some (.node (.container children)) →
      0 < (containerPlaceholders children).length →
      (containerPlaceholders children).length ≠ expressions.length →
      ingestBoundText imports u text icuPlaceholder J₀ =
        .error ("Unexpected number of i18n placeholders (" ++ toString expressions.length ++
          ") for BoundText with " ++ toString expressions.length ++ " expressions") := by
  have hlen := convertAstList_length imports h
  refine ⟨fun hc => ?_, fun h0 hne => ?_, fun u text children icu J₀ htv hti hpos hne => ?_⟩
  · rw [← hlen] at hc
    refine ⟨⟨strings, xs, m.placeholders, hc⟩, ?_, rfl, rfl, rfl⟩
    simp only [convertAstWithInterpolation, h, asMessage, bind, Except.bind, Option.map_some',
      Option.getD_some, Interpolation.new_of_count hc]
    rfl
  · have hi : Interpolation.new strings xs m.placeholders = .error
        (messagePlaceholdersError expressions m) := by
      rw [Interpolation.new, dif_pos (by omega), messagePlaceholdersError, hlen]
    simp only [convertAstWithInterpolation, h, asMessage, bind, Except.bind, Option.map_some',
      Option.getD_some, hi]
  · simp [ingestBoundText, htv, hti, hpos, hne, bind, Except.bind, pure, Except.pure, throw,
      throwThe, MonadExceptOf.throw]

end

/-- The two reads of `a` in `{{a}}{{a}}`. -/
def twiceReadExpressions : List AST :=
  [.propertyRead ⟨2, 3⟩ (.implicitReceiver ⟨2, 2⟩) "a",
   .propertyRead ⟨7, 8⟩ (.implicitReceiver ⟨7, 7⟩) "a"]

/-- A message whose placeholder map has one key for the two reads of `a`. -/
def twiceReadMessage : Message := ⟨[], ["INTERPOLATION"]⟩

/-- A message with one placeholder per read of `a`. -/
def twiceReadMessage₂ : Message := ⟨[], ["INTERPOLATION", "INTERPOLATION_1"]⟩

/-- `{{a}}{{a}}` with one placeholder is the constructor's error; with two it converts. -/
theorem interpolation_placeholders_checked_twice :
    ∃ (xs : List Expression) (J' : CompilationJob),
      convertAstList Imports.plain twiceReadExpressions textJob none = .ok (xs, J') ∧
      convertAstWithInterpolation Imports.plain textJob
          (.ast (.interpolation ⟨0, 10⟩ ["", "", ""] twiceReadExpressions))
          (some (.message twiceReadMessage)) none =
        .error "Expected 2 placeholders to match interpolation expression count, but got 1" ∧
      ∃ i : Interpolation, convertAstWithInterpolation Imports.plain textJob
          (.ast (.interpolation ⟨0, 10⟩ ["", "", ""] twiceReadExpressions))
          (some (.message twiceReadMessage₂)) none = .ok (.interpolation i, J') ∧
        i.strings = ["", "", ""] ∧ i.expressions = xs ∧
        i.i18nPlaceholders = ["INTERPOLATION", "INTERPOLATION_1"] :=
  ⟨_, _, rfl,
    (interpolation_placeholders_checked Imports.plain ⟨0, 10⟩ ["", "", ""] twiceReadExpressions
      twiceReadMessage textJob none rfl).2.1 (by decide) (by decide),
    (interpolation_placeholders_checked Imports.plain ⟨0, 10⟩ ["", "", ""] twiceReadExpressions
      twiceReadMessage₂ textJob none rfl).1 (.inr rfl)⟩

/-! ## The i18n attributes op -/

section

variable (imports : Imports)

/-- **Every element and template gets an i18n attributes op.** Whatever its bindings, a
successful `ingestElementBindings` or `ingestTemplateBindings` ends by drawing an xref and
appending an `I18nAttributes` op for the node's op. -/
theorem ingestBindings_i18nAttributes_unconditional :
    (∀ (u : Nat) (op : ElementStartOp) (element : Element) (J J' : CompilationJob),
      ingestElementBindings imports u op element J = .ok J' →
      ∃ J₁ : CompilationJob, J' = J₁.allocateXrefId.2.pushCreate u
        [.i18nAttributes J₁.nextXrefId op.xref]) ∧
    ∀ (u : Nat) (op : TemplateOp) (tmpl : Template) (kind : TemplateKind) (J J' : CompilationJob),
      ingestTemplateBindings imports u op tmpl kind J = .ok J' →
      ∃ J₁ : CompilationJob, J' = J₁.allocateXrefId.2.pushCreate u
        [.i18nAttributes J₁.nextXrefId op.xref] := by
  refine ⟨fun u op element J J' h => ?_, fun u op tmpl kind J J' h => ?_⟩
  · simp only [ingestElementBindings, bind_eq_ok_iff] at h
    obtain ⟨_, -, _, -, _, -, h⟩ := h
    cases h
    exact ⟨_, ingestI18nAttributes_eq _ _ _ _⟩
  · simp only [ingestTemplateBindings, bind_eq_ok_iff] at h
    obtain ⟨_, -, _, -, _, -, _, -, h⟩ := h
    cases h
    exact ⟨_, ingestI18nAttributes_eq _ _ _ _⟩

end

theorem ingestElementBindings_plainDiv :
    ∃ J', ingestElementBindings Imports.plain 0 ⟨"div", 1, .html, none, exampleSpan, exampleSpan, []⟩
        plainDiv textJob = .ok J' ∧
      ∃ J₁ : CompilationJob, J' = J₁.allocateXrefId.2.pushCreate 0 [.i18nAttributes J₁.nextXrefId 1] :=
  ⟨_, rfl, (ingestBindings_i18nAttributes_unconditional Imports.plain).1 0
    ⟨"div", 1, .html, none, exampleSpan, exampleSpan, []⟩ plainDiv textJob _ rfl⟩

example :
    ingestNode Imports.plain 0 (.element plainDiv [])
        (CompilationJob.component "C" .templateDefinitionBuilder fun _ => none) =
      .ok { CompilationJob.component "C" .templateDefinitionBuilder (fun _ => none) with
        nextXrefId := 3,
        views := [{ ViewCompilationUnit.new 0 none with
          create := [.elementStart ⟨"div", 1, .html, none, exampleSpan, exampleSpan, []⟩,
            .i18nAttributes 2 1, .elementEnd 1 exampleSpan] }] } := rfl

end Angular.Compiler
