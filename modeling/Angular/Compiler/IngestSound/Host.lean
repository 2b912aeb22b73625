import Angular.Compiler.IngestSound.Component

/-!
# Angular.Compiler.IngestSound.Host

**Host bindings rename their input.** `ingestHostBinding` classifies a property named
`attr.<x>` as an attribute binding of `<x>`, and does so by assigning `<x>` to the property's
`name` in the input (`// TODO: this should really be handled in the parser.`). The model
returns the input as the call leaves it, with every `attr.` property renamed. A second
ingestion of that input then sees `<x>`, with no prefix, and makes a property binding of it
(`ingestHostBinding_second_run`).
-/

namespace Angular.Compiler

/-- A property as `ingestHostBinding` leaves it: without its `attr.` prefix, if it had one. -/
def renamedProperty (property : ParsedProperty) : ParsedProperty :=
  if "attr.".toList.isPrefixOf property.name.toList then
    { property with name := String.mk (property.name.toList.drop "attr.".length) }
  else property

/-- Stripping `attr.` from a name that has it. -/
theorem attr_prefix_strip (x : String) :
    "attr.".toList.isPrefixOf ("attr." ++ x).toList = true ∧
      String.mk (("attr." ++ x).toList.drop "attr.".length) = x := by
  refine ⟨by simp [String.toList], ?_⟩
  show String.mk (("attr.".data ++ x.data).drop "attr.".data.length) = x
  rw [List.drop_left]

/-- `mapJob` of a step whose result is a function of its input. -/
theorem mapJob_fst {α β : Type} {f : α → CompilationJob → Except String (β × CompilationJob)}
    {g : α → β} (hf : ∀ x J p, f x J = .ok p → p.1 = g x) :
    ∀ (xs : List α) {J p}, mapJob f xs J = .ok p → p.1 = xs.map g
  | [], _, _, h => by cases h; rfl
  | x :: xs, J, p, h => by
    simp only [mapJob, bind_eq_ok_iff] at h
    obtain ⟨⟨y, J₁⟩, h₁, ⟨ys, J₂⟩, h₂, h⟩ := h
    cases h
    exact congrArg₂ List.cons (hf x J _ h₁) (mapJob_fst hf xs h₂)

section

variable (imports : Imports)

theorem ingestHostProperty_eq (job : CompilationJob) (property : ParsedProperty)
    (bindingKind : BindingKind) (securityContexts : List SecurityContext) :
    ingestHostProperty imports job property bindingKind securityContexts =
      (hostPropertyExpression imports job property).map fun r =>
        r.2.pushUpdate r.2.root [.binding
          { target := r.2.root, bindingKind := bindingKind, name := property.name,
            expression := r.1, unit := none, securityContext := securityContexts,
            isTextAttribute := false, isStructuralTemplateAttribute := false,
            templateKind := none, i18nMessage := none, sourceSpan := some property.sourceSpan }] := by
  unfold ingestHostProperty
  cases hostPropertyExpression imports job property <;> rfl

theorem ingestHostBindingProperty_fst {bindingParser : BindingParser} {selector : String}
    {property : ParsedProperty} {J : CompilationJob} {r : ParsedProperty × CompilationJob}
    (h : ingestHostBindingProperty imports bindingParser selector property J = .ok r) :
    r.1 = renamedProperty property := by
  unfold ingestHostBindingProperty at h
  obtain ⟨J', -, h⟩ := bind_eq_ok_iff.mp h
  cases h
  unfold renamedProperty
  cases "attr.".toList.isPrefixOf property.name.toList <;> rfl

theorem ingestHostBindingProperty_attr (bindingParser : BindingParser) (selector : String)
    (p : ParsedProperty) (x : String) (J : CompilationJob) (hp : p.name = "attr." ++ x)
    (ha : p.isAnimation = false) :
    ingestHostBindingProperty imports bindingParser selector p J =
      (ingestHostProperty imports J { p with name := x } .attribute
        (hostSecurityContexts bindingParser selector x true)).map fun J' => ({ p with name := x }, J') := by
  have hpre : "attr.".toList.isPrefixOf p.name.toList = true := hp ▸ (attr_prefix_strip x).1
  have hdrop : String.mk (p.name.toList.drop "attr.".length) = x := hp ▸ (attr_prefix_strip x).2
  simp only [ingestHostBindingProperty, hpre, hdrop, if_true, ha, Bool.false_eq_true, if_false]
  cases ingestHostProperty imports J { p with name := x } .attribute
    (hostSecurityContexts bindingParser selector x true) <;> rfl

theorem ingestHostBindingProperty_plain (bindingParser : BindingParser) (selector : String)
    (p : ParsedProperty) (J : CompilationJob) (hx : "attr.".toList.isPrefixOf p.name.toList = false)
    (ha : p.isAnimation = false) :
    ingestHostBindingProperty imports bindingParser selector p J =
      (ingestHostProperty imports J p .property
        (hostSecurityContexts bindingParser selector p.name false)).map fun J' => (p, J') := by
  simp only [ingestHostBindingProperty, hx, Bool.false_eq_true, if_false, ha,
    show (BindingKind.property == BindingKind.attribute) = false from rfl]
  cases ingestHostProperty imports J p .property
    (hostSecurityContexts bindingParser selector p.name false) <;> rfl

theorem hostPropertyExpression_drew {J : CompilationJob} {property : ParsedProperty}
    {r : BindingExpression × CompilationJob}
    (h : hostPropertyExpression imports J property = .ok r) : ∃ ids, Drew J r.2 ids := by
  unfold hostPropertyExpression at h
  split at h
  · obtain ⟨⟨xs, J₁⟩, h₁, h⟩ := bind_eq_ok_iff.mp h
    cases h
    exact ⟨_, convertAstList_drew imports _ h₁⟩
  · obtain ⟨⟨x, J₁⟩, h₁, h⟩ := bind_eq_ok_iff.mp h
    cases h
    exact ⟨_, convertAst_drew imports _ h₁⟩

/-- **A second ingestion binds a property.** For an input whose one binding is a property
`attr.<x>`, the first ingestion makes an attribute binding of `<x>` and returns the input
renamed; ingesting what it returned makes a property binding of `<x>`, with the security
contexts of a property. -/
theorem ingestHostBinding_second_run (bindingParser : BindingParser)
    (input : HostBindingInput) (p : ParsedProperty) (x : String)
    (hin : input.properties = some [p]) (hattrs : input.attributes = [])
    (hev : input.events = none) (hp : p.name = "attr." ++ x)
    (hx : "attr.".toList.isPrefixOf x.toList = false) (ha : p.isAnimation = false)
    {J₁ : CompilationJob} {input₁ : HostBindingInput}
    (h : ingestHostBinding imports bindingParser input = .ok (J₁, input₁)) :
    input₁ = { input with properties := some [{ p with name := x }] } ∧
    ∃ (b : BindingOp) (J₂ : CompilationJob),
      J₁.views.flatMap (·.update) = [.binding b] ∧ b.bindingKind = .attribute ∧ b.name = x ∧
      ingestHostBinding imports bindingParser input₁ = .ok (J₂, input₁) ∧
      J₂.views.flatMap (·.update) =
        [.binding { b with
          bindingKind := .property,
          securityContext := hostSecurityContexts bindingParser input.componentSelector x false }] := by
  have hr : ∀ J, hostPropertyExpression imports J { p with name := x } =
      hostPropertyExpression imports J p := fun _ => rfl
  rcases hc : hostPropertyExpression imports
    (CompilationJob.host input.componentName .templateDefinitionBuilder) p with e | ⟨ex, J₀⟩
  · simp [ingestHostBinding, hin, mapJob, ingestHostBindingProperty_attr imports _ _ p x _ hp ha,
      ingestHostProperty_eq, hr, hc, bind, Except.bind, Except.map] at h
  obtain ⟨ids, hd⟩ := hostPropertyExpression_drew imports hc
  have hJ₀ : J₀ = { CompilationJob.host input.componentName .templateDefinitionBuilder with
      nextXrefId := 1 + ids.length } := hd.1
  subst hJ₀
  simp only [ingestHostBinding, hin, hattrs, hev, Option.getD_some, Option.getD_none, mapJob,
    ingestHostBindingProperty_attr imports _ _ p x _ hp ha, ingestHostProperty_eq, hr, hc,
    Except.map, bind, Except.bind, pure, Except.pure, List.foldl_nil, List.foldlM_nil,
    Except.ok.injEq, Prod.mk.injEq] at h
  obtain ⟨rfl, rfl⟩ := h
  have hx' : "attr.".toList.isPrefixOf ({ p with name := x } : ParsedProperty).name.toList = false :=
    hx
  let b : BindingOp :=
    { target := 0, bindingKind := .attribute, name := x, expression := ex, unit := none,
      securityContext := hostSecurityContexts bindingParser input.componentSelector x true,
      isTextAttribute := false, isStructuralTemplateAttribute := false, templateKind := none,
      i18nMessage := none, sourceSpan := some p.sourceSpan }
  let J₂ : CompilationJob :=
    ({ CompilationJob.host input.componentName .templateDefinitionBuilder with
      nextXrefId := 1 + ids.length } : CompilationJob).pushUpdate 0
      [.binding { b with
        bindingKind := .property,
        securityContext := hostSecurityContexts bindingParser input.componentSelector x false }]
  refine ⟨by simp [hattrs, hev], b, J₂, rfl, rfl, rfl, ?_, rfl⟩
  simp only [ingestHostBinding, Option.map_some', Option.getD_some, Option.getD_none, mapJob,
    ingestHostBindingProperty_plain imports _ _ _ _ hx' ha, ingestHostProperty_eq, hr, hc,
    Except.map, bind, Except.bind, pure, Except.pure, List.foldl_nil, List.foldlM_nil]
  rfl

end

/-- `[attr.title]="'t'"` on a component `C`. -/
def titleProperty : ParsedProperty :=
  { name := "attr.title", expression := .literalPrimitive ⟨0, 3⟩ (.string "t"),
    isAnimation := false, sourceSpan := exampleSpan }

/-- The host bindings of `C`: the one property `titleProperty`. -/
def titleHost : HostBindingInput :=
  { componentName := "C", componentSelector := "c", properties := some [titleProperty],
    attributes := [], events := none }

/-- A binding parser that finds no security context. -/
def noSecurityContexts : BindingParser := ⟨fun _ _ _ => []⟩

theorem ingestHostBinding_second_run_title :
    ∃ (J₁ : CompilationJob) (input₁ : HostBindingInput),
      ingestHostBinding Imports.plain noSecurityContexts titleHost = .ok (J₁, input₁) ∧
      input₁ = { titleHost with properties := some [{ titleProperty with name := "title" }] } ∧
      ∃ (b : BindingOp) (J₂ : CompilationJob),
        J₁.views.flatMap (·.update) = [.binding b] ∧ b.bindingKind = .attribute ∧
        b.name = "title" ∧
        ingestHostBinding Imports.plain noSecurityContexts input₁ = .ok (J₂, input₁) ∧
        J₂.views.flatMap (·.update) =
          [.binding { b with
            bindingKind := .property,
            securityContext := hostSecurityContexts noSecurityContexts "c" "title" false }] :=
  ⟨_, _, rfl, ingestHostBinding_second_run Imports.plain noSecurityContexts titleHost titleProperty
    "title" rfl rfl rfl rfl rfl rfl rfl⟩

end Angular.Compiler
