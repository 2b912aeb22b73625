import Angular.Compiler.IngestSound.Blocks

/-!
# Angular.Compiler.IngestSound.Component

**A whole template ingests soundly.** `ingestNodes` and `ingestNode` are mutually recursive
with the closures that carry each block's children; `ingestNodes_into` and its companions
follow the same recursion, so each node kind rests on its lemma in `Nodes` or `Blocks`.

`ingestComponent` starts from the job with the root unit alone, so what the template adds to
the root is the whole job (`ingestComponent_spec`). Read off the finished job:

* its xrefs are the counter's window, each introduced once (`ingestComponent_introduced`);
* its units form a tree under the root, each non-root unit declared by exactly one op
  (`ingestComponent_declared`, `ingestComponent_parents`);
* every unit is `Closed` among the units: its references are defined before use, its create
  list is well bracketed, and the views its ops name are its children
  (`ingestComponent_closed`).

An ingestion call only ever appends to its unit (`Extends`), and sibling nodes append
consecutive pieces in document order (`ingestNodes_append`).
-/

namespace Angular.Compiler

section

variable (imports : Imports)

/-! ## The recursion over the template -/

mutual

theorem ingestNodes_into : ∀ (ns : List Node) (u : Nat), IngestsInto u (ingestNodes imports u ns)
  | [], u => by
    simpa only [ingestNodes] using IngestsInto.pure u
  | n :: ns, u => by
    simpa only [ingestNodes] using (ingestNode_into n u).bind (ingestNodes_into ns u)

theorem ingestNode_into : ∀ (n : Node) (u : Nat), IngestsInto u (ingestNode imports u n)
  | .element element children, u => fun J J' hJ hu h => by
    rw [ingestNode] at h
    exact ingestElement_into imports u element (fun v => ingestNodes_into children v) J J' hJ hu h
  | .template tmpl children, u => fun J J' hJ hu h => by
    rw [ingestNode] at h
    exact ingestTemplate_into imports u tmpl (fun v => ingestNodes_into children v) J J' hJ hu h
  | .content content, u => fun J J' hJ hu h => by
    rw [ingestNode] at h
    exact ingestContent_into imports u content J J' hJ hu h
  | .text text, u => fun J J' hJ hu h => by
    rw [ingestNode] at h
    exact ingestText_into u text none J J' hJ hu h
  | .boundText text, u => fun J J' hJ hu h => by
    rw [ingestNode] at h
    exact ingestBoundText_into imports u text none J J' hJ hu h
  | .ifBlock block branches, u => fun J J' hJ hu h => by
    rw [ingestNode] at h
    exact ingestIfBlock_into imports u block (closeIfBranches_into branches) J J' hJ hu h
  | .switchBlock block cases, u => fun J J' hJ hu h => by
    rw [ingestNode] at h
    exact ingestSwitchBlock_into imports u block (closeSwitchCases_into cases) J J' hJ hu h
  | .deferredBlock block children placeholder loading error, u => fun J J' hJ hu h => by
    rw [ingestNode] at h
    exact ingestDeferBlock_into imports u block (fun v => ingestNodes_into children v)
      (closeDeferSecondary_into placeholder) (closeDeferSecondary_into loading)
      (closeDeferSecondary_into error) J J' hJ hu h
  | .icu icu, u => fun J J' hJ hu h => by
    rw [ingestNode] at h
    exact ingestIcu_into imports u icu J J' hJ hu h
  | .forLoopBlock block children empty, u => fun J J' hJ hu h => by
    rw [ingestNode] at h
    exact ingestForBlock_into imports u block children (fun v => ingestNodes_into children v)
      (closeForEmpty_into empty) J J' hJ hu h
  | .comment _, _ | .unknownBlock _, _ => fun _ _ _ _ h => by
    rw [ingestNode] at h
    cases h

theorem closeIfBranches_into : ∀ (branches : List (IfBlockBranch × List Node)),
    ∀ b ∈ closeIfBranches imports branches, ∀ v, IngestsInto v (b.2.2 v)
  | [] => fun _ hb => by simp [closeIfBranches] at hb
  | (_, children) :: branches => fun b hb v => by
    rw [closeIfBranches] at hb
    rcases List.mem_cons.mp hb with rfl | hb
    · exact ingestNodes_into children v
    · exact closeIfBranches_into branches b hb v

theorem closeSwitchCases_into : ∀ (cases : List (SwitchBlockCase × List Node)),
    ∀ b ∈ closeSwitchCases imports cases, ∀ v, IngestsInto v (b.2 v)
  | [] => fun _ hb => by simp [closeSwitchCases] at hb
  | (_, children) :: cases => fun b hb v => by
    rw [closeSwitchCases] at hb
    rcases List.mem_cons.mp hb with rfl | hb
    · exact ingestNodes_into children v
    · exact closeSwitchCases_into cases b hb v

theorem closeDeferSecondary_into : ∀ (block : Option (DeferredBlockSecondary × List Node)),
    ∀ s ∈ closeDeferSecondary imports block, ∀ v, IngestsInto v (s.2 v)
  | none => fun _ hs => by simp [closeDeferSecondary] at hs
  | some (_, children) => fun s hs v => by
    rw [closeDeferSecondary] at hs
    cases hs
    exact ingestNodes_into children v

theorem closeForEmpty_into : ∀ (empty : Option (ForLoopBlockEmpty × List Node)),
    ∀ e ∈ closeForEmpty imports empty, ∀ v, IngestsInto v (e.2.2 v)
  | none => fun _ he => by simp [closeForEmpty] at he
  | some (_, children) => fun e he v => by
    rw [closeForEmpty] at he
    cases he
    exact ingestNodes_into children v

end

/-- Ingesting a list of siblings is ingesting the first ones, then the rest. -/
theorem ingestNodes_append (u : Nat) (ns₁ ns₂ : List Node) (J : CompilationJob) :
    ingestNodes imports u (ns₁ ++ ns₂) J =
      ingestNodes imports u ns₁ J >>= ingestNodes imports u ns₂ := by
  induction ns₁ generalizing J with
  | nil => rfl
  | cons n ns ih =>
    simp only [List.cons_append, ingestNodes, bind_assoc]
    congr 1
    funext J₁
    exact ih J₁

/-- Once the first sibling is ingested, the others are ingested into its job. -/
theorem ingestNodes_cons_of_ok {u : Nat} {n : Node} {ns : List Node} {J J₁ : CompilationJob}
    (h : ingestNode imports u n J = .ok J₁) :
    ingestNodes imports u (n :: ns) J = ingestNodes imports u ns J₁ :=
  congrArg (· >>= ingestNodes imports u ns) h

/-! ## The finished job -/

section Job

variable {componentName : String} {template : List Node}
  {deferBlocksMeta : DeferredBlock → Option R3DeferBlockMetadata} {J' : CompilationJob}

/-- The job `ingestComponent` builds: the root unit with what the template added to it,
followed by the units the template created; what the template added is `Good`. -/
theorem ingestComponent_spec
    (h : ingestComponent imports componentName template deferBlocksMeta = .ok J') :
    ∃ δ : Delta, J'.root = 0 ∧
      J'.views = { ViewCompilationUnit.new 0 none with create := δ.create, update := δ.update } ::
        δ.added ∧ δ.Good 0 1 J'.nextXrefId ∧ 1 ≤ J'.nextXrefId ∧ J'.WF := by
  obtain ⟨δ, e, g⟩ := ingestNodes_into imports template 0 _ J'
    (CompilationJob.component_wf _ _ _) Nat.zero_lt_one h
  exact ⟨δ, by rw [e.eq]; rfl, by rw [e.eq]; simp [CompilationJob.component], g, e.le,
    e.wf (CompilationJob.component_wf _ _ _)⟩

/-- The job introduces each xref the counter handed out exactly once. -/
theorem ingestComponent_introduced
    (h : ingestComponent imports componentName template deferBlocksMeta = .ok J') :
    (J'.introduced : Multiset Nat) = window 0 J'.nextXrefId := by
  obtain ⟨δ, -, hv, g, hn, -⟩ := ingestComponent_spec imports h
  rw [window_cons hn, ← g.ids, CompilationJob.introduced, hv, List.flatMap_cons]
  simp [ViewCompilationUnit.introduced, Delta.ids, add_assoc]

/-- Every non-root unit is declared by exactly one op, and no op declares anything else. -/
theorem ingestComponent_declared
    (h : ingestComponent imports componentName template deferBlocksMeta = .ok J') :
    (↑(J'.views.flatMap ViewCompilationUnit.declared) : Multiset Nat) =
      ↑(J'.views.tail.map (·.xref)) := by
  obtain ⟨δ, -, hv, g, -⟩ := ingestComponent_spec imports h
  rw [hv]
  simpa [Delta.declared, Delta.units, ViewCompilationUnit.declared] using g.declared

/-- Every unit is closed among the job's units. -/
theorem ingestComponent_closed
    (h : ingestComponent imports componentName template deferBlocksMeta = .ok J') :
    ∀ v ∈ J'.views, v.Closed J'.views := by
  obtain ⟨δ, -, hv, g, -⟩ := ingestComponent_spec imports h
  have sub : ∀ w ∈ δ.added, w ∈ J'.views := fun w hw => hv ▸ List.mem_cons_of_mem _ hw
  intro v hv'
  rcases List.mem_cons.mp (hv ▸ hv') with rfl | hv'
  · exact (ViewCompilationUnit.Closed.of_wf g.wf rfl rfl).mono sub
  · exact (g.wf.closed v hv').mono sub

/-- Every non-root unit's parent is an older unit. -/
theorem ingestComponent_parents
    (h : ingestComponent imports componentName template deferBlocksMeta = .ok J') :
    ∀ v ∈ J'.views.tail, ∃ w ∈ J'.views, v.parent = some w.xref ∧ w.xref < v.xref := by
  obtain ⟨δ, -, hv, g, -⟩ := ingestComponent_spec imports h
  rw [hv]
  intro v hv'
  rcases g.wf.parents v hv' with hp | ⟨w, hw, hp, hlt⟩
  · exact ⟨_, List.mem_cons_self _ _, hp, (g.xref_mem_window hv').1⟩
  · exact ⟨w, List.mem_cons_of_mem _ hw, hp, hlt⟩

/-- The start ops of a unit have distinct xrefs, since they introduce them. -/
theorem ingestComponent_openings_nodup
    (h : ingestComponent imports componentName template deferBlocksMeta = .ok J') :
    ∀ v ∈ J'.views, (openings (brackets v.create)).Nodup := by
  have hnd : J'.introduced.Nodup := by
    rw [← Multiset.coe_nodup, ingestComponent_introduced imports h]
    exact window_nodup _ _
  intro v hv
  have hv' := (List.nodup_flatMap.mp hnd).1 v hv
  simp only [ViewCompilationUnit.introduced, List.nodup_cons, List.nodup_append] at hv'
  exact hv'.2.1.sublist (openings_brackets_sublist v.create)

end Job

end

/-! ## Examples -/

/-- Collaborators for the examples: no namespace prefixes, the HTML namespace, no binary
operators, no security contexts, no single-ICU messages. -/
def Imports.plain : Imports :=
  ⟨fun name => (none, name), fun _ => .html, fun name _ => name, fun _ => none,
    fun _ _ _ => .none, fun _ => false, "ctx"⟩

/-- The span of the example template. -/
def exampleSpan : ParseSourceSpan := ⟨⟨"t", 0⟩, ⟨"t", 1⟩, ⟨"t", 0⟩⟩

/-- The job of the template `a`: the root unit with one text op. -/
def textJob : CompilationJob :=
  { CompilationJob.component "C" .templateDefinitionBuilder (fun _ => none) with
    nextXrefId := 2,
    views := [{ ViewCompilationUnit.new 0 none with create := [.text 1 "a" none exampleSpan] }] }

/-- The job `ingestComponent` starts from for the component `C`. -/
def componentJob : CompilationJob :=
  CompilationJob.component "C" .templateDefinitionBuilder (fun _ => none)

/-- The message of the i18n examples: one interpolation placeholder. -/
def exampleMessage : Message := ⟨[.placeholder "INTERPOLATION"], ["INTERPOLATION"]⟩

/-- The text `a`. -/
def textA : Node := .text ⟨"a", exampleSpan⟩

/-- `<div i18n>`. -/
def i18nDiv : Element :=
  { name := "div", attributes := [], inputs := [], outputs := [], references := [],
    sourceSpan := exampleSpan, startSourceSpan := exampleSpan, endSourceSpan := none,
    i18n := some (.message exampleMessage) }

/-- `<ng-template i18n>`. -/
def i18nNgTemplate : Template :=
  { tagName := some "ng-template", attributes := [], inputs := [], outputs := [],
    templateAttrs := [], references := [], «variables» := [], sourceSpan := exampleSpan,
    startSourceSpan := exampleSpan, endSourceSpan := none, i18n := some (.message exampleMessage) }

/-- The text `{{a | p}}`. -/
def pipedA : BoundText :=
  ⟨.interpolation ⟨0, 9⟩ ["", ""]
    [.bindingPipe ⟨2, 7⟩ (.propertyRead ⟨2, 3⟩ (.implicitReceiver ⟨2, 2⟩) "a") "p" []],
    exampleSpan, none⟩

/-- A loop over a literal with the default context names, tracking by a literal. -/
def literalLoop : ForLoopBlock where
  item := ⟨"item", "$implicit"⟩
  expression := .literalPrimitive ⟨0, 1⟩ .null
  trackBy := .literalPrimitive ⟨0, 1⟩ .null
  contextVariables := ⟨⟨"$index", "$index"⟩, ⟨"$first", "$first"⟩, ⟨"$last", "$last"⟩,
    ⟨"$even", "$even"⟩, ⟨"$odd", "$odd"⟩, ⟨"$count", "$count"⟩⟩
  sourceSpan := exampleSpan
  startSourceSpan := exampleSpan
  i18n := none

/-- An `@empty` block. -/
def emptyBlock : ForLoopBlockEmpty := ⟨exampleSpan, none⟩

/-- `<div i18n>a</div><ng-template i18n>{{a | p}}</ng-template>@for (…) {a} @empty {a}`: an
i18n element, a child view reading through a pipe, and a repeater with a body and an empty
view. -/
def richTemplate : List Node :=
  [.element i18nDiv [textA], .template i18nNgTemplate [.boundText pipedA],
   .forLoopBlock literalLoop [textA] (some (emptyBlock, [textA]))]

/-- The job after the first node of `richTemplate`, `<div i18n>a</div>`. -/
def richJob₁ : CompilationJob :=
  ((ingestNode Imports.plain 0 (.element i18nDiv [textA]) componentJob).toOption).getD componentJob

/-- The job after the second node, the template. -/
def richJob₂ : CompilationJob :=
  ((ingestNode Imports.plain 0 (.template i18nNgTemplate [.boundText pipedA]) richJob₁).toOption).getD
    richJob₁

/-- The job after the third node, the loop. -/
def richJob₃ : CompilationJob :=
  ((ingestNode Imports.plain 0 (.forLoopBlock literalLoop [textA] (some (emptyBlock, [textA])))
    richJob₂).toOption).getD richJob₂

/-- `richTemplate` ingests, one node after the other, into four units: the root, the
template's view, and the loop's body and empty views, all under the root. -/
theorem richTemplate_ingests :
    ingestComponent Imports.plain "C" richTemplate (fun _ => none) = .ok richJob₃ ∧
      richJob₃.views.map (·.parent) = [none, some 0, some 0, some 0] := by
  have h₁ : ingestNode Imports.plain 0 (.element i18nDiv [textA]) componentJob = .ok richJob₁ := rfl
  have h₂ : ingestNode Imports.plain 0 (.template i18nNgTemplate [.boundText pipedA]) richJob₁ =
    .ok richJob₂ := rfl
  have h₃ : ingestNode Imports.plain 0
    (.forLoopBlock literalLoop [textA] (some (emptyBlock, [textA]))) richJob₂ = .ok richJob₃ := rfl
  exact ⟨((ingestNodes_cons_of_ok _ h₁).trans (ingestNodes_cons_of_ok _ h₂)).trans
    (ingestNodes_cons_of_ok _ h₃), rfl⟩

section

variable (imports : Imports) {componentName : String} {template : List Node}
  {deferBlocksMeta : DeferredBlock → Option R3DeferBlockMetadata} {J' : CompilationJob}

/-! ## Fresh xrefs -/

/-- **Every xref is introduced once.** The xrefs of the units, of the ops that introduce an
entity and of the pipes in every op's expressions are exactly those the counter handed out,
each once; the views that template and repeater ops declare are the non-root units, each
once. -/
theorem ingestComponent_xrefs_distinct
    (h : ingestComponent imports componentName template deferBlocksMeta = .ok J') :
    J'.introduced.Nodup ∧ J'.introduced.Perm (List.range J'.nextXrefId) ∧
      (↑(J'.views.flatMap ViewCompilationUnit.declared) : Multiset Nat) =
        ↑(J'.views.tail.map (·.xref)) := by
  have hp : J'.introduced.Perm (List.range J'.nextXrefId) := Multiset.coe_eq_coe.mp <| by
    rw [ingestComponent_introduced imports h, window, Nat.sub_zero, List.range_eq_range']
  exact ⟨hp.nodup_iff.mpr (List.nodup_range _), hp, ingestComponent_declared imports h⟩

theorem ingestComponent_xrefs_distinct_rich :
    ∃ J', ingestComponent Imports.plain "C" richTemplate (fun _ => none) = .ok J' ∧
      J'.introduced.Nodup ∧ J'.introduced.Perm (List.range J'.nextXrefId) ∧
      (↑(J'.views.flatMap ViewCompilationUnit.declared) : Multiset Nat) =
        ↑(J'.views.tail.map (·.xref)) :=
  ⟨_, richTemplate_ingests.1, ingestComponent_xrefs_distinct Imports.plain richTemplate_ingests.1⟩

/-! ## Brackets -/

/-- **Well-bracketed create lists.** Every unit's start and end ops nest, each start with
its own end; an element's i18n block opens after its start op and bindings and closes just
before its end op; a plain template's i18n block encloses its child view's whole create
list. -/
theorem ingest_well_bracketed
    (h : ingestComponent imports componentName template deferBlocksMeta = .ok J') :
    (∀ v ∈ J'.views, Balanced (brackets v.create) ∧ (openings (brackets v.create)).Nodup) ∧
    (∀ (u : Nat) (element : Element) (children : List Node) (m : Message)
        (J J₁ : CompilationJob), J.WF → u ∈ J.xrefs → element.i18n = some (.message m) →
      ingestNode imports u (.element element children) J = .ok J₁ →
      ∃ δ, Extends u J J₁ δ ∧ ∃ (s : ElementStartOp) (bs cs : List CreateOp) (y : Nat),
        δ.create = .elementStart s :: bs ++ .i18nStart y m element.startSourceSpan :: cs ++
          [.i18nEnd y (element.endSourceSpan.getD element.startSourceSpan),
           .elementEnd s.xref (element.endSourceSpan.getD element.startSourceSpan)] ∧
        brackets bs = [] ∧ Balanced (brackets cs)) ∧
    (∀ (u : Nat) (tmpl : Template) (children : List Node) (m : Message) (J J₁ : CompilationJob),
      J.WF → u ∈ J.xrefs → isPlainTemplate imports tmpl = true →
      tmpl.i18n = some (.message m) → ingestNode imports u (.template tmpl children) J = .ok J₁ →
      ∃ δ, Extends u J J₁ δ ∧ ∃ (op : TemplateOp) (v : ViewCompilationUnit),
        .template op ∈ δ.create ∧ v ∈ δ.added ∧ op.xref = v.xref ∧ v.parent = some u ∧
        ∃ (y : Nat) (cs : List CreateOp), Balanced (brackets cs) ∧
          v.create = .i18nStart y m tmpl.startSourceSpan :: cs ++
            [.i18nEnd y (tmpl.endSourceSpan.getD tmpl.startSourceSpan)]) := by
  refine ⟨fun v hv => ⟨(ingestComponent_closed imports h v hv).balanced,
    ingestComponent_openings_nodup imports h v hv⟩, ?element, ?template⟩
  case element =>
    intro u element children m J J₁ hJ hu hm h₁
    rw [ingestNode] at h₁
    obtain ⟨s, δb, δi, mid, e, -, hb, -, -, -, -, hi⟩ :=
      ingestElement_spec imports (fun v => ingestNodes_into imports children v) hJ
        (hJ.lt_of_mem hu) h₁
    obtain ⟨δc, gc, rfl⟩ := hi m hm
    exact ⟨_, e, s, δb.create, δc.create, mid, by simp, hb.brackets, gc.wf.balanced⟩
  case template =>
    intro u tmpl children m J J₁ hJ hu hp hm h₁
    rw [ingestNode] at h₁
    obtain ⟨k, δb, v, as, mid, e, -, -, hv, hpar, -, -, -, hi⟩ :=
      ingestTemplate_spec imports (fun v => ingestNodes_into imports children v) hJ
        (hJ.lt_of_mem hu) h₁
    exact ⟨_, e, _, v, List.mem_cons_self _ _, List.mem_cons_self _ _, hv.symm, hpar,
      hi m hp hm⟩

theorem ingest_well_bracketed_i18n :
    ∃ J', ingestComponent Imports.plain "C" richTemplate (fun _ => none) = .ok J' ∧
      (∀ v ∈ J'.views, Balanced (brackets v.create) ∧ (openings (brackets v.create)).Nodup) ∧
      (∃ J₁, ingestNode Imports.plain 0 (.element i18nDiv [textA]) componentJob = .ok J₁ ∧
        ∃ δ, Extends 0 componentJob J₁ δ ∧ ∃ (s : ElementStartOp) (bs cs : List CreateOp) (y : Nat),
          δ.create = .elementStart s :: bs ++ .i18nStart y exampleMessage exampleSpan :: cs ++
            [.i18nEnd y exampleSpan, .elementEnd s.xref exampleSpan] ∧
          brackets bs = [] ∧ Balanced (brackets cs)) ∧
      ∃ J₁, ingestNode Imports.plain 0 (.template i18nNgTemplate [.boundText pipedA])
          componentJob = .ok J₁ ∧
        ∃ δ, Extends 0 componentJob J₁ δ ∧ ∃ (op : TemplateOp) (v : ViewCompilationUnit),
          .template op ∈ δ.create ∧ v ∈ δ.added ∧ op.xref = v.xref ∧ v.parent = some 0 ∧
          ∃ (y : Nat) (cs : List CreateOp), Balanced (brackets cs) ∧
            v.create = .i18nStart y exampleMessage exampleSpan :: cs ++ [.i18nEnd y exampleSpan] :=
  have hw := ingest_well_bracketed Imports.plain richTemplate_ingests.1
  ⟨_, richTemplate_ingests.1, hw.1,
    ⟨_, rfl, hw.2.1 0 i18nDiv [textA] exampleMessage componentJob _
      (CompilationJob.component_wf _ _ _) (List.mem_singleton_self 0) rfl rfl⟩,
    _, rfl, hw.2.2 0 i18nNgTemplate [.boundText pipedA] exampleMessage componentJob _
      (CompilationJob.component_wf _ _ _) (List.mem_singleton_self 0) rfl rfl rfl⟩

/-! ## The view tree -/

/-- **The units form a tree under the root.** The root comes first and has no parent; every
other unit's parent is an older unit; each non-root unit is declared by exactly one op, in
its parent's create list; and every view an op refers to is a child of the op's unit. -/
theorem ingestComponent_view_tree
    (h : ingestComponent imports componentName template deferBlocksMeta = .ok J') :
    J'.xrefs.Nodup ∧
      (∃ root ∈ J'.views.head?, root.xref = J'.root ∧ root.parent = none) ∧
      (∀ v ∈ J'.views.tail, ∃ w ∈ J'.views, v.parent = some w.xref ∧ w.xref < v.xref) ∧
      (↑(J'.views.flatMap ViewCompilationUnit.declared) : Multiset Nat) =
        ↑(J'.views.tail.map (·.xref)) ∧
      (∀ u ∈ J'.views, ∀ x ∈ u.declared, ∃ w ∈ J'.views, w.xref = x ∧ w.parent = some u.xref) ∧
      ∀ u ∈ J'.views, ∀ x ∈ u.viewRefs, ∃ w ∈ J'.views, w.xref = x ∧ w.parent = some u.xref := by
  obtain ⟨δ, hr, hv, -, -, hJ⟩ := ingestComponent_spec imports h
  have refs := fun u hu => (ingestComponent_closed imports h u hu).views
  refine ⟨hJ.nodup, ⟨_, by rw [hv]; rfl, hr.symm, rfl⟩, ingestComponent_parents imports h,
    ingestComponent_declared imports h, fun u hu x hx => refs u hu x ?_, refs⟩
  obtain ⟨op, hop, hx⟩ := List.mem_flatMap.mp hx
  exact List.mem_append_left _
    (List.mem_flatMap.mpr ⟨op, hop, CreateOp.mem_views_of_mem_declares hx⟩)

theorem ingestComponent_view_tree_rich :
    ∃ J', ingestComponent Imports.plain "C" richTemplate (fun _ => none) = .ok J' ∧
      J'.xrefs.Nodup ∧
      (∃ root ∈ J'.views.head?, root.xref = J'.root ∧ root.parent = none) ∧
      (∀ v ∈ J'.views.tail, ∃ w ∈ J'.views, v.parent = some w.xref ∧ w.xref < v.xref) ∧
      (↑(J'.views.flatMap ViewCompilationUnit.declared) : Multiset Nat) =
        ↑(J'.views.tail.map (·.xref)) ∧
      (∀ u ∈ J'.views, ∀ x ∈ u.declared, ∃ w ∈ J'.views, w.xref = x ∧ w.parent = some u.xref) ∧
      ∀ u ∈ J'.views, ∀ x ∈ u.viewRefs, ∃ w ∈ J'.views, w.xref = x ∧ w.parent = some u.xref :=
  ⟨_, richTemplate_ingests.1, ingestComponent_view_tree Imports.plain richTemplate_ingests.1⟩

/-! ## Ingestion only appends -/

/-- **Only appends, in document order.** A call of `ingestNodes` into a unit `u` of a job
extends `u`: every other unit is left as it is, `u` gets ops at the ends of its two lists
and nothing else (the i18n ops spliced in land in those ops or in new units), and the new
units are fresh. Splitting the siblings splits what they append into consecutive pieces. -/
theorem ingestNodes_appends {u : Nat} {ns : List Node} {J J' : CompilationJob} (hJ : J.WF)
    (hu : u ∈ J.xrefs) (h : ingestNodes imports u ns J = .ok J') :
    (∃ δ, Extends u J J' δ) ∧
      ∀ ns₁ ns₂, ns = ns₁ ++ ns₂ → ∃ (J₁ : CompilationJob) (δ₁ δ₂ : Delta),
        ingestNodes imports u ns₁ J = .ok J₁ ∧ ingestNodes imports u ns₂ J₁ = .ok J' ∧
        Extends u J J₁ δ₁ ∧ Extends u J₁ J' δ₂ ∧ Extends u J J' (δ₁ ++ δ₂) := by
  have hu' := hJ.lt_of_mem hu
  refine ⟨(ingestNodes_into imports ns u J J' hJ hu' h).imp fun _ h => h.1, ?_⟩
  rintro ns₁ ns₂ rfl
  obtain ⟨J₁, h₁, h₂⟩ :=
    bind_eq_ok_iff.mp ((ingestNodes_append imports u ns₁ ns₂ J).symm.trans h)
  obtain ⟨δ₁, e₁, -⟩ := ingestNodes_into imports ns₁ u J J₁ hJ hu' h₁
  obtain ⟨δ₂, e₂, -⟩ := ingestNodes_into imports ns₂ u J₁ J' (e₁.wf hJ) (hu'.trans_le e₁.le) h₂
  exact ⟨J₁, δ₁, δ₂, h₁, h₂, e₁, e₂, e₁.trans hu' e₂⟩

theorem ingestNodes_appends_split :
    componentJob.WF ∧ 0 ∈ componentJob.xrefs ∧
    ∃ J', ingestNodes Imports.plain 0 richTemplate componentJob = .ok J' ∧
      (∃ δ, Extends 0 componentJob J' δ) ∧
      ∃ (J₁ : CompilationJob) (δ₁ δ₂ : Delta),
        ingestNodes Imports.plain 0 [.element i18nDiv [textA], .template i18nNgTemplate
          [.boundText pipedA]] componentJob = .ok J₁ ∧
        ingestNodes Imports.plain 0 [.forLoopBlock literalLoop [textA] (some (emptyBlock, [textA]))]
          J₁ = .ok J' ∧
        Extends 0 componentJob J₁ δ₁ ∧ Extends 0 J₁ J' δ₂ ∧ Extends 0 componentJob J' (δ₁ ++ δ₂) :=
  have ha := ingestNodes_appends Imports.plain (CompilationJob.component_wf _ _ _)
    (List.mem_singleton_self 0) richTemplate_ingests.1
  ⟨CompilationJob.component_wf _ _ _, List.mem_singleton_self 0, _, richTemplate_ingests.1, ha.1,
    ha.2 _ _ rfl⟩

/-! ## An `@if` without branches -/

/-- **An `@if` without branches has a conditional with no anchor.** `ingestIfBlock` builds
the conditional from `firstXref!`, which stays null when there is no branch, so the op
names no target, while `ingestSwitchBlock` emits nothing for a switch without cases. -/
theorem ingestNode_empty_if_anchorless (u : Nat) (ifBlock : IfBlock) (switchBlock : SwitchBlock)
    (J : CompilationJob) :
    ingestNode imports u (.ifBlock ifBlock []) J =
        .ok (J.pushUpdate u [.conditional none none none [] ifBlock.sourceSpan]) ∧
      ingestNode imports u (.switchBlock switchBlock []) J = .ok J :=
  ⟨rfl, rfl⟩

end

end Angular.Compiler
