import Angular.Compiler.IngestSound.Nodes

/-!
# Angular.Compiler.IngestSound.Blocks

**Control-flow blocks ingest into their unit.** `@if`, `@switch`, `@defer` and `@for` each
allocate child views, declare them by template or repeater ops in the unit, and refer to
them from ops that come later: the `Conditional` op after the last branch, the `Defer` op
after the last secondary view, the `RepeaterCreate` op after the children and the `@empty`
block. Those later ops also introduce xrefs drawn long before them (the pipes of an `@if`
case, of a `@for`'s track expression), so the proofs carry a `Part` whose outstanding xrefs
the later op settles (`Part.close`).
-/

namespace Angular.Compiler

/-! ## The branches of `@if` and `@switch` -/

/-- What a run of branches added to `u`: the branches' views, declared by their template
ops, the cases' pipes left for the `Conditional` op, and cases whose targets are defined in
`u` and are children of `u`. -/
structure CasesInto (u : Nat) (J J' : CompilationJob) (cs : List ConditionalCaseExpr)
    (δ : Delta) : Prop where
  ext : Extends u J J' δ
  part : δ.Part u J.nextXrefId J'.nextXrefId ↑(cs.flatMap ConditionalCaseExpr.pipeIds)
  cases : ∀ c ∈ cs, c.target ∈ δ.create.flatMap CreateOp.defines ∧
    ∃ w ∈ δ.added, w.xref = c.target ∧ w.parent = some u

namespace CasesInto

variable {u : Nat} {J J₁ J₂ : CompilationJob} {cs cs₁ cs₂ : List ConditionalCaseExpr}
  {δ δ₁ δ₂ : Delta}

theorem nil (u : Nat) (J : CompilationJob) : CasesInto u J J [] {} :=
  ⟨.refl u J, (Delta.Good.empty u _).part, fun _ h => nomatch h⟩

theorem append (hu : u < J.nextXrefId) (h₁ : CasesInto u J J₁ cs₁ δ₁)
    (h₂ : CasesInto u J₁ J₂ cs₂ δ₂) : CasesInto u J J₂ (cs₁ ++ cs₂) (δ₁ ++ δ₂) where
  ext := h₁.ext.trans hu h₂.ext
  part := by simpa using h₁.part.append h₂.part h₁.ext.le h₂.ext.le
  cases c hc := by
    rcases List.mem_append.mp hc with hc | hc
    · obtain ⟨hd, w, hw, h⟩ := h₁.cases c hc
      exact ⟨by simp [hd], w, by simp [hw], h⟩
    · obtain ⟨hd, w, hw, h⟩ := h₂.cases c hc
      exact ⟨by simp [hd], w, by simp [hw], h⟩

/-- **The `Conditional` op.** After the branches the test's pipes are drawn and the op is
pushed: it introduces the cases' pipes and the test's, its anchor is the first branch's view
and its cases are the branches' views. -/
theorem close (hu : u < J.nextXrefId) (h : CasesInto u J J₁ cs δ) (test : Option Expression)
    (d : Drew J₁ J₂ ((test.map Expression.pipeIds).getD [])) (slot : Option SlotHandle)
    (span : ParseSourceSpan) :
    ∃ δ', Extends u J (J₂.pushUpdate u [.conditional (cs.head?.map (·.target)) slot test cs span])
      δ' ∧ δ'.Good u J.nextXrefId J₂.nextXrefId := by
  refine ⟨δ ++ { update := [.conditional (cs.head?.map (·.target)) slot test cs span] },
    ((h.ext.trans hu (.drew u d)).trans hu (.pushUpdate J₂ u _)).congr
      (Delta.ext (by simp) (by simp) (by simp)), h.part.close ?_ ?_ ?_ ?_ h.ext.le⟩
  · simp only [List.mem_singleton, forall_eq, UpdateOp.targets, List.mem_append, List.mem_map]
    rintro x (hx | ⟨c, hc, rfl⟩)
    · cases cs with
      | nil => simp at hx
      | cons c cs => simp at hx; subst hx; exact (h.cases c (by simp)).1
    · exact (h.cases c hc).1
  · simp only [List.flatMap_cons, List.flatMap_nil, List.append_nil, UpdateOp.views, List.mem_map]
    rintro x ⟨c, hc, rfl⟩
    exact (h.cases c hc).2
  · simp only [List.flatMap_cons, List.flatMap_nil, List.append_nil, UpdateOp.introduced]
    rw [← d.eq_window, Multiset.coe_add, Multiset.coe_eq_coe]
    exact List.perm_append_comm
  · have := d.next_eq; omega

end CasesInto

/-- **A branch of an `@if` or a `@switch`.** The branch's view `v`, allocated as `x` and given
bindings `bs` that address it, is declared by a template op; the pipes of the case `c` are
drawn next, for the `Conditional` op still to come; then the children ingest into `v`. -/
theorem CasesInto.branch {u : Nat} {J J₁ J₂ J₃ : CompilationJob} {op : TemplateOp}
    {bs : List UpdateOp} {v : ViewCompilationUnit} {c : ConditionalCaseExpr}
    {ingestChildren : IngestChildren} (hJ : J.WF) (hu : u < J.nextXrefId)
    (e₁ : Extends u J J₁ ⟨[], bs, [v]⟩) (hb : ∀ o ∈ bs, o.On J.nextXrefId ∧ o.introduced = [])
    (hv : v.xref = J.nextXrefId) (hp : v.parent = some u) (hcr : v.create = [])
    (hup : v.update = []) (hn : J₁.nextXrefId = J.nextXrefId + 1) (hx : op.xref = J.nextXrefId)
    (hc : c.target = J.nextXrefId) (d : Drew (J₁.pushCreate u [.template op]) J₂ c.pipeIds)
    (hi : IngestsInto J.nextXrefId (ingestChildren J.nextXrefId))
    (h : ingestChildren J.nextXrefId J₂ = .ok J₃) : ∃ δ, CasesInto u J J₃ [c] δ := by
  have e₂ : Extends u J J₂ ⟨[.template op], bs, [] ++ v :: []⟩ :=
    ((e₁.trans hu (.pushCreate J₁ u _)).trans hu (.drew u d)).congr
      (Delta.ext (by simp) (by simp) (by simp))
  have n₂ : J₂.nextXrefId = J.nextXrefId + 1 + c.pipeIds.length := by
    rw [d.next_eq, CompilationJob.pushCreate_nextXrefId, hn]
  obtain ⟨δc, ec, gc⟩ := hi J₂ J₃ (e₂.wf hJ) (by omega) h
  refine ⟨_, (e₂.child hJ (hv ▸ ec)).congr rfl, .declare { update := bs }
    (by rw [← hx]; exact ⟨rfl, rfl, rfl, rfl, rfl, rfl⟩) (.ofUpdate fun o ho => (hb o ho).1) ?_
    (by simp [hv]) (by simp [appendOps, hp]) (by simp [appendOps, hcr])
    (by simp [appendOps, hup]) gc (by omega) ec.le, ?_⟩
  · have := d.eq_window
    simp only [CompilationJob.pushCreate_nextXrefId, hn] at this
    simp [Delta.ids, List.flatMap_eq_nil_iff.mpr fun o ho => (hb o ho).2, this]
  · simp only [List.mem_singleton, forall_eq, hc]
    exact ⟨by simp [CreateOp.defines, hx], _, List.mem_cons_self _ _, by simp [hv],
      by simp [appendOps, hp]⟩

/-! ## `@defer` -/

theorem deferOnTriggers_on (x : Nat) (prefetch : Bool) (triggers : DeferredBlockTriggers) :
    ∀ op ∈ deferOnTriggers x prefetch triggers, op.On x ∧ op.introduced = [] := by
  intro op hop
  simp only [deferOnTriggers, List.mem_append, Option.mem_toList, Option.mem_def,
    Option.map_eq_some'] at hop
  rcases hop with ((((⟨_, _, rfl⟩ | ⟨_, _, rfl⟩) | ⟨_, _, rfl⟩) | ⟨_, _, rfl⟩) | ⟨_, _, rfl⟩) |
    ⟨_, _, rfl⟩ <;>
  exact ⟨⟨rfl, rfl, by simp [CreateOp.targets]⟩, rfl⟩

/-- **The `Defer` op and its triggers.** After the block's views, the defer op introduces
`x`, drawn next, and refers to the main and placeholder views; its `DeferOn` and `DeferWhen`
ops address `x`, and the pipes of the when conditions are drawn after it. -/
theorem Delta.Good.defer {u lo x hi : Nat} {δ : Delta} {op : DeferOp} {os : List CreateOp}
    {ws : List UpdateOp} (h : δ.Good u lo x) (hx : op.xref = x)
    (hv : ∀ y ∈ op.mainView :: op.placeholderView.toList,
      ∃ w ∈ δ.added, w.xref = y ∧ w.parent = some u)
    (hos : ∀ o ∈ os, o.On x ∧ o.introduced = []) (hws : ∀ o ∈ ws, o.On x)
    (hids : (↑(ws.flatMap UpdateOp.introduced) : Multiset Nat) = window (x + 1) hi)
    (hlo : lo ≤ x) (hhi : x < hi) :
    (δ ++ ⟨.defer op :: os, ws, []⟩).Good u lo hi where
  wf := by
    have d : ({ create := [.defer op] } : Delta).Wf u ([] ++ δ.create.flatMap CreateOp.defines)
        ([] ++ δ.added) :=
      .ops ⟨by simp [CreateOp.targets], trivial⟩ (fun _ h => nomatch h)
        (by simp [brackets, CreateOp.bracket]; exact .nil)
        fun y hy => by simpa using hv y (by simpa [CreateOp.views] using hy)
    exact h.wf.append (d.append ((Delta.OnlyTargets.ops (fun o ho => (hos o ho).1) hws).wf
      (by simp [CreateOp.defines, hx])))
  ids := by
    have hos' : os.flatMap CreateOp.introduced = [] :=
      List.flatMap_eq_nil_iff.mpr fun o ho => (hos o ho).2
    rw [Delta.ids_append, h.ids, ← window_add hlo hhi.le, window_cons hhi, ← hids]
    simp [Delta.ids, CreateOp.introduced, hx, hos']
  declared := by
    have hos' : os.flatMap CreateOp.declares = [] :=
      List.flatMap_eq_nil_iff.mpr fun o ho => CreateOp.declares_eq_nil (hos o ho).1.2.1
    rw [Delta.declared_append, Delta.units_append, h.declared]
    simp [Delta.declared, Delta.units, CreateOp.declares, hos']

/-! ## `@for` -/

/-- New child views `L` of `u`, each with what its own call added, whose xrefs `xs` an op
still to come declares; `i` are the xrefs they introduce. -/
structure Delta.Views (u : Nat) (xs : List Nat) (i : Multiset Nat)
    (L : List ViewCompilationUnit) : Prop where
  wf : ({ added := L } : Delta).Wf u [] []
  ids : ({ added := L } : Delta).ids = i
  declared : ({ added := L } : Delta).declared + ↑xs = ({ added := L } : Delta).units
  mem : ∀ x ∈ xs, ∃ w ∈ L, w.xref = x ∧ w.parent = some u

namespace Delta.Views

variable {u : Nat} {xs xs₁ xs₂ : List Nat} {i i₁ i₂ : Multiset Nat}
  {L L₁ L₂ : List ViewCompilationUnit}

theorem nil (u : Nat) : Views u [] 0 [] :=
  ⟨(Good.empty u 0).wf, rfl, rfl, fun _ h => nomatch h⟩

/-- One new view `v` of `u`, numbered `x`, with what the call into it added. -/
theorem view {x mid hi : Nat} {v : ViewCompilationUnit} {as : List ViewCompilationUnit}
    (hv : v.xref = x) (hp : v.parent = some u)
    (hc : (⟨v.create, v.update, as⟩ : Delta).Good x mid hi) (hmid : x < mid) :
    Views u [x] (x ::ₘ window mid hi) (v :: as) where
  wf := .child hp (.of_wf (hv ▸ hc.wf) rfl rfl) (hv ▸ hc.wf)
    fun w hw => hv ▸ Nat.lt_of_lt_of_le hmid (hc.xref_mem_window hw).1
  ids := by
    rw [← hc.ids]
    simp only [Delta.ids, List.flatMap_cons, ViewCompilationUnit.introduced, hv, List.flatMap_nil,
      List.nil_append, Multiset.coe_nil, zero_add, List.cons_append, ← Multiset.cons_coe,
      Multiset.coe_add]
  declared := by
    have := hc.declared
    simp only [Delta.declared, Delta.units, List.flatMap_cons, List.map_cons, hv,
      ViewCompilationUnit.declared, List.flatMap_nil, Multiset.coe_nil, zero_add] at this ⊢
    rw [← Multiset.coe_add, this, ← Multiset.cons_coe, Multiset.add_cons, Multiset.coe_nil,
      add_zero, Multiset.cons_coe]
  mem x hx := by
    simp only [List.mem_singleton] at hx
    exact ⟨v, List.mem_cons_self _ _, hv.trans hx.symm, hp⟩

theorem append (h₁ : Views u xs₁ i₁ L₁) (h₂ : Views u xs₂ i₂ L₂) :
    Views u (xs₁ ++ xs₂) (i₁ + i₂) (L₁ ++ L₂) where
  wf := h₁.wf.append (h₂.wf.mono (by simp) (by simp))
  ids := by
    rw [← h₁.ids, ← h₂.ids]
    simp [Delta.ids]
  declared := by
    have d₁ := h₁.declared
    have d₂ := h₂.declared
    simp only [Delta.declared, Delta.units, List.flatMap_append, List.map_append,
      ← Multiset.coe_add, List.flatMap_nil] at d₁ d₂ ⊢
    rw [← d₁, ← d₂]
    ac_rfl
  mem x hx := by
    rcases List.mem_append.mp hx with hx | hx
    · obtain ⟨w, hw, h⟩ := h₁.mem x hx
      exact ⟨w, List.mem_append_left _ hw, h⟩
    · obtain ⟨w, hw, h⟩ := h₂.mem x hx
      exact ⟨w, List.mem_append_right _ hw, h⟩

/-- **The declaring op.** A create op that declares and refers to exactly the views `xs`,
and update ops that address only them, finish the views. -/
theorem close {lo hi : Nat} {R : CreateOp} {d : List UpdateOp} (h : Views u xs i L)
    (hR : R.targets = [] ∧ R.bracket = none ∧ R.defines = xs ∧ R.views = xs ∧ R.declares = xs)
    (hd : ∀ op ∈ d, op.views = [] ∧ ∀ t ∈ op.targets, t ∈ xs)
    (hids : i + ↑R.introduced + ↑(d.flatMap UpdateOp.introduced) = window lo hi) :
    (⟨[R], d, L⟩ : Delta).Good u lo hi where
  wf := by
    have ops : (⟨[R], d, []⟩ : Delta).Wf u [] L :=
      .ops (by simp [refsBound, hR.1])
        (fun op hop t ht => .inr (by simpa [hR.2.2.1] using (hd op hop).2 t ht))
        (by simp [brackets, hR.2.1]; exact .nil) fun x hx => by
          simp only [List.flatMap_cons, List.flatMap_nil, List.append_nil, hR.2.2.2.1,
            List.mem_append, List.mem_flatMap] at hx
          rcases hx with hx | ⟨op, hop, hx⟩
          · exact h.mem x hx
          · simp [(hd op hop).1] at hx
    simpa using h.wf.append (ops.mono (by simp) (by simp))
  ids := by
    rw [← hids, ← h.ids]
    simp only [Delta.ids, List.flatMap_cons, List.flatMap_nil, List.append_nil, Multiset.coe_nil,
      zero_add]
    ac_rfl
  declared := by
    have hd := h.declared
    simp only [Delta.declared, Delta.units, List.flatMap_nil, Multiset.coe_nil, zero_add] at hd ⊢
    rw [← hd, List.flatMap_cons, hR.2.2.2.2, List.flatMap_nil, List.append_nil, add_comm]

end Delta.Views

section

variable (imports : Imports)

theorem ingestControlFlowInsertionPoint_spec {u x : Nat} {children : List Node}
    {J J' : CompilationJob} {tag : Option String}
    (h : ingestControlFlowInsertionPoint imports u x children J = .ok (tag, J')) :
    ∃ bs, Extends u J J' { update := bs } ∧ J'.nextXrefId = J.nextXrefId ∧
      ∀ op ∈ bs, op.On x ∧ op.introduced = [] := by
  unfold ingestControlFlowInsertionPoint at h
  split at h
  · cases h; exact ⟨[], .refl u J, rfl, fun _ h => nomatch h⟩
  · simp only [bind_eq_ok_iff] at h
    obtain ⟨bs, hbs, h⟩ := h
    cases h
    exact ⟨bs, .pushUpdate J u bs, rfl,
      mapM_spec _ (fun _ _ h => staticAttributeBinding_spec imports h) _ hbs⟩

@[simp] theorem ConditionalAcc.foldl_add_firstXref (acc : ConditionalAcc) :
    ∀ cs : List ConditionalCaseExpr, (cs.foldl (fun a c => a.add c.target c) acc).firstXref =
      acc.firstXref.orElse fun _ => cs.head?.map (·.target)
  | [] => by rcases acc with ⟨_ | _, _, _⟩ <;> rfl
  | c :: cs => by
    rw [List.foldl_cons, foldl_add_firstXref _ cs]
    rcases acc with ⟨_ | _, _, _⟩ <;> rfl

@[simp] theorem ConditionalAcc.foldl_add_conditions (acc : ConditionalAcc) :
    ∀ cs : List ConditionalCaseExpr, (cs.foldl (fun a c => a.add c.target c) acc).conditions =
      acc.conditions ++ cs
  | [] => by simp
  | c :: cs => by
    rw [List.foldl_cons, foldl_add_conditions _ cs]
    simp [ConditionalAcc.add]

/-- The pipes a branch's case expression draws. -/
theorem caseExpr_drew {e : Option AST} {J : CompilationJob} {base : Option ParseSourceSpan}
    {p : Option Expression × CompilationJob}
    (h : (match e with
      | some expression => do
        let (x, job) ← convertAst imports expression J base
        pure (some x, job)
      | none => pure (none, J)) = Except.ok p) :
    Drew J p.2 ((p.1.map Expression.pipeIds).getD []) := by
  split at h
  · obtain ⟨⟨x, J'⟩, hx, h⟩ := bind_eq_ok_iff.mp h
    cases h
    exact convertAst_drew imports _ hx
  · cases h; exact Drew.nil J

/-! ## `@if` -/

theorem ingestIfBranches_spec {u : Nat} :
    ∀ (branches : List (IfBlockBranch × List Node × IngestChildren)) (i : Nat)
      (acc : ConditionalAcc) {J : CompilationJob} {p : ConditionalAcc × CompilationJob},
      (∀ b ∈ branches, ∀ v, IngestsInto v (b.2.2 v)) → J.WF → u < J.nextXrefId →
      ingestIfBranches imports u i branches acc J = .ok p →
      ∃ δ, ∃ cs : List ConditionalCaseExpr, CasesInto u J p.2 cs δ ∧
        p.1 = cs.foldl (fun a c => a.add c.target c) acc ∧ cs.length = branches.length
  | [], _, _, J, _, _, _, _, h => by
    cases h
    exact ⟨{}, [], .nil u J, rfl, rfl⟩
  | (ifCase, children, ingestChildren) :: branches, i, acc, J, p, hc, hJ, hu, h => by
    simp only [ingestIfBranches, bind_eq_ok_iff, CompilationJob.allocateView] at h
    obtain ⟨⟨tag, J₂⟩, h₂, m, -, ⟨caseExpr, J₄⟩, h₄, J₅, h₅, h⟩ := h
    -- Only the first branch gets the insertion point's bindings.
    obtain ⟨bs, e₂, n₂, hbs⟩ : ∃ bs,
        Extends u J J₂ ⟨[], bs, [ViewCompilationUnit.new J.nextXrefId (some u)]⟩ ∧
        J₂.nextXrefId = J.nextXrefId + 1 ∧ ∀ op ∈ bs, op.On J.nextXrefId ∧ op.introduced = [] := by
      split at h₂
      · obtain ⟨bs, e, n, hbs⟩ := ingestControlFlowInsertionPoint_spec imports h₂
        exact ⟨bs, ((Extends.allocateView u J u).trans hu e).congr (Delta.ext rfl rfl rfl), n, hbs⟩
      · cases h₂; exact ⟨[], Extends.allocateView u J u, rfl, fun _ h => nomatch h⟩
    have d := caseExpr_drew imports h₄
    -- The expression alias only sets a context variable of the branch's view.
    obtain ⟨J₃, v, e₃, hv, hp, hcr, hup, hn, d⟩ : ∃ J₃ v, Extends u J J₃ ⟨[], bs, [v]⟩ ∧
        v.xref = J.nextXrefId ∧ v.parent = some u ∧ v.create = [] ∧ v.update = [] ∧
        J₃.nextXrefId = J.nextXrefId + 1 ∧ Drew (J₃.pushCreate u _) J₄ _ := by
      rcases hal : ifCase.expressionAlias with _ | al <;> simp only [hal] at d
      · exact ⟨_, _, e₂, rfl, rfl, rfl, rfl, n₂, d⟩
      · exact ⟨_, _, e₂.modify hJ (v := ViewCompilationUnit.new J.nextXrefId (some u)) (a := [])
          (b := []) (g := fun w => { w with
            contextVariables := mapSet w.contextVariables al.name imports.ctxRef }) (fun _ => rfl),
          rfl, rfl, rfl, rfl, n₂, d⟩
    obtain ⟨δ₁, h₁⟩ := CasesInto.branch
      (c := ⟨caseExpr, J.nextXrefId, .ofOp J.nextXrefId, ifCase.expressionAlias⟩) hJ hu e₃ hbs hv
      hp hcr hup hn rfl rfl d (hc _ (List.mem_cons_self _ _) _) h₅
    obtain ⟨δr, cs, hr, hacc, hlen⟩ := ingestIfBranches_spec branches (i + 1) _
      (fun b hb => hc b (List.mem_cons_of_mem _ hb)) (h₁.ext.wf hJ) (by have := h₁.ext.le; omega) h
    exact ⟨_, _, h₁.append hu hr, hacc, by simp [hlen]⟩

theorem ingestIfBlock_into (u : Nat) (ifBlock : IfBlock)
    {branches : List (IfBlockBranch × List Node × IngestChildren)}
    (hc : ∀ b ∈ branches, ∀ v, IngestsInto v (b.2.2 v)) :
    IngestsInto u (ingestIfBlock imports u ifBlock branches) := by
  intro J J' hJ hu h
  simp only [ingestIfBlock, bind_eq_ok_iff] at h
  obtain ⟨⟨acc, J₁⟩, h₁, h⟩ := h
  cases h
  obtain ⟨δ, cs, hcs, rfl, -⟩ := ingestIfBranches_spec imports branches 0 _ hc hJ hu h₁
  rw [ConditionalAcc.foldl_add_firstXref, ConditionalAcc.foldl_add_conditions]
  exact hcs.close hu none (Drew.nil J₁) _ _

/-! ## `@switch` -/

theorem ingestSwitchCases_spec {u : Nat} (switchBlock : SwitchBlock) :
    ∀ (cases : List (SwitchBlockCase × IngestChildren)) (acc : ConditionalAcc)
      {J : CompilationJob} {p : ConditionalAcc × CompilationJob},
      (∀ b ∈ cases, ∀ v, IngestsInto v (b.2 v)) → J.WF → u < J.nextXrefId →
      ingestSwitchCases imports u switchBlock cases acc J = .ok p →
      ∃ δ, ∃ cs : List ConditionalCaseExpr, CasesInto u J p.2 cs δ ∧
        p.1 = cs.foldl (fun a c => a.add c.target c) acc ∧ cs.length = cases.length
  | [], _, J, _, _, _, _, h => by
    cases h
    exact ⟨{}, [], .nil u J, rfl, rfl⟩
  | (switchCase, ingestChildren) :: cases, acc, J, p, hc, hJ, hu, h => by
    simp only [ingestSwitchCases, bind_eq_ok_iff, CompilationJob.allocateView] at h
    obtain ⟨m, -, ⟨caseExpr, J₄⟩, h₄, J₅, h₅, h⟩ := h
    obtain ⟨δ₁, h₁⟩ := CasesInto.branch (c := ⟨caseExpr, J.nextXrefId, .ofOp J.nextXrefId, none⟩)
      hJ hu (Extends.allocateView u J u) (fun _ h => nomatch h) rfl rfl rfl rfl rfl rfl rfl
      (caseExpr_drew imports h₄) (hc _ (List.mem_cons_self _ _) _) h₅
    obtain ⟨δr, cs, hr, hacc, hlen⟩ := ingestSwitchCases_spec switchBlock cases _
      (fun b hb => hc b (List.mem_cons_of_mem _ hb)) (h₁.ext.wf hJ) (by have := h₁.ext.le; omega) h
    exact ⟨_, _, h₁.append hu hr, hacc, by simp [hlen]⟩

theorem ingestSwitchBlock_into (u : Nat) (switchBlock : SwitchBlock)
    {cases : List (SwitchBlockCase × IngestChildren)} (hc : ∀ b ∈ cases, ∀ v, IngestsInto v (b.2 v)) :
    IngestsInto u (ingestSwitchBlock imports u switchBlock cases) := by
  intro J J' hJ hu h
  unfold ingestSwitchBlock at h
  split at h
  · exact IngestsInto.pure u J J' hJ hu h
  simp only [bind_eq_ok_iff] at h
  obtain ⟨⟨acc, J₁⟩, h₁, ⟨test, J₂⟩, h₂, h⟩ := h
  cases h
  obtain ⟨δ, cs, hcs, rfl, -⟩ := ingestSwitchCases_spec imports switchBlock cases _ hc hJ hu h₁
  rw [ConditionalAcc.foldl_add_firstXref, ConditionalAcc.foldl_add_conditions]
  exact hcs.close hu (some test) (convertAst_drew imports _ h₂) _ _

/-! ## `@defer` -/

theorem ingestDeferTriggers_spec {x : Nat} {prefetch : Bool} {triggers : DeferredBlockTriggers}
    {ons ons' : List CreateOp} {whens whens' : List UpdateOp} {J J' : CompilationJob}
    (h : ingestDeferTriggers imports x prefetch triggers ons whens J = .ok ((ons', whens'), J')) :
    (∃ os, ons' = ons ++ os ∧ ∀ op ∈ os, op.On x ∧ op.introduced = []) ∧
    ∃ ws, whens' = whens ++ ws ∧ (∀ op ∈ ws, op.On x) ∧ Drew J J' (ws.flatMap UpdateOp.introduced) := by
  simp only [ingestDeferTriggers, bind_eq_ok_iff] at h
  obtain ⟨⟨ws', J₁⟩, h₁, h⟩ := h
  obtain ⟨ws, rfl, hws, d⟩ : ∃ ws, ws' = whens ++ ws ∧ (∀ op ∈ ws, op.On x) ∧
      Drew J J₁ (ws.flatMap UpdateOp.introduced) := by
    rcases hw : triggers.when with _ | w <;> simp only [hw] at h₁
    · cases h₁; exact ⟨[], (List.append_nil _).symm, by simp, Drew.nil J⟩
    · split at h₁
      · cases h₁
      · obtain ⟨⟨e, J₂⟩, he, h₁⟩ := bind_eq_ok_iff.mp h₁
        cases h₁
        refine ⟨[.deferWhen x e prefetch w.sourceSpan], rfl, ?_, ?_⟩
        · simp [UpdateOp.On, UpdateOp.views, UpdateOp.targets]
        · simpa [UpdateOp.introduced] using convertAst_drew imports _ he
  cases h
  refine ⟨?_, ws, rfl, hws, d⟩
  have ht := deferOnTriggers_on x prefetch triggers
  split_ifs
  · refine ⟨_, List.append_assoc _ _ _, fun op hop => ?_⟩
    rcases List.mem_append.mp hop with hop | hop
    · exact ht op hop
    · simp only [List.mem_singleton] at hop; subst hop
      exact ⟨⟨rfl, rfl, by simp [CreateOp.targets]⟩, rfl⟩
  · exact ⟨_, rfl, ht⟩

theorem ingestDeferView_spec {u : Nat} {suffix : String} {i18nMeta : Option I18nMeta}
    {view : Option (IngestChildren × ParseSourceSpan)} {J J' : CompilationJob}
    {templateOp : Option TemplateOp}
    (hv : ∀ c ∈ view, ∀ v, IngestsInto v (c.1 v)) (hJ : J.WF) (hu : u < J.nextXrefId)
    (h : ingestDeferView u suffix i18nMeta view J = .ok (templateOp, J')) :
    ∃ δ, Extends u J J' δ ∧ δ.Good u J.nextXrefId J'.nextXrefId ∧
      templateOp.isSome = view.isSome ∧
      ∀ op ∈ templateOp, ∃ w ∈ δ.added, w.xref = op.xref ∧ w.parent = some u := by
  simp only [ingestDeferView, bind_eq_ok_iff] at h
  obtain ⟨_, -, h⟩ := h
  rcases view with _ | ⟨ingestChildren, span⟩
  · cases h; exact ⟨{}, .refl u J, .empty u _, rfl, fun _ h => nomatch h⟩
  simp only [CompilationJob.allocateView, bind_eq_ok_iff] at h
  obtain ⟨J₁, h₁, h⟩ := h
  cases h
  have e₀ : Extends u J _ ⟨[], [], [] ++ ViewCompilationUnit.new J.nextXrefId (some u) :: []⟩ :=
    Extends.allocateView u J u
  obtain ⟨δc, ec, gc⟩ := hv _ rfl J.nextXrefId _ J₁ (e₀.wf hJ) (by simp) h₁
  refine ⟨_, (e₀.child hJ ec).trans hu (.pushCreate J₁ u _), ?_, rfl, ?_⟩
  · simp only [Delta.mk_append_mk, List.nil_append, List.append_nil, List.cons_append]
    exact Delta.Part.good (.declare {} ⟨rfl, rfl, rfl, rfl, rfl, rfl⟩ .empty
      (by simp [Delta.ids, window]) (by simp) (by simp [appendOps]) (by simp [appendOps])
      (by simp [appendOps]) gc (by simp) ec.le)
  · simp [appendOps]

theorem ingestDeferBlock_into (u : Nat) (deferBlock : DeferredBlock)
    {ingestChildren : IngestChildren}
    {placeholder loading error : Option (DeferredBlockSecondary × IngestChildren)}
    (hc : ∀ v, IngestsInto v (ingestChildren v))
    (hp : ∀ s ∈ placeholder, ∀ v, IngestsInto v (s.2 v))
    (hl : ∀ s ∈ loading, ∀ v, IngestsInto v (s.2 v))
    (he : ∀ s ∈ error, ∀ v, IngestsInto v (s.2 v)) :
    IngestsInto u (ingestDeferBlock imports u deferBlock ingestChildren placeholder loading error) := by
  intro J J' hJ hu h
  simp only [ingestDeferBlock, bind_eq_ok_iff, CompilationJob.allocateXrefId] at h
  obtain ⟨_, -, ⟨main, J₁⟩, h₁, ⟨loadingOp, J₂⟩, h₂, ⟨placeholderOp, J₃⟩, h₃, ⟨errorOp, J₄⟩, h₄,
    ⟨⟨ons, whens⟩, J₅⟩, h₅, ⟨⟨ons', whens'⟩, J₆⟩, h₆, h⟩ := h
  cases h
  have secondary (b : Option (DeferredBlockSecondary × IngestChildren))
      (hb : ∀ s ∈ b, ∀ v, IngestsInto v (s.2 v)) :
      ∀ c ∈ b.map (fun x => (x.2, x.1.sourceSpan)), ∀ v, IngestsInto v (c.1 v) := by
    intro c hc
    obtain ⟨s, hs, rfl⟩ := Option.mem_map.mp hc
    exact hb s hs
  obtain ⟨δ₁, e₁, g₁, hm, vm⟩ := ingestDeferView_spec (by rintro _ ⟨⟩; exact hc) hJ hu h₁
  obtain ⟨δ₂, e₂, g₂, -, -⟩ := ingestDeferView_spec (secondary _ hl) (e₁.wf hJ)
    (by have := e₁.le; omega) h₂
  have e₁₂ := e₁.trans hu e₂
  obtain ⟨δ₃, e₃, g₃, -, vp⟩ := ingestDeferView_spec (secondary _ hp) (e₁₂.wf hJ)
    (by have := e₁₂.le; omega) h₃
  have e₁₃ := e₁₂.trans hu e₃
  obtain ⟨δ₄, e₄, g₄, -, -⟩ := ingestDeferView_spec (secondary _ he) (e₁₃.wf hJ)
    (by have := e₁₃.le; omega) h₄
  have e₁₄ := e₁₃.trans hu e₄
  dsimp only at h₅ h₆
  obtain ⟨⟨os₁, rfl, hos₁⟩, ws₁, rfl, hws₁, d₅⟩ := ingestDeferTriggers_spec imports h₅
  obtain ⟨⟨os₂, rfl, hos₂⟩, ws₂, rfl, hws₂, d₆⟩ := ingestDeferTriggers_spec imports h₆
  have hu₄ : u < J₄.nextXrefId := by have := e₁₄.le; omega
  dsimp only
  have eD := (((((Extends.allocateXrefId u J₄).trans hu₄ (.pushCreate _ u _)).trans hu₄
    (.drew u d₅)).trans hu₄ (.drew u d₆)).trans hu₄ (.pushCreate J₆ u (ons ++ os₂))).trans hu₄
    (.pushUpdate _ u (whens ++ ws₂))
  simp only [Delta.mk_append_mk, List.nil_append, List.append_nil, List.singleton_append] at eD
  have n₆ := (d₅.trans d₆).next_eq
  simp only [CompilationJob.pushCreate_nextXrefId] at n₆
  refine ⟨_, e₁₄.trans hu eD, Delta.Good.defer (((g₁.append g₂ e₁.le e₂.le).append g₃
    e₁₂.le e₃.le).append g₄ e₁₃.le e₄.le) rfl ?_ ?_ ?_ ?_ e₁₄.le (by simp; omega)⟩
  · obtain ⟨T, rfl⟩ := Option.isSome_iff_exists.mp (by simpa using hm)
    intro y hy
    simp only [Option.map_some', Option.getD_some, List.mem_cons, Option.mem_toList,
      Option.mem_def, Option.map_eq_some'] at hy
    rcases hy with rfl | ⟨op, hop, rfl⟩
    · obtain ⟨w, hw, h⟩ := vm T rfl
      exact ⟨w, by simp [hw], h⟩
    · obtain ⟨w, hw, h⟩ := vp op hop
      exact ⟨w, by simp [hw], h⟩
  · exact fun o ho => (List.mem_append.mp ho).elim (hos₁ o) (hos₂ o)
  · exact fun o ho => (List.mem_append.mp ho).elim (hws₁ o) (hws₂ o)
  · simpa using (d₅.trans d₆).eq_window

/-! ## `@for` -/

/-- **What `ingestForBlock` adds to `u`**, and the repeater view among the new units: its
context variables, set in the source's order, and its four aliases, which read the view's
own suffixed `$index` and `$count` names. -/
theorem ingestForBlock_spec {u : Nat} {forBlock : ForLoopBlock} {children : List Node}
    {ingestChildren : IngestChildren}
    {empty : Option (ForLoopBlockEmpty × List Node × IngestChildren)}
    (hc : ∀ v, IngestsInto v (ingestChildren v))
    (he : ∀ e ∈ empty, ∀ v, IngestsInto v (e.2.2 v)) {J J' : CompilationJob} (hJ : J.WF)
    (hu : u < J.nextXrefId)
    (h : ingestForBlock imports u forBlock children ingestChildren empty J = .ok J') :
    ∃ δ : Delta, Extends u J J' δ ∧ δ.Good u J.nextXrefId J'.nextXrefId ∧
      ∃ w ∈ δ.added, w.xref = J.nextXrefId ∧ w.parent = some u ∧
        w.contextVariables =
          mapSet (mapSet (mapSet (mapSet (mapSet [] forBlock.item.name forBlock.item.value)
            forBlock.contextVariables.«$index».name forBlock.contextVariables.«$index».value)
            forBlock.contextVariables.«$count».name forBlock.contextVariables.«$count».value)
            (forLoopVarName forBlock.contextVariables.«$index».name J.nextXrefId)
            forBlock.contextVariables.«$index».value)
            (forLoopVarName forBlock.contextVariables.«$count».name J.nextXrefId)
            forBlock.contextVariables.«$count».value ∧
        w.aliases =
          let index := Expression.lexicalRead
            (forLoopVarName forBlock.contextVariables.«$index».name J.nextXrefId)
          let count := Expression.lexicalRead
            (forLoopVarName forBlock.contextVariables.«$count».name J.nextXrefId)
          let lit (n : Int) := Expression.literal (.number n) none
          [⟨forBlock.contextVariables.«$first».name, .binaryOperator .identical index (lit 0) none⟩,
           ⟨forBlock.contextVariables.«$last».name, .binaryOperator .identical index
             (.binaryOperator .minus count (lit 1) none) none⟩,
           ⟨forBlock.contextVariables.«$even».name, .binaryOperator .identical
             (.binaryOperator .modulo index (lit 2) none) (lit 0) none⟩,
           ⟨forBlock.contextVariables.«$odd».name, .binaryOperator .notIdentical
             (.binaryOperator .modulo index (lit 2) none) (lit 0) none⟩] := by
  simp only [ingestForBlock, bind_eq_ok_iff, CompilationJob.allocateView] at h
  obtain ⟨⟨track, J₁⟩, h₁, J₂, h₂, ⟨emptyView, emptyTag, J₃⟩, h₃, -, -, -, -, ⟨tag, J₄⟩, h₄,
    ⟨expression, J₅⟩, h₅, h⟩ := h
  cases h
  have e₀ : Extends u J _ ⟨[], [], [] ++ ViewCompilationUnit.new J.nextXrefId (some u) :: []⟩ :=
    Extends.allocateView u J u
  dsimp only at h₂ h₃ h₄
  have d₁ : Drew _ J₁ track.pipeIds := convertAst_drew imports _ h₁
  -- The context variables and aliases of the repeater view, then the track's pipes.
  have e₁ : Extends u J J₁ ⟨[], [], [] ++ _ :: []⟩ :=
    ((((((((((e₀.setContextVariable hJ _ _).setContextVariable hJ _ _).setContextVariable hJ _ _
      ).setContextVariable hJ _ _).setContextVariable hJ _ _).addAlias hJ _).addAlias hJ _
      ).addAlias hJ _).addAlias hJ _).trans hu (.drew u d₁))
  have n₁ : J₁.nextXrefId = J.nextXrefId + 1 + track.pipeIds.length := by
    rw [d₁.next_eq]; simp
  obtain ⟨δc, ec, gc⟩ := hc _ J₁ J₂ (e₁.wf hJ) (by omega) h₂
  have e₂ := e₁.child hJ ec
  simp only [List.nil_append, List.singleton_append] at e₂
  have hJ₂ := e₂.wf hJ
  have hu₂ : u < J₂.nextXrefId := by have := e₂.le; omega
  -- The `@empty` view, if any, with the bindings of its insertion point.
  obtain ⟨L, bs, e₃, vs, hbs⟩ : ∃ L bs, Extends u J₂ J₃ ⟨[], bs, L⟩ ∧
      Delta.Views u emptyView.toList (window J₂.nextXrefId J₃.nextXrefId) L ∧
      ∀ op ∈ bs, op.views = [] ∧ op.introduced = [] ∧ ∀ t ∈ op.targets, t ∈ emptyView.toList := by
    rcases empty with _ | ⟨blk, emptyChildren, ingestEmpty⟩
    · cases h₃
      exact ⟨[], [], .refl u J₂, by simpa [window] using Delta.Views.nil u, fun _ h => nomatch h⟩
    simp only [bind_eq_ok_iff] at h₃
    obtain ⟨Je, hJe, ⟨tagE, J₃'⟩, hins, h₃⟩ := h₃
    cases h₃
    have eA : Extends u J₂ _ ⟨[], [], [] ++ ViewCompilationUnit.new J₂.nextXrefId (some u) :: []⟩ :=
      Extends.allocateView u J₂ u
    obtain ⟨δe, ee, ge⟩ := he _ rfl J₂.nextXrefId _ Je (eA.wf hJ₂) (by simp) hJe
    obtain ⟨bs, eb, nb, hbs⟩ := ingestControlFlowInsertionPoint_spec imports hins
    refine ⟨_, bs, ((eA.child hJ₂ ee).trans hu₂ eb).congr (Delta.ext rfl (by simp) (by simp)),
      ?_, fun op hop => ⟨(hbs op hop).1.1, (hbs op hop).2, fun t ht => by
        simp [(hbs op hop).1.2 t ht]⟩⟩
    rw [nb, window_cons (by have := ee.le; simp at this; omega)]
    exact .view (by simp) (by simp [appendOps]) (by simpa [appendOps] using ge) (by simp)
  obtain ⟨bsR, eR, nR, hbsR⟩ := ingestControlFlowInsertionPoint_spec imports h₄
  have d₅ : Drew _ J₅ expression.pipeIds := convertAst_drew imports _ h₅
  dsimp only
  have e := ((((e₂.trans hu e₃).trans hu eR).trans hu (.pushCreate J₄ u _)).trans hu
    (.drew u d₅)).trans hu
    (.pushUpdate J₅ u [.repeater J.nextXrefId (.ofOp J.nextXrefId) expression forBlock.sourceSpan])
  simp only [Delta.mk_append_mk, List.nil_append, List.append_nil, List.cons_append,
    List.append_assoc] at e
  refine ⟨_, e, Delta.Views.close ((Delta.Views.view (x := J.nextXrefId) (by simp) (by simp)
    (by simpa [appendOps] using gc) (by omega)).append vs)
    ⟨rfl, rfl, rfl, rfl, rfl⟩ ?_ ?_, _, List.mem_cons_self _ _, by simp, by simp, by simp,
    by simp⟩
  · intro op hop
    simp only [List.mem_append, List.mem_singleton] at hop
    rcases hop with hop | hop | rfl
    · exact ⟨(hbs op hop).1, fun t ht => List.mem_append_right _ ((hbs op hop).2.2 t ht)⟩
    · exact ⟨(hbsR op hop).1.1, fun t ht => by simp [(hbsR op hop).1.2 t ht]⟩
    · exact ⟨rfl, by simp [UpdateOp.targets]⟩
  · have w₁ := d₁.eq_window
    have w₅ := d₅.eq_window
    simp only [CompilationJob.setContextVariable_nextXrefId, CompilationJob.addAlias_nextXrefId,
      CompilationJob.pushCreate_nextXrefId, nR] at w₁ w₅
    have hb : (bs ++ (bsR ++ [UpdateOp.repeater J.nextXrefId (.ofOp J.nextXrefId) expression
        forBlock.sourceSpan])).flatMap UpdateOp.introduced = expression.pipeIds := by
      rw [List.flatMap_append, List.flatMap_append,
        List.flatMap_eq_nil_iff.mpr fun o ho => (hbs o ho).2.1,
        List.flatMap_eq_nil_iff.mpr fun o ho => (hbsR o ho).2]
      simp only [List.nil_append, List.flatMap_cons, List.flatMap_nil, List.append_nil]
      rfl
    have l₂ := ec.le
    have l₃ := e₃.le
    have l₅ : J₃.nextXrefId ≤ J₅.nextXrefId := by
      rw [d₅.next_eq, CompilationJob.pushCreate_nextXrefId, nR]; omega
    rw [hb, CreateOp.introduced, w₁, w₅, CompilationJob.pushUpdate_nextXrefId,
      window_cons (by omega : J.nextXrefId < J₅.nextXrefId),
      ← window_add (by omega : J.nextXrefId + 1 ≤ J₁.nextXrefId) (l₂.trans (l₃.trans l₅)),
      ← window_add l₂ (l₃.trans l₅), ← window_add l₃ l₅]
    simp only [Multiset.cons_add]
    ac_rfl

theorem ingestForBlock_into (u : Nat) (forBlock : ForLoopBlock) (children : List Node)
    {ingestChildren : IngestChildren}
    {empty : Option (ForLoopBlockEmpty × List Node × IngestChildren)}
    (hc : ∀ v, IngestsInto v (ingestChildren v))
    (he : ∀ e ∈ empty, ∀ v, IngestsInto v (e.2.2 v)) :
    IngestsInto u (ingestForBlock imports u forBlock children ingestChildren empty) :=
  fun _ _ hJ hu h =>
    let ⟨δ, e, g, _⟩ := ingestForBlock_spec imports hc he hJ hu h
    ⟨δ, e, g⟩

end

end Angular.Compiler
