import Angular.Compiler.IngestSound.Bindings

/-!
# Angular.Compiler.IngestSound.Nodes

**Elements, templates and leaves ingest into their unit.** For each node kind that is not a
control-flow block, the ingest function is `IngestsInto` its unit, given that the closure it
receives for the node's children is: it only appends to the unit and adds new units, and
what it adds is `Good`.

The proofs follow one pattern: peel the `do` block, chain the `Extends` of each step
(`Extends.trans`, `Extends.child` for the call into a new view), bring the delta into the
shape the lemmas of `WellFormed` read (`Extends.congr`), and assemble `Good` from the
pieces: a leaf op (`Good.leaf`), a bracket pair (`Good.wrap`), the bindings
(`OnlyTargets`), and a declared child view (`Wf.child`).
-/

namespace Angular.Compiler

/-- **A leaf.** One create op that introduces and defines `x`, and update ops that address
`x` and draw the xrefs after it. -/
theorem Delta.Good.leaf {u x hi : Nat} (op : CreateOp) (d : List UpdateOp)
    (hop : op.targets = [] ∧ op.defines = [x] ∧ op.bracket = none ∧ op.views = [] ∧
      op.introduced = [x])
    (hd : ∀ o ∈ d, o.On x) (hids : (↑(d.flatMap UpdateOp.introduced) : Multiset Nat) =
      window (x + 1) hi) (hx : x < hi) :
    ({ create := [op], update := d } : Delta).Good u x hi where
  wf := .ops ⟨by simp [hop.1], trivial⟩
    (fun o ho t ht => .inr (by simp [hop.2.1, (hd o ho).2 t ht]))
    (by simp [brackets, hop.2.2.1]; exact .nil)
    (fun t ht => by
      simp only [List.flatMap_cons, List.flatMap_nil, hop.2.2.2.1, List.nil_append,
        List.append_nil, List.mem_flatMap] at ht
      obtain ⟨o, ho, ht⟩ := ht
      simp [(hd o ho).1] at ht)
  ids := by
    rw [← window_add (Nat.le_succ x) hx, window_succ, ← hids]
    simp [Delta.ids, hop.2.2.2.2]
  declared := by simp [Delta.declared, Delta.units, CreateOp.declares_eq_nil hop.2.2.2.1]

section

variable (imports : Imports)

/-! ## Leaves -/

theorem ingestText_into (u : Nat) (text : Text) (icuPlaceholder : Option String) :
    IngestsInto u fun J => .ok (ingestText u text icuPlaceholder J) := by
  intro J J' _ hu h
  cases h
  refine ⟨_, ((Extends.allocateXrefId u J).trans hu (.pushCreate _ u _)).congr
    (Delta.ext ?_ ?_ ?_), .leaf (.text J.nextXrefId text.value icuPlaceholder text.sourceSpan) []
      ⟨rfl, rfl, rfl, rfl, rfl⟩ (by simp) (by simp [ingestText]) (by simp [ingestText])⟩ <;> rfl

theorem staticAttributeBinding_spec {tag : String} {x : Nat} {attr : TextAttribute}
    {op : UpdateOp} (h : staticAttributeBinding imports tag x attr = .ok op) :
    op.On x ∧ op.introduced = [] := by
  simp only [staticAttributeBinding, bind_eq_ok_iff] at h
  obtain ⟨_, -, h⟩ := h
  cases h
  simp [UpdateOp.On, UpdateOp.views, UpdateOp.targets, UpdateOp.introduced,
    BindingExpression.pipeIds, Expression.pipeIds]

theorem ingestContent_into (u : Nat) (content : Content) :
    IngestsInto u (ingestContent imports u content) := by
  intro J J' _ hu h
  simp only [ingestContent, bind_eq_ok_iff, CompilationJob.allocateXrefId] at h
  obtain ⟨_, -, bs, hbs, h⟩ := h
  cases h
  have hb := mapM_spec _ (fun _ _ h => staticAttributeBinding_spec imports h) _ hbs
  refine ⟨_, (((Extends.allocateXrefId u J).trans hu (.pushUpdate _ u _)).trans hu
    (.pushCreate _ u _)).congr (Delta.ext ?_ ?_ ?_),
    .leaf (.projection J.nextXrefId content.selector content.i18n content.sourceSpan) bs
      ⟨rfl, rfl, rfl, rfl, rfl⟩ (fun o ho => (hb o ho).1) ?_ (by simp)⟩ <;> simp
  exact fun o ho => (hb o ho).2

theorem ingestBoundText_into (u : Nat) (text : BoundText) (icuPlaceholder : Option String) :
    IngestsInto u (ingestBoundText imports u text icuPlaceholder) := by
  intro J J' _ hu h
  simp only [ingestBoundText, bind_eq_ok_iff] at h
  obtain ⟨⟨strings, expressions⟩, -, placeholders, -, h⟩ := h
  split at h
  · obtain ⟨_, h, -⟩ := bind_eq_ok_iff.mp h
    cases h
  simp only [bind_eq_ok_iff, pure_bind, CompilationJob.allocateXrefId] at h
  obtain ⟨⟨xs, J₁⟩, h₁, _, hi, h⟩ := h
  obtain ⟨hc, rfl⟩ := Interpolation.eq_of_new hi
  cases h
  have d := convertAstList_drew imports _ h₁
  refine ⟨_, ((((Extends.allocateXrefId u J).trans hu (.pushCreate _ u _)).trans hu
    (.drew u d)).trans hu (.pushUpdate _ u _)).congr (Delta.ext ?_ ?_ ?_),
    .leaf (.text J.nextXrefId "" icuPlaceholder text.sourceSpan)
      [.interpolateText J.nextXrefId ⟨strings, xs, placeholders, hc⟩ text.sourceSpan]
      ⟨rfl, rfl, rfl, rfl, rfl⟩ (by simp [UpdateOp.On, UpdateOp.views, UpdateOp.targets]) ?_
      ?_⟩ <;> simp
  · simpa [UpdateOp.introduced] using d.eq_window
  · have := d.next_eq; simp at this; omega

/-! ## Declared views -/

/-- **A declared child view.** An op `T` that declares the new view `x`, bindings that only
address `x`, and the view itself with what its own call added; the xrefs `p` drawn between
the view and its children are left for a later op. -/
theorem Delta.Part.declare {u x mid hi : Nat} {p : Multiset Nat} {T : CreateOp}
    {c : List CreateOp} {d : List UpdateOp} {as : List ViewCompilationUnit}
    {v : ViewCompilationUnit} (δb : Delta)
    (hT : T.targets = [] ∧ T.bracket = none ∧ T.defines = [x] ∧ T.views = [x] ∧
      T.declares = [x] ∧ T.introduced = [])
    (hb : δb.OnlyTargets x) (hbi : δb.ids + p = window (x + 1) mid) (hv : v.xref = x)
    (hp : v.parent = some u) (hcr : v.create = c) (hup : v.update = d)
    (hc : (⟨c, d, as⟩ : Delta).Good x mid hi) (hmid : x < mid) (hhi : mid ≤ hi) :
    ({ create := T :: δb.create, update := δb.update, added := v :: as } : Delta).Part
      u x hi p where
  wf := by
    have child : ({ added := v :: as } : Delta).Wf u [] [] :=
      .child hp (.of_wf (hv ▸ hc.wf) hcr hup) (hv ▸ hc.wf)
        fun w hw => hv ▸ Nat.lt_of_lt_of_le hmid (hc.xref_mem_window hw).1
    have ops : ({ create := [T] } ++ δb : Delta).Wf u [] (v :: as) := by
      refine Delta.Wf.append (.ops ⟨by simp [hT.1], trivial⟩ (fun _ h => nomatch h)
        (by simp [brackets, hT.2.1]; exact .nil) fun t ht => ?_) (hb.wf (by simp [hT.2.2.1]))
      simp only [List.flatMap_cons, List.flatMap_nil, List.append_nil, hT.2.2.2.1,
        List.mem_singleton] at ht
      exact ⟨v, by simp, hv.trans ht.symm, hp⟩
    have := child.append ops
    rwa [show ({ added := v :: as } ++ ({ create := [T] } ++ δb) : Delta) =
      { create := T :: δb.create, update := δb.update, added := v :: as } from
      Delta.ext (by simp) (by simp) (by simp [hb.added])] at this
  ids := by
    have : ({ create := T :: δb.create, update := δb.update, added := v :: as } :
        Delta).ids = x ::ₘ (δb.ids + Delta.ids ⟨c, d, as⟩) := by
      simp only [Delta.ids, List.flatMap_cons, hT.2.2.2.2.2, List.nil_append, hb.added,
        ViewCompilationUnit.introduced, hv, hcr, hup, List.flatMap_nil, Multiset.coe_nil,
        add_zero, List.cons_append, ← Multiset.cons_coe, ← Multiset.coe_add]
      simp only [Multiset.add_cons, Multiset.cons_add, add_assoc]
    rw [this, Multiset.cons_add, add_right_comm, hbi, hc.ids, window_add hmid hhi,
      window_cons (Nat.lt_of_lt_of_le hmid hhi)]
  declared := by
    have hbd : δb.create.flatMap CreateOp.declares = [] := by
      simpa [Delta.declared, Delta.units, hb.added] using hb.declared
    have hcd : (↑(c.flatMap CreateOp.declares ++
        as.flatMap ViewCompilationUnit.declared) : Multiset Nat) =
        ↑(as.map (·.xref)) := by
      simpa [Delta.declared, Delta.units] using hc.declared
    simp only [Delta.declared, Delta.units, List.flatMap_cons, hT.2.2.2.2.1, hbd, List.map_cons,
      hv, ViewCompilationUnit.declared, hcr, List.singleton_append, List.nil_append,
      List.append_assoc, ← Multiset.coe_add]
    rw [Multiset.coe_add, hcd, Multiset.coe_add]
    rfl

/-! ## Elements -/

/-- The part of `ingestElement` after the bindings: the element's start, bindings and
children (with its i18n block), and its end. -/
theorem Delta.Good.element {u x mid hi : Nat} {startOp : ElementStartOp} (span : ParseSourceSpan)
    {δb δi : Delta} (hx : startOp.xref = x) (hb : δb.OnlyTargets x)
    (hbi : δb.ids = window (x + 1) mid) (hδi : δi.Good u mid hi) (hmid : x + 1 ≤ mid)
    (hhi : mid ≤ hi) :
    ({ create := .elementStart startOp :: (δb ++ δi).create ++ [.elementEnd x span],
       update := (δb ++ δi).update, added := (δb ++ δi).added } : Delta).Good u x hi := by
  subst hx
  refine .wrap rfl rfl ⟨rfl, rfl, rfl, rfl⟩ ⟨rfl, rfl, rfl⟩
    ((hb.wf (List.mem_singleton_self _)).append (hδi.wf.mono (by simp) (by simp))) ?_ ?_
    (by omega)
  · rw [Delta.ids_append, hbi, hδi.ids, window_add hmid hhi]
  · rw [Delta.declared_append, Delta.units_append, hb.declared, hδi.declared]

/-- **What `ingestElement` adds to `u`**: the start op, the bindings `δb` (which only address
the element), what `δi` the children add, and the end op; with an i18n message, `δi` is the
children's work inside the element's i18n block. -/
theorem ingestElement_spec {u : Nat} {element : Element} {ingestChildren : IngestChildren}
    (hc : ∀ v, IngestsInto v (ingestChildren v)) {J J' : CompilationJob} (hJ : J.WF)
    (hu : u < J.nextXrefId) (h : ingestElement imports u element ingestChildren J = .ok J') :
    ∃ (s : ElementStartOp) (δb δi : Delta) (mid : Nat),
      Extends u J J'
        { create := .elementStart s :: (δb ++ δi).create ++
            [.elementEnd s.xref (element.endSourceSpan.getD element.startSourceSpan)],
          update := (δb ++ δi).update, added := (δb ++ δi).added } ∧
      s.xref = J.nextXrefId ∧ δb.OnlyTargets s.xref ∧ δb.ids = window (s.xref + 1) mid ∧
      δi.Good u mid J'.nextXrefId ∧ s.xref + 1 ≤ mid ∧ mid ≤ J'.nextXrefId ∧
      ∀ m, element.i18n = some (.message m) → ∃ δc : Delta, δc.Good u (mid + 1) J'.nextXrefId ∧
        δi = { create := .i18nStart mid m element.startSourceSpan :: δc.create ++
                  [.i18nEnd mid (element.endSourceSpan.getD element.startSourceSpan)],
               update := δc.update, added := δc.added } := by
  simp only [ingestElement, bind_eq_ok_iff, CompilationJob.allocateXrefId] at h
  obtain ⟨_, -, J₃, h₃, J₅, h₅, h⟩ := h
  obtain ⟨δb, eb, hb, ib⟩ := ingestElementBindings_spec imports
    (by simp [CompilationJob.pushCreate, CompilationJob.modifyView]; omega) h₃
  obtain ⟨s, e₃, hs⟩ : ∃ s : ElementStartOp, Extends u J J₃ ({} ++ { create := [.elementStart s] } ++ δb) ∧ s.xref = J.nextXrefId :=
    ⟨_, ((Extends.allocateXrefId u J).trans hu (.pushCreate _ u _)).trans hu eb, rfl⟩
  have hu₃ : u < J₃.nextXrefId := by have := e₃.le; omega
  have hx₃ : J.nextXrefId + 1 ≤ J₃.nextXrefId := eb.le
  rcases hm : element.i18n with _ | (m | n)
  case some.message =>
    simp only [hm, CompilationJob.allocateXrefId] at h₅ h
    cases h
    have e₄ := (e₃.trans hu (.allocateXrefId u J₃)).trans hu
      (.pushCreate _ u [.i18nStart J₃.nextXrefId m element.startSourceSpan])
    obtain ⟨δc, ec, gc⟩ := hc u _ J₅ (e₄.wf hJ) (by have := e₄.le; omega) h₅
    have e₅ := e₄.trans hu ec
    rw [CompilationJob.insertCreate_pushCreate (e₅.wf hJ).nodup]
    have n₅ : J₃.nextXrefId + 1 ≤ J₅.nextXrefId := ec.le
    have gi : ({ create := .i18nStart J₃.nextXrefId m element.startSourceSpan :: δc.create ++
                  [.i18nEnd J₃.nextXrefId (element.endSourceSpan.getD element.startSourceSpan)],
                 update := δc.update, added := δc.added } : Delta).Good u J₃.nextXrefId
                 J₅.nextXrefId :=
      .wrap rfl rfl ⟨rfl, rfl, rfl, rfl⟩ ⟨rfl, rfl, rfl⟩ (gc.wf.mono (by simp) (by simp)) gc.ids
        gc.declared (by omega)
    refine ⟨s, δb, _, J₃.nextXrefId, ?_, hs, hs ▸ hb, hs ▸ ib, by simpa using gi, hs ▸ hx₃,
      by simp; omega, fun m' hm' => ⟨δc, by simpa using gc, by cases hm'; rfl⟩⟩
    refine (e₅.trans hu (.pushCreate J₅ u _)).congr (Delta.ext ?_ ?_ ?_) <;> simp [hs]
  -- Without an i18n message the children follow the bindings.
  all_goals
    simp only [hm] at h₅ h
    cases h
    obtain ⟨δc, ec, gc⟩ := hc u J₃ J₅ (e₃.wf hJ) hu₃ h₅
    refine ⟨s, δb, δc, _, ?_, hs, hs ▸ hb, hs ▸ ib, gc, hs ▸ hx₃, ec.le, fun m h => by cases h⟩
    refine ((e₃.trans hu ec).trans hu (.pushCreate J₅ u _)).congr (Delta.ext ?_ ?_ ?_) <;>
      simp [hs]

theorem ingestElement_into (u : Nat) (element : Element) {ingestChildren : IngestChildren}
    (hc : ∀ v, IngestsInto v (ingestChildren v)) :
    IngestsInto u (ingestElement imports u element ingestChildren) := by
  intro J J' hJ hu h
  obtain ⟨s, δb, δi, mid, e, hs, hb, ib, gi, h₁, h₂, -⟩ := ingestElement_spec imports hc hJ hu h
  exact ⟨_, e, hs ▸ .element _ rfl hb ib gi h₁ h₂⟩

/-! ## Templates -/

/-- **What `ingestTemplate` adds to `u`**: the template op, which declares the new view `v`,
bindings `δb` that only address `v`, and `v` with what its children added; for a plain
template with an i18n message, an i18n block encloses `v`'s whole create list. -/
theorem ingestTemplate_spec {u : Nat} {tmpl : Template} {ingestChildren : IngestChildren}
    (hc : ∀ v, IngestsInto v (ingestChildren v)) {J J' : CompilationJob} (hJ : J.WF)
    (hu : u < J.nextXrefId) (h : ingestTemplate imports u tmpl ingestChildren J = .ok J') :
    ∃ (k : TemplateKind) (δb : Delta) (v : ViewCompilationUnit) (as : List ViewCompilationUnit)
      (mid : Nat),
      Extends u J J'
        { create := .template (templateOpOf imports tmpl J.nextXrefId k) :: δb.create,
          update := δb.update, added := v :: as } ∧
      δb.OnlyTargets J.nextXrefId ∧ δb.ids = window (J.nextXrefId + 1) mid ∧
      v.xref = J.nextXrefId ∧ v.parent = some u ∧
      (⟨v.create, v.update, as⟩ : Delta).Good J.nextXrefId mid J'.nextXrefId ∧
      J.nextXrefId < mid ∧ mid ≤ J'.nextXrefId ∧
      ∀ m, isPlainTemplate imports tmpl = true → tmpl.i18n = some (.message m) →
        ∃ (y : Nat) (cs : List CreateOp), Balanced (brackets cs) ∧
          v.create = .i18nStart y m tmpl.startSourceSpan :: cs ++
            [.i18nEnd y (tmpl.endSourceSpan.getD tmpl.startSourceSpan)] := by
  simp only [ingestTemplate, bind_eq_ok_iff, CompilationJob.allocateView] at h
  obtain ⟨_, -, J₃, h₃, J₄, h₄, h⟩ := h
  generalize hk : (if isPlainTemplate imports tmpl then TemplateKind.ngTemplate
    else .structural) = k at h₃ h
  have e₂ := (Extends.allocateView u J u).trans hu
    (.pushCreate _ u [.template (templateOpOf imports tmpl J.nextXrefId k)])
  obtain ⟨δb, eb, hb, ib⟩ := ingestTemplateBindings_spec imports
    (by simp [CompilationJob.pushCreate, CompilationJob.modifyView]; omega) h₃
  have e₃ : Extends u J J₃ ⟨.template (templateOpOf imports tmpl J.nextXrefId k) :: δb.create,
      δb.update, [] ++ ViewCompilationUnit.new J.nextXrefId (some u) :: []⟩ :=
    (e₂.trans hu eb).congr (Delta.ext (by simp) (by simp) (by simp [hb.added]))
  have hx₃ : J.nextXrefId + 1 ≤ J₃.nextXrefId := eb.le
  obtain ⟨δc, ec, gc⟩ := hc _ J₃ J₄ (e₃.wf hJ) hx₃ h₄
  have e₄ : Extends u J J₄ ⟨.template (templateOpOf imports tmpl J.nextXrefId k) :: δb.create,
      δb.update, [] ++ { ViewCompilationUnit.new J.nextXrefId (some u) with
        create := δc.create, update := δc.update } :: δc.added⟩ :=
    (e₃.child hJ ec).congr (Delta.ext rfl rfl (by simp))
  have e₅ := Extends.foldl_modify hJ (x := J.nextXrefId)
    (g := fun (var : Reference) w =>
      { w with
        contextVariables := mapSet w.contextVariables var.name
          (if var.value != "" then var.value else "$implicit") })
    (fun _ _ => rfl) tmpl.variables rfl e₄
  obtain ⟨ctx, hctx⟩ := ViewCompilationUnit.foldl_contextVariables _ tmpl.variables
    { ViewCompilationUnit.new J.nextXrefId (some u) with create := δc.create, update := δc.update }
  rw [hctx] at e₅
  have hn₄ := ec.le
  split at h
  · -- A plain template with an i18n message: the block encloses the child view's list.
    next m hm =>
    cases h
    simp only [CompilationJob.allocateXrefId_fst, CompilationJob.foldl_setContextVariable_nextXrefId,
      CompilationJob.insertCreate_nextXrefId, CompilationJob.allocateXrefId_snd_nextXrefId]
    have e₆ := (e₅.trans hu (.allocateXrefId u _)).congr (Delta.ext (List.append_nil _)
      (List.append_nil _) (List.append_nil _))
    exact ⟨_, δb, _, _, J₃.nextXrefId, e₆.wrapCreate hJ (x := J.nextXrefId) rfl _ _, hb,
      by simpa using ib, rfl, rfl,
      gc.wrapLast rfl rfl ⟨rfl, rfl, rfl, rfl⟩ ⟨rfl, rfl, rfl⟩ hn₄, by omega, by omega,
      fun m' _ hm' => ⟨_, δc.create, gc.wf.balanced, by rw [hm] at hm'; cases hm'; rfl⟩⟩
  · next hne =>
    cases h
    simp only [CompilationJob.foldl_setContextVariable_nextXrefId]
    refine ⟨_, δb, _, _, J₃.nextXrefId, e₅, hb, by simpa using ib, rfl, rfl, gc, by omega,
      by simpa using hn₄, fun m' hp hm' => (hne m' ?_ hm').elim⟩
    simpa [hp] using hk.symm

theorem ingestTemplate_into (u : Nat) (tmpl : Template) {ingestChildren : IngestChildren}
    (hc : ∀ v, IngestsInto v (ingestChildren v)) :
    IngestsInto u (ingestTemplate imports u tmpl ingestChildren) := by
  intro J J' hJ hu h
  obtain ⟨k, δb, v, as, mid, e, hb, ib, hv, hp, g, h₁, h₂, -⟩ :=
    ingestTemplate_spec imports hc hJ hu h
  exact ⟨_, e, Delta.Part.good <| .declare _ ⟨rfl, rfl, rfl, rfl, rfl, rfl⟩ hb (by simpa using ib)
    hv hp rfl rfl g h₁ h₂⟩

/-! ## ICUs -/

/-- A fold of steps that ingest into `u` ingests into `u`. -/
theorem IngestsInto.foldlM {α : Type} {u : Nat} {f : CompilationJob → α → Except String CompilationJob}
    (hf : ∀ a, IngestsInto u fun J => f J a) :
    ∀ as : List α, IngestsInto u fun J => as.foldlM f J
  | [] => .pure u
  | a :: as => by
    simpa only [List.foldlM_cons] using (hf a).bind (IngestsInto.foldlM hf as)

theorem ingestIcu_into (u : Nat) (icu : Icu) : IngestsInto u (ingestIcu imports u icu) := by
  intro J J' hJ hu h
  unfold ingestIcu at h
  split at h
  next m _ =>
    split_ifs at h
    · simp only [bind_eq_ok_iff, CompilationJob.allocateXrefId] at h
      obtain ⟨J₁, h₁, h⟩ := h
      cases h
      have e₀ := (Extends.allocateXrefId u J).trans hu (.pushCreate _ u [.icuStart J.nextXrefId m])
      have ⟨δe, ee, ge⟩ :=
        IngestsInto.foldlM (u := u) ?placeholder _ _ J₁ (e₀.wf hJ) (by simp; omega) h₁
      case placeholder =>
        rintro ⟨p, t | t⟩
        · exact ingestText_into u t (some p)
        · exact ingestBoundText_into imports u t (some p)
      refine ⟨{ create := .icuStart J.nextXrefId m :: δe.create ++ [.icuEnd J.nextXrefId],
                update := δe.update, added := δe.added },
        ((e₀.trans hu ee).trans hu (.pushCreate J₁ u _)).congr (Delta.ext ?_ ?_ ?_),
        .wrap rfl rfl ⟨rfl, rfl, rfl, rfl⟩ ⟨rfl, rfl, rfl⟩ (ge.wf.mono (by simp) (by simp)) ge.ids
          ge.declared (by have := ee.le; simp at this ⊢; omega)⟩ <;> simp
  · cases h

end

end Angular.Compiler
