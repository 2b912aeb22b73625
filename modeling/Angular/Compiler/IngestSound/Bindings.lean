import Angular.Compiler.IngestSound.Convert
import Angular.Compiler.WellFormed

/-!
# Angular.Compiler.IngestSound.Bindings

**The bindings of an element or a template.** `ingestElementBindings` and
`ingestTemplateBindings` append to their unit only ops that address the node's own xref:
extracted attributes, listeners and the i18n attributes op in the create list, bindings in
the update list. None of them is a bracket or refers to a view (`Delta.OnlyTargets`), and the
xrefs they draw are those of the pipes in their expressions and of the i18n attributes op.
The same holds of the static attribute bindings of `ingestContent` and of an insertion point.
-/

namespace Angular.Compiler

/-! ## Ops that only address one xref -/

/-- A create op that addresses only `x`, and is no bracket and no view. -/
def CreateOp.On (x : Nat) (op : CreateOp) : Prop :=
  op.bracket = none ∧ op.views = [] ∧ ∀ t ∈ op.targets, t = x

/-- An update op that addresses only `x`, and refers to no view. -/
def UpdateOp.On (x : Nat) (op : UpdateOp) : Prop :=
  op.views = [] ∧ ∀ t ∈ op.targets, t = x

/-- What a call adds is only ops that address `x`. -/
structure Delta.OnlyTargets (x : Nat) (δ : Delta) : Prop where
  added : δ.added = []
  create : ∀ op ∈ δ.create, op.On x
  update : ∀ op ∈ δ.update, op.On x

namespace Delta.OnlyTargets

variable {x : Nat} {δ δ₁ δ₂ : Delta}

theorem append (h₁ : δ₁.OnlyTargets x) (h₂ : δ₂.OnlyTargets x) : (δ₁ ++ δ₂).OnlyTargets x where
  added := by simp [h₁.added, h₂.added]
  create op hop := by
    rcases List.mem_append.mp hop with hop | hop
    exacts [h₁.create op hop, h₂.create op hop]
  update op hop := by
    rcases List.mem_append.mp hop with hop | hop
    exacts [h₁.update op hop, h₂.update op hop]

theorem ops {c : List CreateOp} {d : List UpdateOp} (hc : ∀ op ∈ c, op.On x)
    (hd : ∀ op ∈ d, op.On x) : ({ create := c, update := d } : Delta).OnlyTargets x :=
  ⟨rfl, hc, hd⟩

theorem empty : ({} : Delta).OnlyTargets x :=
  ⟨rfl, (fun _ h => nomatch h), fun _ h => nomatch h⟩

theorem ofCreate {c : List CreateOp} (hc : ∀ op ∈ c, op.On x) :
    ({ create := c } : Delta).OnlyTargets x :=
  ⟨rfl, hc, fun _ h => nomatch h⟩

theorem ofUpdate {d : List UpdateOp} (hd : ∀ op ∈ d, op.On x) :
    ({ update := d } : Delta).OnlyTargets x :=
  ⟨rfl, (fun _ h => nomatch h), hd⟩

/-- Ops that only address a defined `x` are well formed. -/
theorem wf (h : δ.OnlyTargets x) {u : Nat} {defs : List Nat} {kids : List ViewCompilationUnit}
    (hx : x ∈ defs) : δ.Wf u defs kids where
  refs := by
    have : ∀ (c : List CreateOp) (d : List Nat), (∀ op ∈ c, op.On x) → x ∈ d → refsBound d c := by
      intro c
      induction c with
      | nil => intros; trivial
      | cons op c ih =>
        intro d hc hd
        refine ⟨fun t ht => (hc op (by simp)).2.2 t ht ▸ hd, ih _ (fun o ho => hc o (by simp [ho]))
          (List.mem_append_left _ hd)⟩
    exact this _ defs h.create hx
  updateRefs op hop t ht := .inl ((h.update op hop).2 t ht ▸ hx)
  balanced := by
    have : brackets δ.create = [] :=
      List.filterMap_eq_nil_iff.mpr fun op hop => (h.create op hop).1
    rw [this]; exact .nil
  views t ht := by
    simp only [List.mem_append, List.mem_flatMap] at ht
    rcases ht with ⟨op, hop, ht⟩ | ⟨op, hop, ht⟩
    · simp [(h.create op hop).2.1] at ht
    · simp [(h.update op hop).1] at ht
  parents v hv := by simp [h.added] at hv
  closed v hv := by simp [h.added] at hv

theorem declared (h : δ.OnlyTargets x) : δ.declared = δ.units := by
  have : δ.create.flatMap CreateOp.declares = [] :=
    List.flatMap_eq_nil_iff.mpr fun op hop => CreateOp.declares_eq_nil (h.create op hop).2.1
  simp [Delta.declared, Delta.units, this, h.added]

theorem brackets (h : δ.OnlyTargets x) : Angular.Compiler.brackets δ.create = [] :=
  List.filterMap_eq_nil_iff.mpr fun op hop => (h.create op hop).1

end Delta.OnlyTargets

/-! ## Binding entries -/

/-- The pipes of a binding entry's expression. -/
def BindingEntry.pipeIds : BindingEntry → List Nat
  | .binding op => op.expression.pipeIds
  | .extractedAttribute op => (op.expression.map Expression.pipeIds).getD []

/-- The xref a binding entry addresses. -/
def BindingEntry.target : BindingEntry → Nat
  | .binding op => op.target
  | .extractedAttribute op => op.target

/-- The pipes of an entry of a `bindings` array. -/
def entryPipeIds (b : Option BindingEntry) : List Nat :=
  (b.map BindingEntry.pipeIds).getD []

/-- The entries of a `bindings` array all address `x`. -/
def EntriesOn (x : Nat) (bs : List (Option BindingEntry)) : Prop :=
  ∀ b ∈ bs, ∀ e ∈ b, e.target = x

theorem bindingOps_extractedOps_onlyTargets {x : Nat} {bs : List (Option BindingEntry)}
    (h : EntriesOn x bs) :
    ({ create := extractedOps bs, update := bindingOps bs } : Delta).OnlyTargets x := by
  refine .ops (fun op hop => ?_) (fun op hop => ?_)
  · obtain ⟨b, hb, hop⟩ := List.mem_filterMap.mp hop
    rcases b with _ | _ | e <;> simp at hop
    subst hop
    simpa [CreateOp.On, CreateOp.bracket, CreateOp.views, CreateOp.targets,
      BindingEntry.target] using h _ hb (.extractedAttribute e) rfl
  · obtain ⟨b, hb, hop⟩ := List.mem_filterMap.mp hop
    rcases b with _ | e | _ <;> simp at hop
    subst hop
    simpa [UpdateOp.On, UpdateOp.views, UpdateOp.targets, BindingEntry.target] using
      h _ hb (.binding e) rfl

theorem bindingOps_extractedOps_ids (bs : List (Option BindingEntry)) :
    (↑((extractedOps bs).flatMap CreateOp.introduced) +
      ↑((bindingOps bs).flatMap UpdateOp.introduced) : Multiset Nat) =
      ↑(bs.flatMap entryPipeIds) := by
  induction bs with
  | nil => rfl
  | cons b bs ih =>
    rcases b with _ | e | e <;>
      simp only [extractedOps, bindingOps, List.filterMap_cons, List.flatMap_cons,
        entryPipeIds, Option.map, Option.getD, CreateOp.introduced, UpdateOp.introduced,
        BindingEntry.pipeIds, List.nil_append, ← Multiset.coe_add] at ih ⊢ <;>
      rw [← ih] <;> ac_rfl

/-! ## The binding functions -/

section

variable (imports : Imports)

/-- The one-entry steps of the `bindings` arrays: each draws the pipes of its entry, which
addresses `x`. -/
def EntryStep {α : Type} (x : Nat)
    (f : α → CompilationJob → Except String (Option BindingEntry × CompilationJob)) : Prop :=
  ∀ a J p, f a J = .ok p → Drew J p.2 (entryPipeIds p.1) ∧ ∀ e ∈ p.1, e.target = x

theorem EntryStep.mapJob {α : Type} {x : Nat}
    {f : α → CompilationJob → Except String (Option BindingEntry × CompilationJob)}
    (hf : EntryStep x f) {xs : List α} {J p} (h : mapJob f xs J = .ok p) :
    Drew J p.2 (p.1.flatMap entryPipeIds) ∧ EntriesOn x p.1 :=
  mapJob_spec entryPipeIds (fun b => ∀ e ∈ b, e.target = x) hf xs h

theorem elementAttributeBinding_step (element : Element) (x : Nat) :
    EntryStep x (elementAttributeBinding imports element x) := by
  intro attr J p h
  simp only [elementAttributeBinding, bind_eq_ok_iff] at h
  obtain ⟨⟨_, _⟩, h₁, _, -, h⟩ := h
  cases h
  exact ⟨(convertAstWithInterpolation_drew imports h₁ :), by simp [BindingEntry.target]⟩

theorem elementInputBinding_step (x : Nat) : EntryStep x (elementInputBinding imports x) := by
  intro input J p h
  simp only [elementInputBinding, bind_eq_ok_iff] at h
  obtain ⟨⟨_, _⟩, h₁, _, -, h⟩ := h
  cases h
  exact ⟨(convertAstWithInterpolation_drew imports h₁ :), by simp [BindingEntry.target]⟩

theorem createTemplateBinding_spec {J : CompilationJob} {x : Nat} {type : BindingType}
    {name : String} {value : BindingValue} {unit : Option String} {sc : SecurityContext}
    {structural : Bool} {kind : TemplateKind} {message : Option Message} {span : ParseSourceSpan}
    {p} (h : createTemplateBinding imports J x type name value unit sc structural kind message span
      = .ok p) :
    Drew J p.2 (entryPipeIds p.1) ∧ ∀ e ∈ p.1, e.target = x := by
  simp only [createTemplateBinding] at h
  split_ifs at h
  · cases h; exact ⟨Drew.nil J, by simp [BindingEntry.target]⟩
  · cases h; exact ⟨Drew.nil J, by simp⟩
  all_goals
    simp only [bind_eq_ok_iff] at h
    obtain ⟨⟨_, _⟩, h₁, h⟩ := h
    cases h
    exact ⟨(convertAstWithInterpolation_drew imports h₁ :), by simp [BindingEntry.target]⟩

theorem templateAttrBinding_step (x : Nat) (kind : TemplateKind) :
    EntryStep x (templateAttrBinding imports x kind) := by
  intro attr J p h
  cases attr <;> simp only [templateAttrBinding, bind_eq_ok_iff] at h <;>
    obtain ⟨_, -, h⟩ := h <;> exact createTemplateBinding_spec imports h

theorem templateAttributeBinding_step (x : Nat) (kind : TemplateKind) :
    EntryStep x (templateAttributeBinding imports x kind) := by
  intro attr J p h
  simp only [templateAttributeBinding, bind_eq_ok_iff] at h
  obtain ⟨_, -, h⟩ := h
  exact createTemplateBinding_spec imports h

theorem templateInputBinding_step (x : Nat) (kind : TemplateKind) :
    EntryStep x (templateInputBinding imports x kind) := by
  intro input J p h
  simp only [templateInputBinding, bind_eq_ok_iff] at h
  obtain ⟨_, -, h⟩ := h
  exact createTemplateBinding_spec imports h

theorem createListener_spec {J : CompilationJob} {x : Nat} {tag : Option String}
    {output : BoundEvent} {p} (h : createListener imports J x tag output = .ok p) :
    Drew J p.2 p.1.introduced ∧ p.1.On x := by
  simp only [createListener, bind_eq_ok_iff] at h
  obtain ⟨⟨_, _⟩, h₁, h⟩ := h
  cases h
  exact ⟨(makeListenerHandlerOps_drew imports h₁ :), by
    simp [CreateOp.On, CreateOp.bracket, CreateOp.views, CreateOp.targets]⟩

theorem templateOutputOps_spec {op : TemplateOp} {kind : TemplateKind} {output : BoundEvent}
    {J : CompilationJob} {p} (h : templateOutputOps imports op kind output J = .ok p) :
    Drew J p.2 (p.1.flatMap CreateOp.introduced) ∧ ∀ o ∈ p.1, o.On op.xref := by
  simp only [templateOutputOps, bind_eq_ok_iff] at h
  obtain ⟨_, -, ⟨ls, J₁⟩, h₁, h⟩ := h
  cases h
  have hl : Drew J J₁ (ls.flatMap CreateOp.introduced) ∧ ∀ o ∈ ls, o.On op.xref := by
    split at h₁
    · simp only [bind_eq_ok_iff, pure_bind] at h₁
      obtain ⟨⟨_, _⟩, h₁, h⟩ := h₁
      cases h
      simpa using createListener_spec imports h₁
    · cases h₁
      exact ⟨Drew.nil J, by simp⟩
  refine ⟨?_, fun o ho => ?_⟩
  · split <;> simpa [CreateOp.introduced] using hl.1
  · rcases List.mem_append.mp ho with ho | ho
    · exact hl.2 o ho
    · split at ho <;> simp at ho
      subst ho
      simp [CreateOp.On, CreateOp.bracket, CreateOp.views, CreateOp.targets]

/-- The guard of `ingestI18nAttributes` always holds: the op is always appended. -/
theorem ingestI18nAttributes_eq (u x : Nat) (bindings : List (Option BindingEntry))
    (J : CompilationJob) :
    ingestI18nAttributes u x bindings J =
      J.allocateXrefId.2.pushCreate u [.i18nAttributes J.nextXrefId x] := by
  simp [ingestI18nAttributes]

/-- The common end of `ingestElementBindings` and `ingestTemplateBindings`: push the entries,
then the listeners, then the i18n attributes op. -/
theorem bindingsTail_spec {u x : Nat} {J J₁ J₃ : CompilationJob} {bs : List (Option BindingEntry)}
    {ls : List CreateOp} (hu : u < J.nextXrefId) (h₁ : Drew J J₁ (bs.flatMap entryPipeIds))
    (hb : EntriesOn x bs)
    (h₃ : Drew ((J₁.pushCreate u (extractedOps bs)).pushUpdate u (bindingOps bs)) J₃
      (ls.flatMap CreateOp.introduced))
    (hl : ∀ o ∈ ls, o.On x) :
    ∃ δ, Extends u J (ingestI18nAttributes u x bs (J₃.pushCreate u ls)) δ ∧ δ.OnlyTargets x ∧
      δ.ids = window J.nextXrefId (ingestI18nAttributes u x bs (J₃.pushCreate u ls)).nextXrefId := by
  rw [ingestI18nAttributes_eq]
  have hb' := bindingOps_extractedOps_onlyTargets hb
  refine ⟨_, (((((((Extends.drew u h₁).trans hu (.pushCreate _ u _)).trans hu
    (.pushUpdate _ u _)).trans hu (.drew u h₃)).trans hu (.pushCreate _ u ls)).trans hu
    (.allocateXrefId u _)).trans hu (.pushCreate _ u _)), ?_, ?_⟩
  · have hi : ({ create := [.i18nAttributes (J₃.pushCreate u ls).nextXrefId x] } :
        Delta).OnlyTargets x :=
      .ofCreate (by simp [CreateOp.On, CreateOp.bracket, CreateOp.views, CreateOp.targets])
    exact (((((Delta.OnlyTargets.empty.append (.ofCreate hb'.create)).append
      (.ofUpdate hb'.update)).append .empty).append (.ofCreate hl)).append .empty).append hi
  · have e₁ := h₁.eq_window
    have e₃ := h₃.eq_window
    have n₁ := h₁.next_eq
    have n₃ := h₃.next_eq
    simp only [CompilationJob.pushUpdate, CompilationJob.pushCreate, CompilationJob.modifyView,
      CompilationJob.allocateXrefId] at e₃ n₃ ⊢
    simp only [Delta.ids_append]
    simp only [Delta.ids, List.flatMap_nil, Multiset.coe_nil, add_zero, zero_add,
      List.flatMap_cons, CreateOp.introduced, List.singleton_append, List.append_nil]
    rw [bindingOps_extractedOps_ids, e₁, e₃, window_add (by omega) (by omega),
      Multiset.coe_singleton, ← window_succ, window_add (by omega) (by omega)]

theorem EntriesOn.append {x : Nat} {a b : List (Option BindingEntry)} (ha : EntriesOn x a)
    (hb : EntriesOn x b) : EntriesOn x (a ++ b) :=
  fun e he => (List.mem_append.mp he).elim (ha e) (hb e)

theorem ingestElementBindings_spec {u : Nat} {op : ElementStartOp} {element : Element}
    {J J' : CompilationJob} (hu : u < J.nextXrefId)
    (h : ingestElementBindings imports u op element J = .ok J') :
    ∃ δ, Extends u J J' δ ∧ δ.OnlyTargets op.xref ∧ δ.ids = window J.nextXrefId J'.nextXrefId := by
  simp only [ingestElementBindings, bind_eq_ok_iff] at h
  obtain ⟨⟨attrs, J₁⟩, h₁, ⟨inputs, J₂⟩, h₂, ⟨ls, J₃⟩, h₃, h⟩ := h
  cases h
  obtain ⟨d₁, e₁⟩ := (elementAttributeBinding_step imports element op.xref).mapJob h₁
  obtain ⟨d₂, e₂⟩ := (elementInputBinding_step imports op.xref).mapJob h₂
  obtain ⟨d₃, l₃⟩ := mapJob_spec CreateOp.introduced (CreateOp.On op.xref)
    (fun output J p hp => by
      simp only [bind_eq_ok_iff] at hp
      obtain ⟨_, -, hp⟩ := hp
      exact createListener_spec imports hp) _ h₃
  exact bindingsTail_spec hu (by rw [List.flatMap_append]; exact d₁.trans d₂)
    (e₁.append e₂) d₃ l₃

theorem ingestTemplateBindings_spec {u : Nat} {op : TemplateOp} {tmpl : Template}
    {kind : TemplateKind} {J J' : CompilationJob} (hu : u < J.nextXrefId)
    (h : ingestTemplateBindings imports u op tmpl kind J = .ok J') :
    ∃ δ, Extends u J J' δ ∧ δ.OnlyTargets op.xref ∧ δ.ids = window J.nextXrefId J'.nextXrefId := by
  simp only [ingestTemplateBindings, bind_eq_ok_iff] at h
  obtain ⟨⟨tas, J₁⟩, h₁, ⟨attrs, J₂⟩, h₂, ⟨inputs, J₃⟩, h₃, ⟨outs, J₄⟩, h₄, h⟩ := h
  cases h
  obtain ⟨d₁, e₁⟩ := (templateAttrBinding_step imports op.xref kind).mapJob h₁
  obtain ⟨d₂, e₂⟩ := (templateAttributeBinding_step imports op.xref kind).mapJob h₂
  obtain ⟨d₃, e₃⟩ := (templateInputBinding_step imports op.xref kind).mapJob h₃
  obtain ⟨d₄, l₄⟩ := mapJob_spec (·.flatMap CreateOp.introduced) (∀ o ∈ ·, o.On op.xref)
    (fun output J p hp => templateOutputOps_spec imports hp) _ h₄
  refine bindingsTail_spec hu (by simp only [List.flatMap_append]; exact (d₁.trans d₂).trans d₃)
    ((e₁.append e₂).append e₃) ?_ (fun o ho => ?_)
  · rwa [List.flatten_eq_flatMap, List.flatMap_assoc]
  · obtain ⟨l, hl, ho⟩ := List.mem_flatten.mp ho
    exact l₄ l hl o ho

end

end Angular.Compiler
