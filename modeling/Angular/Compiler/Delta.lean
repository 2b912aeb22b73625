import Angular.Compiler.IrFacts

/-!
# Angular.Compiler.Delta

**What one ingestion call does to the job.** An ingest function that receives a unit `u`
appends ops at the ends of `u`'s create and update lists and registers new units, and does
nothing else to the job. `Delta` records those additions and `Delta.apply` performs them.
This module provides:

* `Extends u J J' δ`: `J'` is `J` with `δ` applied to `u`, the counter moved forward, and
  the new units' xrefs drawn from it; one lemma per primitive of the job (`pushCreate`,
  `allocateXrefId`, `allocateView`, `modifyView` of a new unit, a call into a new unit),
  and `Extends.trans` to chain them;
* `CompilationJob.WF`: the units have distinct xrefs below the counter, which every job
  that ingestion builds satisfies (`Extends.wf`);
* the one place where the source splices into `u` rather than appending, `ingestElement`'s
  `I18nEnd` inserted before the `ElementEnd` it has just pushed, as an append
  (`insertCreate_pushCreate`).
-/

namespace Angular.Compiler

/-- A successful `do` step: the first computation succeeded, and so did the rest on its
value. -/
theorem bind_eq_ok_iff {ε α β : Type} {x : Except ε α} {f : α → Except ε β} {b : β} :
    x >>= f = .ok b ↔ ∃ a, x = .ok a ∧ f a = .ok b := by
  cases x <;> simp [bind, Except.bind]

/-- What an ingestion call into a unit adds: ops at the ends of the unit's create and update
lists, and new units. -/
@[ext] structure Delta where
  create : List CreateOp := []
  update : List UpdateOp := []
  added : List ViewCompilationUnit := []

namespace Delta

instance : Append Delta :=
  ⟨fun a b => ⟨a.create ++ b.create, a.update ++ b.update, a.added ++ b.added⟩⟩

@[simp] theorem append_create (a b : Delta) : (a ++ b).create = a.create ++ b.create := rfl

@[simp] theorem append_update (a b : Delta) : (a ++ b).update = a.update ++ b.update := rfl

@[simp] theorem append_added (a b : Delta) : (a ++ b).added = a.added ++ b.added := rfl

@[simp] theorem mk_append_mk (c c' : List CreateOp) (d d' : List UpdateOp)
    (a a' : List ViewCompilationUnit) :
    (⟨c, d, a⟩ : Delta) ++ ⟨c', d', a'⟩ = ⟨c ++ c', d ++ d', a ++ a'⟩ := rfl

end Delta

/-- Append `c` and `d` to the lists of the unit `u`; other units are left as they are. -/
def appendOps (u : Nat) (c : List CreateOp) (d : List UpdateOp) (v : ViewCompilationUnit) :
    ViewCompilationUnit :=
  if v.xref = u then { v with create := v.create ++ c, update := v.update ++ d } else v

@[simp] theorem appendOps_xref (u : Nat) (c : List CreateOp) (d : List UpdateOp)
    (v : ViewCompilationUnit) : (appendOps u c d v).xref = v.xref := by
  unfold appendOps; split <;> rfl

@[simp] theorem appendOps_parent (u : Nat) (c : List CreateOp) (d : List UpdateOp)
    (v : ViewCompilationUnit) : (appendOps u c d v).parent = v.parent := by
  unfold appendOps; split <;> rfl

@[simp] theorem appendOps_contextVariables (u : Nat) (c : List CreateOp) (d : List UpdateOp)
    (v : ViewCompilationUnit) : (appendOps u c d v).contextVariables = v.contextVariables := by
  unfold appendOps; split <;> rfl

@[simp] theorem appendOps_aliases (u : Nat) (c : List CreateOp) (d : List UpdateOp)
    (v : ViewCompilationUnit) : (appendOps u c d v).aliases = v.aliases := by
  unfold appendOps; split <;> rfl

@[simp] theorem ViewCompilationUnit.new_xref (x : Nat) (p : Option Nat) :
    (ViewCompilationUnit.new x p).xref = x := rfl

@[simp] theorem ViewCompilationUnit.new_parent (x : Nat) (p : Option Nat) :
    (ViewCompilationUnit.new x p).parent = p := rfl

@[simp] theorem ViewCompilationUnit.new_create (x : Nat) (p : Option Nat) :
    (ViewCompilationUnit.new x p).create = [] := rfl

@[simp] theorem ViewCompilationUnit.new_update (x : Nat) (p : Option Nat) :
    (ViewCompilationUnit.new x p).update = [] := rfl

@[simp] theorem ViewCompilationUnit.new_contextVariables (x : Nat) (p : Option Nat) :
    (ViewCompilationUnit.new x p).contextVariables = [] := rfl

@[simp] theorem ViewCompilationUnit.new_aliases (x : Nat) (p : Option Nat) :
    (ViewCompilationUnit.new x p).aliases = [] := rfl

/-- The ops of a call into a unit just allocated are all its ops. -/
@[simp] theorem appendOps_new (x : Nat) (p : Option Nat) (c : List CreateOp) (d : List UpdateOp) :
    appendOps x c d (ViewCompilationUnit.new x p) =
      { ViewCompilationUnit.new x p with create := c, update := d } := by
  simp [appendOps, ViewCompilationUnit.new]

theorem appendOps_of_ne {u : Nat} {v : ViewCompilationUnit} (c : List CreateOp)
    (d : List UpdateOp) (h : v.xref ≠ u) : appendOps u c d v = v := if_neg h

@[simp] theorem appendOps_nil (u : Nat) : appendOps u [] [] = id :=
  funext fun v => by unfold appendOps; split <;> simp

theorem appendOps_appendOps (u : Nat) (c₁ c₂ : List CreateOp) (d₁ d₂ : List UpdateOp)
    (v : ViewCompilationUnit) :
    appendOps u c₂ d₂ (appendOps u c₁ d₁ v) = appendOps u (c₁ ++ c₂) (d₁ ++ d₂) v := by
  by_cases h : v.xref = u <;> simp [appendOps, h]

namespace Delta

/-- The job `J` with `δ` added to the unit `u`, and the counter at `n`. -/
def apply (δ : Delta) (u : Nat) (J : CompilationJob) (n : Nat) : CompilationJob :=
  { J with nextXrefId := n, views := J.views.map (appendOps u δ.create δ.update) ++ δ.added }

variable (δ : Delta) (u : Nat) (J : CompilationJob) (n : Nat)

@[simp] theorem apply_nextXrefId : (δ.apply u J n).nextXrefId = n := rfl

@[simp] theorem apply_views :
    (δ.apply u J n).views = J.views.map (appendOps u δ.create δ.update) ++ δ.added := rfl

@[simp] theorem apply_root : (δ.apply u J n).root = J.root := rfl

@[simp] theorem apply_compatibility : (δ.apply u J n).compatibility = J.compatibility := rfl

@[simp] theorem apply_deferBlocksMeta : (δ.apply u J n).deferBlocksMeta = J.deferBlocksMeta := rfl

theorem apply_empty : ({} : Delta).apply u J J.nextXrefId = J := by
  simp [apply, List.map_id'']

/-- Two additions to one unit are one, when the first adds no unit with its xref. -/
theorem apply_apply {δ₁ δ₂ : Delta} {n₁ n₂ : Nat} (h : ∀ v ∈ δ₁.added, v.xref ≠ u) :
    δ₂.apply u (δ₁.apply u J n₁) n₂ = (δ₁ ++ δ₂).apply u J n₂ := by
  have hm : δ₁.added.map (appendOps u δ₂.create δ₂.update) = δ₁.added :=
    (List.map_congr_left fun v hv => appendOps_of_ne _ _ (h v hv)).trans (List.map_id _)
  simp [apply, hm, appendOps_appendOps]

end Delta

/-- The job invariant: the units have distinct xrefs, all below the counter. -/
structure CompilationJob.WF (J : CompilationJob) : Prop where
  nodup : J.xrefs.Nodup
  lt : ∀ v ∈ J.views, v.xref < J.nextXrefId

theorem CompilationJob.WF.lt_of_mem {J : CompilationJob} (hJ : J.WF) {u : Nat}
    (hu : u ∈ J.xrefs) : u < J.nextXrefId := by
  obtain ⟨v, hv, rfl⟩ := List.mem_map.mp hu
  exact hJ.lt v hv

theorem CompilationJob.component_wf (componentName : String) (compatibility : CompatibilityMode)
    (deferBlocksMeta : DeferredBlock → Option R3DeferBlockMetadata) :
    (CompilationJob.component componentName compatibility deferBlocksMeta).WF :=
  ⟨by simp [CompilationJob.component, CompilationJob.xrefs, ViewCompilationUnit.new],
    by simp [CompilationJob.component, ViewCompilationUnit.new]⟩

/-- `J'` is `J` after drawing the xrefs `ids` from the counter, in order, with nothing else
changed. -/
def Drew (J J' : CompilationJob) (ids : List Nat) : Prop :=
  J' = { J with nextXrefId := J.nextXrefId + ids.length } ∧
    ids = List.range' J.nextXrefId ids.length

namespace Drew

variable {J J₁ J₂ : CompilationJob} {a b : List Nat}

theorem nil (J : CompilationJob) : Drew J J [] := by simp [Drew]

theorem allocateXrefId (J : CompilationJob) : Drew J J.allocateXrefId.2 [J.nextXrefId] :=
  ⟨rfl, rfl⟩

theorem trans (h₁ : Drew J J₁ a) (h₂ : Drew J₁ J₂ b) : Drew J J₂ (a ++ b) := by
  obtain ⟨rfl, ha⟩ := h₁
  obtain ⟨rfl, hb⟩ := h₂
  refine ⟨by simp [Nat.add_assoc], ?_⟩
  rw [List.length_append, Nat.add_comm, ← List.range'_append_1]
  exact congrArg₂ _ ha hb

theorem next_eq (h : Drew J J₁ a) : J₁.nextXrefId = J.nextXrefId + a.length := by
  rw [h.1]

/-- The drawn xrefs are the window between the two counters. -/
theorem eq_window (h : Drew J J₁ a) : (a : Multiset Nat) = window J.nextXrefId J₁.nextXrefId := by
  rw [window, h.next_eq, Nat.add_sub_cancel_left, ← h.2]

end Drew

/-- In a job whose units have distinct xrefs, the create list of a unit's xref is its own. -/
theorem CompilationJob.createOf_of_mem {J : CompilationJob} (hnd : J.xrefs.Nodup)
    {v : ViewCompilationUnit} (hv : v ∈ J.views) : J.createOf v.xref = v.create := by
  obtain ⟨w, hw⟩ := Option.isSome_iff_exists.mp
    (List.find?_isSome.mpr ⟨v, hv, by simp⟩ : (J.views.find? (·.xref = v.xref)).isSome)
  have hwv : w = v := List.inj_on_of_nodup_map hnd (List.mem_of_find?_eq_some hw) hv
    (by simpa using List.find?_some hw)
  simp [CompilationJob.createOf, CompilationJob.view?, hw, hwv]

/-- `ingestElement`'s splice: inserting before the `ElementEnd` just pushed, at the old
length of the unit's create list, appends both ops. -/
theorem CompilationJob.insertCreate_pushCreate {J : CompilationJob} (hnd : J.xrefs.Nodup)
    (u : Nat) (op op' : CreateOp) :
    (J.pushCreate u [op]).insertCreate u op' (J.createOf u).length = J.pushCreate u [op', op] := by
  simp only [CompilationJob.insertCreate, CompilationJob.pushCreate, CompilationJob.modifyView,
    List.map_map]
  congr 1
  refine List.map_congr_left fun v hv => ?_
  by_cases h : v.xref = u
  · subst h; simp [createOf_of_mem hnd hv]
  · simp [h]

@[simp] theorem CompilationJob.foldl_setContextVariable_nextXrefId {α : Type} (x : Nat)
    (f g : α → String) :
    ∀ (es : List α) (J : CompilationJob),
      (es.foldl (fun job e => job.setContextVariable x (f e) (g e)) J).nextXrefId = J.nextXrefId
  | [], _ => rfl
  | _ :: es, _ => foldl_setContextVariable_nextXrefId x f g es _

/-- Setting context variables one after the other changes only the context variables. -/
theorem ViewCompilationUnit.foldl_contextVariables {α : Type}
    (f : α → ViewCompilationUnit → List (String × String)) :
    ∀ (es : List α) (v : ViewCompilationUnit), ∃ ctx,
      es.foldl (fun w e => { w with contextVariables := f e w }) v =
        { v with contextVariables := ctx }
  | [], v => ⟨v.contextVariables, rfl⟩
  | e :: es, v => by
    obtain ⟨ctx, h⟩ := foldl_contextVariables f es { v with contextVariables := f e v }
    exact ⟨ctx, h⟩

/-- `J'` is `J` with `δ` added to the unit `u`: the counter only moves forward, and the new
units have distinct xrefs drawn from it. -/
structure Extends (u : Nat) (J J' : CompilationJob) (δ : Delta) : Prop where
  eq : J' = δ.apply u J J'.nextXrefId
  le : J.nextXrefId ≤ J'.nextXrefId
  nodup : (δ.added.map (·.xref)).Nodup
  fresh : ∀ v ∈ δ.added, J.nextXrefId ≤ v.xref ∧ v.xref < J'.nextXrefId

namespace Extends

variable {u : Nat} {J J₁ J₂ : CompilationJob} {δ δ₁ δ₂ : Delta} {ids : List Nat}

theorem congr (h : Extends u J J₁ δ₁) (he : δ₁ = δ₂) : Extends u J J₁ δ₂ := he ▸ h

theorem refl (u : Nat) (J : CompilationJob) : Extends u J J {} :=
  ⟨(Delta.apply_empty u J).symm, le_rfl, List.nodup_nil, fun _ h => nomatch h⟩

/-- **Sequencing.** Two additions to `u` compose, `u` being older than every new unit. -/
theorem trans (hu : u < J.nextXrefId) (h₁ : Extends u J J₁ δ₁) (h₂ : Extends u J₁ J₂ δ₂) :
    Extends u J J₂ (δ₁ ++ δ₂) where
  eq := by
    rw [h₂.eq, h₁.eq, Delta.apply_apply _ _ fun v hv => by have := (h₁.fresh v hv).1; omega]
    rfl
  le := h₁.le.trans h₂.le
  nodup := by
    rw [Delta.append_added, List.map_append, List.nodup_append]
    refine ⟨h₁.nodup, h₂.nodup, fun x hx hy => ?_⟩
    obtain ⟨v, hv, rfl⟩ := List.mem_map.mp hx
    obtain ⟨w, hw, hwv⟩ := List.mem_map.mp hy
    have := (h₁.fresh v hv).2; have := (h₂.fresh w hw).1; omega
  fresh v hv := by
    rcases List.mem_append.mp hv with hv | hv
    · have := h₁.fresh v hv; have := h₂.le; omega
    · have := h₂.fresh v hv; have := h₁.le; omega

/-- A job that extends a `WF` job is `WF`. -/
theorem wf (hJ : J.WF) (h : Extends u J J₁ δ) : J₁.WF := by
  rw [h.eq]
  constructor
  · simp only [CompilationJob.xrefs, Delta.apply_views, List.map_append, List.map_map]
    rw [List.nodup_append]
    refine ⟨by simpa [Function.comp_def] using hJ.nodup, h.nodup, fun x hx hy => ?_⟩
    obtain ⟨v, hv, rfl⟩ := List.mem_map.mp hx
    obtain ⟨w, hw, hwv⟩ := List.mem_map.mp hy
    have := hJ.lt v hv; have := (h.fresh w hw).1; simp at hwv; omega
  · simp only [Delta.apply_views, List.mem_append, List.mem_map, Delta.apply_nextXrefId]
    rintro v (⟨v, hv, rfl⟩ | hv)
    · have := hJ.lt v hv; have := h.le; simp; omega
    · exact (h.fresh v hv).2

/-- Drawing xrefs extends every unit by nothing. -/
theorem drew (u : Nat) (h : Drew J J₁ ids) : Extends u J J₁ {} where
  eq := by rw [h.1]; simp [Delta.apply]
  le := by rw [h.next_eq]; omega
  nodup := List.nodup_nil
  fresh _ h := nomatch h

/-! ## The primitives of the job -/

theorem pushCreate (J : CompilationJob) (u : Nat) (c : List CreateOp) :
    Extends u J (J.pushCreate u c) { create := c } where
  eq := by
    cases J
    simp only [CompilationJob.pushCreate, CompilationJob.modifyView, Delta.apply, List.append_nil]
    congr; funext v; simp [appendOps]
  le := le_rfl
  nodup := List.nodup_nil
  fresh _ h := nomatch h

theorem pushUpdate (J : CompilationJob) (u : Nat) (d : List UpdateOp) :
    Extends u J (J.pushUpdate u d) { update := d } where
  eq := by
    cases J
    simp only [CompilationJob.pushUpdate, CompilationJob.modifyView, Delta.apply, List.append_nil]
    congr; funext v; simp [appendOps]
  le := le_rfl
  nodup := List.nodup_nil
  fresh _ h := nomatch h

theorem allocateXrefId (u : Nat) (J : CompilationJob) : Extends u J J.allocateXrefId.2 {} where
  eq := by simp [CompilationJob.allocateXrefId, Delta.apply]
  le := Nat.le_succ _
  nodup := List.nodup_nil
  fresh _ h := nomatch h

theorem allocateView (u : Nat) (J : CompilationJob) (parent : Nat) :
    Extends u J (J.allocateView parent).2
      { added := [ViewCompilationUnit.new J.nextXrefId (some parent)] } where
  eq := by simp [CompilationJob.allocateView, Delta.apply]
  le := Nat.le_succ _
  nodup := List.nodup_singleton _
  fresh v hv := by
    simp only [List.mem_singleton] at hv
    subst hv
    simp [ViewCompilationUnit.new, CompilationJob.allocateView]

/-- A map that changes only the units with xref `w` changes only `v`, the one unit with that
xref. -/
theorem map_of_xref_eq {L a b : List ViewCompilationUnit} {v : ViewCompilationUnit} {w : Nat}
    (f : ViewCompilationUnit → ViewCompilationUnit) (hf : ∀ x, x.xref ≠ w → f x = x)
    (hL : ∀ x ∈ L ++ a ++ b, x.xref ≠ w) :
    (L ++ a ++ v :: b).map f = L ++ a ++ f v :: b := by
  have hid : ∀ l : List ViewCompilationUnit, (∀ x ∈ l, x.xref ≠ w) → l.map f = l :=
    fun l hl => (List.map_congr_left fun x hx => hf x (hl x hx)).trans (List.map_id _)
  simp only [List.mem_append, or_imp, forall_and] at hL
  simp [hid L hL.1.1, hid a hL.1.2, hid b hL.2]

/-- The new units of an extension are distinct from one another and from the old ones. -/
theorem xref_ne {c : List CreateOp} {d : List UpdateOp} {a b : List ViewCompilationUnit}
    {v : ViewCompilationUnit} (hJ : J.WF) (h : Extends u J J₁ ⟨c, d, a ++ v :: b⟩) :
    ∀ x ∈ J.views.map (appendOps u c d) ++ a ++ b, x.xref ≠ v.xref := by
  have hnd : v.xref ∉ (a ++ b).map (·.xref) := by
    have := h.nodup
    rw [List.map_append, List.map_cons, List.nodup_middle, List.nodup_cons,
      ← List.map_append] at this
    exact this.1
  intro x hx
  simp only [List.mem_append, List.mem_map] at hx
  rcases hx with (⟨y, hy, rfl⟩ | hx) | hx
  · have := hJ.lt y hy; have := (h.fresh v (by simp)).1; simp; omega
  · exact fun he => hnd (List.mem_map.mpr ⟨x, by simp [hx], he⟩)
  · exact fun he => hnd (List.mem_map.mpr ⟨x, by simp [hx], he⟩)

/-- Modifying a new unit of an extension keeps it an extension. -/
theorem modify {c : List CreateOp} {d : List UpdateOp} {a b : List ViewCompilationUnit}
    {v : ViewCompilationUnit} {g : ViewCompilationUnit → ViewCompilationUnit} (hJ : J.WF)
    (h : Extends u J J₁ ⟨c, d, a ++ v :: b⟩) (hg : ∀ x, (g x).xref = x.xref) :
    Extends u J (J₁.modifyView v.xref g) ⟨c, d, a ++ g v :: b⟩ where
  eq := by
    rw [h.eq]
    simp only [CompilationJob.modifyView, Delta.apply, ← List.append_assoc]
    rw [map_of_xref_eq _ (fun x hx => if_neg hx) (by simpa using xref_ne hJ h), if_pos rfl]
  le := h.le
  nodup := by simpa [Function.comp_def, hg] using h.nodup
  fresh x hx := by
    simp only [List.mem_append, List.mem_cons] at hx
    rcases hx with hx | rfl | hx
    · exact h.fresh x (by simp [hx])
    · rw [hg]; exact h.fresh v (by simp)
    · exact h.fresh x (by simp [hx])

theorem mem_added {v : ViewCompilationUnit} (h : Extends u J J₁ δ) (hv : v ∈ δ.added) :
    v ∈ J₁.views := by
  rw [h.eq]; simp [hv]

/-- A unit of the old job stays, with the ops `δ` gives it; `appendOps` keeps the rest. -/
theorem appendOps_mem {v : ViewCompilationUnit} (h : Extends u J J₁ δ) (hv : v ∈ J.views) :
    appendOps u δ.create δ.update v ∈ J₁.views := by
  rw [h.eq, Delta.apply_views]
  exact List.mem_append_left _ (List.mem_map_of_mem _ hv)

/-- **An i18n block around a new unit's create list**, spliced in with `insertCreate`: at the
front, then at the end. -/
theorem wrapCreate {c : List CreateOp} {d : List UpdateOp} {a b : List ViewCompilationUnit}
    {v : ViewCompilationUnit} {x : Nat} (hJ : J.WF) (hv : v.xref = x)
    (h : Extends u J J₁ ⟨c, d, a ++ v :: b⟩) (o o' : CreateOp) :
    Extends u J ((J₁.insertCreate x o 0).insertCreate x o'
        ((J₁.insertCreate x o 0).createOf x).length)
      ⟨c, d, a ++ { v with create := o :: v.create ++ [o'] } :: b⟩ := by
  subst hv
  have e₁ := h.modify hJ (g := fun w => { w with create := insertBefore o 0 w.create })
    fun _ => rfl
  have hm : (J₁.insertCreate v.xref o 0).createOf v.xref = o :: v.create :=
    (CompilationJob.createOf_of_mem (e₁.wf hJ).nodup
      (e₁.mem_added (v := { v with create := insertBefore o 0 v.create }) (by simp))).trans
      (insertBefore_zero o v.create)
  rw [hm]
  have e₂ := e₁.modify hJ
    (g := fun w => { w with create := insertBefore o' (o :: v.create).length w.create })
    fun _ => rfl
  simpa only [insertBefore_zero, insertBefore_length, List.cons_append] using e₂

theorem setContextVariable {c : List CreateOp} {d : List UpdateOp}
    {a b : List ViewCompilationUnit} {v : ViewCompilationUnit} (hJ : J.WF)
    (h : Extends u J J₁ ⟨c, d, a ++ v :: b⟩) (name value : String) :
    Extends u J (J₁.setContextVariable v.xref name value)
      ⟨c, d, a ++ { v with contextVariables := mapSet v.contextVariables name value } :: b⟩ :=
  h.modify hJ fun _ => rfl

theorem addAlias {c : List CreateOp} {d : List UpdateOp} {a b : List ViewCompilationUnit}
    {v : ViewCompilationUnit} (hJ : J.WF) (h : Extends u J J₁ ⟨c, d, a ++ v :: b⟩)
    (al : AliasVariable) :
    Extends u J (J₁.addAlias v.xref al) ⟨c, d, a ++ { v with aliases := v.aliases ++ [al] } :: b⟩ :=
  h.modify hJ fun _ => rfl

/-- A fold of edits to one new unit, each keeping its xref. -/
theorem foldl_modify {α : Type} {c : List CreateOp} {d : List UpdateOp}
    {a b : List ViewCompilationUnit} {x : Nat} {g : α → ViewCompilationUnit → ViewCompilationUnit}
    (hJ : J.WF) (hg : ∀ e w, (g e w).xref = w.xref) :
    ∀ (es : List α) {J₁ : CompilationJob} {v : ViewCompilationUnit}, v.xref = x →
      Extends u J J₁ ⟨c, d, a ++ v :: b⟩ →
      Extends u J (es.foldl (fun job e => job.modifyView x (g e)) J₁)
        ⟨c, d, a ++ es.foldl (fun w e => g e w) v :: b⟩
  | [], _, _, _, h => h
  | e :: es, _, v, hv, h => foldl_modify hJ hg es ((hg e v).trans hv) (hv ▸ h.modify hJ (hg e))

/-- **A call into a new unit.** When a call extends the new unit `v`, the whole is an
extension of `u` in which `v` has the call's ops and the call's units come last. -/
theorem child {c : List CreateOp} {d : List UpdateOp} {a b : List ViewCompilationUnit}
    {v : ViewCompilationUnit} {δc : Delta} (hJ : J.WF) (h : Extends u J J₁ ⟨c, d, a ++ v :: b⟩)
    (hc : Extends v.xref J₁ J₂ δc) :
    Extends u J J₂ ⟨c, d, a ++ appendOps v.xref δc.create δc.update v :: b ++ δc.added⟩ where
  eq := by
    rw [hc.eq, h.eq]
    simp only [Delta.apply, ← List.append_assoc]
    rw [map_of_xref_eq _ (fun x hx => appendOps_of_ne _ _ hx) (by simpa using xref_ne hJ h)]
  le := h.le.trans hc.le
  nodup := by
    have h₁ := h.nodup
    simp only [List.map_append, List.map_cons, appendOps_xref] at h₁ ⊢
    rw [← List.map_cons, ← List.map_append, List.nodup_append]
    refine ⟨by simpa using h₁, hc.nodup, fun x hx hy => ?_⟩
    obtain ⟨y, hy', rfl⟩ := List.mem_map.mp hx
    obtain ⟨z, hz, hzy⟩ := List.mem_map.mp hy
    have := (h.fresh y (by simpa using hy')).2; have := (hc.fresh z hz).1; omega
  fresh x hx := by
    simp only [List.mem_append, List.mem_cons] at hx
    have := h.le; have := hc.le
    rcases hx with (hx | rfl | hx) | hx
    · have := h.fresh x (by simp [hx]); omega
    · have := h.fresh v (by simp); simp; omega
    · have := h.fresh x (by simp [hx]); omega
    · have := hc.fresh x hx; omega

end Extends

end Angular.Compiler
