import Angular.Compiler.Delta

/-!
# Angular.Compiler.WellFormed

**What a finished ingestion call has added.** `Delta.Wf u defs kids δ` says that the ops a
call appended to the unit `u` and the units it created fit together:

* every target of a new create op is defined by an op before it (`refsBound`), every target
  of a new update op by some create op, counting the xrefs `defs` that `u`'s earlier ops
  define;
* the new create ops are well bracketed (`Balanced`);
* every view a new op refers to is a child of `u`, among the units `kids` added before and
  the new ones;
* every new unit is a child of `u` or of an older new unit, and is `Closed` among the new
  units: its own lists satisfy the three points above.

`Wf.append` sequences two calls; the relative `defs` and `kids` are what lets a later op
(an `ElementEnd`, a `Conditional`, a `Repeater`) refer to an earlier call's work.
`Delta.Good` adds the accounting that `Wf` cannot see piecewise: the new xrefs are exactly
the counter's window, and every new unit is declared exactly once.
-/

namespace Angular.Compiler

/-- A finished unit, among the units `units`: its references are closed, its brackets are
balanced, and every view its ops refer to is a unit of `units` whose parent it is. -/
structure ViewCompilationUnit.Closed (units : List ViewCompilationUnit) (v : ViewCompilationUnit) :
    Prop where
  refs : v.RefsClosed
  balanced : Balanced (brackets v.create)
  views : ∀ x ∈ v.viewRefs, ∃ w ∈ units, w.xref = x ∧ w.parent = some v.xref

/-- What a call into the unit `u` adds is well formed, given the xrefs `defs` that `u`'s
earlier ops define and the units `kids` added before it. -/
structure Delta.Wf (u : Nat) (defs : List Nat) (kids : List ViewCompilationUnit) (δ : Delta) :
    Prop where
  /-- Every target of a new create op is in `defs` or defined by an earlier new op. -/
  refs : refsBound defs δ.create
  /-- Every target of a new update op is in `defs` or defined by a new create op. -/
  updateRefs : ∀ op ∈ δ.update, ∀ x ∈ op.targets, x ∈ defs ∨ x ∈ δ.create.flatMap CreateOp.defines
  /-- The new create ops are well bracketed. -/
  balanced : Balanced (brackets δ.create)
  /-- Every view a new op refers to is a child of `u`. -/
  views : ∀ x ∈ δ.create.flatMap CreateOp.views ++ δ.update.flatMap UpdateOp.views,
    ∃ w ∈ kids ++ δ.added, w.xref = x ∧ w.parent = some u
  /-- A new unit is a child of `u` or of an older new unit. -/
  parents : ∀ v ∈ δ.added,
    v.parent = some u ∨ ∃ w ∈ δ.added, v.parent = some w.xref ∧ w.xref < v.xref
  /-- The new units are closed among themselves. -/
  closed : ∀ v ∈ δ.added, v.Closed δ.added

namespace Delta

/-- The xrefs that the new ops and units introduce. -/
def ids (δ : Delta) : Multiset Nat :=
  ↑(δ.create.flatMap CreateOp.introduced) + ↑(δ.update.flatMap UpdateOp.introduced) +
    ↑(δ.added.flatMap ViewCompilationUnit.introduced)

/-- The views that the new create ops and the new units declare. -/
def declared (δ : Delta) : Multiset Nat :=
  ↑(δ.create.flatMap CreateOp.declares) + ↑(δ.added.flatMap ViewCompilationUnit.declared)

/-- The xrefs of the new units. -/
def units (δ : Delta) : Multiset Nat :=
  ↑(δ.added.map (·.xref))

@[simp] theorem ids_append (a b : Delta) : (a ++ b).ids = a.ids + b.ids := by
  simp only [ids, append_create, append_update, append_added, List.flatMap_append,
    ← Multiset.coe_add]
  ac_rfl

@[simp] theorem declared_append (a b : Delta) : (a ++ b).declared = a.declared + b.declared := by
  simp only [declared, append_create, append_added, List.flatMap_append, ← Multiset.coe_add]
  ac_rfl

@[simp] theorem units_append (a b : Delta) : (a ++ b).units = a.units + b.units := by
  simp [units]

/-- A finished call: its additions are well formed with nothing before them, its new xrefs
are the window `[lo, hi)` of the counter, and it declares each new unit exactly once. -/
structure Good (u lo hi : Nat) (δ : Delta) : Prop where
  wf : δ.Wf u [] []
  ids : δ.ids = window lo hi
  declared : δ.declared = δ.units

end Delta

namespace ViewCompilationUnit.Closed

variable {units units' : List ViewCompilationUnit} {v : ViewCompilationUnit}

theorem mono (h : v.Closed units) (hs : ∀ w ∈ units, w ∈ units') : v.Closed units' :=
  ⟨h.refs, h.balanced, fun x hx =>
    let ⟨w, hw, hx⟩ := h.views x hx
    ⟨w, hs w hw, hx⟩⟩

/-- A unit whose lists are what a call into it added, well formed with nothing before. -/
theorem of_wf {δ : Delta} (hδ : δ.Wf v.xref [] []) (hc : v.create = δ.create)
    (hu : v.update = δ.update) : v.Closed δ.added where
  refs := ⟨hc ▸ hδ.refs, fun op hop x hx => by
    simpa [ViewCompilationUnit.defined, hc] using hδ.updateRefs op (hu ▸ hop) x hx⟩
  balanced := hc ▸ hδ.balanced
  views x hx := by
    simpa using hδ.views x (by simpa [ViewCompilationUnit.viewRefs, hc, hu] using hx)

end ViewCompilationUnit.Closed

namespace Delta.Wf

variable {u : Nat} {defs defs' : List Nat} {kids kids' : List ViewCompilationUnit}
  {δ δ₁ δ₂ : Delta}

theorem mono (h : δ.Wf u defs kids) (hd : ∀ x ∈ defs, x ∈ defs') (hk : ∀ w ∈ kids, w ∈ kids') :
    δ.Wf u defs' kids' where
  refs := refsBound_mono hd h.refs
  updateRefs op hop x hx := (h.updateRefs op hop x hx).imp_left (hd x)
  balanced := h.balanced
  views x hx := by
    obtain ⟨w, hw, hx⟩ := h.views x hx
    refine ⟨w, ?_, hx⟩
    rcases List.mem_append.mp hw with hw | hw
    · exact List.mem_append_left _ (hk w hw)
    · exact List.mem_append_right _ hw
  parents := h.parents
  closed := h.closed

/-- **Sequencing.** Two calls into `u` compose; the second sees what the first defined and
added. -/
theorem append (h₁ : δ₁.Wf u defs kids)
    (h₂ : δ₂.Wf u (defs ++ δ₁.create.flatMap CreateOp.defines) (kids ++ δ₁.added)) :
    (δ₁ ++ δ₂).Wf u defs kids where
  refs := refsBound_append.mpr ⟨h₁.refs, h₂.refs⟩
  updateRefs op hop x hx := by
    simp only [append_update, List.mem_append] at hop
    simp only [append_create, List.flatMap_append, List.mem_append]
    rcases hop with hop | hop
    · have := h₁.updateRefs op hop x hx; tauto
    · have := h₂.updateRefs op hop x hx; simp only [List.mem_append] at this; tauto
  balanced := by simpa using h₁.balanced.append h₂.balanced
  views x hx := by
    simp only [append_create, append_update, List.flatMap_append, List.mem_append] at hx
    have h₁' : x ∈ δ₁.create.flatMap CreateOp.views ++ δ₁.update.flatMap UpdateOp.views →
        ∃ w ∈ kids ++ (δ₁ ++ δ₂).added, w.xref = x ∧ w.parent = some u := fun hx => by
      obtain ⟨w, hw, hx⟩ := h₁.views x hx
      exact ⟨w, by simp only [append_added, List.mem_append] at hw ⊢; tauto, hx⟩
    have h₂' : x ∈ δ₂.create.flatMap CreateOp.views ++ δ₂.update.flatMap UpdateOp.views →
        ∃ w ∈ kids ++ (δ₁ ++ δ₂).added, w.xref = x ∧ w.parent = some u := fun hx => by
      obtain ⟨w, hw, hx⟩ := h₂.views x hx
      exact ⟨w, by simpa [List.append_assoc] using hw, hx⟩
    rcases hx with (hx | hx) | hx | hx
    · exact h₁' (List.mem_append_left _ hx)
    · exact h₂' (List.mem_append_left _ hx)
    · exact h₁' (List.mem_append_right _ hx)
    · exact h₂' (List.mem_append_right _ hx)
  parents v hv := by
    simp only [append_added, List.mem_append] at hv ⊢
    rcases hv with hv | hv
    · exact (h₁.parents v hv).imp_right fun ⟨w, hw, h⟩ => ⟨w, .inl hw, h⟩
    · exact (h₂.parents v hv).imp_right fun ⟨w, hw, h⟩ => ⟨w, .inr hw, h⟩
  closed v hv := by
    simp only [append_added, List.mem_append] at hv
    rcases hv with hv | hv
    · exact (h₁.closed v hv).mono fun w hw => List.mem_append_left _ hw
    · exact (h₂.closed v hv).mono fun w hw => List.mem_append_right _ hw

/-- Ops alone: a piece that adds no unit. -/
theorem ops {c : List CreateOp} {d : List UpdateOp} (hr : refsBound defs c)
    (hu : ∀ op ∈ d, ∀ x ∈ op.targets, x ∈ defs ∨ x ∈ c.flatMap CreateOp.defines)
    (hb : Balanced (brackets c))
    (hv : ∀ x ∈ c.flatMap CreateOp.views ++ d.flatMap UpdateOp.views,
      ∃ w ∈ kids, w.xref = x ∧ w.parent = some u) :
    ({ create := c, update := d } : Delta).Wf u defs kids where
  refs := hr
  updateRefs := hu
  balanced := hb
  views x hx := by simpa using hv x hx
  parents _ h := nomatch h
  closed _ h := nomatch h

/-- **A child unit.** A new unit `v` of `u`, closed among the units its own call added. -/
theorem child {v : ViewCompilationUnit} {δc : Delta} (hp : v.parent = some u)
    (hv : v.Closed δc.added) (hc : δc.Wf v.xref [] [])
    (hfresh : ∀ w ∈ δc.added, v.xref < w.xref) :
    ({ added := v :: δc.added } : Delta).Wf u defs kids where
  refs := trivial
  updateRefs _ h := nomatch h
  balanced := Balanced.nil
  views x hx := by simp at hx
  parents w hw := by
    rcases List.mem_cons.mp hw with rfl | hw
    · exact .inl hp
    · rcases hc.parents w hw with h | ⟨x, hx, h⟩
      · exact .inr ⟨v, List.mem_cons_self _ _, h, hfresh w hw⟩
      · exact .inr ⟨x, List.mem_cons_of_mem _ hx, h⟩
  closed w hw := by
    rcases List.mem_cons.mp hw with rfl | hw
    · exact hv.mono fun x hx => List.mem_cons_of_mem _ hx
    · exact (hc.closed w hw).mono fun x hx => List.mem_cons_of_mem _ hx

/-- **Brackets.** An opening op that defines `x`, and its closing op, around a piece that may
refer to `x`. -/
theorem wrap {o o' : CreateOp} {k : BracketKind} {x : Nat}
    (hb : o.bracket = some (.opening k x)) (hb' : o'.bracket = some (.closing k x))
    (ho : o.targets = [] ∧ o.defines = [x] ∧ o.views = [])
    (ho' : o'.targets = [x] ∧ o'.views = []) (h : δ.Wf u (defs ++ [x]) kids) :
    ({ create := o :: δ.create ++ [o'], update := δ.update, added := δ.added } : Delta).Wf u
      defs kids where
  refs := by
    refine refsBound_append.mpr ⟨⟨by simp [ho.1], by simpa [ho.2.1] using h.refs⟩, ?_, trivial⟩
    simp [ho'.1, ho.2.1]
  updateRefs op hop t ht := by
    rcases h.updateRefs op hop t ht with ht | ht
    · simp only [List.mem_append, List.mem_singleton] at ht
      rcases ht with ht | rfl
      · exact .inl ht
      · exact .inr (by simp [ho.2.1])
    · right
      simp only [List.flatMap_append, List.flatMap_cons, List.mem_append]
      exact .inl (.inr ht)
  balanced := by
    simpa [hb, hb'] using Balanced.wrap k x h.balanced
  views t ht := h.views t (by simpa [ho.2.2, ho'.2] using ht)
  parents := h.parents
  closed := h.closed

end Delta.Wf

theorem Delta.ids_wrap (o o' : CreateOp) (δ : Delta) (ho' : o'.introduced = []) :
    ({ create := o :: δ.create ++ [o'], update := δ.update, added := δ.added } : Delta).ids =
      ↑o.introduced + δ.ids := by
  simp only [Delta.ids, List.cons_append, List.flatMap_cons, List.flatMap_append, ho',
    List.flatMap_nil, List.append_nil, ← Multiset.coe_add, add_assoc]

theorem Delta.declared_wrap {o o' : CreateOp} (δ : Delta) (ho : o.views = []) (ho' : o'.views = []) :
    ({ create := o :: δ.create ++ [o'], update := δ.update, added := δ.added } : Delta).declared =
      δ.declared := by
  simp [Delta.declared, CreateOp.declares_eq_nil ho, CreateOp.declares_eq_nil ho']

/-- **Brackets.** A bracket pair whose opening op introduces `x`, around a piece that may
refer to `x` and draws the xrefs after it. -/
theorem Delta.Good.wrap {u x hi : Nat} {o o' : CreateOp} {k : BracketKind} {δ : Delta}
    (hb : o.bracket = some (.opening k x)) (hb' : o'.bracket = some (.closing k x))
    (ho : o.targets = [] ∧ o.defines = [x] ∧ o.views = [] ∧ o.introduced = [x])
    (ho' : o'.targets = [x] ∧ o'.views = [] ∧ o'.introduced = [])
    (h : δ.Wf u [x] []) (hids : δ.ids = window (x + 1) hi) (hd : δ.declared = δ.units)
    (hx : x < hi) :
    ({ create := o :: δ.create ++ [o'], update := δ.update, added := δ.added } : Delta).Good
      u x hi where
  wf := Delta.Wf.wrap hb hb' ⟨ho.1, ho.2.1, ho.2.2.1⟩ ⟨ho'.1, ho'.2.1⟩ h
  ids := by
    rw [Delta.ids_wrap o o' δ ho'.2.2, ho.2.2.2, hids, window_cons hx]
    rfl
  declared := by rw [Delta.declared_wrap δ ho.2.2.1 ho'.2.1, hd]; rfl

/-- Every unit a finished call added is numbered inside its window. -/
theorem Delta.Good.xref_mem_window {u lo hi : Nat} {δ : Delta} (h : δ.Good u lo hi)
    {w : ViewCompilationUnit} (hw : w ∈ δ.added) : lo ≤ w.xref ∧ w.xref < hi := by
  have : w.xref ∈ δ.ids := by
    simp only [Delta.ids, Multiset.mem_add, Multiset.mem_coe, List.mem_flatMap]
    exact .inr ⟨w, hw, List.mem_cons_self _ _⟩
  exact Angular.Compiler.mem_window.mp (h.ids ▸ this)

/-- **Brackets drawn last.** A bracket pair whose opening op introduces the xref drawn after
the piece it encloses. -/
theorem Delta.Good.wrapLast {u lo hi : Nat} {o o' : CreateOp} {k : BracketKind} {δ : Delta}
    (hb : o.bracket = some (.opening k hi)) (hb' : o'.bracket = some (.closing k hi))
    (ho : o.targets = [] ∧ o.defines = [hi] ∧ o.views = [] ∧ o.introduced = [hi])
    (ho' : o'.targets = [hi] ∧ o'.views = [] ∧ o'.introduced = [])
    (h : δ.Good u lo hi) (hlo : lo ≤ hi) :
    ({ create := o :: δ.create ++ [o'], update := δ.update, added := δ.added } : Delta).Good
      u lo (hi + 1) where
  wf := Delta.Wf.wrap hb hb' ⟨ho.1, ho.2.1, ho.2.2.1⟩ ⟨ho'.1, ho'.2.1⟩
    (h.wf.mono (by simp) (by simp))
  ids := by
    rw [Delta.ids_wrap o o' δ ho'.2.2, ho.2.2.2, h.ids, ← window_add hlo (Nat.le_succ hi),
      window_succ, add_comm]
    rfl
  declared := by rw [Delta.declared_wrap δ ho.2.2.1 ho'.2.1, h.declared]; rfl

theorem Delta.Good.append {u lo mid hi : Nat} {δ₁ δ₂ : Delta} (h₁ : δ₁.Good u lo mid)
    (h₂ : δ₂.Good u mid hi) (hlo : lo ≤ mid) (hhi : mid ≤ hi) : (δ₁ ++ δ₂).Good u lo hi where
  wf := h₁.wf.append (h₂.wf.mono (by simp) (by simp))
  ids := by rw [ids_append, h₁.ids, h₂.ids, window_add hlo hhi]
  declared := by rw [declared_append, units_append, h₁.declared, h₂.declared]

/-! ## Xrefs still to be introduced

A control-flow block draws some xrefs before the op that introduces them exists: the pipes
of an `@if` case are drawn with the case's template, but belong to the `Conditional` op
pushed after the last branch; the pipes of a `@for`'s track expression belong to its
`RepeaterCreate` op, pushed after the children. `Part u lo hi p δ` is `Good` with the
outstanding xrefs `p` counted in the window. -/

/-- A call that is `Good` but for the xrefs `p`, which an op still to come introduces. -/
structure Delta.Part (u lo hi : Nat) (p : Multiset Nat) (δ : Delta) : Prop where
  wf : δ.Wf u [] []
  ids : δ.ids + p = window lo hi
  declared : δ.declared = δ.units

theorem Delta.Good.part {u lo hi : Nat} {δ : Delta} (h : δ.Good u lo hi) : δ.Part u lo hi 0 :=
  ⟨h.wf, by rw [add_zero, h.ids], h.declared⟩

theorem Delta.Part.good {u lo hi : Nat} {δ : Delta} (h : δ.Part u lo hi 0) : δ.Good u lo hi :=
  ⟨h.wf, by rw [← h.ids, add_zero], h.declared⟩

theorem Delta.Part.append {u lo mid hi : Nat} {p₁ p₂ : Multiset Nat} {δ₁ δ₂ : Delta}
    (h₁ : δ₁.Part u lo mid p₁) (h₂ : δ₂.Part u mid hi p₂) (hlo : lo ≤ mid) (hhi : mid ≤ hi) :
    (δ₁ ++ δ₂).Part u lo hi (p₁ + p₂) where
  wf := h₁.wf.append (h₂.wf.mono (by simp) (by simp))
  ids := by
    rw [ids_append, ← window_add hlo hhi, ← h₁.ids, ← h₂.ids]
    ac_rfl
  declared := by rw [declared_append, units_append, h₁.declared, h₂.declared]

/-- **The op that was still to come.** Update ops that introduce the outstanding xrefs `p`
and the xrefs drawn after the part, and that refer only to what the part defined and
added, finish it. -/
theorem Delta.Part.close {u lo mid hi : Nat} {p : Multiset Nat} {δ : Delta} {d : List UpdateOp}
    (h : δ.Part u lo mid p)
    (hd : ∀ op ∈ d, ∀ x ∈ op.targets, x ∈ δ.create.flatMap CreateOp.defines)
    (hv : ∀ x ∈ d.flatMap UpdateOp.views, ∃ w ∈ δ.added, w.xref = x ∧ w.parent = some u)
    (hid : (↑(d.flatMap UpdateOp.introduced) : Multiset Nat) = p + window mid hi)
    (hmid : mid ≤ hi) (hlo : lo ≤ mid) : (δ ++ { update := d }).Good u lo hi where
  wf := h.wf.append (.ops trivial (fun op hop x hx => .inl (by simpa using hd op hop x hx))
    .nil fun x hx => by simpa using hv x (by simpa using hx))
  ids := by
    rw [ids_append, ← window_add hlo hmid, ← h.ids, add_assoc, ← hid]
    simp [Delta.ids]
  declared := by simpa [Delta.declared, Delta.units] using h.declared

/-- `f` ingests into the unit `u`: from a `WF` job in which `u` is below the counter, a run
that succeeds only appends to `u` and adds units, and what it adds is `Good`. -/
def IngestsInto (u : Nat) (f : CompilationJob → Except String CompilationJob) : Prop :=
  ∀ J J', J.WF → u < J.nextXrefId → f J = .ok J' →
    ∃ δ, Extends u J J' δ ∧ δ.Good u J.nextXrefId J'.nextXrefId

theorem Delta.Good.empty (u n : Nat) : ({} : Delta).Good u n n where
  wf := .ops trivial (fun _ h => nomatch h) .nil (fun _ h => by simp at h)
  ids := by simp [Delta.ids]
  declared := rfl

namespace IngestsInto

variable {u : Nat} {f g : CompilationJob → Except String CompilationJob}

theorem pure (u : Nat) : IngestsInto u fun J => .ok J := by
  intro J J' _ _ h
  cases h
  exact ⟨{}, .refl u J, .empty u _⟩

/-- **Sequencing.** One call into `u` after another. -/
theorem bind (hf : IngestsInto u f) (hg : IngestsInto u g) : IngestsInto u fun J => f J >>= g := by
  intro J J' hJ hu h
  obtain ⟨J₁, h₁, h₂⟩ := bind_eq_ok_iff.mp h
  obtain ⟨δ₁, e₁, g₁⟩ := hf J J₁ hJ hu h₁
  obtain ⟨δ₂, e₂, g₂⟩ := hg J₁ J' (e₁.wf hJ) (by have := e₁.le; omega) h₂
  exact ⟨_, e₁.trans hu e₂, g₁.append g₂ e₁.le e₂.le⟩

end IngestsInto

end Angular.Compiler
