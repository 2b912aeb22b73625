import Angular.Compiler.Ir
import Mathlib.Data.Multiset.Range
import Mathlib.Data.Multiset.Nodup

/-!
# Angular.Compiler.IrFacts

**What an op says about xrefs.** The accessors that the invariants of ingestion are stated
with:

* `introduced`: the xrefs an op brings into being: its own, for the ops that stand for an
  element, a text, a projection, an i18n block, an ICU, a `@defer` block or an i18n
  attributes op, and those of the pipes (`ir.PipeBindingExpr`) in its expressions;
* `defines` / `targets`: the xrefs an op makes addressable in its unit, and those it
  addresses (`ElementEnd` addresses its `ElementStart`, a listener its element, ...);
* `declares` / `views`: the child views an op declares (`Template`, `RepeaterCreate`) and
  the views it refers to;
* `bracket`: the bracket token of a start or end op, and `Balanced`, the Dyck language of
  the create list's brackets.

A unit's own xref is introduced by the unit; `Template` and `RepeaterCreate` ops carry
the xrefs of the views they declare and introduce none of their own.
-/

namespace Angular.Compiler

/-! ## Pipes in expressions -/

mutual

/-- The xrefs of the pipes in an expression, in the order `convertAst` allocates them. -/
def Expression.pipeIds : Expression → List Nat
  | .lexicalRead _ | .context _ | .literal .. | .empty _ => []
  | .readProp r _ _ | .safePropertyRead r _ | .unaryOperator _ r _ | .not r _ => r.pipeIds
  | .writeProp r _ v _ | .readKey r v _ | .safeKeyedRead r v _ | .binaryOperator _ r v _ =>
    r.pipeIds ++ v.pipeIds
  | .writeKey r k v _ | .conditional r k v _ => r.pipeIds ++ k.pipeIds ++ v.pipeIds
  | .invokeFunction f as _ | .safeInvokeFunction f as => f.pipeIds ++ Expression.pipeIdsList as
  | .literalMap entries _ => Expression.pipeIdsEntries entries
  | .literalArray entries => Expression.pipeIdsList entries
  | .pipeBinding x _ args => x :: Expression.pipeIdsList args

/-- The pipes of a list of expressions. -/
def Expression.pipeIdsList : List Expression → List Nat
  | [] => []
  | e :: es => e.pipeIds ++ Expression.pipeIdsList es

/-- The pipes of the values of a literal map. -/
def Expression.pipeIdsEntries : List (LiteralMapKey × Expression) → List Nat
  | [] => []
  | (_, e) :: es => e.pipeIds ++ Expression.pipeIdsEntries es

end

@[simp] theorem Expression.pipeIdsList_nil : Expression.pipeIdsList [] = [] := rfl

@[simp] theorem Expression.pipeIdsList_cons (e : Expression) (es : List Expression) :
    Expression.pipeIdsList (e :: es) = e.pipeIds ++ Expression.pipeIdsList es := rfl

theorem Expression.pipeIdsList_eq_flatMap (es : List Expression) :
    Expression.pipeIdsList es = es.flatMap Expression.pipeIds := by
  induction es <;> simp_all

/-- The pipes of a statement of a listener's handler. -/
def Statement.pipeIds : Statement → List Nat
  | .expression e _ | .return e _ => e.pipeIds

/-- The pipes of a binding's value. -/
def BindingExpression.pipeIds : BindingExpression → List Nat
  | .expression e => e.pipeIds
  | .interpolation i => Expression.pipeIdsList i.expressions

/-! ## Create ops -/

namespace CreateOp

/-- The xrefs a create op introduces. -/
def introduced : CreateOp → List Nat
  | elementStart op => [op.xref]
  | text x .. | projection x .. | i18nStart x .. | i18nAttributes x _ | icuStart x _ => [x]
  | defer op => [op.xref]
  | listener op => op.handlerOps.flatMap Statement.pipeIds
  | repeaterCreate op => op.track.pipeIds
  | extractedAttribute op => (op.expression.map Expression.pipeIds).getD []
  | elementEnd .. | template _ | i18nEnd .. | icuEnd _ | deferOn .. => []

/-- The xrefs a create op makes addressable by the ops of its unit. -/
def defines : CreateOp → List Nat
  | elementStart op => [op.xref]
  | template op => [op.xref]
  | text x .. | projection x .. | i18nStart x .. | icuStart x _ => [x]
  | repeaterCreate op => op.xref :: op.emptyView.toList
  | defer op => [op.xref]
  | _ => []

/-- The xrefs a create op addresses as its target. -/
def targets : CreateOp → List Nat
  | elementEnd x _ | i18nEnd x _ | icuEnd x => [x]
  | listener op => [op.target]
  | extractedAttribute op => [op.target]
  | i18nAttributes _ target => [target]
  | deferOn x .. => [x]
  | _ => []

/-- The child views a create op declares. -/
def declares : CreateOp → List Nat
  | template op => [op.xref]
  | repeaterCreate op => op.xref :: op.emptyView.toList
  | _ => []

/-- The views a create op refers to: those it declares, and the main and placeholder views
of a `@defer` block. -/
def views : CreateOp → List Nat
  | template op => [op.xref]
  | repeaterCreate op => op.xref :: op.emptyView.toList
  | defer op => op.mainView :: op.placeholderView.toList
  | _ => []

theorem declares_eq_nil {op : CreateOp} (h : op.views = []) : op.declares = [] := by
  cases op <;> simp_all [views, declares]

/-- A view an op declares is one it refers to. -/
theorem mem_views_of_mem_declares {op : CreateOp} {x : Nat} (h : x ∈ op.declares) :
    x ∈ op.views := by
  cases op <;> simp_all [views, declares]

end CreateOp

/-! ## Update ops -/

/-- The pipes of a conditional's case. -/
def ConditionalCaseExpr.pipeIds (c : ConditionalCaseExpr) : List Nat :=
  (c.expr.map Expression.pipeIds).getD []

namespace UpdateOp

/-- The xrefs an update op introduces: those of the pipes in its expressions. -/
def introduced : UpdateOp → List Nat
  | binding op => op.expression.pipeIds
  | interpolateText _ i _ => Expression.pipeIdsList i.expressions
  | conditional _ _ test conditions _ =>
    (test.map Expression.pipeIds).getD [] ++ conditions.flatMap ConditionalCaseExpr.pipeIds
  | repeater _ _ collection _ => collection.pipeIds
  | deferWhen _ e _ _ => e.pipeIds

/-- The xrefs an update op addresses: its target (the anchor of a conditional when it has
one) and the views of a conditional's cases. -/
def targets : UpdateOp → List Nat
  | binding op => [op.target]
  | interpolateText x .. | repeater x .. | deferWhen x .. => [x]
  | conditional target _ _ conditions _ => target.toList ++ conditions.map (·.target)

/-- The views an update op refers to: the cases of a conditional. -/
def views : UpdateOp → List Nat
  | conditional _ _ _ conditions _ => conditions.map (·.target)
  | _ => []

end UpdateOp

/-! ## Units and jobs -/

namespace ViewCompilationUnit

/-- The xrefs a unit introduces: its own and those of its ops. -/
def introduced (v : ViewCompilationUnit) : List Nat :=
  v.xref :: (v.create.flatMap CreateOp.introduced ++ v.update.flatMap UpdateOp.introduced)

/-- The xrefs made addressable by the unit's create list. -/
def defined (v : ViewCompilationUnit) : List Nat :=
  v.create.flatMap CreateOp.defines

/-- The child views the unit's create list declares. -/
def declared (v : ViewCompilationUnit) : List Nat :=
  v.create.flatMap CreateOp.declares

/-- The views the unit's ops refer to. -/
def viewRefs (v : ViewCompilationUnit) : List Nat :=
  v.create.flatMap CreateOp.views ++ v.update.flatMap UpdateOp.views

end ViewCompilationUnit

namespace CompilationJob

/-- Every xref the job introduces, unit by unit. -/
def introduced (job : CompilationJob) : List Nat :=
  job.views.flatMap ViewCompilationUnit.introduced

/-- The xrefs of the job's units. -/
def xrefs (job : CompilationJob) : List Nat :=
  job.views.map (·.xref)

end CompilationJob

/-- The xrefs `lo, lo + 1, ..., hi - 1`, as a multiset. -/
def window (lo hi : Nat) : Multiset Nat :=
  ↑(List.range' lo (hi - lo))

theorem window_add {lo mid hi : Nat} (h₁ : lo ≤ mid) (h₂ : mid ≤ hi) :
    window lo mid + window mid hi = window lo hi := by
  obtain ⟨a, rfl⟩ := Nat.exists_eq_add_of_le h₁
  obtain ⟨b, rfl⟩ := Nat.exists_eq_add_of_le h₂
  rw [window, window, window, Multiset.coe_add, Nat.add_sub_cancel_left, Nat.add_sub_cancel_left,
    List.range'_append_1, Nat.add_assoc, Nat.add_sub_cancel_left, Nat.add_comm b]

@[simp] theorem window_self (n : Nat) : window n n = 0 := by
  simp [window]

theorem window_succ (n : Nat) : window n (n + 1) = {n} := by
  simp [window]

theorem window_cons {lo hi : Nat} (h : lo < hi) : window lo hi = lo ::ₘ window (lo + 1) hi := by
  rw [← window_add (Nat.le_succ lo) h, window_succ, Multiset.singleton_add]

theorem window_nodup (lo hi : Nat) : (window lo hi).Nodup :=
  Multiset.coe_nodup.mpr (List.nodup_range' _ _)

theorem mem_window {lo hi x : Nat} : x ∈ window lo hi ↔ lo ≤ x ∧ x < hi := by
  simp only [window, Multiset.mem_coe, List.mem_range'_1]
  omega

/-! ## Bracket tokens -/

/-- The three kinds of start/end pairs of a create list. -/
inductive BracketKind where
  | element | i18n | icu
  deriving Repr, DecidableEq

/-- A start or end op, as a bracket token. -/
inductive Bracket where
  | opening (kind : BracketKind) (xref : Nat)
  | closing (kind : BracketKind) (xref : Nat)
  deriving Repr, DecidableEq

/-- The bracket token of a start or end op. -/
def CreateOp.bracket : CreateOp → Option Bracket
  | elementStart op => some (.opening .element op.xref)
  | elementEnd x _ => some (.closing .element x)
  | i18nStart x .. => some (.opening .i18n x)
  | i18nEnd x _ => some (.closing .i18n x)
  | icuStart x _ => some (.opening .icu x)
  | icuEnd x => some (.closing .icu x)
  | _ => none

/-- The bracket tokens of a create list. -/
def brackets (ops : List CreateOp) : List Bracket :=
  ops.filterMap CreateOp.bracket

@[simp] theorem brackets_nil : brackets [] = [] := rfl

@[simp] theorem brackets_append (a b : List CreateOp) :
    brackets (a ++ b) = brackets a ++ brackets b :=
  List.filterMap_append _ _ _

@[simp] theorem brackets_cons (op : CreateOp) (ops : List CreateOp) :
    brackets (op :: ops) = op.bracket.toList ++ brackets ops := by
  cases h : op.bracket <;> simp [brackets, List.filterMap_cons, h]

/-- Well-nested bracket tokens (a Dyck word over typed, named brackets): every start is
closed by the end of the same kind and xref, and no two pairs cross. -/
inductive Balanced : List Bracket → Prop where
  | nil : Balanced []
  | append {a b} : Balanced a → Balanced b → Balanced (a ++ b)
  | wrap {a} (kind : BracketKind) (xref : Nat) :
      Balanced a → Balanced (.opening kind xref :: a ++ [.closing kind xref])

/-- The xrefs of the start tokens of a word. -/
def openings : List Bracket → List Nat
  | [] => []
  | .opening _ x :: w => x :: openings w
  | .closing .. :: w => openings w

@[simp] theorem openings_append (a b : List Bracket) :
    openings (a ++ b) = openings a ++ openings b := by
  induction a with
  | nil => rfl
  | cons t a ih => cases t <;> simp [openings, ih]

/-- A start token stands for a start op, which introduces its xref. -/
theorem openings_brackets_sublist :
    ∀ ops : List CreateOp, (openings (brackets ops)).Sublist (ops.flatMap CreateOp.introduced)
  | [] => .slnil
  | op :: ops => by
    rw [brackets_cons, openings_append, List.flatMap_cons]
    refine .append ?_ (openings_brackets_sublist ops)
    cases op <;> simp [CreateOp.bracket, openings, CreateOp.introduced]

/-! ## References within a unit -/

/-- `refsBound defs ops`: every target of an op of `ops` is in `defs` or defined by an
earlier op of `ops`. -/
def refsBound : List Nat → List CreateOp → Prop
  | _, [] => True
  | defs, op :: ops => (∀ x ∈ op.targets, x ∈ defs) ∧ refsBound (defs ++ op.defines) ops

theorem refsBound_mono : ∀ {d d' : List Nat} {ops : List CreateOp},
    (∀ x ∈ d, x ∈ d') → refsBound d ops → refsBound d' ops
  | _, _, [], _, _ => trivial
  | _, _, _ :: _, hd, ⟨h, hs⟩ =>
    ⟨fun x hx => hd x (h x hx),
      refsBound_mono (fun x hx => by simp only [List.mem_append] at hx ⊢; tauto) hs⟩

theorem refsBound_append {a b : List CreateOp} : ∀ {d : List Nat},
    refsBound d (a ++ b) ↔ refsBound d a ∧ refsBound (d ++ a.flatMap CreateOp.defines) b := by
  induction a with
  | nil => simp [refsBound]
  | cons op a ih => simp [refsBound, ih, and_assoc]

/-- The references of a unit are closed: every target of a create op is defined by an
earlier create op, and every target of an update op by some create op. -/
def ViewCompilationUnit.RefsClosed (v : ViewCompilationUnit) : Prop :=
  refsBound [] v.create ∧ ∀ op ∈ v.update, ∀ x ∈ op.targets, x ∈ v.defined

/-- An entry of `mapSet entries key value` is the one set or an old one. -/
theorem mem_mapSet {β : Type} {entries : List (String × β)} {key : String} {value : β}
    {kv : String × β} (h : kv ∈ mapSet entries key value) : kv = (key, value) ∨ kv ∈ entries := by
  unfold mapSet at h
  split at h
  · obtain ⟨e, he, rfl⟩ := List.mem_map.mp h
    split
    · exact .inl rfl
    · exact .inr he
  · rcases List.mem_append.mp h with h | h
    · exact .inr h
    · exact .inl (List.mem_singleton.mp h)

/-- An entry of a map built by successive sets is an entry of the start or one that was set. -/
theorem mem_foldl_mapSet {β : Type} :
    ∀ {kvs entries : List (String × β)} {kv : String × β},
      kv ∈ kvs.foldl (fun entries kv => mapSet entries kv.1 kv.2) entries → kv ∈ kvs ∨ kv ∈ entries
  | [], _, _, h => .inr h
  | kv' :: kvs, entries, kv, h => by
    rcases @mem_foldl_mapSet β kvs (mapSet entries kv'.1 kv'.2) kv h with h | h
    · exact .inl (List.mem_cons_of_mem _ h)
    rcases mem_mapSet h with rfl | h
    · exact .inl (List.mem_cons_self _ _)
    · exact .inr h

end Angular.Compiler
