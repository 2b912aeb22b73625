import Angular.Compiler.Ingest
import Angular.Compiler.Delta

/-!
# Angular.Compiler.IngestSound.Convert

**Which xrefs expression conversion draws.** `convertAst` changes nothing in the job but the
counter, and the xrefs it draws are exactly those of the pipes in the expression it returns,
in order (`convertAst_drew`). The same holds for the lists of expressions that
`convertAstWithInterpolation` and `makeListenerHandlerOps` convert, and for `mapJob` over
any step that draws the xrefs of its result.
-/

namespace Angular.Compiler

section

variable (imports : Imports)

/-! ## Expressions -/

mutual
theorem convertAst_drew : ∀ (a : AST) {J : CompilationJob} {base p},
    convertAst imports a J base = .ok p → Drew J p.2 p.1.pipeIds
  | .astWithSource _ ast, _, _, _, h => by
    rw [convertAst] at h; exact convertAst_drew ast h
  | .propertyRead _ r name, J, _, _, h => by
    simp only [convertAst] at h
    split at h
    · cases h; exact Drew.nil J
    · simp only [bind_eq_ok_iff] at h
      obtain ⟨⟨_, _⟩, h₁, h⟩ := h
      cases h; exact (convertAst_drew r h₁ :)
  | .propertyWrite _ r _ v, J, _, _, h => by
    simp only [convertAst] at h
    split at h
    · simp only [bind_eq_ok_iff] at h
      obtain ⟨⟨_, _⟩, h₁, h⟩ := h
      cases h; simpa using convertAst_drew v h₁
    · simp only [bind_eq_ok_iff] at h
      obtain ⟨⟨_, _⟩, h₁, ⟨_, _⟩, h₂, h⟩ := h
      cases h; exact (convertAst_drew r h₁).trans (convertAst_drew v h₂)
  | .keyedWrite _ r k v, J, _, _, h => by
    simp only [convertAst, bind_eq_ok_iff] at h
    obtain ⟨⟨_, _⟩, h₁, ⟨_, _⟩, h₂, ⟨_, _⟩, h₃, h⟩ := h
    cases h
    exact ((convertAst_drew r h₁).trans (convertAst_drew k h₂)).trans (convertAst_drew v h₃)
  | .call _ r as, J, _, _, h => by
    simp only [convertAst] at h
    split at h
    · cases h
    · simp only [bind_eq_ok_iff] at h
      obtain ⟨⟨_, _⟩, h₁, ⟨_, _⟩, h₂, h⟩ := h
      cases h; exact (convertAst_drew r h₁).trans (convertAstList_drew as h₂)
  | .literalPrimitive .., J, _, _, h => by
    rw [convertAst] at h; cases h; exact Drew.nil J
  | .unary _ _ x, J, _, _, h => by
    simp only [convertAst] at h
    split at h
    · simp only [bind_eq_ok_iff] at h
      obtain ⟨⟨_, _⟩, h₁, h⟩ := h
      cases h; exact (convertAst_drew x h₁ :)
    · split at h
      · simp only [bind_eq_ok_iff] at h
        obtain ⟨⟨_, _⟩, h₁, h⟩ := h
        cases h; exact (convertAst_drew x h₁ :)
      · cases h
  | .binary _ op l r, J, _, _, h => by
    simp only [convertAst] at h
    split at h
    · cases h
    · simp only [bind_eq_ok_iff] at h
      obtain ⟨⟨_, _⟩, h₁, ⟨_, _⟩, h₂, h⟩ := h
      cases h; exact (convertAst_drew l h₁).trans (convertAst_drew r h₂)
  | .thisReceiver _, J, _, _, h => by
    rw [convertAst] at h; cases h; exact Drew.nil J
  | .keyedRead _ r k, J, _, _, h => by
    simp only [convertAst, bind_eq_ok_iff] at h
    obtain ⟨⟨_, _⟩, h₁, ⟨_, _⟩, h₂, h⟩ := h
    cases h
    exact (convertAst_drew r h₁).trans (convertAst_drew k h₂)
  | .chain .., J, _, _, h => by
    rw [convertAst] at h; cases h
  | .literalMap _ keys values, J, _, _, h => by
    simp only [convertAst, bind_eq_ok_iff] at h
    obtain ⟨⟨_, _⟩, h₁, h⟩ := h
    cases h; exact convertLiteralMapEntries_drew keys values h₁
  | .literalArray _ xs, J, _, _, h => by
    simp only [convertAst, bind_eq_ok_iff] at h
    obtain ⟨⟨_, _⟩, h₁, h⟩ := h
    cases h; exact convertAstList_drew xs h₁
  | .conditional _ c t f, J, _, _, h => by
    simp only [convertAst, bind_eq_ok_iff] at h
    obtain ⟨⟨_, _⟩, h₁, ⟨_, _⟩, h₂, ⟨_, _⟩, h₃, h⟩ := h
    cases h
    exact ((convertAst_drew c h₁).trans (convertAst_drew t h₂)).trans (convertAst_drew f h₃)
  | .nonNullAssert _ x, _, _, _, h => by
    rw [convertAst] at h; exact convertAst_drew x h
  | .bindingPipe _ x _ as, J, _, _, h => by
    simp only [convertAst, bind_eq_ok_iff] at h
    obtain ⟨⟨_, _⟩, h₁, ⟨_, _⟩, h₂, h⟩ := h
    cases h
    exact (Drew.allocateXrefId J).trans
      ((convertAst_drew x h₁).trans (convertAstList_drew as h₂))
  | .safeKeyedRead _ r k, J, _, _, h => by
    simp only [convertAst, bind_eq_ok_iff] at h
    obtain ⟨⟨_, _⟩, h₁, ⟨_, _⟩, h₂, h⟩ := h
    cases h
    exact (convertAst_drew r h₁).trans (convertAst_drew k h₂)
  | .safePropertyRead _ r _, J, _, _, h => by
    simp only [convertAst, bind_eq_ok_iff] at h
    obtain ⟨⟨_, _⟩, h₁, h⟩ := h
    cases h; exact (convertAst_drew r h₁ :)
  | .safeCall _ r as, J, _, _, h => by
    simp only [convertAst, bind_eq_ok_iff] at h
    obtain ⟨⟨_, _⟩, h₁, ⟨_, _⟩, h₂, h⟩ := h
    cases h; exact (convertAst_drew r h₁).trans (convertAstList_drew as h₂)
  | .emptyExpr _, J, _, _, h => by
    rw [convertAst] at h; cases h; exact Drew.nil J
  | .prefixNot _ x, J, _, _, h => by
    simp only [convertAst, bind_eq_ok_iff] at h
    obtain ⟨⟨_, _⟩, h₁, h⟩ := h
    cases h; exact (convertAst_drew x h₁ :)
  | .implicitReceiver _, J, _, _, h | .interpolation .., J, _, _, h => by
    rw [convertAst] at h; cases h

theorem convertAstList_drew : ∀ (as : List AST) {J : CompilationJob} {base p},
    convertAstList imports as J base = .ok p → Drew J p.2 (Expression.pipeIdsList p.1)
  | [], J, _, _, h => by
    rw [convertAstList] at h; cases h; exact Drew.nil J
  | a :: as, J, _, _, h => by
    simp only [convertAstList, bind_eq_ok_iff] at h
    obtain ⟨⟨_, _⟩, h₁, ⟨_, _⟩, h₂, h⟩ := h
    cases h
    exact (convertAst_drew a h₁).trans (convertAstList_drew as h₂)

theorem convertLiteralMapEntries_drew : ∀ (keys : List LiteralMapKey) (values : List AST)
    {J : CompilationJob} {base p},
    convertLiteralMapEntries imports keys values J base = .ok p →
      Drew J p.2 (Expression.pipeIdsEntries p.1)
  | [], [], J, _, _, h | [], _ :: _, J, _, _, h => by
    rw [convertLiteralMapEntries] at h; cases h; exact Drew.nil J
  | _ :: _, [], J, _, _, h => by
    rw [convertLiteralMapEntries] at h; cases h
  | _ :: keys, v :: values, J, _, _, h => by
    simp only [convertLiteralMapEntries, bind_eq_ok_iff] at h
    obtain ⟨⟨_, _⟩, h₁, ⟨_, _⟩, h₂, h⟩ := h
    cases h
    exact (convertAst_drew v h₁).trans (convertLiteralMapEntries_drew keys values h₂)
end

/-! ## Binding values and listener handlers -/

theorem convertAstWithInterpolation_drew {J : CompilationJob} {value : BindingValue}
    {i18nMeta : Option I18nMeta} {span : Option ParseSourceSpan} {p}
    (h : convertAstWithInterpolation imports J value i18nMeta span = .ok p) :
    Drew J p.2 p.1.pipeIds := by
  unfold convertAstWithInterpolation at h
  split at h
  · simp only [bind_eq_ok_iff] at h
    obtain ⟨⟨_, _⟩, h₁, _, -, _, hi, h⟩ := h
    obtain ⟨_, rfl⟩ := Interpolation.eq_of_new hi
    cases h; exact (convertAstList_drew imports _ h₁ :)
  · simp only [bind_eq_ok_iff] at h
    obtain ⟨⟨_, _⟩, h₁, h⟩ := h
    cases h; exact (convertAst_drew imports _ h₁ :)
  · cases h; exact Drew.nil J

/-- The statements of a handler have the pipes of its expressions: every expression but the
last as a statement, the last returned. -/
theorem handlerStatements_pipeIds (es : List Expression) :
    (es.dropLast.map (fun e => Statement.expression e e.sourceSpan) ++
      [Statement.return (es.getLast?.getD (.empty none))
        (es.getLast?.getD (.empty none)).sourceSpan]).flatMap
        Statement.pipeIds = Expression.pipeIdsList es := by
  rcases List.eq_nil_or_concat es with rfl | ⟨L, b, rfl⟩
  · simp [Statement.pipeIds, Expression.pipeIds]
  · simp [Statement.pipeIds, Expression.pipeIdsList_eq_flatMap, List.flatMap_map]

theorem makeListenerHandlerOps_drew {J : CompilationJob} {handler : AST}
    {span : ParseSourceSpan} {p} (h : makeListenerHandlerOps imports J handler span = .ok p) :
    Drew J p.2 (p.1.flatMap Statement.pipeIds) := by
  simp only [makeListenerHandlerOps] at h
  split_ifs at h
  · cases h
  simp only [bind_eq_ok_iff, pure_bind] at h
  obtain ⟨⟨_, _⟩, h₁, h⟩ := h
  cases h
  rw [handlerStatements_pipeIds]
  exact (convertAstList_drew imports _ h₁ :)

/-- `asts.map(...)` has one expression per AST. -/
theorem convertAstList_length :
    ∀ {as : List AST} {J : CompilationJob} {base : Option ParseSourceSpan} {xs : List Expression}
      {J' : CompilationJob}, convertAstList imports as J base = .ok (xs, J') → xs.length = as.length
  | [], _, _, _, _, h => by cases h; rfl
  | a :: as, J, base, xs, J', h => by
    simp only [convertAstList, bind_eq_ok_iff] at h
    obtain ⟨⟨x, J₁⟩, -, ⟨ys, J₂⟩, h₂, h⟩ := h
    cases h
    simp [convertAstList_length h₂]

end

/-! ## Threading the job through a list -/

/-- `mapJob` over a step that draws the xrefs `ids` of its result, and whose results satisfy
`P`, draws the xrefs of its results in order, and they all satisfy `P`. -/
theorem mapJob_spec {α β : Type} {f : α → CompilationJob → Except String (β × CompilationJob)}
    (ids : β → List Nat) (P : β → Prop)
    (hf : ∀ x J p, f x J = .ok p → Drew J p.2 (ids p.1) ∧ P p.1) :
    ∀ (xs : List α) {J p}, mapJob f xs J = .ok p → Drew J p.2 (p.1.flatMap ids) ∧ ∀ y ∈ p.1, P y
  | [], J, _, h => by cases h; exact ⟨Drew.nil J, by simp⟩
  | x :: xs, J, _, h => by
    simp only [mapJob, bind_eq_ok_iff] at h
    obtain ⟨⟨_, _⟩, h₁, ⟨_, _⟩, h₂, h⟩ := h
    cases h
    obtain ⟨d₁, p₁⟩ := hf x J _ h₁
    obtain ⟨d₂, p₂⟩ := mapJob_spec ids P hf xs h₂
    exact ⟨d₁.trans d₂, by simpa [p₁] using p₂⟩

/-- `mapJob` over a step that keeps an invariant `Q` of the job and relates its input to its
result by `R` keeps `Q`, and relates the inputs to the results pairwise. -/
theorem mapJob_forall₂ {α β : Type} {f : α → CompilationJob → Except String (β × CompilationJob)}
    (Q : CompilationJob → Prop) (R : α → β → Prop)
    (hf : ∀ x J p, f x J = .ok p → Q J → Q p.2 ∧ R x p.1) :
    ∀ (xs : List α) {J p}, mapJob f xs J = .ok p → Q J → Q p.2 ∧ List.Forall₂ R xs p.1
  | [], J, _, h, hq => by cases h; exact ⟨hq, .nil⟩
  | x :: xs, J, _, h, hq => by
    simp only [mapJob, bind_eq_ok_iff] at h
    obtain ⟨⟨_, _⟩, h₁, ⟨_, _⟩, h₂, h⟩ := h
    cases h
    obtain ⟨q₁, r₁⟩ := hf x J _ h₁ hq
    obtain ⟨q₂, r₂⟩ := mapJob_forall₂ Q R hf xs h₂ q₁
    exact ⟨q₂, .cons r₁ r₂⟩

/-- `mapJob` over a step that keeps an invariant `Q` of the job, and whose result satisfies `R`
when its input satisfies `P`: every result satisfies `R` when every input satisfies `P`. -/
theorem mapJob_all {α β : Type} {f : α → CompilationJob → Except String (β × CompilationJob)}
    (Q : CompilationJob → Prop) (P : α → Prop) (R : β → Prop)
    (hf : ∀ x J p, f x J = .ok p → Q J → Q p.2 ∧ (P x → R p.1)) :
    ∀ {xs : List α}, (∀ x ∈ xs, P x) → ∀ {J p}, mapJob f xs J = .ok p → Q J →
      Q p.2 ∧ ∀ y ∈ p.1, R y
  | [], _, J, _, h, hq => by cases h; exact ⟨hq, by simp⟩
  | x :: xs, hxs, J, _, h, hq => by
    simp only [mapJob, bind_eq_ok_iff] at h
    obtain ⟨⟨_, _⟩, h₁, ⟨_, _⟩, h₂, h⟩ := h
    cases h
    obtain ⟨q₁, r₁⟩ := hf x J _ h₁ hq
    obtain ⟨q₂, r₂⟩ := mapJob_all Q P R hf (fun y hy => hxs y (List.mem_cons_of_mem _ hy)) h₂ q₁
    exact ⟨q₂, List.forall_mem_cons.mpr ⟨r₁ (hxs x (List.mem_cons_self _ _)), r₂⟩⟩

/-- The results of a `mapM` in `Except` are results of the step. -/
theorem mapM_spec {α β : Type} {f : α → Except String β} (P : β → Prop)
    (hf : ∀ x y, f x = .ok y → P y) : ∀ (xs : List α) {ys}, xs.mapM f = .ok ys → ∀ y ∈ ys, P y
  | [], _, h => by cases h; simp
  | x :: xs, _, h => by
    simp only [List.mapM_cons, bind_eq_ok_iff] at h
    obtain ⟨y, h₁, ys, h₂, h⟩ := h
    cases h
    simpa [hf x y h₁] using mapM_spec P hf xs h₂

/-- Each result of a `mapM` in `Except` is the step's result on one of the inputs. -/
theorem mem_mapM {α β : Type} {f : α → Except String β} :
    ∀ {xs : List α} {ys : List β}, xs.mapM f = .ok ys → ∀ y ∈ ys, ∃ x ∈ xs, f x = .ok y
  | [], _, h => by cases h; simp
  | x :: xs, _, h => by
    simp only [List.mapM_cons, bind_eq_ok_iff] at h
    obtain ⟨y, h₁, ys, h₂, h⟩ := h
    cases h
    intro z hz
    rcases List.mem_cons.mp hz with rfl | hz
    · exact ⟨x, List.mem_cons_self _ _, h₁⟩
    · obtain ⟨w, hw, hf⟩ := mem_mapM h₂ z hz
      exact ⟨w, List.mem_cons_of_mem _ hw, hf⟩

/-- A `foldlM` over the job whose every step keeps an invariant keeps it. -/
theorem foldlM_inv {α : Type} {f : CompilationJob → α → Except String CompilationJob}
    (I : CompilationJob → Prop) :
    ∀ {xs : List α}, (∀ x ∈ xs, ∀ J J', f J x = .ok J' → I J → I J') →
      ∀ {J J'}, xs.foldlM f J = .ok J' → I J → I J'
  | [], _, J, _, h, hI => by cases h; exact hI
  | x :: xs, hf, J, _, h, hI => by
    simp only [List.foldlM_cons, bind_eq_ok_iff] at h
    obtain ⟨J₁, h₁, h⟩ := h
    exact foldlM_inv I (fun y hy => hf y (List.mem_cons_of_mem _ hy)) h
      (hf x (List.mem_cons_self _ _) J J₁ h₁ hI)

end Angular.Compiler
