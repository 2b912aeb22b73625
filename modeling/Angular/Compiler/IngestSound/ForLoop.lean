import Angular.Compiler.IngestSound.Component

/-!
# Angular.Compiler.IngestSound.ForLoop

**Each `@for` level reads its own index and count.** `ingestForBlock` defines, besides the
user's names, `ɵ<$index>_<view>` and `ɵ<$count>_<view>` in the repeater view it allocates,
and the four aliases `$first`, `$last`, `$even`, `$odd` of that view read exactly these two.

The names tell the views apart because `forLoopVarName` is injective
(`forLoopVarName_injective`): the numeral after the last underscore is the view's xref, since a
decimal numeral has no underscore, and what stands before it is the name. The repeater views
of one job have distinct xrefs (`CompilationJob.WF`), so no two of them share an internal
name, whatever loops enclose them or stand beside them (`forLoop_names_own_view`).

## Proof shape

`toString` on `Nat` is `Nat.toDigitsCore 10`; reading its digits back with `readDigits`
(a left fold, as the parser reads a numeral) gives the number, which makes `toString`
injective. The loop result then splits the sibling list around the `@for` node with
`ingestNodes_append`, takes the repeater view from `ingestForBlock_spec`, and follows it to
the end of the siblings with `Extends.appendOps_mem`, which keeps its variables and aliases.
-/

namespace Angular.Compiler

/-! ## Decimal numerals -/

/-- No decimal digit is an underscore. -/
theorem digitChar_ne_underscore {k : Nat} (h : k < 10) : Nat.digitChar k ≠ '_' :=
  (by decide : ∀ k, k < 10 → Nat.digitChar k ≠ '_') k h

/-- One step of `Nat.toDigitsCore` in base ten. -/
theorem toDigitsCore_succ (fuel n : Nat) (ds : List Char) :
    Nat.toDigitsCore 10 (fuel + 1) n ds =
      if n / 10 = 0 then Nat.digitChar (n % 10) :: ds
      else Nat.toDigitsCore 10 fuel (n / 10) (Nat.digitChar (n % 10) :: ds) := rfl

theorem underscore_not_mem_toDigitsCore :
    ∀ (fuel n : Nat) (ds : List Char), '_' ∉ ds → '_' ∉ Nat.toDigitsCore 10 fuel n ds
  | 0, _, _, h => h
  | fuel + 1, n, ds, h => by
    have hd : '_' ∉ Nat.digitChar (n % 10) :: ds := List.not_mem_cons_of_ne_of_not_mem
      (digitChar_ne_underscore (Nat.mod_lt n (by decide))).symm h
    rw [toDigitsCore_succ]
    split
    · exact hd
    · exact underscore_not_mem_toDigitsCore fuel _ _ hd

/-- The value of a decimal digit. -/
def digitValue (c : Char) : Nat := c.toNat - '0'.toNat

/-- The number a list of decimal digits spells, most significant first, after `acc`. -/
def readDigits (acc : Nat) : List Char → Nat
  | [] => acc
  | c :: cs => readDigits (acc * 10 + digitValue c) cs

theorem readDigits_cons (acc : Nat) (c : Char) (cs : List Char) :
    readDigits acc (c :: cs) = readDigits (acc * 10 + digitValue c) cs := rfl

theorem digitValue_digitChar {k : Nat} (h : k < 10) : digitValue (Nat.digitChar k) = k :=
  (by decide : ∀ k, k < 10 → digitValue (Nat.digitChar k) = k) k h

theorem readDigits_toDigitsCore :
    ∀ (fuel n : Nat) (ds : List Char), n < fuel →
      readDigits 0 (Nat.toDigitsCore 10 fuel n ds) = readDigits n ds
  | 0, _, _, h => absurd h (Nat.not_lt_zero _)
  | fuel + 1, n, ds, h => by
    have hv := digitValue_digitChar (Nat.mod_lt n (by decide : 10 > 0))
    have hn : n / 10 * 10 + n % 10 = n := Nat.div_add_mod' n 10
    rw [toDigitsCore_succ]
    split
    · have h1 : n % 10 = n := by omega
      rw [readDigits_cons, hv, h1, Nat.zero_mul, Nat.zero_add]
    · rw [readDigits_toDigitsCore fuel (n / 10) _ (by omega), readDigits_cons, hv, hn]

/-- A decimal numeral determines its number. -/
theorem toString_nat_injective {a b : Nat} (h : toString a = toString b) : a = b := by
  have h' : readDigits 0 (Nat.toDigitsCore 10 (a + 1) a []) =
      readDigits 0 (Nat.toDigitsCore 10 (b + 1) b []) := congrArg (fun s => readDigits 0 s.data) h
  rwa [readDigits_toDigitsCore _ _ _ (Nat.lt_succ_self _),
    readDigits_toDigitsCore _ _ _ (Nat.lt_succ_self _)] at h'

/-! ## The internal names -/

/-- The first occurrence of an element splits a list at one place only. -/
theorem append_cons_eq_of_not_mem {α : Type} {c : α} :
    ∀ {a a' b b' : List α}, c ∉ a → c ∉ a' → a ++ c :: b = a' ++ c :: b' → a = a' ∧ b = b'
  | [], [], _, _, _, _, h => ⟨rfl, List.cons_injective h⟩
  | [], d :: _, _, _, _, h', h => absurd ((List.cons.inj h).1 ▸ List.mem_cons_self d _) h'
  | d :: _, [], _, _, h, _, h' => absurd ((List.cons.inj h').1 ▸ List.mem_cons_self d _) h
  | d :: a, d' :: a', b, b', h, h', he => by
    simp only [List.cons_append, List.cons.injEq] at he
    obtain ⟨rfl, rfl⟩ := append_cons_eq_of_not_mem (List.not_mem_of_not_mem_cons h)
      (List.not_mem_of_not_mem_cons h') he.2
    exact ⟨he.1 ▸ rfl, rfl⟩

theorem forLoopVarName_data_reverse (name : String) (view : Nat) :
    (forLoopVarName name view).data.reverse =
      (toString view).data.reverse ++ '_' :: (name.data.reverse ++ ['ɵ']) := by
  show (['ɵ'] ++ name.data ++ ['_'] ++ (toString view).data).reverse = _
  simp only [List.reverse_append, List.reverse_cons, List.reverse_singleton, List.append_assoc,
    List.singleton_append, List.cons_append, List.nil_append]

/-- **The suffixed names are injective**: read from the end, the numeral up to the first
underscore is the view's xref, and the rest is the name. -/
theorem forLoopVarName_injective {n₁ n₂ : String} {x₁ x₂ : Nat}
    (h : forLoopVarName n₁ x₁ = forLoopVarName n₂ x₂) : n₁ = n₂ ∧ x₁ = x₂ := by
  have h' := congrArg (fun s : String => s.data.reverse) h
  simp only [forLoopVarName_data_reverse] at h'
  have hd : ∀ x : Nat, '_' ∉ (toString x).data.reverse := fun x =>
    List.mem_reverse.not.mpr (underscore_not_mem_toDigitsCore _ _ _ (List.not_mem_nil _))
  obtain ⟨hx, hn⟩ := append_cons_eq_of_not_mem (hd x₁) (hd x₂) h'
  exact ⟨String.ext (List.reverse_injective (List.append_cancel_right hn)),
    toString_nat_injective (String.ext (List.reverse_injective hx))⟩

/-- The keys after `mapSet` are the old ones and the key set. -/
theorem mem_keys_mapSet {β : Type} (entries : List (String × β)) (key k : String) (value : β) :
    k ∈ (mapSet entries key value).map (·.1) ↔ k = key ∨ k ∈ entries.map (·.1) := by
  unfold mapSet
  split
  · rename_i h
    have hk : (entries.map fun e => if e.1 == key then (key, value) else e).map (·.1) =
        entries.map (·.1) := by
      rw [List.map_map]
      exact List.map_congr_left fun e _ => by by_cases he : e.1 = key <;> simp [he]
    obtain ⟨e, he, hek⟩ := List.any_eq_true.mp h
    have hkey : key ∈ entries.map (·.1) := List.mem_map.mpr ⟨e, he, beq_iff_eq.mp hek⟩
    rw [hk]
    exact ⟨Or.inr, fun hk' => hk'.elim (· ▸ hkey) id⟩
  · simp [or_comm]

/-! ## Loops in a template -/

section

variable (imports : Imports)

/-- **Each loop's names are its own.** Wherever a `@for` block stands among the siblings of a
unit, the siblings leave a repeater view `v` under that unit whose internal names are among its
context variables and whose four aliases read exactly these names; no other view of the job
has an internal name equal to one of `v`'s, whatever name it is built from. -/
theorem forLoop_names_own_view {u : Nat} {pre post children : List Node}
    {forBlock : ForLoopBlock} {empty : Option (ForLoopBlockEmpty × List Node)}
    {J J' : CompilationJob} (hJ : J.WF) (hu : u ∈ J.xrefs)
    (h : ingestNodes imports u (pre ++ .forLoopBlock forBlock children empty :: post) J = .ok J') :
    ∃ v ∈ J'.views, v.parent = some u ∧
      (∀ w ∈ J'.views, ∀ a b, forLoopVarName a w.xref = forLoopVarName b v.xref →
        a = b ∧ w = v) ∧
      forLoopVarName forBlock.contextVariables.«$index».name v.xref ∈
        v.contextVariables.map (·.1) ∧
      forLoopVarName forBlock.contextVariables.«$count».name v.xref ∈
        v.contextVariables.map (·.1) ∧
      v.aliases =
        let index := Expression.lexicalRead
          (forLoopVarName forBlock.contextVariables.«$index».name v.xref)
        let count := Expression.lexicalRead
          (forLoopVarName forBlock.contextVariables.«$count».name v.xref)
        let lit (n : Int) := Expression.literal (.number n) none
        [⟨forBlock.contextVariables.«$first».name, .binaryOperator .identical index (lit 0) none⟩,
         ⟨forBlock.contextVariables.«$last».name, .binaryOperator .identical index
           (.binaryOperator .minus count (lit 1) none) none⟩,
         ⟨forBlock.contextVariables.«$even».name, .binaryOperator .identical
           (.binaryOperator .modulo index (lit 2) none) (lit 0) none⟩,
         ⟨forBlock.contextVariables.«$odd».name, .binaryOperator .notIdentical
           (.binaryOperator .modulo index (lit 2) none) (lit 0) none⟩] := by
  have hu₀ := hJ.lt_of_mem hu
  obtain ⟨J₁, h₁, h'⟩ := bind_eq_ok_iff.mp ((ingestNodes_append imports u pre _ J).symm.trans h)
  obtain ⟨J₂, h₂, h₃⟩ := bind_eq_ok_iff.mp h'
  -- The siblings before the loop, the loop, and the siblings after it.
  obtain ⟨δ₁, e₁, -⟩ := ingestNodes_into imports pre u J J₁ hJ hu₀ h₁
  obtain ⟨δ₂, e₂, -, w, hw, hx, hp, hcv, hal⟩ := ingestForBlock_spec imports
    (fun v => ingestNodes_into imports children v) (closeForEmpty_into imports empty)
    (e₁.wf hJ) (hu₀.trans_le e₁.le) h₂
  obtain ⟨δ₃, e₃, -⟩ := ingestNodes_into imports post u J₂ J' (e₂.wf (e₁.wf hJ))
    ((hu₀.trans_le e₁.le).trans_le e₂.le) h₃
  have hv := e₃.appendOps_mem (e₂.mem_added hw)
  refine ⟨_, hv, by simpa using hp, fun w' hw' a b hab => ?_, ?_, ?_, ?_⟩
  · obtain ⟨rfl, hxw⟩ := forLoopVarName_injective hab
    exact ⟨rfl, List.inj_on_of_nodup_map (e₃.wf (e₂.wf (e₁.wf hJ))).nodup hw' hv hxw⟩
  all_goals simp only [appendOps_contextVariables, appendOps_aliases, appendOps_xref, hcv, hal,
    hx, mem_keys_mapSet, true_or, or_true]

end

/-- `@for (…) {a} @for (…) {@for (…) {a}} a`: the middle loop has a sibling loop before it and
a loop nested in its body. -/
def nestedLoops : List Node :=
  [.forLoopBlock literalLoop [textA] none,
   .forLoopBlock literalLoop [.forLoopBlock literalLoop [textA] none] none, textA]

/-- The job after the first loop of `nestedLoops`. -/
def nestedJob₁ : CompilationJob :=
  ((ingestNode Imports.plain 0 (.forLoopBlock literalLoop [textA] none) componentJob).toOption).getD
    componentJob

/-- The job after the second loop, with the loop in its body. -/
def nestedJob₂ : CompilationJob :=
  ((ingestNode Imports.plain 0 (.forLoopBlock literalLoop [.forLoopBlock literalLoop [textA] none] none)
    nestedJob₁).toOption).getD nestedJob₁

/-- The job after the closing text. -/
def nestedJob₃ : CompilationJob :=
  ((ingestNode Imports.plain 0 textA nestedJob₂).toOption).getD nestedJob₂

/-- `nestedLoops` ingests, one node after the other, into four units: the root and one
repeater view per loop. -/
theorem nestedLoops_ingests :
    ingestNodes Imports.plain 0 nestedLoops componentJob = .ok nestedJob₃ ∧
      nestedJob₃.views.length = 4 := by
  have h₁ : ingestNode Imports.plain 0 (.forLoopBlock literalLoop [textA] none) componentJob =
    .ok nestedJob₁ := rfl
  have h₂ : ingestNode Imports.plain 0
    (.forLoopBlock literalLoop [.forLoopBlock literalLoop [textA] none] none) nestedJob₁ =
    .ok nestedJob₂ := rfl
  have h₃ : ingestNode Imports.plain 0 textA nestedJob₂ = .ok nestedJob₃ := rfl
  exact ⟨((ingestNodes_cons_of_ok _ h₁).trans (ingestNodes_cons_of_ok _ h₂)).trans
    (ingestNodes_cons_of_ok _ h₃), rfl⟩

theorem forLoop_names_own_view_nested :
    componentJob.WF ∧ 0 ∈ componentJob.xrefs ∧
    ∃ J', ingestNodes Imports.plain 0 nestedLoops componentJob = .ok J' ∧
      J'.views.length = 4 ∧
      ∃ v ∈ J'.views, v.parent = some 0 ∧
      (∀ w ∈ J'.views, ∀ a b, forLoopVarName a w.xref = forLoopVarName b v.xref →
        a = b ∧ w = v) ∧
      forLoopVarName "$index" v.xref ∈ v.contextVariables.map (·.1) ∧
      forLoopVarName "$count" v.xref ∈ v.contextVariables.map (·.1) ∧
      v.aliases =
        let index := Expression.lexicalRead (forLoopVarName "$index" v.xref)
        let count := Expression.lexicalRead (forLoopVarName "$count" v.xref)
        let lit (n : Int) := Expression.literal (.number n) none
        [⟨"$first", .binaryOperator .identical index (lit 0) none⟩,
         ⟨"$last", .binaryOperator .identical index
           (.binaryOperator .minus count (lit 1) none) none⟩,
         ⟨"$even", .binaryOperator .identical
           (.binaryOperator .modulo index (lit 2) none) (lit 0) none⟩,
         ⟨"$odd", .binaryOperator .notIdentical
           (.binaryOperator .modulo index (lit 2) none) (lit 0) none⟩] :=
  ⟨CompilationJob.component_wf _ _ _, List.mem_singleton_self 0, _, nestedLoops_ingests.1,
    nestedLoops_ingests.2,
    @forLoop_names_own_view Imports.plain 0 [.forLoopBlock literalLoop [textA] none] [textA]
      [.forLoopBlock literalLoop [textA] none] literalLoop none _ _
      (CompilationJob.component_wf _ _ _) (List.mem_singleton_self 0) nestedLoops_ingests.1⟩

end Angular.Compiler
