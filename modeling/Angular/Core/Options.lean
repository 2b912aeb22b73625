import Mathlib.Data.List.Nodup

/-!
# Angular.Core.Options

The two option mergers of `application_ref.ts`. `optionsReducer(dst, objs)` merges option
objects with object spread, `{...dst, ...objs}`, and an array of them with
`objs.reduce(optionsReducer, dst)`, which checks each element with `Array.isArray` again.
`_lastDefined(args)` is the last element of `args` that is not `undefined`;
`compileNgModuleFactory` merges the `defaultEncapsulation` and `preserveWhitespaces` fields
of the compiler options with it, one field at a time.

A JavaScript object is given by its own enumerable string-keyed properties in creation order,
each holding a value or `undefined` (`JsObject`); its keys are distinct by construction.
Spread copies the properties of each source in order with `CreateDataProperty`, which
overwrites an existing key in place and adds a new one last.

The results: a key of `optionsReducer(dst, objs)` holds what it holds in the last of the
merged objects that has it as an own property, `undefined` included, and what it holds in
`dst` otherwise (`get?_optionsReducer`); `_lastDefined` returns the last defined element
(`lastDefined_eq_findSome?`); and the two mergers read the same field value whenever no
option object sets that field to `undefined` (`read_optionsReducer_eq_lastDefined`).
-/

namespace Angular.Core

/-- A JavaScript object by its own enumerable string-keyed properties, in creation order. A
property holds a value or `undefined` (`none`). -/
structure JsObject (V : Type) where
  props : List (String × Option V)
  nodup : (props.map Prod.fst).Nodup

namespace JsObject

variable {V : Type} {key k : String} {value : Option V}

/-- `{}`. -/
def empty : JsObject V := ⟨[], List.nodup_nil⟩

/-- The own property `key`: `none` when there is none, `some none` when it holds
`undefined`. -/
def get? (o : JsObject V) (key : String) : Option (Option V) :=
  o.props.lookup key

/-- `o[key]`: `undefined` both for a missing property and for one that holds `undefined`. -/
def read (o : JsObject V) (key : String) : Option V :=
  (o.get? key).join

theorem lookup_cons_ite {p : String × Option V} {ps : List (String × Option V)} :
    (p :: ps).lookup k = if k = p.1 then some p.2 else ps.lookup k := by
  obtain ⟨a, b⟩ := p
  rw [List.lookup_cons]
  by_cases hk : k = a
  · simp [hk]
  · simp [hk, beq_false_of_ne hk]

/-- The properties after `CreateDataProperty(o, key, value)`: an existing key keeps its place
and takes the value, a new key is added last. -/
def setProps (key : String) (value : Option V) :
    List (String × Option V) → List (String × Option V)
  | [] => [(key, value)]
  | p :: ps => if p.1 = key then (key, value) :: ps else p :: setProps key value ps

theorem mem_keys_setProps : ∀ {ps : List (String × Option V)},
    k ∈ (setProps key value ps).map Prod.fst ↔ k = key ∨ k ∈ ps.map Prod.fst
  | [] => by simp [setProps]
  | p :: ps => by
    unfold setProps
    split
    · next he => simp [he]
    · simp only [List.map_cons, List.mem_cons, mem_keys_setProps]
      exact or_left_comm

theorem nodup_setProps : ∀ {ps : List (String × Option V)}, (ps.map Prod.fst).Nodup →
    ((setProps key value ps).map Prod.fst).Nodup
  | [], _ => List.nodup_singleton key
  | p :: ps, h => by
    rw [List.map_cons, List.nodup_cons] at h
    unfold setProps
    split
    · next he => rw [List.map_cons, List.nodup_cons, ← he]; exact h
    · next hne =>
      rw [List.map_cons, List.nodup_cons, mem_keys_setProps]
      exact ⟨not_or.mpr ⟨hne, h.1⟩, nodup_setProps h.2⟩

theorem lookup_setProps : ∀ {ps : List (String × Option V)},
    (setProps key value ps).lookup k = if k = key then some value else ps.lookup k
  | [] => by rw [setProps, lookup_cons_ite]
  | p :: ps => by
    unfold setProps
    split
    · next he => subst he; by_cases hk : k = p.1 <;> simp [lookup_cons_ite, hk]
    · next hne =>
      by_cases hk : k = p.1
      · simp [lookup_cons_ite, hk, hne]
      · simp only [lookup_cons_ite, hk, lookup_setProps, if_false]

/-- `CreateDataProperty(o, key, value)`. -/
def set (o : JsObject V) (key : String) (value : Option V) : JsObject V :=
  ⟨setProps key value o.props, nodup_setProps o.nodup⟩

@[simp] theorem get?_empty : (empty : JsObject V).get? k = none := rfl

@[simp] theorem get?_set (o : JsObject V) :
    (o.set key value).get? k = if k = key then some value else o.get? k :=
  lookup_setProps

/-- `CopyDataProperties(target, source)`: the properties of `source`, in order, each created
on `target`. -/
def copyDataProperties (target source : JsObject V) : JsObject V :=
  source.props.foldl (fun t p => t.set p.1 p.2) target

/-- Creating a list of properties in order leaves a key with its last value. -/
theorem get?_foldl_set : ∀ (ps : List (String × Option V)) (target : JsObject V),
    (ps.foldl (fun t p => t.set p.1 p.2) target).get? k =
      (ps.reverse.lookup k).or (target.get? k)
  | [], _ => rfl
  | p :: ps, target => by
    rw [List.foldl_cons, get?_foldl_set ps, get?_set, List.reverse_cons, List.lookup_append,
      Option.or_assoc]
    by_cases hk : k = p.1 <;> simp [lookup_cons_ite, hk]

/-- In a list with distinct keys the last and the first property of a key are the same. -/
theorem lookup_reverse : ∀ {ps : List (String × Option V)}, (ps.map Prod.fst).Nodup →
    ps.reverse.lookup k = ps.lookup k
  | [], _ => rfl
  | p :: ps, h => by
    rw [List.map_cons, List.nodup_cons] at h
    rw [List.reverse_cons, List.lookup_append, lookup_reverse h.2]
    by_cases hk : k = p.1
    · subst hk
      have hn : ps.lookup p.1 = none := List.lookup_eq_none_iff.mpr fun q hq => by
        rw [bne_iff_ne]
        exact fun he => h.1 (he ▸ List.mem_map_of_mem Prod.fst hq)
      simp [lookup_cons_ite, hn]
    · simp [lookup_cons_ite, hk]

theorem get?_copyDataProperties (target source : JsObject V) :
    (copyDataProperties target source).get? k = (source.get? k).or (target.get? k) := by
  rw [copyDataProperties, get?_foldl_set, lookup_reverse source.nodup]; rfl

/-- `{...dst, ...objs}`: a new object, with the properties of `dst` copied in, then those
of `objs`. -/
def spread (dst objs : JsObject V) : JsObject V :=
  copyDataProperties (copyDataProperties empty dst) objs

theorem get?_spread (dst objs : JsObject V) :
    (spread dst objs).get? k = (objs.get? k).or (dst.get? k) := by
  rw [spread, get?_copyDataProperties, get?_copyDataProperties, get?_empty, Option.or_none]

end JsObject

open JsObject

/-- The second argument of `optionsReducer`, `T|T[]`: an options object, or an array whose
elements `reduce` hands to `optionsReducer` again. -/
inductive OptionsArg (V : Type) where
  | object (o : JsObject V)
  | array (objs : List (OptionsArg V))

section

variable {V : Type}

mutual

/-- `optionsReducer(dst, objs)`. -/
def optionsReducer (dst : JsObject V) : OptionsArg V → JsObject V
  | .array objs => reduceOptions dst objs
  | .object objs => spread dst objs

/-- `objs.reduce(optionsReducer, dst)`. -/
def reduceOptions (dst : JsObject V) : List (OptionsArg V) → JsObject V
  | [] => dst
  | obj :: objs => reduceOptions (optionsReducer dst obj) objs

end

mutual

/-- The option objects of an argument, in the order `optionsReducer` merges them. -/
def OptionsArg.objects : OptionsArg V → List (JsObject V)
  | .object o => [o]
  | .array objs => OptionsArg.objectsList objs

def OptionsArg.objectsList : List (OptionsArg V) → List (JsObject V)
  | [] => []
  | obj :: objs => obj.objects ++ OptionsArg.objectsList objs

end

theorem findSome?_singleton {α β : Type} (f : α → Option β) (a : α) : [a].findSome? f = f a := by
  rw [List.findSome?_cons]
  cases f a <;> rfl

theorem OptionsArg.objectsList_map_object :
    ∀ objs : List (JsObject V), OptionsArg.objectsList (objs.map .object) = objs
  | [] => rfl
  | o :: objs => congrArg (o :: ·) (objectsList_map_object objs)

mutual

/-- **The last object that has the key wins.** A key of `optionsReducer(dst, objs)` holds
what it holds in the last of the merged objects that has it as an own property, `undefined`
included, and what it holds in `dst` when none has it. -/
theorem get?_optionsReducer (dst : JsObject V) (key : String) : ∀ arg : OptionsArg V,
    (optionsReducer dst arg).get? key =
      (arg.objects.reverse.findSome? (·.get? key)).or (dst.get? key)
  | .object o => by
    rw [optionsReducer, get?_spread, OptionsArg.objects, List.reverse_singleton,
      findSome?_singleton]
  | .array objs => by
    rw [optionsReducer, OptionsArg.objects, get?_reduceOptions]

theorem get?_reduceOptions (dst : JsObject V) (key : String) : ∀ objs : List (OptionsArg V),
    (reduceOptions dst objs).get? key =
      ((OptionsArg.objectsList objs).reverse.findSome? (·.get? key)).or (dst.get? key)
  | [] => rfl
  | obj :: objs => by
    rw [reduceOptions, get?_reduceOptions _ _ objs, get?_optionsReducer dst key obj,
      OptionsArg.objectsList, List.reverse_append, List.findSome?_append, Option.or_assoc]

end

end

/-- `_lastDefined(args)`. -/
def _lastDefined {α : Type} (args : List (Option α)) : Option α :=
  loop args.length
where
  /-- The loop from index `i - 1` down to `0`. -/
  loop : Nat → Option α
    | 0 => none
    | i + 1 =>
      match args[i]? with
      | some (some a) => some a
      | _ => loop i

theorem lastDefined_loop {α : Type} (args : List (Option α)) :
    ∀ i, _lastDefined.loop args i = (args.take i).reverse.findSome? id
  | 0 => by rw [List.take_zero]; rfl
  | i + 1 => by
    rw [_lastDefined.loop, List.take_succ, List.reverse_append, List.findSome?_append,
      ← lastDefined_loop args i]
    rcases args[i]? with _ | _ | a <;> rfl

/-- `_lastDefined` returns the last element that is not `undefined`. -/
theorem lastDefined_eq_findSome? {α : Type} (args : List (Option α)) :
    _lastDefined args = args.reverse.findSome? id := by
  rw [_lastDefined, lastDefined_loop, List.take_length]

section

variable {V : Type}

/-- Reading a key of the first object that has it gives the first defined value, when no
object holds `undefined` under the key. -/
theorem findSome?_read {key : String} : ∀ {objs : List (JsObject V)},
    (∀ o ∈ objs, o.get? key ≠ some none) →
      (objs.findSome? (·.get? key)).join = objs.findSome? (·.read key)
  | [], _ => rfl
  | o :: objs, h => by
    rw [List.findSome?_cons, List.findSome?_cons, JsObject.read]
    rcases ho : o.get? key with _ | _ | v
    · exact findSome?_read fun o' ho' => h o' (List.mem_cons_of_mem _ ho')
    · exact absurd ho (h o (List.mem_cons_self _ _))
    · rfl

/-- **The two mergers agree on a field nobody sets to `undefined`.** Merging `dst` and
the option objects with `optionsReducer` and reading a field gives what `_lastDefined` gives
over that field's values, as `compileNgModuleFactory` merges it, when none of the objects
holds `undefined` under the field. -/
theorem read_optionsReducer_eq_lastDefined (dst : JsObject V) (objs : List (JsObject V))
    (key : String) (h : ∀ o ∈ dst :: objs, o.get? key ≠ some none) :
    (optionsReducer dst (.array (objs.map .object))).read key =
      _lastDefined ((dst :: objs).map (·.read key)) := by
  have hr := findSome?_read fun o ho => h o (List.mem_reverse.mp ho)
  simp only [List.reverse_cons, List.findSome?_append, findSome?_singleton] at hr
  rw [JsObject.read, get?_optionsReducer, OptionsArg.objects, OptionsArg.objectsList_map_object,
    lastDefined_eq_findSome?, ← List.map_reverse, List.findSome?_map]
  simpa only [List.reverse_cons, List.findSome?_append, findSome?_singleton] using hr

/-- Compiler options that set `defaultEncapsulation`. -/
def encapsulationOptions : JsObject Nat :=
  ⟨[("defaultEncapsulation", some 0)], List.nodup_singleton _⟩

/-- Compiler options that set only `preserveWhitespaces`. -/
def whitespaceOptions : JsObject Nat :=
  ⟨[("preserveWhitespaces", some 1)], List.nodup_singleton _⟩

/-- Compiler options that hold `undefined` under `defaultEncapsulation`. -/
def undefinedEncapsulation : JsObject Nat :=
  ⟨[("defaultEncapsulation", none)], List.nodup_singleton _⟩

theorem read_optionsReducer_eq_lastDefined_compilerOptions :
    (∀ o ∈ [JsObject.empty, encapsulationOptions, whitespaceOptions],
      o.get? "defaultEncapsulation" ≠ some none) ∧
    (optionsReducer JsObject.empty
        (.array ([encapsulationOptions, whitespaceOptions].map .object))).read
          "defaultEncapsulation" =
      _lastDefined ([JsObject.empty, encapsulationOptions, whitespaceOptions].map
        (·.read "defaultEncapsulation")) :=
  ⟨by decide, read_optionsReducer_eq_lastDefined _ _ _ (by decide)⟩

/-- Options that set the field to `undefined` after one that defines it: spread keeps the
`undefined`, and `_lastDefined` skips it. -/
example :
    (optionsReducer JsObject.empty
        (.array ([encapsulationOptions, undefinedEncapsulation].map .object))).read
          "defaultEncapsulation" = none ∧
      _lastDefined ([JsObject.empty, encapsulationOptions, undefinedEncapsulation].map
        (·.read "defaultEncapsulation")) = some 0 := by
  decide

end

end Angular.Core
