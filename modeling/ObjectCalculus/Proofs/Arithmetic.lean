import Mathlib.Algebra.BigOperators.Group.List.Basic
import Mathlib.Data.Int.ModEq
import ObjectCalculus.Proofs.Meaning
import ObjectCalculus.Proofs.Operands

/-!
# Exact arithmetic of words

A word stands for the integers that it is congruent to modulo `2 ^ 64`, and adding,
multiplying or subtracting words is the same as doing so to the integers and wrapping once at
the end. So the operators of integers compute exact sums, products and differences up to that
congruence, and those of truth values what holds of all operands or of any.
-/

set_option autoImplicit false

namespace ObjectCalculus

/-- The word is the only one that is congruent to the integer modulo `2 ^ 64`. -/
def IsWord (exact : Int) (word : Int64) : Prop :=
  ∀ other : Int64, other.toInt ≡ exact [ZMOD 2 ^ 64] ↔ other = word

theorem word_of_int (exact : Int) : IsWord exact (Int64.ofInt exact) := by
  intro other
  have congruent (integer : Int) : integer.bmod (2 ^ 64) ≡ integer [ZMOD 2 ^ 64] := Int.bmod_emod
  constructor
  · intro same
    rw [← Int64.ofInt_toInt other, ← Int64.toInt_inj, Int64.toInt_ofInt, Int64.toInt_ofInt,
      ← Int.emod_bmod, ← Int.emod_bmod exact]
    exact congrArg (Int.bmod · (2 ^ 64)) same
  · rintro rfl
    rw [Int64.toInt_ofInt]
    exact congruent exact

theorem word_unique {exact : Int} {left right : Int64} (first : IsWord exact left)
    (second : IsWord exact right) : left = right :=
  (second left).mp ((first left).mpr rfl)

namespace Fold

theorem unguarded_fold {α : Type} (operation parameter : String) (combine : α → α → α)
    (first : α) (rest : List α) :
    (unguarded operation parameter combine).leftFold (first :: rest) =
      .ok (rest.foldl combine first) :=
  List.foldlM_pure

/-- Wrapping at every step comes to wrapping once. -/
theorem words_fold {combine : Int64 → Int64 → Int64} {exact : Int → Int → Int}
    (wraps : ∀ left right,
      Int64.ofInt (exact left right) = combine (Int64.ofInt left) (Int64.ofInt right))
    (first : Int64) (rest : List Int64) :
    rest.foldl combine first = Int64.ofInt ((rest.map Int64.toInt).foldl exact first.toInt) := by
  rw [List.foldl_map, ← List.foldl_hom Int64.ofInt, Int64.ofInt_toInt]
  intro total operand
  rw [wraps, Int64.ofInt_toInt]

theorem int_add_exact (first : Int64) (rest : List Int64) :
    ∃ total, intAdd.leftFold (first :: rest) = .ok total ∧
      IsWord (((first :: rest).map Int64.toInt).sum) total := by
  refine ⟨_, unguarded_fold _ _ _ first rest, ?_⟩
  rw [words_fold Int64.ofInt_add, List.map_cons, List.sum_eq_foldl, List.foldl_cons, zero_add]
  exact word_of_int _

theorem int_mul_exact (first : Int64) (rest : List Int64) :
    ∃ total, intMul.leftFold (first :: rest) = .ok total ∧
      IsWord (((first :: rest).map Int64.toInt).prod) total := by
  refine ⟨_, unguarded_fold _ _ _ first rest, ?_⟩
  rw [words_fold Int64.ofInt_mul, List.map_cons, List.prod_eq_foldl, List.foldl_cons, one_mul]
  exact word_of_int _

theorem foldl_sub (first : Int) (rest : List Int) :
    rest.foldl (fun total operand => total - operand) first = first - rest.sum := by
  induction rest generalizing first with
  | nil => rw [List.foldl_nil, List.sum_nil, Int.sub_zero]
  | cons operand rest ih => rw [List.foldl_cons, ih, List.sum_cons, sub_sub]

theorem int_sub_exact (first : Int64) (rest : List Int64) :
    ∃ total, intSub.leftFold (first :: rest) = .ok total ∧
      IsWord (first.toInt - (rest.map Int64.toInt).sum) total := by
  refine ⟨_, unguarded_fold _ _ _ first rest, ?_⟩
  rw [words_fold Int64.ofInt_sub, foldl_sub]
  exact word_of_int _

theorem bool_and_all (first : Bool) (rest : List Bool) :
    boolAnd.leftFold (first :: rest) = .ok ((first :: rest).all id) := by
  refine (unguarded_fold _ _ _ first rest).trans (congrArg Except.ok ?_)
  induction rest generalizing first with
  | nil => exact (Bool.and_true first).symm
  | cons operand rest ih =>
      rw [List.foldl_cons, ih]
      exact Bool.and_assoc first operand (rest.all id)

theorem bool_or_any (first : Bool) (rest : List Bool) :
    boolOr.leftFold (first :: rest) = .ok ((first :: rest).any id) := by
  refine (unguarded_fold _ _ _ first rest).trans (congrArg Except.ok ?_)
  induction rest generalizing first with
  | nil => exact (Bool.or_false first).symm
  | cons operand rest ih =>
      rw [List.foldl_cons, ih]
      exact Bool.or_assoc first operand (rest.any id)

end Fold

section Operators

variable {α : Type} [Carrier α] {deferring : Prop} {config : Config} {builtin : Builtin}
  {store : Store}

/-- Within the limit, the operator comes to a total that has the property. -/
def Comes (config : Config) (builtin : Builtin) (operands : List (ObjectId × α))
    (store : Store) (property : α → Prop) : Prop :=
  Fits config builtin operands store →
    ∃ total, applied config builtin operands store = .ok total ∧ property total

/-- Within the limit, the operator comes to the same for both lists of operands. -/
def Alike (config : Config) (builtin : Builtin) (left right : List (ObjectId × α))
    (store : Store) : Prop :=
  Fits config builtin left store → Fits config builtin right store →
    applied config builtin left store = applied config builtin right store

def exacts (operands : List (ObjectId × Int64)) : List Int :=
  (operands.map Prod.snd).map Int64.toInt

theorem comes_folded [LawfulCarrier α] [Operand α] {fold : Fold α} {property : α → Prop}
    {operands : List (ObjectId × α)} (role : builtin.role = .aggregate fold.aggregate)
    (parameter : fold.parameter = operandAttribute) (reachable : Reachable deferring store)
    (carries : store.graph.Carries operands)
    (folded : ∃ total, fold.leftFold (operands.map Prod.snd) = .ok total ∧ property total) :
    Comes config builtin operands store property := by
  intro fits
  obtain ⟨total, folded, holds⟩ := folded
  exact ⟨total, applied_fold role parameter reachable carries folded fits, holds⟩

/-- Where there is room for the operator, it stays within the limit. -/
theorem folded_fits [LawfulCarrier α] [Operand α] {fold : Fold α} {property : α → Prop}
    {operands : List (ObjectId × α)} (role : builtin.role = .aggregate fold.aggregate)
    (parameter : fold.parameter = operandAttribute) (reachable : Reachable deferring store)
    (carries : store.graph.Carries operands)
    (folded : ∃ total, fold.leftFold (operands.map Prod.snd) = .ok total ∧ property total)
    (room : store.HasRoom config (operands.map Prod.fst) 1) :
    Fits config builtin operands store := by
  obtain ⟨_, folded, _⟩ := folded
  exact fits_of_ok (applied_has_room role parameter reachable carries folded room)

theorem comes_alike {exact : Int} {left right : List (ObjectId × Int64)}
    (first : Comes config builtin left store (IsWord exact))
    (second : Comes config builtin right store (IsWord exact)) :
    Alike config builtin left right store := by
  intro fitsLeft fitsRight
  obtain ⟨word, comesLeft, wordLeft⟩ := first fitsLeft
  obtain ⟨other, comesRight, wordRight⟩ := second fitsRight
  rw [comesLeft, comesRight, word_unique wordLeft wordRight]

section Words

variable (config) (reachable : Reachable deferring store) {first : ObjectId × Int64}
  {rest : List (ObjectId × Int64)} (carries : store.graph.Carries (first :: rest))

include reachable carries

theorem add_comes :
    Comes config .intAdd (first :: rest) store (IsWord (exacts (first :: rest)).sum) :=
  comes_folded rfl rfl reachable carries (Fold.int_add_exact first.2 (rest.map Prod.snd))

theorem mul_comes :
    Comes config .intMul (first :: rest) store (IsWord (exacts (first :: rest)).prod) :=
  comes_folded rfl rfl reachable carries (Fold.int_mul_exact first.2 (rest.map Prod.snd))

theorem sub_comes :
    Comes config .intSub (first :: rest) store
      (IsWord (first.2.toInt - (exacts rest).sum)) :=
  comes_folded rfl rfl reachable carries (Fold.int_sub_exact first.2 (rest.map Prod.snd))

end Words

theorem carries_permuted {operands other : List (ObjectId × α)}
    (carries : store.graph.Carries operands) (permuted : operands.Perm other) :
    store.graph.Carries other :=
  fun operand member => carries operand (permuted.mem_iff.mpr member)

theorem exacts_permuted {operands other : List (ObjectId × Int64)}
    (permuted : operands.Perm other) : (exacts operands).Perm (exacts other) :=
  (permuted.map Prod.snd).map Int64.toInt

/-- Sums, products and differences are exact up to the congruence, whatever wraps on the way,
and so do not depend on the order of the operands. Conjunctions and disjunctions are those of
all operands. Each operator stays within the limit where there is room for it. -/
theorem operators_are_exact (reachable : Reachable deferring store) (config : Config) :
    (∀ (first : ObjectId × Int64) (rest : List (ObjectId × Int64)),
      store.graph.Carries (first :: rest) →
        let operands := first :: rest
        Comes config .intAdd operands store (IsWord (exacts operands).sum) ∧
          Comes config .intMul operands store (IsWord (exacts operands).prod) ∧
          Comes config .intSub operands store (IsWord (first.2.toInt - (exacts rest).sum)) ∧
          (∀ other, operands.Perm other →
            Alike config .intAdd operands other store ∧
              Alike config .intMul operands other store) ∧
          (∀ other, rest.Perm other →
            Alike config .intSub operands (first :: other) store) ∧
          (store.HasRoom config (operands.map Prod.fst) 1 →
            Fits config .intAdd operands store ∧ Fits config .intMul operands store ∧
              Fits config .intSub operands store)) ∧
      ∀ operands : List (ObjectId × Bool), operands ≠ [] → store.graph.Carries operands →
        Comes config .boolAnd operands store (· = operands.all Prod.snd) ∧
          Comes config .boolOr operands store (· = operands.any Prod.snd) ∧
          (store.HasRoom config (operands.map Prod.fst) 1 →
            Fits config .boolAnd operands store ∧ Fits config .boolOr operands store) := by
  constructor
  · intro first rest carries operands
    refine ⟨add_comes config reachable carries, mul_comes config reachable carries,
      sub_comes config reachable carries, ?_, ?_, ?_⟩
    · intro other permuted
      have there := carries_permuted carries permuted
      have exact := exacts_permuted permuted
      cases other with
      | nil => exact absurd permuted.eq_nil (List.cons_ne_nil first rest)
      | cons head tail =>
          constructor
          · apply comes_alike (add_comes config reachable carries)
            rw [exact.sum_eq]
            exact add_comes config reachable there
          · apply comes_alike (mul_comes config reachable carries)
            rw [exact.prod_eq]
            exact mul_comes config reachable there
    · intro other permuted
      have there := carries_permuted carries (permuted.cons first)
      apply comes_alike (sub_comes config reachable carries)
      rw [(exacts_permuted permuted).sum_eq]
      exact sub_comes config reachable there
    · intro room
      refine ⟨?_, ?_, ?_⟩
      · exact folded_fits rfl rfl reachable carries (Fold.int_add_exact first.2 _) room
      · exact folded_fits rfl rfl reachable carries (Fold.int_mul_exact first.2 _) room
      · exact folded_fits rfl rfl reachable carries (Fold.int_sub_exact first.2 _) room
  · intro operands nonempty carries
    cases operands with
    | nil => exact absurd rfl nonempty
    | cons first rest =>
        have conjoined : ∃ total, Fold.boolAnd.leftFold ((first :: rest).map Prod.snd) = .ok total ∧
            total = (first :: rest).all Prod.snd := by
          refine ⟨_, Fold.bool_and_all first.2 (rest.map Prod.snd), ?_⟩
          rw [List.all_cons, List.all_map, List.all_cons]
          rfl
        have disjoined : ∃ total, Fold.boolOr.leftFold ((first :: rest).map Prod.snd) = .ok total ∧
            total = (first :: rest).any Prod.snd := by
          refine ⟨_, Fold.bool_or_any first.2 (rest.map Prod.snd), ?_⟩
          rw [List.any_cons, List.any_map, List.any_cons]
          rfl
        refine ⟨?_, ?_, fun room => ⟨?_, ?_⟩⟩
        · exact comes_folded rfl rfl reachable carries conjoined
        · exact comes_folded rfl rfl reachable carries disjoined
        · exact folded_fits rfl rfl reachable carries conjoined room
        · exact folded_fits rfl rfl reachable carries disjoined room

end Operators

def Store.brim : Store :=
  let word := (Store.empty.addLeaf (.fixed (.int Int64.maxValue))).2
  (word.addLeaf (.fixed (.int 1))).2

theorem brim_reachable : Reachable False Store.brim := by
  have start : Reachable False .empty := .refl
  exact reachable_leaf (reachable_leaf start (.int Int64.maxValue)) (.int 1)

theorem brim_carries :
    Store.brim.graph.Carries [((⟨0⟩ : ObjectId), Int64.maxValue), (⟨1⟩, 1)] := by
  have word : Store.brim.Holds ⟨0⟩ (.leaf (.fixed (.int Int64.maxValue))) := rfl
  have one : Store.brim.Holds ⟨1⟩ (.leaf (.fixed (.int 1))) := rfl
  intro operand member
  simp only [List.mem_cons, List.not_mem_nil, or_false] at member
  rcases member with rfl | rfl
  · exact .leaf ⟨_, word, rfl⟩
  · exact .leaf ⟨_, one, rfl⟩

/-- The sum lies beyond the words and wraps to the least of them, in either order. -/
theorem brim_wraps :
    let operands := [((⟨0⟩ : ObjectId), Int64.maxValue), (⟨1⟩, 1)]
    Reachable False Store.brim ∧ Store.brim.graph.Carries operands ∧
      Fits .default .intAdd operands Store.brim ∧
      (exacts operands).sum = 2 ^ 63 ∧ IsWord (2 ^ 63) Int64.minValue ∧
      applied .default .intAdd operands Store.brim = .ok Int64.minValue ∧
      applied .default .intAdd operands.reverse Store.brim = .ok Int64.minValue := by
  intro operands
  have fits : Fits .default .intAdd operands Store.brim := by
    have added : applied .default .intAdd operands Store.brim = .ok (Int64.maxValue + 1) := rfl
    intro limit
    rw [added]
    exact nofun
  have fitsReversed : Fits .default .intAdd operands.reverse Store.brim := by
    have added : applied .default .intAdd operands.reverse Store.brim =
        .ok (1 + Int64.maxValue) := rfl
    intro limit
    rw [added]
    exact nofun
  obtain ⟨comes, _, _, alike, _⟩ :=
    (operators_are_exact brim_reachable .default).1 _ _ brim_carries
  obtain ⟨total, added, word⟩ := comes fits
  have sum : (exacts operands).sum = 2 ^ 63 := rfl
  have least : IsWord (2 ^ 63) Int64.minValue := word_of_int (2 ^ 63)
  have same : total = Int64.minValue := word_unique (sum ▸ word) least
  subst same
  have reversed := (alike operands.reverse (List.reverse_perm operands).symm).1 fits fitsReversed
  exact ⟨brim_reachable, brim_carries, fits, sum, least, added, reversed.symm.trans added⟩

end ObjectCalculus
