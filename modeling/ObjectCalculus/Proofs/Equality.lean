import ObjectCalculus.Value.Basic
import ObjectCalculus.Proofs.Numbers
import Mathlib.Data.List.Forall2

/-!
# Equality of values

Two values are equal if they are built alike from equal parts. Floating parts are equal if they
stand for the same number, which no NaN does, so that a value is equal to itself unless there is a
NaN in it.
-/

set_option autoImplicit false

namespace ObjectCalculus

namespace Value

/-- Built alike from parts that are the same. Floating parts are the same number, and patterns
have the same text. -/
inductive Same : Value → Value → Prop
  | int (number : Int64) : Same (.int number) (.int number)
  | float {left right : Binary64} {number : Number} (leftNumber : left.number? = some number)
      (rightNumber : right.number? = some number) : Same (.float left) (.float right)
  | bool (truth : Bool) : Same (.bool truth) (.bool truth)
  | bytes (octets : List UInt8) : Same (.bytes octets) (.bytes octets)
  | string (text : String) : Same (.string text) (.string text)
  | char (character : Char) : Same (.char character) (.char character)
  | pattern {left right : Pattern} (source : left.source = right.source) :
      Same (.pattern left) (.pattern right)
  | array {lefts rights : List Value} (items : List.Forall₂ Same lefts rights) :
      Same (.array lefts) (.array rights)

/-- The value itself, or one within an item of it. -/
inductive Occurs (part : Value) : Value → Prop
  | here : Occurs part part
  | item {items : List Value} {item : Value} (member : item ∈ items)
      (within : Occurs part item) : Occurs part (.array items)

section Same

variable {left middle right : Value} {lefts middles rights : List Value}

theorem equal_kind (equal : left.equal right = true) : left.kind = right.kind := by
  cases left <;> cases right
  case int.int | float.float | bool.bool | bytes.bytes | string.string | char.char |
      pattern.pattern | array.array => rfl
  all_goals cases equal

theorem equal_items_iff (lefts rights : List Value) :
    equalItems lefts rights = true ↔
      List.Forall₂ (fun left right => left.equal right = true) lefts rights := by
  induction lefts generalizing rights with
  | nil => cases rights <;> simp [equalItems]
  | cons left lefts ih => cases rights <;> simp [equalItems, ih]

theorem items_imp {related implied : Value → Value → Prop}
    (imp : ∀ left ∈ lefts, ∀ right, related left right → implied left right)
    (items : List.Forall₂ related lefts rights) : List.Forall₂ implied lefts rights :=
  ((List.forall₂_and_left lefts rights).mpr ⟨imp, items⟩).imp fun _ right both =>
    both.1 right both.2

theorem same_of_scalar (scalar : left.kind ≠ .array) (equal : left.equal right = true) :
    Same left right := by
  have kinds := equal_kind equal
  cases left <;> cases right <;> cases kinds
  case array.array.refl => exact absurd rfl scalar
  case float.float.refl left right =>
    obtain ⟨number, leftNumber, rightNumber⟩ := (Binary64.equal_iff left right).mp equal
    exact .float leftNumber rightNumber
  case pattern.pattern.refl left right =>
    exact .pattern (congrArg Pattern.source (eq_of_beq equal))
  all_goals
    cases eq_of_beq equal
    constructor

theorem same_of_equal (equal : left.equal right = true) : Same left right := by
  induction left using nested_induction generalizing right with
  | scalar left scalar => exact same_of_scalar scalar equal
  | array lefts ih =>
      cases right with
      | array rights =>
          exact .array (items_imp (fun left member _ => ih left member)
            ((equal_items_iff lefts rights).mp equal))
      | _ => cases equal

theorem equal_of_same (same : Same left right) : left.equal right = true := by
  induction left using nested_induction generalizing right with
  | scalar left scalar =>
      cases same with
      | float leftNumber rightNumber =>
          exact (Binary64.equal_iff _ _).mpr ⟨_, leftNumber, rightNumber⟩
      | pattern source => exact beq_iff_eq.mpr (congrArg Pattern.mk source)
      | array => exact absurd rfl scalar
      | _ => exact beq_self_eq_true _
  | array lefts ih =>
      cases same with
      | array items => exact (equal_items_iff _ _).mpr (items_imp ih items)

theorem same_symm (same : Same left right) : Same right left := by
  induction left using nested_induction generalizing right with
  | scalar left scalar =>
      cases same with
      | float leftNumber rightNumber => exact .float rightNumber leftNumber
      | pattern source => exact .pattern source.symm
      | array => exact absurd rfl scalar
      | _ => constructor
  | array lefts ih =>
      cases same with
      | array items => exact .array (List.Forall₂.flip (items_imp ih items))

theorem items_trans
    (trans : ∀ left ∈ lefts, ∀ middle right, Same left middle → Same middle right →
      Same left right)
    (first : List.Forall₂ Same lefts middles) (second : List.Forall₂ Same middles rights) :
    List.Forall₂ Same lefts rights := by
  induction first generalizing rights with
  | nil => exact second
  | cons head tail ih =>
      cases second with
      | cons next others =>
          obtain ⟨here, later⟩ := List.forall_mem_cons.mp trans
          exact .cons (here _ _ head next) (ih later others)

theorem same_trans (first : Same left middle) (second : Same middle right) : Same left right := by
  induction left using nested_induction generalizing middle right with
  | scalar left scalar =>
      cases first with
      | float leftNumber middleNumber =>
          cases second with
          | float again rightNumber =>
              -- The word in the middle stands for one number only.
              cases middleNumber.symm.trans again
              exact .float leftNumber rightNumber
      | pattern source =>
          cases second with
          | pattern next => exact .pattern (source.trans next)
      | array => exact absurd rfl scalar
      | _ => exact second
  | array lefts ih =>
      cases first with
      | array items =>
          cases second with
          | array others =>
              exact .array (items_trans (fun left member _ _ => ih left member) items others)

theorem same_self_of_scalar {value : Value} (scalar : value.kind ≠ .array) :
    Same value value ↔ ∀ word, Occurs (.float word) value → word.isNaN = false := by
  constructor
  · intro same word occurs
    cases occurs with
    | here =>
        cases same with
        | float number _ => exact word.number_exists_iff.mp ⟨_, number⟩
    | item => exact absurd rfl scalar
  · intro absent
    cases value with
    | float word =>
        obtain ⟨number, stands⟩ := word.number_exists_iff.mpr (absent word .here)
        exact .float stands stands
    | pattern expression => exact .pattern rfl
    | array => exact absurd rfl scalar
    | _ => constructor

theorem same_self_iff (value : Value) :
    Same value value ↔ ∀ word, Occurs (.float word) value → word.isNaN = false := by
  induction value using nested_induction with
  | scalar value scalar => exact same_self_of_scalar scalar
  | array items ih =>
      calc
        Same (.array items) (.array items) ↔ ∀ item ∈ items, Same item item := by
          rw [← List.forall₂_same]
          exact ⟨fun | .array same => same, .array⟩
        _ ↔ ∀ item ∈ items, ∀ word, Occurs (.float word) item → word.isNaN = false :=
          forall₂_congr ih
        _ ↔ ∀ word, Occurs (.float word) (.array items) → word.isNaN = false := by
          constructor
          · rintro absent word (_ | ⟨member, within⟩)
            exact absent _ member word within
          · intro absent item member word within
            exact absent word (.item member within)

end Same

end Value

/-- Equality of values is symmetric and transitive, and a value is equal to itself if and only if
no NaN occurs anywhere in it. Equal values are those that are built alike from the same parts, so
they are of one kind. -/
theorem equality_fails_on_nan_alone :
    (∀ left right : Value, left.equal right = true → right.equal left = true) ∧
      (∀ left middle right : Value, left.equal middle = true → middle.equal right = true →
        left.equal right = true) ∧
      (∀ value : Value, value.equal value = true ↔
        ∀ word, Value.Occurs (.float word) value → word.isNaN = false) ∧
      (∀ left right : Value, left.equal right = true ↔ Value.Same left right) ∧
      ∀ left right : Value, left.equal right = true → left.kind = right.kind := by
  have decides (left right : Value) : left.equal right = true ↔ Value.Same left right :=
    ⟨Value.same_of_equal, Value.equal_of_same⟩
  refine ⟨?_, ?_, ?_, decides, fun _ _ => Value.equal_kind⟩
  · intro left right
    rw [decides, decides]
    exact Value.same_symm
  · intro left middle right
    rw [decides, decides, decides]
    exact Value.same_trans
  · intro value
    rw [decides]
    exact Value.same_self_iff value

def Value.measured (word : Binary64) : Value :=
  .array [.array [.float word, .pattern ⟨"^a+$"⟩], .int 1]

theorem measured_zeros_equal :
    let plus := Value.measured ⟨0⟩
    let minus := Value.measured ⟨0x8000000000000000⟩
    plus.equal minus = true ∧ minus.equal plus = true ∧ plus.equal plus = true ∧
      Value.Same plus minus ∧ plus.kind = minus.kind := by
  intro plus minus
  obtain ⟨symmetric, transitive, _, same, kinds⟩ := equality_fails_on_nan_alone
  have equal : plus.equal minus = true := by decide
  have back : minus.equal plus = true := symmetric plus minus equal
  exact ⟨equal, back, transitive plus minus plus equal back, (same plus minus).mp equal,
    kinds plus minus equal⟩

example :
    let unordered := Value.measured ⟨0x7ff8000000000001⟩
    unordered.equal unordered = false := by
  decide

end ObjectCalculus
