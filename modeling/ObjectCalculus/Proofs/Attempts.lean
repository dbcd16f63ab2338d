import ObjectCalculus.Proofs.Isolation

/-!
# Exact attempts

An attempt to bind is decided by the one slot that it is made on. Where that slot is open
it takes the value, and the store differs in that slot and in one event; where it is not,
the store is the same. An extension is such an attempt on a copy, whose variadic slots are
open again.
-/

set_option autoImplicit false

namespace ObjectCalculus

namespace Slot

/-- One more value fits, at the given position where there is one. A free slot has no
position but the first. -/
def Open (index? : Option Nat) : Slot → Prop
  | .free cell => cell.content = none ∧ ∀ index ∈ index?, index = 0
  | .variadic items isSealed => isSealed = false ∧ ∀ index ∈ index?, index = items.length
  | .composite .. => False

def taking (value : ObjectId) : Slot → Slot
  | .free _ => .free (.filled value)
  | .variadic items isSealed => .variadic (items ++ [value]) isSealed
  | .composite rule cache => .composite rule cache

variable {owner name : String} {value : ObjectId} {slot bound : Slot}

theorem bind_free_iff {cell : Memo ObjectId} :
    bindFree owner name cell value = .ok bound ↔
      cell.content = none ∧ bound = .free (.filled value) := by
  obtain ⟨content⟩ := cell
  cases content <;> simp [bindFree, Memo.set, eq_comm]

theorem bind_iff :
    slot.bind owner name value = .ok bound ↔ slot.Open none ∧ bound = slot.taking value := by
  cases slot with
  | free cell => simp [bind, Open, taking, bind_free_iff]
  | variadic items isSealed => cases isSealed <;> simp [bind, Open, taking, eq_comm]
  | composite => simp [bind, Open]

theorem bind_at_iff {index : Nat} :
    slot.bindAt owner name index value = .ok bound ↔
      slot.Open (some index) ∧ bound = slot.taking value := by
  cases slot with
  | free cell =>
      cases index with
      | zero => simp [bindAt, Open, taking, bind_free_iff]
      | succ index => simp [bindAt, Open]
  | variadic items isSealed =>
      cases isSealed with
      | true => simp [bindAt, Open]
      | false =>
          rcases Nat.lt_trichotomy index items.length with taken | next | gap
          · simp [bindAt, Open, taken, Nat.ne_of_lt taken]
          · simp [bindAt, Open, taking, next, eq_comm]
          · simp [bindAt, Open, Nat.lt_asymm gap, gap, Nat.ne_of_gt gap]
  | composite => simp [bindAt, Open]

/-- A copy of a slot refuses a value for what the slot is, never for having been read. -/
theorem carry_not_open :
    ¬slot.carry.Open none ↔
      (∃ rule cache, slot = .composite rule cache) ∨ ∃ bound, slot = .free ⟨some bound⟩ := by
  cases slot with
  | free cell =>
      obtain ⟨content⟩ := cell
      cases content <;> simp [carry, Open]
  | variadic => simp [carry, Open]
  | composite => simp [carry, Open]

end Slot

namespace Binding

/-- The slot has taken the value and the attempt is recorded. Nothing else is different. -/
structure Takes (binding : Binding) (before after : Store) : Prop where
  slot : ∃ found position slot,
    before.instance? binding.object = some found ∧
      found.template.position? binding.name = some position ∧
      found.slots[position]? = some slot ∧
      after.instance? binding.object =
        some { found with slots := found.slots.set position (slot.taking binding.value) }
  others {other : ObjectId} :
    other ≠ binding.object → after.object? other = before.object? other
  size : after.objects.size = before.objects.size
  events : after.events = before.events.push (binding.event (before.label binding.object))
  rest : after = { before with objects := after.objects, events := after.events }

variable {binding : Binding} {store : Store} {slot bound : Slot}

theorem place_iff {owner : String} :
    binding.place owner slot = .ok bound ↔
      slot.Open binding.index? ∧ bound = slot.taking binding.value := by
  unfold place
  cases binding.index? with
  | none => exact Slot.bind_iff
  | some index => exact Slot.bind_at_iff

/-- An attempt is placed on an open slot, and nothing comes of any other. -/
theorem attempt_cases (binding : Binding) (store : Store) :
    (∃ slot, store.slot? binding.object binding.name = some slot ∧
        slot.Open binding.index? ∧
        binding.attempt store =
          (.ok (), (store.setSlot binding.object binding.name (slot.taking binding.value)).record
            (binding.event (store.label binding.object)))) ∨
      ((∀ slot, store.slot? binding.object binding.name = some slot →
          ¬slot.Open binding.index?) ∧
        ∃ failure, binding.attempt store = (.error failure, store)) := by
  cases found : store.slot? binding.object binding.name with
  | none => exact .inr ⟨fun _ same => (nomatch same), _, attempt_unknown found⟩
  | some slot =>
      cases placed : binding.place (store.label binding.object) slot with
      | error failure =>
          refine .inr ⟨fun other same opened => ?_, failure, attempt_refused found placed⟩
          cases same
          rw [place_iff.mpr ⟨opened, rfl⟩] at placed
          cases placed
      | ok bound =>
          obtain ⟨opened, rfl⟩ := place_iff.mp placed
          exact .inl ⟨slot, rfl, opened, attempt_bound found placed⟩

theorem attempt_takes (found : store.slot? binding.object binding.name = some slot) :
    binding.Takes store
      ((store.setSlot binding.object binding.name (slot.taking binding.value)).record
        (binding.event (store.label binding.object))) where
  slot := by
    obtain ⟨instanced, composed, inside⟩ := Store.instance_of_slot found
    obtain ⟨position, placed, held⟩ := Option.bind_eq_some_iff.mp inside
    refine ⟨instanced, position, slot, composed, placed, held, ?_⟩
    refine Store.object_of_instance.mpr ((Store.object_modify _ _ _ _).trans ?_)
    rw [if_pos rfl, Store.object_of_instance.mp composed]
    simp only [Option.map_some, Object.setSlot, Instance.setSlot, placed]
  others apart := (Store.object_modify _ _ _ _).trans (if_neg apart)
  size := Array.size_modify
  events := rfl
  rest := rfl

end Binding

theorem copied_slot {store : Store} {object : ObjectId} {name : String} {found : Instance}
    {slot : Slot} (composed : store.instance? object = some found)
    (has : store.slot? object name = some slot) :
    (store.add (.composed found.copy)).2.slot? store.nextId name = some slot.carry := by
  rw [Store.slot_of_instance (instance_added store _), Instance.slot_copy,
    ← Store.slot_of_instance composed, has]
  rfl

theorem extend_refused_iff (store : Store) (object value : ObjectId) (name : String) :
    (∃ failure, (store.extend object name value).1 = .error failure) ↔
      store.slot? object name = none ∨
        (∃ rule cache, store.slot? object name = some (.composite rule cache)) ∨
        ∃ bound, store.slot? object name = some (.free ⟨some bound⟩) := by
  cases has : store.slot? object name with
  | none => simp [Store.extend, Store.require, has]
  | some slot =>
      obtain ⟨found, composed, _⟩ := Store.instance_of_slot has
      have slots := copied_slot composed has
      rw [extend_outcome composed has value]
      simp only [reduceCtorEq, Option.some.injEq, false_or, ← Slot.carry_not_open]
      rcases Binding.attempt_cases ⟨store.nextId, name, value, none⟩
        (store.add (.composed found.copy)).2 with
        ⟨taken, there, opened, made⟩ | ⟨closed, failure, refused⟩
      · cases slots.symm.trans there
        simp [made, Except.map, opened]
      · simp [refused, Except.map, closed slot.carry slots]

/-- A binding succeeds exactly on an open slot, changes that slot alone and is recorded
once; one that fails leaves no trace. An extension fails exactly where the attribute could
not be bound on a fresh copy, and changes nothing that was there. -/
theorem binding_exact_and_atomic (store : Store) :
    (∀ binding : Binding,
      ((binding.attempt store).1 = .ok () ↔
        ∃ slot, store.slot? binding.object binding.name = some slot ∧
          slot.Open binding.index?) ∧
      ((binding.attempt store).1 = .ok () → binding.Takes store (binding.attempt store).2) ∧
      ∀ failure, (binding.attempt store).1 = .error failure →
        (binding.attempt store).2 = store) ∧
    ∀ (object value : ObjectId) (name : String),
      ((∃ failure, (store.extend object name value).1 = .error failure) ↔
        store.slot? object name = none ∨
          (∃ rule cache, store.slot? object name = some (.composite rule cache)) ∨
          ∃ bound, store.slot? object name = some (.free ⟨some bound⟩)) ∧
      ∀ other, store.Contains other →
        (store.extend object name value).2.object? other = store.object? other := by
  refine ⟨fun binding => ?attempted, fun object value name =>
    ⟨extend_refused_iff store object value name, fun other there => ?extended⟩⟩
  case attempted =>
    rcases Binding.attempt_cases binding store with
      ⟨slot, found, opened, made⟩ | ⟨closed, failure, refused⟩
    · rw [made]
      exact ⟨⟨fun _ => ⟨slot, found, opened⟩, fun _ => rfl⟩,
        fun _ => Binding.attempt_takes found, fun _ failed => nomatch failed⟩
    · rw [refused]
      exact ⟨⟨fun succeeded => (nomatch succeeded),
          fun ⟨slot, found, opened⟩ => (closed slot found opened).elim⟩,
        fun succeeded => (nomatch succeeded), fun _ _ => rfl⟩
  case extended =>
    cases has : store.slot? object name with
    | none => simp [Store.extend, Store.require, has]
    | some slot =>
        obtain ⟨found, composed, _⟩ := Store.instance_of_slot has
        exact (makes_extend composed has value).others there

def Store.readPaired : Store :=
  (Store.paired.sequence ⟨0⟩ operandAttribute).2

/-- The sum that has been read takes nothing more, its copy does, and the other sum takes its
first operand as the first only. -/
theorem read_paired_exact :
    let next : Binding := ⟨⟨1⟩, operandAttribute, ⟨0⟩, some 0⟩
    let gap : Binding := ⟨⟨1⟩, operandAttribute, ⟨0⟩, some 1⟩
    let late : Binding := ⟨⟨0⟩, operandAttribute, ⟨1⟩, none⟩
    (next.attempt Store.readPaired).1 = .ok () ∧
      next.Takes Store.readPaired (next.attempt Store.readPaired).2 ∧
      (gap.attempt Store.readPaired).1 = .error (.positionGap operandAttribute 1 0) ∧
      (gap.attempt Store.readPaired).2 = Store.readPaired ∧
      (late.attempt Store.readPaired).1 = .error (.sealed operandAttribute) ∧
      (late.attempt Store.readPaired).2 = Store.readPaired ∧
      (Store.readPaired.extend ⟨0⟩ operandAttribute ⟨1⟩).1 = .ok ⟨2⟩ ∧
      (Store.readPaired.extend ⟨0⟩ operandAttribute ⟨1⟩).2.object? ⟨0⟩ =
        Store.readPaired.object? ⟨0⟩ := by
  intro next gap late
  obtain ⟨attempted, extended⟩ := binding_exact_and_atomic Store.readPaired
  exact ⟨rfl, (attempted next).2.1 rfl, rfl, (attempted gap).2.2 _ rfl, rfl,
    (attempted late).2.2 _ rfl, rfl, (extended ⟨0⟩ ⟨1⟩ operandAttribute).2 ⟨0⟩ (by decide)⟩

end ObjectCalculus
