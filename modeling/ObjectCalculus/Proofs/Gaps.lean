import ObjectCalculus.Proofs.Attempts
import ObjectCalculus.Proofs.History

/-!
# Gaps

A value is refused at a position that would leave a gap, and the refusal says how many
positions are bound. In a sequence that is the next position, and the value can be bound
there. A free attribute counts as a sequence with room for one item, so that once it is bound
the refusal goes on to advertise a second position, which it does not have.
-/

set_option autoImplicit false

namespace ObjectCalculus

namespace Slot

def count : Slot → Nat
  | .free cell => if cell.isFilled then 1 else 0
  | .variadic items _ => items.length
  | .composite .. => 0

def Full : Slot → Prop
  | .free cell => cell.isFilled = true
  | .variadic .. => False
  | .composite .. => False

/-- A binding at the position would pass over another. A free slot says so of every position
but the first. -/
def Gap (index : Nat) : Slot → Prop
  | .free _ => 0 < index
  | .variadic items isSealed => isSealed = false ∧ items.length < index
  | .composite .. => False

variable {owner name attr : String} {value : ObjectId} {index asked length : Nat} {slot : Slot}

theorem bind_free_not_gap (cell : Memo ObjectId) :
    bindFree owner name cell value ≠ .error (.positionGap attr asked length) := by
  obtain ⟨content⟩ := cell
  cases content <;> simp [bindFree, Memo.set]

/-- A gap is refused by the name that was asked for, the position that was asked for and the
number of positions that are bound. -/
theorem bind_at_gap_iff :
    slot.bindAt owner name index value = .error (.positionGap attr asked length) ↔
      slot.Gap index ∧ attr = name ∧ asked = index ∧ length = slot.count := by
  cases slot with
  | free cell =>
      cases index with
      | zero => simp [bindAt, Gap, bind_free_not_gap]
      | succ index =>
          simp [bindAt, Gap, count, eq_comm (b := attr), eq_comm (b := asked),
            eq_comm (b := length)]
  | variadic items isSealed =>
      cases isSealed with
      | true => simp [bindAt, Gap]
      | false =>
          rcases Nat.lt_trichotomy index items.length with taken | next | gap
          · simp [bindAt, Gap, taken, Nat.not_lt_of_lt taken]
          · simp [bindAt, Gap, next]
          · simp [bindAt, Gap, count, gap, Nat.not_lt_of_lt gap, eq_comm]
  | composite => simp [bindAt, Gap]

theorem full_not_open {index? : Option Nat} (full : slot.Full) : ¬slot.Open index? := by
  cases slot with
  | free cell =>
      rintro ⟨empty, _⟩
      simp [Full, Memo.isFilled, empty] at full
  | variadic | composite => exact full.elim

theorem count_follows (gap : slot.Gap index) (room : ¬slot.Full) :
    slot.count < index ∧ slot.Open (some slot.count) := by
  cases slot with
  | free cell =>
      have empty : cell.content = none := by
        simpa [Full, Memo.isFilled] using room
      have none : (Slot.free cell).count = 0 := by simp [count, Memo.isFilled, empty]
      rw [none]
      exact ⟨gap, empty, by simp⟩
  | variadic items isSealed => exact ⟨gap.2, gap.1, by simp [count]⟩
  | composite => exact gap.elim

end Slot

namespace Binding

def atPosition (binding : Binding) (position : Nat) : Binding :=
  { binding with index? := some position }

variable {binding : Binding} {store : Store} {position index length : Nat} {attr : String}

theorem attempt_gap (positioned : binding.index? = some position)
    (refused : (binding.attempt store).1 = .error (.positionGap attr index length)) :
    ∃ slot, store.slot? binding.object binding.name = some slot ∧ slot.Gap position ∧
      attr = binding.name ∧ index = position ∧ length = slot.count ∧
      (binding.attempt store).2 = store := by
  cases found : store.slot? binding.object binding.name with
  | none =>
      rw [attempt_unknown found] at refused
      cases refused
  | some slot =>
      cases placed : binding.place (store.label binding.object) slot with
      | ok bound =>
          rw [attempt_bound found placed] at refused
          cases refused
      | error failure =>
          rw [attempt_refused found placed] at refused ⊢
          cases refused
          simp only [place, positioned] at placed
          obtain ⟨gap, named, asked, counted⟩ := Slot.bind_at_gap_iff.mp placed
          exact ⟨slot, rfl, gap, named, asked, counted, rfl⟩

/-- The slot decides whether an attempt succeeds. -/
theorem attempt_ok_iff {slot : Slot}
    (found : store.slot? binding.object binding.name = some slot) :
    (binding.attempt store).1 = .ok () ↔ slot.Open binding.index? := by
  rcases attempt_cases binding store with
    ⟨other, same, opened, made⟩ | ⟨closed, failure, refused⟩
  · cases found.symm.trans same
    rw [made]
    exact iff_of_true rfl opened
  · rw [refused]
    exact iff_of_false nofun (closed slot found)

end Binding

/-- A refused gap names the attribute, the position that was asked for and the number of
positions that are bound, and leaves no trace. The number is below the position and the value
can be bound there next, just if the attribute is not a free one that is bound; to such a one
nothing can be bound at all. -/
theorem advertised_positions_are_next {store : Store} {binding : Binding}
    {position index length : Nat} {attr : String} (positioned : binding.index? = some position)
    (refused : (binding.attempt store).1 = .error (.positionGap attr index length)) :
    let after := (binding.attempt store).2
    ∃ slot, store.slot? binding.object binding.name = some slot ∧
      attr = binding.name ∧ index = position ∧ length = slot.count ∧ after = store ∧
      (length < index ∧ ((binding.atPosition length).attempt after).1 = .ok () ↔ ¬slot.Full) ∧
      (slot.Full → ∀ other : Binding, other.object = binding.object →
        other.name = binding.name → (other.attempt after).1 ≠ .ok ()) := by
  intro after
  obtain ⟨slot, found, gap, named, rfl, rfl, same⟩ := Binding.attempt_gap positioned refused
  have kept : after = store := same
  refine ⟨slot, found, named, rfl, rfl, kept, ?_, ?_⟩
  · have fits : ((binding.atPosition slot.count).attempt store).1 = .ok () ↔
        slot.Open (some slot.count) := Binding.attempt_ok_iff found
    rw [kept, fits]
    exact ⟨fun next full => Slot.full_not_open full next.2, Slot.count_follows gap⟩
  · intro full other object name
    rw [← object, ← name] at found
    rw [kept, ne_eq, Binding.attempt_ok_iff found]
    exact Slot.full_not_open full

theorem paired_gap_is_next :
    let gap : Binding := ⟨⟨1⟩, operandAttribute, ⟨0⟩, some 1⟩
    (gap.attempt Store.readPaired).1 = .error (.positionGap operandAttribute 1 0) ∧
      ((gap.atPosition 0).attempt (gap.attempt Store.readPaired).2).1 = .ok () := by
  intro gap
  have refused : (gap.attempt Store.readPaired).1 =
      .error (.positionGap operandAttribute 1 0) := rfl
  obtain ⟨slot, found, _, _, _, _, next, _⟩ := advertised_positions_are_next rfl refused
  have read : Store.readPaired.slot? ⟨1⟩ operandAttribute = some (.variadic [] false) := rfl
  cases read.symm.trans found
  exact ⟨refused, (next.mpr id).2⟩

def Store.boxed : Store :=
  let made := (Store.empty.instantiate Builtin.int.definition).2
  let filled := (made.addLeaf (.fixed (.int 7))).2
  (Store.tryBind (fun store => store.bindAt ⟨0⟩ dataAttribute 0 ⟨1⟩) filled).2

/-- The integer advertises a position for a second datum and then refuses it there as well, by
the very position that it goes on to advertise. -/
theorem boxed_advertises_no_position :
    let gap : Binding := ⟨⟨0⟩, dataAttribute, ⟨1⟩, some 2⟩
    let after := (gap.attempt Store.boxed).2
    Reachable False Store.boxed ∧ Store.boxed.Contains ⟨0⟩ ∧ Store.boxed.Contains ⟨1⟩ ∧
      (gap.attempt Store.boxed).1 = .error (.positionGap dataAttribute 2 1) ∧
      ((gap.atPosition 1).attempt after).1 = .error (.positionGap dataAttribute 1 1) := by
  intro gap after
  have start : Reachable False .empty := .refl
  let filled := ((Store.empty.instantiate Builtin.int.definition).2.addLeaf (.fixed (.int 7))).2
  have known : filled.Contains ⟨1⟩ := by decide
  have reachable : Reachable False Store.boxed :=
    .tail (reachable_leaf (reachable_instantiate start .int) (.int 7))
      (@Operates.call False filled .default (.bindAt ⟨0⟩ dataAttribute 0 ⟨1⟩) known)
  exact ⟨reachable, by decide, by decide, rfl, rfl⟩

end ObjectCalculus
