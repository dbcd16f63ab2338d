import ObjectCalculus.Memo
import Mathlib.Data.List.Basic

/-!
# The first writer wins

A computation that fills a cell may use the cell itself, and so may the computations that it
starts there. All of them together come down to one sequence of single accesses to the cell,
reads and writes, in the order in which they happen. In that sequence the first write that is
accepted decides what every later access finds.
-/

set_option autoImplicit false

namespace ObjectCalculus

namespace Memo

variable {ε α : Type}

/-- One access to a cell. A read takes what is there; a write is accepted or handed back. -/
inductive Access (α : Type) where
  | read (seen : Option α)
  | write (value : α) (accepted : Bool)

def Access.accepted? : Access α → Option α
  | .write value true => some value
  | _ => none

def firstAccepted (accesses : List (Access α)) : Option α :=
  accesses.findSome? Access.accepted?

@[simp]
theorem first_accepted_nil : firstAccepted ([] : List (Access α)) = none := rfl

@[simp]
theorem first_accepted_read (seen : Option α) (rest : List (Access α)) :
    firstAccepted (.read seen :: rest) = firstAccepted rest := rfl

@[simp]
theorem first_accepted_write (value : α) (accepted : Bool) (rest : List (Access α)) :
    firstAccepted (.write value accepted :: rest) =
      if accepted then some value else firstAccepted rest := by
  cases accepted <;> rfl

def offer (cell : Memo α) (value : α) : Access α :=
  .write value (cell.set value).1.isOk

/-- A computation writes what it ends with, if it does not fail, into the cell that it has
left. -/
def offerEnd (outcome : Except ε α × Memo α) : List (Access α) :=
  match outcome with
  | (.ok own, left) => [left.offer own]
  | (.error _, _) => []

mutual

/-- The accesses that make up the operation, those of the computation it runs in their place
between its own. -/
def Operation.accesses : Operation ε α → Memo α → List (Access α)
  | .get, cell => [.read cell.content]
  | .set value, cell => [cell.offer value]
  | .getOrSet value, cell =>
      .read cell.content :: if cell.isFilled then [] else [cell.offer value]
  | .getOrInit computation, cell =>
      .read cell.content ::
        if cell.isFilled then []
        else computation.accesses cell ++ offerEnd (computation.run cell)

def Computation.accesses : Computation ε α → Memo α → List (Access α)
  | .finish _, _ => []
  | .andThen operation next, cell =>
      let (outcome, after) := operation.run cell
      operation.accesses cell ++ (next outcome).accesses after

end

/-- One access after another leads from one content to the other: a read finds what is there, and a
write is accepted just if nothing is there. -/
inductive Linear : Option α → List (Access α) → Option α → Prop
  | nil (content : Option α) : Linear content [] content
  | read {content final : Option α} {rest : List (Access α)} (later : Linear content rest final) :
      Linear content (.read content :: rest) final
  | accepted {value : α} {final : Option α} {rest : List (Access α)}
      (later : Linear (some value) rest final) : Linear none (.write value true :: rest) final
  | rejected {winner value : α} {final : Option α} {rest : List (Access α)}
      (later : Linear (some winner) rest final) :
      Linear (some winner) (.write value false :: rest) final

def Access.Finds (content : Option α) : Access α → Prop
  | .read seen => seen = content
  | .write _ accepted => accepted = content.isNone

section Linear

variable {start middle final : Option α} {accesses early late : List (Access α)}
  {access : Access α}

theorem linear_append (first : Linear start early middle) (rest : Linear middle late final) :
    Linear start (early ++ late) final := by
  induction first with
  | nil => exact rest
  | read _ ih => exact .read (ih rest)
  | accepted _ ih => exact .accepted (ih rest)
  | rejected _ ih => exact .rejected (ih rest)

/-- What is there in the end was there from the start, or else it is the first value that was
accepted. -/
theorem linear_final (linear : Linear start accesses final) :
    final = start.or (firstAccepted accesses) := by
  induction linear with
  | nil => simp
  | read _ ih | accepted _ ih | rejected _ ih => simpa using ih

theorem linear_split (linear : Linear start (early ++ access :: late) final) :
    access.Finds (start.or (firstAccepted early)) := by
  induction early generalizing start with
  | nil => cases linear <;> simp [Access.Finds]
  | cons first rest ih =>
      cases linear with
      | read later | accepted later | rejected later => simpa using ih later

end Linear

section Operations

variable {cell : Memo α} {value : α}

theorem set_empty (empty : cell.content = none) (value : α) :
    cell.set value = (.ok (), filled value) := by
  simp only [set, empty]

theorem set_full {winner : α} (full : cell.content = some winner) (value : α) :
    cell.set value = (.error value, cell) := by
  simp only [set, full]

theorem offer_linear (cell : Memo α) (value : α) :
    Linear cell.content [cell.offer value] (cell.set value).2.content := by
  cases content : cell.content with
  | none =>
      rw [offer, set_empty content]
      exact .accepted (.nil _)
  | some winner =>
      rw [offer, set_full content, content]
      exact .rejected (.nil _)

theorem get_or_set_left (cell : Memo α) (value : α) :
    (cell.getOrSet value).2 = (cell.set value).2 := by
  cases content : cell.content <;> simp only [getOrSet, set, content]

theorem get_or_set_content (cell : Memo α) (value : α) :
    (cell.getOrSet value).2.content = some (cell.getOrSet value).1 := by
  cases content : cell.content <;> simp only [getOrSet, content, filled]

variable {compute : Memo α → Except ε α × Memo α} {left : Memo α}

theorem get_or_init_full {winner : α} (full : cell.content = some winner)
    (compute : Memo α → Except ε α × Memo α) : cell.getOrInit compute = (.ok winner, cell) := by
  simp only [getOrInit, full]

theorem get_or_init_failed {failure : ε} (empty : cell.content = none)
    (failed : compute cell = (.error failure, left)) :
    cell.getOrInit compute = (.error failure, left) := by
  simp only [getOrInit, empty, failed]

theorem get_or_init_ended {own : α} (empty : cell.content = none)
    (ended : compute cell = (.ok own, left)) :
    cell.getOrInit compute = (.ok (left.getOrSet own).1, (left.getOrSet own).2) := by
  simp only [getOrInit, empty, ended]

theorem get_or_init_linear (empty : cell.content = none) :
    Linear (compute cell).2.content (offerEnd (compute cell))
      (cell.getOrInit compute).2.content := by
  rcases ran : compute cell with ⟨ending, left⟩
  cases ending with
  | error failure =>
      rw [get_or_init_failed empty ran]
      exact .nil _
  | ok own =>
      rw [get_or_init_ended empty ran, get_or_set_left]
      exact offer_linear left own

end Operations

mutual

theorem operation_linear : ∀ (operation : Operation ε α) (cell : Memo α),
    Linear cell.content (operation.accesses cell) (operation.run cell).2.content
  | .get, cell => .read (.nil _)
  | .set value, cell => by
      have offered := offer_linear cell value
      rcases ran : cell.set value with ⟨_ | _, after⟩ <;>
        simpa only [Operation.accesses, Operation.run, ran] using offered
  | .getOrSet value, cell => by
      simp only [Operation.accesses, Operation.run, get_or_set_left]
      cases content : cell.content with
      | none =>
          have offered := offer_linear cell value
          rw [content] at offered
          simp only [isFilled, content]
          exact .read offered
      | some winner =>
          simp only [isFilled, content, set_full content]
          exact .read (.nil _)
  | .getOrInit computation, cell => by
      simp only [Operation.accesses, Operation.run]
      cases content : cell.content with
      | none =>
          have inside := computation_linear computation cell
          rw [content] at inside
          simp only [isFilled, content]
          exact .read (linear_append inside (get_or_init_linear content))
      | some winner =>
          simp only [isFilled, content, get_or_init_full content]
          exact .read (.nil _)

theorem computation_linear : ∀ (computation : Computation ε α) (cell : Memo α),
    Linear cell.content (computation.accesses cell) (computation.run cell).2.content
  | .finish _, _ => .nil _
  | .andThen operation _, cell =>
      linear_append (operation_linear operation cell) (computation_linear _ _)

end

/-- The operations on a cell with this content answer by the first write that is accepted, before
them or in the computations that they run. -/
structure Lawful (ε : Type) (cell : Memo α) : Prop where
  published (value : α) : cell.content = none →
    (Operation.set value : Operation ε α).run cell = (.published, filled value)
  rejected (value winner : α) : cell.content = some winner →
    (Operation.set value : Operation ε α).run cell = (.rejected value, cell)
  chosen (value : α) : ∃ winner after,
    (Operation.getOrSet value : Operation ε α).run cell = (.winner winner, after) ∧
      after.content = some winner
  initialised (computation : Computation ε α) : ∃ ran result after,
    (Operation.getOrInit computation).run cell = (.initialised ran result, after) ∧
      (ran = true ↔ cell.content = none) ∧
      ∀ winner, result = .ok winner → after.content = some winner
  idle (computation : Computation ε α) (winner : α) : cell.content = some winner →
    (Operation.getOrInit computation).run cell = (.initialised false (.ok winner), cell)
  /-- The computation has published a value before it ends with its own. -/
  innerWins (computation : Computation ε α) (inner own : α) : cell.content = none →
    (computation.run cell).1 = .ok own →
    firstAccepted (computation.accesses cell) = some inner →
    (Operation.getOrInit computation).run cell = (.initialised true (.ok inner), filled inner)
  ownWins (computation : Computation ε α) (own : α) : cell.content = none →
    (computation.run cell).1 = .ok own → firstAccepted (computation.accesses cell) = none →
    (Operation.getOrInit computation).run cell = (.initialised true (.ok own), filled own)
  /-- What the computation has published stays, and nothing else is left. -/
  failed (computation : Computation ε α) (failure : ε) : cell.content = none →
    (computation.run cell).1 = .error failure →
    (Operation.getOrInit computation).run cell =
      (.initialised true (.error failure), ⟨firstAccepted (computation.accesses cell)⟩)

section Lawful

variable {cell : Memo α} {computation : Computation ε α}

/-- What a computation leaves in an empty cell is the first value that it has published. -/
theorem computation_left (empty : cell.content = none) :
    (computation.run cell).2 = ⟨firstAccepted (computation.accesses cell)⟩ := by
  have final := linear_final (computation_linear computation cell)
  rw [empty, Option.none_or] at final
  rw [← final]

theorem init_idle {winner : α} (full : cell.content = some winner)
    (computation : Computation ε α) :
    (Operation.getOrInit computation).run cell = (.initialised false (.ok winner), cell) := by
  simp [Operation.run, get_or_init_full full, isFilled, full]

theorem init_failed {failure : ε} (empty : cell.content = none)
    (ended : (computation.run cell).1 = .error failure) :
    (Operation.getOrInit computation).run cell =
      (.initialised true (.error failure), ⟨firstAccepted (computation.accesses cell)⟩) := by
  have ran : computation.run cell = (.error failure, _) := Prod.ext ended (computation_left empty)
  simp [Operation.run, get_or_init_failed empty ran, isFilled, empty]

theorem init_ended {own : α} (empty : cell.content = none)
    (ended : (computation.run cell).1 = .ok own) :
    let winner := (firstAccepted (computation.accesses cell)).getD own
    (Operation.getOrInit computation).run cell =
      (.initialised true (.ok winner), filled winner) := by
  have ran : computation.run cell = (.ok own, _) := Prod.ext ended (computation_left empty)
  cases published : firstAccepted (computation.accesses cell) <;>
    simp [Operation.run, get_or_init_ended empty ran, isFilled, empty, published, getOrSet, filled]

theorem init_answer (computation : Computation ε α) (cell : Memo α) : ∃ ran result after,
    (Operation.getOrInit computation).run cell = (.initialised ran result, after) ∧
      (ran = true ↔ cell.content = none) ∧
      ∀ winner, result = .ok winner → after.content = some winner := by
  cases content : cell.content with
  | some winner =>
      refine ⟨_, _, _, init_idle content computation, by simp, ?_⟩
      rintro _ ⟨⟩
      exact content
  | none =>
      cases ended : (computation.run cell).1 with
      | error failure => exact ⟨_, _, _, init_failed content ended, by simp, nofun⟩
      | ok own =>
          refine ⟨_, _, _, init_ended content ended, by simp, ?_⟩
          rintro _ ⟨⟩
          rfl

theorem lawful (ε : Type) (cell : Memo α) : Lawful ε cell where
  published value empty := by simp only [Operation.run, set_empty empty]
  rejected value winner full := by simp only [Operation.run, set_full full]
  chosen value := ⟨_, _, rfl, get_or_set_content cell value⟩
  initialised computation := init_answer computation cell
  idle computation winner full := init_idle full computation
  innerWins computation inner own empty ended published := by
    simpa [published] using init_ended empty ended
  ownWins computation own empty ended nothing := by
    simpa [nothing] using init_ended empty ended
  failed computation failure empty ended := init_failed empty ended

end Lawful

def runAll : List (Operation ε α) → Memo α → List (Outcome ε α) × Memo α
  | [], cell => ([], cell)
  | operation :: rest, cell =>
      let (outcome, after) := operation.run cell
      let (outcomes, last) := runAll rest after
      (outcome :: outcomes, last)

def accessesAll : List (Operation ε α) → Memo α → List (Access α)
  | [], _ => []
  | operation :: rest, cell =>
      operation.accesses cell ++ accessesAll rest (operation.run cell).2

theorem all_linear (operations : List (Operation ε α)) (cell : Memo α) :
    Linear cell.content (accessesAll operations cell) (runAll operations cell).2.content := by
  induction operations generalizing cell with
  | nil => exact .nil _
  | cons operation rest ih => exact linear_append (operation_linear operation cell) (ih _)

theorem outcome_at (early : List (Operation ε α)) (operation : Operation ε α)
    (late : List (Operation ε α)) (cell : Memo α) :
    (runAll (early ++ operation :: late) cell).1[early.length]? =
      some (operation.run (runAll early cell).2).1 := by
  induction early generalizing cell with
  | nil => rfl
  | cons first rest ih => exact ih (first.run cell).2

/-- Whatever operations there are on a new cell, and whatever computations they run on it, every
access finds nothing before the first write that is accepted and the value of that write ever
after. The operations answer accordingly. -/
theorem first_writer_wins (operations : List (Operation ε α)) :
    let accesses := accessesAll operations .empty
    let outcome := runAll operations .empty
    outcome.2.content = firstAccepted accesses ∧
      (∀ early access late, accesses = early ++ access :: late →
        access.Finds (firstAccepted early)) ∧
      (∀ early operation late, operations = early ++ operation :: late →
        outcome.1[early.length]? = some (operation.run (runAll early .empty).2).1) ∧
      ∀ cell : Memo α, Lawful ε cell := by
  intro accesses outcome
  have linear : Linear none accesses outcome.2.content := all_linear operations .empty
  refine ⟨?content, ?moments, ?answers, lawful ε⟩
  case content => exact linear_final linear
  case moments =>
    intro early access late split
    rw [split] at linear
    exact linear_split linear
  case answers =>
    rintro early operation late rfl
    exact outcome_at early operation late .empty

/-- A computation publishes a value, and so does one that it starts; the outer one ends with a
value of its own. What was published first stays, and the next write is handed back. -/
theorem inner_value_stays :
    let inside : Computation String Nat := .andThen (.getOrSet 1) fun _ => .finish (.ok 2)
    let outside : Computation String Nat := .andThen (.getOrInit inside) fun _ => .finish (.ok 3)
    let operations : List (Operation String Nat) := [.getOrInit outside, .set 4]
    let accesses := accessesAll operations .empty
    firstAccepted (outside.accesses .empty) = some 1 ∧
      (Operation.getOrInit outside).run .empty = (.initialised true (.ok 1), filled 1) ∧
      (runAll operations .empty).2.content = some 1 ∧
      accesses = [.read none, .read none, .read none, .write 1 true, .write 2 false,
        .write 3 false] ++ .write 4 false :: [] ∧
      (Access.write 4 false).Finds (some 1) ∧
      (runAll operations .empty).1[1]? = some (.rejected 4) := by
  intro inside outside operations accesses
  obtain ⟨content, moments, answers, laws⟩ := first_writer_wins operations
  have published : firstAccepted (outside.accesses .empty) = some 1 := rfl
  have split : accesses = [.read none, .read none, .read none, .write 1 true, .write 2 false,
      .write 3 false] ++ .write 4 false :: [] := rfl
  exact ⟨published, (laws .empty).innerWins outside 1 3 rfl rfl published, content, split,
    moments _ _ _ split, answers [.getOrInit outside] (.set 4) [] rfl⟩

end Memo

end ObjectCalculus
