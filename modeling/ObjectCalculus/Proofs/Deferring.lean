import ObjectCalculus.Deferred

/-!
# Deferred values over time

A deferred value runs its producer each time it is asked for until a run succeeds, and never
again. It is asked for when it is taken, and when it is shown without a placeholder. Whatever else
is done with it leaves no trace, so that its state is told by how often it has been asked for and
by what the runs of its producer end with.
-/

set_option autoImplicit false

namespace ObjectCalculus

namespace Deferred

def Step.forces (blank : String) : Step → Bool
  | .take => true
  | .show => blank.isEmpty
  | .outline => false
  | .computed => false

def performAll (data : Deferred Value) : List Step → List Answer × Deferred Value
  | [] => ([], data)
  | step :: rest =>
      let (answer, after) := data.perform step
      let (answers, last) := after.performAll rest
      (answer :: answers, last)

def shown : Except DataError Value → String
  | .ok value => value.text
  | .error failure => failureText failure

section Steps

variable {data : Deferred Value} {step : Step}

/-- Each step is answered where it stands, by what the steps before it have left. -/
theorem answer_at (data : Deferred Value) (early : List Step) (step : Step) (late : List Step) :
    (data.performAll (early ++ step :: late)).1[early.length]? =
      some ((data.performAll early).2.perform step).1 := by
  induction early generalizing data with
  | nil => rfl
  | cons first rest ih => exact ih (data.perform first).2

theorem display_forced (forced : data.blank.isEmpty = true) :
    data.display Value.text = (shown data.take.1, data.take.2) := by
  unfold display
  rw [if_pos forced]
  rcases data.take with ⟨result, after⟩
  cases result <;> rfl

theorem display_waiting (waits : data.blank.isEmpty = false) (empty : data.cell.content = none) :
    data.display Value.text = (data.blank, data) := by
  simp only [display, waits, empty, Bool.false_eq_true, if_false]

/-- What there is already is shown whatever the placeholder. -/
theorem display_filled {value : Value} (filled : data.cell.content = some value) :
    data.display Value.text = (value.text, data) := by
  simp only [display, take, filled, ite_self]

theorem take_filled {value : Value} (filled : data.cell.content = some value) :
    data.take = (.ok value, data) := by
  simp only [take, filled]

theorem take_empty (empty : data.cell.content = none) :
    data.take = (data.source.run.1,
      ⟨data.source.run.2, ⟨data.source.run.1.toOption⟩, data.blank⟩) := by
  obtain ⟨source, ⟨content⟩, blank⟩ := data
  cases empty
  simp only [take]
  rcases source.run with ⟨_ | _, left⟩ <;> rfl

theorem perform_forced (forces : step.forces data.blank = true) :
    (data.perform step).2 = data.take.2 := by
  cases step with
  | take => rfl
  | «show» => exact congrArg Prod.snd (display_forced forces)
  | outline | computed => cases forces

theorem perform_idle (idle : step.forces data.blank = false) : (data.perform step).2 = data := by
  cases step with
  | take => cases idle
  | «show» =>
      cases content : data.cell.content with
      | none => exact congrArg Prod.snd (display_waiting idle content)
      | some value => exact congrArg Prod.snd (display_filled content)
  | outline | computed => rfl

theorem perform_filled {value : Value} (filled : data.cell.content = some value) (step : Step) :
    (data.perform step).2 = data := by
  cases forces : step.forces data.blank with
  | false => exact perform_idle forces
  | true => exact (perform_forced forces).trans (congrArg Prod.snd (take_filled filled))

end Steps

/-- No run before this one succeeds. -/
def Stalls (ending : Nat → Except DataError Value) (count : Nat) : Prop :=
  ∀ run < count, ∃ failure, ending run = .error failure

/-- The run succeeds, and none before it does. -/
structure Succeeds (ending : Nat → Except DataError Value) (run : Nat) (value : Value) :
    Prop where
  stalls : Stalls ending run
  result : ending run = .ok value

/-- What has become of a scripted value that has been asked for so many times. -/
inductive Stage (ending : Nat → Except DataError Value) (blank : String) (count : Nat) :
    Deferred Value → Prop
  | pending (stalls : Stalls ending count) :
      Stage ending blank count ⟨.script ending count, .empty, blank⟩
  | found {run : Nat} {value : Value} (early : run < count)
      (succeeds : Succeeds ending run value) :
      Stage ending blank count ⟨.script ending (run + 1), .filled value, blank⟩

section Stages

variable {ending : Nat → Except DataError Value} {blank : String} {count : Nat}
  {data : Deferred Value}

theorem stage_fresh (ending : Nat → Except DataError Value) (blank : String) :
    Stage ending blank 0 (ofProducer (.script ending 0) blank) :=
  .pending fun _ before => absurd before (Nat.not_lt_zero _)

/-- A run that fails leaves nothing but its number behind. -/
theorem stage_take (stalls : Stalls ending count) :
    Stage ending blank (count + 1)
      (take (⟨.script ending count, .empty, blank⟩ : Deferred Value)).2 := by
  simp only [take, Memo.empty, Producer.run]
  cases result : ending count with
  | ok value => exact .found (Nat.lt_succ_self count) ⟨stalls, result⟩
  | error failure =>
      refine .pending fun run before => ?_
      rcases Nat.lt_succ_iff_lt_or_eq.mp before with earlier | rfl
      · exact stalls run earlier
      · exact ⟨failure, result⟩

theorem stage_perform (stage : Stage ending blank count data) (step : Step) :
    Stage ending blank (count + if step.forces blank then 1 else 0) (data.perform step).2 := by
  cases stage with
  | pending stalls =>
      cases forces : step.forces blank with
      | false =>
          rw [perform_idle forces]
          exact .pending stalls
      | true =>
          rw [perform_forced forces]
          exact stage_take stalls
  | found early succeeds =>
      -- It may be asked for again, which is counted but starts no run.
      rw [perform_filled rfl]
      exact .found (Nat.lt_add_right _ early) succeeds

theorem stage_perform_all (stage : Stage ending blank count data) (steps : List Step) :
    Stage ending blank (count + steps.countP (·.forces blank)) (data.performAll steps).2 := by
  induction steps generalizing count data with
  | nil => exact stage
  | cons step rest ih =>
      rw [List.countP_cons, Nat.add_comm (List.countP _ rest), ← Nat.add_assoc]
      exact ih (stage_perform stage step)

end Stages

/-- All runs have failed so far. To ask for the value runs the producer once and is answered by
what the run ends with; nothing else leaves a trace. -/
structure Pending (ending : Nat → Except DataError Value) (count : Nat) (data : Deferred Value) :
    Prop where
  stalls : Stalls ending count
  runs : data.runs = count
  taken : (data.perform .take).1 = .taken (ending count)
  displayed : (data.perform .show).1 =
    .text (if data.blank.isEmpty then shown (ending count) else data.blank)
  computed : (data.perform .computed).1 = .computed false
  forced (step : Step) : step.forces data.blank = true → (data.perform step).2.runs = count + 1
  idle (step : Step) : step.forces data.blank = false → (data.perform step).2 = data

/-- The value is the one that this run has ended with, for good: nothing leaves a trace. -/
structure Found (run : Nat) (value : Value) (data : Deferred Value) : Prop where
  runs : data.runs = run + 1
  taken : (data.perform .take).1 = .taken (.ok value)
  displayed : (data.perform .show).1 = .text value.text
  computed : (data.perform .computed).1 = .computed true
  still (step : Step) : (data.perform step).2 = data

section Phases

variable {ending : Nat → Except DataError Value} {count run : Nat} {value : Value}
  {data : Deferred Value}

theorem take_pending (empty : data.cell.content = none)
    (source : data.source = .script ending count) :
    data.take.1 = ending count ∧ data.take.2.runs = count + 1 := by
  rw [take_empty empty, source]
  exact ⟨rfl, rfl⟩

theorem display_pending (empty : data.cell.content = none) :
    (data.display Value.text).1 =
      if data.blank.isEmpty then shown data.take.1 else data.blank := by
  split
  case isTrue forced => rw [display_forced forced]
  case isFalse waits => rw [display_waiting (Bool.eq_false_iff.mpr waits) empty]

theorem pending_of_stalls (stalls : Stalls ending count) (empty : data.cell.content = none)
    (source : data.source = .script ending count) : Pending ending count data where
  stalls := stalls
  runs := congrArg Producer.runs source
  taken := congrArg Answer.taken (take_pending empty source).1
  displayed := by
    rw [← (take_pending empty source).1]
    exact congrArg Answer.text (display_pending empty)
  computed := congrArg (fun content : Option Value => Answer.computed content.isSome) empty
  forced step forces := by
    rw [perform_forced forces]
    exact (take_pending empty source).2
  idle step := perform_idle

theorem found_of_filled (filled : data.cell.content = some value) (runs : data.runs = run + 1) :
    Found run value data where
  runs := runs
  taken := congrArg Answer.taken (congrArg Prod.fst (take_filled filled))
  displayed := congrArg Answer.text (congrArg Prod.fst (display_filled filled))
  computed := congrArg (fun content : Option Value => Answer.computed content.isSome) filled
  still := perform_filled filled

end Phases

/-- The first run fails and the second one stays; looking on makes no difference. -/
example :
    let data := ofProducer (.ofEntries (.error (.missingOperands "int.add")) [.ok (.bool true)])
      "…"
    let outcome := data.performAll [.show, .take, .computed, .take, .show, .take, .computed]
    outcome.1 = [.text "…", .taken (.error (.missingOperands "int.add")), .computed false,
        .taken (.ok (.bool true)), .text "true", .taken (.ok (.bool true)), .computed true] ∧
      outcome.2.runs = 2 := by
  exact ⟨rfl, rfl⟩

end Deferred

end ObjectCalculus
