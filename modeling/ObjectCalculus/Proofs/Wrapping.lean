import ObjectCalculus.Proofs.Deferring

/-!
# Deferred values inside deferred values

A deferred value may be produced by taking another one, and that by taking a third. A failure
comes through all of them and leaves each as it was, so that the innermost producer is run again
the next time; a value is kept by all of them at once. So they cannot be told from a single
deferred value that has the innermost producer to itself and the outermost placeholder.
-/

set_option autoImplicit false

namespace ObjectCalculus

namespace Producer

variable {α : Type}

/-- To run the second producer is to run the first one: between them there are only deferred
values that have not been produced. -/
inductive Relays (source : Producer α) : Producer α → Prop
  | direct : Relays source source
  | layer {below : Producer α} (relays : Relays source below) (blank : String) :
      Relays source (.deferred below .empty blank)

variable {source outer : Producer α}

/-- A run comes through all layers, and if it has failed the next one will too. -/
theorem relays_run (relays : source.Relays outer) :
    outer.run.1 = source.run.1 ∧ outer.run.2.runs = source.run.2.runs ∧
      ∀ failure, source.run.1 = .error failure → source.run.2.Relays outer.run.2 := by
  induction relays with
  | direct => exact ⟨rfl, rfl, fun _ _ => .direct⟩
  | @layer below _ blank ih =>
      obtain ⟨result, count, again⟩ := ih
      rw [← result] at again ⊢
      rcases ran : below.run with ⟨ending, left⟩
      simp only [ran] at count again
      cases ending with
      | ok value =>
          simp only [run, Memo.empty, ran, runs, true_and]
          refine ⟨count, fun failure failed => ?_⟩
          cases failed
      | error failure =>
          simp only [run, Memo.empty, ran, runs, true_and]
          exact ⟨count, fun other same => (again other same).layer blank⟩

theorem relays_runs (relays : source.Relays outer) : outer.runs = source.runs := by
  induction relays with
  | direct => rfl
  | layer _ _ ih => exact ih

end Producer

namespace Deferred

variable {plain wrapped : Deferred Value}

def wrapAll (data : Deferred Value) (blanks : List String) : Deferred Value :=
  blanks.foldl wrap data

/-- Whatever producer the second one has, to run it is to run the first one's; once there is a
value, no producer is run any more. -/
structure Alike (plain wrapped : Deferred Value) : Prop where
  cell : wrapped.cell = plain.cell
  blank : wrapped.blank = plain.blank
  runs : wrapped.runs = plain.runs
  relays : plain.cell.content = none → plain.source.Relays wrapped.source

theorem alike_fresh {source outer : Producer Value} (relays : source.Relays outer)
    (blank : String) : Alike (ofProducer source blank) (ofProducer outer blank) where
  cell := rfl
  blank := rfl
  runs := Producer.relays_runs relays
  relays _ := relays

theorem relays_wrap_all {source : Producer Value} {data : Deferred Value}
    (relays : source.Relays data.source) (empty : data.cell = .empty) (blanks : List String) :
    source.Relays (data.wrapAll blanks).source ∧ (data.wrapAll blanks).cell = .empty := by
  induction blanks generalizing data with
  | nil => exact ⟨relays, empty⟩
  | cons blank rest ih =>
      apply ih
      · rw [wrap, ofProducer, empty]
        exact relays.layer data.blank
      · rfl

theorem alike_take (alike : Alike plain wrapped) :
    wrapped.take.1 = plain.take.1 ∧ Alike plain.take.2 wrapped.take.2 := by
  cases content : plain.cell.content with
  | some value =>
      have same : wrapped.cell.content = some value := alike.cell ▸ content
      rw [take_filled content, take_filled same]
      exact ⟨rfl, alike⟩
  | none =>
      have same : wrapped.cell.content = none := alike.cell ▸ content
      obtain ⟨result, count, again⟩ := Producer.relays_run (alike.relays content)
      rw [take_empty content, take_empty same, result]
      refine ⟨rfl, rfl, alike.blank, count, fun empty => ?_⟩
      cases ended : plain.source.run.1 with
      | ok value =>
          rw [ended] at empty
          cases empty
      | error failure => exact again failure ended

theorem alike_display (alike : Alike plain wrapped) :
    (wrapped.display Value.text).1 = (plain.display Value.text).1 := by
  cases forced : plain.blank.isEmpty with
  | true =>
      have same : wrapped.blank.isEmpty = true := alike.blank ▸ forced
      rw [display_forced forced, display_forced same, (alike_take alike).1]
  | false =>
      have same : wrapped.blank.isEmpty = false := alike.blank ▸ forced
      cases content : plain.cell.content with
      | none => rw [display_waiting forced content, display_waiting same (alike.cell ▸ content),
          alike.blank]
      | some value => rw [display_filled content, display_filled (alike.cell ▸ content)]

theorem alike_answer (alike : Alike plain wrapped) (step : Step) :
    (wrapped.perform step).1 = (plain.perform step).1 := by
  cases step with
  | take => exact congrArg Answer.taken (alike_take alike).1
  | «show» => exact congrArg Answer.text (alike_display alike)
  | outline => simp only [perform, outline, alike.cell, alike.blank]
  | computed => simp only [perform, isComputed, alike.cell]

theorem alike_perform (alike : Alike plain wrapped) (step : Step) :
    Alike (plain.perform step).2 (wrapped.perform step).2 := by
  cases forces : step.forces plain.blank with
  | true =>
      have same : step.forces wrapped.blank = true := alike.blank ▸ forces
      rw [perform_forced forces, perform_forced same]
      exact (alike_take alike).2
  | false =>
      have same : step.forces wrapped.blank = false := alike.blank ▸ forces
      rw [perform_idle forces, perform_idle same]
      exact alike

structure Record where
  answer : Answer
  runs : Nat
  computed : Bool

/-- The steps one after the other, with what can be seen after each. -/
def recordAll (data : Deferred Value) : List Step → List Record
  | [] => []
  | step :: rest =>
      let (answer, after) := data.perform step
      ⟨answer, after.runs, after.isComputed⟩ :: after.recordAll rest

theorem alike_records (alike : Alike plain wrapped) (steps : List Step) :
    wrapped.recordAll steps = plain.recordAll steps := by
  induction steps generalizing plain wrapped with
  | nil => rfl
  | cons step rest ih =>
      have later := alike_perform alike step
      simp only [recordAll, isComputed, alike_answer alike step, later.runs, later.cell, ih later]

/-- Whatever is done with a deferred value inside any number of others is answered, step by step,
as the outermost of them would answer if it had the innermost producer itself, with as many runs
of that producer, and whether there is a value yet is the same as well. So it makes no difference
how many there are and which placeholders the inner ones have: none of these is ever shown. -/
theorem wrapping_is_transparent (source : Producer Value) (inner : String)
    (between : List String) (outer : String) (steps : List Step) :
    let wrapped := ((ofProducer source inner).wrapAll between).wrap outer
    wrapped.recordAll steps = (ofProducer source outer).recordAll steps ∧
      ∀ (hidden : String) (others : List String),
        (((ofProducer source hidden).wrapAll others).wrap outer).recordAll steps =
          wrapped.recordAll steps := by
  intro wrapped
  have transparent (inner : String) (between : List String) :
      (((ofProducer source inner).wrapAll between).wrap outer).recordAll steps =
        (ofProducer source outer).recordAll steps := by
    have fresh : source.Relays (ofProducer source inner).source := .direct
    obtain ⟨relays, empty⟩ := relays_wrap_all fresh rfl between
    apply alike_records
    rw [wrap, empty]
    exact alike_fresh (relays.layer _) outer
  exact ⟨transparent inner between,
    fun hidden others => (transparent hidden others).trans (transparent inner between).symm⟩

/-- A failure is not kept on the way out, and the inner placeholder is not shown. -/
example :
    let source : Producer Value :=
      .ofEntries (.error (.missingOperands "int.add")) [.ok (.bool true)]
    let wrapped := (ofProducer source "inside").wrap "…"
    (wrapped.recordAll [.show, .take, .take, .show]).map (fun record => (record.runs,
        record.computed)) = [(0, false), (1, false), (2, true), (2, true)] ∧
      (wrapped.performAll [.show]).1 = [.text "…"] := by
  exact ⟨rfl, rfl⟩

end Deferred

end ObjectCalculus
