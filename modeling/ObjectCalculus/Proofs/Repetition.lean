import ObjectCalculus.Proofs.Cycles
import ObjectCalculus.Proofs.Permanence

/-!
# Dataizing again

A dataization that is done a second time ends as it did the first time and leaves the
store as it found it, but for what it reports. What the first one found is kept or at
hand. What it failed on is still there to be failed on: an object on the way to a failure
keeps no result, and whatever comes before it gives the same values without new results.
-/

set_option autoImplicit false

namespace ObjectCalculus

open Effect Evaluation

/-- Nothing has been done between the two stores but to report. -/
def Store.OnlyReports (before after : Store) : Prop :=
  ∃ events, after = { before with events := events }

section OnlyReports

variable {first second third store inner : Store} {marker : Marker}

theorem only_reports_refl (store : Store) : store.OnlyReports store :=
  ⟨store.events, rfl⟩

theorem only_reports_trans (start : first.OnlyReports second)
    (rest : second.OnlyReports third) : first.OnlyReports third := by
  obtain ⟨_, rfl⟩ := start
  obtain ⟨events, rfl⟩ := rest
  exact ⟨events, rfl⟩

theorem only_reports_record (store : Store) (event : Event) :
    store.OnlyReports (store.record event) :=
  ⟨_, rfl⟩

theorem only_reports_stepped (config : Config) (object : ObjectId) (name : String)
    (store : Store) : store.OnlyReports (stepped config object name store) := by
  unfold stepped
  split
  · exact only_reports_record _ _
  · exact only_reports_refl _

theorem only_reports_objects (reports : first.OnlyReports second) :
    second.objects = first.objects := by
  obtain ⟨_, rfl⟩ := reports
  rfl

theorem only_reports_activity (reports : first.OnlyReports second) :
    second.activity = first.activity := by
  obtain ⟨_, rfl⟩ := reports
  rfl

theorem only_reports_leave (reports : (store.mark marker).OnlyReports inner) :
    store.OnlyReports (inner.unmark marker) := by
  obtain ⟨events, rfl⟩ := reports
  exact ⟨events, by simp [Store.mark, Store.unmark]⟩

end OnlyReports

/-- What was found must remain to be found again, and where something failed everything
must be as it was left. -/
def Store.Recalls {α : Type} (after later : Store) : Except DataError α → Prop
  | .ok _ => after.Grows later
  | .error _ => later.objects = after.objects

def Act.Recalled (after later : Store) : Act → Prop
  | .chain _ _ _ result => after.Recalls later result
  | .compute _ result => after.Recalls later result
  | .collect _ _ result => after.Recalls later result

section Recall

variable {α β : Type} {after later store inner : Store} {result : Except DataError α}
  {object : ObjectId} {builtin : Builtin} {form : Aggregate}
  {role : builtin.role = .aggregate form} {items : List ObjectId} {isSealed : Bool}
  {cache : Option ObjectId}

theorem recalls_grow (recalls : after.Recalls later result) : after.Grows later := by
  cases result with
  | ok value => exact recalls
  | error failure => exact store_grows_same recalls

theorem recalls_same {further : Store} (recalls : after.Recalls later result)
    (same : further.objects = later.objects) : after.Recalls further result := by
  cases result with
  | ok value => exact store_grows_trans recalls (store_grows_same same)
  | error failure => exact same.trans recalls

theorem label_same (same : later.objects = store.objects) (object : ObjectId) :
    later.label object = store.label object := by
  unfold Store.label Store.name Store.object?
  rw [same]

theorem aggregate_stays (holds : store.Holds object (.aggregate role items isSealed cache))
    (extended : store.Extends after) (same : later.objects = after.objects) :
    ∃ (builtin : Builtin) (role : builtin.role = .aggregate form) (isSealed : Bool)
      (cache : Option ObjectId), later.Holds object (.aggregate role items isSealed cache) := by
  have shown := extended.graph object _ ⟨_, holds, rfl⟩
  rw [← Store.graph_same same] at shown
  exact Store.shown_aggregate shown

/-- Where items have been read before, reading them again only marks their owner. -/
theorem entered_again (holds : store.Holds object (.aggregate role items true none)) :
    store.entered object form items = store.mark ⟨object, valueAttribute⟩ := by
  have found : (store.mark ⟨object, valueAttribute⟩).slot? object form.parameter =
      some (.variadic items true) := slot_items holds
  exact Store.set_slot_same found

theorem activity_stepped {config : Config} (same : later.activity = store.activity)
    (object : ObjectId) (name : String) :
    (stepped config object name later).activity = (stepped config object name store).activity := by
  have laterSame := activity_invariance.keeps_stepped config object name later
  have storeSame := activity_invariance.keeps_stepped config object name store
  exact laterSame.trans (same.trans storeSame.symm)

theorem admits_same {config : Config} (same : later.activity = store.activity)
    (admitted : store.Admits config object) : later.Admits config object where
  idle marked := admitted.idle ((marked_same same object).mp marked)
  room := by
    rw [same]
    exact admitted.room

theorem computed_stays {config : Config} {next : ObjectId}
    (runs : Runs config (.compute object (.ok next)) store after) (grows : after.Grows later) :
    ∃ (builtin : Builtin) (form : Aggregate) (role : builtin.role = .aggregate form)
      (items : List ObjectId) (isSealed : Bool),
      later.Holds object (.aggregate role items isSealed (some next)) := by
  obtain ⟨builtin, form, role, items, isSealed, kept⟩ := runs_leave runs
  obtain ⟨more, nowSealed, stays⟩ := kept_grows grows kept
  exact ⟨builtin, form, role, more, nowSealed, stays⟩

/-- The items of an object that failed to be computed are collected once more, from a
store in which they have been collected before. -/
theorem collected_again {config : Config} {collected : Except DataError (List Value)}
    (holds : store.Holds object (.aggregate role items isSealed none))
    (runs : Runs config (.collect form items collected) (store.entered object form items) inner)
    (same : later.objects = inner.objects) (activity : later.activity = store.activity) :
    later.Holds object (.aggregate role items true none) ∧
      later.entered object form items = later.mark ⟨object, valueAttribute⟩ ∧
      inner.Recalls (later.entered object form items) collected ∧
      (later.entered object form items).activity =
        (store.entered object form items).activity := by
  have waiting := still_waiting holds (runs_lock runs) (runs_extend runs).grows
  have there := (Store.holds_same same).mpr waiting
  have entered := entered_again there
  refine ⟨there, entered, ?_, ?_⟩
  · rw [entered]
    cases collected with
    | ok values => exact store_grows_same same
    | error failure => exact same
  · exact congrArg (fun activity : Activity =>
      (⟨⟨object, valueAttribute⟩ :: activity.markers, activity.depth + 1⟩ : Activity)) activity

end Recall

/-- What a run has done is done again in a later store, and nothing else happens there. -/
theorem runs_recall {config : Config} {act : Act} {store after later : Store}
    (runs : Runs config act store after) (sound : store.Sound False)
    (recalled : act.Recalled after later) (activity : later.activity = store.activity) :
    ∃ last, Runs config act later last ∧ later.OnlyReports last := by
  induction runs generalizing later with
  | leaf held => exact ⟨later, .leaf (fixed_grows recalled held), only_reports_refl later⟩
  | deferred held => exact absurd (sound.leaves ⟨_, Store.holds_leaf.mpr held, rfl⟩) id
  | @revisited moves visited object store composed seen =>
      have same : later.objects = store.objects := recalled
      rw [← label_same same]
      exact ⟨_, .revisited ((leaf_same same).trans composed) seen, only_reports_record _ _⟩
  | @exhausted visited object store composed fresh =>
      have same : later.objects = store.objects := recalled
      exact ⟨_, .exhausted ((leaf_same same).trans composed) fresh, only_reports_record _ _⟩
  | @unbound moves visited object store builtin role holds fresh =>
      have same : later.objects = store.objects :=
        Eq.trans recalled (stepped_objects config object dataAttribute store)
      exact ⟨_, .unbound ((Store.holds_same same).mpr holds) fresh,
        only_reports_stepped _ _ _ _⟩
  | @bound moves visited object target result store after builtin role holds fresh rest ih =>
      have grows := store_grows_trans (stepped_extends _ _ _ _).grows (runs_extend rest).grows
      have there := bound_grows (store_grows_trans grows (recalls_grow recalled)) holds
      have stepped := only_reports_stepped config object dataAttribute later
      obtain ⟨last, again, reports⟩ := ih (sound_stepped sound _ _ _)
        (recalls_same recalled (only_reports_objects stepped))
        (activity_stepped activity object dataAttribute)
      exact ⟨last, .bound there fresh again, only_reports_trans stepped reports⟩
  | @failed moves visited object failure store after builtin form role items isSealed cache
      holds fresh inside ih =>
      have extended := extends_trans (stepped_extends _ _ _ _) (runs_extend inside)
      obtain ⟨_, _, _, _, there⟩ := aggregate_stays holds extended recalled
      have stepped := only_reports_stepped config object valueAttribute later
      obtain ⟨last, again, reports⟩ := ih (sound_stepped sound _ _ _)
        (Eq.trans (only_reports_objects stepped) recalled)
        (activity_stepped activity object valueAttribute)
      exact ⟨last, .failed there fresh again, only_reports_trans stepped reports⟩
  | @computed moves visited object next value store after builtin form role items isSealed cache
      holds fresh inside held ih =>
      have grows : after.Grows later := recalled
      obtain ⟨_, _, _, _, _, there⟩ := computed_stays inside grows
      have stepped := only_reports_stepped config object valueAttribute later
      obtain ⟨last, again, reports⟩ := ih (sound_stepped sound _ _ _)
        (store_grows_trans grows (store_grows_same (only_reports_objects stepped)))
        (activity_stepped activity object valueAttribute)
      have reported := only_reports_trans stepped reports
      have heldLast := (leaf_same (only_reports_objects reported)).trans (fixed_grows grows held)
      exact ⟨last, .computed there fresh again heldLast, reported⟩
  | @active object store builtin form role items isSealed cache holds marked =>
      have same : later.objects = store.objects := recalled
      have still := (marked_same activity object).mpr marked
      rw [← label_same same]
      exact ⟨_, .active ((Store.holds_same same).mpr holds) still, only_reports_record _ _⟩
  | @deep object store builtin form role items isSealed cache holds idle full =>
      have same : later.objects = store.objects := recalled
      have still : ¬later.Marked object := (marked_same activity object).not.mpr idle
      have fullStill : config.limit ≤ later.activity.depth := activity ▸ full
      exact ⟨_, .deep ((Store.holds_same same).mpr holds) still fullStill,
        only_reports_record _ _⟩
  | kept holds admitted =>
      obtain ⟨_, _, _, _, _, there⟩ := computed_stays (.kept holds admitted) recalled
      exact ⟨_, .kept there (admits_same activity admitted),
        only_reports_leave (only_reports_refl _)⟩
  | published holds admitted inside total waiting =>
      have published := Runs.published holds admitted inside total waiting
      obtain ⟨_, _, _, _, _, there⟩ := computed_stays published recalled
      exact ⟨_, .kept there (admits_same activity admitted),
        only_reports_leave (only_reports_refl _)⟩
  | cut holds admitted inside ih =>
      obtain ⟨there, entered, recalls, active⟩ := collected_again holds inside recalled activity
      obtain ⟨last, again, reports⟩ := ih (sound_entered sound holds) recalls active
      rw [entered] at reports
      exact ⟨_, .cut there (admits_same activity admitted) again, only_reports_leave reports⟩
  | rejected holds admitted inside total ih =>
      obtain ⟨there, entered, recalls, active⟩ := collected_again holds inside recalled activity
      obtain ⟨last, again, reports⟩ := ih (sound_entered sound holds) recalls active
      rw [entered] at reports
      exact ⟨_, .rejected there (admits_same activity admitted) again total,
        only_reports_leave reports⟩
  | nil => exact ⟨later, .nil, only_reports_refl later⟩
  | unresolved _ ih =>
      obtain ⟨last, again, reports⟩ := ih sound recalled activity
      exact ⟨last, .unresolved again, reports⟩
  | refused _ refusal ih =>
      obtain ⟨last, again, reports⟩ := ih sound (store_grows_same recalled) activity
      exact ⟨last, .refused again refusal, reports⟩
  | later first accepted others ihFirst ihOthers =>
      have grows := store_grows_trans (runs_extend others).grows (store_grows_same recalled)
      obtain ⟨last, again, reports⟩ := ihFirst sound grows activity
      obtain ⟨final, rest, reportsRest⟩ := ihOthers (runs_settle first sound).1
        (Eq.trans (only_reports_objects reports) recalled)
        ((only_reports_activity reports).trans (activity.trans (runs_activity first).symm))
      exact ⟨final, .later again accepted rest, only_reports_trans reports reportsRest⟩
  | cons first accepted others ihFirst ihOthers =>
      have grows := store_grows_trans (runs_extend others).grows recalled
      obtain ⟨last, again, reports⟩ := ihFirst sound grows activity
      obtain ⟨final, rest, reportsRest⟩ := ihOthers (runs_settle first sound).1
        (store_grows_trans recalled (store_grows_same (only_reports_objects reports)))
        ((only_reports_activity reports).trans (activity.trans (runs_activity first).symm))
      exact ⟨final, .cons again accepted rest, only_reports_trans reports reportsRest⟩

/-- A dataization done a second time has the result of the first, a value or any failure,
and leaves the store that the first one left, the objects in it and the next number
included: only what is reported comes to it. -/
theorem dataization_is_idempotent {store : Store} {object : ObjectId}
    (reachable : Reachable False store) (contained : store.Contains object)
    (config : Config) :
    let first := (resolve config object).outcome store
    let second := (resolve config object).outcome first.2
    second.1 = first.1 ∧ first.2.OnlyReports second.2 := by
  intro first second
  have runs : Runs config (.chain config.limit [] object first.1) store first.2 :=
    resolve_runs (reachable_sound reachable) contained rfl
  have recalled : first.2.Recalls first.2 first.1 := by
    cases first.1 with
    | ok value => exact store_grows_refl _
    | error failure => rfl
  obtain ⟨last, again, reports⟩ := runs_recall runs (reachable_sound reachable) recalled
    (runs_activity runs)
  have performed : second = (first.1, last) := runs_performed again
  rw [performed]
  exact ⟨rfl, reports⟩

def Store.fraction : Store :=
  let divisor := (Store.sum.addLeaf (.fixed (.int 0))).2
  (run .default (Program.instantiateWith (.builtin .intDiv) operandAttribute
    [⟨2⟩, ⟨3⟩])).after divisor

/-- The first failure leaves a new leaf, kept as the sum; the second one leaves nothing. -/
theorem fraction_fails_alike :
    let first := (resolve .default ⟨4⟩).outcome Store.fraction
    let second := (resolve .default ⟨4⟩).outcome first.2
    Reachable False Store.fraction ∧ Store.fraction.Contains ⟨4⟩ ∧
      first.1 = .error (.invalidOperand "int.div" .divisionByZero) ∧
      ¬Store.fraction.Contains ⟨5⟩ ∧ first.2.Contains ⟨5⟩ ∧
      second.1 = first.1 ∧ first.2.OnlyReports second.2 := by
  intro first second
  have reachable : Reachable False Store.fraction :=
    (reachable_leaf sum_reachable (.int 0)).tail (.apply .intDiv (by decide))
  have contained : Store.fraction.Contains ⟨4⟩ := by decide
  exact ⟨reachable, contained, rfl, by decide, by decide,
    dataization_is_idempotent reachable contained .default⟩

end ObjectCalculus
