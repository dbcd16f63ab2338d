import ObjectCalculus.Proofs.Filing
import ObjectCalculus.Proofs.Naming

/-!
# What a dataization reports

Without tracing, a dataization reports every operator that it computes, and in the end a guard
that refuses. What has been computed shows in the store as well: each operator or array keeps the
leaf that was added for it, so that the leaves stand in the order of the reports. The log and the
store account for each other, whatever was computed before and wherever the dataization breaks
off.
-/

set_option autoImplicit false

namespace ObjectCalculus

open Effect Evaluation

/-- An operator or an array has been computed from its items. -/
structure Conclusion where
  owner : ObjectId
  form : Aggregate
  items : List ObjectId

def Conclusion.event? (store : Store) (conclusion : Conclusion) : Option Event :=
  match conclusion.form with
  | .operator fold =>
      some (.reduced fold.operation (store.label conclusion.owner) conclusion.items.length)
  | .array => none

/-- The objects come to keep their results one after the other, and nothing else is added. -/
structure Store.Concludes (before after : Store) (conclusions : List Conclusion) : Prop where
  size : after.objects.size = before.objects.size + conclusions.length
  keeps {place : Nat} {conclusion : Conclusion} : conclusions[place]? = some conclusion →
    before.ComesToKeep after conclusion.owner ⟨before.objects.size + place⟩

/-- What is said of a failure: a guard that refuses says so once, and nobody else does. -/
inductive DataError.Warns : DataError → List Event → Prop
  | marked (label attr : String) :
      Warns (.cyclicEvaluation label attr) [.cyclicEvaluation label attr]
  | revisited (label attr : String) :
      Warns (.cyclicEvaluation label attr) [.chainRevisits label]
  | limited (limit : Nat) : Warns (.depthExceeded limit) [.depthLimit limit]
  | unguarded {failure : DataError} (acyclic : ¬failure.Cyclic) (inside : ¬failure.Overrun) :
      Warns failure []

def Warned {α : Type} (warnings : List Event) : Except DataError α → Prop
  | .ok _ => warnings = []
  | .error failure => failure.Warns warnings

def Act.Warned (warnings : List Event) : Act → Prop
  | .chain _ _ _ result => ObjectCalculus.Warned warnings result
  | .compute _ result => ObjectCalculus.Warned warnings result
  | .collect _ _ result => ObjectCalculus.Warned warnings result

/-- What the log has more than before is what the conclusions report, and then the warnings. -/
structure Store.Logs (graph : Graph) (before after : Store) (conclusions : List Conclusion)
    (warnings : List Event) : Prop extends before.Concludes after conclusions where
  shown : ∀ conclusion ∈ conclusions,
    graph conclusion.owner (.aggregate conclusion.form conclusion.items)
  events : after.events.toList =
    before.events.toList ++ (conclusions.filterMap (·.event? before) ++ warnings)

section Changes

variable {graph : Graph} {before middle after store : Store} {conclusions more : List Conclusion}
  {warnings : List Event} {object : ObjectId} {builtin : Builtin} {form : Aggregate}
  {role : builtin.role = .aggregate form} {items : List ObjectId} {isSealed : Bool}

theorem logs_only (size : after.objects.size = before.objects.size)
    (events : after.events.toList = before.events.toList ++ warnings) :
    Store.Logs graph before after [] warnings where
  size := size
  keeps found := nomatch found
  shown := List.forall_mem_nil _
  events := events

theorem logs_nothing (graph : Graph) (store : Store) : Store.Logs graph store store [] [] :=
  logs_only rfl (List.append_nil _).symm

theorem logs_event (graph : Graph) (store : Store) (event : Event) :
    Store.Logs graph store (store.record event) [] [event] :=
  logs_only rfl (Array.toList_push)

theorem logs_trans (within : graph.Within before.graph) (early : before.Grows middle)
    (late : middle.Grows after) (start : Store.Logs graph before middle conclusions [])
    (rest : Store.Logs graph middle after more warnings) :
    Store.Logs graph before after (conclusions ++ more) warnings where
  size := by rw [rest.size, start.size, List.length_append, Nat.add_assoc]
  keeps {place conclusion} found := by
    rw [List.getElem?_append] at found
    split at found
    · exact comes_to_keep_early late (start.keeps found)
    · rename_i beyond
      have comes := comes_to_keep_late early (rest.keeps found)
      rwa [start.size, Nat.add_assoc, Nat.add_sub_cancel' (Nat.le_of_not_lt beyond)] at comes
  shown := List.forall_mem_append.mpr ⟨start.shown, rest.shown⟩
  events := by
    have labels : more.filterMap (·.event? middle) = more.filterMap (·.event? before) := by
      refine List.filterMap_congr fun conclusion member => ?_
      have label := label_grows within (rest.shown conclusion member) early
      simp only [Conclusion.event?, label]
    rw [rest.events, start.events, labels, List.filterMap_append, List.append_nil,
      List.append_assoc, List.append_assoc]

theorem logs_unmark (marker : Marker)
    (logs : Store.Logs graph before after conclusions warnings) :
    Store.Logs graph before (after.unmark marker) conclusions warnings where
  size := logs.size
  keeps found := comes_to_keep_early (unmark_grows after marker) (logs.keeps found)
  shown := logs.shown
  events := logs.events

theorem logs_entered (graph : Graph) (store : Store) (object : ObjectId) (form : Aggregate)
    (items : List ObjectId) :
    Store.Logs graph store (store.entered object form items) [] [] :=
  logs_only (size_set_slot _ _ _ _) (List.append_nil _).symm

theorem logs_collected (within : graph.Within before.graph)
    (holds : before.Holds object (.aggregate role items isSealed none))
    (late : (before.entered object form items).Grows after)
    (logs : Store.Logs graph (before.entered object form items) after conclusions warnings) :
    Store.Logs graph before after conclusions warnings :=
  logs_trans within (entered_extends holds).grows late (logs_entered graph before object form items)
    logs

theorem logs_concluded (value : Value) (shown : graph object (.aggregate form items))
    (waiting : store.Holds object (.aggregate role items isSealed none)) :
    Store.Logs graph store (store.concluded object form items.length value)
      [⟨object, form, items⟩] [] where
  size := (size_set_slot _ _ _ _).trans (size_filed store object form items.length value)
  keeps {place conclusion} found := by
    cases place with
    | succ => cases found
    | zero =>
        cases found
        exact concluded_comes_to_keep items.length value waiting
  shown := List.forall_mem_singleton.mpr shown
  events := by
    cases form with
    | array => exact (List.append_nil _).symm
    | operator fold => exact Array.toList_push

end Changes

section Runs

variable {graph : Graph} {deferring : Prop} {config : Config} {act : Act} {store after : Store}

theorem stepped_untraced (untraced : config.traceDataization = false) (object : ObjectId)
    (name : String) (store : Store) : stepped config object name store = store := by
  simp [stepped, untraced]

/-- A run goes on only after runs that have found something, so that nobody warns but the guard
that ends it. -/
theorem runs_log (closed : graph.Closed) (fixed : graph.Fixed)
    (untraced : config.traceDataization = false) (runs : Runs config act store after)
    (grounded : act.Grounded graph deferring store) :
    ∃ conclusions warnings,
      Store.Logs graph store after conclusions warnings ∧ act.Warned warnings := by
  induction runs with
  | leaf | nil => exact ⟨[], [], logs_nothing graph _, rfl⟩
  | kept => exact ⟨[], [], logs_only rfl (List.append_nil _).symm, rfl⟩
  | deferred held =>
      have shown := shown_within grounded.within (Store.holds_leaf.mpr held) grounded.present
      exact absurd shown (fixed _)
  | revisited => exact ⟨[], _, logs_event graph _ _, .revisited _ _⟩
  | active => exact ⟨[], _, logs_event graph _ _, .marked _ _⟩
  | exhausted | deep => exact ⟨[], _, logs_event graph _ _, .limited _⟩
  | unbound =>
      rw [stepped_untraced untraced]
      exact ⟨[], [], logs_nothing graph _, .unguarded id id⟩
  | bound holds _ _ ih =>
      obtain ⟨conclusions, warnings, logs, warned⟩ := ih (grounded_bound closed grounded holds).2
      rw [stepped_untraced untraced] at logs
      exact ⟨conclusions, warnings, logs, warned⟩
  | failed _ _ _ ih | computed _ _ _ _ ih =>
      obtain ⟨conclusions, warnings, logs, warned⟩ := ih (grounded_compute _ grounded)
      rw [stepped_untraced untraced] at logs
      exact ⟨conclusions, warnings, logs, warned⟩
  | cut holds _ inside ih =>
      obtain ⟨conclusions, warnings, logs, warned⟩ :=
        ih (grounded_collect _ closed grounded holds).2
      have collected := logs_collected grounded.within holds (runs_extend inside).grows logs
      exact ⟨conclusions, warnings, logs_unmark _ collected, warned⟩
  | rejected holds _ inside total ih =>
      obtain ⟨conclusions, _, logs, rfl⟩ := ih (grounded_collect _ closed grounded holds).2
      have collected := logs_collected grounded.within holds (runs_extend inside).grows logs
      -- The items have all been found, and a fold refuses without a word.
      exact ⟨conclusions, [], logs_unmark _ collected,
        .unguarded (total_not_cyclic total) (total_not_overrun total)⟩
  | @published object values value store inner builtin form role items isSealed holds _ inside _
      waiting ih =>
      obtain ⟨conclusions, _, logs, rfl⟩ := ih (grounded_collect _ closed grounded holds).2
      have shown := shown_within grounded.within holds grounded.present
      have early := store_grows_trans (entered_extends holds).grows (runs_extend inside).grows
      have collected := logs_collected grounded.within holds (runs_extend inside).grows logs
      have concluded := logs_trans grounded.within early
        (concluded_extends items.length value waiting).grows collected
        (logs_concluded value shown waiting)
      exact ⟨_, [], logs_unmark _ concluded, rfl⟩
  | unresolved _ ih => exact ih (grounded_first _ grounded)
  | refused _ refusal ih =>
      obtain ⟨conclusions, _, logs, rfl⟩ := ih (grounded_first _ grounded)
      exact ⟨conclusions, [], logs,
        .unguarded (refusal_not_cyclic refusal) (refusal_not_overrun refusal)⟩
  | later first _ others ihFirst ihOthers | cons first _ others ihFirst ihOthers =>
      obtain ⟨conclusions, _, logs, rfl⟩ := ihFirst (grounded_first _ grounded)
      obtain ⟨more, warnings, rest, warned⟩ := ihOthers (grounded_rest _ grounded first)
      exact ⟨conclusions ++ more, warnings, logs_trans grounded.within (runs_extend first).grows
        (runs_extend others).grows logs rest, warned⟩

end Runs

section Conclusions

variable {before after : Store} {conclusions : List Conclusion} {owner : ObjectId}

theorem owners_distinct (concludes : before.Concludes after conclusions) :
    (conclusions.map Conclusion.owner).Nodup := by
  refine List.pairwise_map.mpr (List.pairwise_iff_getElem.mpr ?_)
  intro first second firstInside secondInside ordered same
  have firstKeeps := (concludes.keeps (List.getElem?_eq_getElem firstInside)).keeps
  have secondKeeps := (concludes.keeps (List.getElem?_eq_getElem secondInside)).keeps
  rw [same] at firstKeeps
  have indices := congrArg ObjectId.index (keeps_unique firstKeeps secondKeeps)
  exact absurd (Nat.add_left_cancel indices) (Nat.ne_of_gt ordered)

/-- Whoever comes to keep a result has been concluded, as the result is one of the new leaves. -/
theorem comes_to_keep_iff (files : before.Files after)
    (concludes : before.Concludes after conclusions) :
    (∃ result, before.ComesToKeep after owner result) ↔
      owner ∈ conclusions.map Conclusion.owner := by
  constructor
  · rintro ⟨result, comes⟩
    obtain ⟨fresh, there⟩ := files.result comes
    obtain ⟨place, index⟩ := Nat.exists_eq_add_of_le (Nat.le_of_not_lt fresh)
    have inside : place < conclusions.length := by
      unfold Store.Contains at there
      rw [index, concludes.size] at there
      exact Nat.lt_of_add_lt_add_left there
    have kept := concludes.keeps (List.getElem?_eq_getElem inside)
    rw [← index] at kept
    have same := (files.owner fresh there).unique comes kept
    rw [same]
    exact List.mem_map_of_mem (List.getElem_mem inside)
  · intro member
    obtain ⟨conclusion, there, rfl⟩ := List.mem_map.mp member
    obtain ⟨place, found⟩ := List.getElem?_of_mem there
    exact ⟨_, concludes.keeps found⟩

end Conclusions

def Store.doomed : Store :=
  let made := (run .default (Program.instantiateWith (.builtin .intAdd) operandAttribute
    [⟨2⟩])).after Store.sum
  (Store.tryBind (fun store => store.bind ⟨3⟩ operandAttribute ⟨3⟩) made).2

end ObjectCalculus
