import ObjectCalculus.Session.Run
import ObjectCalculus.Proofs.Deferring
import ObjectCalculus.Proofs.History

/-!
# Rendering

An object is shown by its data or label, or outlined part by part. Parts are named by their
labels, so that nothing behind them is looked at. The one thing that rendering can bring about is
a run of the producer of the rendered object itself, if that is a leaf without a placeholder and
without a value.
-/

set_option autoImplicit false

namespace ObjectCalculus

inductive Rendering where
  | plain
  | outlined (spread : Bool)

def Store.render (store : Store) (object : ObjectId) : Rendering → String × Store
  | .plain => store.display object
  | .outlined spread =>
      let (outline, after) := store.outline object
      (if spread then outline.spread else outline.line, after)

namespace Deferred

structure Awaits (data : Deferred Value) : Prop where
  blank : data.blank = ""
  empty : data.cell.content = none

/-- The producer has been run once, and the value is there if that run has ended with it. -/
structure Tried (before after : Deferred Value) : Prop where
  source : after.source = before.source.run.2
  counted (ending : Nat → Except DataError Value) (count : Nat) :
    before.source = .script ending count → before.runs = count ∧ after.runs = count + 1
  published (value : Value) :
    after.cell.content = some value ↔ before.source.run.1 = .ok value
  blank : after.blank = before.blank

section Shown

variable {data : Deferred Value}

theorem take_tried (empty : data.cell.content = none) : data.Tried data.take.2 := by
  rw [take_empty empty]
  refine ⟨rfl, ?counted, ?published, rfl⟩
  case counted =>
    intro ending count scripted
    simp only [runs, scripted, Producer.run, Producer.runs, and_self]
  case published =>
    intro value
    cases data.source.run.1 <;> simp [Except.toOption]

theorem show_tried (awaits : data.Awaits) : data.Tried (data.perform .show).2 := by
  have forces : Step.forces data.blank .show = true := String.isEmpty_iff.mpr awaits.blank
  rw [perform_forced forces]
  exact take_tried awaits.empty

theorem show_idle (settled : ¬data.Awaits) : (data.perform .show).2 = data := by
  cases content : data.cell.content with
  | some value => exact perform_filled content .show
  | none =>
      apply perform_idle
      apply Bool.eq_false_iff.mpr
      intro forces
      exact settled ⟨String.isEmpty_iff.mp forces, content⟩

end Shown

end Deferred

namespace Store

/-- The object is a leaf that is to be produced by showing it. -/
structure OptsIn (store : Store) (object : ObjectId) (data : Deferred Value) : Prop where
  leaf : store.leaf? object = some (.deferred data)
  awaits : data.Awaits

/-- The leaf has these data afterwards, and that is all the difference there is. -/
structure ChangesLeaf (before : Store) (object : ObjectId) (data : Deferred Value)
    (after : Store) : Prop where
  leaf : after.leaf? object = some (.deferred data)
  elsewhere (other : ObjectId) : other ≠ object → after.object? other = before.object? other
  nextId : after.nextId = before.nextId
  declared : after.declared = before.declared
  activity : after.activity = before.activity
  events : after.events = before.events
  counters : after.counters = before.counters

section Render

variable {store : Store} {object other : ObjectId} {data : Deferred Value}

theorem set_leaf_changes {held : Leaf} (leaf : store.leaf? object = some held)
    (data : Deferred Value) :
    store.ChangesLeaf object data (store.setLeaf object (.deferred data)) where
  leaf := by simp [leaf_set_leaf, leaf]
  elsewhere other apart := by simp [setLeaf, object_modify, apart]
  nextId := by simp [setLeaf, modifyObject, Store.nextId]
  declared := rfl
  activity := rfl
  events := rfl
  counters := rfl

theorem render_deferred (leaf : store.leaf? object = some (.deferred data))
    (rendering : Rendering) :
    (store.render object rendering).2 =
      store.setLeaf object (.deferred (data.perform .show).2) := by
  have displayed : (store.display object).2 =
      store.setLeaf object (.deferred (data.perform .show).2) := by
    simp only [display, leaf, Deferred.perform]
  cases rendering with
  | plain => exact displayed
  | outlined spread =>
      have composed : store.instance? object = none := by
        simp [instance?, object_of_leaf.mp leaf]
      simp only [render, outline, composed]
      exact displayed

theorem render_still (still : ∀ data, store.leaf? object ≠ some (.deferred data))
    (rendering : Rendering) : (store.render object rendering).2 = store := by
  have displayed : (store.display object).2 = store := by
    unfold display
    split
    case h_2 data leaf => exact absurd leaf (still data)
    all_goals rfl
  cases rendering with
  | plain => exact displayed
  | outlined spread =>
      simp only [render, outline]
      split
      case h_1 => rfl
      case h_2 => exact displayed

theorem render_instance {found : Instance} (composed : store.instance? object = some found)
    (rendering : Rendering) : (store.render object rendering).2 = store := by
  apply render_still
  intro data
  simp [leaf?, object_of_instance.mp composed]

theorem render_idle (declines : ∀ data, ¬store.OptsIn object data) (rendering : Rendering) :
    (store.render object rendering).2 = store := by
  by_cases deferred : ∃ data, store.leaf? object = some (.deferred data)
  · obtain ⟨data, leaf⟩ := deferred
    rw [render_deferred leaf, Deferred.show_idle fun awaits => declines data ⟨leaf, awaits⟩]
    exact set_leaf_same leaf
  · exact render_still (not_exists.mp deferred) rendering

theorem render_opted_in (optsIn : store.OptsIn object data) (rendering : Rendering) :
    ∃ left, data.Tried left ∧
      store.ChangesLeaf object left (store.render object rendering).2 := by
  refine ⟨(data.perform .show).2, Deferred.show_tried optsIn.awaits, ?_⟩
  rw [render_deferred optsIn.leaf]
  exact set_leaf_changes optsIn.leaf _

end Render

end Store

/-- However an object is rendered, the store stays as it is, unless the object is itself a leaf
that is produced by showing it. Then its producer runs once, its value is kept if that run
succeeds, and nothing else changes. Rendering an instance changes nothing, whatever is bound to
it. -/
theorem rendering_forces_opted_in_leaves (store : Store) (object : ObjectId)
    (rendering : Rendering) :
    ((∀ data, ¬store.OptsIn object data) → (store.render object rendering).2 = store) ∧
      (∀ data, store.OptsIn object data →
        ∃ left, data.Tried left ∧
          store.ChangesLeaf object left (store.render object rendering).2) ∧
      ∀ found, store.instance? object = some found →
        (store.render object rendering).2 = store :=
  ⟨fun declines => Store.render_idle declines rendering,
    fun _ optsIn => Store.render_opted_in optsIn rendering,
    fun _ composed => Store.render_instance composed rendering⟩

def Deferred.prompt : Deferred Value :=
  .ofProducer (.ofEntries (.error (.undataizable "source")) [.ok (.int 3)]) ""

/-- An integer object that is bound to such a leaf, the first object. -/
def Store.fronted : Store :=
  let leaf := (Store.empty.addLeaf (.deferred .prompt)).2
  let made := (leaf.instantiate Builtin.int.definition).2
  (Store.tryBind (fun store => store.bind ⟨1⟩ dataAttribute ⟨0⟩) made).2

theorem fronted_reachable : Reachable True .fronted := by
  have leaf := reachable_deferred (.refl : Reachable True .empty) .prompt
  have made := reachable_instantiate leaf .int
  exact made.tail (operates_bind ⟨1⟩ dataAttribute (by decide))

/-- The object shows nothing of its leaf. The leaf itself is tried twice and then kept. -/
theorem fronted_leaf_is_tried :
    let first := (Store.fronted.render ⟨0⟩ .plain).2
    let second := (first.render ⟨0⟩ (.outlined true)).2
    Reachable True .fronted ∧
      (Store.fronted.render ⟨1⟩ (.outlined false)).2 = .fronted ∧
      (∃ data left, Store.fronted.OptsIn ⟨0⟩ data ∧ data.Tried left ∧
        Store.fronted.ChangesLeaf ⟨0⟩ left first) ∧
      (∃ data left, first.OptsIn ⟨0⟩ data ∧ data.Tried left ∧
        first.ChangesLeaf ⟨0⟩ left second) ∧
      (second.render ⟨0⟩ .plain).2 = second := by
  intro first second
  have unshown := (rendering_forces_opted_in_leaves .fronted ⟨1⟩ (.outlined false)).2.2 _ rfl
  have failing : Store.fronted.OptsIn ⟨0⟩ _ := ⟨rfl, rfl, rfl⟩
  obtain ⟨left, tried, changes⟩ :=
    (rendering_forces_opted_in_leaves .fronted ⟨0⟩ .plain).2.1 _ failing
  have succeeding : first.OptsIn ⟨0⟩ _ := ⟨rfl, rfl, rfl⟩
  obtain ⟨kept, triedAgain, changesAgain⟩ :=
    (rendering_forces_opted_in_leaves first ⟨0⟩ (.outlined true)).2.1 _ succeeding
  have settled : ∀ data, ¬second.OptsIn ⟨0⟩ data := by
    rintro data ⟨leaf, awaits⟩
    cases leaf
    cases awaits.empty
  have still := (rendering_forces_opted_in_leaves second ⟨0⟩ .plain).1 settled
  exact ⟨fronted_reachable, unshown, ⟨_, left, failing, tried, changes⟩,
    ⟨_, kept, succeeding, triedAgain, changesAgain⟩, still⟩

namespace Store

def renderAll (store : Store) : List (ObjectId × Rendering) → Store
  | [] => store
  | (object, rendering) :: rest => (store.render object rendering).2.renderAll rest

def renderings (object : ObjectId) (entries : List (ObjectId × Rendering)) : Nat :=
  entries.countP fun entry => entry.1 = object

/-- Nothing but the data of deferred leaves is different. -/
structure ChangesDeferred (before after : Store) : Prop where
  elsewhere (object : ObjectId) : (∀ data, before.leaf? object ≠ some (.deferred data)) →
    after.object? object = before.object? object
  nextId : after.nextId = before.nextId
  declared : after.declared = before.declared
  activity : after.activity = before.activity
  events : after.events = before.events
  counters : after.counters = before.counters

theorem renderings_cons (object : ObjectId) (entry : ObjectId × Rendering)
    (rest : List (ObjectId × Rendering)) :
    renderings object (entry :: rest) =
      renderings object rest + if entry.1 = object then 1 else 0 := by
  simp [renderings, List.countP_cons]

section Renderings

variable {store before middle after : Store} {object other : ObjectId} {data : Deferred Value}

theorem changes_deferred_refl (store : Store) : store.ChangesDeferred store :=
  ⟨fun _ _ => rfl, rfl, rfl, rfl, rfl, rfl⟩

theorem changes_deferred_trans (first : before.ChangesDeferred middle)
    (second : middle.ChangesDeferred after) : before.ChangesDeferred after where
  elsewhere object still := by
    have same := first.elsewhere object still
    rw [second.elsewhere object (by simpa only [leaf?, same] using still), same]
  nextId := second.nextId.trans first.nextId
  declared := second.declared.trans first.declared
  activity := second.activity.trans first.activity
  events := second.events.trans first.events
  counters := second.counters.trans first.counters

theorem changes_deferred_of_leaf {left : Deferred Value}
    (leaf : store.leaf? object = some (.deferred data))
    (changes : store.ChangesLeaf object left after) : store.ChangesDeferred after where
  elsewhere other still := by
    apply changes.elsewhere
    rintro rfl
    exact still data leaf
  nextId := changes.nextId
  declared := changes.declared
  activity := changes.activity
  events := changes.events
  counters := changes.counters

theorem render_changes_deferred (store : Store) (object : ObjectId) (rendering : Rendering) :
    store.ChangesDeferred (store.render object rendering).2 := by
  by_cases deferred : ∃ data, store.leaf? object = some (.deferred data)
  · obtain ⟨data, leaf⟩ := deferred
    rw [render_deferred leaf]
    exact changes_deferred_of_leaf leaf (set_leaf_changes leaf _)
  · rw [render_still (not_exists.mp deferred)]
    exact changes_deferred_refl store

theorem render_leaf (leaf : store.leaf? object = some (.deferred data)) (other : ObjectId)
    (rendering : Rendering) :
    (store.render other rendering).2.leaf? object =
      some (.deferred (if other = object then (data.perform .show).2 else data)) := by
  split
  case isTrue same =>
    rw [same, render_deferred leaf, leaf_set_leaf, if_pos rfl, leaf]
    rfl
  case isFalse apart =>
    by_cases deferred : ∃ held, store.leaf? other = some (.deferred held)
    · obtain ⟨held, there⟩ := deferred
      rw [render_deferred there, leaf_set_leaf, if_neg (Ne.symm apart), leaf]
    · rw [render_still (not_exists.mp deferred), leaf]

theorem render_all_changes_deferred (store : Store) (entries : List (ObjectId × Rendering)) :
    store.ChangesDeferred (store.renderAll entries) := by
  induction entries generalizing store with
  | nil => exact changes_deferred_refl store
  | cons entry rest ih =>
      exact changes_deferred_trans (render_changes_deferred store entry.1 entry.2) (ih _)

theorem render_all_leaf (leaf : store.leaf? object = some (.deferred data))
    (entries : List (ObjectId × Rendering)) :
    (store.renderAll entries).leaf? object = some (.deferred
      (data.performAll (List.replicate (renderings object entries) .show)).2) := by
  induction entries generalizing store data with
  | nil => exact leaf
  | cons entry rest ih =>
      -- The data move on with renderings of the leaf and stay with all others.
      rw [renderAll, ih (render_leaf leaf entry.1 entry.2), renderings_cons]
      by_cases same : entry.1 = object
      · rw [if_pos same, if_pos same]
        rfl
      · rw [if_neg same, if_neg same]
        rfl

end Renderings

end Store

/-- Any number of renderings changes nothing but leaves that are produced on demand. Such a leaf
without a placeholder is run once for each rendering of its own until a run succeeds; with a
placeholder, it is not run at all. -/
theorem renderings_run_leaves (store : Store) (entries : List (ObjectId × Rendering)) :
    store.ChangesDeferred (store.renderAll entries) ∧
      ∀ object ending blank, store.leaf? object =
          some (.deferred (.ofProducer (.script ending 0) blank)) →
        ∃ data, (store.renderAll entries).leaf? object = some (.deferred data) ∧
          Deferred.Stage ending blank
            (if blank.isEmpty then Store.renderings object entries else 0) data := by
  refine ⟨Store.render_all_changes_deferred store entries, ?_⟩
  intro object ending blank leaf
  refine ⟨_, Store.render_all_leaf leaf entries, ?_⟩
  have stage := Deferred.stage_perform_all (Deferred.stage_fresh ending blank)
    (List.replicate (Store.renderings object entries) .show)
  rw [Nat.zero_add, List.countP_replicate] at stage
  exact stage

end ObjectCalculus
