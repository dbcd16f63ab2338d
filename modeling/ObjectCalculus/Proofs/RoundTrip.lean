import ObjectCalculus.Proofs.Layout
import ObjectCalculus.Proofs.Simulation

/-!
# Values coerced and found again

Dataizing the objects that have been laid out for a value takes as many levels as arrays are
nested in it. With fewer it is cut short, and with as many it finds the value again. What is
done for one item is done within its own part of the row, so that the items after it are
found as they have been laid out.
-/

set_option autoImplicit false

namespace ObjectCalculus

open Effect Evaluation

namespace Value

mutual

def nest : Value → Nat
  | .array items => 1 + nestAll items
  | _ => 0

def nestAll : List Value → Nat
  | [] => 0
  | first :: rest => max first.nest (nestAll rest)

end

/-- What is found of the value at some depth below a limit. -/
def found (value : Value) (limit depth : Nat) : Except DataError Value :=
  if depth + value.nest ≤ limit then .ok value else .error (.depthExceeded limit)

def foundAll (items : List Value) (limit depth : Nat) : Except DataError (List Value) :=
  if depth + nestAll items ≤ limit then .ok items else .error (.depthExceeded limit)

theorem nest_scalar {value : Value} (scalar : value.kind ≠ .array) : value.nest = 0 := by
  cases value with
  | array => exact absurd rfl scalar
  | _ => rfl

end Value

/-- The later store has what the earlier one had, but for the objects of a row. -/
structure Store.Spares (before : Store) (start count : Nat) (after : Store) : Prop where
  size : before.objects.size ≤ after.objects.size
  others {object : ObjectId} : before.Contains object →
    object.index < start ∨ start + count ≤ object.index →
      after.object? object = before.object? object

section Spares

variable {before middle after : Store} {start count : Nat} {object : ObjectId}

theorem spares_same (start count : Nat) (same : after.objects = before.objects) :
    before.Spares start count after where
  size := Nat.le_of_eq (congrArg Array.size same.symm)
  others _ _ := Store.object_same same _

theorem spares_put {content : Content} (puts : before.Puts object content after)
    (size : before.objects.size ≤ after.objects.size)
    (inside : before.Contains object →
      start ≤ object.index ∧ object.index < start + count) : before.Spares start count after where
  size := size
  others {other} there outside := by
    have apart : other ≠ object := by
      rintro rfl
      have within := inside there
      omega
    rw [puts, if_neg apart]

theorem spares_trans (first : before.Spares start count middle)
    (second : middle.Spares start count after) : before.Spares start count after where
  size := Nat.le_trans first.size second.size
  others there outside :=
    (second.others (Nat.lt_of_lt_of_le there first.size) outside).trans
      (first.others there outside)

theorem spares_wider (spares : before.Spares start count after) (low length : Nat)
    (below : low ≤ start) (above : start + count ≤ low + length) :
    before.Spares low length after where
  size := spares.size
  others there outside := spares.others there (by omega)

end Spares

/-- The row is there, and nothing in it is under evaluation. -/
structure Store.Rests (store : Store) (start count : Nat) : Prop where
  there : start + count ≤ store.objects.size
  idle : ∀ marker ∈ store.activity.markers,
    marker.object.index < start ∨ start + count ≤ marker.object.index

def Act.StaysIn (config : Config) (store : Store) (start count : Nat) (act : Act) : Prop :=
  ∃ after, Runs config act store after ∧ store.Spares start count after

/-- Wherever the objects made for the value stand, they are found to be the value as far as
there is room for its arrays. -/
def Value.FoundAgain (config : Config) (value : Value) : Prop :=
  ∀ (store : Store) (start : Nat), store.Lays value start → store.Rests start value.extent →
    store.activity.depth ≤ config.limit →
      (Act.chain config.limit [] (value.top start)
        (value.found config.limit store.activity.depth)).StaysIn config store start value.extent

section Dataization

variable {config : Config} {store after inner : Store} {value : Value} {items : List Value}
  {start count : Nat} {object : ObjectId} {targets : List ObjectId}

theorem rests_part {low length : Nat} (rests : store.Rests start count) (below : start ≤ low)
    (above : low + length ≤ start + count) : store.Rests low length where
  there := Nat.le_trans above rests.there
  idle marker member := by
    have outside := rests.idle marker member
    omega

theorem rests_after (rests : store.Rests start count)
    (size : store.objects.size ≤ after.objects.size)
    (activity : after.activity = store.activity) : after.Rests start count where
  there := Nat.le_trans rests.there size
  idle := by
    rw [activity]
    exact rests.idle

theorem row_contains (rests : store.Rests start count) (below : object.index < start + count) :
    store.Contains object :=
  Nat.lt_of_lt_of_le below rests.there

theorem spares_agree {low length : Nat} (spares : store.Spares low length after)
    (rests : store.Rests start count) (apart : low + length ≤ start) :
    store.Agrees start count after :=
  fun _ above below =>
    spares.others (row_contains rests below) (.inr (Nat.le_trans apart above))

/-- The induction is on the items: each has its own part of the row, which is as it was laid
when the items before it have been found. -/
theorem items_found_again (items : List Value) (each : ∀ item ∈ items, item.FoundAgain config)
    {store : Store} {start : Nat} (lays : store.LaysAll items start)
    (rests : store.Rests start (Value.extentAll items))
    (room : store.activity.depth ≤ config.limit) :
    (Act.collect .array (Value.tops items start)
      (Value.foundAll items config.limit store.activity.depth)).StaysIn config store start
        (Value.extentAll items) := by
  induction items generalizing store start with
  | nil =>
      rw [Value.foundAll, Value.nestAll, Nat.add_zero, if_pos room]
      exact ⟨store, .nil, spares_same _ _ rfl⟩
  | cons first rest ih =>
      obtain ⟨laysFirst, laysRest⟩ := lays
      have restsFirst : store.Rests start first.extent :=
        rests_part rests (Nat.le_refl start) (Nat.add_le_add_left (Nat.le_add_right _ _) start)
      have restsRest : store.Rests (start + first.extent) (Value.extentAll rest) :=
        rests_part rests (Nat.le_add_right _ _) (Nat.le_of_eq (Nat.add_assoc _ _ _))
      obtain ⟨middle, runs, spares⟩ :=
        each first List.mem_cons_self store start laysFirst restsFirst room
      have wide := spares_wider spares start (Value.extentAll (first :: rest)) (Nat.le_refl start)
        (Nat.add_le_add_left (Nat.le_add_right _ _) start)
      have nests : store.activity.depth + Value.nestAll (first :: rest) ≤ config.limit ↔
          store.activity.depth + first.nest ≤ config.limit ∧
            store.activity.depth + Value.nestAll rest ≤ config.limit := by
        simp only [Value.nestAll]
        omega
      by_cases fits : store.activity.depth + first.nest ≤ config.limit
      · rw [Value.found, if_pos fits] at runs
        have activity := runs_activity runs
        have laysMiddle := lays_all_agreed rest (fun item _ => lays_agreed item) laysRest
          (spares_agree spares restsRest (Nat.le_refl _))
        obtain ⟨after, runsRest, sparesRest⟩ :=
          ih (fun item member => each item (List.mem_cons_of_mem first member)) laysMiddle
            (rests_after restsRest spares.size activity) (activity ▸ room)
        have wideRest := spares_wider sparesRest start (Value.extentAll (first :: rest))
          (Nat.le_add_right start _) (Nat.le_of_eq (Nat.add_assoc _ _ _))
        refine ⟨after, ?_, spares_trans wide wideRest⟩
        rw [activity] at runsRest
        by_cases fitsRest : store.activity.depth + Value.nestAll rest ≤ config.limit
        · rw [Value.foundAll, if_pos fitsRest] at runsRest
          rw [Value.foundAll, if_pos (nests.mpr ⟨fits, fitsRest⟩)]
          exact .cons runs rfl runsRest
        · rw [Value.foundAll, if_neg fitsRest] at runsRest
          rw [Value.foundAll, if_neg fun all => fitsRest (nests.mp all).2]
          exact .later runs rfl runsRest
      · rw [Value.found, if_neg fits] at runs
        rw [Value.foundAll, if_neg fun all => fits (nests.mp all).1]
        exact ⟨middle, .unresolved runs, wide⟩

section Array

variable (holds : store.Holds object (.aggregate array_role targets false none))
  (behind : object.index = start + count)

include holds behind

theorem entered_spares :
    store.Spares start (count + 1) (store.entered object .array targets) :=
  spares_put (entered_puts holds) (entered_extends holds).grows.size fun _ => by omega

theorem entered_agrees : store.Agrees start count (store.entered object .array targets) := by
  intro other _ below
  have apart : other ≠ object := by
    rintro rfl
    omega
  rw [entered_puts holds, if_neg apart]

theorem entered_rests (rests : store.Rests start (count + 1)) :
    (store.entered object .array targets).Rests start count where
  there := Nat.le_trans (Nat.le_of_succ_le rests.there) (entered_extends holds).grows.size
  idle := by
    intro marker member
    rcases List.mem_cons.mp member with rfl | member
    · exact .inr (Nat.le_of_eq behind.symm)
    · have outside := rests.idle marker member
      omega

theorem collected_waits (spares : (store.entered object .array targets).Spares start count inner) :
    inner.Holds object (.aggregate array_role targets true none) := by
  have entered := Store.holds_put (entered_puts holds)
  have there := Store.contains_of_object entered
  exact (spares.others there (.inr (Nat.le_of_eq behind.symm))).trans entered

theorem array_cut {failure : DataError} (admitted : store.Admits config object)
    (collected : (Act.collect .array targets (.error failure)).StaysIn config
      (store.entered object .array targets) start count) :
    (Act.compute object (.error failure)).StaysIn config store start (count + 1) := by
  obtain ⟨inner, runs, spares⟩ := collected
  have wide := spares_wider spares start (count + 1) (Nat.le_refl start)
    (Nat.le_succ (start + count))
  refine ⟨_, .cut holds admitted runs, ?_⟩
  exact spares_trans (spares_trans (entered_spares holds behind) wide)
    (spares_same _ _ rfl)

theorem array_published {values : List Value} (admitted : store.Admits config object)
    (collected : (Act.collect .array targets (.ok values)).StaysIn config
      (store.entered object .array targets) start count) :
    ∃ next after, Runs config (.compute object (.ok next)) store after ∧
      after.leaf? next = some (.fixed (.array values)) ∧
        store.Spares start (count + 1) after := by
  obtain ⟨inner, runs, spares⟩ := collected
  have waiting := collected_waits holds behind spares
  have filed := filed_puts inner object .array targets.length (.array values)
  have concluded := concluded_extends_filed targets.length (.array values) waiting
  have held := fixed_grows concluded.grows (Store.holds_leaf.mp (Store.holds_put filed))
  refine ⟨_, _, .published holds admitted runs rfl waiting, held, ?_⟩
  have wide := spares_wider spares start (count + 1) (Nat.le_refl start)
    (Nat.le_succ (start + count))
  have files : inner.Spares start (count + 1)
      (inner.filed object .array targets.length (.array values)) :=
    spares_put filed (filed_extends inner _ _ _ _).grows.size fun there =>
      absurd there (next_not_contained inner)
  have concludes : (inner.filed object .array targets.length (.array values)).Spares start
      (count + 1) (inner.concluded object .array targets.length (.array values)) :=
    spares_put (concluded_puts targets.length (.array values) waiting) concluded.grows.size
      fun _ => by omega
  have before := spares_trans (entered_spares holds behind) wide
  exact spares_trans (spares_trans before files)
    (spares_trans concludes (spares_same _ _ rfl))

end Array

theorem array_computes (items : List Value) (each : ∀ item ∈ items, item.FoundAgain config)
    (lays : store.Lays (.array items) start)
    (rests : store.Rests start (Value.array items).extent) :
    let object := (Value.array items).top start
    if store.activity.depth + (Value.array items).nest ≤ config.limit then
      ∃ next after, Runs config (.compute object (.ok next)) store after ∧
        after.leaf? next = some (.fixed (.array items)) ∧
          store.Spares start (Value.array items).extent after
    else
      (Act.compute object (.error (.depthExceeded config.limit))).StaysIn config store start
        (Value.array items).extent := by
  intro object
  obtain ⟨laysAll, holds⟩ := lays
  have idle : ¬store.Marked object := by
    intro marked
    have outside := rests.idle _ marked
    simp only [Value.extent, Value.top, object] at outside
    omega
  have nests : store.activity.depth + (Value.array items).nest =
      store.activity.depth + 1 + Value.nestAll items := by
    rw [Value.nest, Nat.add_assoc]
  by_cases full : config.limit ≤ store.activity.depth
  · rw [if_neg (by omega)]
    exact ⟨_, .deep holds idle full, spares_same _ _ rfl⟩
  have admitted : store.Admits config object := ⟨idle, Nat.lt_of_not_le full⟩
  have collected := items_found_again items each
    (lays_all_agreed items (fun item _ => lays_agreed item) laysAll (entered_agrees holds rfl))
    (entered_rests holds rfl rests) (Nat.lt_of_not_le full)
  have entered (object : ObjectId) :
      (store.entered object .array (Value.tops items start)).activity.depth =
        store.activity.depth + 1 := rfl
  rw [Value.foundAll, entered] at collected
  by_cases fits : store.activity.depth + 1 + Value.nestAll items ≤ config.limit
  · rw [if_pos fits] at collected
    rw [if_pos (nests ▸ fits)]
    exact array_published holds rfl admitted collected
  · rw [if_neg fits] at collected
    rw [if_neg (nests ▸ fits)]
    exact array_cut holds rfl admitted collected

theorem array_found_again (allowed : 0 < config.limit) (items : List Value)
    (each : ∀ item ∈ items, item.FoundAgain config) : (Value.array items).FoundAgain config := by
  intro store start lays rests _
  obtain ⟨moves, limit⟩ := Nat.exists_eq_succ_of_ne_zero (Nat.ne_of_gt allowed)
  let object := (Value.array items).top start
  let before := stepped config object valueAttribute store
  have same : before.objects = store.objects := stepped_objects config object valueAttribute store
  have activity : before.activity = store.activity :=
    activity_invariance.keeps_stepped config object valueAttribute store
  have steps : store.Spares start (Value.array items).extent before := spares_same _ _ same
  have computes := array_computes items each (lays_agreed _ start lays (agrees_same _ _ same))
    (rests_after rests steps.size activity)
  rw [activity] at computes
  by_cases fits : store.activity.depth + (Value.array items).nest ≤ config.limit
  · rw [if_pos fits] at computes
    rw [Value.found, if_pos fits, limit]
    obtain ⟨next, after, runs, held, spares⟩ := computes
    refine ⟨after, ?_, spares_trans steps spares⟩
    exact .computed lays.2 List.not_mem_nil runs held
  · rw [if_neg fits, limit] at computes
    rw [Value.found, if_neg fits, limit]
    obtain ⟨after, runs, spares⟩ := computes
    exact ⟨after, .failed lays.2 List.not_mem_nil runs, spares_trans steps spares⟩

theorem scalar_found_again (allowed : 0 < config.limit) (scalar : value.kind ≠ .array) :
    value.FoundAgain config := by
  intro store start lays rests room
  obtain ⟨⟨builtin, role, _, holds⟩, held⟩ := (lays_scalar scalar).mp lays
  obtain ⟨moves, limit⟩ := Nat.exists_eq_succ_of_ne_zero (Nat.ne_of_gt allowed)
  have same := stepped_objects config ⟨start⟩ dataAttribute store
  have heldStill := (Store.holds_same same).mpr (Store.holds_leaf.mpr held)
  rw [Value.found, Value.nest_scalar scalar, Nat.add_zero, if_pos room, Value.top_scalar scalar,
    limit]
  exact ⟨_, .bound holds List.not_mem_nil (.leaf (Store.holds_leaf.mp heldStill)),
    spares_same _ _ same⟩

theorem found_again (allowed : 0 < config.limit) (value : Value) : value.FoundAgain config := by
  induction value using Value.nested_induction with
  | scalar value scalar => exact scalar_found_again allowed scalar
  | array items ih => exact array_found_again allowed items ih

end Dataization

/-- The object has the name of the value's kind. It is bound to a leaf of the value or, for
an array, to objects that embody its items in their order. -/
inductive Store.Embodies (store : Store) : Value → ObjectId → Prop
  | scalar {value : Value} {object leaf : ObjectId} (scalar : value.kind ≠ .array)
      (named : store.name object = value.kind.name)
      (bound : store.slot? object dataAttribute = some (.free ⟨some leaf⟩))
      (held : store.leaf? leaf = some (.fixed value)) : Embodies store value object
  | array {items : List Value} {object : ObjectId} {objects : List ObjectId}
      (named : store.name object = (Value.array items).kind.name)
      (bound : store.slot? object elementAttribute = some (.variadic objects false))
      (each : List.Forall₂ (Embodies store) items objects) : Embodies store (.array items) object

section Embodies

variable {store : Store} {start : Nat} {object : ObjectId} {content : Content}

theorem holds_name (holds : store.Holds object content) : store.name object = content.name := by
  unfold Store.name
  rw [show store.object? object = _ from holds]
  exact Content.object_name content

theorem lays_all_embody (items : List Value)
    (each : ∀ item ∈ items, ∀ start, store.Lays item start → store.Embodies item (item.top start))
    (lays : store.LaysAll items start) :
    List.Forall₂ store.Embodies items (Value.tops items start) := by
  induction items generalizing start with
  | nil => exact .nil
  | cons first rest ih =>
      obtain ⟨laysFirst, laysRest⟩ := lays
      exact .cons (each first List.mem_cons_self start laysFirst)
        (ih (fun item member => each item (List.mem_cons_of_mem first member)) laysRest)

theorem lays_embodies (value : Value) :
    ∀ start, store.Lays value start → store.Embodies value (value.top start) := by
  induction value using Value.nested_induction with
  | scalar value scalar =>
      intro start lays
      obtain ⟨⟨builtin, role, named, holds⟩, held⟩ := (lays_scalar scalar).mp lays
      rw [Value.top_scalar scalar]
      refine .scalar scalar ((holds_name holds).trans named) ?_ held
      rw [Store.holds_slot holds, Content.slot?, if_pos rfl]
  | array items ih =>
      intro start lays
      obtain ⟨laysAll, holds⟩ := lays
      exact .array (holds_name holds) (slot_items holds) (lays_all_embody items ih laysAll)

end Embodies

/-- A value that is coerced, whatever it is made of, is embodied by the object that comes of
it, and dataization finds the very value again if the limit is as high as its arrays are
nested. Under a lower limit it fails for its depth. -/
theorem coerced_values_come_back (value : Value) (building : Config) {store : Store}
    (idle : store.activity = .idle) :
    ∃ object built,
      (run building value.coerced).outcome store = (.ok object, built) ∧
        built.Embodies value object ∧
        ∀ config : Config, 1 ≤ config.limit →
          ((resolve config object).outcome built).1 =
            if value.nest ≤ config.limit then .ok value
            else .error (.depthExceeded config.limit) := by
  obtain ⟨built, ran, appends, lays⟩ := coerced_built building value store
  have still : built.activity = .idle := appends.activity.trans idle
  have rests : built.Rests store.objects.size value.extent := by
    refine ⟨Nat.le_of_eq appends.size.symm, ?_⟩
    rw [still]
    exact nofun
  refine ⟨_, built, ran, lays_embodies value _ lays, ?_⟩
  intro config allowed
  have room : built.activity.depth ≤ config.limit := by
    rw [still]
    exact Nat.zero_le _
  obtain ⟨after, runs, _⟩ := found_again allowed value built _ lays rests room
  have found := congrArg Prod.fst (runs_performed runs)
  rw [still] at found
  refine found.trans ?_
  rw [Value.found, Activity.idle, Nat.zero_add]

def Value.pair : Value :=
  .array [.array [], .array [.float ⟨0x7FF8000000000001⟩, .pattern ⟨"a*"⟩], .int (-2)]

/-- Two arrays, one within the other, come back from two levels and not from one. -/
theorem pair_comes_back :
    Store.empty.activity = .idle ∧ Value.pair.nest = 2 ∧
      ∃ object built,
        (run .default Value.pair.coerced).outcome .empty = (.ok object, built) ∧
          built.Embodies Value.pair object ∧
          ((resolve ⟨2, true⟩ object).outcome built).1 = .ok Value.pair ∧
          ((resolve ⟨1, true⟩ object).outcome built).1 = .error (.depthExceeded 1) := by
  have idle : Store.empty.activity = .idle := rfl
  obtain ⟨object, built, ran, embodies, found⟩ :=
    coerced_values_come_back Value.pair .default idle
  refine ⟨idle, rfl, object, built, ran, embodies, ?_, ?_⟩
  · exact found ⟨2, true⟩ (by decide)
  · exact found ⟨1, true⟩ (by decide)

end ObjectCalculus
