import ObjectCalculus.Proofs.Monotony

/-!
# Accesses

Every access of an attribute is recorded when it ends: what the attribute's rule returned if
it was run, what the access came to, and what the attribute keeps from then on. The record
follows the evaluator level by level and is made for any rules whatsoever.

While a rule runs, its attribute is marked, so that no other access can fill its cell. A
kept attribute therefore has accesses that fail, then perhaps one whose rule succeeds, and
then only such as hand out the object of that one.
-/

set_option autoImplicit false

namespace ObjectCalculus

open Effect Evaluation

structure Access where
  object : ObjectId
  name : String
  /-- What the rule returned, if it was run. -/
  returned : Option (Except DataError ObjectId)
  result : Except DataError ObjectId
  kept : Option ObjectId

/-- The accesses that an access takes, in the order in which they end. -/
abbrev Recorder := Config → ObjectId → String → Store → List Access

/-- The rule that an access has to run: nothing stands in the way and nothing is kept. -/
def Store.due? (store : Store) (config : Config) (object : ObjectId) (name : String) :
    Option Rule :=
  match store.slot? object name with
  | some (.composite rule cache) =>
      if ⟨object, name⟩ ∈ store.activity.markers ∨ config.limit ≤ store.activity.depth ∨
          (cache.bind Memo.content).isSome then
        none
      else
        some rule
  | _ => none

namespace Recorder

variable {α : Type} (evaluate : Evaluator) (recorder : Recorder)

def ofChain (config : Config) : Nat → List ObjectId → ObjectId → Store → List Access
  | 0, _, _, _ => []
  | moves + 1, visited, object, store =>
      match store.leaf? object, nextAttribute store object with
      | none, .ok name =>
          if object ∈ visited then
            []
          else
            let before := stepped config object name store
            recorder config object name before ++
              match (evaluate config object name).outcome before with
              | (.ok next, after) => ofChain config moves (object :: visited) next after
              | (.error _, _) => []
      | _, _ => []

def ofCall (running : Config) (request : Call) (store : Store) : List Access :=
  match request with
  | .attributeOf scope object name => recorder (scope.config running) object name store
  | .resolve scope object =>
      let config := scope.config running
      ofChain evaluate recorder config config.limit [] object store
  | _ => []

def ofProgram (running : Config) : Program α → Store → List Access
  | .done _, _ => []
  | .call request next, store =>
      let (answer, after) := (perform evaluate running request).outcome store
      ofCall evaluate recorder running request store ++ ofProgram running (next answer) after

/-- The accesses of the rule, if it is run, come before the one that runs it. -/
def ofAttribute : Recorder := fun config object name store =>
  let (result, after) := (attributeBy evaluate config object name).outcome store
  match store.due? config object name with
  | some rule =>
      let entered := store.mark ⟨object, name⟩
      let returned := ((runProgram evaluate config (rule object)).outcome entered).1
      ofProgram evaluate recorder config (rule object) entered ++
        [⟨object, name, some returned, result, after.linked? object name⟩]
  | none => [⟨object, name, none, result, after.linked? object name⟩]

def within : Nat → Recorder
  | 0 => fun config object name store =>
      let (result, after) := (attributeWithin 0 config object name).outcome store
      [⟨object, name, none, result, after.linked? object name⟩]
  | levels + 1 => ofAttribute (attributeWithin levels) (within levels)

end Recorder

def Access.toAttribute (object : ObjectId) (name : String) (accesses : List Access) :
    List Access :=
  accesses.filter fun access => decide (access.object = object ∧ access.name = name)

theorem to_attribute_append (object : ObjectId) (name : String) (accesses others : List Access) :
    Access.toAttribute object name (accesses ++ others) =
      Access.toAttribute object name accesses ++ Access.toAttribute object name others :=
  List.filter_append ..

theorem to_attribute_here (access : Access) :
    Access.toAttribute access.object access.name [access] = [access] :=
  List.filter_cons_of_pos (by simp)

theorem to_attribute_elsewhere {access : Access} {object : ObjectId} {name : String}
    (different : ¬(access.object = object ∧ access.name = name)) :
    Access.toAttribute object name [access] = [] :=
  List.filter_cons_of_neg (by simpa using different)

/-- The rule was run and returned an object. -/
def Access.succeeded (access : Access) : Bool :=
  match access.returned with
  | some (.ok _) => true
  | _ => false

/-- How what is kept goes from the first to the last access of a kept attribute: accesses
that leave it empty fail, one success fills it, and whatever comes later gets what is kept
or fails, without running the rule. -/
inductive Account : Option ObjectId → List Access → Option ObjectId → Prop
  | nil (kept : Option ObjectId) : Account kept [] kept
  | failed {access : Access} {rest : List Access} {last : Option ObjectId} {failure : DataError}
      (result : access.result = .error failure) (without : access.succeeded = false)
      (kept : access.kept = none) (later : Account none rest last) :
      Account none (access :: rest) last
  | succeeded {access : Access} {rest : List Access} {last : Option ObjectId}
      {found : ObjectId} (returned : access.returned = some (.ok found))
      (result : access.result = .ok found) (kept : access.kept = some found)
      (later : Account (some found) rest last) : Account none (access :: rest) last
  | recalled {access : Access} {rest : List Access} {last : Option ObjectId}
      {found : ObjectId} (returned : access.returned = none)
      (result : ∀ other, access.result = .ok other → other = found)
      (kept : access.kept = some found) (later : Account (some found) rest last) :
      Account (some found) (access :: rest) last

section Account

variable {first middle last : Option ObjectId} {accesses others : List Access}
  {found : ObjectId}

theorem account_append (account : Account first accesses middle)
    (rest : Account middle others last) : Account first (accesses ++ others) last := by
  induction account with
  | nil => exact rest
  | failed result without kept _ ih => exact .failed result without kept (ih rest)
  | succeeded returned result kept _ ih => exact .succeeded returned result kept (ih rest)
  | recalled returned result kept _ ih => exact .recalled returned result kept (ih rest)

theorem account_keeps (account : Account first accesses last) (filled : first = some found) :
    last = some found := by
  induction account with
  | nil => exact filled
  | failed | succeeded => cases filled
  | recalled _ _ _ _ ih => exact ih filled

/-- Whatever is handed out, by the rule or by an access, is what is kept in the end. -/
theorem account_results (account : Account first accesses last) {access : Access}
    (member : access ∈ accesses) {other : ObjectId}
    (handed : access.returned = some (.ok other) ∨ access.result = .ok other) :
    last = some other := by
  induction account with
  | nil => cases member
  | failed result without _ _ ih =>
      rcases List.mem_cons.mp member with rfl | later
      · rcases handed with returned | resulted
        · rw [Access.succeeded, returned] at without
          cases without
        · rw [result] at resulted
          cases resulted
      · exact ih later
  | succeeded returned result _ rest ih =>
      rcases List.mem_cons.mp member with rfl | later
      · have same := account_keeps rest rfl
        rcases handed with again | again
        · rw [returned] at again
          cases again
          exact same
        · rw [result] at again
          cases again
          exact same
      · exact ih later
  | recalled returned result _ rest ih =>
      rcases List.mem_cons.mp member with rfl | later
      · rcases handed with again | again
        · rw [returned] at again
          cases again
        · rw [result other again]
          exact account_keeps rest rfl
      · exact ih later

theorem account_successes (account : Account first accesses last) :
    (accesses.filter Access.succeeded).length ≤ if first = none then 1 else 0 := by
  induction account with
  | nil => exact Nat.zero_le _
  | failed _ without _ _ ih => rwa [List.filter_cons_of_neg (by rw [without]; decide)]
  | succeeded returned _ _ _ ih =>
      rw [List.filter_cons_of_pos (by rw [Access.succeeded, returned]), List.length_cons]
      exact Nat.succ_le_succ ih
  | recalled returned _ _ _ ih =>
      rwa [List.filter_cons_of_neg (by rw [Access.succeeded, returned]; decide)]

end Account

/-- What is there under the name is kept once it is computed. It need not be there yet. -/
def Store.Caches (store : Store) (object : ObjectId) (name : String) : Prop :=
  ∀ slot, store.slot? object name = some slot → slot.isCached = true

/-- The accesses on the way from one store to another, as far as they are of an attribute
that is kept, account for what it keeps. -/
def Store.Accounts (object : ObjectId) (name : String) (before : Store)
    (accesses : List Access) (after : Store) : Prop :=
  after.Caches object name →
    Account (before.linked? object name) (Access.toAttribute object name accesses)
      (after.linked? object name)

section Accounts

variable {object other : ObjectId} {name otherName : String} {before middle after store : Store}
  {accesses others : List Access} {rule : Rule} {cache : Option (Memo ObjectId)}

theorem caches_back (grows : before.Grows after) (caches : after.Caches object name) :
    before.Caches object name := by
  intro slot found
  obtain ⟨grown, foundAfter, growth⟩ := grows_slot grows found
  have cached := caches grown foundAfter
  cases growth with
  | free | variadic | uncached => cases cached
  | cached => rfl

theorem linked_composite (slot : store.slot? object name = some (.composite rule cache)) :
    store.linked? object name = cache.bind Memo.content := by
  unfold Store.linked?
  rw [slot]
  cases cache <;> rfl

theorem slot_objects (same : after.objects = before.objects) (object : ObjectId)
    (name : String) : after.slot? object name = before.slot? object name := by
  unfold Store.slot?
  rw [Store.object_same same]

theorem linked_same (same : after.slot? object name = before.slot? object name) :
    after.linked? object name = before.linked? object name := by
  unfold Store.linked?
  rw [same]

theorem accounts_trans (first : Store.Accounts object name before accesses middle)
    (grows : middle.Grows after) (rest : Store.Accounts object name middle others after) :
    Store.Accounts object name before (accesses ++ others) after := by
  intro caches
  rw [to_attribute_append]
  exact account_append (first (caches_back grows caches)) (rest caches)

theorem accounts_quiet
    (same : after.Caches object name → after.linked? object name = before.linked? object name) :
    Store.Accounts object name before [] after := by
  intro caches
  rw [same caches]
  exact .nil _

theorem accounts_refl (store : Store) : Store.Accounts object name store [] store :=
  accounts_quiet fun _ => rfl

theorem accounts_same (same : after.objects = before.objects) :
    Store.Accounts object name before [] after :=
  accounts_quiet fun _ => linked_same (slot_objects same object name)

theorem accounts_start (same : middle.objects = before.objects)
    (rest : Store.Accounts object name middle accesses after) :
    Store.Accounts object name before accesses after := by
  intro caches
  have linked := linked_same (slot_objects same object name)
  rw [← linked]
  exact rest caches

theorem linked_nothing (nothing : store.slot? object name = none) :
    store.linked? object name = none := by
  unfold Store.linked?
  rw [nothing]

theorem linked_uncomputed {slot : Slot} (found : store.slot? object name = some slot)
    (cached : slot.isCached = true) (uncomputed : slot.isComputed = false) :
    store.linked? object name = none := by
  cases slot with
  | free | variadic => cases cached
  | composite rule cache =>
      cases cache with
      | none => cases cached
      | some cell =>
          rw [linked_composite found]
          exact Option.not_isSome_iff_eq_none.mp (Bool.eq_false_iff.mp uncomputed)

def Object.Open (holder : Object) : Prop :=
  ∀ name slot, holder.slot? name = some slot → slot.isComputed = false

theorem open_definition (definition : Definition) :
    (Object.composed (.ofDefinition definition)).Open := by
  intro name slot found
  obtain ⟨⟨_, spec⟩, _, rfl⟩ := Instance.slot_of_definition found
  cases spec with
  | free | variadic => rfl
  | composite rule cached => cases cached <;> rfl

theorem open_copy (found : Instance) : (Object.composed found.copy).Open := by
  intro name slot held
  have carried := (Instance.slot_copy found name).symm.trans held
  obtain ⟨original, _, rfl⟩ := Option.map_eq_some_iff.mp carried
  cases original with
  | free | variadic => rfl
  | composite rule cache => cases cache <;> rfl

theorem open_leaf (data : Leaf) : (Object.leaf data).Open :=
  fun _ _ found => nomatch found

theorem accounts_add {holder : Object} (opened : holder.Open) :
    Store.Accounts object name store [] (store.add holder).2 := by
  apply accounts_quiet
  intro caches
  by_cases new : object = store.nextId
  · subst new
    have before : store.slot? store.nextId name = none := by
      unfold Store.slot?
      rw [Store.object_next]
      rfl
    rw [linked_nothing before]
    cases slot : (store.add holder).2.slot? store.nextId name with
    | none => exact linked_nothing slot
    | some found =>
        have held : holder.slot? name = some found := by
          unfold Store.slot? at slot
          rwa [Store.object_add, if_pos rfl] at slot
        exact linked_uncomputed slot (caches found slot) (opened name found held)
  · apply linked_same
    unfold Store.slot?
    rw [Store.object_add, if_neg new]

/-- A slot that is written is not one that keeps a result. -/
theorem accounts_set_slot {old new : Slot} (slot : store.slot? other otherName = some old)
    (apart : new.isCached = false) :
    Store.Accounts object name store [] (store.setSlot other otherName new) := by
  apply accounts_quiet
  intro caches
  apply linked_same
  apply Store.slot_set_other
  by_contra same
  obtain ⟨rfl, rfl⟩ : object = other ∧ name = otherName := by
    rwa [not_or, not_not, not_not] at same
  have cached := caches new (Store.slot_set_same slot)
  rw [apart] at cached
  cases cached

theorem accounts_write {supply : Supply} (write : Write supply before after) :
    Store.Accounts object name before [] after := by
  cases write with
  | recorded event => exact accounts_same rfl
  | tallied counter => exact accounts_same rfl
  | leaf supplied => exact accounts_add (open_leaf _)
  | instantiated supplied => exact accounts_add (open_definition _)
  | copied composed => exact accounts_add (open_copy _)
  | bound slot empty supplied => exact accounts_set_slot slot rfl
  | appended slot supplied => exact accounts_set_slot slot rfl
  | sealed slot => exact accounts_set_slot slot rfl
  | taken leaf => exact accounts_quiet fun _ => linked_same (Store.slot_set_leaf _ _ _ _)

theorem accounts_writes {supply : Supply} (writes : Writes supply before after) :
    Store.Accounts object name before [] after := by
  induction writes with
  | refl => exact accounts_refl before
  | tail _ write ih => exact accounts_trans ih (write_grows write) (accounts_write write)

end Accounts

section Evaluate

variable {α : Type} {evaluate : Evaluator} {recorder : Recorder} {object : ObjectId}
  {name : String} (grows : ∀ config other otherName,
    Invariance.Keeps Store.Grows (evaluate config other otherName))
  (accounts : ∀ config other otherName store,
    Store.Accounts object name store (recorder config other otherName store)
      ((evaluate config other otherName).after store))

theorem chain_stops {visited : List ObjectId} {other : ObjectId} {store : Store}
    (config : Config) (moves : Nat) (stops : store.leaf? other ≠ none ∨ other ∈ visited) :
    Store.Accounts object name store []
      ((follow evaluate config moves visited other).after store) := by
  rcases taken : store.takeLeaf other with ⟨result, final⟩
  cases result with
  | some result =>
      have leaf := take_leaf_writes .all store other
      rw [taken] at leaf
      rw [Effect.after, follow_leaf taken]
      exact accounts_writes leaf
  | none =>
      have composed := (take_leaf_none store other).mp (by rw [taken])
      have seen := stops.resolve_left (absurd composed)
      rw [Effect.after, follow_revisited composed seen]
      exact accounts_same rfl

include grows accounts

theorem chain_accounts (config : Config) (moves : Nat) (visited : List ObjectId)
    (other : ObjectId) (store : Store) :
    Store.Accounts object name store
      (Recorder.ofChain evaluate recorder config moves visited other store)
      ((follow evaluate config moves visited other).after store) := by
  induction moves generalizing visited other store with
  | zero =>
      rw [Recorder.ofChain]
      by_cases stops : store.leaf? other ≠ none ∨ other ∈ visited
      · exact chain_stops config 0 stops
      · obtain ⟨composed, fresh⟩ := not_or.mp stops
        rw [Effect.after, follow_exhausted (not_ne_iff.mp composed) fresh]
        exact accounts_same rfl
  | succ moves ih =>
      rw [Recorder.ofChain]
      cases composed : store.leaf? other with
      | some data => exact chain_stops config (moves + 1) (.inl (by simp [composed]))
      | none =>
          by_cases seen : other ∈ visited
          · simp only [if_pos seen]
            cases nextAttribute store other <;> exact chain_stops config (moves + 1) (.inr seen)
          cases way : nextAttribute store other with
          | error failure =>
              rw [Effect.after, follow_nowhere composed seen way]
              exact accounts_refl store
          | ok next =>
              simp only [if_neg seen]
              rw [Effect.after, follow_step composed seen way]
              have here := accounts config other next (stepped config other next store)
              have same := stepped_objects config other next store
              rcases moved : (evaluate config other next).outcome
                (stepped config other next store) with ⟨result, middle⟩
              have grown := grows config other next (stepped config other next store)
              rw [Effect.after, moved] at here grown
              cases result with
              | error failure =>
                  rw [outcome_bind_error moved, List.append_nil]
                  exact accounts_start same here
              | ok following =>
                  rw [outcome_bind_ok moved]
                  have rest := growth_invariance.keeps_follow grows config moves
                    (other :: visited) following middle
                  exact accounts_start same
                    (accounts_trans here rest (ih (other :: visited) following middle))

theorem call_accounts (running : Config) (request : Call) (store : Store) :
    Store.Accounts object name store (Recorder.ofCall evaluate recorder running request store)
      ((perform evaluate running request).after store) := by
  cases evaluates : request.evaluates with
  | false =>
      have writes := perform_writes evaluate running (call_within_all store request) evaluates
      cases request with
      | attributeOf | resolve => cases evaluates
      | _ => exact accounts_writes writes
  | true =>
      cases request with
      | attributeOf scope other otherName =>
          exact accounts (scope.config running) other otherName store
      | resolve scope other =>
          exact chain_accounts grows accounts (scope.config running) _ [] other store
      | _ => cases evaluates

theorem program_accounts (running : Config) (program : Program α) (store : Store) :
    Store.Accounts object name store (Recorder.ofProgram evaluate recorder running program store)
      ((runProgram evaluate running program).after store) := by
  induction program generalizing store with
  | done result =>
      rw [Effect.after, run_done]
      exact accounts_refl store
  | call request next ih =>
      rw [Effect.after, run_call]
      exact accounts_trans (call_accounts grows accounts running request store)
        (growth_invariance.keeps_run grows running _ _) (ih _ _)

end Evaluate

section Access

variable {evaluate : Evaluator} {config : Config} {object other : ObjectId}
  {name otherName : String} {store inner after : Store} {rule : Rule}
  {returned result : Except DataError ObjectId}

/-- Where no rule is due, an access leaves the objects as they are, and hands out nothing
but what is there. -/
theorem undue_outcome (undue : store.due? config object name = none) :
    ∃ result after, (attributeBy evaluate config object name).outcome store = (result, after) ∧
      after.objects = store.objects ∧
      ∀ found, result = .ok found → store.linked? object name = some found := by
  unfold Store.due? at undue
  unfold Store.linked?
  cases slot : store.slot? object name with
  | none => exact ⟨_, _, attribute_unknown slot, rfl, nofun⟩
  | some found =>
      cases found with
      | free cell =>
          cases content : cell.content with
          | some value =>
              refine ⟨_, _, attribute_bound slot content, rfl, fun other same => ?_⟩
              cases same
              exact content
          | none => exact ⟨_, _, attribute_unbound slot content, rfl, nofun⟩
      | variadic items isSealed => exact ⟨_, _, attribute_variadic slot, rfl, nofun⟩
      | composite rule cache =>
          rw [attribute_composite slot]
          by_cases active : ⟨object, name⟩ ∈ store.activity.markers
          · exact ⟨_, _, guarded_cyclic active, rfl, nofun⟩
          by_cases deep : config.limit ≤ store.activity.depth
          · exact ⟨_, _, guarded_deep active deep, rfl, nofun⟩
          cases cache with
          | none => simp [slot, active, deep] at undue
          | some cell =>
              cases content : cell.content with
              | none => simp [slot, active, deep, content] at undue
              | some kept =>
                  refine ⟨_, _, guarded_entered active (Nat.lt_of_not_le deep), ?_, ?_⟩
                  · rw [composite_kept content]
                    rfl
                  · rw [composite_kept content]
                    rintro found ⟨⟩
                    exact content

theorem due_slot (due : store.due? config object name = some rule) :
    ⟨object, name⟩ ∉ store.activity.markers ∧ store.activity.depth < config.limit ∧
      ∃ cache : Option (Memo ObjectId), cache.bind Memo.content = none ∧
        store.slot? object name = some (.composite rule cache) := by
  unfold Store.due? at due
  split at due
  · rename_i found cache slot
    split at due
    · cases due
    · rename_i free
      cases due
      rw [not_or, not_or] at free
      obtain ⟨idle, room, empty⟩ := free
      exact ⟨idle, Nat.lt_of_not_le room, cache, Option.not_isSome_iff_eq_none.mp empty, slot⟩
  · cases due

/-- After the rule there is only its result to publish, if it has one to keep. -/
theorem due_outcome (due : store.due? config object name = some rule)
    (ran : (runProgram evaluate config (rule object)).outcome (store.mark ⟨object, name⟩) =
      (returned, inner)) :
    ∃ result after, (attributeBy evaluate config object name).outcome store = (result, after) ∧
      inner.Grows after ∧
      (∀ other otherName, other ≠ object ∨ otherName ≠ name →
        after.slot? other otherName = inner.slot? other otherName) ∧
      (∀ failure, returned = .error failure →
        result = .error failure ∧ after.objects = inner.objects) ∧
      ∀ found cell, returned = .ok found →
        store.slot? object name = some (.composite rule (some cell)) →
        inner.slot? object name = some (.composite rule (some cell)) →
          result = .ok found ∧ after.linked? object name = some found := by
  obtain ⟨idle, room, cache, empty, slot⟩ := due_slot due
  have left (marker : Marker) (other : ObjectId) (otherName : String) :
      (inner.unmark marker).slot? other otherName = inner.slot? other otherName := rfl
  cases cache with
  | none =>
      refine ⟨_, _, (attribute_composite slot).trans (guarded_entered idle room), ?_⟩
      rw [composite_uncached, Effect.after, ran]
      refine ⟨unmark_grows inner _, fun _ _ _ => rfl, fun failure same => ⟨same, rfl⟩, ?_⟩
      intro found cell _ kept
      rw [slot] at kept
      cases kept
  | some cell =>
      refine ⟨_, _, (attribute_composite slot).trans (guarded_entered idle room), ?_⟩
      rw [composite_computed empty, Effect.after]
      cases returned with
      | error failure =>
          rw [outcome_bind_error ran]
          refine ⟨unmark_grows inner _, fun _ _ _ => rfl, fun _ same => ⟨same, rfl⟩, ?_⟩
          intro found kept same
          cases same
      | ok found =>
          rw [outcome_bind_ok ran]
          refine ⟨?_, ?_, fun failure same => (by cases same), ?_⟩
          · exact store_grows_trans (publish_grows object name found inner) (unmark_grows _ _)
          · intro other otherName different
            have apart : (⟨other, otherName⟩ : Marker) ≠ ⟨object, name⟩ := by
              rintro ⟨⟩
              rcases different with apart | apart <;> exact apart rfl
            exact slot_publish apart found inner
          · rintro _ kept ⟨⟩ before inside
            rw [slot] at before
            cases before
            have published : (publish object name found).outcome inner =
                (.ok found, inner.setSlot object name
                  (.composite rule (some (.filled found)))) := by
              unfold publish
              rw [outcome_update, inside]
              have empty : cell.content = none := empty
              simp only [Memo.getOrSet, empty]
            rw [published]
            refine ⟨rfl, ?_⟩
            exact linked_composite (Store.slot_set_same inside)

theorem accounts_undue (same : after.objects = store.objects)
    (handed : ∀ found, result = .ok found → store.linked? other otherName = some found) :
    Store.Accounts object name store
      [⟨other, otherName, none, result, after.linked? other otherName⟩] after := by
  intro _
  have linked (object : ObjectId) (name : String) :
      after.linked? object name = store.linked? object name :=
    linked_same (slot_objects same object name)
  by_cases here : other = object ∧ otherName = name
  · obtain ⟨rfl, rfl⟩ := here
    rw [to_attribute_here ⟨other, otherName, none, result, after.linked? other otherName⟩, linked]
    cases kept : store.linked? other otherName with
    | some found =>
        refine .recalled rfl (fun other given => ?_) rfl (.nil _)
        rw [handed other given] at kept
        exact Option.some.inj kept
    | none =>
        cases result with
        | ok found =>
            rw [handed found rfl] at kept
            cases kept
        | error failure => exact .failed rfl rfl rfl (.nil _)
  · rw [to_attribute_elsewhere here, linked]
    exact .nil _

theorem account_due {cell : Memo ObjectId} (due : store.due? config object name = some rule)
    (ran : (runProgram evaluate config (rule object)).outcome (store.mark ⟨object, name⟩) =
      (returned, inner))
    (ended : (attributeBy evaluate config object name).outcome store = (result, after))
    (slot : store.slot? object name = some (.composite rule (some cell)))
    (locked : inner.slot? object name = some (.composite rule (some cell))) :
    Account none [⟨object, name, some returned, result, after.linked? object name⟩]
      (after.linked? object name) := by
  obtain ⟨_, _, same, _, _, failed, succeeded⟩ := due_outcome due ran
  cases ended.symm.trans same
  cases returned with
  | ok found =>
      obtain ⟨handed, kept⟩ := succeeded found cell rfl slot locked
      rw [kept]
      exact .succeeded rfl handed rfl (.nil _)
  | error failure =>
      obtain ⟨_, _, cache, empty, found⟩ := due_slot due
      cases found.symm.trans slot
      have left : inner.linked? object name = none := (linked_composite locked).trans empty
      obtain ⟨handed, unchanged⟩ := failed failure rfl
      have kept := (linked_same (slot_objects unchanged object name)).trans left
      rw [kept]
      exact .failed handed rfl rfl (.nil _)

/-- The accesses of a rule, and then the access that ran it. The rule found the cell empty and
left it so, since its attribute was marked. -/
theorem accounts_due {accesses : List Access}
    (due : store.due? config other otherName = some rule)
    (ran : (runProgram evaluate config (rule other)).outcome (store.mark ⟨other, otherName⟩) =
      (returned, inner))
    (locks : (store.mark ⟨other, otherName⟩).Locks inner)
    (accounts : Store.Accounts object name (store.mark ⟨other, otherName⟩) accesses inner)
    (ended : (attributeBy evaluate config other otherName).outcome store = (result, after))
    (grown : store.Grows after) :
    Store.Accounts object name store
      (accesses ++ [⟨other, otherName, some returned, result, after.linked? other otherName⟩])
      after := by
  intro caches
  obtain ⟨_, _, cache, empty, slot⟩ := due_slot due
  obtain ⟨_, _, same, grows, elsewhere, _⟩ := due_outcome due ran
  cases ended.symm.trans same
  have inside : Account (store.linked? object name) (Access.toAttribute object name accesses)
      (inner.linked? object name) := accounts (caches_back grows caches)
  rw [to_attribute_append]
  by_cases here : other = object ∧ otherName = name
  · obtain ⟨rfl, rfl⟩ := here
    obtain ⟨cell, rfl⟩ : ∃ cell, cache = some cell := by
      have cached := caches_back grown caches _ slot
      cases cache with
      | none => cases cached
      | some cell => exact ⟨cell, rfl⟩
    -- The marker has kept everybody from filling the cell in the meantime.
    have marked : ⟨other, otherName⟩ ∈ (store.mark ⟨other, otherName⟩).activity.markers :=
      List.mem_cons_self
    have locked : inner.slot? other otherName = some (.composite rule (some cell)) :=
      locks.slots marked slot
    have before : store.linked? other otherName = none := (linked_composite slot).trans empty
    have left : inner.linked? other otherName = none := (linked_composite locked).trans empty
    rw [before, left] at inside
    rw [before,
      to_attribute_here ⟨other, otherName, some returned, result, after.linked? other otherName⟩]
    exact account_append inside (account_due due ran ended slot locked)
  · have apart : object ≠ other ∨ name ≠ otherName := by
      rw [not_and_or] at here
      exact here.imp Ne.symm Ne.symm
    rw [to_attribute_elsewhere here, List.append_nil, linked_same (elsewhere object name apart)]
    exact inside

end Access

theorem within_accounts (object : ObjectId) (name : String) (levels : Nat) (config : Config)
    (other : ObjectId) (otherName : String) (store : Store) :
    Store.Accounts object name store (Recorder.within levels config other otherName store)
      ((attributeWithin levels config other otherName).after store) := by
  induction levels generalizing config other otherName store with
  | zero => exact accounts_undue rfl nofun
  | succ levels ih =>
      have grows := growth_invariance.keeps_attribute_within levels
      rw [Recorder.within, Recorder.ofAttribute, attributeWithin, Effect.after]
      rcases ended : (attributeBy (attributeWithin levels) config other otherName).outcome store
        with ⟨result, after⟩
      cases due : store.due? config other otherName with
      | none =>
          obtain ⟨_, _, same, objects, handed⟩ := undue_outcome due
          rw [ended] at same
          cases same
          exact accounts_undue objects handed
      | some rule =>
          have grown := growth_invariance.keeps_attribute_by grows config other otherName store
          rw [Effect.after, ended] at grown
          exact accounts_due due rfl
            (locks_invariance.keeps_run (locks_invariance.keeps_attribute_within levels) config
              (rule other) _)
            (program_accounts grows ih config (rule other) _) ended grown

def Task.accesses : Task → Store → List Access
  | .attributeOf config object name => Recorder.within Config.levels config object name
  | .chain config moves visited object =>
      Recorder.ofChain Evaluation.attributeOf (Recorder.within Config.levels) config moves visited
        object
  | .dataize config object _ =>
      Recorder.ofChain Evaluation.attributeOf (Recorder.within Config.levels) config config.limit
        [] object
  | .program running body =>
      Recorder.ofProgram Evaluation.attributeOf (Recorder.within Config.levels) running body

inductive Deed where
  | operation (operation : Operation)
  | declare (name : String) (template : Template)

namespace Deed

def after : Deed → Store → Store
  | .operation done, store => done.after store
  | .declare name template, store => store.declare name template

def accesses : Deed → Store → List Access
  | .operation (.task begun), store => begun.accesses store
  | _, _ => []

def afterAll : List Deed → Store → Store
  | [], store => store
  | deed :: rest, store => afterAll rest (deed.after store)

def accessesAll : List Deed → Store → List Access
  | [], _ => []
  | deed :: rest, store => deed.accesses store ++ accessesAll rest (deed.after store)

end Deed

section Histories

variable {object : ObjectId} {name : String}

theorem task_accounts (task : Task) (store : Store) :
    Store.Accounts object name store (task.accesses store) (task.after store) := by
  have grows := growth_invariance.keeps_attribute_of
  have accounts := within_accounts object name Config.levels
  cases task with
  | attributeOf config other otherName => exact accounts config other otherName store
  | chain config moves visited other =>
      exact chain_accounts grows accounts config moves visited other store
  | dataize config other expected =>
      rw [Task.after, dataize_after]
      exact chain_accounts grows accounts config config.limit [] other store
  | program running body => exact program_accounts grows accounts running body store

theorem deed_grows (deed : Deed) (store : Store) : store.Grows (deed.after store) := by
  cases deed with
  | operation operation => exact operation_grows operation store
  | declare name template => exact store_grows_same rfl

theorem deed_accounts (deed : Deed) (store : Store) :
    Store.Accounts object name store (deed.accesses store) (deed.after store) := by
  cases deed with
  | declare name template => exact accounts_same rfl
  | operation operation =>
      cases operation with
      | task task => exact task_accounts task store
      | outline other =>
          rw [Deed.after, Operation.after, Store.outline]
          split
          · exact accounts_refl store
          · exact accounts_writes (@display_writes .all store other)

theorem deeds_grow (deeds : List Deed) (store : Store) :
    store.Grows (Deed.afterAll deeds store) := by
  induction deeds generalizing store with
  | nil => exact store_grows_refl store
  | cons deed rest ih => exact store_grows_trans (deed_grows deed store) (ih (deed.after store))

theorem deeds_account (deeds : List Deed) (store : Store) :
    Store.Accounts object name store (Deed.accessesAll deeds store)
      (Deed.afterAll deeds store) := by
  induction deeds generalizing store with
  | nil => exact accounts_refl store
  | cons deed rest ih =>
      exact accounts_trans (deed_accounts deed store) (deeds_grow rest (deed.after store))
        (ih (deed.after store))

end Histories

/-- The object is new and has computed nothing yet, and all others are as they were. -/
structure Store.Starts (before : Store) (object : ObjectId) (after : Store) : Prop where
  new : before.object? object = none
  empty {name : String} {rule : Rule} {cell : Memo ObjectId} :
    after.slot? object name = some (.composite rule (some cell)) → cell.content = none
  others {other : ObjectId} : other ≠ object → after.object? other = before.object? other

theorem starts_add {holder : Object} (opened : holder.Open) (store : Store) :
    store.Starts store.nextId (store.add holder).2 where
  new := store.object_next
  empty {name rule cell} slot := by
    unfold Store.slot? at slot
    rw [Store.object_add, if_pos rfl] at slot
    have uncomputed := opened name _ slot
    exact Option.not_isSome_iff_eq_none.mp (Bool.eq_false_iff.mp uncomputed)
  others different := by rw [Store.object_add, if_neg different]

/-- Whatever the templates and their rules are and whatever is done, the accesses of a kept
attribute first fail and leave it empty, then one of them may succeed and fill it with the
object that the rule returned, and all others hand out that object without the rule. Copies
and new instances start with cells of their own, and those are empty. -/
theorem composites_succeed_once :
    (∀ (deeds : List Deed) (store : Store) (object : ObjectId) (name : String) (rule : Rule)
      (cell : Memo ObjectId),
      (Deed.afterAll deeds store).slot? object name = some (.composite rule (some cell)) →
        let accesses := Access.toAttribute object name (Deed.accessesAll deeds store)
        Account (store.linked? object name) accesses cell.content ∧
          (accesses.filter Access.succeeded).length ≤ 1 ∧
          ∀ access ∈ accesses, ∀ found,
            access.returned = some (.ok found) ∨ access.result = .ok found →
              cell.content = some found) ∧
      (∀ (store : Store) (object : ObjectId) (found : Instance),
        store.instance? object = some found →
          store.Starts (store.copy object).1 (store.copy object).2) ∧
      ∀ (store : Store) (definition : Definition),
        store.Starts (store.instantiate definition).1 (store.instantiate definition).2 := by
  refine ⟨?_, ?_, ?_⟩
  · intro deeds store object name rule cell slot accesses
    have caches : (Deed.afterAll deeds store).Caches object name := by
      intro found held
      rw [slot] at held
      cases held
      rfl
    have account := deeds_account deeds store caches
    rw [linked_composite slot] at account
    refine ⟨account, ?_, fun access member found => account_results account member⟩
    have counted := account_successes account
    split at counted
    · exact counted
    · exact Nat.le_trans counted (Nat.zero_le 1)
  · intro store object found composed
    rw [Store.copy, composed]
    exact starts_add (open_copy found) store
  · intro store definition
    have started := starts_add (open_definition definition) store
    exact ⟨started.new, started.empty, started.others⟩

theorem sum_succeeds_once :
    let deeds : List Deed := [
      .operation (.task (.attributeOf ⟨0, false⟩ ⟨2⟩ valueAttribute)),
      .operation (.task (.resolve .default ⟨2⟩)),
      .operation (.task (.attributeOf .default ⟨2⟩ valueAttribute))]
    let accesses := Access.toAttribute ⟨2⟩ valueAttribute (Deed.accessesAll deeds Store.sum)
    accesses = [
        ⟨⟨2⟩, valueAttribute, none, .error (.depthExceeded 0), none⟩,
        ⟨⟨2⟩, valueAttribute, some (.ok ⟨3⟩), .ok ⟨3⟩, some ⟨3⟩⟩,
        ⟨⟨2⟩, valueAttribute, none, .ok ⟨3⟩, some ⟨3⟩⟩] ∧
      Account none accesses (some ⟨3⟩) := by
  intro deeds accesses
  have slot : (Deed.afterAll deeds Store.sum).slot? ⟨2⟩ valueAttribute =
      some (.composite (Aggregate.rule (.operator (.int .intAdd))) (some (.filled ⟨3⟩))) := rfl
  have account := (composites_succeed_once.1 deeds Store.sum ⟨2⟩ valueAttribute _ _ slot).1
  exact ⟨rfl, account⟩

end ObjectCalculus
