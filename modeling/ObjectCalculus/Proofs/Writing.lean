import ObjectCalculus.Proofs.Outcome
import ObjectCalculus.Proofs.Reading
import Mathlib.Logic.Relation

/-!
# Writing

The changes that a store goes through. Every call that evaluates nothing changes
the store by a sequence of the writes below and by nothing else, whether it
succeeds or fails; what is shown of one write holds of all such calls.
-/

set_option autoImplicit false

namespace ObjectCalculus

/-- What calls may bring into a store from outside. -/
structure Supply where
  definition : Definition → Prop
  leaf : Leaf → Prop
  value : ObjectId → Prop

namespace Supply

def all : Supply where
  definition _ := True
  leaf _ := True
  value _ := True

end Supply

inductive Write (supply : Supply) (store : Store) : Store → Prop
  | recorded (event : Event) : Write supply store (store.record event)
  | tallied (counter : String) : Write supply store (store.tally counter)
  | leaf {data : Leaf} (supplied : supply.leaf data) :
      Write supply store (store.addLeaf data).2
  | instantiated {definition : Definition} (supplied : supply.definition definition) :
      Write supply store (store.add (.composed (.ofDefinition definition))).2
  | copied {object : ObjectId} {found : Instance}
      (composed : store.instance? object = some found) :
      Write supply store (store.add (.composed found.copy)).2
  | bound {object value : ObjectId} {name : String} {cell : Memo ObjectId}
      (slot : store.slot? object name = some (.free cell)) (empty : cell.content = none)
      (supplied : supply.value value) :
      Write supply store (store.setSlot object name (.free (.filled value)))
  | appended {object value : ObjectId} {name : String} {items : List ObjectId}
      (slot : store.slot? object name = some (.variadic items false))
      (supplied : supply.value value) :
      Write supply store (store.setSlot object name (.variadic (items ++ [value]) false))
  | sealed {object : ObjectId} {name : String} {items : List ObjectId} {isSealed : Bool}
      (slot : store.slot? object name = some (.variadic items isSealed)) :
      Write supply store (store.setSlot object name (.variadic items true))
  | taken {object : ObjectId} {data : Deferred Value}
      (leaf : store.leaf? object = some (.deferred data)) :
      Write supply store (store.setLeaf object (.deferred data.take.2))

abbrev Writes (supply : Supply) : Store → Store → Prop :=
  Relation.ReflTransGen (Write supply)

/-- The calls that start an evaluation; all others change the store directly. -/
def Call.evaluates : Call → Bool
  | .attributeOf .. => true
  | .resolve .. => true
  | _ => false

/-- Whether a call brings in only what the supply allows. A call by name brings
in what the store finds under that name. -/
def Call.Within (supply : Supply) (store : Store) : Call → Prop
  | .instantiate (.builtin builtin) => supply.definition builtin.definition
  | .instantiate (.named name) =>
      ∀ definition, store.definition? name = some definition →
        supply.definition definition
  | .leaf value => supply.leaf (.fixed value)
  | .deferredLeaf data => supply.leaf (.deferred data)
  | .extend _ _ value => supply.value value
  | .bind _ _ value => supply.value value
  | .bindAt _ _ _ value => supply.value value
  | _ => True

theorem call_within_all (store : Store) (request : Call) :
    request.Within .all store := by
  cases request with
  | instantiate template => cases template <;> simp [Call.Within, Supply.all]
  | _ => trivial

variable {supply : Supply} {store : Store} {object value : ObjectId} {name : String}

theorem slot_bind_write {slot bound : Slot} {owner : String}
    (found : store.slot? object name = some slot) (supplied : supply.value value)
    (success : slot.bind owner name value = .ok bound) :
    Write supply store (store.setSlot object name bound) := by
  cases slot with
  | free cell =>
      cases content : cell.content with
      | some kept => simp [Slot.bind, Slot.bindFree, Memo.set, content] at success
      | none =>
          simp only [Slot.bind, Slot.bindFree, Memo.set, content] at success
          cases success
          exact .bound found content supplied
  | variadic items isSealed =>
      cases isSealed with
      | true => simp [Slot.bind] at success
      | false =>
          simp only [Slot.bind] at success
          cases success
          exact .appended found supplied
  | composite rule cache => simp [Slot.bind] at success

theorem slot_bind_of_bind_at {slot bound : Slot} {owner : String} {index : Nat}
    (success : slot.bindAt owner name index value = .ok bound) :
    slot.bind owner name value = .ok bound := by
  cases slot with
  | free cell =>
      simp only [Slot.bindAt] at success
      split_ifs at success
      exact success
  | variadic items isSealed =>
      simp only [Slot.bindAt] at success
      split_ifs at success with sealed
      simpa only [Slot.bind, if_neg sealed] using success
  | composite rule cache => exact success

theorem require_ok {slot : Slot} (required : store.require object name = .ok slot) :
    store.slot? object name = some slot := by
  unfold Store.require at required
  split at required
  · cases required
    assumption
  · cases required

theorem bind_writes {bound : Store} (supplied : supply.value value)
    (success : store.bind object name value = .ok bound) :
    Writes supply store bound := by
  unfold Store.bind at success
  rcases required : store.require object name with failure | slot
  · rw [required] at success
    cases success
  rw [required] at success
  change (slot.bind (store.label object) name value >>= _) = _ at success
  rcases taken : slot.bind (store.label object) name value with failure | full
  · rw [taken] at success
    cases success
  rw [taken] at success
  cases success
  exact .tail (.single (slot_bind_write (require_ok required) supplied taken))
    (.recorded _)

theorem bind_at_writes {bound : Store} {index : Nat} (supplied : supply.value value)
    (success : store.bindAt object name index value = .ok bound) :
    Writes supply store bound := by
  unfold Store.bindAt at success
  rcases required : store.require object name with failure | slot
  · rw [required] at success
    cases success
  rw [required] at success
  change (slot.bindAt (store.label object) name index value >>= _) = _ at success
  rcases taken : slot.bindAt (store.label object) name index value with failure | full
  · rw [taken] at success
    cases success
  rw [taken] at success
  cases success
  have bound := slot_bind_write (require_ok required) supplied (slot_bind_of_bind_at taken)
  exact .tail (.single bound) (.recorded _)

theorem try_bind_writes (change : Store → Except BindError Store)
    (writes : ∀ bound, change store = .ok bound → Writes supply store bound) :
    Writes supply store (Store.tryBind change store).2 := by
  unfold Store.tryBind
  split
  · rename_i bound success
    exact writes bound success
  · exact .refl

theorem instantiate_writes {definition : Definition}
    (supplied : supply.definition definition) :
    Writes supply store (store.instantiate definition).2 :=
  .tail (.single (.instantiated supplied)) (.recorded _)

theorem named_writes
    (supplied : ∀ definition, store.definition? name = some definition →
      supply.definition definition) :
    Writes supply store ((Evaluation.instantiate (.named name)).after store) := by
  unfold Evaluation.instantiate Effect.after
  rw [Effect.outcome_of_store]
  cases declared : store.definition? name with
  | none =>
      simp only [declared]
      exact .refl
  | some definition =>
      simp only [declared]
      exact instantiate_writes (supplied definition declared)

theorem copy_writes (supply : Supply) (store : Store) (object : ObjectId) :
    Writes supply store (store.copy object).2 := by
  unfold Store.copy
  split
  · rename_i found composed
    exact .single (.copied composed)
  · exact .refl

theorem extend_writes (supplied : supply.value value) :
    Writes supply store (store.extend object name value).2 := by
  unfold Store.extend
  split
  · exact .refl
  · have copied := copy_writes supply store object
    simp only
    split
    · exact copied
    · rename_i bound success
      exact copied.trans (bind_writes supplied success)

theorem sequence_writes : Writes supply store (store.sequence object name).2 := by
  unfold Store.sequence
  split
  · rename_i items isSealed slot
    exact .single (.sealed slot)
  · split <;> exact .refl
  · exact .refl
  · exact .refl

theorem take_leaf_writes (supply : Supply) (store : Store) (object : ObjectId) :
    Writes supply store (store.takeLeaf object).2 := by
  unfold Store.takeLeaf
  split
  · exact .refl
  · rename_i data leaf
    exact .single (.taken leaf)
  · exact .refl

theorem datum_after (store : Store) (object : ObjectId) :
    (store.datum object).2 = (store.takeLeaf object).2 := by
  unfold Store.datum
  rcases store.takeLeaf object with ⟨result, after⟩
  rcases result with _ | _ | _ <;> rfl

theorem display_writes : Writes supply store (store.display object).2 := by
  unfold Store.display
  split
  · exact .refl
  · rename_i data leaf
    by_cases forced : data.blank.isEmpty
    · have shown : (data.display Value.text).2 = data.take.2 := by
        unfold Deferred.display
        rw [if_pos forced]
        rcases data.take with ⟨result, after⟩
        cases result <;> rfl
      simp only [shown]
      exact .single (.taken leaf)
    · have shown : (data.display Value.text).2 = data := by
        unfold Deferred.display
        rw [if_neg forced]
        split <;> rfl
      simp only [shown]
      rw [Store.set_leaf_same leaf]
  · exact .refl

open Evaluation Effect in
theorem perform_writes (evaluate : Evaluator) (running : Config) {request : Call}
    (within : request.Within supply store) (direct : request.evaluates = false) :
    Writes supply store ((perform evaluate running request).after store) := by
  cases request with
  | attributeOf scope object name => cases direct
  | resolve scope object => cases direct
  | sequence object name => exact sequence_writes
  | instantiate template =>
      cases template with
      | builtin builtin => exact instantiate_writes within
      | named name => exact named_writes within
  | leaf value => exact .single (.leaf within)
  | deferredLeaf data => exact .single (.leaf within)
  | copy object => exact copy_writes supply store object
  | extend object name value => exact extend_writes within
  | bind object name value =>
      exact try_bind_writes (fun store => store.bind object name value)
        fun bound success => bind_writes within success
  | bindAt object name index value =>
      exact try_bind_writes (fun store => store.bindAt object name index value)
        fun bound success => bind_at_writes within success
  | datum object =>
      have taken := take_leaf_writes supply store object
      rw [← datum_after] at taken
      exact taken
  | display object => exact display_writes
  | depth => exact .refl
  | report object content => exact .single (.recorded _)
  | tally counter => exact .single (.tallied counter)

end ObjectCalculus
