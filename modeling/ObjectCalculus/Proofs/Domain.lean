import ObjectCalculus.Proofs.Repetition
import ObjectCalculus.Proofs.Stack

/-!
# Partial operations

Two operations are defined for a part of their arguments only: an attribute is looked up at
the position that its template gives it, and integers are divided. The slots of an instance
always line up with the declarations of its template, so that every position is one of a
slot, and of a slot that is what the template declares. And no divisor reaches a division
before the guard has found that it is not zero: whatever would become of a division by zero,
the rules are the same.
-/

set_option autoImplicit false

namespace ObjectCalculus

open Effect Evaluation

namespace Template

theorem spec_cons (title name other : String) (spec : Spec) (rest : List (String × Spec)) :
    (Template.mk title ((other, spec) :: rest)).spec? name =
      if other = name then some spec else (Template.mk title rest).spec? name := by
  by_cases here : other = name
  · simp [spec?, position?, List.findIdx?_cons, here]
  · simp only [spec?, position?, List.findIdx?_cons, beq_eq_false_iff_ne.mpr here, if_neg here]
    cases List.findIdx? (fun entry : String × Spec => entry.1 == name) rest <;> rfl

/-- What a template declares under a name is what it was last told. -/
theorem spec_declare (template : Template) (name other : String) (spec : Spec) :
    (template.declare name spec).spec? other =
      if name = other then some spec else template.spec? other := by
  obtain ⟨title, attributes⟩ := template
  change (Template.mk title (declareIn name spec attributes)).spec? other = _
  induction attributes with
  | nil => exact spec_cons title other name spec []
  | cons entry rest ih =>
      obtain ⟨first, old⟩ := entry
      by_cases here : first = name
      · subst here
        rw [declareIn, if_pos rfl, spec_cons, spec_cons]
        split <;> rfl
      · rw [declareIn, if_neg here, spec_cons, spec_cons, ih]
        by_cases asked : first = other
        · subst asked
          rw [if_pos rfl, if_pos rfl, if_neg (Ne.symm here)]
        · rw [if_neg asked, if_neg asked]

end Template

/-- The slot is what the declaration says it should be, whatever it holds. -/
inductive Slot.Suits : Slot → Spec → Prop
  | free (cell : Memo ObjectId) : Suits (.free cell) .free
  | variadic (items : List ObjectId) (isSealed : Bool) : Suits (.variadic items isSealed) .variadic
  | composite (rule : Rule) (cache : Option (Memo ObjectId)) :
      Suits (.composite rule cache) (.composite rule cache.isSome)

def Spec.isCached : Spec → Bool
  | .composite _ cached => cached
  | _ => false

section Suits

variable {slot grown : Slot} {spec : Spec}

theorem suits_fresh (spec : Spec) : (Slot.ofSpec spec).Suits spec := by
  cases spec with
  | free => exact .free _
  | variadic => exact .variadic _ _
  | composite rule cached =>
      cases cached with
      | false => exact .composite rule none
      | true => exact .composite rule (some .empty)

theorem suits_carry (suits : slot.Suits spec) : slot.carry.Suits spec := by
  cases suits with
  | free cell => exact .free cell
  | variadic items isSealed => exact .variadic items false
  | composite rule cache =>
      cases cache with
      | none => exact .composite rule none
      | some cell => exact .composite rule (some .empty)

theorem suits_grows (suits : slot.Suits spec) (grows : slot.Grows grown) : grown.Suits spec := by
  cases suits with
  | free cell =>
      cases grows
      exact .free _
  | variadic items isSealed =>
      cases grows
      exact .variadic _ _
  | composite rule cache =>
      cases grows with
      | uncached => exact .composite rule none
      | @cached _ _ after cell => exact .composite rule (some after)

theorem suits_composite {rule : Rule} {cached : Bool}
    (suits : slot.Suits (.composite rule cached)) :
    ∃ cache, slot = .composite rule cache := by
  generalize same : Spec.composite rule cached = spec at suits
  cases suits with
  | free | variadic => cases same
  | composite other cache =>
      cases same
      exact ⟨cache, rfl⟩

theorem suits_kind (suits : slot.Suits spec) : slot.kind = spec.kind := by
  cases suits <;> rfl

theorem suits_cached (suits : slot.Suits spec) : slot.isCached = spec.isCached := by
  cases suits with
  | free | variadic => rfl
  | composite rule cache => cases cache <;> rfl

end Suits

/-- There is one slot for every declaration of the template, at its position. -/
structure Instance.Aligned (object : Instance) : Prop where
  length : object.slots.length = object.template.attributes.length
  suits {position : Nat} {entry : String × Spec} {slot : Slot} :
    object.template.attributes[position]? = some entry →
      object.slots[position]? = some slot → slot.Suits entry.2

section Aligned

variable {object grown : Instance}

theorem aligned_fresh (definition : Definition) : (Instance.ofDefinition definition).Aligned where
  length := List.length_map _
  suits {position entry slot} declared held := by
    have made : (definition.template.attributes.map fun entry => Slot.ofSpec entry.2)[position]? =
        some (.ofSpec entry.2) := by
      rw [List.getElem?_map]
      exact congrArg (Option.map _) declared
    cases held.symm.trans made
    exact suits_fresh entry.2

theorem aligned_copy (aligned : object.Aligned) : object.copy.Aligned where
  length := (List.length_map _).trans aligned.length
  suits declared held := by
    obtain ⟨slot, found, rfl⟩ := Option.map_eq_some_iff.mp (List.getElem?_map.symm.trans held)
    exact suits_carry (aligned.suits declared found)

theorem aligned_grows (aligned : object.Aligned) (grows : object.Grows grown) : grown.Aligned := by
  have template : grown.template = object.template := congrArg Definition.template grows.definition
  constructor
  · rw [template]
    exact grows.length.trans aligned.length
  · intro position entry slot declared held
    rw [template] at declared
    have inside : position < object.slots.length := by
      rw [← grows.length]
      exact (List.getElem?_eq_some_iff.mp held).1
    obtain ⟨after, heldAfter, growth⟩ := grows.slots (List.getElem?_eq_getElem inside)
    cases held.symm.trans heldAfter
    exact suits_grows (aligned.suits declared (List.getElem?_eq_getElem inside)) growth

theorem position_inside (aligned : object.Aligned) {name : String} {position : Nat}
    (placed : object.template.position? name = some position) : position < object.slots.length := by
  obtain ⟨entry, declared, _⟩ := position_entry placed
  rw [aligned.length]
  exact (List.getElem?_eq_some_iff.mp declared).1

theorem aligned_lookup (aligned : object.Aligned) (name : String) :
    Option.Rel Slot.Suits (object.slot? name) (object.template.spec? name) := by
  cases placed : object.template.position? name with
  | none =>
      have slot : object.slot? name = none := by rw [Instance.slot?, placed]; rfl
      have spec : object.template.spec? name = none := by rw [Template.spec?, placed]; rfl
      rw [slot, spec]
      exact .none
  | some position =>
      obtain ⟨entry, declared, _⟩ := position_entry placed
      obtain ⟨held, inside⟩ : ∃ held, object.slots[position]? = some held :=
        ⟨_, List.getElem?_eq_getElem (position_inside aligned placed)⟩
      have slot : object.slot? name = some held := by
        rw [Instance.slot?, placed]
        exact inside
      have spec : object.template.spec? name = some entry.2 := by
        simp [Template.spec?, placed, declared]
      rw [slot, spec]
      exact .some (aligned.suits declared inside)

end Aligned

def Store.Aligned (store : Store) : Prop :=
  ∀ (object : ObjectId) (found : Instance), store.instance? object = some found → found.Aligned

section Stores

variable {store before after : Store} {object : ObjectId}

theorem aligned_changed (grows : before.Grows after)
    (size : after.objects.size = before.objects.size) (aligned : before.Aligned) :
    after.Aligned := by
  intro object found composed
  have there : before.Contains object := by
    have contained := Store.contains_of_object (Store.object_of_instance.mp composed)
    unfold Store.Contains at contained ⊢
    omega
  obtain ⟨holder, held⟩ := Store.object_of_contains there
  cases holder with
  | leaf data =>
      obtain ⟨grown, leaf, _⟩ := grows.leaves (Store.object_of_leaf.mpr held)
      rw [Store.object_of_leaf, Store.object_of_instance.mp composed] at leaf
      cases leaf
  | composed old =>
      have composedBefore := Store.object_of_instance.mpr held
      obtain ⟨grown, composedAfter, growth⟩ := grows.instances composedBefore
      cases composed.symm.trans composedAfter
      exact aligned_grows (aligned object old composedBefore) growth

theorem aligned_added {added : Object} (aligned : store.Aligned)
    (new : ∀ found, added = .composed found → found.Aligned) : (store.add added).2.Aligned := by
  intro object found composed
  rw [Store.object_of_instance, Store.object_add] at composed
  split at composed
  · exact new found (Option.some.inj composed)
  · exact aligned object found (Store.object_of_instance.mpr composed)

theorem aligned_write {supply : Supply} (write : Write supply before after)
    (aligned : before.Aligned) : after.Aligned := by
  have grows := write_grows write
  cases write with
  | recorded | tallied => exact aligned
  | leaf => exact aligned_added aligned nofun
  | @instantiated definition =>
      apply aligned_added aligned
      rintro _ ⟨⟩
      exact aligned_fresh definition
  | @copied object found composed =>
      apply aligned_added aligned
      rintro _ ⟨⟩
      exact aligned_copy (aligned object found composed)
  | bound | appended | sealed | taken => exact aligned_changed grows Array.size_modify aligned

theorem aligned_publish (object : ObjectId) (name : String) (result : ObjectId)
    (aligned : store.Aligned) : ((publish object name result).after store).Aligned := by
  refine aligned_changed (publish_grows object name result store) ?_ aligned
  unfold publish after
  rw [outcome_update]
  split
  · exact Array.size_modify
  · rfl

theorem alignment_invariance : Invariance fun before after => before.Aligned → after.Aligned where
  refl _ aligned := aligned
  trans first second aligned := second (first aligned)
  written := aligned_write
  left _ kept aligned := kept aligned
  published result _ kept aligned := aligned_publish _ _ result (kept aligned)

end Stores

/-- What every evaluation keeps, and marking an attribute as well, holds between the start of
a task and every moment that it passes. -/
theorem Invariance.keeps_moment {kept : Store → Store → Prop} (invariance : Invariance kept)
    (marked : ∀ store marker, kept store (store.mark marker))
    (publishes : ∀ object name result, Invariance.Keeps kept (publish object name result))
    {task : Task} {stack inner : List Marker} {store current : Store}
    (passes : Passes task stack store inner current) : kept store current := by
  induction passes with
  | start task stack store => exact invariance.refl store
  | finish task stack store => exact task_keeps invariance task store
  | computing _ _ _ _ _ ih => exact invariance.trans (marked _ _) ih
  | leaving =>
      exact invariance.trans (marked _ _)
        (invariance.keeps_composite invariance.keeps_attribute_of publishes _ _ _ _ _ _)
  | step _ _ _ _ ih => exact invariance.trans (invariance.keeps_stepped _ _ _ _) ih
  | @move config moves visited object next name stack inner store middle current composed
      fresh way moved rest ih =>
      have demanded := task_keeps invariance (.attributeOf config object name)
        (stepped config object name store)
      have arrived : (Task.attributeOf config object name).after
          (stepped config object name store) = middle := congrArg Prod.snd moved
      rw [arrived] at demanded
      exact invariance.trans (invariance.keeps_stepped config object name store)
        (invariance.trans demanded ih)
  | dataizing _ ih | demanding _ ih | resolving _ ih => exact ih
  | @answered α running request next stack inner store current rest ih =>
      exact invariance.trans
        (invariance.keeps_perform invariance.keeps_attribute_of running request store) ih

/-- The stores that come about by declaring templates, making instances of them, showing
objects, and by tasks of every kind, whether they have ended or are under way. -/
inductive Store.Arises : Store → Prop
  | empty : Arises .empty
  | declared {store : Store} (arises : Arises store) (name : String) (template : Template) :
      Arises (store.declare name template)
  | instantiated {store : Store} (arises : Arises store) (definition : Definition) :
      Arises (store.instantiate definition).2
  | outlined {store : Store} (arises : Arises store) (object : ObjectId) :
      Arises (store.outline object).2
  | passed {store current : Store} {task : Task} {stack inner : List Marker}
      (arises : Arises store) (passes : Passes task stack store inner current) : Arises current

theorem arises_aligned {store : Store} (arises : store.Arises) : store.Aligned := by
  induction arises with
  | empty => exact nofun
  | declared _ name template aligned => exact aligned
  | @instantiated store _ definition aligned =>
      exact alignment_invariance.writes (instantiate_writes trivial) aligned
  | @outlined store _ object aligned =>
      unfold Store.outline
      split
      · exact aligned
      · exact alignment_invariance.writes display_writes aligned
  | passed _ passes aligned =>
      exact alignment_invariance.keeps_moment (fun _ _ aligned => aligned)
        (fun object name result _ => aligned_publish object name result) passes aligned

namespace Fold

variable {α : Type}

theorem continue_by (fold : Fold α) {combine : α → α → Program α}
    (agrees : ∀ total operand, fold.guard operand = none →
      combine total operand = pure (fold.combine total operand))
    (total : α) (operands : List α) :
    continueWith fold.operation (fun operand => pure (fold.guard operand)) combine total operands =
      (pure (operands.foldlM fold.combineGuarded total) : Program (Except DataError α)) := by
  induction operands generalizing total with
  | nil => rfl
  | cons operand rest ih =>
      rw [continueWith, Program.pure_bind, List.foldlM_cons, combineGuarded]
      cases guarded : fold.guard operand with
      | some diagnostic => rfl
      | none =>
          simp only [agrees total operand guarded, Program.pure_bind]
          exact ih (fold.combine total operand)

theorem reduce_by (fold : Fold α) {combine : α → α → Program α}
    (agrees : ∀ total operand, fold.guard operand = none →
      combine total operand = pure (fold.combine total operand)) (operands : List α) :
    reduceM fold.operation (fun operand => pure (fold.guard operand)) combine operands =
      (pure (fold.reduce operands) : Program (Except DataError α)) := by
  rw [reduce_eq_left_fold]
  cases operands with
  | nil => rfl
  | cons first rest => exact continue_by fold agrees first rest

/-- The rule of the fold with another program in the place of its combinator, which is run
for every operand that is combined. -/
def ruleBy [Carrier α] (fold : Fold α) (combine : α → α → Program α) : Rule := fun owner => do
  let items ← Program.sequence owner fold.parameter
  let operands ← Program.each (Program.dataizeAs α) items
  match ← reduceM fold.operation (fun operand => pure (fold.guard operand)) combine operands with
  | .error failure => Program.fail failure
  | .ok total =>
      Program.ask (.report owner (.reduced fold.operation items.length))
      Program.leaf (Carrier.toValue total)

theorem rule_by_eq [Carrier α] (fold : Fold α) {combine : α → α → Program α}
    (agrees : ∀ total operand, fold.guard operand = none →
      combine total operand = pure (fold.combine total operand)) :
    fold.ruleBy combine = fold.rule := by
  funext owner
  apply Program.bind_congr
  intro items
  apply Program.bind_congr
  intro operands
  rw [reduce_by fold agrees]
  rfl

/-- The rule of the fold, in which a zero on the right is not combined but handed to a program
that may do anything. -/
def apartFromZero (fold : Fold Int64) (atZero : Int64 → Program Int64) : Rule :=
  fold.ruleBy fun total operand =>
    if operand = 0 then atZero total else pure (fold.combine total operand)

theorem apart_from_zero_eq (fold : Fold Int64) (atZero : Int64 → Program Int64)
    (refuses : fold.guard 0 ≠ none) : fold.apartFromZero atZero = fold.rule := by
  apply rule_by_eq
  intro total operand accepted
  rw [if_neg]
  rintro rfl
  exact refuses accepted

end Fold

/-- Whatever operations on built-in templates lead to has come about in one of these ways. -/
theorem reachable_arises {deferring : Prop} {store : Store}
    (reachable : Reachable deferring store) : store.Arises := by
  induction reachable with
  | refl => exact .empty
  | @tail before after _ operates arises =>
      cases operates with
      | @call config request within =>
          have asked : (Task.program config (Program.ask request)).after before =
              (perform attributeOf config request).after before :=
            congrArg Prod.snd (run_ask attributeOf config request before)
          exact asked ▸ .passed arises (.finish (.program config (Program.ask request)) [] _)
      | apply builtin known => exact .passed arises (.finish (.program .default _) [] _)
      | array known => exact .passed arises (.finish (.program .default _) [] _)
      | coerce raw known => exact .passed arises (.finish (.program .default _) [] _)
      | dataize config object expected =>
          exact .passed arises (.finish (.dataize config object expected) [] _)
      | dataizeAs carried config object =>
          exact .passed arises (.finish (.dataizeAs carried config object) [] _)

section Division

variable {store : Store} {object : ObjectId} {found : Instance} {builtin : Builtin}

theorem kinds_agree {slot : Option Slot} {spec : Option Spec}
    (suits : Option.Rel Slot.Suits slot spec) :
    slot.map Slot.kind = spec.map Spec.kind ∧ slot.map Slot.isCached = spec.map Spec.isCached := by
  cases suits with
  | none => exact ⟨rfl, rfl⟩
  | some suits => exact ⟨congrArg some (suits_kind suits), congrArg some (suits_cached suits)⟩

/-- An operator that has come about evaluates its value by its own fold. -/
theorem operator_rule {fold : Fold Int64} (aligned : store.Aligned)
    (role : builtin.role = .aggregate (.operator (.int fold)))
    (composed : store.instance? object = some found)
    (defined : found.definition = builtin.definition) :
    ∃ cache, store.slot? object valueAttribute = some (.composite fold.rule cache) := by
  have declared : found.template.spec? valueAttribute = some (.composite fold.rule true) := by
    have apart := parameter_ne_value role
    rw [Instance.template, defined, Builtin.definition, template_of_aggregate role,
      Template.spec_cons, if_neg apart, Template.spec_cons, if_pos rfl]
    rfl
  have suits := aligned_lookup (aligned object found composed) valueAttribute
  rw [declared, ← Store.slot_of_instance composed] at suits
  cases slot : store.slot? object valueAttribute with
  | none =>
      rw [slot] at suits
      cases suits
  | some held =>
      rw [slot] at suits
      cases suits with
      | some suits =>
          obtain ⟨cache, same⟩ := suits_composite suits
          exact ⟨cache, congrArg some same⟩

end Division

/-- In every store that has come about, each look-up by position finds a slot, so that an
instance has exactly the attributes that its template declares, and as it declares them last.
And at every moment of every dataization, the rule of an integer division or remainder is the
same as if a zero on the right had been handed to anything else. -/
theorem partial_operations_are_guarded {store : Store} (arises : store.Arises) :
    (∀ object found, store.instance? object = some found → ∀ name,
      (∀ position, found.template.position? name = some position →
        position < found.slots.length) ∧
      (store.slot? object name).map Slot.kind = (found.template.spec? name).map Spec.kind ∧
      (store.slot? object name).map Slot.isCached =
        (found.template.spec? name).map Spec.isCached) ∧
    (∀ (template : Template) (name other : String) (spec : Spec),
      (template.declare name spec).spec? other =
        if name = other then some spec else template.spec? other) ∧
    ∀ config object inner current, Passes (.resolve config object) [] store inner current →
      ∀ division ∈ [(Builtin.intDiv, Fold.intDiv), (Builtin.intMod, Fold.intMod)],
        ∀ divided found, current.instance? divided = some found →
          found.definition = division.1.definition →
            ∃ cache, ∀ atZero, current.slot? divided valueAttribute =
              some (.composite (division.2.apartFromZero atZero) cache) := by
  refine ⟨?lookups, fun template name other spec => template.spec_declare name other spec,
    ?divisions⟩
  case lookups =>
    intro object found composed name
    have aligned := arises_aligned arises object found composed
    rw [Store.slot_of_instance composed]
    exact ⟨fun position => position_inside aligned, kinds_agree (aligned_lookup aligned name)⟩
  case divisions =>
    intro config object inner current passes division member divided found composed defined
    have aligned := arises_aligned (arises.passed passes)
    have roles : division.1.role = .aggregate (.operator (.int division.2)) ∧
        division.2.guard 0 ≠ none := by
      simp only [List.mem_cons, List.not_mem_nil, or_false] at member
      rcases member with rfl | rfl
      · exact ⟨rfl, nofun⟩
      · exact ⟨rfl, nofun⟩
    obtain ⟨cache, slot⟩ := operator_rule aligned roles.1 composed defined
    refine ⟨cache, fun atZero => ?_⟩
    rw [Fold.apart_from_zero_eq division.2 atZero roles.2]
    exact slot

/-- While a sum is divided by zero, the rule of the quotient would be the same if that were
answered in any other way. -/
theorem fraction_is_guarded :
    let quotient : ObjectId := ⟨4⟩
    let found : Instance := ⟨Builtin.intDiv.definition,
      [.variadic [⟨2⟩, ⟨3⟩] false, .composite Fold.intDiv.rule (some .empty)]⟩
    let marker : Marker := ⟨quotient, valueAttribute⟩
    let current := Store.fraction.mark marker
    Store.fraction.Arises ∧ Store.fraction.instance? quotient = some found ∧
      found.template.position? valueAttribute = some 1 ∧ 1 < found.slots.length ∧
      Passes (.resolve .default quotient) [] Store.fraction [marker] current ∧
      (∃ cache, ∀ atZero, current.slot? quotient valueAttribute =
        some (.composite (Fold.intDiv.apartFromZero atZero) cache)) ∧
      ((resolve .default quotient).outcome Store.fraction).1 =
        .error (.invalidOperand "int.div" .divisionByZero) := by
  intro quotient found marker current
  have reachable : Reachable False Store.fraction :=
    (reachable_leaf sum_reachable (.int 0)).tail (.apply .intDiv (by decide))
  have arises := reachable_arises reachable
  have composed : Store.fraction.instance? quotient = some found := rfl
  have placed : found.template.position? valueAttribute = some 1 := rfl
  have passes : Passes (.resolve .default quotient) [] Store.fraction [marker] current := by
    have way : nextAttribute Store.fraction quotient = .ok valueAttribute := rfl
    have slot : Store.fraction.slot? quotient valueAttribute =
        some (.composite Fold.intDiv.rule (some .empty)) := rfl
    refine .step rfl List.not_mem_nil way ?_
    refine .computing slot List.not_mem_nil (by decide) ?_ (.start _ _ _)
    intro cell given
    cases given
    rfl
  obtain ⟨lookups, _, divisions⟩ := partial_operations_are_guarded arises
  have inside := (lookups quotient found composed valueAttribute).1 1 placed
  have guarded := divisions .default quotient _ _ passes (.intDiv, .intDiv)
    List.mem_cons_self quotient found composed rfl
  exact ⟨arises, composed, placed, inside, passes, guarded, rfl⟩

end ObjectCalculus
