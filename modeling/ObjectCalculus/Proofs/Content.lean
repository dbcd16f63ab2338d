import ObjectCalculus.Proofs.Gathering
import ObjectCalculus.Proofs.Reading

/-!
# Contents

What a leaf or an object of a built-in template is made of, and how a store reads
and changes it. A content names the role its template has, so that there is none
for an instance that no built-in template can have.
-/

set_option autoImplicit false

namespace ObjectCalculus

inductive Content where
  | leaf (data : Leaf)
  | datum {builtin : Builtin} (role : builtin.role = .datum) (binding : Option ObjectId)
  | aggregate {builtin : Builtin} {form : Aggregate}
      (role : builtin.role = .aggregate form) (items : List ObjectId)
      (isSealed : Bool) (cache : Option ObjectId)

namespace Content

def object : Content → Object
  | .leaf data => .leaf data
  | @datum builtin _ binding => .composed ⟨builtin.definition, [.free ⟨binding⟩]⟩
  | @aggregate builtin form _ items isSealed cache =>
      .composed ⟨builtin.definition,
        [.variadic items isSealed, .composite form.rule (some ⟨cache⟩)]⟩

def name : Content → String
  | .leaf _ => Object.leafName
  | @datum builtin _ _ => builtin.name
  | @aggregate builtin _ _ _ _ _ => builtin.name

def slot? : Content → String → Option Slot
  | .leaf _, _ => none
  | .datum _ binding, name =>
      if name = dataAttribute then some (.free ⟨binding⟩) else none
  | @aggregate _ form _ items isSealed cache, name =>
      if name = form.parameter then some (.variadic items isSealed)
      else if name = valueAttribute then some (.composite form.rule (some ⟨cache⟩))
      else none

def fresh (builtin : Builtin) : Content :=
  match role : builtin.role with
  | .datum => .datum role none
  | .aggregate _ => .aggregate role [] false none

/-- A copy is open again and has computed nothing. -/
def copy : Content → Content
  | .leaf data => .leaf data
  | .datum role binding => .datum role binding
  | .aggregate role items _ _ => .aggregate role items false none

def result? : Content → Option ObjectId
  | .leaf _ => none
  | .datum _ _ => none
  | .aggregate _ _ _ cache => cache

variable {builtin : Builtin} {form : Aggregate}

theorem position_datum (role : builtin.role = .datum) (name : String) :
    builtin.template.position? name = if name = dataAttribute then some 0 else none := by
  rw [template_of_datum role]
  by_cases same : name = dataAttribute
  · simp [Template.position?, same]
  · simp [Template.position?, same, Ne.symm same]

theorem position_aggregate (role : builtin.role = .aggregate form) (name : String) :
    builtin.template.position? name =
      if name = form.parameter then some 0
      else if name = valueAttribute then some 1 else none := by
  rw [template_of_aggregate role]
  by_cases items : name = form.parameter
  · simp [Template.position?, List.findIdx?_cons, items]
  · by_cases value : name = valueAttribute
    · have apart := parameter_ne_value role
      subst value
      simp [Template.position?, List.findIdx?_cons, items, apart]
    · simp [Template.position?, List.findIdx?_cons, items, value, Ne.symm items, Ne.symm value]

theorem object_slot (content : Content) (name : String) :
    content.object.slot? name = content.slot? name := by
  cases content with
  | leaf data => rfl
  | datum role binding =>
      change ((Builtin.template _).position? name >>= _) = _
      rw [position_datum role, slot?]
      by_cases same : name = dataAttribute
      · simp [same]
      · simp [same]
  | @aggregate builtin form role items isSealed cache =>
      change ((Builtin.template _).position? name >>= _) = _
      rw [position_aggregate role, slot?]
      by_cases itemsName : name = form.parameter
      · simp [itemsName]
      · by_cases valueName : name = valueAttribute
        · have apart := parameter_ne_value role
          subst valueName
          simp [itemsName]
        · simp [itemsName, valueName]

theorem object_name (content : Content) : content.object.name = content.name := by
  cases content with
  | leaf data => rfl
  | datum role binding => exact congrArg Template.name (template_of_datum role)
  | aggregate role items isSealed cache =>
      exact congrArg Template.name (template_of_aggregate role)

theorem object_injective {left right : Content} (same : left.object = right.object) :
    left = right := by
  cases left <;> cases right <;> simp only [object, Object.leaf.injEq, Object.composed.injEq,
    Instance.mk.injEq, Builtin.definition, Definition.mk.injEq, Origin.builtin.injEq,
    List.cons.injEq, reduceCtorEq, and_false] at same
  case leaf.leaf => rw [same]
  case datum.datum =>
    obtain ⟨⟨rfl, _⟩, slot, _⟩ := same
    cases slot
    rfl
  case aggregate.aggregate leftRole _ _ _ _ _ rightRole _ _ _ =>
    obtain ⟨⟨rfl, _⟩, items, value, _⟩ := same
    have forms := leftRole.symm.trans rightRole
    cases forms
    cases items
    cases value
    rfl

theorem object_fresh (builtin : Builtin) :
    (fresh builtin).object = .composed (.ofDefinition builtin.definition) := by
  unfold fresh
  split
  · rename_i role
    have template := template_of_datum role
    simp [object, Instance.ofDefinition, Builtin.definition, template, Slot.ofSpec, Memo.empty]
  · rename_i form role
    have template := template_of_aggregate role
    simp [object, Instance.ofDefinition, Builtin.definition, template, Slot.ofSpec, Memo.empty]

theorem object_copy {content : Content} {found : Instance}
    (composed : content.object = .composed found) :
    content.copy.object = .composed found.copy := by
  cases content with
  | leaf data => cases composed
  | datum role binding =>
      cases composed
      rfl
  | aggregate role items isSealed cache =>
      cases composed
      rfl

theorem result_fresh (builtin : Builtin) : (fresh builtin).result? = none := by
  unfold fresh
  split <;> rfl

theorem result_copy (content : Content) : content.copy.result? = none := by
  cases content <;> rfl

theorem set_binding (role : builtin.role = .datum) (old new : Option ObjectId) :
    (datum role old).object.setSlot dataAttribute (.free ⟨new⟩) = (datum role new).object := by
  have placed := position_datum role dataAttribute
  rw [if_pos rfl] at placed
  simp only [object, Object.setSlot, Instance.setSlot, Instance.template, Builtin.definition,
    placed, List.set_cons_zero]

theorem set_items (role : builtin.role = .aggregate form) (old new : List ObjectId)
    (wasSealed isSealed : Bool) (cache : Option ObjectId) :
    (Content.aggregate role old wasSealed cache).object.setSlot form.parameter
        (.variadic new isSealed) =
      (Content.aggregate role new isSealed cache).object := by
  have placed := position_aggregate role form.parameter
  rw [if_pos rfl] at placed
  simp only [object, Object.setSlot, Instance.setSlot, Instance.template, Builtin.definition,
    placed, List.set_cons_zero]

theorem set_cache (role : builtin.role = .aggregate form) (items : List ObjectId)
    (isSealed : Bool) (old new : Option ObjectId) :
    (Content.aggregate role items isSealed old).object.setSlot valueAttribute
        (.composite form.rule (some ⟨new⟩)) =
      (Content.aggregate role items isSealed new).object := by
  have placed := position_aggregate role valueAttribute
  rw [if_neg (parameter_ne_value role).symm, if_pos rfl] at placed
  simp only [object, Object.setSlot, Instance.setSlot, Instance.template, Builtin.definition,
    placed, List.set_cons_zero, List.set_cons_succ]

variable {content : Content} {name : String}

theorem slot_free {cell : Memo ObjectId} (slot : content.slot? name = some (.free cell)) :
    ∃ (builtin : Builtin) (role : builtin.role = .datum),
      content = .datum role cell.content ∧ name = dataAttribute := by
  cases content with
  | leaf data => cases slot
  | datum role binding =>
      simp only [slot?] at slot
      split_ifs at slot with named
      cases slot
      exact ⟨_, role, rfl, named⟩
  | aggregate role items isSealed cache =>
      simp only [slot?] at slot
      split_ifs at slot <;> cases slot

theorem slot_variadic {items : List ObjectId} {isSealed : Bool}
    (slot : content.slot? name = some (.variadic items isSealed)) :
    ∃ (builtin : Builtin) (form : Aggregate)
      (role : builtin.role = .aggregate form) (cache : Option ObjectId),
      content = .aggregate role items isSealed cache ∧ name = form.parameter := by
  cases content with
  | leaf data => cases slot
  | datum role binding =>
      simp only [slot?] at slot
      split_ifs at slot
      cases slot
  | aggregate role items isSealed cache =>
      simp only [slot?] at slot
      split_ifs at slot with named
      · cases slot
        exact ⟨_, _, role, cache, rfl, named⟩
      · cases slot

theorem slot_composite {rule : Rule} {cell : Option (Memo ObjectId)}
    (slot : content.slot? name = some (.composite rule cell)) :
    ∃ (builtin : Builtin) (form : Aggregate)
      (role : builtin.role = .aggregate form) (items : List ObjectId)
      (isSealed : Bool) (cache : Option ObjectId),
      content = .aggregate role items isSealed cache ∧ name = valueAttribute ∧
        rule = form.rule ∧ cell = some ⟨cache⟩ := by
  cases content with
  | leaf data => cases slot
  | datum role binding =>
      simp only [slot?] at slot
      split_ifs at slot
      cases slot
  | aggregate role items isSealed cache =>
      simp only [slot?] at slot
      split_ifs at slot with _ named
      · cases slot
      · cases slot
        exact ⟨_, _, role, items, isSealed, cache, rfl, named, rfl, rfl⟩

end Content

end ObjectCalculus
