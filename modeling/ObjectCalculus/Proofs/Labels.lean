import Mathlib.Data.List.Basic
import ObjectCalculus.Proofs.Naming
import ObjectCalculus.Proofs.Safety

/-!
# Labels

A label is a name with a number behind it. The number is told from the label whatever the name
is, since it starts after the last mark. Objects are numbered in the order in which they are
made, and a number is never used again. So a label identifies its object at all times, and what
a store refers to is always there to be identified.
-/

set_option autoImplicit false

namespace ObjectCalculus

open Effect Evaluation

section Texts

/-- A mark further left would put the last one among the digits. -/
theorem mark_is_last {digits others rest : List Char} (unmarked : '#' ∉ digits)
    (same : '#' :: digits = rest ++ '#' :: others) : rest = [] ∧ digits = others := by
  cases rest with
  | nil => exact ⟨rfl, List.tail_eq_of_cons_eq same⟩
  | cons first rest =>
      have later := List.tail_eq_of_cons_eq same
      refine absurd ?_ unmarked
      rw [later]
      exact List.mem_append_right rest List.mem_cons_self

/-- What is in front of the last mark may contain more of them. -/
theorem last_mark_splits {left right digits others : List Char} (unmarked : '#' ∉ digits)
    (otherUnmarked : '#' ∉ others) (same : left ++ '#' :: digits = right ++ '#' :: others) :
    left = right ∧ digits = others := by
  rcases List.append_eq_append_iff.mp same with ⟨rest, longer, tail⟩ | ⟨rest, longer, tail⟩
  · obtain ⟨rfl, digits⟩ := mark_is_last unmarked tail
    exact ⟨(longer.trans (List.append_nil left)).symm, digits⟩
  · obtain ⟨rfl, digits⟩ := mark_is_last otherUnmarked tail
    exact ⟨longer.trans (List.append_nil right), digits.symm⟩

theorem text_splits {name other : String} {object another : ObjectId}
    (same : name ++ object.text = other ++ another.text) : name = other ∧ object = another := by
  rw [← String.toList_inj, String.toList_append, String.toList_append, text_marked,
    text_marked] at same
  obtain ⟨names, digits⟩ := last_mark_splits (digits_unmarked _) (digits_unmarked _) same
  have numbers : object.index + 1 = another.index + 1 := digits_injective digits
  exact ⟨String.toList_inj.mp names, object_id_ext (Nat.succ_injective numbers)⟩

theorem label_splits {store later : Store} {object other : ObjectId}
    (same : store.label object = later.label other) : object = other :=
  (text_splits same).2

end Texts

/-- The stores that come about by declaring templates, making instances of them, showing objects,
and by tasks of every kind, whether they have ended or are under way. Templates and programs get
at objects only by having them, and they can only have such as exist. The stores of sessions are
among these. -/
inductive Store.Unforged : Store → Prop
  | empty : Unforged .empty
  | declared {store : Store} {template : Template} (unforged : Unforged store) (name : String)
      (honest : template.Honest store.Contains) : Unforged (store.declare name template)
  | instantiated {store : Store} {definition : Definition} (unforged : Unforged store)
      (honest : definition.template.Honest store.Contains) :
      Unforged (store.instantiate definition).2
  | outlined {store : Store} (unforged : Unforged store) (object : ObjectId) :
      Unforged (store.outline object).2
  | passed {store current : Store} {task : Task} {stack inner : List Marker}
      (unforged : Unforged store) (honest : task.Honest store.Contains)
      (passes : Passes task stack store inner current) : Unforged current

section Unforged

variable {store current : Store} {task : Task} {stack inner : List Marker} {object : ObjectId}

theorem unforged_closed (unforged : store.Unforged) : store.Closed := by
  induction unforged with
  | empty => exact closed_empty
  | @declared store template _ name honest closed =>
      refine ⟨closed.slots, List.forall_mem_cons.mpr ⟨honest, closed.declared⟩⟩
  | @instantiated store definition _ honest closed =>
      exact closed_writes closed (instantiate_writes honest)
  | @outlined store _ object closed =>
      unfold Store.outline
      split
      · exact closed
      · have writes : Writes store.inHand store (store.display object).2 := display_writes
        exact closed_writes closed writes
  | passed _ honest passes closed => exact passes_closed passes honest closed

theorem passes_grow (passes : Passes task stack store inner current) : store.Grows current :=
  growth_invariance.keeps_moment mark_grows publish_grows passes

end Unforged

/-- In every store that comes about honestly, the objects have numbers below the next one, and
every object has a number and a label of its own. All objects that are bound, listed or kept
exist. Whatever the names are, a name and an object are told from the text of both. And whatever
is done later, objects keep their labels, and the numbers and labels of new ones are new. -/
theorem labels_identify_objects {store : Store} (unforged : store.Unforged) :
    (∀ object, store.Contains object → object.number < store.nextId.number) ∧
      (∀ object other, store.Contains object → store.Contains other → object ≠ other →
        object.number ≠ other.number ∧ store.label object ≠ store.label other) ∧
      (∀ object found slot target, store.instance? object = some found → slot ∈ found.slots →
        target ∈ slot.targets → ∃ holder, store.object? target = some holder) ∧
      (∀ (name other : String) (object another : ObjectId),
        name ++ object.text = other ++ another.text → name = other ∧ object = another) ∧
      ∀ task stack inner current, Passes task stack store inner current →
        (∀ object, store.Contains object →
          current.Contains object ∧ current.label object = store.label object) ∧
        ∀ object, current.Contains object → ¬store.Contains object →
          store.nextId.number ≤ object.number ∧
            ∀ other, store.Contains other → current.label object ≠ store.label other := by
  refine ⟨fun object there => Nat.succ_lt_succ there, ?_, ?_, fun _ _ _ _ => text_splits, ?_⟩
  · intro object other _ _ apart
    refine ⟨fun same => apart (object_id_ext (Nat.succ_injective same)), fun same => ?_⟩
    exact apart (label_splits same)
  · intro object found slot target composed member bound
    have within := (unforged_closed unforged).slots composed member
    exact Store.object_of_contains (within.targets target bound)
  · intro task stack inner current passes
    have grows := passes_grow passes
    constructor
    · intro object there
      obtain ⟨holder, held⟩ := Store.object_of_contains there
      exact ⟨contains_grows there grows, congrArg (· ++ object.text) (name_grows grows held)⟩
    · intro object _ new
      refine ⟨Nat.succ_le_succ (Nat.le_of_not_lt new), fun other there same => new ?_⟩
      rwa [label_splits same]

def Template.lookalike : Template :=
  ((Template.new "data#1").free "x").cached valueAttribute (Expression.constant (.int 5)).rule

def Expression.lookalike : Expression :=
  .attributeOf (.copy (.bind .self "x" (.constant (.int 7)))) valueAttribute

/-- A leaf, an instance with a leaf bound to it, a copy, and the result that the copy keeps. -/
def Store.lookalike : Store :=
  let first := (Task.program .default (Program.leaf (.int 3))).after .empty
  let made := ((first.declare "t" .lookalike).instantiate ⟨.declared 0, .lookalike⟩).2
  (Task.program .default (Expression.lookalike.rule ⟨1⟩)).after made

theorem lookalike_honest (held : ObjectId → Prop) : Template.lookalike.Honest held := by
  have bare : (Template.new "data#1").Honest held := List.forall_mem_nil _
  have free : Spec.free.Honest held := trivial
  apply honest_declare (honest_declare bare "x" free) valueAttribute
  intro owner
  exact Expression.honest_rule (.constant (.int 5)) (.inl rfl)

theorem lookalike_unforged : Store.lookalike.Unforged := by
  let leaf : Task := .program .default (Program.leaf (.int 3))
  let first := leaf.after .empty
  let made := ((first.declare "t" .lookalike).instantiate ⟨.declared 0, .lookalike⟩).2
  let task : Task := .program .default (Expression.lookalike.rule ⟨1⟩)
  have alone : leaf.Honest Store.empty.Contains := honest_quiet (honest_leaf (.int 3))
  have placed : first.Unforged := .passed .empty alone (.finish leaf [] .empty)
  have declared := Store.Unforged.declared placed "t" (lookalike_honest _)
  have instantiated : made.Unforged := .instantiated declared (lookalike_honest _)
  have owner : made.Contains ⟨1⟩ := Nat.one_lt_two
  have honest : task.Honest made.Contains :=
    honest_quiet (Expression.honest_rule Expression.lookalike owner)
  exact .passed instantiated honest (.finish task [] made)

theorem lookalikes_differ :
    let store := Store.lookalike
    store.Unforged ∧
      [0, 1, 2, 3, 4].map (fun index => store.label ⟨index⟩) =
        ["data#1", "data#1#2", "data#3", "data#1#4", "data#5"] ∧
      store.label ⟨0⟩ = store.name ⟨1⟩ ∧ store.label ⟨0⟩ ≠ store.label ⟨1⟩ ∧
      store.nextId.number = 6 ∧ ∃ holder, store.object? ⟨4⟩ = some holder := by
  intro store
  have kept : store.instance? ⟨3⟩ = some ⟨⟨.declared 0, .lookalike⟩, [.free (.filled ⟨2⟩),
      .composite (Expression.constant (.int 5)).rule (some (.filled ⟨4⟩))]⟩ := rfl
  obtain ⟨_, apart, exist, _⟩ := labels_identify_objects lookalike_unforged
  refine ⟨lookalike_unforged, by decide, by decide, ?_, rfl, ?_⟩
  · exact (apart ⟨0⟩ ⟨1⟩ (by decide) (by decide) (by decide)).2
  · exact exist ⟨3⟩ _ _ ⟨4⟩ kept (List.mem_cons_of_mem _ List.mem_cons_self) List.mem_cons_self

end ObjectCalculus
