import ObjectCalculus.Proofs.History

/-!
# Soundness at every moment

The rules of built-in templates bring in nothing but the leaves of their results. So a
store is sound not only before and after an evaluation, but at every moment on the way.
-/

set_option autoImplicit false

namespace ObjectCalculus

open Effect Evaluation

def Supply.results : Supply where
  definition _ := False
  leaf data := ∃ value, data = .fixed value
  value _ := False

theorem results_fit (deferring : Prop) (store : Store) :
    Supply.results.Fits deferring store where
  definition supplied := supplied.elim
  leaf supplied := .inl supplied
  value supplied := supplied.elim

theorem item_within (form : Aggregate) (item : ObjectId) :
    (form.item item).Within .results := by
  have resolved : (Program.resolve item).Within .results := program_within_ask fun _ => trivial
  cases form with
  | array => exact resolved
  | operator fold =>
      apply program_within_bind resolved
      intro value
      unfold Program.checkKind
      split <;> trivial

theorem each_within (form : Aggregate) (items : List ObjectId) :
    (Program.each form.item items).Within .results := by
  induction items with
  | nil => trivial
  | cons item rest ih =>
      apply program_within_bind (item_within form item)
      intro first
      apply program_within_bind ih
      intro others
      trivial

theorem conclude_within (form : Aggregate) (owner : ObjectId) (count : Nat)
    (values : List Value) : (form.conclude owner count values).Within .results := by
  unfold Aggregate.conclude
  split
  · trivial
  · rename_i value total
    apply program_within_bind
    · cases form with
      | array => trivial
      | operator fold => exact program_within_ask fun _ => trivial
    · intro _
      exact program_within_ask fun _ => ⟨value, rfl⟩

theorem rule_within (form : Aggregate) (owner : ObjectId) :
    (form.rule owner).Within .results := by
  rw [rule_eq_gather]
  apply program_within_bind
  · exact program_within_ask fun _ => trivial
  · intro items
    apply program_within_bind (each_within form items)
    intro values
    exact conclude_within form owner items.length values

/-- What an evaluation of built-in objects can be at work on. -/
def Task.Builtin : Task → Prop
  | .program _ body => body.Within .results
  | _ => True

variable {deferring : Prop} {store current : Store} {stack inner : List Marker} {task : Task}

theorem task_sound (builtin : task.Builtin) (sound : store.Sound deferring) :
    (task.after store).Sound deferring := by
  cases task with
  | attributeOf config object name => exact attribute_sound config object name sound
  | chain config moves visited object => exact follow_sound config moves visited object sound
  | dataize config object expected =>
      rw [Task.after, dataize_after]
      exact resolve_sound config object sound
  | program running body => exact program_sound running builtin (results_fit _ _) sound

theorem rule_of_slot {object : ObjectId} {name : String} {rule : Rule}
    {cache : Option (Memo ObjectId)} (sound : store.Sound deferring)
    (slot : store.slot? object name = some (.composite rule cache)) :
    ∃ form : Aggregate, rule = form.rule := by
  obtain ⟨content, _, shown⟩ := content_of_slot sound slot
  obtain ⟨_, form, _, _, _, _, _, _, same, _⟩ := Content.slot_composite shown
  exact ⟨form, same⟩

theorem passes_sound (passes : Passes task stack store inner current)
    (builtin : task.Builtin) (sound : store.Sound deferring) : current.Sound deferring := by
  induction passes with
  | start => exact sound
  | finish => exact task_sound builtin sound
  | computing slot idle room uncomputed inside ih =>
      obtain ⟨form, rfl⟩ := rule_of_slot sound slot
      exact ih (rule_within form _) (sound_same sound rfl)
  | @leaving config object name rule cache stack store slot idle room =>
      -- The marker is all that distinguishes this moment from the end of the evaluation.
      have left := attribute_sound config object name sound
      rw [Effect.after, attribute_of_unfold, attribute_composite slot,
        guarded_entered idle room] at left
      exact sound_same left rfl
  | step composed fresh way inside ih => exact ih trivial (sound_stepped sound _ _ _)
  | @move config moves visited object next name stack inner store middle current composed
      fresh way moved rest ih =>
      have demanded := attribute_sound config object name
        (sound_stepped sound config object name)
      rw [Effect.after, moved] at demanded
      exact ih trivial demanded
  | dataizing inside ih => exact ih trivial sound
  | demanding inside ih => exact ih trivial sound
  | resolving inside ih => exact ih trivial sound
  | @answered α running request next stack inner store current rest ih =>
      obtain ⟨supplied, later⟩ := builtin
      exact ih (later _) (perform_sound running (supplied store) (results_fit _ _) sound)

end ObjectCalculus
