import ObjectCalculus.Proofs.Settled

/-!
# Results that are kept

The objects that an evaluation adds are leaves, and each of them is kept as the result
of one object that kept none before; whoever comes to keep a result keeps a new one. So
new objects and new results are in one-to-one correspondence, whatever an evaluation
ends with.
-/

set_option autoImplicit false

namespace ObjectCalculus

open Evaluation

namespace Store

/-- What the object stands for has been computed, with this result. -/
def Keeps (store : Store) (object result : ObjectId) : Prop :=
  ∃ rule, store.slot? object valueAttribute = some (.composite rule (some ⟨some result⟩))

/-- The object keeps a result that it did not keep before, nor any other. -/
structure ComesToKeep (before after : Store) (object result : ObjectId) : Prop where
  nothing (earlier : ObjectId) : ¬before.Keeps object earlier
  keeps : after.Keeps object result

end Store

section Keeps

variable {store before after : Store} {object result other : ObjectId} {content : Content}

theorem keeps_unique (left : store.Keeps object result) (right : store.Keeps object other) :
    other = result := by
  obtain ⟨_, slot⟩ := left
  obtain ⟨_, again⟩ := right
  rw [slot] at again
  cases again
  rfl

theorem keeps_grows (grows : before.Grows after) (keeps : before.Keeps object result) :
    after.Keeps object result := by
  obtain ⟨rule, slot⟩ := keeps
  obtain ⟨grown, slotAfter, growth⟩ := grows_slot grows slot
  cases growth with
  | @cached _ _ cell content =>
      have kept := content result rfl
      obtain ⟨cache⟩ := cell
      cases kept
      exact ⟨rule, slotAfter⟩

theorem keeps_same (same : after.object? object = before.object? object) :
    after.Keeps object result ↔ before.Keeps object result := by
  unfold Store.Keeps Store.slot?
  rw [same]

theorem keeps_of_holds (holds : store.Holds object content) :
    store.Keeps object result ↔ content.result? = some result := by
  unfold Store.Keeps
  rw [Store.holds_slot holds]
  have apart : valueAttribute ≠ dataAttribute := by decide
  cases content with
  | leaf data => simp [Content.slot?, Content.result?]
  | datum role binding => simp [Content.slot?, Content.result?, apart]
  | aggregate role items isSealed cache =>
      simp [Content.slot?, Content.result?, (parameter_ne_value role).symm]

theorem keeps_put {old : Content} (puts : before.Puts object content after)
    (holds : before.Holds object old) (same : content.result? = old.result?)
    (keeps : after.Keeps other result) : before.Keeps other result := by
  by_cases here : other = object
  · subst here
    rw [keeps_of_holds (Store.holds_put puts), same] at keeps
    exact (keeps_of_holds holds).mpr keeps
  · refine (keeps_same ?_).mp keeps
    rw [puts, if_neg here]

end Keeps

section Changes

variable {store : Store} {object other result : ObjectId} {builtin : Builtin}
  {form : Aggregate} {role : builtin.role = .aggregate form} {items : List ObjectId}
  {isSealed : Bool}

theorem entered_keeps {cache : Option ObjectId}
    (holds : store.Holds object (.aggregate role items isSealed cache))
    (keeps : (store.entered object form items).Keeps other result) :
    store.Keeps other result :=
  keeps_put (entered_puts holds) holds rfl keeps

theorem concluded_comes_to_keep (count : Nat) (value : Value)
    (waiting : store.Holds object (.aggregate role items isSealed none)) :
    store.ComesToKeep (store.concluded object form count value) object store.nextId where
  nothing earlier keeps := by
    rw [keeps_of_holds waiting] at keeps
    cases keeps
  keeps := (keeps_of_holds (Store.holds_put (concluded_puts count value waiting))).mpr rfl

theorem concluded_keeps {count : Nat} {value : Value}
    (waiting : store.Holds object (.aggregate role items isSealed none))
    (keeps : (store.concluded object form count value).Keeps other result) :
    other = object ∨ store.Keeps other result := by
  by_cases here : other = object
  · exact .inl here
  · have apart : (store.concluded object form count value).object? other =
        (store.filed object form count value).object? other := by
      rw [concluded_puts count value waiting, if_neg here]
    have early := (keeps_same apart).mp keeps
    have puts := filed_puts store object form count value
    by_cases new : other = store.nextId
    · rw [new, keeps_of_holds (Store.holds_put puts)] at early
      cases early
    · have old : (store.filed object form count value).object? other = store.object? other := by
        rw [puts, if_neg new]
      exact .inr ((keeps_same old).mp early)

end Changes

structure Store.Files (before after : Store) : Prop where
  grows : before.Grows after
  leaf {new : ObjectId} : ¬before.Contains new → after.Contains new →
    ∃ value, after.leaf? new = some (.fixed value)
  owner {new : ObjectId} : ¬before.Contains new → after.Contains new →
    ∃! object, before.ComesToKeep after object new
  result {object result : ObjectId} : before.ComesToKeep after object result →
    ¬before.Contains result ∧ after.Contains result

section Files

variable {first second third before after : Store} {object : ObjectId} {old content : Content}

/-- Nothing is filed where nobody is added and nobody comes to keep anything. -/
theorem files_nothing (grows : before.Grows after)
    (size : after.objects.size = before.objects.size)
    (keeps : ∀ object result, after.Keeps object result → before.Keeps object result) :
    before.Files after where
  grows := grows
  leaf new there := absurd (Nat.lt_of_lt_of_eq there size) new
  owner new there := absurd (Nat.lt_of_lt_of_eq there size) new
  result {object result} comes := absurd (keeps object result comes.keeps) (comes.nothing result)

theorem files_same (same : after.objects = before.objects) : before.Files after := by
  refine files_nothing (store_grows_same same) (congrArg Array.size same) ?_
  intro object result keeps
  exact (keeps_same (Store.object_same same object)).mp keeps

theorem files_put (puts : before.Puts object content after) (holds : before.Holds object old)
    (grows : before.Grows after) (size : after.objects.size = before.objects.size)
    (same : content.result? = old.result?) : before.Files after :=
  files_nothing grows size fun _ _ keeps => keeps_put puts holds same keeps

theorem comes_to_keep_trans {result : ObjectId} (rest : second.Grows third)
    (comes : first.ComesToKeep third object result) :
    first.ComesToKeep second object result ∨ second.ComesToKeep third object result := by
  by_cases kept : ∃ earlier, second.Keeps object earlier
  · obtain ⟨earlier, keeps⟩ := kept
    have same := keeps_unique comes.keeps (keeps_grows rest keeps)
    exact .inl ⟨comes.nothing, same ▸ keeps⟩
  · exact .inr ⟨fun earlier keeps => kept ⟨earlier, keeps⟩, comes.keeps⟩

theorem comes_to_keep_early {result : ObjectId} (rest : second.Grows third)
    (comes : first.ComesToKeep second object result) : first.ComesToKeep third object result :=
  ⟨comes.nothing, keeps_grows rest comes.keeps⟩

theorem comes_to_keep_late {result : ObjectId} (start : first.Grows second)
    (comes : second.ComesToKeep third object result) : first.ComesToKeep third object result :=
  ⟨fun earlier keeps => comes.nothing earlier (keeps_grows start keeps), comes.keeps⟩

theorem files_trans (start : first.Files second) (rest : second.Files third) :
    first.Files third where
  grows := store_grows_trans start.grows rest.grows
  leaf {new} fresh there := by
    by_cases middle : second.Contains new
    · obtain ⟨value, held⟩ := start.leaf fresh middle
      exact ⟨value, fixed_grows rest.grows held⟩
    · exact rest.leaf middle there
  owner {new} fresh there := by
    by_cases middle : second.Contains new
    · obtain ⟨owner, comes, unique⟩ := start.owner fresh middle
      refine ⟨owner, comes_to_keep_early rest.grows comes, ?_⟩
      intro other comesOther
      rcases comes_to_keep_trans rest.grows comesOther with early | late
      · exact unique other early
      · exact absurd middle (rest.result late).1
    · obtain ⟨owner, comes, unique⟩ := rest.owner middle there
      refine ⟨owner, comes_to_keep_late start.grows comes, ?_⟩
      intro other comesOther
      rcases comes_to_keep_trans rest.grows comesOther with early | late
      · exact absurd (start.result early).2 middle
      · exact unique other late
  result {object result} comes := by
    rcases comes_to_keep_trans rest.grows comes with early | late
    · obtain ⟨fresh, middle⟩ := start.result early
      exact ⟨fresh, contains_grows middle rest.grows⟩
    · obtain ⟨fresh, there⟩ := rest.result late
      exact ⟨fun old => fresh (contains_grows old start.grows), there⟩

end Files

section Runs

variable {config : Config} {store : Store} {object : ObjectId} {builtin : Builtin}
  {form : Aggregate} {role : builtin.role = .aggregate form} {items : List ObjectId}
  {isSealed : Bool}

theorem size_set_slot (store : Store) (object : ObjectId) (name : String) (slot : Slot) :
    (store.setSlot object name slot).objects.size = store.objects.size := by
  simp [Store.setSlot, Store.modifyObject]

theorem files_entered {cache : Option ObjectId}
    (holds : store.Holds object (.aggregate role items isSealed cache)) :
    store.Files (store.entered object form items) :=
  files_put (entered_puts holds) holds (entered_extends holds).grows (size_set_slot _ _ _ _) rfl

theorem size_filed (store : Store) (object : ObjectId) (form : Aggregate) (count : Nat)
    (value : Value) :
    (store.filed object form count value).objects.size = store.objects.size + 1 := by
  cases form <;> simp [Store.filed, Store.noted, Store.addLeaf, Store.add, Store.record]

theorem files_concluded (count : Nat) (value : Value)
    (waiting : store.Holds object (.aggregate role items isSealed none)) :
    store.Files (store.concluded object form count value) := by
  have filed := Store.holds_put (filed_puts store object form count value)
  have extended := concluded_extends_filed count value waiting
  have size : (store.concluded object form count value).objects.size =
      store.objects.size + 1 :=
    (size_set_slot _ _ _ _).trans (size_filed store object form count value)
  have newest {new : ObjectId} (fresh : ¬store.Contains new)
      (there : (store.concluded object form count value).Contains new) : new = store.nextId := by
    apply object_id_ext
    unfold Store.Contains at fresh there
    rw [size] at there
    exact Nat.le_antisymm (Nat.le_of_lt_succ there) (Nat.le_of_not_lt fresh)
  have kept := concluded_comes_to_keep count value waiting
  have only {other result : ObjectId}
      (comes : store.ComesToKeep (store.concluded object form count value) other result) :
      other = object :=
    (concluded_keeps waiting comes.keeps).resolve_right (comes.nothing result)
  refine ⟨(concluded_extends count value waiting).grows, ?_, ?_, ?_⟩
  · intro new fresh there
    cases newest fresh there
    exact ⟨value, fixed_grows extended.grows (Store.holds_leaf.mp filed)⟩
  · intro new fresh there
    cases newest fresh there
    exact ⟨object, kept, fun other comes => only comes⟩
  · intro other result comes
    cases only comes
    cases keeps_unique kept.keeps comes.keeps
    constructor
    · simp [Store.Contains, Store.nextId]
    · simp [Store.Contains, Store.nextId, size]

end Runs

theorem filing_invariance : RunInvariance Store.Files where
  same := files_same
  trans := files_trans
  taken {store object data} held := by
    refine files_put (Store.puts_leaf held) (Store.holds_leaf.mpr held)
      (taken_extends held).grows ?_ rfl
    simp [Store.setLeaf, Store.modifyObject]
  entered := files_entered
  concluded count value waiting := files_concluded count value waiting

theorem runs_file {config : Config} {act : Act} {store after : Store}
    (runs : Runs config act store after) : store.Files after :=
  runs_keep filing_invariance runs

end ObjectCalculus
