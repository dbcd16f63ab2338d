import ObjectCalculus.Proofs.Runs

/-!
# Settled values

An object is settled on a value once everything it demands, however indirectly, can
no longer change: data are bound, operators and arrays are sealed and keep their
results, and deferred leaves have produced their values. In a sound store each kept
result belongs to an object that is settled. Runs keep stores sound, and settle every
object whose value they find.
-/

set_option autoImplicit false

namespace ObjectCalculus

open Evaluation

section Growth

variable {before after : Store} {object : ObjectId} {builtin : Builtin}

theorem grown_single {definition : Definition} {slot : Slot} {grown : Instance}
    (grows : Instance.Grows ⟨definition, [slot]⟩ grown) :
    ∃ next, grown = ⟨definition, [next]⟩ ∧ slot.Grows next := by
  obtain ⟨grownDefinition, slots⟩ := grown
  obtain ⟨next, rfl⟩ := List.length_eq_one_iff.mp grows.length
  have here : [slot][0]? = some slot := rfl
  obtain ⟨_, read, growth⟩ := grows.slots here
  cases read
  cases grows.definition
  exact ⟨next, rfl, growth⟩

theorem grown_pair {definition : Definition} {first second : Slot} {grown : Instance}
    (grows : Instance.Grows ⟨definition, [first, second]⟩ grown) :
    ∃ left right, grown = ⟨definition, [left, right]⟩ ∧ first.Grows left ∧
      second.Grows right := by
  obtain ⟨grownDefinition, slots⟩ := grown
  obtain ⟨left, right, rfl⟩ := List.length_eq_two.mp grows.length
  have leftHere : [first, second][0]? = some first := rfl
  have rightHere : [first, second][1]? = some second := rfl
  obtain ⟨_, readLeft, growthLeft⟩ := grows.slots leftHere
  obtain ⟨_, readRight, growthRight⟩ := grows.slots rightHere
  cases readLeft
  cases readRight
  cases grows.definition
  exact ⟨left, right, rfl, growthLeft, growthRight⟩

theorem instance_of_holds {content : Content} {found : Instance}
    (composed : content.object = .composed found) (holds : before.Holds object content) :
    before.instance? object = some found := by
  rw [Store.object_of_instance, ← composed]
  exact holds

theorem holds_of_instance {content : Content} {found : Instance}
    (composed : content.object = .composed found)
    (held : before.instance? object = some found) : before.Holds object content := by
  rw [Store.object_of_instance, ← composed] at held
  exact held

theorem bound_grows {role : builtin.role = .datum} {target : ObjectId}
    (grows : before.Grows after) (holds : before.Holds object (.datum role (some target))) :
    after.Holds object (.datum role (some target)) := by
  obtain ⟨grown, held, growth⟩ := grows.instances (instance_of_holds rfl holds)
  obtain ⟨next, rfl, slot⟩ := grown_single growth
  cases slot with
  | @free _ cell content =>
      have kept := content target rfl
      obtain ⟨binding⟩ := cell
      cases kept
      exact holds_of_instance rfl held

theorem sealed_grows {form : Aggregate} {role : builtin.role = .aggregate form}
    {items : List ObjectId} {cache : Option ObjectId} (grows : before.Grows after)
    (holds : before.Holds object (.aggregate role items true cache)) :
    ∃ more, after.Holds object (.aggregate role items true more) ∧
      ∀ kept, cache = some kept → more = some kept := by
  obtain ⟨grown, held, growth⟩ := grows.instances (instance_of_holds rfl holds)
  obtain ⟨left, right, rfl, itemsGrow, cacheGrows⟩ := grown_pair growth
  cases itemsGrow with
  | variadic extended closed =>
      obtain ⟨rfl, rfl⟩ := closed rfl
      cases cacheGrows with
      | @cached _ _ cell content =>
          obtain ⟨more⟩ := cell
          exact ⟨more, holds_of_instance rfl held, content⟩

theorem fixed_grows {value : Value} (grows : before.Grows after)
    (held : before.leaf? object = some (.fixed value)) :
    after.leaf? object = some (.fixed value) := by
  obtain ⟨grown, heldAfter, growth⟩ := grows.leaves held
  cases growth
  exact heldAfter

end Growth

inductive Store.Settled (store : Store) : ObjectId → Value → Prop
  | fixed {object : ObjectId} {value : Value}
      (held : store.leaf? object = some (.fixed value)) : Settled store object value
  | produced {object : ObjectId} {value : Value} {data : Deferred Value}
      (held : store.leaf? object = some (.deferred data))
      (content : data.cell.content = some value) : Settled store object value
  | bound {object target : ObjectId} {value : Value} {builtin : Builtin}
      {role : builtin.role = .datum} (holds : store.Holds object (.datum role (some target)))
      (settled : Settled store target value) : Settled store object value
  | aggregate {object : ObjectId} {operands : List (ObjectId × Value)} {value : Value}
      {builtin : Builtin} {form : Aggregate} {role : builtin.role = .aggregate form}
      {result : ObjectId}
      (holds : store.Holds object
        (.aggregate role (operands.map Prod.fst) true (some result)))
      (settled : ∀ operand ∈ operands, Settled store operand.1 operand.2)
      (accepted : ∀ operand ∈ operands, form.refusal operand.2 = none)
      (total : form.total (operands.map Prod.snd) = .ok value) : Settled store object value

theorem settled_grows {before after : Store} (grows : before.Grows after) {object : ObjectId}
    {value : Value} (settled : before.Settled object value) : after.Settled object value := by
  induction settled with
  | fixed held => exact .fixed (fixed_grows grows held)
  | produced held content =>
      obtain ⟨grown, heldAfter, growth⟩ := grows.leaves held
      cases growth with
      | deferred cell blank => exact .produced heldAfter (cell _ content)
  | bound holds _ ih => exact .bound (bound_grows grows holds) ih
  | aggregate holds _ accepted total ih =>
      obtain ⟨more, sealed, stays⟩ := sealed_grows grows holds
      cases stays _ rfl
      exact .aggregate sealed ih accepted total

theorem settled_same {before after : Store} {object : ObjectId} {value : Value}
    (settled : before.Settled object value) (same : after.objects = before.objects) :
    after.Settled object value :=
  settled_grows (store_grows_same same) settled

theorem operands_agree {store : Store} {left right : List (ObjectId × Value)}
    (items : left.map Prod.fst = right.map Prod.fst)
    (unique : ∀ operand ∈ left, ∀ {found}, store.Settled operand.1 found → found = operand.2)
    (settled : ∀ operand ∈ right, store.Settled operand.1 operand.2) : right = left := by
  induction left generalizing right with
  | nil => exact List.map_eq_nil_iff.mp items.symm
  | cons operand rest ih =>
      cases right with
      | nil => cases items
      | cons other others =>
          obtain ⟨same, itemsRest⟩ := List.cons.inj items
          obtain ⟨here, later⟩ := List.forall_mem_cons.mp settled
          obtain ⟨uniqueHere, uniqueLater⟩ := List.forall_mem_cons.mp unique
          rw [← same] at here
          rw [Prod.ext same.symm (uniqueHere here), ih itemsRest uniqueLater later]

theorem settled_unique {store : Store} {object : ObjectId} {value other : Value}
    (settled : store.Settled object value) (again : store.Settled object other) :
    other = value := by
  induction settled generalizing other with
  | fixed held =>
      cases again with
      | fixed heldAgain =>
          cases held.symm.trans heldAgain
          rfl
      | produced heldAgain => cases held.symm.trans heldAgain
      | bound holds | aggregate holds =>
          cases Store.holds_unique holds (Store.holds_leaf.mpr held)
  | produced held content =>
      cases again with
      | fixed heldAgain => cases held.symm.trans heldAgain
      | produced heldAgain contentAgain =>
          cases held.symm.trans heldAgain
          cases content.symm.trans contentAgain
          rfl
      | bound holds | aggregate holds =>
          cases Store.holds_unique holds (Store.holds_leaf.mpr held)
  | bound holds _ ih =>
      cases again with
      | fixed held | produced held => cases Store.holds_unique holds (Store.holds_leaf.mpr held)
      | bound holdsAgain rest =>
          cases Store.holds_unique holds holdsAgain
          exact ih rest
      | aggregate holdsAgain => cases Store.holds_unique holds holdsAgain
  | @aggregate object operands value builtin form role result holds _ _ total ih =>
      cases again with
      | fixed held | produced held => cases Store.holds_unique holds (Store.holds_leaf.mpr held)
      | bound holdsAgain => cases Store.holds_unique holds holdsAgain
      | @aggregate _ others _ _ _ _ _ holdsAgain settledAgain _ totalAgain =>
          obtain ⟨rfl, items⟩ := Node.aggregate.inj
            (Store.graph_unique ⟨_, holds, rfl⟩ ⟨_, holdsAgain, rfl⟩)
          cases operands_agree items ih settledAgain
          cases total.symm.trans totalAgain
          rfl

/-- Whether leaves may be deferred is said from outside. -/
structure Store.Sound (store : Store) (deferring : Prop) : Prop where
  built {object : ObjectId} {found : Object} :
    store.object? object = some found → ∃ content, store.Holds object content
  leaves {object : ObjectId} : store.graph object (.leaf none) → deferring
  closed {object target : ObjectId} :
    store.graph.Demands object target → store.Contains target
  kept {object result : ObjectId} {builtin : Builtin} {form : Aggregate}
    {role : builtin.role = .aggregate form} {items : List ObjectId} {isSealed : Bool} :
    store.Holds object (.aggregate role items isSealed (some result)) →
      ∃ value, store.leaf? result = some (.fixed value) ∧ store.Settled object value

section Sound

variable {deferring : Prop} {store before after : Store} {object : ObjectId}
  {content : Content}

theorem sound_empty : Store.empty.Sound deferring where
  built held := by cases held
  leaves shown := by
    obtain ⟨_, holds, _⟩ := shown
    cases holds
  closed demands := by
    obtain ⟨_, ⟨_, holds, _⟩, _⟩ := demands
    cases holds
  kept holds := by cases holds

theorem sound_same (sound : before.Sound deferring) (same : after.objects = before.objects) :
    after.Sound deferring where
  built {object found} held := by
    have heldBefore : before.object? object = some found := by
      simpa only [Store.object?, same] using held
    obtain ⟨content, holds⟩ := sound.built heldBefore
    exact ⟨content, (Store.holds_same same).mpr holds⟩
  leaves shown := by
    rw [Store.graph_same same] at shown
    exact sound.leaves shown
  closed demands := by
    rw [Store.graph_same same] at demands
    have contained := sound.closed demands
    unfold Store.Contains at contained ⊢
    rwa [same]
  kept holds := by
    obtain ⟨value, held, settled⟩ := sound.kept ((Store.holds_same same).mp holds)
    have grows := store_grows_same same
    exact ⟨value, fixed_grows grows held, settled_grows grows settled⟩

theorem demands_of_holds {target : ObjectId} (holds : store.Holds object content)
    (wanted : target ∈ content.node.targets) : store.graph.Demands object target :=
  ⟨content.node, ⟨content, holds, rfl⟩, wanted⟩

/-- A store stays sound if the content that is put demands only what is there and
keeps only what it is settled on. -/
theorem sound_put (sound : before.Sound deferring) (puts : before.Puts object content after)
    (grows : before.Grows after) (leaf : content.node = .leaf none → deferring)
    (closed : ∀ target ∈ content.node.targets, after.Contains target)
    (kept : ∀ result, content.result? = some result →
      ∃ value, after.leaf? result = some (.fixed value) ∧ after.Settled object value) :
    after.Sound deferring where
  built {other found} held := by
    by_cases here : other = object
    · exact ⟨content, here ▸ Store.holds_put puts⟩
    · rw [puts, if_neg here] at held
      obtain ⟨old, holds⟩ := sound.built held
      exact ⟨old, (Store.holds_put_other puts here).mpr holds⟩
  leaves {other} shown := by
    obtain ⟨old, holds, shows⟩ := shown
    by_cases here : other = object
    · subst here
      cases Store.holds_unique holds (Store.holds_put puts)
      exact leaf shows
    · exact sound.leaves ⟨old, (Store.holds_put_other puts here).mp holds, shows⟩
  closed {other target} demands := by
    obtain ⟨_, ⟨shown, holds, rfl⟩, wanted⟩ := demands
    by_cases here : other = object
    · subst here
      cases Store.holds_unique holds (Store.holds_put puts)
      exact closed target wanted
    · have old := (Store.holds_put_other puts here).mp holds
      exact contains_grows (sound.closed (demands_of_holds old wanted)) grows
  kept {other result builtin form role items isSealed} holds := by
    by_cases here : other = object
    · subst here
      cases Store.holds_unique (Store.holds_put puts) holds
      exact kept result rfl
    · have old := (Store.holds_put_other puts here).mp holds
      obtain ⟨value, held, settled⟩ := sound.kept old
      exact ⟨value, fixed_grows grows held, settled_grows grows settled⟩

theorem sound_put_uncomputed (sound : before.Sound deferring)
    (puts : before.Puts object content after) (grows : before.Grows after)
    (leaf : content.node = .leaf none → deferring)
    (closed : ∀ target ∈ content.node.targets, before.Contains target)
    (uncomputed : content.result? = none) : after.Sound deferring := by
  refine sound_put sound puts grows leaf ?_ ?_
  · intro target wanted
    exact contains_grows (closed target wanted) grows
  · intro result kept
    rw [uncomputed] at kept
    cases kept

end Sound

/-- What a run has found out is settled. -/
def Act.Settles (store : Store) : Act → Prop
  | .chain _ _ object (.ok value) => store.Settled object value
  | .compute object (.ok next) =>
      ∃ value, store.leaf? next = some (.fixed value) ∧ store.Settled object value
  | .collect form items (.ok values) =>
      ∃ operands : List (ObjectId × Value),
        operands.map Prod.fst = items ∧ operands.map Prod.snd = values ∧
          (∀ operand ∈ operands, store.Settled operand.1 operand.2) ∧
          ∀ operand ∈ operands, form.refusal operand.2 = none
  | _ => True

section Runs

variable {deferring : Prop} {store : Store} {object : ObjectId} {builtin : Builtin}
  {form : Aggregate} {role : builtin.role = .aggregate form} {items : List ObjectId}
  {isSealed : Bool}
  {cache : Option ObjectId}

theorem taken_content {data : Deferred Value} {value : Value}
    (taken : data.take.1 = .ok value) : data.take.2.cell.content = some value := by
  unfold Deferred.take at taken ⊢
  cases content : data.cell.content with
  | some kept =>
      simp only [content] at taken ⊢
      cases taken
      rfl
  | none =>
      rcases ran : data.source.run with ⟨result | result, left⟩
      · simp only [content, ran] at taken
        cases taken
      · simp only [content, ran] at taken ⊢
        cases taken
        rfl

theorem sound_stepped (sound : store.Sound deferring) (config : Config) (object : ObjectId)
    (name : String) : (stepped config object name store).Sound deferring :=
  sound_same sound (stepped_objects config object name store)

theorem sound_taken {data : Deferred Value} (sound : store.Sound deferring)
    (held : store.leaf? object = some (.deferred data)) :
    (store.setLeaf object (.deferred data.take.2)).Sound deferring := by
  refine sound_put_uncomputed sound (Store.puts_leaf held) (taken_extends held).grows ?_ ?_ rfl
  · exact fun _ => sound.leaves ⟨_, Store.holds_leaf.mpr held, rfl⟩
  · intro target wanted
    cases wanted

theorem sound_entered (sound : store.Sound deferring)
    (holds : store.Holds object (.aggregate role items isSealed none)) :
    (store.entered object form items).Sound deferring := by
  refine sound_put_uncomputed sound (entered_puts holds) (entered_extends holds).grows ?_ ?_ rfl
  · intro same
    cases same
  · exact fun target wanted => sound.closed (demands_of_holds holds wanted)

theorem sound_filed (sound : store.Sound deferring) (object : ObjectId) (form : Aggregate)
    (count : Nat) (value : Value) : (store.filed object form count value).Sound deferring := by
  have grows := (filed_extends store object form count value).grows
  refine sound_put_uncomputed sound (filed_puts store object form count value) grows ?_ ?_ rfl
  · intro same
    cases same
  · intro target wanted
    cases wanted

theorem concluded_leaf (count : Nat) (value : Value)
    (waiting : store.Holds object (.aggregate role items isSealed none)) :
    (store.concluded object form count value).leaf? store.nextId = some (.fixed value) :=
  fixed_grows (concluded_extends_filed count value waiting).grows
    (Store.holds_leaf.mp (Store.holds_put (filed_puts store object form count value)))

theorem concluded_settled {operands : List (ObjectId × Value)} {value : Value} (count : Nat)
    (waiting : store.Holds object (.aggregate role (operands.map Prod.fst) true none))
    (settled : ∀ operand ∈ operands, store.Settled operand.1 operand.2)
    (accepted : ∀ operand ∈ operands, form.refusal operand.2 = none)
    (total : form.total (operands.map Prod.snd) = .ok value) :
    (store.concluded object form count value).leaf? store.nextId = some (.fixed value) ∧
      (store.concluded object form count value).Settled object value := by
  have kept := Store.holds_put (concluded_puts count value waiting)
  have grows := (concluded_extends count value waiting).grows
  refine ⟨concluded_leaf count value waiting, ?_⟩
  exact .aggregate kept (fun operand member => settled_grows grows (settled operand member))
    accepted total

theorem sound_concluded {operands : List (ObjectId × Value)} {value : Value} (count : Nat)
    (sound : store.Sound deferring)
    (waiting : store.Holds object (.aggregate role (operands.map Prod.fst) true none))
    (settled : ∀ operand ∈ operands, store.Settled operand.1 operand.2)
    (accepted : ∀ operand ∈ operands, form.refusal operand.2 = none)
    (total : form.total (operands.map Prod.snd) = .ok value) :
    (store.concluded object form count value).Sound deferring := by
  have grows := (concluded_extends count value waiting).grows
  have growing := (concluded_extends_filed count value waiting).grows
  refine sound_put (sound_filed sound object form count value)
    (concluded_puts count value waiting) growing ?_ ?_ ?_
  · intro same
    cases same
  · intro target wanted
    exact contains_grows (sound.closed (demands_of_holds waiting wanted)) grows
  · intro result kept
    cases kept
    exact ⟨value, concluded_settled count waiting settled accepted total⟩

end Runs

theorem runs_settle {deferring : Prop} {config : Config} {act : Act} {store after : Store}
    (runs : Runs config act store after) (sound : store.Sound deferring) :
    after.Sound deferring ∧ act.Settles after := by
  induction runs with
  | leaf held => exact ⟨sound, .fixed held⟩
  | @deferred moves visited object data store held =>
      refine ⟨sound_taken sound held, ?_⟩
      cases taken : data.take.1 with
      | error failure => trivial
      | ok value =>
          have puts : store.Puts object (.leaf (.deferred data.take.2)) _ :=
            Store.puts_leaf held
          exact .produced (Store.holds_leaf.mp (Store.holds_put puts)) (taken_content taken)
  | revisited | exhausted | active | deep => exact ⟨sound_same sound rfl, trivial⟩
  | unbound => exact ⟨sound_stepped sound _ _ _, trivial⟩
  | @bound _ _ object _ result _ _ _ _ holds _ rest ih =>
      obtain ⟨soundAfter, settles⟩ := ih (sound_stepped sound _ _ _)
      refine ⟨soundAfter, ?_⟩
      cases result with
      | error failure => trivial
      | ok value =>
          have grows := store_grows_trans (stepped_extends _ _ _ _).grows
            (runs_extend rest).grows
          exact .bound (bound_grows grows holds) settles
  | failed _ _ _ ih =>
      exact ih (sound_stepped sound _ _ _)
  | computed _ _ _ held ih =>
      obtain ⟨soundAfter, value, heldBefore, settled⟩ :=
        ih (sound_stepped sound _ _ _)
      rw [held] at heldBefore
      cases heldBefore
      exact ⟨soundAfter, settled⟩
  | kept holds =>
      refine ⟨sound_same sound rfl, ?_⟩
      obtain ⟨value, held, settled⟩ := sound.kept holds
      exact ⟨value, held, settled_same settled rfl⟩
  | cut holds _ _ ih | rejected holds _ _ _ ih =>
      obtain ⟨inner, _⟩ := ih (sound_entered sound holds)
      exact ⟨sound_same inner rfl, trivial⟩
  | published holds _ _ total waiting ih =>
      obtain ⟨inner, operands, rfl, rfl, settled, accepted⟩ := ih (sound_entered sound holds)
      obtain ⟨held, settledAfter⟩ := concluded_settled _ waiting settled accepted total
      refine ⟨sound_same (sound_concluded _ inner waiting settled accepted total) rfl, ?_⟩
      exact ⟨_, held, settled_same settledAfter rfl⟩
  | nil => exact ⟨sound, [], rfl, rfl, by simp, by simp⟩
  | unresolved _ ih | refused _ _ ih => exact ⟨(ih sound).1, trivial⟩
  | later _ _ _ first others => exact others (first sound).1
  | @cons _ item _ value _ _ _ _ _ accepted others first rest =>
      obtain ⟨middle, settled⟩ := first sound
      obtain ⟨final, operands, rfl, rfl, settledRest, acceptedRest⟩ := rest middle
      refine ⟨final, (item, value) :: operands, rfl, rfl, ?_, ?_⟩
      · have settledAfter := settled_grows (runs_extend others).grows settled
        exact List.forall_mem_cons.mpr ⟨settledAfter, settledRest⟩
      · exact List.forall_mem_cons.mpr ⟨accepted, acceptedRest⟩

end ObjectCalculus
