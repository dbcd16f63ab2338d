import ObjectCalculus.Proofs.Ground
import ObjectCalculus.Proofs.History

/-!
# The meaning of an object

What an object stands for, by the graph of bindings alone: there is nothing here
that keeps results, marks objects or counts levels. Every object has at most one
meaning. What a run finds out is the meaning of its object, unless one of the two
guards cuts it short.
-/

set_option autoImplicit false

namespace ObjectCalculus

open Evaluation

inductive Means (graph : Graph) : ObjectId → Except DataError Value → Prop
  | leaf {object : ObjectId} {value : Value} (shown : graph object (.leaf (some value))) :
      Means graph object (.ok value)
  | unbound {object : ObjectId} {builtin : Builtin}
      (shown : graph object (.datum builtin none)) :
      Means graph object (.error (.unbound (builtin.name ++ object.text) dataAttribute))
  | datum {object target : ObjectId} {builtin : Builtin} {result : Except DataError Value}
      (shown : graph object (.datum builtin (some target)))
      (means : Means graph target result) : Means graph object result
  /-- The first item that has no value, or one that is not accepted, ends it. -/
  | stopped {object item : ObjectId} {form : Aggregate} {before : List (ObjectId × Value)}
      {rest : List ObjectId} {result : Except DataError Value} {failure : DataError}
      (shown : graph object (.aggregate form (before.map Prod.fst ++ item :: rest)))
      (evaluated : ∀ operand ∈ before, Means graph operand.1 (.ok operand.2))
      (accepted : ∀ operand ∈ before, form.refusal operand.2 = none)
      (means : Means graph item result) (stops : result.bind form.accept = .error failure) :
      Means graph object (.error failure)
  | aggregate {object : ObjectId} {form : Aggregate} {operands : List (ObjectId × Value)}
      (shown : graph object (.aggregate form (operands.map Prod.fst)))
      (evaluated : ∀ operand ∈ operands, Means graph operand.1 (.ok operand.2))
      (accepted : ∀ operand ∈ operands, form.refusal operand.2 = none) :
      Means graph object (form.total (operands.map Prod.snd))

section Unique

variable {graph : Graph}

theorem ways_agree {left right : List (ObjectId × Value)} {leftRest rightRest : List ObjectId}
    (items : left.map Prod.fst ++ leftRest = right.map Prod.fst ++ rightRest)
    (unique : ∀ operand ∈ left, ∀ {result}, Means graph operand.1 result →
      result = .ok operand.2)
    (evaluated : ∀ operand ∈ right, Means graph operand.1 (.ok operand.2)) :
    (left = right ∧ leftRest = rightRest) ∨
      (∃ operand ∈ right, ∃ others, leftRest = operand.1 :: others) ∨
      ∃ operand ∈ left, ∃ others, rightRest = operand.1 :: others := by
  induction left generalizing right with
  | nil =>
      cases right with
      | nil => exact .inl ⟨rfl, items⟩
      | cons operand others =>
          exact .inr (.inl ⟨operand, List.mem_cons_self, _, items⟩)
  | cons operand others ih =>
      cases right with
      | nil => exact .inr (.inr ⟨operand, List.mem_cons_self, _, items.symm⟩)
      | cons first rest =>
          obtain ⟨same, itemsRest⟩ := List.cons.inj items
          have meant := evaluated first List.mem_cons_self
          rw [show first.1 = operand.1 from same.symm] at meant
          have value := unique operand List.mem_cons_self meant
          have equal : first = operand := Prod.ext same.symm (Except.ok.inj value)
          subst equal
          rcases ih itemsRest
            (fun other member => unique other (List.mem_cons_of_mem first member))
            (fun other member => evaluated other (List.mem_cons_of_mem first member))
            with ⟨rfl, ends⟩ | ⟨other, member, more, ends⟩ | ⟨other, member, more, ends⟩
          · exact .inl ⟨rfl, ends⟩
          · exact .inr (.inl ⟨other, List.mem_cons_of_mem first member, more, ends⟩)
          · exact .inr (.inr ⟨other, List.mem_cons_of_mem first member, more, ends⟩)

theorem accepted_goes_on {form : Aggregate} {value : Value} {result : Except DataError Value}
    {failure : DataError} (accepted : form.refusal value = none) (same : result = .ok value)
    (stops : result.bind form.accept = .error failure) : False := by
  rw [same] at stops
  change form.accept value = .error failure at stops
  rw [accept_accepted accepted] at stops
  cases stops

theorem means_unique (functional : Relator.RightUnique graph) {object : ObjectId}
    {left right : Except DataError Value} (first : Means graph object left)
    (second : Means graph object right) : right = left := by
  induction first generalizing right with
  | leaf shown =>
      cases second with
      | leaf other => cases functional shown other; rfl
      | unbound other | datum other | stopped other | aggregate other =>
          cases functional shown other
  | unbound shown =>
      cases second with
      | unbound other => cases functional shown other; rfl
      | leaf other | datum other | stopped other | aggregate other =>
          cases functional shown other
  | datum shown _ ih =>
      cases second with
      | datum other means =>
          cases functional shown other
          exact ih means
      | leaf other | unbound other | stopped other | aggregate other =>
          cases functional shown other
  | @stopped object item form before rest result failure shown _ accepted _ stops
      ihBefore ih =>
      cases second with
      | stopped other evaluated acceptedOther meansOther stopsOther =>
          obtain ⟨rfl, items⟩ := Node.aggregate.inj (functional shown other)
          rcases ways_agree items ihBefore evaluated with
            ⟨_, ends⟩ | ⟨operand, member, _, ends⟩ | ⟨operand, member, _, ends⟩
          · obtain ⟨rfl, _⟩ := List.cons.inj ends
            rw [ih meansOther, stops] at stopsOther
            exact stopsOther.symm
          · obtain ⟨rfl, _⟩ := List.cons.inj ends
            have same := (ih (evaluated operand member)).symm
            exact (accepted_goes_on (acceptedOther operand member) same stops).elim
          · obtain ⟨rfl, _⟩ := List.cons.inj ends
            have same := ihBefore operand member meansOther
            exact (accepted_goes_on (accepted operand member) same stopsOther).elim
      | @aggregate _ _ operands other evaluated acceptedOther =>
          obtain ⟨rfl, items⟩ := Node.aggregate.inj (functional shown other)
          rw [← List.append_nil (operands.map Prod.fst)] at items
          rcases ways_agree items ihBefore evaluated with
            ⟨_, ends⟩ | ⟨operand, member, _, ends⟩ | ⟨_, _, _, ends⟩
          · cases ends
          · obtain ⟨rfl, _⟩ := List.cons.inj ends
            have same := (ih (evaluated operand member)).symm
            exact (accepted_goes_on (acceptedOther operand member) same stops).elim
          · cases ends
      | leaf other | unbound other | datum other => cases functional shown other
  | @aggregate object form operands shown _ accepted ih =>
      cases second with
      | stopped other evaluated _ meansOther stopsOther =>
          obtain ⟨rfl, items⟩ := Node.aggregate.inj (functional shown other)
          rw [← List.append_nil (operands.map Prod.fst)] at items
          rcases ways_agree items ih evaluated with
            ⟨_, ends⟩ | ⟨_, _, _, ends⟩ | ⟨operand, member, _, ends⟩
          · cases ends
          · cases ends
          · obtain ⟨rfl, _⟩ := List.cons.inj ends
            have same := ih operand member meansOther
            exact (accepted_goes_on (accepted operand member) same stopsOther).elim
      | @aggregate _ _ others other evaluated =>
          obtain ⟨rfl, items⟩ := Node.aggregate.inj (functional shown other)
          have padded : operands.map Prod.fst ++ [] = others.map Prod.fst ++ [] := by
            simpa using items
          rcases ways_agree padded ih evaluated with
            ⟨rfl, _⟩ | ⟨_, _, _, ends⟩ | ⟨_, _, _, ends⟩
          · rfl
          · cases ends
          · cases ends
      | leaf other | unbound other | datum other => cases functional shown other

end Unique

namespace DataError

/-- A failure of one of the two guards, under the given limit. -/
def ByGuard (limit : Nat) : DataError → Prop
  | .cyclicEvaluation .. => True
  | .depthExceeded exceeded => exceeded = limit
  | _ => False

def Cyclic : DataError → Prop
  | .cyclicEvaluation .. => True
  | _ => False

def Overrun : DataError → Prop
  | .depthExceeded _ => True
  | _ => False

end DataError

section Guards

variable {limit : Nat} {failure : DataError} {form : Aggregate}

theorem cyclic_or_overrun (guard : failure.ByGuard limit) : failure.Cyclic ∨ failure.Overrun := by
  cases failure with
  | cyclicEvaluation => exact .inl trivial
  | depthExceeded => exact .inr trivial
  | _ => cases guard

theorem by_some_guard (either : failure.Cyclic ∨ failure.Overrun) :
    ∃ limit, failure.ByGuard limit := by
  rcases either with cyclic | overrun
  · cases failure with
    | cyclicEvaluation => exact ⟨0, trivial⟩
    | _ => cases cyclic
  · cases failure with
    | depthExceeded limit => exact ⟨limit, rfl⟩
    | _ => cases overrun

theorem total_unguarded {values : List Value} (failed : form.total values = .error failure) :
    ¬failure.ByGuard limit := by
  cases form with
  | array => cases failed
  | operator fold =>
      rcases Fold.Any.total_failure failed with rfl | ⟨diagnostic, rfl⟩
      · exact id
      · exact id

theorem refusal_unguarded {value : Value} (refused : form.refusal value = some failure) :
    ¬failure.ByGuard limit := by
  cases form with
  | array => cases refused
  | operator fold =>
      simp only [Aggregate.refusal] at refused
      split_ifs at refused
      cases refused
      exact id

end Guards

namespace Act

/-- A failure is the meaning of its object, or the failure of a guard. -/
def Explained (graph : Graph) (limit : Nat) : Act → Prop
  | .chain _ _ object (.error failure) =>
      failure.ByGuard limit ∨ Means graph object (.error failure)
  | .compute object (.error failure) =>
      failure.ByGuard limit ∨ Means graph object (.error failure)
  | .collect form items (.error failure) =>
      failure.ByGuard limit ∨ ∃ (before : List (ObjectId × Value)) (item : ObjectId)
        (rest : List ObjectId) (result : Except DataError Value),
          items = before.map Prod.fst ++ item :: rest ∧
          (∀ operand ∈ before, Means graph operand.1 (.ok operand.2)) ∧
          (∀ operand ∈ before, form.refusal operand.2 = none) ∧
          Means graph item result ∧ result.bind form.accept = .error failure
  | _ => True

end Act

section Runs

variable {deferring : Prop} {graph : Graph} {store after : Store} {object : ObjectId}

theorem settled_means {value : Value} (within : graph.Within store.graph)
    (closed : graph.Closed) (fixed : graph.Fixed) (settled : store.Settled object value)
    (present : ∃ node, graph object node) : Means graph object (.ok value) := by
  induction settled with
  | fixed held => exact .leaf (shown_within within (Store.holds_leaf.mpr held) present)
  | produced held _ =>
      exact absurd (shown_within within (Store.holds_leaf.mpr held) present) (fixed _)
  | @bound object target value builtin role holds _ ih =>
      have shown := shown_within within holds present
      exact .datum shown (ih (closed object target (demands_bound shown)))
  | @aggregate object operands value builtin form role cache holds _ accepted total ih =>
      have shown := shown_within within holds present
      rw [← total]
      refine .aggregate shown ?_ accepted
      intro operand member
      have wanted : operand.1 ∈ operands.map Prod.fst := List.mem_map_of_mem member
      exact ih operand member (closed object operand.1 (demands_item shown wanted))

theorem found_means {config : Config} {moves : Nat} {visited : List ObjectId} {value : Value}
    (closed : graph.Closed) (fixed : graph.Fixed)
    (runs : Runs config (.chain moves visited object (.ok value)) store after)
    (grounded : (Act.chain moves visited object (.ok value)).Grounded graph deferring store) :
    Means graph object (.ok value) := by
  have within := within_trans grounded.within (runs_extend runs).graph
  exact settled_means within closed fixed (runs_settle runs grounded.sound).2 grounded.present

theorem runs_explained {config : Config} {act : Act} (closed : graph.Closed)
    (fixed : graph.Fixed) (runs : Runs config act store after)
    (grounded : act.Grounded graph deferring store) : act.Explained graph config.limit := by
  induction runs with
  | leaf | computed | kept | published | nil | cons => trivial
  | deferred held =>
      have shown := shown_within grounded.within (Store.holds_leaf.mpr held) grounded.present
      exact absurd shown (fixed _)
  | revisited | active => exact .inl trivial
  | exhausted | deep => exact .inl rfl
  | unbound holds => exact .inr (.unbound (shown_within grounded.within holds grounded.present))
  | @bound moves visited object target result store after builtin role holds _ _ ih =>
      have shown := shown_within grounded.within holds grounded.present
      obtain ⟨_, inside⟩ := grounded_bound closed grounded holds
      cases result with
      | ok value => trivial
      | error failure => exact (ih inside).imp_right fun means => .datum shown means
  | failed _ _ _ ih => exact ih (grounded_compute _ grounded)
  | cut holds _ _ ih =>
      have shown := shown_within grounded.within holds grounded.present
      obtain ⟨_, inside⟩ := grounded_collect _ closed grounded holds
      refine (ih inside).imp_right ?_
      rintro ⟨before, item, rest, result, rfl, evaluated, accepted, means, stops⟩
      exact .stopped shown evaluated accepted means stops
  | @rejected object values failure store inner builtin form role items isSealed holds _
      run total _ =>
      have shown := shown_within grounded.within holds grounded.present
      obtain ⟨_, inside⟩ := grounded_collect (.ok values) closed grounded holds
      obtain ⟨_, operands, rfl, rfl, settled, accepted⟩ := runs_settle run inside.sound
      have within := within_trans inside.within (runs_extend run).graph
      right
      rw [← total]
      refine .aggregate shown ?_ accepted
      intro operand member
      have wanted : operand.1 ∈ operands.map Prod.fst := List.mem_map_of_mem member
      exact settled_means within closed fixed (settled operand member)
        (inside.present operand.1 wanted)
  | @unresolved form item rest failure store after _ ih =>
      refine (ih (grounded_first _ grounded)).imp_right ?_
      intro means
      exact ⟨[], item, rest, _, rfl, by simp, by simp, means, rfl⟩
  | @refused form item rest value failure store after first refusal _ =>
      right
      have means := found_means closed fixed first (grounded_first _ grounded)
      exact ⟨[], item, rest, _, rfl, by simp, by simp, means, accept_refused refusal⟩
  | @later form item rest value failure store middle after first accepted _ _ ih =>
      have means := found_means closed fixed first (grounded_first _ grounded)
      refine (ih (grounded_rest _ grounded first)).imp_right ?_
      rintro ⟨before, stop, left, result, rfl, evaluated, acceptedBefore, meansStop, stops⟩
      refine ⟨(item, value) :: before, stop, left, result, rfl, ?_, ?_, meansStop, stops⟩
      · exact List.forall_mem_cons.mpr ⟨means, evaluated⟩
      · exact List.forall_mem_cons.mpr ⟨accepted, acceptedBefore⟩

end Runs

/-- With fixed leaves only, a dataization finds what its object means or is cut short
by a guard. -/
theorem resolve_means {config : Config} {store after : Store} {object : ObjectId}
    {result : Except DataError Value} (sound : store.Sound False)
    (contained : store.Contains object)
    (ran : (resolve config object).outcome store = (result, after)) :
    Means store.graph object result ∨
      ∃ failure, result = .error failure ∧ failure.ByGuard config.limit := by
  have runs := resolve_runs sound contained ran
  have grounded : (Act.chain config.limit [] object result).Grounded store.graph False store :=
    grounded_start sound contained
  cases result with
  | ok value => exact .inl (found_means (graph_closed sound) (graph_fixed sound) runs grounded)
  | error failure =>
      rcases runs_explained (graph_closed sound) (graph_fixed sound) runs grounded
        with guard | means
      · exact .inr ⟨failure, rfl, guard⟩
      · exact .inl means

/-- Whatever has been bound, copied, sealed or computed before, a dataization finds
what its object means by the bindings there are, which is one thing only, or is cut
short by a guard. -/
theorem dataization_finds_meaning {store : Store} {object : ObjectId}
    (reachable : Reachable False store) (contained : store.Contains object)
    (config : Config) :
    (Means store.graph object ((resolve config object).outcome store).1 ∧
        ∀ other, Means store.graph object other →
          other = ((resolve config object).outcome store).1) ∨
      (∃ label attr, ((resolve config object).outcome store).1 =
        .error (.cyclicEvaluation label attr)) ∨
      ((resolve config object).outcome store).1 = .error (.depthExceeded config.limit) := by
  rcases ran : (resolve config object).outcome store with ⟨result, after⟩
  rcases resolve_means (reachable_sound reachable) contained ran with means | guarded
  · have functional (object : ObjectId) (left right : Node) (first : store.graph object left)
        (second : store.graph object right) : left = right :=
      Store.graph_unique first second
    exact .inl ⟨means, fun other => means_unique functional means⟩
  · obtain ⟨failure, rfl, guard⟩ := guarded
    right
    cases failure with
    | cyclicEvaluation label attr => exact .inl ⟨label, attr, rfl⟩
    | depthExceeded limit =>
        cases guard
        exact .inr rfl
    | _ => cases guard

/-- The sum of two and three, as the third object. -/
def Store.sum : Store :=
  let first := (Store.empty.addLeaf (.fixed (.int 2))).2
  let second := (first.addLeaf (.fixed (.int 3))).2
  (run .default (Program.instantiateWith (.builtin .intAdd) operandAttribute
    [⟨0⟩, ⟨1⟩])).after second

theorem sum_reachable : Reachable False Store.sum := by
  have start : Reachable False .empty := .refl
  have leaves := reachable_leaf (reachable_leaf start (.int 2)) (.int 3)
  have known : ∀ operand ∈ [⟨0⟩, ⟨1⟩], Store.Contains
      ((Store.empty.addLeaf (.fixed (.int 2))).2.addLeaf (.fixed (.int 3))).2 operand := by
    decide
  exact leaves.tail (.apply .intAdd known)

theorem computed_sum_means :
    let computed := (resolve .default ⟨2⟩).after Store.sum
    Reachable False computed ∧ computed.Contains ⟨2⟩ ∧
      Means computed.graph ⟨2⟩ (.ok (.int 5)) := by
  intro computed
  have reachable : Reachable False computed := reachable_resolve sum_reachable .default ⟨2⟩
  have contained : computed.Contains ⟨2⟩ := by decide
  refine ⟨reachable, contained, ?_⟩
  have found : ((resolve .default ⟨2⟩).outcome computed).1 = .ok (.int 5) := rfl
  have meaning := dataization_finds_meaning reachable contained .default
  rw [found] at meaning
  rcases meaning with ⟨means, _⟩ | ⟨_, _, cyclic⟩ | deep
  · exact means
  · cases cyclic
  · cases deep

end ObjectCalculus
