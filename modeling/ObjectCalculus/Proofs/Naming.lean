import Mathlib.Data.List.Basic
import ObjectCalculus.Proofs.Room

/-!
# What a refusal names

A refusal as cyclic names an object by its label, and an attribute. The object is on a cycle, and
no other object has its label. The attribute is the one that stands for values, whichever of the
two guards refuses. So it is one of the object's own where an operator or an array is met again
while it is computed; where a chain comes back to a data object, the attribute that leads back is
another, and the one that is named does not exist.
-/

set_option autoImplicit false

namespace ObjectCalculus

open Effect Evaluation Relation

section Labels

variable {store before after : Store} {graph : Graph} {object other : ObjectId}

theorem builtin_unmarked (builtin : Builtin) : '#' ∉ builtin.name.toList := by
  cases builtin <;> decide

theorem leaf_unmarked : '#' ∉ Object.leafName.toList := by
  decide

theorem name_unmarked (content : Content) : '#' ∉ content.name.toList := by
  cases content with
  | leaf => exact leaf_unmarked
  | datum | aggregate => exact builtin_unmarked _

theorem text_marked (object : ObjectId) :
    object.text.toList = '#' :: Nat.toDigits 10 object.number := by
  simp [ObjectId.text, String.toList_append, toString, Nat.repr]

theorem digits_unmarked (number : Nat) : '#' ∉ Nat.toDigits 10 number := by
  intro member
  have digit := Nat.isDigit_of_mem_toDigits (by decide) (by decide) member
  revert digit
  decide

theorem digits_injective {number otherNumber : Nat}
    (same : Nat.toDigits 10 number = Nat.toDigits 10 otherNumber) : number = otherNumber := by
  have numbers := congrArg (Nat.ofDigitChars 10 · 0) same
  simpa only [Nat.ofDigitChars_ten_toDigits] using numbers

theorem label_injective {content otherContent : Content} (holds : store.Holds object content)
    (otherHolds : store.Holds other otherContent) (same : store.label other = store.label object) :
    other = object := by
  rw [Store.holds_label holds, Store.holds_label otherHolds, ← String.toList_inj,
    String.toList_append, String.toList_append, text_marked, text_marked,
    List.append_cons_inj_of_notMem (name_unmarked _) (digits_unmarked _)] at same
  exact object_id_ext (Nat.succ_injective (digits_injective same.2.2))

theorem label_grows {node : Node} (within : graph.Within before.graph)
    (shown : graph object node) (grows : before.Grows after) :
    after.label object = before.label object := by
  obtain ⟨content, holds, _⟩ := within object node shown
  unfold Store.label
  rw [name_grows grows holds]

end Labels

def Graph.Binds (graph : Graph) (object target : ObjectId) : Prop :=
  ∃ builtin, graph object (.datum builtin (some target))

def Graph.Aggregates (graph : Graph) (object : ObjectId) : Prop :=
  ∃ form items, graph object (.aggregate form items)

/-- How the object that a refusal names is come upon from another: it is computed already or on
a cycle, or chains alone lead from it back to it, or from the other to what they have passed. -/
inductive Graph.Traces (graph : Graph) (passed marked : ObjectId → Prop)
    (object named : ObjectId) : Prop
  | computed (aggregates : graph.Aggregates named) (path : graph.Reaches object named)
      (back : marked named ∨ graph.OnCycle named)
  | bound (path : graph.Reaches object named) (cycle : TransGen graph.Binds named named)
  | passed (path : ReflTransGen graph.Binds object named) (seen : passed named)

section Traces

variable {graph : Graph} {object target named : ObjectId} {marked passed : ObjectId → Prop}

theorem binds_demands (binds : graph.Binds object target) : graph.Demands object target := by
  obtain ⟨builtin, shown⟩ := binds
  exact demands_bound shown

theorem traces_bound {visited : List ObjectId} (binds : graph.Binds object target)
    (traces : graph.Traces (· ∈ object :: visited) marked target named) :
    graph.Traces (· ∈ visited) marked object named := by
  have demands := binds_demands binds
  cases traces with
  | computed aggregates path back => exact .computed aggregates (.head demands path) back
  | bound path cycle => exact .bound (.head demands path) cycle
  | passed path seen =>
      rcases List.mem_cons.mp seen with rfl | earlier
      · exact .bound .refl (.head' binds path)
      · exact .passed (.head binds path) earlier

theorem traces_item (aggregates : graph.Aggregates object) (demands : graph.Demands object target)
    (traces : graph.Traces (fun _ => False) (fun other => other = object ∨ marked other) target
      named) : graph.Traces passed marked object named := by
  cases traces with
  | computed shown path back =>
      rcases back with (rfl | earlier) | cycle
      · exact .computed shown .refl (.inr (.head' demands path))
      · exact .computed shown (.head demands path) (.inl earlier)
      · exact .computed shown (.head demands path) (.inr cycle)
  | bound path cycle => exact .bound (.head demands path) cycle
  | passed _ seen => exact seen.elim

theorem traces_mono {morePassed moreMarked : ObjectId → Prop}
    (passes : ∀ other, passed other → morePassed other)
    (marks : ∀ other, marked other → moreMarked other)
    (traces : graph.Traces passed marked object named) :
    graph.Traces morePassed moreMarked object named := by
  cases traces with
  | computed aggregates path back =>
      exact .computed aggregates path (back.imp_left (marks named))
  | bound path cycle => exact .bound path cycle
  | passed path seen => exact .passed path (passes named seen)

end Traces

def Act.Traces (graph : Graph) (store : Store) (named : ObjectId) : Act → Prop
  | .chain _ visited object _ => graph.Traces (· ∈ visited) store.Marked object named
  | .compute object _ => graph.Traces (fun _ => False) store.Marked object named
  | .collect _ items _ =>
      ∃ item ∈ items, graph.Traces (fun _ => False) store.Marked item named

/-- What a refusal of the act says is true but for the attribute, which is always the one that
stands for values. -/
structure Act.Reports (graph : Graph) (store : Store) (label attr : String) (act : Act) :
    Prop where
  standing : attr = valueAttribute
  object : ∃ named node, graph named node ∧ store.label named = label ∧
    act.Traces graph store named

section Runs

variable {graph : Graph} {deferring : Prop} {config : Config} {act inner : Act}
  {store before after : Store} {label attr : String}

/-- What an act inside another reports is reported by the other, if its traces lead on. -/
theorem reports_outside (within : graph.Within before.graph) (grows : before.Grows after)
    (traces : ∀ named, inner.Traces graph after named → act.Traces graph before named)
    (reports : inner.Reports graph after label attr) : act.Reports graph before label attr where
  standing := reports.standing
  object := by
    obtain ⟨named, node, shown, labelled, traced⟩ := reports.object
    exact ⟨named, node, shown, (label_grows within shown grows).symm.trans labelled,
      traces named traced⟩

theorem runs_report (closed : graph.Closed) (fixed : graph.Fixed)
    (runs : Runs config act store after) (grounded : act.Grounded graph deferring store)
    (failed : act.failure? = some (.cyclicEvaluation label attr)) :
    act.Reports graph store label attr := by
  induction runs with
  | leaf | computed | kept | published | nil | cons => cases failed
  | deferred held =>
      have shown := shown_within grounded.within (Store.holds_leaf.mpr held) grounded.present
      exact absurd shown (fixed _)
  | exhausted | deep | unbound => cases failed
  | @revisited _ _ object _ _ seen =>
      cases failed
      obtain ⟨node, shown⟩ := grounded.present
      exact ⟨rfl, object, node, shown, rfl, .passed .refl seen⟩
  | @active object _ _ _ _ _ _ _ holds marked =>
      cases failed
      have shown := shown_within grounded.within holds grounded.present
      exact ⟨rfl, object, _, shown, rfl, .computed ⟨_, _, shown⟩ .refl (.inl marked)⟩
  | @bound moves visited object target result store after builtin role holds _ _ ih =>
      have shown := shown_within grounded.within holds grounded.present
      obtain ⟨_, inside⟩ := grounded_bound closed grounded holds
      cases result with
      | ok value => cases failed
      | error failure =>
          have same := activity_invariance.keeps_stepped config object dataAttribute store
          refine reports_outside grounded.within (stepped_extends config object dataAttribute
            store).grows (fun named traced => ?_) (ih inside failed)
          exact traces_bound ⟨builtin, shown⟩
            (traces_mono (fun _ => id) (fun other => (marked_same same other).mp) traced)
  | @failed moves visited object failure store after builtin form role items isSealed cache
      _ _ _ ih =>
      have same := activity_invariance.keeps_stepped config object valueAttribute store
      refine reports_outside grounded.within (stepped_extends config object valueAttribute
        store).grows (fun named traced => ?_) (ih (grounded_compute _ grounded) failed)
      exact traces_mono (fun _ => False.elim) (fun other => (marked_same same other).mp) traced
  | @cut object failure store inner builtin form role items isSealed holds _ _ ih =>
      have shown := shown_within grounded.within holds grounded.present
      obtain ⟨demands, inside⟩ := grounded_collect _ closed grounded holds
      refine reports_outside grounded.within (entered_extends holds).grows
        (fun named traced => ?_) (ih inside failed)
      obtain ⟨item, member, traced⟩ := traced
      refine traces_item ⟨form, items, shown⟩ (demands item member)
        (traces_mono (fun _ => id) (fun other marked => ?_) traced)
      rcases List.mem_cons.mp marked with same | earlier
      · cases same
        exact .inl rfl
      · exact .inr earlier
  | rejected _ _ _ total =>
      cases failed
      exact absurd trivial (total_not_cyclic total)
  | @unresolved form item rest failure store after _ ih =>
      refine reports_outside grounded.within (store_grows_refl store) (fun named traced => ?_)
        (ih (grounded_first _ grounded) failed)
      exact ⟨item, List.mem_cons_self, traces_mono (fun _ => List.not_mem_nil.elim) (fun _ => id)
        traced⟩
  | refused _ refusal =>
      cases failed
      exact absurd trivial (refusal_not_cyclic refusal)
  | @later form item rest value failure store middle after first _ _ _ ih =>
      refine reports_outside grounded.within (runs_extend first).grows (fun named traced => ?_)
        (ih (grounded_rest _ grounded first) failed)
      obtain ⟨other, member, traced⟩ := traced
      exact ⟨other, List.mem_cons_of_mem item member, traces_mono (fun _ => id)
        (fun known => (marked_same (runs_activity first) known).mp) traced⟩

end Runs

/-- What the attribute demands when it is resolved: what it is bound to, or the items that its
owner has been given. -/
inductive Store.Needs (store : Store) (object : ObjectId) (attr : String) : ObjectId → Prop
  | bound {cell : Memo ObjectId} {target : ObjectId}
      (slot : store.slot? object attr = some (.free cell)) (content : cell.content = some target) :
      Needs store object attr target
  | item {rule : Rule} {cache : Option (Memo ObjectId)} {parameter : String}
      {items : List ObjectId} {isSealed : Bool} {target : ObjectId}
      (slot : store.slot? object attr = some (.composite rule cache))
      (read : store.slot? object parameter = some (.variadic items isSealed))
      (member : target ∈ items) : Needs store object attr target

/-- There is an object with the label and the attribute, and resolving the attribute leads back
to it. -/
def Store.NamesCycle (store : Store) (label attr : String) : Prop :=
  ∃ named target, store.Contains named ∧ store.label named = label ∧
    store.Needs named attr target ∧ store.graph.Reaches target named

section Reachable

variable {store : Store} {object named : ObjectId} {label attr : String}

theorem label_unique (sound : store.Sound False) {node : Node}
    (shown : store.graph named node) (labelled : store.label named = label) {other : ObjectId}
    (contained : store.Contains other) : store.label other = label ↔ other = named := by
  obtain ⟨content, holds, _⟩ := shown
  obtain ⟨_, otherContent, otherHolds, _⟩ := node_of_contains sound contained
  constructor
  · exact fun same => label_injective holds otherHolds (same.trans labelled.symm)
  · rintro rfl
    exact labelled

theorem aggregate_named (aggregates : store.graph.Aggregates named)
    (cycle : store.graph.OnCycle named) (labelled : store.label named = label) :
    store.NamesCycle label valueAttribute ∧ ¬TransGen store.graph.Binds named named := by
  obtain ⟨form, items, shown⟩ := aggregates
  obtain ⟨builtin, role, isSealed, cache, holds⟩ := Store.shown_aggregate shown
  constructor
  · obtain ⟨target, demands, back⟩ := TransGen.head'_iff.mp cycle
    exact ⟨named, target, Store.contains_of_object holds, labelled,
      .item (slot_value holds) (slot_items holds) (demands_content holds demands), back⟩
  · intro bound
    obtain ⟨target, ⟨_, datum⟩, _⟩ := TransGen.head'_iff.mp bound
    cases Store.graph_unique shown datum

/-- A chain that comes back to a data object leaves by the attribute that holds data, and the
object has no other. -/
theorem datum_named (cycle : TransGen store.graph.Binds named named)
    (labelled : store.label named = label) :
    store.NamesCycle label dataAttribute ∧ store.slot? named valueAttribute = none := by
  obtain ⟨target, ⟨builtin, shown⟩, back⟩ := TransGen.head'_iff.mp cycle
  obtain ⟨role, holds⟩ := Store.shown_datum shown
  have slot := Store.holds_slot holds
  refine ⟨⟨named, target, Store.contains_of_object holds, labelled, .bound (slot _) rfl, ?_⟩,
    slot _⟩
  exact ReflTransGen.mono (fun _ _ => binds_demands) _ _ back

theorem needs_slot {target : ObjectId} (needs : store.Needs named attr target) :
    store.slot? named attr ≠ none := by
  cases needs with
  | bound slot | item slot => simp [slot]

/-- A refusal as cyclic names one object that is reached and on a cycle, and names it by an
attribute that leads back to it just if the cycle does not consist of data objects alone. Where
it does, the attribute that leads back holds data, and the one that is named does not exist. -/
theorem reported_cycles_are_named (reachable : Reachable False store)
    (contained : store.Contains object) (config : Config)
    (reported : ((resolve config object).outcome store).1 =
      .error (.cyclicEvaluation label attr)) :
    ∃ named, store.Contains named ∧
      (∀ other, store.Contains other → (store.label other = label ↔ other = named)) ∧
      store.graph.Reaches object named ∧ store.graph.OnCycle named ∧
      (store.NamesCycle label attr ↔ ¬TransGen store.graph.Binds named named) ∧
      (TransGen store.graph.Binds named named →
        store.NamesCycle label dataAttribute ∧ store.slot? named attr = none) := by
  have sound := reachable_sound reachable
  have runs := resolve_runs sound contained (Prod.ext reported rfl)
  obtain ⟨rfl, named, node, shown, labelled, traced⟩ := runs_report (graph_closed sound)
    (graph_fixed sound) runs (grounded_start sound contained) rfl
  have there := Store.contains_of_shown shown
  refine ⟨named, there, fun other => label_unique sound shown labelled, ?_⟩
  cases traced with
  | computed aggregates path back =>
      rcases back with marked | cycle
      · unfold Store.Marked at marked
        rw [reachable_idle reachable] at marked
        cases marked
      · obtain ⟨names, unbound⟩ := aggregate_named aggregates cycle labelled
        exact ⟨path, cycle, iff_of_true names unbound, fun bound => absurd bound unbound⟩
  | bound path cycle =>
      have named := datum_named cycle labelled
      refine ⟨path, TransGen.mono (fun _ _ => binds_demands) _ _ cycle,
        iff_of_false ?_ (not_not_intro cycle), fun _ => named⟩
      rintro ⟨other, target, otherThere, same, needs, _⟩
      cases (label_unique sound shown labelled otherThere).mp same
      exact needs_slot needs named.2
  | passed _ seen => cases seen

end Reachable

theorem selfish_named :
    ((resolve .default ⟨0⟩).outcome Store.selfish).1 =
        .error (.cyclicEvaluation "int.add#1" valueAttribute) ∧
      Store.selfish.NamesCycle "int.add#1" valueAttribute := by
  have start : Reachable False .empty := .refl
  have reachable : Reachable False Store.selfish :=
    (reachable_instantiate start .intAdd).tail
      (operates_bind ⟨0⟩ operandAttribute (by decide))
  have reported : ((resolve .default ⟨0⟩).outcome Store.selfish).1 =
      .error (.cyclicEvaluation "int.add#1" valueAttribute) := rfl
  obtain ⟨named, _, _, path, _, names, _⟩ :=
    reported_cycles_are_named reachable (by decide) .default reported
  refine ⟨reported, names.mpr fun bound => ?_⟩
  cases selfish_reaches_itself path
  obtain ⟨target, ⟨builtin, datum⟩, _⟩ := TransGen.head'_iff.mp bound
  obtain ⟨content, holds, same⟩ := datum
  have role : Builtin.intAdd.role = .aggregate (.operator (.int .intAdd)) := rfl
  have sum : Store.selfish.Holds ⟨0⟩ (.aggregate role [⟨0⟩] false none) := rfl
  cases Store.holds_unique holds sum
  cases same

def Store.circular : Store :=
  let made := (Store.empty.instantiate Builtin.int.definition).2
  (Store.tryBind (fun store => store.bind ⟨0⟩ dataAttribute ⟨0⟩) made).2

/-- The data object is refused by an attribute that it does not have. -/
theorem circular_misnamed :
    Reachable False Store.circular ∧ Store.circular.Contains ⟨0⟩ ∧
      ((resolve .default ⟨0⟩).outcome Store.circular).1 =
        .error (.cyclicEvaluation "int#1" valueAttribute) ∧
      ¬Store.circular.NamesCycle "int#1" valueAttribute := by
  have start : Reachable False .empty := .refl
  have reachable : Reachable False Store.circular :=
    (reachable_instantiate start .int).tail (operates_bind ⟨0⟩ dataAttribute (by decide))
  refine ⟨reachable, by decide, rfl, ?_⟩
  rintro ⟨named, target, there, _, needs, _⟩
  have only : named = ⟨0⟩ := object_id_ext (Nat.lt_one_iff.mp there)
  cases only
  exact needs_slot needs rfl

end ObjectCalculus
