import ObjectCalculus.Proofs.Isolation
import ObjectCalculus.Proofs.Records

/-!
# Values found elsewhere

A copy shares its items with the original, but is open and has computed nothing. It finds the
value of the original all the same, and no more: how the items came to their values, now or when
a result was filed, can be repeated for the copy, one level below the top, and the other way
round. Nothing in the way of it can be reached from the items.
-/

set_option autoImplicit false

namespace ObjectCalculus

open Effect Evaluation Relation

section Matches

variable {graph : Graph} {origins : List ObjectId} {origin object : ObjectId} {value : Value}
  {left middle right before after : Store}

theorem reaches_under (path : graph.Reaches origin object) (among : origin ∈ origins) :
    (graph.under origins).Reaches origin object := by
  induction path with
  | refl => exact .refl
  | tail earlier demands ih =>
      obtain ⟨node, shown, wanted⟩ := demands
      exact ih.tail ⟨node, ⟨shown, origin, among, earlier⟩, wanted⟩

theorem matches_reach (matched : left.Matches right origins) (among : origin ∈ origins)
    (path : left.graph.Reaches origin object) : right.graph.Reaches origin object :=
  reaches_within matched.within (reaches_under path among)

theorem matches_trans (first : left.Matches middle origins)
    (second : middle.Matches right origins) : left.Matches right origins := by
  have inside : (left.graph.under origins).Within (middle.graph.under origins) := by
    rintro object node ⟨shown, origin, among, path⟩
    exact ⟨first.within _ _ ⟨shown, origin, among, path⟩, origin, among,
      matches_reach first among path⟩
  refine ⟨within_trans inside second.within, fun shown => ?_, fun shown keeps => ?_⟩
  · exact (second.name (inside _ _ shown)).trans (first.name shown)
  · obtain ⟨_, kept⟩ := first.keeps shown keeps
    exact second.keeps (inside _ _ shown) kept

theorem matches_extended (origins : List ObjectId) (extension : left.Extends right) :
    left.Matches right origins where
  within := within_trans (under_within _ _) extension.graph
  name shown := by
    obtain ⟨found, held⟩ := object_of_shown (under_within _ _) shown
    exact name_grows extension.grows held
  keeps _ keeps := ⟨_, keeps_grows extension.grows keeps⟩

theorem settled_shown {node : Node} (settled : left.Settled object value)
    (grows : left.Grows right) (shown : left.graph object node) : right.graph object node := by
  obtain ⟨content, holds, rfl⟩ := shown
  cases settled with
  | fixed held =>
      cases Store.holds_unique holds (Store.holds_leaf.mpr held)
      exact ⟨_, Store.holds_leaf.mpr (fixed_grows grows held), rfl⟩
  | produced held _ =>
      cases Store.holds_unique holds (Store.holds_leaf.mpr held)
      obtain ⟨grown, heldAfter, growth⟩ := grows.leaves held
      cases growth
      exact ⟨_, Store.holds_leaf.mpr heldAfter, rfl⟩
  | bound other _ =>
      cases Store.holds_unique holds other
      exact ⟨_, bound_grows grows holds, rfl⟩
  | aggregate other _ _ _ =>
      cases Store.holds_unique holds other
      obtain ⟨more, sealed, _⟩ := sealed_grows grows holds
      exact ⟨_, sealed, rfl⟩

/-- Objects that were there before demand nothing that was not. -/
theorem makes_reaches {made : ObjectId} (sound : before.Sound False)
    (makes : before.Makes made after) (known : before.Contains origin)
    (path : after.graph.Reaches origin object) : before.Contains object := by
  induction path with
  | refl => exact known
  | tail _ demands ih =>
      obtain ⟨node, ⟨content, holds, shown⟩, wanted⟩ := demands
      exact sound.closed ⟨node, ⟨content, (makes.others ih).symm.trans holds, shown⟩, wanted⟩

theorem makes_matches {made : ObjectId} (sound : before.Sound False)
    (makes : before.Makes made after) (known : ∀ origin ∈ origins, before.Contains origin) :
    after.Matches before origins := by
  have same {object : ObjectId} {node : Node} (shown : after.graph.under origins object node) :
      before.object? object = after.object? object := by
    obtain ⟨_, origin, among, path⟩ := shown
    exact (makes.others (makes_reaches sound makes (known origin among) path)).symm
  refine ⟨fun object node shown => ?_, fun shown => ?_, fun shown keeps => ?_⟩
  · obtain ⟨content, holds, shows⟩ := shown.1
    exact ⟨content, (same shown).trans holds, shows⟩
  · unfold Store.name
    rw [same shown]
  · exact ⟨_, (keeps_same (same shown)).mpr keeps⟩

end Matches

section Collected

variable {config : Config} {form : Aggregate} {items : List ObjectId} {values : List Value}
  {left inner right : Store}

theorem collected_settled (sound : left.Sound False)
    (runs : Runs config (.collect form items (.ok values)) left inner) :
    ∀ item ∈ items, ∃ value, inner.Settled item value := by
  obtain ⟨operands, rfl, _, settled, _⟩ := (runs_settle runs sound).2
  intro item member
  obtain ⟨operand, among, rfl⟩ := List.mem_map.mp member
  exact ⟨operand.2, settled operand among⟩

theorem collected_reaches_no_cycle (sound : left.Sound False)
    (runs : Runs config (.collect form items (.ok values)) left inner) :
    ∀ item ∈ items, ¬left.graph.ReachesCycle item := by
  intro item member reaches
  obtain ⟨value, settled⟩ := collected_settled sound runs item member
  exact settled_reaches_no_cycle settled
    (reaches_cycle_within (runs_extend runs).graph reaches)

/-- What the items reach is settled when they have been collected, so it stays as it is. -/
theorem collected_matches (sound : left.Sound False)
    (runs : Runs config (.collect form items (.ok values)) left inner)
    (grows : inner.Grows right) : left.Matches right items where
  within object node shown := by
    obtain ⟨shows, item, member, path⟩ := shown
    have extension := runs_extend runs
    obtain ⟨_, settledItem⟩ := collected_settled sound runs item member
    obtain ⟨_, settled⟩ := settled_reaches settledItem (reaches_within extension.graph path)
    exact settled_shown settled grows (extension.graph _ _ shows)
  name shown := by
    obtain ⟨found, held⟩ := object_of_shown (under_within _ _) shown
    exact name_grows (store_grows_trans (runs_extend runs).grows grows) held
  keeps _ keeps := ⟨_, keeps_grows (store_grows_trans (runs_extend runs).grows grows) keeps⟩

end Collected

/-- The store in which the items are collected when their owner is dataized. -/
def Store.opened (config : Config) (object : ObjectId) (form : Aggregate)
    (items : List ObjectId) (store : Store) : Store :=
  (stepped config object valueAttribute store).entered object form items

section Opened

variable {config : Config} {store : Store} {object : ObjectId} {builtin : Builtin}
  {form : Aggregate} {role : builtin.role = .aggregate form} {items : List ObjectId}
  {isSealed : Bool}

section Idle

variable (idle : store.activity = .idle)

include idle

theorem opened_depth : (store.opened config object form items).activity.depth = 1 := by
  change (stepped config object valueAttribute store).activity.depth + 1 = 1
  rw [stepped_activity, idle]
  rfl

theorem opened_marked {marked : ObjectId}
    (known : (store.opened config object form items).Marked marked) : marked = object := by
  rcases List.mem_cons.mp known with same | earlier
  · cases same
    rfl
  · rw [stepped_activity, idle] at earlier
    cases earlier

end Idle

variable (config) (holds : store.Holds object (.aggregate role items isSealed none))

include holds

theorem opened_sound (sound : store.Sound False) :
    (store.opened config object form items).Sound False :=
  sound_entered (sound_stepped sound config object valueAttribute)
    (stepped_holds config object valueAttribute holds)

theorem opened_extends : store.Extends (store.opened config object form items) :=
  extends_trans (stepped_extends config object valueAttribute store)
    (entered_extends (stepped_holds config object valueAttribute holds))

theorem opened_matches (origins : List ObjectId) :
    (store.opened config object form items).Matches store origins := by
  have stepped := stepped_objects config object valueAttribute store
  have puts := entered_puts (stepped_holds config object valueAttribute holds)
  have within : (store.opened config object form items).graph.Within store.graph := by
    rintro other node ⟨content, there, shown⟩
    by_cases here : other = object
    · subst here
      cases Store.holds_unique there (Store.holds_put puts)
      exact ⟨_, holds, shown⟩
    · exact ⟨content, (Store.holds_same stepped).mp ((Store.holds_put_other puts here).mp there),
        shown⟩
  refine ⟨within_trans (under_within _ _) within, fun shown => ?_, fun _ keeps => ?_⟩
  · obtain ⟨found, held⟩ := object_of_shown (within_trans (under_within _ _) within) shown
    exact (name_grows (opened_extends config holds).grows held).symm
  · have before := entered_keeps (stepped_holds config object valueAttribute holds) keeps
    exact ⟨_, (keeps_same (Store.object_same stepped _)).mp before⟩

variable {config} in
theorem opened_total {values : List Value} {inner : Store} (room : 0 < config.limit)
    (idle : store.activity = .idle)
    (runs : Runs config (.collect form items (.ok values))
      (store.opened config object form items) inner) :
    ((resolve config object).outcome store).1 = form.total values := by
  have again := stepped_holds config object valueAttribute holds
  have activity := (stepped_activity config object valueAttribute store).trans idle
  have admitted : (stepped config object valueAttribute store).Admits config object := by
    constructor
    · unfold Store.Marked
      rw [activity]
      exact List.not_mem_nil
    · rw [activity]
      exact room
  obtain ⟨moves, limit⟩ : ∃ moves, config.limit = moves + 1 :=
    Nat.exists_eq_succ_of_ne_zero (Nat.ne_of_gt room)
  have whole : resolve config object = follow attributeOf config (moves + 1) [] object := by
    rw [← limit]
    rfl
  rw [whole]
  cases total : form.total values with
  | error failure =>
      have chain : Runs config (.chain (moves + 1) [] object (.error failure)) store _ :=
        .failed holds List.not_mem_nil (.rejected again admitted runs total)
      exact congrArg Prod.fst (runs_performed chain)
  | ok value =>
      have waiting := still_waiting again (runs_lock runs) (runs_extend runs).grows
      have chain : Runs config (.chain (moves + 1) [] object (.ok value)) store _ :=
        .computed holds List.not_mem_nil (.published again admitted runs total waiting)
          (concluded_leaf items.length value waiting)
      exact congrArg Prod.fst (runs_performed chain)

end Opened

/-- The items came to the values when they were collected, below the top level, and whatever
they reach is in the store as it was then. -/
inductive Obtained (config : Config) (form : Aggregate) (items : List ObjectId)
    (values : List Value) (store : Store) : Prop
  | intro {left inner : Store} (sound : left.Sound False) (deep : 0 < left.activity.depth)
      (known : ∀ item ∈ items, left.Contains item)
      (runs : Runs config (.collect form items (.ok values)) left inner)
      (matched : left.Matches store items)

section Obtained

variable {config : Config} {store left right after : Store} {object other : ObjectId}
  {value : Value}

/-- To find the value of an operator or an array is to compute it. -/
theorem aggregate_resolved {builtin : Builtin} {form : Aggregate}
    {role : builtin.role = .aggregate form} {items : List ObjectId} {isSealed : Bool}
    {cache : Option ObjectId} (sound : store.Sound False)
    (holds : store.Holds object (.aggregate role items isSealed cache))
    (found : ((resolve config object).outcome store).1 = .ok value) :
    0 < config.limit ∧ ∃ next after,
      Runs config (.compute object (.ok next)) (stepped config object valueAttribute store) after ∧
        after.leaf? next = some (.fixed value) := by
  rcases ran : (resolve config object).outcome store with ⟨result, after⟩
  rw [ran] at found
  have runs := resolve_runs sound (Store.contains_of_object holds) ran
  generalize config.limit = moves at runs ⊢
  cases runs with
  | leaf held | deferred held => cases Store.holds_unique holds (Store.holds_leaf.mpr held)
  | bound other => cases Store.holds_unique holds other
  | computed _ _ inside held =>
      cases found
      exact ⟨Nat.succ_pos _, _, _, inside, held⟩
  | revisited | exhausted | unbound | failed => cases found

theorem datum_resolved {builtin : Builtin} {role : builtin.role = .datum}
    {binding : Option ObjectId} (sound : store.Sound False)
    (holds : store.Holds object (.datum role binding))
    (found : ((resolve config object).outcome store).1 = .ok value) :
    ∃ fewer target after, config.limit = fewer + 1 ∧ binding = some target ∧
      Runs config (.chain fewer [object] target (.ok value))
        (stepped config object dataAttribute store) after := by
  rcases ran : (resolve config object).outcome store with ⟨result, after⟩
  rw [ran] at found
  have runs := resolve_runs sound (Store.contains_of_object holds) ran
  generalize config.limit = moves at runs ⊢
  cases runs with
  | leaf held | deferred held => cases Store.holds_unique holds (Store.holds_leaf.mpr held)
  | computed other => cases Store.holds_unique holds other
  | bound other _ rest =>
      cases Store.holds_unique holds other
      cases found
      exact ⟨_, _, _, rfl, rfl, rest⟩
  | revisited | exhausted | unbound | failed => cases found

theorem aggregate_obtained {builtin : Builtin} {form : Aggregate}
    {role : builtin.role = .aggregate form} {items : List ObjectId} {isSealed : Bool}
    {cache : Option ObjectId} (sound : store.Sound False) (recorded : store.Recorded config)
    (holds : store.Holds object (.aggregate role items isSealed cache))
    (found : ((resolve config object).outcome store).1 = .ok value) :
    ∃ values, Obtained config form items values store ∧ form.total values = .ok value := by
  obtain ⟨_, next, after, computed, held⟩ := aggregate_resolved sound holds found
  have same := stepped_objects config object valueAttribute store
  cases computed with
  -- Nothing was collected just now, but there is a record of when it was.
  | kept again =>
      have kept := (Store.holds_same same).mp again
      cases Store.holds_unique holds kept
      obtain ⟨filed, leaf, collected⟩ := recorded.kept kept
      have heldAlready : (stepped config object valueAttribute store).leaf? next =
          some (.fixed value) := held
      rw [leaf_objects same, leaf] at heldAlready
      cases heldAlready
      obtain ⟨leftSound, deep, known, runs, grows, total⟩ := collected
      exact ⟨_, .intro leftSound deep known runs (collected_matches leftSound runs grows), total⟩
  | @published _ _ filed _ _ _ _ _ _ _ again _ runs total waiting =>
      have blank := (Store.holds_same same).mp again
      cases Store.holds_unique holds blank
      cases (concluded_leaf items.length filed waiting).symm.trans held
      have known : ∀ item ∈ items, (store.opened config object form items).Contains item :=
        fun item member => contains_grows (sound.closed (demands_of_holds blank member))
          (opened_extends config blank).grows
      exact ⟨_, .intro (opened_sound config blank sound) (Nat.succ_pos _) known runs
        (opened_matches config blank items), total⟩

theorem obtained_elsewhere {form : Aggregate} {items : List ObjectId} {values : List Value}
    (obtained : Obtained config form items values left) (sound : right.Sound False)
    (level : right.activity.depth = 1) (matched : left.Matches right items)
    (unmarked : ∀ item ∈ items, ∀ marked, right.Marked marked → ¬left.graph.Reaches item marked) :
    ∃ last, Runs config (.collect form items (.ok values)) right last := by
  obtain ⟨soundBefore, deep, known, runs, before⟩ := obtained
  exact runs_transfer runs {
    sound := soundBefore
    soundRight := sound
    known := known
    acyclic := collected_reaches_no_cycle soundBefore runs
    unmarked := fun item member marked there path =>
      unmarked item member marked there (matches_reach before member path)
    roomy := fun _ _ => .inl (level ▸ deep)
    matched := matches_trans before matched }

/-- A chain that found its value finds it in a store that matches and where its objects are
neither under way nor too deep. -/
theorem chain_elsewhere {moves : Nat} {visited : List ObjectId} (sound : left.Sound False)
    (soundRight : right.Sound False) (contained : left.Contains object)
    (runs : Runs config (.chain moves visited object (.ok value)) left after)
    (unmarked : ∀ marked, right.Marked marked → ¬left.graph.Reaches object marked)
    (roomy : left.graph.Roomy config.limit left.activity.depth right.activity.depth object)
    (matched : left.Matches right [object]) (passed : List ObjectId)
    (apart : ∀ other ∈ passed, ¬left.graph.Reaches object other) :
    ∃ last, Runs config (.chain moves passed object (.ok value)) right last := by
  have only {holds : ObjectId → Prop} (here : holds object) : ∀ origin ∈ [object], holds origin :=
    List.forall_mem_singleton.mpr here
  have prepared : (Act.chain moves visited object (.ok value)).Prepared config.limit left right := {
    sound := sound
    soundRight := soundRight
    known := only contained
    acyclic := only (found_reaches_no_cycle sound runs)
    unmarked := only unmarked
    roomy := only roomy
    matched := matched }
  exact runs_transfer runs prepared passed apart

end Obtained

section Elsewhere

variable {config : Config} {left right : Store} {object other : ObjectId} {value : Value}
  {oldBuiltin newBuiltin : Builtin} (ready : left.Ready config)
  (readyRight : right.Ready config)
  (found : ((resolve config object).outcome left).1 = .ok value)

include ready readyRight found

/-- Another operator or array with the same items, none of which reaches it, has the same
value. -/
theorem aggregate_elsewhere {form : Aggregate} {oldRole : oldBuiltin.role = .aggregate form}
    {newRole : newBuiltin.role = .aggregate form} {items : List ObjectId}
    {oldSealed newSealed : Bool} {cache : Option ObjectId}
    (holds : left.Holds object (.aggregate oldRole items oldSealed cache))
    (again : right.Holds other (.aggregate newRole items newSealed none))
    (matched : left.Matches right items)
    (apart : ∀ item ∈ items, ¬left.graph.Reaches item other) :
    ((resolve config other).outcome right).1 = .ok value := by
  have room := (aggregate_resolved ready.sound holds found).1
  obtain ⟨values, obtained, total⟩ :=
    aggregate_obtained ready.sound ready.recorded holds found
  have entered := matches_trans matched (matches_extended items (opened_extends config again))
  have unmarked : ∀ item ∈ items, ∀ marked,
      (right.opened config other form items).Marked marked → ¬left.graph.Reaches item marked := by
    intro item member marked known path
    exact apart item member (opened_marked readyRight.idle known ▸ path)
  obtain ⟨last, collected⟩ := obtained_elsewhere obtained
    (opened_sound config again readyRight.sound) (opened_depth readyRight.idle) entered unmarked
  rw [opened_total again room readyRight.idle collected, total]

theorem datum_elsewhere {oldRole : oldBuiltin.role = .datum} {newRole : newBuiltin.role = .datum}
    {binding : Option ObjectId} (holds : left.Holds object (.datum oldRole binding))
    (holdsOther : right.Holds other (.datum newRole binding))
    (matched : left.Matches right binding.toList)
    (apart : ∀ target ∈ binding.toList, ¬left.graph.Reaches target other) :
    ((resolve config other).outcome right).1 = .ok value := by
  obtain ⟨fewer, target, after, limit, rfl, rest⟩ := datum_resolved ready.sound holds found
  have leftSame := stepped_objects config object dataAttribute left
  have rightSame := stepped_objects config other dataAttribute right
  have leftGraph := Store.graph_same leftSame
  have depths : (stepped config other dataAttribute right).activity.depth ≤
      (stepped config object dataAttribute left).activity.depth := by
    rw [stepped_activity, stepped_activity, ready.idle, readyRight.idle]
  have unmarked (marked : ObjectId) :
      ¬(stepped config other dataAttribute right).Marked marked := by
    unfold Store.Marked
    rw [stepped_activity, readyRight.idle]
    exact List.not_mem_nil
  have back := matches_extended [target] (extends_same leftSame.symm)
  have forth := matches_extended [target] (extends_same rightSame)
  have here := List.mem_singleton_self target
  have inside := ready.sound.closed (demands_of_holds holds here)
  obtain ⟨last, again⟩ := chain_elsewhere (sound_same ready.sound leftSame)
    (sound_same readyRight.sound rightSame) (contains_grows inside (store_grows_same leftSame)) rest
    (fun marked known => absurd known (unmarked marked)) (.inl depths)
    (matches_trans back (matches_trans matched forth)) [other]
    (List.forall_mem_singleton.mpr (leftGraph ▸ apart target here))
  have chain : Runs config (.chain config.limit [] other (.ok value)) right last :=
    limit ▸ .bound holdsOther List.not_mem_nil again
  exact congrArg Prod.fst (runs_performed chain)

end Elsewhere

theorem reaches_contained {store : Store} {origin object : ObjectId} (sound : store.Sound False)
    (known : store.Contains origin) (path : store.graph.Reaches origin object) :
    store.Contains object := by
  induction path with
  | refl => exact known
  | tail _ demands _ => exact sound.closed demands

section Copies

variable {config : Config} {store after : Store} {object copy : ObjectId} {content : Content}
  {found : Instance} {value : Value}

/-- What a copy with a value shares with the original does not reach the original. -/
theorem original_apart (sound : after.Sound False) (holds : after.Holds object content)
    (copied : after.Holds copy content.copy)
    (resolved : ((resolve config copy).outcome after).1 = .ok value) :
    ∀ target ∈ content.copy.node.targets, ¬after.graph.Reaches target object := by
  rcases ran : (resolve config copy).outcome after with ⟨result, last⟩
  rw [ran] at resolved
  cases resolved
  have runs := resolve_runs sound (Store.contains_of_object copied) ran
  intro target wanted path
  have demands := demands_of_holds copied wanted
  rw [node_copy] at wanted
  obtain ⟨other, further, cycle⟩ := reaches_cycle_back (demands_of_holds holds wanted) path
  exact found_reaches_no_cycle sound runs ⟨other, .head demands (path.trans further), cycle⟩

variable (ready : store.Ready config) (readyAfter : after.Ready config)
  (composed : content.object = .composed found) (holds : store.Holds object content)
  (copied : after.Holds copy content.copy) (makes : store.Makes copy after)
  (extension : store.Extends after)

include ready readyAfter composed holds copied makes extension

theorem found_in_copy (resolved : ((resolve config object).outcome store).1 = .ok value) :
    ((resolve config copy).outcome after).1 = .ok value := by
  have apart : ∀ target ∈ content.node.targets, ¬store.graph.Reaches target copy :=
    fun target wanted path =>
      makes.new
        (reaches_contained ready.sound (ready.sound.closed (demands_of_holds holds wanted)) path)
  have matched := matches_extended content.node.targets extension
  cases content with
  | leaf => cases composed
  | datum role binding =>
      exact datum_elsewhere ready readyAfter resolved holds copied matched apart
  | aggregate role items isSealed cache =>
      exact aggregate_elsewhere ready readyAfter resolved holds copied matched apart

theorem found_in_original (resolved : ((resolve config copy).outcome after).1 = .ok value) :
    ((resolve config object).outcome store).1 = .ok value := by
  have there : after.Holds object content :=
    (makes.others (Store.contains_of_object holds)).trans holds
  have apart := original_apart readyAfter.sound there copied resolved
  have known : ∀ target ∈ content.copy.node.targets, store.Contains target := by
    rw [node_copy]
    exact fun target wanted => ready.sound.closed (demands_of_holds holds wanted)
  have matched := makes_matches ready.sound makes known
  cases content with
  | leaf => cases composed
  | datum role binding =>
      exact datum_elsewhere readyAfter ready resolved copied holds matched apart
  | aggregate role items isSealed cache =>
      cases cache with
      | none =>
          exact aggregate_elsewhere readyAfter ready resolved copied holds matched apart
      | some result =>
          -- The kept result is found whatever the copy finds, and the copy finds it too.
          obtain ⟨kept, leaf, _⟩ := ready.sound.kept holds
          have room := (aggregate_resolved readyAfter.sound copied resolved).1
          have here := resolve_at_hand (.kept holds leaf) room ready.idle
          have forth :=
            found_in_copy ready readyAfter composed holds copied makes extension here
          cases forth.symm.trans resolved
          exact here

end Copies

end ObjectCalculus
