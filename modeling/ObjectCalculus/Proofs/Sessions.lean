import ObjectCalculus.Session.Run
import ObjectCalculus.Proofs.Labels
import ObjectCalculus.Proofs.Monotony

/-!
# Honest sessions

A session refers to objects by the names that it has given them, and to no others. So all its
programs are honest, and every session only comes to stores that come about honestly, whatever
its steps are.
-/

set_option autoImplicit false

namespace ObjectCalculus

open Effect Evaluation

variable {α β γ : Type} {held : ObjectId → Prop}

def Coercion.objects (coercion : Coercion) : List ObjectId :=
  coercion.raw.items ++ coercion.object.content.toList

theorem honest_of_datum (builtin : Builtin) (value : Value) :
    (Raw.ofDatum builtin value).Honest (fun object => [object]) held := by
  apply honest_bind (honest_instantiate (.builtin builtin))
  intro object later grows made
  apply honest_bind (honest_leaf value)
  intro datum more wider placed
  have known : more object := wider object (List.forall_mem_singleton.mp made)
  have bound := honest_bind_to known (List.forall_mem_singleton.mp placed) dataAttribute
  apply honest_bind bound
  intro _ last widest _
  have there : ∀ other ∈ [object], last other :=
    List.forall_mem_singleton.mpr (widest object known)
  have reported : (Program.ask (.report object .coerced)).Honest (fun _ => []) last :=
    honest_ask there
  apply honest_bind reported
  intro _ _ final _
  exact honest_pure fun other member => final other (there other member)

theorem honest_coerce (raw : Raw) (known : ∀ item ∈ raw.items, held item) :
    raw.coerce.Honest (fun object => [object]) held := by
  cases raw with
  | scalar value =>
      rw [Raw.coerce]
      split
      · exact honest_of_datum _ value
      · trivial
  | objects items =>
      rw [Raw.coerce]
      apply honest_bind (honest_instantiate_with (.builtin .array) elementAttribute known)
      intro object later grows made
      have reported : (Program.ask (.report object (.coercedArray items.length))).Honest
          (fun _ => []) later := honest_ask made
      apply honest_bind reported
      intro _ _ wider _
      exact honest_pure fun other member => wider other (made other member)
  | unsupported typeName => trivial

namespace Session

theorem honest_bind_leaves {object : ObjectId} (known : held object) (name : String)
    (values : List Value) : (bindLeaves object name values).Honest (fun _ => []) held := by
  induction values generalizing held with
  | nil => exact honest_done ()
  | cons value rest ih =>
      apply honest_bind (honest_leaf value)
      intro leaf later grows made
      have there := List.forall_mem_singleton.mp made
      apply honest_bind (honest_bind_to (grows object known) there name)
      intro _ more wider _
      exact ih (wider object (grows object known))

theorem honest_nest (template name : String) (extra : List Value) (times : Nat)
    {object : ObjectId} (known : held object) :
    (nest template name extra times object).Honest (fun made => [made]) held := by
  induction times generalizing object held with
  | zero => exact honest_pure (List.forall_mem_singleton.mpr known)
  | succ times ih =>
      apply honest_bind (honest_instantiate (.named template))
      intro outer later grows made
      have there := List.forall_mem_singleton.mp made
      apply honest_bind (honest_bind_to there (grows object known) name)
      intro _ more wider _
      apply honest_bind (honest_bind_leaves (wider outer there) name extra)
      intro _ last widest _
      exact ih (widest outer (wider outer there))

end Session

theorem honest_declared (declared : Session.Declared) : declared.spec.Honest held := by
  cases declared with
  | free | variadic => trivial
  | composite rule cached => exact fun owner => Expression.honest_rule rule (.inl rfl)

/-- All that has a name in the session is there. -/
structure Session.Honest (session : Session) : Prop where
  unforged : session.store.Unforged
  objects : ∀ entry ∈ session.objects, session.store.Contains entry.2
  coercions : ∀ entry ∈ session.coercions, ∀ object ∈ entry.2.objects,
    session.store.Contains object

namespace Session

/-- What a turn that begins in one session and ends in another has done. -/
structure Kept (hands : α → List ObjectId) (before after : Session) (value : α) : Prop where
  honest : after.Honest
  grows : before.store.Grows after.store
  handed : ∀ object ∈ hands value, after.store.Contains object

/-- If the turn does not end the session, then it leaves an honest one. -/
def Keeps (hands : α → List ObjectId) (turn : Turn α) (before : Session) : Prop :=
  ∀ value after, turn.run before = .ok (value, after) → Kept hands before after value

def answered {ε : Type} (hands : α → List ObjectId) : Except ε α → List ObjectId
  | .ok value => hands value
  | .error _ => []

section Turns

variable {hands : α → List ObjectId} {more : β → List ObjectId} {before after : Session}

theorem honest_store {store : Store} (honest : before.Honest)
    (grows : before.store.Grows store) (unforged : store.Unforged) :
    Session.Honest { before with store := store } where
  unforged := unforged
  objects entry member := contains_grows (honest.objects entry member) grows
  coercions entry member object held :=
    contains_grows (honest.coercions entry member object held) grows

theorem keeps_pure {value : α} (honest : before.Honest)
    (known : ∀ object ∈ hands value, before.store.Contains object) :
    Keeps hands (pure value) before := by
  rintro _ _ ⟨⟩
  exact ⟨honest, store_grows_refl _, known⟩

theorem keeps_done (honest : before.Honest) (value : α) :
    Keeps (fun _ => []) (pure value) before :=
  keeps_pure honest (List.forall_mem_nil _)

theorem keeps_failed {ε : Type} (honest : before.Honest) (failure : ε) :
    Keeps (answered hands) (pure (.error failure)) before :=
  keeps_pure honest (List.forall_mem_nil _)

theorem keeps_throw (failure : UnknownName) :
    Keeps hands (throw failure : Turn α) before :=
  nofun

theorem keeps_read {next : Session → Turn α} (kept : Keeps hands (next before) before) :
    Keeps hands (get >>= next) before :=
  kept

theorem keeps_modify_get {change : Session → α × Session}
    (kept : Kept hands before (change before).2 (change before).1) :
    Keeps hands (modifyGet change : Turn α) before := by
  intro value after ran
  have same : change before = (value, after) := Except.ok.inj ran
  rwa [same] at kept

theorem keeps_bind {turn : Turn α} {next : α → Turn β} (first : Keeps hands turn before)
    (rest : ∀ value middle, middle.Honest → before.store.Grows middle.store →
      (∀ object ∈ hands value, middle.store.Contains object) → Keeps more (next value) middle) :
    Keeps more (turn >>= next) before := by
  intro result final ran
  rw [StateT.run_bind] at ran
  rcases turned : turn.run before with failure | ⟨value, middle⟩
  · rw [turned] at ran
    cases ran
  rw [turned] at ran
  obtain ⟨honest, grows, handed⟩ := first value middle turned
  obtain ⟨last, growth, given⟩ := rest value middle honest grows handed result final ran
  exact ⟨last, store_grows_trans grows growth, given⟩

theorem keeps_all {step : γ → Turn α} (items : List γ) (honest : before.Honest)
    (kept : ∀ item session, session.Honest → Keeps hands (step item) session) :
    Keeps (List.flatMap hands) (items.mapM step) before := by
  induction items generalizing before with
  | nil => exact keeps_pure honest nofun
  | cons item rest ih =>
      rw [List.mapM_cons]
      apply keeps_bind (kept item before honest)
      intro first middle honest _ here
      apply keeps_bind (ih honest)
      intro others final honest grows there
      apply keeps_pure honest
      intro object member
      rcases List.mem_append.mp member with old | new
      · exact contains_grows (here object old) grows
      · exact there object new

end Turns

section Names

variable {before : Session}

theorem keeps_object (honest : before.Honest) (name : String) :
    Keeps (fun object => [object]) (object name) before := by
  apply keeps_read
  cases found : before.objects.lookup name with
  | none => exact keeps_throw _
  | some object =>
      refine keeps_pure honest (List.forall_mem_singleton.mpr ?_)
      exact honest.objects _ (entry_of_lookup found)

theorem keeps_definition (honest : before.Honest) (name : String) :
    Keeps (fun _ => []) (definition name) before := by
  apply keeps_read
  cases before.store.definition? name with
  | none => exact keeps_throw _
  | some definition => exact keeps_done honest definition

theorem keeps_coercion (honest : before.Honest) (name : String) :
    Keeps Coercion.objects (coercion name) before := by
  apply keeps_read
  cases found : before.coercions.lookup name with
  | none => exact keeps_throw _
  | some coercion => exact keeps_pure honest (honest.coercions _ (entry_of_lookup found))

theorem keeps_name_object {object : ObjectId} (honest : before.Honest) (name : String)
    (there : before.store.Contains object) :
    Keeps (fun _ => []) (nameObject name object) before := by
  refine keeps_modify_get ⟨?_, store_grows_refl _, nofun⟩
  exact ⟨honest.unforged, List.forall_mem_cons.mpr ⟨there, honest.objects⟩, honest.coercions⟩

theorem keeps_name_coercion {coercion : Coercion} (honest : before.Honest) (name : String)
    (there : ∀ object ∈ coercion.objects, before.store.Contains object) :
    Keeps (fun _ => []) (nameCoercion name coercion) before := by
  refine keeps_modify_get ⟨?_, store_grows_refl _, nofun⟩
  exact ⟨honest.unforged, honest.objects, List.forall_mem_cons.mpr ⟨there, honest.coercions⟩⟩

end Names

section Work

variable {hands : α → List ObjectId} {before : Session}

theorem keeps_on_store {change : Store → α × Store} (honest : before.Honest)
    (grows : before.store.Grows (change before.store).2)
    (unforged : (change before.store).2.Unforged)
    (handed : ∀ object ∈ hands (change before.store).1,
      (change before.store).2.Contains object) : Keeps hands (onStore change) before :=
  keeps_modify_get ⟨honest_store honest grows unforged, grows, handed⟩

theorem keeps_perform {effect : Effect α} (honest : before.Honest) (task : Task)
    (given : task.Honest before.store.Contains)
    (after : task.after before.store = effect.after before.store)
    (handed : ∀ value, (effect.outcome before.store).1 = .ok value →
      ∀ object ∈ hands value, (effect.after before.store).Contains object) :
    Keeps (answered hands) (perform effect) before := by
  have passes := Passes.finish task [] before.store
  have unforged : (effect.after before.store).Unforged := by
    rw [← after]
    exact .passed honest.unforged given passes
  have grows : before.store.Grows (effect.after before.store) := by
    rw [← after]
    exact passes_grow passes
  refine keeps_modify_get ⟨honest_store honest grows unforged, grows, fun object member => ?_⟩
  change object ∈ answered hands (effect.outcome before.store).1 at member
  cases result : (effect.outcome before.store).1 with
  | error failure =>
      rw [result] at member
      cases member
  | ok value =>
      rw [result] at member
      exact handed value result object member

theorem keeps_execute {program : Program α} (honest : before.Honest)
    (given : program.Honest hands before.store.Contains) :
    Keeps (answered hands) (execute program) before := by
  apply keeps_read
  apply keeps_perform honest (.program before.config program) (honest_quiet given) rfl
  intro value result
  exact (safe_run safe_attribute_of before.config given (unforged_closed honest.unforged)).handed
    result

/-- One call from outside is a program of its own. -/
theorem unforged_call {store : Store} (unforged : store.Unforged) (request : Call)
    (uses : ∀ object ∈ request.uses, store.Contains object) :
    ((Evaluation.perform attributeOf .default request).after store).Unforged := by
  let task : Task := .program .default (Program.ask request)
  have honest : task.Honest store.Contains := honest_quiet (honest_ask uses)
  have after : task.after store = (Evaluation.perform attributeOf .default request).after store :=
    congrArg Prod.snd (run_ask attributeOf .default request store)
  rw [← after]
  exact .passed unforged honest (.finish task [] store)

theorem keeps_call {change : Store → α × Store} (honest : before.Honest) (request : Call)
    (uses : ∀ object ∈ request.uses, before.store.Contains object)
    (after : (change before.store).2 =
      (Evaluation.perform attributeOf .default request).after before.store)
    (handed : ∀ object ∈ hands (change before.store).1,
      (change before.store).2.Contains object) : Keeps hands (onStore change) before := by
  refine keeps_on_store honest ?_ ?_ handed
  · rw [after]
    exact perform_grows .default request before.store
  · rw [after]
    exact unforged_call honest.unforged request uses

end Work

theorem contains_both {store later : Store} {object value : ObjectId}
    (known : ∀ other ∈ [object], later.Contains other) (grows : store.Grows later)
    (there : ∀ other ∈ [value], store.Contains other) :
    ∀ other ∈ [object, value], later.Contains other := by
  refine List.forall_mem_cons.mpr ⟨List.forall_mem_singleton.mp known, ?_⟩
  exact fun other member => contains_grows (there other member) grows

section Making

variable {before : Session}

theorem keeps_operand (operand : Operand) (honest : before.Honest) :
    Keeps (fun object => [object]) (Session.operand operand) before := by
  cases operand with
  | named name => exact keeps_object honest name
  | value value =>
      change Keeps _ (onStore fun store => store.addLeaf (.fixed value)) before
      refine keeps_call honest (.leaf value) nofun rfl ?_
      exact List.forall_mem_singleton.mpr (contains_added _ _)

theorem keeps_operands (operands : List Operand) (honest : before.Honest) :
    Keeps id (operands.mapM operand) before := by
  have kept := keeps_all operands honest fun operand _ => keeps_operand operand
  intro values after ran
  obtain ⟨honest, grows, handed⟩ := kept values after ran
  rw [List.flatMap_singleton'] at handed
  exact ⟨honest, grows, handed⟩

theorem keeps_raw (source : RawSource) (honest : before.Honest) :
    Keeps Raw.items (raw source) before := by
  cases source with
  | scalar value => exact keeps_pure honest nofun
  | objects items =>
      apply keeps_bind (keeps_operands items honest)
      intro values _ honest _ known
      exact keeps_pure honest known
  | unsupported typeName => exact keeps_pure honest nofun

theorem keeps_force (honest : before.Honest) (name : String) :
    Keeps (answered fun object => [object]) (force name) before := by
  apply keeps_bind (keeps_coercion honest name)
  intro coercion middle honest _ known
  obtain ⟨items, kept⟩ := List.forall_mem_append.mp known
  cases content : coercion.object.content with
  | some object =>
      refine keeps_pure honest (List.forall_mem_singleton.mpr (kept object ?_))
      simp [content]
  | none =>
      have executed := keeps_execute honest (honest_coerce coercion.raw items)
      apply keeps_bind executed
      intro result last honest grows made
      cases result with
      | error failure => exact keeps_failed honest failure
      | ok object =>
          let filled : Coercion := { coercion with object := .filled object }
          have there : ∀ other ∈ filled.objects, last.store.Contains other :=
            List.forall_mem_append.mpr
              ⟨fun item member => contains_grows (items item member) grows, made⟩
          apply keeps_bind (keeps_name_coercion honest name there)
          intro _ final honest grows _
          exact keeps_pure honest fun other member => contains_grows (made other member) grows

theorem answered_map_error {ε δ : Type} (hands : α → List ObjectId) (change : ε → δ)
    (result : Except ε α) : answered hands (result.mapError change) = answered hands result := by
  cases result <;> rfl

theorem keeps_build {program : Program ObjectId} (honest : before.Honest)
    (given : program.Honest (fun object => [object]) before.store.Contains) :
    Keeps (answered fun object => [object]) (build program) before := by
  apply keeps_bind (keeps_execute honest given)
  intro result middle honest _ made
  apply keeps_pure honest
  rwa [answered_map_error]

theorem keeps_evaluated {turn : Turn (Except DataError ObjectId)}
    (kept : Keeps (answered fun object => [object]) turn before) :
    Keeps (answered fun object => [object]) (do pure (evaluated (← turn))) before := by
  apply keeps_bind kept
  intro result middle honest _ made
  apply keeps_pure honest
  rwa [evaluated, answered_map_error]

theorem keeps_make (making : Making) (honest : before.Honest) :
    Keeps (answered fun object => [object]) (make making) before := by
  cases making with
  | new template =>
      apply keeps_bind (keeps_definition honest template)
      intro _ _ honest _ _
      exact keeps_build honest (honest_instantiate (.named template))
  | leaf value => exact keeps_build honest (honest_leaf value)
  | deferred data => exact keeps_build honest (honest_ask (List.forall_mem_nil _))
  | copy name =>
      apply keeps_bind (keeps_object honest name)
      intro object _ honest _ known
      exact keeps_build honest (honest_ask known)
  | extend receiver name value =>
      apply keeps_bind (keeps_operand value honest)
      intro bound _ honest _ there
      apply keeps_bind (keeps_object honest receiver)
      intro object _ honest grows known
      exact keeps_build honest (honest_ask (contains_both known grows there))
  | apply template operands =>
      apply keeps_bind (keeps_definition honest template)
      intro _ _ honest _ _
      apply keeps_bind (keeps_operands operands honest)
      intro values _ honest _ known
      exact keeps_build honest (honest_instantiate_with _ _ known)
  | array items =>
      apply keeps_bind (keeps_operands items honest)
      intro values _ honest _ known
      exact keeps_build honest (honest_instantiate_with _ _ known)
  | nest inner template name times extra =>
      apply keeps_bind (keeps_definition honest template)
      intro _ _ honest _ _
      apply keeps_bind (keeps_object honest inner)
      intro object _ honest _ known
      exact keeps_build honest
        (honest_nest template name extra times (List.forall_mem_singleton.mp known))
  | coerce source =>
      apply keeps_bind (keeps_raw source honest)
      intro raw _ honest _ known
      exact keeps_evaluated (keeps_execute honest (honest_coerce raw known))
  | coerced name => exact keeps_evaluated (keeps_force honest name)
  | attributeOf owner name =>
      apply keeps_bind (keeps_object honest owner)
      intro object _ honest _ known
      exact keeps_evaluated (keeps_execute honest (honest_ask known))

end Making

section Steps

variable {before : Session}

theorem keeps_bind_answer {change : Store → Except BindError Store} (honest : before.Honest)
    (request : Call) (uses : ∀ object ∈ request.uses, before.store.Contains object)
    (after : (Store.tryBind change before.store).2 =
      (Evaluation.perform attributeOf .default request).after before.store) :
    Keeps (fun _ => []) (bindAnswer change) before := by
  refine keeps_call honest request uses ?_ nofun
  rw [← after]
  rcases Store.tryBind change before.store with ⟨_ | _, _⟩ <;> rfl

theorem keeps_declare {template : Template} (honest : before.Honest) (target : String)
    (stated : template.Honest before.store.Contains) :
    Keeps (fun _ => []) (modify fun session : Session =>
      { session with store := session.store.declare target template }) before := by
  have grows : before.store.Grows (before.store.declare target template) := store_grows_same rfl
  refine keeps_modify_get ⟨?_, grows, nofun⟩
  exact honest_store honest grows (.declared honest.unforged target stated)

theorem keeps_answer {hands : α → List ObjectId} {turn : Turn α} {tell : α → Answer}
    (kept : Keeps hands turn before) : Keeps (fun _ => []) (do pure (tell (← turn))) before :=
  keeps_bind kept fun _ _ honest _ _ => keeps_done honest _

theorem keeps_evaluation {effect : Effect α} {tell : Except DataError α → Answer}
    (honest : before.Honest) (task : Task) (given : task.Honest before.store.Contains)
    (after : task.after before.store = effect.after before.store) :
    Keeps (fun _ => []) (do pure (tell (← perform effect))) before := by
  have performed : Keeps (answered fun _ => []) (perform effect) before :=
    keeps_perform honest task given after fun _ _ => nofun
  exact keeps_answer performed

theorem keeps_view {change : Store → α × Store} {tell : α → Answer} (honest : before.Honest)
    (request : Call) (uses : ∀ object ∈ request.uses, before.store.Contains object)
    (after : (change before.store).2 =
      (Evaluation.perform attributeOf .default request).after before.store) :
    Keeps (fun _ => []) (do pure (tell (← onStore change))) before := by
  have viewed : Keeps (fun _ => []) (onStore change) before :=
    keeps_call honest request uses after nofun
  exact keeps_answer viewed

theorem keeps_step (step : Step) (honest : before.Honest) :
    Keeps (fun _ => []) (Session.step step) before := by
  cases step with
  | make target making =>
      apply keeps_bind (keeps_make making honest)
      intro result middle honest _ made
      cases result with
      | error fault => exact keeps_done honest _
      | ok object =>
          have there := List.forall_mem_singleton.mp made
          apply keeps_bind (keeps_name_object honest target there)
          intro _ _ honest _ _
          exact keeps_read (keeps_done honest _)
  | declare target name attributes =>
      have stated : ∀ entry ∈ attributes.map fun entry => (entry.1, entry.2.spec),
          entry.2.Honest before.store.Contains := by
        intro entry member
        obtain ⟨declared, _, rfl⟩ := List.mem_map.mp member
        exact honest_declared declared.2
      have declared := keeps_declare honest target (honest_of_declarations name stated)
      exact keeps_answer declared
  | spec template name =>
      exact keeps_answer (keeps_definition honest template)
  | coerce target source =>
      apply keeps_bind (keeps_raw source honest)
      intro raw _ honest _ known
      have there : ∀ object ∈ (Coercion.ofRaw raw).objects, _ :=
        List.forall_mem_append.mpr ⟨known, nofun⟩
      apply keeps_bind (keeps_name_coercion honest target there)
      intro _ _ honest _ _
      exact keeps_done honest _
  | showCoercion name =>
      apply keeps_bind (keeps_force honest name)
      intro result _ honest _ made
      cases result with
      | error failure => exact keeps_done honest _
      | ok object =>
          exact keeps_view honest (.display object) made rfl
  | bind target name value =>
      apply keeps_bind (keeps_operand value honest)
      intro bound _ honest _ there
      apply keeps_bind (keeps_object honest target)
      intro object _ honest grows known
      have both := contains_both known grows there
      exact keeps_bind_answer honest (.bind object name bound) both rfl
  | bindAt target name index value =>
      apply keeps_bind (keeps_operand value honest)
      intro bound _ honest _ there
      apply keeps_bind (keeps_object honest target)
      intro object _ honest grows known
      have both := contains_both known grows there
      exact keeps_bind_answer honest (.bindAt object name index bound) both rfl
  | sequence target name =>
      apply keeps_bind (keeps_object honest target)
      intro object _ honest _ known
      have read := keeps_execute honest (honest_sequence (List.forall_mem_singleton.mp known) name)
      apply keeps_bind read
      intro result _ honest _ _
      cases result with
      | error failure => exact keeps_done honest _
      | ok items => exact keeps_read (keeps_done honest _)
  | dataize target expected route =>
      apply keeps_bind (keeps_object honest target)
      intro object middle honest _ _
      apply keeps_read
      let task : Task := .dataize (route.config middle.config) object expected
      exact keeps_evaluation honest task trivial rfl
  | resolve target =>
      apply keeps_bind (keeps_object honest target)
      intro object middle honest _ _
      apply keeps_read
      exact keeps_evaluation honest (.resolve middle.config object) trivial rfl
  | datum target =>
      apply keeps_bind (keeps_object honest target)
      intro object _ honest _ known
      exact keeps_view honest (.datum object) known rfl
  | display target =>
      apply keeps_bind (keeps_object honest target)
      intro object _ honest _ known
      exact keeps_view honest (.display object) known rfl
  | outline target spread =>
      apply keeps_bind (keeps_object honest target)
      intro object middle honest _ _
      have shown : Keeps (fun _ => []) (onStore fun store => store.outline object) middle :=
        keeps_on_store honest (outline_grows _ object) (.outlined honest.unforged object) nofun
      exact keeps_answer shown
  | inspect target =>
      apply keeps_bind (keeps_object honest target)
      intro _ _ honest _ _
      exact keeps_read (keeps_done honest _)
  | kindOf target name =>
      apply keeps_bind (keeps_object honest target)
      intro _ _ honest _ _
      exact keeps_read (keeps_done honest _)
  | same target other =>
      apply keeps_bind (keeps_object honest target)
      intro _ _ honest _ _
      apply keeps_bind (keeps_object honest other)
      intro _ _ honest _ _
      exact keeps_read (keeps_done honest _)
  | runs target =>
      apply keeps_bind (keeps_object honest target)
      intro object middle honest _ _
      apply keeps_read
      cases middle.store.leaf? object with
      | some leaf => exact keeps_done honest _
      | none => exact keeps_done honest _
  | depth | counters | config => exact keeps_read (keeps_done honest _)

end Steps

theorem honest_start (config : Config) : (start config).Honest where
  unforged := .empty
  objects := nofun
  coercions := nofun

/-- Whatever its steps are, a session has only names for objects that exist, and its store has
come about honestly. -/
theorem sessions_are_honest (config : Config) (steps : List Step) {answers : List Answer}
    {session : Session} (ran : (steps.mapM step).run (start config) = .ok (answers, session)) :
    session.Honest :=
  (keeps_all steps (honest_start config) (fun step _ => keeps_step step) answers session ran).honest

end Session

end ObjectCalculus
