import ObjectCalculus.Expression
import ObjectCalculus.Proofs.Gathering

/-!
# Honest programs

A program comes by an object in two ways: it is in hand from the start, or a call hands it over.
An honest program refers to no other objects, so it cannot make up one that does not exist. The
rules of built-in templates are honest, and so is every rule that an expression describes.
-/

set_option autoImplicit false

namespace ObjectCalculus

variable {α β γ : Type}

namespace Call

def uses : Call → List ObjectId
  | .attributeOf _ object _ => [object]
  | .resolve _ object => [object]
  | .sequence object _ => [object]
  | .copy object => [object]
  | .extend object _ value => [object, value]
  | .bind object _ value => [object, value]
  | .bindAt object _ _ value => [object, value]
  | .datum object => [object]
  | .display object => [object]
  | .report object _ => [object]
  | _ => []

/-- The objects that a call hands over. -/
def hands : (request : Call) → request.Answer → List ObjectId
  | .attributeOf .., object => [object]
  | .sequence .., items => items
  | .instantiate _, object => [object]
  | .leaf _, object => [object]
  | .deferredLeaf _, object => [object]
  | .copy _, object => [object]
  | .extend .., object => [object]
  | _, _ => []

end Call

/-- All objects that the program refers to are in hand when it does so, those in its result
included. -/
def Program.Honest (result : α → List ObjectId) : (ObjectId → Prop) → Program α → Prop
  | held, .done (.ok value) => ∀ object ∈ result value, held object
  | _, .done (.error _) => True
  | held, .call request next =>
      (∀ object ∈ request.uses, held object) ∧
        (∀ failure, (next (.error failure)).Honest result held) ∧
          ∀ answer, (next (.ok answer)).Honest result fun object =>
            held object ∨ object ∈ request.hands answer

section Programs

variable {result : α → List ObjectId} {other : β → List ObjectId} {held more : ObjectId → Prop}

theorem honest_more {program : Program α} (honest : program.Honest result held)
    (grows : ∀ object, held object → more object) : program.Honest result more := by
  induction program generalizing held more with
  | done ending =>
      cases ending with
      | ok value => exact fun object member => grows object (honest object member)
      | error failure => trivial
  | call request next ih =>
      obtain ⟨uses, failed, answered⟩ := honest
      refine ⟨fun object member => grows object (uses object member),
        fun failure => ih _ (failed failure) grows, fun answer => ih _ (answered answer) ?_⟩
      exact fun object => Or.imp_left (grows object)

theorem honest_quiet {program : Program α} (honest : program.Honest result held) :
    program.Honest (fun _ => []) held := by
  induction program generalizing held with
  | done ending =>
      cases ending with
      | ok value => exact nofun
      | error failure => trivial
  | call request next ih =>
      obtain ⟨uses, failed, answered⟩ := honest
      exact ⟨uses, fun failure => ih _ (failed failure), fun answer => ih _ (answered answer)⟩

theorem honest_pure {value : α} (known : ∀ object ∈ result value, held object) :
    (pure value : Program α).Honest result held :=
  known

theorem honest_done (value : α) : (pure value : Program α).Honest (fun _ => []) held :=
  List.forall_mem_nil held

theorem honest_ask {request : Call} (uses : ∀ object ∈ request.uses, held object) :
    (Program.ask request).Honest request.hands held :=
  ⟨uses, fun _ => trivial, fun _ _ member => .inr member⟩

/-- What comes after may refer to what the first program found. -/
theorem honest_bind {program : Program α} {next : α → Program β}
    (first : program.Honest result held)
    (rest : ∀ value (later : ObjectId → Prop), (∀ object, held object → later object) →
      (∀ object ∈ result value, later object) → (next value).Honest other later) :
    (program >>= next).Honest other held := by
  change (program.bind next).Honest other held
  induction program generalizing held with
  | done ending =>
      cases ending with
      | ok value => exact rest value held (fun _ known => known) first
      | error failure => trivial
  | call request after ih =>
      obtain ⟨uses, failed, answered⟩ := first
      refine ⟨uses, fun failure => ih _ (failed failure) rest, fun answer => ?_⟩
      apply ih _ (answered answer)
      intro value later grows found
      exact rest value later (fun object known => grows object (.inl known)) found

theorem honest_or_else {program : Program α} {alternative : DataError → Program α}
    (first : program.Honest result held)
    (second : ∀ failure, (alternative failure).Honest result held) :
    (program.orElse alternative).Honest result held := by
  induction program generalizing held with
  | done ending =>
      cases ending with
      | ok value => exact first
      | error failure => exact second failure
  | call request after ih =>
      obtain ⟨uses, failed, answered⟩ := first
      refine ⟨uses, fun failure => ih _ (failed failure) second, fun answer => ?_⟩
      exact ih _ (answered answer) fun failure => honest_more (second failure) fun _ => .inl

theorem honest_each {step : γ → Program α} {items : List γ}
    (honest : ∀ item ∈ items, ∀ later : ObjectId → Prop, (∀ object, held object → later object) →
      (step item).Honest (fun _ => []) later) :
    (Program.each step items).Honest (fun _ => []) held := by
  induction items generalizing held with
  | nil => exact honest_done []
  | cons item rest ih =>
      apply honest_bind (honest item List.mem_cons_self held fun _ known => known)
      intro first later grows _
      have others : (Program.each step rest).Honest (fun _ => []) later := by
        apply ih
        intro other member more wider
        exact honest other (List.mem_cons_of_mem item member) more fun object known =>
          wider object (grows object known)
      exact honest_bind others fun _ _ _ _ => honest_done _

end Programs

/-- The owner is in hand, and whatever the rule has been made with. -/
def Rule.Honest (held : ObjectId → Prop) (rule : Rule) : Prop :=
  ∀ owner, (rule owner).Honest (fun object => [object]) fun object => object = owner ∨ held object

def Spec.Honest (held : ObjectId → Prop) : Spec → Prop
  | .composite rule _ => Rule.Honest held rule
  | _ => True

def Template.Honest (held : ObjectId → Prop) (template : Template) : Prop :=
  ∀ entry ∈ template.attributes, entry.2.Honest held

section Rules

variable {held more : ObjectId → Prop}

theorem honest_rule_more {rule : Rule} (honest : Rule.Honest held rule)
    (grows : ∀ object, held object → more object) : Rule.Honest more rule :=
  fun owner => honest_more (honest owner) fun object => Or.imp_right (grows object)

theorem honest_template_more {template : Template} (honest : template.Honest held)
    (grows : ∀ object, held object → more object) : template.Honest more := by
  intro entry member
  have stated := honest entry member
  cases spec : entry.2 with
  | free | variadic => trivial
  | composite rule cached =>
      rw [spec] at stated
      exact honest_rule_more stated grows

theorem honest_declare {template : Template} {spec : Spec} (honest : template.Honest held)
    (name : String) (stated : spec.Honest held) : (template.declare name spec).Honest held := by
  obtain ⟨title, attributes⟩ := template
  change ∀ entry ∈ Template.declareIn name spec attributes, entry.2.Honest held
  induction attributes with
  | nil => exact List.forall_mem_singleton.mpr stated
  | cons entry rest ih =>
      obtain ⟨here, others⟩ := List.forall_mem_cons.mp honest
      unfold Template.declareIn
      split
      · exact List.forall_mem_cons.mpr ⟨stated, others⟩
      · exact List.forall_mem_cons.mpr ⟨here, ih others⟩

theorem honest_of_declarations (title : String) {entries : List (String × Spec)}
    (stated : ∀ entry ∈ entries, entry.2.Honest held) :
    (Template.ofDeclarations title entries).Honest held := by
  suffices started : ∀ template : Template, template.Honest held →
      (entries.foldl (fun template entry => template.declare entry.1 entry.2) template).Honest
        held from started (.new title) nofun
  induction entries with
  | nil => exact fun _ honest => honest
  | cons entry rest ih =>
      obtain ⟨here, others⟩ := List.forall_mem_cons.mp stated
      exact fun template honest => ih others _ (honest_declare honest entry.1 here)

theorem honest_resolve {object : ObjectId} (known : held object) :
    (Program.resolve object).Honest (fun _ => []) held :=
  honest_ask (List.forall_mem_singleton.mpr known)

theorem honest_check (expected : Kind) (value : Value) :
    (Program.checkKind expected value).Honest (fun _ => []) held := by
  unfold Program.checkKind
  split
  · exact honest_done value
  · trivial

theorem honest_dataize {object : ObjectId} (known : held object) (expected : Kind) :
    (Program.dataize object expected).Honest (fun _ => []) held :=
  honest_bind (honest_resolve known) fun value _ _ _ => honest_check expected value

theorem honest_leaf (value : Value) :
    (Program.leaf value).Honest (fun object => [object]) held :=
  honest_ask (List.forall_mem_nil held)

theorem honest_instantiate (template : TemplateRef) :
    (Program.instantiate template).Honest (fun object => [object]) held :=
  honest_ask (List.forall_mem_nil held)

theorem honest_sequence {owner : ObjectId} (known : held owner) (name : String) :
    (Program.sequence owner name).Honest id held :=
  honest_ask (List.forall_mem_singleton.mpr known)

theorem honest_item (form : Aggregate) {item : ObjectId} (known : held item) :
    (form.item item).Honest (fun _ => []) held := by
  cases form with
  | array => exact honest_resolve known
  | operator fold => exact honest_dataize known fold.kind

theorem honest_conclude (form : Aggregate) {owner : ObjectId} (known : held owner) (count : Nat)
    (values : List Value) :
    (form.conclude owner count values).Honest (fun object => [object]) held := by
  unfold Aggregate.conclude
  split
  · trivial
  · have reported : (form.report owner count).Honest (fun _ => []) held := by
      cases form with
      | array => exact honest_done ()
      | operator fold =>
          exact honest_ask (List.forall_mem_singleton.mpr known)
    exact honest_bind reported fun _ _ _ _ => honest_leaf _

theorem honest_aggregate (form : Aggregate) {owner : ObjectId} (known : held owner) :
    (form.rule owner).Honest (fun object => [object]) held := by
  rw [rule_eq_gather]
  apply honest_bind (honest_sequence known form.parameter)
  intro items later grows found
  have resolved : (Program.each form.item items).Honest (fun _ => []) later := by
    apply honest_each
    intro item member more wider
    exact honest_item form (wider item (found item member))
  apply honest_bind resolved
  intro values more wider _
  exact honest_conclude form (wider owner (grows owner known)) items.length values

theorem honest_builtin (held : ObjectId → Prop) (builtin : Builtin) :
    builtin.template.Honest held := by
  intro entry member
  cases role : builtin.role with
  | datum =>
      rw [template_of_datum role] at member
      cases List.mem_singleton.mp member
      trivial
  | aggregate form =>
      rw [template_of_aggregate role] at member
      rcases List.mem_cons.mp member with rfl | member
      · trivial
      · cases List.mem_singleton.mp member
        exact fun owner => honest_aggregate form (.inl rfl)

theorem honest_bind_to {object value : ObjectId} (known : held object) (there : held value)
    (name : String) : (Program.bindTo object name value).Honest (fun _ => []) held :=
  honest_ask (List.forall_mem_cons.mpr ⟨known, List.forall_mem_singleton.mpr there⟩)

theorem honest_bind_all {object : ObjectId} {values : List ObjectId} (known : held object)
    (there : ∀ value ∈ values, held value) (name : String) :
    (Program.bindAll object name values).Honest (fun _ => []) held := by
  induction values generalizing held with
  | nil => exact honest_done ()
  | cons value rest ih =>
      obtain ⟨here, others⟩ := List.forall_mem_cons.mp there
      apply honest_bind (honest_bind_to known here name)
      intro _ later grows _
      exact ih (grows object known) fun other member => grows other (others other member)

theorem honest_instantiate_with {values : List ObjectId} (template : TemplateRef) (name : String)
    (there : ∀ value ∈ values, held value) :
    (Program.instantiateWith template name values).Honest (fun object => [object]) held := by
  apply honest_bind (honest_instantiate template)
  intro object later grows found
  have made := List.forall_mem_singleton.mp found
  have bound := honest_bind_all made (fun value member => grows value (there value member)) name
  apply honest_bind bound
  intro _ more wider _
  exact honest_pure (List.forall_mem_singleton.mpr (wider object made))

end Rules

namespace Expression

open Program

variable {owner : ObjectId}

mutual

theorem honest_rule {held : ObjectId → Prop} : (expression : Expression) → held owner →
    (expression.rule owner).Honest (fun object => [object]) held
  | .own name, given => by
      rw [rule]
      exact honest_ask (List.forall_mem_singleton.mpr given)
  | .self, given => by
      rw [rule]
      exact honest_pure (List.forall_mem_singleton.mpr given)
  | .constant value, _ => by
      rw [rule]
      exact honest_leaf value
  | .depth, _ => by
      rw [rule]
      have asked : (ask .depth).Honest (Call.hands .depth) held := honest_ask nofun
      exact honest_bind asked fun _ _ _ _ => honest_leaf _
  | .failure cause, _ => by
      rw [rule]
      trivial
  | .resolve object, given => by
      rw [rule]
      apply honest_bind (honest_rule object given)
      intro target later _ found
      have known := List.forall_mem_singleton.mp found
      exact honest_bind (honest_resolve known) fun _ _ _ _ => honest_leaf _
  | .dataize object expected, given => by
      rw [rule]
      apply honest_bind (honest_rule object given)
      intro target later _ found
      have known := List.forall_mem_singleton.mp found
      exact honest_bind (honest_dataize known expected) fun _ _ _ _ => honest_leaf _
  | .dataizeFresh object expected, given => by
      rw [rule]
      apply honest_bind (honest_rule object given)
      intro target later _ found
      have resolved : (resolveFresh .default target).Honest (fun _ => []) later :=
        honest_ask found
      apply honest_bind resolved
      intro value _ _ _
      exact honest_bind (honest_check expected value) fun _ _ _ _ => honest_leaf _
  | .attributeOf object name, given => by
      rw [rule]
      exact honest_bind (honest_rule object given) fun target later _ found => honest_ask found
  | .apply template operands, given => by
      rw [rule]
      apply honest_bind (honest_rules operands given)
      intro values later _ found
      exact honest_instantiate_with _ _ found
  | .create template bindings, given => by
      rw [rule]
      apply honest_bind (honest_instantiate (.named template))
      intro object later grows found
      have made := found object (List.mem_singleton_self object)
      apply honest_bind (honest_bind_each bindings made (grows owner given))
      intro _ more wider _
      exact List.forall_mem_singleton.mpr (wider object made)
  | .extend object name value, given => by
      rw [rule]
      apply honest_bind (honest_rule object given)
      intro receiver later grows found
      apply honest_bind (honest_rule value (grows owner given))
      intro bound more wider other
      refine honest_ask (List.forall_mem_cons.mpr ⟨?_, other⟩)
      exact wider receiver (List.forall_mem_singleton.mp found)
  | .bind object name value, given => by
      rw [rule]
      apply honest_bind (honest_rule object given)
      intro receiver later grows found
      apply honest_bind (honest_rule value (grows owner given))
      intro bound more wider other
      have known := wider receiver (List.forall_mem_singleton.mp found)
      have there := List.forall_mem_singleton.mp other
      apply honest_bind (honest_bind_to known there name)
      intro _ last widest _
      exact honest_pure (List.forall_mem_singleton.mpr (widest receiver known))
  | .copy object, given => by
      rw [rule]
      exact honest_bind (honest_rule object given) fun target later _ found => honest_ask found
  | .gather name, given => by
      rw [rule]
      exact honest_bind (honest_sequence given name) fun items later _ found =>
        honest_instantiate_with _ _ found
  | .count name, given => by
      rw [rule]
      exact honest_bind (honest_sequence given name) fun _ _ _ _ => honest_leaf _
  | .item name index, given => by
      rw [rule]
      apply honest_bind (honest_sequence given name)
      intro items later _ found
      split
      next item held =>
        exact honest_pure (List.forall_mem_singleton.mpr (found item (List.mem_of_getElem? held)))
      next => trivial
  | .tally counter object, given => by
      rw [rule]
      have counted : (ask (.tally counter)).Honest (Call.hands (.tally counter)) held :=
        honest_ask nofun
      exact honest_bind counted fun _ later grows _ => honest_rule object (grows owner given)
  | .attempt object alternative, given => by
      rw [rule]
      exact honest_or_else (honest_rule object given) fun _ => honest_rule alternative given
  | .reduce fold, given => by
      rw [rule]
      exact honest_aggregate (.operator fold) given

theorem honest_rules {held : ObjectId → Prop} : (expressions : List Expression) → held owner →
    (rules expressions owner).Honest id held
  | [], _ => by
      rw [rules]
      exact honest_pure (List.forall_mem_nil held)
  | expression :: rest, given => by
      rw [rules]
      apply honest_bind (honest_rule expression given)
      intro first later grows found
      apply honest_bind (honest_rules rest (grows owner given))
      intro others more wider found'
      refine honest_pure (List.forall_mem_cons.mpr ⟨?_, found'⟩)
      exact wider first (List.forall_mem_singleton.mp found)

theorem honest_bind_each {held : ObjectId → Prop} {object : ObjectId} :
    (bindings : List (String × Expression)) → held object → held owner →
      (bindEach object bindings owner).Honest (fun _ => []) held
  | [], _, _ => by
      rw [bindEach]
      exact honest_done ()
  | (name, expression) :: rest, known, given => by
      rw [bindEach]
      apply honest_bind (honest_rule expression given)
      intro value later grows found
      have there := List.forall_mem_singleton.mp found
      apply honest_bind (honest_bind_to (grows object known) there name)
      intro _ more wider _
      exact honest_bind_each rest (wider object (grows object known))
        (wider owner (grows owner given))

end

end Expression

end ObjectCalculus
