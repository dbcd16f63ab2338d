import Mathlib.Data.List.Induction
import ObjectCalculus.Proofs.Domain

/-!
# Declarations in sequence

A template is put together by one declaration after another, and a name may be declared any
number of times. The names are listed in the order in which they were declared first, each once,
and each with what was declared of it last. Positions and specifications are those of that list,
and the slots of every instance and of every copy stand in its order.
-/

set_option autoImplicit false

namespace ObjectCalculus

inductive Declaration where
  | free (name : String)
  | variadic (name : String)
  | composite (name : String) (rule : Rule)
  | cached (name : String) (rule : Rule)

namespace Declaration

def name : Declaration → String
  | .free name => name
  | .variadic name => name
  | .composite name _ => name
  | .cached name _ => name

def spec : Declaration → Spec
  | .free _ => .free
  | .variadic _ => .variadic
  | .composite _ rule => .composite rule false
  | .cached _ rule => .composite rule true

def addTo (template : Template) : Declaration → Template
  | .free name => template.free name
  | .variadic name => template.variadic name
  | .composite name rule => template.composite name rule
  | .cached name rule => template.cached name rule

theorem add_to_declare (template : Template) (declaration : Declaration) :
    declaration.addTo template = template.declare declaration.name declaration.spec := by
  cases declaration <;> rfl

end Declaration

namespace Template

def build (title : String) (declarations : List Declaration) : Template :=
  declarations.foldl Declaration.addTo (new title)

def names (template : Template) : List String :=
  template.attributes.map Prod.fst

variable {title : String} {template : Template} {name : String} {position : Nat} {spec : Spec}

theorem build_snoc (title : String) (declarations : List Declaration)
    (declaration : Declaration) :
    build title (declarations ++ [declaration]) =
      (build title declarations).declare declaration.name declaration.spec := by
  rw [build, List.foldl_append, ← Declaration.add_to_declare]
  rfl

/-- It makes no difference whether the calls are made or what they declare is listed. -/
theorem build_of_declarations (title : String) (declarations : List Declaration) :
    build title declarations =
      ofDeclarations title (declarations.map fun entry => (entry.name, entry.spec)) := by
  rw [build, ofDeclarations, List.foldl_map]
  simp only [← Declaration.add_to_declare]

theorem build_name (title : String) (declarations : List Declaration) :
    (build title declarations).name = title := by
  induction declarations using List.reverseRecOn with
  | nil => rfl
  | append_singleton declarations declaration ih =>
      rw [build_snoc]
      exact ih

/-- A name that is listed keeps its place. -/
theorem names_declare (template : Template) (name : String) (spec : Spec) :
    (template.declare name spec).names =
      if name ∈ template.names then template.names else template.names ++ [name] := by
  obtain ⟨title, attributes⟩ := template
  change (declareIn name spec attributes).map Prod.fst =
    if name ∈ attributes.map Prod.fst then attributes.map Prod.fst
    else attributes.map Prod.fst ++ [name]
  induction attributes with
  | nil => rfl
  | cons entry rest ih =>
      obtain ⟨first, old⟩ := entry
      by_cases here : first = name
      · simp [declareIn, here]
      · rw [declareIn, if_neg here, List.map_cons, List.map_cons, ih]
        simp only [List.mem_cons, Ne.symm here, false_or]
        split <;> rfl

theorem names_declare_nodup (nodup : template.names.Nodup) (name : String) (spec : Spec) :
    (template.declare name spec).names.Nodup := by
  rw [names_declare]
  split
  case isTrue listed => exact nodup
  case isFalse unlisted =>
    refine List.nodup_append.mpr ⟨nodup, List.pairwise_singleton _ name, ?_⟩
    rintro other member _ single rfl
    cases List.mem_singleton.mp single
    exact unlisted member

theorem names_build (title : String) (declarations : List Declaration) :
    (build title declarations).names = (declarations.map Declaration.name).eraseDups := by
  induction declarations using List.reverseRecOn with
  | nil => rfl
  | append_singleton declarations declaration ih =>
      rw [build_snoc, names_declare, ih, List.map_append, List.eraseDups_append]
      simp only [List.mem_eraseDups, List.map_singleton, List.removeAll, List.filter_singleton,
        List.elem_eq_mem]
      split
      case isTrue listed => simp [listed]
      case isFalse unlisted => simp [unlisted, List.eraseDups_cons]

theorem names_build_nodup (title : String) (declarations : List Declaration) :
    (build title declarations).names.Nodup := by
  induction declarations using List.reverseRecOn with
  | nil => exact .nil
  | append_singleton declarations declaration ih =>
      rw [build_snoc]
      exact names_declare_nodup ih _ _

theorem position_iff (nodup : template.names.Nodup) :
    template.position? name = some position ↔ template.names[position]? = some name := by
  constructor
  · intro placed
    obtain ⟨entry, listed, rfl⟩ := position_entry placed
    rw [names, List.getElem?_map, listed]
    rfl
  · intro listed
    rw [names, List.getElem?_map] at listed
    obtain ⟨entry, held, rfl⟩ := Option.map_eq_some_iff.mp listed
    obtain ⟨inside, held⟩ := List.getElem?_eq_some_iff.mp held
    refine List.findIdx?_eq_some_iff_getElem.mpr ⟨inside, by simp [held], ?_⟩
    intro earlier before same
    have apart := List.pairwise_iff_getElem.mp nodup earlier position
      (by simp [names]; omega) (by simpa [names] using inside) before
    simp only [names, List.getElem_map, held] at apart
    exact apart (eq_of_beq same)

theorem position_none (unlisted : name ∉ template.names) : template.position? name = none := by
  refine List.findIdx?_eq_none_iff.mpr fun entry listed => beq_eq_false_iff_ne.mpr ?_
  rintro rfl
  exact unlisted (List.mem_map_of_mem listed)

theorem spec_iff (nodup : template.names.Nodup) :
    template.spec? name = some spec ↔ (name, spec) ∈ template.attributes := by
  have looked : template.spec? name = some spec ↔
      ∃ position entry, template.position? name = some position ∧
        template.attributes[position]? = some entry ∧ entry.2 = spec := by
    simp [spec?, Option.bind_eq_some_iff]
  rw [looked, List.mem_iff_getElem?]
  constructor
  · rintro ⟨position, entry, placed, held, rfl⟩
    obtain ⟨same, listed, rfl⟩ := position_entry placed
    cases held.symm.trans listed
    exact ⟨position, held⟩
  · rintro ⟨position, held⟩
    refine ⟨position, (name, spec), (position_iff nodup).mpr ?_, held, rfl⟩
    rw [names, List.getElem?_map, held]
    rfl

theorem spec_build (title : String) (declarations : List Declaration) (name : String) :
    (build title declarations).spec? name =
      (declarations.filter (·.name = name)).getLast?.map Declaration.spec := by
  induction declarations using List.reverseRecOn with
  | nil => rfl
  | append_singleton declarations declaration ih =>
      rw [build_snoc, spec_declare, List.filter_append]
      by_cases named : declaration.name = name
      · simp [named]
      · simp [named, ih]

end Template

theorem aligned_slots {object : Instance} (aligned : object.Aligned)
    (nodup : object.template.names.Nodup) {position : Nat} {entry : String × Spec}
    (listed : object.template.attributes[position]? = some entry) :
    ∃ slot, object.slots[position]? = some slot ∧ slot.Suits entry.2 ∧
      object.slot? entry.1 = some slot := by
  have inside : position < object.slots.length := by
    rw [aligned.length]
    exact (List.getElem?_eq_some_iff.mp listed).1
  have held := List.getElem?_eq_getElem inside
  have placed : object.template.position? entry.1 = some position := by
    rw [Template.position_iff nodup, Template.names, List.getElem?_map, listed]
    rfl
  refine ⟨_, held, aligned.suits listed held, ?_⟩
  rw [Instance.slot?, placed]
  exact held

/-- A template that is built lists every name that was declared once, in the order of the first
declarations, and each with what its last declaration says. For every name, declared or not, the
position is its place in that list and the specification its entry there. Whatever has been done
since, every instance of the template and every copy of an instance has one slot for each entry,
at the same place and of the same kind, and it is the slot that is found under the name. -/
theorem declared_names_are_listed_once (title : String) (declarations : List Declaration) :
    let template := Template.build title declarations
    template.name = title ∧
      template.names = (declarations.map Declaration.name).eraseDups ∧ template.names.Nodup ∧
      (∀ name spec, (name, spec) ∈ template.attributes ↔
        (declarations.filter (·.name = name)).getLast?.map Declaration.spec = some spec) ∧
      (∀ name position, template.position? name = some position ↔
        template.names[position]? = some name) ∧
      (∀ name spec, template.spec? name = some spec ↔ (name, spec) ∈ template.attributes) ∧
      (∀ name, name ∉ declarations.map Declaration.name →
        template.position? name = none ∧ template.spec? name = none) ∧
      ∀ store : Store, store.Arises → ∀ object found, store.instance? object = some found →
        found.template = template → ∀ holder ∈ [found, found.copy],
          holder.slots.length = template.attributes.length ∧
            ∀ (position : Nat) (entry : String × Spec),
              template.attributes[position]? = some entry →
              ∃ slot, holder.slots[position]? = some slot ∧ slot.kind = entry.2.kind ∧
                slot.Suits entry.2 ∧ holder.slot? entry.1 = some slot := by
  intro template
  have nodup : template.names.Nodup := Template.names_build_nodup title declarations
  have names : template.names = (declarations.map Declaration.name).eraseDups :=
    Template.names_build title declarations
  refine ⟨Template.build_name title declarations, names, nodup, ?last,
    fun name position => Template.position_iff nodup, fun name spec => Template.spec_iff nodup,
    ?undeclared, ?slots⟩
  case last =>
    intro name spec
    rw [← Template.spec_iff nodup, ← Template.spec_build title declarations name]
  case undeclared =>
    intro name undeclared
    have placed : template.position? name = none := by
      apply Template.position_none
      rwa [names, List.mem_eraseDups]
    refine ⟨placed, ?_⟩
    rw [Template.spec?, placed]
    rfl
  case slots =>
    intro store arises object found composed same holder member
    have aligned : ∀ holder ∈ [found, found.copy], holder.Aligned ∧ holder.template = template := by
      have own := arises_aligned arises object found composed
      rw [List.forall_mem_cons, List.forall_mem_singleton]
      exact ⟨⟨own, same⟩, aligned_copy own, same⟩
    obtain ⟨aligned, own⟩ := aligned holder member
    rw [← own] at nodup ⊢
    refine ⟨aligned.length, fun position entry listed => ?_⟩
    obtain ⟨slot, held, suits, shown⟩ := aligned_slots aligned nodup listed
    exact ⟨slot, held, suits_kind suits, suits, shown⟩

/-- The second declaration of `a` is what counts, and it counts at the place of the first. -/
theorem redeclared_in_place :
    let rule : Rule := fun owner => Program.attributeOf owner "b"
    let declarations : List Declaration :=
      [.free "a", .free "b", .variadic "a", .cached valueAttribute rule]
    let template := Template.build "t" declarations
    let store := (Store.empty.instantiate ⟨.declared 0, template⟩).2
    let found : Instance := .ofDefinition ⟨.declared 0, template⟩
    store.Arises ∧ store.instance? ⟨0⟩ = some found ∧ found.template = template ∧
      template.names = ["a", "b", valueAttribute] ∧ template.position? "a" = some 0 ∧
      template.spec? "a" = some .variadic ∧
      "c" ∉ declarations.map Declaration.name ∧ template.position? "c" = none ∧
      ∃ slot, found.copy.slots[0]? = some slot ∧ slot.kind = .variadic ∧
        found.copy.slot? "a" = some slot := by
  intro rule declarations template store found
  have arises : store.Arises := .instantiated .empty _
  have composed : store.instance? ⟨0⟩ = some found := rfl
  have undeclared : "c" ∉ declarations.map Declaration.name := by
    simp [declarations, Declaration.name, valueAttribute]
  obtain ⟨_, _, _, listed, positions, specs, unknown, slots⟩ :=
    declared_names_are_listed_once "t" declarations
  have stated : template.spec? "a" = some .variadic :=
    (specs "a" .variadic).mpr ((listed "a" .variadic).mpr rfl)
  obtain ⟨_, held⟩ := slots store arises ⟨0⟩ found composed rfl found.copy (by simp)
  obtain ⟨slot, there, kind, _, shown⟩ := held 0 ("a", .variadic) rfl
  exact ⟨arises, composed, rfl, rfl, (positions "a" 0).mpr rfl, stated, undeclared,
    (unknown "c" undeclared).1, slot, there, kind, shown⟩

end ObjectCalculus
