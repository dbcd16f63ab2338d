import ObjectCalculus.Program
import ObjectCalculus.Text.Outline
import ObjectCalculus.Text.Quoted

/-!
# Templates

A template names the attributes of its instances, in order and each once, and
says of each what it is. It holds no bindings.
-/

set_option autoImplicit false

namespace ObjectCalculus

inductive Spec where
  /-- Bound at most once per instance. -/
  | free
  /-- Bound any number of times, in order, until it is first read. -/
  | variadic
  /-- Computed by a rule; kept per instance if `cached` holds. -/
  | composite (rule : Rule) (cached : Bool)

inductive AttributeKind where
  | free
  | variadic
  | composite
  deriving DecidableEq

def AttributeKind.name : AttributeKind → String
  | .free => "free"
  | .variadic => "variadic"
  | .composite => "composite"

def Spec.kind : Spec → AttributeKind
  | .free => .free
  | .variadic => .variadic
  | .composite .. => .composite

structure Template where
  name : String
  attributes : List (String × Spec)

namespace Template

def new (name : String) : Template where
  name := name
  attributes := []

/-- A name declared before keeps its place and takes the new declaration. -/
def declareIn (name : String) (spec : Spec) :
    List (String × Spec) → List (String × Spec)
  | [] => [(name, spec)]
  | (other, old) :: rest =>
      if other = name then (other, spec) :: rest
      else (other, old) :: declareIn name spec rest

def declare (template : Template) (name : String) (spec : Spec) : Template :=
  { template with attributes := declareIn name spec template.attributes }

def free (template : Template) (name : String) : Template :=
  template.declare name .free

def variadic (template : Template) (name : String) : Template :=
  template.declare name .variadic

def composite (template : Template) (name : String) (rule : Rule) : Template :=
  template.declare name (.composite rule false)

def cached (template : Template) (name : String) (rule : Rule) : Template :=
  template.declare name (.composite rule true)

def ofDeclarations (name : String) (declarations : List (String × Spec)) :
    Template :=
  declarations.foldl (fun template entry => template.declare entry.1 entry.2)
    (new name)

def position? (template : Template) (name : String) : Option Nat :=
  template.attributes.findIdx? fun entry => entry.1 == name

def spec? (template : Template) (name : String) : Option Spec := do
  let position ← template.position? name
  let entry ← template.attributes[position]?
  pure entry.2

end Template

open Text

def Spec.outline : Spec → Outline
  | .free => .text "Free"
  | .variadic => .text "Variadic"
  | .composite _ cached =>
      .record "Composite" [("cached", .text (toString cached))]

def Template.outline (template : Template) : Outline :=
  .record "Template" [
    ("name", .text (quoted template.name)),
    ("attrs", .list (template.attributes.map fun entry =>
      .tuple "" [.text (quoted entry.1), entry.2.outline]))]

end ObjectCalculus
