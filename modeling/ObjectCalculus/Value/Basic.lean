import ObjectCalculus.Binary64

/-!
# Values

The primitive values a dataization ends in, their kinds, and the conversions
between a value and the one carrier type of its kind.
-/

set_option autoImplicit false

namespace ObjectCalculus

inductive Kind where
  | int
  | float
  | bool
  | bytes
  | string
  | char
  | pattern
  | array
  deriving DecidableEq

namespace Kind

def name : Kind → String
  | .int => "int"
  | .float => "float"
  | .bool => "bool"
  | .bytes => "bytes"
  | .string => "string"
  | .char => "char"
  | .pattern => "regex"
  | .array => "array"

def all : List Kind :=
  [.int, .float, .bool, .bytes, .string, .char, .pattern, .array]

def primitives : List Kind :=
  [.int, .float, .bool, .bytes, .string, .char, .pattern]

def ofName? (name : String) : Option Kind :=
  all.find? fun kind => kind.name == name

end Kind

/-- A pattern of regular-expression text; patterns are compared and printed but
never matched against anything. -/
structure Pattern where
  source : String
  deriving DecidableEq

inductive Value where
  | int (number : Int64)
  | float (number : Binary64)
  | bool (truth : Bool)
  | bytes (octets : List UInt8)
  | string (text : String)
  | char (character : Char)
  | pattern (expression : Pattern)
  | array (items : List Value)

namespace Value

def kind : Value → Kind
  | .int _ => .int
  | .float _ => .float
  | .bool _ => .bool
  | .bytes _ => .bytes
  | .string _ => .string
  | .char _ => .char
  | .pattern _ => .pattern
  | .array _ => .array

/-- A value is a scalar, or an array of values for which there is less to show. -/
@[elab_as_elim]
theorem nested_induction {holds : Value → Prop}
    (scalar : ∀ value : Value, value.kind ≠ .array → holds value)
    (array : ∀ items : List Value, (∀ item ∈ items, holds item) → holds (.array items))
    (value : Value) : holds value :=
  @Value.rec holds (fun items => ∀ item ∈ items, holds item) (fun _ => scalar _ nofun)
    (fun _ => scalar _ nofun) (fun _ => scalar _ nofun) (fun _ => scalar _ nofun)
    (fun _ => scalar _ nofun) (fun _ => scalar _ nofun) (fun _ => scalar _ nofun) array nofun
    (fun _ _ first rest => List.forall_mem_cons.mpr ⟨first, rest⟩) value

mutual

/-- Equality of values: like constructors with equal contents, where numbers
with a fraction compare as `Binary64.equal` says. -/
def equal : Value → Value → Bool
  | .int left, .int right => left == right
  | .float left, .float right => left.equal right
  | .bool left, .bool right => left == right
  | .bytes left, .bytes right => left == right
  | .string left, .string right => left == right
  | .char left, .char right => left == right
  | .pattern left, .pattern right => left == right
  | .array left, .array right => equalItems left right
  | _, _ => false

def equalItems : List Value → List Value → Bool
  | [], [] => true
  | left :: lefts, right :: rights => equal left right && equalItems lefts rights
  | _, _ => false

end

def int? : Value → Option Int64
  | .int number => some number
  | _ => none

def float? : Value → Option Binary64
  | .float number => some number
  | _ => none

def bool? : Value → Option Bool
  | .bool truth => some truth
  | _ => none

def bytes? : Value → Option (List UInt8)
  | .bytes octets => some octets
  | _ => none

def string? : Value → Option String
  | .string text => some text
  | _ => none

def char? : Value → Option Char
  | .char character => some character
  | _ => none

def pattern? : Value → Option Pattern
  | .pattern expression => some expression
  | _ => none

def array? : Value → Option (List Value)
  | .array items => some items
  | _ => none

end Value

/-- A type whose elements are exactly the values of one kind. -/
class Carrier (α : Type) where
  kind : Kind
  toValue : α → Value
  ofValue? : Value → Option α

instance : Carrier Int64 where
  kind := .int
  toValue := .int
  ofValue? := Value.int?

instance : Carrier Binary64 where
  kind := .float
  toValue := .float
  ofValue? := Value.float?

instance : Carrier Bool where
  kind := .bool
  toValue := .bool
  ofValue? := Value.bool?

instance : Carrier (List UInt8) where
  kind := .bytes
  toValue := .bytes
  ofValue? := Value.bytes?

instance : Carrier String where
  kind := .string
  toValue := .string
  ofValue? := Value.string?

instance : Carrier Char where
  kind := .char
  toValue := .char
  ofValue? := Value.char?

instance : Carrier Pattern where
  kind := .pattern
  toValue := .pattern
  ofValue? := Value.pattern?

def Value.through (value : Value) : Kind → Option Value
  | .int => value.int?.map .int
  | .float => value.float?.map .float
  | .bool => value.bool?.map .bool
  | .bytes => value.bytes?.map .bytes
  | .string => value.string?.map .string
  | .char => value.char?.map .char
  | .pattern => value.pattern?.map .pattern
  | .array => value.array?.map .array

end ObjectCalculus
