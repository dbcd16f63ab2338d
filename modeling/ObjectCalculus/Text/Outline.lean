/-!
# Outlines

Structured text that can be written on one line or spread over several. Spread
text indents every line of a part by four spaces, the lines inside the part's
own texts included.
-/

set_option autoImplicit false

namespace ObjectCalculus.Text

inductive Outline where
  | text (content : String)
  | list (items : List Outline)
  | tuple (head : String) (items : List Outline)
  /-- A head followed by named parts in braces; the head alone if there are
  none. -/
  | record (head : String) (fields : List (String × Outline))

namespace Outline

def leftBrace : String := "\x7b"

def rightBrace : String := "\x7d"

mutual

def line : Outline → String
  | .text content => content
  | .list items => "[" ++ ", ".intercalate (lines items) ++ "]"
  | .tuple head items => head ++ "(" ++ ", ".intercalate (lines items) ++ ")"
  | .record head [] => head
  | .record head fields =>
      head ++ " " ++ leftBrace ++ " " ++ ", ".intercalate (fieldLines fields) ++
        " " ++ rightBrace

def lines : List Outline → List String
  | [] => []
  | item :: rest => line item :: lines rest

def fieldLines : List (String × Outline) → List String
  | [] => []
  | (name, part) :: rest => (name ++ ": " ++ line part) :: fieldLines rest

end

/-- Four spaces before every line; `fresh` tells whether the text starts one. -/
def indentChars : Bool → List Char → List Char
  | _, [] => []
  | fresh, character :: rest =>
      (if fresh then [' ', ' ', ' ', ' '] else []) ++
        character :: indentChars (character == '\n') rest

def indent (content : String) : String :=
  String.ofList (indentChars true content.toList)

def block (left right : String) (parts : List String) : String :=
  left ++ "\n" ++ String.join (parts.map fun part => indent (part ++ ",\n")) ++
    right

mutual

def spread : Outline → String
  | .text content => content
  | .list [] => "[]"
  | .list items => block "[" "]" (spreads items)
  | .tuple head items => block (head ++ "(") ")" (spreads items)
  | .record head [] => head
  | .record head fields =>
      block (head ++ " " ++ leftBrace) rightBrace (fieldSpreads fields)

def spreads : List Outline → List String
  | [] => []
  | item :: rest => spread item :: spreads rest

def fieldSpreads : List (String × Outline) → List String
  | [] => []
  | (name, part) :: rest => (name ++ ": " ++ spread part) :: fieldSpreads rest

end

end Outline

end ObjectCalculus.Text
