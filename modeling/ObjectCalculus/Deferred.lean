import ObjectCalculus.Error
import ObjectCalculus.Memo
import ObjectCalculus.Value.Text

/-!
# Deferred values

A value that is produced on first use and kept from the first run that succeeds.
Until then it is shown as a placeholder; an empty placeholder means that showing
the value produces it.
-/

set_option autoImplicit false

namespace ObjectCalculus

inductive Producer (α : Type) where
  /-- The run with number `runs`, counted from zero, ends as `ending runs`
  says. -/
  | script (ending : Nat → Except DataError α) (runs : Nat)
  | fixed (value : α)
  | deferred (source : Producer α) (cell : Memo α) (blank : String)

namespace Producer

variable {α : Type}

/-- One entry a run, the last entry for every later run. -/
def ofEntries (first : Except DataError α) (rest : List (Except DataError α)) :
    Producer α :=
  .script (fun run => (first :: rest).getD run ((first :: rest).getLastD first)) 0

def run : Producer α → Except DataError α × Producer α
  | .script ending runs => (ending runs, .script ending (runs + 1))
  | .fixed value => (.ok value, .fixed value)
  | .deferred source cell blank =>
      match cell.content with
      | some value => (.ok value, .deferred source cell blank)
      | none =>
          match source.run with
          | (.ok value, left) => (.ok value, .deferred left (.filled value) blank)
          | (.error failure, left) => (.error failure, .deferred left cell blank)

def runs : Producer α → Nat
  | .script _ runs => runs
  | .fixed _ => 0
  | .deferred source _ _ => source.runs

end Producer

structure Deferred (α : Type) where
  source : Producer α
  cell : Memo α
  blank : String

namespace Deferred

variable {α : Type}

def ofProducer (source : Producer α) (blank : String) : Deferred α where
  source := source
  cell := .empty
  blank := blank

def wrap (inner : Deferred α) (blank : String) : Deferred α :=
  ofProducer (.deferred inner.source inner.cell inner.blank) blank

def isComputed (data : Deferred α) : Bool :=
  data.cell.isFilled

def runs (data : Deferred α) : Nat :=
  data.source.runs

def take (data : Deferred α) : Except DataError α × Deferred α :=
  match data.cell.content with
  | some value => (.ok value, data)
  | none =>
      match data.source.run with
      | (.ok value, left) =>
          (.ok value, { data with source := left, cell := .filled value })
      | (.error failure, left) => (.error failure, { data with source := left })

def failureText (failure : DataError) : String :=
  "<" ++ failure.message ++ ">"

def display (text : α → String) (data : Deferred α) : String × Deferred α :=
  if data.blank.isEmpty then
    match data.take with
    | (.ok value, after) => (text value, after)
    | (.error failure, after) => (failureText failure, after)
  else
    match data.cell.content with
    | some value => (text value, data)
    | none => (data.blank, data)

open Text in
def outline (content : α → Outline) (data : Deferred α) : Outline :=
  .record "Once" [
    ("cell", data.cell.outline content),
    ("blank", .text (quoted data.blank))]

inductive Step where
  | take
  | show
  | outline
  | computed

inductive Answer where
  | taken (result : Except DataError Value)
  | text (content : String)
  | computed (answer : Bool)

def perform (data : Deferred Value) : Step → Answer × Deferred Value
  | .take =>
      let (result, after) := data.take
      (.taken result, after)
  | .show =>
      let (content, after) := data.display Value.text
      (.text content, after)
  | .outline => (.text (data.outline Value.outline).line, data)
  | .computed => (.computed data.isComputed, data)

end Deferred

end ObjectCalculus
