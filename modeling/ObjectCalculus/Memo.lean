import ObjectCalculus.Text.Outline

/-!
# Memo cells

A cell that is written once: the first accepted value stays. A computation that
fills the cell may itself use the cell, in which case a value it publishes on
the way wins over the one it returns.
-/

set_option autoImplicit false

namespace ObjectCalculus

structure Memo (α : Type) where
  content : Option α
  deriving DecidableEq

namespace Memo

variable {ε α : Type}

def empty : Memo α where
  content := none

def filled (value : α) : Memo α where
  content := some value

def isFilled (cell : Memo α) : Bool :=
  cell.content.isSome

def set (cell : Memo α) (value : α) : Except α Unit × Memo α :=
  match cell.content with
  | none => (.ok (), filled value)
  | some _ => (.error value, cell)

/-- The content after the value has been offered. -/
def getOrSet (cell : Memo α) (value : α) : α × Memo α :=
  match cell.content with
  | none => (value, filled value)
  | some winner => (winner, cell)

/-- The content, computed if there is none. The computation starts from the
empty cell and says what it left in it; a failure keeps what was left. -/
def getOrInit (cell : Memo α) (compute : Memo α → Except ε α × Memo α) :
    Except ε α × Memo α :=
  match cell.content with
  | some winner => (.ok winner, cell)
  | none =>
      match compute cell with
      | (.error failure, left) => (.error failure, left)
      | (.ok own, left) =>
          let (winner, final) := left.getOrSet own
          (.ok winner, final)

inductive Outcome (ε α : Type) where
  | content (value : Option α)
  | published
  | rejected (value : α)
  | winner (value : α)
  | initialised (ran : Bool) (result : Except ε α)

mutual

inductive Operation (ε α : Type) where
  | get
  | set (value : α)
  | getOrSet (value : α)
  | getOrInit (computation : Computation ε α)

/-- What fills a cell: operations on that same cell, each chosen by the outcomes
of those before it, and then an end. -/
inductive Computation (ε α : Type) where
  | finish (ending : Except ε α)
  | andThen (operation : Operation ε α) (next : Outcome ε α → Computation ε α)

end

mutual

def Operation.run : Operation ε α → Memo α → Outcome ε α × Memo α
  | .get, cell => (.content cell.content, cell)
  | .set value, cell =>
      match cell.set value with
      | (.ok _, after) => (.published, after)
      | (.error rejected, after) => (.rejected rejected, after)
  | .getOrSet value, cell =>
      let (winner, after) := cell.getOrSet value
      (.winner winner, after)
  | .getOrInit computation, cell =>
      let (result, after) := cell.getOrInit computation.run
      (.initialised (!cell.isFilled) result, after)

def Computation.run : Computation ε α → Memo α → Except ε α × Memo α
  | .finish ending, cell => (ending, cell)
  | .andThen operation next, cell =>
      let (outcome, after) := operation.run cell
      (next outcome).run after

end

open Text in
def outline (content : α → Outline) (cell : Memo α) : Outline :=
  match cell.content with
  | some value => .tuple "MemoCell" [content value]
  | none => .text "MemoCell(<empty>)"

end Memo

end ObjectCalculus
