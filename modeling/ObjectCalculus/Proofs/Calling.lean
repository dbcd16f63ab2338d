import ObjectCalculus.Builtin.Template
import ObjectCalculus.Proofs.Folding

/-!
# The calls that a fold makes

A fold runs in any monad. Here its guard and its combinator change a state with every call,
so that the state at the end tells which calls were made, with what and in which order. The
loop invariant is about the accumulator and that state together: as long as operands are
accepted, each is guarded and then combined, and the first that is refused ends it all.
-/

set_option autoImplicit false

namespace ObjectCalculus.Fold

variable {α σ : Type}

/-- What a call of the guard, and one of the combinator, does to the state. -/
structure Observer (α σ : Type) where
  guarded : α → σ → σ
  combined : α → α → σ → σ

namespace Observer

variable (observer : Observer α σ) (fold : Fold α)

def guard (operand : α) : StateM σ (Option Diagnostic) := do
  modify (observer.guarded operand)
  pure (fold.guard operand)

def combine (total operand : α) : StateM σ α := do
  modify (observer.combined total operand)
  pure (fold.combine total operand)

def reduce (operands : List α) (state : σ) : Except DataError α × σ :=
  (reduceM fold.operation (observer.guard fold) (observer.combine fold) operands).run state

def continued (total : α) (operands : List α) (state : σ) : Except DataError α × σ :=
  (continueWith fold.operation (observer.guard fold) (observer.combine fold) total
    operands).run state

def seen : α → List α → σ → σ
  | _, [], state => state
  | total, operand :: rest, state =>
      seen (fold.combine total operand) rest
        (observer.combined total operand (observer.guarded operand state))

theorem guard_outcome (operand : α) (state : σ) :
    (observer.guard fold operand).run state =
      (fold.guard operand, observer.guarded operand state) := rfl

theorem continued_refused {operand : α} {diagnostic : Diagnostic} (total : α) (rest : List α)
    (state : σ) (refused : fold.guard operand = some diagnostic) :
    observer.continued fold total (operand :: rest) state =
      (.error (.invalidOperand fold.operation diagnostic), observer.guarded operand state) := by
  unfold continued
  rw [continueWith, StateT.run_bind, guard_outcome, refused]
  rfl

theorem continued_accepted {operand : α} (total : α) (rest : List α) (state : σ)
    (accepted : fold.guard operand = none) :
    observer.continued fold total (operand :: rest) state =
      observer.continued fold (fold.combine total operand) rest
        (observer.combined total operand (observer.guarded operand state)) := by
  unfold continued
  rw [continueWith, StateT.run_bind, guard_outcome, accepted]
  rfl

theorem continued_append (total : α) (before rest : List α) (state : σ)
    (accepted : ∀ operand ∈ before, fold.guard operand = none) :
    observer.continued fold total (before ++ rest) state =
      observer.continued fold (before.foldl fold.combine total) rest
        (observer.seen fold total before state) := by
  induction before generalizing total state with
  | nil => rfl
  | cons operand others ih =>
      obtain ⟨here, later⟩ := List.forall_mem_cons.mp accepted
      rw [List.cons_append, continued_accepted observer fold total _ state here, ih _ _ later]
      rfl

theorem reduce_accepted (first : α) (rest : List α) (state : σ)
    (accepted : ∀ operand ∈ rest, fold.guard operand = none) :
    observer.reduce fold (first :: rest) state =
      (.ok (rest.foldl fold.combine first), observer.seen fold first rest state) := by
  have whole := observer.continued_append fold first rest [] state accepted
  rw [List.append_nil] at whole
  exact whole

theorem reduce_refused (first : α) (before : List α) {operand : α} {diagnostic : Diagnostic}
    (rest : List α) (state : σ) (accepted : ∀ operand ∈ before, fold.guard operand = none)
    (refused : fold.guard operand = some diagnostic) :
    observer.reduce fold (first :: (before ++ operand :: rest)) state =
      (.error (.invalidOperand fold.operation diagnostic),
        observer.guarded operand (observer.seen fold first before state)) :=
  (observer.continued_append fold first before (operand :: rest) state accepted).trans
    (observer.continued_refused fold _ rest _ refused)

/-- Whoever observes a fold, it ends as it does unobserved. -/
theorem observed_result (operands : List α) (state : σ) :
    (observer.reduce fold operands state).1 = fold.reduce operands := by
  rw [reduce_eq_left_fold]
  cases operands with
  | nil => rfl
  | cons first rest =>
      change (observer.continued fold first rest state).1 = rest.foldlM fold.combineGuarded first
      induction rest generalizing first state with
      | nil => rfl
      | cons operand others ih =>
          rw [List.foldlM_cons, combineGuarded]
          cases guarded : fold.guard operand with
          | some diagnostic =>
              rw [continued_refused observer fold first others state guarded]
              rfl
          | none =>
              rw [continued_accepted observer fold first others state guarded]
              exact ih _ (fold.combine first operand)

end Observer

inductive Use (α : Type) where
  | guard (operand : α)
  | combine (total operand : α)

def writing : Observer α (List (Use α)) where
  guarded operand uses := uses ++ [.guard operand]
  combined total operand uses := uses ++ [.combine total operand]

/-- The result of a fold and all calls that it makes, in their order. -/
def reduceWritten (fold : Fold α) (operands : List α) : Except DataError α × List (Use α) :=
  writing.reduce fold operands []

/-- The calls for operands that are accepted: each is guarded and then combined with the
total of those before it. -/
def uses (fold : Fold α) : α → List α → List (Use α)
  | _, [] => []
  | total, operand :: rest =>
      .guard operand :: .combine total operand :: fold.uses (fold.combine total operand) rest

def counting : Observer α Calls where
  guarded _ calls := { calls with guarded := calls.guarded + 1 }
  combined _ _ calls := { calls with combined := calls.combined + 1 }

variable (fold : Fold α)

theorem reduce_counted_eq (operands : List α) :
    fold.reduceCounted operands = counting.reduce fold operands ⟨0, 0⟩ := rfl

theorem seen_writing (total : α) (operands : List α) (written : List (Use α)) :
    writing.seen fold total operands written = written ++ fold.uses total operands := by
  induction operands generalizing total written with
  | nil => exact (List.append_nil written).symm
  | cons operand rest ih =>
      rw [Observer.seen, ih]
      simp only [writing, uses, List.append_assoc, List.cons_append, List.nil_append]

theorem seen_counting (total : α) (operands : List α) (calls : Calls) :
    counting.seen fold total operands calls =
      ⟨calls.guarded + operands.length, calls.combined + operands.length⟩ := by
  induction operands generalizing total calls with
  | nil => rfl
  | cons operand rest ih =>
      rw [Observer.seen, ih, List.length_cons]
      simp only [counting, Calls.mk.injEq]
      omega

theorem split_at_place {operands : List α} {place : Nat} {operand : α}
    (found : operands[place]? = some operand) :
    ∃ before after, operands = before ++ operand :: after ∧ before.length = place := by
  obtain ⟨inside, rfl⟩ := List.getElem?_eq_some_iff.mp found
  refine ⟨operands.take place, operands.drop (place + 1), ?_, ?_⟩
  · rw [← List.drop_eq_getElem_cons inside, List.take_append_drop]
  · exact List.length_take_of_le (Nat.le_of_lt inside)

/-- Whatever the operands, the combinator and the guard are: no operands fail without a call;
where no operand after the first is refused, all of them are folded, with one call of each for
each; and the first that is refused is the last that the guard is asked about, after those
before it have been guarded and combined. The first operand of all is never guarded. -/
theorem folds_call_exactly (operands : List α) :
    fold.reduce operands = (fold.reduceWritten operands).1 ∧
      (operands = [] →
        fold.reduceWritten operands = (.error (.missingOperands fold.operation), []) ∧
          (fold.reduceCounted operands).2 = ⟨0, 0⟩) ∧
      (∀ first rest, operands = first :: rest →
        (∀ operand ∈ rest, fold.guard operand = none) →
          fold.reduceWritten operands =
              (.ok (rest.foldl fold.combine first), fold.uses first rest) ∧
            (fold.reduceCounted operands).2 = ⟨rest.length, rest.length⟩) ∧
      ∀ first rest position operand diagnostic, operands = first :: rest → 1 ≤ position →
        operands[position]? = some operand → fold.guard operand = some diagnostic →
        (∀ earlier other, 1 ≤ earlier → earlier < position → operands[earlier]? = some other →
          fold.guard other = none) →
          fold.reduceWritten operands =
              (.error (.invalidOperand fold.operation diagnostic),
                fold.uses first (operands.take position).tail ++ [.guard operand]) ∧
            (fold.reduceCounted operands).2 = ⟨position, position - 1⟩ := by
  refine ⟨(writing.observed_result fold operands []).symm, ?_, ?_, ?_⟩
  · rintro rfl
    exact ⟨rfl, rfl⟩
  · rintro first rest rfl accepted
    rw [reduceWritten, reduce_counted_eq, Observer.reduce_accepted _ _ _ _ _ accepted,
      Observer.reduce_accepted _ _ _ _ _ accepted, seen_writing, seen_counting]
    simp
  · rintro first rest position operand diagnostic rfl positive found refused accepted
    obtain ⟨place, rfl⟩ : ∃ place, position = place + 1 := ⟨position - 1, by omega⟩
    rw [List.getElem?_cons_succ] at found
    obtain ⟨before, after, rfl, rfl⟩ := split_at_place found
    have folded : ∀ other ∈ before, fold.guard other = none := by
      intro other member
      obtain ⟨earlier, inside, rfl⟩ := List.mem_iff_getElem.mp member
      refine accepted (earlier + 1) _ (by omega) (by omega) ?_
      rw [List.getElem?_cons_succ, List.getElem?_append_left inside, List.getElem?_eq_getElem]
    have taken : ((first :: (before ++ operand :: after)).take (before.length + 1)).tail = before :=
      List.take_left
    rw [taken, reduceWritten, reduce_counted_eq, Observer.reduce_refused _ _ _ _ _ _ folded refused,
      Observer.reduce_refused _ _ _ _ _ _ folded refused, seen_writing, seen_counting]
    simp [writing, counting]

/-- The zero first and the operand after the refused zero cost no call. -/
theorem division_stops_at_zero :
    let operands : List Int64 := [0, 2, 0, 5]
    intDiv.reduceWritten operands =
        (.error (.invalidOperand "int.div" .divisionByZero),
          [.guard 2, .combine 0 2, .guard 0]) ∧
      (intDiv.reduceCounted operands).2 = ⟨2, 1⟩ := by
  intro operands
  have accepted : ∀ earlier other, 1 ≤ earlier → earlier < 2 → operands[earlier]? = some other →
      intDiv.guard other = none := by
    intro earlier other positive below found
    obtain rfl : earlier = 1 := by omega
    cases found
    rfl
  exact (folds_call_exactly intDiv operands).2.2.2 0 [2, 0, 5] 2 0 .divisionByZero rfl (by decide)
    rfl rfl accepted

end ObjectCalculus.Fold
