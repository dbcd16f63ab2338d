import ObjectCalculus.Proofs.Arithmetic

/-!
# Division of words

Quotients are truncated toward zero and remainders have the sign of the dividend, so that the
two together restore the dividend. One quotient lies beyond the words, that of the least word
by minus one, and there it is the product that wraps back. More operands than two divide the
total so far one after another.
-/

set_option autoImplicit false

namespace ObjectCalculus

open Effect Evaluation

/-- The quotient is truncated and the remainder is what it leaves of the dividend. -/
structure Divides (dividend divisor quotient remainder : Int64) : Prop where
  restored : quotient * divisor + remainder = dividend
  smaller : remainder.toInt.natAbs < divisor.toInt.natAbs
  signed : remainder = 0 ∨ remainder.toInt.sign = dividend.toInt.sign
  exact : ¬(dividend = Int64.minValue ∧ divisor = -1) →
    quotient.toInt = dividend.toInt.tdiv divisor.toInt
  beyond : dividend = Int64.minValue ∧ divisor = -1 → quotient = Int64.minValue ∧ remainder = 0

section Words

variable {dividend divisor : Int64}

theorem nonzero_magnitude (nonzero : divisor ≠ 0) : 0 < divisor.toInt.natAbs := by
  refine Int.natAbs_pos.mpr fun zero => nonzero ?_
  exact Int64.toInt_inj.mp (zero.trans Int64.toInt_zero.symm)

theorem quotient_exact (within : ¬(dividend = Int64.minValue ∧ divisor = -1)) :
    (dividend / divisor).toInt = dividend.toInt.tdiv divisor.toInt := by
  rcases Classical.not_and_iff_not_or_not.mp within with other | other
  · exact Int64.toInt_div_of_ne_left _ _ other
  · exact Int64.toInt_div_of_ne_right _ _ other

theorem quotient_restored : dividend / divisor * divisor + dividend % divisor = dividend := by
  by_cases beyond : dividend = Int64.minValue ∧ divisor = -1
  · obtain ⟨rfl, rfl⟩ := beyond
    decide
  · calc
      dividend / divisor * divisor + dividend % divisor
          = Int64.ofInt
              ((dividend / divisor).toInt * divisor.toInt + (dividend % divisor).toInt) := by
        rw [Int64.ofInt_add, Int64.ofInt_mul, Int64.ofInt_toInt, Int64.ofInt_toInt,
          Int64.ofInt_toInt]
      _ = Int64.ofInt dividend.toInt := by
        rw [quotient_exact beyond, Int64.toInt_mod, Int.tdiv_mul_add_tmod]
      _ = dividend := Int64.ofInt_toInt dividend

theorem remainder_signed :
    dividend % divisor = 0 ∨ (dividend % divisor).toInt.sign = dividend.toInt.sign := by
  rw [Int64.toInt_mod, Int.sign_tmod]
  split
  · rename_i divides
    left
    rw [← Int64.toInt_inj, Int64.toInt_mod, Int64.toInt_zero]
    exact Int.tmod_eq_zero_of_dvd divides
  · exact .inr rfl

theorem words_divide (nonzero : divisor ≠ 0) :
    Divides dividend divisor (dividend / divisor) (dividend % divisor) where
  restored := quotient_restored
  smaller := by
    rw [Int64.toInt_mod, Int.natAbs_tmod]
    exact Nat.mod_lt _ (nonzero_magnitude nonzero)
  signed := remainder_signed
  exact := quotient_exact
  beyond := by
    rintro ⟨rfl, rfl⟩
    decide

end Words

/-- The steps lead from the first total to the last, one for each operand. -/
inductive Iterates {α : Type} (step : α → α → α → Prop) : α → List α → α → Prop
  | done (total : α) : Iterates step total [] total
  | next {total operand next last : α} {rest : List α} :
      step total operand next → Iterates step next rest last →
        Iterates step total (operand :: rest) last

def IsQuotient (dividend divisor quotient : Int64) : Prop :=
  ∃ remainder, Divides dividend divisor quotient remainder

def IsRemainder (dividend divisor remainder : Int64) : Prop :=
  ∃ quotient, Divides dividend divisor quotient remainder

theorem iterates_foldl {α : Type} {step : α → α → α → Prop} {combine : α → α → α} {rest : List α}
    (steps : ∀ operand ∈ rest, ∀ total, step total operand (combine total operand)) (first : α) :
    Iterates step first rest (rest.foldl combine first) := by
  induction rest generalizing first with
  | nil => exact .done first
  | cons operand rest ih =>
      obtain ⟨here, later⟩ := List.forall_mem_cons.mp steps
      exact .next (here first) (ih later (combine first operand))

namespace Fold

theorem accepted_fold {α : Type} {fold : Fold α} {rest : List α}
    (accepted : ∀ operand ∈ rest, fold.guard operand = none) (first : α) :
    fold.leftFold (first :: rest) = .ok (rest.foldl fold.combine first) := by
  change rest.foldlM fold.combineGuarded first = _
  induction rest generalizing first with
  | nil => rfl
  | cons operand rest ih =>
      obtain ⟨here, later⟩ := List.forall_mem_cons.mp accepted
      rw [List.foldlM_cons, combineGuarded, here]
      exact ih later (fold.combine first operand)

theorem nonzero_accepted {operand : Int64} (nonzero : operand ≠ 0) (diagnostic : Diagnostic) :
    refuseZero diagnostic (operand == 0) = none := by
  rw [refuseZero, beq_false_of_ne nonzero]
  rfl

variable {rest : List Int64} (nonzero : ∀ operand ∈ rest, operand ≠ 0) (first : Int64)

include nonzero

theorem quotients_fold : intDiv.leftFold (first :: rest) = .ok (rest.foldl (· / ·) first) :=
  accepted_fold (fun operand member => nonzero_accepted (nonzero operand member) _) first

theorem remainders_fold : intMod.leftFold (first :: rest) = .ok (rest.foldl (· % ·) first) :=
  accepted_fold (fun operand member => nonzero_accepted (nonzero operand member) _) first

end Fold

/-- What comes of multiplying the first two and adding the third. -/
def recombined (config : Config) (whole part rest : ObjectId) (store : Store) :
    Except DataError Int64 :=
  ((run config do
    let product ← Program.instantiateWith (.builtin .intMul) operandAttribute [whole, part]
    let sum ← Program.instantiateWith (.builtin .intAdd) operandAttribute [product, rest]
    Program.dataizeAs Int64 sum).outcome store).1

section Recombination

variable {deferring : Prop} {store : Store} {whole part rest : ObjectId}
  {quotient divisor remainder : Int64}

theorem recombined_made (config : Config) (reachable : Reachable deferring store)
    (carries : store.graph.Carries [(whole, quotient), (part, divisor), (rest, remainder)]) :
    ∃ after sum, after.Sound deferring ∧ after.activity = .idle ∧
      Means after.graph sum (.ok (.int (quotient * divisor + remainder))) ∧
      (store.HasRoom config [whole, part, rest] 2 → after.HasRoom config [sum] 0) ∧
      recombined config whole part rest store =
        ((run config (Program.dataizeAs Int64 sum)).outcome after).1 := by
  have mulRole : Builtin.intMul.role = .aggregate Fold.intMul.aggregate := rfl
  have addRole : Builtin.intAdd.role = .aggregate Fold.intAdd.aggregate := rfl
  have sound := reachable_sound reachable
  obtain ⟨wholeMeans, others⟩ := carries_cons.mp carries
  obtain ⟨partMeans, others⟩ := carries_cons.mp others
  have restMeans := carries_single.mp others
  have factors : store.graph.Carries [(whole, quotient), (part, divisor)] :=
    carries_cons.mpr ⟨wholeMeans, carries_single.mpr partMeans⟩
  obtain ⟨middle, madeProduct, gains⟩ :=
    operator_made config mulRole rfl sound (reachable_idle reachable) factors
  have product : Means middle.graph store.nextId (.ok (.int (quotient * divisor))) :=
    gains_means gains factors rfl
  have terms : middle.graph.Carries [(store.nextId, quotient * divisor), (rest, remainder)] :=
    carries_cons.mpr ⟨product, carries_single.mpr (means_within gains.within restMeans)⟩
  obtain ⟨after, madeSum, gainsSum⟩ :=
    operator_made config addRole rfl gains.sound gains.idle terms
  refine ⟨after, middle.nextId, gainsSum.sound, gainsSum.idle, gains_means gainsSum terms rfl,
    ?_, ?_⟩
  · intro room
    have present : ∀ other ∈ [rest], ∃ node, store.graph other node :=
      List.forall_mem_singleton.mpr (means_shown restMeans)
    have roomProduct : middle.HasRoom config [store.nextId, rest] 1 :=
      gains_has_room gains sound factors present room
    exact gains_has_room gainsSum gains.sound terms (List.forall_mem_nil _) roomProduct
  · rw [recombined, run, run_bind]
    refine congrArg Prod.fst ((outcome_bind_ok madeProduct _).trans ?_)
    rw [run_bind]
    exact outcome_bind_ok madeSum _

theorem recombined_restores (config : Config) (reachable : Reachable deferring store)
    (carries : store.graph.Carries [(whole, quotient), (part, divisor), (rest, remainder)])
    (fits : (∀ limit, recombined config whole part rest store ≠ .error (.depthExceeded limit)) ∨
      store.HasRoom config [whole, part, rest] 2) :
    recombined config whole part rest store = .ok (quotient * divisor + remainder) := by
  obtain ⟨after, sum, sound, idle, means, room, dataized⟩ :=
    recombined_made config reachable carries
  rw [dataized] at fits ⊢
  rcases fits with fits | there
  · exact carried_found sound idle means fits
  · exact carried_has_room sound idle means (room there)

end Recombination

/-- Quotient and remainder of a division by anything but zero are what the operators come to,
whichever objects carry the operands, and recombining them restores the dividend. More operands
are divided by one after another. All this takes no more than room for the operators, and there
is that room on leaves. -/
theorem division_truncates {deferring : Prop} {store : Store}
    (reachable : Reachable deferring store) (config : Config) :
    (∀ dividend divisor : Int64, divisor ≠ 0 → ∃ quotient remainder,
      Divides dividend divisor quotient remainder ∧
        (∀ left right : ObjectId,
          let operands := [(left, dividend), (right, divisor)]
          store.graph.Carries operands →
            Comes config .intDiv operands store (· = quotient) ∧
              Comes config .intMod operands store (· = remainder)) ∧
        ∀ whole part rest : ObjectId,
          store.graph.Carries [(whole, quotient), (part, divisor), (rest, remainder)] →
            let total := recombined config whole part rest store
            (∀ limit, total ≠ .error (.depthExceeded limit)) ∨
                store.HasRoom config [whole, part, rest] 2 →
              total = .ok dividend) ∧
      (∀ (first : ObjectId × Int64) (rest : List (ObjectId × Int64)),
        (∀ operand ∈ rest, operand.2 ≠ 0) →
          let operands := first :: rest
          store.graph.Carries operands →
            Comes config .intDiv operands store
                (Iterates IsQuotient first.2 (rest.map Prod.snd)) ∧
              Comes config .intMod operands store
                (Iterates IsRemainder first.2 (rest.map Prod.snd)) ∧
              (store.HasRoom config (operands.map Prod.fst) 1 →
                Fits config .intDiv operands store ∧ Fits config .intMod operands store)) ∧
      ∀ (origins : List ObjectId) (operators : Nat),
        (∀ origin ∈ origins, ∃ data, store.leaf? origin = some data) →
          operators ≤ config.limit → store.HasRoom config origins operators := by
  have divRole : Builtin.intDiv.role = .aggregate Fold.intDiv.aggregate := rfl
  have modRole : Builtin.intMod.role = .aggregate Fold.intMod.aggregate := rfl
  refine ⟨?_, ?_, fun origins operators leaves enough => leaves_have_room leaves enough⟩
  · intro dividend divisor nonzero
    have divides : Divides dividend divisor _ _ := words_divide nonzero
    have only : ∀ operand ∈ [divisor], operand ≠ 0 := List.forall_mem_singleton.mpr nonzero
    refine ⟨_, _, divides, ?_, ?_⟩
    · intro left right operands carries
      constructor
      · exact comes_folded divRole rfl reachable carries
          ⟨_, Fold.quotients_fold only dividend, rfl⟩
      · exact comes_folded modRole rfl reachable carries
          ⟨_, Fold.remainders_fold only dividend, rfl⟩
    · intro whole part rest carries total fits
      have combined := recombined_restores config reachable carries fits
      rw [divides.restored] at combined
      exact combined
  · intro first rest nonzero operands carries
    have divisors : ∀ operand ∈ rest.map Prod.snd, operand ≠ 0 := List.forall_mem_map.mpr nonzero
    have quotients := Fold.quotients_fold divisors first.2
    have remainders := Fold.remainders_fold divisors first.2
    refine ⟨?_, ?_, ?_⟩
    · exact comes_folded divRole rfl reachable carries ⟨_, quotients, iterates_foldl
        (fun operand member _ => ⟨_, words_divide (divisors operand member)⟩) first.2⟩
    · exact comes_folded modRole rfl reachable carries ⟨_, remainders, iterates_foldl
        (fun operand member _ => ⟨_, words_divide (divisors operand member)⟩) first.2⟩
    · intro room
      exact ⟨fits_of_ok (applied_has_room divRole rfl reachable carries quotients room),
        fits_of_ok (applied_has_room modRole rfl reachable carries remainders room)⟩

/-- The least word, minus one and zero. -/
def Store.brink : Store :=
  let least := (Store.empty.addLeaf (.fixed (.int Int64.minValue))).2
  let negative := (least.addLeaf (.fixed (.int (-1)))).2
  (negative.addLeaf (.fixed (.int 0))).2

theorem brink_reachable : Reachable False Store.brink := by
  have start : Reachable False .empty := .refl
  have least := reachable_leaf start (.int Int64.minValue)
  exact reachable_leaf (reachable_leaf least (.int (-1))) (.int 0)

theorem brink_means (object : ObjectId) (word : Int64)
    (held : Store.brink.Holds object (.leaf (.fixed (.int word)))) :
    Means Store.brink.graph object (.ok (.int word)) :=
  .leaf ⟨_, held, rfl⟩

/-- The quotient wraps to the dividend and nothing is left over, so the product has to wrap. -/
theorem brink_restored :
    let operands : List (ObjectId × Int64) := [(⟨0⟩, Int64.minValue), (⟨1⟩, -1)]
    Reachable False Store.brink ∧ Store.brink.graph.Carries operands ∧
      Store.brink.HasRoom .default (operands.map Prod.fst) 1 ∧
      Store.brink.HasRoom .default [⟨0⟩, ⟨1⟩, ⟨2⟩] 2 ∧
      applied .default .intDiv operands Store.brink = .ok Int64.minValue ∧
      applied .default .intMod operands Store.brink = .ok 0 ∧
      recombined .default ⟨0⟩ ⟨1⟩ ⟨2⟩ Store.brink = .ok Int64.minValue := by
  intro operands
  obtain ⟨divides, iterates, room⟩ := division_truncates brink_reachable .default
  have nonzero : (-1 : Int64) ≠ 0 := by decide
  have carries : Store.brink.graph.Carries operands :=
    carries_cons.mpr ⟨brink_means _ _ rfl, carries_single.mpr (brink_means _ _ rfl)⟩
  have parts : Store.brink.graph.Carries
      [((⟨0⟩ : ObjectId), Int64.minValue), (⟨1⟩, -1), (⟨2⟩, 0)] :=
    carries_cons.mpr ⟨brink_means _ _ rfl,
      carries_cons.mpr ⟨brink_means _ _ rfl, carries_single.mpr (brink_means _ _ rfl)⟩⟩
  have leaves : ∀ origin ∈ [(⟨0⟩ : ObjectId), ⟨1⟩, ⟨2⟩],
      ∃ data, Store.brink.leaf? origin = some data :=
    List.forall_mem_cons.mpr ⟨⟨_, rfl⟩, List.forall_mem_cons.mpr ⟨⟨_, rfl⟩,
      List.forall_mem_singleton.mpr ⟨_, rfl⟩⟩⟩
  have roomBelow : Store.brink.HasRoom .default (operands.map Prod.fst) 1 := by
    refine room _ 1 (fun origin among => leaves origin ?_) (by decide)
    exact (List.mem_append_left [⟨2⟩] among : origin ∈ operands.map Prod.fst ++ [⟨2⟩])
  have roomAbove : Store.brink.HasRoom .default [⟨0⟩, ⟨1⟩, ⟨2⟩] 2 := room _ 2 leaves (by decide)
  obtain ⟨quotient, remainder, splits, comes, restores⟩ := divides Int64.minValue (-1) nonzero
  obtain ⟨rfl, rfl⟩ := splits.beyond ⟨rfl, rfl⟩
  obtain ⟨quotients, remainders⟩ := comes ⟨0⟩ ⟨1⟩ carries
  obtain ⟨_, _, fits⟩ := iterates (⟨0⟩, Int64.minValue) [(⟨1⟩, -1)]
    (List.forall_mem_singleton.mpr nonzero) carries
  obtain ⟨fitsDiv, fitsMod⟩ := fits roomBelow
  obtain ⟨_, divided, rfl⟩ := quotients fitsDiv
  obtain ⟨_, left, rfl⟩ := remainders fitsMod
  exact ⟨brink_reachable, carries, roomBelow, roomAbove, divided, left,
    restores ⟨0⟩ ⟨1⟩ ⟨2⟩ parts (.inr roomAbove)⟩

end ObjectCalculus
