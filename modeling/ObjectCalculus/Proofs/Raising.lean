import ObjectCalculus.Proofs.Purity
import ObjectCalculus.Proofs.Room

/-!
# Higher limits

A limit shows only where it is hit. Whatever a dataization does without being refused for
its depth, it does in the same way under every higher limit: with the same outcome, the same
objects made and changed, and the same reports.
-/

set_option autoImplicit false

namespace ObjectCalculus

open Effect Evaluation

structure Config.Below (config higher : Config) : Prop where
  limit : config.limit ≤ higher.limit
  trace : higher.traceDataization = config.traceDataization

namespace Act

def extended (more : Nat) : Act → Act
  | .chain moves visited object result => .chain (moves + more) visited object result
  | .compute object result => .compute object result
  | .collect form items result => .collect form items result

def Unhit (act : Act) : Prop :=
  ∀ failure, act.failure? = some failure → ¬failure.Overrun

end Act

section Raised

variable {config higher : Config} {store after : Store} {object item : ObjectId}
  {moves : Nat} {visited : List ObjectId}

theorem stepped_raised (below : config.Below higher) (object : ObjectId) (name : String)
    (store : Store) : stepped higher object name store = stepped config object name store := by
  simp only [stepped, below.trace]

theorem admits_raised (below : config.Below higher) (admitted : store.Admits config object) :
    store.Admits higher object where
  idle := admitted.idle
  room := Nat.lt_of_lt_of_le admitted.room below.limit

theorem chain_unhit {result : Except DataError Value}
    (unhit : ∀ exceeded, result ≠ .error (.depthExceeded exceeded)) :
    (Act.chain moves visited object result).Unhit := by
  intro failure failed overrun
  cases result with
  | ok value => cases failed
  | error found =>
      cases failed
      cases failure with
      | depthExceeded exceeded => exact unhit exceeded rfl
      | _ => cases overrun

theorem item_raised {result : Except DataError Value} (below : config.Below higher)
    (runs : ∀ more, Runs higher (.chain (config.limit + more) visited item result) store after) :
    Runs higher (.chain higher.limit visited item result) store after := by
  have raised := runs (higher.limit - config.limit)
  rwa [Nat.add_sub_cancel' below.limit] at raised

/-- The induction is on the run under the lower limit: its chains have the more moves left,
and only the two refusals for depth ask for the limit itself. -/
theorem runs_raised {act : Act} (below : config.Below higher)
    (runs : Runs config act store after) (unhit : act.Unhit) (more : Nat) :
    Runs higher (act.extended more) store after := by
  have longer (moves more : Nat) : moves + 1 + more = moves + more + 1 := by omega
  induction runs generalizing more with
  | leaf held => exact .leaf held
  | deferred held => exact .deferred held
  | revisited composed seen => exact .revisited composed seen
  | exhausted | deep => exact absurd trivial (unhit _ rfl)
  | unbound holds fresh =>
      rw [Act.extended, longer, ← stepped_raised below]
      exact .unbound holds fresh
  | @bound moves visited object target result store after builtin role holds fresh _ ih =>
      have inside : (Act.chain moves (object :: visited) target result).Unhit := by
        cases result <;> exact unhit
      rw [Act.extended, longer]
      rw [← stepped_raised below] at ih
      exact .bound holds fresh (ih inside more)
  | failed holds fresh _ ih =>
      rw [Act.extended, longer]
      rw [← stepped_raised below] at ih
      exact .failed holds fresh (ih unhit more)
  | computed holds fresh _ held ih =>
      rw [Act.extended, longer]
      rw [← stepped_raised below] at ih
      exact .computed holds fresh (ih nofun more) held
  | active holds marked => exact .active holds marked
  | kept holds admitted => exact .kept holds (admits_raised below admitted)
  | cut holds admitted _ ih =>
      exact .cut holds (admits_raised below admitted) (ih unhit more)
  | rejected holds admitted _ total ih =>
      exact .rejected holds (admits_raised below admitted) (ih nofun more) total
  | published holds admitted _ total waiting ih =>
      exact .published holds (admits_raised below admitted) (ih nofun more) total waiting
  | nil => exact .nil
  | unresolved _ ih => exact .unresolved (item_raised below (ih unhit))
  | refused _ refusal ih => exact .refused (item_raised below (ih nofun)) refusal
  | later _ accepted _ ihFirst ihOthers =>
      exact .later (item_raised below (ihFirst nofun)) accepted (ihOthers unhit more)
  | cons _ accepted _ ihFirst ihOthers =>
      exact .cons (item_raised below (ihFirst nofun)) accepted (ihOthers nofun more)

end Raised

/-- A dataization that is not refused for its depth has the same outcome under every higher
limit, and leaves the same store: the same objects, the same next number, the same reports. -/
theorem higher_limits_change_nothing {deferring : Prop} {store : Store} {object : ObjectId}
    (reachable : Reachable deferring store) (contained : store.Contains object)
    (config : Config) (limit : UInt64) (higher : config.maxDepth ≤ limit)
    (unhit : ∀ exceeded,
      ((resolve config object).outcome store).1 ≠ .error (.depthExceeded exceeded)) :
    (resolve { config with maxDepth := limit } object).outcome store =
      (resolve config object).outcome store := by
  have below : config.Below { config with maxDepth := limit } :=
    ⟨UInt64.le_iff_toNat_le.mp higher, rfl⟩
  have runs : Runs config (.chain config.limit [] object
      ((resolve config object).outcome store).1) store
        ((resolve config object).outcome store).2 :=
    resolve_runs (reachable_sound reachable) contained rfl
  exact runs_performed (item_raised below (runs_raised below runs (chain_unhit unhit)))

/-- Two nested sums fit a limit of two, under which the inner one is computed and kept as
under a limit of a thousand. -/
theorem nested_sum_has_room :
    let config : Config := ⟨2, true⟩
    Reachable False Store.nested ∧ Store.nested.Contains ⟨3⟩ ∧ config.maxDepth ≤ 1000 ∧
      ((resolve config ⟨3⟩).outcome Store.nested).1 = .ok (.int 7) ∧
      (resolve ⟨1000, true⟩ ⟨3⟩).outcome Store.nested =
        (resolve config ⟨3⟩).outcome Store.nested := by
  intro config
  have reachable : Reachable False Store.nested := sum_reachable.tail (.apply .intAdd (by decide))
  have contained : Store.nested.Contains ⟨3⟩ := by decide
  have higher : config.maxDepth ≤ 1000 := by decide
  have found : ((resolve config ⟨3⟩).outcome Store.nested).1 = .ok (.int 7) := rfl
  have unhit (exceeded : Nat) :
      ((resolve config ⟨3⟩).outcome Store.nested).1 ≠ .error (.depthExceeded exceeded) := by
    rw [found]
    nofun
  exact ⟨reachable, contained, higher, found,
    higher_limits_change_nothing reachable contained config 1000 higher unhit⟩

end ObjectCalculus
