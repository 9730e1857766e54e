import HcuAutoOpt.Storage.GenerationLedger
import HcuAutoOpt.Agent.ScheduledRuns
import HcuAutoOpt.Foundation.GroupedSums
import HcuAutoOpt.Foundation.AgreeingCalls
import Mathlib.Algebra.BigOperators.Ring.List
import Mathlib.Tactic.Ring

/-!
# Budgets and their shares

A usage has an amount of each of the things that a budget limits (`BudgetDimension`), and sums,
bounds and limits are stated for all of them at once. The plan gives every generator a share of
its budget: what all its attempts may use, or for proposals what the one attempt may use that
succeeds. When the attempts of a run are chains and each is charged with no more than its
reservation, the charges of the run stay within its budget (`sum_charges_le`).
-/

set_option autoImplicit false

namespace HcuAutoOpt

namespace Agent

open Foundation

/-- The things that a budget limits. -/
inductive BudgetDimension where
  | attempts
  | wallMilliseconds
  | outputBytes
  | tokens
  | proposals
  deriving DecidableEq, Repr

/-- How much of a thing has been used. -/
def GenerationBudgetUsage.amount (usage : GenerationBudgetUsage) : BudgetDimension → Nat
  | .attempts => usage.attempts
  | .wallMilliseconds => usage.wallMilliseconds
  | .outputBytes => usage.outputBytes
  | .tokens => usage.tokens
  | .proposals => usage.proposals

/-- How much of a thing the budget allows. -/
def GenerationBudget.limit (budget : GenerationBudget) : BudgetDimension → Nat
  | .attempts => budget.maxGeneratorAttempts
  | .wallMilliseconds => budget.maxWallSeconds * 1000
  | .outputBytes => budget.maxTotalOutputBytes
  | .tokens => budget.maxTotalTokens
  | .proposals => budget.maxProposals

/-- The greatest amount that a usage can state. -/
def BudgetDimension.greatest : BudgetDimension → Nat
  | .attempts => 64
  | .wallMilliseconds => 86400000
  | .outputBytes => 100000000
  | .tokens => 100000000
  | .proposals => 32

/-! ## Amounts -/

section Amounts

variable {usage other : GenerationBudgetUsage} {budget : GenerationBudget}

theorem BudgetDimension.forall_iff {P : BudgetDimension → Prop} : (∀ dimension, P dimension) ↔
    P .attempts ∧ P .wallMilliseconds ∧ P .outputBytes ∧ P .tokens ∧ P .proposals := by
  constructor
  · intro all
    exact ⟨all _, all _, all _, all _, all _⟩
  · rintro ⟨attempts, wall, output, tokens, proposals⟩ dimension
    cases dimension <;> assumption

theorem valid_iff : usage.Valid ↔ ∀ dimension, usage.amount dimension ≤ dimension.greatest := by
  rw [BudgetDimension.forall_iff]
  rfl

theorem fits_iff :
    usage.Fits budget ↔ ∀ dimension, usage.amount dimension ≤ budget.limit dimension := by
  rw [BudgetDimension.forall_iff]
  rfl

theorem usageIsWithinReservation_iff : usageIsWithinReservation usage other = true ↔
    ∀ dimension, usage.amount dimension ≤ other.amount dimension := by
  unfold usageIsWithinReservation
  rw [decide_eq_true_eq, BudgetDimension.forall_iff]
  rfl

theorem GenerationBudgetUsage.amount_zero (dimension : BudgetDimension) :
    ({} : GenerationBudgetUsage).amount dimension = 0 := by
  cases dimension <;> rfl

theorem GenerationBudget.Bounded.limit_le (bounded : budget.Bounded) (dimension : BudgetDimension) :
    budget.limit dimension ≤ dimension.greatest := by
  obtain ⟨attempts, wall, output, tokens, proposals⟩ := bounded
  cases dimension with
  | attempts => exact attempts.2
  | wallMilliseconds => exact Nat.mul_le_mul_right 1000 wall.2
  | outputBytes => exact output.2
  | tokens => exact tokens.2
  | proposals => exact proposals.2

/-- **Adding two usages** adds their amounts, when the sums can be stated. -/
theorem plus_eq_ok (usage other : GenerationBudgetUsage) (room : ∀ dimension,
    usage.amount dimension + other.amount dimension ≤ dimension.greatest) :
    ∃ total, usage.plus other = .ok total ∧ ∀ dimension,
      total.amount dimension = usage.amount dimension + other.amount dimension := by
  let total : GenerationBudgetUsage :=
    { attempts := usage.attempts + other.attempts
      wallMilliseconds := usage.wallMilliseconds + other.wallMilliseconds
      outputBytes := usage.outputBytes + other.outputBytes
      tokens := usage.tokens + other.tokens
      proposals := usage.proposals + other.proposals }
  have amounts : ∀ dimension,
      total.amount dimension = usage.amount dimension + other.amount dimension := by
    intro dimension
    cases dimension <;> rfl
  have valid : total.Valid := by
    rw [valid_iff]
    intro dimension
    rw [amounts]
    exact room dimension
  refine ⟨total, ?_, amounts⟩
  exact Except.bind_eq_ok.mpr ⟨(), require_eq_ok.mpr valid, rfl⟩

/-- **Summing usages** sums their amounts, when the sums can be stated. -/
theorem sumUsage_eq_ok (items : List GenerationBudgetUsage) (room : ∀ dimension,
    (items.map fun item => item.amount dimension).sum ≤ dimension.greatest) :
    ∃ total, sumUsage items = .ok total ∧ ∀ dimension,
      total.amount dimension = (items.map fun item => item.amount dimension).sum := by
  suffices from_start : ∀ (items : List GenerationBudgetUsage) (start : GenerationBudgetUsage),
      (∀ dimension, start.amount dimension +
        (items.map fun item => item.amount dimension).sum ≤ dimension.greatest) →
      ∃ total, items.foldlM GenerationBudgetUsage.plus start = .ok total ∧ ∀ dimension,
        total.amount dimension = start.amount dimension +
          (items.map fun item => item.amount dimension).sum by
    obtain ⟨total, summed, amounts⟩ := from_start items {} fun dimension => by
      rw [GenerationBudgetUsage.amount_zero, Nat.zero_add]
      exact room dimension
    refine ⟨total, summed, fun dimension => ?_⟩
    rw [amounts, GenerationBudgetUsage.amount_zero, Nat.zero_add]
  intro items
  induction items with
  | nil => exact fun start _ => ⟨start, rfl, fun _ => rfl⟩
  | cons item items ih =>
      intro start room
      simp only [List.map_cons, List.sum_cons, ← Nat.add_assoc] at room
      obtain ⟨next, added, amounts⟩ := plus_eq_ok start item
        fun dimension => (Nat.le_add_right _ _).trans (room dimension)
      obtain ⟨total, summed, amounts'⟩ := ih next fun dimension => by
        rw [amounts]
        exact room dimension
      refine ⟨total, ?_, fun dimension => ?_⟩
      · rw [List.foldlM_cons, added]
        exact summed
      · rw [amounts', amounts, List.map_cons, List.sum_cons, Nat.add_assoc]

end Amounts

/-! ## Shares of a plan -/

/-- What the attempts of a generator may use. Only one of them can keep its proposals. -/
def GeneratorPlanEntry.share (generator : GeneratorPlanEntry) (dimension : BudgetDimension) : Nat :=
  if dimension = .proposals then generator.maxProposals
  else generator.maxAttempts * (reservedUsageFor generator).amount dimension

/-- A reservation can be stated. -/
theorem GeneratorPlanEntry.Bounded.reserved_valid {generator : GeneratorPlanEntry}
    (bounded : generator.Bounded) : (reservedUsageFor generator).Valid := by
  obtain ⟨proposals, output, tokens⟩ := bounded
  have timeout := generator.timeoutSeconds_range
  refine ⟨Nat.le_add_left 1 63, ?_, output.2, tokens.2, proposals.2.trans (Nat.le_add_left 8 24)⟩
  change generator.timeoutSeconds.toNat * 1000 ≤ 86400000
  omega

/-- The shares of a plan are within its budget. -/
theorem ApexGenerationPlan.Bounded.sum_shares_le {plan : ApexGenerationPlan}
    (bounded : plan.Bounded) (dimension : BudgetDimension) :
    (plan.generators.map fun generator => generator.share dimension).sum ≤
      plan.budget.limit dimension := by
  cases dimension with
  | attempts =>
      refine le_of_eq_of_le (congrArg List.sum ?_) bounded.attempts
      exact List.map_congr_left fun generator _ => Nat.mul_one _
  | wallMilliseconds =>
      have scaled : (plan.generators.map fun generator => generator.share .wallMilliseconds) =
          plan.generators.map fun generator =>
            generator.timeoutSeconds.toNat * generator.maxAttempts * 1000 := by
        refine List.map_congr_left fun generator _ => ?_
        change generator.maxAttempts * (generator.timeoutSeconds.toNat * 1000) = _
        ring
      rw [scaled, List.sum_map_mul_right]
      exact Nat.mul_le_mul_right 1000 bounded.wallSeconds
  | outputBytes =>
      refine le_of_eq_of_le (congrArg List.sum ?_) bounded.outputBytes
      exact List.map_congr_left fun generator _ => Nat.mul_comm _ _
  | tokens =>
      refine le_of_eq_of_le (congrArg List.sum ?_) bounded.tokens
      exact List.map_congr_left fun generator _ => Nat.mul_comm _ _
  | proposals => exact bounded.proposals

/-- **A chain of attempts stays within the share of its generator**, when each attempt is charged
with no more than its reservation and failed ones with no proposals. -/
theorem Chain.sum_charges_le {turns : List GeneratorAttempt} {generator : GeneratorPlanEntry}
    (chain : Chain turns generator.maxAttempts) (distinct : turns.Nodup)
    {charge : GeneratorAttempt → Nat} {dimension : BudgetDimension}
    (within : ∀ attempt ∈ turns, charge attempt ≤ (reservedUsageFor generator).amount dimension)
    (failed : dimension = .proposals → ∀ attempt ∈ turns, attempt.state = .failed →
      charge attempt = 0) :
    (turns.map charge).sum ≤ generator.share dimension := by
  unfold GeneratorPlanEntry.share
  split
  · rename_i proposals
    subst proposals
    refine sum_map_le_of_lone distinct within fun first member second member' charged charged' => ?_
    exact chain.eq_of_not_failed member member'
      (fun ended => charged (failed rfl first member ended))
      fun ended => charged' (failed rfl second member' ended)
  · have each : (turns.map charge).sum ≤
        turns.length * (reservedUsageFor generator).amount dimension := by
      have bound := List.sum_le_card_nsmul (turns.map charge)
        ((reservedUsageFor generator).amount dimension) (by simpa using within)
      simpa using bound
    exact each.trans (Nat.mul_le_mul_right _ chain.limited)

/-- **The charges of a run stay within its budget.** -/
theorem sum_charges_le {s : GenerationStore} {run : GenerationRun} (sound : s.Sound)
    (scheduled : s.Scheduled run) (stored : run ∈ s.runs) (bounded : run.plan.Bounded)
    {charge : GeneratorAttempt → Nat} {dimension : BudgetDimension}
    (within : ∀ attempt ∈ s.attempts, attempt.generationRunId = run.generationRunId →
      ∀ generator, run.plan.generators[attempt.generatorOrdinal]? = some generator →
        charge attempt ≤ (reservedUsageFor generator).amount dimension)
    (failed : dimension = .proposals → ∀ attempt ∈ s.attempts, attempt.state = .failed →
      charge attempt = 0) :
    ((s.attempts.rows.filter fun attempt =>
      decide (attempt.generationRunId = run.generationRunId)).map charge).sum ≤
        run.plan.budget.limit dimension := by
  have shares : ((List.range run.plan.generators.length).map fun ordinal =>
      (run.plan.generators[ordinal]?.map fun generator => generator.share dimension).getD 0) =
        run.plan.generators.map fun generator => generator.share dimension := by
    refine List.ext_getElem (by simp) fun ordinal inRange _ => ?_
    rw [List.length_map, List.length_range] at inRange
    simp [inRange]
  refine (sum_map_le_of_shares GeneratorAttempt.generatorOrdinal charge List.nodup_range ?_
    (fun ordinal => (run.plan.generators[ordinal]?.map
      fun generator => generator.share dimension).getD 0) ?_).trans
        (shares ▸ bounded.sum_shares_le dimension)
  · intro attempt member
    obtain ⟨inTable, ofRun⟩ := List.mem_filter.mp member
    obtain ⟨other, inRuns, belongs, generator, planned, -⟩ := sound.placed attempt inTable
    have same : other = run :=
      Table.eq_of_key_eq inRuns stored (belongs.1.trans (of_decide_eq_true ofRun))
    rw [same] at planned
    exact List.mem_range.mpr (List.getElem?_eq_some_iff.mp planned).1
  · intro ordinal member
    have inRange := List.mem_range.mp member
    have planned : run.plan.generators[ordinal]? = some run.plan.generators[ordinal] :=
      List.getElem?_eq_getElem inRange
    have turns : group GeneratorAttempt.generatorOrdinal (s.attempts.rows.filter fun attempt =>
        decide (attempt.generationRunId = run.generationRunId)) ordinal =
          s.turns run.generationRunId ordinal := by
      unfold group GenerationStore.turns
      rw [List.filter_filter]
      refine List.filter_congr fun attempt _ => ?_
      rw [Bool.decide_and, Bool.and_comm]
    rw [turns, planned]
    refine (scheduled.chains ordinal _ planned).sum_charges_le
      (s.attempts.keys_nodup.of_map _ |>.filter _) ?_ ?_
    · intro attempt inChain
      obtain ⟨inTable, ofRun, ofOrdinal⟩ := mem_turns.mp inChain
      exact within attempt inTable ofRun _ (ofOrdinal ▸ planned)
    · intro proposals attempt inChain
      exact failed proposals attempt (mem_turns.mp inChain).1

end Agent

end HcuAutoOpt
