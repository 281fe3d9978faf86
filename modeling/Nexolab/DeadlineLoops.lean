import Nexolab.SchedulerMaps

/-!
# The next deadline after an outage

A completion steps the deadline of its target one interval at a time; the
recovery of a worker computes the number of steps at once.  Both leave every
target on the grid of its old deadline.
-/

namespace Nexolab

variable {interval limit completed deadline start now : ℚ} {fuel skipped : ℕ}

/-- The deadline behind the points of a grid which are not after `limit`.  The
points `first`, `first + 1`, … are those which can be jumped over. -/
structure NextOnGrid (deadline interval limit : ℚ) (first : ℕ) (next : ℚ) (jumped : ℕ) : Prop where
  later : limit < next
  within : deadline ≤ limit → next ≤ limit + interval
  congruent : ∃ steps : ℕ, next = deadline + steps * interval
  jumped_iff : ∀ k : ℕ, deadline + (first + k : ℕ) * interval ≤ limit ↔ k < jumped

namespace Scheduler

variable {scheduler current after : Scheduler} {busId : String}

def Waits (scheduler : Scheduler) (now : ℚ) (job : Job) : Prop :=
  now < job.nextDeadline ∨ ∃ endpoint, scheduler.endpoints job.target.endpointKey = some endpoint ∧
      now < endpoint.cooldownUntil

/-- What the recovery makes of one target: a job which waits stays as it is. -/
structure RecoversTo (scheduler after : Scheduler) (now : ℚ) (targetId : String)
    (jumped : ℕ) : Prop where
  unknown : scheduler.jobs targetId = none → after.jobs targetId = none ∧ jumped = 0
  waiting : ∀ job, scheduler.jobs targetId = some job → scheduler.Waits now job →
    after.jobs targetId = some job ∧ jumped = 0
  overdue : ∀ job, scheduler.jobs targetId = some job → ¬ scheduler.Waits now job →
    ∃ next, after.jobs targetId = some { job with nextDeadline := next } ∧
      NextOnGrid job.nextDeadline job.target.intervalSeconds now 0 next jumped

/-- The recovery from `current` on, and what it adds to `total` skipped polls. -/
structure RecoversAll (scheduler current after : Scheduler) (now : ℚ)
    (busId : String) (targetIds : List String) (total : ℕ) : Prop where
  others : ∀ targetId, targetId ∉ targetIds → after.jobs targetId = current.jobs targetId
  listed : ∃ jumps counters, List.Forall₂ (scheduler.RecoversTo after now) targetIds jumps ∧
      after.metrics busId = some counters ∧
      counters.deadlineSkippedTotal = total + jumps.sum

theorem RecoversAll.cons {next : Scheduler} {first : String} {rest : List String}
    {total : ℕ} (jumped : ℕ) (hfirst : first ∉ rest)
    (hnext : ∀ targetId, targetId ≠ first →
      next.jobs targetId = current.jobs targetId)
    (hto : after.jobs first = next.jobs first →
      scheduler.RecoversTo after now first jumped)
    (hrest : scheduler.RecoversAll next after now busId rest (total + jumped)) :
    scheduler.RecoversAll current after now busId (first :: rest) total := by
  obtain ⟨hothers, jumps, counters, hforall, hcounters, hsum⟩ := hrest
  constructor
  case others =>
    intro targetId hnot
    rw [List.mem_cons, not_or] at hnot
    rw [hothers targetId hnot.2, hnext targetId hnot.1]
  case listed =>
    refine ⟨jumped :: jumps, counters, .cons (hto (hothers first hfirst)) hforall, hcounters, ?_⟩
    rw [hsum, List.sum_cons, Nat.add_assoc]

end Scheduler

example : skipOverdue 5 20 3 10 0 = (25, 3) := by decide +kernel

end Nexolab
