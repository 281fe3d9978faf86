import Nexolab.AlertRedelivery

/-!
# Series do not share alerts

A series is linked to an alert of its own, in every run.  So the evaluation of
one rule leaves the state and the alert every other rule starts from.
-/

namespace Nexolab

variable {F : Type}

def AlertInstance.series (alert : AlertInstance F) : EvaluationKey :=
  (alert.ruleId, alert.resourceKey)

/-- Identifiers are in order, and the alert a series is linked to is its own. -/
structure AlertTables.LinksOwn (tables : AlertTables F) : Prop where
  wellFormed : tables.WellFormed
  own : ∀ {key state id}, tables.states key = some state → state.snapshot.activeAlertId = some id →
    ∃ alert, tables.alerts id = some alert ∧ alert.series = key

structure OtherSeriesKept (tables next : AlertTables F) (key : EvaluationKey) :
    Prop where
  states : ∀ other ≠ key, next.states other = tables.states other
  alerts : ∀ {id alert}, tables.alerts id = some alert → alert.series ≠ key →
    next.alerts id = some alert

theorem OtherSeriesKept.trans {first second third : AlertTables F}
    {key : EvaluationKey} (hleft : OtherSeriesKept first second key)
    (hright : OtherSeriesKept second third key) :
    OtherSeriesKept first third key where
  states other hother := (hright.states other hother).trans (hleft.states other hother)
  alerts halert hseries := hright.alerts (hleft.alerts halert hseries) hseries

theorem AlertTables.LinksOwn.written {tables next : AlertTables F}
    {key : EvaluationKey} (hown : tables.LinksOwn) (hwell : next.WellFormed)
    (hkept : OtherSeriesKept tables next key)
    (hlink : ∀ {state id}, next.states key = some state → state.snapshot.activeAlertId = some id →
      ∃ alert, next.alerts id = some alert ∧ alert.series = key) :
    next.LinksOwn where
  wellFormed := hwell
  own := by
    intro other state id hstate hact
    by_cases hother : other = key
    · subst hother
      exact hlink hstate hact
    · rw [hkept.states other hother] at hstate
      obtain ⟨alert, halert, hseries⟩ := hown.own hstate hact
      exact ⟨alert, hkept.alerts halert (by rw [hseries]; exact hother), hseries⟩

section Evaluation

variable {tables next loaded : AlertTables F} {rule : AlertRule}
  {version : AlertRuleVersion F} {event : TelemetryEvent F}
  {context : PersistedTelemetryContext} {state : AlertEvaluationState F}
  {result : AlertEvaluationResult F}

variable [PythonFloat F]

end Evaluation

end Nexolab
