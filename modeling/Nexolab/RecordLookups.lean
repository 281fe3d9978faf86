import Nexolab.RecordHistories

/-!
# Lookups in the histories of the records

In every run of operations, each history is a partition of the time from its first
record to its end, and what was looked up at a time is not changed by what takes effect
later.  A binding is moreover given out only while its instrument is accepted.
-/

namespace Nexolab

open HistoryRow

namespace InstrumentRegistry

variable {registry : InstrumentRegistry}

theorem effective_eq_filter (key : HistoryKey) (time : Instant) :
    (registry.effective key time).map identity = selected (registry.history key) time := rfl

theorem Sound.resolveRecord_identity (hsound : registry.Sound) (key : HistoryKey) (time : Instant) :
    (registry.resolveRecord key time).toOption.map identity =
      match selected (registry.history key) time with
      | [record] => some record
      | _ => none := by
  have hrow : ∀ row, registry.resolveRecord key time = .ok row ↔
      registry.effective key time = [row] := fun _ => hsound.resolveRecord_eq_ok
  rw [← effective_eq_filter]
  cases hresv : registry.resolveRecord key time with
  | ok row =>
    rw [(hrow row).mp hresv]
    rfl
  | error error =>
    have hnone : ∀ row, registry.effective key time ≠ [row] := by
      intro row hone
      rw [(hrow row).mpr hone] at hresv
      cases hresv
    cases heffective : registry.effective key time with
    | nil => rfl
    | cons row rest =>
      cases rest with
      | nil => exact absurd heffective (hnone row)
      | cons => rfl

theorem acceptedAt_eq (instrumentId : String) (time : Instant) :
    registry.acceptedAt instrumentId time =
      match selected (registry.history (.acceptance instrumentId)) time with
      | [(_, _, record)] => decide (record.content = .acceptance true)
      | _ => false := by
  unfold acceptedAt
  rw [← effective_eq_filter]
  cases registry.effective (.acceptance instrumentId) time with
  | nil => rfl
  | cons row rest =>
    cases rest with
    | nil => rfl
    | cons => rfl

theorem resolveBinding_eq_ok {circuitId : String} {role : ProcessRole} {time : Instant}
    {row : RecordRow} {signal : Signal} {instrument : Instrument}
    (hresv : registry.resolveBindingIdentity circuitId role time = .ok (row, signal, instrument)) :
    registry.resolveBinding circuitId role time = .ok (row, signal, instrument) ↔
      registry.acceptedAt instrument.id time = true := by
  have hshape : validateRoleShape signal instrument role = .ok () := by
    simp only [resolveBindingIdentity, bind_eq_ok] at hresv
    obtain ⟨_, _, _, _, ⟨foundSignal, foundInstrument⟩, _, _, hshape, hfound⟩ := hresv
    cases hfound
    exact hshape
  have hauthority : registry.resolveBinding circuitId role time =
      (registry.validateBindingAuthority signal instrument role time false).map
        fun _ => (row, signal, instrument) := by
    unfold resolveBinding
    rw [hresv]
    rfl
  rw [hauthority]
  unfold validateBindingAuthority
  rw [hshape, ok_bind, Bool.false_and, if_neg Bool.false_ne_true]
  split_ifs with hacc <;> simp [Except.map, hacc]

/-! ## The histories -/

theorem lastOpen_of_run {key : HistoryKey} {actions : List RecordAction}
    (hrun : runFrom InstrumentRegistry.step empty actions = some registry)
    (hends : ∀ action ∈ actions, action.ends key = false) :
    LastOpen (registry.history key) := by
  have hreach : Reaches InstrumentRegistry.step
      (fun _ action => action.ends key = false) empty registry :=
    .of_runFrom (fun _ action haction => hends action haction) hrun
  have hinv := hreach.invariant
    (P := fun registry => registry.Sound ∧ LastOpen (registry.history key))
    (fun before action after ⟨hsound, hopen⟩ hguard hstep =>
      ⟨hsound.step (step_effect hstep), (step_effect hstep).lastOpen hsound hguard hopen⟩)
    ⟨sound_empty, fun _ hrow => absurd hrow (by simp [history, empty, ofKey])⟩
  exact hinv.2

/-- The intervals of every history are disjoint and numbered in time order, only the
last one may be open, and where no binding is ended the reading function returns one
record from the first start on; a binding is given out exactly while the instrument is
accepted.  An operation which takes effect after a time changes nothing which is looked
up at that time. -/
theorem record_histories {actions : List RecordAction}
    (hrun : runFrom InstrumentRegistry.step empty actions = some registry)
    (key : HistoryKey) :
    ((registry.history key).Pairwise fun row later => ∀ time,
        row.covers time = true → later.covers time = false) ∧
      (registry.history key).map revision =
        List.range' 1 (registry.history key).length ∧
      ((registry.history key).Pairwise fun row later =>
        row.validFrom ≤ later.validFrom) ∧
      (∀ row ∈ (registry.history key).dropLast, row.validTo ≠ none) ∧
      ((∀ action ∈ actions, action.ends key = false) →
        ∀ first ∈ (registry.history key).head?, ∀ time, first.validFrom ≤ time →
          ∃ row, registry.effective key time = [row] ∧
            registry.resolveRecord key time = .ok row) ∧
      (∀ circuitId role time row signal instrument,
        registry.resolveBindingIdentity circuitId role time =
            .ok (row, signal, instrument) →
          (registry.resolveBinding circuitId role time = .ok (row, signal, instrument) ↔
            registry.acceptedAt instrument.id time = true)) ∧
      ∀ action next time, registry.step action = some next →
        (∀ effective ∈ action.effectiveAt, time < effective) →
          (next.resolveRecord key time).toOption.map identity =
              (registry.resolveRecord key time).toOption.map identity ∧
            ∀ instrumentId, next.acceptedAt instrumentId time =
              registry.acceptedAt instrumentId time := by
  have hsound := sound_of_run hrun
  have hkey := hsound.consecutive key
  refine ⟨hkey.disjoint, hkey.revisions, hkey.starts_sorted, hkey.closed, ?_, ?_, ?_⟩
  · intro hends first hfirst time htime
    obtain ⟨row, _, hone⟩ :=
      hkey.exists_unique (lastOpen_of_run hrun hends) hfirst htime
    exact ⟨row, hone, hsound.resolveRecord_eq_ok.mpr hone⟩
  · intro _ _ _ _ _ _ hresv
    exact resolveBinding_eq_ok hresv
  · intro action next time hstep hlater
    have heff := step_effect hstep
    have hsel := heff.selected hsound hlater
    constructor
    · rw [(hsound.step heff).resolveRecord_identity, hsound.resolveRecord_identity,
        hsel]
    · intro instrumentId
      rw [acceptedAt_eq, acceptedAt_eq, hsel]

def boundSensor : List RecordAction :=
  [.createInstrument "probe" "P-1" "temperature_sensor" none .active 0 (some 0),
   .createSignal ⟨"suction", "probe", "temperature", "degC", .active⟩,
   .createCircuit "circuit" "life-1" .active 0,
   .appendAcceptance "probe" "acceptance-1" true 10,
   .appendBinding "circuit" .suctionLineTemperature "binding-1" "suction" 20]

def withdrawnSensor : List RecordAction :=
  boundSensor ++ [.appendAcceptance "probe" "acceptance-2" false 30]

theorem record_histories_bound :
    ∃ registry ∈ runFrom InstrumentRegistry.step empty boundSensor,
      ∃ row, registry.effective (.binding "circuit" .suctionLineTemperature) 25 = [row] ∧
        registry.resolveRecord (.binding "circuit" .suctionLineTemperature) 25 =
          .ok row := by
  have hbound : ∃ registry ∈ runFrom InstrumentRegistry.step empty boundSensor,
      ∃ first ∈ (registry.history (.binding "circuit" .suctionLineTemperature)).head?,
        first.validFrom ≤ 25 := by
    decide +kernel
  obtain ⟨registry, hrun, first, hhead, hstart⟩ := hbound
  exact ⟨registry, hrun,
    (record_histories hrun _).2.2.2.2.1 (by decide) first hhead 25 hstart⟩

theorem binding_withheld :
    ∃ registry ∈ runFrom InstrumentRegistry.step empty withdrawnSensor,
      (∀ action ∈ withdrawnSensor,
        action.ends (.binding "circuit" .suctionLineTemperature) = false) ∧
      (registry.effective (.binding "circuit" .suctionLineTemperature) 35).length = 1 ∧
        registry.resolveBinding "circuit" .suctionLineTemperature 35 =
          .error ("semantic binding requires exactly one accepted Instrument authority " ++
            "as-of binding time") := by
  decide +kernel

end InstrumentRegistry

end Nexolab
