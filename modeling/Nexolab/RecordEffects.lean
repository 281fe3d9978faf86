import Nexolab.RecordOperations

/-!
# What an operation does to the records

An operation appends a row behind the open last one of a history, ends the open row of
a binding, or leaves the records; no identity a record refers to is taken away.
-/

namespace Nexolab

def RecordAction.effectiveAt : RecordAction → Option Instant
  | .createCircuit _ _ _ validFrom => some validFrom
  | .appendLifecycle _ _ _ validFrom => some validFrom
  | .appendConfiguration _ _ _ validFrom => some validFrom
  | .appendBinding _ _ _ _ validFrom => some validFrom
  | .endBinding _ _ validTo => some validTo
  | .appendAcquisitionSource _ _ _ validFrom => some validFrom
  | .appendAnalogScaling _ _ _ effectiveFrom => some effectiveFrom
  | .appendAcceptance _ _ _ effectiveFrom => some effectiveFrom
  | .appendCalibration _ _ _ _ _ validFrom => some validFrom
  | .appendProfileAcceptance _ _ _ _ _ effectiveFrom => some effectiveFrom
  | _ => none

namespace InstrumentRegistry

variable {before after : InstrumentRegistry} {action : RecordAction}

variable {signal : Signal} {rule : CloseRule} {content : RecordContent}
  {key : HistoryKey} {role : ProcessRole} {signalId sourceId : String}
  {lifecycleState : RegistryLifecycleState}
  {pressureReference : Option PressureReference} {circuitId recordId : String}
  {effectiveFrom : Instant}

theorem signalOf_eq_ok {signalId : String} :
    before.signalOf signalId = .ok signal ↔
      before.signals.find? (fun row => row.id = signalId) = some signal := by
  unfold signalOf
  split
  next row hrow => simp [hrow]
  next hnone => simp [hnone]

theorem instrumentOf_eq_ok {instrumentId : String} {instrument : Instrument} :
    before.instrumentOf instrumentId = .ok instrument ↔
      before.instruments.find? (fun row => row.id = instrumentId) = some instrument := by
  unfold instrumentOf
  split
  next row hrow => simp [hrow]
  next hnone => simp [hnone]

theorem circuitOf_eq_ok {circuitId : String} :
    before.circuitOf circuitId = .ok () ↔ circuitId ∈ before.circuits := by
  unfold circuitOf
  split_ifs with hmem <;> simp [hmem]

variable {validFrom : Instant}

theorem CloseRule.check_eq_ok {last : Option RecordRow}
    (hcheck : rule.check last validFrom = .ok ()) :
    ∀ row ∈ last, row.validTo = none ∧ row.validFrom ≤ validFrom ∧
      (rule.strict = true → row.validFrom < validFrom) := by
  have hopen : ∀ row : RecordRow, rule.checkOpen row = .ok () → row.validTo = none := by
    intro row hrow
    unfold Nexolab.CloseRule.checkOpen at hrow
    split_ifs at hrow with hsome
    simpa using hsome
  have horder : ∀ row : RecordRow, rule.checkOrder row validFrom = .ok () →
      row.validFrom ≤ validFrom ∧ (rule.strict = true → row.validFrom < validFrom) := by
    intro row hrow
    unfold Nexolab.CloseRule.checkOrder at hrow
    split_ifs at hrow with hearly
    simp only [Bool.or_eq_true, decide_eq_true_eq, Bool.and_eq_true, not_or, not_lt,
      not_and] at hearly
    exact ⟨hearly.1, fun hstrict =>
      lt_of_le_of_ne hearly.1 fun hsame => hearly.2 hstrict hsame.symm⟩
  rintro row rfl
  unfold Nexolab.CloseRule.check at hcheck
  dsimp only at hcheck
  split_ifs at hcheck
  · simp only [bind_eq_ok] at hcheck
    obtain ⟨_, hfirst, hsecond⟩ := hcheck
    exact ⟨hopen row hsecond, horder row hfirst⟩
  · simp only [bind_eq_ok] at hcheck
    obtain ⟨_, hfirst, hsecond⟩ := hcheck
    exact ⟨hopen row hfirst, horder row hsecond⟩

/-- The last row is open and starts no later, and the identity is new. -/
structure Appends (before : InstrumentRegistry) (key : HistoryKey) (recordId : String)
    (validFrom : Instant) : Prop where
  open_last : ∀ row ∈ HistoryRow.latest (before.history key), row.validTo = none
  ordered : ∀ row ∈ HistoryRow.latest (before.history key), row.validFrom ≤ validFrom
  fresh : ∀ row ∈ before.records, row.content.id ≠ recordId

theorem append_eq_ok {recordId : String}
    (happ : before.append key rule recordId content validFrom = .ok after) :
    before.Appends key recordId validFrom ∧ after = { before with
      records := HistoryRow.appendTo before.records key validFrom
        ⟨recordId, content⟩ } := by
  simp only [append, bind_eq_ok] at happ
  obtain ⟨_, hcheck, hrest⟩ := happ
  split_ifs at hrest with hused
  cases hrest
  have hlast := CloseRule.check_eq_ok hcheck
  refine ⟨⟨fun row hrow => (hlast row hrow).1, fun row hrow => (hlast row hrow).2.1, ?_⟩,
    rfl⟩
  intro row hrow hid
  exact hused (List.any_eq_true.mpr ⟨row, hrow, decide_eq_true hid⟩)

/-! ## What a record relies on -/

/-- The record is one of its table, and what it refers to is there. -/
def Backed (registry : InstrumentRegistry) : HistoryKey → RecordContent → Prop
  | .lifecycle circuitId, .lifecycle _ => circuitId ∈ registry.circuits
  | .configuration circuitId, .configuration _ => circuitId ∈ registry.circuits
  | .binding circuitId role, .binding signalId => circuitId ∈ registry.circuits ∧
      ∃ signal instrument, registry.signalOf signalId = .ok signal ∧
        registry.instrumentOf signal.instrumentId = .ok instrument ∧
          validateRoleShape signal instrument role = .ok ()
  | .source signalId, .source source => ∃ signal,
      registry.signalOf signalId = .ok signal ∧ source.unit = signal.engineeringUnit ∧
        source.nodeId ≠ "" ∧ source.equipmentId ≠ "" ∧ source.channelId ≠ "" ∧ source.metric ≠ ""
  | .scaling signalId, .scaling profile => ∃ signal, registry.signalOf signalId = .ok signal ∧
        validateAnalogScaling profile signal = .ok ()
  | .acceptance instrumentId, .acceptance _ => ∃ instrument,
      registry.instrumentOf instrumentId = .ok instrument
  | .calibration instrumentId _, .calibration _ _ => ∃ instrument,
      registry.instrumentOf instrumentId = .ok instrument
  | .profileAcceptance signalId sourceId scalingId, .profileAcceptance acceptance =>
    ∃ target, registry.profileTarget signalId sourceId scalingId = .ok target ∧
      acceptance = target.acceptance acceptance.acceptedForCalculation
  | _, _ => False

/-- What a record refers to is kept: circuits, the quantities of signals, the kinds and
the pressure references of instruments, and the other records. -/
structure Retains (before after : InstrumentRegistry) : Prop where
  circuits : before.circuits ⊆ after.circuits
  signals : ∀ signalId signal, before.signalOf signalId = .ok signal →
    ∃ later, after.signalOf signalId = .ok later ∧ later.instrumentId = signal.instrumentId ∧
        later.physicalQuantity = signal.physicalQuantity ∧
          later.engineeringUnit = signal.engineeringUnit
  instruments : ∀ instrumentId instrument, before.instrumentOf instrumentId = .ok instrument →
      ∃ later, after.instrumentOf instrumentId = .ok later ∧
        later.instrumentKind = instrument.instrumentKind ∧
          (later.pressureReference = instrument.pressureReference ∨
            ∀ signal ∈ before.signals, signal.instrumentId = instrumentId →
              signal.physicalQuantity ≠ "pressure")
  records : ∀ key recordId row, before.recordOf key recordId = some row →
    ∃ later, after.recordOf key recordId = some later ∧ later.content = row.content

theorem validateRoleShape_congr {signal laterSignal : Signal}
    {instrument laterInstrument : Instrument}
    (hquantity : laterSignal.physicalQuantity = signal.physicalQuantity)
    (hunit : laterSignal.engineeringUnit = signal.engineeringUnit)
    (hkind : laterInstrument.instrumentKind = instrument.instrumentKind)
    (hreference : signal.physicalQuantity = "pressure" →
      laterInstrument.pressureReference = instrument.pressureReference)
    (hshape : validateRoleShape signal instrument role = .ok ()) :
    validateRoleShape laterSignal laterInstrument role = .ok () := by
  unfold validateRoleShape at hshape ⊢
  rw [hquantity, hunit, hkind]
  by_cases hpressure : signal.physicalQuantity = "pressure"
  · rw [hreference hpressure]
    exact hshape
  · cases role <;> simp_all

theorem Retains.sourceOf (hretains : before.Retains after)
    {row : RecordRow} {source : AcquisitionSource}
    (hfound : before.sourceOf signalId sourceId = some (row, source)) :
    ∃ later, after.sourceOf signalId sourceId = some (later, source) := by
  simp only [InstrumentRegistry.sourceOf, Option.bind_eq_bind, Option.bind_eq_some_iff] at hfound ⊢
  obtain ⟨found, hrow, hcont⟩ := hfound
  obtain ⟨later, hlater, hsame⟩ := hretains.records _ _ _ hrow
  refine ⟨later, later, hlater, ?_⟩
  rw [hsame]
  split at hcont
  next =>
    cases hcont
    rfl
  next => cases hcont

theorem Retains.scalingOf (hretains : before.Retains after) {signalId profileId : String}
    {row : RecordRow} {profile : AnalogScalingProfile}
    (hfound : before.scalingOf signalId profileId = some (row, profile)) :
    ∃ later, after.scalingOf signalId profileId = some (later, profile) := by
  simp only [InstrumentRegistry.scalingOf, Option.bind_eq_bind, Option.bind_eq_some_iff] at hfound ⊢
  obtain ⟨found, hrow, hcont⟩ := hfound
  obtain ⟨later, hlater, hsame⟩ := hretains.records _ _ _ hrow
  refine ⟨later, later, hlater, ?_⟩
  rw [hsame]
  split at hcont
  next =>
    cases hcont
    rfl
  next => cases hcont

theorem Retains.profileTarget (hretains : before.Retains after)
    {scalingId : Option String} {target : ProfileTarget}
    (htarget : before.profileTarget signalId sourceId scalingId = .ok target) :
    after.profileTarget signalId sourceId scalingId = .ok target := by
  simp only [InstrumentRegistry.profileTarget, bind_eq_ok] at htarget ⊢
  obtain ⟨signal, hsignal, htarget⟩ := htarget
  obtain ⟨later, hlater, _⟩ := hretains.signals _ _ hsignal
  refine ⟨later, hlater, ?_⟩
  split at htarget
  next => cases htarget
  next row source hsrc =>
    obtain ⟨laterRow, hlaterRow⟩ := hretains.sourceOf hsrc
    rw [hlaterRow]
    dsimp only
    split at htarget
    next =>
      cases scalingId with
      | none => exact htarget
      | some scalingId =>
        dsimp only at htarget ⊢
        split at htarget
        next => cases htarget
        next scalingRow scaling hscaling =>
          obtain ⟨laterScaling, hlaterScaling⟩ := hretains.scalingOf hscaling
          rw [hlaterScaling]
          exact htarget
    next => cases htarget

theorem Retains.backed (hretains : before.Retains after) (hbacked : before.Backed key content) :
    after.Backed key content := by
  unfold InstrumentRegistry.Backed at hbacked ⊢
  split at hbacked
  next => exact hretains.circuits hbacked
  next => exact hretains.circuits hbacked
  next circuitId role signalId =>
    obtain ⟨hcircuit, signal, instrument, hsignal, hinst, hshape⟩ := hbacked
    obtain ⟨laterSignal, hlaterSignal, howner, hquantity, hunit⟩ :=
      hretains.signals _ _ hsignal
    obtain ⟨laterInstrument, hlaterInstrument, hkind, hreference⟩ :=
      hretains.instruments _ _ hinst
    refine ⟨hretains.circuits hcircuit, laterSignal, laterInstrument, hlaterSignal,
      howner ▸ hlaterInstrument,
      validateRoleShape_congr hquantity hunit hkind (fun hpressure => ?_) hshape⟩
    rcases hreference with hsame | hnone
    · exact hsame
    · exact absurd hpressure (hnone signal
        (List.mem_of_find?_eq_some (signalOf_eq_ok.mp hsignal)) rfl)
  next signalId source =>
    obtain ⟨signal, hsignal, hmatches, hnames⟩ := hbacked
    obtain ⟨later, hlater, _, _, hunit⟩ := hretains.signals _ _ hsignal
    exact ⟨later, hlater, hunit ▸ hmatches, hnames⟩
  next signalId profile =>
    obtain ⟨signal, hsignal, hvalid⟩ := hbacked
    obtain ⟨later, hlater, _, _, hunit⟩ := hretains.signals _ _ hsignal
    refine ⟨later, hlater, ?_⟩
    unfold validateAnalogScaling at hvalid ⊢
    rw [hunit]
    exact hvalid
  next =>
    obtain ⟨instrument, hinst⟩ := hbacked
    obtain ⟨later, hlater, _⟩ := hretains.instruments _ _ hinst
    exact ⟨later, hlater⟩
  next =>
    obtain ⟨instrument, hinst⟩ := hbacked
    obtain ⟨later, hlater, _⟩ := hretains.instruments _ _ hinst
    exact ⟨later, hlater⟩
  next =>
    obtain ⟨target, htarget, hsame⟩ := hbacked
    exact ⟨target, hretains.profileTarget htarget, hsame⟩
  next => exact hbacked.elim

theorem Retains.refl (registry : InstrumentRegistry) : registry.Retains registry where
  circuits := List.Subset.refl _
  signals := fun _ signal hsignal => ⟨signal, hsignal, rfl, rfl, rfl⟩
  instruments := fun _ instrument hinst => ⟨instrument, hinst, rfl, .inl rfl⟩
  records := fun _ _ row hrow => ⟨row, hrow, rfl⟩

theorem Retains.of_identities (hcircuits : before.circuits ⊆ after.circuits)
    (hsignals : after.signals = before.signals)
    (hinstruments : after.instruments = before.instruments)
    (hrecords : ∀ key recordId row, before.recordOf key recordId = some row →
      ∃ later, after.recordOf key recordId = some later ∧ later.content = row.content) :
    before.Retains after where
  circuits := hcircuits
  signals := by
    intro signalId signal hsignal
    refine ⟨signal, ?_, rfl, rfl, rfl⟩
    rw [signalOf_eq_ok] at hsignal ⊢
    rw [hsignals]
    exact hsignal
  instruments := by
    intro instrumentId instrument hinst
    refine ⟨instrument, ?_, rfl, .inl rfl⟩
    rw [instrumentOf_eq_ok] at hinst ⊢
    rw [hinstruments]
    exact hinst
  records := hrecords

theorem createInstrument_retains {instrumentId inventoryKey instrumentKind : String}
    {now : Instant} {auditedAt : Option Instant}
    (hcreate : before.createInstrument instrumentId inventoryKey instrumentKind
      pressureReference lifecycleState now auditedAt = .ok after) :
    after.records = before.records ∧ before.Retains after := by
  unfold createInstrument at hcreate
  split_ifs at hcreate
  cases hcreate
  refine ⟨rfl, List.Subset.refl _, fun _ signal hsignal => ⟨signal, hsignal, rfl, rfl, rfl⟩,
    ?_, fun _ _ row hrow => ⟨row, hrow, rfl⟩⟩
  intro otherId instrument hinst
  refine ⟨instrument, ?_, rfl, .inl rfl⟩
  rw [instrumentOf_eq_ok] at hinst ⊢
  dsimp only
  rw [List.find?_append, hinst]
  rfl

theorem createSignal_retains (hcreate : before.createSignal signal = .ok after) :
    after.records = before.records ∧ before.Retains after := by
  simp only [createSignal, bind_eq_ok] at hcreate
  obtain ⟨instrument, _, hcreate⟩ := hcreate
  split_ifs at hcreate
  cases hcreate
  refine ⟨rfl, List.Subset.refl _, ?_, fun _ instrument hinst => ⟨instrument, hinst, rfl, .inl rfl⟩,
    fun _ _ row hrow => ⟨row, hrow, rfl⟩⟩
  intro signalId other hother
  refine ⟨other, ?_, rfl, rfl, rfl⟩
  rw [signalOf_eq_ok] at hother ⊢
  dsimp only
  rw [List.find?_append, hother]
  rfl

theorem find?_map_of_stable {α : Type*} {p : α → Bool} {f : α → α} {rows : List α}
    {row : α} (hstable : ∀ row, p (f row) = p row) (hrow : rows.find? p = some row) :
    (rows.map f).find? p = some (f row) := by
  have hsame : p ∘ f = p := funext hstable
  rw [List.find?_map, hsame, hrow]
  rfl

theorem updateSignal_retains {signalId : String}
    (hupdate : before.updateSignal signalId lifecycleState = .ok after) :
    after.records = before.records ∧ before.Retains after := by
  simp only [updateSignal, bind_eq_ok] at hupdate
  obtain ⟨_, _, hupdate⟩ := hupdate
  cases hupdate
  refine ⟨rfl, List.Subset.refl _, ?_, fun _ instrument hinst => ⟨instrument, hinst, rfl, .inl rfl⟩,
    fun _ _ row hrow => ⟨row, hrow, rfl⟩⟩
  intro otherId signal hsignal
  let updated : Signal → Signal := fun row =>
    if row.id = signalId then { row with lifecycleState } else row
  have hid : ∀ row, (updated row).id = row.id := by
    intro row
    dsimp only [updated]
    split_ifs <;> rfl
  refine ⟨updated signal, ?_, ?_⟩
  · rw [signalOf_eq_ok] at hsignal ⊢
    exact find?_map_of_stable (f := updated) (fun row => by rw [hid]) hsignal
  · dsimp only [updated]
    split_ifs <;> exact ⟨rfl, rfl, rfl⟩

theorem updateInstrument_retains {instrumentId : String} {expectedVersion : ℕ}
    {inventoryKey instrumentKind : String} {now : Instant} {auditedAt : Option Instant}
    (hupdate : before.updateInstrument instrumentId expectedVersion inventoryKey
      instrumentKind pressureReference lifecycleState now auditedAt = .ok after) :
    after.records = before.records ∧ before.Retains after := by
  simp only [updateInstrument, bind_eq_ok] at hupdate
  obtain ⟨instrument, hinst, hupdate⟩ := hupdate
  split_ifs at hupdate
  simp only [bind_eq_ok] at hupdate
  obtain ⟨_, hstable, hupdate⟩ := hupdate
  cases hupdate
  refine ⟨rfl, List.Subset.refl _, fun _ signal hsignal => ⟨signal, hsignal, rfl, rfl, rfl⟩,
    ?_, fun _ _ row hrow => ⟨row, hrow, rfl⟩⟩
  have hinstrumentId : instrument.id = instrumentId := by
    have hfound := List.find?_some (instrumentOf_eq_ok.mp hinst)
    simpa using hfound
  let updated : Instrument → Instrument := fun row =>
    if row.id = instrumentId then
      { instrument with
        pressureReference, lifecycleState, version := instrument.version + 1
        updatedAt := now }
    else row
  have hid : ∀ row, (updated row).id = row.id := by
    intro row
    dsimp only [updated]
    split_ifs with hsame
    · exact hinstrumentId.trans hsame.symm
    · rfl
  have hreference : pressureReference = instrument.pressureReference ∨
      ∀ signal ∈ before.signals, signal.instrumentId = instrumentId →
        signal.physicalQuantity ≠ "pressure" := by
    unfold requireStableIdentity at hstable
    split_ifs at hstable with _ hsame hpressure
    · exact .inl hsame
    · right
      intro signal hsignal howner hquantity
      apply hpressure
      rw [List.any_eq_true]
      exact ⟨signal, hsignal, by simp [howner, hquantity, hinstrumentId]⟩
  intro otherId other hother
  have hotherId : other.id = otherId := by
    have hfound := List.find?_some (instrumentOf_eq_ok.mp hother)
    simpa using hfound
  refine ⟨updated other, ?_, ?_⟩
  · rw [instrumentOf_eq_ok] at hother ⊢
    exact find?_map_of_stable (f := updated) (fun row => by rw [hid]) hother
  · dsimp only [updated]
    split_ifs with hsame
    · have hotherIs : other = instrument := by
        rw [← hotherId, hsame] at hother
        exact Except.ok.inj (hother.symm.trans hinst)
      subst hotherIs
      refine ⟨rfl, ?_⟩
      rw [← hotherId, hsame]
      exact hreference
    · exact ⟨rfl, .inl rfl⟩

theorem createPolicy_retains {policy : CalculationPolicyRecord}
    (hcreate : before.createPolicy policy = .ok after) :
    after.records = before.records ∧ before.Retains after := by
  unfold createPolicy at hcreate
  split_ifs at hcreate
  cases hcreate
  exact ⟨rfl, .of_identities (List.Subset.refl _) rfl rfl fun _ _ row hrow => ⟨row, hrow, rfl⟩⟩

inductive RecordEffect (before : InstrumentRegistry) (action : RecordAction) :
    InstrumentRegistry → Prop
  | kept {after : InstrumentRegistry} (records : after.records = before.records)
      (retains : before.Retains after) : RecordEffect before action after
  | appended {key : HistoryKey} {recordId : String} {content : RecordContent}
      {validFrom : Instant} {circuits : List String}
      (effective : action.effectiveAt = some validFrom)
      (circuits_kept : before.circuits ⊆ circuits)
      (appends : before.Appends key recordId validFrom)
      (backed : { before with circuits }.Backed key content) :
      RecordEffect before action { before with
        circuits
        records := HistoryRow.appendTo before.records key validFrom ⟨recordId, content⟩ }
  | ended {circuitId : String} {role : ProcessRole} {row : RecordRow}
      {validTo : Instant} (ends : action = .endBinding circuitId role validTo)
      (member : row ∈ before.history (.binding circuitId role))
      (is_open : row.validTo = none) (later : row.validFrom < validTo) :
      RecordEffect before action
        { before with records := HistoryRow.closeIn before.records row validTo }

theorem validateAnalogScaling_of_validated {payload profile : AnalogScalingProfile}
    (hvalid : payload.validated = .ok profile)
    (hunit : profile.engineeringUnit = signal.engineeringUnit) :
    validateAnalogScaling profile signal = .ok () := by
  have hblank : ∀ value : Option String, (optionalText value).all (· = "") = true →
      (optionalText value).isNone = true := by
    intro value hall
    unfold optionalText at hall ⊢
    cases value with
    | none => rfl
    | some text =>
      by_cases hwords : joinedWords text = ""
      · simp [hwords]
      · simp [hwords] at hall
  unfold AnalogScalingProfile.validated at hvalid
  dsimp only at hvalid
  split_ifs at hvalid with hdomain hprovenance
  cases hvalid
  unfold validateAnalogScaling
  rw [if_neg (not_ne_iff.mpr hunit), if_neg hdomain, if_neg]
  intro hverd
  apply hprovenance
  simp only [AnalogScalingProfile.provenance, List.any_cons, List.any_nil, Bool.or_false,
    Bool.and_eq_true, Bool.or_eq_true] at hverd ⊢
  refine ⟨hverd.1, ?_⟩
  exact hverd.2.imp (hblank _) (Or.imp (hblank _) (Or.imp (hblank _)
    (Or.imp (hblank _) (hblank _))))

theorem RecordEffect.of_append {recordId : String}
    (happ : before.append key rule recordId content validFrom = .ok after)
    (heffective : action.effectiveAt = some validFrom)
    (hbacked : before.Backed key content) : before.RecordEffect action after := by
  obtain ⟨happends, rfl⟩ := append_eq_ok happ
  exact .appended heffective (List.Subset.refl _) happends hbacked

theorem createCircuit_effect {initialState : RegistryLifecycleState}
    (hcreate : before.createCircuit circuitId recordId initialState validFrom = .ok after) :
    before.RecordEffect (.createCircuit circuitId recordId initialState validFrom) after := by
  unfold createCircuit at hcreate
  split_ifs at hcreate
  obtain ⟨happends, rfl⟩ := append_eq_ok hcreate
  exact .appended rfl (List.subset_cons_self _ _)
    ⟨happends.open_last, happends.ordered, happends.fresh⟩ (List.mem_cons_self ..)

theorem appendLifecycle_effect {state : RegistryLifecycleState}
    (happ : before.appendLifecycle circuitId recordId state validFrom = .ok after) :
    before.RecordEffect (.appendLifecycle circuitId recordId state validFrom) after := by
  simp only [appendLifecycle, bind_eq_ok] at happ
  obtain ⟨_, hcircuit, happ⟩ := happ
  exact .of_append happ rfl (circuitOf_eq_ok.mp hcircuit)

theorem appendConfiguration_effect {configuration : CircuitConfiguration}
    (happ : before.appendConfiguration circuitId recordId configuration validFrom = .ok after) :
    before.RecordEffect (.appendConfiguration circuitId recordId configuration validFrom)
      after := by
  simp only [appendConfiguration, bind_eq_ok] at happ
  obtain ⟨_, hcircuit, happ⟩ := happ
  split_ifs at happ
  exact .of_append happ rfl (circuitOf_eq_ok.mp hcircuit)

theorem appendBinding_effect {circuitId : String} {recordId signalId : String}
    (happ : before.appendBinding circuitId role recordId signalId validFrom = .ok after) :
    before.RecordEffect (.appendBinding circuitId role recordId signalId validFrom)
      after := by
  simp only [appendBinding, validateBindingAuthority, bind_eq_ok] at happ
  obtain ⟨_, hcircuit, signal, hsignal, instrument, hinst, _,
    ⟨_, hshape, _⟩, happ⟩ := happ
  exact .of_append happ rfl ⟨circuitOf_eq_ok.mp hcircuit, signal, instrument, hsignal,
    hinst, hshape⟩

theorem endBinding_effect {circuitId : String} {validTo : Instant}
    (hend : before.endBinding circuitId role validTo = .ok after) :
    before.RecordEffect (.endBinding circuitId role validTo) after := by
  simp only [endBinding, bind_eq_ok] at hend
  obtain ⟨_, _, hend⟩ := hend
  split at hend
  next => cases hend
  next row hrow =>
    split_ifs at hend with hearly
    cases hend
    have hopen : row.validTo = none := by
      simpa using List.find?_some hrow
    exact .ended rfl (List.mem_of_find?_eq_some hrow) hopen (not_le.mp hearly)

theorem appendAcquisitionSource_effect {signalId recordId : String} {payload : AcquisitionSource}
    (happ : before.appendAcquisitionSource signalId recordId payload validFrom = .ok after) :
    before.RecordEffect (.appendAcquisitionSource signalId recordId payload validFrom)
      after := by
  simp only [appendAcquisitionSource, bind_eq_ok] at happ
  obtain ⟨source, hvalid, signal, hsignal, happ⟩ := happ
  split_ifs at happ with hunit
  unfold AcquisitionSource.validated at hvalid
  dsimp only at hvalid
  split_ifs at hvalid with hblank
  cases hvalid
  simp only [Bool.or_eq_true, decide_eq_true_eq, not_or] at hblank
  obtain ⟨⟨⟨hnode, hequipment⟩, hchannel⟩, hmetric⟩ := hblank
  exact .of_append happ rfl
    ⟨signal, hsignal, not_ne_iff.mp hunit, hnode, hequipment, hchannel, hmetric⟩

theorem appendAnalogScaling_effect {signalId recordId : String} {payload : AnalogScalingProfile}
    (happ : before.appendAnalogScaling signalId recordId payload effectiveFrom = .ok after) :
    before.RecordEffect (.appendAnalogScaling signalId recordId payload effectiveFrom)
      after := by
  simp only [appendAnalogScaling, bind_eq_ok] at happ
  obtain ⟨profile, hvalid, signal, hsignal, happ⟩ := happ
  split_ifs at happ with hunit
  have hbacked : before.Backed (.scaling signalId) (.scaling profile) :=
    ⟨signal, hsignal, validateAnalogScaling_of_validated hvalid (not_ne_iff.mp hunit)⟩
  split at happ
  next =>
    split at happ
    next => cases happ
    next =>
      split_ifs at happ
      exact .of_append happ rfl hbacked
  next => exact .of_append happ rfl hbacked

theorem appendAcceptance_effect {instrumentId recordId : String} {acceptedForCalculation : Bool}
    (happ : before.appendAcceptance instrumentId recordId acceptedForCalculation
      effectiveFrom = .ok after) :
    before.RecordEffect (.appendAcceptance instrumentId recordId acceptedForCalculation
      effectiveFrom) after := by
  simp only [appendAcceptance, bind_eq_ok] at happ
  obtain ⟨instrument, hinst, happ⟩ := happ
  exact .of_append happ rfl ⟨instrument, hinst⟩

theorem appendCalibration_effect {instrumentId scope recordId : String}
    {state : CalibrationState} {certificateReference : Option String}
    (happ : before.appendCalibration instrumentId scope recordId state
      certificateReference validFrom = .ok after) :
    before.RecordEffect (.appendCalibration instrumentId scope recordId state
      certificateReference validFrom) after := by
  simp only [appendCalibration, bind_eq_ok] at happ
  obtain ⟨instrument, hinst, happ⟩ := happ
  exact .of_append happ rfl ⟨instrument, hinst⟩

theorem appendProfileAcceptance_effect
    {scalingId : Option String} {recordId : String} {acceptedForCalculation : Bool}
    (happ : before.appendProfileAcceptance signalId sourceId scalingId recordId
      acceptedForCalculation effectiveFrom = .ok after) :
    before.RecordEffect (.appendProfileAcceptance signalId sourceId scalingId recordId
      acceptedForCalculation effectiveFrom) after := by
  simp only [appendProfileAcceptance, bind_eq_ok] at happ
  obtain ⟨target, htarget, happ⟩ := happ
  exact .of_append happ rfl ⟨target, htarget, rfl⟩

theorem step_effect (hstep : before.step action = some after) :
    before.RecordEffect action after := by
  unfold InstrumentRegistry.step at hstep
  split at hstep
  next next hexecute =>
    cases hstep
    cases action with
    | createCircuit => exact createCircuit_effect hexecute
    | appendLifecycle => exact appendLifecycle_effect hexecute
    | appendConfiguration => exact appendConfiguration_effect hexecute
    | appendBinding => exact appendBinding_effect hexecute
    | endBinding => exact endBinding_effect hexecute
    | appendAcquisitionSource => exact appendAcquisitionSource_effect hexecute
    | appendAnalogScaling => exact appendAnalogScaling_effect hexecute
    | appendAcceptance => exact appendAcceptance_effect hexecute
    | appendCalibration => exact appendCalibration_effect hexecute
    | appendProfileAcceptance => exact appendProfileAcceptance_effect hexecute
    | createInstrument =>
      obtain ⟨hrecords, hretains⟩ := createInstrument_retains hexecute
      exact .kept hrecords hretains
    | updateInstrument =>
      obtain ⟨hrecords, hretains⟩ := updateInstrument_retains hexecute
      exact .kept hrecords hretains
    | createSignal =>
      obtain ⟨hrecords, hretains⟩ := createSignal_retains hexecute
      exact .kept hrecords hretains
    | updateSignal =>
      obtain ⟨hrecords, hretains⟩ := updateSignal_retains hexecute
      exact .kept hrecords hretains
    | createPolicy =>
      obtain ⟨hrecords, hretains⟩ := createPolicy_retains hexecute
      exact .kept hrecords hretains
  next =>
    cases hstep
    exact .kept rfl (.refl before)

end InstrumentRegistry

end Nexolab
