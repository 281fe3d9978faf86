import Nexolab.RecordEffects

/-!
# The histories of the records

In every registry a run of operations reaches, the intervals of each history follow one
another, what refers to another record finds it, and a lookup returns the effective row.
-/

namespace Nexolab

open HistoryRow

def RecordAction.ends (key : HistoryKey) : RecordAction → Bool
  | .endBinding circuitId role _ => decide (key = .binding circuitId role)
  | _ => false

namespace InstrumentRegistry

variable {before after registry : InstrumentRegistry} {action : RecordAction}

def resolveRecord (registry : InstrumentRegistry) (key : HistoryKey) (time : Instant) :
    Except String RecordRow :=
  match key with
  | .lifecycle circuitId => registry.resolveLifecycle circuitId time
  | .configuration circuitId => registry.resolveConfiguration circuitId time
  | .binding circuitId role =>
    (registry.resolveBindingIdentity circuitId role time).map (·.1)
  | .source signalId => (registry.resolveAcquisitionSource signalId time).map (·.1)
  | .scaling signalId => (registry.resolveAnalogScaling signalId time).map (·.1)
  | .acceptance instrumentId => registry.resolveAcceptance instrumentId time
  | .calibration instrumentId scope => registry.resolveCalibration instrumentId scope time
  | .profileAcceptance signalId sourceId scalingId =>
    (registry.resolveProfileAcceptance signalId sourceId scalingId time).map (·.1)

variable {key : HistoryKey} {row : RecordRow} {time : Instant}

theorem resolveOne_eq_ok {error : String} :
    registry.resolveOne key time error = .ok row ↔ registry.effective key time = [row] := by
  unfold resolveOne
  split
  next other hother => simp [hother]
  next hnone =>
    constructor
    · nofun
    · exact fun hone => absurd hone (hnone row)

theorem map_eq_ok {ε α β : Type*} {f : α → β} {result : Except ε α} {value : β} :
    result.map f = .ok value ↔ ∃ found, result = .ok found ∧ f found = value := by
  cases result <;> simp [Except.map]

structure Sound (registry : InstrumentRegistry) : Prop where
  consecutive : ∀ key, Consecutive (registry.history key)
  backed : ∀ row ∈ registry.records, registry.Backed row.key row.content.content

theorem Sound.backed_of_effective (hsound : registry.Sound)
    (hone : registry.effective key time = [row]) :
    registry.Backed key row.content.content := by
  have hmem : row ∈ registry.effective key time := hone ▸ List.mem_singleton_self row
  obtain ⟨hrow, hkey⟩ := mem_ofKey.mp (List.mem_of_mem_filter hmem)
  exact hkey ▸ hsound.backed row hrow

/-! ## What is backed is read -/

variable {circuitId : String} {content : RecordContent} {recordId : String}

theorem Backed.lifecycle (hbacked : registry.Backed (.lifecycle circuitId) content) :
    registry.circuitOf circuitId = .ok () := by
  cases content with
  | lifecycle => exact circuitOf_eq_ok.mpr hbacked
  | _ => exact hbacked.elim

theorem Backed.configuration (hbacked : registry.Backed (.configuration circuitId) content) :
    registry.circuitOf circuitId = .ok () := by
  cases content with
  | configuration => exact circuitOf_eq_ok.mpr hbacked
  | _ => exact hbacked.elim

theorem Backed.acceptance {instrumentId : String}
    (hbacked : registry.Backed (.acceptance instrumentId) content) :
    ∃ instrument, registry.instrumentOf instrumentId = .ok instrument := by
  cases content with
  | acceptance => exact hbacked
  | _ => exact hbacked.elim

theorem Backed.calibration {instrumentId scope : String}
    (hbacked : registry.Backed (.calibration instrumentId scope) content) :
    ∃ instrument, registry.instrumentOf instrumentId = .ok instrument := by
  cases content with
  | calibration => exact hbacked
  | _ => exact hbacked.elim

theorem Backed.resolveBindingIdentity {role : ProcessRole}
    (hbacked : registry.Backed (.binding circuitId role) row.content.content)
    (hone : registry.effective (.binding circuitId role) time = [row]) :
    ∃ signal instrument, registry.resolveBindingIdentity circuitId role time =
      .ok (row, signal, instrument) := by
  cases hcont : row.content.content with
  | binding signalId =>
    rw [hcont] at hbacked
    obtain ⟨hcircuit, signal, instrument, hsignal, hinst, hshape⟩ := hbacked
    refine ⟨signal, instrument, ?_⟩
    have hview : registry.bindingView row = .ok (signal, instrument) := by
      simp only [bindingView, hcont, bind_eq_ok]
      exact ⟨signal, hsignal, instrument, hinst, rfl⟩
    simp only [InstrumentRegistry.resolveBindingIdentity, bind_eq_ok]
    exact ⟨(), circuitOf_eq_ok.mpr hcircuit, row, resolveOne_eq_ok.mpr hone,
      (signal, instrument), hview, (), hshape, rfl⟩
  | _ =>
    rw [hcont] at hbacked
    exact hbacked.elim

theorem Backed.resolveAcquisitionSource {signalId : String}
    (hbacked : registry.Backed (.source signalId) row.content.content)
    (hone : registry.effective (.source signalId) time = [row]) :
    ∃ source, registry.resolveAcquisitionSource signalId time = .ok (row, source) := by
  cases hcont : row.content.content with
  | source source =>
    rw [hcont] at hbacked
    obtain ⟨signal, hsignal, hunit, hnode, hequipment, hchannel, hmetric⟩ := hbacked
    refine ⟨source, ?_⟩
    simp only [InstrumentRegistry.resolveAcquisitionSource, bind_eq_ok]
    refine ⟨signal, hsignal, row, resolveOne_eq_ok.mpr hone, ?_⟩
    rw [hcont]
    dsimp only
    rw [if_neg]
    simp only [not_or]
    exact ⟨not_ne_iff.mpr hunit, hnode, hequipment, hchannel, hmetric⟩
  | _ =>
    rw [hcont] at hbacked
    exact hbacked.elim

theorem Backed.resolveAnalogScaling {signalId : String}
    (hbacked : registry.Backed (.scaling signalId) row.content.content)
    (hone : registry.effective (.scaling signalId) time = [row]) :
    ∃ profile, registry.resolveAnalogScaling signalId time = .ok (row, profile) := by
  cases hcont : row.content.content with
  | scaling profile =>
    rw [hcont] at hbacked
    obtain ⟨signal, hsignal, hvalid⟩ := hbacked
    refine ⟨profile, ?_⟩
    simp only [InstrumentRegistry.resolveAnalogScaling, bind_eq_ok]
    refine ⟨signal, hsignal, row, resolveOne_eq_ok.mpr hone, ?_⟩
    rw [hcont]
    simp only [bind_eq_ok]
    exact ⟨(), hvalid, trivial⟩
  | _ =>
    rw [hcont] at hbacked
    exact hbacked.elim

theorem Backed.resolveProfileAcceptance {signalId sourceId : String} {scalingId : Option String}
    (hbacked : registry.Backed (.profileAcceptance signalId sourceId scalingId) row.content.content)
    (hone : registry.effective (.profileAcceptance signalId sourceId scalingId) time = [row]) :
    ∃ acceptance, registry.resolveProfileAcceptance signalId sourceId scalingId time =
      .ok (row, acceptance) := by
  cases hcont : row.content.content with
  | profileAcceptance acceptance =>
    rw [hcont] at hbacked
    obtain ⟨target, htarget, hsame⟩ := hbacked
    refine ⟨acceptance, ?_⟩
    simp only [InstrumentRegistry.resolveProfileAcceptance, bind_eq_ok]
    refine ⟨target, htarget, row, resolveOne_eq_ok.mpr hone, ?_⟩
    rw [hcont]
    dsimp only
    rw [if_pos hsame]
  | _ =>
    rw [hcont] at hbacked
    exact hbacked.elim

theorem effective_of_resolveRecord (hresv : registry.resolveRecord key time = .ok row) :
    registry.effective key time = [row] := by
  cases key with
  | lifecycle =>
    simp only [resolveRecord, resolveLifecycle, bind_eq_ok] at hresv
    obtain ⟨_, _, hone⟩ := hresv
    exact resolveOne_eq_ok.mp hone
  | configuration =>
    simp only [resolveRecord, resolveConfiguration, bind_eq_ok] at hresv
    obtain ⟨_, _, hone⟩ := hresv
    exact resolveOne_eq_ok.mp hone
  | binding =>
    simp only [resolveRecord, resolveBindingIdentity, bind_eq_ok, map_eq_ok] at hresv
    obtain ⟨_, ⟨_, _, _, hone, _, _, _, _, hfound⟩, hrow⟩ := hresv
    cases hfound
    exact hrow ▸ resolveOne_eq_ok.mp hone
  | source =>
    simp only [resolveRecord, resolveAcquisitionSource, bind_eq_ok, map_eq_ok] at hresv
    obtain ⟨_, ⟨_, _, _, hone, hfound⟩, hrow⟩ := hresv
    split at hfound
    next =>
      split_ifs at hfound
      cases hfound
      exact hrow ▸ resolveOne_eq_ok.mp hone
    next => cases hfound
  | scaling =>
    simp only [resolveRecord, resolveAnalogScaling, bind_eq_ok, map_eq_ok] at hresv
    obtain ⟨_, ⟨_, _, _, hone, hfound⟩, hrow⟩ := hresv
    split at hfound
    next =>
      simp only [bind_eq_ok] at hfound
      obtain ⟨_, _, hfound⟩ := hfound
      cases hfound
      exact hrow ▸ resolveOne_eq_ok.mp hone
    next => cases hfound
  | acceptance =>
    simp only [resolveRecord, resolveAcceptance, bind_eq_ok] at hresv
    obtain ⟨_, _, hone⟩ := hresv
    exact resolveOne_eq_ok.mp hone
  | calibration =>
    simp only [resolveRecord, resolveCalibration, bind_eq_ok] at hresv
    obtain ⟨_, _, hone⟩ := hresv
    exact resolveOne_eq_ok.mp hone
  | profileAcceptance =>
    simp only [resolveRecord, resolveProfileAcceptance, bind_eq_ok, map_eq_ok] at hresv
    obtain ⟨_, ⟨_, _, _, hone, hfound⟩, hrow⟩ := hresv
    split at hfound
    next =>
      split_ifs at hfound
      cases hfound
      exact hrow ▸ resolveOne_eq_ok.mp hone
    next => cases hfound

theorem Sound.resolveRecord_eq_ok (hsound : registry.Sound) :
    registry.resolveRecord key time = .ok row ↔ registry.effective key time = [row] := by
  refine ⟨effective_of_resolveRecord, fun hone => ?_⟩
  have hbacked := hsound.backed_of_effective hone
  cases key with
  | lifecycle =>
    simp only [resolveRecord, resolveLifecycle, bind_eq_ok]
    exact ⟨(), hbacked.lifecycle, resolveOne_eq_ok.mpr hone⟩
  | configuration =>
    simp only [resolveRecord, resolveConfiguration, bind_eq_ok]
    exact ⟨(), hbacked.configuration, resolveOne_eq_ok.mpr hone⟩
  | binding =>
    obtain ⟨_, _, hresv⟩ := hbacked.resolveBindingIdentity hone
    exact map_eq_ok.mpr ⟨_, hresv, rfl⟩
  | source =>
    obtain ⟨_, hresv⟩ := hbacked.resolveAcquisitionSource hone
    exact map_eq_ok.mpr ⟨_, hresv, rfl⟩
  | scaling =>
    obtain ⟨_, hresv⟩ := hbacked.resolveAnalogScaling hone
    exact map_eq_ok.mpr ⟨_, hresv, rfl⟩
  | acceptance =>
    obtain ⟨instrument, hinst⟩ := hbacked.acceptance
    simp only [resolveRecord, resolveAcceptance, bind_eq_ok]
    exact ⟨instrument, hinst, resolveOne_eq_ok.mpr hone⟩
  | calibration =>
    obtain ⟨instrument, hinst⟩ := hbacked.calibration
    simp only [resolveRecord, resolveCalibration, bind_eq_ok]
    exact ⟨instrument, hinst, resolveOne_eq_ok.mpr hone⟩
  | profileAcceptance =>
    obtain ⟨_, hresv⟩ := hbacked.resolveProfileAcceptance hone
    exact map_eq_ok.mpr ⟨_, hresv, rfl⟩

theorem recordOf_closeIn {closed : RecordRow} (hrow : before.recordOf key recordId = some row) :
    ∃ later, recordOf { before with records := closeIn before.records closed time } key
      recordId = some later ∧ later.content = row.content := by
  unfold recordOf history at hrow ⊢
  rw [ofKey_closeIn]
  unfold closeIn
  refine ⟨_, find?_map_of_stable ?_ hrow, ?_⟩
  · intro other
    split_ifs <;> rfl
  · split_ifs <;> rfl

theorem recordOf_appendTo {key other : HistoryKey} {validFrom : Instant}
    {content : RegistryRecord} {circuits : List String}
    (hrow : before.recordOf key recordId = some row) :
    ∃ later, recordOf { before with
        circuits, records := appendTo before.records other validFrom content } key
      recordId = some later ∧ later.content = row.content := by
  have hextended : ∀ (rows new : List RecordRow) (found : RecordRow),
      (ofKey key rows).find? (fun row => row.content.id = recordId) = some found →
        (ofKey key (rows ++ new)).find? (fun row => row.content.id = recordId) = some found := by
    intro rows new found hfound
    unfold ofKey at hfound ⊢
    rw [List.filter_append, List.find?_append, hfound]
    rfl
  have hclosed : ∀ closed, ∃ later, recordOf { before with
      records := closeIn before.records closed validFrom } key recordId = some later ∧
      later.content = row.content := fun closed => recordOf_closeIn hrow
  unfold recordOf history appendTo at *
  dsimp only
  split
  next => exact ⟨row, hextended _ _ row hrow, rfl⟩
  next last _ =>
    obtain ⟨later, hlater, hsame⟩ := hclosed last
    exact ⟨later, hextended _ _ later hlater, hsame⟩

theorem RecordEffect.retains (heff : before.RecordEffect action after) :
    before.Retains after := by
  cases heff with
  | kept _ hretains => exact hretains
  | appended _ hcircuits _ _ =>
    exact .of_identities hcircuits rfl rfl fun _ _ _ hrow => recordOf_appendTo hrow
  | ended =>
    exact .of_identities (List.Subset.refl _) rfl rfl fun _ _ _ hrow => recordOf_closeIn hrow

theorem Appends.last (hsound : before.Sound)
    {validFrom : Instant} (happends : before.Appends key recordId validFrom) :
    LastOpen (before.history key) ∧
      ∀ last ∈ (before.history key).getLast?, last.validFrom ≤ validFrom := by
  obtain ⟨hopen, hord, _⟩ := happends
  rw [(hsound.consecutive key).latest_eq] at hopen hord
  exact ⟨hopen, hord⟩

theorem Sound.step (hsound : before.Sound) (heff : before.RecordEffect action after) :
    after.Sound := by
  have hretains := heff.retains
  constructor
  case consecutive =>
    intro key
    have hkey := hsound.consecutive key
    cases heff with
    | kept hrecords _ =>
      unfold history at hkey ⊢
      rw [hrecords]
      exact hkey
    | @appended other recordId content validFrom circuits _ _ happends _ =>
      by_cases hsame : other = key
      · subst hsame
        exact (hkey.appendTo (happends.last hsound).2 _).1
      · unfold history at hkey ⊢
        rw [ofKey_appendTo_other hsame]
        exact hkey
    | @ended circuitId role row validTo _ hmember hopen hlater =>
      have hrowKey : row.key = .binding circuitId role := (mem_ofKey.mp hmember).2
      by_cases hsame : HistoryKey.binding circuitId role = key
      · subst hsame
        exact hkey.closeIn (hkey.getLast?_of_open hmember hopen) hlater.le
      · unfold history at hkey ⊢
        rw [ofKey_closeIn, closeIn_other (hrowKey ▸ hsame)]
        exact hkey
  case backed =>
    have hkept : ∀ (row old : RecordRow), old ∈ before.records →
        row.key = old.key ∧ row.content = old.content →
          after.Backed row.key row.content.content := by
      rintro row old hold ⟨hkey, hcont⟩
      rw [hkey, hcont]
      exact hretains.backed (hsound.backed old hold)
    intro row hrow
    cases heff with
    | kept hrecords _ => exact hkept row row (hrecords ▸ hrow) ⟨rfl, rfl⟩
    | appended _ _ _ hbacked =>
      rcases mem_appendTo hrow with ⟨hkey, hcont⟩ | ⟨old, hold, hsame⟩
      · rw [hkey, hcont]
        refine Retains.backed ?_ hbacked
        exact .of_identities (List.Subset.refl _) rfl rfl
          fun _ _ _ hrow => @recordOf_appendTo { before with circuits := _ } _ _ _ _ _ _ _ hrow
      · exact hkept row old hold hsame
    | ended =>
      obtain ⟨old, hold, hsame⟩ := mem_closeIn hrow
      exact hkept row old hold hsame

theorem RecordEffect.lastOpen (hsound : before.Sound) (heff : before.RecordEffect action after)
    (hends : action.ends key = false) (hopen : LastOpen (before.history key)) :
    LastOpen (after.history key) := by
  cases heff with
  | kept hrecords _ =>
    unfold history at hopen ⊢
    rw [hrecords]
    exact hopen
  | @appended other recordId content validFrom circuits _ _ happends _ =>
    by_cases hsame : other = key
    · subst hsame
      exact ((hsound.consecutive other).appendTo (happends.last hsound).2 _).2
    · unfold history at hopen ⊢
      rw [ofKey_appendTo_other hsame]
      exact hopen
  | ended haction hmember =>
    have hother := (mem_ofKey.mp hmember).2
    subst haction
    unfold history at hopen ⊢
    rw [ofKey_closeIn, closeIn_other]
    · exact hopen
    · rw [hother]
      exact fun hsame => of_decide_eq_false hends hsame.symm

theorem RecordEffect.selected (hsound : before.Sound) (heff : before.RecordEffect action after)
    (hlater : ∀ effective ∈ action.effectiveAt, time < effective) (key : HistoryKey) :
    HistoryRow.selected (after.history key) time =
      HistoryRow.selected (before.history key) time := by
  have hkey := hsound.consecutive key
  cases heff with
  | kept hrecords _ =>
    unfold history
    rw [hrecords]
  | @appended other recordId content validFrom circuits heffective _ happends _ =>
    by_cases hsame : other = key
    · subst hsame
      exact selected_appendTo hkey (happends.last hsound).1 (hlater _ heffective) _
    · unfold history
      rw [ofKey_appendTo_other hsame]
  | @ended circuitId role row validTo haction hmember hopen _ =>
    have hrowKey : row.key = .binding circuitId role := (mem_ofKey.mp hmember).2
    subst haction
    by_cases hsame : HistoryKey.binding circuitId role = key
    · subst hsame
      exact selected_closeIn hkey (hkey.getLast?_of_open hmember hopen) hopen (hlater validTo rfl)
    · unfold history
      rw [ofKey_closeIn, closeIn_other (hrowKey ▸ hsame)]

theorem sound_empty : empty.Sound where
  consecutive := fun _ => .nil
  backed := fun _ hrow => absurd hrow List.not_mem_nil

theorem sound_of_run {actions : List RecordAction}
    (hrun : runFrom InstrumentRegistry.step empty actions = some registry) :
    registry.Sound :=
  have hreaches : Reaches InstrumentRegistry.step (fun _ _ => True) empty registry :=
    .of_runFrom (fun _ _ _ => trivial) hrun
  hreaches.invariant (P := Sound)
    (fun _ _ _ hsound _ hstep => hsound.step (step_effect hstep)) sound_empty

end InstrumentRegistry

end Nexolab
