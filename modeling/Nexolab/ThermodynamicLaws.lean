import Mathlib.Data.List.Perm.Basic
import Nexolab.DerivedThermodynamics

/-!
# Laws of the derived thermodynamics

The kernel raises nothing, marks exactly the results with a value as
available, reads its sources only through the roles a formula needs, and is
monotone in the policy.
-/

namespace Nexolab

def Completes {α : Type} (computation : Except PythonException α) : Prop :=
  ∃ result, computation = .ok result

theorem completes_ok {α : Type} (value : α) :
    Completes (.ok value : Except PythonException α) :=
  ⟨value, rfl⟩

theorem Completes.bind {α β : Type}
    {first : Except PythonException α} {next : α → Except PythonException β}
    (hfirst : Completes first) (hnext : ∀ value, first = .ok value → Completes (next value)) :
    Completes (first >>= next) := by
  cases hfirst with
  | intro value hvalue =>
    rw [hvalue, ok_bind]
    exact hnext value hvalue

namespace PythonDatetime

variable {left right : PythonDatetime}

theorem combine_aware {α : Type} (operation : ℤ → ℤ → α)
    (hleft : left.isAware = true) (hright : right.isAware = true) :
    combine operation left right = .ok (operation left.micros right.micros) := by
  unfold combine
  rw [if_pos (hleft.trans hright.symm)]

theorem lt_aware (hleft : left.isAware = true) (hright : right.isAware = true) :
    lt left right = .ok (decide (left.micros < right.micros)) :=
  combine_aware _ hleft hright

theorem le_aware (hleft : left.isAware = true) (hright : right.isAware = true) :
    le left right = .ok (decide (left.micros ≤ right.micros)) :=
  combine_aware _ hleft hright

theorem sub_aware (hleft : left.isAware = true) (hright : right.isAware = true) :
    sub left right = .ok (left.micros - right.micros) :=
  combine_aware _ hleft hright

theorem earlier_aware (hleft : left.isAware = true) (hright : right.isAware = true) :
    ∃ least, earlier left right = .ok least ∧ least.isAware = true := by
  unfold earlier
  rw [lt_aware hright hleft, ok_bind]
  by_cases hbefore : right.micros < left.micros
  · exact ⟨right, by simp [hbefore], hright⟩
  · exact ⟨left, by simp [hbefore], hleft⟩

theorem later_aware (hleft : left.isAware = true) (hright : right.isAware = true) :
    ∃ greatest, later left right = .ok greatest ∧ greatest.isAware = true := by
  unfold later
  rw [lt_aware hleft hright, ok_bind]
  by_cases hbefore : left.micros < right.micros
  · exact ⟨right, by simp [hbefore], hright⟩
  · exact ⟨left, by simp [hbefore], hleft⟩

variable {values : List PythonDatetime}

theorem foldlM_aware
    {choose : PythonDatetime → PythonDatetime →
      Except PythonException PythonDatetime}
    (hchoose : ∀ left right, left.isAware = true → right.isAware = true →
      ∃ chosen, choose left right = .ok chosen ∧ chosen.isAware = true) {first : PythonDatetime}
    (hfirst : first.isAware = true) (hvalues : ∀ value ∈ values, value.isAware = true) :
    ∃ chosen, values.foldlM choose first = .ok chosen ∧ chosen.isAware = true := by
  induction values generalizing first with
  | nil => exact ⟨first, rfl, hfirst⟩
  | cons value rest ih =>
    obtain ⟨chosen, hchosen, haware⟩ :=
      hchoose first value hfirst (hvalues value List.mem_cons_self)
    have hrest : ∀ other ∈ rest, other.isAware = true :=
      fun other hother => hvalues other (List.mem_cons_of_mem value hother)
    rw [List.foldlM_cons, hchosen, ok_bind]
    exact ih haware hrest

theorem minimum_aware (hfilled : values ≠ []) (hvalues : ∀ value ∈ values, value.isAware = true) :
    ∃ least, minimum values = .ok least ∧ least.isAware = true := by
  cases values with
  | nil => exact absurd rfl hfilled
  | cons first rest =>
    apply foldlM_aware fun _ _ => earlier_aware
    · exact hvalues first List.mem_cons_self
    · exact fun value hvalue =>
        hvalues value (List.mem_cons_of_mem first hvalue)

theorem maximum_aware (hfilled : values ≠ []) (hvalues : ∀ value ∈ values, value.isAware = true) :
    ∃ greatest, maximum values = .ok greatest ∧ greatest.isAware = true := by
  cases values with
  | nil => exact absurd rfl hfilled
  | cons first rest =>
    apply foldlM_aware fun _ _ => later_aware
    · exact hvalues first List.mem_cons_self
    · exact fun value hvalue =>
        hvalues value (List.mem_cons_of_mem first hvalue)

theorem contains_completes (validFrom : PythonDatetime)
    (validTo : Option PythonDatetime) (value : PythonDatetime) :
    Completes (contains validFrom validTo value) := by
  unfold contains
  split
  next => exact completes_ok false
  next haware =>
    simp only [Bool.or_eq_true, Bool.not_eq_true', not_or, Bool.not_eq_false] at haware
    rw [le_aware haware.1.1 haware.1.2, ok_bind]
    split
    next =>
      cases validTo with
      | none => exact completes_ok true
      | some limit =>
        have hlimit : limit.isAware = true := by
          simpa using haware.2
        exact ⟨_, lt_aware haware.1.2 hlimit⟩
    next => exact completes_ok false

end PythonDatetime

/-! ## Gates -/

theorem rejectWhen_completes (condition : Prop) [Decidable condition]
    (reason : ReasonCode) : Completes (rejectWhen condition reason) :=
  completes_ok _

theorem rejectWhen_passes {condition : Prop} [Decidable condition] {reason : ReasonCode} :
    rejectWhen condition reason = .ok none ↔ ¬ condition := by
  unfold rejectWhen
  by_cases hcondition : condition
  · simp [hcondition]
  · simp [hcondition]

theorem rejectUnless_completes {checked : Except PythonException Bool}
    {reason : ReasonCode} (hchecked : Completes checked) :
    Completes (rejectUnless checked reason) := by
  apply hchecked.bind
  intro verdict _
  cases verdict with
  | false => exact completes_ok _
  | true => exact completes_ok _

theorem firstReason_completes {gates : List Gate} (hgates : ∀ gate ∈ gates, Completes gate) :
    Completes (firstReason gates) := by
  induction gates with
  | nil => exact completes_ok none
  | cons gate rest ih =>
    apply (hgates gate List.mem_cons_self).bind
    intro reason _
    cases reason with
    | some reason => exact completes_ok _
    | none =>
      exact ih fun other hother =>
        hgates other (List.mem_cons_of_mem gate hother)

theorem firstReason_passes {gates : List Gate} :
    firstReason gates = .ok none ↔ ∀ gate ∈ gates, gate = .ok none := by
  induction gates with
  | nil => simp [firstReason]
  | cons gate rest ih =>
    rw [List.forall_mem_cons, ← ih, firstReason, bind_eq_ok]
    constructor
    · rintro ⟨reason, hgate, hrest⟩
      cases reason with
      | some reason => cases hrest
      | none => exact ⟨hgate, hrest⟩
    · intro hboth
      exact ⟨none, hboth.1, hboth.2⟩

theorem validateContext_completes (request : CalculationRequest) :
    Completes (validateContext request) := by
  apply firstReason_completes
  simp only [List.forall_mem_cons]
  exact ⟨rejectWhen_completes _ _, rejectWhen_completes _ _, rejectWhen_completes _ _,
    rejectUnless_completes (PythonDatetime.contains_completes _ _ _),
    rejectUnless_completes (PythonDatetime.contains_completes _ _ _),
    fun _ hnone => absurd hnone List.not_mem_nil⟩

theorem validateAcceptance_completes (evidence : Option AcceptanceEvidence)
    (moment : PythonDatetime) (unavailableReason rejectedReason : ReasonCode) :
    Completes (validateAcceptance evidence moment unavailableReason rejectedReason) := by
  cases evidence with
  | none => exact completes_ok _
  | some evidence =>
    apply firstReason_completes
    simp only [List.forall_mem_cons]
    exact ⟨rejectWhen_completes _ _,
      rejectUnless_completes (PythonDatetime.contains_completes _ _ _),
      rejectWhen_completes _ _, fun _ hnone => absurd hnone List.not_mem_nil⟩

theorem validateCalibration_completes (evidence : Option CalibrationEvidence)
    (moment : PythonDatetime) (policy : CalculationPolicy) :
    Completes (validateCalibration evidence moment policy) := by
  cases evidence with
  | none => exact completes_ok _
  | some evidence =>
    apply firstReason_completes
    simp only [List.forall_mem_cons]
    exact ⟨rejectWhen_completes _ _,
      rejectUnless_completes (PythonDatetime.contains_completes _ _ _),
      rejectWhen_completes _ _, fun _ hnone => absurd hnone List.not_mem_nil⟩

theorem ageGate_completes {capturedAt observationAt : PythonDatetime} (policy : CalculationPolicy)
    (hcapt : capturedAt.isAware = true) (hobs : observationAt.isAware = true) :
    Completes (ageGate capturedAt observationAt policy) := by
  unfold ageGate
  rw [PythonDatetime.le_aware hcapt hobs, PythonDatetime.sub_aware hcapt hobs,
    PythonDatetime.sub_aware hobs hcapt]
  simp only [ok_bind]
  split
  next => exact rejectWhen_completes _ _
  next =>
    split
    next => exact completes_ok _
    next => exact rejectWhen_completes _ _

section

variable {F : Type} [PythonArithmetic F]

omit [PythonArithmetic F] in
theorem unitGates_completes (source : ResolvedSourceEvidence F) :
    ∀ gate ∈ unitGates source, Completes gate := by
  intro gate hgate
  unfold unitGates at hgate
  split at hgate
  next =>
    simp only [List.mem_cons, List.not_mem_nil, or_false] at hgate
    rcases hgate with rfl | rfl
    · exact rejectWhen_completes _ _
    · split
      next => exact rejectWhen_completes _ _
      next => exact rejectWhen_completes _ _
  next =>
    split at hgate
    next =>
      rw [List.mem_singleton] at hgate
      subst hgate
      exact rejectWhen_completes _ _
    next => exact absurd hgate List.not_mem_nil

omit [PythonArithmetic F] in
theorem calibrationGates_completes (source : ResolvedSourceEvidence F)
    (policy : CalculationPolicy) (observationAt : PythonDatetime) :
    ∀ gate ∈ calibrationGates source policy observationAt, Completes gate := by
  intro gate hgate
  unfold calibrationGates at hgate
  split at hgate
  next =>
    simp only [List.mem_cons, List.not_mem_nil, or_false] at hgate
    rcases hgate with rfl | rfl
    · exact validateCalibration_completes _ _ _
    · split
      next => exact validateCalibration_completes _ _ _
      next => exact completes_ok none
  next => exact absurd hgate List.not_mem_nil

theorem validateSource_completes (source : ResolvedSourceEvidence F) {request : CalculationRequest}
    (hobs : request.observationAt.isAware = true) :
    Completes (validateSource source request) := by
  have hcontains : ∀ (validFrom : PythonDatetime)
      (validTo : Option PythonDatetime) (value : PythonDatetime)
      (reason : ReasonCode),
      Completes (rejectUnless (PythonDatetime.contains validFrom validTo value) reason) :=
    fun validFrom validTo value _ => rejectUnless_completes
      (PythonDatetime.contains_completes validFrom validTo value)
  by_cases hcapt : source.capturedAt.isAware = true
  · apply firstReason_completes
    simp only [List.forall_mem_append, List.forall_mem_cons]
    refine ⟨⟨⟨?_, unitGates_completes source⟩, ?_⟩, calibrationGates_completes _ _ _⟩
    · exact ⟨rejectWhen_completes _ _, rejectWhen_completes _ _,
        hcontains _ _ _ _, hcontains _ _ _ _, hcontains _ _ _ _,
        fun _ hnone => absurd hnone List.not_mem_nil⟩
    · exact ⟨rejectWhen_completes _ _, rejectWhen_completes _ _,
        rejectWhen_completes _ _, rejectWhen_completes _ _,
        ageGate_completes _ hcapt hobs, validateAcceptance_completes _ _ _ _,
        validateAcceptance_completes _ _ _ _, validateAcceptance_completes _ _ _ _,
        validateAcceptance_completes _ _ _ _,
        fun _ hnone => absurd hnone List.not_mem_nil⟩
  · unfold validateSource
    simp only [List.cons_append, List.append_assoc, firstReason]
    apply (rejectWhen_completes _ _).bind
    intro reason _
    cases reason with
    | some reason => exact completes_ok _
    | none =>
      have hnaive : rejectWhen ((!source.capturedAt.isAware) = true)
          .invalidTimestamp = .ok (some .invalidTimestamp) := by
        simp [rejectWhen, hcapt]
      rw [hnaive]
      exact completes_ok _

variable {source : ResolvedSourceEvidence F} {role : String} {roles : List String}
  {complete : Bool} {selected : List (ResolvedSourceEvidence F)}
  {conversion : Option (PressureConversionProvenance F)}
  {effectiveAt : Option PythonDatetime} {provider : RefrigerantPropertyProvider F}

theorem validateSource_passes {request : CalculationRequest}
    (hpasses : validateSource source request = .ok none) :
    source.capturedAt.isAware = true ∧ ∃ numeric, floatOf source.value = .ok numeric := by
  have hgates := firstReason_passes.mp hpasses
  simp only [List.forall_mem_append, List.forall_mem_cons, rejectWhen_passes] at hgates
  constructor
  · simpa using hgates.1.1.1.2.1
  · have hfinite : hasFiniteValue source.value = true := by
      simpa using hgates.1.2.2.2.1
    unfold hasFiniteValue at hfinite
    split at hfinite
    next numeric hnumeric => exact ⟨numeric, hnumeric⟩
    next => cases hfinite

variable {sources : List (ResolvedSourceEvidence F)} {result : DerivedResult F}

theorem validateSources_completes {request : CalculationRequest} (hfilled : sources ≠ [])
    (hobs : request.observationAt.isAware = true) :
    Completes (validateSources sources request) := by
  have hgates : ∀ gate ∈ sources.map fun source => validateSource source request,
      Completes gate := by
    intro gate hgate
    rcases List.mem_map.mp hgate with ⟨source, _, rfl⟩
    exact validateSource_completes source hobs
  apply (firstReason_completes hgates).bind
  intro reason hreason
  cases reason with
  | some reason => exact completes_ok _
  | none =>
    have haware : ∀ captured ∈ sources.map ResolvedSourceEvidence.capturedAt,
        captured.isAware = true := by
      intro captured hcapt
      rcases List.mem_map.mp hcapt with ⟨source, hsrc, rfl⟩
      exact (validateSource_passes (firstReason_passes.mp hreason _ (List.mem_map_of_mem hsrc))).1
    have hcapt : sources.map ResolvedSourceEvidence.capturedAt ≠ [] := by
      simpa using hfilled
    obtain ⟨latest, hlat, hlatestAware⟩ :=
      PythonDatetime.maximum_aware hcapt haware
    obtain ⟨earliest, hearliest, hearliestAware⟩ :=
      PythonDatetime.minimum_aware hcapt haware
    obtain ⟨effectiveAt, heffective, _⟩ :=
      PythonDatetime.earlier_aware hobs hearliestAware
    simp only [hlat, hearliest, ok_bind,
      PythonDatetime.sub_aware hlatestAware hearliestAware, heffective]
    split
    next => exact completes_ok _
    next => exact completes_ok _

theorem validateSources_accepts {request : CalculationRequest} {effectiveAt : PythonDatetime}
    (haccepts : validateSources sources request = .ok (.ok effectiveAt)) :
    ∀ source ∈ sources, validateSource source request = .ok none := by
  unfold validateSources at haccepts
  rw [bind_eq_ok] at haccepts
  obtain ⟨reason, hreason, hrest⟩ := haccepts
  cases reason with
  | some reason => cases hrest
  | none =>
    intro source hsrc
    exact firstReason_passes.mp hreason _ (List.mem_map_of_mem hsrc)

section

omit [PythonArithmetic F]

theorem selectOne_mem (hsel : selectOne sources role = .ok source) :
    source ∈ sources ∧ source.role = role := by
  have hmem : source ∈ sources.filter fun other => other.role = role := by
    unfold selectOne at hsel
    split at hsel
    next => cases hsel
    next only honly =>
      cases hsel
      rw [honly]
      exact List.mem_singleton_self source
    next => cases hsel
  simpa using hmem

theorem selectOne_congr {sources others : List (ResolvedSourceEvidence F)}
    (hperm : (others.filter fun source => source.role = role).Perm
      (sources.filter fun source => source.role = role)) :
    selectOne others role = selectOne sources role := by
  have hlen := hperm.length_eq
  unfold selectOne
  cases hsources : sources.filter fun source => source.role = role with
  | nil =>
    rw [hsources] at hperm
    rw [hperm.eq_nil]
  | cons first rest =>
    cases rest with
    | nil =>
      rw [hsources] at hperm
      rw [List.perm_singleton.mp hperm]
    | cons second rest =>
      rw [hsources] at hlen
      cases hothers : others.filter fun source => source.role = role with
      | nil => simp [hothers] at hlen
      | cons first' rest' =>
        cases rest' with
        | nil => simp [hothers] at hlen
        | cons second' rest' => rfl

theorem selectRoles_congr {sources others : List (ResolvedSourceEvidence F)}
    (hsame : ∀ role ∈ roles, selectOne others role = selectOne sources role) :
    selectRoles others roles = selectRoles sources roles := by
  induction roles with
  | nil => rfl
  | cons role rest ih =>
    rw [List.forall_mem_cons] at hsame
    rw [selectRoles, selectRoles, hsame.1, ih hsame.2]

theorem selectRoles_spec {sources selected : List (ResolvedSourceEvidence F)}
    (hsel : selectRoles sources roles = (selected, none)) :
    List.Forall₂ (fun role source => selectOne sources role = .ok source) roles selected := by
  induction roles generalizing selected with
  | nil =>
    cases hsel
    exact .nil
  | cons role rest ih =>
    unfold selectRoles at hsel
    split at hsel
    next => cases hsel
    next source hsrc =>
      cases hrest : selectRoles sources rest with
      | mk others reason =>
        rw [hrest] at hsel
        cases hsel
        exact .cons hsrc (ih hrest)

theorem firstWithRole_mem (hfirst : firstWithRole sources role = .ok source) :
    source ∈ sources ∧ source.role = role := by
  unfold firstWithRole at hfirst
  split at hfirst
  next found hfound =>
    cases hfirst
    exact ⟨List.mem_of_find?_eq_some hfound, by
      simpa using List.find?_some hfound⟩
  next => cases hfirst

theorem firstWithRole_completes (hrole : ∃ source ∈ sources, source.role = role) :
    Completes (firstWithRole sources role) := by
  unfold firstWithRole
  split
  next source _ => exact completes_ok source
  next hnone =>
    rcases hrole with ⟨source, hsrc, hrole⟩
    exact absurd hrole (by simpa using List.find?_eq_none.mp hnone source hsrc)

end

theorem pressureRole_mem (metric : MetricId) :
    pressureRole metric ∈ baseRequiredRoles metric := by
  cases metric with
  | evaporationSaturation => exact List.mem_cons_self
  | condensationSaturation => exact List.mem_cons_self
  | superheat => exact List.mem_cons_self
  | subcooling => exact List.mem_cons_self

omit [PythonArithmetic F] in
theorem role_selected {sources selected : List (ResolvedSourceEvidence F)}
    (hsel : selectRoles sources roles = (selected, none)) (hrole : role ∈ roles) :
    ∃ source ∈ selected, source.role = role := by
  rcases exists_of_forall₂ (selectRoles_spec hsel) hrole with
    ⟨source, hsrc, hone⟩
  exact ⟨source, hsrc, (selectOne_mem hone).2⟩

/-! ## Nothing is raised -/

omit [PythonArithmetic F] in
theorem unavailable_completes (request : CalculationRequest)
    (sources : List (ResolvedSourceEvidence F)) (reason : ReasonCode)
    (effectiveAt : Option PythonDatetime) (conversion : Option (PressureConversionProvenance F))
    (provider : Option (ProviderProvenance F))
    (hobs : complete = true → request.observationAt.isAware = true) :
    Completes (unavailableResult request sources reason complete effectiveAt
      conversion provider) := by
  unfold unavailableResult
  apply Completes.bind
  · unfold effectiveInstant
    dsimp only
    split
    next hcompute =>
      have hfilled : sources.map ResolvedSourceEvidence.capturedAt ≠ [] := by
        simpa using hcompute.2.2.1
      obtain ⟨earliest, hearliest, haware⟩ :=
        PythonDatetime.minimum_aware hfilled (List.all_eq_true.mp hcompute.2.2.2)
      obtain ⟨effective, heffective, _⟩ :=
        PythonDatetime.earlier_aware (hobs hcompute.2.1) haware
      rw [hearliest, ok_bind, heffective, ok_bind]
      exact completes_ok _
    next => exact completes_ok _
  · exact fun _ _ => completes_ok _

theorem floatOf_of_pressureToPa {value : Option (PythonNumber F)}
    {unit : String} {pressure : F} (hpressure : pressureToPa value unit = some pressure) :
    Completes (floatOf value) := by
  unfold pressureToPa at hpressure
  split at hpressure
  next factor numeric _ hnumeric => exact ⟨numeric, hnumeric⟩
  next => cases hpressure

theorem checkedConversion_completes {pressure : ResolvedSourceEvidence F}
    (reference : String) (sourcePa absolute : F)
    (atmosphere : Option (ResolvedSourceEvidence F × F))
    (hvalue : Completes (floatOf pressure.value)) :
    Completes (checkedConversion pressure reference sourcePa absolute atmosphere) := by
  unfold checkedConversion
  split
  next => exact completes_ok _
  next => exact hvalue.bind fun _ _ => completes_ok _

theorem absolutePressure_completes (pressure : ResolvedSourceEvidence F)
    (sources : List (ResolvedSourceEvidence F)) :
    Completes (absolutePressure pressure sources) := by
  unfold absolutePressure
  cases hpressure : pressureToPa pressure.value pressure.unit with
  | none => exact completes_ok _
  | some sourcePa =>
    have hvalue := floatOf_of_pressureToPa hpressure
    dsimp only
    split
    next => exact checkedConversion_completes _ _ _ _ hvalue
    next =>
      split
      next => exact completes_ok _
      next => exact checkedConversion_completes _ _ _ _ hvalue
    next => exact completes_ok _

theorem metricValue_completes {metric : MetricId} (saturationDegC : F)
    (hroles : ∀ role ∈ baseRequiredRoles metric, ∃ source ∈ sources, source.role = role)
    (hvalues : ∀ source ∈ sources, Completes (floatOf source.value)) :
    Completes (metricValue metric sources saturationDegC) := by
  have hline : ∀ role ∈ baseRequiredRoles metric, ∀ next : F → F,
      Completes (firstWithRole sources role >>= fun source =>
        floatOf source.value >>= fun line => .ok (next line)) := by
    intro role hrole next
    apply (firstWithRole_completes (hroles role hrole)).bind
    intro source hsrc
    apply (hvalues source (firstWithRole_mem hsrc).1).bind
    exact fun line _ => completes_ok _
  cases metric with
  | evaporationSaturation => exact completes_ok _
  | condensationSaturation => exact completes_ok _
  | superheat =>
    exact hline "suction_line_temperature"
      (List.mem_cons_of_mem _ List.mem_cons_self) _
  | subcooling =>
    exact hline "liquid_line_temperature"
      (List.mem_cons_of_mem _ List.mem_cons_self) _

theorem calculateSelected_completes (provider : RefrigerantPropertyProvider F)
    {request : CalculationRequest} (pressureSource : ResolvedSourceEvidence F)
    (hobs : request.observationAt.isAware = true)
    (hroles : ∀ role ∈ baseRequiredRoles request.metric, ∃ source ∈ selected, source.role = role) :
    Completes (calculateSelected provider request pressureSource selected) := by
  have hfilled : selected ≠ [] := by
    rcases hroles _ (pressureRole_mem request.metric) with ⟨source, hsrc, _⟩
    exact List.ne_nil_of_mem hsrc
  have hunav : ∀ reason effectiveAt conversion provenance,
      Completes (unavailableResult request selected reason true effectiveAt
        conversion provenance) :=
    fun reason effectiveAt conversion provenance => unavailable_completes
      request selected reason effectiveAt conversion provenance
      fun _ => hobs
  apply (validateSources_completes hfilled hobs).bind
  intro validated hvalidated
  cases validated with
  | error reason => exact hunav _ _ _ _
  | ok effectiveAt =>
    have hvalues : ∀ source ∈ selected, Completes (floatOf source.value) :=
      fun source hsrc => (validateSource_passes (validateSources_accepts hvalidated source hsrc)).2
    apply (absolutePressure_completes pressureSource selected).bind
    intro converted _
    cases converted with
    | error reason => exact hunav _ _ _ _
    | ok conversion =>
      dsimp only
      split
      next => exact hunav _ _ _ _
      next result _ =>
        apply (metricValue_completes _ hroles hvalues).bind
        intro value _
        split
        next => exact hunav _ _ _ _
        next => exact completes_ok _

theorem calculateFrom_completes (provider : RefrigerantPropertyProvider F)
    {request : CalculationRequest} (sources : List (ResolvedSourceEvidence F))
    (hobs : request.observationAt.isAware = true) :
    Completes (calculateFrom provider request sources) := by
  unfold calculateFrom
  split
  next => exact unavailable_completes _ _ _ _ _ _ fun _ => hobs
  next selected hsel =>
    have hroles : ∀ role ∈ baseRequiredRoles request.metric,
        ∃ source ∈ selected, source.role = role :=
      fun role hrole => role_selected hsel hrole
    apply (firstWithRole_completes (hroles _ (pressureRole_mem request.metric))).bind
    intro pressureSource _
    split
    next =>
      split
      next => exact unavailable_completes _ _ _ _ _ _ fun _ => hobs
      next atmospheric _ =>
        apply calculateSelected_completes provider pressureSource hobs
        intro role hrole
        rcases hroles role hrole with ⟨source, hsrc, hsame⟩
        exact ⟨source, List.mem_append_left _ hsrc, hsame⟩
    next =>
      exact calculateSelected_completes provider pressureSource hobs hroles

theorem calculate_completes (provider : RefrigerantPropertyProvider F)
    (request : CalculationRequest) (sources : List (ResolvedSourceEvidence F)) :
    Completes (calculate provider request sources) := by
  have hrefused : ∀ reason, Completes (unavailableResult request sources reason false
      none none none) :=
    fun reason => unavailable_completes request sources reason none none none
      fun hcomp => by cases hcomp
  unfold calculate
  cases htime : validateEvaluationTime request.observationAt request.computedAt with
  | some reason => exact hrefused reason
  | none =>
    have hobs : request.observationAt.isAware = true := by
      unfold validateEvaluationTime at htime
      split at htime
      next => cases htime
      next haware => simp at haware; exact haware.1
    apply (validateContext_completes request).bind
    intro refused _
    cases refused with
    | some reason => exact hrefused reason
    | none => exact calculateFrom_completes provider sources hobs

def DerivedResult.Marked (result : DerivedResult F) : Prop :=
  result.value.isSome = true ↔ result.availability = .available

omit [PythonArithmetic F] in
theorem unavailable_spec {request : CalculationRequest} {reason : ReasonCode}
    {provider : Option (ProviderProvenance F)}
    (hres : unavailableResult request sources reason complete effectiveAt
      conversion provider = .ok result) :
    result.value = none ∧ result.availability = .unavailable := by
  unfold unavailableResult at hres
  rw [bind_eq_ok] at hres
  obtain ⟨effective, _, hres⟩ := hres
  cases hres
  exact ⟨rfl, rfl⟩

omit [PythonArithmetic F] in
theorem unavailable_marked {request : CalculationRequest} {reason : ReasonCode}
    {provider : Option (ProviderProvenance F)}
    (hres : unavailableResult request sources reason complete effectiveAt
      conversion provider = .ok result) :
    result.Marked := by
  have hspec := unavailable_spec hres
  unfold DerivedResult.Marked
  simp [hspec.1, hspec.2]

theorem calculateSelected_marked
    {request : CalculationRequest} {pressureSource : ResolvedSourceEvidence F}
    (hres : calculateSelected provider request pressureSource selected = .ok result) :
    result.Marked := by
  unfold calculateSelected at hres
  rw [bind_eq_ok] at hres
  obtain ⟨validated, _, hres⟩ := hres
  cases validated with
  | error reason => exact unavailable_marked hres
  | ok effectiveAt =>
    dsimp only at hres
    rw [bind_eq_ok] at hres
    obtain ⟨converted, _, hres⟩ := hres
    cases converted with
    | error reason => exact unavailable_marked hres
    | ok conversion =>
      dsimp only at hres
      split at hres
      next => exact unavailable_marked hres
      next saturated _ =>
        unfold calculateValue at hres
        rw [bind_eq_ok] at hres
        obtain ⟨value, _, hres⟩ := hres
        split at hres
        next => exact unavailable_marked hres
        next =>
          cases hres
          unfold DerivedResult.Marked
          simp

theorem calculateFrom_marked {request : CalculationRequest}
    (hres : calculateFrom provider request sources = .ok result) :
    result.Marked := by
  unfold calculateFrom at hres
  split at hres
  next => exact unavailable_marked hres
  next selected _ =>
    rw [bind_eq_ok] at hres
    obtain ⟨pressureSource, _, hres⟩ := hres
    split at hres
    next =>
      split at hres
      next => exact unavailable_marked hres
      next => exact calculateSelected_marked hres
    next => exact calculateSelected_marked hres

theorem calculate_marked {request : CalculationRequest}
    (hres : calculate provider request sources = .ok result) :
    result.Marked := by
  unfold calculate at hres
  split at hres
  next => exact unavailable_marked hres
  next =>
    rw [bind_eq_ok] at hres
    obtain ⟨refused, _, hres⟩ := hres
    cases refused with
    | some reason => exact unavailable_marked hres
    | none => exact calculateFrom_marked hres

end

/-! ## More permissive policies -/

/-- The second policy accepts whatever the first one accepts. -/
structure CalculationPolicy.Within (policy wider : CalculationPolicy) : Prop where
  version : wider.version = policy.version
  age : policy.maximumAge ≤ wider.maximumAge
  futureSkew : policy.maximumFutureClockSkew ≤ wider.maximumFutureClockSkew
  crossSkew : policy.maximumCrossInputSkew ≤ wider.maximumCrossInputSkew
  states : policy.acceptedCalibrationStates ⊆ wider.acceptedCalibrationStates
  observation : wider.requireCalibrationAtObservation = true →
    policy.requireCalibrationAtObservation = true
  roles : wider.calibrationRequiredRoles ⊆ policy.calibrationRequiredRoles

def CalculationRequest.under (request : CalculationRequest)
    (policy : CalculationPolicy) : CalculationRequest :=
  { request with policy }

section

variable {policy wider : CalculationPolicy}

theorem ageGate_mono (hwithin : policy.Within wider) {capturedAt observationAt : PythonDatetime}
    (hpasses : ageGate capturedAt observationAt policy = .ok none) :
    ageGate capturedAt observationAt wider = .ok none := by
  unfold ageGate at hpasses ⊢
  rw [bind_eq_ok] at hpasses
  obtain ⟨past, hpast, hpasses⟩ := hpasses
  rw [hpast, ok_bind]
  cases past with
  | true =>
    simp only [if_true] at hpasses ⊢
    rw [bind_eq_ok] at hpasses
    obtain ⟨age, hage, hpasses⟩ := hpasses
    rw [hage, ok_bind, rejectWhen_passes]
    rw [rejectWhen_passes] at hpasses
    have hwider := hwithin.age
    omega
  | false =>
    simp only [Bool.false_eq_true, if_false] at hpasses ⊢
    rw [bind_eq_ok] at hpasses
    obtain ⟨offset, hoffset, hpasses⟩ := hpasses
    rw [hoffset, ok_bind]
    have hwider := hwithin.futureSkew
    have hnonneg := policy.maximumFutureClockSkew_nonneg
    by_cases hzero : policy.maximumFutureClockSkew = 0
    · rw [if_pos hzero] at hpasses
      cases hpasses
    · rw [if_neg hzero, rejectWhen_passes] at hpasses
      rw [if_neg (by omega), rejectWhen_passes]
      omega

theorem validateCalibration_mono (hwithin : policy.Within wider)
    {evidence : Option CalibrationEvidence} {moment : PythonDatetime}
    (hpasses : validateCalibration evidence moment policy = .ok none) :
    validateCalibration evidence moment wider = .ok none := by
  cases evidence with
  | none => cases hpasses
  | some evidence =>
    have hgates := firstReason_passes.mp hpasses
    apply firstReason_passes.mpr
    simp only [List.forall_mem_cons, rejectWhen_passes, not_not] at hgates ⊢
    exact ⟨hgates.1, hgates.2.1, hwithin.states hgates.2.2.1, hgates.2.2.2⟩

variable {F : Type}

theorem calibrationGates_mono (hwithin : policy.Within wider)
    {source : ResolvedSourceEvidence F} {observationAt : PythonDatetime}
    (hpasses : ∀ gate ∈ calibrationGates source policy observationAt, gate = .ok none) :
    ∀ gate ∈ calibrationGates source wider observationAt, gate = .ok none := by
  unfold calibrationGates at hpasses ⊢
  by_cases hrequired : source.role ∈ wider.calibrationRequiredRoles
  · rw [if_pos (hwithin.roles hrequired)] at hpasses
    rw [if_pos hrequired]
    simp only [List.forall_mem_cons] at hpasses ⊢
    constructor
    · exact validateCalibration_mono hwithin hpasses.1
    · constructor
      · split
        next hwide =>
          rw [if_pos (hwithin.observation hwide)] at hpasses
          exact validateCalibration_mono hwithin hpasses.2.1
        next => rfl
      · exact hpasses.2.2
  · rw [if_neg hrequired]
    exact fun gate hgate => absurd hgate List.not_mem_nil

variable [PythonArithmetic F] {request : CalculationRequest}

theorem validateSource_mono (hwithin : request.policy.Within wider)
    {source : ResolvedSourceEvidence F} (hpasses : validateSource source request = .ok none) :
    validateSource source (request.under wider) = .ok none := by
  have hgates := firstReason_passes.mp hpasses
  apply firstReason_passes.mpr
  rw [List.forall_mem_append, List.forall_mem_append] at hgates ⊢
  refine ⟨⟨hgates.1.1, ?_⟩, calibrationGates_mono hwithin hgates.2⟩
  have hlater := hgates.1.2
  simp only [List.forall_mem_cons] at hlater ⊢
  exact ⟨hlater.1, hlater.2.1, hlater.2.2.1, hlater.2.2.2.1,
    ageGate_mono hwithin hlater.2.2.2.2.1, hlater.2.2.2.2.2⟩

theorem validateSources_mono (hwithin : request.policy.Within wider)
    {sources : List (ResolvedSourceEvidence F)} {effectiveAt : PythonDatetime}
    (haccepts : validateSources sources request = .ok (.ok effectiveAt)) :
    validateSources sources (request.under wider) = .ok (.ok effectiveAt) := by
  have hwide : firstReason (sources.map fun source =>
      validateSource source (request.under wider)) = .ok none := by
    apply firstReason_passes.mpr
    intro gate hgate
    rcases List.mem_map.mp hgate with ⟨source, hsrc, rfl⟩
    exact validateSource_mono hwithin (validateSources_accepts haccepts source hsrc)
  unfold validateSources at haccepts ⊢
  rw [bind_eq_ok] at haccepts
  obtain ⟨reason, hreason, haccepts⟩ := haccepts
  cases reason with
  | some reason => cases haccepts
  | none =>
    simp only [bind_eq_ok] at haccepts
    obtain ⟨latest, hlat, earliest, hearliest, skew, hskew, haccepts⟩ :=
      haccepts
    rw [hwide, ok_bind]
    simp only [hlat, hearliest, hskew, ok_bind]
    split at haccepts
    next => cases haccepts
    next hclose =>
      have hcross := hwithin.crossSkew
      have hwideClose :
          ¬ (request.under wider).policy.maximumCrossInputSkew < skew := by
        change ¬ wider.maximumCrossInputSkew < skew
        omega
      rw [if_neg hwideClose]
      exact haccepts

theorem calculateValue_mono {sources : List (ResolvedSourceEvidence F)}
    {effectiveAt : PythonDatetime} {conversion : PressureConversionProvenance F}
    {saturated : SaturationTemperatureResult F} {result : DerivedResult F}
    (hres : calculateValue request sources effectiveAt conversion saturated = .ok result)
    (havail : result.availability = .available) :
    calculateValue (request.under wider) sources effectiveAt conversion
      saturated = .ok { result with policy := wider } := by
  unfold calculateValue at hres ⊢
  rw [bind_eq_ok] at hres
  obtain ⟨value, hvalue, hres⟩ := hres
  have hsame : metricValue (request.under wider).metric sources
      (PythonFloat.sub saturated.temperatureK
        (PythonFloat.ofLiteral (codePoints "273.15"))) = .ok value := hvalue
  dsimp only
  rw [hsame, ok_bind]
  split at hres
  next =>
    rw [(unavailable_spec hres).2] at havail
    cases havail
  next hfinite =>
    cases hres
    rw [if_neg hfinite]
    rfl

theorem calculateSelected_mono {provider : RefrigerantPropertyProvider F}
    (hwithin : request.policy.Within wider) {pressureSource : ResolvedSourceEvidence F}
    {selected : List (ResolvedSourceEvidence F)} {result : DerivedResult F}
    (hres : calculateSelected provider request pressureSource selected = .ok result)
    (havail : result.availability = .available) :
    calculateSelected provider (request.under wider) pressureSource selected =
      .ok { result with policy := wider } := by
  have hunav : result.availability ≠ .unavailable := by
    rw [havail]
    exact fun hcontra => by cases hcontra
  unfold calculateSelected at hres ⊢
  rw [bind_eq_ok] at hres
  obtain ⟨validated, hvalidated, hres⟩ := hres
  cases validated with
  | error reason => exact absurd (unavailable_spec hres).2 hunav
  | ok effectiveAt =>
    rw [validateSources_mono hwithin hvalidated, ok_bind]
    dsimp only at hres ⊢
    rw [bind_eq_ok] at hres
    obtain ⟨converted, hconverted, hres⟩ := hres
    rw [hconverted, ok_bind]
    cases converted with
    | error reason => exact absurd (unavailable_spec hres).2 hunav
    | ok conversion =>
      dsimp only at hres ⊢
      split at hres
      next => exact absurd (unavailable_spec hres).2 hunav
      next saturated hsaturated =>
        have hsame : saturation provider (request.under wider).context
            conversion.absolutePressurePa
            (saturationPhase (request.under wider).metric) =
            .ok saturated := hsaturated
        rw [hsame]
        exact calculateValue_mono hres havail

theorem calculateFrom_mono {provider : RefrigerantPropertyProvider F}
    (hwithin : request.policy.Within wider)
    {sources : List (ResolvedSourceEvidence F)} {result : DerivedResult F}
    (hres : calculateFrom provider request sources = .ok result)
    (havail : result.availability = .available) :
    calculateFrom provider (request.under wider) sources = .ok { result with policy := wider } := by
  have hunav : result.availability ≠ .unavailable := by
    rw [havail]
    exact fun hcontra => by cases hcontra
  have hmetric : (request.under wider).metric = request.metric := rfl
  unfold calculateFrom at hres ⊢
  rw [hmetric]
  split at hres
  next => exact absurd (unavailable_spec hres).2 hunav
  next selected _ =>
    rw [bind_eq_ok] at hres
    obtain ⟨pressureSource, hpressure, hres⟩ := hres
    rw [hpressure, ok_bind]
    split at hres
    next hgauge =>
      rw [if_pos hgauge]
      split at hres
      next => exact absurd (unavailable_spec hres).2 hunav
      next => exact calculateSelected_mono hwithin hres havail
    next hgauge =>
      rw [if_neg hgauge]
      exact calculateSelected_mono hwithin hres havail

theorem calculate_mono {provider : RefrigerantPropertyProvider F}
    (hwithin : request.policy.Within wider)
    {sources : List (ResolvedSourceEvidence F)} {result : DerivedResult F}
    (hres : calculate provider request sources = .ok result)
    (havail : result.availability = .available) :
    calculate provider (request.under wider) sources = .ok { result with policy := wider } := by
  have hunav : result.availability ≠ .unavailable := by
    rw [havail]
    exact fun hcontra => by cases hcontra
  have hcontext : validateContext (request.under wider) = validateContext request := by
    unfold validateContext CalculationRequest.under
    dsimp only
    rw [hwithin.version]
  unfold calculate at hres ⊢
  rw [hcontext]
  split at hres
  next => exact absurd (unavailable_spec hres).2 hunav
  next htime =>
    have hsame : validateEvaluationTime (request.under wider).observationAt
        (request.under wider).computedAt = none := htime
    rw [hsame]
    dsimp only
    rw [bind_eq_ok] at hres
    obtain ⟨refused, hrefused, hres⟩ := hres
    rw [hrefused, ok_bind]
    cases refused with
    | some reason => exact absurd (unavailable_spec hres).2 hunav
    | none => exact calculateFrom_mono hwithin hres havail

end

section

variable {F : Type}

/-- A formula needs its roles and, where its pressure is a gauge pressure, the
atmospheric pressure. -/
def FormulaNeeds (metric : MetricId) (sources : List (ResolvedSourceEvidence F))
    (role : String) : Prop :=
  role ∈ baseRequiredRoles metric ∨ role = "atmospheric_pressure" ∧
      ∃ source ∈ sources, source.role = pressureRole metric ∧
        source.pressureReference = some "gauge"

def RequestRefused (request : CalculationRequest) : Prop :=
  validateEvaluationTime request.observationAt request.computedAt ≠ none ∨
    validateContext request ≠ .ok none

theorem selectOne_needed {metric : MetricId}
    {sources extra shuffled : List (ResolvedSourceEvidence F)}
    (hperm : shuffled.Perm (sources ++ extra))
    (hextra : ∀ source ∈ extra, ¬ FormulaNeeds metric sources source.role)
    {role : String} (hneeded : FormulaNeeds metric sources role) :
    selectOne shuffled role = selectOne sources role := by
  apply selectOne_congr
  have hnone : extra.filter (fun source => source.role = role) = [] := by
    rw [List.filter_eq_nil_iff]
    intro source hsrc hrole
    have hsame : source.role = role := by simpa using hrole
    exact hextra source hsrc (hsame ▸ hneeded)
  calc
    (shuffled.filter fun source => source.role = role).Perm
        ((sources ++ extra).filter fun source => source.role = role) :=
      hperm.filter _
    _ = sources.filter fun source => source.role = role := by
      rw [List.filter_append, hnone, List.append_nil]

theorem selected_mem {sources selected : List (ResolvedSourceEvidence F)}
    {roles : List String} (hsel : selectRoles sources roles = (selected, none))
    {source : ResolvedSourceEvidence F} (hsrc : source ∈ selected) :
    source ∈ sources := by
  rcases exists_of_forall₂ (selectRoles_spec hsel).flip hsrc with
    ⟨role, _, hone⟩
  exact (selectOne_mem hone).1

variable [PythonArithmetic F]

theorem calculateFrom_congr {provider : RefrigerantPropertyProvider F}
    {request : CalculationRequest} {sources others : List (ResolvedSourceEvidence F)}
    (hsame : ∀ role, FormulaNeeds request.metric sources role →
      selectOne others role = selectOne sources role) :
    calculateFrom provider request others = calculateFrom provider request sources := by
  have hroles : selectRoles others (baseRequiredRoles request.metric) =
      selectRoles sources (baseRequiredRoles request.metric) :=
    selectRoles_congr fun role hrole => hsame role (.inl hrole)
  unfold calculateFrom
  rw [hroles]
  split
  next => rfl
  next selected hsel =>
    cases hpressure : firstWithRole selected (pressureRole request.metric) with
    | error raised => rfl
    | ok pressureSource =>
      rw [ok_bind, ok_bind]
      by_cases hgauge : pressureSource.pressureReference = some "gauge"
      · have hfirst := firstWithRole_mem hpressure
        have hneeded : FormulaNeeds request.metric sources "atmospheric_pressure" :=
          .inr ⟨rfl, pressureSource, selected_mem hsel hfirst.1, hfirst.2, hgauge⟩
        rw [if_pos hgauge, if_pos hgauge, hsame _ hneeded]
      · rw [if_neg hgauge, if_neg hgauge]

theorem calculate_of_accepted {provider : RefrigerantPropertyProvider F}
    {request : CalculationRequest} (hacc : ¬ RequestRefused request)
    (sources : List (ResolvedSourceEvidence F)) :
    calculate provider request sources = calculateFrom provider request sources := by
  unfold RequestRefused at hacc
  push Not at hacc
  unfold calculate
  rw [hacc.1]
  dsimp only
  rw [hacc.2, ok_bind]

theorem calculate_of_refused {provider : RefrigerantPropertyProvider F}
    {request : CalculationRequest} (hrefused : RequestRefused request)
    {sources : List (ResolvedSourceEvidence F)} {result : DerivedResult F}
    (hres : calculate provider request sources = .ok result)
    (others : List (ResolvedSourceEvidence F)) :
    result.sources = sources ∧
      calculate provider request others = .ok { result with sources := others } := by
  have hechoes : ∀ reason,
      unavailableResult request sources reason false none none none = .ok result →
      result.sources = sources ∧ unavailableResult request others reason false none none none =
          .ok { result with sources := others } := by
    intro reason hunav
    unfold unavailableResult effectiveInstant at hunav ⊢
    simp only [Bool.false_eq_true, false_and, and_false, if_false, ok_bind] at hunav ⊢
    cases hunav
    exact ⟨rfl, rfl⟩
  unfold calculate at hres ⊢
  cases htime : validateEvaluationTime request.observationAt request.computedAt with
  | some reason =>
    rw [htime] at hres
    exact hechoes reason hres
  | none =>
    rw [htime] at hres
    dsimp only at hres ⊢
    rw [bind_eq_ok] at hres
    obtain ⟨refused, hcontext, hres⟩ := hres
    rw [hcontext, ok_bind]
    cases refused with
    | some reason => exact hechoes reason hres
    | none =>
      rcases hrefused with hrefused | hrefused
      · exact absurd htime hrefused
      · exact absurd hcontext hrefused

/-- The kernel raises nothing; its result has a value exactly when it is
available, does not depend on the order of the sources nor on sources of roles
the formula does not need, except that the answer to a refused request echoes
the sources as given, and stays available under a more permissive policy. -/
theorem calculate_lawful (provider : RefrigerantPropertyProvider F)
    (request : CalculationRequest) (sources : List (ResolvedSourceEvidence F)) :
    ∃ result, calculate provider request sources = .ok result ∧
      (result.value.isSome = true ↔ result.availability = .available) ∧
      (∀ extra shuffled, shuffled.Perm (sources ++ extra) →
        (∀ source ∈ extra, ¬ FormulaNeeds request.metric sources source.role) →
        (¬ RequestRefused request → calculate provider request shuffled = .ok result) ∧
        (RequestRefused request → result.sources = sources ∧
          calculate provider request shuffled =
            .ok { result with sources := shuffled })) ∧
      ∀ wider, request.policy.Within wider →
        result.availability = .available →
        calculate provider (request.under wider) sources =
          .ok { result with policy := wider } := by
  obtain ⟨result, hres⟩ := calculate_completes provider request sources
  refine ⟨result, hres, calculate_marked hres, ?_, ?_⟩
  · intro extra shuffled hperm hextra
    constructor
    · intro hacc
      rw [calculate_of_accepted hacc] at hres ⊢
      rw [← hres]
      exact calculateFrom_congr fun role hneeded =>
        selectOne_needed hperm hextra hneeded
    · exact fun hrefused => calculate_of_refused hrefused hres shuffled
  · exact fun wider hwithin havail =>
      calculate_mono hwithin hres havail

end

def superheatContext : CalculationContext :=
  { circuitId := "circuit-1"
    lifecycleRecordId := "life-1"
    lifecycleRevision := 1
    lifecycleState := "active"
    lifecycleValidFrom := .aware 0 0
    lifecycleValidTo := none
    configurationRecordId := "config-1"
    configurationRevision := 1
    configurationValidFrom := .aware 0 0
    configurationValidTo := none
    refrigerantCode := "R290"
    calculationPolicyVersion := "policy/v1"
    propertyProviderProfile := "static/1" }

def superheatPolicy : CalculationPolicy where
  version := "policy/v1"
  maximumAge := 30000000
  maximumFutureClockSkew := 1000000
  maximumCrossInputSkew := 5000000
  acceptedCalibrationStates := {"valid"}
  requireCalibrationAtObservation := true
  calibrationRequiredRoles := {"suction_pressure"}
  version_filled := by decide +kernel
  maximumAge_nonneg := by decide
  maximumFutureClockSkew_nonneg := by decide
  maximumCrossInputSkew_nonneg := by decide
  accepted_nonempty := by decide
  accepted_acceptable := by decide
  required_known := by decide

def patientPolicy : CalculationPolicy :=
  { superheatPolicy with
    maximumAge := 60000000
    maximumFutureClockSkew := 2000000
    maximumAge_nonneg := by decide
    maximumFutureClockSkew_nonneg := by decide }

def superheatRequest : CalculationRequest :=
  { metric := .superheat
    context := superheatContext
    policy := superheatPolicy
    observationAt := .aware 100000000 0
    computedAt := .aware 101000000 0 }

def acceptedEvidence : AcceptanceEvidence :=
  { recordId := "acceptance-1"
    revision := 1
    schemaVersion := acceptanceSchemaVersion
    acceptedForCalculation := true
    validFrom := .aware 0 0
    validTo := none }

def validCalibration : CalibrationEvidence :=
  { recordId := "calibration-1"
    revision := 1
    schemaVersion := calibrationSchemaVersion
    state := "valid"
    validFrom := .aware 0 0
    validTo := none }

def resolvedSource (role unit : String) (reference : Option String) (value : ℤ) :
    ResolvedSourceEvidence FloatValue :=
  { role := role
    signalId := "signal-1"
    bindingId := "binding-1"
    bindingRevision := 1
    bindingValidFrom := .aware 0 0
    bindingValidTo := none
    eventId := "event-1"
    capturedAt := .aware 99000000 0
    value := some (.int value)
    unit
    quality := "valid"
    instrumentId := "instrument-1"
    instrumentVersion := 1
    pressureReference := reference
    acquisitionProfileId := some "profile-1"
    acquisitionProfileVersion := some "1"
    instrumentAcceptanceAtSample := some acceptedEvidence
    instrumentAcceptanceAtObservation := some acceptedEvidence
    acquisitionAcceptanceAtSample := some acceptedEvidence
    acquisitionAcceptanceAtObservation := some acceptedEvidence
    calibrationAtSample := some validCalibration
    calibrationAtObservation := some validCalibration }

def suctionPressure : ResolvedSourceEvidence FloatValue :=
  resolvedSource "suction_pressure" "bar" (some "gauge") 4

def suctionLine : ResolvedSourceEvidence FloatValue :=
  resolvedSource "suction_line_temperature" "degC" none 12

def atmosphere : ResolvedSourceEvidence FloatValue :=
  resolvedSource "atmospheric_pressure" "kPa" (some "absolute") 101

def liquidLine : ResolvedSourceEvidence FloatValue :=
  resolvedSource "liquid_line_temperature" "degC" none 30

def staticProvider : RefrigerantPropertyProvider FloatValue :=
  { providerProfile := "static/1"
    saturationTemperature := fun refrigerantCode pressure phase => .ok
      { refrigerantCode := refrigerantCode
        absolutePressurePa := pressure
        phase
        temperatureK := .finite (27815 / 100)
        providerId := "static"
        providerVersion := "1"
        providerRevision := "r1"
        providerProfile := "static/1" } }

def valueOf (computed : Except PythonException (DerivedResult FloatValue)) :
    Option FloatValue :=
  match computed with
  | .ok result => result.value
  | .error _ => none

theorem superheatPolicy_within : superheatPolicy.Within patientPolicy where
  version := rfl
  age := by decide
  futureSkew := by decide
  crossSkew := by decide
  states := fun _ hstate => hstate
  observation := fun hrequired => hrequired
  roles := fun _ hrole => hrole

example : valueOf (calculate staticProvider superheatRequest
    [suctionPressure, suctionLine, atmosphere]) = some (.finite 7) := by
  decide +kernel

theorem superheatRequest_accepted : ¬ RequestRefused superheatRequest := by
  unfold RequestRefused
  push Not
  constructor
  · decide
  · decide +kernel

theorem calculate_lawful_superheat :
    calculate staticProvider superheatRequest
        [liquidLine, atmosphere, suctionLine, suctionPressure] =
      calculate staticProvider superheatRequest
        [suctionPressure, suctionLine, atmosphere] ∧
      valueOf (calculate staticProvider (superheatRequest.under patientPolicy)
        [suctionPressure, suctionLine, atmosphere]) = some (.finite 7) := by
  obtain ⟨result, hres, hmarked, hsources, hpolicy⟩ :=
    calculate_lawful staticProvider superheatRequest
      [suctionPressure, suctionLine, atmosphere]
  have hvalue : result.value = some (.finite 7) := by
    have hcomputed : valueOf (calculate staticProvider superheatRequest
        [suctionPressure, suctionLine, atmosphere]) = some (.finite 7) := by
      decide +kernel
    rw [hres] at hcomputed
    exact hcomputed
  have havail : result.availability = .available :=
    hmarked.mp (by rw [hvalue]; rfl)
  have hperm : [liquidLine, atmosphere, suctionLine, suctionPressure].Perm
      ([suctionPressure, suctionLine, atmosphere] ++ [liquidLine]) := by
    decide +kernel
  have hextra : ∀ source ∈ [liquidLine], ¬ FormulaNeeds .superheat
      [suctionPressure, suctionLine, atmosphere] source.role := by
    intro source hsrc
    rw [List.mem_singleton] at hsrc
    subst hsrc
    unfold FormulaNeeds
    decide +kernel
  constructor
  · rw [hres]
    exact (hsources _ _ hperm hextra).1 superheatRequest_accepted
  · rw [hpolicy patientPolicy superheatPolicy_within havail]
    exact hvalue

def retiredRequest : CalculationRequest :=
  { superheatRequest with
    context := { superheatContext with lifecycleState := "retired" } }

def echoedRoles (computed : Except PythonException (DerivedResult FloatValue)) :
    List String :=
  match computed with
  | .ok result => result.sources.map ResolvedSourceEvidence.role
  | .error _ => []

/-- The answer to a refused request depends on the order of the sources. -/
theorem refusedRequest_echoes_order :
    ¬ ∀ (provider : RefrigerantPropertyProvider FloatValue)
      (request : CalculationRequest)
      (sources shuffled : List (ResolvedSourceEvidence FloatValue)),
      shuffled.Perm sources →
      calculate provider request shuffled =
        calculate provider request sources := by
  intro hindependent
  have hsame := hindependent staticProvider retiredRequest
    [suctionPressure, suctionLine] [suctionLine, suctionPressure]
    (List.Perm.swap _ _ _)
  have hroles : echoedRoles (calculate staticProvider retiredRequest
      [suctionLine, suctionPressure]) ≠
      echoedRoles (calculate staticProvider retiredRequest
        [suctionPressure, suctionLine]) := by
    decide +kernel
  exact hroles (congrArg echoedRoles hsame)

end Nexolab
