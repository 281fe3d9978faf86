import Nexolab.PlaneInvariant

/-!
# Runs of the update plane

The invariants hold in every run in which the service looks before it queues, records
are written before the worker is done with them, and the worker which has deployed a
release lives until it has removed its request.
-/

namespace Nexolab

theorem VersionDisk.nextRun_eq_some {disk : VersionDisk} {run : ManagerRun}
    (hrun : disk.nextRun = some run) :
    ∃ request ∈ disk.requests, ∃ current, disk.current = some current ∧
      request.operation.sourceBundleId = current.bundleId ∧
        run = ⟨request.name, request.operation, current, false, .starting⟩ := by
  simp only [nextRun, Option.bind_eq_bind, Option.bind_eq_some_iff, Option.guard_eq_some',
    Option.pure_def, Option.some.injEq] at hrun
  obtain ⟨request, hhead, _, _, current, hcur, _, ⟨_, hsrc⟩, rfl⟩ := hrun
  have hmem := List.mem_of_mem_head? hhead
  rw [List.mem_insertionSort] at hmem
  exact ⟨request, hmem, current, hcur, hsrc, rfl⟩

namespace VersionPlane

variable {settings : PlaneSettings} {plane next : VersionPlane}

def keepsQueue (settings : PlaneSettings) (plane : VersionPlane) : PlaneAction → Bool
  | .advanceQueue _ _ =>
    match plane.queueHolder with
    | some (.reading payload (some current)) =>
      plane.disk.activeOperation || !settings.admits current payload ||
        (plane.disk.requests = [] && plane.disk.deploys current.bundleId)
    | some (.recording _ request) =>
      plane.disk.operations.all fun record =>
        record.1 ≠ request.name || record.2.isActive
    | _ => true
  | .advanceWorker answers =>
    plane.run.all fun run => run.phase ≠ .closing || (answers run.phase).succeeds ||
      plane.disk.deploys run.operation.sourceBundleId
  | .killWorker =>
    plane.run.all fun run => plane.disk.deploys run.operation.sourceBundleId
  | _ => true

namespace QueueInvariant

theorem of_same (hinv : plane.QueueInvariant) (hdisk : next.disk = plane.disk)
    (hrun : next.run = plane.run)
    (hqueue : ∀ phase, next.queueHolder = some phase →
      plane.queueHolder = some phase ∨ phase.Fits plane.disk) : next.QueueInvariant := by
  obtain ⟨hone, hqueued, hact, hsrc, hruns, hholder⟩ := hinv
  refine ⟨?_, ?_, ?_, ?_, ?_, ?_⟩ <;> rw [hdisk]
  · exact hone
  · exact hqueued
  · exact hact
  · rw [hrun]
    exact hsrc
  · rw [hrun]
    exact hruns
  · exact fun phase hphase => (hqueue phase hphase).elim (hholder phase) id

theorem of_queue (hinv : plane.QueueInvariant) {holder : Option QueuePhase}
    {plan : Option PlanePhase} {requests : List CodePoints} {check : Option CheckStatus}
    (hholder : ∀ phase, holder = some phase → phase.Fits plane.disk) :
    QueueInvariant ⟨plane.disk, plane.run, requests, check, holder, plan⟩ :=
  hinv.of_same rfl rfl fun phase hphase => Or.inr (hholder phase hphase)

theorem idle (hinv : plane.QueueInvariant) (hempty : plane.disk.requests = []) :
    plane.run = none := by
  cases hrun : plane.run with
  | none => rfl
  | some run =>
    obtain ⟨request, hreq, _⟩ := (hinv.run run hrun).request
    rw [hempty] at hreq
    cases hreq

theorem anyActive_eq_false (hinv : plane.QueueInvariant)
    (hempty : plane.disk.requests = []) {record : CodePoints × OperationStatus}
    (hrec : record ∈ plane.disk.operations) : record.2.isActive = false := by
  cases hact : record.2.isActive with
  | false => rfl
  | true =>
    obtain ⟨request, hreq, _⟩ := hinv.active record hrec hact
    rw [hempty] at hreq
    cases hreq

variable {request : RequestFile} {run : ManagerRun}

theorem writeRequest (hinv : plane.QueueInvariant) {scheduled : Bool}
    (hholder : plane.queueHolder = some (.writing scheduled request)) :
    QueueInvariant { plane with
      disk := plane.disk.writeRequest request
      queueHolder := some (.recording scheduled request) } := by
  obtain ⟨hempty, hname, hqueued, hsrc⟩ := hinv.queue _ hholder
  have hidle := hinv.idle hempty
  have hreqs : (plane.disk.writeRequest request).requests = [request] := by
    simp [VersionDisk.writeRequest, hempty]
  constructor
  case one =>
    dsimp only
    rw [hreqs]
    simp
  case queued =>
    dsimp only
    rw [hreqs]
    intro found hfound
    rw [List.mem_singleton.mp hfound]
    exact ⟨hname, hqueued⟩
  case active =>
    intro record hrec hact
    have hinact := hinv.anyActive_eq_false hempty hrec
    rw [hinact] at hact
    cases hact
  case source =>
    dsimp only
    rw [hreqs]
    intro _ found hfound
    rw [List.mem_singleton.mp hfound]
    exact hsrc
  case run =>
    intro run hrun
    cases hidle.symm.trans hrun
  case queue =>
    intro phase hphase
    cases hphase
    exact Or.inl ⟨request, List.mem_cons_self, rfl⟩

theorem writeRecord (hinv : plane.QueueInvariant) {scheduled : Bool}
    (hholder : plane.queueHolder = some (.recording scheduled request))
    (hkept : ∀ record ∈ plane.disk.operations, record.1 = request.name →
      record.2.isActive = true) {plan : Option PlanePhase} :
    QueueInvariant ⟨plane.disk.writeOperation request.name .queued, plane.run,
      plane.checkRequests, plane.updateCheck, none, plan⟩ := by
  have hreq : ∃ other ∈ plane.disk.requests, other.name = request.name := by
    rcases hinv.queue _ hholder with hfound | ⟨⟨record, hrec, hname⟩, hfinal⟩
    · exact hfound
    · have hact := hkept record hrec hname
      rw [hfinal record hrec hname] at hact
      cases hact
  refine { hinv with active := ?active, run := ?run, queue := ?queue }
  case active =>
    intro record hrec hact
    rcases VersionDisk.mem_writeOperation hrec with rfl | ⟨hbefore, _⟩
    · exact hreq
    · exact hinv.active record hbefore hact
  case run =>
    intro run hrun
    refine (hinv.run run hrun).of_others rfl rfl fun hfinished => ?_
    have hother : run.file ≠ request.name := by
      intro hsame
      obtain ⟨⟨record, hrec, hname⟩, hfinal⟩ := hfinished
      have hact := hkept record hrec (hname.trans hsame)
      rw [hfinal record hrec hname] at hact
      cases hact
    exact hfinished.writeOperation hother
  case queue =>
    intro phase hphase
    cases hphase

theorem of_nextRun (hinv : plane.QueueInvariant) (hidle : plane.run = none) :
    QueueInvariant { plane with run := plane.disk.nextRun } := by
  refine ⟨hinv.one, hinv.queued, hinv.active,
    fun _ => hinv.source hidle, fun run hrun => ?_, hinv.queue⟩
  obtain ⟨request, hreq, current, hcur, hsrc, rfl⟩ :=
    VersionDisk.nextRun_eq_some hrun
  refine ⟨⟨request, hreq, rfl, rfl⟩, hsrc.symm, ?_⟩
  exact hinv.source hidle request hreq

theorem unlinked_empty (hinv : plane.QueueInvariant)
    (hrun : plane.run = some run) : (plane.disk.unlinkRequest run.file).requests = [] := by
  obtain ⟨own, hown, hname, _⟩ := (hinv.run run hrun).request
  unfold VersionDisk.unlinkRequest
  rw [List.filter_eq_nil_iff]
  intro request hreq
  rw [hinv.one request hreq own hown, hname]
  simp

theorem unlinkRequest (hinv : plane.QueueInvariant)
    (hrun : plane.run = some run) (hphase : run.phase = .unlinking) :
    QueueInvariant { plane with
      disk := plane.disk.unlinkRequest run.file
      run := none } := by
  have hfits := hinv.run run hrun
  obtain ⟨own, hown, hname, _⟩ := hfits.request
  have hbusy : plane.disk.requests ≠ [] := List.ne_nil_of_mem hown
  have hfinished : plane.disk.Finished run.file := by
    have hends := hfits.phase
    rw [hphase] at hends
    exact hends
  have hempty := hinv.unlinked_empty hrun
  constructor
  case one =>
    dsimp only
    rw [hempty]
    simp
  case queued =>
    dsimp only
    rw [hempty]
    simp
  case active =>
    intro record hrec hact
    obtain ⟨request, hreq, hsame⟩ := hinv.active record hrec hact
    rw [hinv.one request hreq own hown, hname] at hsame
    rw [hfinished.2 record hrec hsame.symm] at hact
    cases hact
  case source =>
    dsimp only
    rw [hempty]
    simp
  case run => exact fun _ hnone => by cases hnone
  case queue =>
    intro phase hholder
    have hbefore := hinv.queue phase hholder
    cases phase with
    | reading => trivial
    | revalidating => exact absurd hbefore hbusy
    | writing => exact absurd hbefore.1 hbusy
    | recording scheduled request =>
      rcases hbefore with ⟨other, hother, hsame⟩ | hdone
      · rw [hinv.one other hother own hown, hname] at hsame
        exact Or.inr (hsame ▸ hfinished)
      · exact Or.inr hdone

theorem takes_request (hinv : plane.QueueInvariant) (hidle : plane.run = none)
    (hreq : request ∈ plane.disk.requests) :
    ∃ run, plane.disk.nextRun = some run ∧ run.phase = .starting := by
  obtain ⟨hname, hqueued⟩ := hinv.queued request hreq
  have hdeploys := hinv.source hidle request hreq
  unfold VersionDisk.deploys at hdeploys
  obtain ⟨current, hcur, hbundle⟩ := Option.map_eq_some_iff.mp (of_decide_eq_true hdeploys)
  have hhead : (plane.disk.requests.insertionSort fun first second =>
      first.name ≤ second.name).head? = some request := by
    cases hsorted : plane.disk.requests.insertionSort fun first second =>
        first.name ≤ second.name with
    | nil =>
      have hmem := (List.mem_insertionSort fun (first second : RequestFile) =>
        first.name ≤ second.name).mpr hreq
      rw [hsorted] at hmem
      cases hmem
    | cons first rest =>
      have hfirst : first ∈ plane.disk.requests := by
        rw [← List.mem_insertionSort fun (first second : RequestFile) =>
          first.name ≤ second.name, hsorted]
        exact List.mem_cons_self
      rw [hinv.one first hfirst request hreq]
      rfl
  unfold VersionDisk.nextRun
  rw [hhead, hcur]
  simp [hname, hqueued, hbundle]

theorem advanceWorker (hinv : plane.QueueInvariant)
    (hrun : plane.run = some run) {answer : StepAnswer}
    (hkept : run.phase = .closing → answer.succeeds = true ∨
      plane.disk.deploys run.operation.sourceBundleId = true) :
    QueueInvariant { plane with
      disk := (run.step settings.toManagerSettings plane.disk answer).1
      run := (run.step settings.toManagerSettings plane.disk answer).2 } := by
  have hfits := hinv.run run hrun
  obtain ⟨own, hown, hname, hsrc⟩ := hfits.request
  have hbusy : plane.disk.requests ≠ [] := List.ne_nil_of_mem hown
  by_cases hphase : run.phase = .unlinking
  · rw [ManagerRun.step_unlinking hphase]
    exact hinv.unlinkRequest hrun hphase
  have hkeeps : ManagerRun.KeepsFiles plane.disk run
      (run.step settings.toManagerSettings plane.disk answer).1 :=
    ManagerRun.step_keepsFiles hphase
  constructor
  case one =>
    dsimp only
    rw [hkeeps.requests]
    exact hinv.one
  case queued =>
    dsimp only
    rw [hkeeps.requests]
    exact hinv.queued
  case active =>
    dsimp only
    rw [hkeeps.requests]
    intro record hrec hact
    rcases hkeeps.records record hrec with hbefore | howner
    · exact hinv.active record hbefore hact
    · exact ⟨own, hown, hname.trans howner.symm⟩
  case source =>
    intro hends
    dsimp only
    rw [hkeeps.requests]
    obtain hlast | ⟨hsame, hdeploys⟩ := ManagerRun.step_ends hfits hkept hends
    · exact absurd hlast hphase
    · rw [hsame]
      intro request hreq
      rw [hinv.one request hreq own hown, hsrc]
      exact hdeploys
  case run => exact fun later hlater => ManagerRun.step_fits hfits hlater
  case queue =>
    intro phase hholder
    have hbefore := hinv.queue phase hholder
    cases phase with
    | reading => trivial
    | revalidating => exact absurd hbefore hbusy
    | writing => exact absurd hbefore.1 hbusy
    | recording scheduled request =>
      by_cases hsame : request.name = run.file
      · refine Or.inl ⟨own, ?_, hname.trans hsame.symm⟩
        dsimp only
        rw [hkeeps.requests]
        exact hown
      · rcases hbefore with ⟨other, hother, hnames⟩ | hdone
        · rw [hinv.one other hother own hown, hname] at hnames
          exact absurd hnames.symm hsame
        · exact Or.inr (hkeeps.finished _ hsame hdone)

end QueueInvariant

theorem stepQueue_invariant {operationId : CodePoints} {candidate : Option CodePoints}
    {phase : QueuePhase} (hinv : plane.QueueInvariant) (hholder : plane.queueHolder = some phase)
    (hkept : plane.keepsQueue settings (.advanceQueue operationId candidate) = true)
    (hstep : plane.stepQueue settings operationId candidate phase = some next) :
    next.QueueInvariant := by
  cases phase with
  | reading payload current =>
    cases current with
    | none =>
      cases hstep
      exact hinv.of_queue nofun
    | some current =>
      dsimp only [stepQueue] at hstep
      split at hstep
      next =>
        cases hstep
        exact hinv.of_queue nofun
      next haccepts =>
        obtain ⟨hinact, hadmits⟩ := not_or.mp haccepts
        split at hstep
        next =>
          cases hstep
          simp only [keepsQueue, hholder, Bool.or_eq_true, Bool.not_eq_true',
            Bool.and_eq_true, decide_eq_true_eq] at hkept
          obtain ⟨hempty, hdeploys⟩ :=
            hkept.resolve_left (not_or.mpr ⟨hinact, by simpa using hadmits⟩)
          apply hinv.of_queue
          intro phase hphase
          cases hphase
          exact ⟨hempty, rfl, rfl, hdeploys⟩
        next => cases hstep
  | revalidating =>
    have hempty : plane.disk.requests = [] := hinv.queue _ hholder
    dsimp only [stepQueue] at hstep
    split at hstep
    next current target hcur =>
      split at hstep
      next =>
        cases hstep
        apply hinv.of_queue
        intro phase hphase
        cases hphase
        refine ⟨hempty, rfl, rfl, ?_⟩
        simp [VersionDisk.deploys, hcur, queuedRequest]
      next => cases hstep
    next =>
      cases hstep
      exact hinv.of_queue nofun
  | writing scheduled request =>
    cases hstep
    exact hinv.writeRequest hholder
  | recording scheduled request =>
    cases hstep
    apply hinv.writeRecord hholder
    intro record hrec hname
    simp only [keepsQueue, hholder, List.all_eq_true] at hkept
    simpa [hname] using hkept record hrec

theorem stepPlane_invariant {eligible : Bool} {phase : PlanePhase} (hinv : plane.QueueInvariant) :
    (plane.stepPlane eligible phase).QueueInvariant := by
  cases phase with
  | activating =>
    dsimp only [stepPlane]
    split
    next => exact hinv
    next =>
      split
      next => exact hinv.of_queue fun _ => hinv.queue _
      next hunfin =>
        apply hinv.of_queue
        intro phase hphase
        cases hphase
        exact not_not.mp (not_or.mp hunfin).2
  | queueing => exact hinv
  | requesting | discovering | removing | reporting =>
    exact hinv.of_queue fun _ => hinv.queue _

theorem step_queueInvariant {action : PlaneAction} (hinv : plane.QueueInvariant)
    (hkept : plane.keepsQueue settings action = true)
    (hstep : step settings plane action = some next) : next.QueueInvariant := by
  cases action with
  | enqueue payload =>
    dsimp only [step] at hstep
    split at hstep
    next => cases hstep; exact hinv
    next =>
      cases hstep
      apply hinv.of_queue
      intro phase hphase
      cases hphase
      trivial
  | advanceQueue operationId candidate =>
    dsimp only [step] at hstep
    split at hstep
    next => cases hstep; exact hinv
    next phase hholder => exact stepQueue_invariant hinv hholder hkept hstep
  | enqueueUpdateCheck requestId =>
    dsimp only [step] at hstep
    split at hstep
    next => cases hstep; exact hinv
    next => cases hstep; exact hinv.of_queue fun _ => hinv.queue _
  | scheduledCheck =>
    dsimp only [step] at hstep
    split at hstep
    next => cases hstep; exact hinv
    next => cases hstep; exact hinv.of_queue fun _ => hinv.queue _
  | processRequestedCheck =>
    dsimp only [step] at hstep
    split at hstep
    next => cases hstep; exact hinv.of_queue fun _ => hinv.queue _
    next => cases hstep; exact hinv
  | advancePlane eligible =>
    dsimp only [step] at hstep
    split at hstep
    next => cases hstep; exact hinv
    next => cases hstep; exact stepPlane_invariant hinv
  | runOnce =>
    dsimp only [step] at hstep
    split at hstep
    next => cases hstep; exact hinv
    next hidle =>
      cases hstep
      exact hinv.of_nextRun (Option.not_isSome_iff_eq_none.mp hidle)
  | advanceWorker answers =>
    dsimp only [step] at hstep
    split at hstep
    next => cases hstep; exact hinv
    next run hrun =>
      cases hstep
      apply hinv.advanceWorker hrun
      intro hclosing
      simpa [keepsQueue, hrun, hclosing] using hkept
  | killQueue =>
    dsimp only [step] at hstep
    split at hstep
    next => cases hstep; exact hinv
    next => cases hstep; exact hinv.of_queue nofun
    next => cases hstep; exact hinv.of_queue nofun
  | killPlane =>
    dsimp only [step] at hstep
    split at hstep
    next => cases hstep; exact hinv.of_queue nofun
    next => cases hstep; exact hinv.of_queue fun _ => hinv.queue _
  | killWorker =>
    cases hstep
    refine ⟨hinv.one, hinv.queued, hinv.active, ?_, fun _ hnone => (by cases hnone), hinv.queue⟩
    intro _ request hreq
    cases hrun : plane.run with
    | none => exact hinv.source hrun request hreq
    | some run =>
      obtain ⟨own, hown, _, hsrc⟩ := (hinv.run run hrun).request
      rw [hinv.one request hreq own hown, hsrc]
      simpa [keepsQueue, hrun] using hkept

/-! ## Update checks -/

namespace CheckInvariant

theorem of_same (hinv : plane.CheckInvariant settings)
    (hreqs : next.checkRequests = plane.checkRequests)
    (hcheck : next.updateCheck = plane.updateCheck)
    (hplane : ∀ phase, next.planeHolder = some phase →
      plane.planeHolder = some phase ∨ phase = .queueing ∨ phase = .reporting) :
    next.CheckInvariant settings := by
  refine ⟨?_, fun requestId hphase => ?_, ?_, fun requestId hphase => ?_⟩
  · rw [hreqs]
    exact hinv.one
  · rw [hreqs]
    obtain hbefore | hother | hother := hplane _ hphase
    · exact hinv.requesting requestId hbefore
    · cases hother
    · cases hother
  · rw [hreqs, hcheck]
    exact hinv.checking
  · rw [hcheck]
    obtain hbefore | hother | hother := hplane _ hphase
    · exact hinv.removing requestId hbefore
    · cases hother
    · cases hother

theorem stepPlane {eligible : Bool} {phase : PlanePhase}
    (hinv : plane.CheckInvariant settings) (hholder : plane.planeHolder = some phase) :
    (plane.stepPlane eligible phase).CheckInvariant settings := by
  cases phase with
  | requesting requestId =>
    have hempty := hinv.requesting requestId hholder
    refine ⟨?_, nofun, fun _ _ => List.cons_ne_nil _ _, nofun⟩
    simp [VersionPlane.stepPlane, hempty]
  | discovering requestId =>
    refine ⟨hinv.one, fun _ hphase => ?_, nofun, fun _ _ => rfl⟩
    dsimp only [VersionPlane.stepPlane] at hphase
    split at hphase
    next => cases hphase
    next => split at hphase <;> cases hphase
  | removing requestId =>
    refine ⟨(List.length_filter_le ..).trans hinv.one, nofun, fun _ hchecking => ?_, nofun⟩
    have hfinal := hinv.removing requestId hholder
    cases hfinal.symm.trans hchecking
  | activating =>
    dsimp only [VersionPlane.stepPlane]
    split
    next => exact hinv
    next =>
      split
      next =>
        refine hinv.of_same (by rfl) (by rfl) fun phase hphase => ?_
        cases hphase
        exact Or.inr (Or.inr rfl)
      next =>
        refine hinv.of_same (by rfl) (by rfl) fun phase hphase => ?_
        cases hphase
        exact Or.inr (Or.inl rfl)
  | queueing => exact hinv
  | reporting => exact ⟨hinv.one, nofun, nofun, nofun⟩

end CheckInvariant

theorem stepQueue_plane {operationId : CodePoints} {candidate : Option CodePoints}
    {phase : QueuePhase}
    (hstep : plane.stepQueue settings operationId candidate phase = some next) :
    next.checkRequests = plane.checkRequests ∧ next.updateCheck = plane.updateCheck ∧
      (next.planeHolder = plane.planeHolder ∨ next.planeHolder = some .reporting) := by
  have hrelease : ∀ (other : VersionPlane) (scheduled : Bool),
      (other.releaseQueue scheduled).planeHolder = other.planeHolder ∨
        (other.releaseQueue scheduled).planeHolder = some .reporting := by
    intro other scheduled
    cases scheduled with
    | false => exact Or.inl rfl
    | true => exact Or.inr rfl
  cases phase with
  | reading payload current =>
    cases current with
    | none =>
      cases hstep
      exact ⟨rfl, rfl, hrelease _ _⟩
    | some current =>
      dsimp only [stepQueue] at hstep
      split at hstep
      next =>
        cases hstep
        exact ⟨rfl, rfl, hrelease _ _⟩
      next =>
        split at hstep
        next => cases hstep; exact ⟨rfl, rfl, Or.inl rfl⟩
        next => cases hstep
  | revalidating =>
    dsimp only [stepQueue] at hstep
    split at hstep
    next =>
      split at hstep
      next => cases hstep; exact ⟨rfl, rfl, Or.inl rfl⟩
      next => cases hstep
    next =>
      cases hstep
      exact ⟨rfl, rfl, hrelease _ _⟩
  | writing scheduled request =>
    cases hstep
    exact ⟨rfl, rfl, Or.inl rfl⟩
  | recording scheduled request =>
    cases hstep
    exact ⟨rfl, rfl, hrelease _ _⟩

theorem step_checkInvariant {action : PlaneAction} (hinv : plane.CheckInvariant settings)
    (hstep : step settings plane action = some next) : next.CheckInvariant settings := by
  cases action with
  | enqueue payload =>
    dsimp only [step] at hstep
    split at hstep
    next => cases hstep; exact hinv
    next => cases hstep; exact hinv.of_same rfl rfl fun _ => Or.inl
  | advanceQueue operationId candidate =>
    dsimp only [step] at hstep
    split at hstep
    next => cases hstep; exact hinv
    next =>
      obtain ⟨hreqs, hcheck, hplane⟩ := stepQueue_plane hstep
      apply hinv.of_same hreqs hcheck
      intro phase hphase
      rcases hplane with hsame | hreporting
      · exact Or.inl (hsame ▸ hphase)
      · rw [hreporting] at hphase
        cases hphase
        exact Or.inr (Or.inr rfl)
  | enqueueUpdateCheck requestId =>
    dsimp only [step] at hstep
    split at hstep
    next => cases hstep; exact hinv
    next hfree =>
      cases hstep
      obtain ⟨_, _, hempty, _⟩ := by simpa only [not_or] using hfree
      exact ⟨hinv.one, fun _ _ => not_not.mp hempty, hinv.checking, nofun⟩
  | scheduledCheck =>
    dsimp only [step] at hstep
    split at hstep
    next => cases hstep; exact hinv
    next hfree =>
      cases hstep
      refine ⟨hinv.one, nofun, fun hmanual _ => ?_, nofun⟩
      exact absurd (Or.inr (by simp [hmanual])) hfree
  | processRequestedCheck =>
    dsimp only [step] at hstep
    split at hstep
    next requestId _ hpend =>
      cases hstep
      refine ⟨hinv.one, nofun, fun _ _ hempty => ?_, nofun⟩
      dsimp only at hempty
      rw [hempty] at hpend
      cases hpend
    next => cases hstep; exact hinv
  | advancePlane eligible =>
    dsimp only [step] at hstep
    split at hstep
    next => cases hstep; exact hinv
    next hholder => cases hstep; exact hinv.stepPlane hholder
  | runOnce =>
    dsimp only [step] at hstep
    split at hstep
    next => cases hstep; exact hinv
    next => cases hstep; exact hinv.of_same rfl rfl fun _ => Or.inl
  | advanceWorker answers =>
    dsimp only [step] at hstep
    split at hstep
    next => cases hstep; exact hinv
    next => cases hstep; exact hinv.of_same rfl rfl fun _ => Or.inl
  | killQueue =>
    dsimp only [step] at hstep
    split at hstep
    next => cases hstep; exact hinv
    next => cases hstep; exact hinv.of_same rfl rfl nofun
    next => cases hstep; exact hinv.of_same rfl rfl fun _ => Or.inl
  | killPlane =>
    dsimp only [step] at hstep
    split at hstep
    next => cases hstep; exact hinv.of_same rfl rfl nofun
    next => cases hstep; exact hinv.of_same rfl rfl nofun
  | killWorker =>
    cases hstep
    exact hinv.of_same rfl rfl fun _ => Or.inl

end VersionPlane

end Nexolab
