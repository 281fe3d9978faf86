import Nexolab.AlertProcessor
import Nexolab.SplitLists

/-!
# The resource keys of the alerts

The evaluation states and the open alerts of a rule are told apart by the
resource key, which joins the six components of a resource with bars.  The
components may contain bars themselves, so a key is read back only up to the
places where its components end.
-/

namespace Nexolab

structure ResourceIdentity where
  organizationId : CodePoints
  sessionId : Option String
  (nodeId equipmentId channelId metric : String)

/-- The session of the context is a test session, whose identifier is a UUID. -/
def PersistedTelemetryContext.OfSession (context : PersistedTelemetryContext) :
    Prop :=
  ∀ id ∈ context.sessionId, ∃ uuid : UuidText, uuid.text = id

section Keys

variable {F : Type}

def resourceIdentity (event : TelemetryEvent F)
    (context : PersistedTelemetryContext) : ResourceIdentity where
  organizationId := context.organizationId
  sessionId := context.sessionId
  nodeId := event.nodeId.text
  equipmentId := event.equipmentId.text
  channelId := event.channelId.text
  metric := event.metric.text

def resourceComponents (event : TelemetryEvent F)
    (context : PersistedTelemetryContext) : List CodePoints :=
  [context.organizationId, codePoints (sessionText context),
    codePoints event.nodeId.text, codePoints event.equipmentId.text,
    codePoints event.channelId.text, codePoints event.metric.text]

def bar : ℕ := 124

def resourcePieces (event : TelemetryEvent F)
    (context : PersistedTelemetryContext) : List CodePoints :=
  (resourceComponents event context).flatMap (List.splitOn bar)

def componentBars (event : TelemetryEvent F) (context : PersistedTelemetryContext) : List ℕ :=
  (resourceComponents event context).map (List.count bar)

variable {first second : TelemetryEvent F}
  {firstContext secondContext : PersistedTelemetryContext}

theorem sessionText_uuid {context : PersistedTelemetryContext} {uuid : UuidText}
    (hsess : context.sessionId = some uuid.text) :
    sessionText context = uuid.text := by
  unfold sessionText
  rw [hsess]
  split
  next hnone => cases hnone
  next hempty =>
    have hlen := uuid.length_eq
    rw [Option.some.inj hempty] at hlen
    cases hlen
  next hsome => exact (Option.some.inj hsome).symm

theorem sessionText_injective (hfirst : firstContext.OfSession) (hsecond : secondContext.OfSession)
    (hsame : sessionText firstContext = sessionText secondContext) :
    firstContext.sessionId = secondContext.sessionId := by
  have hplaceholder : ∀ uuid : UuidText, uuid.text ≠ "-" := by
    intro uuid hdash
    have hlen := uuid.length_eq
    rw [hdash] at hlen
    cases hlen
  have hmissing : ∀ context : PersistedTelemetryContext, context.sessionId = none →
      sessionText context = "-" := by
    intro context hnone
    unfold sessionText
    rw [hnone]
  cases hfirstSession : firstContext.sessionId with
  | none =>
    cases hsecondSession : secondContext.sessionId with
    | none => rfl
    | some id =>
      obtain ⟨uuid, rfl⟩ := hsecond id hsecondSession
      rw [hmissing _ hfirstSession, sessionText_uuid hsecondSession] at hsame
      exact absurd hsame.symm (hplaceholder uuid)
  | some id =>
    obtain ⟨uuid, rfl⟩ := hfirst id hfirstSession
    rw [sessionText_uuid hfirstSession] at hsame
    cases hsecondSession : secondContext.sessionId with
    | none =>
      rw [hmissing _ hsecondSession] at hsame
      exact absurd hsame (hplaceholder uuid)
    | some otherId =>
      obtain ⟨other, rfl⟩ := hsecond otherId hsecondSession
      rw [sessionText_uuid hsecondSession] at hsame
      rw [hsame]

theorem resourceKey_joined (event : TelemetryEvent F) (context : PersistedTelemetryContext) :
    resourceKey event context = [bar].intercalate (resourceComponents event context) := rfl

theorem resourceKey_eq_iff : resourceKey first firstContext = resourceKey second secondContext ↔
      resourcePieces first firstContext = resourcePieces second secondContext := by
  have hpieces : ∀ (event : TelemetryEvent F) (context : PersistedTelemetryContext),
      (resourceKey event context).splitOn bar = resourcePieces event context := by
    intro event context
    have hne : resourceComponents event context ≠ [] := List.cons_ne_nil _ _
    rw [resourceKey_joined, splitOn_joined bar hne]
    rfl
  constructor
  · intro hsame
    rw [← hpieces, hsame, hpieces]
  · intro hsame
    rw [← hpieces, ← hpieces] at hsame
    exact splitOn_injective bar hsame

theorem resourceComponents_eq_iff (hfirst : firstContext.OfSession)
    (hsecond : secondContext.OfSession) :
    resourceComponents first firstContext = resourceComponents second secondContext ↔
      resourceIdentity first firstContext = resourceIdentity second secondContext := by
  unfold resourceComponents resourceIdentity
  simp only [List.cons.injEq, and_true, ResourceIdentity.mk.injEq, codePoints_injective.eq_iff]
  constructor
  · rintro ⟨horg, hsess, hrest⟩
    exact ⟨horg, sessionText_injective hfirst hsecond hsess, hrest⟩
  · rintro ⟨horg, hsess, hrest⟩
    refine ⟨horg, ?_, hrest⟩
    unfold sessionText
    rw [hsess]

/-- Two resources have different keys if and only if they have different pieces,
or equally many bars in corresponding components. -/
theorem resourceKey_separates (hfirst : firstContext.OfSession)
    (hsecond : secondContext.OfSession) :
    (resourceIdentity first firstContext ≠ resourceIdentity second secondContext →
        resourceKey first firstContext ≠ resourceKey second secondContext) ↔
      (resourcePieces first firstContext = resourcePieces second secondContext →
        componentBars first firstContext = componentBars second secondContext) := by
  constructor
  · intro hseparates hpieces
    by_contra hbars
    apply hseparates _ (resourceKey_eq_iff.mpr hpieces)
    intro hidentity
    apply hbars
    unfold componentBars
    rw [(resourceComponents_eq_iff hfirst hsecond).mpr hidentity]
  · intro hcondition hdifferent hsame
    have hpieces := resourceKey_eq_iff.mp hsame
    have hcomponents : resourceComponents first firstContext =
        resourceComponents second secondContext :=
      eq_of_pieces_of_counts hpieces (hcondition hpieces)
    exact hdifferent ((resourceComponents_eq_iff hfirst hsecond).mp hcomponents)

end Keys

/-! ## Resources which share a key -/

def outsideSession : PersistedTelemetryContext where
  organizationId := codePoints "org-1"
  sessionId := none
  stageId := none
  bindingId := none
  configSnapshotId := none

theorem outsideSession_ofSession : outsideSession.OfSession :=
  fun _ hid => by cases hid

def readingOf (nodeId equipmentId : BoundedText 128) : TelemetryEvent FloatValue :=
  { exampleReading firstEventId 0 (.finite 4) epoch_within with
    nodeId
    equipmentId }

def labNode : BoundedText 128 := ⟨"lab", by decide, by decide⟩

def barredNode : BoundedText 128 := ⟨"lab|north", by decide, by decide⟩

def barredEquipment : BoundedText 128 := ⟨"north|freezer", by decide, by decide⟩

def freezer : BoundedText 128 := ⟨"freezer", by decide, by decide⟩

theorem resourceKey_separates_freezer :
    (resourceIdentity (readingOf labNode freezer) outsideSession ≠
          resourceIdentity (readingOf barredNode freezer) outsideSession →
        resourceKey (readingOf labNode freezer) outsideSession ≠
          resourceKey (readingOf barredNode freezer) outsideSession) ↔
      (resourcePieces (readingOf labNode freezer) outsideSession =
          resourcePieces (readingOf barredNode freezer) outsideSession →
        componentBars (readingOf labNode freezer) outsideSession =
          componentBars (readingOf barredNode freezer) outsideSession) :=
  resourceKey_separates outsideSession_ofSession outsideSession_ofSession

/-- Equipment `freezer` of node `lab|north` and equipment `north|freezer` of node
`lab` have one key. -/
theorem resourceKey_collides :
    resourceIdentity (readingOf barredNode freezer) outsideSession ≠
        resourceIdentity (readingOf labNode barredEquipment) outsideSession ∧
      resourceKey (readingOf barredNode freezer) outsideSession =
        resourceKey (readingOf labNode barredEquipment) outsideSession := by
  constructor
  · intro hsame
    have hnode := congrArg ResourceIdentity.nodeId hsame
    exact absurd hnode (by decide)
  · rfl

end Nexolab
