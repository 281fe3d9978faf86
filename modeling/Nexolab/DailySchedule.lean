import Nexolab.FallibleList
import Nexolab.TelemetryContract
import Nexolab.ZonedTime

/-!
# The schedule of the daily report

The latest due date and the next scheduled time are found by comparing clock times of
the zone, and the window of a report is converted to UTC.
-/

namespace Nexolab

/-! ## The schedule -/

def weekday (date : ℤ) : ℤ := (date + 3) % 7

def validateWeekdays (values : List ℤ) : Except String (List ℤ) :=
  let normalized := values.dedup.insertionSort (· ≤ ·)
  if normalized = [] then .error "weekdays must contain at least one weekday"
  else if normalized.any fun value => value < 0 || 6 < value then
    .error "weekdays must contain integers from 0 through 6"
  else .ok normalized

/-- The schedule of a profile, which was checked when the profile was stored. -/
structure ReportSchedule where
  zone : TimeZone
  (reportHour reportMinute : ℕ)
  weekdays : List ℤ
  hour_le : reportHour ≤ 23
  minute_le : reportMinute ≤ 59
  weekdays_valid : ∃ allowed, validateWeekdays weekdays = .ok allowed

namespace ReportSchedule

variable (schedule : ReportSchedule)

def scheduledLocal (date : ℤ) : ℤ :=
  date * dayLength + (schedule.reportHour * 60 + schedule.reportMinute) * 60000000

def scheduledFor (date : ℤ) : Instant := schedule.zone.ofWall (schedule.scheduledLocal date)

def latestDueReportDate (now : Instant) : Except String (Option ℤ) := do
  let allowed ← validateWeekdays schedule.weekdays
  let localNow := schedule.zone.toWall now
  let candidate := fun daysBack : ℕ => localNow / dayLength - daysBack
  return ((List.range 8).find? fun daysBack =>
    decide (weekday (candidate daysBack) ∈ allowed) &&
      decide (schedule.scheduledLocal (candidate daysBack) ≤ localNow)).map candidate

def nextScheduledAt (now : Instant) : Except String Instant := do
  let allowed ← validateWeekdays schedule.weekdays
  let localNow := schedule.zone.toWall now
  let candidate := fun daysAhead : ℕ => localNow / dayLength + daysAhead
  match (List.range 8).find? fun daysAhead =>
      decide (weekday (candidate daysAhead) ∈ allowed) &&
        decide (localNow < schedule.scheduledLocal (candidate daysAhead)) with
  | some daysAhead => return schedule.scheduledFor (candidate daysAhead)
  | none => throw "unable to resolve the next scheduled report"

def checkGenerate (generatedAt : Instant) (date : ℤ) : Except String Unit := do
  let allowed ← validateWeekdays schedule.weekdays
  if weekday date ∉ allowed then
    throw "requested report date is not enabled by the profile weekday schedule"
  if generatedAt < schedule.scheduledFor date then
    throw "daily report snapshot cannot be generated before its scheduled time"

def dueOnce (createdAt now : Instant) : Except String (Option ℤ) := do
  match ← schedule.latestDueReportDate now with
  | none => return none
  | some dueDate =>
    if schedule.scheduledFor dueDate < createdAt then return none
    else return some dueDate

def Allowed (date : ℤ) : Prop :=
  ∃ allowed, validateWeekdays schedule.weekdays = .ok allowed ∧ weekday date ∈ allowed

def Reached (now : Instant) (date : ℤ) : Prop :=
  schedule.scheduledLocal date ≤ schedule.zone.toWall now

variable {schedule}

theorem scheduledLocal_succ (date : ℤ) :
    schedule.scheduledLocal (date + 1) = schedule.scheduledLocal date + dayLength := by
  unfold scheduledLocal
  ring

theorem scheduledFor_mono : Monotone schedule.scheduledFor := by
  refine monotone_int_of_le_succ fun date => ?_
  unfold scheduledFor
  rw [scheduledLocal_succ]
  exact schedule.zone.ofWall_day_le _

theorem scheduledLocal_mono : Monotone schedule.scheduledLocal := by
  refine monotone_int_of_le_succ fun date => ?_
  rw [scheduledLocal_succ]
  exact le_add_of_nonneg_right (by decide)

variable {now : Instant} {date : ℤ}

theorem Reached.earlier {date later : ℤ}
    (hreached : schedule.Reached now later) (hle : date ≤ later) :
    schedule.Reached now date :=
  (scheduledLocal_mono hle).trans hreached

theorem scheduledLocal_bounds (date : ℤ) :
    date * dayLength ≤ schedule.scheduledLocal date ∧
      schedule.scheduledLocal date < (date + 1) * dayLength := by
  have hhour := schedule.hour_le
  have hminute := schedule.minute_le
  unfold scheduledLocal dayLength
  omega

theorem reached_of_lt (hlt : date < schedule.zone.toWall now / dayLength) :
    schedule.Reached now date := by
  have hbounds := schedule.scheduledLocal_bounds date
  unfold Reached
  unfold dayLength at *
  omega

theorem not_reached_of_gt (hlt : schedule.zone.toWall now / dayLength < date) :
    ¬ schedule.Reached now date := by
  have hbounds := schedule.scheduledLocal_bounds date
  unfold Reached
  unfold dayLength at *
  omega

theorem validateWeekdays_eq_ok {values allowed : List ℤ}
    (hvalid : validateWeekdays values = .ok allowed) :
    ∃ value ∈ allowed, 0 ≤ value ∧ value ≤ 6 := by
  unfold validateWeekdays at hvalid
  dsimp only at hvalid
  split_ifs at hvalid with hempty hrange
  cases hvalid
  obtain ⟨value, hvalue⟩ := List.exists_mem_of_ne_nil _ hempty
  refine ⟨value, hvalue, ?_⟩
  have hbounds := fun hout => hrange (List.any_eq_true.mpr ⟨value, hvalue, hout⟩)
  simpa using hbounds

theorem allowed_iff {allowed : List ℤ} (hvalid : validateWeekdays schedule.weekdays = .ok allowed) :
    schedule.Allowed date ↔ weekday date ∈ allowed := by
  constructor
  · rintro ⟨found, hfound, hmem⟩
    rw [hvalid] at hfound
    cases hfound
    exact hmem
  · exact fun hmem => ⟨allowed, hvalid, hmem⟩

theorem latestDueReportDate_eq (now : Instant) :
    ∃ date, schedule.latestDueReportDate now = .ok (some date) ∧
      schedule.Allowed date ∧ schedule.Reached now date ∧
      schedule.zone.toWall now / dayLength - 7 ≤ date ∧
      ∀ later, date < later → schedule.Allowed later → ¬ schedule.Reached now later := by
  obtain ⟨allowed, hvalid⟩ := schedule.weekdays_valid
  obtain ⟨value, hvalue, hlow, hhigh⟩ := validateWeekdays_eq_ok hvalid
  have htest : ∀ date, (decide (weekday date ∈ allowed) &&
      decide (schedule.scheduledLocal date ≤ schedule.zone.toWall now)) = true ↔
      schedule.Allowed date ∧ schedule.Reached now date := by
    intro date
    rw [Bool.and_eq_true, decide_eq_true_eq, decide_eq_true_eq, allowed_iff hvalid]
    rfl
  unfold latestDueReportDate
  rw [hvalid, ok_bind]
  dsimp only
  generalize htoday : schedule.zone.toWall now / dayLength = today
  cases hfound : (List.range 8).find? fun daysBack : ℕ =>
      decide (weekday (today - daysBack) ∈ allowed) &&
        decide (schedule.scheduledLocal (today - daysBack) ≤ schedule.zone.toWall now) with
  | none =>
    rw [List.find?_eq_none] at hfound
    obtain ⟨daysBack, hdays, hback⟩ : ∃ daysBack : ℕ, (1 ≤ daysBack ∧ daysBack ≤ 7) ∧
        weekday (today - daysBack) = value := by
      refine ⟨((today + 2 - value) % 7 + 1).toNat, ?_, ?_⟩
      · omega
      · unfold weekday
        omega
    refine absurd ((htest _).mpr ⟨(allowed_iff hvalid).mpr (hback ▸ hvalue),
      reached_of_lt ?_⟩) (hfound daysBack (List.mem_range.mpr (by omega)))
    omega
  | some daysBack =>
    rw [List.find?_range_eq_some] at hfound
    obtain ⟨hgood, hrange, hbefore⟩ := hfound
    obtain ⟨hallowed, hreached⟩ := (htest _).mp hgood
    rw [List.mem_range] at hrange
    refine ⟨today - daysBack, rfl, hallowed, hreached, by omega, ?_⟩
    intro later hlater hlaterAllowed hlaterReached
    have hle : later ≤ today := by
      by_contra hgt
      exact not_reached_of_gt (by omega) hlaterReached
    have hearlier := hbefore (today - later).toNat (by omega)
    rw [show today - ((today - later).toNat : ℤ) = later by omega,
      (htest later).mpr ⟨hlaterAllowed, hlaterReached⟩] at hearlier
    cases hearlier

theorem nextScheduledAt_eq (now : Instant) :
    ∃ date, schedule.nextScheduledAt now = .ok (schedule.scheduledFor date) ∧
      schedule.Allowed date ∧ ¬ schedule.Reached now date ∧
      ∀ earlier, earlier < date → schedule.Allowed earlier → schedule.Reached now earlier := by
  obtain ⟨allowed, hvalid⟩ := schedule.weekdays_valid
  obtain ⟨value, hvalue, hlow, hhigh⟩ := validateWeekdays_eq_ok hvalid
  have htest : ∀ date, (decide (weekday date ∈ allowed) &&
      decide (schedule.zone.toWall now < schedule.scheduledLocal date)) = true ↔
      schedule.Allowed date ∧ ¬ schedule.Reached now date := by
    intro date
    rw [Bool.and_eq_true, decide_eq_true_eq, decide_eq_true_eq, allowed_iff hvalid, ← not_le]
    rfl
  unfold nextScheduledAt
  rw [hvalid, ok_bind]
  dsimp only
  generalize htoday : schedule.zone.toWall now / dayLength = today
  cases hfound : (List.range 8).find? fun daysAhead : ℕ =>
      decide (weekday (today + daysAhead) ∈ allowed) &&
        decide (schedule.zone.toWall now < schedule.scheduledLocal (today + daysAhead)) with
  | none =>
    rw [List.find?_eq_none] at hfound
    obtain ⟨daysAhead, hdays, hahead⟩ : ∃ daysAhead : ℕ,
        (1 ≤ daysAhead ∧ daysAhead ≤ 7) ∧ weekday (today + daysAhead) = value := by
      refine ⟨((value - today - 4) % 7 + 1).toNat, ?_, ?_⟩
      · omega
      · unfold weekday
        omega
    refine absurd ((htest _).mpr ⟨(allowed_iff hvalid).mpr (hahead ▸ hvalue),
      not_reached_of_gt ?_⟩) (hfound daysAhead (List.mem_range.mpr (by omega)))
    omega
  | some daysAhead =>
    rw [List.find?_range_eq_some] at hfound
    obtain ⟨hgood, hrange, hbefore⟩ := hfound
    obtain ⟨hallowed, hreached⟩ := (htest _).mp hgood
    refine ⟨today + daysAhead, rfl, hallowed, hreached, ?_⟩
    intro earlier hearlier hearlierAllowed
    by_contra hlater
    have hle : today ≤ earlier := by
      by_contra hgt
      exact hlater (reached_of_lt (by omega))
    have htried := hbefore (earlier - today).toNat (by omega)
    rw [show today + ((earlier - today).toNat : ℤ) = earlier by omega,
      (htest earlier).mpr ⟨hearlierAllowed, hlater⟩] at htried
    cases htried

variable (schedule)

/-- The latest allowed date of the last week whose report is due. -/
def IsLatestDue (now : Instant) : Option ℤ → Prop
  | some date => schedule.Allowed date ∧ schedule.zone.toWall now / dayLength - 7 ≤ date ∧
      schedule.scheduledFor date ≤ now ∧
      ∀ later, date < later → schedule.Allowed later → now < schedule.scheduledFor later
  | none => ∀ date, schedule.Allowed date →
      schedule.zone.toWall now / dayLength - 7 ≤ date → now < schedule.scheduledFor date

/-- The least scheduled time of an allowed date after an instant. -/
def IsNextScheduled (now next : Instant) : Prop :=
  now < next ∧ (∃ date, schedule.Allowed date ∧ schedule.scheduledFor date = next) ∧
    ∀ date, schedule.Allowed date → now < schedule.scheduledFor date →
      next ≤ schedule.scheduledFor date

structure Right (now : Instant) : Prop where
  latest : ∃ found, schedule.latestDueReportDate now = .ok found ∧ schedule.IsLatestDue now found
  next : ∃ next, schedule.nextScheduledAt now = .ok next ∧ schedule.IsNextScheduled now next
  inTime : ∀ createdAt generatedAt, now ≤ generatedAt →
    ∀ date, schedule.dueOnce createdAt now = .ok (some date) →
      schedule.checkGenerate generatedAt date = .ok ()

def Settled (now : Instant) : Prop :=
  ∀ date, schedule.Allowed date → ¬ schedule.zone.Misjudged now (schedule.scheduledLocal date)

variable {schedule}

theorem Settled.reached_iff (hsettled : schedule.Settled now) (hallowed : schedule.Allowed date) :
    schedule.Reached now date ↔ schedule.scheduledFor date ≤ now :=
  TimeZone.not_misjudged_iff.mp (hsettled date hallowed)

theorem dueOnce_eq_some {createdAt now : Instant}
    (hdue : schedule.dueOnce createdAt now = .ok (some date)) :
    schedule.latestDueReportDate now = .ok (some date) := by
  unfold dueOnce at hdue
  rw [bind_eq_ok] at hdue
  obtain ⟨found, hfound, hdue⟩ := hdue
  cases found with
  | none => cases hdue
  | some due =>
    dsimp only at hdue
    split_ifs at hdue
    · cases hdue
    · cases hdue
      exact hfound

theorem checkGenerate_eq_ok {generatedAt : Instant} (hallowed : schedule.Allowed date)
    (htime : schedule.scheduledFor date ≤ generatedAt) :
    schedule.checkGenerate generatedAt date = .ok () := by
  obtain ⟨allowed, hvalid, hmem⟩ := hallowed
  unfold checkGenerate
  rw [hvalid, ok_bind, if_neg (not_not_intro hmem), if_neg (not_lt.mpr htime)]
  rfl

theorem Settled.right (hsettled : schedule.Settled now) :
    schedule.Right now := by
  obtain ⟨date, hlat, hallowed, hreached, hweek, hlast⟩ :=
    schedule.latestDueReportDate_eq now
  obtain ⟨next, hnext, hnextAllowed, hunreached, hfirst⟩ :=
    schedule.nextScheduledAt_eq now
  have hdue := (hsettled.reached_iff hallowed).mp hreached
  refine ⟨⟨_, hlat, hallowed, hweek, hdue, ?_⟩, ⟨_, hnext, ?_, ⟨next, hnextAllowed,
    rfl⟩, ?_⟩, ?_⟩
  · intro later hlater hlaterAllowed
    by_contra hle
    exact hlast later hlater hlaterAllowed
      ((hsettled.reached_iff hlaterAllowed).mpr (not_lt.mp hle))
  · by_contra hle
    exact hunreached ((hsettled.reached_iff hnextAllowed).mpr (not_lt.mp hle))
  · intro other hother hafter
    refine scheduledFor_mono ?_
    by_contra hlt
    have hearly := hfirst other (not_le.mp hlt) hother
    exact absurd ((hsettled.reached_iff hother).mp hearly) (not_le.mpr hafter)
  · intro createdAt generatedAt hle found hfound
    have hsame := dueOnce_eq_some hfound
    rw [hlat] at hsame
    cases hsame
    exact checkGenerate_eq_ok hallowed (hdue.trans hle)

theorem Right.settled (hright : schedule.Right now) :
    schedule.Settled now := by
  obtain ⟨date, hlat, hallowed, hreached, hweek, hlast⟩ :=
    schedule.latestDueReportDate_eq now
  obtain ⟨found, hfound, hisLatest⟩ := hright.latest
  rw [hlat] at hfound
  cases hfound
  obtain ⟨_, _, hdue, hlater⟩ := hisLatest
  intro other hother
  rw [TimeZone.not_misjudged_iff]
  rcases le_or_gt other date with hle | hgt
  · exact iff_of_true (hreached.earlier hle) ((scheduledFor_mono hle).trans hdue)
  · exact iff_of_false (hlast other hgt hother) (not_le.mpr (hlater other hgt hother))

theorem Settled.mono {now later : Instant} (hle : now ≤ later)
    (hsettled : schedule.Settled now) (hsettledLater : schedule.Settled later) :
    (∃ date dateLater, schedule.latestDueReportDate now = .ok (some date) ∧
      schedule.latestDueReportDate later = .ok (some dateLater) ∧ date ≤ dateLater) ∧
    ∃ next nextLater, schedule.nextScheduledAt now = .ok next ∧
      schedule.nextScheduledAt later = .ok nextLater ∧ next ≤ nextLater := by
  constructor
  · obtain ⟨date, hlat, hallowed, hreached, _, _⟩ :=
      schedule.latestDueReportDate_eq now
    obtain ⟨dateLater, hlatestLater, _, _, _, hlast⟩ :=
      schedule.latestDueReportDate_eq later
    refine ⟨date, dateLater, hlat, hlatestLater, ?_⟩
    by_contra hlt
    have hdue := (hsettled.reached_iff hallowed).mp hreached
    exact hlast date (not_le.mp hlt) hallowed
      ((hsettledLater.reached_iff hallowed).mpr (hdue.trans hle))
  · obtain ⟨next, hnext, _, _, hleast⟩ := hsettled.right.next
    obtain ⟨nextLater, hnextLater, hafter, ⟨date, hdate, rfl⟩, _⟩ :=
      hsettledLater.right.next
    exact ⟨next, _, hnext, hnextLater, hleast date hdate (hle.trans_lt hafter)⟩

end ReportSchedule

/-- The searches of a schedule are right at an instant exactly when none of its report
times is misjudged there; between such instants they never go back. -/
theorem dailySchedule_right_iff (schedule : ReportSchedule) :
    (∀ now, schedule.Right now ↔ schedule.Settled now) ∧
      ∀ now later, now ≤ later → schedule.Settled now → schedule.Settled later →
        (∃ date dateLater, schedule.latestDueReportDate now = .ok (some date) ∧
          schedule.latestDueReportDate later = .ok (some dateLater) ∧
          date ≤ dateLater) ∧
        ∃ next nextLater, schedule.nextScheduledAt now = .ok next ∧
          schedule.nextScheduledAt later = .ok nextLater ∧ next ≤ nextLater :=
  ⟨fun _ => ⟨ReportSchedule.Right.settled, ReportSchedule.Settled.right⟩,
    fun _ _ hle hsettled hlater => hsettled.mono hle hlater⟩

def autumnZone : TimeZone where
  initial := 10800000000
  transitions := [⟨3600000000, 7200000000⟩]
  ordered := by decide
  daysInOrder wall := by
    simp only [wallOffsetAmong, dayLength]
    split_ifs <;> omega

def nightlyReport : ReportSchedule where
  zone := autumnZone
  reportHour := 3
  reportMinute := 30
  weekdays := [0, 1, 2, 3, 4, 5, 6]
  hour_le := by decide
  minute_le := by decide
  weekdays_valid := ⟨_, rfl⟩

/-- In the repeated hour the report of the day is not due any more, and the next one
is scheduled in the past. -/
theorem dailySchedule_turned_back :
    ¬ ∀ (schedule : ReportSchedule) (now : Instant), schedule.Right now := by
  intro hclaim
  obtain ⟨next, hnext, hafter, _⟩ := (hclaim nightlyReport 3600000000).next
  have hpast : nightlyReport.nextScheduledAt 3600000000 = .ok 1800000000 := by
    decide +kernel
  rw [hpast] at hnext
  cases hnext
  exact absurd hafter (by decide)

end Nexolab
