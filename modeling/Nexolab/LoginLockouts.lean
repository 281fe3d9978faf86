import Nexolab.SessionRevocation

/-!
# How long a login is locked

Failed logins are counted and set a lock, a successful one clears both.  The lock is
asked for when the account is read, the counter when the failure is recorded.
-/

namespace Nexolab

section Outcomes

variable {account : LocalAccount} {settings : LocalAuthSettings} {now : Instant}

def LocalAccount.LastFailure (account : LocalAccount) (settings : LocalAuthSettings) :
    Prop :=
  settings.maxFailedAttempts ≤ account.failedLoginCount + 1

theorem recordFailedLogin_last (hlast : account.LastFailure settings) :
    account.recordFailedLogin settings now =
      { account with
        failedLoginCount := 0
        lockedUntil := some (now + settings.lockout) } :=
  if_pos hlast

theorem recordFailedLogin_counted (hcounted : ¬ account.LastFailure settings) :
    account.recordFailedLogin settings now =
      { account with failedLoginCount := account.failedLoginCount + 1 } :=
  if_neg hcounted

theorem failureOutcome_isLocked :
    (LocalLogins.failureOutcome account).isLocked = account.lockedUntil.isSome := by
  unfold LocalLogins.failureOutcome
  cases account.lockedUntil <;> rfl

end Outcomes

namespace LocalLogins

variable {authentication : LocalAuthentication} {before after : LocalLogins}
  {action : LoginAction} {worker : ℕ}

def wrongAnswers (system : LocalLogins) : ℕ :=
  system.answers.countP LoginAnswer.wrongUnlocked

/-- A login which has gone on had read no lock in force and the right password. -/
def Verified (authentication : LocalAuthentication) (system : LocalLogins) : Prop :=
  ∀ entry ∈ system.attempts, entry.2.phase ≠ .verifying → entry.2.Verified authentication

theorem Verified.others (hverd : before.Verified authentication)
    {entry : ℕ × LoginAttempt} (hent : entry ∈ before.otherAttempts worker) :
    entry.2.phase ≠ .verifying → entry.2.Verified authentication :=
  hverd entry (mem_of_mem_otherAttempts hent)

variable {attempt : LoginAttempt}

theorem Verified.advance (hverd : before.Verified authentication) {phase : LoginPhase}
    (hatt : attempt.Verified authentication) {account : LocalAccount} :
    Verified authentication { before.advance worker attempt phase with account } := by
  intro entry hent
  cases hent with
  | head => exact fun _ => hatt
  | tail _ hother => exact hverd.others hother

theorem Verified.found (hverd : before.Verified authentication)
    (hfound : before.attemptOf worker = some attempt)
    {phase : LoginPhase} (hphase : attempt.phase = phase) (hpast : phase ≠ .verifying) :
    attempt.Verified authentication :=
  hverd _ (attemptOf_eq_some hfound) (hphase ▸ hpast)

theorem Verified.step (hverd : before.Verified authentication)
    (hstep : before.step authentication action = some after) :
    after.Verified authentication := by
  cases step_effect hstep with
  | read worker password now =>
    intro entry hent
    cases hent with
    | head => exact fun hpast => absurd rfl hpast
    | tail _ hother => exact hverd entry hother
  | refused worker attempt => exact fun _ hent => hverd.others hent
  | failed worker attempt => exact fun _ hent => hverd.others hent
  | resolved worker attempt hfound hatt => exact hverd.advance hatt
  | unresolved worker attempt => exact fun _ hent => hverd.others hent
  | loaded worker attempt hfound hphase =>
    exact hverd.advance (hverd.found hfound hphase nofun)
  | recorded worker attempt loaded hfound hphase =>
    exact hverd.advance (hverd.found hfound hphase nofun)
  | checked worker attempt hfound hphase =>
    exact hverd.advance (hverd.found hfound hphase nofun)
  | inserted worker sessionId refreshTokenHash attempt =>
    exact fun _ hent => hverd.others hent
  | aborted worker => exact fun _ hent => hverd.others hent
  | reset passwordHash now => exact hverd
  | revoked now => exact hverd
  | activitySet isActive now => exact hverd
  | selected worker => exact hverd
  | selectedRevoked worker now selected => exact hverd
  | refreshed sessionId replacementHash now => exact hverd
  | loggedOut sessionId now => exact hverd

def Uncleared (_ : LocalLogins) : LoginAction → Prop
  | .recordSuccess _ => False
  | .resetPassword _ _ => False
  | _ => True

theorem wrongAnswers_finish {outcome : LoginOutcome}
    (hother : outcome.isLocked = true ∨ attempt.passwordValid authentication = true) :
    (before.finish authentication worker attempt outcome).wrongAnswers = before.wrongAnswers := by
  have hanswer : (attempt.answer authentication outcome).wrongUnlocked = false := by
    unfold LoginAnswer.wrongUnlocked LoginAttempt.answer
    rcases hother with hlocked | hvalid
    · rw [hlocked, Bool.not_true, Bool.and_false]
    · rw [hvalid, Bool.not_true, Bool.false_and]
  unfold wrongAnswers finish
  rw [List.countP_cons_of_neg]
  rw [hanswer]
  exact Bool.false_ne_true

theorem wrongAnswers_finish_le (before : LocalLogins) (worker : ℕ)
    (attempt : LoginAttempt) (outcome : LoginOutcome) :
    (before.finish authentication worker attempt outcome).wrongAnswers ≤
      before.wrongAnswers + 1 := by
  unfold wrongAnswers finish
  rw [List.countP_cons]
  split_ifs <;> omega

structure Counted (authentication : LocalAuthentication) (given : ℕ)
    (system : LocalLogins) : Prop where
  verified : system.Verified authentication
  bounded : system.wrongAnswers ≤ given + (authentication.settings.maxFailedAttempts - 1)
  counted : system.account.lockedUntil = none →
    system.wrongAnswers ≤ given + system.account.failedLoginCount

theorem Counted.fail {given : ℕ} (hcounted : before.Counted authentication given)
    (attempt : LoginAttempt) :
    (before.fail authentication worker attempt).wrongAnswers ≤
        given + (authentication.settings.maxFailedAttempts - 1) ∧
      ((before.fail authentication worker attempt).account.lockedUntil = none →
        (before.fail authentication worker attempt).wrongAnswers ≤
          given + (before.fail authentication worker attempt).account.failedLoginCount) := by
  have hanswers : (before.fail authentication worker attempt).wrongAnswers =
      (before.finish authentication worker attempt (failureOutcome
        (before.fail authentication worker attempt).account)).wrongAnswers := rfl
  have haccount : (before.fail authentication worker attempt).account =
      before.account.recordFailedLogin authentication.settings attempt.now := rfl
  by_cases hlast : before.account.LastFailure authentication.settings
  · rw [recordFailedLogin_last hlast] at haccount
    have hsame := hanswers.trans (wrongAnswers_finish (.inl (by
      rw [failureOutcome_isLocked, haccount]
      rfl)))
    rw [hsame, haccount]
    exact ⟨hcounted.bounded, nofun⟩
  · rw [recordFailedLogin_counted hlast] at haccount
    cases hlock : before.account.lockedUntil with
    | some lockedUntil =>
      -- a lock which is over is answered like one in force
      have hsame := hanswers.trans (wrongAnswers_finish (.inl (by
        rw [failureOutcome_isLocked, haccount, hlock]
        rfl)))
      rw [hsame, haccount]
      refine ⟨hcounted.bounded, fun hnone => ?_⟩
      cases hlock.symm.trans hnone
    | none =>
      have hmore := hanswers.trans_le (wrongAnswers_finish_le before worker attempt _)
      have hbefore := hcounted.counted hlock
      unfold LocalAccount.LastFailure at hlast
      rw [haccount]
      constructor
      · omega
      · intro _
        dsimp only
        omega

theorem Counted.step {given : ℕ} (hcounted : before.Counted authentication given)
    (huncleared : before.Uncleared action)
    (hstep : before.step authentication action = some after) :
    after.Counted authentication given := by
  have hverd := hcounted.verified.step hstep
  obtain ⟨hlogins, hbounded, hunlocked⟩ := hcounted
  cases step_effect hstep with
  | read worker password now => exact ⟨hverd, hbounded, hunlocked⟩
  | refused worker attempt lockedUntil =>
    have hsame := @wrongAnswers_finish authentication before worker attempt _
      (.inl (rfl : (LoginOutcome.locked lockedUntil).isLocked = true))
    exact ⟨hverd, hsame.trans_le hbounded, fun hnone =>
      hsame.trans_le (hunlocked hnone)⟩
  | failed worker attempt =>
    obtain ⟨hless, hcount⟩ :=
      @Counted.fail authentication before worker given ⟨hlogins, hbounded, hunlocked⟩ attempt
    exact ⟨hverd, hless, hcount⟩
  | resolved worker attempt => exact ⟨hverd, hbounded, hunlocked⟩
  | unresolved worker attempt hfound hatt =>
    have hsame := @wrongAnswers_finish authentication before worker attempt
      .noMembership (.inr hatt.2)
    exact ⟨hverd, hsame.trans_le hbounded, fun hnone =>
      hsame.trans_le (hunlocked hnone)⟩
  | loaded worker attempt => exact ⟨hverd, hbounded, hunlocked⟩
  | recorded worker attempt loaded => exact huncleared.elim
  | checked worker attempt => exact ⟨hverd, hbounded, hunlocked⟩
  | inserted worker sessionId refreshTokenHash attempt hfound hphase =>
    have hatt := hlogins.found hfound hphase nofun
    have hsame := @wrongAnswers_finish authentication before worker attempt
      (.granted sessionId) (.inr hatt.2)
    exact ⟨hverd, hsame.trans_le hbounded, fun hnone =>
      hsame.trans_le (hunlocked hnone)⟩
  | aborted worker => exact ⟨hverd, hbounded, hunlocked⟩
  | reset passwordHash now => exact huncleared.elim
  | revoked now => exact ⟨hverd, hbounded, hunlocked⟩
  | activitySet isActive now => exact ⟨hverd, hbounded, hunlocked⟩
  | selected worker => exact ⟨hverd, hbounded, hunlocked⟩
  | selectedRevoked worker now selected => exact ⟨hverd, hbounded, hunlocked⟩
  | refreshed sessionId replacementHash now => exact ⟨hverd, hbounded, hunlocked⟩
  | loggedOut sessionId now => exact ⟨hverd, hbounded, hunlocked⟩

/-! ## A lock in force -/

/-- Only logins which read before the lock is over begin, and the password is not
reset. -/
def ReadsBefore (lockedUntil : Instant) (_ : LocalLogins) : LoginAction → Prop
  | .read _ _ now => now < lockedUntil
  | .resetPassword _ _ => False
  | _ => True

/-- The lock stands, every login in progress has read it, and the answers since then
are refusals. -/
structure LockStands (lockedUntil : Instant) (given : List LoginAnswer)
    (system : LocalLogins) : Prop where
  lock : system.account.lockedUntil = some lockedUntil
  attempts : ∀ entry ∈ system.attempts,
    entry.2.account.lockedUntil = some lockedUntil ∧ entry.2.now < lockedUntil
  answers : ∃ refusals, system.answers = refusals ++ given ∧
    ∀ answer ∈ refusals, answer.outcome = .locked lockedUntil

variable {given : List LoginAnswer} {lockedUntil : Instant}

theorem LockStands.readLocked (hstands : before.LockStands lockedUntil given)
    (hfound : before.attemptOf worker = some attempt) : attempt.readLocked = true := by
  obtain ⟨hlock, hnow⟩ := hstands.attempts _ (attemptOf_eq_some hfound)
  unfold LoginAttempt.readLocked LocalAccount.lockedAt
  rw [hlock]
  exact decide_eq_true hnow

theorem LockStands.not_verified (hstands : before.LockStands lockedUntil given)
    (hfound : before.attemptOf worker = some attempt) :
    ¬ attempt.Verified authentication :=
  fun hverd => Bool.false_ne_true (hverd.1.symm.trans (hstands.readLocked hfound))

theorem LockStands.others (hstands : before.LockStands lockedUntil given) {entry : ℕ × LoginAttempt}
    (hent : entry ∈ before.otherAttempts worker) :
    entry.2.account.lockedUntil = some lockedUntil ∧ entry.2.now < lockedUntil :=
  hstands.attempts entry (mem_of_mem_otherAttempts hent)

theorem LockStands.step (hstands : before.LockStands lockedUntil given)
    (hlogins : before.Verified authentication) (hreads : before.ReadsBefore lockedUntil action)
    (hstep : before.step authentication action = some after) :
    after.LockStands lockedUntil given := by
  cases step_effect hstep with
  | read worker password now =>
    refine ⟨hstands.lock, ?_, hstands.answers⟩
    intro entry hent
    cases hent with
    | head => exact ⟨hstands.lock, hreads⟩
    | tail _ hother => exact hstands.attempts entry hother
  | refused worker attempt readUntil hfound hlocked hread =>
    refine ⟨hstands.lock, fun _ hent => hstands.others hent, ?_⟩
    obtain ⟨refusals, hanswers, hrefusals⟩ := hstands.answers
    obtain ⟨hsame, _⟩ := hstands.attempts _ (attemptOf_eq_some hfound)
    cases hread.symm.trans hsame
    refine ⟨attempt.answer authentication (.locked lockedUntil) :: refusals, ?_, ?_⟩
    · exact congrArg _ hanswers
    · exact List.forall_mem_cons.mpr ⟨rfl, hrefusals⟩
  | failed worker attempt hfound hunlocked =>
    cases hunlocked.symm.trans (hstands.readLocked hfound)
  | resolved worker attempt hfound hverd =>
    exact absurd hverd (hstands.not_verified hfound)
  | unresolved worker attempt hfound hverd =>
    exact absurd hverd (hstands.not_verified hfound)
  | loaded worker attempt hfound hphase =>
    exact absurd (hlogins.found hfound hphase nofun) (hstands.not_verified hfound)
  | recorded worker attempt loaded hfound hphase =>
    exact absurd (hlogins.found hfound hphase nofun) (hstands.not_verified hfound)
  | checked worker attempt hfound hphase =>
    exact absurd (hlogins.found hfound hphase nofun) (hstands.not_verified hfound)
  | inserted worker sessionId refreshTokenHash attempt hfound hphase =>
    exact absurd (hlogins.found hfound hphase nofun) (hstands.not_verified hfound)
  | aborted worker =>
    exact ⟨hstands.lock, fun _ hent => hstands.others hent, hstands.answers⟩
  | reset passwordHash now => exact hreads.elim
  | revoked now => exact ⟨hstands.lock, hstands.attempts, hstands.answers⟩
  | activitySet isActive now => exact ⟨hstands.lock, hstands.attempts, hstands.answers⟩
  | selected worker => exact ⟨hstands.lock, hstands.attempts, hstands.answers⟩
  | selectedRevoked worker now selected =>
    exact ⟨hstands.lock, hstands.attempts, hstands.answers⟩
  | refreshed sessionId replacementHash now =>
    exact ⟨hstands.lock, hstands.attempts, hstands.answers⟩
  | loggedOut sessionId now =>
    exact ⟨hstands.lock, hstands.attempts, hstands.answers⟩

theorem answered_locked (hstep : before.step authentication action = some after)
    {answer : LoginAnswer} (hanswer : after.answers = answer :: before.answers)
    (hlocked : answer.outcome.isLocked = true) :
    ∃ worker attempt, before.attemptOf worker = some attempt ∧
      (action = .refuse worker ∧ attempt.readLocked = true ∨
        action = .recordFailure worker ∧ (before.account.lockedUntil = none →
          before.account.LastFailure authentication.settings ∧
            after.account.lockedUntil = some (attempt.now + authentication.settings.lockout))) := by
  have hquiet : after.answers ≠ before.answers := by
    rw [hanswer]
    exact List.cons_ne_self _ _
  cases step_effect hstep with
  | read worker password now => exact absurd rfl hquiet
  | refused worker attempt lockedUntil hfound hread =>
    exact ⟨worker, attempt, hfound, .inl ⟨rfl, hread⟩⟩
  | failed worker attempt hfound =>
    refine ⟨worker, attempt, hfound, .inr ⟨rfl, fun hnone => ?_⟩⟩
    have haccount : (before.fail authentication worker attempt).account =
        before.account.recordFailedLogin authentication.settings attempt.now := rfl
    by_cases hlast : before.account.LastFailure authentication.settings
    · rw [recordFailedLogin_last hlast] at haccount
      rw [haccount]
      exact ⟨hlast, rfl⟩
    · rw [recordFailedLogin_counted hlast] at haccount
      cases hanswer
      have hsome := failureOutcome_isLocked.symm.trans hlocked
      rw [recordFailedLogin_counted hlast, hnone] at hsome
      cases hsome
  | resolved worker attempt => exact absurd rfl hquiet
  | unresolved worker attempt =>
    cases hanswer
    cases hlocked
  | loaded worker attempt => exact absurd rfl hquiet
  | recorded worker attempt loaded => exact absurd rfl hquiet
  | checked worker attempt => exact absurd rfl hquiet
  | inserted worker sessionId refreshTokenHash attempt =>
    cases hanswer
    cases hlocked
  | aborted worker => exact absurd rfl hquiet
  | reset passwordHash now => exact absurd rfl hquiet
  | revoked now => exact absurd rfl hquiet
  | activitySet isActive now => exact absurd rfl hquiet
  | selected worker => exact absurd rfl hquiet
  | selectedRevoked worker now selected => exact absurd rfl hquiet
  | refreshed sessionId replacementHash now => exact absurd rfl hquiet
  | loggedOut sessionId now => exact absurd rfl hquiet

structure LockoutKept (authentication : LocalAuthentication) (system : LocalLogins) :
    Prop where
  /-- Wrong passwords which are answered as anything other than locked while no
  success is recorded and the password is not reset. -/
  bounded : ∀ last, Reaches (step authentication) Uncleared system last →
    last.wrongAnswers ≤ system.wrongAnswers + (authentication.settings.maxFailedAttempts - 1)
  /-- A lock which the logins in progress have read stands, and they are refused. -/
  stands : ∀ lockedUntil, system.account.lockedUntil = some lockedUntil →
    (∀ entry ∈ system.attempts, entry.2.account.lockedUntil = some lockedUntil ∧
      entry.2.now < lockedUntil) →
    ∀ last, Reaches (step authentication) (ReadsBefore lockedUntil) system last →
      last.account.lockedUntil = some lockedUntil ∧
        ∃ refusals, last.answers = refusals ++ system.answers ∧
          ∀ answer ∈ refusals, answer.outcome = .locked lockedUntil
  /-- Without a lock in the row only the last failure is answered with one. -/
  answered : ∀ action after answer, system.step authentication action = some after →
    after.answers = answer :: system.answers → answer.outcome.isLocked = true →
    ∃ worker attempt, system.attemptOf worker = some attempt ∧
      (action = .refuse worker ∧ attempt.readLocked = true ∨
        action = .recordFailure worker ∧ (system.account.lockedUntil = none →
          system.account.LastFailure authentication.settings ∧
            after.account.lockedUntil = some (attempt.now + authentication.settings.lockout)))

end LocalLogins

theorem lockout_kept {authentication : LocalAuthentication} {account : LocalAccount}
    {sessions : List (String × LocalSession)} {system : LocalLogins}
    (hreach : Reaches (LocalLogins.step authentication) (fun _ _ => True)
      (.initial account sessions) system) :
    system.LockoutKept authentication := by
  have hverd : system.Verified authentication :=
    hreach.invariant (P := LocalLogins.Verified authentication)
      (fun _ _ _ hverd _ hstep => hverd.step hstep) nofun
  constructor
  · intro last hlast
    have hcounted : last.Counted authentication system.wrongAnswers := by
      refine hlast.invariant
        (P := LocalLogins.Counted authentication system.wrongAnswers) ?_ ?_
      · exact fun _ _ _ hcounted huncleared hstep => hcounted.step huncleared hstep
      · exact ⟨hverd, Nat.le_add_right _ _, fun _ => Nat.le_add_right _ _⟩
    exact hcounted.bounded
  · intro lockedUntil hlock hatts last hlast
    have hboth : last.Verified authentication ∧
        last.LockStands lockedUntil system.answers := by
      refine hlast.invariant (P := fun last => last.Verified authentication ∧
        last.LockStands lockedUntil system.answers) ?_ ?_
      · rintro before action after ⟨hlogins, hstands⟩ hreads hstep
        exact ⟨hlogins.step hstep, hstands.step hlogins hreads hstep⟩
      · exact ⟨hverd, hlock, hatts, [], rfl, nofun⟩
    exact ⟨hboth.2.lock, hboth.2.answers⟩
  · exact fun _ _ _ hstep => LocalLogins.answered_locked hstep

def wrongLogin (worker : ℕ) (now : Instant) : List LoginAction :=
  [.read worker "wrong password" now, .recordFailure worker]

def threeFailures : List LoginAction :=
  wrongLogin 1 0 ++ wrongLogin 2 1000000 ++ wrongLogin 3 2000000

theorem lockout_kept_threeFailures :
    ∃ system, runFrom (LocalLogins.step plainAuthentication)
        (.initial exampleAccount []) threeFailures = some system ∧
      system.account.lockedUntil = some 302000000 ∧
      system.LockoutKept plainAuthentication := by
  have hrun : ∃ system ∈ runFrom (LocalLogins.step plainAuthentication)
      (.initial exampleAccount []) threeFailures,
      system.account.lockedUntil = some 302000000 := by
    decide +kernel
  obtain ⟨system, hsystem, hlock⟩ := hrun
  exact ⟨system, hsystem, hlock,
    lockout_kept (.of_runFrom (fun _ _ _ => trivial) hsystem)⟩

/-- A login reads the account, three failures set the lock, and the success of the
first one clears it. -/
def successPastLock : List LoginAction :=
  .read 9 "first password" 0 :: .resolve 9 true :: threeFailures ++ [.loadAccount 9]

def successesBetween : List LoginAction :=
  loginSteps 1 "first password" "first" 1000000 ++ wrongLogin 2 2000000 ++
    wrongLogin 3 3000000 ++ loginSteps 4 "first password" "second" 4000000 ++
      wrongLogin 5 5000000 ++ wrongLogin 6 6000000

def unlockedAccount : LocalAccount := { exampleAccount with lockedUntil := some 0 }

def LocalLogins.SetsNoLock (authentication : LocalAuthentication)
    (system : LocalLogins) : LoginAction → Prop
  | .recordFailure _ => ¬ system.account.LastFailure authentication.settings
  | _ => True

instance (authentication : LocalAuthentication) (system : LocalLogins)
    (action : LoginAction) : Decidable (system.SetsNoLock authentication action) := by
  unfold LocalLogins.SetsNoLock LocalAccount.LastFailure
  split <;> infer_instance

/-- From the end of one lock to the next one more wrong passwords than allowed are
answered otherwise, a success clears a lock which is in force, and the first failure
behind a lock which is over is answered with it. -/
theorem lockout_evaded :
    (¬ ∀ (authentication : LocalAuthentication) (account : LocalAccount)
      (system : LocalLogins), account.lockedUntil = some 0 →
      Reaches (LocalLogins.step authentication) (LocalLogins.SetsNoLock authentication)
        (.initial account []) system → (∀ answer ∈ system.answers, 0 ≤ answer.now) →
      system.wrongAnswers ≤ authentication.settings.maxFailedAttempts) ∧
    (¬ ∀ (authentication : LocalAuthentication) (account : LocalAccount)
      (system after : LocalLogins) (worker : ℕ) (lockedUntil : Instant),
      Reaches (LocalLogins.step authentication) (fun _ _ => True)
        (.initial account []) system →
      system.account.lockedUntil = some lockedUntil →
      (∀ attempt ∈ system.attemptOf worker, attempt.now < lockedUntil) →
      system.step authentication (.recordSuccess worker) = some after →
      after.account.lockedUntil = some lockedUntil) ∧
    ¬ ∀ (authentication : LocalAuthentication) (account : LocalAccount)
      (system after : LocalLogins) (worker : ℕ),
      Reaches (LocalLogins.step authentication) (fun _ _ => True)
        (.initial account []) system →
      (∀ attempt ∈ system.attemptOf worker,
        system.account.lockedAt attempt.now = false) →
      ¬ system.account.LastFailure authentication.settings →
      system.step authentication (.recordFailure worker) = some after →
      ∀ answer, after.answers = answer :: system.answers →
        answer.outcome.isLocked = false := by
  refine ⟨?_, ?_, ?_⟩
  · intro hclaim
    have hmeet : StepsMeet (LocalLogins.step plainAuthentication)
        (LocalLogins.SetsNoLock plainAuthentication) (.initial unlockedAccount [])
        successesBetween := by
      decide +kernel
    have hrun : ∃ system ∈ runFrom (LocalLogins.step plainAuthentication)
        (.initial unlockedAccount []) successesBetween,
        (∀ answer ∈ system.answers, 0 ≤ answer.now) ∧ system.wrongAnswers = 4 := by
      decide +kernel
    obtain ⟨system, hsystem, htimes, hwrong⟩ := hrun
    have hle := hclaim plainAuthentication unlockedAccount system rfl
      (.of_stepsMeet hmeet hsystem) htimes
    rw [hwrong] at hle
    exact absurd hle (by decide)
  · intro hclaim
    have hrun : ∃ system ∈ runFrom (LocalLogins.step plainAuthentication)
        (.initial exampleAccount []) successPastLock,
        system.account.lockedUntil = some 302000000 ∧
          (∀ attempt ∈ system.attemptOf 9, attempt.now < 302000000) ∧
          ∃ after ∈ system.step plainAuthentication (.recordSuccess 9),
            after.account.lockedUntil = none := by
      decide +kernel
    obtain ⟨system, hsystem, hlock, hnow, after, hafter, hnone⟩ := hrun
    have hkept := hclaim plainAuthentication exampleAccount system after 9 302000000
      (.of_runFrom (fun _ _ _ => trivial) hsystem) hlock hnow hafter
    cases hkept.symm.trans hnone
  · intro hclaim
    have hrun : ∃ system ∈ runFrom (LocalLogins.step plainAuthentication)
        (.initial unlockedAccount []) [.read 1 "wrong password" 1000000],
        (∀ attempt ∈ system.attemptOf 1, system.account.lockedAt attempt.now = false) ∧
          ¬ 3 ≤ system.account.failedLoginCount + 1 ∧
          ∃ after ∈ system.step plainAuthentication (.recordFailure 1),
            ∃ answer ∈ after.answers.head?, after.answers = answer :: system.answers ∧
                answer.outcome.isLocked = true := by
      decide +kernel
    obtain ⟨system, hsystem, hunlocked, hcount, after, hafter, answer, _, hanswer,
      hlocked⟩ := hrun
    have hopen := hclaim plainAuthentication unlockedAccount system after 1
      (.of_runFrom (fun _ _ _ => trivial) hsystem) hunlocked hcount hafter answer
      hanswer
    cases hopen.symm.trans hlocked

end Nexolab
