import Nexolab.TelemetryContract

/-!
# Local accounts and their sessions

What the repository of the local accounts reads and writes of one row.
-/

namespace Nexolab

structure LocalAuthSettings where
  refreshTokenSeconds : ℤ
  maxFailedAttempts : ℕ
  lockoutSeconds : ℤ

def LocalAuthSettings.refreshLifetime (settings : LocalAuthSettings) : ℤ :=
  settings.refreshTokenSeconds * microsPerSecond

def LocalAuthSettings.lockout (settings : LocalAuthSettings) : ℤ :=
  settings.lockoutSeconds * microsPerSecond

/-- A row of the accounts with the activity of its identity. -/
structure LocalAccount where
  passwordHash : String
  (isActive identityActive : Bool)
  failedLoginCount : ℕ
  lockedUntil : Option Instant
  deriving DecidableEq

namespace LocalAccount

variable (account : LocalAccount)

def lockedAt (now : Instant) : Bool := account.lockedUntil.any (now < ·)

def recordFailedLogin (settings : LocalAuthSettings) (now : Instant) : LocalAccount :=
  if settings.maxFailedAttempts ≤ account.failedLoginCount + 1 then
    { account with
      failedLoginCount := 0
      lockedUntil := some (now + settings.lockout) }
  else { account with failedLoginCount := account.failedLoginCount + 1 }

/-- The commit of `record_successful_login`: a column which has been loaded with the
value it is given is not written. -/
def recordSuccessfulLogin (loaded : LocalAccount) : LocalAccount :=
  { account with
    failedLoginCount :=
      if loaded.failedLoginCount = 0 then account.failedLoginCount else 0
    lockedUntil := if loaded.lockedUntil = none then account.lockedUntil else none }

def resetPassword (passwordHash : String) : LocalAccount :=
  { account with passwordHash, failedLoginCount := 0, lockedUntil := none }

end LocalAccount

/-! ## Sessions -/

structure LocalSession where
  refreshTokenHash : String
  (lastRefreshedAt expiresAt : Instant)
  revokedAt : Option Instant

namespace LocalSession

variable (session : LocalSession)

def assertRowsActive (account : LocalAccount) (now : Instant)
    (idleTimeout : Option ℤ) : Except String Unit :=
  if session.revokedAt.isSome then .error "local session is revoked"
  else if session.expiresAt ≤ now then .error "local session is expired"
  else if idleTimeout.any (session.lastRefreshedAt + · ≤ now) then
    .error "local session idle timeout expired"
  else if !account.isActive || !account.identityActive then
    .error "local account is inactive"
  else .ok ()

def Usable (account : LocalAccount) (now : Instant) : Prop :=
  session.assertRowsActive account now none = .ok ()

def rotate (settings : LocalAuthSettings) (replacementHash : String) (now : Instant) :
    LocalSession :=
  { session with
    refreshTokenHash := replacementHash
    lastRefreshedAt := now
    expiresAt := now + settings.refreshLifetime }

def revoke (now : Instant) : LocalSession :=
  { session with revokedAt := some (session.revokedAt.getD now) }

variable {session} {account : LocalAccount} {now : Instant}

theorem assertRowsActive_eq_ok {idleTimeout : Option ℤ} :
    session.assertRowsActive account now idleTimeout = .ok () ↔
      session.revokedAt = none ∧ now < session.expiresAt ∧
        (∀ timeout ∈ idleTimeout, now < session.lastRefreshedAt + timeout) ∧
          account.isActive = true ∧ account.identityActive = true := by
  have hactivity : (!account.isActive || !account.identityActive) = false ↔
      account.isActive = true ∧ account.identityActive = true := by
    simp
  have hidleness : idleTimeout.any (session.lastRefreshedAt + · ≤ now) = false ↔
      ∀ timeout ∈ idleTimeout, now < session.lastRefreshedAt + timeout := by
    cases idleTimeout <;> simp
  unfold assertRowsActive
  rw [← hactivity, ← hidleness, ← Option.not_isSome_iff_eq_none]
  split_ifs with hrevoked hexpired hidle hact
  · simp [hrevoked]
  · simp [not_lt.mpr hexpired]
  · simp [hidle]
  · simp [hact]
  · simp_all

theorem not_usable_of_revoked (hrevoked : session.revokedAt ≠ none) :
    ¬ session.Usable account now :=
  fun husable => hrevoked (assertRowsActive_eq_ok.mp husable).1

@[simp] theorem revoke_revokedAt : (session.revoke now).revokedAt ≠ none := nofun

end LocalSession

end Nexolab
