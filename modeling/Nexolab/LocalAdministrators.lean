import Nexolab.KeyedRows
import Nexolab.TransitionSystem

/-!
# The last active administrator

A request which takes an administrator away counts the active ones first.  It locks
the rows of its own account only, so others may be taken away between the count and
the commit; provisioning a membership replaces its roles without a count.
-/

namespace Nexolab

inductive Role where
  | administrator
  | laboratoryManager
  | engineer
  | laboratoryTechnician
  | operator
  | viewer
  | auditor
  deriving DecidableEq

def Role.product : Role → Bool
  | .administrator => true
  | .laboratoryManager => true
  | .engineer => true
  | .laboratoryTechnician => true
  | _ => false

/-- A membership in the organization with its roles. -/
structure OrganizationMembership where
  isActive : Bool
  roles : List Role

structure LocalUser where
  accountId : String
  (isActive identityActive : Bool)
  membership : Option OrganizationMembership

namespace LocalUser

variable (user : LocalUser)

def currentActive : Bool :=
  user.membership.any fun membership =>
    user.isActive && user.identityActive && membership.isActive

def currentRoles : List Role :=
  (user.membership.map OrganizationMembership.roles).getD []

def activeAdministrator : Bool :=
  user.currentActive && decide (Role.administrator ∈ user.currentRoles)

end LocalUser

structure UserUpdate where
  accountId : String
  role : Option Role
  isActive : Option Bool

namespace UserUpdate

variable (update : UserUpdate) (user : LocalUser)

def removesAdmin : Bool :=
  decide (Role.administrator ∈ user.currentRoles) &&
    (update.role.any (· ≠ .administrator) || update.isActive = some false)

def guarded : Bool := update.removesAdmin user && user.currentActive

def apply : LocalUser :=
  let withRole : LocalUser := { user with
    membership := user.membership.map fun membership =>
      match update.role with
      | some role =>
        if membership.roles = [role] then membership
        else { membership with roles := [role] }
      | none => membership }
  match update.isActive with
  | some isActive =>
    if isActive = user.currentActive then withRole
    else { withRole with
      isActive
      identityActive := isActive
      membership := withRole.membership.map fun membership =>
        { membership with isActive } }
  | none => withRole

end UserUpdate

/-- `provision_membership` of the local identity: what is not loaded as inactive is
not written. -/
def LocalUser.provisioned (user : LocalUser) (loadedActive : Bool) (roles : List Role) :
    LocalUser :=
  { user with
    identityActive := if loadedActive then user.identityActive else true
    membership := some ⟨true, roles⟩ }

/-! ## Requests -/

/-- A request which has locked its account, and whether it is past the guard. -/
structure PendingUpdate where
  update : UserUpdate
  checked : Bool

/-- A provisioning which has read the identity and locked nothing yet. -/
structure PendingMembership where
  accountId : String
  roles : List Role
  loadedActive : Bool

structure OrganizationUsers where
  users : List LocalUser
  updates : List (ℕ × PendingUpdate)
  memberships : List (ℕ × PendingMembership)

inductive UserAction where
  | update (worker : ℕ) (update : UserUpdate)
  | check (worker : ℕ)
  | commit (worker : ℕ)
  | abort (worker : ℕ)
  | readIdentity (worker : ℕ) (accountId : String) (roles : List Role)
  | provision (worker : ℕ)

namespace OrganizationUsers

variable (system : OrganizationUsers)

def userOf (accountId : String) : Option LocalUser :=
  system.users.find? fun user => user.accountId = accountId

def updateOf (worker : ℕ) : Option PendingUpdate :=
  (system.updates.find? fun entry => entry.1 = worker).map Prod.snd

def membershipOf (worker : ℕ) : Option PendingMembership :=
  (system.memberships.find? fun entry => entry.1 = worker).map Prod.snd

def otherUpdates (worker : ℕ) : List (ℕ × PendingUpdate) :=
  system.updates.filter fun entry => entry.1 ≠ worker

def locked (accountId : String) : Bool :=
  system.updates.any fun entry => entry.2.update.accountId = accountId

def activeAdminCount : ℕ := system.users.countP LocalUser.activeAdministrator

def setUser (user : LocalUser) : List LocalUser :=
  replaceRow LocalUser.accountId user system.users

def step : UserAction → Option OrganizationUsers
  | .update worker update =>
    if (system.updateOf worker).isSome || system.locked update.accountId ||
        !update.role.all Role.product then none
    else
      match system.userOf update.accountId with
      | some user =>
        if user.membership.isSome then
          some { system with updates := (worker, ⟨update, false⟩) :: system.updates }
        else none
      | none => none
  | .check worker =>
    match system.updateOf worker with
    | some ⟨update, false⟩ =>
      match system.userOf update.accountId with
      | some user =>
        if update.guarded user && system.activeAdminCount ≤ 1 then
          -- `LastAdministratorError`
          some { system with updates := system.otherUpdates worker }
        else
          some { system with
            updates := (worker, ⟨update, true⟩) :: system.otherUpdates worker }
      | none => none
    | _ => none
  | .commit worker =>
    match system.updateOf worker with
    | some ⟨update, true⟩ =>
      match system.userOf update.accountId with
      | some user =>
        some { system with
          users := system.setUser (update.apply user)
          updates := system.otherUpdates worker }
      | none => none
    | _ => none
  | .abort worker =>
    some { system with
      updates := system.otherUpdates worker
      memberships := system.memberships.filter fun entry => entry.1 ≠ worker }
  | .readIdentity worker accountId roles =>
    if (system.membershipOf worker).isSome || roles.isEmpty then none
    else
      (system.userOf accountId).map fun user =>
        { system with memberships :=
            (worker, ⟨accountId, roles, user.identityActive⟩) :: system.memberships }
  | .provision worker =>
    match system.membershipOf worker with
    | some pending =>
      if system.locked pending.accountId then none
      else
        (system.userOf pending.accountId).map fun user =>
          { system with
            users := system.setUser (user.provisioned pending.loadedActive pending.roles)
            memberships := system.memberships.filter fun entry => entry.1 ≠ worker }
    | none => none

def HasAdministrator : Prop :=
  ∃ user ∈ system.users, user.activeAdministrator = true

def Taken (accountId : String) : Prop :=
  ∃ entry ∈ system.updates, entry.2.checked = true ∧ entry.2.update.accountId = accountId ∧
    ∃ user ∈ system.users, user.accountId = accountId ∧ entry.2.update.guarded user = true

/-- An active administrator whom no request past the guard takes away. -/
def Kept (user : LocalUser) : Prop :=
  user ∈ system.users ∧ user.activeAdministrator = true ∧ ¬ system.Taken user.accountId

/-- A step which takes an administrator away, or passes the guard to do so, leaves
another one whom no request past the guard takes away. -/
def Spares : UserAction → Prop
  | .check worker => ∀ pending ∈ system.updateOf worker, pending.checked = false →
      ∀ user ∈ system.userOf pending.update.accountId,
        pending.update.guarded user = true → 1 < system.activeAdminCount →
        ∃ other, system.Kept other ∧ other.accountId ≠ user.accountId
  | .provision worker => ∀ pending ∈ system.membershipOf worker,
      ∀ user ∈ system.userOf pending.accountId, user.activeAdministrator = true →
        Role.administrator ∉ pending.roles →
        ∃ other, system.Kept other ∧ other.accountId ≠ user.accountId
  | _ => True

instance (accountId : String) : Decidable (system.Taken accountId) :=
  inferInstanceAs (Decidable (∃ entry ∈ system.updates, _))

instance (accountId : String) :
    Decidable (∃ other, system.Kept other ∧ other.accountId ≠ accountId) :=
  decidable_of_iff (∃ other ∈ system.users, (other.activeAdministrator = true ∧
      ¬ system.Taken other.accountId) ∧ other.accountId ≠ accountId) <| by
    constructor
    · rintro ⟨other, hmem, hkept, hne⟩
      exact ⟨other, ⟨hmem, hkept⟩, hne⟩
    · rintro ⟨other, ⟨hmem, hkept⟩, hne⟩
      exact ⟨other, hmem, hkept, hne⟩

instance (action : UserAction) : Decidable (system.Spares action) :=
  match action with
  | .check worker => inferInstanceAs (Decidable (∀ pending ∈ system.updateOf worker, _))
  | .provision worker =>
    inferInstanceAs (Decidable (∀ pending ∈ system.membershipOf worker, _))
  | .update .. | .commit _ | .abort _ | .readIdentity .. => .isTrue trivial

end OrganizationUsers

end Nexolab
