import Nexolab.LocalAdministrators

/-!
# When an active administrator is left

The guard of an update holds up as long as another administrator is left whom no
request past its own guard takes away.
-/

namespace Nexolab

section Account

variable {user : LocalUser} {update : UserUpdate}

@[simp] theorem apply_accountId : (update.apply user).accountId = user.accountId := by
  unfold UserUpdate.apply
  dsimp only
  split
  · split_ifs <;> rfl
  · rfl

theorem activeAdministrator_iff : user.activeAdministrator = true ↔
    user.isActive = true ∧ user.identityActive = true ∧
      ∃ membership, user.membership = some membership ∧ membership.isActive = true ∧
        Role.administrator ∈ membership.roles := by
  obtain ⟨_, _, _, membership⟩ := user
  cases membership with
  | none => simp [LocalUser.activeAdministrator, LocalUser.currentActive]
  | some membership =>
    simp [LocalUser.activeAdministrator, LocalUser.currentActive, LocalUser.currentRoles, and_assoc]
    exact fun _ _ _ => decide_eq_true_iff

theorem guarded_iff (hact : user.activeAdministrator = true) :
    update.guarded user = true ↔ (∃ role, update.role = some role ∧ role ≠ .administrator) ∨
        update.isActive = some false := by
  obtain ⟨hflag, hidentity, membership, hmembership, hmember, hroles⟩ :=
    activeAdministrator_iff.mp hact
  simp [UserUpdate.guarded, UserUpdate.removesAdmin, LocalUser.currentActive,
    LocalUser.currentRoles, hflag, hidentity, hmembership, hmember, hroles,
    Option.any_eq_true]

theorem administrator_of_guarded (hguarded : update.guarded user = true) :
    user.activeAdministrator = true := by
  unfold UserUpdate.guarded UserUpdate.removesAdmin at hguarded
  unfold LocalUser.activeAdministrator
  simp only [Bool.and_eq_true] at hguarded ⊢
  exact ⟨hguarded.2, hguarded.1.1⟩

theorem apply_administrator (hact : user.activeAdministrator = true) :
    (update.apply user).activeAdministrator = !update.guarded user := by
  rw [Bool.eq_iff_iff, Bool.not_eq_true', ← Bool.not_eq_true, guarded_iff hact]
  have hcur : user.currentActive = true := by
    unfold LocalUser.activeAdministrator at hact
    exact (Bool.and_eq_true_iff.mp hact).1
  obtain ⟨hflag, hidentity, membership, hmembership, hmember, hroles⟩ :=
    activeAdministrator_iff.mp hact
  rw [activeAdministrator_iff]
  unfold UserUpdate.apply
  obtain ⟨target, role, active⟩ := update
  have hfields := And.intro hflag (And.intro hidentity (And.intro hmember hroles))
  cases role with
  | none =>
    cases active with
    | none => simp [hmembership, hfields]
    | some value => cases value <;> simp [hcur, hmembership, hfields]
  | some role =>
    by_cases hsame : membership.roles = [role]
    · have hrole : role = .administrator := by
        rw [hsame, List.mem_singleton] at hroles
        exact hroles.symm
      cases active with
      | none => simp [hmembership, hfields, hsame, hrole]
      | some value =>
        cases value <;> simp [hcur, hmembership, hfields, hsame, hrole]
    · cases active with
      | none => simp [hmembership, hfields, hsame, @eq_comm _ Role.administrator]
      | some value =>
        cases value <;>
          simp [hcur, hmembership, hfields, hsame, @eq_comm _ Role.administrator]
theorem provisioned_administrator {loadedActive : Bool} {roles : List Role}
    (hact : user.activeAdministrator = true) (hroles : .administrator ∈ roles) :
    (user.provisioned loadedActive roles).activeAdministrator = true := by
  obtain ⟨hflag, hidentity, _⟩ := activeAdministrator_iff.mp hact
  refine activeAdministrator_iff.mpr ⟨hflag, ?_, _, rfl, rfl, hroles⟩
  unfold LocalUser.provisioned
  dsimp only
  split_ifs
  · exact hidentity
  · rfl

theorem provisioned_not_administrator {loadedActive : Bool} {roles : List Role}
    (hroles : .administrator ∉ roles) :
    (user.provisioned loadedActive roles).activeAdministrator = false := by
  rw [← Bool.not_eq_true, activeAdministrator_iff]
  rintro ⟨_, _, membership, hmembership, _, hrole⟩
  cases hmembership
  exact hroles hrole

end Account

namespace OrganizationUsers

variable {before after : OrganizationUsers} {action : UserAction} {worker : ℕ}

structure Sound (system : OrganizationUsers) : Prop where
  users : (system.users.map LocalUser.accountId).Nodup
  workers : (system.updates.map Prod.fst).Nodup
  targets : (system.updates.map fun entry => entry.2.update.accountId).Nodup

theorem updateOf_eq_some {pending : PendingUpdate}
    (hfound : before.updateOf worker = some pending) :
    (worker, pending) ∈ before.updates := by
  unfold updateOf at hfound
  rw [Option.map_eq_some_iff] at hfound
  obtain ⟨⟨found, _⟩, hent, rfl⟩ := hfound
  obtain ⟨hmem, hworker⟩ := mem_and_eq_of_find? hent
  rw [decide_eq_true_eq] at hworker
  exact hworker ▸ hmem

theorem userOf_eq_some {accountId : String} {user : LocalUser}
    (hfound : before.userOf accountId = some user) :
    user ∈ before.users ∧ user.accountId = accountId := by
  obtain ⟨hmem, hid⟩ := mem_and_eq_of_find? hfound
  rw [decide_eq_true_eq] at hid
  exact ⟨hmem, hid⟩

theorem mem_otherUpdates {entry : ℕ × PendingUpdate} :
    entry ∈ before.otherUpdates worker ↔ entry ∈ before.updates ∧ entry.1 ≠ worker := by
  simp [otherUpdates, List.mem_filter]

theorem Sound.others (hsound : before.Sound) :
    ((before.otherUpdates worker).map Prod.fst).Nodup ∧
      ((before.otherUpdates worker).map fun entry =>
        entry.2.update.accountId).Nodup :=
  ⟨hsound.workers.sublist (List.filter_sublist.map _),
    hsound.targets.sublist (List.filter_sublist.map _)⟩

theorem Sound.again (hsound : before.Sound) {update : UserUpdate} {checked later : Bool}
    (hmem : (worker, ⟨update, checked⟩) ∈ before.updates) :
    (((worker, ⟨update, later⟩) :: before.otherUpdates worker).map Prod.fst).Nodup ∧
      (((worker, ⟨update, later⟩) :: before.otherUpdates worker).map fun entry =>
        entry.2.update.accountId).Nodup := by
  obtain ⟨hworkers, htargets⟩ := @Sound.others before worker hsound
  refine ⟨List.nodup_cons.mpr ⟨?_, hworkers⟩, List.nodup_cons.mpr ⟨?_, htargets⟩⟩
  · intro hin
    obtain ⟨entry, hent, hequal⟩ := List.mem_map.mp hin
    exact (mem_otherUpdates.mp hent).2 hequal
  · intro hin
    obtain ⟨entry, hent, hequal⟩ := List.mem_map.mp hin
    obtain ⟨hold, hne⟩ := mem_otherUpdates.mp hent
    have hsame := List.inj_on_of_nodup_map hsound.targets hold hmem hequal
    exact hne (congrArg Prod.fst hsame)

/-- What a step does to the accounts and the requests which have locked them. -/
inductive UserEffect (before : OrganizationUsers) :
    UserAction → OrganizationUsers → Prop
  | dropped (action : UserAction) (updates : List (ℕ × PendingUpdate))
      (memberships : List (ℕ × PendingMembership))
      (hupdates : updates.Sublist before.updates) (hspares : before.Spares action) :
      UserEffect before action ⟨before.users, updates, memberships⟩
  | opened (worker : ℕ) (update : UserUpdate)
      (hworker : worker ∉ before.updates.map Prod.fst)
      (hfree : before.locked update.accountId = false) :
      UserEffect before (.update worker update)
        { before with updates := (worker, ⟨update, false⟩) :: before.updates }
  | passed (worker : ℕ) (update : UserUpdate) (user : LocalUser)
      (hmem : (worker, ⟨update, false⟩) ∈ before.updates) (huser : user ∈ before.users)
      (hid : user.accountId = update.accountId)
      (hspares : before.Spares (.check worker) ↔ (update.guarded user = true →
        ∃ other, before.Kept other ∧ other.accountId ≠ user.accountId)) :
      UserEffect before (.check worker)
        { before with
          updates := (worker, ⟨update, true⟩) :: before.otherUpdates worker }
  | committed (worker : ℕ) (update : UserUpdate) (user : LocalUser)
      (hmem : (worker, ⟨update, true⟩) ∈ before.updates) (huser : user ∈ before.users)
      (hid : user.accountId = update.accountId) :
      UserEffect before (.commit worker)
        { before with
          users := before.setUser (update.apply user)
          updates := before.otherUpdates worker }
  | provisioned (worker : ℕ) (user : LocalUser) (pending : PendingMembership)
      (memberships : List (ℕ × PendingMembership)) (huser : user ∈ before.users)
      (hfree : before.locked user.accountId = false)
      (hspares : before.Spares (.provision worker) ↔
        (user.activeAdministrator = true → Role.administrator ∉ pending.roles →
          ∃ other, before.Kept other ∧ other.accountId ≠ user.accountId)) :
      UserEffect before (.provision worker)
        { before with
          users := before.setUser (user.provisioned pending.loadedActive pending.roles)
          memberships }

theorem step_effect (hstep : before.step action = some after) :
    UserEffect before action after := by
  cases action with
  | update worker update =>
    simp only [step] at hstep
    split_ifs at hstep with hrefused
    simp only [Bool.or_eq_true, not_or, Bool.not_eq_true] at hrefused
    split at hstep
    next user _ =>
      split_ifs at hstep
      cases hstep
      refine .opened worker update ?_ hrefused.1.2
      intro hin
      obtain ⟨entry, hent, rfl⟩ := List.mem_map.mp hin
      have hnone := hrefused.1.1
      unfold updateOf at hnone
      rw [Option.isSome_map, Option.isSome_eq_false_iff, Option.isNone_iff_eq_none,
        List.find?_eq_none] at hnone
      exact hnone entry hent (by simp)
    next => cases hstep
  | check worker =>
    simp only [step] at hstep
    split at hstep
    next update hfound =>
      split at hstep
      next user huser =>
        obtain ⟨hmem, hid⟩ := userOf_eq_some huser
        have hspares : before.Spares (.check worker) ↔
            (update.guarded user = true → 1 < before.activeAdminCount →
              ∃ other, before.Kept other ∧ other.accountId ≠ user.accountId) := by
          simp [Spares, hfound, huser]
        split_ifs at hstep with hlast
        · cases hstep
          refine .dropped _ _ _ List.filter_sublist ?_
          rw [hspares]
          intro _ hmore
          simp only [Bool.and_eq_true, decide_eq_true_eq] at hlast
          omega
        · cases hstep
          refine .passed worker update user (updateOf_eq_some hfound) hmem hid ?_
          rw [hspares]
          refine forall_congr' fun hguarded => ?_
          simp only [hguarded, Bool.true_and, decide_eq_true_eq, not_le] at hlast
          exact ⟨fun hother => hother hlast, fun hother _ => hother⟩
      next => cases hstep
    next => cases hstep
  | commit worker =>
    simp only [step] at hstep
    split at hstep
    next update hfound =>
      split at hstep
      next user huser =>
        cases hstep
        obtain ⟨hmem, hid⟩ := userOf_eq_some huser
        exact .committed worker update user (updateOf_eq_some hfound) hmem hid
      next => cases hstep
    next => cases hstep
  | abort worker =>
    cases hstep
    exact .dropped _ _ _ List.filter_sublist trivial
  | readIdentity worker accountId roles =>
    simp only [step] at hstep
    split_ifs at hstep
    rw [Option.map_eq_some_iff] at hstep
    obtain ⟨user, _, rfl⟩ := hstep
    exact .dropped _ _ _ (List.Sublist.refl _) trivial
  | provision worker =>
    simp only [step] at hstep
    split at hstep
    next pending hfound =>
      split_ifs at hstep with hlocked
      rw [Option.map_eq_some_iff] at hstep
      obtain ⟨user, huser, rfl⟩ := hstep
      obtain ⟨hmem, hid⟩ := userOf_eq_some huser
      rw [Bool.not_eq_true, ← hid] at hlocked
      refine .provisioned worker user pending _ hmem hlocked ?_
      simp [Spares, hfound, huser]
    next => cases hstep

theorem Sound.step (hsound : before.Sound) (hstep : before.step action = some after) :
    after.Sound := by
  have husers : ∀ next : LocalUser, ((before.setUser next).map LocalUser.accountId).Nodup := by
    intro next
    unfold setUser
    rw [keys_replaceRow]
    exact hsound.users
  cases step_effect hstep with
  | dropped action updates memberships hupdates =>
    exact ⟨hsound.users, hsound.workers.sublist (hupdates.map _),
      hsound.targets.sublist (hupdates.map _)⟩
  | opened worker update hworker hfree =>
    refine ⟨hsound.users, List.nodup_cons.mpr ⟨hworker, hsound.workers⟩,
      List.nodup_cons.mpr ⟨?_, hsound.targets⟩⟩
    intro hin
    obtain ⟨entry, hent, hequal⟩ := List.mem_map.mp hin
    unfold locked at hfree
    rw [List.any_eq_false] at hfree
    exact hfree entry hent (decide_eq_true hequal)
  | passed worker update user hmem =>
    obtain ⟨hworkers, htargets⟩ := hsound.again hmem
    exact ⟨hsound.users, hworkers, htargets⟩
  | committed worker update user =>
    obtain ⟨hworkers, htargets⟩ := @Sound.others before worker hsound
    exact ⟨husers _, hworkers, htargets⟩
  | provisioned worker user pending memberships =>
    exact ⟨husers _, hsound.workers, hsound.targets⟩

/-! ## The administrators who are left -/

/-- Some active administrator is taken away by no request past the guard. -/
def Reserved (system : OrganizationUsers) : Prop := ∃ user, system.Kept user

theorem mem_setUser {user next : LocalUser} (huser : user ∈ before.users)
    (hid : next.accountId = user.accountId) {other : LocalUser} :
    other ∈ before.setUser next ↔
      other = next ∨ other ∈ before.users ∧ other.accountId ≠ user.accountId := by
  unfold setUser
  rw [mem_replaceRow, hid]
  constructor
  · rintro (⟨hnew, _⟩ | hold)
    · exact .inl hnew
    · exact .inr hold
  · rintro (hnew | hold)
    · exact .inl ⟨hnew, user, huser, rfl⟩
    · exact .inr hold

variable {memberships : List (ℕ × PendingMembership)}
  {updates : List (ℕ × PendingUpdate)}

theorem Kept.of_updates {user : LocalUser} (hkept : before.Kept user)
    (hupdates : ∀ entry ∈ updates, entry.2.checked = true →
      entry.2.update.accountId = user.accountId → entry ∈ before.updates) :
    Kept ⟨before.users, updates, memberships⟩ user := by
  obtain ⟨hmem, hact, hfree⟩ := hkept
  refine ⟨hmem, hact, ?_⟩
  rintro ⟨entry, hent, hchecked, htarget, htaken⟩
  exact hfree ⟨entry, hupdates entry hent hchecked htarget, hchecked, htarget, htaken⟩

theorem Kept.of_setUser {user next other : LocalUser} (hkept : before.Kept other)
    (huser : user ∈ before.users) (hid : next.accountId = user.accountId)
    (hne : other.accountId ≠ user.accountId)
    (hupdates : ∀ entry ∈ updates, entry ∈ before.updates) :
    Kept ⟨before.setUser next, updates, memberships⟩ other := by
  obtain ⟨hmem, hact, hfree⟩ := hkept
  refine ⟨(mem_setUser huser hid).mpr (.inr ⟨hmem, hne⟩), hact, ?_⟩
  rintro ⟨entry, hent, hchecked, htarget, found, hfound, hsame, hguarded⟩
  rcases (mem_setUser huser hid).mp hfound with rfl | ⟨hold, _⟩
  · exact hne (hsame.symm.trans hid)
  · exact hfree ⟨entry, hupdates entry hent, hchecked, htarget, found, hold, hsame, hguarded⟩

theorem reserved_passed (hsound : before.Sound) (hreserved : before.Reserved)
    {update : UserUpdate} {user : LocalUser}
    (hmem : (worker, ⟨update, false⟩) ∈ before.updates) (huser : user ∈ before.users)
    (hid : user.accountId = update.accountId) :
    (update.guarded user = true →
      ∃ other, before.Kept other ∧ other.accountId ≠ user.accountId) ↔
    Reserved { before with
      updates := (worker, ⟨update, true⟩) :: before.otherUpdates worker } := by
  constructor
  · intro hspares
    by_cases hguarded : update.guarded user = true
    · obtain ⟨other, hkept, hne⟩ := hspares hguarded
      refine ⟨other, hkept.of_updates ?_⟩
      intro entry hent _ htarget
      rcases List.mem_cons.mp hent with rfl | hold
      · exact absurd (htarget.symm.trans hid.symm) hne
      · exact (mem_otherUpdates.mp hold).1
    · obtain ⟨other, hkept⟩ := hreserved
      refine ⟨other, hkept.1, hkept.2.1, ?_⟩
      rintro ⟨entry, hent, hchecked, htarget, htaken⟩
      rcases List.mem_cons.mp hent with rfl | hold
      · obtain ⟨found, hfound, hsame, htakes⟩ := htaken
        rw [row_eq_of_key hsound.users hfound huser
          (hsame.trans (htarget.symm.trans hid.symm))] at htakes
        exact hguarded htakes
      · exact hkept.2.2 ⟨entry, (mem_otherUpdates.mp hold).1, hchecked, htarget, htaken⟩
  · rintro ⟨other, hother, hact, hfree⟩ hguarded
    refine ⟨other, ⟨hother, hact, ?_⟩, ?_⟩
    · rintro ⟨entry, hent, hchecked, htaken⟩
      refine hfree ⟨entry, List.mem_cons_of_mem _ (mem_otherUpdates.mpr ⟨hent, ?_⟩),
        hchecked, htaken⟩
      intro hworker
      have hsame := List.inj_on_of_nodup_map hsound.workers hent hmem hworker
      rw [hsame] at hchecked
      cases hchecked
    · intro hsame
      refine hfree ⟨_, List.mem_cons_self, rfl, hid.symm.trans hsame.symm, user, huser,
        hsame.symm, hguarded⟩

theorem reserved_committed (hsound : before.Sound) (hreserved : before.Reserved)
    {update : UserUpdate} {user : LocalUser}
    (hmem : (worker, ⟨update, true⟩) ∈ before.updates) (huser : user ∈ before.users)
    (hid : user.accountId = update.accountId) :
    Reserved { before with
      users := before.setUser (update.apply user)
      updates := before.otherUpdates worker } := by
  obtain ⟨other, hkept⟩ := hreserved
  by_cases hsame : other.accountId = user.accountId
  · have hequal := row_eq_of_key hsound.users hkept.1 huser hsame
    subst hequal
    have hguarded : update.guarded other = false := by
      by_contra htakes
      exact hkept.2.2 ⟨_, hmem, rfl, hid.symm, other, huser, rfl, by simpa using htakes⟩
    refine ⟨update.apply other, (mem_setUser huser apply_accountId).mpr (.inl rfl), ?_, ?_⟩
    · rw [apply_administrator hkept.2.1, hguarded]
      rfl
    · rintro ⟨entry, hent, _, htarget, _⟩
      obtain ⟨hold, hne⟩ := mem_otherUpdates.mp hent
      rw [apply_accountId, hid] at htarget
      exact hne (congrArg Prod.fst (List.inj_on_of_nodup_map hsound.targets hold hmem htarget))
  · exact ⟨other, hkept.of_setUser huser apply_accountId hsame
      fun entry hent => (mem_otherUpdates.mp hent).1⟩

theorem reserved_provisioned (hsound : before.Sound) (hreserved : before.Reserved)
    {user : LocalUser} {pending : PendingMembership} (huser : user ∈ before.users)
    (hfree : before.locked user.accountId = false) :
    (user.activeAdministrator = true → Role.administrator ∉ pending.roles →
      ∃ other, before.Kept other ∧ other.accountId ≠ user.accountId) ↔
    Reserved { before with
      users := before.setUser (user.provisioned pending.loadedActive pending.roles)
      memberships } := by
  have hkey : (user.provisioned pending.loadedActive pending.roles).accountId =
      user.accountId := rfl
  have huntaken : ∀ system : OrganizationUsers, system.updates = before.updates →
      ¬ system.Taken user.accountId := by
    rintro system hupdates ⟨entry, hent, _, htarget, _⟩
    unfold locked at hfree
    rw [List.any_eq_false] at hfree
    rw [hupdates] at hent
    exact hfree entry hent (decide_eq_true htarget)
  constructor
  · intro hspares
    obtain ⟨other, hkept⟩ := hreserved
    by_cases hsame : other.accountId = user.accountId
    · have hequal := row_eq_of_key hsound.users hkept.1 huser hsame
      subst hequal
      by_cases hroles : Role.administrator ∈ pending.roles
      · exact ⟨_, (mem_setUser huser hkey).mpr (.inl rfl),
          provisioned_administrator hkept.2.1 hroles, huntaken _ rfl⟩
      · obtain ⟨another, hanother, hne⟩ := hspares hkept.2.1 hroles
        exact ⟨another, hanother.of_setUser huser hkey hne fun _ hent => hent⟩
    · exact ⟨other, hkept.of_setUser huser hkey hsame fun _ hent => hent⟩
  · rintro ⟨other, hother, hact, hleft⟩ _ hroles
    rcases (mem_setUser huser hkey).mp hother with rfl | ⟨hold, hne⟩
    · rw [provisioned_not_administrator hroles] at hact
      cases hact
    · refine ⟨other, ⟨hold, hact, ?_⟩, hne⟩
      rintro ⟨entry, hent, hchecked, htarget, found, hfound, hsame, hguarded⟩
      refine hleft ⟨entry, hent, hchecked, htarget, found,
        (mem_setUser huser hkey).mpr (.inr ⟨hfound, ?_⟩), hsame, hguarded⟩
      rw [hsame]
      exact hne

theorem spares_iff (hsound : before.Sound) (hreserved : before.Reserved)
    (hstep : before.step action = some after) :
    before.Spares action ↔ after.Reserved := by
  cases step_effect hstep with
  | dropped action updates memberships hupdates hspares =>
    refine iff_of_true hspares ?_
    obtain ⟨other, hkept⟩ := hreserved
    exact ⟨other, hkept.of_updates fun _ hent _ _ => hupdates.subset hent⟩
  | opened worker update =>
    refine iff_of_true trivial ?_
    obtain ⟨other, hkept⟩ := hreserved
    refine ⟨other, hkept.of_updates ?_⟩
    intro entry hent hchecked _
    rcases List.mem_cons.mp hent with rfl | hold
    · cases hchecked
    · exact hold
  | passed worker update user hmem huser hid hspares =>
    exact hspares.trans (reserved_passed hsound hreserved hmem huser hid)
  | committed worker update user hmem huser hid =>
    exact iff_of_true trivial (reserved_committed hsound hreserved hmem huser hid)
  | provisioned worker user pending memberships huser hfree hspares =>
    exact hspares.trans (reserved_provisioned hsound hreserved huser hfree)

theorem Reserved.hasAdministrator (hreserved : before.Reserved) :
    before.HasAdministrator := by
  obtain ⟨user, hmem, hact, _⟩ := hreserved
  exact ⟨user, hmem, hact⟩

def CommitsOnly (_system : OrganizationUsers) (action : UserAction) : Prop :=
  ∃ worker, action = .commit worker

theorem Reserved.of_commits (hsound : before.Sound) (hreserved : before.Reserved)
    (hreach : Reaches step CommitsOnly before after) : after.HasAdministrator := by
  have hboth : after.Sound ∧ after.Reserved := by
    refine hreach.invariant (P := fun system => system.Sound ∧ system.Reserved) ?_
      ⟨hsound, hreserved⟩
    rintro system action next ⟨hsystem, hkept⟩ ⟨worker, rfl⟩ hstep
    exact ⟨hsystem.step hstep, (spares_iff hsystem hkept hstep).mp trivial⟩
  exact hboth.2.hasAdministrator

theorem not_reserved_committed (hsound : before.Sound) (hnone : ¬ before.Reserved)
    {update : UserUpdate} {user : LocalUser}
    (hmem : (worker, ⟨update, true⟩) ∈ before.updates) (huser : user ∈ before.users)
    (hid : user.accountId = update.accountId) (hguarded : update.guarded user = true) :
    ¬ Reserved { before with
      users := before.setUser (update.apply user)
      updates := before.otherUpdates worker } := by
  rintro ⟨other, hother, hact, hfree⟩
  rcases (mem_setUser huser apply_accountId).mp hother with rfl | ⟨hold, hne⟩
  · rw [apply_administrator (administrator_of_guarded hguarded), hguarded] at hact
    cases hact
  · refine hnone ⟨other, hold, hact, ?_⟩
    rintro ⟨entry, hent, hchecked, htarget, found, hfound, hsame, htakes⟩
    refine hfree ⟨entry, mem_otherUpdates.mpr ⟨hent, ?_⟩, hchecked, htarget, found,
      (mem_setUser huser apply_accountId).mpr (.inr ⟨hfound, hsame.trans_ne hne⟩), hsame,
      htakes⟩
    intro hworker
    have hequal := List.inj_on_of_nodup_map hsound.workers hent hmem hworker
    rw [hequal] at htarget
    exact hne (htarget.symm.trans hid.symm)

theorem exists_no_administrator (hsound : before.Sound) (hnone : ¬ before.Reserved) :
    ∃ last, Reaches step CommitsOnly before last ∧ ¬ last.HasAdministrator := by
  generalize hlen : before.updates.length = length
  induction length using Nat.strong_induction_on generalizing before with
  | _ length ih =>
    by_cases hadministrator : before.HasAdministrator
    · obtain ⟨user, huser, hact⟩ := hadministrator
      have htaken : before.Taken user.accountId := by
        by_contra hfree
        exact hnone ⟨user, huser, hact, hfree⟩
      obtain ⟨⟨worker, update, checked⟩, hent, hchecked, htarget, found, hfound,
        hsame, hguarded⟩ := htaken
      dsimp only at hchecked htarget hguarded
      subst hchecked
      have hequal := row_eq_of_key hsound.users hfound huser hsame
      subst hequal
      have hupdate : before.updateOf worker = some ⟨update, true⟩ := by
        unfold updateOf
        rw [find?_eq_some_of_unique hent (by simp)]
        · rfl
        · intro other hother hworker
          exact List.inj_on_of_nodup_map hsound.workers hother hent (by simpa using hworker)
      have huserOf : before.userOf update.accountId = some found :=
        find?_eq_some_of_unique huser (by simpa using htarget.symm)
          fun other hother hid => row_eq_of_key hsound.users hother huser
            (by simpa [htarget] using hid)
      have hstep : before.step (.commit worker) = some { before with
          users := before.setUser (update.apply found)
          updates := before.otherUpdates worker } := by
        simp only [step, hupdate, huserOf]
      have hshorter : (before.otherUpdates worker).length < length := by
        rw [← hlen]
        exact List.length_filter_lt_length_iff_exists.mpr
          ⟨_, hent, by simp⟩
      obtain ⟨last, hreach, hlast⟩ := ih _ hshorter (hsound.step hstep)
        (not_reserved_committed hsound hnone hent huser htarget.symm hguarded) rfl
      exact ⟨last, (Reaches.single ⟨worker, rfl⟩ hstep).trans hreach, hlast⟩
    · exact ⟨before, .refl before, hadministrator⟩

end OrganizationUsers

/-- In every run whose steps spare an administrator the organization has an active
one, and a step spares one exactly when the commits of the requests past the guard
leave one. -/
theorem administrator_kept_iff {users : List LocalUser}
    (hkeyed : (users.map LocalUser.accountId).Nodup)
    (hadministrator : ∃ user ∈ users, user.activeAdministrator = true)
    {system : OrganizationUsers}
    (hreach : Reaches OrganizationUsers.step OrganizationUsers.Spares ⟨users, [], []⟩
      system) :
    system.HasAdministrator ∧
      ∀ action after, system.step action = some after →
        (system.Spares action ↔
          ∀ last, Reaches OrganizationUsers.step OrganizationUsers.CommitsOnly after
            last → last.HasAdministrator) := by
  have hboth : system.Sound ∧ system.Reserved := by
    refine hreach.invariant (P := fun system => system.Sound ∧ system.Reserved) ?_ ?_
    · rintro before action after ⟨hsound, hreserved⟩ hspares hstep
      exact ⟨hsound.step hstep,
        (OrganizationUsers.spares_iff hsound hreserved hstep).mp hspares⟩
    · obtain ⟨user, huser, hact⟩ := hadministrator
      refine ⟨⟨hkeyed, List.nodup_nil, List.nodup_nil⟩, user, huser, hact, ?_⟩
      rintro ⟨entry, hent, _⟩
      cases hent
  obtain ⟨hsound, hreserved⟩ := hboth
  refine ⟨hreserved.hasAdministrator, ?_⟩
  intro action after hstep
  rw [OrganizationUsers.spares_iff hsound hreserved hstep]
  constructor
  · exact fun hleft last hcommits => hleft.of_commits (hsound.step hstep) hcommits
  · intro hall
    by_contra hnone
    obtain ⟨last, hcommits, hlast⟩ :=
      OrganizationUsers.exists_no_administrator (hsound.step hstep) hnone
    exact hlast (hall last hcommits)

def twoAdministrators : List LocalUser :=
  [⟨"anna", true, true, some ⟨true, [.administrator]⟩⟩,
   ⟨"bohdan", true, true, some ⟨true, [.administrator]⟩⟩]

def demoteOne : List UserAction :=
  [.update 1 ⟨"anna", some .engineer, none⟩, .check 1, .commit 1]

theorem administrator_kept_demoted :
    ∃ system, runFrom OrganizationUsers.step ⟨twoAdministrators, [], []⟩
        demoteOne = some system ∧ system.HasAdministrator ∧
      ∀ action after, system.step action = some after →
        (system.Spares action ↔
          ∀ last, Reaches OrganizationUsers.step OrganizationUsers.CommitsOnly after
            last → last.HasAdministrator) := by
  have hrun : (runFrom OrganizationUsers.step ⟨twoAdministrators, [], []⟩
      demoteOne).isSome = true := by
    decide +kernel
  obtain ⟨system, hsystem⟩ := Option.isSome_iff_exists.mp hrun
  have hmeet : StepsMeet OrganizationUsers.step OrganizationUsers.Spares
      ⟨twoAdministrators, [], []⟩ demoteOne := by
    decide +kernel
  exact ⟨system, hsystem, administrator_kept_iff (by decide) (by decide)
    (.of_stepsMeet hmeet hsystem)⟩

def demoteBoth : List UserAction :=
  [.update 1 ⟨"anna", some .engineer, none⟩,
   .update 2 ⟨"bohdan", some .engineer, none⟩, .check 1, .check 2, .commit 1, .commit 2]

theorem administrator_lost :
    ¬ ∀ (users : List LocalUser) (system : OrganizationUsers),
      (users.map LocalUser.accountId).Nodup →
      (∃ user ∈ users, user.activeAdministrator = true) →
      Reaches OrganizationUsers.step (fun _ _ => True) ⟨users, [], []⟩ system →
      system.HasAdministrator := by
  intro hclaim
  have hrun : ∃ system ∈ runFrom OrganizationUsers.step ⟨twoAdministrators, [], []⟩
      demoteBoth, ∀ user ∈ system.users, user.activeAdministrator = false := by
    decide +kernel
  obtain ⟨system, hsystem, hnone⟩ := hrun
  obtain ⟨user, huser, hact⟩ := hclaim twoAdministrators system (by decide)
    (by decide) (.of_runFrom (fun _ _ _ => trivial) hsystem)
  rw [hnone user huser] at hact
  cases hact

end Nexolab
