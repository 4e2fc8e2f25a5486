import GShare.Model.Access.Portal
import GShare.Soundness.Reactivation

/-! # Frozen accounts at the login and behind a token

The cascade sets an account inactive, and neither the login nor the resolution of a principal looks for that
status. A frozen account is kept out if and only if something else does so.
-/

namespace GShare.Model.Portal

open Machine Tenants

variable {portal : Portal} {user : UserId} {row : User}

/-- The event does not let in the user while a deactivation has frozen the account. -/
def Refuses (user : UserId) (portal : Portal) (event : PortalEvent) : Prop :=
  ∀ row ∈ portal.tenants.users user, row.isFrozen →
    match event with
    | .login email password withinRate => portal.login email password withinRate ≠ .ok user
    | .request worker claims mono now =>
      claims.sub = user → (portal.resolvePrincipal worker claims mono now).toOption = none
    | _ => True

/-- A login for a frozen account is one that the settings, the rate limits or the credentials refuse, or the
account is deleted; and so it is at a request, which finds nothing in the cache. -/
def Barred (user : UserId) (portal : Portal) (event : PortalEvent) : Prop :=
  ∀ row ∈ portal.tenants.users user, row.isFrozen →
    match event with
    | .login email password withinRate =>
      ¬(portal.allowLocalPassword ∧ withinRate ∧ portal.byEmail email = some user ∧
        row.deleted = false ∧ row.passwordHash.any (portal.verify password))
    | .request worker claims mono _ =>
      claims.sub = user → portal.cached worker claims mono = none ∧ row.deleted
    | _ => True

theorem login_eq_ok_iff {email password : String} {withinRate : Bool}
    (found : portal.tenants.users user = some row) :
    portal.login email password withinRate = .ok user ↔ portal.allowLocalPassword ∧ withinRate ∧
      portal.byEmail email = some user ∧ row.refusal (portal.verify password) = none := by
  rw [login]
  cases portal.allowLocalPassword
  · simp
  cases withinRate
  · simp
  cases portal.byEmail email with
  | none => simp
  | some id =>
    by_cases same : id = user
    · subst same
      cases refused : row.refusal (portal.verify password) <;> simp [found, refused]
    · cases users : portal.tenants.users id with
      | none => simp [users, same]
      | some other => cases refused : other.refusal (portal.verify password) <;> simp [users, refused, same]

theorem refusal_eq_none_iff {verify : String → Bool} (frozen : row.isFrozen) :
    row.refusal verify = none ↔ row.deleted = false ∧ row.passwordHash.any verify := by
  have inactive := User.status_of_isFrozen frozen
  cases deleted : row.deleted <;> cases hash : row.passwordHash <;> simp [User.refusal, inactive, deleted, hash]

theorem resolvePrincipal_eq_none_iff {worker : ℕ} {claims : Rbac.Claims} {mono now : ℤ}
    (found : portal.tenants.users claims.sub = some row) (frozen : row.isFrozen) :
    (portal.resolvePrincipal worker claims mono now).toOption = none ↔
      portal.cached worker claims mono = none ∧ row.deleted := by
  have inactive := User.status_of_isFrozen frozen
  rw [resolvePrincipal]
  cases portal.cached worker claims mono with
  | some principal => simp [Except.toOption]
  | none =>
    rw [Rbac.Directory.resolvePrincipal]
    cases deleted : row.deleted <;> simp [directory, found, inactive, deleted, Except.toOption]

/-- Along every sequence of logins, requests, deactivations and reactivations, a user is let in at no moment
at which the account is frozen, if and only if something else bars the account at each of these moments. -/
theorem frozen_refused_iff (user : UserId) (first last : Portal) (events : List PortalEvent) :
    Run step (Refuses user) first events last ↔ Run step (Barred user) first events last := by
  have each : ∀ portal event, Refuses user portal event ↔ Barred user portal event := by
    intro portal event
    refine forall₂_congr fun row found => forall_congr' fun frozen => ?_
    cases event with
    | login => exact not_congr (by rw [login_eq_ok_iff found, refusal_eq_none_iff frozen])
    | request worker claims =>
      refine forall_congr' fun own => ?_
      subst own
      exact resolvePrincipal_eq_none_iff found frozen
    | organization | project => rfl
  exact ⟨fun run => run.mono fun portal event => (each portal event).mp,
    fun run => run.mono fun portal event => (each portal event).mpr⟩

/-- The portal of a company where a password is right if it is the stored text. -/
def frontDoor : Portal where
  tenants := company .active
  allowLocalPassword := true
  verify password hash := password == hash
  byEmail email := if email = "user@company" then some 0 else none
  profile _ := ⟨false, false, none, [], false⟩
  rows := ⟨fun _ => none, [⟨0, some 1, none, .member, none⟩], List.pairwise_singleton .., .empty _⟩
  cache _ := []

/-- The organization becomes inactive, and its frozen user logs in and gets a principal. -/
theorem frozen_user_logs_in : ∃ last,
    Run step (fun _ _ => True) frontDoor [.organization platformOwner 0 .inactive] last ∧
    (last.tenants.users 0).any User.isFrozen ∧ last.login "user@company" "$2b$12$" true = .ok 0 ∧
    (last.resolvePrincipal 0 ⟨0, none, none, []⟩ 0 0).toOption.isSome :=
  ⟨_, .cons trivial rfl (.nil _), by decide, by decide, by decide⟩

end GShare.Model.Portal
