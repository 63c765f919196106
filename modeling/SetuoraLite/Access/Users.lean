import SetuoraLite.Access.RoleAccess
import SetuoraLite.Lib.Machine
import SetuoraLite.Store.Writes

/-!
# User accounts

The requests of the users page and of the role-access page as a machine on the
users table. Who may send a request is decided anew for each one: by the account of
the session, by its role text and by the access matrix in the settings.

Two of the requests ask for the configurable right `users_manage`, three for the role
super admin. Nothing in the first two looks at whom they touch: a holder of the right
who is no super admin can create one, and can switch one off. `Escalates` says when a
request is such a one; `super_admins_kept` is what holds of every run without them.
-/

namespace SetuoraLite

open Lib

/-! ## Accounts -/

/-- A row of the users table. -/
structure UserAccount extends User where
  passwordHash : PyStr
  role : PyStr
  active : Bool
  mustChangePassword : Bool
  sessionVersion : Nat
  deletedAt : Option Instant
deriving DecidableEq

/-- The accounts beside the tables that name a user. `labelPrintedBy`, `confirmedBy` and
`assignedBy` are the user columns of serials, of Tally confirmations and of audit
assignments that the other tables do not hold. -/
structure AccountDb where
  db : Db
  users : List UserAccount
  labelPrintedBy : List Nat
  confirmedBy : List Nat
  assignedBy : List Nat

/-- `db.get(User, id)`. -/
def AccountDb.user (s : AccountDb) (id : Nat) : Option UserAccount := lookup (·.id) id s.users

def UserAccount.isSuperAdmin (user : UserAccount) : Bool := hasRole user.role .superAdmin

/-- The account can sign in. -/
def UserAccount.inService (user : UserAccount) : Bool := user.active && user.deletedAt.isNone

/-! ## Guards -/

/-- The `HTTPException`s of the guards: to the sign-in page, to the page for a new
password, and status 403. `unreadable` is status 500: the access matrix nests too deep. -/
inductive Refusal
  | login | passwordChange | forbidden | unreadable
deriving DecidableEq

/-- `current_user`, on the claims of the session cookie: the user id and the session version. -/
def currentUser (s : AccountDb) (claims : Option (Nat × Nat)) : Option UserAccount :=
  claims.bind fun claim =>
    match s.user claim.1 with
    | some user =>
      if user.inService = true ∧ user.sessionVersion = claim.2 then some user else none
    | none => none

/-- `require_user`, on a path that a forced password change blocks; the user comes with the
access matrix. -/
def requireUser (rt : Runtime) (s : AccountDb) (claims : Option (Nat × Nat)) (roles : List Role) :
    Except Refusal (UserAccount × AccessConfig) :=
  match currentUser s claims with
  | none => .error .login
  | some user =>
    if user.mustChangePassword = true then .error .passwordChange
    else if normalizeRoleValues [user.role] = [] then .error .forbidden
    else if roles ≠ [] ∧ hasAnyRole user.role roles = false then .error .forbidden
    else
      match getRoleAccessConfig rt s.db.settings with
      | .error _ => .error .unreadable
      | .ok config => .ok (user, config)

/-- `require_permission`. -/
def requirePermission (rt : Runtime) (s : AccountDb) (claims : Option (Nat × Nat))
    (accessKey : PyStr) :
    Except Refusal UserAccount :=
  match requireUser rt s claims [] with
  | .error refusal => .error refusal
  | .ok (user, config) =>
    if configuredRoleHasAccess config user.role accessKey = true then .ok user
    else .error .forbidden

/-! ## Passwords -/

def minPasswordLength : Nat := 12

def maxPasswordLength : Nat := 1024

/-- `password_policy_error`. -/
def passwordPolicyError (password : PyStr) : Option PyStr :=
  if password.length < minPasswordLength then some (py "Password must be at least 12 characters.")
  else if maxPasswordLength < password.length then
    some (py "Password must be at most 1024 characters.")
  else none

/-- The error code of a password that the policy refuses. -/
def passwordErrorCode (password : PyStr) : PyStr :=
  if password.length < minPasswordLength then py "password_too_short" else py "password_too_long"

/-! ## Requests -/

/-- A request, with what the server draws for it: the salt of a password hash, the time
of a deletion. -/
inductive UserRequest
  | create (username password : PyStr) (role : List PyStr) (salt : PyStr)
  | toggle (userId : Nat)
  | resetPassword (userId : Nat) (newPassword confirmPassword : PyStr) (forceChange : Option PyStr)
    (salt : PyStr)
  | delete (userId : Nat) (now : Instant)
  | saveAccess (form : List (PyStr × PyStr))
deriving DecidableEq

/-- A request and the session it was sent in. -/
structure Submission where
  claims : Option (Nat × Nat)
  request : UserRequest
deriving DecidableEq

/-- What the browser gets; `failed` is status 500. -/
inductive UserResponse
  | redirect (location : PyStr)
  | usernameExists
  | refused (refusal : Refusal)
  | failed
deriving DecidableEq

section Requests

-- `hash_password` with its salt.
variable (hashPassword : PyStr → PyStr → PyStr)

/-- Write back one account. -/
def AccountDb.update (s : AccountDb) (id : Nat) (change : UserAccount → UserAccount) : AccountDb :=
  { s with users := modifyRow (·.id) id change s.users }

def usersPage : PyStr := py "/users"

/-- `/users?error=code`. -/
def usersError (code : PyStr) : UserResponse := .redirect (py "/users?error=" ++ code)

/-- `username.strip().lower()`. -/
def normalizedUsername (rt : Runtime) (username : PyStr) : PyStr := rt.lower (strip username)

/-- The database takes a new account of this name: the text can be stored and is new. -/
def usernameFree (s : AccountDb) (username : PyStr) : Bool :=
  encodable [username] && !s.users.any fun user => user.username = username

/-- The row of a new account. -/
def newAccount (s : AccountDb) (username passwordHash role : PyStr) : UserAccount where
  id := nextId (·.id) s.users
  username := username
  passwordHash := passwordHash
  role := role
  active := true
  -- The administrator chose this password, so the user replaces it on first sign-in.
  mustChangePassword := true
  sessionVersion := 0
  deletedAt := none

/-- `create_user` after its guard. -/
def createUser (rt : Runtime) (s : AccountDb) (username password : PyStr) (role : List PyStr)
    (salt : PyStr) : UserResponse × AccountDb :=
  let normalized := normalizedUsername rt username
  if normalized = [] ∨ 80 < normalized.length then (usersError (py "username_invalid"), s)
  else if (passwordPolicyError password).isSome = true
    then (usersError (passwordErrorCode password), s)
  else
    let roleValue := serializeRoleValues role
    if roleValue = [] then (usersError (py "role_required"), s)
    -- `password.encode()` of a lone surrogate is no part of the commit's `try`.
    else if encodable [password] = false then (.failed, s)
    else if usernameFree s normalized = false then (.usernameExists, s)
    else
      (.redirect usersPage,
        { s with
          users := s.users ++ [newAccount s normalized (hashPassword salt password) roleValue] })

/-- `toggle_user` after its guard. -/
def toggleUser (s : AccountDb) (current : UserAccount) (userId : Nat) : UserResponse × AccountDb :=
  match s.user userId with
  | some target =>
    if target.id ≠ current.id ∧ target.deletedAt = none then
      (.redirect usersPage, s.update userId fun user =>
        { user with active := !user.active, sessionVersion := user.sessionVersion + 1 })
    else (.redirect usersPage, s)
  | none => (.redirect usersPage, s)

/-- `reset_user_password` after its guard. -/
def resetUserPassword (s : AccountDb) (current : UserAccount) (userId : Nat)
    (newPassword confirmPassword : PyStr) (forceChange : Option PyStr) (salt : PyStr) :
    UserResponse × AccountDb :=
  match s.user userId with
  | none => (usersError (py "user_not_found"), s)
  | some target =>
    if target.deletedAt ≠ none then (usersError (py "user_not_found"), s)
    else if target.id = current.id then (usersError (py "password_reset_self"), s)
    else if (passwordPolicyError newPassword).isSome = true then
      (usersError (passwordErrorCode newPassword), s)
    else if newPassword ≠ confirmPassword then (usersError (py "password_mismatch"), s)
    else if encodable [newPassword] = false then (.failed, s)
    else
      (.redirect (py "/users?success=password_reset"), s.update userId fun user =>
        { user with
          passwordHash := hashPassword salt newPassword
          mustChangePassword := decide (forceChange = some (py "true"))
          sessionVersion := user.sessionVersion + 1 })

/-- The rows that `delete_user` counts. -/
def referenceCount (s : AccountDb) (userId : Nat) : Nat :=
  (s.db.batches.filter fun batch => batch.userId = userId).length +
    (s.db.transactions.filter fun row => row.userId = userId).length +
    (s.db.scanLogs.filter fun log => log.userId = userId).length +
    (s.labelPrintedBy.filter fun id => id = userId).length +
    (s.confirmedBy.filter fun id => id = userId).length +
    (s.db.relocations.filter fun row => row.userId = userId).length

/-- A foreign key that `delete_user` does not count holds the account. -/
def heldElsewhere (s : AccountDb) (userId : Nat) : Bool :=
  (s.db.batchItems.any fun item => item.shelfVerifiedById = some userId) ||
    (s.db.transfers.any fun transfer => transfer.createdById = some userId) ||
    (s.db.assignments.any fun assignment => assignment.auditorId = userId) ||
    s.assignedBy.contains userId

/-- `delete_user` after its guard. -/
def deleteUser (s : AccountDb) (current : UserAccount) (userId : Nat) (now : Instant) :
    UserResponse × AccountDb :=
  match s.user userId with
  | none => (.redirect usersPage, s)
  | some target =>
    if target.id = current.id then (usersError (py "user_delete_self"), s)
    else if referenceCount s userId ≠ 0 then
      (.redirect usersPage, s.update userId fun user =>
        { user with active := false, deletedAt := some now })
    else if heldElsewhere s userId = true then (.failed, s)
    else (.redirect usersPage, { s with users := s.users.filter fun user => user.id ≠ userId })

/-- `save_access_overview` after its guard. -/
def saveAccessOverview (rt : Runtime) (s : AccountDb) (form : List (PyStr × PyStr)) :
    UserResponse × AccountDb :=
  match saveRoleAccessConfig rt (configFromForm form) s.db.settings with
  | .error _ => (.failed, s)
  | .ok settings =>
    (.redirect (py "/settings/access"), { s with db := { s.db with settings := settings } })

def usersManageKey : PyStr := py "users_manage"

/-- One request: its guard, and what it does when the guard lets it through. -/
def serve (rt : Runtime) (s : AccountDb) (submission : Submission) : UserResponse × AccountDb :=
  match submission.request with
  | .create username password role salt =>
    match requirePermission rt s submission.claims usersManageKey with
    | .error refusal => (.refused refusal, s)
    | .ok _ => createUser hashPassword rt s username password role salt
  | .toggle userId =>
    match requirePermission rt s submission.claims usersManageKey with
    | .error refusal => (.refused refusal, s)
    | .ok current => toggleUser s current userId
  | .resetPassword userId newPassword confirmPassword forceChange salt =>
    match requireUser rt s submission.claims [.superAdmin] with
    | .error refusal => (.refused refusal, s)
    | .ok (current, _) =>
      resetUserPassword hashPassword s current userId newPassword confirmPassword forceChange salt
  | .delete userId now =>
    match requireUser rt s submission.claims [.superAdmin] with
    | .error refusal => (.refused refusal, s)
    | .ok (current, _) => deleteUser s current userId now
  | .saveAccess form =>
    match requireUser rt s submission.claims [.superAdmin] with
    | .error refusal => (.refused refusal, s)
    | .ok _ => saveAccessOverview rt s form

/-- Requests one after another. -/
def accountMachine (rt : Runtime) : Machine AccountDb Submission :=
  fun s submission => some (serve hashPassword rt s submission).2

end Requests

/-! ## Requests that reach for super admin -/

/-- The sender, if the session stands for one, does not hold the role super admin. -/
def FromOthers (s : AccountDb) (submission : Submission) : Prop :=
  ∀ user ∈ currentUser s submission.claims, user.isSuperAdmin = false

/-- The request passes every check and creates a super admin, or switches another
account on or off that is one. -/
def Escalates (rt : Runtime) (s : AccountDb) (submission : Submission) : Prop :=
  match requirePermission rt s submission.claims usersManageKey with
  | .error _ => False
  | .ok current =>
    match submission.request with
    | .create username password role _ =>
      Role.superAdmin ∈ normalizeRoleValues role ∧
        normalizedUsername rt username ≠ [] ∧ (normalizedUsername rt username).length ≤ 80 ∧
        passwordPolicyError password = none ∧ encodable [password] = true ∧
        usernameFree s (normalizedUsername rt username) = true
    | .toggle userId =>
      ∃ target ∈ s.user userId, target.isSuperAdmin = true ∧ target.id ≠ current.id ∧
        target.deletedAt = none
    | _ => False

/-- What the requests have left of the super admins: no account has become an active one,
each one has its password and its active flag, and if one was in service, one is. -/
structure SuperAdminsKept (s s' : AccountDb) : Prop where
  created : ∀ user ∈ s'.users, user.isSuperAdmin = true → user.active = true →
    ∃ before ∈ s.users, before.id = user.id ∧ before.isSuperAdmin = true ∧ before.active = true
  changed : ∀ user ∈ s.users, user.isSuperAdmin = true →
    ∃ after ∈ s'.users, after.id = user.id ∧ after.isSuperAdmin = true ∧
      after.passwordHash = user.passwordHash ∧ after.active = user.active
  inService : (∃ user ∈ s.users, user.isSuperAdmin = true ∧ user.inService = true) →
    ∃ user ∈ s'.users, user.isSuperAdmin = true ∧ user.inService = true

/-! ## One request -/

theorem requireUser_current {rt : Runtime} {s : AccountDb} {claims : Option (Nat × Nat)}
    {roles : List Role} {user : UserAccount} {config : AccessConfig}
    (h : requireUser rt s claims roles = .ok (user, config)) :
    currentUser s claims = some user ∧ (roles ≠ [] → hasAnyRole user.role roles = true) := by
  unfold requireUser at h
  cases hcurrent : currentUser s claims with
  | none =>
    rw [hcurrent] at h
    cases h
  | some current =>
    rw [hcurrent] at h
    dsimp only at h
    -- The checks in the order of the source; each but the last ends with a redirect.
    by_cases hmust : current.mustChangePassword = true
    · rw [if_pos hmust] at h
      cases h
    · rw [if_neg hmust] at h
      by_cases hnone : normalizeRoleValues [current.role] = []
      · rw [if_pos hnone] at h
        cases h
      · rw [if_neg hnone] at h
        by_cases hroles : roles ≠ [] ∧ hasAnyRole current.role roles = false
        · rw [if_pos hroles] at h
          cases h
        · rw [if_neg hroles] at h
          cases hconfig : getRoleAccessConfig rt s.db.settings with
          | error e =>
            rw [hconfig] at h
            cases h
          | ok read =>
            rw [hconfig] at h
            obtain ⟨rfl, -⟩ := Prod.mk.inj (Except.ok.inj h)
            exact ⟨rfl, fun hne => by simpa [hne] using hroles⟩

/-- The guard of the reserved requests stops everyone else. -/
theorem requireUser_others {s : AccountDb} {submission : Submission}
    (hothers : FromOthers s submission) (rt : Runtime) (passed : UserAccount × AccessConfig) :
    requireUser rt s submission.claims [.superAdmin] ≠ .ok passed := by
  intro h
  obtain ⟨user, config⟩ := passed
  obtain ⟨hcurrent, hrole⟩ := requireUser_current h
  have hsuper : user.isSuperAdmin = true := by
    simpa [hasAnyRole, UserAccount.isSuperAdmin] using hrole (by simp)
  rw [hothers user hcurrent] at hsuper
  cases hsuper

/-- The rows of the super admins. -/
def superAdmins (s : AccountDb) : List UserAccount := s.users.filter UserAccount.isSuperAdmin

theorem superAdmins_update {s : AccountDb} {id : Nat} {change : UserAccount → UserAccount}
    (hids : (s.users.map (·.id)).Nodup) {target : UserAccount} (htarget : s.user id = some target)
    (hplain : target.isSuperAdmin = false) (hchange : (change target).isSuperAdmin = false) :
    superAdmins (s.update id change) = superAdmins s := by
  obtain ⟨hmem, htid⟩ := lookup_some htarget
  apply filter_modifyRow
  intro user huser hid
  obtain rfl := eq_of_key_eq hids huser hmem (hid.trans htid.symm)
  exact ⟨hplain, hchange⟩

/-- What a request of anyone else does to the table, when it does not escalate: nothing, a
new account without the role, or another state of such an account. -/
theorem serve_superAdmins (hashPassword : PyStr → PyStr → PyStr) (rt : Runtime) {s : AccountDb}
    {submission : Submission} (hids : (s.users.map (·.id)).Nodup)
    (hothers : FromOthers s submission) (hreach : ¬ Escalates rt s submission) :
    superAdmins (serve hashPassword rt s submission).2 = superAdmins s ∧
      ((serve hashPassword rt s submission).2.users.map (·.id)).Nodup := by
  obtain ⟨claims, request⟩ := submission
  unfold serve
  unfold Escalates at hreach
  dsimp only at hreach ⊢
  cases request with
  | create username password role salt =>
    cases hguard : requirePermission rt s claims usersManageKey with
    | error refusal => exact ⟨rfl, hids⟩
    | ok current =>
      rw [hguard] at hreach
      dsimp only at hreach ⊢
      unfold createUser
      dsimp only
      by_cases hname : normalizedUsername rt username = [] ∨
        80 < (normalizedUsername rt username).length
      · rw [if_pos hname]
        exact ⟨rfl, hids⟩
      rw [if_neg hname]
      by_cases hpolicy : (passwordPolicyError password).isSome = true
      · rw [if_pos hpolicy]
        exact ⟨rfl, hids⟩
      rw [if_neg hpolicy]
      by_cases hrole : serializeRoleValues role = []
      · rw [if_pos hrole]
        exact ⟨rfl, hids⟩
      rw [if_neg hrole]
      by_cases hpassword : encodable [password] = false
      · rw [if_pos hpassword]
        exact ⟨rfl, hids⟩
      rw [if_neg hpassword]
      by_cases hfree : usernameFree s (normalizedUsername rt username) = false
      · rw [if_pos hfree]
        exact ⟨rfl, hids⟩
      rw [if_neg hfree]
      -- The account is created, so the one check left open is the one on its roles.
      have hplain : Role.superAdmin ∉ normalizeRoleValues role := by
        intro hmem
        apply hreach
        refine ⟨hmem, ?_, ?_, ?_, ?_, ?_⟩
        · exact fun h => hname (Or.inl h)
        · exact Nat.le_of_not_lt fun h => hname (Or.inr h)
        · simpa using hpolicy
        · simpa using hpassword
        · simpa using hfree
      constructor
      · have hnot : hasRole (serializeRoleValues role) .superAdmin = false := by
          rw [Bool.eq_false_iff]
          exact fun h => hplain ((hasRole_serializeRoleValues role .superAdmin).mp h)
        simp [superAdmins, UserAccount.isSuperAdmin, newAccount, hnot]
      · exact nodup_append_nextId hids rfl
  | toggle userId =>
    cases hguard : requirePermission rt s claims usersManageKey with
    | error refusal => exact ⟨rfl, hids⟩
    | ok current =>
      rw [hguard] at hreach
      dsimp only at hreach ⊢
      unfold toggleUser
      cases htarget : s.user userId with
      | none => exact ⟨rfl, hids⟩
      | some target =>
        dsimp only
        by_cases hown : target.id ≠ current.id ∧ target.deletedAt = none
        · rw [if_pos hown]
          have hplain : target.isSuperAdmin = false := by
            rw [Bool.eq_false_iff]
            exact fun h => hreach ⟨target, htarget, h, hown.1, hown.2⟩
          constructor
          · exact superAdmins_update hids htarget hplain hplain
          · have hkept : (modifyRow (·.id) userId (fun user : UserAccount =>
                { user with active := !user.active, sessionVersion := user.sessionVersion + 1 })
                  s.users).map (·.id)
                  = s.users.map (·.id) := by
              apply map_modifyRow
              intro user _ _
              rfl
            exact hkept.symm ▸ hids
        · rw [if_neg hown]
          exact ⟨rfl, hids⟩
  | resetPassword userId newPassword confirmPassword forceChange salt =>
    cases hguard : requireUser rt s claims [.superAdmin] with
    | error refusal => exact ⟨rfl, hids⟩
    | ok passed => exact absurd hguard (requireUser_others hothers rt passed)
  | delete userId now =>
    cases hguard : requireUser rt s claims [.superAdmin] with
    | error refusal => exact ⟨rfl, hids⟩
    | ok passed => exact absurd hguard (requireUser_others hothers rt passed)
  | saveAccess form =>
    cases hguard : requireUser rt s claims [.superAdmin] with
    | error refusal => exact ⟨rfl, hids⟩
    | ok passed => exact absurd hguard (requireUser_others hothers rt passed)

/-- The condition leaves out nothing: a request that escalates does what it should not. -/
theorem escalation_breaks (hashPassword : PyStr → PyStr → PyStr) (rt : Runtime) {s : AccountDb}
    {submission : Submission} (hids : (s.users.map (·.id)).Nodup) (h : Escalates rt s submission) :
    ¬ SuperAdminsKept s (serve hashPassword rt s submission).2 := by
  obtain ⟨claims, request⟩ := submission
  unfold Escalates at h
  unfold serve
  dsimp only at h ⊢
  cases hguard : requirePermission rt s claims usersManageKey with
  | error refusal =>
    rw [hguard] at h
    exact absurd h not_false
  | ok current =>
    rw [hguard] at h
    dsimp only at h
    cases request with
    | create username password role salt =>
      obtain ⟨hsuper, hname, hlength, hpolicy, hpassword, hfree⟩ := h
      have hholds := (hasRole_serializeRoleValues role .superAdmin).mpr hsuper
      have hrole : serializeRoleValues role ≠ [] := by
        intro hnil
        rw [hnil] at hholds
        exact absurd hholds (by decide +kernel)
      have hlong : ¬ 80 < (normalizedUsername rt username).length := by omega
      have hmem : newAccount s (normalizedUsername rt username) (hashPassword salt password)
          (serializeRoleValues role) ∈
              (createUser hashPassword rt s username password role salt).2.users := by
        simp [createUser, hname, hlong, hpolicy, hrole, hpassword, hfree]
      intro hkept
      obtain ⟨before, hbefore, hid, -⟩ := hkept.created _ hmem hholds rfl
      exact @nextId_fresh _ (fun user : UserAccount => user.id) _ _ hbefore hid
    | toggle userId =>
      obtain ⟨target, htarget, hsuper, hown, hkeptRow⟩ := h
      intro hkept
      obtain ⟨hmem, htid⟩ := lookup_some htarget
      obtain ⟨after, hafter, hid, -, -, hactive⟩ := hkept.changed target hmem hsuper
      have htoggle : (toggleUser s current userId).2.users = modifyRow (·.id) userId
          (fun user =>
            { user with active := !user.active, sessionVersion := user.sessionVersion + 1 })
          s.users := by
        have hfound : s.user userId = some target := htarget
        simp only [toggleUser, hfound, ne_eq, hown, not_false_eq_true, hkeptRow, and_self, if_true]
        rfl
      dsimp only at hafter
      rw [htoggle] at hafter
      obtain ⟨row, hrow, rfl⟩ := mem_modifyRow.mp hafter
      -- The row under the target's id is the target itself, with its flag turned over.
      by_cases hrid : row.id = userId
      · obtain rfl := eq_of_key_eq hids hrow hmem (hrid.trans htid.symm)
        rw [if_pos hrid] at hactive
        simp at hactive
      · rw [if_neg hrid] at hid
        exact hrid (hid.trans htid)
    | resetPassword userId newPassword confirmPassword forceChange salt => exact absurd h not_false
    | delete userId now => exact absurd h not_false
    | saveAccess form => exact absurd h not_false

/-! ## Every run -/

/-- Untouched rows say everything about the super admins. -/
theorem SuperAdminsKept.of_rows {s s' : AccountDb} (h : superAdmins s' = superAdmins s) :
    SuperAdminsKept s s' := by
  have hrow : ∀ user, user.isSuperAdmin = true → (user ∈ s'.users ↔ user ∈ s.users) := by
    intro user huser
    have hmem : user ∈ superAdmins s' ↔ user ∈ superAdmins s := by rw [h]
    simpa [superAdmins, huser] using hmem
  constructor
  · intro user huser hsuper hactive
    exact ⟨user, (hrow user hsuper).mp huser, rfl, hsuper, hactive⟩
  · intro user huser hsuper
    exact ⟨user, (hrow user hsuper).mpr huser, rfl, hsuper, rfl, rfl⟩
  · rintro ⟨user, huser, hsuper, hservice⟩
    exact ⟨user, (hrow user hsuper).mpr huser, hsuper, hservice⟩

/-- In every run of requests from others than super admins of which none escalates, whatever
the access matrix says, no super admin appears, none is changed, and one stays in service. -/
theorem super_admins_kept (hashPassword : PyStr → PyStr → PyStr) (rt : Runtime) {s s' : AccountDb}
    {as : List Submission} (hids : (s.users.map (·.id)).Nodup)
    (hothers : Guarded (accountMachine hashPassword rt) FromOthers s as)
    (hreach : Guarded (accountMachine hashPassword rt) (fun t a => ¬ Escalates rt t a) s as)
    (hrun : exec (accountMachine hashPassword rt) s as = some s') : SuperAdminsKept s s' := by
  have hboth : Guarded (accountMachine hashPassword rt)
      (fun t a => FromOthers t a ∧ ¬ Escalates rt t a) s as := hothers.and hreach
  have hinv : superAdmins s' = superAdmins s ∧ (s'.users.map (·.id)).Nodup := by
    refine guarded_invariant
      (I := fun t => superAdmins t = superAdmins s ∧ (t.users.map (·.id)).Nodup)
      ?_ ⟨rfl, hids⟩ hboth hrun
    rintro t a t' ⟨hrows, htids⟩ ⟨hother, hstep⟩ ht
    obtain rfl := Option.some.inj ht
    obtain ⟨hsame, hnodup⟩ := serve_superAdmins hashPassword rt htids hother hstep
    exact ⟨hsame.trans hrows, hnodup⟩
  exact .of_rows hinv.1

/-! ## An office -/

/-- A super admin and an administrator, with the matrix that the installation starts with. -/
def office : AccountDb where
  db := Db.empty
  users :=
    [⟨⟨1, py "root"⟩, py "x", py "super_admin", true, false, 0, none⟩,
     ⟨⟨2, py "admin"⟩, py "x", py "admin", true, false, 0, none⟩]
  labelPrintedBy := []
  confirmedBy := []
  assignedBy := []

/-- The administrator creates an account. -/
def createAs (role : PyStr) : Submission :=
  ⟨some (2, 0), .create (py "newcomer") (py "a-long-password") [role] []⟩

/-- The administrator switches an account. -/
def toggleAs (userId : Nat) : Submission := ⟨some (2, 0), .toggle userId⟩

/-- The administrator creates a clerk, switches the account off and asks for a reset. -/
def officeDay : List Submission :=
  [createAs (py "sales"), toggleAs 3,
   ⟨some (2, 0), .resetPassword 1 (py "a-long-password") (py "a-long-password") none []⟩]

instance (s : AccountDb) (a : Submission) : Decidable (FromOthers s a) := by
  unfold FromOthers
  infer_instance

instance (rt : Runtime) (s : AccountDb) (a : Submission) : Decidable (Escalates rt s a) := by
  unfold Escalates
  cases requirePermission rt s a.claims usersManageKey with
  | error refusal => exact inferInstanceAs (Decidable False)
  | ok current =>
    cases a.request with
    | create username password role salt => exact inferInstanceAs (Decidable (_ ∧ _))
    | toggle userId => exact inferInstanceAs (Decidable (∃ target ∈ s.user userId, _))
    | resetPassword userId newPassword confirmPassword forceChange salt =>
      exact inferInstanceAs (Decidable False)
    | delete userId now => exact inferInstanceAs (Decidable False)
    | saveAccess form => exact inferInstanceAs (Decidable False)

theorem super_admins_kept_office :
    ∃ s', exec (accountMachine (fun _ password => password) .plain) office officeDay = some s' ∧
      SuperAdminsKept office s' := by
  cases hrun : exec (accountMachine (fun _ password => password) .plain) office officeDay with
  | none => exact absurd hrun (by simp [exec, officeDay, accountMachine])
  | some s' =>
    refine ⟨s', rfl, super_admins_kept _ _ (by decide) ?_ ?_ hrun⟩
    · decide +kernel
    · decide +kernel

/-- An administrator makes a super admin, and an administrator leaves the node without one. -/
theorem administrator_escalates :
    (∃ s', exec (accountMachine (fun _ password => password) .plain) office
        [createAs (py "super_admin")] = some s' ∧
      FromOthers office (createAs (py "super_admin")) ∧
      ∃ user ∈ s'.users, user.isSuperAdmin = true ∧ user.active = true ∧
        ∀ before ∈ office.users, before.id ≠ user.id) ∧
    (∃ s', exec (accountMachine (fun _ password => password) .plain) office [toggleAs 1] = some s' ∧
      FromOthers office (toggleAs 1) ∧
      (∃ user ∈ office.users, user.isSuperAdmin = true ∧ user.inService = true) ∧
      ¬ ∃ user ∈ s'.users, user.isSuperAdmin = true ∧ user.inService = true) := by
  constructor
  · refine ⟨(serve _ _ office (createAs (py "super_admin"))).2, rfl, ?_, ?_⟩ <;> decide +kernel
  · refine ⟨(serve _ _ office (toggleAs 1)).2, rfl, ?_, ?_, ?_⟩ <;> decide +kernel

end SetuoraLite
