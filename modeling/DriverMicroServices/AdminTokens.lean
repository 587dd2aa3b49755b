import DriverMicroServices.CityChanges
import DriverMicroServices.TokenRevocation

/-! The tokens of admins. The role, the city and the active flag of the row go into a token,
and a change of the row reaches older tokens only by the flag in Redis, which some of the
changes set, and which no login takes away. -/
namespace DriverMicroServices
open Expiring Tables.Keyed Transitions

/-- The claims that `adminLogin` signs, for eight hours. -/
def adminPayload (now : Time) (id : Uuid) (admin : AdminUser) : JwtPayload where
  sub := id
  type := some .admin
  role := some admin.role
  email := some admin.email
  permissions := some admin.role.permissions
  isActive := some admin.isActive
  cityId := .ofRow admin.cityId
  exp := now / 1000 + 28800

/-- A token that an admin was issued. -/
structure AdminToken where
  payload : JwtPayload
  /-- It was issued by a login and not by a refresh. -/
  login : Bool
  /-- The admin was not active then. -/
  inactive : Bool
  /-- When the rights of the row first changed since. -/
  changedAt : Option Time := none
  deriving DecidableEq

structure AdminSystem where
  auth : AuthSystem := {}
  directory : Directory := {}
  issued : List AdminToken := []

namespace AdminService

/-- Whether `update` invalidates the tokens. -/
def needsInvalidation (dto : UpdateAdminDto) (admin : AdminUser) : Bool :=
  dto.role.value?.any (· ≠ admin.role) || (truthy dto.cityId.value?).any (some · ≠ admin.cityId) ||
    dto.isActive = .value false

def remove (d : Directory) (now : Time) (id : Uuid) (deletedBy : AuthenticatedUser) :
    Except String (AdminUser × Directory) := do
  let some admin := d.admin id
    | throw s!"Admin with ID {id} not found"
  if deletedBy.role ≠ some .superAdmin then throw "Only superadmin can delete admins"
  if admin.role = .superAdmin then throw "Cannot delete superadmin"
  let admin := { admin with isActive := false, updatedAt := now }
  return (admin, d.saveAdmin id admin)

end AdminService

namespace AdminSystem

variable (s : AdminSystem)

def findByEmail (email : String) : Option (Uuid × AdminUser) :=
  s.directory.admins.find? (·.2.email = email)

/-- `validateAdmin`; the account is not locked and the password is right, or not. -/
def validateAdmin (email : String) (passed : Bool) : Except String (Uuid × AdminUser) :=
  match s.findByEmail email with
  | none => .error "Invalid credentials"
  | some (id, admin) =>
    if !admin.isActive then .error "Admin account is disabled"
    else if !passed then .error "Invalid credentials"
    else .ok (id, admin)

/-- `adminLogin` of a loaded row. -/
def adminLogin (id : Uuid) (admin : AdminUser) (login : Bool) : AdminSystem :=
  { s with issued := { payload := adminPayload s.auth.now id admin, login, inactive := !admin.isActive } :: s.issued }

def adminLoginWithCredentials (email : String) (passed : Bool) : AdminSystem :=
  match s.validateAdmin email passed with
  | .ok (id, admin) => s.adminLogin id admin true
  | .error _ => s

/-- A request with a token, when nothing but `JwtStrategy` has seen it. -/
def authGuard (payload : JwtPayload) : AdminSystem := { s with auth := (s.auth.authGuard payload).2 }

/-- The admin whose row `refreshToken` loads. -/
def refreshed (payload : JwtPayload) : Option (Uuid × AdminUser) := do
  let user ← (s.auth.authGuard payload).1
  let id ← if user.type = some .admin then user.userId else none
  let admin ← s.directory.admin id
  return (id, admin)

/-- `refreshToken`, which does not look at the active flag. -/
def refreshToken (payload : JwtPayload) : AdminSystem :=
  match s.refreshed payload with
  | some (id, admin) => (s.authGuard payload).adminLogin id admin false
  | none => s.authGuard payload

/-- The admin is no longer active, or has another role or city. -/
def rightsChange (before after : AdminUser) : Bool :=
  before.role ≠ after.role || before.cityId ≠ after.cityId || before.isActive && !after.isActive

/-- The tables after a save, which is noted with the tokens where it changes rights. -/
def saved (id : Uuid) (before after : AdminUser) (directory : Directory) : AdminSystem :=
  { s with
    directory
    issued :=
      if rightsChange before after then
        s.issued.map fun token =>
          if token.payload.sub = id then { token with changedAt := token.changedAt.or (some s.auth.now) } else token
      else s.issued }

/-- `AdminService.update` -/
def update (joinColumn : JoinColumn) (id : Uuid) (dto : UpdateAdminDto) (updatedBy : AuthenticatedUser) :
    AdminSystem :=
  match s.directory.admin id, AdminService.update joinColumn s.directory s.auth.now id dto updatedBy with
  | some before, .ok (after, directory) =>
    let s := s.saved id before after directory
    if AdminService.needsInvalidation dto before then { s with auth := s.auth.revoke id } else s
  | _, _ => s

/-- `AdminService.remove` -/
def remove (id : Uuid) (deletedBy : AuthenticatedUser) : AdminSystem :=
  match s.directory.admin id, AdminService.remove s.directory s.auth.now id deletedBy with
  | some before, .ok (after, directory) => s.saved id before after directory
  | _, _ => s

end AdminSystem

inductive AdminEvent where
  | login (email : String) (passed : Bool)
  | refreshToken (payload : JwtPayload)
  | update (id : Uuid) (dto : UpdateAdminDto) (updatedBy : AuthenticatedUser)
  | remove (id : Uuid) (deletedBy : AuthenticatedUser)
  /-- `logout`, which leaves no flag for an admin. -/
  | logout (payload : JwtPayload)
  /-- Any other request with a token. -/
  | request (payload : JwtPayload)
  deriving DecidableEq

namespace AdminSystem

/-- The tokens of requests are those of admins. -/
def ofAdmin : AdminEvent → Bool
  | .refreshToken payload | .logout payload | .request payload => payload.type = some .admin
  | _ => true

/-- One call at a time that is not before the last one. -/
def step (joinColumn : JoinColumn) (s : AdminSystem) : Time × AdminEvent → Option AdminSystem
  | (t, event) =>
    if s.auth.now ≤ t ∧ ofAdmin event then
      let s := { s with auth := { s.auth with now := t } }
      match event with
      | .login email passed => some (s.adminLoginWithCredentials email passed)
      | .refreshToken payload => some (s.refreshToken payload)
      | .update id dto updatedBy => some (s.update joinColumn id dto updatedBy)
      | .remove id deletedBy => some (s.remove id deletedBy)
      | .logout payload => some (s.authGuard payload)
      | .request payload => some (s.authGuard payload)
    else none

/-- At that time, some request with the token passes `validate` and `authorize`. -/
def Passes (s : AdminSystem) (t : Time) (payload : JwtPayload) : Prop :=
  s.auth.Validates t payload ∧ ∃ user ∈ payload.user?, ∃ deliveries permission resource,
    (AuthorizationService.authorize deliveries (PolicyGuard.actor user) permission resource).allowed = true

/-- Admin rights follow the record. -/
structure RightsFollow (s : AdminSystem) : Prop where
  rejected : ∀ token ∈ s.issued, ∀ changedAt ∈ token.changedAt, ∀ t, s.auth.now ≤ t → changedAt + 30000 ≤ t →
    ¬ token.payload.Expired t → ¬ s.Passes t token.payload
  unissued : ∀ token ∈ s.issued, token.inactive = true → ∀ t, s.auth.now ≤ t → ¬ token.payload.Expired t →
    ¬ s.Passes t token.payload
  accepted : ∀ token ∈ s.issued, token.login = true → token.changedAt = none → ∀ t, s.auth.now ≤ t →
    ¬ token.payload.Expired t → s.auth.Validates t token.payload

/-! ## The condition -/

/-- What a request names when it names nothing. -/
def unnamed : AuthorizationResourceContext where
  deliveryId := .absent
  driverId := .absent
  cityId := .absent
  body := fun _ => .absent

/-- Some request with these claims is authorized. -/
def usable (payload : JwtPayload) : Bool :=
  payload.user?.any fun user => Permission.all.any fun permission =>
    (AuthorizationService.authorize (fun _ => none) (PolicyGuard.actor user) permission unnamed).allowed

/-- A token that needs no new flag when the rights of its admin change: no request with it is
authorized, it expires within half a minute, or a flag stands that outlasts it. -/
def Harmless (s : AdminSystem) (token : AdminToken) : Prop :=
  usable token.payload = false ∨ AuthSystem.Spent token.payload s.auth.now s.auth.now ∨
    ∃ ends ∈ s.auth.keys.lookup (.revokedToken token.payload.sub), token.payload.Expired ends

instance (s : AdminSystem) (token : AdminToken) : Decidable (s.Harmless token) :=
  inferInstanceAs (Decidable (usable token.payload = false ∨
    AuthSystem.Spent token.payload s.auth.now s.auth.now ∨
      ∃ ends ∈ s.auth.keys.lookup (.revokedToken token.payload.sub), token.payload.Expired ends))

/-- What a save must find: where it changes rights and sets no flag, harmless tokens; where it
sets a flag and changes no rights, no login that would still be good. -/
def SaveClear (s : AdminSystem) (id : Uuid) (before after : AdminUser) (flagged : Bool) : Prop :=
  if flagged then
    rightsChange before after = true ∨
      ∀ token ∈ s.issued, token.payload.sub = id → token.login = true → token.changedAt = none →
        token.payload.Expired s.auth.now
  else
    rightsChange before after = true →
      ∀ token ∈ s.issued, token.payload.sub = id → token.changedAt = none → s.Harmless token

instance (s : AdminSystem) (id : Uuid) (before after : AdminUser) (flagged : Bool) :
    Decidable (s.SaveClear id before after flagged) :=
  inferInstanceAs (Decidable (if flagged = true then
    rightsChange before after = true ∨
      ∀ token ∈ s.issued, token.payload.sub = id → token.login = true → token.changedAt = none →
        token.payload.Expired s.auth.now
    else rightsChange before after = true →
      ∀ token ∈ s.issued, token.payload.sub = id → token.changedAt = none → s.Harmless token))

/-- What a call must find: a login that succeeds, no flag and no cached answer that the admin is
revoked; a refresh, an active admin, unless the new token is of no use; and the changes what
their saves must find. -/
def Clear (joinColumn : JoinColumn) (s : AdminSystem) : Time × AdminEvent → Prop
  | (t, .login email passed) =>
    ∀ entry ∈ (s.validateAdmin email passed).toOption,
      s.auth.keys.present t (.revokedToken entry.1) = false ∧ ¬ s.auth.CachedRevoked t entry.1
  | (t, .refreshToken payload) =>
    ∀ entry ∈ ({ s with auth := { s.auth with now := t } }).refreshed payload,
      entry.2.isActive = false → usable (adminPayload t entry.1 entry.2) = false
  | (t, .update id dto updatedBy) =>
    let s := { s with auth := { s.auth with now := t } }
    ∀ before ∈ s.directory.admin id,
      ∀ saved ∈ (AdminService.update joinColumn s.directory t id dto updatedBy).toOption,
        s.SaveClear id before saved.1 (AdminService.needsInvalidation dto before)
  | (t, .remove id deletedBy) =>
    let s := { s with auth := { s.auth with now := t } }
    ∀ before ∈ s.directory.admin id, ∀ saved ∈ (AdminService.remove s.directory t id deletedBy).toOption,
      s.SaveClear id before saved.1 false
  | _ => True

instance (joinColumn : JoinColumn) (s : AdminSystem) : ∀ action, Decidable (s.Clear joinColumn action)
  | (_, .login ..) => inferInstanceAs (Decidable (∀ entry ∈ Except.toOption _, _ ∧ ¬ _))
  | (_, .refreshToken _) => inferInstanceAs (Decidable (∀ entry ∈ refreshed _ _, _ → _))
  | (_, .update ..) =>
    inferInstanceAs (Decidable (∀ before ∈ Directory.admin _ _, ∀ saved ∈ Except.toOption _, SaveClear _ _ _ _ _))
  | (_, .remove ..) =>
    inferInstanceAs (Decidable (∀ before ∈ Directory.admin _ _, ∀ saved ∈ Except.toOption _, SaveClear _ _ _ _ _))
  | (_, .logout _) => isTrue trivial
  | (_, .request _) => isTrue trivial

section Claims

variable {deliveries : Uuid → Option Delivery} {actor : AuthorizationActor} {permission : Permission}
  {resource : AuthorizationResourceContext} {now : Time} {id : Uuid} {admin : AdminUser}

private theorem mem_all (permission : Permission) : permission ∈ Permission.all := by
  cases permission <;> decide

private theorem driverPolicy_unnamed (allowed : (DriverPolicy.evaluate actor permission resource).allowed = true) :
    (DriverPolicy.evaluate actor permission unnamed).allowed = true := by
  unfold DriverPolicy.evaluate at allowed ⊢
  simp only [unnamed, FieldValue.truthy, Bool.false_eq_true, false_and, if_false]
  split
  · rfl
  · rename_i ofDriver
    rw [if_neg ofDriver] at allowed
    split at allowed
    · cases allowed
    · exact allowed

private theorem deliveryPolicy_unnamed :
    (DeliveryPolicy.evaluate deliveries actor permission unnamed).allowed = true := by
  unfold DeliveryPolicy.evaluate
  split
  · rfl
  · rfl

private theorem adminScope_unnamed
    (allowed : (AuthorizationService.evaluateAdminScope actor permission resource).allowed = true) :
    (AuthorizationService.evaluateAdminScope actor permission unnamed).allowed = true := by
  unfold AuthorizationService.evaluateAdminScope at allowed ⊢
  split
  · rfl
  · rename_i ofAdmin
    rw [if_neg ofAdmin] at allowed
    cases role : truthy actor.role with
    | none =>
      rw [role] at allowed
      cases allowed
    | some role' =>
      simp only [role] at allowed ⊢
      split
      · rename_i ofCity
        rw [if_pos ofCity] at allowed
        cases city : truthy actor.cityId.value? with
        | none =>
          rw [city] at allowed
          cases allowed
        | some cityId => rfl
      · rfl

/-- Who is authorized is so too when the request names nothing. -/
theorem authorize_unnamed
    (allowed : (AuthorizationService.authorize deliveries actor permission resource).allowed = true) :
    (AuthorizationService.authorize (fun _ => none) actor permission unnamed).allowed = true := by
  unfold AuthorizationService.authorize at allowed ⊢
  split
  · rfl
  · rename_i notSystem
    rw [if_neg notSystem] at allowed
    split
    · rfl
    · rename_i notSuper
      rw [if_neg notSuper] at allowed
      split
      · rename_i missing
        rw [if_pos missing] at allowed
        cases allowed
      · rename_i held
        rw [if_neg held] at allowed
        dsimp only at allowed ⊢
        cases assignment : (AssignmentPolicy.evaluate actor permission).allowed with
        | false => simp [assignment] at allowed
        | true =>
          cases driver : (DriverPolicy.evaluate actor permission resource).allowed with
          | false => simp [assignment, driver] at allowed
          | true =>
            cases delivery : (DeliveryPolicy.evaluate deliveries actor permission resource).allowed with
            | false => simp [assignment, driver, delivery] at allowed
            | true =>
              simp only [assignment, driver, delivery, Bool.not_true, Bool.false_eq_true, if_false] at allowed
              simp [driverPolicy_unnamed driver, deliveryPolicy_unnamed, adminScope_unnamed allowed]

variable {s : AdminSystem} {t : Time} {payload : JwtPayload}

theorem passes_iff : s.Passes t payload ↔ s.auth.Validates t payload ∧ usable payload = true := by
  refine and_congr_right fun _ => ?_
  unfold usable
  cases payload.user? with
  | none => simp
  | some user =>
    simp only [Option.mem_def, Option.some.injEq, exists_eq_left', Option.any_some, List.any_eq_true]
    constructor
    · rintro ⟨deliveries, permission, resource, allowed⟩
      exact ⟨permission, mem_all permission, authorize_unnamed allowed⟩
    · rintro ⟨permission, -, allowed⟩
      exact ⟨_, permission, unnamed, allowed⟩

private theorem adminPayload_user : (adminPayload now id admin).user?.isSome := by
  unfold JwtPayload.user? adminPayload
  split <;> rfl

/-- A token ends within eight hours. -/
theorem adminPayload_ends (elapsed : now + 28800000 ≤ t) : (adminPayload now id admin).Expired t := by
  have bound : (now + 28800 * 1000) / 1000 ≤ t / 1000 := Int.ediv_le_ediv (by decide) elapsed
  rwa [seconds_after] at bound

end Claims

/-! ## The invariant -/

/-- How a token stands to flags and cache. -/
structure TokenSound (auth : AuthSystem) (token : AdminToken) : Prop where
  shaped : token.payload.user?.isSome ∧ ∀ t, auth.now + 28800000 ≤ t → token.payload.Expired t
  changed : ∀ changedAt ∈ token.changedAt, usable token.payload = false ∨
    AuthSystem.Spent token.payload changedAt auth.now ∨
      (∃ ends ∈ auth.keys.lookup (.revokedToken token.payload.sub), token.payload.Expired ends) ∧
        ∀ cached ∈ get auth.revocationCache token.payload.sub, cached.isRevoked = false →
          cached.expiresAt ≤ changedAt + 30000
  inactive : token.inactive = true → usable token.payload = false

/-- A token of a login, when the rights have not changed since. -/
def LoggedIn (auth : AuthSystem) (token : AdminToken) : Prop :=
  token.login = true → token.changedAt = none → token.payload.Expired auth.now ∨
    auth.keys.present auth.now (.revokedToken token.payload.sub) = false ∧
      ¬ auth.CachedRevoked auth.now token.payload.sub

structure Sound (s : AdminSystem) : Prop where
  auth : s.auth.Sound
  tokens : ∀ token ∈ s.issued, TokenSound s.auth token
  logins : ∀ token ∈ s.issued, LoggedIn s.auth token

section Invariant

variable {s : AdminSystem} {auth auth' : AuthSystem} {token : AdminToken} {t : Time} {id : Uuid}

theorem TokenSound.rejected (held : TokenSound s.auth token) {changedAt : Time}
    (since : changedAt ∈ token.changedAt) (later : s.auth.now ≤ t) (elapsed : changedAt + 30000 ≤ t)
    (alive : ¬ token.payload.Expired t) : ¬ s.Passes t token.payload := by
  rw [passes_iff]
  rintro ⟨valid, used⟩
  rcases held.changed changedAt since with useless | (expired | soon) | ⟨⟨ends, flag, outlasts⟩, answers⟩
  · rw [useless] at used
    cases used
  · exact alive (expired.mono later)
  · exact alive (soon.mono elapsed)
  · obtain ⟨uncached, answered⟩ := valid.unrevoked
    have lasts : t < ends := Int.not_le.mp fun ended => alive (outlasts.mono ended)
    obtain ⟨cached, there, live⟩ := answered (Keys.present_iff.mpr ⟨ends, flag, lasts⟩)
    cases answer : cached.isRevoked with
    | true => exact uncached ⟨cached, there, answer, live⟩
    | false =>
      have early := answers cached there answer
      exact absurd (Int.le_trans early elapsed) (Int.not_le.mpr live)

theorem TokenSound.accepted (held : TokenSound s.auth token) (logged : LoggedIn s.auth token)
    (login : token.login = true) (unchanged : token.changedAt = none) (later : s.auth.now ≤ t)
    (alive : ¬ token.payload.Expired t) : s.auth.Validates t token.payload := by
  rcases logged login unchanged with expired | ⟨absent, uncached⟩
  · exact absurd (expired.mono later) alive
  · refine AuthSystem.Validates.of_absent held.shaped.1 (Keys.absent_after later absent) ?_
    exact fun revoked => uncached (revoked.mono later)

private theorem Sound.rightsFollow (sound : s.Sound) : s.RightsFollow where
  rejected := fun token issued _ since _ later elapsed alive =>
    (sound.tokens token issued).rejected since later elapsed alive
  unissued := by
    intro token issued idle t _ _ passes
    have useless := (sound.tokens token issued).inactive idle
    rw [(passes_iff.mp passes).2] at useless
    cases useless
  accepted := fun token issued login unchanged _ later alive =>
    (sound.tokens token issued).accepted (sound.logins token issued) login unchanged later alive

/-- Time passes. -/
theorem Sound.later (sound : s.Sound) (ordered : s.auth.now ≤ t) :
    Sound { s with auth := { s.auth with now := t } } where
  auth := sound.auth.later ordered
  tokens := by
    intro token issued
    obtain ⟨shaped, changed, inactive⟩ := sound.tokens token issued
    refine ⟨⟨shaped.1, fun t' elapsed => shaped.2 t' ?_⟩, fun changedAt since => ?_, inactive⟩
    · exact Int.le_trans (Int.add_le_add_right ordered _) elapsed
    · exact (changed changedAt since).imp_right fun spent =>
        spent.imp_left fun spent => spent.imp_left fun expired => expired.mono ordered
  logins := by
    intro token issued login unchanged
    rcases sound.logins token issued login unchanged with expired | ⟨absent, uncached⟩
    · exact .inl (expired.mono ordered)
    · exact .inr ⟨Keys.absent_after ordered absent, fun revoked => uncached (revoked.mono ordered)⟩

/-- A request with a token reads a flag, at most. -/
theorem Sound.authGuard (sound : s.Sound) (payload : JwtPayload) : (s.authGuard payload).Sound := by
  have reads (id : Uuid) : ∀ cached ∈ get (s.auth.authGuard payload).2.revocationCache id,
      cached ∈ get s.auth.revocationCache id ∨
        cached = ⟨s.auth.keys.present s.auth.now (.revokedToken id), s.auth.now + 30000⟩ := by
    intro cached there
    unfold AuthSystem.authGuard at there
    split at there
    · exact .inl there
    · exact AuthSystem.isTokenRevoked_cache there
  have same : (s.auth.authGuard payload).2.now = s.auth.now ∧ (s.auth.authGuard payload).2.keys = s.auth.keys := by
    unfold AuthSystem.authGuard
    split <;> exact ⟨rfl, rfl⟩
  obtain ⟨now, keys⟩ := same
  refine ⟨sound.auth.authGuard payload, fun token issued => ?_, fun token issued login unchanged => ?_⟩
  · obtain ⟨shaped, changed, inactive⟩ := sound.tokens token issued
    refine ⟨by simpa [AdminSystem.authGuard, now] using shaped, fun changedAt since => ?_, inactive⟩
    simp only [AdminSystem.authGuard, now, keys]
    rcases changed changedAt since with useless | spent | ⟨⟨ends, flag, outlasts⟩, answers⟩
    · exact .inl useless
    · exact .inr (.inl spent)
    · by_cases lasts : s.auth.now < ends
      · refine .inr (.inr ⟨⟨ends, flag, outlasts⟩, fun cached there answer => ?_⟩)
        rcases reads _ cached there with old | rfl
        · exact answers cached old answer
        · have present := Keys.present_iff.mpr ⟨ends, flag, lasts⟩
          simp [present] at answer
      · exact .inr (.inl (.inl (outlasts.mono (Int.not_lt.mp lasts))))
  · simp only [AdminSystem.authGuard, now, keys]
    rcases sound.logins token issued login unchanged with expired | ⟨absent, uncached⟩
    · exact .inl expired
    · refine .inr ⟨absent, ?_⟩
      rintro ⟨cached, there, answer, live⟩
      rcases reads _ cached there with old | rfl
      · exact uncached ⟨cached, old, answer, live⟩
      · simp [absent] at answer

/-- A new token, of a login where nothing says that the admin is revoked. -/
theorem Sound.adminLogin (sound : s.Sound) (admin : AdminUser) {login : Bool}
    (useful : admin.isActive = false → usable (adminPayload s.auth.now id admin) = false)
    (clear : login = true → s.auth.keys.present s.auth.now (.revokedToken id) = false ∧
      ¬ s.auth.CachedRevoked s.auth.now id) : (s.adminLogin id admin login).Sound where
  auth := sound.auth
  tokens := by
    refine List.forall_mem_cons.mpr ⟨⟨⟨adminPayload_user, fun t elapsed => adminPayload_ends elapsed⟩, ?_, ?_⟩,
      sound.tokens⟩
    · intro changedAt since
      cases since
    · intro idle
      exact useful (by simpa using idle)
  logins := List.forall_mem_cons.mpr ⟨fun login _ => .inr (clear login), sound.logins⟩

/-- What is noted with a token when the rights of its admin change. -/
theorem TokenSound.noted (held : TokenSound auth token) (sound : auth.Sound)
    (harmless : token.changedAt = none → usable token.payload = false ∨
      AuthSystem.Spent token.payload auth.now auth.now ∨
        ∃ ends ∈ auth.keys.lookup (.revokedToken token.payload.sub), token.payload.Expired ends) :
    TokenSound auth { token with changedAt := token.changedAt.or (some auth.now) } := by
  refine ⟨held.shaped, fun changedAt since => ?_, held.inactive⟩
  cases earlier : token.changedAt with
  | some before =>
    rw [earlier] at since
    exact held.changed changedAt (earlier ▸ since)
  | none =>
    rw [earlier] at since
    cases since
    rcases harmless earlier with useless | spent | flag
    · exact .inl useless
    · exact .inr (.inl spent)
    · exact .inr (.inr ⟨flag, fun cached there _ => sound.cached _ cached there⟩)

/-- A flag does no harm to what holds of a token, but for a login. -/
theorem TokenSound.revoke (held : TokenSound auth token) : TokenSound (auth.revoke id) token := by
  refine ⟨held.shaped, fun changedAt since => ?_, held.inactive⟩
  refine (held.changed changedAt since).imp_right fun spent => spent.imp_right ?_
  rintro ⟨⟨ends, flag, outlasts⟩, answers⟩
  refine ⟨?_, answers⟩
  by_cases mine : token.payload.sub = id
  · refine ⟨auth.now + 86400000, ?_, ?_⟩
    · rw [mine]
      exact Keys.lookup_set_self
    · refine held.shaped.2 _ (Int.add_le_add_left (by decide) _)
  · refine ⟨ends, ?_, outlasts⟩
    exact (Keys.lookup_set_ne (by simpa using mine)).trans flag

theorem LoggedIn.revoke (logged : LoggedIn auth token) (other : token.payload.sub = id →
    token.login = true → token.changedAt = none → token.payload.Expired auth.now) :
    LoggedIn (auth.revoke id) token := by
  intro login unchanged
  by_cases mine : token.payload.sub = id
  · exact .inl (other mine login unchanged)
  · refine (logged login unchanged).imp_right fun clear => ⟨?_, clear.2⟩
    have same : (auth.revoke id).keys.lookup (.revokedToken token.payload.sub) =
        auth.keys.lookup (.revokedToken token.payload.sub) := Keys.lookup_set_ne (by simpa using mine)
    exact (Keys.present_congr same).trans clear.1

/-- The flag of a token of the admin outlasts it. -/
theorem TokenSound.flagged (held : TokenSound auth token) (mine : token.payload.sub = id) :
    ∃ ends ∈ (auth.revoke id).keys.lookup (.revokedToken token.payload.sub), token.payload.Expired ends := by
  refine ⟨auth.now + 86400000, ?_, held.shaped.2 _ (Int.add_le_add_left (by decide) _)⟩
  rw [mine]
  exact Keys.lookup_set_self

/-- A save that sets no flag. -/
theorem Sound.saved (sound : s.Sound) {before after : AdminUser} {directory : Directory}
    (clear : s.SaveClear id before after false) : (s.saved id before after directory).Sound := by
  by_cases changes : rightsChange before after
  · have harmless := clear changes
    refine ⟨sound.auth, fun token issued => ?_, fun token issued => ?_⟩
    · simp only [AdminSystem.saved, changes, if_true, List.mem_map] at issued
      obtain ⟨token, there, rfl⟩ := issued
      split
      · rename_i mine
        exact (sound.tokens token there).noted sound.auth (harmless token there mine)
      · exact sound.tokens token there
    · simp only [AdminSystem.saved, changes, if_true, List.mem_map] at issued
      obtain ⟨token, there, rfl⟩ := issued
      split
      · intro _ unchanged
        cases earlier : token.changedAt <;> simp [earlier] at unchanged
      · exact sound.logins token there
  · have same : (s.saved id before after directory).issued = s.issued := by simp [AdminSystem.saved, changes]
    exact ⟨sound.auth, same ▸ sound.tokens, same ▸ sound.logins⟩

/-- A save that sets the flag of the admin. -/
theorem Sound.savedRevoke (sound : s.Sound) {before after : AdminUser} {directory : Directory}
    (clear : s.SaveClear id before after true) :
    Sound { s.saved id before after directory with auth := s.auth.revoke id } := by
  by_cases changes : rightsChange before after
  · refine ⟨sound.auth.revoke id, fun token issued => ?_, fun token issued => ?_⟩
    · simp only [AdminSystem.saved, changes, if_true, List.mem_map] at issued
      obtain ⟨token, there, rfl⟩ := issued
      split
      · rename_i mine
        exact (sound.tokens token there).revoke.noted (sound.auth.revoke id) fun _ =>
          .inr (.inr ((sound.tokens token there).flagged mine))
      · exact (sound.tokens token there).revoke
    · simp only [AdminSystem.saved, changes, if_true, List.mem_map] at issued
      obtain ⟨token, there, rfl⟩ := issued
      split
      · intro _ unchanged
        cases earlier : token.changedAt <;> simp [earlier] at unchanged
      · rename_i other
        exact (sound.logins token there).revoke fun mine => absurd mine other
  · have same : (s.saved id before after directory).issued = s.issued := by simp [AdminSystem.saved, changes]
    have logins := clear.resolve_left changes
    refine ⟨sound.auth.revoke id, fun token issued => ?_, fun token issued => ?_⟩
    · exact (sound.tokens token (same ▸ issued)).revoke
    · exact (sound.logins token (same ▸ issued)).revoke (logins token (same ▸ issued))

end Invariant

section Steps

variable {joinColumn : JoinColumn} {s s' : AdminSystem} {t : Time}

theorem Sound.login (sound : s.Sound) {email : String} {passed : Bool}
    (clear : ∀ entry ∈ (s.validateAdmin email passed).toOption,
      s.auth.keys.present s.auth.now (.revokedToken entry.1) = false ∧
        ¬ s.auth.CachedRevoked s.auth.now entry.1) :
    (s.adminLoginWithCredentials email passed).Sound := by
  unfold adminLoginWithCredentials
  cases validated : s.validateAdmin email passed with
  | error message => exact sound
  | ok entry =>
    obtain ⟨id, admin⟩ := entry
    rw [validated] at clear
    have active : admin.isActive = true := by
      unfold validateAdmin at validated
      split at validated
      · cases validated
      · split at validated
        · cases validated
        · rename_i active
          split at validated
          · cases validated
          · cases validated
            simpa using active
    exact sound.adminLogin admin (fun idle => by simp [active] at idle) fun _ => clear (id, admin) rfl

theorem Sound.refreshToken (sound : s.Sound) {payload : JwtPayload}
    (clear : ∀ entry ∈ s.refreshed payload, entry.2.isActive = false →
      usable (adminPayload s.auth.now entry.1 entry.2) = false) : (s.refreshToken payload).Sound := by
  unfold AdminSystem.refreshToken
  cases found : s.refreshed payload with
  | none => exact sound.authGuard payload
  | some entry =>
    have now : (s.authGuard payload).auth.now = s.auth.now := by
      unfold AdminSystem.authGuard AuthSystem.authGuard
      split <;> rfl
    refine (sound.authGuard payload).adminLogin entry.2 (fun idle => ?_) fun login => by cases login
    rw [now]
    exact clear entry found idle

theorem Sound.update (sound : s.Sound) {id : Uuid} {dto : UpdateAdminDto} {updatedBy : AuthenticatedUser}
    (clear : ∀ before ∈ s.directory.admin id,
      ∀ saved ∈ (AdminService.update joinColumn s.directory s.auth.now id dto updatedBy).toOption,
        s.SaveClear id before saved.1 (AdminService.needsInvalidation dto before)) :
    (s.update joinColumn id dto updatedBy).Sound := by
  unfold AdminSystem.update
  split
  · rename_i before after directory found done
    have here := clear before found (after, directory) (by simp [done, Except.toOption])
    dsimp only
    split
    · rename_i flagged
      rw [flagged] at here
      exact sound.savedRevoke here
    · rename_i unflagged
      rw [Bool.not_eq_true _ |>.mp unflagged] at here
      exact sound.saved here
  · exact sound

theorem Sound.remove (sound : s.Sound) {id : Uuid} {deletedBy : AuthenticatedUser}
    (clear : ∀ before ∈ s.directory.admin id,
      ∀ saved ∈ (AdminService.remove s.directory s.auth.now id deletedBy).toOption,
        s.SaveClear id before saved.1 false) : (s.remove id deletedBy).Sound := by
  unfold AdminSystem.remove
  split
  · rename_i before after directory found done
    exact sound.saved (clear before found (after, directory) (by simp [done, Except.toOption]))
  · exact sound

theorem Sound.step {action : Time × AdminEvent} (sound : s.Sound) (clear : s.Clear joinColumn action)
    (stepped : s.step joinColumn action = some s') : s'.Sound := by
  obtain ⟨t, event⟩ := action
  simp only [AdminSystem.step] at stepped
  split at stepped
  · rename_i ordered
    have later := sound.later ordered.1
    cases event with
    | login email passed =>
      cases stepped
      exact later.login clear
    | refreshToken payload =>
      cases stepped
      exact later.refreshToken clear
    | update id dto updatedBy =>
      cases stepped
      exact later.update clear
    | remove id deletedBy =>
      cases stepped
      exact later.remove clear
    | logout payload =>
      cases stepped
      exact later.authGuard payload
    | request payload =>
      cases stepped
      exact later.authGuard payload
  · cases stepped

end Steps

end AdminSystem

open AdminSystem

/-- Admin rights follow the record: in a run from empty stores whose calls are all clear they do
so in every state. -/
theorem admin_rights_follow (joinColumn : JoinColumn) (directory : Directory)
    {actions : List (Time × AdminEvent)}
    (clear : Admits (AdminSystem.step joinColumn) (Clear joinColumn) { directory } actions) :
    ∀ taken ∈ trace (AdminSystem.step joinColumn) { directory } actions, taken.after.RightsFollow := by
  have start : Sound { directory } := by
    refine ⟨?_, by simp, by simp⟩
    constructor <;> simp
  intro taken member
  obtain ⟨sound, cleared, stepped⟩ := trace_inv (fun sound clear stepped => Sound.step sound clear stepped) start
    clear taken member
  exact (sound.step cleared stepped).rightsFollow

/-- An admin of a city, in the only row. -/
def cityDesk : Directory where
  admins := [("a", { email := "a@desk", role := .cityAdmin, cityId := some "c" })]
  cities := ["c", "d"]

def superUser : AuthenticatedUser where
  userId := some "r"
  type := some .admin
  role := some .superAdmin

/-- The column wins over the related row. -/
def byColumn : JoinColumn := fun _ column => column.value?

/-- The token of a login at this time. -/
def deskToken (now : Time) : JwtPayload :=
  adminPayload now "a" { email := "a@desk", role := .cityAdmin, cityId := some "c" }

/-- The admin gets another role, and comes back when the flag is gone. -/
def promoted : List (Time × AdminEvent) :=
  [(1000, .login "a@desk" true), (2000, .update "a" { role := .value .opsAdmin } superUser),
   (40000, .request (deskToken 1000)), (86403000, .login "a@desk" true),
   (86404000, .update "a" { isActive := .value false } superUser)]

theorem rights_follow_promotion :
    (run (AdminSystem.step byColumn) { directory := cityDesk } promoted).isSome ∧
      ∀ taken ∈ trace (AdminSystem.step byColumn) { directory := cityDesk } promoted, taken.after.RightsFollow := by
  have clear : Admits (AdminSystem.step byColumn) (Clear byColumn) { directory := cityDesk } promoted := by
    decide
  exact ⟨by decide, admin_rights_follow byColumn cityDesk clear⟩

/-- The admin is removed. -/
def removed : List (Time × AdminEvent) := [(1000, .login "a@desk" true), (2000, .remove "a" superUser)]

/-- The admin gets another role, and comes back on the same day. -/
def comingBack : List (Time × AdminEvent) :=
  [(1000, .update "a" { role := .value .opsAdmin } superUser), (100000, .login "a@desk" true)]

/-- The token of a removed admin passes, and is refreshed; the token of a login after a change of
the role is rejected. -/
theorem removed_admin_passes :
    (∃ s, run (AdminSystem.step byColumn) { directory := cityDesk } removed = some s ∧ ¬ s.RightsFollow) ∧
      (∃ s, run (AdminSystem.step byColumn) { directory := cityDesk }
        (removed ++ [(40000, .refreshToken (deskToken 1000))]) = some s ∧
          ∃ token ∈ s.issued, token.inactive = true ∧ s.Passes 40000 token.payload) ∧
      ∃ s, run (AdminSystem.step byColumn) { directory := cityDesk } comingBack = some s ∧ ¬ s.RightsFollow := by
  refine ⟨?_, ?_, ?_⟩
  · obtain ⟨s, ran, token, issued, changedAt, since, later, elapsed, alive, valid, used⟩ :
        ∃ s ∈ run (AdminSystem.step byColumn) { directory := cityDesk } removed, ∃ token ∈ s.issued,
          ∃ changedAt ∈ token.changedAt, s.auth.now ≤ 40000 ∧ changedAt + 30000 ≤ 40000 ∧
            ¬ token.payload.Expired 40000 ∧ s.auth.Validates 40000 token.payload ∧ usable token.payload = true := by
      decide
    exact ⟨s, ran, fun follow => follow.rejected token issued changedAt since _ later elapsed alive
      (passes_iff.mpr ⟨valid, used⟩)⟩
  · obtain ⟨s, ran, token, issued, idle, valid, used⟩ :
        ∃ s ∈ run (AdminSystem.step byColumn) { directory := cityDesk }
            (removed ++ [(40000, .refreshToken (deskToken 1000))]), ∃ token ∈ s.issued,
          token.inactive = true ∧ s.auth.Validates 40000 token.payload ∧ usable token.payload = true := by
      decide
    exact ⟨s, ran, token, issued, idle, passes_iff.mpr ⟨valid, used⟩⟩
  · obtain ⟨s, ran, token, issued, login, unchanged, later, alive, rejected⟩ :
        ∃ s ∈ run (AdminSystem.step byColumn) { directory := cityDesk } comingBack, ∃ token ∈ s.issued,
          token.login = true ∧ token.changedAt = none ∧ s.auth.now ≤ 100000 ∧
            ¬ token.payload.Expired 100000 ∧ ¬ s.auth.Validates 100000 token.payload := by
      decide
    exact ⟨s, ran, fun follow => rejected (follow.accepted token issued login unchanged _ later alive)⟩

end DriverMicroServices
