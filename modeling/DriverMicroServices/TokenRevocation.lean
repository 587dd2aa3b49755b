import DriverMicroServices.AuthTokens
import DriverMicroServices.Expiring
import DriverMicroServices.Tables.Keyed
import DriverMicroServices.Transitions

/-! The revocation of drivers' tokens. A logout or a deactivation leaves a flag of the driver
in Redis for a day, which a login by email takes away again, and `JwtStrategy` keeps what
it has read of the flag for 30 seconds. -/
namespace DriverMicroServices
open Expiring Tables.Keyed Transitions

structure RevocationCacheEntry where
  isRevoked : Bool
  expiresAt : Time
  deriving DecidableEq, Repr

/-- `revocationCache`, in the order of insertion. -/
abbrev RevocationCache := List (Uuid × RevocationCacheEntry)

namespace RevocationCache

variable {cache : RevocationCache} {userId : Uuid} {entry : RevocationCacheEntry}

def CACHE_TTL_MS : Time := 30 * 1000
def CACHE_MAX_SIZE : Nat := 1000

/-- `evictOldestEntries`: a fifth of the entries go, those that expire first. -/
def evictOldestEntries (cache : RevocationCache) : RevocationCache :=
  let entries := cache.mergeSort fun a b => a.2.expiresAt ≤ b.2.expiresAt
  let removed := (entries.take (CACHE_MAX_SIZE / 5)).map Prod.fst
  cache.filter fun entry => entry.1 ∉ removed

/-- An eviction changes no entry that it leaves. -/
theorem get_evict (held : get cache.evictOldestEntries userId = some entry) :
    get cache userId = some entry := by
  let entries := cache.mergeSort fun a b => a.2.expiresAt ≤ b.2.expiresAt
  exact get_filter (fun id => decide (id ∉ (entries.take (CACHE_MAX_SIZE / 5)).map Prod.fst)) held

end RevocationCache

/-- The keys `revoked_token:<id>` and `auth:otp:<email>`. -/
inductive RedisKey where
  | revokedToken (userId : Uuid)
  | otp (email : String)
  deriving DecidableEq

/-- A token that a driver was issued. -/
structure IssuedToken where
  payload : JwtPayload
  /-- It was issued by a login and not by a refresh. -/
  login : Bool
  /-- The driver's last logout or deactivation, if there was one since. -/
  revokedAt : Option Time := none
  deriving DecidableEq

/-- What `GoogleAuthService.verifyIdToken` answers. -/
structure GoogleUser where
  googleSub : String
  email : String
  name : Option String
  deriving DecidableEq

/-- The tables, Redis and the cache of `JwtStrategy`. Addresses are in lower case. -/
structure AuthSystem where
  now : Time := 0
  adminEmails : List String := []
  /-- The rows in the order in which a query meets them. -/
  drivers : List (Uuid × DriverRecord) := []
  keys : Keys RedisKey := ∅
  otps : String → String := fun _ => ""
  revocationCache : RevocationCache := []
  issued : List IssuedToken := []

/-- What a login answers: the token, if there is one, and whether the driver waits for an
approval. -/
structure LoginResult where
  driverId : Uuid
  accessToken : Option JwtPayload
  pendingApproval : Bool
  profileComplete : Option Bool := none
  isApproved : Option Bool := none
  deriving DecidableEq

namespace AuthSystem

variable (s : AuthSystem)

def findById (id : Uuid) : Option DriverRecord := get s.drivers id

def findByEmail (email : String) : Option (Uuid × DriverRecord) :=
  s.drivers.find? (·.2.email = some email)

def findByGoogleSub (googleSub : String) : Option (Uuid × DriverRecord) :=
  s.drivers.find? (·.2.googleSub = some googleSub)

/-- `GET auth:otp:<email>`. -/
def storedOtp (email : String) : Option String :=
  if s.keys.present s.now (.otp email) then some (s.otps email) else none

/-! ## Revocation -/

/-- `SET revoked_token:<id> true EX 86400`, after a logout or a deactivation. -/
def revoke (driverId : Uuid) : AuthSystem :=
  { s with
    keys := s.keys.set s.now (.revokedToken driverId) 86400000
    issued := s.issued.map fun token =>
      if token.payload.sub = driverId then { token with revokedAt := some s.now } else token }

/-- The answer of `isTokenRevoked` and the cache that it leaves. -/
def isTokenRevoked (userId : Uuid) : Bool × RevocationCache :=
  match (get s.revocationCache userId).filter fun cached => s.now < cached.expiresAt with
  | some cached => (cached.isRevoked, s.revocationCache)
  | none =>
    let isRevoked := s.keys.present s.now (.revokedToken userId)
    let cache : RevocationCache := put s.revocationCache userId
      { isRevoked, expiresAt := s.now + RevocationCache.CACHE_TTL_MS }
    (isRevoked, if RevocationCache.CACHE_MAX_SIZE < cache.length then cache.evictOldestEntries else cache)

/-- `validate`, with the text of its `UnauthorizedException`. -/
def validate (payload : JwtPayload) : Except String AuthenticatedUser × AuthSystem :=
  let (isRevoked, revocationCache) := s.isTokenRevoked payload.sub
  let answer :=
    if isRevoked then .error "Token validation failed: Session invalidated. Please log in again."
    else
      match payload.user? with
      | some user => .ok user
      | none => .error "Token validation failed: Invalid token payload structure"
  (answer, { s with revocationCache })

/-- `AuthGuard("jwt")`: the user of a token, which is validated if it has not expired. -/
def authGuard (payload : JwtPayload) : Option AuthenticatedUser × AuthSystem :=
  if payload.Expired s.now then (none, s)
  else ((s.validate payload).1.toOption, (s.validate payload).2)

/-! ## Logins -/

def issue (payload : JwtPayload) (login : Bool) : AuthSystem :=
  { s with issued := { payload, login } :: s.issued }

def requestEmailOtp (email otp : String) : AuthSystem :=
  if email ∈ s.adminEmails then s
  else
    { s with
      keys := s.keys.set s.now (.otp email) 300000
      otps := Function.update s.otps email otp }

/-- `createDriverFromAuth`: the driver of the address, or a new one. -/
def createDriverFromAuth (email : String) (newId : Uuid) : (Uuid × DriverRecord) × AuthSystem :=
  match s.findByEmail email with
  | some existing => (existing, s)
  | none =>
    let driver : DriverRecord := { email := some email, googleSub := some "" }
    ((newId, driver), { s with drivers := s.drivers ++ [(newId, driver)] })

/-- `verifyEmailOtp`. There is a token for a driver who is not active, too. -/
def verifyEmailOtp (email otp : String) (newId : Uuid) : Except String (LoginResult × AuthSystem) :=
  if (truthy (s.storedOtp email)).isNone ∨ s.storedOtp email ≠ some otp then
    .error "Invalid or expired OTP"
  else
    let ((driverId, driver), s) := s.createDriverFromAuth email newId
    let keys := (s.keys.del (.otp email)).del (.revokedToken driverId)
    let profileComplete :=
      (truthy driver.name).isSome && (truthy driver.phone).isSome && (truthy driver.cityId).isSome
    let payload := driverPayload s.now driverId driver
    .ok
      ({ driverId, accessToken := some payload, pendingApproval := !driver.isActive
         profileComplete := some profileComplete, isApproved := some driver.isActive },
        { s with keys }.issue payload true)

/-- `loginWithGoogle`, once Google has verified the token. -/
def loginWithGoogle (googleUser : GoogleUser) (newId : Uuid) : LoginResult × AuthSystem :=
  match s.findByGoogleSub googleUser.googleSub with
  | none =>
    let driver : DriverRecord :=
      { name := some (googleUser.name.getD "Driver"), email := some googleUser.email
        googleSub := some googleUser.googleSub, authProvider := .google, isActive := false }
    ({ driverId := newId, accessToken := none, pendingApproval := true },
      { s with drivers := s.drivers ++ [(newId, driver)] })
  | some (driverId, driver) =>
    if !driver.isActive then ({ driverId, accessToken := none, pendingApproval := true }, s)
    else
      let payload := driverPayload s.now driverId driver
      ({ driverId, accessToken := some payload, pendingApproval := false }, s.issue payload true)

/-- `refreshToken`, for a driver's token. -/
def refreshToken (payload : JwtPayload) : AuthSystem :=
  let (user, s) := s.authGuard payload
  match user.bind fun user => if user.type = some .driver then user.driverId else none with
  | none => s
  | some driverId =>
    match s.findById driverId with
    | none => s
    | some driver => s.issue (driverPayload s.now driverId driver) false

/-- `logout`, which revokes nothing for an admin. -/
def logout (payload : JwtPayload) : AuthSystem :=
  let (user, s) := s.authGuard payload
  match user.bind fun user => if user.type = some .driver then user.driverId else none with
  | none => s
  | some driverId => s.revoke driverId

/-- `DriversService.setActive`. -/
def setActive (id : Uuid) (isActive : Bool) : AuthSystem :=
  match s.findById id with
  | none => s
  | some driver =>
    let s := { s with drivers := put s.drivers id (driver.activated isActive s.now) }
    if isActive then s else s.revoke id

end AuthSystem

inductive AuthEvent where
  | requestEmailOtp (email otp : String)
  | verifyEmailOtp (email otp : String) (newId : Uuid)
  | loginWithGoogle (googleUser : GoogleUser) (newId : Uuid)
  | refreshToken (payload : JwtPayload)
  | logout (payload : JwtPayload)
  | setActive (id : Uuid) (isActive : Bool)
  /-- Any other request with a token. -/
  | request (payload : JwtPayload)
  deriving DecidableEq

namespace AuthSystem

/-- One call at a time that is not before the last one. An id that is given out is new. -/
def step (s : AuthSystem) : Time × AuthEvent → Option AuthSystem
  | (t, event) =>
    if s.now ≤ t then
      let s := { s with now := t }
      match event with
      | .requestEmailOtp email otp => some (s.requestEmailOtp email otp)
      | .verifyEmailOtp email otp newId =>
        if (s.findById newId).isSome then none
        else
          match s.verifyEmailOtp email otp newId with
          | .ok (_, s) => some s
          | .error _ => some s
      | .loginWithGoogle googleUser newId =>
        if (s.findById newId).isSome then none else some (s.loginWithGoogle googleUser newId).2
      | .refreshToken payload => some (s.refreshToken payload)
      | .logout payload => some (s.logout payload)
      | .setActive id isActive => some (s.setActive id isActive)
      | .request payload => some (s.authGuard payload).2
    else none

/-- A token is accepted at that time, if nothing else happens before. -/
def Validates (s : AuthSystem) (t : Time) (payload : JwtPayload) : Prop :=
  ({ s with now := t }.validate payload).1.toOption.isSome

instance (s : AuthSystem) (t : Time) (payload : JwtPayload) : Decidable (s.Validates t payload) :=
  inferInstanceAs (Decidable (_ = true))

/-- What is asked of every state: until they expire, revoked tokens are rejected from half a
minute on, and those of later logins are accepted. -/
structure TokensHold (s : AuthSystem) : Prop where
  rejected : ∀ token ∈ s.issued, ∀ revokedAt ∈ token.revokedAt, ∀ t, s.now ≤ t →
    revokedAt + 30000 ≤ t → ¬ token.payload.Expired t → ¬ s.Validates t token.payload
  accepted : ∀ token ∈ s.issued, token.login = true → token.revokedAt = none → ∀ t, s.now ≤ t →
    ¬ token.payload.Expired t → s.Validates t token.payload

/-- The cache says that the driver's tokens are revoked. -/
def CachedRevoked (s : AuthSystem) (t : Time) (driverId : Uuid) : Prop :=
  ∃ cached ∈ get s.revocationCache driverId, cached.isRevoked = true ∧ t < cached.expiresAt

instance (s : AuthSystem) (t : Time) (driverId : Uuid) : Decidable (s.CachedRevoked t driverId) :=
  Option.decidableExistsMem _

/-- A revoked token that has expired by now, or does within half a minute of the revocation. -/
def Spent (payload : JwtPayload) (revokedAt now : Time) : Prop :=
  payload.Expired now ∨ payload.Expired (revokedAt + 30000)

instance (payload : JwtPayload) (revokedAt now : Time) : Decidable (Spent payload revokedAt now) :=
  inferInstanceAs (Decidable (_ ∨ _))

/-- The driver of an address: the one who has it, or the new one. -/
def ownerOf (s : AuthSystem) (email : String) (newId : Uuid) : Uuid :=
  ((s.findByEmail email).map Prod.fst).getD newId

/-- What a login must find: one by email, which takes the flag away, no revoked token that
outlasts it and the half minute after the revocation; one by Google no flag; and neither
of them a cached answer that the driver is revoked. -/
def Clear (s : AuthSystem) : Time × AuthEvent → Prop
  | (t, .verifyEmailOtp email otp newId) =>
    otp ≠ "" → ({ s with now := t }).storedOtp email = some otp →
      (∀ token ∈ s.issued, token.payload.sub = s.ownerOf email newId →
        ∀ revokedAt ∈ token.revokedAt, Spent token.payload revokedAt t) ∧
      ¬ s.CachedRevoked t (s.ownerOf email newId)
  | (t, .loginWithGoogle googleUser _) =>
    ∀ entry ∈ s.findByGoogleSub googleUser.googleSub, entry.2.isActive = true →
      s.keys.present t (.revokedToken entry.1) = false ∧ ¬ s.CachedRevoked t entry.1
  | _ => True

instance (s : AuthSystem) : ∀ action, Decidable (s.Clear action)
  | (_, .verifyEmailOtp ..) => inferInstanceAs (Decidable (_ → _ → _))
  | (_, .loginWithGoogle ..) => inferInstanceAs (Decidable (∀ entry ∈ _, _))
  | (_, .requestEmailOtp ..) => isTrue trivial
  | (_, .refreshToken _) => isTrue trivial
  | (_, .logout _) => isTrue trivial
  | (_, .setActive ..) => isTrue trivial
  | (_, .request _) => isTrue trivial

variable {s s' : AuthSystem} {t : Time} {driverId : Uuid} {payload : JwtPayload}

/-! ## One look at the flag -/

theorem isTokenRevoked_iff : (s.isTokenRevoked driverId).1 = true ↔
    s.CachedRevoked s.now driverId ∨ s.keys.present s.now (.revokedToken driverId) = true ∧
      ∀ cached ∈ get s.revocationCache driverId, cached.expiresAt ≤ s.now := by
  unfold isTokenRevoked CachedRevoked
  cases held : get s.revocationCache driverId with
  | none => simp
  | some cached =>
    by_cases live : s.now < cached.expiresAt
    · simp [Option.filter_some, live, Int.not_le.mpr live]
    · simp [Option.filter_some, live, Int.not_lt.mp live]

/-- The cache has the entries that it had, and perhaps the new one. -/
theorem isTokenRevoked_cache {cached : RevocationCacheEntry} {userId : Uuid}
    (held : cached ∈ get (s.isTokenRevoked driverId).2 userId) :
    cached ∈ get s.revocationCache userId ∨
      cached = ⟨s.keys.present s.now (.revokedToken userId), s.now + 30000⟩ := by
  unfold isTokenRevoked at held
  split at held
  · exact .inl held
  · have stored : cached ∈ get (put s.revocationCache driverId
        ⟨s.keys.present s.now (.revokedToken driverId), s.now + 30000⟩) userId := by
      dsimp only at held
      split at held
      · exact RevocationCache.get_evict held
      · exact held
    by_cases same : userId = driverId
    · subst same
      rw [get_put_self] at stored
      exact .inr (Option.some.inj stored).symm
    · rw [get_put_ne same] at stored
      exact .inl stored

theorem validates_iff : s.Validates t payload ↔
    (({ s with now := t }).isTokenRevoked payload.sub).1 = false ∧ payload.user?.isSome := by
  unfold Validates validate
  cases answer : (({ s with now := t }).isTokenRevoked payload.sub).1 with
  | true => simp [answer, Except.toOption]
  | false => cases payload.user? <;> simp [answer, Except.toOption]

/-! ## The invariant -/

/-- How flags, cache and tokens stand to each other. -/
structure Sound (s : AuthSystem) : Prop where
  cached : ∀ id, ∀ cached ∈ get s.revocationCache id, cached.expiresAt ≤ s.now + 30000
  /-- An answer from before the flag does not outlast it. -/
  flagged : ∀ id ends, s.keys.lookup (.revokedToken id) = some ends → s.now < ends →
    ∀ cached ∈ get s.revocationCache id, cached.isRevoked = false → cached.expiresAt < ends
  shaped : ∀ token ∈ s.issued, token.payload.user?.isSome ∧
    ∀ t, s.now + 43200000 ≤ t → token.payload.Expired t
  revoked : ∀ token ∈ s.issued, ∀ revokedAt ∈ token.revokedAt,
    Spent token.payload revokedAt s.now ∨
      (∃ ends, s.keys.lookup (.revokedToken token.payload.sub) = some ends ∧
        ∀ t, ends ≤ t → token.payload.Expired t) ∧
      ∀ cached ∈ get s.revocationCache token.payload.sub, cached.isRevoked = false →
        cached.expiresAt ≤ revokedAt + 30000
  loggedIn : ∀ token ∈ s.issued, token.login = true → token.revokedAt = none →
    s.keys.present s.now (.revokedToken token.payload.sub) = false ∧
      ¬ s.CachedRevoked s.now token.payload.sub

theorem CachedRevoked.mono (ordered : s.now ≤ t) (revoked : s.CachedRevoked t driverId) :
    s.CachedRevoked s.now driverId := by
  obtain ⟨cached, held, isRevoked, live⟩ := revoked
  exact ⟨cached, held, isRevoked, Int.lt_of_le_of_lt ordered live⟩

theorem Sound.tokensHold (sound : s.Sound) : s.TokensHold := by
  constructor
  · intro token issued revokedAt since t later elapsed alive
    rw [validates_iff]
    rintro ⟨unrevoked, -⟩
    rw [Bool.eq_false_iff, ne_eq, isTokenRevoked_iff, not_or] at unrevoked
    rcases sound.revoked token issued revokedAt since with spent | ⟨⟨ends, flag, outlasts⟩, answers⟩
    · exact spent.elim (fun expired => alive (expired.mono later)) fun expired => alive (expired.mono elapsed)
    · refine unrevoked.2 ⟨Keys.present_iff.mpr ⟨ends, flag, ?_⟩, fun cached held => ?_⟩
      · exact Int.not_le.mp fun ended => alive (outlasts t ended)
      · cases answer : cached.isRevoked with
        | false => exact Int.le_trans (answers cached held answer) elapsed
        | true => exact Int.not_lt.mp fun live => unrevoked.1 ⟨cached, held, answer, live⟩
  · intro token issued login unrevoked t later alive
    obtain ⟨absent, uncached⟩ := sound.loggedIn token issued login unrevoked
    rw [validates_iff]
    refine ⟨?_, (sound.shaped token issued).1⟩
    rw [Bool.eq_false_iff, ne_eq, isTokenRevoked_iff]
    rintro (revoked | ⟨present, -⟩)
    · exact uncached (revoked.mono later)
    · have gone : s.keys.present t (.revokedToken token.payload.sub) = false :=
        Keys.absent_after later absent
      exact absurd present (by simp [gone])

theorem Sound.later (sound : s.Sound) (ordered : s.now ≤ t) : ({ s with now := t }).Sound where
  cached := fun id cached held =>
    Int.le_trans (sound.cached id cached held) (Int.add_le_add_right ordered _)
  flagged := fun id ends flag lasts =>
    sound.flagged id ends flag (Int.lt_of_le_of_lt ordered lasts)
  shaped := fun token issued => ⟨(sound.shaped token issued).1, fun _ elapsed =>
    (sound.shaped token issued).2 _ (Int.le_trans (Int.add_le_add_right ordered _) elapsed)⟩
  revoked := by
    intro token issued revokedAt since
    exact (sound.revoked token issued revokedAt since).imp_left fun spent =>
      spent.imp_left fun expired => expired.mono ordered
  loggedIn := by
    intro token issued login unrevoked
    obtain ⟨absent, uncached⟩ := sound.loggedIn token issued login unrevoked
    exact ⟨Keys.absent_after ordered absent, fun revoked => uncached (revoked.mono ordered)⟩

/-- Looks at flags keep the invariant, and so does what touches neither flags nor tokens. -/
theorem Sound.of_reads (sound : s.Sound) (now : s'.now = s.now)
    (flags : ∀ id, s'.keys.lookup (.revokedToken id) = s.keys.lookup (.revokedToken id))
    (reads : ∀ id, ∀ cached ∈ get s'.revocationCache id, cached ∈ get s.revocationCache id ∨
      cached = ⟨s.keys.present s.now (.revokedToken id), s.now + 30000⟩)
    (issued : s'.issued = s.issued) : s'.Sound where
  cached := by
    intro id cached held
    rw [now]
    rcases reads id cached held with old | rfl
    · exact sound.cached id cached old
    · exact Int.le_refl _
  flagged := by
    intro id ends flag lasts cached held answer
    rw [flags] at flag
    rw [now] at lasts
    rcases reads id cached held with old | rfl
    · exact sound.flagged id ends flag lasts cached old answer
    · have there := Keys.present_iff.mpr ⟨ends, flag, lasts⟩
      simp [there] at answer
  shaped := by
    rw [issued, now]
    exact sound.shaped
  revoked := by
    intro token member revokedAt since
    rw [issued] at member
    rw [now, flags]
    rcases sound.revoked token member revokedAt since with spent | ⟨⟨ends, flag, outlasts⟩, answers⟩
    · exact .inl spent
    · by_cases lasts : s.now < ends
      · refine .inr ⟨⟨ends, flag, outlasts⟩, fun cached held answer => ?_⟩
        rcases reads _ cached held with old | rfl
        · exact answers cached old answer
        · have there := Keys.present_iff.mpr ⟨ends, flag, lasts⟩
          simp [there] at answer
      · exact .inl (.inl (outlasts _ (Int.not_lt.mp lasts)))
  loggedIn := by
    intro token member login unrevoked
    rw [issued] at member
    obtain ⟨absent, uncached⟩ := sound.loggedIn token member login unrevoked
    rw [now]
    refine ⟨(Keys.present_congr (flags _)).trans absent, ?_⟩
    · rintro ⟨cached, held, answer, live⟩
      rcases reads _ cached held with old | rfl
      · exact uncached ⟨cached, old, answer, live⟩
      · simp [absent] at answer

theorem Sound.authGuard (sound : s.Sound) (payload : JwtPayload) : (s.authGuard payload).2.Sound := by
  unfold AuthSystem.authGuard
  split
  · exact sound
  · refine sound.of_reads rfl (fun _ => rfl) (fun id cached held => isTokenRevoked_cache held) rfl

theorem Sound.revoke (sound : s.Sound) (driverId : Uuid) : (s.revoke driverId).Sound := by
  have others {id : Uuid} (other : id ≠ driverId) :
      (s.revoke driverId).keys.lookup (.revokedToken id) = s.keys.lookup (.revokedToken id) :=
    Keys.lookup_set_ne (by simpa using other)
  have marked {token : IssuedToken} (member : token ∈ (s.revoke driverId).issued) :
      ∃ before ∈ s.issued, token.payload = before.payload ∧ token.login = before.login ∧
        token.revokedAt = if before.payload.sub = driverId then some s.now else before.revokedAt := by
    obtain ⟨before, held, rfl⟩ := List.mem_map.mp member
    refine ⟨before, held, ?_⟩
    split <;> exact ⟨rfl, rfl, rfl⟩
  constructor
  · exact sound.cached
  · intro id ends flag lasts cached held answer
    by_cases same : id = driverId
    · subst same
      rw [show (s.revoke id).keys.lookup (.revokedToken id) = _ from Keys.lookup_set_self] at flag
      cases flag
      refine Int.lt_of_le_of_lt (sound.cached id cached held) ?_
      exact Int.add_lt_add_left (by decide) _
    · rw [others same] at flag
      exact sound.flagged id ends flag lasts cached held answer
  · intro token member
    obtain ⟨before, held, payload, -⟩ := marked member
    rw [payload]
    exact sound.shaped before held
  · intro token member revokedAt since
    obtain ⟨before, held, payload, -, marks⟩ := marked member
    rw [marks] at since
    rw [payload]
    by_cases same : before.payload.sub = driverId
    · rw [if_pos same] at since
      cases since
      refine .inr ⟨⟨s.now + 86400000, ?_, fun t elapsed => ?_⟩, fun cached held _ => sound.cached _ _ held⟩
      · rw [same]
        exact Keys.lookup_set_self
      · refine (sound.shaped before held).2 t (Int.le_trans ?_ elapsed)
        exact Int.add_le_add_left (by decide) _
    · rw [if_neg same] at since
      rw [others same]
      exact sound.revoked before held revokedAt since
  · intro token member login unrevoked
    obtain ⟨before, held, payload, logged, marks⟩ := marked member
    rw [marks] at unrevoked
    rw [payload]
    by_cases same : before.payload.sub = driverId
    · rw [if_pos same] at unrevoked
      cases unrevoked
    · rw [if_neg same] at unrevoked
      rw [logged] at login
      obtain ⟨absent, uncached⟩ := sound.loggedIn before held login unrevoked
      exact ⟨(Keys.present_congr (others same)).trans absent, uncached⟩

/-- A driver's token is issued; one of a login where nothing says that he is revoked. -/
theorem Sound.issue (sound : s.Sound) (driver : DriverRecord) {login : Bool}
    (clear : login = true → s.keys.present s.now (.revokedToken driverId) = false ∧
      ¬ s.CachedRevoked s.now driverId) :
    (s.issue (driverPayload s.now driverId driver) login).Sound where
  cached := sound.cached
  flagged := sound.flagged
  shaped := by
    refine List.forall_mem_cons.mpr ⟨⟨rfl, fun t elapsed => driverPayload_ends elapsed⟩, sound.shaped⟩
  revoked := by
    refine List.forall_mem_cons.mpr ⟨fun _ since => ?_, sound.revoked⟩
    cases since
  loggedIn := List.forall_mem_cons.mpr ⟨fun login _ => clear login, sound.loggedIn⟩

/-- The flag is taken away, when none of the revoked tokens could use that. -/
theorem Sound.unflag (sound : s.Sound)
    (ended : ∀ token ∈ s.issued, token.payload.sub = driverId → ∀ revokedAt ∈ token.revokedAt,
      Spent token.payload revokedAt s.now) :
    ({ s with keys := s.keys.del (.revokedToken driverId) }).Sound := by
  have others {id : Uuid} (other : id ≠ driverId) :
      (s.keys.del (.revokedToken driverId)).lookup (.revokedToken id) = s.keys.lookup (.revokedToken id) :=
    Keys.lookup_del_ne (by simpa using other)
  constructor
  · exact sound.cached
  · intro id ends flag lasts
    by_cases same : id = driverId
    · subst same
      rw [Keys.lookup_del_self] at flag
      cases flag
    · rw [others same] at flag
      exact sound.flagged id ends flag lasts
  · exact sound.shaped
  · intro token member revokedAt since
    by_cases same : token.payload.sub = driverId
    · exact .inl (ended token member same revokedAt since)
    · dsimp only
      rw [others same]
      exact sound.revoked token member revokedAt since
  · intro token member login unrevoked
    obtain ⟨absent, uncached⟩ := sound.loggedIn token member login unrevoked
    refine ⟨?_, uncached⟩
    by_cases same : token.payload.sub = driverId
    · rw [same]
      exact Keys.present_del_self
    · exact (Keys.present_congr (others same)).trans absent

/-! ## The calls -/

/-- A right code gives a token and takes the flag away; a wrong one changes nothing. -/
theorem verifyEmailOtp_cases (s : AuthSystem) (email otp : String) (newId : Uuid) :
    (∃ error, s.verifyEmailOtp email otp newId = .error error) ∧
        ¬ (otp ≠ "" ∧ s.storedOtp email = some otp) ∨
      ∃ result driver drivers, otp ≠ "" ∧ s.storedOtp email = some otp ∧
        s.verifyEmailOtp email otp newId = .ok (result,
          { s with
            drivers
            keys := (s.keys.del (.otp email)).del (.revokedToken (s.ownerOf email newId)) }.issue
              (driverPayload s.now (s.ownerOf email newId) driver) true) := by
  unfold verifyEmailOtp
  split
  · rename_i wrong
    refine .inl ⟨⟨_, rfl⟩, ?_⟩
    rintro ⟨filled, right⟩
    rcases wrong with empty | other
    · rw [right, truthy_of_ne filled] at empty
      cases empty
    · exact other right
  · rename_i right
    rw [not_or, not_not] at right
    obtain ⟨filled, right⟩ := right
    have nonempty : otp ≠ "" := by
      rintro rfl
      rw [right] at filled
      exact filled rfl
    refine .inr ?_
    unfold createDriverFromAuth ownerOf
    cases s.findByEmail email with
    | none => exact ⟨_, _, _, nonempty, right, rfl⟩
    | some existing => exact ⟨_, _, _, nonempty, right, rfl⟩

/-- A login by Google gives a token to an active driver and to no other. -/
theorem loginWithGoogle_cases (s : AuthSystem) (googleUser : GoogleUser) (newId : Uuid) :
    (∃ drivers, (s.loginWithGoogle googleUser newId).2 = { s with drivers } ∧
        ∀ entry ∈ s.findByGoogleSub googleUser.googleSub, entry.2.isActive = false) ∨
      ∃ entry ∈ s.findByGoogleSub googleUser.googleSub, entry.2.isActive = true ∧
        (s.loginWithGoogle googleUser newId).2 = s.issue (driverPayload s.now entry.1 entry.2) true := by
  unfold loginWithGoogle
  cases s.findByGoogleSub googleUser.googleSub with
  | none => exact .inl ⟨_, rfl, by simp⟩
  | some entry =>
    obtain ⟨driverId, driver⟩ := entry
    cases active : driver.isActive with
    | false => exact .inl ⟨s.drivers, by simp [active], by simp [active]⟩
    | true => exact .inr ⟨_, rfl, active, by simp [active]⟩

theorem Sound.requestEmailOtp (sound : s.Sound) (email otp : String) :
    (s.requestEmailOtp email otp).Sound := by
  unfold AuthSystem.requestEmailOtp
  split
  · exact sound
  · refine sound.of_reads rfl (fun id => Keys.lookup_set_ne (by simp)) (fun _ _ held => .inl held) rfl

theorem Sound.refreshToken (sound : s.Sound) (payload : JwtPayload) : (s.refreshToken payload).Sound := by
  have guarded := sound.authGuard payload
  unfold AuthSystem.refreshToken
  dsimp only
  split
  · exact guarded
  · split
    · exact guarded
    · exact guarded.issue _ fun refreshed => by cases refreshed

theorem Sound.logout (sound : s.Sound) (payload : JwtPayload) : (s.logout payload).Sound := by
  have guarded := sound.authGuard payload
  unfold AuthSystem.logout
  dsimp only
  split
  · exact guarded
  · exact guarded.revoke _

theorem Sound.drivers (sound : s.Sound) (drivers : List (Uuid × DriverRecord)) :
    ({ s with drivers }).Sound :=
  sound.of_reads rfl (fun _ => rfl) (fun _ _ held => .inl held) rfl

theorem Sound.setActive (sound : s.Sound) (id : Uuid) (isActive : Bool) :
    (s.setActive id isActive).Sound := by
  unfold AuthSystem.setActive
  split
  · exact sound
  · dsimp only
    split
    · exact sound.drivers _
    · exact (sound.drivers _).revoke id

theorem Sound.step {action : Time × AuthEvent} (sound : s.Sound) (clear : s.Clear action)
    (stepped : s.step action = some s') : s'.Sound := by
  obtain ⟨t, event⟩ := action
  simp only [AuthSystem.step] at stepped
  split at stepped
  · rename_i ordered
    have later := sound.later ordered
    cases event with
    | requestEmailOtp email otp =>
      cases stepped
      exact later.requestEmailOtp email otp
    | verifyEmailOtp email otp newId =>
      dsimp only at stepped
      split at stepped
      · cases stepped
      · rcases verifyEmailOtp_cases { s with now := t } email otp newId with
          ⟨⟨error, refused⟩, -⟩ | ⟨result, driver, drivers, filled, right, logged⟩
        · rw [refused] at stepped
          cases stepped
          exact later
        · rw [logged] at stepped
          cases stepped
          obtain ⟨ended, uncached⟩ := clear filled right
          have unflagged : ({ s with
              now := t, drivers
              keys := (s.keys.del (.otp email)).del (.revokedToken (s.ownerOf email newId)) }).Sound := by
            refine Sound.unflag (s := { s with now := t, drivers, keys := s.keys.del (.otp email) }) ?_ ended
            exact later.of_reads rfl (fun id => Keys.lookup_del_ne (by simp)) (fun _ _ held => .inl held) rfl
          exact unflagged.issue _ fun _ => ⟨Keys.present_del_self, uncached⟩
    | loginWithGoogle googleUser newId =>
      dsimp only at stepped
      split at stepped
      · cases stepped
      · cases stepped
        rcases loginWithGoogle_cases { s with now := t } googleUser newId with
          ⟨drivers, unlogged, -⟩ | ⟨entry, found, active, logged⟩
        · rw [unlogged]
          exact later.drivers _
        · rw [logged]
          exact later.issue _ fun _ => clear entry found active
    | refreshToken payload =>
      cases stepped
      exact later.refreshToken payload
    | logout payload =>
      cases stepped
      exact later.logout payload
    | setActive id isActive =>
      cases stepped
      exact later.setActive id isActive
    | request payload =>
      cases stepped
      exact later.authGuard payload
  · cases stepped

/-! ## What the condition leaves out -/

theorem Validates.unrevoked (accepted : s.Validates t payload) :
    ¬ s.CachedRevoked t payload.sub ∧ (s.keys.present t (.revokedToken payload.sub) = true →
      ∃ cached ∈ get s.revocationCache payload.sub, t < cached.expiresAt) := by
  have answer := (validates_iff.mp accepted).1
  rw [Bool.eq_false_iff, ne_eq, isTokenRevoked_iff, not_or, not_and] at answer
  refine ⟨answer.1, fun present => ?_⟩
  by_contra expired
  refine answer.2 present fun cached held => Int.not_lt.mp fun live => expired ⟨cached, held, live⟩

/-- A token that is not rejected where no flag stands: a cached answer still holds. -/
theorem Validates.of_absent (shaped : payload.user?.isSome)
    (absent : s.keys.present t (.revokedToken payload.sub) = false)
    (uncached : ¬ s.CachedRevoked t payload.sub) : s.Validates t payload := by
  refine validates_iff.mpr ⟨?_, shaped⟩
  rw [Bool.eq_false_iff, ne_eq, isTokenRevoked_iff]
  rintro (revoked | ⟨present, -⟩)
  · exact uncached revoked
  · exact absurd present (by simp [absent])

/-- No flag stands of a driver who is not rejected for half a minute: it would outlast the cached
answer that there is none. -/
theorem Sound.unflagged (sound : s.Sound)
    (unrevoked : ∀ t, s.now ≤ t → t ≤ s.now + 30000 → ¬ s.CachedRevoked t driverId ∧
      (s.keys.present t (.revokedToken driverId) = true →
        ∃ cached ∈ get s.revocationCache driverId, t < cached.expiresAt)) :
    s.keys.present s.now (.revokedToken driverId) = false := by
  obtain ⟨uncached, answered⟩ :=
    unrevoked s.now (Int.le_refl _) (Int.le_add_of_nonneg_right (by decide))
  by_contra present
  rw [Bool.not_eq_false] at present
  obtain ⟨cached, held, live⟩ := answered present
  obtain ⟨ends, flag, lasts⟩ := Keys.present_iff.mp present
  have clean : cached.isRevoked = false := by
    rw [Bool.eq_false_iff]
    exact fun revoked => uncached ⟨cached, held, revoked, live⟩
  have outlasts := sound.flagged _ ends flag lasts cached held clean
  obtain ⟨cached', held', live'⟩ :=
    (unrevoked cached.expiresAt (Int.le_of_lt live) (sound.cached _ cached held)).2
      (Keys.present_iff.mpr ⟨ends, flag, outlasts⟩)
  rw [Option.mem_unique held' held] at live'
  exact absurd live' (Int.lt_irrefl _)

theorem CachedRevoked.earlier {later : Time} (ordered : t ≤ later)
    (revoked : s.CachedRevoked later driverId) : s.CachedRevoked t driverId := by
  obtain ⟨cached, held, isRevoked, live⟩ := revoked
  exact ⟨cached, held, isRevoked, Int.lt_of_le_of_lt ordered live⟩

/-- A login whose token is accepted, and after which revoked tokens are rejected, was clear. -/
theorem TokensHold.clear {action : Time × AuthEvent} (sound : s.Sound)
    (stepped : s.step action = some s') (hold : s'.TokensHold) : s.Clear action := by
  obtain ⟨t, event⟩ := action
  simp only [AuthSystem.step] at stepped
  split at stepped
  · rename_i ordered
    have later := sound.later ordered
    cases event with
    | verifyEmailOtp email otp newId =>
      intro filled right
      dsimp only at stepped
      split at stepped
      · cases stepped
      · rcases verifyEmailOtp_cases { s with now := t } email otp newId with
          ⟨-, wrong⟩ | ⟨result, driver, drivers, -, -, logged⟩
        · exact absurd ⟨filled, right⟩ wrong
        · rw [logged] at stepped
          cases stepped
          have accepted := hold.accepted _ (List.mem_cons_self ..) rfl rfl t (Int.le_refl t)
            (driverPayload_lasts (Int.le_add_of_nonneg_right (by decide)))
          have uncached : ¬ s.CachedRevoked t (s.ownerOf email newId) := accepted.unrevoked.1
          refine ⟨fun token member mine revokedAt since => ?_, uncached⟩
          -- nothing would reject an old token from the half minute on
          have ended (t' : Time) (after : t ≤ t') (elapsed : revokedAt + 30000 ≤ t') :
              token.payload.Expired t' := by
            by_contra alive
            refine hold.rejected token (List.mem_cons_of_mem _ member) revokedAt since t' after elapsed alive ?_
            refine Validates.of_absent (sound.shaped token member).1 ?_ ?_
            · rw [mine]
              exact Keys.present_del_self
            · rw [mine]
              exact fun revoked => uncached (CachedRevoked.earlier (s := s) after revoked)
          rcases Int.le_total t (revokedAt + 30000) with soon | elapsed
          · exact .inr (ended _ soon (Int.le_refl _))
          · exact .inl (ended t (Int.le_refl t) elapsed)
    | loginWithGoogle googleUser newId =>
      intro entry found active
      dsimp only at stepped
      split at stepped
      · cases stepped
      · cases stepped
        rcases loginWithGoogle_cases { s with now := t } googleUser newId with
          ⟨drivers, -, inactive⟩ | ⟨entry', found', -, logged⟩
        · rw [inactive entry found] at active
          cases active
        · rw [show s.findByGoogleSub googleUser.googleSub = some entry' from found',
            Option.mem_some_iff] at found
          subst found
          rw [logged] at hold
          have holds (t' : Time) (after : t ≤ t') (soon : t' ≤ t + 30000) :=
            hold.accepted _ (List.mem_cons_self ..) rfl rfl t' after (driverPayload_lasts soon)
          have accepted := (holds t (Int.le_refl t) (Int.le_add_of_nonneg_right (by decide))).unrevoked
          refine ⟨later.unflagged fun t' after soon => (holds t' after soon).unrevoked, accepted.1⟩
    | _ => trivial
  · cases stepped

end AuthSystem

open AuthSystem

/-- Revoked tokens stay revoked: in a run from empty stores the tokens hold after every
call just when every login is clear. -/
theorem tokens_revoked (adminEmails : List String) (drivers : List (Uuid × DriverRecord))
    {actions : List (Time × AuthEvent)} {s : AuthSystem}
    (ran : run step { adminEmails, drivers } actions = some s) :
    (∀ taken ∈ trace step { adminEmails, drivers } actions, taken.after.TokensHold) ↔
      Admits step Clear { adminEmails, drivers } actions := by
  have start : Sound { adminEmails, drivers } := by
    constructor <;> simp
  have exact_here : ∀ {s : AuthSystem} {action s'}, Sound s → step s action = some s' →
      (s'.TokensHold ↔ Clear s action) := by
    intro s action s' sound stepped
    exact ⟨TokensHold.clear sound stepped, fun clear => (sound.step clear stepped).tokensHold⟩
  exact trace_good_iff exact_here (fun sound clear stepped => sound.step clear stepped) start ran

/-- An active driver who has used both ways to log in. -/
def rider : DriverRecord where
  name := some "X"
  phone := some "1"
  email := some "x@riders"
  googleSub := some "g"
  cityId := some "c"

/-- A login by email, a logout and a rejected request. -/
def loggedOut : List (Time × AuthEvent) :=
  [(0, .requestEmailOtp "x@riders" "123456"), (1000, .verifyEmailOtp "x@riders" "123456" "n"),
   (2000, .logout (driverPayload 1000 "x" rider)), (40000, .request (driverPayload 1000 "x" rider))]

/-- The driver comes back when his old token has expired. -/
def nextDay : List (Time × AuthEvent) :=
  loggedOut ++
    [(43201000, .requestEmailOtp "x@riders" "654321"),
     (43202000, .verifyEmailOtp "x@riders" "654321" "n"),
     (43203000, .refreshToken (driverPayload 43202000 "x" rider)),
     (43204000, .loginWithGoogle ⟨"g", "x@riders", none⟩ "n")]

theorem tokens_revoked_next_day :
    (run step { drivers := [("x", rider)] } nextDay).isSome ∧
      ∀ taken ∈ trace step { drivers := [("x", rider)] } nextDay, taken.after.TokensHold := by
  have runs : (run step { drivers := [("x", rider)] } nextDay).isSome := by decide
  refine ⟨runs, ?_⟩
  obtain ⟨s, ran⟩ := Option.isSome_iff_exists.mp runs
  exact (tokens_revoked [] [("x", rider)] ran).mpr (by decide)

/-- He comes back by email on the same day, after his cached answer has expired. -/
def sameDay : List (Time × AuthEvent) :=
  loggedOut ++
    [(80000, .requestEmailOtp "x@riders" "654321"), (90000, .verifyEmailOtp "x@riders" "654321" "n")]

/-- He comes back by Google. -/
def byGoogle : List (Time × AuthEvent) :=
  loggedOut ++ [(80000, .loginWithGoogle ⟨"g", "x@riders", none⟩ "n")]

/-- He comes back by email as soon as his old token is rejected, which is when it has
nearly expired. -/
def atOnce : List (Time × AuthEvent) :=
  loggedOut.take 3 ++
    [(43195000, .requestEmailOtp "x@riders" "654321"),
     (43195000, .request (driverPayload 1000 "x" rider)),
     (43202000, .verifyEmailOtp "x@riders" "654321" "n")]

/-- On the same day the old token is accepted again; the token of a login by Google is
rejected, and so is one that is issued while the rejection is cached. -/
theorem revoked_token_accepted :
    (∃ s, run step { drivers := [("x", rider)] } sameDay = some s ∧ ¬ s.TokensHold) ∧
      (∃ s, run step { drivers := [("x", rider)] } byGoogle = some s ∧ ¬ s.TokensHold) ∧
      ∃ s, run step { drivers := [("x", rider)] } atOnce = some s ∧ ¬ s.TokensHold := by
  refine ⟨?_, ?_, ?_⟩
  · obtain ⟨s, ran, token, issued, revokedAt, since, later, elapsed, alive, accepted⟩ :
        ∃ s ∈ run step { drivers := [("x", rider)] } sameDay, ∃ token ∈ s.issued,
          ∃ revokedAt ∈ token.revokedAt, s.now ≤ 90000 ∧ revokedAt + 30000 ≤ 90000 ∧
            ¬ token.payload.Expired 90000 ∧ s.Validates 90000 token.payload := by
      decide
    exact ⟨s, ran, fun hold => hold.rejected token issued revokedAt since _ later elapsed alive accepted⟩
  · obtain ⟨s, ran, token, issued, login, unrevoked, later, alive, rejected⟩ :
        ∃ s ∈ run step { drivers := [("x", rider)] } byGoogle, ∃ token ∈ s.issued,
          token.login = true ∧ token.revokedAt = none ∧ s.now ≤ 80000 ∧
            ¬ token.payload.Expired 80000 ∧ ¬ s.Validates 80000 token.payload := by
      decide
    exact ⟨s, ran, fun hold => rejected (hold.accepted token issued login unrevoked _ later alive)⟩
  · obtain ⟨s, ran, token, issued, login, unrevoked, later, alive, rejected⟩ :
        ∃ s ∈ run step { drivers := [("x", rider)] } atOnce, ∃ token ∈ s.issued,
          token.login = true ∧ token.revokedAt = none ∧ s.now ≤ 43202000 ∧
            ¬ token.payload.Expired 43202000 ∧ ¬ s.Validates 43202000 token.payload := by
      decide
    exact ⟨s, ran, fun hold => rejected (hold.accepted token issued login unrevoked _ later alive)⟩

end DriverMicroServices
