import DriverMicroServices.TokenRevocation

/-! Logins by a code that is sent to an address. Redis keeps the code of the latest request
for five minutes and a login takes it away, so a code counts just when the history says
so: it was requested last, not too long ago, and has not been given since. Wrong codes are
not counted and change nothing. -/
namespace DriverMicroServices
open Expiring Transitions

/-- What ends a code of the address: the next request, or a login with it. -/
def AuthEvent.Ends (email otp : String) : AuthEvent → Prop
  | .requestEmailOtp email' _ => email' = email
  | .verifyEmailOtp email' otp' _ => email' = email ∧ otp' = otp
  | _ => False

/-- The code was requested at this time, by nobody in the list of admins, and stands since. -/
def Requested (adminEmails : List String) (past : List (Time × AuthEvent)) (email otp : String)
    (requestedAt : Time) : Prop :=
  email ∉ adminEmails ∧ ∃ before after, past = before ++ (requestedAt, .requestEmailOtp email otp) :: after ∧
    ∀ entry ∈ after, ¬ entry.2.Ends email otp

section Requests

variable {adminEmails : List String} {past : List (Time × AuthEvent)} {email otp : String}
  {requestedAt t : Time} {event : AuthEvent}

theorem requested_concat : Requested adminEmails (past ++ [(t, event)]) email otp requestedAt ↔
    email ∉ adminEmails ∧ event = .requestEmailOtp email otp ∧ requestedAt = t ∨
      Requested adminEmails past email otp requestedAt ∧ ¬ event.Ends email otp := by
  constructor
  · rintro ⟨other, before, after, parts, stands⟩
    induction after using List.reverseRecOn with
    | nil =>
      obtain ⟨_, same⟩ := List.append_inj' parts rfl
      cases same
      exact .inl ⟨other, rfl, rfl⟩
    | append_singleton after last _ =>
      rw [← List.cons_append, ← List.append_assoc] at parts
      obtain ⟨earlier, same⟩ := List.append_inj' parts rfl
      cases same
      refine .inr ⟨⟨other, before, after, earlier, fun entry member => ?_⟩, ?_⟩
      · exact stands entry (List.mem_append_left _ member)
      · exact stands _ (List.mem_append_right _ (List.mem_singleton_self _))
  · rintro (⟨other, rfl, rfl⟩ | ⟨⟨other, before, after, rfl, stands⟩, goes⟩)
    · exact ⟨other, past, [], rfl, fun _ member => by cases member⟩
    · refine ⟨other, before, after ++ [(t, event)], by simp, fun entry member => ?_⟩
      rcases List.mem_append.mp member with member | member
      · exact stands entry member
      · cases List.mem_singleton.mp member
        exact goes

end Requests

namespace AuthSystem

/-- Redis keeps the codes that the history says. -/
structure CodesFollow (adminEmails : List String) (past : List (Time × AuthEvent)) (s : AuthSystem) :
    Prop where
  admins : s.adminEmails = adminEmails
  codes : ∀ t, s.now ≤ t → ∀ email otp, otp ≠ "" →
    ((s.keys.present t (.otp email) = true ∧ s.otps email = otp) ↔
      ∃ requestedAt, Requested adminEmails past email otp requestedAt ∧ t < requestedAt + 300000)

section Steps

variable {s s' : AuthSystem} {adminEmails : List String} {past : List (Time × AuthEvent)} {t : Time}
  {event : AuthEvent} {t' : Time} {email otp : String} {driverId newId : Uuid} {payload : JwtPayload}
  {table : List (Uuid × DriverRecord)}

/-- The codes and their keys are those of before. -/
structure SameCodes (s s' : AuthSystem) : Prop where
  admins : s'.adminEmails = s.adminEmails
  now : s'.now = s.now
  otps : s'.otps = s.otps
  keys : ∀ email, s'.keys.lookup (.otp email) = s.keys.lookup (.otp email)

theorem SameCodes.refl : SameCodes s s := ⟨rfl, rfl, rfl, fun _ => rfl⟩

theorem SameCodes.trans {s'' : AuthSystem} (first : SameCodes s s') (second : SameCodes s' s'') :
    SameCodes s s'' :=
  ⟨second.admins.trans first.admins, second.now.trans first.now, second.otps.trans first.otps,
    fun email => (second.keys email).trans (first.keys email)⟩

theorem sameCodes_authGuard (payload : JwtPayload) : SameCodes s (s.authGuard payload).2 := by
  unfold authGuard
  split <;> exact ⟨rfl, rfl, rfl, fun _ => rfl⟩

private theorem sameCodes_revoke (driverId : Uuid) : SameCodes s (s.revoke driverId) :=
  ⟨rfl, rfl, rfl, fun _ => Keys.lookup_set_ne (by simp)⟩

private theorem sameCodes_setActive (id : Uuid) (isActive : Bool) : SameCodes s (s.setActive id isActive) := by
  unfold setActive
  cases s.findById id with
  | none => exact .refl
  | some driver =>
    cases isActive with
    | true => exact ⟨rfl, rfl, rfl, fun _ => rfl⟩
    | false => exact ⟨rfl, rfl, rfl, fun _ => Keys.lookup_set_ne (by simp)⟩

private theorem sameCodes_refreshToken (payload : JwtPayload) : SameCodes s (s.refreshToken payload) := by
  have guarded := sameCodes_authGuard (s := s) payload
  unfold refreshToken
  dsimp only
  split
  · exact guarded
  · split
    · exact guarded
    · exact guarded.trans ⟨rfl, rfl, rfl, fun _ => rfl⟩

private theorem sameCodes_logout (payload : JwtPayload) : SameCodes s (s.logout payload) := by
  have guarded := sameCodes_authGuard (s := s) payload
  unfold logout
  dsimp only
  split
  · exact guarded
  · exact guarded.trans (sameCodes_revoke _)

private theorem sameCodes_loginWithGoogle (googleUser : GoogleUser) (newId : Uuid) :
    SameCodes s (s.loginWithGoogle googleUser newId).2 := by
  rcases loginWithGoogle_cases s googleUser newId with ⟨drivers, same, _⟩ | ⟨entry, _, _, same⟩
  · rw [same]
    exact ⟨rfl, rfl, rfl, fun _ => rfl⟩
  · rw [same]
    exact ⟨rfl, rfl, rfl, fun _ => rfl⟩

theorem storedOtp_eq :
    s.storedOtp email = some otp ↔ s.keys.present s.now (.otp email) = true ∧ s.otps email = otp := by
  unfold storedOtp
  split <;> simp [*]

/-- A code that an event neither ends nor changes. -/
theorem CodesFollow.elsewhere (follow : CodesFollow adminEmails past s) (later : s.now ≤ t) (after : t ≤ t')
    (filled : otp ≠ "") (goes : ¬ event.Ends email otp)
    (key : s'.keys.lookup (.otp email) = s.keys.lookup (.otp email)) (kept : s'.otps email = s.otps email) :
    (s'.keys.present t' (.otp email) = true ∧ s'.otps email = otp) ↔ ∃ requestedAt,
      Requested adminEmails (past ++ [(t, event)]) email otp requestedAt ∧ t' < requestedAt + 300000 := by
  have other : event ≠ .requestEmailOtp email otp := by
    rintro rfl
    exact goes rfl
  rw [Keys.present_congr key, kept, follow.codes t' (Int.le_trans later after) email otp filled]
  simp only [requested_concat, other, goes, false_and, and_false, not_false_eq_true, and_true, false_or]

theorem CodesFollow.aside (follow : CodesFollow adminEmails past s) (same : SameCodes { s with now := t } s')
    (later : s.now ≤ t) (silent : ∀ email otp, ¬ event.Ends email otp) :
    CodesFollow adminEmails (past ++ [(t, event)]) s' := by
  refine ⟨same.admins.trans follow.admins, fun t' after email otp filled => ?_⟩
  rw [same.now] at after
  exact follow.elsewhere later after filled (silent email otp) (same.keys email) (congrFun same.otps email)

/-- A new code takes the place of the old one; an admin is sent none. -/
theorem CodesFollow.requested (follow : CodesFollow adminEmails past s) (later : s.now ≤ t) :
    CodesFollow adminEmails (past ++ [(t, .requestEmailOtp email otp)])
      ({ s with now := t }.requestEmailOtp email otp) := by
  unfold AuthSystem.requestEmailOtp
  split
  · rename_i admin
    refine ⟨follow.admins, fun t' after email' otp' filled => ?_⟩
    by_cases same : email = email'
    · subst same
      have admin : email ∈ adminEmails := follow.admins ▸ admin
      rw [follow.codes t' (Int.le_trans later after) email otp' filled]
      simp [Requested, admin]
    · exact follow.elsewhere later after filled same rfl rfl
  · rename_i other
    refine ⟨follow.admins, fun t' after email' otp' filled => ?_⟩
    by_cases same : email = email'
    · subst same
      have other : email ∉ adminEmails := follow.admins ▸ other
      have lasts : (s.keys.set t (.otp email) 300000).present t' (.otp email) = true ↔ t' < t + 300000 := by
        simp [Keys.present_iff]
      simp only [lasts, Function.update_self, requested_concat, AuthEvent.requestEmailOtp.injEq, true_and,
        AuthEvent.Ends, not_true_eq_false, and_false, or_false, other, not_false_eq_true]
      constructor
      · rintro ⟨soon, rfl⟩
        exact ⟨t, ⟨rfl, rfl⟩, soon⟩
      · rintro ⟨_, ⟨rfl, rfl⟩, soon⟩
        exact ⟨soon, rfl⟩
    · refine follow.elsewhere later after filled same (Keys.lookup_set_ne ?_) ?_
      · simpa using Ne.symm same
      · exact Function.update_of_ne (Ne.symm same) ..

/-- A wrong code changes nothing. -/
theorem CodesFollow.refused (follow : CodesFollow adminEmails past s) (later : s.now ≤ t)
    (wrong : ¬ (otp ≠ "" ∧ { s with now := t }.storedOtp email = some otp)) :
    CodesFollow adminEmails (past ++ [(t, .verifyEmailOtp email otp newId)]) { s with now := t } := by
  refine ⟨follow.admins, fun t' after email' otp' filled => ?_⟩
  by_cases same : email = email' ∧ otp = otp'
  · obtain ⟨rfl, rfl⟩ := same
    have absent : ¬ (s.keys.present t' (.otp email) = true ∧ s.otps email = otp) := by
      rintro ⟨present, same⟩
      refine wrong ⟨filled, storedOtp_eq.mpr ⟨?_, same⟩⟩
      by_contra gone
      rw [Keys.absent_after after (Bool.eq_false_iff.mpr gone)] at present
      cases present
    refine iff_of_false absent ?_
    rintro ⟨requestedAt, standing, _⟩
    simp [requested_concat, AuthEvent.Ends] at standing
  · exact follow.elsewhere later after filled same rfl rfl

/-- The right code is used up. -/
theorem CodesFollow.used (follow : CodesFollow adminEmails past s) (later : s.now ≤ t)
    (right : { s with now := t }.storedOtp email = some otp) :
    CodesFollow adminEmails (past ++ [(t, .verifyEmailOtp email otp newId)])
      ({ s with now := t, drivers := table, keys := (s.keys.del (.otp email)).del (.revokedToken driverId) }.issue
        payload true) := by
  obtain ⟨present, same⟩ := storedOtp_eq.mp right
  refine ⟨follow.admins, fun t' after email' otp' filled => ?_⟩
  by_cases mine : email = email'
  · subst mine
    refine iff_of_false (fun held => ?_) ?_
    · have gone : ((s.keys.del (.otp email)).del (.revokedToken driverId)).present t' (.otp email) = true :=
        held.1
      rw [Keys.present_congr (Keys.lookup_del_ne (by simp)), Keys.present_del_self] at gone
      cases gone
    · rintro ⟨requestedAt, standing, soon⟩
      simp only [requested_concat, reduceCtorEq, false_and, and_false, false_or, AuthEvent.Ends, true_and]
        at standing
      obtain ⟨standing, other⟩ := standing
      have held := (follow.codes t' (Int.le_trans later after) email otp' filled).mpr
        ⟨requestedAt, standing, soon⟩
      exact other (same.symm.trans held.2)
  · refine follow.elsewhere later after filled (fun ends => mine ends.1) ?_ rfl
    exact (Keys.lookup_del_ne (by simp)).trans (Keys.lookup_del_ne (by simpa using Ne.symm mine))

theorem CodesFollow.step (follow : CodesFollow adminEmails past s)
    (stepped : AuthSystem.step s (t, event) = some s') :
    CodesFollow adminEmails (past ++ [(t, event)]) s' := by
  unfold AuthSystem.step at stepped
  dsimp only at stepped
  split at stepped
  case isFalse => cases stepped
  rename_i later
  cases event with
  | requestEmailOtp email otp =>
    cases stepped
    exact follow.requested later
  | verifyEmailOtp email otp newId =>
    dsimp only at stepped
    split at stepped
    · cases stepped
    · rcases verifyEmailOtp_cases { s with now := t } email otp newId with
        ⟨⟨error, failed⟩, wrong⟩ | ⟨result, driver, drivers, filled, right, logged⟩
      · rw [failed] at stepped
        cases stepped
        exact follow.refused later wrong
      · rw [logged] at stepped
        cases stepped
        exact follow.used later right
  | loginWithGoogle googleUser newId =>
    dsimp only at stepped
    split at stepped
    · cases stepped
    · cases stepped
      exact follow.aside (sameCodes_loginWithGoogle ..) later fun _ _ => not_false
  | refreshToken payload =>
    cases stepped
    exact follow.aside (sameCodes_refreshToken _) later fun _ _ => not_false
  | logout payload =>
    cases stepped
    exact follow.aside (sameCodes_logout _) later fun _ _ => not_false
  | setActive id isActive =>
    cases stepped
    exact follow.aside (sameCodes_setActive ..) later fun _ _ => not_false
  | request payload =>
    cases stepped
    exact follow.aside (sameCodes_authGuard _) later fun _ _ => not_false

theorem CodesFollow.run {actions : List (Time × AuthEvent)} (follow : CodesFollow adminEmails past s)
    (ran : run AuthSystem.step s actions = some s') : CodesFollow adminEmails (past ++ actions) s' := by
  induction actions generalizing s past with
  | nil =>
    cases ran
    rwa [List.append_nil]
  | cons action rest ih =>
    obtain ⟨next, stepped, ran⟩ := Option.bind_eq_some_iff.mp ran
    rw [List.append_cons]
    exact ih (follow.step stepped) ran

end Steps

end AuthSystem

open AuthSystem

/-- After any run from empty stores, a code is accepted at an address just when it was the last
one requested there, less than five minutes ago, and has not been given since. -/
theorem email_code_accepted_iff (adminEmails : List String) (drivers : List (Uuid × DriverRecord))
    {actions : List (Time × AuthEvent)} {s : AuthSystem}
    (ran : run step { adminEmails, drivers } actions = some s) (t : Time) (later : s.now ≤ t)
    (email otp : String) (newId : Uuid) :
    (∃ answer, { s with now := t }.verifyEmailOtp email otp newId = .ok answer) ↔
      otp ≠ "" ∧ ∃ requestedAt, Requested adminEmails actions email otp requestedAt ∧
        t < requestedAt + 300000 := by
  have start : CodesFollow adminEmails [] { adminEmails, drivers } := by
    refine ⟨rfl, fun t _ email otp _ => iff_of_false ?_ ?_⟩
    · rintro ⟨present, _⟩
      obtain ⟨ends, held, _⟩ := Keys.present_iff.mp present
      cases held
    · rintro ⟨_, ⟨_, before, after, parts, _⟩, _⟩
      simp at parts
  have follow := start.run ran
  have accepted : (∃ answer, { s with now := t }.verifyEmailOtp email otp newId = .ok answer) ↔
      otp ≠ "" ∧ { s with now := t }.storedOtp email = some otp := by
    rcases verifyEmailOtp_cases { s with now := t } email otp newId with
      ⟨⟨error, failed⟩, wrong⟩ | ⟨result, driver, drivers, filled, right, logged⟩
    · simp [failed, wrong]
    · simp [logged, filled, right]
  rw [accepted, and_congr_right_iff, storedOtp_eq]
  exact fun filled => follow.codes t later email otp filled

/-- A code is sent, and somebody tries another one. -/
def guessed : List (Time × AuthEvent) :=
  [(0, .requestEmailOtp "x@riders" "123456"), (1000, .verifyEmailOtp "x@riders" "654321" "n")]

theorem email_code_accepted_guessed : ∃ s, run step { drivers := [("x", rider)] } guessed = some s ∧
    (∃ answer, { s with now := 299999 }.verifyEmailOtp "x@riders" "123456" "n" = .ok answer) ∧
      ¬ ∃ answer, { s with now := 300000 }.verifyEmailOtp "x@riders" "123456" "n" = .ok answer := by
  have computes : (run step { drivers := [("x", rider)] } guessed).any (·.now = 1000) := by decide
  obtain ⟨s, ran, clock⟩ := (Option.any_eq_true _ _).mp computes
  have clock : s.now = 1000 := of_decide_eq_true clock
  have requested (requestedAt : Time) :
      Requested [] guessed "x@riders" "123456" requestedAt ↔ requestedAt = 0 := by
    change Requested [] ([(0, .requestEmailOtp _ _)] ++ [(1000, .verifyEmailOtp _ _ _)]) _ _ _ ↔ _
    rw [requested_concat, ← List.nil_append [_], requested_concat]
    simp [AuthEvent.Ends, Requested]
  have accepted (t : Time) (later : s.now ≤ t) :=
    email_code_accepted_iff [] [("x", rider)] ran t later "x@riders" "123456" "n"
  refine ⟨s, ran, ?_, ?_⟩
  · rw [accepted 299999 (by rw [clock]; decide)]
    exact ⟨by decide, 0, (requested 0).mpr rfl, by decide⟩
  · rw [accepted 300000 (by rw [clock]; decide)]
    rintro ⟨_, requestedAt, standing, soon⟩
    rw [(requested requestedAt).mp standing] at soon
    exact absurd soon (by decide)

end DriverMicroServices
