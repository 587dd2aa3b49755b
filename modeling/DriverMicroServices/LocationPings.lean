import DriverMicroServices.Effects

/-! The status of a driver under location pings. `updateLocation` reads the row,
sets the position and saves the whole entity, so the status it read goes back
with it; the three status operations write the status on purpose. -/
namespace DriverMicroServices
open Transactions Program

/-- A call of the service, or a location ping. -/
inductive Traffic where
  | request (request : Request)
  | updateLocation (driverId : Uuid) (lat lon : Rat) (ambient : Ambient)

def Traffic.program (env : Env) : Traffic → Call (List Projection)
  | .request call => call.program env
  | .updateLocation driverId lat lon amb =>
    (DriversService.updateLocation amb driverId lat lon).bind fun _ => pure []

/-- The service with calls and pings in progress. -/
abbrev Roads := System Traffic Row Exception (List Projection)

def driverStatus (db : Db) (driverId : Uuid) : Option DriverStatus :=
  (db.driver driverId).map (·.status)

/-- The status that an effect of a status operation writes to a driver. -/
def Traffic.written (driverId : Uuid) : Traffic → Effect Key → Option DriverStatus
  | .request ⟨.acceptOffer _ own _, _⟩, .commit => if own = driverId then some .busy else none
  | .request ⟨.stateMachineAcceptOffer _ own, _⟩, .commit =>
    if own = driverId then some .busy else none
  | .request ⟨.updateDriverStatus own status, _⟩, .autosave _ =>
    if own = driverId then some status else none
  | _, _ => none

/-- The stored status after a step in which `written` was written, if anything. -/
def follow (written stored : Option DriverStatus) : Option DriverStatus :=
  stored.map fun status => written.getD status

/-- The rows of drivers. -/
def Key.OfDriver : Key → Prop
  | .driver _ => True
  | _ => False

/-- What an effect does to the status of every driver. -/
def Traffic.Drives (traffic : Traffic) (effect : Effect Key) (before after : Db) : Prop :=
  ∀ driverId, driverStatus after driverId =
    follow (traffic.written driverId effect) (driverStatus before driverId)

/-- The status operations write the status they are meant to write, and the
other calls none. Nothing is promised of pings here. -/
def statuses : Discipline Traffic Row :=
  .keeping (fun _ => True) (fun _ _ _ => True)
    (fun traffic effect before after =>
      match traffic with
      | .request _ => traffic.Drives effect before after
      | .updateLocation _ _ _ _ => True)
    fun _ _ _ => trivial

theorem follow_none (stored : Option DriverStatus) : follow none stored = stored := by
  cases stored <;> rfl

/-- Saving a loaded driver writes the status it has. -/
theorem driverStatus_save (now : Db) (driverId : Uuid) (driver : Driver) (id : Uuid) :
    driverStatus (now.autosave (.driver driverId) (·.map fun _ => driver)) id =
      follow (if driverId = id then some driver.status else none) (driverStatus now id) := by
  by_cases own : driverId = id
  · subst own
    have stored := Store.autosave_row_self now fun row : Option (Row (.driver driverId)) =>
      row.map fun _ => driver
    rw [driverStatus, Db.driver, stored, driverStatus, Db.driver, if_pos rfl]
    cases now.row (.driver driverId) <;> rfl
  · have other : (now.autosave (.driver driverId) (·.map fun _ => driver)).row (.driver id) =
        now.row (.driver id) := Store.autosave_row_ne _ _ (by simpa using Ne.symm own)
    rw [driverStatus, Db.driver, other, if_neg own, follow_none]
    rfl

section Requests

variable {request : Request} {drivers : Uuid → Option Driver} {past st : Db}
  {buf : List (Write Row)} {goal : Db → Db → Prop}

/-- Rows of other tables leave every status. -/
theorem drives_elsewhere {traffic : Traffic} {effect : Effect Key} {before after : Db}
    (silent : ∀ driverId, traffic.written driverId effect = none)
    (same : ∀ k, k.OfDriver → after.row k = before.row k) : traffic.Drives effect before after := by
  intro driverId
  have row : after.driver driverId = before.driver driverId := same (.driver driverId) trivial
  rw [silent, follow_none, driverStatus, driverStatus, row]

/-- A call that touches no driver. -/
theorem undriven_meets {program : Call (List Projection)}
    (silent : ∀ effect driverId, (Traffic.request request).written driverId effect = none)
    (touches : program.Touches fun k => ¬ k.OfDriver) :
    program.Meets statuses (.request request) fun _ _ => True := by
  intro past st _
  refine wp_touches program touches (fun effect before after same => ?_)
    (fun _ _ _ _ _ _ _ _ => trivial) (by simp)
  exact drives_elsewhere (silent effect) fun k driver => same k (not_not.mpr driver)

/-- In a transaction, a piece that writes no driver may be skipped. -/
theorem settles_undriven {piece : Call α} {f : α → Call β}
    (silent : ∀ k driverId, (Traffic.request request).written driverId (.autosave k) = none)
    (sees : Db.driver (st.apply buf) = drivers) (within : piece.Within fun k => ¬ k.OfDriver)
    (rest : ∀ value past buf, Db.driver (st.apply buf) = drivers →
      (f value).wp statuses (.request request) (Settles goal) past st buf) :
    (piece.bind f).wp statuses (.request request) (Settles goal) past st buf := by
  rw [wp_bind]
  refine wp_within piece within (fun k g now other _ _ => ?_) fun result past writes named _ => ?_
  · refine drives_elsewhere (silent k) fun k' driver => Store.autosave_row_ne now g ?_
    rintro rfl
    exact other driver
  · cases result with
    | error error => trivial
    | ok value =>
      refine rest value past (buf ++ writes) ?_
      rw [Store.apply_append, ← sees]
      exact funext fun id => Store.apply_row_untouched _ _ fun write member same =>
        named write member (same ▸ trivial)

/-- `BUSY` for one driver, in a transaction that has written no driver yet. -/
theorem settles_busy {driverId : Uuid} {f : Unit → Call α}
    (sees : Db.driver (st.apply buf) = st.driver)
    (rest : ∀ past buf drivers, Db.driver (st.apply buf) = drivers →
      (∀ id, (drivers id).map (·.status) =
        follow (if driverId = id then some .busy else none) (driverStatus st id)) →
      (f ()).wp statuses (.request request) (Settles goal) past st buf) :
    ((updateDriver driverId fun driver => { driver with status := .busy }).bind f).wp statuses
      (.request request) (Settles goal) past st buf := by
  intro now _ _ _ _
  have stored : (st.apply buf).row (.driver driverId) = st.driver driverId := congrFun sees driverId
  rw [stored]
  cases found : Db.driver st driverId with
  | none =>
    refine rest now buf _ sees fun id => ?_
    by_cases same : driverId = id
    · subst same
      simp [driverStatus, found, follow]
    · simp [driverStatus, same, follow_none]
  | some row =>
    refine rest now (buf ++ [⟨.driver driverId, { row with status := .busy }⟩]) _ rfl fun id => ?_
    rw [Store.apply_append, Store.apply_cons, Store.apply_nil, Db.driver_set, sees]
    by_cases same : driverId = id
    · subst same
      simp [driverStatus, found, follow]
    · simp [driverStatus, same, Ne.symm same, follow_none]

end Requests

/-! ## The calls of the service -/

section Calls

variable {env : Env} {amb : Ambient}

theorem aside_undriven (k : Key) (aside : k.Aside) : ¬ k.OfDriver := by
  cases k <;> first | exact aside.elim | exact not_false

private theorem acceptOffer_meets :
    (Traffic.program env (.request ⟨.acceptOffer offerId driverId acceptedAt, amb⟩)).Meets statuses
      (.request ⟨.acceptOffer offerId driverId acceptedAt, amb⟩) fun _ _ => True := by
  refine Honours.meets (honours_bind (honours_transaction fun past st => ?_) fun _ => honours_ret _)
  have silent : ∀ k id, (Traffic.request ⟨.acceptOffer offerId driverId acceptedAt, amb⟩).written id
      (.autosave k) = none := fun _ _ => rfl
  refine settles_undriven silent rfl (fun _ => trivial) fun offer past buf sees => ?_
  cases offer with
  | none => trivial
  | some offer =>
    refine settles_throwIf fun _ => settles_throwIf fun _ => settles_throwIf fun _ => ?_
    refine settles_undriven silent sees check_within fun _ past buf sees => ?_
    refine settles_throwIf fun _ => ?_
    refine settles_undriven silent sees (saveOffer_within _ not_false) fun _ past buf sees => ?_
    refine settles_undriven silent sees (updateOffers_within _ _ fun _ => not_false)
      fun _ past buf sees => ?_
    refine settles_undriven silent sees (fun _ => trivial) fun row past buf sees => ?_
    cases row with
    | none => trivial
    | some row =>
      refine settles_undriven silent sees (saveDelivery_within _ not_false) fun _ past buf sees => ?_
      refine settles_undriven silent sees (insert_within _ not_false) fun _ past buf sees => ?_
      refine settles_busy sees fun past buf drivers sees busy => ?_
      refine settles_undriven silent sees (within_mono (publish_within ..) aside_undriven)
        fun _ past buf sees id => ?_
      rw [driverStatus, sees]
      exact busy id

private theorem stateMachineAcceptOffer_meets :
    (Traffic.program env (.request ⟨.stateMachineAcceptOffer offerId driverId, amb⟩)).Meets statuses
      (.request ⟨.stateMachineAcceptOffer offerId driverId, amb⟩) fun _ _ => True := by
  refine Honours.meets (honours_bind (honours_transaction fun past st => ?_) fun _ => honours_ret _)
  have silent : ∀ k id, (Traffic.request ⟨.stateMachineAcceptOffer offerId driverId, amb⟩).written id
      (.autosave k) = none := fun _ _ => rfl
  refine settles_undriven silent rfl (fun _ => trivial) fun offer past buf sees => ?_
  cases offer.filter (·.driverId = driverId) with
  | none => trivial
  | some offer =>
    refine settles_throwIf fun _ => settles_throwIf fun _ => ?_
    refine settles_undriven silent sees (fun _ => trivial) fun row past buf sees => ?_
    cases row with
    | none => trivial
    | some row =>
      refine settles_undriven silent sees ?_ fun _ past buf sees => ?_
      · exact within_bind (throwIf_within _) fun _ => throwIf_within _
      refine settles_throwIf fun _ => ?_
      refine settles_undriven silent sees (saveOffer_within _ not_false) fun _ past buf sees => ?_
      refine settles_undriven silent sees (saveDelivery_within _ not_false) fun _ past buf sees => ?_
      refine settles_undriven silent sees (insert_within _ not_false) fun _ past buf sees => ?_
      refine settles_busy sees fun past buf drivers sees busy => ?_
      refine settles_undriven silent sees (updateOffers_within _ _ fun _ => not_false)
        fun _ past buf sees => ?_
      rw [← bind_ret (publish _ _ _ _)]
      refine settles_undriven silent sees (within_mono (publish_within ..) aside_undriven)
        fun _ past buf sees id => ?_
      rw [driverStatus, sees]
      exact busy id

private theorem create_undriven (dto : CreateDeliveryDto) :
    (create amb dto).Touches fun k => ¬ k.OfDriver := by
  refine touches_throwIf (touches_bind (touches_transaction (touches_of_within ?_)) fun _ => trivial)
  exact within_bind (insert_within _ not_false) fun _ => insert_within _ not_false

private theorem assignDriver_undriven (deliveryId driverId assignmentId : Uuid) :
    (assignDriver env amb deliveryId driverId assignmentId).Touches fun k => ¬ k.OfDriver :=
  assignDriver_touches aside_undriven not_false driverId assignmentId

theorem updateStatus_undriven (deliveryId : Uuid) (dto : UpdateDeliveryStatusDto) :
    (updateStatus env amb deliveryId dto).Touches fun k => ¬ k.OfDriver :=
  updateStatus_touches aside_undriven not_false dto

private theorem findOne_undriven (id : Uuid) : (findOne id).Touches fun k => ¬ k.OfDriver := by
  refine touches_bind (touches_of_within (find_within _)) fun row => ?_
  cases row <;> trivial

private theorem cancelDelivery_undriven (deliveryId : Uuid) (reason : Option String) :
    (cancelDelivery env amb deliveryId reason).Touches fun k => ¬ k.OfDriver := by
  refine touches_bind (findOne_undriven deliveryId) fun delivery => ?_
  split
  · trivial
  · exact touches_bind (updateStatus_undriven _ _) fun _ => trivial

private theorem generateDeliveryOtp_undriven (deliveryId : Uuid) :
    (generateDeliveryOtp amb deliveryId).Touches fun k => ¬ k.OfDriver := by
  have loaded : (findOneWithEvents deliveryId).Touches fun k => ¬ k.OfDriver := by
    refine touches_bind (touches_of_within (find_within _)) fun found => ?_
    obtain ⟨_ | row, events⟩ := found <;> trivial
  refine touches_bind loaded fun found => touches_throwIf (touches_throwIf ?_)
  have stored : ∀ event : DeliveryEvent, (insertNow (.deliveryEvent amb.eventId) event).Touches
      fun k => ¬ k.OfDriver :=
    fun event => ⟨not_false, fun found => by cases found <;> trivial⟩
  rw [bind_eq, saveDeliveryNow_bind]
  refine touches_bind (touches_of_within (find_within _)) fun _ => touches_throwIf ⟨not_false, fun _ => ?_⟩
  exact touches_bind (stored _) fun _ => trivial

private theorem verifyOtp_undriven (deliveryId : Uuid) (otp : String) (proofUrl : Option String)
    (driverLat driverLon : Option Rat) :
    (verifyOtp env amb deliveryId otp proofUrl driverLat driverLon).Touches
      fun k => ¬ k.OfDriver :=
  verifyOtp_touches aside_undriven not_false otp proofUrl driverLat driverLon

theorem createOfferForDriver_undriven (driverId deliveryId : Uuid) (expiresInSeconds : Option Nat) :
    (OffersService.createOfferForDriver amb driverId deliveryId expiresInSeconds).Touches
      fun k => ¬ k.OfDriver :=
  OffersService.createOfferForDriver_touches not_false driverId deliveryId expiresInSeconds

private theorem rejectOffer_undriven (offerId driverId : Uuid) (reason : Option String) :
    (OffersService.rejectOffer amb offerId driverId reason).Touches fun k => ¬ k.OfDriver := by
  refine touches_bind (touches_of_within (find_within _)) fun offer => ?_
  cases offer with
  | none => trivial
  | some offer =>
    refine touches_throwIf (touches_throwIf ⟨not_false, fun _ => touches_bind trivial fun _ => ?_⟩)
    refine touches_bind ?_ fun _ => trivial
    refine touches_bind (touches_of_within (find_within _)) fun delivery => ?_
    cases delivery with
    | none => trivial
    | some delivery =>
      dsimp only
      split
      · trivial
      · refine touches_bind (touches_of_within (find_within _)) fun _ => ?_
        refine touches_bind (touches_of_within (find_within _)) fun _ => ?_
        split
        · exact touches_bind (createOfferForDriver_undriven _ _ _) fun _ => trivial
        · trivial

private theorem expireOffers_undriven : (OffersService.expireOffers amb).Touches fun k => ¬ k.OfDriver :=
  touches_transaction (touches_of_within (updateOffers_within _ _ fun _ => not_false))

private theorem updateDriverStatus_meets (driverId : Uuid) (status : DriverStatus) :
    (Traffic.program env (.request ⟨.updateDriverStatus driverId status, amb⟩)).Meets statuses
      (.request ⟨.updateDriverStatus driverId status, amb⟩) fun _ _ => True := by
  refine Honours.meets (honours_bind (honours_bind (honours_reads ?_) fun read => ?_)
    fun _ => honours_ret _)
  · refine within_bind (find_within _) fun found => ?_
    cases found <;> trivial
  · exact honours_autosave (fun now _ => driverStatus_save now driverId _) fun _ => honours_ret _

/-- At any interleaving, the status of a driver is what the status operations
write. -/
theorem request_meets (request : Request) :
    (Traffic.program env (.request request)).Meets statuses (.request request)
      fun _ _ => True := by
  obtain ⟨operation, amb⟩ := request
  have undriven {program : Call (List Projection)}
      (silent : ∀ effect id, (Traffic.request ⟨operation, amb⟩).written id effect = none)
      (touches : program.Touches fun k => ¬ k.OfDriver) :
      program.Meets statuses (.request ⟨operation, amb⟩) fun _ _ => True :=
    undriven_meets silent touches
  cases operation with
  | create dto => exact undriven (fun _ _ => rfl) (touches_bind (create_undriven dto) fun _ => trivial)
  | assignDriver deliveryId driverId assignmentId =>
    exact undriven (fun _ _ => rfl) (touches_bind (assignDriver_undriven _ _ _) fun _ => trivial)
  | updateStatus deliveryId dto =>
    exact undriven (fun _ _ => rfl) (touches_bind (updateStatus_undriven _ _) fun _ => trivial)
  | verifyOtp deliveryId otp proofUrl driverLat driverLon =>
    exact undriven (fun _ _ => rfl) (touches_bind (verifyOtp_undriven _ _ _ _ _) fun _ => trivial)
  | cancelDelivery deliveryId reason => exact undriven (fun _ _ => rfl) (cancelDelivery_undriven _ _)
  | generateDeliveryOtp deliveryId =>
    exact undriven (fun _ _ => rfl) (touches_bind (generateDeliveryOtp_undriven _) fun _ => trivial)
  | createOfferForDriver driverId deliveryId expiresInSeconds =>
    exact undriven (fun _ _ => rfl) (touches_bind (createOfferForDriver_undriven _ _ _) fun _ => trivial)
  | acceptOffer offerId driverId acceptedAt => exact acceptOffer_meets
  | stateMachineAcceptOffer offerId driverId => exact stateMachineAcceptOffer_meets
  | rejectOffer offerId driverId reason =>
    exact undriven (fun _ _ => rfl) (touches_bind (rejectOffer_undriven _ _ _) fun _ => trivial)
  | expireOffers =>
    exact undriven (fun _ _ => rfl) (touches_bind expireOffers_undriven fun _ => trivial)
  | updateDriverStatus driverId status => exact updateDriverStatus_meets driverId status

/-- A ping promises nothing to the other calls. -/
theorem ping_meets (driverId : Uuid) (lat lon : Rat) (amb : Ambient) :
    (Traffic.program env (.updateLocation driverId lat lon amb)).Meets statuses
      (.updateLocation driverId lat lon amb) fun _ _ => True := by
  refine Honours.meets (honours_bind (honours_bind (honours_reads ?_) fun read => ?_)
    fun _ => honours_ret _)
  · refine within_bind (find_within _) fun found => ?_
    cases found <;> trivial
  · exact honours_autosave (fun _ _ => trivial) fun _ => honours_ret _

theorem traffic_meets (traffic : Traffic) :
    (traffic.program env).Meets statuses traffic fun _ _ => True := by
  cases traffic with
  | request request => exact request_meets request
  | updateLocation driverId lat lon amb => exact ping_meets driverId lat lon amb

end Calls

/-! ## Pings -/

/-- The driver of a ping that is about to read. -/
def Roads.reading? (s : Roads) : Action Traffic → Option Uuid
  | .step t =>
    match s.threads t with
    | some ⟨.updateLocation driverId _ _ _, .observe _, _⟩ => some driverId
    | _ => none
  | _ => none

/-- The driver of a ping that is about to save. -/
def Roads.saving? (s : Roads) : Action Traffic → Option Uuid
  | .step t =>
    match s.threads t with
    | some ⟨.updateLocation driverId _ _ _, .autosave _ _ _, _⟩ => some driverId
    | _ => none
  | _ => none

/-- What each ping has seen of the status of its driver. -/
def Roads.remember (s : Roads) (seen : Nat → Option DriverStatus) (action : Action Traffic) :
    Nat → Option DriverStatus :=
  match s.reading? action with
  | some driverId => Function.update seen action.thread (driverStatus s.store driverId)
  | none => seen

/-- Every ping that saves finds the status that was stored when it read. -/
def undisturbed (env : Env) (s : Roads) (seen : Nat → Option DriverStatus) :
    List (Action Traffic) → Bool
  | [] => true
  | action :: rest =>
    (s.saving? action).all (fun driverId => driverStatus s.store driverId = seen action.thread) &&
      (s.act (Traffic.program env) action).all fun next =>
        undisturbed env next (s.remember seen action) rest

/-- The statuses written to a driver in a run, in order. -/
def written (env : Env) (driverId : Uuid) (s : Roads) : List (Action Traffic) → List DriverStatus
  | [] => []
  | action :: rest =>
    ((s.effect? action).bind fun made => made.1.written driverId made.2).toList ++
      match s.act (Traffic.program env) action with
      | some next => written env driverId next rest
      | none => []

/-- The row a ping saves. -/
def pinged (amb : Ambient) (lat lon : Rat) (driver : Driver) : Driver :=
  { driver with
    currentLat := some lat, currentLon := some lon
    lastActiveAt := some amb.now, lastLocationUpdateAt := some amb.now }

/-- Where a ping is: before its read, holding the row it read, or at its end. -/
inductive Stage (driverId : Uuid) (lat lon : Rat) (amb : Ambient) (seen : Option DriverStatus) :
    Call (List Projection) → Prop where
  | begun (next : Db → Call (List Projection))
      (reads : ∀ db, (∃ result, next db = .ret result) ∨ ∃ driver,
        db.driver driverId = some driver ∧
        next db = .autosave (.driver driverId) (·.map fun _ => pinged amb lat lon driver)
          fun _ => .ret (.ok [])) : Stage driverId lat lon amb seen (.observe next)
  | holding (driver : Driver) (same : seen = some driver.status) :
      Stage driverId lat lon amb seen (.autosave (.driver driverId)
        (·.map fun _ => pinged amb lat lon driver) fun _ => .ret (.ok []))
  | ended (result : Except Exception (List Projection)) : Stage driverId lat lon amb seen (.ret result)

private theorem stage_begun (env : Env) (driverId : Uuid) (lat lon : Rat) (amb : Ambient) :
    Stage driverId lat lon amb seen (Traffic.program env (.updateLocation driverId lat lon amb)) := by
  refine .begun _ fun db => ?_
  cases found : Db.driver db driverId with
  | none => exact .inl ⟨.error (.notFound s!"Driver {driverId} not found"), by simp [found, onRet]⟩
  | some driver => exact .inr ⟨driver, rfl, by simp [found, onRet, Program.bind, saveDriverNow, pinged]⟩

/-- Every ping in progress is at one of its stages. -/
def Roads.Staged (s : Roads) (seen : Nat → Option DriverStatus) : Prop :=
  ∀ t driverId lat lon amb program buf,
    s.threads t = some ⟨.updateLocation driverId lat lon amb, program, buf⟩ →
      Stage driverId lat lon amb (seen t) program

section Runs

variable {env : Env} {s s' : Roads} {seen : Nat → Option DriverStatus} {action : Action Traffic}
  {actions : List (Action Traffic)}

private theorem staged_act (staged : s.Staged seen) (ran : s.act (Traffic.program env) action = some s') :
    s'.Staged (s.remember seen action) := by
  intro t driverId lat lon amb program buf found
  by_cases own : action.thread = t
  case neg =>
    have same := (System.act_others ran own).1
    have kept : s.remember seen action t = seen t := by
      unfold Roads.remember
      cases s.reading? action with
      | none => rfl
      | some driverId => exact Function.update_of_ne (Ne.symm own) ..
    rw [kept]
    exact staged t driverId lat lon amb program buf (same ▸ found)
  subst own
  cases action with
  | start t label =>
    simp only [System.act] at ran
    split at ran <;> cases ran
    simp only [Action.thread, System.put_threads, Function.update_self, Option.some.injEq] at found
    cases found
    exact stage_begun ..
  | abort t =>
    obtain ⟨thread, _, rfl⟩ := Option.map_eq_some_iff.mp ran
    simp [Action.thread] at found
  | step t =>
    obtain ⟨⟨label, before, buf'⟩, held, ran⟩ := Option.bind_eq_some_iff.mp ran
    have kept : Traffic.updateLocation driverId lat lon amb = label := System.advance_label ran found
    subst kept
    cases staged t driverId lat lon amb before buf' held with
    | begun next reads =>
      cases ran
      simp only [Action.thread, System.put_threads, Function.update_self, Option.some.injEq] at found
      cases found
      have noted : s.remember seen (.step t) t = driverStatus s.store driverId := by
        simp [Roads.remember, Roads.reading?, held, Action.thread]
      rcases reads s.store with ⟨result, ended⟩ | ⟨driver, stored, saves⟩
      · rw [ended]
        exact .ended result
      · rw [saves]
        exact .holding driver (by rw [Action.thread, noted, driverStatus, stored]; rfl)
    | holding driver same =>
      simp only [System.advance] at ran
      split at ran <;> cases ran
      simp only [Action.thread, System.put_threads, Function.update_self, Option.some.injEq] at found
      cases found
      exact .ended _
    | ended result => cases ran

/-- One step: the statuses are what was written, by whatever call. -/
theorem step_follows (sound : s.Sound statuses fun _ _ _ => True) (staged : s.Staged seen)
    (calm : (s.saving? action).all fun driverId => driverStatus s.store driverId = seen action.thread)
    (ran : s.act (Traffic.program env) action = some s') (id : Uuid) :
    driverStatus s'.store id =
      follow ((s.effect? action).bind fun made => made.1.written id made.2)
        (driverStatus s.store id) := by
  cases made : s.effect? action with
  | none =>
    have same : s'.store = s.store := by
      obtain ⟨_, _, same | ⟨label, effect, found, _⟩⟩ :=
        System.sound_act sound traffic_meets (fun _ _ _ => trivial) ran
      · exact same
      · rw [made] at found
        cases found
    rw [same, Option.bind_none, follow_none]
  | some effect =>
    obtain ⟨label, effect⟩ := effect
    rw [Option.bind_some]
    cases label with
    | request request =>
      rcases System.sound_effect sound made trivial ran with ⟨⟨line, rfl⟩, same⟩ | drives
      · have silent : (Traffic.request request).written id (.log line) = none := by
          obtain ⟨operation, amb⟩ := request
          cases operation <;> rfl
        rw [silent, same, follow_none]
      · exact drives id
    | updateLocation driverId lat lon amb =>
      rw [show (Traffic.updateLocation driverId lat lon amb).written id effect = none from rfl,
        follow_none]
      cases action with
      | start t label => cases made
      | abort t => cases made
      | step t =>
        obtain ⟨⟨label, program, buf⟩, held, made⟩ := Option.bind_eq_some_iff.mp made
        obtain ⟨_, next, made⟩ := Option.map_eq_some_iff.mp made
        cases made
        simp only [System.act, held, Option.bind_some] at ran
        cases staged t driverId lat lon amb program buf held with
        | begun next' reads => cases next
        | ended result => cases next
        | holding driver same =>
          have stored : driverStatus s.store driverId = some driver.status := by
            simpa [Roads.saving?, held, Action.thread, same] using calm
          simp only [System.advance] at ran
          split at ran <;> cases ran
          have saved := driverStatus_save s.store driverId (pinged amb lat lon driver) id
          by_cases own : driverId = id
          · subst own
            rw [if_pos rfl, stored] at saved
            exact saved.trans stored.symm
          · rwa [if_neg own, follow_none] at saved

/-- A run: the last status written is the one stored. -/
theorem status_run (sound : s.Sound statuses fun _ _ _ => True) (staged : s.Staged seen)
    (calm : undisturbed env s seen actions = true)
    (ran : s.run (Traffic.program env) actions = some s') (driverId : Uuid) :
    driverStatus s'.store driverId = (driverStatus s.store driverId).map fun status =>
      (written env driverId s actions).getLastD status := by
  induction actions generalizing s seen with
  | nil =>
    cases ran
    simp [written]
  | cons action rest ih =>
    obtain ⟨next, stepped, ran⟩ := Option.bind_eq_some_iff.mp ran
    simp only [undisturbed, stepped, Option.all_some, Bool.and_eq_true] at calm
    obtain ⟨sound', _⟩ := System.sound_act sound traffic_meets (fun _ _ _ => trivial) stepped
    have first := step_follows sound staged calm.1 stepped driverId
    rw [ih sound' (staged_act staged stepped) calm.2 ran, first]
    simp only [written, stepped]
    cases driverStatus s.store driverId with
    | none => rfl
    | some status =>
      cases (s.effect? action).bind fun made => made.1.written driverId made.2 with
      | none => rfl
      | some status' =>
        simp only [follow, Option.map_some, Option.toList_some, List.singleton_append,
          List.getLastD_cons, Option.getD_some]

private theorem undisturbed_part {first second : List (Action Traffic)}
    (calm : undisturbed env s seen (first ++ second) = true) :
    undisturbed env s seen first = true := by
  induction first generalizing s seen with
  | nil => rfl
  | cons action rest ih =>
    simp only [List.cons_append, undisturbed, Bool.and_eq_true] at calm ⊢
    refine ⟨calm.1, ?_⟩
    cases stepped : s.act (Traffic.program env) action with
    | none => rfl
    | some next =>
      rw [stepped] at calm
      exact ih calm.2

end Runs

/-- In every run in which each location ping finds, when it saves, the status
that was stored when it read, the status of a driver is at every moment the last
one that a status operation wrote. -/
theorem location_keeps_status (env : Env) (store : Db) (actions : List (Action Traffic))
    (calm : undisturbed env ({ store } : Roads) (fun _ => none) actions = true) :
    ∀ first second s, actions = first ++ second →
      ({ store } : Roads).run (Traffic.program env) first = some s →
      ∀ driverId, driverStatus s.store driverId = (driverStatus store driverId).map fun status =>
        (written env driverId { store } first).getLastD status := by
  rintro first second s rfl ran driverId
  have sound : ({ store } : Roads).Sound statuses fun _ _ _ => True :=
    System.sound_initial store trivial
  have staged : Roads.Staged { store } fun _ => none := by
    intro t driverId lat lon amb program buf found
    cases found
  exact status_run sound staged (undisturbed_part calm) ran driverId

section Samples
open Sample

/-- A ping started and run for some steps. -/
def ping (t : Nat) (driverId : Uuid) (steps : Nat) : List (Action Traffic) :=
  .start t (.updateLocation driverId 12 77 (ambient t 6)) :: List.replicate steps (.step t)

/-- A call of the service likewise. -/
def called (t : Nat) (operation : Operation) (steps : Nat) : List (Action Traffic) :=
  .start t (.request ⟨operation, ambient t 7⟩) :: List.replicate steps (.step t)

/-- A ping before and one after an acceptance. -/
def pingsApart : List (Action Traffic) :=
  called 0 (.createOfferForDriver "x" "D1" none) 5 ++ ping 1 "x" 2 ++
    called 2 (.acceptOffer "offer0" "x" 7) 18 ++ ping 3 "x" 2

theorem location_keeps_status_shop :
    ∃ s, ({ store := shop } : Roads).run (Traffic.program env) pingsApart = some s ∧
      driverStatus s.store "x" = some .busy := by
  have possible : (({ store := shop } : Roads).run (Traffic.program env) pingsApart).isSome = true := by
    decide
  obtain ⟨s, ran⟩ := Option.isSome_iff_exists.mp possible
  have kept := location_keeps_status env shop pingsApart (by decide) pingsApart [] s
    (by simp) ran "x"
  have last : (driverStatus shop "x").map (fun status =>
      (written env "x" { store := shop } pingsApart).getLastD status) = some .busy := by
    decide
  exact ⟨s, ran, kept.trans last⟩

/-- A ping that has read the driver, the acceptance of his offer, and the save. -/
def staleSave : List (Action Traffic) :=
  called 0 (.createOfferForDriver "x" "D1" none) 5 ++ ping 1 "x" 1 ++
    called 2 (.acceptOffer "offer0" "x" 7) 18 ++ [.step 1]

/-- The only status written is `BUSY`, and the one stored is `AVAILABLE`. -/
theorem busy_reverted :
    ∃ s, ({ store := shop } : Roads).run (Traffic.program env) staleSave = some s ∧
      written env "x" { store := shop } staleSave = [.busy] ∧
      driverStatus s.store "x" = some .available := by
  have shape : (({ store := shop } : Roads).run (Traffic.program env) staleSave).map (fun s =>
      (written env "x" { store := shop } staleSave, driverStatus s.store "x")) =
      some ([.busy], some .available) := by
    decide
  obtain ⟨s, ran, shape⟩ := Option.map_eq_some_iff.mp shape
  obtain ⟨wrote, stored⟩ := Prod.mk.inj shape
  exact ⟨s, ran, wrote, stored⟩

end Samples

end DriverMicroServices
