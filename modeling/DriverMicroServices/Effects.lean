import DriverMicroServices.Requests

/-! What each call can do to the deliveries and the offers, said once. A commit
or a single-row statement of a call is described by the row it found and the row
it left; every invariant of the later modules is a case analysis over these
descriptions, and none looks into a service method again. -/
namespace DriverMicroServices
open Transactions Program

/-! ## Descriptions -/

/-- No delivery and no offer changes. -/
def Quiet (before after : Db) : Prop :=
  after.delivery = before.delivery ∧ after.offer = before.offer

/-- One delivery changes, and no offer. -/
def DeliveryChange (id : Uuid) (change : Delivery → Delivery → Prop) (before after : Db) : Prop :=
  ∃ row row', before.delivery id = some row ∧ change row row' ∧
    after.delivery = Function.update before.delivery id (some row') ∧ after.offer = before.offer

/-- One offer changes, and no delivery. -/
def OfferChange (id : Uuid) (change : DriverOffer → DriverOffer → Prop) (before after : Db) : Prop :=
  ∃ row row', before.offer id = some row ∧ change row row' ∧
    after.offer = Function.update before.offer id (some row') ∧ after.delivery = before.delivery

/-- A status update that took effect. -/
def StatusChange (amb : Ambient) (dto : UpdateDeliveryStatusDto) (row row' : Delivery) : Prop :=
  let statusEnum := mapStringToDeliveryStatus dto.status
  row.status ≠ statusEnum ∧ statusEnum ∈ allowedTransitions row.status ∧
    row' = (transition amb.now dto statusEnum row.entity).saveOver row

/-- A verification whose code was the stored one. -/
def CodeAccepted (amb : Ambient) (otp : String) (proofUrl : Option String)
    (row row' : Delivery) : Prop :=
  row.status ≠ .delivered ∧ row.deliveryOtp = some otp ∧
    (∀ until_, row.otpLockedUntil = some until_ → until_ ≤ amb.now) ∧
    row' = (completed amb.now proofUrl row.entity).saveOver row

/-- The save of `generateDeliveryOtp`: `read` is the row some earlier moment
held, `row` the one the save found. -/
def Regenerated (amb : Ambient) (read row row' : Delivery) : Prop :=
  (∃ driverId, read.driverId = some driverId) ∧ read.status ≠ .delivered ∧
    read.status ≠ .cancelled ∧
    row' = (regenerate amb (normalizeCoordinates read.entity)).saveOver row

/-- An offer inserted for an available driver. -/
def OfferCreated (amb : Ambient) (before after : Db) : Prop :=
  ∃ offer, before.offer amb.offerId = none ∧ offer.status = .pending ∧
    after.offer = Function.update before.offer amb.offerId (some offer) ∧
    after.delivery = before.delivery

/-- An accepted offer, the delivery assigned with it and the offers that lose. -/
structure Acceptance (amb : Ambient) (offerId driverId : Uuid) (accepted : DriverOffer → DriverOffer)
    (lost : DriverOfferStatus) (assign : DeliveryEntity → DeliveryEntity) (before after : Db)
    (offer : DriverOffer) (row : Delivery) : Prop where
  held : before.offer offerId = some offer
  own : offer.driverId = driverId
  live : offer.status = .pending
  fresh : ¬ offer.expiresAt < amb.now
  found : before.delivery offer.deliveryId = some row
  assigned : after.delivery =
    Function.update before.delivery offer.deliveryId (some ((assign row.entity).saveOver row))
  won : after.offer offerId = some (accepted offer)
  others : ∀ id, id ≠ offerId → after.offer id = before.offer id ∨
    ∃ other, before.offer id = some other ∧ other.deliveryId = offer.deliveryId ∧
      other.status = .pending ∧ after.offer id = some { other with status := lost }

/-- Offers that lapsed. -/
def OffersLapse (now : Time) (before after : Db) : Prop :=
  after.delivery = before.delivery ∧ ∀ id, after.offer id = before.offer id ∨
    ∃ offer, before.offer id = some offer ∧ offer.status = .pending ∧ offer.expiresAt < now ∧
      after.offer id = some { offer with status := .expired }

/-- What a commit of the call does. -/
def Request.Commits (request : Request) (before after : Db) : Prop :=
  let amb := request.ambient
  match request.operation with
  | .create dto => before.delivery amb.deliveryId = none ∧ after.offer = before.offer ∧
      after.delivery = Function.update before.delivery amb.deliveryId (some (dto.row amb.now))
  | .assignDriver deliveryId driverId _ =>
    DeliveryChange deliveryId
      (fun row row' => row' = (assignTo amb driverId row.entity).saveOver row) before after
  | .updateStatus deliveryId dto =>
    Quiet before after ∨ DeliveryChange deliveryId (StatusChange amb dto) before after
  | .cancelDelivery deliveryId reason =>
    Quiet before after ∨ DeliveryChange deliveryId (StatusChange amb (cancellation reason)) before after
  | .verifyOtp deliveryId otp proofUrl _ _ =>
    (Quiet before after ∧ ∃ row, before.delivery deliveryId = some row ∧ row.status = .delivered) ∨
      DeliveryChange deliveryId (CodeAccepted amb otp proofUrl) before after
  | .acceptOffer offerId driverId acceptedAt => ∃ offer row,
      Acceptance amb offerId driverId
        (fun offer =>
          { offer with
            status := .accepted, acceptedAt := some acceptedAt
            driverResponseTimeMs := some (acceptedAt - offer.createdAt) })
        .rejected (assignTo amb driverId) before after offer row
  | .stateMachineAcceptOffer offerId driverId => ∃ offer row,
      Acceptance amb offerId driverId
        (fun offer => { offer with status := .accepted, acceptedAt := some amb.now })
        .expired (DeliveryStateMachine.assignTo amb driverId) before after offer row ∧
      row.driverId = none ∧ row.status = .pending
  | .expireOffers => OffersLapse amb.now before after
  | _ => False

/-- What a statement of the call on one row does when it is not `Quiet`. `inv`
held of the rows whenever the call read them. -/
def Request.Stores (inv : Db → Prop) (request : Request) (k : Key) (before after : Db) : Prop :=
  let amb := request.ambient
  match request.operation with
  | .generateDeliveryOtp deliveryId => k = .delivery deliveryId ∧
      ∃ past read, inv past ∧ past.delivery deliveryId = some read ∧
      DeliveryChange deliveryId (Regenerated amb read) before after
  | .createOfferForDriver _ _ _ => OfferCreated amb before after
  | .rejectOffer offerId driverId reason => OfferCreated amb before after ∨ k = .offer offerId ∧
      ∃ past read, inv past ∧ past.offer offerId = some read ∧ read.driverId = driverId ∧
        read.status = .pending ∧
        OfferChange offerId
          (fun _ row' => row' = OffersService.rejection amb.now reason read) before after
  | _ => False

/-- What one effect of the call does. -/
def Request.Does (inv : Db → Prop) (request : Request) : Effect Key → Db → Db → Prop
  | .commit => request.Commits
  | .autosave k => fun before after => Quiet before after ∨ request.Stores inv k before after
  | .log _ => Quiet

/-- How one delivery row comes to be, or changes, at an effect of a call. -/
inductive DeliveryStep (inv : Db → Prop) (request : Request) (before : Db) :
    Effect Key → Uuid → Option Delivery → Delivery → Prop where
  | created : request.operation = .create dto →
      DeliveryStep inv request before .commit request.ambient.deliveryId none
        (dto.row request.ambient.now)
  | assigned : request.operation = .assignDriver deliveryId driverId assignmentId →
      DeliveryStep inv request before .commit deliveryId (some row)
        ((assignTo request.ambient driverId row.entity).saveOver row)
  | updated : (request.operation = .updateStatus deliveryId dto ∨
        ∃ reason, request.operation = .cancelDelivery deliveryId reason ∧ dto = cancellation reason) →
      StatusChange request.ambient dto row row' →
      DeliveryStep inv request before .commit deliveryId (some row) row'
  | verified : request.operation = .verifyOtp deliveryId otp proofUrl driverLat driverLon →
      CodeAccepted request.ambient otp proofUrl row row' →
      DeliveryStep inv request before .commit deliveryId (some row) row'
  | accepted : request.operation = .acceptOffer offerId driverId acceptedAt →
      before.offer offerId = some offer → offer.driverId = driverId →
      DeliveryStep inv request before .commit offer.deliveryId (some row)
        ((assignTo request.ambient driverId row.entity).saveOver row)
  | stateMachineAccepted : request.operation = .stateMachineAcceptOffer offerId driverId →
      before.offer offerId = some offer → offer.driverId = driverId →
      row.driverId = none → row.status = .pending →
      DeliveryStep inv request before .commit offer.deliveryId (some row)
        ((DeliveryStateMachine.assignTo request.ambient driverId row.entity).saveOver row)
  | regenerated {past : Db} {read : Delivery} :
      request.operation = .generateDeliveryOtp deliveryId → inv past →
      past.delivery deliveryId = some read → Regenerated request.ambient read row row' →
      DeliveryStep inv request before (.autosave (.delivery deliveryId)) deliveryId (some row) row'

/-- An effect leaves every delivery alone, or changes one of them in one of
these ways. -/
theorem does_delivery {inv : Db → Prop} {request : Request} {effect : Effect Key} {before after : Db}
    (does : request.Does inv effect before after) :
    after.delivery = before.delivery ∨ ∃ id row',
      DeliveryStep inv request before effect id (before.delivery id) row' ∧
        after.delivery = Function.update before.delivery id (some row') := by
  obtain ⟨operation, amb⟩ := request
  cases effect with
  | log line => exact .inl does.1
  | autosave k =>
    rcases does with ⟨same, _⟩ | stores
    · exact .inl same
    cases operation with
    | createOfferForDriver driverId deliveryId expiresInSeconds =>
      obtain ⟨_, _, _, _, same⟩ := stores
      exact .inl same
    | rejectOffer offerId driverId reason =>
      rcases stores with ⟨_, _, _, _, same⟩ | ⟨_, _, _, _, _, _, _, _, _, _, _, _, same⟩ <;>
        exact .inl same
    | generateDeliveryOtp deliveryId =>
      obtain ⟨rfl, past, read, kept, seen, row, row', held, change, updated, _⟩ := stores
      refine .inr ⟨deliveryId, row', ?_, updated⟩
      rw [held]
      exact .regenerated rfl kept seen change
    | _ => exact stores.elim
  | commit =>
    cases operation with
    | create dto =>
      obtain ⟨absent, _, inserted⟩ := does
      refine .inr ⟨amb.deliveryId, _, ?_, inserted⟩
      rw [absent]
      exact .created rfl
    | assignDriver deliveryId driverId assignmentId =>
      obtain ⟨row, row', held, rfl, updated, _⟩ := does
      refine .inr ⟨deliveryId, _, ?_, updated⟩
      rw [held]
      exact .assigned rfl
    | updateStatus deliveryId dto =>
      rcases does with ⟨same, _⟩ | ⟨row, row', held, change, updated, _⟩
      · exact .inl same
      · refine .inr ⟨deliveryId, row', ?_, updated⟩
        rw [held]
        exact .updated (.inl rfl) change
    | cancelDelivery deliveryId reason =>
      rcases does with ⟨same, _⟩ | ⟨row, row', held, change, updated, _⟩
      · exact .inl same
      · refine .inr ⟨deliveryId, row', ?_, updated⟩
        rw [held]
        exact .updated (.inr ⟨reason, rfl, rfl⟩) change
    | verifyOtp deliveryId otp proofUrl driverLat driverLon =>
      rcases does with ⟨⟨same, _⟩, _⟩ | ⟨row, row', held, change, updated, _⟩
      · exact .inl same
      · refine .inr ⟨deliveryId, row', ?_, updated⟩
        rw [held]
        exact .verified rfl change
    | acceptOffer offerId driverId acceptedAt =>
      obtain ⟨offer, row, acceptance⟩ := does
      refine .inr ⟨offer.deliveryId, _, ?_, acceptance.assigned⟩
      rw [acceptance.found]
      exact .accepted rfl acceptance.held acceptance.own
    | stateMachineAcceptOffer offerId driverId =>
      obtain ⟨offer, row, acceptance, undriven, pending⟩ := does
      refine .inr ⟨offer.deliveryId, _, ?_, acceptance.assigned⟩
      rw [acceptance.found]
      exact .stateMachineAccepted rfl acceptance.held acceptance.own undriven pending
    | expireOffers => exact .inl does.1
    | _ => exact does.elim

/-! ## Rules

What a call has written so far is followed as the tables its transaction sees.
A call that throws rolls back, so only its normal end has to be described. -/

/-- The tables of deliveries and offers that a transaction sees. -/
structure Sees (db : Db) (deliveries : Uuid → Option Delivery)
    (offers : Uuid → Option DriverOffer) : Prop where
  delivery : db.delivery = deliveries
  offer : db.offer = offers

/-- A transaction that has written nothing sees the committed rows. -/
theorem sees_start (st : Db) : Sees (st.apply []) st.delivery st.offer := ⟨rfl, rfl⟩

namespace Sees

variable {st : Db} {buf : List (Write Row)} {deliveries : Uuid → Option Delivery}
  {offers : Uuid → Option DriverOffer} {id : Uuid}

theorem write_delivery (sees : Sees (st.apply buf) deliveries offers) (row : Delivery) :
    Sees (st.apply (buf ++ [⟨.delivery id, row⟩])) (Function.update deliveries id (some row))
      offers := by
  refine ⟨?_, ?_⟩
  · rw [Store.apply_append, ← sees.delivery]
    exact Db.delivery_update ..
  · rw [Store.apply_append, ← sees.offer]
    exact funext fun id' => Db.offer_set_other _ _ (by simp)

theorem write_offer (sees : Sees (st.apply buf) deliveries offers) (offer : DriverOffer) :
    Sees (st.apply (buf ++ [⟨.offer id, offer⟩])) deliveries
      (Function.update offers id (some offer)) := by
  refine ⟨?_, ?_⟩
  · rw [Store.apply_append, ← sees.delivery]
    exact funext fun id' => Db.delivery_set_other _ _ (by simp)
  · rw [Store.apply_append, ← sees.offer]
    exact Db.offer_update ..

/-- Writes to the other tables are not seen in these two. -/
theorem write_others {writes : List (Write Row)} (sees : Sees (st.apply buf) deliveries offers)
    (elsewhere : ∀ write ∈ writes, ∀ id, write.1 ≠ .delivery id ∧ write.1 ≠ .offer id) :
    Sees (st.apply (buf ++ writes)) deliveries offers := by
  refine ⟨?_, ?_⟩
  · rw [Store.apply_append, ← sees.delivery]
    exact funext fun id => Store.apply_row_untouched _ _ fun write member =>
      (elsewhere write member id).1
  · rw [Store.apply_append, ← sees.offer]
    exact funext fun id => Store.apply_row_untouched _ _ fun write member =>
      (elsewhere write member id).2

end Sees

section Rules

variable {L : Type} {d : Discipline L Row} {label : L} {goal : Db → Db → Prop} {id : Uuid}
  {past st : Db} {buf : List (Write Row)} {deliveries : Uuid → Option Delivery}
  {offers : Uuid → Option DriverOffer}

/-- The end of a transaction's body: when it returns, `goal` relates the rows
before and after the commit. -/
def Settles (goal : Db → Db → Prop) : Post Row Exception α := fun result _ st buf =>
  match result with
  | .ok _ => goal st (st.apply buf)
  | .error _ => True

/-- Single-row statements on other tables are within the call's promise. -/
def StoresAside (d : Discipline L Row) (label : L) : Prop :=
  ∀ k f now, Key.Aside k → d.guar label (.autosave k) now (now.autosave k f)

theorem settles_throwIf [Decidable condition] {f : Unit → Call α}
    (rest : ¬ condition → (f ()).wp d label (Settles goal) past st buf) :
    ((throwIf condition exception).bind f).wp d label (Settles goal) past st buf := by
  unfold throwIf
  split
  · trivial
  · exact rest ‹_›

theorem settles_assertValidAssignment {row : Delivery} {f : Unit → Call α}
    (rest : row.driverId = none → row.status = .pending →
      (f ()).wp d label (Settles goal) past st buf) :
    ((DeliveryStateMachine.assertValidAssignment row.entity).bind f).wp d label (Settles goal)
      past st buf := by
  rw [DeliveryStateMachine.assertValidAssignment, bind_eq, bind_assoc]
  refine settles_throwIf fun undriven => settles_throwIf fun pending => ?_
  refine rest ?_ (not_not.mp pending)
  simpa [Delivery.entity] using undriven

theorem settles_lockDelivery {f : Option DeliveryEntity → Call α}
    (sees : Sees (st.apply buf) deliveries offers)
    (rest : ∀ past, (f ((deliveries id).map Delivery.entity)).wp d label (Settles goal) past st buf) :
    ((lockDelivery id).bind f).wp d label (Settles goal) past st buf := by
  intro now _ _ _ _
  have row : (st.apply buf).row (.delivery id) = deliveries id := congrFun sees.delivery id
  rw [row]
  exact rest now

theorem settles_lockOffer {f : Option DriverOffer → Call α}
    (sees : Sees (st.apply buf) deliveries offers)
    (rest : ∀ past, (f (offers id)).wp d label (Settles goal) past st buf) :
    ((lockOffer id).bind f).wp d label (Settles goal) past st buf := by
  intro now _ _ _ _
  have row : (st.apply buf).row (.offer id) = offers id := congrFun sees.offer id
  rw [row]
  exact rest now

theorem settles_saveDelivery {f : Unit → Call α} (sees : Sees (st.apply buf) deliveries offers)
    (found : deliveries id = some row)
    (rest : ∀ past buf,
      Sees (st.apply buf) (Function.update deliveries id (some (entity.saveOver row))) offers →
      (f ()).wp d label (Settles goal) past st buf) :
    ((saveDelivery id entity).bind f).wp d label (Settles goal) past st buf := by
  intro now _ _ _ _
  have held : (st.apply buf).row (.delivery id) = some row :=
    (congrFun sees.delivery id).trans found
  rw [held]
  exact rest now (buf ++ [⟨.delivery id, entity.saveOver row⟩]) (sees.write_delivery _)

theorem settles_saveOffer {f : Unit → Call α} (sees : Sees (st.apply buf) deliveries offers)
    (found : offers id = some row)
    (rest : ∀ past buf,
      Sees (st.apply buf) deliveries (Function.update offers id (some offer)) →
      (f ()).wp d label (Settles goal) past st buf) :
    ((saveOffer id offer).bind f).wp d label (Settles goal) past st buf := by
  intro now _ _ _ _
  have held : (st.apply buf).row (.offer id) = some row := (congrFun sees.offer id).trans found
  rw [held]
  exact rest now (buf ++ [⟨.offer id, offer⟩]) (sees.write_offer _)

/-- A piece that writes neither table may be skipped. -/
theorem settles_skip {allowed : Key → Prop} {piece : Call α} {f : α → Call β}
    (sees : Sees (st.apply buf) deliveries offers) (within : piece.Within allowed)
    (elsewhere : ∀ k, allowed k → ∀ id, k ≠ .delivery id ∧ k ≠ .offer id)
    (stores : ∀ k f now, allowed k → d.guar label (.autosave k) now (now.autosave k f))
    (rest : ∀ value past buf, Sees (st.apply buf) deliveries offers →
      (f value).wp d label (Settles goal) past st buf) :
    (piece.bind f).wp d label (Settles goal) past st buf := by
  rw [wp_bind]
  refine wp_within piece within (fun k f now here _ _ => stores k f now here) ?_
  intro result past writes named _
  cases result with
  | error error => trivial
  | ok value =>
    exact rest value past (buf ++ writes)
      (sees.write_others fun write member => elsewhere _ (named write member))

theorem settles_aside {piece : Call α} {f : α → Call β} (stores : StoresAside d label)
    (sees : Sees (st.apply buf) deliveries offers) (within : piece.Within Key.Aside)
    (rest : ∀ value past buf, Sees (st.apply buf) deliveries offers →
      (f value).wp d label (Settles goal) past st buf) :
    (piece.bind f).wp d label (Settles goal) past st buf := by
  refine settles_skip sees within (fun k here id => ?_) stores rest
  cases k <;> first | exact here.elim | simp

/-- A transaction may end in such a piece. -/
theorem settles_last {piece : Call α} (stores : StoresAside d label)
    (sees : Sees (st.apply buf) deliveries offers) (within : piece.Within Key.Aside)
    (ends : ∀ buf, Sees (st.apply buf) deliveries offers → goal st (st.apply buf)) :
    piece.wp d label (Settles goal) past st buf := by
  rw [← bind_ret piece]
  exact settles_aside stores sees within fun _ _ buf sees => ends buf sees

theorem settles_updateDriver {f : Unit → Call α} {driverId : Uuid} {set : Driver → Driver}
    (sees : Sees (st.apply buf) deliveries offers)
    (rest : ∀ past buf, Sees (st.apply buf) deliveries offers →
      (f ()).wp d label (Settles goal) past st buf) :
    ((updateDriver driverId set).bind f).wp d label (Settles goal) past st buf := by
  intro now _ _ _ _
  cases (st.apply buf).row (.driver driverId) with
  | none => exact rest now buf sees
  | some row =>
    exact rest now (buf ++ [⟨.driver driverId, set row⟩]) (sees.write_others (by simp))

/-- The bulk update: each offer is as it was, or matched and was set. -/
theorem settles_updateOffers {test : Uuid → DriverOffer → Bool} {set : DriverOffer → DriverOffer}
    {f : Unit → Call α} (sees : Sees (st.apply buf) deliveries offers)
    (once : ∀ id row, test id (set row) = false)
    (rest : ∀ past buf updated, Sees (st.apply buf) deliveries updated →
      (∀ id, updated id = offers id ∨ ∃ row, offers id = some row ∧ test id row = true ∧
        updated id = some (set row)) →
      (f ()).wp d label (Settles goal) past st buf) :
    ((updateOffers test set).bind f).wp d label (Settles goal) past st buf := by
  rw [wp_bind]
  intro now _ _ _
  refine wp_forEach (fun _ st' buf => st' = st ∧ ∃ updated, Sees (st.apply buf) deliveries updated ∧
    ∀ id, updated id = offers id ∨ ∃ row, offers id = some row ∧ test id row = true ∧
      updated id = some (set row)) _ _ ?_ ?_ ⟨rfl, offers, sees, fun _ => .inl rfl⟩
  · rintro id _ past st' buf ⟨rfl, updated, sees, changed⟩ now _ _ _ _
    have row : (st'.apply buf).row (.offer id) = updated id := congrFun sees.offer id
    rw [row]
    cases found : updated id with
    | none => exact ⟨rfl, updated, sees, changed⟩
    | some offer =>
      dsimp only
      split
      · rename_i matched
        refine ⟨rfl, Function.update updated id (some (set offer)), sees.write_offer _,
          fun other => ?_⟩
        by_cases same : other = id
        · subst same
          -- an offer set before no longer matches
          rcases changed other with kept | ⟨row, _, _, result⟩
          · exact .inr ⟨offer, kept ▸ found, matched, by simp⟩
          · rw [found, Option.some.injEq] at result
            rw [result, once] at matched
            cases matched
        · simpa [same] using changed other
      · exact ⟨rfl, updated, sees, changed⟩
  · rintro past st' buf ⟨rfl, updated, sees, changed⟩
    exact rest past buf updated sees changed

end Rules

/-! ## Calls -/

/-- Every effect of a piece meets the discipline, and no write is left over. -/
def Honours (d : Discipline L Row) (label : L) (piece : Call α) : Prop :=
  ∀ past st, piece.wp d label (fun _ _ _ buf => buf = []) past st []

section Honours

variable {L : Type} {d : Discipline L Row} {label : L}

theorem honours_ret (result : Except Exception α) : Honours d label (.ret result) :=
  fun _ _ => rfl

theorem honours_bind {piece : Call α} {f : α → Call β} (first : Honours d label piece)
    (rest : ∀ value, Honours d label (f value)) : Honours d label (piece.bind f) := by
  intro past st
  rw [wp_bind]
  refine wp_mono ?_ _ (first past st)
  rintro result past st buf rfl
  cases result with
  | error error => rfl
  | ok value => exact rest value past st

theorem honours_find {f : α → Call β}
    (rest : ∀ now, d.inv now → Honours d label (f (query now))) :
    Honours d label ((find query).bind f) :=
  fun _ st now kept _ _ => rest now kept now st

theorem honours_findOne {id : Uuid} {f : DeliveryEntity → Call α}
    (rest : ∀ now row, d.inv now → Db.delivery now id = some row →
      Honours d label (f (normalizeCoordinates row.entity))) :
    Honours d label ((findOne id).bind f) := by
  intro past st now kept _ _
  cases found : Db.delivery now id with
  | none => simp [found, onRet, wp]
  | some row => simpa [found, onRet, Program.bind] using rest now row kept found now st

private theorem honours_findOneWithEvents {id : Uuid} {f : DeliveryEntity × List Uuid → Call α}
    (rest : ∀ now row events, d.inv now → Db.delivery now id = some row →
      Honours d label (f (normalizeCoordinates row.entity, events))) :
    Honours d label ((findOneWithEvents id).bind f) := by
  intro past st now kept _ _
  cases found : Db.delivery now id with
  | none => simp [found, onRet, wp]
  | some row => simpa [found, onRet, Program.bind] using rest now row _ kept found now st

theorem honours_throwIf [Decidable condition] {f : Unit → Call α}
    (rest : ¬ condition → Honours d label (f ())) :
    Honours d label ((throwIf condition exception).bind f) := by
  unfold throwIf
  split
  · exact fun _ _ => rfl
  · exact rest ‹_›

theorem honours_transaction {body : Call α}
    (settles : ∀ past st, body.wp d label (Settles (d.guar label .commit)) past st []) :
    Honours d label (transaction body) := by
  intro past st
  rw [transaction, wp_onRet]
  refine wp_mono ?_ _ (settles past st)
  intro result past st buf settled
  cases result with
  | ok value => exact fun _ _ _ => ⟨settled, fun _ _ => rfl⟩
  | error error => exact fun _ _ => rfl

/-- A single-row statement whose outcome the call does not look at, or looks at
only to throw. -/
theorem honours_autosave {next : Option (Row k) → Call α}
    (stores : ∀ now, d.inv now → d.guar label (.autosave k) now (now.autosave k f))
    (rest : ∀ row, Honours d label (next row)) : Honours d label (.autosave k f next) :=
  fun _ st now kept _ _ => ⟨stores now kept, fun _ => rest _ _ st⟩

/-- A piece that only reads. -/
theorem honours_reads {piece : Call α} (reads : piece.Within fun _ => False) :
    Honours d label piece := by
  intro past st
  refine wp_within piece reads (fun _ _ _ impossible => impossible.elim) ?_
  intro result past' writes named _
  cases writes with
  | nil => rfl
  | cons write rest => exact (named write (by simp)).elim

theorem Honours.meets {piece : Call α} (honours : Honours d label piece) :
    piece.Meets d label fun _ _ => True :=
  fun past st _ => wp_mono (fun _ _ _ _ _ _ _ _ => trivial) _ (honours past st)

end Honours

/-- The discipline that records what each call does, and keeps an invariant of
the rows as long as the effects meet a condition. -/
abbrev effects (inv : Db → Prop) (cond : Request → Effect Key → Db → Prop)
    (keeps : ∀ {request effect before after}, inv before → cond request effect before →
      request.Does inv effect before after → inv after) : Discipline Request Row :=
  .keeping inv cond (fun request => request.Does inv) keeps

theorem quiet_autosave (now : Db) (f : Option (Row k) → Option (Row k)) (aside : k.Aside) :
    Quiet now (now.autosave k f) := by
  constructor <;> funext id
  · refine Store.autosave_row_ne _ _ ?_
    rintro rfl
    exact aside
  · refine Store.autosave_row_ne _ _ ?_
    rintro rfl
    exact aside

/-- Saving one delivery at once. -/
theorem saves_delivery {id : Uuid} (Change : Delivery → Delivery → Prop) (now : Db) (save : Delivery → Delivery)
    (change : ∀ row, Change row (save row)) :
    Quiet now (now.autosave (.delivery id) (·.map save)) ∨
      DeliveryChange id Change now (now.autosave (.delivery id) (·.map save)) := by
  cases found : now.delivery id with
  | none =>
    have row : now.row (.delivery id) = none := found
    simp [Store.autosave, row, Quiet]
  | some delivery =>
    have row : now.row (.delivery id) = some delivery := found
    refine .inr ⟨delivery, save delivery, found, change delivery, ?_, ?_⟩
    · simp only [Store.autosave, row, Option.map_some]
      exact Db.delivery_update ..
    · simp only [Store.autosave, row, Option.map_some]
      exact funext fun id' => Db.offer_set_other _ _ (by simp)

/-- Saving one offer at once. -/
theorem saves_offer {id : Uuid} (Change : DriverOffer → DriverOffer → Prop) (now : Db) (save : DriverOffer → DriverOffer)
    (change : ∀ row, Change row (save row)) :
    Quiet now (now.autosave (.offer id) (·.map save)) ∨
      OfferChange id Change now (now.autosave (.offer id) (·.map save)) := by
  cases found : now.offer id with
  | none =>
    have row : now.row (.offer id) = none := found
    simp [Store.autosave, row, Quiet]
  | some offer =>
    have row : now.row (.offer id) = some offer := found
    refine .inr ⟨offer, save offer, found, change offer, ?_, ?_⟩
    · simp only [Store.autosave, row, Option.map_some]
      exact Db.offer_update ..
    · simp only [Store.autosave, row, Option.map_some]
      exact funext fun id' => Db.delivery_set_other _ _ (by simp)

section Calls

variable {inv : Db → Prop} {cond : Request → Effect Key → Db → Prop}
  {keeps : ∀ {request effect before after}, inv before → cond request effect before →
    request.Does inv effect before after → inv after}
  {amb : Ambient} {request : Request}

theorem stores_aside : StoresAside (effects inv cond keeps) request :=
  fun _ f now aside => .inl (quiet_autosave now f aside)

theorem assignDriver_honours (env : Env) :
    Honours (effects inv cond keeps) ⟨.assignDriver deliveryId driverId assignmentId, amb⟩
      (assignDriver env amb deliveryId driverId assignmentId) := by
  refine honours_bind (honours_transaction fun past st => ?_) fun _ => honours_ret _
  refine settles_lockDelivery (sees_start st) fun past => ?_
  cases found : Db.delivery st deliveryId with
  | none => trivial
  | some row =>
    refine settles_saveDelivery (sees_start st) found fun past buf sees => ?_
    refine settles_aside stores_aside sees (within_bind (createEvent_within _ _) fun _ => trivial)
      fun _ past buf sees => ?_
    refine settles_aside stores_aside sees (publish_within ..) fun _ past buf sees => ?_
    exact ⟨row, _, found, rfl, sees.delivery, sees.offer⟩

theorem updateStatus_honours (env : Env)
    (commits : ∀ before after,
      Quiet before after ∨ DeliveryChange deliveryId (StatusChange amb dto) before after →
      request.Commits before after) :
    Honours (effects inv cond keeps) request (updateStatus env amb deliveryId dto) := by
  refine honours_bind (honours_transaction fun past st => ?_) fun _ => honours_ret _
  refine settles_lockDelivery (sees_start st) fun past => ?_
  cases found : Db.delivery st deliveryId with
  | none => trivial
  | some row =>
    dsimp only [Option.map_some]
    split
    · exact commits _ _ (.inl ⟨rfl, rfl⟩)
    rename_i changed
    refine settles_throwIf fun allowed => ?_
    refine settles_saveDelivery (sees_start st) found fun past buf sees => ?_
    refine settles_aside stores_aside sees (createEvent_within _ _) fun _ past buf sees => ?_
    refine settles_aside stores_aside sees (notify_within _ _) fun _ past buf sees => ?_
    refine settles_aside stores_aside sees (publishStatus_within _ _) fun _ past buf sees => ?_
    exact commits _ _ (.inr ⟨row, _, found, ⟨changed, not_not.mp allowed, rfl⟩,
      sees.delivery, sees.offer⟩)

private theorem cancelDelivery_honours (env : Env) :
    Honours (effects inv cond keeps) ⟨.cancelDelivery deliveryId reason, amb⟩
      (cancelDelivery env amb deliveryId reason) := by
  refine honours_bind (honours_find fun now _ => ?_) fun delivery => ?_
  · cases Db.delivery now deliveryId <;> exact honours_ret _
  · split
    · exact honours_ret _
    · exact honours_bind (updateStatus_honours env fun _ _ changes => changes) fun _ => honours_ret _

theorem verifyOtp_honours (env : Env) :
    Honours (effects inv cond keeps) ⟨.verifyOtp deliveryId otp proofUrl driverLat driverLon, amb⟩
      (verifyOtp env amb deliveryId otp proofUrl driverLat driverLon) := by
  refine honours_bind (honours_transaction fun past st => ?_) fun _ => honours_ret _
  refine settles_lockDelivery (sees_start st) fun past => ?_
  cases found : Db.delivery st deliveryId with
  | none => trivial
  | some row =>
    dsimp only [Option.map_some]
    split
    · rename_i delivered
      exact .inl ⟨⟨rfl, rfl⟩, row, found, delivered⟩
    rename_i undelivered
    cases stored : truthy row.entity.deliveryOtp.value? with
    | none => trivial
    | some deliveryOtp =>
      refine settles_throwIf fun unlocked => settles_throwIf fun _ => ?_
      split
      · rename_i wrong
        refine settles_saveDelivery (sees_start st) found fun past buf sees => ?_
        trivial
      · rename_i right
        refine settles_saveDelivery (sees_start st) found fun past buf sees => ?_
        refine settles_aside stores_aside sees (createEvent_within _ _) fun _ past buf sees => ?_
        refine settles_aside stores_aside sees (notify_within _ _) fun _ past buf sees => ?_
        refine settles_aside stores_aside sees (publish_within ..) fun _ past buf sees => ?_
        refine .inr ⟨row, _, found, ⟨undelivered, ?_, ?_, rfl⟩, sees.delivery, sees.offer⟩
        · have code := truthy_some stored
          simpa [Delivery.entity, not_not.mp right] using code
        · intro until_ locked
          simpa [Delivery.entity, locked] using unlocked

theorem create_honours :
    Honours (effects inv cond keeps) ⟨.create dto, amb⟩ (create amb dto) := by
  refine honours_throwIf fun _ => honours_bind (honours_transaction fun past st => ?_) fun _ =>
    honours_ret _
  refine settles_aside stores_aside (sees_start st) (insert_within _ trivial)
    fun _ past buf sees => ?_
  intro now _ _ _ _
  have row : (st.apply buf).row (.delivery amb.deliveryId) = Db.delivery st amb.deliveryId :=
    congrFun sees.delivery _
  rw [row]
  cases absent : Db.delivery st amb.deliveryId with
  | some row => trivial
  | none =>
    obtain ⟨stored, others⟩ := sees.write_delivery (dto.row amb.now)
    exact ⟨absent, others, stored⟩

theorem generateDeliveryOtp_honours :
    Honours (effects inv cond keeps) ⟨.generateDeliveryOtp deliveryId, amb⟩
      (generateDeliveryOtp amb deliveryId) := by
  refine honours_findOneWithEvents fun past read events kept found => ?_
  refine honours_throwIf fun driven => honours_throwIf fun open_ => ?_
  rw [bind_eq, saveDeliveryNow_bind]
  refine honours_find fun _ _ => honours_throwIf fun _ => ?_
  refine honours_autosave (fun now _ => ?_) fun _ => ?_
  · refine (saves_delivery (Regenerated amb read) now _ fun row => ?_).imp_right
      fun change => ⟨rfl, past, read, kept, found, change⟩
    obtain ⟨undelivered, uncancelled⟩ := not_or.mp open_
    refine ⟨?_, undelivered, uncancelled, rfl⟩
    cases driver : read.driverId with
    | none => simp [normalizeCoordinates, Delivery.entity, driver] at driven
    | some driverId => exact ⟨driverId, rfl⟩
  · refine honours_autosave (fun now _ => .inl (quiet_autosave now _ trivial)) fun row => ?_
    cases row <;> exact honours_ret _

/-- Inserting an offer, as `createOfferForDriver` ends. -/
theorem inserts_offer (now : Db) (offer : DriverOffer) (live : offer.status = .pending) :
    Quiet now (now.autosave (.offer amb.offerId) (ifAbsent offer)) ∨
      OfferCreated amb now (now.autosave (.offer amb.offerId) (ifAbsent offer)) := by
  cases found : now.offer amb.offerId with
  | some row =>
    have held : now.row (.offer amb.offerId) = some row := found
    simp [Store.autosave, held, ifAbsent, Quiet]
  | none =>
    have free : now.row (.offer amb.offerId) = none := found
    refine .inr ⟨offer, found, live, ?_, ?_⟩
    · simp only [Store.autosave, free, ifAbsent]
      exact Db.offer_update ..
    · simp only [Store.autosave, free, ifAbsent]
      exact funext fun id' => Db.delivery_set_other _ _ (by simp)

theorem createOfferForDriver_honours
    (stores : ∀ k before after, OfferCreated amb before after → request.Stores inv k before after) :
    Honours (effects inv cond keeps) request
      (OffersService.createOfferForDriver amb driverId deliveryId expiresInSeconds) := by
  refine honours_find fun now _ => ?_
  cases Db.driver now driverId with
  | none => exact honours_ret _
  | some driver =>
    refine honours_throwIf fun _ => ?_
    refine honours_bind (honours_reads check_within) fun capability => ?_
    refine honours_throwIf fun _ => honours_find fun now _ => ?_
    cases Db.delivery now deliveryId with
    | none => exact honours_ret _
    | some delivery =>
      refine honours_throwIf fun _ => ?_
      refine honours_autosave (fun now _ => ?_) fun found => ?_
      · exact (inserts_offer now _ rfl).imp_right (stores _ _ _)
      · cases found <;> exact honours_ret _

private theorem triggerNextCandidate_honours
    (stores : ∀ k before after, OfferCreated amb before after → request.Stores inv k before after) :
    Honours (effects inv cond keeps) request
      (OffersService.triggerNextCandidate amb deliveryId) := by
  refine honours_find fun now _ => ?_
  cases Db.delivery now deliveryId with
  | none => exact honours_ret _
  | some delivery =>
    dsimp only
    split
    · exact honours_ret _
    · refine honours_find fun now _ => honours_find fun now _ => ?_
      split
      · exact honours_bind (createOfferForDriver_honours stores) fun _ => honours_ret _
      · exact honours_ret _

private theorem rejectOffer_honours :
    Honours (effects inv cond keeps) ⟨.rejectOffer offerId driverId reason, amb⟩
      (OffersService.rejectOffer amb offerId driverId reason) := by
  refine honours_find fun past kept => ?_
  cases found : Db.offer past offerId with
  | none => exact honours_ret _
  | some read =>
    refine honours_throwIf fun own => honours_throwIf fun live => ?_
    refine honours_autosave (fun now _ => ?_) fun _ => ?_
    · refine (saves_offer (fun _ row' => row' = OffersService.rejection amb.now reason read) now _
        fun _ => rfl).imp_right fun change => Or.inr ?_
      exact ⟨rfl, past, read, kept, found, not_not.mp own, not_not.mp live, change⟩
    · show Honours _ _ ((OffersService.triggerNextCandidate amb read.deliveryId).bind _)
      exact honours_bind (triggerNextCandidate_honours fun _ _ _ => Or.inl) fun _ => honours_ret _

private theorem expireOffers_honours :
    Honours (effects inv cond keeps) ⟨.expireOffers, amb⟩ (OffersService.expireOffers amb) := by
  refine honours_transaction fun past st => ?_
  rw [← bind_ret (updateOffers _ _)]
  refine settles_updateOffers (sees_start st) (by simp) fun past buf offers sees lapsed => ?_
  refine ⟨sees.delivery, fun id => ?_⟩
  rw [sees.offer]
  rcases lapsed id with same | ⟨offer, held, matched, expired⟩
  · exact .inl same
  · obtain ⟨live, late⟩ := of_decide_eq_true matched
    exact .inr ⟨offer, held, live, late, expired⟩

/-- The offers after an acceptance: the one accepted, and those the bulk update
matched. -/
theorem won_and_lost {offers updated : Uuid → Option DriverOffer} {accepted : DriverOffer}
    {test : Uuid → DriverOffer → Bool} {lost : DriverOfferStatus}
    (taken : accepted.status = .accepted)
    (tests : ∀ id other, test id other = true →
      other.deliveryId = deliveryId ∧ other.status = .pending)
    (changed : ∀ id, updated id = Function.update offers offerId (some accepted) id ∨
      ∃ other, Function.update offers offerId (some accepted) id = some other ∧
        test id other = true ∧ updated id = some { other with status := lost }) :
    updated offerId = some accepted ∧ ∀ id, id ≠ offerId → updated id = offers id ∨
      ∃ other, offers id = some other ∧ other.deliveryId = deliveryId ∧ other.status = .pending ∧
        updated id = some { other with status := lost } := by
  constructor
  · rcases changed offerId with same | ⟨other, held, matched, _⟩
    · simpa using same
    · simp only [Function.update_self, Option.some.injEq] at held
      have live := (tests _ _ matched).2
      simp [← held, taken] at live
  · intro id different
    have before := changed id
    rw [Function.update_of_ne different] at before
    refine before.imp_right ?_
    rintro ⟨other, held, matched, result⟩
    exact ⟨other, held, (tests _ _ matched).1, (tests _ _ matched).2, result⟩

private theorem acceptOffer_honours (env : Env) :
    Honours (effects inv cond keeps) ⟨.acceptOffer offerId driverId acceptedAt, amb⟩
      (OffersService.acceptOffer env amb offerId driverId acceptedAt) := by
  refine honours_transaction fun past st => ?_
  refine settles_lockOffer (sees_start st) fun past => ?_
  cases held : Db.offer st offerId with
  | none => trivial
  | some offer =>
    refine settles_throwIf fun own => settles_throwIf fun live => settles_throwIf fun fresh => ?_
    refine settles_aside stores_aside (sees_start st) check_within fun _ past buf sees => ?_
    refine settles_throwIf fun _ => ?_
    refine settles_saveOffer sees held fun past buf sees => ?_
    refine settles_updateOffers sees (by simp) fun past buf offers sees others => ?_
    refine settles_lockDelivery sees fun past => ?_
    cases found : Db.delivery st offer.deliveryId with
    | none => trivial
    | some row =>
      refine settles_saveDelivery sees found fun past buf sees => ?_
      refine settles_aside stores_aside sees (insert_within _ trivial) fun _ past buf sees => ?_
      refine settles_updateDriver sees fun past buf sees => ?_
      refine settles_aside stores_aside sees (publish_within ..) fun _ past buf sees => ?_
      obtain ⟨won, lost⟩ := won_and_lost rfl (fun _ _ matched => of_decide_eq_true matched) others
      rw [← sees.offer] at won lost
      exact ⟨offer, row, held, not_not.mp own, not_not.mp live, fresh, found, sees.delivery, won, lost⟩

private theorem stateMachineAcceptOffer_honours :
    Honours (effects inv cond keeps) ⟨.stateMachineAcceptOffer offerId driverId, amb⟩
      (DeliveryStateMachine.acceptOffer amb offerId driverId) := by
  refine honours_bind (honours_transaction fun past st => ?_) fun _ => honours_ret _
  refine settles_lockOffer (sees_start st) fun past => ?_
  cases held : Db.offer st offerId with
  | none => trivial
  | some offer =>
    by_cases own : offer.driverId = driverId
    case neg => simp [own, wp, Settles]
    subst own
    simp only [Option.filter_some, decide_true, ↓reduceIte]
    refine settles_throwIf fun live => settles_throwIf fun fresh => ?_
    refine settles_lockDelivery (sees_start st) fun past => ?_
    cases found : Db.delivery st offer.deliveryId with
    | none => trivial
    | some row =>
      refine settles_assertValidAssignment fun undriven pending => settles_throwIf fun _ => ?_
      refine settles_saveOffer (sees_start st) held fun past buf sees => ?_
      refine settles_saveDelivery sees found fun past buf sees => ?_
      refine settles_aside stores_aside sees (insert_within _ trivial) fun _ past buf sees => ?_
      refine settles_updateDriver sees fun past buf sees => ?_
      refine settles_updateOffers sees (by simp) fun past buf offers sees others => ?_
      refine settles_last stores_aside sees (publish_within ..) fun buf sees => ?_
      obtain ⟨won, lost⟩ := won_and_lost rfl
        (fun _ _ matched => (of_decide_eq_true matched).imp_right And.left) others
      rw [← sees.offer] at won lost
      exact ⟨offer, row, ⟨held, rfl, not_not.mp live, fresh, found, sees.delivery, won, lost⟩,
        undriven, pending⟩

private theorem updateDriverStatus_honours :
    Honours (effects inv cond keeps) ⟨.updateDriverStatus driverId status, amb⟩
      (DriversService.updateStatus amb driverId status) := by
  refine honours_bind (honours_reads ?_) fun driver => ?_
  · refine within_bind (find_within _) fun found => ?_
    cases found <;> trivial
  · refine honours_autosave (fun now _ => .inl ⟨?_, ?_⟩) fun _ => honours_ret _
    · exact funext fun id => Store.autosave_row_ne _ _ (by simp)
    · exact funext fun id => Store.autosave_row_ne _ _ (by simp)

/-- Every call does to the deliveries and the offers only what is described
above, at any interleaving with the others. -/
theorem request_honours (env : Env) (request : Request) :
    Honours (effects inv cond keeps) request (request.program env) := by
  obtain ⟨operation, amb⟩ := request
  cases operation with
  | create dto => exact honours_bind create_honours fun _ => honours_ret _
  | assignDriver deliveryId driverId assignmentId =>
    exact honours_bind (assignDriver_honours env) fun _ => honours_ret _
  | updateStatus deliveryId dto =>
    exact honours_bind (updateStatus_honours env fun _ _ changes => changes) fun _ => honours_ret _
  | verifyOtp deliveryId otp proofUrl driverLat driverLon =>
    exact honours_bind (verifyOtp_honours env) fun _ => honours_ret _
  | cancelDelivery deliveryId reason => exact cancelDelivery_honours env
  | generateDeliveryOtp deliveryId =>
    exact honours_bind generateDeliveryOtp_honours fun _ => honours_ret _
  | createOfferForDriver driverId deliveryId expiresInSeconds =>
    exact honours_bind (createOfferForDriver_honours fun _ _ _ created => created) fun _ =>
      honours_ret _
  | acceptOffer offerId driverId acceptedAt =>
    exact honours_bind (acceptOffer_honours env) fun _ => honours_ret _
  | stateMachineAcceptOffer offerId driverId => exact stateMachineAcceptOffer_honours
  | rejectOffer offerId driverId reason => exact honours_bind rejectOffer_honours fun _ => honours_ret _
  | expireOffers => exact honours_bind expireOffers_honours fun _ => honours_ret _
  | updateDriverStatus driverId status =>
    exact honours_bind updateDriverStatus_honours fun _ => honours_ret _

variable {s' : Service} {actions : List (Action Request)} {store : Db}

/-- The invariant rule of the service: what every described effect keeps holds
in every state of every run. -/
theorem run_keeps
    (keeps : ∀ {request effect before after}, inv before → cond request effect before →
      Request.Does inv request effect before after → inv after)
    (env : Env) (start : inv store)
    (admitted : ({ store } : Service).Admits (Request.program env) cond actions)
    (ran : ({ store } : Service).run (Request.program env) actions = some s') : inv s'.store := by
  have sound : ({ store } : Service).Sound (effects inv cond keeps) fun _ _ _ => True :=
    System.sound_initial store start
  have meets := fun request => (request_honours env request : Honours (effects inv cond keeps) _ _).meets
  exact (System.sound_run sound meets admitted ran).1.inv

/-- The step rule of the service: a relation that every described effect obeys
holds of every step of every run. -/
theorem run_moves {allowed : Db → Db → Prop}
    (keeps : ∀ {request effect before after}, inv before → cond request effect before →
      Request.Does inv request effect before after → inv after)
    (env : Env) (start : inv store) (still : ∀ db, allowed db db)
    (moves : ∀ request effect before after, inv before → cond request effect before →
      Request.Does inv request effect before after → allowed before after)
    (admitted : ({ store } : Service).Admits (Request.program env) cond actions) :
    ({ store } : Service).EveryStep (Request.program env) allowed actions := by
  have sound : ({ store } : Service).Sound (effects inv cond keeps) fun _ _ _ => True :=
    System.sound_initial store start
  have meets := fun request => (request_honours env request : Honours (effects inv cond keeps) _ _).meets
  exact System.sound_every_step sound meets still moves admitted

end Calls

end DriverMicroServices
