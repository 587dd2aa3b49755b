import DriverMicroServices.Effects

/-! Offers under concurrency. Both acceptances lock their offer and their
delivery, but only the state machine service looks at the delivery it locked,
and a rejection saves an offer it read without a lock. An offer created between
another offer's acceptance and its commit therefore stays open, and a rejection
may undo an acceptance. -/
namespace DriverMicroServices
open Transactions Program

/-! ## Single acceptance -/

/-- At most one offer of a delivery is accepted, and it names the driver of the
delivery. -/
structure SingleAcceptance (db : Db) : Prop where
  one : ∀ id id' offer offer', db.offer id = some offer → db.offer id' = some offer' →
    offer.status = .accepted → offer'.status = .accepted →
    offer.deliveryId = offer'.deliveryId → id = id'
  driven : ∀ id offer, db.offer id = some offer → offer.status = .accepted →
    ∃ row, db.delivery offer.deliveryId = some row ∧ row.driverId = some offer.driverId

/-- What `OffersService.acceptOffer` would have to find when it commits: no other
accepted offer of its delivery. The calls that move a driver without an offer
stay out of the run. -/
def acceptanceGuarded (request : Request) (effect : Effect Key) (db : Db) : Bool :=
  match request.operation, effect with
  | .acceptOffer offerId _ _, .commit =>
    (db.offer offerId).all fun offer => (db.offersOf offer.deliveryId).all fun entry =>
      entry.1 = offerId ∨ entry.2.status ≠ .accepted
  | .assignDriver _ _ _, .commit => false
  | .generateDeliveryOtp _, .autosave _ => false
  | _, _ => true

section Single

variable {before after : Db}

/-- A step that accepts no offer and moves no driver. -/
private theorem single_mono (single : SingleAcceptance before)
    (accepted : ∀ id offer, after.offer id = some offer → offer.status = .accepted →
      before.offer id = some offer)
    (drivers : ∀ id row, before.delivery id = some row →
      ∃ row', after.delivery id = some row' ∧ row'.driverId = row.driverId) :
    SingleAcceptance after := by
  constructor
  · intro id id' offer offer' held held' won won' same
    exact single.one id id' offer offer' (accepted _ _ held won) (accepted _ _ held' won') won won' same
  · intro id offer held won
    obtain ⟨row, present, driver⟩ := single.driven id offer (accepted _ _ held won) won
    obtain ⟨row', present', same⟩ := drivers _ row present
    exact ⟨row', present', same.trans driver⟩

private theorem drivers_of_same (same : after.delivery = before.delivery) (id : Uuid)
    (row : Delivery) (present : before.delivery id = some row) :
    ∃ row', after.delivery id = some row' ∧ row'.driverId = row.driverId :=
  ⟨row, by rw [same, present], rfl⟩

private theorem drivers_of_change {id : Uuid} {change : Delivery → Delivery → Prop}
    (changed : DeliveryChange id change before after)
    (driver : ∀ row row', change row row' → row'.driverId = row.driverId) (other : Uuid)
    (row : Delivery) (present : before.delivery other = some row) :
    ∃ row', after.delivery other = some row' ∧ row'.driverId = row.driverId := by
  obtain ⟨held, row', found, changes, updated, _⟩ := changed
  by_cases same : other = id
  · subst same
    rw [found] at present
    cases present
    exact ⟨row', by simp [updated], driver _ _ changes⟩
  · exact ⟨row, by rw [updated, Function.update_of_ne same, present], rfl⟩

private theorem single_of_quiet (single : SingleAcceptance before) (quiet : Quiet before after) :
    SingleAcceptance after :=
  single_mono single (fun id offer held _ => by rwa [quiet.2] at held) (drivers_of_same quiet.1)

private theorem single_of_change {id : Uuid} {change : Delivery → Delivery → Prop}
    (single : SingleAcceptance before) (changed : DeliveryChange id change before after)
    (driver : ∀ row row', change row row' → row'.driverId = row.driverId) :
    SingleAcceptance after := by
  have same : after.offer = before.offer := by
    obtain ⟨_, _, _, _, _, same⟩ := changed
    exact same
  exact single_mono single (fun id offer held _ => by rwa [same] at held)
    (drivers_of_change changed driver)

/-- An acceptance, when no other offer of the delivery is accepted already. -/
private theorem single_of_acceptance {amb : Ambient} {offerId driverId : Uuid}
    {accepted : DriverOffer → DriverOffer} {lost : DriverOfferStatus}
    {assign : DeliveryEntity → DeliveryEntity} {offer : DriverOffer} {row : Delivery}
    (single : SingleAcceptance before)
    (acceptance : Acceptance amb offerId driverId accepted lost assign before after offer row)
    (loses : lost ≠ .accepted)
    (keeps : (accepted offer).deliveryId = offer.deliveryId ∧ (accepted offer).driverId = offer.driverId)
    (drives : ((assign row.entity).saveOver row).driverId = some driverId)
    (first : ∀ id other, before.offer id = some other → other.status = .accepted →
      other.deliveryId = offer.deliveryId → id = offerId) : SingleAcceptance after := by
  have origin : ∀ id other, after.offer id = some other → other.status = .accepted →
      id = offerId ∨ before.offer id = some other := by
    intro id other held won
    by_cases same : id = offerId
    · exact .inl same
    · refine .inr ?_
      rcases acceptance.others id same with kept | ⟨loser, _, _, _, result⟩
      · rwa [kept] at held
      · rw [result] at held
        cases held
        exact (loses won).elim
  have mine : ∀ other, after.offer offerId = some other → other = accepted offer := by
    intro other held
    rw [acceptance.won] at held
    exact (Option.some.inj held).symm
  have stranger : ∀ id other, id ≠ offerId → before.offer id = some other →
      other.status = .accepted → other.deliveryId ≠ offer.deliveryId :=
    fun id other different held won same => different (first id other held won same)
  constructor
  · intro id id' other other' held held' won won' same
    rcases origin id other held won with rfl | kept <;>
      rcases origin id' other' held' won' with rfl | kept'
    · rfl
    · by_contra different
      rw [mine other held, keeps.1] at same
      exact stranger id' other' (Ne.symm different) kept' won' same.symm
    · by_contra different
      rw [mine other' held', keeps.1] at same
      exact stranger id other different kept won same
    · exact single.one id id' other other' kept kept' won won' same
  · intro id other held won
    by_cases same : id = offerId
    · subst same
      rw [mine other held, keeps.1, keeps.2]
      refine ⟨(assign row.entity).saveOver row, by simp [acceptance.assigned], ?_⟩
      rw [drives, acceptance.own]
    · obtain kept : before.offer id = some other := (origin id other held won).resolve_left same
      obtain ⟨found, present, driver⟩ := single.driven id other kept won
      have different := stranger id other same kept won
      exact ⟨found, by rw [acceptance.assigned, Function.update_of_ne different, present], driver⟩

private theorem commit_single (request : Request)
    (guarded : acceptanceGuarded request .commit before = true)
    (commits : request.Commits before after) (single : SingleAcceptance before) :
    SingleAcceptance after := by
  obtain ⟨operation, amb⟩ := request
  cases operation with
  | create dto =>
    obtain ⟨absent, same, inserted⟩ := commits
    refine single_mono single (fun id offer held _ => by rwa [same] at held) fun id row present => ?_
    have other : id ≠ amb.deliveryId := by
      rintro rfl
      rw [absent] at present
      cases present
    exact ⟨row, by rw [inserted, Function.update_of_ne other, present], rfl⟩
  | assignDriver deliveryId driverId assignmentId => simp [acceptanceGuarded] at guarded
  | updateStatus deliveryId dto =>
    rcases commits with quiet | changed
    · exact single_of_quiet single quiet
    · refine single_of_change single changed ?_
      rintro row row' ⟨_, _, rfl⟩
      exact (transition_saveOver ..).2.1
  | cancelDelivery deliveryId reason =>
    rcases commits with quiet | changed
    · exact single_of_quiet single quiet
    · refine single_of_change single changed ?_
      rintro row row' ⟨_, _, rfl⟩
      exact (transition_saveOver ..).2.1
  | verifyOtp deliveryId otp proofUrl driverLat driverLon =>
    rcases commits with ⟨quiet, _⟩ | changed
    · exact single_of_quiet single quiet
    · refine single_of_change single changed ?_
      rintro row row' ⟨_, _, _, rfl⟩
      simp
  | acceptOffer offerId driverId acceptedAt =>
    obtain ⟨offer, row, acceptance⟩ := commits
    refine single_of_acceptance single acceptance (by simp) ⟨rfl, rfl⟩ (by simp) ?_
    intro id other held won same
    simp only [acceptanceGuarded, acceptance.held, Option.all_some, List.all_eq_true] at guarded
    have found := guarded (id, other) ((Db.mem_offersOf before).mpr ⟨held, same⟩)
    simpa [won] using found
  | stateMachineAcceptOffer offerId driverId =>
    obtain ⟨offer, row, acceptance, undriven, _⟩ := commits
    refine single_of_acceptance single acceptance (by simp) ⟨rfl, rfl⟩ (by simp) ?_
    intro id other held won same
    -- the delivery has no driver, so none of its offers is accepted
    obtain ⟨found, present, driver⟩ := single.driven id other held won
    rw [same, acceptance.found] at present
    cases present
    simp [undriven] at driver
  | expireOffers =>
    obtain ⟨same, lapsed⟩ := commits
    refine single_mono single (fun id offer held won => ?_) (drivers_of_same same)
    rcases lapsed id with kept | ⟨other, _, _, _, expired⟩
    · rwa [kept] at held
    · rw [expired] at held
      cases held
      simp at won
  | _ => exact commits.elim

private theorem store_single (request : Request) {inv : Db → Prop} {k : Key}
    (guarded : acceptanceGuarded request (.autosave k) before = true)
    (stores : request.Stores inv k before after) (single : SingleAcceptance before) :
    SingleAcceptance after := by
  obtain ⟨operation, amb⟩ := request
  have created (made : OfferCreated amb before after) : SingleAcceptance after := by
    obtain ⟨offer, absent, live, inserted, same⟩ := made
    refine single_mono single (fun id other held won => ?_) (drivers_of_same same)
    rw [inserted] at held
    by_cases here : id = amb.offerId
    · rw [here, Function.update_self] at held
      cases held
      simp [live] at won
    · rwa [Function.update_of_ne here] at held
  cases operation with
  | createOfferForDriver driverId deliveryId expiresInSeconds => exact created stores
  | rejectOffer offerId driverId reason =>
    rcases stores with made | ⟨_, _, read, _, _, _, _, row, row', held, rfl, updated, same⟩
    · exact created made
    · refine single_mono single (fun id other found won => ?_) (drivers_of_same same)
      rw [updated] at found
      by_cases here : id = offerId
      · rw [here, Function.update_self] at found
        cases found
        simp [OffersService.rejection] at won
      · rwa [Function.update_of_ne here] at found
  | generateDeliveryOtp deliveryId => simp [acceptanceGuarded] at guarded
  | _ => exact stores.elim

end Single

/-- In every run in which `OffersService.acceptOffer` commits only while no other
offer of its delivery is accepted, every state reached has at most one accepted
offer for a delivery, and the delivery that offer's driver. -/
theorem single_acceptance (env : Env) (store : Db) (actions : List (Action Request)) (s : Service)
    (start : SingleAcceptance store)
    (guarded : ({ store } : Service).Admits (Request.program env)
      (fun request effect db => acceptanceGuarded request effect db) actions)
    (ran : ({ store } : Service).run (Request.program env) actions = some s) :
    SingleAcceptance s.store := by
  refine run_keeps ?_ env start guarded ran
  intro request effect before after single guarded does
  cases effect with
  | commit => exact commit_single request guarded does single
  | autosave k =>
    rcases does with quiet | stores
    · exact single_of_quiet single quiet
    · exact store_single request guarded stores single
  | log line => exact single_of_quiet single does

section Runs
open Sample

private theorem shop_single : SingleAcceptance shop :=
  ⟨fun _ _ _ _ held => by simp [shop_offer] at held, fun _ _ held => by simp [shop_offer] at held⟩

/-- Two offers of one delivery, of which the first is accepted. -/
def firstOfTwo : List (Action Request) :=
  alone 0 (.createOfferForDriver "x" "D1" none) 5 5 ++
    alone 1 (.createOfferForDriver "y" "D1" none) 6 5 ++
    alone 2 (.acceptOffer "offer0" "x" 7) 7 20

theorem single_acceptance_shop :
    ∃ s, ({ store := shop } : Service).run (Request.program env) firstOfTwo = some s ∧
      SingleAcceptance s.store := by
  have possible : (after shop firstOfTwo).isSome = true := by decide
  obtain ⟨s, ran⟩ := Option.isSome_iff_exists.mp possible
  exact ⟨s, ran, single_acceptance env shop _ s shop_single (by decide) ran⟩

/-- The second offer is created while the first is accepted: it has seen the
delivery pending, and the bulk update that rejects the others has not seen it. -/
def lateOffer : List (Action Request) :=
  alone 0 (.createOfferForDriver "x" "D1" none) 5 5 ++
    alone 1 (.createOfferForDriver "y" "D1" none) 6 4 ++
    alone 2 (.acceptOffer "offer0" "x" 7) 7 18 ++ [.step 1] ++
    alone 3 (.acceptOffer "offer1" "y" 8) 8 16

theorem two_offers_accepted :
    ∃ s, ({ store := shop } : Service).run (Request.program env) lateOffer = some s ∧
      ¬ SingleAcceptance s.store := by
  have both : (after shop lateOffer).map (fun s =>
      ((Db.offer s.store "offer0").map fun offer => (offer.deliveryId, offer.status),
        (Db.offer s.store "offer1").map fun offer => (offer.deliveryId, offer.status))) =
      some (some ("D1", .accepted), some ("D1", .accepted)) := by
    decide
  obtain ⟨s, ran, offers⟩ := Option.map_eq_some_iff.mp both
  refine ⟨s, ran, fun single => ?_⟩
  obtain ⟨first, second⟩ := Prod.mk.inj offers
  obtain ⟨offer, held, shape⟩ := Option.map_eq_some_iff.mp first
  obtain ⟨offer', held', shape'⟩ := Option.map_eq_some_iff.mp second
  obtain ⟨delivery, status⟩ := Prod.mk.inj shape
  obtain ⟨delivery', status'⟩ := Prod.mk.inj shape'
  have same := single.one _ _ _ _ held held' status status' (delivery.trans delivery'.symm)
  simp at same

end Runs

/-! ## Terminal offers -/

/-- No offer disappears, and an offer that is not pending keeps its status. -/
def OffersSettled (before after : Db) : Prop :=
  ∀ id offer, before.offer id = some offer → ∃ offer', after.offer id = some offer' ∧
    (offer.status ≠ .pending → offer'.status = offer.status)

/-- What the save of `rejectOffer` would have to find: the offer it read, still
pending, or rejected already. -/
def rejectionGuarded (request : Request) (effect : Effect Key) (db : Db) : Bool :=
  match request.operation, effect with
  | .rejectOffer offerId _ _, .autosave k =>
    k ≠ .offer offerId || (db.offer offerId).all fun offer =>
      offer.status = .pending ∨ offer.status = .rejected
  | _, _ => true

section Settled

variable {before after : Db}

private theorem settled_of_same (same : after.offer = before.offer) : OffersSettled before after :=
  fun _ offer held => ⟨offer, by rw [same, held], fun _ => rfl⟩

private theorem settled_of_pending
    (changed : ∀ id, after.offer id = before.offer id ∨ ∃ offer offer', before.offer id = some offer ∧
      offer.status = .pending ∧ after.offer id = some offer') : OffersSettled before after := by
  intro id offer held
  rcases changed id with same | ⟨stored, offer', found, live, result⟩
  · exact ⟨offer, same.trans held, fun _ => rfl⟩
  · rw [held] at found
    cases found
    exact ⟨offer', result, fun ended => (ended live).elim⟩

private theorem settled_of_acceptance {amb : Ambient} {offerId driverId : Uuid}
    {accepted : DriverOffer → DriverOffer} {lost : DriverOfferStatus}
    {assign : DeliveryEntity → DeliveryEntity} {offer : DriverOffer} {row : Delivery}
    (acceptance : Acceptance amb offerId driverId accepted lost assign before after offer row) :
    OffersSettled before after := by
  refine settled_of_pending fun id => ?_
  by_cases same : id = offerId
  · subst same
    exact .inr ⟨offer, _, acceptance.held, acceptance.live, acceptance.won⟩
  · refine (acceptance.others id same).imp_right ?_
    rintro ⟨loser, held, _, live, result⟩
    exact ⟨loser, _, held, live, result⟩

private theorem commit_settled (request : Request) (commits : request.Commits before after) :
    OffersSettled before after := by
  obtain ⟨operation, amb⟩ := request
  cases operation with
  | create dto => exact settled_of_same commits.2.1
  | assignDriver deliveryId driverId assignmentId =>
    obtain ⟨_, _, _, _, _, same⟩ := commits
    exact settled_of_same same
  | updateStatus deliveryId dto =>
    rcases commits with ⟨_, same⟩ | ⟨_, _, _, _, _, same⟩ <;> exact settled_of_same same
  | cancelDelivery deliveryId reason =>
    rcases commits with ⟨_, same⟩ | ⟨_, _, _, _, _, same⟩ <;> exact settled_of_same same
  | verifyOtp deliveryId otp proofUrl driverLat driverLon =>
    rcases commits with ⟨⟨_, same⟩, _⟩ | ⟨_, _, _, _, _, same⟩ <;> exact settled_of_same same
  | acceptOffer offerId driverId acceptedAt =>
    obtain ⟨_, _, acceptance⟩ := commits
    exact settled_of_acceptance acceptance
  | stateMachineAcceptOffer offerId driverId =>
    obtain ⟨_, _, acceptance, _⟩ := commits
    exact settled_of_acceptance acceptance
  | expireOffers =>
    refine settled_of_pending fun id => (commits.2 id).imp_right ?_
    rintro ⟨offer, held, live, _, result⟩
    exact ⟨offer, _, held, live, result⟩
  | _ => exact commits.elim

private theorem store_settled (request : Request) {inv : Db → Prop} {k : Key}
    (guarded : rejectionGuarded request (.autosave k) before = true)
    (stores : request.Stores inv k before after) : OffersSettled before after := by
  obtain ⟨operation, amb⟩ := request
  have created (made : OfferCreated amb before after) : OffersSettled before after := by
    obtain ⟨offer, absent, _, inserted, _⟩ := made
    intro id other held
    have different : id ≠ amb.offerId := by
      rintro rfl
      rw [absent] at held
      cases held
    exact ⟨other, by rw [inserted, Function.update_of_ne different, held], fun _ => rfl⟩
  cases operation with
  | createOfferForDriver driverId deliveryId expiresInSeconds => exact created stores
  | generateDeliveryOtp deliveryId =>
    obtain ⟨_, _, _, _, _, _, _, _, _, _, same⟩ := stores
    exact settled_of_same same
  | rejectOffer offerId driverId reason =>
    rcases stores with made | ⟨rfl, _, read, _, _, _, _, row, row', held, rfl, updated, _⟩
    · exact created made
    · simp only [rejectionGuarded, ne_eq, not_true_eq_false, decide_false, Bool.false_or, held,
        Option.all_some, decide_eq_true_eq] at guarded
      intro id other found
      by_cases same : id = offerId
      · subst same
        rw [held] at found
        cases found
        refine ⟨_, by rw [updated, Function.update_self], fun ended => ?_⟩
        exact (guarded.resolve_left ended).symm
      · exact ⟨other, by rw [updated, Function.update_of_ne same, found], fun _ => rfl⟩
  | _ => exact stores.elim

end Settled

/-- In every run whose rejections save over a pending or a rejected offer, no
step changes an offer that is accepted, rejected or expired. -/
theorem offers_stay_settled (env : Env) (store : Db) (actions : List (Action Request))
    (guarded : ({ store } : Service).Admits (Request.program env)
      (fun request effect db => rejectionGuarded request effect db) actions) :
    ({ store } : Service).EveryStep (Request.program env) OffersSettled actions ∧
    ∀ first second middle last, actions = first ++ second →
      ({ store } : Service).run (Request.program env) first = some middle →
      middle.run (Request.program env) second = some last →
      ∀ id offer, Db.offer middle.store id = some offer → offer.status ≠ .pending →
        ∃ offer', Db.offer last.store id = some offer' ∧ offer'.status = offer.status := by
  have every : ({ store } : Service).EveryStep (Request.program env) OffersSettled actions := by
    refine run_moves (fun _ _ _ => trivial) env trivial (fun db => settled_of_same rfl) ?_ guarded
    intro request effect before after _ guarded does
    cases effect with
    | commit => exact commit_settled request does
    | autosave k =>
      rcases does with ⟨_, same⟩ | stores
      · exact settled_of_same same
      · exact store_settled request guarded stores
    | log line => exact settled_of_same does.2
  refine ⟨every, ?_⟩
  rintro first second middle last rfl toMiddle toLast id offer held ended
  refine System.every_step_run
    (fun db => ∃ offer', Db.offer db id = some offer' ∧ offer'.status = offer.status) ?_
    (System.every_step_append every toMiddle) toLast ⟨offer, held, rfl⟩
  rintro before after settled ⟨current, found, same⟩
  obtain ⟨next, present, kept⟩ := settled id current found
  exact ⟨next, present, (kept (same ▸ ended)).trans same⟩

section Runs
open Sample

/-- A rejection in time, and an expiry. -/
theorem offers_stay_settled_shop :
    ({ store := shop } : Service).EveryStep (Request.program env) OffersSettled
      (alone 0 (.createOfferForDriver "x" "D1" none) 5 5 ++
        alone 1 (.rejectOffer "offer0" "x" none) 6 10 ++ alone 2 .expireOffers 40000 3) :=
  (offers_stay_settled env shop _ (by decide)).1

/-- An offer, a rejection that has read it, and its acceptance. -/
def acceptedMeanwhile : List (Action Request) :=
  alone 0 (.createOfferForDriver "x" "D1" none) 5 5 ++
    alone 1 (.rejectOffer "offer0" "x" none) 6 1 ++ alone 2 (.acceptOffer "offer0" "x" 7) 7 18

/-- The rejection then saves what it read over the accepted offer. -/
theorem acceptance_overwritten :
    ¬ ({ store := shop } : Service).EveryStep (Request.program env) OffersSettled
      (acceptedMeanwhile ++ [.step 1]) := by
  refine System.every_step_broken
    (fun db => (Db.offer db "offer0").any fun offer => offer.status = .accepted) ?_
    (by decide) (by decide)
  intro before after settled held
  obtain ⟨offer, present, accepted⟩ := (Option.any_eq_true _ _).mp held
  obtain ⟨offer', present', kept⟩ := settled _ _ present
  have status := of_decide_eq_true accepted
  simp [present', kept (by simp [status]), status]

end Runs

end DriverMicroServices
