import DriverMicroServices.Requests

/-! `generateDeliveryOtp` against the other writers of a delivery. It reads the row
without a lock and later saves the whole entity, so what was committed in between is
written over. Only an event that was recorded meanwhile stops the save: the writers of
a delivery record one, but for the two that accept an offer. -/
namespace DriverMicroServices
open Transactions Program

/-- The columns that a new code has nothing to do with. -/
structure Progress where
  status : DeliveryStatus
  driverId : Option Uuid
  pickedUpAt : Option Time
  deliveredAt : Option Time
  failedAt : Option Time
  deriving DecidableEq

def Delivery.progress (row : Delivery) : Progress :=
  ⟨row.status, row.driverId, row.pickedUpAt, row.deliveredAt, row.failedAt⟩

/-- Those columns of a stored delivery. -/
def progressOf (s : Service) (id : Uuid) : Option Progress :=
  (Db.delivery s.store id).map Delivery.progress

/-- An event of the delivery that was not there when the call read it. -/
def RecordedSince (begun waited : Service) (id : Uuid) : Prop :=
  ∃ event ∈ Db.eventsOf waited.store id, event ∉ Db.eventsOf begun.store id

/-- After the `SELECT` of its save the call `t` has ended with an exception, or goes on
to the `UPDATE`. -/
def SaveEnds (env : Env) (t : Nat) (looked saved : Service) : Prop :=
  looked.act (Request.program env) (.step t) = some saved ∨
    saved = looked ∧ ∃ label error, looked.threads t = some { label, program := .ret (.error error) }

section Steps

variable {env : Env} {amb : Ambient} {t : Nat} {deliveryId : Uuid} {begun seen : Service}

/-- After its read, a call that goes on to the save has found a row that is not
delivered or cancelled, and holds it with a new code. -/
private theorem read_step
    (start : begun.threads t =
      some { label := ⟨.generateDeliveryOtp deliveryId, amb⟩,
             program := Request.program env ⟨.generateDeliveryOtp deliveryId, amb⟩ })
    (read : begun.act (Request.program env) (.step t) = some seen) :
    seen.store = begun.store ∧ ∃ program,
      seen.threads t = some { label := ⟨.generateDeliveryOtp deliveryId, amb⟩, program } ∧
      ((∃ error, program = .ret (.error error)) ∨
        ∃ row next, Db.delivery begun.store deliveryId = some row ∧ row.status ≠ .delivered ∧
          row.status ≠ .cancelled ∧
          program = (saveDeliveryNow deliveryId (regenerate amb (normalizeCoordinates row.entity))
            (Db.eventsOf begun.store deliveryId)).bind next) := by
  simp only [System.act, start, Option.bind_some, System.advance, Request.program,
    generateDeliveryOtp, findOneWithEvents, find, bind_eq, Program.bind, onRet, Option.some.injEq] at read
  subst read
  refine ⟨rfl, _, by rw [System.put_threads, Function.update_self], ?_⟩
  cases found : Db.delivery begun.store deliveryId with
  | none => exact .inl ⟨_, rfl⟩
  | some row =>
    simp only [pure_eq, onRet, throwIf]
    split
    · exact .inl ⟨_, rfl⟩
    simp only [onRet]
    split
    · exact .inl ⟨_, rfl⟩
    · rename_i open_
      obtain ⟨undelivered, uncancelled⟩ := not_or.mp open_
      have assoc (event : DeliveryEvent) := Program.bind_assoc
        (saveDeliveryNow deliveryId (regenerate amb (normalizeCoordinates row.entity))
          (Db.eventsOf begun.store deliveryId))
        (fun _ => (insertNow (.deliveryEvent amb.eventId) event).bind fun _ => pure (generateOtpCode amb))
        fun _ => pure ([] : List Projection)
      exact .inr ⟨row, _, rfl, undelivered, uncancelled, assoc _⟩

/-- The `SELECT` of the save throws at an event that the entity does not have. -/
private theorem look_step {waited looked : Service} {entity : DeliveryEntity} {events : List Uuid}
    {next : Unit → Call (List Projection)}
    (holds : waited.threads t = some { label, program := (saveDeliveryNow deliveryId entity events).bind next })
    (look : waited.act (Request.program env) (.step t) = some looked) :
    looked.store = waited.store ∧ ∃ program, looked.threads t = some { label, program } ∧
      if ∃ event ∈ Db.eventsOf waited.store deliveryId, event ∉ events then
        program = .ret (.error notNullViolation)
      else program = .autosave (.delivery deliveryId) (·.map entity.saveOver) fun _ => next () := by
  rw [saveDeliveryNow_bind] at holds
  simp only [System.act, holds, Option.bind_some, System.advance, find, Program.bind, onRet,
    Option.some.injEq] at look
  subst look
  refine ⟨rfl, _, by rw [System.put_threads, Function.update_self], ?_⟩
  split
  · simp [throwIf, onRet, *]
  · simp [throwIf, onRet, *]

/-- The `UPDATE` writes the entity over the row it finds. -/
private theorem save_step {looked saved : Service} {save : Delivery → Delivery}
    {next : Option Delivery → Call (List Projection)} {now : Delivery}
    (holds : looked.threads t = some { label, program := .autosave (.delivery deliveryId) (·.map save) next })
    (stored : looked.store.row (.delivery deliveryId) = some now)
    (saves : SaveEnds env t looked saved) : Db.delivery saved.store deliveryId = some (save now) := by
  rcases saves with saves | ⟨-, _, error, ended⟩
  · simp only [System.act, holds, Option.bind_some, System.advance] at saves
    split at saves <;> cases saves
    exact (Store.autosave_row_self ..).trans (by simp [stored])
  · rw [holds] at ended
    cases ended

end Steps

/-- A new code is saved over whatever the other calls did since it was read: the save
leaves status, driver and the times of pickup, delivery and failure alone exactly when
an event was recorded, so that it throws, or when they are as they were read. It never
leaves a code in a delivered or cancelled delivery. -/
theorem regeneration_keeps_progress (env : Env) (amb : Ambient) (t : Nat) (deliveryId : Uuid)
    (begun seen waited looked saved : Service) (others : List (Action Request))
    (start : begun.threads t =
      some { label := ⟨.generateDeliveryOtp deliveryId, amb⟩,
             program := Request.program env ⟨.generateDeliveryOtp deliveryId, amb⟩ })
    (read : begun.act (Request.program env) (.step t) = some seen)
    (elsewhere : ∀ action ∈ others, action.thread ≠ t)
    (meanwhile : seen.run (Request.program env) others = some waited)
    (look : waited.act (Request.program env) (.step t) = some looked)
    (save : SaveEnds env t looked saved) :
    (progressOf saved deliveryId = progressOf waited deliveryId ↔
      RecordedSince begun waited deliveryId ∨
        progressOf waited deliveryId = progressOf begun deliveryId) ∧
    (Db.delivery saved.store deliveryId = Db.delivery waited.store deliveryId ∨
      ∃ row, Db.delivery saved.store deliveryId = some row ∧
        row.status ≠ .delivered ∧ row.status ≠ .cancelled) := by
  obtain ⟨unchanged, program, holds, ends⟩ := read_step start read
  obtain ⟨still, rows⟩ := System.run_others meanwhile elsewhere
  rw [holds] at still
  rcases ends with ⟨error, rfl⟩ | ⟨row, next, found, undelivered, uncancelled, rfl⟩
  · simp [System.act, still, System.advance] at look
  obtain ⟨same, program, looks, goes⟩ := look_step still look
  split at goes
  · -- the save has thrown
    rename_i recorded
    subst goes
    have rolled : saved = looked := by
      rcases save with save | ⟨rolled, -⟩
      · simp [System.act, looks, System.advance] at save
      · exact rolled
    rw [rolled, progressOf, same]
    exact ⟨iff_of_true rfl (.inl recorded), .inl rfl⟩
  · rename_i unrecorded
    subst goes
    have present : (waited.store.row (.delivery deliveryId)).isSome := by
      refine rows _ ?_
      rw [unchanged]
      exact Option.isSome_of_eq_some found
    obtain ⟨now, stored⟩ := Option.isSome_iff_exists.mp present
    have result := save_step looks (same ▸ stored) save
    refine ⟨?_, .inr ⟨_, result, by simp [undelivered], by simp [uncancelled]⟩⟩
    rw [or_iff_right (show ¬ RecordedSince begun waited deliveryId from unrecorded)]
    simp only [progressOf, result, found, Option.map_some, Option.some.injEq,
      show Db.delivery waited.store deliveryId = some now from stored]
    rw [regenerate_saveOver]
    exact eq_comm

section Runs
open Sample

def newCode : Request := ⟨.generateDeliveryOtp "D1", ambient 1 6⟩

/-- An assigned delivery gets a new code while another delivery is assigned. -/
theorem regeneration_keeps_progress_shop :
    ∃ begun waited saved : Service,
      begun.threads 1 = some { label := newCode, program := newCode.program env } ∧
      (progressOf saved "D1" = progressOf waited "D1" ↔
        RecordedSince begun waited "D1" ∨ progressOf waited "D1" = progressOf begun "D1") ∧
      (Db.delivery saved.store "D1" = Db.delivery waited.store "D1" ∨
        ∃ row, Db.delivery saved.store "D1" = some row ∧
          row.status ≠ .delivered ∧ row.status ≠ .cancelled) := by
  have ran : ((after shop (alone 0 (.assignDriver "D1" "x" "a") 5 9)).bind fun s =>
      (s.act (Request.program env) (.start 1 newCode)).bind fun begun =>
      (begun.act (Request.program env) (.step 1)).bind fun seen =>
      (seen.run (Request.program env) (alone 2 (.assignDriver "D2" "y" "b") 7 9)).bind fun waited =>
      (waited.act (Request.program env) (.step 1)).bind fun looked =>
      looked.act (Request.program env) (.step 1)).isSome = true := by
    decide +kernel
  simp only [Option.isSome_iff_exists, Option.bind_eq_some_iff] at ran
  obtain ⟨saved, s, _, begun, started, seen, read, waited, meanwhile, looked, look, save⟩ := ran
  have start : begun.threads 1 = some { label := newCode, program := newCode.program env } := by
    simp only [System.act] at started
    split at started <;> cases started
    simp
  exact ⟨begun, waited, saved, start, regeneration_keeps_progress env (ambient 1 6) 1 "D1" begun seen
    waited looked saved _ start read (by decide) meanwhile look (.inl save)⟩

/-- A driver accepts an offer for the delivery between the read of the new code and its
save. -/
def reassignedMeanwhile : List (Action Request) :=
  alone 0 (.createOfferForDriver "y" "D1" none) 5 5 ++ alone 3 (.assignDriver "D1" "x" "a") 5 9 ++
    alone 1 (.generateDeliveryOtp "D1") 6 1 ++ alone 2 (.acceptOffer "offer0" "y" 7) 7 16

theorem acceptance_undone :
    ∃ waited looked saved, after shop reassignedMeanwhile = some waited ∧
      waited.act (Request.program env) (.step 1) = some looked ∧
      looked.act (Request.program env) (.step 1) = some saved ∧
      progressOf waited "D1" = some ⟨.assigned, some "y", none, none, none⟩ ∧
      progressOf saved "D1" = some ⟨.assigned, some "x", none, none, none⟩ := by
  have ran : ((after shop reassignedMeanwhile).bind fun waited =>
      (waited.act (Request.program env) (.step 1)).bind fun looked =>
      (looked.act (Request.program env) (.step 1)).map fun saved =>
        (progressOf waited "D1", progressOf saved "D1")) =
      some (some ⟨.assigned, some "y", none, none, none⟩,
        some ⟨.assigned, some "x", none, none, none⟩) := by
    decide +kernel
  obtain ⟨waited, toWaited, ran⟩ := Option.bind_eq_some_iff.mp ran
  obtain ⟨looked, look, ran⟩ := Option.bind_eq_some_iff.mp ran
  obtain ⟨saved, save, columns⟩ := Option.map_eq_some_iff.mp ran
  obtain ⟨before, after⟩ := Prod.mk.inj columns
  exact ⟨waited, looked, saved, toWaited, look, save, before, after⟩

end Runs

end DriverMicroServices
