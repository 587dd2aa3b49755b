import DriverMicroServices.Effects
import DriverMicroServices.Transitions

/-! `SlaMonitorService.checkSlaBreaches`, run every minute by any number of
processes. A Redis key that expires keeps them apart; the rows are read without
a lock and saved whole, in one transaction, after both reads. -/
namespace DriverMicroServices
open Transactions Transitions

/-- Where a process is in a check that it has the key for. -/
inductive Check where
  | acquired
  | foundPickup (now : Time) (pickupBreaches : List (Uuid × Delivery))
  | marking (now : Time) (breaches : List (Uuid × Delivery))
  /-- In the `finally` block. -/
  | leaving
  deriving DecidableEq

/-- The service, the key `sla-checker:lock`, and the processes in the check. -/
structure Monitored where
  service : Service
  lockKey : Bool := false
  checks : List (Nat × Check) := []

/-- A step of the service, of the monitor in process `p`, or of Redis. -/
inductive Tick where
  | service (action : Action Request)
  /-- `SET sla-checker:lock 1 EX 55 NX`. -/
  | acquire (p : Nat)
  | findPickupBreaches (p : Nat) (now : Time)
  | findDeliveryBreaches (p : Nat)
  | save (p : Nat)
  /-- A query, the save or the alert throws. -/
  | fail (p : Nat)
  /-- `DEL sla-checker:lock`. -/
  | release (p : Nat)
  /-- The process dies. -/
  | crash (p : Nat)
  /-- Redis drops the key. -/
  | expire

/-- `LessThan(now)`, which no null is. -/
def lessThan (now : Time) (date : Option Time) : Bool := date.any fun date => decide (date < now)

def pickupBreaches (now : Time) (db : Db) : List (Uuid × Delivery) :=
  db.deliveries.filter fun entry =>
    entry.2.status = .assigned && lessThan now entry.2.expectedPickupAt &&
      entry.2.slaBreachAt.isNone

def deliveryBreaches (now : Time) (db : Db) : List (Uuid × Delivery) :=
  db.deliveries.filter fun entry =>
    (entry.2.status = .pickedUp || entry.2.status = .inTransit) &&
      lessThan now entry.2.expectedDeliveryAt && entry.2.slaBreachAt.isNone

/-- `Map.set`: the last value of a key stays. -/
def mapSet (map : List (Uuid × Delivery)) (breach : Uuid × Delivery) : List (Uuid × Delivery) :=
  if map.any (·.1 = breach.1) then map.map fun entry => if entry.1 = breach.1 then breach else entry
  else map ++ [breach]

def uniqueBreaches (breaches : List (Uuid × Delivery)) : List (Uuid × Delivery) :=
  breaches.foldl mapSet []

/-- The loaded object with its breach set. -/
def markBreach (now : Time) (read : Delivery) : DeliveryEntity :=
  { read.entity with slaBreachAt := .value now }

/-- `deliveryRepository.save` of all of them, as its commit leaves the rows. -/
def saveBreaches (now : Time) (breaches : List (Uuid × Delivery)) (db : Db) : Db :=
  breaches.foldl (fun db breach =>
    db.autosave (.delivery breach.1) (·.map (markBreach now breach.2).saveOver)) db

namespace Monitored

def check? (s : Monitored) (p : Nat) : Option Check := s.checks.lookup p

def put (s : Monitored) (p : Nat) (check : Check) : Monitored :=
  { s with checks := s.checks.map fun entry => if entry.1 = p then (p, check) else entry }

def leave (s : Monitored) (p : Nat) : Monitored :=
  { s with checks := s.checks.filter fun entry => entry.1 ≠ p }

def step (env : Env) (s : Monitored) : Tick → Option Monitored
  | .service action =>
    (s.service.act (Request.program env) action).map fun service => { s with service }
  | .acquire p =>
    match s.check? p, s.lockKey with
    | none, false => some { s with lockKey := true, checks := (p, .acquired) :: s.checks }
    | none, true => some s
    | _, _ => none
  | .findPickupBreaches p now =>
    match s.check? p with
    | some .acquired => some (s.put p (.foundPickup now (pickupBreaches now s.service.store)))
    | _ => none
  | .findDeliveryBreaches p =>
    match s.check? p with
    | some (.foundPickup now found) =>
      let breaches := uniqueBreaches (found ++ deliveryBreaches now s.service.store)
      some (s.put p (if breaches.isEmpty then .leaving else .marking now breaches))
    | _ => none
  | .save p =>
    match s.check? p with
    | some (.marking now breaches) =>
      -- The transaction of the save waits for the locks of the others.
      if breaches.all fun breach => (s.service.owner (.delivery breach.1)).isNone then
        some { s.put p .leaving with
          service := { s.service with store := saveBreaches now breaches s.service.store } }
      else none
    | _ => none
  | .fail p => (s.check? p).map fun _ => s.put p .leaving
  | .release p =>
    match s.check? p with
    | some .leaving => some { s.leave p with lockKey := false }
    | _ => none
  | .crash p => (s.check? p).map fun _ => s.leave p
  | .expire => some { s with lockKey := false }

end Monitored

/-! ## What the monitor promises -/

/-- The process of a step of the monitor. -/
def Tick.process? : Tick → Option Nat
  | .service _ | .expire => none
  | .acquire p | .findPickupBreaches p _ | .findDeliveryBreaches p | .save p | .fail p | .release p
  | .crash p => some p

/-- The deliveries are as before, but for breaches that were set. -/
def OnlyBreaches (before after : Db) : Prop :=
  ∀ id, after.delivery id = before.delivery id ∨ ∃ row breachAt,
    before.delivery id = some row ∧ after.delivery id = some { row with slaBreachAt := some breachAt }

namespace Monitored

def breachSet (id : Uuid) (s : Monitored) : Bool :=
  (Db.delivery s.service.store id).any (·.slaBreachAt.isSome)

/-- A step of the monitor that sets the breach of a delivery. -/
def marks (id : Uuid) (taken : Taken Monitored Tick) : Bool :=
  taken.action.process?.isSome && !breachSet id taken.before && breachSet id taken.after

/-- `generateDeliveryOtp`, which saves a whole delivery it read without a lock,
is not among the calls that run beside the monitor. -/
def locking (request : Request) : Bool :=
  match request.operation with
  | .generateDeliveryOtp _ => false
  | _ => true

def beside : Tick → Bool
  | .service (.start _ request) => locking request
  | _ => true

/-- The key does not expire while a process is in the check, and the deliveries
that are saved are as they were read. -/
def undisturbed (s : Monitored) : Tick → Bool
  | .expire => s.checks.isEmpty
  | .save p =>
    match s.check? p with
    | some (.marking _ breaches) =>
      breaches.all fun breach => Db.delivery s.service.store breach.1 = some breach.2
    | _ => true
  | _ => true

end Monitored

/-! ## Saving -/

/-- A row with its breach set. -/
def marked (now : Time) (row : Delivery) : Delivery := { row with slaBreachAt := some now }

/-- Over a row that is as it was read, apart from its breach, the save sets the
breach and nothing else. -/
theorem markBreach_saveOver {now : Time} {read row : Delivery}
    (asRead : marked now row = marked now read) :
    (markBreach now read).saveOver row = marked now row := by
  have coordinates : (markBreach now read).saveOver row =
      { marked now read with
        pickupLat := (marked now row).pickupLat, pickupLon := (marked now row).pickupLon
        dropLat := (marked now row).dropLat, dropLon := (marked now row).dropLon } := by
    simp [markBreach, marked, Delivery.entity, DeliveryEntity.saveOver]
  rw [coordinates, asRead]

private theorem saveBreaches_delivery {now : Time} {breaches : List (Uuid × Delivery)} {db : Db}
    (asRead : ∀ breach ∈ breaches,
      (db.delivery breach.1).map (marked now) = some (marked now breach.2)) (id : Uuid) :
    Db.delivery (saveBreaches now breaches db) id = db.delivery id ∨
      ∃ read, (id, read) ∈ breaches ∧
        Db.delivery (saveBreaches now breaches db) id = (db.delivery id).map (marked now) := by
  induction breaches generalizing db with
  | nil => exact .inl rfl
  | cons breach rest ih =>
    obtain ⟨own, read⟩ := breach
    obtain ⟨row, held, same⟩ := Option.map_eq_some_iff.mp (asRead (own, read) (by simp))
    set db' : Db := db.autosave (.delivery own) (·.map (markBreach now read).saveOver) with saving
    have saved : db'.delivery own = some (marked now row) := by
      unfold Db.delivery at held ⊢
      rw [saving, Store.autosave_row_self, held]
      simp [markBreach_saveOver same]
    have others : ∀ id, id ≠ own → db'.delivery id = db.delivery id :=
      fun id other => Store.autosave_row_ne _ _ (by simpa using other)
    have alike : ∀ id, (db'.delivery id).map (marked now) = (db.delivery id).map (marked now) := by
      intro id
      by_cases this : id = own
      · rw [this, saved, held]
        rfl
      · rw [others id this]
    have next := ih fun breach member => (alike breach.1).trans (asRead breach (by simp [member]))
    rcases next with kept | ⟨read', member, marked'⟩
    · by_cases this : id = own
      · subst this
        exact .inr ⟨read, by simp, kept.trans (by rw [saved, held]; rfl)⟩
      · exact .inl (kept.trans (others id this))
    · exact .inr ⟨read', by simp [member], marked'.trans (alike id)⟩

/-- No other row is written. -/
theorem saveBreaches_row {now : Time} {breaches : List (Uuid × Delivery)} {db : Db} {k : Key}
    (other : ∀ breach ∈ breaches, k ≠ .delivery breach.1) :
    (saveBreaches now breaches db).row k = db.row k := by
  induction breaches generalizing db with
  | nil => rfl
  | cons breach rest ih =>
    refine (ih fun later member => other later (by simp [member])).trans ?_
    exact Store.autosave_row_ne _ _ (other breach (by simp))

/-! ## Reading -/

/-- What a process has read in the check is not over. -/
def Check.Open : Check → Prop
  | .foundPickup _ breaches | .marking _ breaches =>
    ∀ breach ∈ breaches, ¬ breach.2.status.Terminal
  | .acquired | .leaving => True

private theorem pickupBreaches_open (now : Time) (db : Db) :
    ∀ breach ∈ pickupBreaches now db, ¬ breach.2.status.Terminal := by
  intro breach member terminal
  simp only [pickupBreaches, List.mem_filter, Bool.and_eq_true, decide_eq_true_eq] at member
  rcases terminal with terminal | terminal | terminal <;> simp [terminal] at member

private theorem deliveryBreaches_open (now : Time) (db : Db) :
    ∀ breach ∈ deliveryBreaches now db, ¬ breach.2.status.Terminal := by
  intro breach member terminal
  simp only [deliveryBreaches, List.mem_filter, Bool.and_eq_true, Bool.or_eq_true,
    decide_eq_true_eq] at member
  rcases terminal with terminal | terminal | terminal <;> simp [terminal] at member

private theorem mem_mapSet {map : List (Uuid × Delivery)} (member : entry ∈ mapSet map breach) :
    entry ∈ map ∨ entry = breach := by
  unfold mapSet at member
  split at member
  · obtain ⟨before, found, same⟩ := List.mem_map.mp member
    split at same
    · exact .inr same.symm
    · exact .inl (same ▸ found)
  · simpa using member

private theorem mem_uniqueBreaches {breaches : List (Uuid × Delivery)}
    (member : entry ∈ uniqueBreaches breaches) : entry ∈ breaches := by
  have general : ∀ map, entry ∈ breaches.foldl mapSet map → entry ∈ map ∨ entry ∈ breaches := by
    clear member
    induction breaches with
    | nil => exact fun map member => .inl member
    | cons breach rest ih =>
      intro map member
      rcases ih _ member with early | late
      · rcases mem_mapSet early with early | rfl
        · exact .inl early
        · exact .inr (by simp)
      · exact .inr (by simp [late])
  simpa using general [] member

/-! ## One step -/

namespace Monitored

/-- What the calls beside the monitor promise each other. -/
abbrev promises : Discipline Request Row :=
  effects (fun _ => True) (fun request _ _ => locking request = true) fun _ _ _ => trivial

/-- The invariant of the checks. -/
structure Kept (s : Monitored) : Prop where
  sound : s.service.Sound promises fun _ _ _ => True
  labels : ∀ t thread, s.service.threads t = some thread → locking thread.label = true
  alone : s.checks.length ≤ 1
  locked : s.checks ≠ [] → s.lockKey = true
  reads : ∀ entry ∈ s.checks, entry.2.Open

/-- The breaches that are set stay set. -/
def Stays (before after : Db) : Prop :=
  ∀ id row, before.delivery id = some row → ∃ row', after.delivery id = some row' ∧
    (row.slaBreachAt.isSome → row'.slaBreachAt.isSome)

/-- What a step of the monitor does to the deliveries. -/
def MarksOpen (before after : Db) : Prop :=
  ∀ id, after.delivery id = before.delivery id ∨ ∃ row now, before.delivery id = some row ∧
    ¬ row.status.Terminal ∧ after.delivery id = some (marked now row)

theorem stays_of_marksOpen {before after : Db} (marks : MarksOpen before after) :
    Stays before after := by
  intro id row held
  rcases marks id with same | ⟨row', now, held', _, set⟩
  · exact ⟨row, same.trans held, fun set => set⟩
  · exact ⟨_, set, fun _ => rfl⟩

theorem marksOpen_refl (db : Db) : MarksOpen db db := fun _ => .inl rfl

/-- No call that works under a lock touches the breach. -/
theorem stays_of_does {request : Request} {effect : Effect Key} {before after : Db}
    (beside : locking request = true) (does : request.Does (fun _ => True) effect before after) :
    Stays before after := by
  intro id row held
  rcases does_delivery does with same | ⟨own, row', step, updated⟩
  · exact ⟨row, by rw [same, held], fun set => set⟩
  by_cases other : id = own
  case neg => exact ⟨row, by rw [updated, Function.update_of_ne other, held], fun set => set⟩
  subst other
  refine ⟨row', by simp [updated], fun set => ?_⟩
  rw [held] at step
  cases step with
  | assigned operation => simpa using set
  | updated operation change =>
    obtain ⟨_, _, rfl⟩ := change
    cases mapStringToDeliveryStatus _ <;>
      simpa [transition, Delivery.entity, DeliveryEntity.saveOver] using set
  | verified operation change =>
    obtain ⟨_, _, _, rfl⟩ := change
    simpa using set
  | accepted operation _ _ => simpa using set
  | stateMachineAccepted operation _ _ _ _ => simpa using set
  | regenerated operation _ _ _ => simp [locking, operation] at beside

variable {env : Env} {s s' : Monitored} {tick : Tick}

private theorem act_labels {service service' : Service} {action : Action Request}
    (labels : ∀ t thread, service.threads t = some thread → locking thread.label = true)
    (beside : beside (.service action) = true)
    (ran : service.act (Request.program env) action = some service') (t : Nat)
    (thread : Thread Request Row Exception (List Projection))
    (found : service'.threads t = some thread) : locking thread.label = true := by
  by_cases own : action.thread = t
  case neg => exact labels t thread ((System.act_others ran own).1 ▸ found)
  subst own
  cases action with
  | start t label =>
    simp only [System.act] at ran
    split at ran <;> cases ran
    simp only [Action.thread, System.put_threads, Function.update_self, Option.some.injEq] at found
    subst found
    exact beside
  | step t =>
    obtain ⟨before, held, ran⟩ := Option.bind_eq_some_iff.mp ran
    rw [System.advance_label ran found]
    exact labels t before held
  | abort t =>
    obtain ⟨before, _, rfl⟩ := Option.map_eq_some_iff.mp ran
    simp [Action.thread] at found

/-- A step of the service beside the checks. -/
theorem service_keeps {service' : Service} {action : Action Request} (kept : s.Kept)
    (beside : beside (.service action) = true)
    (ran : s.service.act (Request.program env) action = some service') :
    Kept { s with service := service' } ∧ Stays s.service.store service'.store := by
  have meets := fun request => (request_honours env request : Honours promises _ _).meets
  have admitted : ∀ label effect, s.service.effect? action = some (label, effect) →
      locking label = true := by
    intro label effect made
    cases action with
    | start t label => cases made
    | abort t => cases made
    | step t =>
      obtain ⟨thread, held, made⟩ := Option.bind_eq_some_iff.mp made
      obtain ⟨_, _, made⟩ := Option.map_eq_some_iff.mp made
      cases made
      exact kept.labels t thread held
  obtain ⟨sound, _, changed⟩ := System.sound_act kept.sound meets admitted ran
  refine ⟨⟨sound, act_labels kept.labels beside ran, kept.alone, kept.locked, kept.reads⟩, ?_⟩
  rcases changed with same | ⟨label, effect, made, does⟩
  · rw [same]
    exact stays_of_marksOpen (marksOpen_refl _)
  · exact stays_of_does (admitted label effect made) does

theorem mem_of_check? {p : Nat} {check : Check} (found : s.check? p = some check) :
    (p, check) ∈ s.checks := by
  obtain ⟨before, after, shape, _⟩ := List.lookup_eq_some_iff.mp found
  simp [shape]

/-- A process that goes on in the check. -/
theorem put_kept {p : Nat} {check : Check} (kept : s.Kept) (isOpen : check.Open) :
    (s.put p check).Kept := by
  refine ⟨kept.sound, kept.labels, by simpa [put] using kept.alone, ?_, ?_⟩
  · intro some
    exact kept.locked fun none => some (by simp [put, none])
  · intro entry member
    obtain ⟨before, held, rfl⟩ := List.mem_map.mp member
    split
    · exact isOpen
    · exact kept.reads before held

/-- A process that leaves the check, with or without the key. -/
theorem leave_kept {p : Nat} (kept : s.Kept) : (s.leave p).Kept := by
  refine ⟨kept.sound, kept.labels, Nat.le_trans (List.length_filter_le _ _) kept.alone, ?_, ?_⟩
  · intro some
    exact kept.locked fun none => some (by simp [leave, none])
  · exact fun entry member => kept.reads entry (List.mem_of_mem_filter member)

/-- The process in the check is the only one, so nobody is left when it goes. -/
theorem leave_checks {p : Nat} {check : Check} (kept : s.Kept) (found : s.check? p = some check) :
    (s.leave p).checks = [] := by
  have member := mem_of_check? found
  have alone := kept.alone
  match shape : s.checks with
  | [] => simp [shape] at member
  | [entry] =>
    rw [shape, List.mem_singleton] at member
    simp [leave, shape, ← member]
  | _ :: _ :: _ =>
    rw [shape] at alone
    simp at alone

/-- One step of an undisturbed run. -/
theorem step_keeps (kept : s.Kept) (calm : s.undisturbed tick = true ∧ beside tick = true)
    (stepped : step env s tick = some s') :
    s'.Kept ∧ Stays s.service.store s'.service.store ∧
      (tick.process?.isSome → MarksOpen s.service.store s'.service.store) := by
  obtain ⟨calm, beside⟩ := calm
  have still : MarksOpen s.service.store s.service.store := marksOpen_refl _
  have silent := stays_of_marksOpen still
  cases tick with
  | service action =>
    obtain ⟨service', ran, rfl⟩ := Option.map_eq_some_iff.mp stepped
    obtain ⟨kept', stays⟩ := service_keeps kept beside ran
    exact ⟨kept', stays, by simp [Tick.process?]⟩
  | expire =>
    cases stepped
    have nobody : s.checks = [] := by simpa [undisturbed] using calm
    exact ⟨⟨kept.sound, kept.labels, kept.alone, fun some => absurd nobody some, kept.reads⟩,
      silent, fun _ => still⟩
  | acquire p =>
    simp only [step] at stepped
    split at stepped <;> cases stepped
    · rename_i absent free
      have nobody : s.checks = [] := by
        by_contra some
        simp [kept.locked some] at free
      refine ⟨⟨kept.sound, kept.labels, by simp [nobody], fun _ => rfl, ?_⟩, silent, fun _ => still⟩
      intro entry member
      rw [nobody, List.mem_singleton] at member
      subst member
      trivial
    · exact ⟨kept, silent, fun _ => still⟩
  | findPickupBreaches p now =>
    simp only [step] at stepped
    split at stepped <;> cases stepped
    exact ⟨put_kept kept (pickupBreaches_open _ _), silent, fun _ => still⟩
  | findDeliveryBreaches p =>
    simp only [step] at stepped
    split at stepped <;> cases stepped
    rename_i now found held
    refine ⟨put_kept kept ?_, silent, fun _ => still⟩
    split
    · trivial
    · intro breach member
      rcases List.mem_append.mp (mem_uniqueBreaches member) with member | member
      · exact kept.reads _ (mem_of_check? held) breach member
      · exact deliveryBreaches_open _ _ breach member
  | save p =>
    simp only [step] at stepped
    split at stepped
    case h_2 => cases stepped
    rename_i now breaches held
    split at stepped <;> cases stepped
    rename_i unlocked
    simp only [undisturbed, held, List.all_eq_true, decide_eq_true_eq] at calm
    have marks : MarksOpen s.service.store (saveBreaches now breaches s.service.store) := by
      intro id
      have asRead : ∀ breach ∈ breaches, (Db.delivery s.service.store breach.1).map (marked now) =
          some (marked now breach.2) := fun breach member => by rw [calm breach member]; rfl
      rcases saveBreaches_delivery asRead id with same | ⟨read, member, set⟩
      · exact .inl same
      · have found := calm (id, read) member
        exact .inr ⟨read, now, found, kept.reads _ (mem_of_check? held) _ member,
          set.trans (by rw [found]; rfl)⟩
    have waiting : ∀ k, s.service.owner k ≠ none →
        (saveBreaches now breaches s.service.store).row k = s.service.store.row k := by
      intro k owned
      refine saveBreaches_row fun breach member same => owned ?_
      rw [same]
      simpa using List.all_eq_true.mp unlocked breach member
    have after : (s.put p .leaving).Kept := put_kept kept trivial
    exact ⟨⟨System.sound_outside kept.sound trivial trivial waiting, after.labels, after.alone,
      after.locked, after.reads⟩, stays_of_marksOpen marks, fun _ => marks⟩
  | fail p =>
    obtain ⟨check, held, rfl⟩ := Option.map_eq_some_iff.mp stepped
    exact ⟨put_kept kept trivial, silent, fun _ => still⟩
  | release p =>
    simp only [step] at stepped
    split at stepped <;> cases stepped
    rename_i held
    have gone := leave_kept (p := p) kept
    exact ⟨⟨gone.sound, gone.labels, gone.alone, fun some => absurd (leave_checks kept held) some,
      gone.reads⟩, silent, fun _ => still⟩
  | crash p =>
    obtain ⟨check, held, rfl⟩ := Option.map_eq_some_iff.mp stepped
    exact ⟨leave_kept kept, silent, fun _ => still⟩

theorem kept_initial (store : Db) : Kept { service := { store } } :=
  ⟨System.sound_initial store trivial, fun _ _ absent => by simp at absent, by simp, by simp, by simp⟩

end Monitored

open Monitored

/-- In every run in which the key expires only when no process is in the check,
and each delivery is saved as it was read, the monitor changes no column but
`slaBreachAt`, sets it at most once for each delivery and never on one that is
over, and one process at most is in the check. -/
theorem sla_marks_once (env : Env) (store : Db) (ticks : List Tick)
    (calls : ∀ tick ∈ ticks, beside tick = true)
    (calm : Admits (step env) (fun s tick => s.undisturbed tick = true) { service := { store } }
      ticks) :
    (∀ taken ∈ trace (step env) { service := { store } } ticks,
      (taken.action.process?.isSome →
        OnlyBreaches taken.before.service.store taken.after.service.store) ∧
      (∀ id, marks id taken = true → ∀ row,
        Db.delivery taken.before.service.store id = some row → ¬ row.status.Terminal) ∧
      taken.after.checks.length ≤ 1) ∧
    ∀ id, (trace (step env) { service := { store } } ticks).countP (marks id) ≤ 1 := by
  have admitted := admits_and calm calls
  have keeps : ∀ {s : Monitored} {tick s'}, s.Kept →
      s.undisturbed tick = true ∧ beside tick = true → step env s tick = some s' → s'.Kept :=
    fun kept cond stepped => (step_keeps kept cond stepped).1
  constructor
  · intro taken member
    obtain ⟨kept, cond, stepped⟩ := trace_inv keeps (kept_initial store) admitted taken member
    obtain ⟨kept', _, marksOpen⟩ := step_keeps kept cond stepped
    refine ⟨fun own id => ?_, fun id marking row held => ?_, kept'.alone⟩
    · rcases marksOpen own id with same | ⟨row, now, held, _, set⟩
      · exact .inl same
      · exact .inr ⟨row, now, held, set⟩
    · simp only [marks, breachSet, Bool.and_eq_true, Bool.not_eq_true'] at marking
      obtain ⟨⟨own, before⟩, after⟩ := marking
      rcases marksOpen own id with same | ⟨row', now, held', isOpen, _⟩
      · rw [same, before] at after
        cases after
      · rw [held] at held'
        cases held'
        exact isOpen
  · intro id
    have bound := trace_once (breachSet id) (marks id) keeps (fun kept cond stepped set => ?_)
      (fun taken marking => ?_) (kept_initial store) admitted
    · exact Nat.le_trans bound (by split <;> omega)
    · obtain ⟨row, held, set⟩ := (Option.any_eq_true _ _).mp set
      obtain ⟨row', held', still⟩ := (step_keeps kept cond stepped).2.1 id row held
      simp [breachSet, held', still set]
    · simp only [marks, Bool.and_eq_true, Bool.not_eq_true'] at marking
      exact ⟨marking.1.2, marking.2⟩

section Samples
open Sample

/-- The shop with a pickup that is overdue. -/
def overdue : Db :=
  shop.set (.delivery "D1")
    { (order "S1").row 0 with
      driverId := some "x", status := .assigned, assignedAt := some 5, expectedPickupAt := some 3
      deliveryOtp := some "100000" }

/-- A call of the service, started and run for some steps. -/
def serving (t : Nat) (operation : Operation) (steps : Nat) : List Tick :=
  (alone t operation 7 steps).map .service

/-- Two checks that overlap, of which one gets the key, and a pickup after them. -/
def twoChecks : List Tick :=
  [.acquire 0, .findPickupBreaches 0 10, .acquire 1, .findDeliveryBreaches 0, .save 0, .release 0] ++
    serving 0 (.updateStatus "D1" { status := "PICKED_UP" }) 11 ++
    [.acquire 1, .findPickupBreaches 1 70, .findDeliveryBreaches 1, .release 1, .expire]

theorem sla_marks_once_shop :
    (trace (step env) { service := { store := overdue } } twoChecks).countP (marks "D1") = 1 := by
  have once := (sla_marks_once env overdue twoChecks (by decide) (by decide)).2 "D1"
  have marked : (trace (step env) { service := { store := overdue } } twoChecks).countP
      (marks "D1") ≠ 0 := by
    decide
  omega

/-- A cancellation between the reads and the save of a check. -/
def cancelledInBetween : List Tick :=
  [.acquire 0, .findPickupBreaches 0 10, .findDeliveryBreaches 0] ++
    serving 0 (.updateStatus "D1" { status := "CANCELLED" }) 9

/-- The save takes the cancellation back, and marks a delivery that was over; and
when the key expires during a check, a second process enters it. -/
theorem cancellation_reverted :
    (∃ s s', run (step env) { service := { store := overdue } } cancelledInBetween = some s ∧
      step env s (.save 0) = some s' ∧ marks "D1" ⟨s, .save 0, s'⟩ = true ∧
      (Db.delivery s.service.store "D1").map (·.status) = some .cancelled ∧
      (Db.delivery s'.service.store "D1").map (·.status) = some .assigned) ∧
    ∃ s, run (step env) { service := { store := overdue } } [.acquire 0, .expire, .acquire 1] =
      some s ∧ s.checks.length = 2 := by
  have reverted : ((run (step env) { service := { store := overdue } } cancelledInBetween).bind
      fun s => (step env s (.save 0)).map fun s' =>
        (marks "D1" ⟨s, .save 0, s'⟩, (Db.delivery s.service.store "D1").map (·.status),
          (Db.delivery s'.service.store "D1").map (·.status))) =
      some (true, some .cancelled, some .assigned) := by
    decide
  have overlapped : (run (step env) { service := { store := overdue } }
      [.acquire 0, .expire, .acquire 1]).map (·.checks.length) = some 2 := by
    decide
  obtain ⟨s, ran, saved⟩ := Option.bind_eq_some_iff.mp reverted
  obtain ⟨s', stepped, shape⟩ := Option.map_eq_some_iff.mp saved
  obtain ⟨marking, before, after⟩ := by simpa only [Prod.mk.injEq] using shape
  exact ⟨⟨s, s', ran, stepped, marking, before, after⟩, Option.map_eq_some_iff.mp overlapped⟩

end Samples

end DriverMicroServices
