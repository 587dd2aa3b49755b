import DriverMicroServices.CityChanges

/-! The registration of drivers: the account that the first login makes, the profile that the
driver completes, and the decisions of admins. Approvals and rejections ask for the status that
they start from, the calls of the driver do not. -/
namespace DriverMicroServices
open Tables.Keyed Transitions

/-- The fields of `completeProfile`, each of them optional. -/
structure ProfileData where
  name : Option String := none
  phone : Option String := none
  cityId : Option Uuid := none
  vehicleType : Option String := none
  vehicleNumber : Option String := none
  deriving DecidableEq

/-- `!!(driver.name && driver.phone && driver.cityId)` -/
def DriverRecord.isComplete (driver : DriverRecord) : Bool :=
  (truthy driver.name).isSome && (truthy driver.phone).isSome && (truthy driver.cityId).isSome

/-- The fields that a profile sets. -/
def DriverRecord.filled (driver : DriverRecord) (data : ProfileData) : DriverRecord :=
  { driver with
    name := (truthy data.name).or driver.name
    phone := (truthy data.phone).or driver.phone
    cityId := (truthy data.cityId).or driver.cityId
    vehicleType := (truthy data.vehicleType).or driver.vehicleType
    vehicleNumber := (truthy data.vehicleNumber).or driver.vehicleNumber }

/-- No other driver has the phone: its column is unique. -/
def Directory.phoneFree (d : Directory) (driverId : Uuid) (phone : Option String) : Bool :=
  d.drivers.all fun entry => entry.1 = driverId || phone.isNone || entry.2.phone ≠ phone

namespace DriverRegistrationService

/-- The database gives a new row the id `id`, one that no row has. -/
def createDriverFromAuth (d : Directory) (now : Time) (id : Uuid) (email : String)
    (googleSub : Option String) : DriverRecord × Directory :=
  match d.drivers.find? (·.2.email = some email) with
  | some existing => (existing.2, d)
  | none =>
    let driver : DriverRecord :=
      { email := some email, googleSub := some ((truthy googleSub).getD "")
        registrationStatus := .profileIncomplete, createdAt := now }
    (driver, d.saveDriver id driver)

def completeProfile (d : Directory) (driverId : Uuid) (data : ProfileData) :
    Except String (DriverRecord × Directory) := do
  let driver ← (d.driver driverId).elim (.error "Driver not found") .ok
  let driver := driver.filled data
  let isComplete := driver.isComplete
  let driver := if isComplete then { driver with registrationStatus := .pendingApproval } else driver
  if !d.phoneFree driverId driver.phone then
    throw "duplicate key value violates unique constraint"
  return (driver, d.saveDriver driverId driver)

def isProfileComplete (d : Directory) (driverId : Uuid) : Bool :=
  match d.driver driverId with
  | some driver => driver.isComplete
  | none => false

def requestApproval (d : Directory) (driverId : Uuid) : Except String (DriverRecord × Directory) := do
  let driver ← (d.driver driverId).elim (.error "Driver not found") .ok
  if !isProfileComplete d driverId then throw "Profile is incomplete"
  let driver := { driver with registrationStatus := .pendingApproval }
  return (driver, d.saveDriver driverId driver)

end DriverRegistrationService

/-- A call of the service. Only the first one comes without a driver. -/
inductive RegistrationCall where
  | createDriverFromAuth (id : Uuid) (email : String) (googleSub : Option String)
  | completeProfile (driverId : Uuid) (data : ProfileData)
  | requestApproval (driverId : Uuid)
  | approveDriver (driverId adminId : Uuid)
  | rejectDriver (driverId adminId : Uuid) (reason : String)
  deriving DecidableEq

/-- A call at a time. -/
structure RegistrationAction where
  now : Time
  call : RegistrationCall

open DriverRegistrationService in
/-- What the call answers, and the tables it leaves. -/
def RegistrationCall.perform (d : Directory) (now : Time) :
    RegistrationCall → Except String (DriverRecord × Directory)
  | createDriverFromAuth id email googleSub =>
    .ok (DriverRegistrationService.createDriverFromAuth d now id email googleSub)
  | completeProfile driverId data => DriverRegistrationService.completeProfile d driverId data
  | requestApproval driverId => DriverRegistrationService.requestApproval d driverId
  | approveDriver driverId adminId => DriverRegistrationService.approveDriver d now driverId adminId
  | rejectDriver driverId _ reason => DriverRegistrationService.rejectDriver d driverId reason

/-- A call that throws leaves the tables as they were. There is no step in which the database
gives a new row an id that it has already given. -/
def registrationStep (d : Directory) (action : RegistrationAction) : Option Directory :=
  match action.call with
  | .createDriverFromAuth id _ _ =>
    if (d.driver id).isSome then none
    else some ((action.call.perform d action.now).toOption.elim d Prod.snd)
  | call => some ((call.perform d action.now).toOption.elim d Prod.snd)

/-! ## The lifecycle -/

/-- The moves of a registration; the last one only when the driver asks for it. -/
inductive Moves (asked : Prop) : DriverRegistrationStatus → DriverRegistrationStatus → Prop
  | stays (status : DriverRegistrationStatus) : Moves asked status status
  | submits : Moves asked .profileIncomplete .pendingApproval
  | approves : Moves asked .pendingApproval .approved
  | rejects : Moves asked .pendingApproval .rejected
  | resubmits (explicit : asked) : Moves asked .rejected .pendingApproval

/-- The fields of the approval are set just when the driver is approved. -/
structure DriverRecord.Linked (row : DriverRecord) : Prop where
  approvedAt : row.approvedAt.isSome ↔ row.registrationStatus = .approved
  approvedById : row.approvedById.isSome ↔ row.registrationStatus = .approved

def Directory.Linked (d : Directory) : Prop := ∀ id, ∀ row ∈ d.driver id, row.Linked

/-- A driver stays, and moves as the lifecycle has it; a new one starts with it. -/
def RegistrationFollows (taken : Taken Directory RegistrationAction) : Prop :=
  ∀ id, match taken.before.driver id, taken.after.driver id with
    | some row, some row' =>
      Moves (taken.action.call = .requestApproval id) row.registrationStatus row'.registrationStatus
    | some _, none => False
    | none, some row' => row'.registrationStatus = .profileIncomplete
    | none, none => True

/-- A profile that becomes complete does so before any decision on the driver, and no approved
driver asks for an approval. -/
def InOrder (d : Directory) (action : RegistrationAction) : Prop :=
  match action.call with
  | .completeProfile driverId data =>
    ∀ row ∈ d.driver driverId, (row.filled data).isComplete →
      d.phoneFree driverId (row.filled data).phone →
      row.registrationStatus = .profileIncomplete ∨ row.registrationStatus = .pendingApproval
  | .requestApproval driverId =>
    ∀ row ∈ d.driver driverId, row.isComplete → row.registrationStatus ≠ .approved
  | _ => True

/-- A good step: the lifecycle is followed, and the approval is set where it should be. -/
def RegistrationKept (taken : Taken Directory RegistrationAction) : Prop :=
  RegistrationFollows taken ∧ taken.after.Linked

section Steps

variable {d : Directory} {id adminId : Uuid} {row row' : DriverRecord} {now : Time}
  {action : RegistrationAction} {data : ProfileData}

/-- What a call that throws leaves is what it found. -/
theorem kept_same (linked : d.Linked) : RegistrationKept ⟨d, action, d⟩ := by
  refine ⟨fun id => ?_, linked⟩
  cases found : d.driver id with
  | none => simp
  | some row => simpa using .stays _

/-- A saved row is good when its own move and its own fields are. -/
theorem kept_saved (linked : d.Linked) (own : row'.Linked)
    (move : match d.driver id with
      | some row => Moves (action.call = .requestApproval id) row.registrationStatus row'.registrationStatus
      | none => row'.registrationStatus = .profileIncomplete) :
    RegistrationKept ⟨d, action, d.saveDriver id row'⟩ := by
  refine ⟨fun other => ?_, fun other kept there => ?_⟩
  · by_cases mine : other = id
    · subst mine
      cases found : d.driver other <;> simpa [found] using move
    · rw [Directory.saveDriver_driver_ne _ mine]
      exact (kept_same linked : RegistrationKept ⟨d, action, d⟩).1 other
  · by_cases mine : other = id
    · subst mine
      simp only [Directory.saveDriver_driver, Option.mem_def, Option.some.injEq] at there
      exact there ▸ own
    · rw [Directory.saveDriver_driver_ne _ mine] at there
      exact linked other kept there

theorem kept_save (linked : d.Linked) (found : d.driver id = some row) :
    RegistrationKept ⟨d, action, d.saveDriver id row'⟩ ↔
      Moves (action.call = .requestApproval id) row.registrationStatus row'.registrationStatus ∧
        row'.Linked := by
  constructor
  · rintro ⟨follows, linked'⟩
    have here := follows id
    simp only [found, Directory.saveDriver_driver] at here
    exact ⟨here, linked' id row' (by simp)⟩
  · rintro ⟨move, own⟩
    exact kept_saved linked own (by simpa [found] using move)

/-- A new driver starts the lifecycle without an approval. -/
theorem kept_create (linked : d.Linked) (absent : d.driver id = none)
    (starts : row'.registrationStatus = .profileIncomplete) (own : row'.Linked) :
    RegistrationKept ⟨d, action, d.saveDriver id row'⟩ :=
  kept_saved linked own (by simpa [absent] using starts)

/-- A move to or from a status other than approved keeps the fields linked as they are. -/
theorem linked_submitted (own : row.Linked) :
    ({ row with registrationStatus := .pendingApproval } : DriverRecord).Linked ↔
      row.registrationStatus ≠ .approved := by
  obtain ⟨dated, signed⟩ := own
  constructor
  · rintro ⟨dated', -⟩ approved
    exact absurd (dated'.mp (dated.mpr approved)) (by simp)
  · intro other
    refine ⟨?_, ?_⟩
    · simpa using fun there => other (dated.mp there)
    · simpa using fun there => other (signed.mp there)

theorem linked_filled : (row.filled data).Linked ↔ row.Linked :=
  ⟨fun own => ⟨own.approvedAt, own.approvedById⟩, fun own => ⟨own.approvedAt, own.approvedById⟩⟩

open DriverRegistrationService

private theorem completeProfile_some (found : d.driver id = some row) :
    (completeProfile d id data).toOption.elim d Prod.snd =
      if d.phoneFree id (row.filled data).phone then
        d.saveDriver id (if (row.filled data).isComplete then
          { row.filled data with registrationStatus := .pendingApproval } else row.filled data)
      else d := by
  by_cases complete : (row.filled data).isComplete
  · by_cases free : d.phoneFree id (row.filled data).phone <;>
      simp [completeProfile, found, complete, free, bind, Except.bind, pure, Except.pure, throw, throwThe,
        MonadExceptOf.throw, Except.toOption]
  · by_cases free : d.phoneFree id (row.filled data).phone <;>
      simp [completeProfile, found, complete, free, bind, Except.bind, pure, Except.pure, throw, throwThe,
        MonadExceptOf.throw, Except.toOption]

private theorem requestApproval_some (found : d.driver id = some row) :
    (requestApproval d id).toOption.elim d Prod.snd =
      if row.isComplete then d.saveDriver id { row with registrationStatus := .pendingApproval } else d := by
  by_cases complete : row.isComplete <;>
    simp [requestApproval, isProfileComplete, found, complete, bind, Except.bind, pure, Except.pure, throw,
      throwThe, MonadExceptOf.throw, Except.toOption]

private theorem completeProfile_kept (linked : d.Linked) :
    RegistrationKept ⟨d, ⟨now, .completeProfile id data⟩, (completeProfile d id data).toOption.elim d Prod.snd⟩ ↔
      InOrder d ⟨now, .completeProfile id data⟩ := by
  simp only [InOrder]
  cases found : d.driver id with
  | none =>
    have thrown : (completeProfile d id data).toOption.elim d Prod.snd = d := by
      simp [completeProfile, found, bind, Except.bind, Except.toOption]
    simpa [thrown] using kept_same linked
  | some row =>
    have own := linked id row found
    simp only [completeProfile_some found, Option.mem_def, Option.some.injEq, forall_eq']
    by_cases free : d.phoneFree id (row.filled data).phone
    · simp only [free, if_true, kept_save linked found, forall_const]
      by_cases complete : (row.filled data).isComplete
      · simp only [complete, if_true, forall_const, linked_submitted (linked_filled.mpr own)]
        change Moves _ row.registrationStatus _ ∧ row.registrationStatus ≠ _ ↔ _
        cases row.registrationStatus with
        | profileIncomplete => simpa using .submits
        | pendingApproval => simpa using .stays _
        | approved => simp
        | rejected =>
          have never : ¬ Moves False .rejected .pendingApproval := by
            rintro (_ | _ | _ | _ | explicit)
            exact explicit
          simpa using never
      · simp only [complete, Bool.false_eq_true, if_false, false_implies, iff_true]
        exact ⟨.stays _, linked_filled.mpr own⟩
    · simpa [free] using kept_same linked

private theorem requestApproval_kept (linked : d.Linked) :
    RegistrationKept ⟨d, ⟨now, .requestApproval id⟩, (requestApproval d id).toOption.elim d Prod.snd⟩ ↔
      InOrder d ⟨now, .requestApproval id⟩ := by
  simp only [InOrder]
  cases found : d.driver id with
  | none =>
    have thrown : (requestApproval d id).toOption.elim d Prod.snd = d := by
      simp [requestApproval, found, bind, Except.bind, Except.toOption]
    simpa [thrown] using kept_same linked
  | some row =>
    simp only [requestApproval_some found, Option.mem_def, Option.some.injEq, forall_eq']
    by_cases complete : row.isComplete
    · simp only [complete, if_true, kept_save linked found, linked_submitted (linked id row found), forall_const]
      refine ⟨And.right, fun other => ⟨?_, other⟩⟩
      cases status : row.registrationStatus with
      | profileIncomplete => exact .submits
      | pendingApproval => exact .stays _
      | approved => exact absurd status other
      | rejected => exact .resubmits trivial
    · simpa [complete] using kept_same linked

/-- What waits for an approval has none yet. -/
theorem approveDriver_follows (linked : d.Linked) :
    RegistrationKept
      ⟨d, ⟨now, .approveDriver id adminId⟩, (approveDriver d now id adminId).toOption.elim d Prod.snd⟩ := by
  by_cases waits : ∃ row ∈ d.driver id, row.registrationStatus = .pendingApproval
  · obtain ⟨row, found, waits⟩ := waits
    by_cases known : adminId = "system"
    · simpa [approveDriver, findPending_some found waits, known, bind, Except.bind, throw, throwThe,
        MonadExceptOf.throw, Except.toOption] using kept_same linked
    · simp only [approveDriver, findPending_some found waits, known, if_false, bind, Except.bind, pure,
        Except.pure, Except.toOption, Option.elim]
      refine (kept_save linked found).mpr ⟨?_, ⟨by simp [DriverRecord.approved], by simp [DriverRecord.approved]⟩⟩
      rw [waits]
      exact .approves
  · simp only [not_exists, not_and] at waits
    obtain ⟨message, missing⟩ := findPending_refused waits
    simpa [approveDriver, missing, bind, Except.bind, Except.toOption] using kept_same linked

private theorem rejectDriver_follows (linked : d.Linked) (reason : String) :
    RegistrationKept
      ⟨d, ⟨now, .rejectDriver id adminId reason⟩, (rejectDriver d id reason).toOption.elim d Prod.snd⟩ := by
  by_cases waits : ∃ row ∈ d.driver id, row.registrationStatus = .pendingApproval
  · obtain ⟨row, found, waits⟩ := waits
    have own := linked id row found
    simp only [rejectDriver, findPending_some found waits, bind, Except.bind, pure, Except.pure,
      Except.toOption, Option.elim]
    refine (kept_save linked found).mpr ⟨?_, ⟨?_, ?_⟩⟩
    · rw [waits]
      exact .rejects
    · simpa [DriverRecord.rejected, waits] using own.approvedAt
    · simpa [DriverRecord.rejected, waits] using own.approvedById
  · simp only [not_exists, not_and] at waits
    obtain ⟨message, missing⟩ := findPending_refused waits
    simpa [rejectDriver, missing, bind, Except.bind, Except.toOption] using kept_same linked

private theorem createDriver_follows (linked : d.Linked) (email : String) (googleSub : Option String)
    (fresh : d.driver id = none) :
    RegistrationKept ⟨d, action, (createDriverFromAuth d now id email googleSub).2⟩ := by
  unfold createDriverFromAuth
  split
  · exact kept_same linked
  · exact kept_create linked fresh rfl ⟨by simp, by simp⟩

/-- A step is good just when it comes in order. -/
theorem keeps_links_iff {d' : Directory} (linked : d.Linked) (stepped : registrationStep d action = some d') :
    RegistrationKept ⟨d, action, d'⟩ ↔ InOrder d action := by
  obtain ⟨now, call⟩ := action
  cases call with
  | createDriverFromAuth id email googleSub =>
    simp only [registrationStep] at stepped
    split at stepped
    · cases stepped
    · rename_i fresh
      cases stepped
      have absent : d.driver id = none := by simpa using fresh
      exact iff_of_true (createDriver_follows linked email googleSub absent) trivial
  | completeProfile id data =>
    cases stepped
    exact completeProfile_kept linked
  | requestApproval id =>
    cases stepped
    exact requestApproval_kept linked
  | approveDriver id adminId =>
    cases stepped
    exact iff_of_true (approveDriver_follows linked) trivial
  | rejectDriver id adminId reason =>
    cases stepped
    exact iff_of_true (rejectDriver_follows linked reason) trivial

end Steps

/-- A run follows the lifecycle, with the approval set just where it should be, if and only if
its calls come in order. -/
theorem registration_lifecycle {d d' : Directory} {actions : List RegistrationAction} (linked : d.Linked)
    (ran : run registrationStep d actions = some d') :
    (∀ taken ∈ trace registrationStep d actions, RegistrationFollows taken ∧ taken.after.Linked) ↔
      Admits registrationStep InOrder d actions := by
  show (∀ taken ∈ trace registrationStep d actions, RegistrationKept taken) ↔ _
  exact trace_good_iff keeps_links_iff (fun linked ordered stepped => ((keeps_links_iff linked stepped).mpr ordered).2) linked ran

/-- A driver who logs in, completes the profile and is approved. -/
def approving : List RegistrationAction :=
  [⟨1, .createDriverFromAuth "d" "a@b" none⟩,
    ⟨2, .completeProfile "d" { name := some "A", phone := some "1", cityId := some "c" }⟩,
    ⟨3, .approveDriver "d" "a"⟩]

theorem approving_follows :
    ∃ d', run registrationStep {} approving = some d' ∧
      ∀ taken ∈ trace registrationStep {} approving, RegistrationFollows taken ∧ taken.after.Linked := by
  have ran : ∃ d', run registrationStep {} approving = some d' := ⟨_, rfl⟩
  obtain ⟨d', ran⟩ := ran
  refine ⟨d', ran, (registration_lifecycle (fun _ _ there => by cases there) ran).mpr ?_⟩
  refine ⟨trivial, fun middle stepped => ⟨?_, fun last _ => ⟨trivial, fun _ _ => trivial⟩⟩⟩
  cases stepped
  rintro row there - -
  cases there
  exact .inl rfl

/-- The vehicle that an approved driver enters takes the approval away, and leaves its fields. -/
theorem approval_lost :
    ∃ before after, run registrationStep {} approving = some before ∧
      registrationStep before ⟨4, .completeProfile "d" { vehicleType := some "bike" }⟩ = some after ∧
      (before.driver "d").map (·.registrationStatus) = some .approved ∧
      (after.driver "d").map (·.registrationStatus) = some .pendingApproval ∧
      (after.driver "d").bind (·.approvedAt) = some 3 :=
  ⟨_, _, rfl, rfl, rfl, rfl, rfl⟩

end DriverMicroServices
