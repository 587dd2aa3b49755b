import DriverMicroServices.Entities
import DriverMicroServices.Tables.Tally
import Mathlib.Data.List.Sort
import Mathlib.Data.Rat.Floor

/-! `DriversService.getDriverEarnings`. A period begins at a local midnight and is cut into
days from there, but a day goes by the UTC date on which it begins, and a delivery by the
UTC date on which it was created. -/
namespace DriverMicroServices
namespace Earnings

/-- Milliseconds of a day. -/
def day : Int := 86400000

/-- `toISOString().split("T")[0]`, as the days since 1970-01-01. -/
def dateKey (t : Time) : Int := t / day

/-- The date on the clock of a server whose zone is ahead of UTC by the offset. -/
def localDate (offset : Int) (t : Time) : Int := (t + offset) / day

/-- When a local date begins. -/
def localMidnight (offset date : Int) : Time := date * day - offset

/-- `getDay()`: Sunday is 0, and 1970-01-01 was a Thursday. -/
def weekday (date : Int) : Int := (date + 4) % 7

/-- `getDate()`, in the Gregorian calendar with years that begin in March. -/
def dayOfMonth (date : Int) : Int :=
  let dayOfEra := (date + 719468) % 146097
  let yearOfEra := (dayOfEra - dayOfEra / 1460 + dayOfEra / 36524 - dayOfEra / 146096) / 365
  let dayOfYear := dayOfEra - (365 * yearOfEra + yearOfEra / 4 - yearOfEra / 100)
  let month := (5 * dayOfYear + 2) / 153
  dayOfYear - (153 * month + 2) / 5 + 1

-- 1 January 1970, 29 February 2000, 1 March 2000 and 31 December 2024.
example : [0, 11016, 11017, 20088].map dayOfMonth = [1, 29, 1, 31] := by decide

private theorem dayOfMonth_pos (date : Int) : 1 ≤ dayOfMonth date := by
  unfold dayOfMonth
  dsimp only
  omega

inductive EarningsPeriod where
  | today | week | month
  deriving DecidableEq, Repr

/-- The local date on which the period begins. -/
def firstDate (today : Int) : EarningsPeriod → Int
  | .today => today
  | .week =>
    let dayOfWeek := weekday today
    let daysToMonday := if dayOfWeek = 0 then 6 else dayOfWeek - 1
    today - daysToMonday
  | .month => today - (dayOfMonth today - 1)

def startDate (offset : Int) (now : Time) (period : EarningsPeriod) : Time :=
  localMidnight offset (firstDate (localDate offset now) period)

def periodLabel : EarningsPeriod → String
  | .today => "Today"
  | .week => "This Week"
  | .month => "This Month"

structure DailyEarningsHistory where
  date : Int
  totalDeliveries : Nat := 0
  completedDeliveries : Nat := 0
  failedDeliveries : Nat := 0
  earnings : Nat := 0
  deriving DecidableEq, Repr

structure DriverEarningsResponse where
  period : String
  totalDeliveries : Nat
  completedDeliveries : Nat
  failedDeliveries : Nat
  totalEarnings : Nat
  avgDeliveryTimeMinutes : Int
  history : List DailyEarningsHistory

def baseRatePerDelivery : Nat := 50

def completed (delivery : Delivery) : Bool := delivery.status = .delivered

def failed (delivery : Delivery) : Bool :=
  delivery.status = .failed || delivery.status = .cancelled

/-- The query, ordered by `createdAt`. -/
def findDeliveries (deliveries : List Delivery) (driverId : Uuid) (start now : Time) : List Delivery :=
  (deliveries.filter fun delivery =>
    delivery.driverId = some driverId ∧ start ≤ delivery.createdAt ∧ delivery.createdAt ≤ now).mergeSort
      fun first second => first.createdAt ≤ second.createdAt

/-- The minutes from the assignment to the delivery. -/
def deliveryTime (delivery : Delivery) : Option Rat :=
  if completed delivery then
    delivery.deliveredAt.bind fun deliveredAt => delivery.assignedAt.map fun assignedAt =>
      ((deliveredAt - assignedAt : Int) : Rat) / (1000 * 60)
  else none

def avgDeliveryTimeMinutes (deliveries : List Delivery) : Int :=
  let times := deliveries.filterMap deliveryTime
  if times = [] then 0 else (times.sum / times.length + 1 / 2).floor

/-- The dates of the loop that initializes the days. -/
def daysFrom (currentDate now : Int) : List Int :=
  if currentDate ≤ now then dateKey currentDate :: daysFrom (currentDate + day) now else []
termination_by (now + 1 - currentDate).toNat
decreasing_by
  unfold day
  omega

/-- What a delivery adds to the entry of its day. -/
def DailyEarningsHistory.count (dayStats : DailyEarningsHistory) (delivery : Delivery) :
    DailyEarningsHistory :=
  let dayStats := { dayStats with totalDeliveries := dayStats.totalDeliveries + 1 }
  if completed delivery then
    { dayStats with
      completedDeliveries := dayStats.completedDeliveries + 1
      earnings := dayStats.earnings + baseRatePerDelivery }
  else if failed delivery then
    { dayStats with failedDeliveries := dayStats.failedDeliveries + 1 }
  else dayStats

/-- A delivery is counted in the entry of its date, if there is one. -/
def populate (history : List DailyEarningsHistory) (delivery : Delivery) : List DailyEarningsHistory :=
  history.map fun dayStats =>
    if dayStats.date = dateKey delivery.createdAt then dayStats.count delivery else dayStats

def getDriverEarnings (deliveries : List Delivery) (offset : Int) (now : Time) (driverId : Uuid)
    (period : EarningsPeriod) : DriverEarningsResponse :=
  let start := startDate offset now period
  let deliveries := findDeliveries deliveries driverId start now
  let historyMap := deliveries.foldl populate ((daysFrom start now).map fun date => { date })
  { period := periodLabel period
    totalDeliveries := deliveries.length
    completedDeliveries := (deliveries.filter completed).length
    failedDeliveries := (deliveries.filter failed).length
    totalEarnings := (deliveries.filter completed).length * baseRatePerDelivery
    avgDeliveryTimeMinutes := avgDeliveryTimeMinutes deliveries
    history := historyMap.mergeSort fun a b => a.date ≤ b.date }

/-! ## The days of a period -/

private theorem weekday_nonneg (date : Int) : 0 ≤ weekday date :=
  Int.emod_nonneg _ (by decide)

theorem firstDate_le (today : Int) (period : EarningsPeriod) : firstDate today period ≤ today := by
  cases period with
  | today => exact le_refl today
  | week =>
    have passed := weekday_nonneg today
    dsimp only [firstDate]
    split <;> omega
  | month =>
    have first := dayOfMonth_pos today
    dsimp only [firstDate]
    omega

theorem daysFrom_eq (days : Nat) (currentDate now : Int)
    (count : days = ((now - currentDate) / day + 1).toNat) :
    daysFrom currentDate now = (List.range days).map fun passed : Nat => dateKey currentDate + passed := by
  unfold day at count
  induction days generalizing currentDate with
  | zero =>
    have past : ¬ currentDate ≤ now := by omega
    rw [daysFrom, if_neg past]
    rfl
  | succ rest ih =>
    have within : currentDate ≤ now := by omega
    have next : dateKey (currentDate + day) = dateKey currentDate + 1 := by
      unfold dateKey day
      omega
    have later := ih (currentDate + day) (by unfold day; omega)
    rw [daysFrom, if_pos within, later, List.range_succ_eq_map, List.map_cons, List.map_map, next]
    simp only [Nat.cast_zero, add_zero, List.cons.injEq, true_and]
    apply List.map_congr_left
    intro passed _
    simp only [Function.comp_apply, Nat.cast_succ]
    omega

theorem nodup_daysFrom (currentDate now : Int) : (daysFrom currentDate now).Nodup := by
  rw [daysFrom_eq _ currentDate now rfl]
  apply List.nodup_range.map
  intro first second same
  dsimp only at same
  omega

/-- The dates in the history are those of the period, moved by the days that the zone is behind. -/
theorem mem_days (offset : Int) (now : Time) (period : EarningsPeriod) (date : Int) :
    date ∈ daysFrom (startDate offset now period) now ↔
      firstDate (localDate offset now) period + dateKey (-offset) ≤ date ∧
        date ≤ localDate offset now + dateKey (-offset) := by
  have first := firstDate_le (localDate offset now) period
  rw [daysFrom_eq _ _ _ rfl, List.mem_map]
  simp only [List.mem_range]
  unfold startDate localMidnight
  revert first
  generalize firstDate (localDate offset now) period = first
  unfold localDate dateKey day
  intro before
  constructor
  · rintro ⟨passed, within, rfl⟩
    omega
  · rintro ⟨low, high⟩
    exact ⟨(date - (first * 86400000 - offset) / 86400000).toNat, by omega, by omega⟩

/-! ## The history -/

/-- A delivery counts once in all, and once as what it ended as. -/
theorem count_eq (dayStats : DailyEarningsHistory) (delivery : Delivery) :
    dayStats.count delivery =
      { dayStats with
        totalDeliveries := dayStats.totalDeliveries + 1
        completedDeliveries := dayStats.completedDeliveries + if completed delivery then 1 else 0
        failedDeliveries := dayStats.failedDeliveries + if failed delivery then 1 else 0
        earnings := dayStats.earnings + if completed delivery then baseRatePerDelivery else 0 } := by
  unfold DailyEarningsHistory.count
  by_cases done : completed delivery = true
  · have exclusive : failed delivery = false := by
      unfold completed at done
      unfold failed
      simp [of_decide_eq_true done]
    simp [done, exclusive]
  · by_cases lost : failed delivery = true
    · simp [done, lost]
    · simp [done, lost]

@[simp] theorem date_count (dayStats : DailyEarningsHistory) (delivery : Delivery) :
    (dayStats.count delivery).date = dayStats.date := by
  rw [count_eq]

theorem populate_eq_tally :
    populate = Tables.tally (·.date) (dateKey ·.createdAt) DailyEarningsHistory.count := rfl

section

variable (deliveries : List Delivery) (offset : Int) (now : Time) (driverId : Uuid) (period : EarningsPeriod)

theorem history_perm :
    (getDriverEarnings deliveries offset now driverId period).history.Perm
      ((findDeliveries deliveries driverId (startDate offset now period) now).foldl populate
        ((daysFrom (startDate offset now period) now).map fun date => { date })) :=
  List.mergeSort_perm _ _

private theorem dates_perm :
    ((getDriverEarnings deliveries offset now driverId period).history.map (·.date)).Perm
      (daysFrom (startDate offset now period) now) := by
  have kept := (history_perm deliveries offset now driverId period).map (·.date)
  rw [populate_eq_tally, Tables.map_key_foldl_tally date_count, List.map_map] at kept
  have same : daysFrom (startDate offset now period) now =
      (daysFrom (startDate offset now period) now).map
        ((·.date) ∘ fun date => ({ date } : DailyEarningsHistory)) := by
    rw [show ((·.date) ∘ fun date => ({ date } : DailyEarningsHistory)) = id from rfl, List.map_id]
  rwa [← same] at kept

end


/-! ## The sums -/

private theorem totalDeliveries_count (dayStats : DailyEarningsHistory) (delivery : Delivery) :
    (dayStats.count delivery).totalDeliveries = dayStats.totalDeliveries + 1 := by
  rw [count_eq]

private theorem completedDeliveries_count (dayStats : DailyEarningsHistory) (delivery : Delivery) :
    (dayStats.count delivery).completedDeliveries =
      dayStats.completedDeliveries + if completed delivery then 1 else 0 := by
  rw [count_eq]

private theorem failedDeliveries_count (dayStats : DailyEarningsHistory) (delivery : Delivery) :
    (dayStats.count delivery).failedDeliveries =
      dayStats.failedDeliveries + if failed delivery then 1 else 0 := by
  rw [count_eq]

private theorem earnings_count (dayStats : DailyEarningsHistory) (delivery : Delivery) :
    (dayStats.count delivery).earnings =
      dayStats.earnings + if completed delivery then baseRatePerDelivery else 0 := by
  rw [count_eq]

private theorem sum_if (deliveries : List Delivery) (share : Delivery → Bool) (amount : Nat) :
    (deliveries.map fun delivery => if share delivery then amount else 0).sum =
      (deliveries.filter share).length * amount := by
  induction deliveries with
  | nil => simp
  | cons delivery rest ih =>
    rw [List.map_cons, List.sum_cons, ih]
    by_cases holds : share delivery
    · rw [List.filter_cons_of_pos holds, List.length_cons, if_pos holds]
      ring
    · rw [List.filter_cons_of_neg holds, if_neg holds, zero_add]

section

variable (deliveries : List Delivery) (offset : Int) (now : Time) (driverId : Uuid) (period : EarningsPeriod)

/-- The deliveries of the period that have an entry. -/
def counted : List Delivery :=
  (findDeliveries deliveries driverId (startDate offset now period) now).filter fun delivery =>
    dateKey delivery.createdAt ∈ daysFrom (startDate offset now period) now

theorem sum_history (measure : DailyEarningsHistory → Nat) (share : Delivery → Nat)
    (empty : ∀ date, measure { date } = 0)
    (adds : ∀ dayStats delivery, measure (dayStats.count delivery) = measure dayStats + share delivery) :
    ((getDriverEarnings deliveries offset now driverId period).history.map measure).sum =
      ((counted deliveries offset now driverId period).map share).sum := by
  have keys : ((daysFrom (startDate offset now period) now).map
      fun date => ({ date } : DailyEarningsHistory)).map (·.date) =
        daysFrom (startDate offset now period) now := by
    rw [List.map_map]
    exact List.map_id _
  have nodup := nodup_daysFrom (startDate offset now period) now
  rw [← keys] at nodup
  have zeros : (((daysFrom (startDate offset now period) now).map
      fun date => ({ date } : DailyEarningsHistory)).map measure).sum = 0 := by
    apply List.sum_eq_zero
    intro amount member
    obtain ⟨dayStats, listed, rfl⟩ := List.mem_map.mp member
    obtain ⟨date, -, rfl⟩ := List.mem_map.mp listed
    exact empty date
  rw [((history_perm deliveries offset now driverId period).map measure).sum_eq, populate_eq_tally,
    Tables.sum_foldl_tally date_count adds _ _ nodup, zeros, zero_add, keys]
  rfl

private theorem mem_findDeliveries (start : Time) (delivery : Delivery) :
    delivery ∈ findDeliveries deliveries driverId start now ↔
      delivery ∈ deliveries ∧ delivery.driverId = some driverId ∧
        start ≤ delivery.createdAt ∧ delivery.createdAt ≤ now := by
  unfold findDeliveries
  rw [List.mem_mergeSort, List.mem_filter, decide_eq_true_eq]

/-- A delivery of the period has no entry only where its UTC date is after that of today's midnight. -/
theorem counted_eq_iff :
    counted deliveries offset now driverId period =
        findDeliveries deliveries driverId (startDate offset now period) now ↔
      ∀ delivery ∈ deliveries, delivery.driverId = some driverId →
        startDate offset now period ≤ delivery.createdAt → delivery.createdAt ≤ now →
          dateKey delivery.createdAt ≤ dateKey (localMidnight offset (localDate offset now)) := by
  have last : dateKey (localMidnight offset (localDate offset now)) =
      localDate offset now + dateKey (-offset) := by
    unfold localMidnight dateKey
    rw [sub_eq_add_neg, add_comm, Int.add_mul_ediv_right _ _ (by decide), add_comm]
  have opening : dateKey (startDate offset now period) =
      firstDate (localDate offset now) period + dateKey (-offset) := by
    unfold startDate localMidnight dateKey
    rw [sub_eq_add_neg, add_comm, Int.add_mul_ediv_right _ _ (by decide), add_comm]
  unfold counted
  rw [List.filter_eq_self, last]
  simp only [mem_findDeliveries, decide_eq_true_eq, mem_days, ← opening]
  constructor
  · intro all delivery member assigned from_start to_now
    exact (all delivery ⟨member, assigned, from_start, to_now⟩).2
  · rintro all delivery ⟨member, assigned, from_start, to_now⟩
    have ordered : dateKey (startDate offset now period) ≤ dateKey delivery.createdAt :=
      Int.ediv_le_ediv (by decide) from_start
    exact ⟨ordered, all delivery member assigned from_start to_now⟩

end

/-! ## What the history says -/

/-- Each sum over the days is the total of the response. -/
structure AddsUp (response : DriverEarningsResponse) : Prop where
  total : (response.history.map (·.totalDeliveries)).sum = response.totalDeliveries
  completed : (response.history.map (·.completedDeliveries)).sum = response.completedDeliveries
  failed : (response.history.map (·.failedDeliveries)).sum = response.failedDeliveries
  earnings : (response.history.map (·.earnings)).sum = response.totalEarnings

/-- Each local date of the period has one entry, and no other date has any. -/
def OnePerDay (offset : Int) (now : Time) (period : EarningsPeriod) (response : DriverEarningsResponse) :
    Prop :=
  ∀ date, (response.history.map (·.date)).count date =
    if firstDate (localDate offset now) period ≤ date ∧ date ≤ localDate offset now then 1 else 0

section

variable (deliveries : List Delivery) (offset : Int) (now : Time) (driverId : Uuid) (period : EarningsPeriod)

theorem addsUp_iff :
    AddsUp (getDriverEarnings deliveries offset now driverId period) ↔
      counted deliveries offset now driverId period =
        findDeliveries deliveries driverId (startDate offset now period) now := by
  have total := sum_history deliveries offset now driverId period (·.totalDeliveries) (fun _ => 1)
    (fun _ => rfl) totalDeliveries_count
  rw [List.map_const', List.sum_replicate_nat, mul_one] at total
  constructor
  · intro sums
    apply List.filter_sublist.eq_of_length
    exact total.symm.trans sums.total
  · intro all
    rw [all] at total
    have completes := sum_history deliveries offset now driverId period (·.completedDeliveries) _
      (fun _ => rfl) completedDeliveries_count
    have fails := sum_history deliveries offset now driverId period (·.failedDeliveries) _
      (fun _ => rfl) failedDeliveries_count
    have earns := sum_history deliveries offset now driverId period (·.earnings) _
      (fun _ => rfl) earnings_count
    rw [all, sum_if] at completes fails earns
    rw [mul_one] at completes fails
    exact ⟨total, completes, fails, earns⟩

theorem onePerDay_iff :
    OnePerDay offset now period (getDriverEarnings deliveries offset now driverId period) ↔
      -day < offset ∧ offset ≤ 0 := by
  have first := firstDate_le (localDate offset now) period
  have counts (date : Int) :
      ((getDriverEarnings deliveries offset now driverId period).history.map (·.date)).count date =
        if firstDate (localDate offset now) period + dateKey (-offset) ≤ date ∧
          date ≤ localDate offset now + dateKey (-offset) then 1 else 0 := by
    rw [(dates_perm deliveries offset now driverId period).count_eq, (nodup_daysFrom _ _).count]
    simp only [mem_days]
  have moved : dateKey (-offset) = 0 ↔ -day < offset ∧ offset ≤ 0 := by
    unfold dateKey day
    omega
  unfold OnePerDay
  simp only [counts]
  rw [← moved]
  constructor
  · intro dated
    -- The first and the last local date both have an entry.
    have early := dated (firstDate (localDate offset now) period)
    have late := dated (localDate offset now)
    rw [if_pos (by omega : firstDate (localDate offset now) period ≤
      firstDate (localDate offset now) period ∧ _)] at early
    rw [if_pos (by omega : firstDate (localDate offset now) period ≤ localDate offset now ∧ _)] at late
    split at early
    · split at late
      · omega
      · cases late
    · cases early
  · intro still date
    rw [still, add_zero, add_zero]

/-- The history adds up, day by day, just where the zone is not ahead of UTC (nor a day behind)
and no delivery of the period has a UTC date after that of today's midnight. -/
theorem earnings_add_up_iff :
    AddsUp (getDriverEarnings deliveries offset now driverId period) ∧
        OnePerDay offset now period (getDriverEarnings deliveries offset now driverId period) ↔
      (-day < offset ∧ offset ≤ 0) ∧
        ∀ delivery ∈ deliveries, delivery.driverId = some driverId →
          startDate offset now period ≤ delivery.createdAt → delivery.createdAt ≤ now →
            dateKey delivery.createdAt ≤ dateKey (localMidnight offset (localDate offset now)) := by
  rw [addsUp_iff, counted_eq_iff, onePerDay_iff]
  exact and_comm

end

def deliveredAt (createdAt : Time) : Delivery :=
  { sellerOrderId := "order-1", channelId := "shop", driverId := some "driver-1", status := .delivered
    pickupLat := "12.97", pickupLon := "77.59", dropLat := "12.93", dropLon := "77.62", createdAt }

/-- Noon of 1 January 2024 at UTC+5:30, after a delivery of 11:30. -/
theorem todays_delivery_skipped :
    let response := getDriverEarnings [deliveredAt 1704088800000] 19800000 1704090600000 "driver-1" .today
    ¬ AddsUp response ∧ ¬ OnePerDay 19800000 1704090600000 .today response := by
  dsimp only
  rw [addsUp_iff, counted_eq_iff, onePerDay_iff]
  constructor
  · intro all
    exact absurd (all _ (List.mem_singleton_self _) rfl (by decide) (by decide)) (by decide)
  · rintro ⟨-, behind⟩
    exact absurd behind (by decide)

end Earnings

end DriverMicroServices
