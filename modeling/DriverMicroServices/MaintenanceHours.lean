import DriverMicroServices.PolicyRules

/-! Maintenance windows and the clock. The rule compares the hour of the server with the hours of the
window, whose minutes and time zone it leaves aside. -/
namespace DriverMicroServices.Policy.OperationalRules

/-! ## Clocks -/

/-- By how many milliseconds local time is ahead of an instant. -/
abbrev TimeZone := Int → Int

/-- Milliseconds since midnight. -/
def clock (zone : TimeZone) (now : Int) : Int := (now + zone now) % 86400000

/-- `now.getHours()` -/
def getHours (server : TimeZone) (now : Int) : Nat := (clock server now / 3600000).toNat

structure TimeOfDay where
  hour : Nat
  minute : Nat
  hour_lt : hour < 24
  minute_lt : minute < 60
deriving DecidableEq

/-- `HH:MM` -/
def TimeOfDay.text (time : TimeOfDay) : String :=
  String.ofList [Nat.digitChar (time.hour / 10), Nat.digitChar (time.hour % 10), ':',
    Nat.digitChar (time.minute / 10), Nat.digitChar (time.minute % 10)]

def TimeOfDay.millis (time : TimeOfDay) : Int := time.hour * 3600000 + time.minute * 60000

/-- A window that ends before it starts goes on until the next day. -/
structure DailyWindow where
  start : TimeOfDay
  finish : TimeOfDay
  timezone : TimeZone
  distinct : start ≠ finish

namespace DailyWindow

def text (window : DailyWindow) : MaintenanceWindow := ⟨window.start.text, window.finish.text⟩

/-- A clock in the zone of the window shows a time from the start and before the end. -/
def Holds (window : DailyWindow) (now : Int) : Prop :=
  if window.start.millis < window.finish.millis then
    window.start.millis ≤ clock window.timezone now ∧ clock window.timezone now < window.finish.millis
  else window.start.millis ≤ clock window.timezone now ∨ clock window.timezone now < window.finish.millis

/-- The clock of the server shows a time from the hour of the start to the end of the end's hour. -/
def InHours (window : DailyWindow) (server : TimeZone) (now : Int) : Prop :=
  window.start.hour * 3600000 ≤ clock server now ∧ clock server now < (window.finish.hour + 1) * 3600000

end DailyWindow

/-- Inside the window nothing is reported, and outside each blocking statement is. -/
structure Kept (server : TimeZone) (now : Int) (schemaDiff : SchemaDiff) (window : DailyWindow) : Prop where
  inside : window.Holds now → checkMaintenanceWindow (getHours server now) schemaDiff window.text = []
  outside : ¬ window.Holds now →
    (checkMaintenanceWindow (getHours server now) schemaDiff window.text).map (·.operation) =
      schemaDiff.up.filter isBlockingOperation

/-! ## What the rule reads -/

private theorem clock_bounds (zone : TimeZone) (now : Int) : 0 ≤ clock zone now ∧ clock zone now < 86400000 := by
  unfold clock
  omega

theorem digitChar_ne_colon : ∀ digit < 10, Nat.digitChar digit ≠ ':' := by decide

private theorem parseInt_digits : ∀ hour < 24,
    parseInt (String.ofList [Nat.digitChar (hour / 10), Nat.digitChar (hour % 10)]) = some (hour : Int) := by
  decide

private theorem hourOf_text (time : TimeOfDay) : hourOf time.text = some (time.hour : Int) := by
  have tens : Nat.digitChar (time.hour / 10) ≠ ':' := digitChar_ne_colon _ (by have := time.hour_lt; omega)
  have units : Nat.digitChar (time.hour % 10) ≠ ':' := digitChar_ne_colon _ (by omega)
  rw [← parseInt_digits time.hour time.hour_lt]
  unfold hourOf TimeOfDay.text
  simp [tens, units]

theorem holds_text (window : DailyWindow) (server : TimeZone) (now : Int) :
    window.text.holds (getHours server now) = true ↔ window.InHours server now := by
  have bounds := clock_bounds server now
  unfold MaintenanceWindow.holds DailyWindow.text DailyWindow.InHours getHours
  simp only [hourOf_text, Bool.and_eq_true, decide_eq_true_eq]
  omega

section Reports

variable {server : TimeZone} {now : Int} {schemaDiff : SchemaDiff} {window : DailyWindow}

theorem operations_outside (closed : ¬ window.InHours server now) :
    (checkMaintenanceWindow (getHours server now) schemaDiff window.text).map (·.operation) =
      schemaDiff.up.filter isBlockingOperation := by
  rw [← holds_text] at closed
  rw [checkMaintenanceWindow, if_neg closed, List.map_map]
  exact List.map_id _

theorem operations_inside (opened : window.InHours server now) :
    checkMaintenanceWindow (getHours server now) schemaDiff window.text = [] := by
  rw [← holds_text] at opened
  rw [checkMaintenanceWindow, if_pos opened]

private theorem kept_iff_agrees :
    Kept server now schemaDiff window ↔
      schemaDiff.up.filter isBlockingOperation = [] ∨ (window.InHours server now ↔ window.Holds now) := by
  constructor
  · intro kept
    by_cases agrees : window.InHours server now ↔ window.Holds now
    · exact .inr agrees
    · apply Or.inl
      by_cases opened : window.InHours server now
      · have outside : ¬ window.Holds now := fun holds => agrees (iff_of_true opened holds)
        have reported := kept.outside outside
        rwa [operations_inside opened, List.map_nil, eq_comm] at reported
      · have inside : window.Holds now := by
          by_contra outside
          exact agrees (iff_of_false opened outside)
        rw [← operations_outside opened, kept.inside inside, List.map_nil]
  · rintro (quiet | agrees)
    · have nothing : checkMaintenanceWindow (getHours server now) schemaDiff window.text = [] := by
        unfold checkMaintenanceWindow
        rw [quiet, List.map_nil, ite_self]
      exact ⟨fun _ => nothing, fun _ => by rw [nothing, quiet, List.map_nil]⟩
    · exact ⟨fun holds => operations_inside (agrees.mpr holds),
        fun outside => operations_outside (fun opened => outside (agrees.mp opened))⟩

end Reports

/-! ## Where the hours go wrong -/

section Hours

variable {window : DailyWindow} {server : TimeZone} {now : Int}

theorem millis_bounds (time : TimeOfDay) :
    time.hour * 3600000 ≤ time.millis ∧ time.millis < (time.hour + 1) * 3600000 := by
  have := time.minute_lt
  unfold TimeOfDay.millis
  omega

/-- With the clock of the window's own zone, what goes wrong is the hour of the start before the start
and the hour of the end from the end on. -/
theorem inHours_iff_holds_same_clock (ordered : window.start.millis < window.finish.millis)
    (same : clock server now = clock window.timezone now) :
    (window.InHours server now ↔ window.Holds now) ↔
      ¬ (window.start.hour * 3600000 ≤ clock server now ∧ clock server now < window.start.millis) ∧
        ¬ (window.finish.millis ≤ clock server now ∧
          clock server now < (window.finish.hour + 1) * 3600000) := by
  have first := millis_bounds window.start
  have last := millis_bounds window.finish
  rw [DailyWindow.InHours, DailyWindow.Holds, if_pos ordered, ← same]
  omega

/-- No hour is within a window that goes on until an earlier hour of the next day. -/
theorem inHours_iff_holds_crossing (crossing : window.finish.hour < window.start.hour) :
    (window.InHours server now ↔ window.Holds now) ↔ ¬ window.Holds now := by
  have never : ¬ window.InHours server now := by
    unfold DailyWindow.InHours
    omega
  exact iff_false_left never

end Hours

/-- The window is kept just when nothing blocks, or when the server is within the hours of the window
just when the time is within the window; what this says of one clock, and of a window over midnight. -/
theorem kept_iff (server : TimeZone) (now : Int) (schemaDiff : SchemaDiff) (window : DailyWindow) :
    (Kept server now schemaDiff window ↔
      schemaDiff.up.filter isBlockingOperation = [] ∨ (window.InHours server now ↔ window.Holds now)) ∧
    (window.start.millis < window.finish.millis → clock server now = clock window.timezone now →
      ((window.InHours server now ↔ window.Holds now) ↔
        ¬ (window.start.hour * 3600000 ≤ clock server now ∧ clock server now < window.start.millis) ∧
          ¬ (window.finish.millis ≤ clock server now ∧
            clock server now < (window.finish.hour + 1) * 3600000))) ∧
    (window.finish.hour < window.start.hour →
      ((window.InHours server now ↔ window.Holds now) ↔ ¬ window.Holds now)) :=
  ⟨kept_iff_agrees, inHours_iff_holds_same_clock, inHours_iff_holds_crossing⟩

section Examples

/-- Half an hour after the end of a window, one hour into a window that crosses midnight, and one hour
after the end by the clock of the window, which is two hours ahead of the server. -/
theorem window_missed :
    ¬ Kept (fun _ => 0) 16200000 ⟨["ALTER TABLE orders DROP COLUMN note"]⟩
        ⟨⟨2, 0, by decide, by decide⟩, ⟨4, 0, by decide, by decide⟩, fun _ => 0, by decide⟩ ∧
      ¬ Kept (fun _ => 0) 82800000 ⟨["ALTER TABLE orders DROP COLUMN note"]⟩
        ⟨⟨22, 0, by decide, by decide⟩, ⟨2, 0, by decide, by decide⟩, fun _ => 0, by decide⟩ ∧
      ¬ Kept (fun _ => 0) 10800000 ⟨["ALTER TABLE orders DROP COLUMN note"]⟩
        ⟨⟨2, 0, by decide, by decide⟩, ⟨4, 0, by decide, by decide⟩, fun _ => 7200000, by decide⟩ := by
  have blocking : ["ALTER TABLE orders DROP COLUMN note"].filter isBlockingOperation ≠ [] := by decide
  refine ⟨?_, ?_, ?_⟩
  · intro kept
    refine blocking ?_
    rw [← kept.outside (by simp [DailyWindow.Holds, TimeOfDay.millis, clock])]
    decide
  · intro kept
    have nothing := kept.inside (by simp [DailyWindow.Holds, TimeOfDay.millis, clock])
    revert nothing
    decide
  · intro kept
    refine blocking ?_
    rw [← kept.outside (by simp [DailyWindow.Holds, TimeOfDay.millis, clock])]
    decide

end Examples

end DriverMicroServices.Policy.OperationalRules
