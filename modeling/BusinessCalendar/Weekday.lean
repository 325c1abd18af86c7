/-!
# Weekdays

The seven days of the week, numbered from Monday = 0.  Day 0 of the line of days is a Monday, so
the weekday of a day is its number modulo 7 (`Weekday.onDay`).
-/

namespace BusinessCalendar

/-- A day of the week. -/
inductive Weekday where
  | monday
  | tuesday
  | wednesday
  | thursday
  | friday
  | saturday
  | sunday
deriving DecidableEq, Repr, Inhabited

namespace Weekday

/-- The days of the week from Monday on. -/
def all : List Weekday :=
  [.monday, .tuesday, .wednesday, .thursday, .friday, .saturday, .sunday]

/-- The number of a weekday, Monday = 0. -/
def index : Weekday → Int
  | .monday => 0
  | .tuesday => 1
  | .wednesday => 2
  | .thursday => 3
  | .friday => 4
  | .saturday => 5
  | .sunday => 6

def name : Weekday → String
  | .monday => "MONDAY"
  | .tuesday => "TUESDAY"
  | .wednesday => "WEDNESDAY"
  | .thursday => "THURSDAY"
  | .friday => "FRIDAY"
  | .saturday => "SATURDAY"
  | .sunday => "SUNDAY"

/-- The weekday of a number between 0 and 6. -/
def ofIndex? (n : Int) : Option Weekday :=
  all.find? fun w => w.index == n

def ofName? (s : String) : Option Weekday :=
  all.find? fun w => w.name == s

/-- The weekday on which a day falls. -/
def onDay (n : Int) : Weekday :=
  match n % 7 with
  | 0 => .monday
  | 1 => .tuesday
  | 2 => .wednesday
  | 3 => .thursday
  | 4 => .friday
  | 5 => .saturday
  | _ => .sunday

theorem mem_all (w : Weekday) : w ∈ all := by
  cases w <;> decide

theorem index_bounds (w : Weekday) : 0 ≤ w.index ∧ w.index ≤ 6 := by
  cases w <;> decide

theorem index_inj {v w : Weekday} (h : v.index = w.index) : v = w := by
  revert h
  cases v <;> cases w <;> decide

/-- A remainder modulo 7 is one of seven. -/
theorem mod_seven_cases (n : Int) :
    n % 7 = 0 ∨ n % 7 = 1 ∨ n % 7 = 2 ∨ n % 7 = 3 ∨ n % 7 = 4 ∨ n % 7 = 5 ∨ n % 7 = 6 := by
  omega

@[simp] theorem index_onDay (n : Int) : (onDay n).index = n % 7 := by
  rcases mod_seven_cases n with h | h | h | h | h | h | h <;> simp only [onDay, h] <;> rfl

@[simp] theorem onDay_index (w : Weekday) : onDay w.index = w := by
  cases w <;> rfl

/-- A day falls on a weekday exactly when their numbers agree modulo 7. -/
theorem onDay_eq_iff (n : Int) (w : Weekday) : onDay n = w ↔ n % 7 = w.index := by
  constructor
  · rintro rfl; simp
  · intro h; exact index_inj (by simpa using h)

theorem ofIndex?_index (w : Weekday) : ofIndex? w.index = some w := by
  cases w <;> rfl

/-- Exactly the numbers 0 to 6 are weekdays. -/
theorem ofIndex?_eq_some_iff {n : Int} {w : Weekday} : ofIndex? n = some w ↔ n = w.index := by
  constructor
  · intro h
    have := List.find?_some h
    simp only [beq_iff_eq] at this
    exact this.symm
  · rintro rfl; exact ofIndex?_index w

end Weekday

end BusinessCalendar
