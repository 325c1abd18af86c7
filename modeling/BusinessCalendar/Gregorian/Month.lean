/-!
# Leap years and month lengths

The Gregorian rule is applied to every integer year, before year 1 and after year 9999 as well:
what a library can *represent* is decided in `Gregorian/Date.lean`, not here.

* `isLeap` — divisible by 4, of the centuries only every fourth.
* `daysThrough` — the cumulative month table, indexed by the month counted through.
* `daysInMonth`, `daysInYear` — differences and end of that table.
-/

namespace BusinessCalendar

/-- Divisible by 4, except centuries, except centuries divisible by 400. -/
def isLeap (year : Int) : Bool :=
  year % 4 == 0 && (year % 100 != 0 || year % 400 == 0)

/-- Days of a common year up to the end of a month; month 0 stands for the start of the year. -/
def commonDaysThrough : Int → Int
  | 1 => 31
  | 2 => 59
  | 3 => 90
  | 4 => 120
  | 5 => 151
  | 6 => 181
  | 7 => 212
  | 8 => 243
  | 9 => 273
  | 10 => 304
  | 11 => 334
  | 12 => 365
  | _ => 0

/-- Days of a year up to the end of a month: February adds the leap day. -/
def daysThrough (leap : Bool) (month : Int) : Int :=
  commonDaysThrough month + (if leap && 2 ≤ month then 1 else 0)

/-- The length of a month. -/
def daysInMonth (year month : Int) : Int :=
  daysThrough (isLeap year) month - daysThrough (isLeap year) (month - 1)

/-- The length of a year: 365 or 366. -/
def daysInYear (year : Int) : Int :=
  daysThrough (isLeap year) 12

/-! ## The table, read month by month -/

/-- A month between 1 and 12 is one of twelve. -/
theorem month_cases {m : Int} (h₁ : 1 ≤ m) (h₂ : m ≤ 12) :
    m = 1 ∨ m = 2 ∨ m = 3 ∨ m = 4 ∨ m = 5 ∨ m = 6 ∨ m = 7 ∨ m = 8 ∨ m = 9 ∨ m = 10 ∨
      m = 11 ∨ m = 12 := by
  omega

@[simp] theorem daysThrough_zero (leap : Bool) : daysThrough leap 0 = 0 := by
  cases leap <;> rfl

theorem daysThrough_twelve (leap : Bool) : daysThrough leap 12 = if leap then 366 else 365 := by
  cases leap <;> rfl

theorem daysInYear_eq (year : Int) : daysInYear year = if isLeap year then 366 else 365 :=
  daysThrough_twelve _

/-- Every month has 28 to 31 days. -/
theorem daysThrough_step (leap : Bool) {m : Int} (h₁ : 1 ≤ m) (h₂ : m ≤ 12) :
    28 ≤ daysThrough leap m - daysThrough leap (m - 1) ∧
      daysThrough leap m - daysThrough leap (m - 1) ≤ 31 := by
  rcases month_cases h₁ h₂ with
    rfl | rfl | rfl | rfl | rfl | rfl | rfl | rfl | rfl | rfl | rfl | rfl <;>
    cases leap <;> decide

/-- The first `m` months have at most `32 m` days, the first `m - 1` at least `28 (m - 1)`. -/
theorem daysThrough_bounds (leap : Bool) {m : Int} (h₁ : 0 ≤ m) (h₂ : m ≤ 12) :
    28 * m ≤ daysThrough leap m ∧ daysThrough leap m ≤ 32 * m := by
  rcases Int.lt_or_eq_of_le h₁ with h | rfl
  · rcases month_cases h h₂ with
      rfl | rfl | rfl | rfl | rfl | rfl | rfl | rfl | rfl | rfl | rfl | rfl <;>
      cases leap <;> decide
  · simp

/-- The table grows with the month. -/
theorem daysThrough_mono (leap : Bool) {m k : Int} (h₁ : 0 ≤ m) (h₂ : m ≤ k) (h₃ : k ≤ 12) :
    daysThrough leap m ≤ daysThrough leap k := by
  have ⟨n, hn⟩ : ∃ n : Nat, k = m + n := ⟨(k - m).toNat, by omega⟩
  subst hn
  induction n with
  | zero => simp
  | succ n ih =>
    have := daysThrough_step leap (m := m + (n + 1 : Nat)) (by omega) h₃
    have h : m + ((n + 1 : Nat) : Int) - 1 = m + (n : Int) := by omega
    rw [h] at this
    have := ih (by omega) (by omega)
    omega

theorem daysInMonth_bounds (year : Int) {m : Int} (h₁ : 1 ≤ m) (h₂ : m ≤ 12) :
    28 ≤ daysInMonth year m ∧ daysInMonth year m ≤ 31 :=
  daysThrough_step _ h₁ h₂

end BusinessCalendar
