import Enrolment.Calendar
import Mathlib.Tactic.IntervalCases
import Mathlib.Tactic.SplitIfs

set_option autoImplicit false

namespace Enrolment.Date

def isLeap (year : Nat) : Bool := year % 4 = 0 && (year % 100 ≠ 0 || year % 400 = 0)

def monthLength (year month : Nat) : Nat :=
  if month = 2 then if isLeap year then 29 else 28
  else if month = 4 ∨ month = 6 ∨ month = 9 ∨ month = 11 then 30
  else 31

def daysOfMonths (year : Nat) : Nat → Nat
  | 0 => 0
  | months + 1 => daysOfMonths year months + monthLength year (months + 1)

def daysOfYears : Nat → Nat
  | 0 => 0
  | years + 1 => daysOfYears years + daysOfMonths years 12

def newYear (year : Nat) : Int := (daysOfYears year : Int) - daysOfYears 1970

def number? (year month day : Nat) : Option Int :=
  if 1 ≤ month ∧ month ≤ 12 ∧ 1 ≤ day ∧ day ≤ monthLength year month then
    some (newYear year + daysOfMonths year (month - 1) + (day - 1))
  else none

example : number? 2024 2 29 = some 19782 ∧ number? 2023 2 29 = none := by
  decide +kernel

def leapDays (year : Nat) : Nat := if isLeap year then 1 else 0

theorem daysOfMonths_year (year : Nat) : daysOfMonths year 12 = 365 + leapDays year := by
  simp only [daysOfMonths, monthLength, leapDays]
  cases isLeap year <;> rfl

-- The days of so many years from March of the year 0 on, each with the leap day at its end.
def marchDays (years : Int) : Int := 365 * years + years / 4 - years / 100 + years / 400

theorem marchDays_succ (year : Nat) :
    marchDays year = marchDays ((year : Int) - 1) + 365 + leapDays year := by
  unfold marchDays leapDays isLeap
  split
  next leap =>
    simp only [Bool.and_eq_true, Bool.or_eq_true, decide_eq_true_eq] at leap
    omega
  next common =>
    simp only [Bool.and_eq_true, Bool.or_eq_true, decide_eq_true_eq] at common
    omega

theorem daysOfYears_eq (years : Nat) :
    (daysOfYears years : Int) = marchDays ((years : Int) - 1) + 366 := by
  induction years with
  | zero => rfl
  | succ years ih =>
    have next := marchDays_succ years
    rw [daysOfYears, daysOfMonths_year]
    push_cast
    rw [Int.add_sub_cancel]
    omega

theorem newYear_eq (year : Nat) : newYear year = marchDays ((year : Int) - 1) - 719162 := by
  rw [newYear, daysOfYears_eq, daysOfYears_eq]
  have base : marchDays (((1970 : Nat) : Int) - 1) = 719162 := rfl
  omega

-- A day less the leap days before it. The division of it by 365 is how the year is found.
def spread (day : Int) : Int := day - day / 1460 + day / 36524 - day / 146096

theorem spread_mono {day later : Int} (order : day ≤ later) : spread day ≤ spread later := by
  unfold spread
  omega

theorem spread_marchDays : ∀ years < 401,
    (years = 0 ∨ spread (marchDays (years : Nat) - 1) < 365 * (years : Nat)) ∧
      365 * (years : Nat) ≤ spread (marchDays (years : Nat)) := by
  decide +kernel

theorem year_of_day {day : Int} (lower : 0 ≤ day) (upper : day < 146097) :
    ∃ year : Nat, spread day / 365 = year ∧ year < 400 ∧ marchDays year ≤ day ∧
      day < marchDays (year + 1) := by
  have bottom : spread 0 ≤ spread day := spread_mono lower
  have top : spread day ≤ spread 146096 := spread_mono (by omega)
  have ends : spread 0 = 0 ∧ spread 146096 = 145999 := by decide
  obtain ⟨year, same⟩ := Int.eq_ofNat_of_zero_le (a := spread day / 365) (by omega)
  -- Both sides grow with the day, so the ends of a year decide for all of its days.
  obtain ⟨before, -⟩ := spread_marchDays year (by omega)
  obtain ⟨-, behind⟩ := spread_marchDays (year + 1) (by omega)
  refine ⟨year, same, by omega, ?_, ?_⟩
  · by_contra early
    have order : spread day ≤ spread (marchDays year - 1) := spread_mono (by omega)
    rcases before with rfl | before
    · exact early lower
    · omega
  · by_contra late
    have order : spread (marchDays (year + 1)) ≤ spread day := spread_mono (by omega)
    push_cast at behind
    omega

theorem marchDays_cycle (year cycle : Int) :
    marchDays (year + cycle * 400) = marchDays year + cycle * 146097 := by
  unfold marchDays
  omega

def ofMarch (year day : Int) : Date :=
  let month := (5 * day + 2) / 153
  let dayOfMonth := (day - (153 * month + 2) / 5 + 1).toNat
  if month < 10 then ⟨year, (month + 3).toNat, dayOfMonth⟩
  else ⟨year + 1, (month - 9).toNat, dayOfMonth⟩

theorem ofDays_march (days : Int) : ∃ year day : Int, ofDays days = ofMarch year day ∧
    marchDays year + day = days + 719468 ∧ 0 ≤ day ∧ days + 719468 < marchDays (year + 1) := by
  have whole := Int.emod_add_mul_ediv (days + 719468) 146097
  have lower : 0 ≤ (days + 719468) % 146097 := Int.emod_nonneg _ (by decide)
  have upper : (days + 719468) % 146097 < 146097 := Int.emod_lt_of_pos _ (by decide)
  obtain ⟨year, found, short, begun, within⟩ := year_of_day lower upper
  have first := marchDays_cycle year ((days + 719468) / 146097)
  have next := marchDays_cycle (year + 1) ((days + 719468) / 146097)
  rw [Int.add_right_comm] at next
  refine ⟨year + (days + 719468) / 146097 * 400, (days + 719468) % 146097 - marchDays year, ?_,
    by omega, by omega, by omega⟩
  have leaps : marchDays year = 365 * year + (year : Int) / 4 - (year : Int) / 100 := by
    unfold marchDays
    omega
  unfold spread at found
  simp only [ofDays, ofMarch, found, ← leaps]
  split
  next late =>
    have month : ¬(5 * ((days + 719468) % 146097 - marchDays year) + 2) / 153 + 3 ≤ 2 := by omega
    rw [if_neg month, Int.add_zero]
  next early =>
    have month : (5 * ((days + 719468) % 146097 - marchDays year) + 2) / 153 - 9 ≤ 2 := by omega
    rw [if_pos month]

theorem daysOfMonths_march (year : Nat) : ∀ month ≤ 10,
    (daysOfMonths year (month + 2) : Int) = 59 + leapDays year + (153 * (month : Nat) + 2) / 5 := by
  intro month bound
  interval_cases month <;> simp only [daysOfMonths, monthLength, leapDays] <;>
    cases isLeap year <;> rfl

theorem number?_eq {year month day : Nat} {days : Int} (first : 1 ≤ month) (last : month ≤ 12)
    (later : 1 ≤ day) (within : day ≤ monthLength year month)
    (sum : days = newYear year + daysOfMonths year (month - 1) + (day - 1)) :
    number? year month day = some days := by
  rw [number?, if_pos ⟨first, last, later, within⟩, sum]

theorem number?_fromMarch (year : Nat) {day : Int} (lower : 0 ≤ day) (upper : day < 306) :
    ∃ month dayOfMonth : Nat, ofMarch year day = ⟨year, month, dayOfMonth⟩ ∧
      number? year month dayOfMonth = some (marchDays year + day - 719468) := by
  obtain ⟨month, same⟩ := Int.eq_ofNat_of_zero_le (a := (5 * day + 2) / 153) (by omega)
  have before := daysOfMonths_march year month (by omega)
  have behind := daysOfMonths_march year (month + 1) (by omega)
  have length : daysOfMonths year (month + 1 + 2) =
      daysOfMonths year (month + 2) + monthLength year (month + 3) := rfl
  have start := newYear_eq year
  have next := marchDays_succ year
  refine ⟨month + 3, (day - (153 * month + 2) / 5 + 1).toNat, ?_,
    number?_eq (by omega) (by omega) (by omega) (by omega) ?_⟩
  · rw [ofMarch]
    simp only [same]
    rw [if_pos (by omega)]
    rfl
  · rw [Nat.add_sub_assoc (by decide), before]
    omega

theorem number?_beforeMarch (year : Nat) {day : Int} (lower : 306 ≤ day)
    (upper : day < 365 + leapDays year) :
    ∃ month dayOfMonth : Nat, ofMarch ((year : Int) - 1) day = ⟨year, month, dayOfMonth⟩ ∧
      number? year month dayOfMonth = some (marchDays ((year : Int) - 1) + day - 719468) := by
  have start := newYear_eq year
  have leap : leapDays year ≤ 1 := by
    unfold leapDays
    split <;> decide
  have february : monthLength year 2 = 28 + leapDays year := by
    simp only [monthLength, leapDays]
    cases isLeap year <;> rfl
  have january : daysOfMonths year 1 = 31 := rfl
  obtain ⟨month, same⟩ := Int.eq_ofNat_of_zero_le (a := (5 * day + 2) / 153 - 9) (by omega)
  have written : ofMarch ((year : Int) - 1) day =
      ⟨year, month, (day - (153 * (month + 9) + 2) / 5 + 1).toNat⟩ := by
    have divided : (5 * day + 2) / 153 = month + 9 := by omega
    rw [ofMarch]
    simp only [divided]
    rw [if_neg (by omega), Int.sub_add_cancel, Int.add_sub_cancel, Int.toNat_natCast]
  refine ⟨month, _, written, ?_⟩
  obtain rfl | rfl : month = 1 ∨ month = 2 := by omega
  · exact number?_eq (by decide) (by decide) (by omega) (by change _ ≤ 31; omega)
      (by change _ = newYear year + (0 : Nat) + _; omega)
  · exact number?_eq (by decide) (by decide) (by omega) (by omega)
      (by rw [january]; omega)

theorem number?_ofDays (days : Int) (lower : newYear 0 ≤ days) :
    ∃ year month day : Nat, ofDays days = ⟨year, month, day⟩ ∧
      number? year month day = some days := by
  have start : newYear 0 = -719528 := newYear_eq 0
  obtain ⟨year, day, same, sum, begun, within⟩ := ofDays_march days
  have back : marchDays year + day - 719468 = days := by omega
  have recent : -1 ≤ year := by
    unfold marchDays at within
    omega
  have length : marchDays (year + 1) = marchDays year + 365 + leapDays (year + 1).toNat := by
    have next := marchDays_succ (year + 1).toNat
    rwa [Int.toNat_of_nonneg (by omega), Int.add_sub_cancel] at next
  rw [same, ← back]
  by_cases early : day < 306
  case pos =>
    -- January and February of the year 0 belong to the year before it.
    have natural : 0 ≤ year := by
      by_contra before
      obtain rfl : year = -1 := by omega
      have base : marchDays (-1) = -366 := rfl
      omega
    obtain ⟨year, rfl⟩ := Int.eq_ofNat_of_zero_le natural
    obtain ⟨month, dayOfMonth, date, number⟩ := number?_fromMarch year begun early
    exact ⟨year, month, dayOfMonth, date, number⟩
  case neg =>
    obtain ⟨next, shape⟩ := Int.eq_ofNat_of_zero_le (a := year + 1) (by omega)
    obtain rfl : year = next - 1 := by omega
    rw [Int.sub_add_cancel] at within length
    rw [Int.toNat_natCast] at length
    obtain ⟨month, dayOfMonth, date, number⟩ :=
      number?_beforeMarch next (by omega : 306 ≤ day) (by omega)
    exact ⟨next, month, dayOfMonth, date, number⟩

theorem newYear_mono {year later : Nat} (order : year ≤ later) : newYear year ≤ newYear later := by
  rw [newYear_eq, newYear_eq]
  unfold marchDays
  omega

theorem bounds_of_number? {year month day : Nat} {days : Int}
    (read : number? year month day = some days) : month ≤ 12 ∧ day ≤ 31 := by
  unfold number? at read
  split_ifs at read with valid
  obtain ⟨-, last, -, within⟩ := valid
  have longest : monthLength year month ≤ 31 := by
    unfold monthLength
    split_ifs <;> decide
  exact ⟨last, by omega⟩

theorem newYear_le_of_number? {year month day : Nat} {days : Int}
    (read : number? year month day = some days) : newYear year ≤ days := by
  unfold number? at read
  split_ifs at read
  have sum := Option.some.inj read
  omega

theorem year_lt_of_number? {year month day limit : Nat} {days : Int}
    (read : number? year month day = some days) (upper : days < newYear limit) : year < limit := by
  have begun := newYear_le_of_number? read
  by_contra late
  have order := newYear_mono (Nat.le_of_not_lt late)
  omega

end Enrolment.Date
