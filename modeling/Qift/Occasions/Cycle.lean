import Qift.Occasions.Recurrence

/-!
# An occurrence seen from the weeks before it

* `Cycle` — one date in every year, more than sixty days from the next; `Cycle.near` says in which year a date lies that
  is at most sixty days ahead.
* `gregorianCycle` and `hijriCycle` — the dates of an occasion are such a cycle, in either calendar. `Umalqura.Tabled`
  is what is used of the library's tables.
* **`nextOccurrence_ahead`** — the next occurrence, up to sixty days before an occurrence, is that one.
-/

namespace Qift.Occasions

/-! ### Cycles -/

/-- A day in each of some years, which start on given days. -/
structure Cycle (has : Int → Prop) (start day : Int → Int) : Prop where
  mono : StrictMono start
  length : ∀ year, has year → start year + 60 < start (year + 1)
  within : ∀ year, has year → start year ≤ day year ∧ day year < start (year + 1)
  apart : ∀ year, has year → has (year + 1) → day year + 60 < day (year + 1)

theorem Cycle.near {has : Int → Prop} {start day : Int → Int} (h : Cycle has start day) {today this year : Int}
    (hthis : start this ≤ today ∧ today < start (this + 1)) (hhas : has this) (hhasNext : has (this + 1))
    (hhasYear : has year) (hahead : today ≤ day year) (hnear : day year ≤ today + 60) :
    year = this ∨ year = this + 1 ∧ day this < today := by
  obtain ⟨hlow, hhigh⟩ := h.within year hhasYear
  have hlength := h.length (this + 1) hhasNext
  have hge : this < year + 1 := h.mono.lt_iff_lt.mp (by omega)
  have hle : year < this + 1 + 1 := h.mono.lt_iff_lt.mp (by omega)
  rcases Int.le_iff_lt_or_eq.mp (Int.lt_add_one_iff.mp hge) with hlt | heq
  · right
    have hyear : year = this + 1 := by omega
    subst hyear
    exact ⟨rfl, by have hapart := h.apart this hhas hhasNext; omega⟩
  · exact Or.inl heq.symm

/-! ### The Gregorian calendar -/

/-- The day of a date in a Gregorian year, cut to the length of its month. -/
def gregorianDay (month day year : Int) : Int := makeDay year (month - 1) (min day (utcDate (dateUTC year month 0)))

theorem utcDate_bounds (t : Time) : 1 ≤ utcDate t ∧ utcDate t ≤ 31 := by
  unfold utcDate
  rw [civilFromDays_eq]
  dsimp only
  obtain ⟨hlow, hhigh⟩ := Gregorian.marchYear_spec (t / dayMillis + 719468)
  obtain ⟨-, hlength⟩ := Gregorian.marchStart_succ (Gregorian.marchYear (t / dayMillis + 719468))
  generalize Gregorian.marchYear (t / dayMillis + 719468) = y at *
  omega

theorem makeDay_bounds {year month day : Int} (hmonth : 1 ≤ month ∧ month ≤ 12) (hday : 1 ≤ day ∧ day ≤ 31) :
    yearStart year ≤ makeDay year (month - 1) day ∧ makeDay year (month - 1) day < yearStart (year + 1) := by
  have hlength := Gregorian.marchStart_succ (year - 1)
  rw [yearStart_eq, yearStart_eq, Int.add_sub_cancel]
  rw [Int.sub_add_cancel] at hlength
  obtain ⟨hlow, hhigh⟩ := hmonth
  unfold makeDay
  interval_cases month
  all_goals simp
  all_goals omega

/-- A date a year later, whatever its days are cut to. -/
theorem makeDay_apart {year month day day' : Int} (hmonth : 1 ≤ month ∧ month ≤ 12) (hday : 1 ≤ day ∧ day ≤ 31)
    (hday' : 1 ≤ day' ∧ day' ≤ 31) :
    makeDay year (month - 1) day + 60 < makeDay (year + 1) (month - 1) day' := by
  have hlength := Gregorian.marchStart_succ year
  have hlength' := Gregorian.marchStart_succ (year - 1)
  rw [Int.sub_add_cancel] at hlength'
  obtain ⟨hlow, hhigh⟩ := hmonth
  unfold makeDay
  interval_cases month
  all_goals simp
  all_goals omega

theorem cut_bounds {day : Int} (t : Time) (hday : 1 ≤ day) : 1 ≤ min day (utcDate t) ∧ min day (utcDate t) ≤ 31 := by
  obtain ⟨hlow, hhigh⟩ := utcDate_bounds t
  exact ⟨le_min hday hlow, (min_le_right _ _).trans hhigh⟩

theorem yearStart_strictMono : StrictMono yearStart := by
  intro a b hab
  rw [yearStart_eq, yearStart_eq]
  have hlt := Gregorian.marchStart_lt_marchStart.mpr (by omega : a - 1 < b - 1)
  omega

theorem gregorianCycle (has : Int → Prop) {month day : Int} (hmonth : 1 ≤ month ∧ month ≤ 12) (hday : 1 ≤ day) :
    Cycle has yearStart (gregorianDay month day) where
  mono := yearStart_strictMono
  length year _ := by
    have hlength := Gregorian.marchStart_succ (year - 1)
    rw [yearStart_eq, yearStart_eq, Int.add_sub_cancel]
    rw [Int.sub_add_cancel] at hlength
    omega
  within year _ := makeDay_bounds hmonth (cut_bounds _ hday)
  apart year _ _ := makeDay_apart hmonth (cut_bounds _ hday) (cut_bounds _ hday)

theorem makeFullYear_idem (year : Int) : makeFullYear (makeFullYear year) = makeFullYear year := by
  unfold makeFullYear
  split
  · exact if_neg (by omega)
  · rfl

theorem makeFullYear_of_modern {year : Int} (h : 1900 ≤ year) : makeFullYear year = year := if_neg (by omega)

theorem dateUTC_civilFromDays {n : Int} (h : yearStart 1900 ≤ n) :
    dateUTC (civilFromDays n).1 ((civilFromDays n).2.1 - 1) (civilFromDays n).2.2 = n * dayMillis := by
  obtain ⟨-, hyear⟩ := year_of_day n
  have hmodern : 1900 < (civilFromDays n).1 + 1 := yearStart_strictMono.lt_iff_lt.mp (h.trans_lt hyear)
  rw [dateUTC, makeFullYear_of_modern (by omega), makeDay_civilFromDays]

section Umalqura

variable [Umalqura]

theorem calendarDateToGregorian_gregorian (year month day : Int) :
    calendarDateToGregorian .gregorian year month day =
      .ok (gregorianDay month day (makeFullYear year) * dayMillis) := by
  have hmonth : dateUTC (makeFullYear year) month 0 = dateUTC year month 0 := by
    rw [dateUTC, dateUTC, makeFullYear_idem]
  rw [gregorianDay, hmonth]
  rfl

/-! ### The Hijri calendar -/

/-- The days before a month, counted from 0. -/
def daysBefore (year : Int) : Nat → Int
  | 0 => 0
  | months + 1 => daysBefore year months + (Umalqura.getDaysInMonth year (months + 1)).getD 0

/-- The tables: from 1900 on, years of twelve months of 29 or 30 days each, a date being so many days after the first
of its year. -/
structure Umalqura.Tabled (newYear : Int → Int) : Prop where
  mono : StrictMono newYear
  modern : ∀ year, Convertible year → yearStart 1900 ≤ newYear year
  length : ∀ year, Convertible year → newYear (year + 1) = newYear year + daysBefore year 12
  days : ∀ year month days, Umalqura.getDaysInMonth year month = some days → 29 ≤ days ∧ days ≤ 30
  date : ∀ year month day out, Umalqura.hijriToGregorian year month day = some out →
    out = civilFromDays (newYear year + daysBefore year (month - 1).toNat + day - 1)
  hy : ∀ date year, Umalqura.hy date = some year →
    newYear year ≤ date / dayMillis ∧ date / dayMillis < newYear (year + 1)

/-- The day of a date in a Hijri year, cut to the length of its month. -/
def hijriDay (newYear : Int → Int) (month day year : Int) : Int :=
  newYear year + daysBefore year (month - 1).toNat + min day ((Umalqura.getDaysInMonth year month).getD 0) - 1

variable {newYear : Int → Int}

namespace Umalqura.Tabled

theorem month (h : Umalqura.Tabled newYear) {year month : Int} (hyear : Convertible year)
    (hmonth : 1 ≤ month ∧ month ≤ 12) : 29 ≤ (Umalqura.getDaysInMonth year month).getD 0 ∧
      (Umalqura.getDaysInMonth year month).getD 0 ≤ 30 := by
  obtain ⟨days, hdays, -, -⟩ := hyear month hmonth.1 hmonth.2
  rw [hdays]
  exact h.days year month days hdays

theorem daysBefore_bounds (h : Umalqura.Tabled newYear) {year : Int} (hyear : Convertible year)
    {months : Nat} (hmonths : months ≤ 12) : 29 * months ≤ daysBefore year months ∧
      daysBefore year months ≤ 30 * months := by
  induction months with
  | zero => exact ⟨le_refl 0, le_refl 0⟩
  | succ months ih =>
      obtain ⟨hlow, hhigh⟩ := ih (by omega)
      have hmonth := @month _ _ h year (months + 1) hyear (by omega)
      rw [daysBefore]
      omega

/-- The months that are left. -/
theorem daysBefore_le (h : Umalqura.Tabled newYear) {year : Int} (hyear : Convertible year) {m n : Nat}
    (hmn : m ≤ n) (hn : n ≤ 12) : daysBefore year m ≤ daysBefore year n := by
  induction n, hmn using Nat.le_induction with
  | base => exact le_refl _
  | succ n hmn ih =>
      have hmonth := @month _ _ h year (n + 1) hyear (by omega)
      have hle := ih (by omega)
      rw [daysBefore]
      omega

theorem hijriDay_bounds (h : Umalqura.Tabled newYear) {year month day : Int} (hyear : Convertible year)
    (hmonth : 1 ≤ month ∧ month ≤ 12) (hday : 1 ≤ day) :
    newYear year ≤ hijriDay newYear month day year ∧ hijriDay newYear month day year < newYear (year + 1) := by
  obtain ⟨n, rfl⟩ : ∃ n : Nat, month = n + 1 := ⟨(month - 1).toNat, by omega⟩
  have hdays := h.month hyear hmonth
  have hbefore := h.daysBefore_bounds hyear (by omega : n ≤ 12)
  have hrest := h.daysBefore_le hyear (by omega : n + 1 ≤ 12) (le_refl 12)
  rw [daysBefore] at hrest
  rw [h.length year hyear, hijriDay, Int.add_sub_cancel, Int.toNat_natCast]
  omega

end Umalqura.Tabled

theorem hijriCycle (h : Umalqura.Tabled newYear) {month day : Int} (hmonth : 1 ≤ month ∧ month ≤ 12) (hday : 1 ≤ day) :
    Cycle Convertible newYear (hijriDay newYear month day) where
  mono := h.mono
  length year hyear := by
    have hlength := h.daysBefore_bounds hyear (le_refl 12)
    rw [h.length year hyear]
    omega
  within year hyear := h.hijriDay_bounds hyear hmonth hday
  apart year hyear hnext := by
    have hlength := h.daysBefore_bounds hyear (le_refl 12)
    have hbefore := h.daysBefore_bounds hyear (by omega : (month - 1).toNat ≤ 12)
    have hbefore' := h.daysBefore_bounds hnext (by omega : (month - 1).toNat ≤ 12)
    have hdays := h.month hyear hmonth
    have hdays' := h.month hnext hmonth
    rw [hijriDay, hijriDay, h.length year hyear]
    omega

theorem Umalqura.Tabled.calendarDateToGregorian_hijri (h : Umalqura.Tabled newYear) {year month day : Int}
    (hyear : Convertible year) (hmonth : 1 ≤ month ∧ month ≤ 12) (hday : 1 ≤ day) :
    calendarDateToGregorian .hijri year month day = .ok (hijriDay newYear month day year * dayMillis) := by
  obtain ⟨days, hdays, hpos, hconvert⟩ := hyear month hmonth.1 hmonth.2
  obtain ⟨out, hout⟩ := Option.isSome_iff_exists.mp (hconvert (min day days) (le_min hday hpos) (min_le_right _ _))
  have hwithin := h.hijriDay_bounds hyear hmonth hday
  have hmodern := h.modern year hyear
  have hday : out = civilFromDays (hijriDay newYear month day year) := by
    rw [hijriDay, hdays]
    exact h.date year month _ out hout
  have hdate := dateUTC_civilFromDays (hmodern.trans hwithin.1)
  rw [← hday] at hdate
  rw [calendarDateToGregorian, hijriToGregorianDate, daysInMonth, hdays]
  change (do
    let out ← converted (Umalqura.hijriToGregorian year month (min day days))
    pure (dateUTC out.1 (out.2.1 - 1) out.2.2) : Except Err Time) = _
  rw [hout]
  exact congrArg Except.ok hdate

/-! ### The next occurrence -/

/-- An occurrence of an occasion: its date, or its date in one of the years its calendar converts. -/
def OccasionDateSpec.Occurs (spec : OccasionDateSpec) (occurrence : Time) : Prop :=
  ∃ year, (spec.recurrence = .once → spec.year = some year) ∧ spec.calendar.Converts year ∧
    calendarDateToGregorian spec.calendar year spec.month spec.day = .ok occurrence

theorem Cycle.rollForward {has : Int → Prop} {start day : Int → Int} (h : Cycle has start day) (spec : OccasionDateSpec)
    (hdate : ∀ year, has year →
      calendarDateToGregorian spec.calendar year spec.month spec.day = .ok (day year * dayMillis))
    {today this year : Int} (hthis : start this ≤ today ∧ today < start (this + 1)) (hhas : has this)
    (hhasNext : has (this + 1)) (hhasYear : has year) (hahead : today ≤ day year) (hnear : day year ≤ today + 60)
    (years : Nat) : rollForward spec (today * dayMillis) (years + 2) this = .ok (some (day year * dayMillis)) := by
  have hle {a b : Int} (hab : a ≤ b) : a * dayMillis ≤ b * dayMillis := Int.mul_le_mul_of_nonneg_right hab (by decide)
  rcases h.near hthis hhas hhasNext hhasYear hahead hnear with rfl | ⟨rfl, hpassed⟩
  · rw [Occasions.rollForward, hdate _ hhas]
    exact if_pos (hle hahead)
  · rw [Occasions.rollForward, hdate _ hhas]
    refine (if_neg fun hreached => ?_).trans ?_
    · have hday := Int.le_of_mul_le_mul_right hreached (by decide)
      omega
    · rw [Occasions.rollForward, hdate _ hhasNext]
      exact if_pos (hle hahead)

/-- **Up to sixty days before an occurrence, it is the next one.** -/
theorem nextOccurrence_ahead (htables : Umalqura.Tabled newYear) {spec : OccasionDateSpec} {occurrence now days : Int}
    (hocc : spec.Occurs occurrence) (hmonth : 1 ≤ spec.month ∧ spec.month ≤ 12) (hday : 1 ≤ spec.day)
    (hdays : 0 ≤ days ∧ days ≤ 60) (hnow : 0 ≤ now) (htoday : occurrence - days * dayMillis = startOfUtcDay now)
    (hcovered : spec.recurrence = .yearly → spec.calendar = .hijri → Covered now) :
    nextOccurrence spec now = .ok (some occurrence) := by
  obtain ⟨year, honce, hconverts, hdate⟩ := hocc
  cases hrecurrence : spec.recurrence with
  | once =>
      rw [nextOccurrence, hrecurrence, honce hrecurrence]
      simp only [hdate]
      refine congrArg Except.ok (if_pos ?_)
      rw [← htoday]
      exact Int.sub_le_self _ (Int.mul_nonneg hdays.1 (by decide))
  | yearly =>
      rw [startOfUtcDay_eq hnow] at htoday
      -- the occurrence is the day `days` after today
      have hahead {d : Int} (hd : occurrence = d * dayMillis) : now / dayMillis ≤ d ∧ d ≤ now / dayMillis + 60 := by
        have hsub : d = now / dayMillis + days := by
          apply Int.eq_of_mul_eq_mul_right (by decide : dayMillis ≠ 0)
          rw [Int.add_mul, ← htoday, hd]
          omega
        omega
      rw [nextOccurrence, hrecurrence, startOfUtcDay_eq hnow]
      cases hcalendar : spec.calendar with
      | gregorian =>
          rw [hcalendar, calendarDateToGregorian_gregorian] at hdate
          cases hdate
          obtain ⟨hlow, hhigh⟩ := hahead rfl
          have hmodern := modern_year hnow
          have hroll := (gregorianCycle (fun year => makeFullYear year = year) hmonth hday).rollForward spec
            (fun year hyear => by rw [hcalendar, calendarDateToGregorian_gregorian, hyear])
            (year_of_day (now / dayMillis)) (makeFullYear_of_modern (by omega)) (makeFullYear_of_modern (by omega))
            (makeFullYear_idem year) hlow hhigh 1
          exact hroll
      | hijri =>
          obtain ⟨this, hhy, hthis, hnext, -⟩ := hcovered hrecurrence hcalendar
          rw [hcalendar] at hconverts hdate
          rw [htables.calendarDateToGregorian_hijri (hconverts rfl) hmonth hday] at hdate
          cases hdate
          obtain ⟨hlow, hhigh⟩ := hahead rfl
          have hroll := (hijriCycle htables hmonth hday).rollForward spec
            (fun year hyear => hcalendar ▸ htables.calendarDateToGregorian_hijri hyear hmonth hday)
            (htables.hy now this hhy) hthis hnext (hconverts rfl) hlow hhigh 1
          rw [currentYearInCalendar, gregorianToHijriYear, hhy]
          exact hroll

end Umalqura

end Qift.Occasions
