import ControlPlane.HttpDate
/-!
The days since the beginning of 1970, one after another. A day is followed by the next one of its
month, by the first one of the next month, or by the first one of the next year. Counting the days
in this order comes to the number that the calendar computes.
-/
namespace ControlPlane.Calendar

variable {count year month day : Nat}

/-- So many days after the first day of 1970, it is the day of that year, month and number. -/
inductive Falls : Nat → Nat → Nat → Nat → Prop where
  | first : Falls 0 1970 1 1
  | day {count year month day : Nat} (before : Falls count year month day)
      (more : day < monthLength year month) : Falls (count + 1) year month (day + 1)
  | month {count year month : Nat} (before : Falls count year month (monthLength year month))
      (more : month < 12) : Falls (count + 1) year (month + 1) 1
  | year {count year : Nat} (before : Falls count year 12 31) : Falls (count + 1) (year + 1) 1 1

theorem isDay_iff : isDay year month day = true ↔
    1970 ≤ year ∧ 1 ≤ day ∧ day ≤ monthLength year month := by
  simp [isDay, and_assoc]

theorem monthLength_eq (least : 1 ≤ month) :
    monthLength year month = (monthLengths year)[month - 1]?.getD 0 :=
  if_neg (by omega)

theorem monthLength_pos (least : 1 ≤ month) (most : month ≤ 12) : 0 < monthLength year month := by
  have all : ∀ n ∈ monthLengths year, 0 < n := by
    simp only [monthLengths, List.forall_mem_cons]
    split <;> simp
  have inside : month - 1 < (monthLengths year).length := by
    rw [show (monthLengths year).length = 12 from rfl]
    omega
  rw [monthLength_eq least, List.getElem?_eq_getElem inside, Option.getD_some]
  exact all _ (List.getElem_mem inside)

theorem month_le_of_isDay (exists_ : isDay year month day = true) : 1 ≤ month ∧ month ≤ 12 := by
  obtain ⟨-, least, most⟩ := isDay_iff.mp exists_
  have first : 1 ≤ month := by
    refine Nat.pos_of_ne_zero ?_
    rintro rfl
    exact Nat.not_succ_le_zero 0 (Nat.le_trans least most)
  refine ⟨first, Nat.le_of_not_lt fun beyond => ?_⟩
  have outside : (monthLengths year)[month - 1]? = none := by
    refine List.getElem?_eq_none ?_
    rw [show (monthLengths year).length = 12 from rfl]
    omega
  rw [monthLength_eq first, outside, Option.getD_none] at most
  omega

theorem daysBefore_day (least : 1 ≤ day) :
    daysBefore year month (day + 1) = daysBefore year month day + 1 := by
  unfold daysBefore
  omega

theorem daysBefore_month (least : 1 ≤ month) (more : month < 12) :
    daysBefore year (month + 1) 1 = daysBefore year month (monthLength year month) + 1 := by
  have inside : month - 1 < (monthLengths year).length := by
    rw [show (monthLengths year).length = 12 from rfl]
    omega
  have taken : (monthLengths year).take month =
      (monthLengths year).take (month - 1) ++ [monthLength year month] := by
    conv => lhs; rw [← Nat.sub_add_cancel least]
    rw [List.take_add_one, monthLength_eq least, List.getElem?_eq_getElem inside]
    rfl
  have filled := @monthLength_pos year month least (Nat.le_of_lt more)
  unfold daysBefore
  rw [Nat.add_sub_cancel, taken, List.foldl_append, List.foldl_cons, List.foldl_nil]
  omega

theorem isLeap_iff : isLeap year = true ↔
    year % 4 = 0 ∧ (year % 100 ≠ 0 ∨ year % 400 = 0) := by
  simp [isLeap]

theorem leapsBefore_succ (positive : 0 < year) :
    leapsBefore (year + 1) = leapsBefore year + if isLeap year then 1 else 0 := by
  obtain ⟨last, rfl⟩ := Nat.exists_eq_add_of_lt positive
  rw [Nat.zero_add]
  have fourth : (last + 1) / 4 = last / 4 + if (last + 1) % 4 = 0 then 1 else 0 := by
    split <;> omega
  have century : (last + 1) / 100 = last / 100 + if (last + 1) % 100 = 0 then 1 else 0 := by
    split <;> omega
  have era : (last + 1) / 400 = last / 400 + if (last + 1) % 400 = 0 then 1 else 0 := by
    split <;> omega
  have fewer : last / 100 ≤ last / 4 := Nat.div_le_div_left (by decide) (by decide)
  unfold leapsBefore
  rw [Nat.add_sub_cancel, Nat.add_sub_cancel, fourth, century, era]
  -- a number that 400 divides is divided by 100, and one that 100 divides by 4
  by_cases four : (last + 1) % 4 = 0
  · rw [if_pos four]
    by_cases hundred : (last + 1) % 100 = 0
    · rw [if_pos hundred]
      by_cases all : (last + 1) % 400 = 0
      · rw [if_pos all, if_pos (isLeap_iff.mpr ⟨four, .inr all⟩)]
        omega
      · rw [if_neg all, if_neg fun leap => (isLeap_iff.mp leap).2.elim (· hundred) all]
        omega
    · have none_ : ¬ (last + 1) % 400 = 0 := by omega
      rw [if_neg hundred, if_neg none_, if_pos (isLeap_iff.mpr ⟨four, .inl hundred⟩)]
      omega
  · have none_ : ¬ (last + 1) % 100 = 0 := by omega
    have none_' : ¬ (last + 1) % 400 = 0 := by omega
    rw [if_neg four, if_neg none_, if_neg none_', if_neg fun leap => four (isLeap_iff.mp leap).1]
    simp only [Nat.add_zero]

theorem daysBefore_year (since : 1970 ≤ year) :
    daysBefore (year + 1) 1 1 = daysBefore year 12 31 + 1 := by
  have months :
      ((monthLengths year).take 11).foldl (· + ·) 0 = if isLeap year then 335 else 334 := by
    unfold monthLengths
    split <;> rfl
  have growing : leapsBefore 1970 ≤ leapsBefore year := by
    unfold leapsBefore
    omega
  unfold daysBefore daysBeforeYear
  rw [months, leapsBefore_succ (by omega)]
  simp only [Nat.sub_self, List.take_zero, List.foldl_nil]
  split <;> omega

theorem Falls.daysBefore_eq (falls : Falls count year month day) :
    isDay year month day = true ∧ daysBefore year month day = count := by
  induction falls with
  | first => decide
  | day before more ih =>
    obtain ⟨exists_, counted⟩ := ih
    obtain ⟨since, least, -⟩ := isDay_iff.mp exists_
    rw [daysBefore_day least, counted]
    exact ⟨isDay_iff.mpr ⟨since, by omega, more⟩, rfl⟩
  | month before more ih =>
    obtain ⟨exists_, counted⟩ := ih
    have inside := month_le_of_isDay exists_
    rw [daysBefore_month inside.1 more, counted]
    refine ⟨isDay_iff.mpr ⟨(isDay_iff.mp exists_).1, Nat.le_refl 1, ?_⟩, rfl⟩
    exact monthLength_pos (by omega) more
  | year before ih =>
    obtain ⟨exists_, counted⟩ := ih
    have since := (isDay_iff.mp exists_).1
    rw [daysBefore_year since, counted]
    exact ⟨isDay_iff.mpr ⟨by omega, Nat.le_refl 1, by simp [monthLength, monthLengths]⟩, rfl⟩

theorem monthLength_le : monthLength year month ≤ 31 := by
  have all : ∀ n ∈ monthLengths year, n ≤ 31 := by
    simp only [monthLengths, List.forall_mem_cons]
    split <;> simp
  unfold monthLength
  split
  · exact Nat.zero_le 31
  · cases length : (monthLengths year)[month - 1]? with
    | none => exact Nat.zero_le 31
    | some n => exact all n (List.mem_of_getElem? length)

/-- Twelve months of 32 days leave room for every day of a year. -/
theorem Falls.count_le (falls : Falls count year month day) :
    count ≤ 384 * (year - 1970) + 32 * (month - 1) + (day - 1) := by
  induction falls with
  | first => exact Nat.zero_le _
  | day before more ih =>
    obtain ⟨exists_, -⟩ := before.daysBefore_eq
    have least := (isDay_iff.mp exists_).2.1
    omega
  | @month count year month before more ih =>
    obtain ⟨exists_, -⟩ := before.daysBefore_eq
    have least := (month_le_of_isDay exists_).1
    have most := @monthLength_le year month
    omega
  | year before ih =>
    obtain ⟨exists_, -⟩ := before.daysBefore_eq
    have since := (isDay_iff.mp exists_).1
    omega

theorem falls_of_month (begins : ∃ count, Falls count year month 1) (least : 1 ≤ day)
    (most : day ≤ monthLength year month) : ∃ count, Falls count year month day := by
  induction least with
  | refl => exact begins
  | step _ ih =>
    obtain ⟨count, before⟩ := ih (Nat.le_of_lt most)
    exact ⟨count + 1, before.day most⟩

theorem falls_of_year (begins : ∃ count, Falls count year 1 1) (least : 1 ≤ month)
    (most : month ≤ 12) : ∃ count, Falls count year month 1 := by
  induction least with
  | refl => exact begins
  | @step month least ih =>
    have filled := @monthLength_pos year month least (Nat.le_of_lt most)
    obtain ⟨count, before⟩ := falls_of_month (ih (Nat.le_of_lt most)) filled (Nat.le_refl _)
    exact ⟨count + 1, before.month most⟩

theorem falls_of_since (since : 1970 ≤ year) : ∃ count, Falls count year 1 1 := by
  induction since with
  | refl => exact ⟨0, .first⟩
  | @step year since ih =>
    have december : ∃ count, Falls count year 12 1 := falls_of_year ih (by decide) (by decide)
    have last : monthLength year 12 = 31 := rfl
    obtain ⟨count, before⟩ := falls_of_month december (by decide) (Nat.le_of_eq last.symm)
    exact ⟨count + 1, before.year⟩

/-- The count reaches the days that exist, and each at the number that is computed for it. -/
theorem falls_iff : Falls count year month day ↔
    isDay year month day = true ∧ daysBefore year month day = count := by
  constructor
  · exact Falls.daysBefore_eq
  · rintro ⟨exists_, rfl⟩
    obtain ⟨since, least, most⟩ := isDay_iff.mp exists_
    obtain ⟨january, december⟩ := month_le_of_isDay exists_
    obtain ⟨count, falls⟩ :=
      falls_of_month (falls_of_year (falls_of_since since) january december) least most
    rwa [falls.daysBefore_eq.2]

end ControlPlane.Calendar
