import BlogPaths.Calendar.Timestamp

/-! The order from the latest to the earliest.  Of the lists with the same members there is one only
that has the later ones first and those of the same instant as they came, and sorting finds it. -/
namespace BlogPaths

/-- The same members with the later ones first, and those of the same instant in their order. -/
structure IsNewestFirst {α : Type} (instant : α → Int) (xs ys : List α) : Prop where
  perm : ys.Perm xs
  descending : ys.Pairwise fun a b => instant b ≤ instant a
  stable : ∀ t, ys.filter (instant · = t) = xs.filter (instant · = t)

variable {α : Type} {instant : α → Int} {xs ys zs : List α}

theorem mem_iff_of_filter_instant
    (h : ∀ t, ys.filter (instant · = t) = zs.filter (instant · = t)) (a : α) :
    a ∈ ys ↔ a ∈ zs := by
  have ha := congrArg (a ∈ ·) (h (instant a))
  simpa using ha

theorem instant_le_of_mem_cons {y z : α} (hy : (y :: ys).Pairwise fun a b => instant b ≤ instant a)
    (hz : z ∈ y :: ys) : instant z ≤ instant y := by
  rcases List.mem_cons.mp hz with rfl | hmem
  · exact Int.le_refl _
  · exact (List.pairwise_cons.mp hy).1 z hmem

/-- Lists that go back in time are equal if they have the same members at every instant. -/
theorem eq_of_filter_instant (hy : ys.Pairwise fun a b => instant b ≤ instant a)
    (hz : zs.Pairwise fun a b => instant b ≤ instant a)
    (h : ∀ t, ys.filter (instant · = t) = zs.filter (instant · = t)) : ys = zs := by
  induction ys generalizing zs with
  | nil =>
    refine (List.eq_nil_iff_forall_not_mem.mpr fun a ha => ?_).symm
    exact List.not_mem_nil ((mem_iff_of_filter_instant h a).mpr ha)
  | cons y ys ih =>
    cases zs with
    | nil => exact absurd ((mem_iff_of_filter_instant h y).mp List.mem_cons_self) List.not_mem_nil
    | cons z zs =>
      have hle := instant_le_of_mem_cons hy ((mem_iff_of_filter_instant h z).mpr List.mem_cons_self)
      have hge := instant_le_of_mem_cons hz ((mem_iff_of_filter_instant h y).mp List.mem_cons_self)
      have heq : instant z = instant y := Int.le_antisymm hle hge
      have hfirst := h (instant y)
      rw [List.filter_cons_of_pos (by simp),List.filter_cons_of_pos (by simpa using heq)] at hfirst
      obtain ⟨rfl,hrest⟩ := List.cons.inj hfirst
      rw [ih hy.of_cons hz.of_cons fun t => ?_]
      by_cases ht : instant y = t
      · exact ht ▸ hrest
      · have hother := h t
        rwa [List.filter_cons_of_neg (by simpa using ht),
          List.filter_cons_of_neg (by simpa using ht)] at hother

theorem IsNewestFirst.unique (h : IsNewestFirst instant xs ys) (h' : IsNewestFirst instant xs zs) :
    ys = zs :=
  eq_of_filter_instant h.descending h'.descending fun t => (h.stable t).trans (h'.stable t).symm

theorem mergeSort_congr {r s : α → α → Bool} (h : ∀ a ∈ xs, ∀ b ∈ xs, r a b = s a b) :
    xs.mergeSort r = xs.mergeSort s := by
  simpa using List.map_mergeSort (f := id) h

/-- Sorting keeps the order of what is of the same instant. -/
theorem isNewestFirst_mergeSort (instant : α → Int) (xs : List α) :
    IsNewestFirst instant xs (xs.mergeSort fun a b => instant b ≤ instant a) := by
  have htrans : ∀ a b c, decide (instant b ≤ instant a) = true →
      decide (instant c ≤ instant b) = true → decide (instant c ≤ instant a) = true := by
    intro a b c
    simp only [decide_eq_true_eq]
    omega
  have htotal : ∀ a b, (decide (instant b ≤ instant a) || decide (instant a ≤ instant b)) = true := by
    intro a b
    simp only [Bool.or_eq_true,decide_eq_true_eq]
    omega
  have hperm := List.mergeSort_perm xs fun a b => instant b ≤ instant a
  refine ⟨hperm,?_,fun t => ?_⟩
  · simpa only [decide_eq_true_eq] using List.pairwise_mergeSort htrans htotal xs
  · have hequal : (xs.filter (instant · = t)).Pairwise
        fun a b => decide (instant b ≤ instant a) = true := by
      rw [List.pairwise_filter]
      refine List.pairwise_of_forall fun a b ha hb => ?_
      simp only [decide_eq_true_eq] at ha hb ⊢
      omega
    have hsub := (List.sublist_mergeSort htrans htotal hequal List.filter_sublist).filter
      (instant · = t)
    simp only [List.filter_filter,Bool.and_self] at hsub
    exact (hsub.eq_of_length (hperm.filter _).length_eq.symm).symm

end BlogPaths

/-! What the instants of timestamps count.  The days of the calendar follow each other one by one, and
from this alone it is known how far any two timestamps lie apart.  Timestamps of one place are compared
by what its clock shows, and where this agrees with their instants is said here too. -/
namespace BlogPaths.Calendar

/-- A day comes right behind another one: in the same month, in the next month, or in the next
year. -/
inductive IsNextDay (d e : Date) : Prop
  | inMonth (hy : e.year = d.year) (hm : e.month = d.month) (hd : e.day = d.day + 1)
  | inYear (hl : d.day = daysInMonth d.year d.month) (hy : e.year = d.year)
      (hm : e.month = d.month + 1) (hd : e.day = 1)
  | newYear (hl : d.month = 12 ∧ d.day = 31) (hy : e.year = d.year + 1) (hm : e.month = 1)
      (hd : e.day = 1)

theorem isLeapYear_iff {year : Nat} :
    isLeapYear year = true ↔ year % 4 = 0 ∧ (year % 100 ≠ 0 ∨ year % 400 = 0) := by
  simp [isLeapYear]

theorem div_succ {n k : Nat} : (n + 1)/k = n/k + if (n + 1) % k = 0 then 1 else 0 := by
  rw [Nat.succ_div]
  simp only [Nat.dvd_iff_mod_eq_zero]

theorem daysBeforeYear_succ {year : Nat} (h : 1 ≤ year) :
    daysBeforeYear (year + 1) = daysBeforeYear year + if isLeapYear year then 366 else 365 := by
  obtain ⟨past,rfl⟩ := Nat.exists_eq_add_of_le' h
  have hcentury : (past + 1) % 100 = 0 → (past + 1) % 4 = 0 := by omega
  have hera : (past + 1) % 400 = 0 → (past + 1) % 100 = 0 := by omega
  have hle : past/100 ≤ past/4 := Nat.div_le_div_left (by decide) (by decide)
  simp only [daysBeforeYear,Nat.add_sub_cancel,div_succ,isLeapYear_iff]
  -- What is left speaks of the three quotients and remainders only.
  generalize past/4 = a,past/100 = b,past/400 = c at hle ⊢
  generalize (past + 1) % 4 = r,(past + 1) % 100 = s,(past + 1) % 400 = t at hcentury hera ⊢
  by_cases hr : r = 0 <;> by_cases hs : s = 0 <;> by_cases ht : t = 0 <;> simp [hr,hs,ht] <;> omega

theorem daysBeforeMonth_succ {year month : Nat} (h : 1 ≤ month) :
    daysBeforeMonth year (month + 1) = daysBeforeMonth year month + daysInMonth year month := by
  obtain ⟨m,rfl⟩ := Nat.exists_eq_add_of_le' h
  rfl

theorem daysBeforeMonth_december (year : Nat) :
    daysBeforeMonth year 12 + 31 = if isLeapYear year then 366 else 365 := by
  simp only [daysBeforeMonth,daysInMonth]
  split <;> rfl

theorem one_le_daysInMonth {year month : Nat} (h : 1 ≤ month) (h' : month ≤ 12) :
    1 ≤ daysInMonth year month := by
  unfold daysInMonth
  split <;> grind

theorem number_next {d e : Date} (h : IsNextDay d e) : e.number = d.number + 1 := by
  have hday : 1 ≤ d.day := d.isDay.1
  unfold Date.number
  cases h with
  | inMonth hy hm hd =>
    rw [hy,hm,hd]
    omega
  | inYear hl hy hm hd =>
    rw [hy,hm,hd,daysBeforeMonth_succ (month_of_isDay d.isDay).1]
    omega
  | newYear hl hy hm hd =>
    have hdecember := daysBeforeMonth_december d.year
    rw [hy,hm,hd,daysBeforeYear_succ d.one_le_year,hl.1,hl.2,← hdecember,daysBeforeMonth]
    omega

def Date.first : Date := ⟨1,1,1,by decide,by decide,by decide⟩

theorem exists_isNextDay {e : Date} (h : e ≠ .first) : ∃ d, IsNextDay d e := by
  obtain ⟨hm,hm'⟩ := month_of_isDay e.isDay
  have hy := e.one_le_year
  have hy' := e.year_le
  obtain ⟨hd,hd'⟩ := e.isDay
  by_cases hday : e.day = 1
  · by_cases hmonth : e.month = 1
    · have hyear : e.year ≠ 1 := by
        intro hyear
        apply h
        cases e
        simp_all [Date.first]
      exact ⟨⟨e.year - 1,12,31,by omega,by omega,by decide,Nat.le_refl 31⟩,
        .newYear ⟨rfl,rfl⟩ (by simp; omega) hmonth hday⟩
    · have hlast : 1 ≤ daysInMonth e.year (e.month - 1) :=
        one_le_daysInMonth (by omega) (by omega)
      exact ⟨⟨e.year,e.month - 1,daysInMonth e.year (e.month - 1),hy,hy',hlast,Nat.le_refl _⟩,
        .inYear rfl rfl (by simp; omega) hday⟩
  · exact ⟨⟨e.year,e.month,e.day - 1,hy,hy',by omega,by omega⟩,.inMonth rfl rfl (by simp; omega)⟩

/-- A clock counts microseconds of universal time: from one day to the next it counts those of 24
hours, within a day it goes by the time of day, and the offset that a zone tells is what a timestamp is
ahead.  A zone that tells none counts as universal time. -/
structure IsClock (clock : Timestamp → Int) : Prop where
  first : clock (.ofDate .first) = 0
  next : ∀ d e, IsNextDay d e → clock (.ofDate e) = clock (.ofDate d) + 24*60*60*1000000
  time : ∀ t : Timestamp, t.zone = none →
    clock t = clock (.ofDate t.date) + (((t.hour*60 + t.minute)*60 + t.second)*1000000 + t.micro)
  zone : ∀ (t : Timestamp) z, t.zone = some z →
    clock t = clock { t with zone := none } - z.offset?.getD 0

theorem isClock_instant : IsClock Timestamp.instant where
  first := by decide
  next d e h := by
    simp only [Timestamp.instant,Timestamp.wall,Timestamp.offset?,Timestamp.ofDate,number_next h]
    omega
  time t h := by
    simp only [Timestamp.instant,Timestamp.wall,Timestamp.offset?,Timestamp.ofDate,h]
    simp only [Option.getD_some]
    omega
  zone t z h := by simp [Timestamp.instant,Timestamp.wall,Timestamp.offset?,h]

/-- There is no other clock. -/
theorem IsClock.eq_instant {clock : Timestamp → Int} (h : IsClock clock) :
    clock = Timestamp.instant := by
  have hdays : ∀ k d, d.number = k → clock (.ofDate d) = Timestamp.instant (.ofDate d) := by
    intro k
    induction k with
    | zero =>
      intro d hd
      by_cases hfirst : d = .first
      · rw [hfirst,h.first,isClock_instant.first]
      · obtain ⟨e,he⟩ := exists_isNextDay hfirst
        have hnumber := number_next he
        omega
    | succ k ih =>
      intro d hd
      have hfirst : d ≠ .first := by
        rintro rfl
        cases hd
      obtain ⟨e,he⟩ := exists_isNextDay hfirst
      have hnumber := number_next he
      rw [h.next e d he,isClock_instant.next e d he,ih e (by omega)]
  have hnaive : ∀ t : Timestamp, t.zone = none → clock t = t.instant := by
    intro t ht
    rw [h.time t ht,isClock_instant.time t ht,hdays _ _ rfl]
  funext t
  cases ht : t.zone with
  | none => exact hnaive t ht
  | some z => rw [h.zone t z ht,isClock_instant.zone t z ht,hnaive _ rfl]

namespace Timestamp

variable {s t : Timestamp}

/-- Timestamps of one place are in the same order by the clock on its wall as in universal time, which
they may not be around the hour when it is set back. -/
def Agrees (s t : Timestamp) : Prop :=
  s.samePlace t = true → (s.wall ≤ t.wall ↔ s.instant ≤ t.instant)

instance (s t : Timestamp) : Decidable (Agrees s t) := inferInstanceAs (Decidable (_ → _))

theorem Agrees.notAfter_eq (h : Agrees s t) : s.notAfter t = decide (s.instant ≤ t.instant) := by
  unfold notAfter
  by_cases hplace : s.samePlace t = true
  · simp [hplace,h hplace]
  · simp [hplace]

theorem comparable_iff : s.comparable t = true ↔ s.offset?.isSome = t.offset?.isSome := by
  simp [comparable]

end Timestamp

end BlogPaths.Calendar
