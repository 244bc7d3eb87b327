import BlogPaths.Calendar.Numeral
import BlogPaths.Calendar.Timestamp
import Mathlib.Data.List.Induction

/-! Dates whose year, month and day are given by a few digits of any script.  Such texts are always
numerals, and small ones; the only fault that is left is that there is no such day.  What is given
by ASCII digits is also written by them. -/
namespace BlogPaths.Calendar

open Unicode

namespace Numeral

theorem digitRun_of_digits {s : List Char} (h : ∀ c ∈ s, isDigit c) (fresh : Bool)
    (hs : fresh = true → s ≠ []) : digitRun fresh s = some (s.filterMap digitValue?,[]) := by
  have hunderscore : isDigit '_' = false := by decide
  induction s generalizing fresh with
  | nil =>
    cases fresh with
    | false => rfl
    | true => exact absurd rfl (hs rfl)
  | cons c cs ih =>
    have hc : c ≠ '_' := by
      rintro rfl
      simpa [hunderscore] using h _ List.mem_cons_self
    obtain ⟨d,hd⟩ := Option.isSome_iff_exists.mp (h c List.mem_cons_self)
    have hcs := ih (fun a ha => h a (List.mem_cons_of_mem _ ha)) false (by simp)
    simp [digitRun,hc,hd,hcs]

theorem isPadding_of_isDigit {c : Char} (h : isDigit c) : isPadding c = false := by
  have htables : ∀ z ∈ digitZeros, ∀ r ∈ blankRanges, z + 9 < r.1 ∨ r.2 < z := by decide
  obtain ⟨d,hd⟩ := Option.isSome_iff_exists.mp h
  obtain ⟨z,hz,-⟩ := Option.map_eq_some_iff.mp hd
  have hmem := List.mem_of_find?_eq_some hz
  have hrange := List.find?_some hz
  simp only [Bool.and_eq_true,decide_eq_true_eq] at hrange
  have hblank : isBlank c = false := by
    rw [isBlank,← Bool.not_eq_true,inRanges_iff]
    rintro ⟨r,hr,h₁,h₂⟩
    have := htables z hmem r hr
    omega
  simp [isPadding,hblank]

theorem read_of_digits {s : List Char} (hs : s ≠ []) (h : ∀ c ∈ s, isDigit c)
    (hl : s.length ≤ maxDigits) : read s = .ok (ofDigits (s.filterMap digitValue?) : Int) := by
  have hplus : isDigit '+' = false := by decide
  have hminus : isDigit '-' = false := by decide
  have hlen : (s.filterMap digitValue?).length ≤ maxDigits :=
    Nat.le_trans (List.length_filterMap_le _ _) hl
  have hunsigned : readUnsigned s = .ok (ofDigits (s.filterMap digitValue?)) := by
    rw [readUnsigned,digitRun_of_digits h true fun _ => hs]
    simp only [Nat.not_lt.mpr hlen,if_false,List.all_nil,if_true]
  cases s with
  | nil => exact absurd rfl hs
  | cons c cs =>
    have hc := h c List.mem_cons_self
    have hdrop : (c :: cs).dropWhile isPadding = c :: cs := by
      rw [List.dropWhile_cons_of_neg (by simp [isPadding_of_isDigit hc])]
    unfold read
    rw [hdrop]
    split
    · rename_i he
      obtain ⟨rfl,-⟩ := List.cons.inj he
      simp [hplus] at hc
    · rename_i he
      obtain ⟨rfl,-⟩ := List.cons.inj he
      simp [hminus] at hc
    · rw [hunsigned]
      rfl

theorem ofDigits_le {ds : List Nat} (h : ∀ d ∈ ds, d < 10) (hl : ds.length ≤ 4) :
    ofDigits ds ≤ 9999 := by
  match ds with
  | [] => simp [ofDigits]
  | [a] => simp at h; simp [ofDigits]; omega
  | [a,b] => simp at h; simp [ofDigits]; omega
  | [a,b,c] => simp at h; simp [ofDigits]; omega
  | [a,b,c,d] => simp at h; simp [ofDigits]; omega
  | _ :: _ :: _ :: _ :: _ :: _ => exact absurd hl (by simp only [List.length_cons]; omega)

end Numeral

def IsShortNumeral (s : String) : Prop :=
  s.toList ≠ [] ∧ s.toList.length ≤ 4 ∧ ∀ c ∈ s.toList, isDigit c

def numberOf (s : String) : Nat := Numeral.ofDigits (s.toList.filterMap digitValue?)

theorem numberOf_le {s : String} (h : IsShortNumeral s) : numberOf s ≤ 9999 := by
  apply Numeral.ofDigits_le
  · intro d hd
    obtain ⟨c,-,hc⟩ := List.mem_filterMap.mp hd
    exact digitValue?_lt hc
  · exact Nat.le_trans (List.length_filterMap_le _ _) h.2.1

theorem readNumeral_of_short {s : String} (h : IsShortNumeral s) :
    readNumeral s = .ok (numberOf s : Int) := by
  have hl : s.toList.length ≤ Numeral.maxDigits := Nat.le_trans h.2.1 (by simp [Numeral.maxDigits])
  rw [readNumeral,Numeral.read_of_digits h.1 h.2.2 hl]
  rfl

theorem fitNumber_of_le {k : Nat} (h : k ≤ 9999) : fitNumber (k : Int) = .ok (k : Int) := by
  unfold fitNumber
  rw [if_neg (by omega),if_neg (by omega),if_neg (by omega)]

/-- A month or a day that is left out is the first. -/
def numberOrOne (s : Option String) : Nat := s.elim 1 numberOf

theorem isShortNumeral_one : IsShortNumeral "1" := by
  refine ⟨by decide,by decide,fun c hc => ?_⟩
  have h : c = '1' := by simpa using hc
  subst h
  decide

theorem readNumeral_getD {s : Option String} (h : ∀ t, s = some t → IsShortNumeral t) :
    readNumeral (s.getD "1") = .ok (numberOrOne s : Int) := by
  cases s with
  | none => exact readNumeral_of_short isShortNumeral_one
  | some t => exact readNumeral_of_short (h t rfl)

theorem numberOrOne_le {s : Option String} (h : ∀ t, s = some t → IsShortNumeral t) :
    numberOrOne s ≤ 9999 := by
  cases s with
  | none => decide
  | some t => exact numberOf_le (h t rfl)

def IsDate (year month day : Nat) : Prop := 1 ≤ year ∧ year ≤ 9999 ∧ IsDay year month day

instance (year month day : Nat) : Decidable (IsDate year month day) :=
  inferInstanceAs (Decidable (_ ∧ _ ∧ _))

def DateFault.IsNoDay : DateFault → Prop
  | noYear _ => True
  | noMonth => True
  | noDay => True
  | _ => False

theorem ofNumbers_of_isDate {year month day : Nat} (h : IsDate year month day) :
    Date.ofNumbers year month day = .ok ⟨year,month,day,h.1,h.2.1,h.2.2⟩ := by
  obtain ⟨h₁,h₂,hday⟩ := h
  obtain ⟨hm₁,hm₂⟩ := month_of_isDay hday
  unfold Date.ofNumbers
  rw [dif_pos (by omega),if_pos (by omega),dif_pos (by simpa using hday)]
  rfl

theorem ofNumbers_of_not_isDate {year month day : Nat} (h : ¬ IsDate year month day) :
    ∃ fault, Date.ofNumbers year month day = .error fault ∧ fault.IsNoDay := by
  unfold Date.ofNumbers
  split
  · rename_i hy
    split
    · split
      · rename_i hday
        exact absurd ⟨by omega,by omega,by simpa using hday⟩ h
      · exact ⟨_,rfl,trivial⟩
    · exact ⟨_,rfl,trivial⟩
  · exact ⟨_,rfl,trivial⟩

theorem ofTexts_of_short {year : String} {month day : Option String} (hy : IsShortNumeral year)
    (hm : ∀ t, month = some t → IsShortNumeral t) (hd : ∀ t, day = some t → IsShortNumeral t) :
    Date.ofTexts year month day =
      Date.ofNumbers (numberOf year) (numberOrOne month) (numberOrOne day) := by
  rw [Date.ofTexts,readNumeral_of_short hy,readNumeral_getD hm,readNumeral_getD hd]
  simp only [bind,Except.bind,fitNumber_of_le (numberOf_le hy),fitNumber_of_le (numberOrOne_le hm),
    fitNumber_of_le (numberOrOne_le hd)]

theorem digitValue?_of_isDigit {c : Char} (h : c.isDigit) :
    digitValue? c = some (c.toNat - '0'.toNat) := by
  have hrange : '0'.toNat ≤ c.toNat ∧ c.toNat ≤ '0'.toNat + 9 := Char.isDigit_iff_toNat.mp h
  have hfind : digitZeros.find? (fun z => z ≤ c.toNat && c.toNat ≤ z + 9) = some '0'.toNat :=
    List.find?_cons_of_pos (by simpa using hrange)
  rw [digitValue?,hfind]
  rfl

theorem digitChar_of_isDigit {c : Char} (h : c.isDigit) :
    (c.toNat - '0'.toNat).digitChar = c := by
  obtain ⟨hlow,hhigh⟩ := Char.isDigit_iff_toNat.mp h
  have h0 : '0'.toNat = 48 := rfl
  have h9 : '9'.toNat = 57 := rfl
  rw [← Char.toNat_inj,Nat.toNat_digitChar_of_lt_ten (by omega)]
  omega

theorem padded_one {d : Nat} (hd : d < 10) : padded 1 d = [d.digitChar] := by
  simp [padded,Nat.toDigits_of_lt_base hd,List.leftpad]

theorem padded_append {w n d : Nat} (hw : w ≠ 0) (hd : d < 10) :
    padded (w + 1) (10*n + d) = padded w n ++ [d.digitChar] := by
  by_cases hn : n = 0
  · subst hn
    simp only [padded,Nat.mul_zero,Nat.zero_add,Nat.toDigits_of_lt_base hd,
      Nat.toDigits_of_lt_base (show 0 < 10 by decide),List.leftpad,List.length_singleton]
    rw [Nat.add_sub_cancel,List.append_cancel_right_eq]
    obtain ⟨w,rfl⟩ := Nat.exists_eq_succ_of_ne_zero hw
    exact List.replicate_succ'
  · have happ := Nat.toDigits_append_toDigits (b := 10) (by decide) (Nat.pos_of_ne_zero hn) hd
    rw [Nat.toDigits_of_lt_base hd] at happ
    simp [padded,← happ,List.leftpad]

theorem ofDigits_append_singleton (ds : List Nat) (d : Nat) :
    Numeral.ofDigits (ds ++ [d]) = 10*Numeral.ofDigits ds + d := by
  simp [Numeral.ofDigits]

/-- The number of a row of ASCII digits, padded to the length of the row, gives the row back. -/
theorem padded_ofDigits {s : List Char} (hs : s ≠ []) (h : ∀ c ∈ s, c.isDigit) :
    padded s.length (Numeral.ofDigits (s.filterMap digitValue?)) = s := by
  -- The last digit is split off, as in reading a number from the left.
  induction s using List.reverseRecOn with
  | nil => exact absurd rfl hs
  | append_singleton s c ih =>
    have hc : c.isDigit := h c (by simp)
    have hd : c.toNat - '0'.toNat < 10 := digitValue?_lt (digitValue?_of_isDigit hc)
    have hlast : [c].filterMap digitValue? = [c.toNat - '0'.toNat] := by
      rw [List.filterMap_cons_some (digitValue?_of_isDigit hc),List.filterMap_nil]
    rw [List.filterMap_append,hlast,ofDigits_append_singleton,List.length_append,
      List.length_singleton]
    by_cases he : s = []
    · subst he
      rw [List.filterMap_nil,Numeral.ofDigits,List.foldl_nil,Nat.mul_zero,Nat.zero_add,
        List.length_nil,Nat.zero_add,padded_one hd,digitChar_of_isDigit hc,List.nil_append]
    · have hlength : s.length ≠ 0 := by simpa using he
      rw [padded_append hlength hd,ih he fun a ha => h a (by simp [ha]),digitChar_of_isDigit hc]

theorem padded_numberOf {s : List Char} {w : Nat} (hw : w ≠ 0) (hl : s.length = w)
    (h : ∀ c ∈ s, c.isDigit) : padded w (numberOf (String.ofList s)) = s := by
  have hs : s ≠ [] := by
    rintro rfl
    exact hw hl.symm
  rw [numberOf,String.toList_ofList,← hl,padded_ofDigits hs h]

end BlogPaths.Calendar
