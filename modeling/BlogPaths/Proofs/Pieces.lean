import BlogPaths.Text.Basic
import Mathlib.Data.List.DropRight

/-! The pieces of a text between separators, and the blanks around a piece.  What trimming leaves of
a text is the part that has nothing but blanks on both sides, and none of them at its ends. -/
namespace BlogPaths.Text

open Unicode

variable {s t u : List Char}

theorem cut_eq_splitOn (sep : Char) (s : List Char) : cut sep s = s.splitOn sep := by
  induction s with
  | nil => rfl
  | cons c s ih =>
    rw [List.splitOn_cons_eq_if_modifyHead,← ih]
    by_cases hc : c = sep
    · simp [cut,hc]
    · cases hs : cut sep s with
      | nil => exact absurd hs (cut_ne_nil sep s)
      | cons p ps => simp [cut,hc,hs]

theorem notMem_of_mem_cut {sep : Char} {p : List Char} (hp : p ∈ cut sep s) : sep ∉ p := by
  induction s generalizing p with
  | nil =>
    obtain rfl : p = [] := by simpa [cut] using hp
    exact List.not_mem_nil
  | cons c s ih =>
    by_cases hc : c = sep
    · rw [cut,if_pos hc] at hp
      rcases List.mem_cons.mp hp with rfl | hp
      · exact List.not_mem_nil
      · exact ih hp
    · cases hs : cut sep s with
      | nil => exact absurd hs (cut_ne_nil sep s)
      | cons q qs =>
        simp only [cut,if_neg hc,hs,List.mem_cons] at hp
        simp only [hs,List.mem_cons] at ih
        rcases hp with rfl | hp
        · simpa [Ne.symm hc] using ih (.inl rfl)
        · exact ih (.inr hp)

/-- A text without the separator is one piece, and each separator ends one. -/
theorem cut_intercalate {sep : Char} {ps : List (List Char)} (hps : ∀ p ∈ ps, sep ∉ p)
    (hne : ps ≠ []) : cut sep ([sep].intercalate ps) = ps := by
  rw [cut_eq_splitOn,List.splitOn_intercalate sep hps hne]

/-- Neither the first nor the last character is a blank. -/
structure IsTrimmed (t : List Char) : Prop where
  first : ∀ c ∈ t.head?, isBlank c = false
  last : ∀ c ∈ t.getLast?, isBlank c = false

/-- The text `u` is `t` with blanks on both sides, and `t` has none at its ends. -/
structure IsTrimOf (t u : List Char) : Prop where
  isTrimmed : IsTrimmed t
  around : ∃ l r, isBlankText l = true ∧ isBlankText r = true ∧ u = l ++ t ++ r

theorem trimStart_eq_self (h : ∀ c ∈ t.head?, isBlank c = false) : trimStart t = t := by
  cases t with
  | nil => rfl
  | cons c t => exact List.dropWhile_cons_of_neg (by simpa using h)

theorem trimEnd_eq_self (h : ∀ c ∈ t.getLast?, isBlank c = false) : trimEnd t = t := by
  have hself := trimStart_eq_self (t := t.reverse) (by simpa using h)
  rw [trimStart] at hself
  rw [trimEnd,hself,List.reverse_reverse]

theorem trimStart_append {l : List Char} (hl : isBlankText l = true) (s : List Char) :
    trimStart (l ++ s) = trimStart s :=
  List.dropWhile_append_of_pos (List.all_eq_true.mp hl)

theorem trimEnd_append {r : List Char} (hr : isBlankText r = true) (s : List Char) :
    trimEnd (s ++ r) = trimEnd s := by
  have hrev : ∀ c ∈ r.reverse, isBlank c = true := fun c hc =>
    List.all_eq_true.mp hr c (List.mem_reverse.mp hc)
  rw [trimEnd,List.reverse_append,List.dropWhile_append_of_pos hrev,trimEnd]

theorem isTrimOf_trim (u : List Char) : IsTrimOf (trim u) u := by
  have hstart : isBlankText (u.takeWhile isBlank) = true := List.all_takeWhile
  have hstop : isBlankText ((trimStart u).rtakeWhile isBlank) = true :=
    List.all_eq_true.mpr fun c hc => List.mem_rtakeWhile_imp hc
  have hsplit : trim u ++ (trimStart u).rtakeWhile isBlank = trimStart u :=
    List.rdropWhile_append_rtakeWhile
  refine ⟨⟨fun c hc => ?_,fun c hc => ?_⟩,_,_,hstart,hstop,?_⟩
  · -- The first character that is left is the one that `trimStart` has stopped at.
    have hfirst : (trimStart u).head? = some c := by
      rw [← hsplit,List.head?_append,hc,Option.some_or]
    have hnot := List.head?_dropWhile_not isBlank u
    rwa [← trimStart,hfirst] at hnot
  · obtain ⟨hne,rfl⟩ := List.mem_getLast?_eq_getLast hc
    exact Bool.eq_false_iff.mpr (List.rdropWhile_last_not isBlank (trimStart u) hne)
  · rw [List.append_assoc,hsplit,trimStart,List.takeWhile_append_dropWhile]

/-- Trimming finds what stands between the blanks. -/
theorem trim_eq_iff : trim u = t ↔ IsTrimOf t u := by
  constructor
  · rintro rfl
    exact isTrimOf_trim u
  · rintro ⟨htrimmed,l,r,hl,hr,rfl⟩
    rw [List.append_assoc,trim,trimStart_append hl]
    cases t with
    | nil =>
      have hnil : trimStart r = [] := List.dropWhile_eq_nil_iff.mpr (List.all_eq_true.mp hr)
      rw [List.nil_append,hnil]
      rfl
    | cons c t =>
      rw [trimStart_eq_self (by simpa using htrimmed.first),trimEnd_append hr,
        trimEnd_eq_self htrimmed.last]

theorem IsTrimOf.mem_iff (h : IsTrimOf t u) {c : Char} (hc : isBlank c = false) :
    c ∈ u ↔ c ∈ t := by
  obtain ⟨-,l,r,hl,hr,rfl⟩ := h
  have hnot : ∀ s, isBlankText s = true → c ∉ s := fun s hs hmem => by
    simp [List.all_eq_true.mp hs c hmem] at hc
  simp [hnot l hl,hnot r hr]

end BlogPaths.Text
