import BlogPaths.Text.Percent

/-! Where an output path may be cut.  In front of a character that is ASCII and in no escape nothing
stays under way, so that what stands before it and what starts with it are decoded apart. -/
namespace BlogPaths

namespace Text

namespace Utf8

/-- What is under way waits for no ASCII byte. -/
def IsAboveAscii (p : Option Partial) : Prop := ∀ q, p = some q → 0x80 ≤ q.low

theorem isAboveAscii_none : IsAboveAscii none := by
  simp [IsAboveAscii]

theorem low_of_opening {b : Nat} {q : Partial} (h : opening b = .under q) : 0x80 ≤ q.low := by
  unfold opening at h
  repeat' split at h
  all_goals simp only [Opening.under.injEq,reduceCtorEq] at h
  all_goals simp [← h]

theorem isAboveAscii_feed {p : Option Partial} (hp : IsAboveAscii p) (b : Nat) :
    IsAboveAscii (feed p b).2 := by
  intro q hq
  cases p with
  | none =>
    cases ho : opening b with
    | char c => simp [feed,ho] at hq
    | under q' =>
      obtain rfl : q' = q := by simpa [feed,ho] using hq
      exact low_of_opening ho
    | invalid => simp [feed,ho] at hq
  | some p =>
    by_cases hb : p.low ≤ b ∧ b ≤ p.high
    · by_cases hm : p.missing ≤ 1
      · simp [feed,hb,hm] at hq
      · simp only [feed,hb,and_self,if_true,hm,if_false,Option.some.injEq] at hq
        exact hq ▸ Nat.le_refl _
    · cases ho : opening b with
      | char c => simp [feed,hb,ho] at hq
      | under q' =>
        obtain rfl : q' = q := by simpa [feed,hb,ho] using hq
        exact low_of_opening ho
      | invalid => simp [feed,hb,ho] at hq

/-- An ASCII byte ends what is under way, and is a character. -/
theorem feed_ascii {p : Option Partial} (hp : IsAboveAscii p) {b : Nat} (hb : b < 0x80) :
    feed p b = (flush p ++ [Char.ofNat b],none) := by
  cases p with
  | none => rw [feed_none_ascii hb,flush,List.nil_append]
  | some q =>
    have hlow := hp q rfl
    have hout : ¬ (q.low ≤ b ∧ b ≤ q.high) := by omega
    simp [feed,hout,opening,hb,flush]

end Utf8

namespace Percent

open Utf8

/-- A character that is in no escape and in no longer character. -/
structure IsBreak (c : Char) : Prop where
  isAscii : c.toNat < 0x80
  ne_percent : c ≠ '%'
  not_hex : hexValue? c = none

theorem isBreak_slash : IsBreak '/' := ⟨by decide,by decide,by decide⟩

theorem isBreak_dot : IsBreak '.' := ⟨by decide,by decide,by decide⟩

theorem atoms_cons {c : Char} {r : List Char}
    (h : ∀ a b r', c :: r = '%' :: a :: b :: r' → hexByte? a b = none) :
    atoms (c :: r) = .ofChar c :: atoms r := by
  rw [atoms.eq_def]
  split
  · cases ‹_ = []›
  · rename_i a b r' he
    obtain ⟨rfl,rfl⟩ := List.cons.inj he
    rw [h a b r' rfl]
  · rename_i he
    obtain ⟨rfl,rfl⟩ := List.cons.inj he
    rfl

variable {c : Char} {s t : List Char}

theorem atoms_break (hc : IsBreak c) : atoms (c :: t) = .byte c.toNat :: atoms t := by
  rw [atoms_cons fun a b r he => absurd (List.cons.inj he).1 hc.ne_percent,Atom.ofChar,
    if_pos hc.isAscii]

theorem atoms_append (hc : IsBreak c) : atoms (s ++ c :: t) = atoms s ++ atoms (c :: t) := by
  fun_induction atoms s with
  | case1 => rfl
  | case2 a b r n hn ih => simp [atoms,hn,ih]
  | case3 a b r hn ih =>
    have ha : atoms ('%' :: a :: (b :: r ++ c :: t)) =
        .ofChar '%' :: atoms (a :: b :: r ++ c :: t) := by
      simp [atoms,hn]
    rw [List.cons_append,List.cons_append,ha,ih,List.cons_append]
  | case4 d r hd ih =>
    rw [List.cons_append,List.cons_append,← ih]
    refine atoms_cons fun a b r' he => ?_
    obtain ⟨rfl,hr⟩ := List.cons.inj he
    -- Of the two digits the break is one.
    match r with
    | [] =>
      obtain ⟨rfl,_⟩ := List.cons.inj hr
      simp [hexByte?,hc.not_hex]
    | [x] =>
      obtain ⟨-,hr⟩ := List.cons.inj hr
      obtain ⟨rfl,_⟩ := List.cons.inj hr
      cases hx : hexValue? a <;> simp [hexByte?,hc.not_hex,hx]
    | x :: y :: r => exact (hd x y r rfl rfl).elim

theorem decodeAtoms_append {p : Option Partial} (hp : IsAboveAscii p) {b : Nat} (hb : b < 0x80)
    (us vs : List Atom) :
    decodeAtoms p (us ++ .byte b :: vs) = decodeAtoms p us ++ decodeAtoms none (.byte b :: vs) := by
  induction us generalizing p with
  | nil => simp [decodeAtoms,feed_ascii hp hb,hb]
  | cons u us ih =>
    cases u with
    | byte x => simp [decodeAtoms,ih (isAboveAscii_feed hp x)]
    | char d => simp [decodeAtoms,ih isAboveAscii_none]

/-- Decoding does not reach across a break. -/
theorem decode_append (hc : IsBreak c) : decode (s ++ c :: t) = decode s ++ decode (c :: t) := by
  rw [decode,atoms_append hc,atoms_break hc,decodeAtoms_append isAboveAscii_none hc.isAscii,decode,
    decode,atoms_break hc]

end Percent

theorem dropLeadingSlash_eq_self {s : List Char} (h : s.head? ≠ some '/') :
    dropLeadingSlash s = s := by
  unfold dropLeadingSlash
  split
  · exact absurd rfl h
  · rfl

theorem dropLeadingSlash_append {s : List Char} (hs : s ≠ []) (t : List Char) :
    dropLeadingSlash (s ++ t) = dropLeadingSlash s ++ t := by
  cases s with
  | nil => exact absurd rfl hs
  | cons c s =>
    by_cases hc : c = '/'
    · rw [hc]; rfl
    · simp [dropLeadingSlash,hc]

end Text

open Text

/-- The output path of a text that goes on behind a break is the output path of what stands before
it, and the decoded rest. -/
theorem outputPath_append {c : Char} {s : List Char} (hc : Percent.IsBreak c) (hs : s ≠ [])
    (t : List Char) :
    outputPath (String.ofList (s ++ c :: t)) =
      outputPath (String.ofList s) ++ String.ofList (Percent.decode (c :: t)) := by
  simp only [outputPath,String.toList_ofList]
  rw [dropLeadingSlash_append hs,Percent.decode_append hc,String.ofList_append]

end BlogPaths
