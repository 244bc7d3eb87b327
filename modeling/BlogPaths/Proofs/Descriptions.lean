import BlogPaths.Source.Description
import BlogPaths.Source.Pattern

/-! What segments describe, piece by piece: which lengths the texts of a field have, how many slashes
a described text has, and that the lengths of the fields tell all the rest. -/
namespace BlogPaths

open Unicode

namespace SourceField

def width? : SourceField → Option Nat
  | lang => none
  | year => some 4
  | month => some 2
  | day => some 2
  | title => none

theorem length_of_width? {f : SourceField} {a : List Char} {k : Nat} (hw : f.width? = some k)
    (h : f.Admits a) : a.length = k := by
  cases f <;> simp_all [width?,Admits]

theorem slash_notMem_of_admits {f : SourceField} {a : List Char} (h : f.Admits a) : '/' ∉ a := by
  have hword : isWord '/' = false := by decide
  have hdigit : isDigit '/' = false := by decide
  intro hm
  cases f with
  | lang =>
    rcases h with h | ⟨b,d,hb,hd,rfl⟩
    · simpa [hword] using h.2 _ hm
    · have hmem : '/' ∈ b ∨ '/' ∈ d := by simpa using hm
      rcases hmem with h | h
      · simpa [hword] using hb.2 _ h
      · simpa [hword] using hd.2 _ h
  | year => simpa [hdigit] using h.2 _ hm
  | month => simpa [hdigit] using h.2 _ hm
  | day => simpa [hdigit] using h.2 _ hm
  | title => exact h.2 hm

theorem admits_lang {a : List Char} (h : lang.Admits a) :
    (a.length = 2 ∧ ∀ c ∈ a, isWord c) ∨ (a.length = 5 ∧ a[2]? = some '-') := by
  rcases h with h | ⟨b,d,hb,hd,rfl⟩
  · exact .inl h
  · refine .inr ⟨by simp [hb.1,hd.1],?_⟩
    rw [List.getElem?_append_right (by simp [hb.1])]
    simp [hb.1]

end SourceField

namespace Segment

/-- A segment covers a text, in which its fields stand for the given texts. -/
def Covers : Segment SourceField → List (List Char) → List Char → Prop
  | literal t, as, b => as = [] ∧ b = t
  | field f, as, b => as = [b] ∧ f.Admits b

def width? : Segment SourceField → Option Nat
  | literal t => some t.length
  | field f => f.width?

theorem Covers.length {seg : Segment SourceField} {as : List (List Char)} {b : List Char} {k : Nat}
    (h : seg.Covers as b) (hw : seg.width? = some k) : b.length = k := by
  cases seg with
  | literal t =>
    obtain ⟨-,rfl⟩ := h
    simpa [width?] using hw
  | field f => exact SourceField.length_of_width? hw h.2

theorem Covers.count_slash {seg : Segment SourceField} {as bs : List (List Char)} {a b : List Char}
    (ha : seg.Covers as a) (hb : seg.Covers bs b) : a.count '/' = b.count '/' := by
  cases seg with
  | literal t => rw [ha.2,hb.2]
  | field f =>
    rw [List.count_eq_zero_of_not_mem (SourceField.slash_notMem_of_admits ha.2),
      List.count_eq_zero_of_not_mem (SourceField.slash_notMem_of_admits hb.2)]

end Segment

theorem describes_nil_iff {as : List (List Char)} {s : List Char} :
    Describes [] as s ↔ as = [] ∧ s = [] := by
  constructor
  · rintro ⟨⟩; exact ⟨rfl,rfl⟩
  · rintro ⟨rfl,rfl⟩; exact .nil

theorem describes_cons_iff {seg : Segment SourceField} {segs : List (Segment SourceField)}
    {as : List (List Char)} {s : List Char} :
    Describes (seg :: segs) as s ↔ ∃ bs b cs r, as = bs ++ cs ∧ s = b ++ r ∧ seg.Covers bs b ∧
      Describes segs cs r := by
  constructor
  · intro h
    cases h with
    | @literal t r _ _ h => exact ⟨[],t,as,r,rfl,rfl,⟨rfl,rfl⟩,h⟩
    | @field f a r _ cs ha h => exact ⟨[a],a,cs,r,rfl,rfl,⟨rfl,ha⟩,h⟩
  · rintro ⟨bs,b,cs,r,rfl,rfl,hc,h⟩
    cases seg with
    | literal t =>
      obtain ⟨rfl,rfl⟩ := hc
      exact .literal h
    | field f =>
      obtain ⟨rfl,ha⟩ := hc
      exact .field ha h

theorem describes_append_iff {segs segs' : List (Segment SourceField)} {as : List (List Char)}
    {s : List Char} :
    Describes (segs ++ segs') as s ↔ ∃ bs b cs r, as = bs ++ cs ∧ s = b ++ r ∧
      Describes segs bs b ∧ Describes segs' cs r := by
  induction segs generalizing as s with
  | nil =>
    constructor
    · intro h
      exact ⟨[],[],as,s,rfl,rfl,.nil,h⟩
    · rintro ⟨bs,b,cs,r,rfl,rfl,h,h'⟩
      obtain ⟨rfl,rfl⟩ := describes_nil_iff.mp h
      exact h'
  | cons seg segs ih =>
    rw [List.cons_append,describes_cons_iff]
    constructor
    · rintro ⟨bs,b,cs,r,rfl,rfl,hc,h⟩
      obtain ⟨bs',b',cs',r',rfl,rfl,h₁,h₂⟩ := ih.mp h
      exact ⟨bs ++ bs',b ++ b',cs',r',by simp,by simp,
        describes_cons_iff.mpr ⟨bs,b,bs',b',rfl,rfl,hc,h₁⟩,h₂⟩
    · rintro ⟨bs,b,cs,r,rfl,rfl,h₁,h₂⟩
      obtain ⟨bs',b',cs',r',rfl,rfl,hc,h⟩ := describes_cons_iff.mp h₁
      exact ⟨bs',b',cs' ++ cs,r' ++ r,by simp,by simp,hc,ih.mpr ⟨cs',r',cs,r,rfl,rfl,h,h₂⟩⟩

theorem describes_literal_iff {t s : List Char} {as : List (List Char)} :
    Describes [.literal t] as s ↔ as = [] ∧ s = t := by
  constructor
  · intro h
    cases h with
    | literal h =>
      obtain ⟨rfl,rfl⟩ := describes_nil_iff.mp h
      simp
  · rintro ⟨rfl,rfl⟩
    simpa using Describes.literal (t := s) .nil

theorem count_slash_of_describes {segs : List (Segment SourceField)} {as bs : List (List Char)}
    {s t : List Char} (hs : Describes segs as s) (ht : Describes segs bs t) :
    s.count '/' = t.count '/' := by
  induction segs generalizing as s bs t with
  | nil => rw [(describes_nil_iff.mp hs).2,(describes_nil_iff.mp ht).2]
  | cons seg segs ih =>
    obtain ⟨_,_,_,_,-,rfl,hc,hs⟩ := describes_cons_iff.mp hs
    obtain ⟨_,_,_,_,-,rfl,hc',ht⟩ := describes_cons_iff.mp ht
    rw [List.count_append,List.count_append,hc.count_slash hc',ih hs ht]

theorem length_of_describes {segs : List (Segment SourceField)} {as : List (List Char)}
    {s : List Char} (h : Describes segs as s) : as.length = (Segment.fields segs).length := by
  induction h with
  | nil => rfl
  | literal _ ih => simpa using ih
  | field _ _ ih => simpa using ih

/-- The lengths of the fields tell where a text ends that segments describe. -/
theorem length_eq_of_describes {segs : List (Segment SourceField)} {as bs : List (List Char)}
    {s t : List Char} (hs : Describes segs as s) (ht : Describes segs bs t)
    (h : as.map List.length = bs.map List.length) : s.length = t.length := by
  induction hs generalizing bs t with
  | nil => rw [(describes_nil_iff.mp ht).2]
  | literal _ ih =>
    cases ht with
    | literal ht => simp [ih ht h]
  | field _ _ ih =>
    cases ht with
    | field _ ht =>
      simp only [List.map_cons,List.cons.injEq] at h
      simp [h.1,ih ht h.2]

/-- At the start of one text, the lengths of the fields tell their texts. -/
theorem eq_of_describes {segs : List (Segment SourceField)} {as bs : List (List Char)}
    {s t u v : List Char} (hs : Describes segs as s) (ht : Describes segs bs t)
    (h : as.map List.length = bs.map List.length) (he : s ++ u = t ++ v) : as = bs := by
  induction hs generalizing bs t with
  | nil => rw [(describes_nil_iff.mp ht).1]
  | literal _ ih =>
    cases ht with
    | literal ht => exact ih ht h (by simpa using he)
  | field _ _ ih =>
    cases ht with
    | field _ ht =>
      simp only [List.map_cons,List.cons.injEq] at h
      rw [List.append_assoc,List.append_assoc] at he
      obtain ⟨rfl,hr⟩ := List.append_inj he h.1
      rw [ih ht h.2 hr]

end BlogPaths
