import BlogPaths.Source.Pattern

/-! Which texts a list of segments describes in full: every literal as it is, and every field by a
text that it stands for. -/
namespace BlogPaths

/-- The segments describe a text, in which the fields stand for the given texts in order. -/
inductive Describes : List (Segment SourceField) → List (List Char) → List Char → Prop
  | nil : Describes [] [] []
  | literal {t s : List Char} {segs as} (h : Describes segs as s) :
      Describes (.literal t :: segs) as (t ++ s)
  | field {f : SourceField} {a s : List Char} {segs as} (ha : f.Admits a)
      (h : Describes segs as s) :
      Describes (.field f :: segs) (a :: as) (a ++ s)

namespace SourceField

theorem mem_exactly {p : Char → Bool} {k n : Nat} {s : List Char} :
    n ∈ exactly p k s ↔ n = k ∧ n ≤ s.length ∧ ∀ c ∈ s.take n, p c := by
  unfold exactly
  split
  · rename_i h
    simp only [List.mem_singleton]
    exact ⟨fun hn => ⟨hn,hn ▸ h.1,by simpa [hn] using h.2⟩,And.left⟩
  · rename_i h
    simp only [List.not_mem_nil,false_iff]
    rintro ⟨rfl,hl,hp⟩
    exact h ⟨hl,by simpa using hp⟩

theorem mem_downFrom {m n : Nat} : m ∈ downFrom n ↔ 1 ≤ m ∧ m ≤ n := by
  induction n with
  | zero => simp [downFrom]; omega
  | succ n ih => simp [downFrom,ih]; omega

theorem slash_notMem_take_iff {s : List Char} {n : Nat} (h : n ≤ s.length) :
    '/' ∉ s.take n ↔ n ≤ (s.takeWhile (· ≠ '/')).length := by
  induction s generalizing n with
  | nil => simp at h; simp [h]
  | cons c cs ih =>
    cases n with
    | zero => simp
    | succ n =>
      have hn : n ≤ cs.length := by simpa using h
      by_cases hc : c = '/'
      · simp [hc]
      · simp [hc,Ne.symm hc,ih hn]

theorem startsWithCode_iff {s : List Char} :
    startsWithCode s = true ↔ 2 ≤ s.length ∧ IsCode (s.take 2) := by
  simp only [startsWithCode,IsCode,Bool.and_eq_true,decide_eq_true_eq,List.all_eq_true,
    List.length_take]
  exact ⟨fun h => ⟨h.1,by omega,h.2⟩,fun h => ⟨h.1,h.2.2⟩⟩

theorem take_eq_code_iff {s : List Char} {n : Nat} (hn : n ≤ s.length) :
    (∃ a b, IsCode a ∧ IsCode b ∧ s.take n = a ++ '-' :: b) ↔
      n = 5 ∧ startsWithCode s = true ∧ (s.drop 2).head? = some '-' ∧
        startsWithCode (s.drop 3) = true := by
  simp only [startsWithCode_iff]
  constructor
  · rintro ⟨a,b,ha,hb,he⟩
    have h5 : n = 5 := by
      have := congrArg List.length he
      simp [ha.1,hb.1] at this
      omega
    subst h5
    have hs : s = a ++ '-' :: (b ++ s.drop 5) := by
      rw [← List.cons_append,← List.append_assoc,← he,List.take_append_drop]
    have h2 : s.take 2 = a := (congrArg (List.take 2) hs).trans (by rw [← ha.1,List.take_left])
    have h3 : s.drop 2 = '-' :: (b ++ s.drop 5) :=
      (congrArg (List.drop 2) hs).trans (by rw [← ha.1,List.drop_left])
    have h4 : s.drop 3 = b ++ s.drop 5 := by
      rw [show (3 : Nat) = 2 + 1 from rfl,← List.drop_drop,h3]; rfl
    refine ⟨rfl,⟨by omega,h2 ▸ ha⟩,by simp [h3],by simp; omega,?_⟩
    rw [h4,← hb.1,List.take_left]
    exact hb
  · rintro ⟨rfl,⟨_,ha⟩,hd,_,hb⟩
    refine ⟨_,_,ha,hb,?_⟩
    obtain ⟨r,hr⟩ : ∃ r, s.drop 2 = '-' :: r := by
      cases h : s.drop 2 with
      | nil => simp [h] at hd
      | cons c r => simp [h] at hd; exact ⟨r,by rw [hd]⟩
    have h3 : s.drop 3 = r := by
      rw [show (3 : Nat) = 2 + 1 from rfl,← List.drop_drop,hr]; rfl
    rw [h3,show (5 : Nat) = 2 + 3 from rfl,List.take_add,hr]
    rfl

theorem mem_langLengths {s : List Char} {n : Nat} :
    n ∈ langLengths s ↔ n ≤ s.length ∧ lang.Admits (s.take n) := by
  have hcode : n ≤ s.length → (IsCode (s.take n) ↔ n = 2 ∧ startsWithCode s = true) := by
    intro hn
    rw [startsWithCode_iff]
    constructor
    · intro h
      have h2 : n = 2 := by have := h.1; simp at this; omega
      exact ⟨h2,h2 ▸ hn,h2 ▸ h⟩
    · rintro ⟨rfl,_,h⟩
      exact h
  have hlen : startsWithCode s = true → 2 ≤ s.length := fun h => (startsWithCode_iff.mp h).1
  have hlen' : startsWithCode (s.drop 3) = true → 5 ≤ s.length := fun h => by
    have := (startsWithCode_iff.mp h).1
    simp at this
    omega
  constructor
  · intro h
    unfold langLengths at h
    split at h
    · rename_i hs
      split at h
      · rename_i hr
        rcases List.mem_cons.mp h with rfl | h
        · exact ⟨hlen' hr.2,.inr ((take_eq_code_iff (hlen' hr.2)).mpr ⟨rfl,hs,hr⟩)⟩
        · have h2 := List.mem_singleton.mp h
          exact ⟨h2 ▸ hlen hs,.inl ((hcode (h2 ▸ hlen hs)).mpr ⟨h2,hs⟩)⟩
      · have h2 := List.mem_singleton.mp h
        exact ⟨h2 ▸ hlen hs,.inl ((hcode (h2 ▸ hlen hs)).mpr ⟨h2,hs⟩)⟩
    · simp at h
  · rintro ⟨hn,h | h⟩
    · obtain ⟨rfl,hs⟩ := (hcode hn).mp h
      unfold langLengths
      rw [if_pos hs]
      split <;> simp
    · obtain ⟨rfl,hs,hr⟩ := (take_eq_code_iff hn).mp h
      unfold langLengths
      rw [if_pos hs,if_pos hr]
      simp

/-- The lengths of a field are those of all its texts at the start of a text. -/
theorem mem_lengths {f : SourceField} {s : List Char} {n : Nat} :
    n ∈ f.lengths s ↔ n ≤ s.length ∧ f.Admits (s.take n) := by
  have hdigits : ∀ k, n ∈ exactly Unicode.isDigit k s ↔
      n ≤ s.length ∧ ((s.take n).length = k ∧ ∀ c ∈ s.take n, Unicode.isDigit c) := by
    intro k
    rw [mem_exactly]
    constructor
    · rintro ⟨rfl,hl,hp⟩
      exact ⟨hl,by simp [hl],hp⟩
    · rintro ⟨hl,hk,hp⟩
      exact ⟨by rw [← hk]; simp [hl],hl,hp⟩
  cases f
  · exact mem_langLengths
  · exact hdigits 4
  · exact hdigits 2
  · exact hdigits 2
  · have hw : (s.takeWhile (· ≠ '/')).length ≤ s.length := (List.takeWhile_sublist _).length_le
    simp only [lengths,mem_downFrom,Admits]
    constructor
    · rintro ⟨h₁,h₂⟩
      have hl := Nat.le_trans h₂ hw
      refine ⟨hl,fun h => ?_,(slash_notMem_take_iff hl).mpr h₂⟩
      have := congrArg List.length h
      rw [List.length_take,List.length_nil] at this
      omega
    · rintro ⟨hl,hne,hs⟩
      refine ⟨?_,(slash_notMem_take_iff hl).mp hs⟩
      cases n with
      | zero => simp at hne
      | succ n => omega

theorem admits_of_mem_lengths {f : SourceField} {s : List Char} {n : Nat} (h : n ∈ f.lengths s) :
    f.Admits (s.take n) := (mem_lengths.mp h).2

theorem length_mem_lengths {f : SourceField} {a : List Char} (s : List Char) (h : f.Admits a) :
    a.length ∈ f.lengths (a ++ s) := mem_lengths.mpr ⟨by simp,by simpa using h⟩

end SourceField

/-- Where segments describe a beginning of a text and `last` finds the rest, there is a match. -/
theorem matchThen_isSome {last : List Char → Option GroupsAndRest}
    {segs : List (Segment SourceField)} {t u : List Char} {bs : List (List Char)}
    (hd : Describes segs bs t) (hl : (last u).isSome) : (matchThen last segs (t ++ u)).isSome := by
  induction hd with
  | nil => exact hl
  | literal _ ih =>
    rw [List.append_assoc,matchThen,if_pos (List.prefix_append _ _),List.drop_left]
    exact ih
  | @field f a s segs as ha _ ih =>
    rw [List.append_assoc,matchThen,List.findSome?_isSome_iff]
    exact ⟨a.length,SourceField.length_mem_lengths _ ha,by simpa using ih⟩

end BlogPaths
