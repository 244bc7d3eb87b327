import BlogPaths.Proofs.Joins

/-! Output paths that stay as they are.  Neither step of the normalization makes a path longer, so a
path is kept exactly when neither finds anything to do: no slash at the start and no escape.  One
slash at a time is dropped, so a second one is left for a second run. -/
namespace BlogPaths

namespace Text

namespace Utf8

theorem length_feed_le (p : Option Partial) (b : Nat) :
    (feed p b).1.length + (flush (feed p b).2).length ≤ (flush p).length + 1 := by
  cases p with
  | none => cases ho : opening b <;> simp [feed,ho,flush]
  | some p =>
    by_cases hin : p.low ≤ b ∧ b ≤ p.high
    · by_cases hm : p.missing ≤ 1 <;> simp [feed,hin,hm,flush]
    · cases ho : opening b <;> simp [feed,hin,ho,flush]

end Utf8

namespace Percent

open Utf8

/-- Somewhere in the text a percent sign stands in front of two hexadecimal digits. -/
def HasEscape (s : List Char) : Prop := ∃ a b, (hexByte? a b).isSome ∧ ['%',a,b] <:+: s

theorem not_hasEscape_nil : ¬ HasEscape [] := by
  rintro ⟨a,b,-,h⟩
  simpa using h.length_le

theorem HasEscape.tail_or {c : Char} {r : List Char} (h : HasEscape (c :: r)) :
    (∃ a b r', (hexByte? a b).isSome ∧ c :: r = '%' :: a :: b :: r') ∨ HasEscape r := by
  obtain ⟨a,b,hab,hin⟩ := h
  obtain ⟨r',hr⟩ | htail := List.infix_cons_iff.mp hin
  · exact .inl ⟨a,b,r',hab,hr.symm⟩
  · exact .inr ⟨a,b,hab,htail⟩

theorem HasEscape.cons {r : List Char} (h : HasEscape r) (c : Char) : HasEscape (c :: r) := by
  obtain ⟨a,b,hab,hin⟩ := h
  exact ⟨a,b,hab,List.infix_cons hin⟩

theorem HasEscape.mem {s : List Char} (h : HasEscape s) : '%' ∈ s := by
  obtain ⟨a,b,-,hin⟩ := h
  exact hin.mem List.mem_cons_self

theorem atoms_of_not_hasEscape {s : List Char} (h : ¬ HasEscape s) : atoms s = s.map .ofChar := by
  fun_induction atoms s with
  | case1 => rfl
  | case2 a b r n hn ih => exact absurd ⟨a,b,by simp [hn],[],r,rfl⟩ h
  | case3 a b r hn ih =>
    rw [ih fun htail => h (htail.cons _)]
    rfl
  | case4 c r hc ih => rw [ih fun htail => h (htail.cons _),List.map_cons]

theorem length_atoms_le (s : List Char) : (atoms s).length ≤ s.length := by
  fun_induction atoms s with
  | case1 => exact Nat.le_refl _
  | case2 a b r n hn ih => simp only [List.length_cons]; omega
  | case3 a b r hn ih => simp only [List.length_cons] at ih ⊢; omega
  | case4 c r hc ih => simp only [List.length_cons]; omega

theorem length_atoms_lt {s : List Char} (h : HasEscape s) : (atoms s).length < s.length := by
  fun_induction atoms s with
  | case1 => exact absurd h not_hasEscape_nil
  | case2 a b r n hn ih =>
    have hle := length_atoms_le r
    simp only [List.length_cons]
    omega
  | case3 a b r hn ih =>
    obtain ⟨a',b',r',hab,heq⟩ | htail := h.tail_or
    · simp only [List.cons.injEq] at heq
      obtain ⟨-,rfl,rfl,-⟩ := heq
      simp [hn] at hab
    · have hlt := ih htail
      simp only [List.length_cons] at hlt ⊢
      omega
  | case4 c r hc ih =>
    obtain ⟨a,b,r',hab,heq⟩ | htail := h.tail_or
    · obtain ⟨rfl,rfl⟩ := List.cons.inj heq
      exact (hc a b r' rfl rfl).elim
    · have hlt := ih htail
      simp only [List.length_cons]
      omega

theorem length_decodeAtoms_le (p : Option Partial) (us : List Atom) :
    (decodeAtoms p us).length ≤ (flush p).length + us.length := by
  induction us generalizing p with
  | nil => simp [decodeAtoms]
  | cons u us ih =>
    cases u with
    | byte b =>
      have hfeed := length_feed_le p b
      have hrest := ih (feed p b).2
      simp only [decodeAtoms,List.length_append,List.length_cons]
      omega
    | char c =>
      have hrest := ih none
      simp only [decodeAtoms,flush,List.length_append,List.length_cons,List.length_nil] at hrest ⊢
      omega

theorem length_decode_le_atoms (s : List Char) : (decode s).length ≤ (atoms s).length := by
  have hle := length_decodeAtoms_le none (atoms s)
  rwa [flush,List.length_nil,Nat.zero_add] at hle

theorem length_decode_le (s : List Char) : (decode s).length ≤ s.length :=
  Nat.le_trans (length_decode_le_atoms s) (length_atoms_le s)

/-- Decoding keeps a text exactly when there is nothing to decode. -/
theorem decode_eq_self_iff {s : List Char} : decode s = s ↔ ¬ HasEscape s := by
  constructor
  · intro heq hescape
    have hle := length_decode_le_atoms s
    have hlt := length_atoms_lt hescape
    rw [heq] at hle
    omega
  · intro h
    rw [decode,atoms_of_not_hasEscape h,decodeAtoms_map_ofChar]

end Percent

theorem mem_of_mem_dropLeadingSlash {s : List Char} {c : Char} (h : c ∈ dropLeadingSlash s) :
    c ∈ s := by
  unfold dropLeadingSlash at h
  split at h
  · exact List.mem_cons_of_mem _ h
  · exact h

theorem head?_dropLeadingSlash_iff (s : List Char) :
    (dropLeadingSlash s).head? = some '/' ↔ ['/','/'] <+: s := by
  by_cases h : s.head? = some '/'
  · obtain ⟨r,rfl⟩ := List.head?_eq_some_iff.mp h
    cases r <;> simp [dropLeadingSlash,eq_comm]
  · rw [dropLeadingSlash_eq_self h]
    refine iff_of_false h fun hs => h ?_
    obtain ⟨r,rfl⟩ := hs
    rfl

end Text

open Text

@[simp] theorem toList_outputPath (path : String) :
    (outputPath path).toList = Percent.decode (dropLeadingSlash path.toList) :=
  String.toList_ofList

theorem outputPath_eq_self_iff (path : String) :
    outputPath path = path ↔
      path.toList.head? ≠ some '/' ∧ ¬ Percent.HasEscape path.toList := by
  rw [← String.toList_inj,toList_outputPath]
  by_cases hslash : path.toList.head? = some '/'
  · refine iff_of_false (fun heq => ?_) fun h => h.1 hslash
    obtain ⟨r,hr⟩ := List.head?_eq_some_iff.mp hslash
    have hle : (Percent.decode (dropLeadingSlash path.toList)).length ≤ r.length := by
      rw [hr]
      exact Percent.length_decode_le r
    rw [heq,hr,List.length_cons] at hle
    omega
  · rw [dropLeadingSlash_eq_self hslash,Percent.decode_eq_self_iff]
    simp [hslash]

/-- Which paths are kept by a second run: those the first one leaves without a slash at the start
and without an escape.  Of the paths without a percent sign all are but those that start with two
slashes, of which each run drops one. -/
theorem outputPath_again (path : String) :
    (outputPath (outputPath path) = outputPath path ↔
        (outputPath path).toList.head? ≠ some '/' ∧
          ¬ Percent.HasEscape (outputPath path).toList) ∧
      ('%' ∉ path.toList →
        (outputPath (outputPath path) = outputPath path ↔ ¬ ['/','/'] <+: path.toList)) := by
  refine ⟨outputPath_eq_self_iff _,fun hpercent => ?_⟩
  have hdrop : '%' ∉ dropLeadingSlash path.toList := fun h =>
    hpercent (mem_of_mem_dropLeadingSlash h)
  have hescape : ¬ Percent.HasEscape (dropLeadingSlash path.toList) := fun h => hdrop h.mem
  rw [outputPath_eq_self_iff,toList_outputPath,Percent.decode_eq_self_iff.mpr hescape,Ne,
    head?_dropLeadingSlash_iff]
  simp [hescape]

/-- Of two slashes at the start the first run drops one, and the second run the other. -/
theorem outputPath_again_ne : outputPath (outputPath "//a") ≠ outputPath "//a" := by
  decide

end BlogPaths
