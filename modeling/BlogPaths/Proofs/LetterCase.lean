import BlogPaths.Unicode.Case
import Mathlib.Tactic.SplitIfs

/-! Texts in one case.  What a letter is mapped to is not mapped on, nor is it a hyphen or an
underscore; so what has been brought to a case once stays as it is, and so do its hyphens. -/
namespace BlogPaths.Unicode

/-- A set of numbers as the bits of one. -/
def bits (ks : List Nat) : Nat := ks.foldl (fun m k => m ||| 1 <<< k) 0

theorem testBit_bits {ks : List Nat} {k : Nat} : (bits ks).testBit k = true ↔ k ∈ ks := by
  have hfold : ∀ m, (ks.foldl (fun m k => m ||| 1 <<< k) m).testBit k =
      (m.testBit k || decide (k ∈ ks)) := by
    induction ks with
    | nil => simp
    | cons j ks ih =>
      intro m
      rw [List.foldl_cons,ih,Nat.testBit_or,Nat.one_shiftLeft,Nat.testBit_two_pow]
      by_cases hj : j = k
      · simp [hj]
      · simp [hj,Ne.symm hj]
  rw [bits,hfold]
  simp

theorem notMem_of_bits {ks js : List Nat} (h : bits ks &&& bits js = 0) {k : Nat} (hj : k ∈ js) :
    k ∉ ks := by
  intro hk
  have hbit : (bits ks &&& bits js).testBit k = true := by
    rw [Nat.testBit_and,testBit_bits.mpr hk,testBit_bits.mpr hj]
    rfl
  simp [h] at hbit

theorem toNat_ofNat_of_isValidChar {k : Nat} (h : k.isValidChar) : (Char.ofNat k).toNat = k := by
  rw [Char.ofNat,dif_pos h]
  rfl

theorem exists_eq_ofNat_of_ascii {c : Char} (h : c.toNat < 0x80) :
    ∃ k < 0x80, c = Char.ofNat k := ⟨c.toNat,h,(Char.ofNat_toNat c).symm⟩

theorem flatMap_eq_self {f : Char → List Char} {s : List Char} (h : ∀ c ∈ s, f c = [c]) :
    s.flatMap f = s := by
  rw [List.flatMap_def,List.map_congr_left h,← List.flatMap_def,List.flatMap_singleton']

/-- A letter is mapped to images only, and any other character to itself. -/
def Moves (letters images : List Nat) (c : Char) (ds : List Char) : Prop :=
  c.toNat ∈ letters ∧ (∀ d ∈ ds, d.toNat ∈ images) ∨ ds = [c]

theorem Moves.mono {letters images letters' images' : List Nat} {c : Char} {ds : List Char}
    (h : Moves letters images c ds) (hl : letters ⊆ letters') (hi : images ⊆ images') :
    Moves letters' images' c ds :=
  h.imp_left fun hm => ⟨hl hm.1,fun d hd => hi (hm.2 d hd)⟩

namespace CaseRun

def letters (r : CaseRun) : List Nat :=
  (List.range ((r.2.1 - r.1)/r.2.2.1 + 1)).map fun i => r.1 + r.2.2.1*i

def images (r : CaseRun) : List Nat := r.letters.map fun k => r.2.2.2 + (k - r.1)

def IsScalar (r : CaseRun) : Prop := ∀ k ∈ r.images, k.isValidChar

instance (r : CaseRun) : Decidable r.IsScalar := inferInstanceAs (Decidable (∀ _ ∈ _, _ ∨ _))

theorem mem_letters {r : CaseRun} {k : Nat} (h : covers r k = true) : k ∈ r.letters := by
  simp only [covers,Bool.and_eq_true,decide_eq_true_eq,beq_iff_eq] at h
  obtain ⟨⟨hfirst,hlast⟩,hstep⟩ := h
  refine List.mem_map.mpr ⟨(k - r.1)/r.2.2.1,List.mem_range.mpr ?_,?_⟩
  · exact Nat.lt_succ_of_le (Nat.div_le_div_right (Nat.sub_le_sub_right hlast _))
  · rw [Nat.mul_div_cancel' (Nat.dvd_of_mod_eq_zero hstep)]
    omega

theorem moves_image (runs : List CaseRun) (h : ∀ r ∈ runs, r.IsScalar) (c : Char) :
    Moves (runs.flatMap letters) (runs.flatMap images) c [image runs c] := by
  unfold image
  cases hf : runs.find? (covers · c.toNat) with
  | none => exact .inr rfl
  | some r =>
    have hr := List.mem_of_find?_eq_some hf
    have hcovers : covers r c.toNat = true := by simpa using List.find?_some hf
    have hc := mem_letters hcovers
    have himage : r.2.2.2 + (c.toNat - r.1) ∈ r.images := List.mem_map_of_mem hc
    refine .inl ⟨List.mem_flatMap.mpr ⟨r,hr,hc⟩,fun d hd => List.mem_flatMap.mpr ⟨r,hr,?_⟩⟩
    rwa [List.mem_singleton.mp hd,toNat_ofNat_of_isValidChar (h r hr _ himage)]

end CaseRun

/-- Characters are mapped one by one; no image is a letter again, nor is it a hyphen or an
underscore. -/
structure IsCaseMap (f : Char → List Char) (letters images : List Nat) : Prop where
  moves : ∀ c, Moves letters images c (f c)
  apart : bits (0x2D :: 0x5F :: letters) &&& bits images = 0

namespace IsCaseMap

variable {f : Char → List Char} {letters images : List Nat}

/-- What came out of the map stays as it is under it. -/
theorem again (h : IsCaseMap f letters images) {c d : Char} (hd : d ∈ f c) : f d = [d] := by
  obtain ⟨-,himages⟩ | hc := h.moves c
  · refine (h.moves d).resolve_left fun hletter => ?_
    have hnot := notMem_of_bits h.apart (himages d hd)
    exact hnot (List.mem_cons_of_mem _ (List.mem_cons_of_mem _ hletter.1))
  · rw [hc,List.mem_singleton] at hd
    rwa [hd]

theorem eq_of_mark (h : IsCaseMap f letters images) {c d : Char} (hd : d ∈ f c)
    (hmark : d = '-' ∨ d = '_') : d = c := by
  obtain ⟨-,himages⟩ | hc := h.moves c
  · have hnot := notMem_of_bits h.apart (himages d hd)
    obtain rfl | rfl := hmark <;> simp at hnot
  · rwa [hc,List.mem_singleton] at hd

end IsCaseMap

section Lower

def asciiCapitals : CaseRun := (0x41,0x5A,1,0x61)

/-- Small letters for a capital: a sigma has one inside a word and one at its end. -/
def smallsOf (c : Char) : List Char := if c = 'Σ' then ['σ','ς'] else lowerChar c

theorem toLower_eq_image {c : Char} (h : c.toNat < 0x80) :
    c.toLower = CaseRun.image [asciiCapitals] c := by
  have hascii : ∀ k < 0x80, (Char.ofNat k).toLower =
      CaseRun.image [asciiCapitals] (Char.ofNat k) := by decide +kernel
  obtain ⟨k,hk,rfl⟩ := exists_eq_ofNat_of_ascii h
  exact hascii k hk

theorem isCaseMap_smallsOf : IsCaseMap smallsOf
    (0x130 :: 0x3A3 :: (asciiCapitals :: lowerRuns).flatMap CaseRun.letters)
    (0x69 :: 0x307 :: 0x3C2 :: 0x3C3 ::
      (asciiCapitals :: lowerRuns).flatMap CaseRun.images) where
  apart := by decide +kernel
  moves c := by
    have hruns : ∀ r ∈ lowerRuns, r.IsScalar := by decide +kernel
    have hascii := CaseRun.moves_image [asciiCapitals] (by decide) c
    rw [List.flatMap_cons,List.flatMap_cons]
    unfold smallsOf lowerChar
    split_ifs with hsigma hlt hdot
    · exact .inl (by simp [hsigma])
    · rw [toLower_eq_image hlt]
      exact hascii.mono (fun k hk => by simp_all) fun k hk => by simp_all
    · exact .inl (by simp [hdot])
    · exact (CaseRun.moves_image lowerRuns hruns c).mono (fun k hk => by simp_all)
        fun k hk => by simp_all

theorem mem_lowerAfter {before s : List Char} {d : Char} (h : d ∈ lowerAfter before s) :
    ∃ c ∈ s, d ∈ smallsOf c := by
  induction s generalizing before with
  | nil => simp [lowerAfter] at h
  | cons c cs ih =>
    rw [lowerAfter,List.mem_append] at h
    obtain hhead | htail := h
    · refine ⟨c,List.mem_cons_self,?_⟩
      unfold smallsOf
      split_ifs at hhead ⊢ with hsigma hend
      all_goals simp_all
    · obtain ⟨b,hb,hd⟩ := ih htail
      exact ⟨b,List.mem_cons_of_mem _ hb,hd⟩

/-- Without a sigma no character depends on the ones around it. -/
theorem lowerAfter_eq_flatMap {before s : List Char} (h : 'Σ' ∉ s) :
    lowerAfter before s = s.flatMap smallsOf := by
  induction s generalizing before with
  | nil => rfl
  | cons c cs ih =>
    have hc : c ≠ 'Σ' := fun heq => h (heq ▸ List.mem_cons_self)
    rw [lowerAfter,List.flatMap_cons,ih fun hmem => h (List.mem_cons_of_mem _ hmem),smallsOf,
      if_neg hc,if_neg hc]

theorem lowerAfter_eq_self {before s : List Char} (h : ∀ c ∈ s, smallsOf c = [c]) :
    lowerAfter before s = s := by
  have hsigma : 'Σ' ∉ s := fun hmem => by simpa [smallsOf] using h _ hmem
  rw [lowerAfter_eq_flatMap hsigma,flatMap_eq_self h]

@[simp] theorem lower_lower (s : List Char) : lower (lower s) = lower s := by
  apply lowerAfter_eq_self
  intro d hd
  obtain ⟨c,-,hc⟩ := mem_lowerAfter hd
  exact isCaseMap_smallsOf.again hc

theorem mem_of_mem_lower {s : List Char} {d : Char} (h : d ∈ lower s)
    (hmark : d = '-' ∨ d = '_') : d ∈ s := by
  obtain ⟨c,hc,hd⟩ := mem_lowerAfter h
  rwa [isCaseMap_smallsOf.eq_of_mark hd hmark]

end Lower

section Upper

def asciiSmalls : CaseRun := (0x61,0x7A,1,0x41)

theorem toUpper_eq_image {c : Char} (h : c.toNat < 0x80) :
    c.toUpper = CaseRun.image [asciiSmalls] c := by
  have hascii : ∀ k < 0x80, (Char.ofNat k).toUpper =
      CaseRun.image [asciiSmalls] (Char.ofNat k) := by decide +kernel
  obtain ⟨k,hk,rfl⟩ := exists_eq_ofNat_of_ascii h
  exact hascii k hk

theorem toNat_mem_of_upperExpansions {k : Nat} {codes : List Nat}
    (h : upperExpansions.lookup k = some codes) :
    (k,codes) ∈ upperExpansions ∧ ∀ d ∈ codes.map Char.ofNat, d.toNat ∈ codes := by
  obtain ⟨before,after,heq,-⟩ := List.lookup_eq_some_iff.mp h
  have hmem : (k,codes) ∈ upperExpansions := by simp [heq]
  have hvalid : ∀ e ∈ upperExpansions, ∀ n ∈ e.2, Nat.isValidChar n := by
    simp only [Nat.isValidChar]
    decide +kernel
  refine ⟨hmem,fun d hd => ?_⟩
  obtain ⟨n,hn,rfl⟩ := List.mem_map.mp hd
  rwa [toNat_ofNat_of_isValidChar (hvalid _ hmem n hn)]

theorem isCaseMap_upperChar : IsCaseMap upperChar
    (upperExpansions.map (·.1) ++ (asciiSmalls :: upperRuns).flatMap CaseRun.letters)
    (upperExpansions.flatMap (·.2) ++ (asciiSmalls :: upperRuns).flatMap CaseRun.images) where
  apart := by decide +kernel
  moves c := by
    have hruns : ∀ r ∈ upperRuns, r.IsScalar := by decide +kernel
    have hascii := CaseRun.moves_image [asciiSmalls] (by decide) c
    rw [List.flatMap_cons,List.flatMap_cons]
    unfold upperChar
    split_ifs with hlt
    · rw [toUpper_eq_image hlt]
      exact hascii.mono (fun k hk => by simp_all) fun k hk => by simp_all
    · cases hlookup : upperExpansions.lookup c.toNat with
      | some codes =>
        obtain ⟨hmem,hcodes⟩ := toNat_mem_of_upperExpansions hlookup
        refine .inl ⟨List.mem_append_left _ (List.mem_map_of_mem hmem),fun d hd => ?_⟩
        exact List.mem_append_left _ (List.mem_flatMap.mpr ⟨_,hmem,hcodes d hd⟩)
      | none =>
        exact (CaseRun.moves_image upperRuns hruns c).mono (fun k hk => by simp_all)
          fun k hk => by simp_all

@[simp] theorem upper_upper (s : List Char) : upper (upper s) = upper s := by
  apply flatMap_eq_self
  intro d hd
  obtain ⟨c,-,hc⟩ := List.mem_flatMap.mp hd
  exact isCaseMap_upperChar.again hc

theorem upperChar_ne_nil (c : Char) : upperChar c ≠ [] := by
  have hcodes : ∀ e ∈ upperExpansions, e.2 ≠ [] := by decide
  unfold upperChar
  split_ifs
  · simp
  · cases hlookup : upperExpansions.lookup c.toNat with
    | some codes => simpa using hcodes _ (toNat_mem_of_upperExpansions hlookup).1
    | none => simp

theorem upper_eq_nil {s : List Char} : upper s = [] ↔ s = [] := by
  cases s with
  | nil => simp
  | cons c s => simp [upper,upperChar_ne_nil]

theorem mem_of_mem_upper {s : List Char} {d : Char} (h : d ∈ upper s)
    (hmark : d = '-' ∨ d = '_') : d ∈ s := by
  obtain ⟨c,hc,hd⟩ := List.mem_flatMap.mp h
  rwa [isCaseMap_upperChar.eq_of_mark hd hmark]

/-- In ASCII the capitals have the same small letters as the letters they come from. -/
theorem lower_upper_of_ascii {s : List Char} (h : ∀ c ∈ s, c.toNat < 0x80) :
    lower (upper s) = lower s := by
  have hcases : ∀ k < 0x80, 'Σ' ∉ Char.ofNat k :: upperChar (Char.ofNat k) ∧
      (upperChar (Char.ofNat k)).flatMap smallsOf = smallsOf (Char.ofNat k) := by decide +kernel
  have hchar : ∀ c ∈ s, 'Σ' ∉ c :: upperChar c ∧
      (upperChar c).flatMap smallsOf = smallsOf c := by
    intro c hc
    obtain ⟨k,hk,rfl⟩ := exists_eq_ofNat_of_ascii (h c hc)
    exact hcases k hk
  have hs : 'Σ' ∉ s := fun hmem => (hchar _ hmem).1 List.mem_cons_self
  have hupper : 'Σ' ∉ upper s := by
    intro hmem
    obtain ⟨c,hc,hsigma⟩ := List.mem_flatMap.mp hmem
    exact (hchar c hc).1 (List.mem_cons_of_mem _ hsigma)
  have hsmalls : ∀ c ∈ s, (upperChar c).flatMap smallsOf = smallsOf c := fun c hc => (hchar c hc).2
  rw [lower,lower,lowerAfter_eq_flatMap hupper,lowerAfter_eq_flatMap hs,upper,List.flatMap_assoc,
    List.flatMap_def,List.map_congr_left hsmalls,← List.flatMap_def]

end Upper

end BlogPaths.Unicode
