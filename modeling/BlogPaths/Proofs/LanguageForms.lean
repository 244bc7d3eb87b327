import BlogPaths.Language
import BlogPaths.Proofs.LetterCase
import Mathlib.Data.List.TakeWhile

/-! The canonical form of a language tag, taken again.  The region is compared in lower case but
kept in upper case, so a region of other letters than ASCII may repeat the language only once it
has been written in capitals; it is then left out the second time. -/
namespace BlogPaths

open Unicode

namespace Language

def language (tag : List Char) : List Char := lower (parts (hyphenated tag)).1

def region (tag : List Char) : List Char := (parts (hyphenated tag)).2

/-- The region of the tag is another word than its language, but the same one as soon as it has been
in upper case. -/
def RepeatsInCapitals (tag : List Char) : Prop :=
  lower (region tag) ≠ language tag ∧ lower (upper (region tag)) = language tag

instance (tag : List Char) : Decidable (RepeatsInCapitals tag) :=
  inferInstanceAs (Decidable (_ ∧ _))

theorem underscore_notMem_hyphenated (tag : List Char) : '_' ∉ hyphenated tag := by
  intro h
  obtain ⟨c,-,hc⟩ := List.mem_map.mp h
  split at hc
  · simp at hc
  · contradiction

theorem hyphenated_eq_self {tag : List Char} (h : '_' ∉ tag) : hyphenated tag = tag := by
  have hid : ∀ c ∈ tag, (if c = '_' then '-' else c) = c := by
    intro c hc
    exact if_neg fun heq : c = '_' => h (heq ▸ hc)
  rw [hyphenated,List.map_congr_left hid,List.map_id']

theorem hyphen_notMem_language (tag : List Char) : '-' ∉ language tag := by
  intro h
  have hc := List.all_eq_true.mp List.all_takeWhile _ (mem_of_mem_lower h (.inl rfl))
  simp at hc

theorem underscore_notMem_language (tag : List Char) : '_' ∉ language tag := by
  intro h
  have hc := (List.takeWhile_sublist _).mem (mem_of_mem_lower h (.inr rfl))
  exact underscore_notMem_hyphenated tag hc

theorem underscore_notMem_upper_region (tag : List Char) : '_' ∉ upper (region tag) := by
  intro h
  have hc := List.mem_of_mem_drop (mem_of_mem_upper h (.inr rfl))
  exact underscore_notMem_hyphenated tag ((List.dropWhile_sublist _).mem hc)

theorem canonicalChars_eq (tag : List Char) :
    canonicalChars tag =
      if region tag = [] ∨ lower (region tag) = language tag then language tag
      else language tag ++ '-' :: upper (region tag) := rfl

theorem parts_of_notMem {l : List Char} (h : '-' ∉ l) : parts l = (l,[]) := by
  have hpos : ∀ c ∈ l, c ≠ '-' := fun c hc heq => h (heq ▸ hc)
  rw [parts,List.takeWhile_eq_self_iff.mpr (by simpa using hpos),
    List.dropWhile_eq_nil_iff.mpr (by simpa using hpos),List.drop_nil]

theorem parts_append {l : List Char} (h : '-' ∉ l) (r : List Char) :
    parts (l ++ '-' :: r) = (l,r) := by
  have hpos : ∀ c ∈ l, c ≠ '-' := fun c hc heq => h (heq ▸ hc)
  rw [parts,List.takeWhile_append_of_pos (by simpa using hpos),
    List.dropWhile_append_of_pos (by simpa using hpos)]
  simp

theorem canonicalChars_language (tag : List Char) :
    canonicalChars (language tag) = language tag := by
  have hparts := parts_of_notMem (hyphen_notMem_language tag)
  have hself := hyphenated_eq_self (underscore_notMem_language tag)
  simp only [canonicalChars,hself,hparts,true_or,if_true]
  rw [language,lower_lower]

theorem canonicalChars_joined (tag : List Char) (h : region tag ≠ []) :
    canonicalChars (language tag ++ '-' :: upper (region tag)) =
      if lower (upper (region tag)) = language tag then language tag
      else language tag ++ '-' :: upper (region tag) := by
  have hself : hyphenated (language tag ++ '-' :: upper (region tag)) =
      language tag ++ '-' :: upper (region tag) := by
    apply hyphenated_eq_self
    simp [underscore_notMem_language,underscore_notMem_upper_region]
  have hlower : lower (language tag) = language tag := lower_lower _
  have hparts := parts_append (hyphen_notMem_language tag) (upper (region tag))
  simp only [canonicalChars,hself,hparts,hlower,upper_upper,upper_eq_nil,h,false_or]

/-- The canonical form is the same when it is taken again, but for a region that repeats the
language in capitals only: that one is left out the second time. -/
theorem canonicalChars_canonicalChars (tag : List Char) :
    canonicalChars (canonicalChars tag) =
      if RepeatsInCapitals tag then language tag else canonicalChars tag := by
  rw [canonicalChars_eq tag]
  by_cases hout : region tag = [] ∨ lower (region tag) = language tag
  · have hnot : ¬ RepeatsInCapitals tag := by
      rintro ⟨hne,heq⟩
      obtain hnil | hsame := hout
      · simp_all
      · exact hne hsame
    rw [if_pos hout,if_neg hnot,canonicalChars_language]
  · obtain ⟨hregion,hne⟩ := not_or.mp hout
    rw [if_neg hout,canonicalChars_joined tag hregion]
    simp [RepeatsInCapitals,hne]

theorem canonicalChars_ne_language {tag : List Char} (h : RepeatsInCapitals tag) :
    canonicalChars tag ≠ language tag := by
  have hregion : region tag ≠ [] := by
    intro hnil
    simp [RepeatsInCapitals,hnil] at h
  rw [canonicalChars_eq,if_neg (not_or.mpr ⟨hregion,h.1⟩)]
  simp

theorem mem_hyphenated_ascii {tag : List Char} (h : ∀ c ∈ tag, c.toNat < 0x80) :
    ∀ c ∈ hyphenated tag, c.toNat < 0x80 := by
  intro c hc
  obtain ⟨b,hb,rfl⟩ := List.mem_map.mp hc
  split
  · decide
  · exact h b hb

/-- A tag of ASCII letters alone has no such region: there both cases are one by one. -/
theorem not_repeatsInCapitals_of_ascii {tag : List Char} (h : ∀ c ∈ tag, c.toNat < 0x80) :
    ¬ RepeatsInCapitals tag := by
  have hregion : ∀ c ∈ region tag, c.toNat < 0x80 := by
    intro c hc
    have hmem := (List.dropWhile_sublist _).mem (List.mem_of_mem_drop hc)
    exact mem_hyphenated_ascii h c hmem
  rintro ⟨hne,heq⟩
  exact hne ((lower_upper_of_ascii hregion).symm.trans heq)

end Language

namespace LanguagePolicy

/-- The canonical form taken again is another one exactly where the region has become the language
by being written in capitals, which takes a letter beyond ASCII.  The language is then left alone,
and a third time changes nothing. -/
theorem canonical_again (lang : Option String) :
    (canonical.apply (canonical.apply lang) = canonical.apply lang ↔
      ∀ tag, lang = some tag → ¬ Language.RepeatsInCapitals tag.toList) ∧
    (∀ tag, lang = some tag → Language.RepeatsInCapitals tag.toList →
      canonical.apply (canonical.apply lang) =
        some (String.ofList (Language.language tag.toList))) ∧
    (∀ tag, lang = some tag → (∀ c ∈ tag.toList, c.toNat < 0x80) →
      canonical.apply (canonical.apply lang) = canonical.apply lang) ∧
    canonical.apply (canonical.apply (canonical.apply lang)) =
      canonical.apply (canonical.apply lang) := by
  cases lang with
  | none => simp [canonical]
  | some tag =>
    have htwice := Language.canonicalChars_canonicalChars tag.toList
    by_cases hrepeats : Language.RepeatsInCapitals tag.toList
    · have hne := Language.canonicalChars_ne_language hrepeats
      have hthird := Language.canonicalChars_language tag.toList
      have hbeyond : ∃ c ∈ tag.toList, 0x80 ≤ c.toNat := by
        simpa using fun hall => Language.not_repeatsInCapitals_of_ascii hall hrepeats
      rw [if_pos hrepeats] at htwice
      simp [canonical,Language.canonical,htwice,hthird,hrepeats,String.ofList_inj,hne.symm,hbeyond]
    · rw [if_neg hrepeats] at htwice
      simp [canonical,Language.canonical,htwice,hrepeats]

/-- The capital of a sharp s is a double s, so that the region of this tag is left out the second
time. -/
theorem canonical_again_ne :
    canonical.apply (canonical.apply (some "ss-ß")) ≠ canonical.apply (some "ss-ß") := by
  decide +kernel

end LanguagePolicy

end BlogPaths
