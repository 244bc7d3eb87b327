import BlogPaths.Proofs.Expansions
import BlogPaths.Proofs.LetterCase
import Mathlib.Data.List.Forall2

/-! Slugs and their grammar.  Whatever a value's text is taken apart into, the ASCII in it is joined to a
slug, and a slug is joined to itself; so there is nothing in the permalink that a custom field could
cut in two or hide. -/
namespace BlogPaths

open Unicode

namespace Slug

theorem IsWord.singleton {c : Char} (hc : isSlugChar c = true) : IsWord [c] :=
  ⟨List.cons_ne_nil _ _,by simpa using hc⟩

theorem IsWord.concat {w : List Char} {c : Char} (hw : IsWord w) (hc : isSlugChar c = true) :
    IsWord (w ++ [c]) := by
  refine ⟨by simp,fun d hd => ?_⟩
  rcases List.mem_append.mp hd with hd | hd
  · exact hw.2 d hd
  · rwa [List.mem_singleton.mp hd]

/-- Behind a word, whatever is joined on makes it longer or joins other words to it. -/
theorem joined_append {w : List Char} (hw : IsWord w) (gap : Bool) (s : List Char) :
    Joined (w ++ joinFrom true gap s) := by
  induction s generalizing w gap with
  | nil => simpa [joinFrom] using Joined.word hw
  | cons c s ih =>
    by_cases hc : isSlugChar c = true
    · cases gap with
      | true => simpa [joinFrom,hc] using Joined.cons hw (ih (.singleton hc) false)
      | false => simpa [joinFrom,hc] using ih (hw.concat hc) false
    · simpa [joinFrom,hc] using ih hw true

theorem isSlug_joinFrom (gap : Bool) (s : List Char) : IsSlug (joinFrom false gap s) := by
  induction s generalizing gap with
  | nil => exact .inl rfl
  | cons c s ih =>
    by_cases hc : isSlugChar c = true
    · have hjoined := joined_append (.singleton hc) false s
      exact .inr (by simpa [joinFrom,hc] using hjoined)
    · simpa [joinFrom,hc] using ih true

theorem joinFrom_append {w : List Char} (hw : IsWord w) (started gap : Bool) (s : List Char) :
    joinFrom started gap (w ++ s) =
      if started && gap then '-' :: (w ++ joinFrom true false s) else w ++ joinFrom true false s := by
  have hrun : ∀ w : List Char, (∀ c ∈ w, isSlugChar c = true) →
      joinFrom true false (w ++ s) = w ++ joinFrom true false s := by
    intro w hw
    induction w with
    | nil => rfl
    | cons c w ih =>
      obtain ⟨hc,hw⟩ := List.forall_mem_cons.mp hw
      simp [joinFrom,hc,ih hw]
  obtain ⟨hne,hw⟩ := hw
  cases w with
  | nil => exact absurd rfl hne
  | cons c w =>
    obtain ⟨hc,hw⟩ := List.forall_mem_cons.mp hw
    simp [joinFrom,hc,hrun w hw]

theorem Joined.joinFrom_eq {s : List Char} (h : Joined s) (started gap : Bool) :
    joinFrom started gap s = if started && gap then '-' :: s else s := by
  induction h generalizing started gap with
  | @word w hw => simpa [joinFrom] using joinFrom_append hw started gap []
  | @cons w s hw _ ih =>
    have hhyphen : isSlugChar '-' = false := by decide
    simpa [joinFrom,hhyphen,ih] using joinFrom_append hw started gap ('-' :: s)

theorem IsSlug.joinFrom_eq {s : List Char} (h : IsSlug s) : joinFrom false false s = s := by
  rcases h with rfl | h
  · rfl
  · simpa using h.joinFrom_eq false false

theorem Joined.isSlugChar_or {s : List Char} (h : Joined s) {c : Char} (hc : c ∈ s) :
    isSlugChar c = true ∨ c = '-' := by
  induction h with
  | word hw => exact .inl (hw.2 c hc)
  | cons hw _ ih =>
    rcases List.mem_append.mp hc with hc | hc
    · exact .inl (hw.2 c hc)
    · rcases List.mem_cons.mp hc with rfl | hc
      · exact .inr rfl
      · exact ih hc

theorem IsSlug.isSlugChar_or {s : List Char} (h : IsSlug s) {c : Char} (hc : c ∈ s) :
    isSlugChar c = true ∨ c = '-' := by
  rcases h with rfl | h
  · cases hc
  · exact h.isSlugChar_or hc

theorem toNat_lt_of_isSlugChar {c : Char} (h : isSlugChar c = true) : c.toNat < 0x80 := by
  change (c.val ≥ 'a'.val && c.val ≤ 'z'.val || c.val ≥ '0'.val && c.val ≤ '9'.val) = true at h
  simp only [Bool.or_eq_true,Bool.and_eq_true,decide_eq_true_eq,ge_iff_le,
    UInt32.le_iff_toNat_le] at h
  have hc : c.toNat = c.val.toNat := rfl
  rcases h with h | h <;> simp at h <;> omega

def isSmall (c : Char) : Bool := c.toNat < 0x80 && c.toLower == c

theorem lower_ascii_eq_self {s : List Char} (h : ∀ c ∈ s, isSmall c = true) :
    (s.filter (·.toNat < 0x80)).map Char.toLower = s := by
  simp only [isSmall,Bool.and_eq_true,decide_eq_true_eq,beq_iff_eq] at h
  rw [List.filter_eq_self.mpr fun c hc => by simpa using (h c hc).1]
  exact (List.map_congr_left fun c hc => (h c hc).2).trans (List.map_id s)

theorem IsSlug.isSmall {s : List Char} (h : IsSlug s) {c : Char} (hc : c ∈ s) :
    isSmall c = true := by
  have hascii : c.toNat < 0x80 := by
    rcases h.isSlugChar_or hc with hchar | rfl
    · exact toNat_lt_of_isSlugChar hchar
    · decide
  have hsmall : ∀ k < 0x80, isSlugChar (Char.ofNat k) = true ∨ Char.ofNat k = '-' →
      Slug.isSmall (Char.ofNat k) = true := by decide +kernel
  have hchar := h.isSlugChar_or hc
  obtain ⟨k,hk,rfl⟩ := exists_eq_ofNat_of_ascii hascii
  exact hsmall k hk hchar

theorem toNat_lt_of_isSmall {c : Char} (h : isSmall c = true) : c.toNat < 0x80 := by
  simp only [isSmall,Bool.and_eq_true,decide_eq_true_eq] at h
  exact h.1

theorem isSmall_of_mem_asciiFold {c e : Char} (h : e ∈ asciiFold c) : isSmall e = true := by
  have hascii : ∀ k < 0x80, isSmall (Char.ofNat k).toLower = true := by decide +kernel
  have hranges : (foldRanges.all fun r => r.2.2.toList.all isSmall) = true := by decide +kernel
  have hrows : (foldRows.all fun r => (List.range (r.2.1 - r.1 + 1)).all fun i =>
      isSmall (Char.ofNat (r.2.2.toNat + i))) = true := by decide +kernel
  unfold asciiFold at h
  split at h
  · rename_i hc
    obtain ⟨k,hk,rfl⟩ := exists_eq_ofNat_of_ascii hc
    rw [List.mem_singleton.mp h]
    exact hascii k hk
  · split at h
    · rename_i r hr
      exact List.all_eq_true.mp (List.all_eq_true.mp hranges r (List.mem_of_find?_eq_some hr)) e h
    · split at h
      · rename_i r hr
        have hrow := List.all_eq_true.mp hrows r (List.mem_of_find?_eq_some hr)
        have hin := List.find?_some hr
        simp only [Bool.and_eq_true,decide_eq_true_eq] at hin
        rw [List.mem_singleton.mp h]
        exact List.all_eq_true.mp hrow _ (List.mem_range.mpr (by omega))
      · cases h

/-- A way to take characters apart.  Of ASCII there is nothing to take apart. -/
structure Decomposition where
  decompose : List Char → List Char
  decompose_of_ascii : ∀ s, (∀ c ∈ s, c.toNat < 0x80) → decompose s = s

namespace Decomposition

variable (d : Decomposition)

/-- The slug of a text that is taken apart first: all that is not ASCII is dropped, and all else put
in lower case and joined. -/
def slugChars (s : List Char) : List Char :=
  joinFrom false false (((d.decompose s).filter (·.toNat < 0x80)).map Char.toLower)

theorem isSlug_slugChars (s : List Char) : IsSlug (d.slugChars s) := isSlug_joinFrom false _

theorem slugChars_eq_self_iff {s : List Char} : d.slugChars s = s ↔ IsSlug s := by
  constructor
  · intro h
    rw [← h]
    exact d.isSlug_slugChars s
  · intro h
    rw [slugChars,d.decompose_of_ascii s fun c hc => toNat_lt_of_isSmall (h.isSmall hc),
      lower_ascii_eq_self fun c hc => h.isSmall hc,h.joinFrom_eq]

def slug? : Value → Option String
  | .null => some ""
  | v => v.text?.map fun s => String.ofList (d.slugChars s.toList)

theorem slug?_of_ne_null {v : Value} (h : v ≠ .null) :
    d.slug? v = v.text?.map fun s => String.ofList (d.slugChars s.toList) := by
  cases v with
  | null => exact absurd rfl h
  | bool | int | float | str | list | object => rfl

theorem slug?_eq_none_iff (v : Value) : d.slug? v = none ↔ v.Overlong := by
  rw [← v.slug?_eq_none_iff]
  by_cases h : v = .null
  · simp [h,slug?]
  · rw [d.slug?_of_ne_null h,Value.slug?_of_ne_null h,Option.map_eq_none_iff,
      Option.map_eq_none_iff]

theorem slug?_str_eq_self_iff {s : String} : d.slug? (.str s) = some s ↔ IsSlug s.toList := by
  rw [← d.slugChars_eq_self_iff,d.slug?_of_ne_null (by simp),Value.text?_str,Option.map_some,
    Option.some.injEq,← String.toList_inj,String.toList_ofList]

theorem isSlug_of_slug? {v : Value} {s : String} (h : d.slug? v = some s) : IsSlug s.toList := by
  by_cases hv : v = .null
  · subst hv
    cases h
    exact .inl rfl
  · rw [d.slug?_of_ne_null hv] at h
    obtain ⟨t,-,rfl⟩ := Option.map_eq_some_iff.mp h
    rw [String.toList_ofList]
    exact d.isSlug_slugChars _

def tables : Decomposition where
  decompose s := s.flatMap fun c => if c.toNat < 0x80 then [c] else asciiFold c
  decompose_of_ascii _ h := flatMap_eq_self fun c hc => if_pos (h c hc)

theorem slugChars_tables (s : List Char) : tables.slugChars s = ofChars s := by
  rw [slugChars,ofChars,tables]
  simp only [List.filter_flatMap,List.map_flatMap]
  congr 1
  refine congrArg s.flatMap (funext fun c => ?_)
  by_cases hc : c.toNat < 0x80
  · simp [hc,asciiFold_of_lt hc]
  · rw [if_neg hc,lower_ascii_eq_self fun e he => isSmall_of_mem_asciiFold he]

/-- The slug of a value is the one through the decomposition of the tables. -/
theorem slug?_tables (v : Value) : tables.slug? v = v.slug? := by
  by_cases h : v = .null
  · rw [h]
    rfl
  · rw [slug?_of_ne_null _ h,Value.slug?_of_ne_null h]
    simp only [slugChars_tables]
    rfl

end Decomposition

end Slug

namespace Value

theorem isSlug_of_slug? {v : Value} {s : String} (h : v.slug? = some s) : Slug.IsSlug s.toList :=
  Slug.Decomposition.isSlug_of_slug? _ ((Slug.Decomposition.slug?_tables v).trans h)

theorem slug?_str_eq_self_iff {s : String} : (str s).slug? = some s ↔ Slug.IsSlug s.toList := by
  rw [← Slug.Decomposition.slug?_tables]
  exact Slug.Decomposition.slug?_str_eq_self_iff _

end Value

theorem forall₂_of_mapM {α β ε : Type} {f : α → Except ε β} {xs : List α} {ys : List β}
    (h : xs.mapM f = .ok ys) : List.Forall₂ (fun x y => f x = .ok y) xs ys := by
  induction xs generalizing ys with
  | nil =>
    cases h
    exact .nil
  | cons x xs ih =>
    rw [List.mapM_cons] at h
    cases hx : f x with
    | error e =>
      rw [hx] at h
      cases h
    | ok y =>
      cases hxs : xs.mapM f with
      | error e =>
        rw [hx,hxs] at h
        cases h
      | ok zs =>
        rw [hx,hxs] at h
        cases h
        exact .cons hx (ih hxs)

namespace Permalink

/-- The text of a custom field is the slug of its value, and no character of it has a meaning in a path
or in a template. -/
theorem segmentText_custom {a : Article} {name : String} {u : List Char}
    (h : segmentText a (.field (.custom name)) = .ok u) :
    (∃ v s, a.data.get? name = some v ∧ v.slug? = some s ∧ u = s.toList) ∧
      ∀ c ∈ ['/', ':', '%'], c ∉ u := by
  rw [segmentText,fieldText] at h
  cases htext : customText a.data name with
  | error lack =>
    rw [htext] at h
    cases h
  | ok text =>
    rw [htext] at h
    cases h
    obtain ⟨v,hv,-,hs,-⟩ := customText_eq_ok_iff.mp htext
    have hno : (['/', ':', '%'].all fun c => !(Slug.isSlugChar c || c == '-')) = true := by decide
    refine ⟨⟨v,text,hv,hs,rfl⟩,fun c hc hmem => ?_⟩
    have hout : Slug.isSlugChar c = false ∧ c ≠ '-' := by
      simpa using List.all_eq_true.mp hno c hc
    rcases (Value.isSlug_of_slug? hs).isSlugChar_or hmem with hchar | rfl
    · simp [hout.1] at hchar
    · exact hout.2 rfl

theorem exists_texts_of_resolve {p : Permalink} {a : Article} {text : String}
    (h : p.resolve a = .ok text) : ∃ texts, text.toList = texts.flatten ∧
      List.Forall₂ (fun seg u => segmentText a seg = .ok u) p.segments texts := by
  rw [resolve] at h
  cases hmap : p.segments.mapM (segmentText a) with
  | error lack =>
    rw [hmap] at h
    cases h
  | ok texts =>
    rw [hmap] at h
    cases h
    exact ⟨texts,String.toList_ofList,forall₂_of_mapM hmap⟩

end Permalink

/-- A value has a slug unless it holds a whole number that is too long to be written.  The slugs are the
texts of the grammar, each of which is its own slug; of what characters are taken apart into, this
needs no more than that ASCII stays as it is.  So a slug is its own slug, and where a custom field
stands in a permalink there is no slash, no colon and no percent sign. -/
theorem Value.slug_grammar :
    (∀ v : Value, (v.slug? = none ↔ v.Overlong) ∧
      ∀ s, v.slug? = some s → Slug.IsSlug s.toList ∧ (Value.str s).slug? = some s) ∧
    (∀ s : String, (Value.str s).slug? = some s ↔ Slug.IsSlug s.toList) ∧
    (∃ d : Slug.Decomposition, ∀ v, v.slug? = d.slug? v) ∧
    (∀ d : Slug.Decomposition,
      (∀ v, (d.slug? v = none ↔ v.Overlong) ∧
        ∀ s, d.slug? v = some s → Slug.IsSlug s.toList ∧ d.slug? (.str s) = some s) ∧
      ∀ s, d.slug? (.str s) = some s ↔ Slug.IsSlug s.toList) ∧
    ∀ (p : Permalink) (a : Article) (text : String), p.resolve a = .ok text →
      ∃ texts, text.toList = texts.flatten ∧
        List.Forall₂ (fun seg u => Permalink.segmentText a seg = .ok u ∧
          ∀ name, seg = .field (.custom name) →
            (∃ v s, a.data.get? name = some v ∧ v.slug? = some s ∧ u = s.toList) ∧
              ∀ c ∈ ['/', ':', '%'], c ∉ u) p.segments texts := by
  refine ⟨fun v => ⟨v.slug?_eq_none_iff,fun s h => ?_⟩,fun s => slug?_str_eq_self_iff,
    ⟨.tables,fun v => (Slug.Decomposition.slug?_tables v).symm⟩,
    fun d => ⟨fun v => ⟨d.slug?_eq_none_iff v,fun s h => ?_⟩,fun s => d.slug?_str_eq_self_iff⟩,
    fun p a text h => ?_⟩
  · have hslug := isSlug_of_slug? h
    exact ⟨hslug,slug?_str_eq_self_iff.mpr hslug⟩
  · have hslug := d.isSlug_of_slug? h
    exact ⟨hslug,d.slug?_str_eq_self_iff.mpr hslug⟩
  · obtain ⟨texts,htext,htexts⟩ := Permalink.exists_texts_of_resolve h
    refine ⟨texts,htext,htexts.imp fun seg u hu => ⟨hu,?_⟩⟩
    rintro name rfl
    exact Permalink.segmentText_custom hu

theorem Value.slug_grammar_sample :
    let a : Article := {
      date := .ofDate ⟨2015,7,1,by decide,by decide,by decide⟩
      slug := "x"
      data := [("category",.str "/Cafés: ½ %-ﬁß-")] }
    ∃ p u, Permalink.compile ":category/" = .ok p ∧ p.resolve a = .ok "cafes-12-fi/" ∧
      "cafes-12-fi/".toList = u ++ ['/'] ∧ '/' ∉ u := by
  intro a
  obtain ⟨p,hc,hsegs⟩ : ∃ p, Permalink.compile ":category/" = .ok p ∧
      p.segments = [.field (.custom "category"),.literal ['/']] :=
    ⟨⟨":category/",[.field (.custom "category"),.literal ['/']],["category"]⟩,
      by decide +kernel,rfl⟩
  have hresolve : p.resolve a = .ok "cafes-12-fi/" := by
    rw [Permalink.resolve,hsegs]
    decide +kernel
  obtain ⟨-,-,-,-,hplaces⟩ := Value.slug_grammar
  obtain ⟨texts,htext,htexts⟩ := hplaces p a _ hresolve
  rw [hsegs] at htexts
  cases htexts with
  | @cons _ u _ texts hu hrest =>
    cases hrest with
    | @cons _ v _ texts hv hnil =>
      cases hnil
      obtain rfl : ['/'] = v := Except.ok.inj hv.1
      exact ⟨p,u,hc,hresolve,by simpa using htext,(hu.2 "category" rfl).2 '/' (by simp)⟩

/-- A number with one digit too many has no slug, and the slug of nothing is not that of its text. -/
theorem Value.slug?_unwritten :
    (Value.int Calendar.Numeral.limit).slug? = none ∧
    (Value.list [.int Calendar.Numeral.limit]).slug? = none ∧
    Value.null.text?.map Slug.ofText = some "none" ∧ Value.null.slug? = some "" := by
  have hlong : (Value.int Calendar.Numeral.limit).Overlong := .int (by simp)
  exact ⟨(slug?_eq_none_iff _).mpr hlong,
    (slug?_eq_none_iff _).mpr (.item (List.mem_singleton_self _) hlong),by decide +kernel,rfl⟩

end BlogPaths
