import BlogPaths.Classifier.Promotion
import BlogPaths.Proofs.Captures
import BlogPaths.Proofs.DigitDates
import BlogPaths.Proofs.Expansions

/-! What an article may lack: a day, a slug, or a value that its permalink asks for.  Of a resource
whose fields are proper nothing else can be wrong. -/
namespace BlogPaths

open Calendar

theorem Assigned.IsProper.exists_eq {α : Type} {x : Assigned α} (h : x.IsProper) :
    ∃ a, x = .proper a := by
  cases x with
  | proper a => exact ⟨a,rfl⟩
  | stray v => exact h.elim

/-- The captured texts name a day that exists; a month or a day that is not captured is the first. -/
def Captures.NamesDay (cs : Captures) : Prop :=
  ∃ year, cs.lookup "year" = some year ∧
    IsDate (numberOf year) (numberOrOne (cs.lookup "month")) (numberOrOne (cs.lookup "day"))

def Captures.IsNumeric (cs : Captures) : Prop :=
  ∀ f ∈ [SourceField.year,.month,.day], ∀ t, cs.lookup f.name = some t → IsShortNumeral t

theorem Captures.IsNumeric.ofTexts_eq {cs : Captures} (hn : cs.IsNumeric) {year : String}
    (hy : cs.lookup "year" = some year) :
    Date.ofTexts year (cs.lookup "month") (cs.lookup "day") =
      Date.ofNumbers (numberOf year) (numberOrOne (cs.lookup "month"))
        (numberOrOne (cs.lookup "day")) :=
  ofTexts_of_short (hn .year (by simp) year hy) (hn .month (by simp)) (hn .day (by simp))

/-- What is wrong is how articles are set up: one has no day, or no permalink. -/
def PassError.IsConfiguration : PassError → Prop
  | noDate _ _ => True
  | badDate _ _ fault => fault.IsNoDay
  | permalink _ lack => lack.isConfiguration = true
  | _ => False

/-- What is wrong is that a whole number with too many digits would have to be written. -/
def PassError.IsUnwritten : PassError → Prop
  | permalink _ (.text _) => True
  | value .unwritable => True
  | _ => False

theorem SourceField.isShortNumeral_of_admits {f : SourceField}
    (hf : f ∈ [SourceField.year,.month,.day]) {a : List Char} (ha : f.Admits a) :
    IsShortNumeral (String.ofList a) := by
  have hlength : a.length = 4 ∨ a.length = 2 := by
    cases f <;> simp_all [Admits]
  have hdigits : ∀ c ∈ a, Unicode.isDigit c := by
    cases f <;> simp_all [Admits]
  have hne : a ≠ [] := by
    rintro rfl
    simp at hlength
  refine ⟨?_,?_,?_⟩ <;> rw [String.toList_ofList]
  · exact hne
  · omega
  · exact hdigits

theorem SourceField.ofList_ne_empty {f : SourceField} {a : List Char} (h : f.Admits a) :
    String.ofList a ≠ "" := by
  intro he
  obtain rfl : a = [] := by simpa using congrArg String.toList he
  cases f <;> simp [Admits,IsCode] at h

namespace SourcePattern

variable {p : SourcePattern} {path : String} {m : PathMatch}

theorem captures_of_article? (h : PathMatch.article? p.segments path = some m) :
    ∃ as s, Describes p.segments as s ∧
      p.captures m = captured (Segment.fields p.segments) as := by
  obtain ⟨as,s,_,hd,_,rfl,_⟩ := PathMatch.article?_eq_some h
  exact ⟨as,s,hd,captures_article (length_of_describes hd)⟩

theorem isNumeric_captures (hn : (Segment.fields p.segments).Nodup)
    (h : PathMatch.article? p.segments path = some m) : (p.captures m).IsNumeric := by
  obtain ⟨as,s,hd,hcap⟩ := captures_of_article? h
  intro f hf t ht
  rw [hcap] at ht
  by_cases hmem : f ∈ Segment.fields p.segments
  · obtain ⟨a,hfa,ha⟩ := exists_captured hd hmem
    rw [lookup_captured hn hfa,Option.some.injEq] at ht
    exact ht ▸ SourceField.isShortNumeral_of_admits hf ha
  · rw [lookup_captured_eq_none hmem] at ht
    simp at ht

theorem lookup_year_eq_none (h : PathMatch.article? p.segments path = some m)
    (hy : .year ∉ Segment.fields p.segments) : (p.captures m).lookup "year" = none := by
  obtain ⟨as,s,_,hcap⟩ := captures_of_article? h
  rw [hcap]
  exact lookup_captured_eq_none (f := .year) hy

end SourcePattern

namespace Permalink

def LacksField (lang : Option String) (data : Metadata) : PermalinkField → Prop
  | .lang => lang = none ∨ lang = some ""
  | .custom name => data.get? name = none ∨ data.get? name = some .null ∨
      ∃ v, data.get? name = some v ∧ (v.slug? = some "" ∨ v.Overlong)
  | _ => False

theorem fieldText_eq_error_iff {a : Article} {f : PermalinkField} :
    (∃ lack, fieldText a f = .error lack) ↔ LacksField a.lang a.data f := by
  cases f with
  | lang =>
    cases hl : a.lang with
    | none => simp [fieldText,LacksField,hl]
    | some lang =>
      by_cases he : lang = "" <;> simp [fieldText,LacksField,hl,he]
  | year => simp [fieldText,LacksField]
  | month => simp [fieldText,LacksField]
  | day => simp [fieldText,LacksField]
  | title => simp [fieldText,LacksField]
  | custom name =>
    cases hv : a.data.get? name with
    | none => simp [fieldText,LacksField,customText,hv]
    | some v =>
      simp only [LacksField,hv,← Value.slug?_eq_none_iff]
      by_cases hnull : v = .null
      · simp [fieldText,customText,hv,hnull]
      · rw [fieldText,customText_of_get? hv hnull]
        cases hs : v.slug? with
        | none => simp [hs]
        | some s => by_cases he : s = "" <;> simp [hs,he,hnull]

theorem overlong_of_fieldText {a : Article} {f : PermalinkField} {name : String}
    (h : fieldText a f = .error (.text name)) :
    f = .custom name ∧ ∃ v, a.data.get? name = some v ∧ v.Overlong := by
  cases f with
  | lang =>
    rw [fieldText] at h
    split at h
    · cases h
    · split at h <;> cases h
  | year | month | day | title => cases h
  | custom name' =>
    rcases customText_eq_error_iff.mp h with ⟨heq,_⟩ | ⟨heq,hv⟩ | ⟨heq,_⟩
    · cases heq
    · cases heq
      exact ⟨rfl,hv⟩
    · cases heq

end Permalink

theorem exists_of_mapM_eq_error {α β ε : Type} {f : α → Except ε β} {xs : List α} {e : ε}
    (h : xs.mapM f = .error e) : ∃ x ∈ xs, f x = .error e := by
  induction xs with
  | nil => cases h
  | cons x xs ih =>
    rw [List.mapM_cons] at h
    cases hx : f x with
    | error e' =>
      rw [hx] at h
      cases h
      exact ⟨x,List.mem_cons_self,hx⟩
    | ok b =>
      cases hxs : xs.mapM f with
      | error e' =>
        rw [hx,hxs] at h
        cases h
        obtain ⟨y,hy,he⟩ := ih hxs
        exact ⟨y,List.mem_cons_of_mem _ hy,he⟩
      | ok bs =>
        rw [hx,hxs] at h
        cases h

theorem mapM_eq_error_iff {α β ε : Type} {f : α → Except ε β} {xs : List α} :
    (∃ e, xs.mapM f = .error e) ↔ ∃ x ∈ xs, ∃ e, f x = .error e := by
  induction xs with
  | nil => simp [pure,Except.pure]
  | cons x xs ih =>
    rw [List.mapM_cons]
    cases hx : f x with
    | error e => simp [bind,Except.bind,hx]
    | ok b =>
      have hcons : (∃ y ∈ x :: xs, ∃ e, f y = .error e) ↔ ∃ y ∈ xs, ∃ e, f y = .error e := by
        simp [hx]
      rw [hcons,← ih]
      cases hxs : xs.mapM f <;> simp [bind,Except.bind,pure,Except.pure]

namespace Permalink

theorem resolve_eq_error_iff_mapM {p : Permalink} {a : Article} {lack : PermalinkLack} :
    p.resolve a = .error lack ↔ p.segments.mapM (segmentText a) = .error lack := by
  unfold resolve
  cases p.segments.mapM (segmentText a) <;> simp [bind,Except.bind,pure,Except.pure]

theorem overlong_of_resolve {p : Permalink} {a : Article} {name : String}
    (h : p.resolve a = .error (.text name)) : ∃ v, .custom name ∈ Segment.fields p.segments ∧
      a.data.get? name = some v ∧ v.Overlong := by
  obtain ⟨s,hs,he⟩ := exists_of_mapM_eq_error (resolve_eq_error_iff_mapM.mp h)
  cases s with
  | literal t => cases he
  | field f =>
    have hf : fieldText a f = .error (.text name) := by
      rw [segmentText] at he
      cases ht : fieldText a f with
      | error lack => simpa [ht,Except.map] using he
      | ok t => simp [ht,Except.map] at he
    obtain ⟨rfl,v,hv,hlong⟩ := overlong_of_fieldText hf
    exact ⟨v,List.mem_filterMap.mpr ⟨_,hs,rfl⟩,hv,hlong⟩

/-- An article has no permalink if and only if it has no text for one of the fields. -/
theorem resolve_eq_error_iff {p : Permalink} {a : Article} :
    (∃ lack, p.resolve a = .error lack) ↔
      ∃ f ∈ Segment.fields p.segments, LacksField a.lang a.data f := by
  simp only [resolve_eq_error_iff_mapM]
  have hsegment : ∀ s : Segment PermalinkField, (∃ lack, segmentText a s = .error lack) ↔
      ∃ f, s.field? = some f ∧ LacksField a.lang a.data f := by
    intro s
    cases s with
    | literal t => simp [segmentText,Segment.field?]
    | field f =>
      simp only [segmentText,Segment.field?,Option.some.injEq,exists_eq_left',
        ← fieldText_eq_error_iff]
      cases fieldText a f <;> simp [Except.map]
  rw [mapM_eq_error_iff]
  simp only [hsegment,Segment.fields,List.mem_filterMap]
  constructor
  · rintro ⟨s,hs,f,hf,hl⟩
    exact ⟨f,⟨s,hs,hf⟩,hl⟩
  · rintro ⟨f,⟨s,hs,hf⟩,hl⟩
    exact ⟨s,hs,f,hf,hl⟩

end Permalink

namespace Classifier

variable {c : Classifier} {f : FrontMatter} {path : String} {cs : Captures}

theorem dateOf_eq_ok (c : Classifier) (path : String) (hn : cs.IsNumeric)
    (h : f.date = none → cs.NamesDay) :
    ∃ t, c.dateOf f path cs = .ok t := by
  unfold dateOf
  cases hd : f.date with
  | some t => exact ⟨t,rfl⟩
  | none =>
    obtain ⟨year,hy,hdate⟩ := h hd
    exact ⟨_,by simp only [hy,hn.ofTexts_eq hy,ofNumbers_of_isDate hdate]; rfl⟩

theorem dateOf_eq_error (c : Classifier) (path : String) (hn : cs.IsNumeric) (hd : f.date = none)
    (h : ¬ cs.NamesDay) :
    ∃ e, c.dateOf f path cs = .error e ∧ e.IsConfiguration := by
  unfold dateOf
  rw [hd]
  cases hy : cs.lookup "year" with
  | none => exact ⟨_,rfl,trivial⟩
  | some year =>
    have hdate : ¬ IsDate (numberOf year) (numberOrOne (cs.lookup "month"))
        (numberOrOne (cs.lookup "day")) := fun hdate => h ⟨year,hy,hdate⟩
    obtain ⟨fault,hfault,hno⟩ := ofNumbers_of_not_isDate hdate
    exact ⟨.badDate path c.pattern.template fault,by simp only [hn.ofTexts_eq hy,hfault],hno⟩

def languageForm (c : Classifier) : Option String → Option String :=
  if c.preserveLocale then id else c.policy.apply

theorem languageOf_of_given {lang : Option String}
    (h : givenLanguage f cs = .proper lang) :
    c.languageOf f cs = .ok (.proper (c.languageForm lang)) := by
  unfold languageOf languageForm
  rw [h]
  cases c.preserveLocale <;> rfl

theorem languageOf_eq_ok (c : Classifier) (cs : Captures) (hf : f.IsProper) :
    ∃ lang, c.languageOf f cs = .ok (.proper lang) := by
  have hgiven : ∃ lang, givenLanguage f cs = .proper lang := by
    obtain ⟨lang,hlang⟩ := hf.2.1.exists_eq
    unfold givenLanguage
    rw [hlang]
    split
    · split
      · exact ⟨lang,rfl⟩
      · exact ⟨_,rfl⟩
    · exact ⟨lang,rfl⟩
  obtain ⟨lang,hlang⟩ := hgiven
  exact ⟨_,languageOf_of_given hlang⟩

def GivesNoSlug (f : FrontMatter) : Prop := f.slug = .proper none ∨ f.slug = .proper (some "")

def CapturesNoTitle (cs : Captures) : Prop :=
  cs.lookup "title" = none ∨ cs.lookup "title" = some ""

theorem titleSlug_eq_metadataSlug (h : CapturesNoTitle cs) : titleSlug f cs = metadataSlug f := by
  rcases h with h | h <;> simp [titleSlug,h]

theorem titleSlug_eq_ok (h : ¬ CapturesNoTitle cs) :
    ∃ s, cs.lookup "title" = some s ∧ s ≠ "" ∧ titleSlug f cs = .ok s := by
  unfold titleSlug
  cases ht : cs.lookup "title" with
  | none => exact absurd (.inl ht) h
  | some s =>
    have hs : s ≠ "" := fun he => h (.inr (he ▸ ht))
    exact ⟨s,rfl,hs,if_neg hs⟩

theorem slugOf_eq_titleSlug (h : GivesNoSlug f) :
    slugOf f cs = (titleSlug f cs).map .proper := by
  rcases h with h | h <;> simp [slugOf,h]

theorem slugOf_eq_slug (cs : Captures) (hf : f.slug.IsProper) (h : ¬ GivesNoSlug f) :
    ∃ s, f.slug = .proper (some s) ∧ s ≠ "" ∧ slugOf f cs = .ok (.proper s) := by
  obtain ⟨given,hgiven⟩ := hf.exists_eq
  unfold slugOf
  rw [hgiven]
  cases given with
  | none => exact absurd (.inl hgiven) h
  | some s =>
    have hs : s ≠ "" := fun he => h (.inr (he ▸ hgiven))
    exact ⟨s,rfl,hs,if_neg hs⟩

/-- The slug is to be made of a title in the metadata that is not written. -/
structure TitleUnwritten (f : FrontMatter) (cs : Captures) : Prop where
  no_slug : GivesNoSlug f
  no_title : CapturesNoTitle cs
  overlong : ∃ data v, f.data = .proper data ∧ data.get? "title" = some v ∧ v.Overlong

theorem metadataSlug_cases {data : Metadata} (hd : f.data = .proper data) :
    ((∃ v, data.get? "title" = some v ∧ v.Overlong) ∧ metadataSlug f = .error .unwritable) ∨
    ((¬ ∃ v, data.get? "title" = some v ∧ v.Overlong) ∧ ∃ slug, metadataSlug f = .ok slug) := by
  cases hv : data.get? "title" with
  | none => exact .inr ⟨by simp,"",by simp [metadataSlug,hd,hv]⟩
  | some v =>
    simp only [Option.some.injEq,exists_eq_left',← Value.slug?_eq_none_iff]
    cases hs : v.slug? with
    | none => exact .inl ⟨rfl,by simp [metadataSlug,hd,hv,hs]⟩
    | some s => exact .inr ⟨by simp,s,by simp [metadataSlug,hd,hv,hs]⟩

theorem slugOf_cases (cs : Captures) (hf : f.IsProper) :
    (TitleUnwritten f cs ∧ slugOf f cs = .error .unwritable) ∨
    (¬ TitleUnwritten f cs ∧ ∃ slug, slugOf f cs = .ok (.proper slug)) := by
  obtain ⟨_,_,hs,_,_,hd⟩ := hf
  obtain ⟨data,hdata⟩ := hd.exists_eq
  by_cases hslug : GivesNoSlug f
  · rw [slugOf_eq_titleSlug hslug]
    by_cases htitle : CapturesNoTitle cs
    · rw [titleSlug_eq_metadataSlug htitle]
      rcases metadataSlug_cases hdata with ⟨⟨v,hv,hlong⟩,he⟩ | ⟨hno,slug,hok⟩
      · exact .inl ⟨⟨hslug,htitle,data,v,hdata,hv,hlong⟩,by rw [he]; rfl⟩
      · refine .inr ⟨fun ⟨_,_,data',v,hdata',hv,hlong⟩ => hno ⟨v,?_,hlong⟩,slug,by rw [hok]; rfl⟩
        rw [hdata,Assigned.proper.injEq] at hdata'
        rwa [hdata']
    · obtain ⟨s,_,_,ht⟩ := titleSlug_eq_ok (f := f) htitle
      exact .inr ⟨fun h => htitle h.no_title,s,by rw [ht]; rfl⟩
  · obtain ⟨s,_,_,ht⟩ := slugOf_eq_slug cs hs hslug
    exact .inr ⟨fun h => hslug h.no_slug,s,ht⟩

theorem promote_of_dateOf_error (hf : f.IsProper) {e : PassError}
    (hd : c.dateOf f path cs = .error e) : c.promote f path cs = .broken e := by
  obtain ⟨lang,hl⟩ := c.languageOf_eq_ok cs hf
  simp [promote,hl,articleOf,hd,bind,Except.bind]

theorem promote_of_slugOf_error (hf : f.IsProper) {t : Timestamp} {fault : ValueFault}
    (hd : c.dateOf f path cs = .ok t) (hs : slugOf f cs = .error fault) :
    c.promote f path cs = .broken (.value fault) := by
  obtain ⟨lang,hl⟩ := c.languageOf_eq_ok cs hf
  simp [promote,hl,articleOf,hd,hs,bind,Except.bind,Except.mapError]

theorem promote_of_slugOf_ok (hf : f.IsProper) {t : Timestamp} {slug : String}
    (hd : c.dateOf f path cs = .ok t) (hs : slugOf f cs = .ok (.proper slug)) :
    ∃ a, c.promote f path cs = .complete a ∧ c.languageOf f cs = .ok (.proper a.lang) ∧
      a.date = t ∧ a.slug = slug ∧ f.data = .proper a.data := by
  obtain ⟨lang,hl⟩ := c.languageOf_eq_ok cs hf
  obtain ⟨_,_,_,ht,_,hm⟩ := hf
  obtain ⟨tags,htags⟩ := ht.exists_eq
  obtain ⟨data,hdata⟩ := hm.exists_eq
  refine ⟨{ lang, date := t, slug, tags, data, captures := cs },?_,hl,rfl,rfl,hdata⟩
  simp only [promote,hl,articleOf,hd,hs,htags,hdata,bind,Except.bind]
  rfl

theorem of_promote_eq_complete (hf : f.IsProper) {a : Article}
    (h : c.promote f path cs = .complete a) :
    c.dateOf f path cs = .ok a.date ∧ slugOf f cs = .ok (.proper a.slug) ∧
      c.languageOf f cs = .ok (.proper a.lang) ∧ f.data = .proper a.data := by
  cases hd : c.dateOf f path cs with
  | error e =>
    rw [promote_of_dateOf_error hf hd] at h
    cases h
  | ok t =>
    rcases slugOf_cases cs hf with ⟨-,hs⟩ | ⟨-,slug,hs⟩
    · rw [promote_of_slugOf_error hf hd hs] at h
      cases h
    · obtain ⟨b,hb,hl,rfl,rfl,hdata⟩ := promote_of_slugOf_ok hf hd hs
      obtain rfl := Promotion.complete.inj (hb.symm.trans h)
      exact ⟨rfl,hs,hl,hdata⟩

/-- Without a day, or with a title that is not written, a resource is claimed, but no article; with a
day and a slug it becomes one. -/
theorem promote_cases (c : Classifier) (path : String) (hf : f.IsProper) (hn : cs.IsNumeric) :
    (f.date = none ∧ ¬ cs.NamesDay ∧ ∃ e, c.promote f path cs = .broken e ∧ e.IsConfiguration) ∨
    ((f.date = none → cs.NamesDay) ∧ TitleUnwritten f cs ∧
      c.promote f path cs = .broken (.value .unwritable)) ∨
    ((f.date = none → cs.NamesDay) ∧ ¬ TitleUnwritten f cs ∧
      ∃ a, c.promote f path cs = .complete a ∧
        c.languageOf f cs = .ok (.proper a.lang) ∧ f.data = .proper a.data) := by
  by_cases h : f.date = none → cs.NamesDay
  · obtain ⟨t,ht⟩ := c.dateOf_eq_ok path hn h
    rcases slugOf_cases cs hf with ⟨hlong,hs⟩ | ⟨hlong,slug,hs⟩
    · exact .inr (.inl ⟨h,hlong,promote_of_slugOf_error hf ht hs⟩)
    · obtain ⟨a,ha,hl,-,-,hdata⟩ := promote_of_slugOf_ok hf ht hs
      exact .inr (.inr ⟨h,hlong,a,ha,hl,hdata⟩)
  · obtain ⟨hd,hno⟩ := Classical.not_imp.mp h
    obtain ⟨e,he,hconf⟩ := c.dateOf_eq_error path hn hd hno
    exact .inl ⟨hd,hno,e,promote_of_dateOf_error hf he,hconf⟩

end Classifier

end BlogPaths
