import BlogPaths.Proofs.TemplatePieces

/-! The permalink that a template and an article make, and what an article lacks if they make none. -/
namespace BlogPaths

namespace Permalink

open PermalinkField

theorem customText_eq_ok_iff {data : Metadata} {name text : String} :
    customText data name = .ok text ↔
      ∃ v, data.get? name = some v ∧ v ≠ .null ∧ v.slug? = some text ∧ text ≠ "" := by
  cases hv : data.get? name with
  | none => simp [customText,hv]
  | some v =>
    by_cases hnull : v = .null
    · simp [customText,hv,hnull]
    · rw [customText_of_get? hv hnull]
      cases hs : v.slug? with
      | none => simp [hs]
      | some s =>
        by_cases he : s = ""
        · simp +contextual [hs,he,eq_comm]
        · simp +contextual [hs,hnull,he,eq_comm]

theorem customText_eq_error_iff {data : Metadata} {name : String} {lack : PermalinkLack} :
    customText data name = .error lack ↔
      (.metadata name = lack ∧ (data.get? name = none ∨ data.get? name = some .null)) ∨
      (.text name = lack ∧ ∃ v, data.get? name = some v ∧ v.Overlong) ∨
      (.slug name = lack ∧ ∃ v, data.get? name = some v ∧ v ≠ .null ∧ v.slug? = some "") := by
  cases hv : data.get? name with
  | none => simp [customText,hv]
  | some v =>
    simp only [Option.some.injEq,exists_eq_left',← Value.slug?_eq_none_iff]
    by_cases hnull : v = .null
    · simp [customText,hv,hnull]
    · rw [customText_of_get? hv hnull]
      cases hs : v.slug? with
      | none => simp [hnull]
      | some s => by_cases he : s = "" <;> simp [hnull,he]

section

variable {a : Article}

theorem fieldText_eq_ok_iff {name text : String} :
    fieldText a (ofName name) = .ok text ↔ Shows a name text.toList := by
  constructor
  · intro h
    rcases ofName_cases name with ⟨rfl,hf⟩ | ⟨rfl,hf⟩ | ⟨rfl,hf⟩ | ⟨rfl,hf⟩ | ⟨rfl,hf⟩ | ⟨hn,hf⟩
    · rw [hf,fieldText] at h
      split at h
      · cases h
      · rename_i lang hl
        split at h
        · cases h
        · rename_i hne
          cases h
          exact .lang hl hne
    · cases h
      rw [String.toList_ofList]
      exact .year
    · cases h
      rw [String.toList_ofList]
      exact .month
    · cases h
      rw [String.toList_ofList]
      exact .day
    · cases h
      exact .title
    · rw [hf,fieldText,customText_eq_ok_iff] at h
      obtain ⟨v,hv,hnull,hs,hne⟩ := h
      exact .custom hn hv hnull hs hne
  · intro h
    generalize ht : text.toList = t at h
    have htext : text = String.ofList t := by rw [← ht,String.ofList_toList]
    rw [htext]
    cases h with
    | lang hl hne => simp [ofName,fieldText,hl,hne]
    | year => rfl
    | month => rfl
    | day => rfl
    | title => simp [ofName,fieldText]
    | custom hn hv hnull hs hne =>
      rw [ofName_of_notMem hn,fieldText,customText_eq_ok_iff,String.ofList_toList]
      exact ⟨_,hv,hnull,hs,hne⟩

theorem shows_iff {name : String} {u : List Char} :
    Shows a name u ↔ fieldText a (ofName name) = .ok (String.ofList u) := by
  rw [fieldText_eq_ok_iff,String.toList_ofList]

theorem fieldText_ofName_eq_error_iff {name : String} {lack : PermalinkLack} :
    fieldText a (ofName name) = .error lack ↔ lack.field = name ∧ IsLackOf a lack := by
  constructor
  · intro h
    rcases ofName_cases name with ⟨rfl,hf⟩ | ⟨rfl,hf⟩ | ⟨rfl,hf⟩ | ⟨rfl,hf⟩ | ⟨rfl,hf⟩ | ⟨hn,hf⟩
    · rw [hf,fieldText] at h
      split at h
      · rename_i hl
        cases h
        exact ⟨rfl,.inl hl⟩
      · rename_i hl
        split at h
        · rename_i he
          cases h
          exact ⟨rfl,.inr (he ▸ hl)⟩
        · cases h
    · cases h
    · cases h
    · cases h
    · cases h
    · rw [hf,fieldText,customText_eq_error_iff] at h
      rcases h with ⟨rfl,hv⟩ | ⟨rfl,hv⟩ | ⟨rfl,hv⟩
      · exact ⟨rfl,hn,hv⟩
      · exact ⟨rfl,hn,hv⟩
      · exact ⟨rfl,hn,hv⟩
  · rintro ⟨rfl,h⟩
    cases lack with
    | language =>
      rcases h with h | h <;> simp [PermalinkLack.field,ofName,fieldText,h]
    | metadata name =>
      rw [PermalinkLack.field,ofName_of_notMem h.1,fieldText,customText_eq_error_iff]
      exact .inl ⟨rfl,h.2⟩
    | text name =>
      rw [PermalinkLack.field,ofName_of_notMem h.1,fieldText,customText_eq_error_iff]
      exact .inr (.inl ⟨rfl,h.2⟩)
    | slug name =>
      rw [PermalinkLack.field,ofName_of_notMem h.1,fieldText,customText_eq_error_iff]
      exact .inr (.inr ⟨rfl,h.2⟩)

theorem spells_value_iff {name : String} {ps : List Piece} {t : List Char} :
    Spells a (.value name :: ps) t ↔ ∃ u v, t = u ++ v ∧ Shows a name u ∧ Spells a ps v := by
  constructor
  · intro h
    cases h with
    | value hs h => exact ⟨_,_,rfl,hs,h⟩
  · rintro ⟨u,v,rfl,hs,h⟩
    exact .value hs h

theorem spells_text_iff {x : List Char} {ps : List Piece} {t : List Char} :
    Spells a (x.map .char ++ ps) t ↔ ∃ v, t = x ++ v ∧ Spells a ps v := by
  induction x generalizing t with
  | nil => simp
  | cons c x ih =>
    constructor
    · intro h
      cases h with
      | char h =>
        obtain ⟨v,rfl,hv⟩ := ih.mp h
        exact ⟨v,rfl,hv⟩
    · rintro ⟨v,rfl,hv⟩
      exact .char (ih.mpr ⟨v,rfl,hv⟩)

theorem firstLack_text_iff {x : List Char} {ps : List Piece} {lack : PermalinkLack} :
    FirstLack a (x.map .char ++ ps) lack ↔ FirstLack a ps lack := by
  induction x with
  | nil => rfl
  | cons c x ih =>
    rw [← ih,List.map_cons,List.cons_append]
    constructor
    · rintro ⟨before,behind,hps,hlack,hbefore⟩
      cases before with
      | nil => cases hps
      | cons p before =>
        obtain ⟨-,htail⟩ := List.cons.inj hps
        exact ⟨before,behind,htail,hlack,fun name h => hbefore name (List.mem_cons_of_mem _ h)⟩
    · rintro ⟨before,behind,hps,hlack,hbefore⟩
      refine ⟨.char c :: before,behind,by rw [hps]; rfl,hlack,fun name h => ?_⟩
      exact hbefore name (by simpa using h)

theorem firstLack_value_iff {name : String} {ps : List Piece} {lack : PermalinkLack} :
    FirstLack a (.value name :: ps) lack ↔
      (lack.field = name ∧ IsLackOf a lack) ∨ ((∃ u, Shows a name u) ∧ FirstLack a ps lack) := by
  constructor
  · rintro ⟨before,behind,hps,hlack,hbefore⟩
    cases before with
    | nil =>
      obtain ⟨hname,_⟩ := List.cons.inj hps
      exact .inl ⟨(Piece.value.inj hname).symm,hlack⟩
    | cons p before =>
      obtain ⟨rfl,htail⟩ := List.cons.inj hps
      exact .inr ⟨hbefore name List.mem_cons_self,before,behind,htail,hlack,
        fun name' h => hbefore name' (List.mem_cons_of_mem _ h)⟩
  · rintro (⟨rfl,hlack⟩ | ⟨hshows,before,behind,rfl,hlack,hbefore⟩)
    · exact ⟨[],ps,rfl,hlack,by simp⟩
    · refine ⟨.value name :: before,behind,rfl,hlack,fun name' h => ?_⟩
      rcases List.mem_cons.mp h with heq | h
      · exact Piece.value.inj heq ▸ hshows
      · exact hbefore name' h

theorem shows_or_isLackOf (a : Article) (name : String) :
    (∃ u, Shows a name u) ∨ ∃ lack, lack.field = name ∧ IsLackOf a lack := by
  cases h : fieldText a (ofName name) with
  | ok text => exact .inl ⟨_,fieldText_eq_ok_iff.mp h⟩
  | error lack => exact .inr ⟨lack,fieldText_ofName_eq_error_iff.mp h⟩

theorem exists_firstLack_iff {ps : List Piece} :
    (∃ lack, FirstLack a ps lack) ↔ ∃ lack, .value lack.field ∈ ps ∧ IsLackOf a lack := by
  constructor
  · rintro ⟨lack,before,behind,rfl,hlack,_⟩
    exact ⟨lack,by simp,hlack⟩
  · rintro ⟨lack,hmem,hlack⟩
    induction ps with
    | nil => cases hmem
    | cons p ps ih =>
      cases p with
      | char c =>
        obtain ⟨first,h⟩ := ih (by simpa using hmem)
        exact ⟨first,firstLack_text_iff (x := [c]).mpr h⟩
      | value name =>
        rcases shows_or_isLackOf a name with hshows | ⟨first,hname,hfirst⟩
        · rcases List.mem_cons.mp hmem with hname | hmem
          · exact ⟨lack,firstLack_value_iff.mpr (.inl ⟨Piece.value.inj hname,hlack⟩)⟩
          · obtain ⟨first,h⟩ := ih hmem
            exact ⟨first,firstLack_value_iff.mpr (.inr ⟨hshows,h⟩)⟩
        · exact ⟨first,firstLack_value_iff.mpr (.inl ⟨hname,hfirst⟩)⟩

def joined (a : Article) (segs : List (Segment PermalinkField)) : Except PermalinkLack (List Char) :=
  (segs.mapM (segmentText a)).map List.flatten

theorem joined_cons (s : Segment PermalinkField) (segs : List (Segment PermalinkField)) :
    joined a (s :: segs) =
      (segmentText a s).bind fun u => (joined a segs).map (u ++ ·) := by
  simp only [joined,List.mapM_cons]
  cases segmentText a s with
  | error lack => rfl
  | ok u => cases segs.mapM (segmentText a) <;> rfl

theorem joined_literal (t : List Char) (segs : List (Segment PermalinkField)) :
    joined a (.literal t :: segs) = (joined a segs).map (t ++ ·) := joined_cons _ _

theorem joined_field (f : PermalinkField) (segs : List (Segment PermalinkField)) :
    joined a (.field f :: segs) =
      (fieldText a f).bind fun u => (joined a segs).map (u.toList ++ ·) := by
  rw [joined_cons,segmentText]
  cases fieldText a f <;> rfl

theorem resolve_eq (p : Permalink) (a : Article) :
    p.resolve a = (joined a p.segments).map String.ofList := by
  unfold resolve joined
  cases p.segments.mapM (segmentText a) <;> rfl

theorem joined_eq_ok_iff {segs : List (Segment PermalinkField)} (h : IsNamed segs)
    {t : List Char} : joined a segs = .ok t ↔ Spells a (segs.flatMap segmentPieces) t := by
  induction segs generalizing t with
  | nil =>
    constructor
    · rintro ⟨⟩
      exact .nil
    · rintro ⟨⟩
      rfl
  | cons s segs ih =>
    cases s with
    | literal x =>
      rw [joined_literal,List.flatMap_cons,segmentPieces,spells_text_iff]
      simp only [← ih h]
      cases joined a segs <;> simp [Except.map,eq_comm]
    | field f =>
      obtain ⟨hf,hsegs⟩ := List.forall_mem_cons.mp h
      rw [joined_field,← hf,List.flatMap_cons,segmentPieces,List.singleton_append,name_ofName,
        spells_value_iff]
      simp only [← ih hsegs,shows_iff]
      cases fieldText a (ofName f.name) with
      | error lack => simp [Except.bind]
      | ok text =>
        cases joined a segs with
        | error lack => simp [Except.bind,Except.map]
        | ok v =>
          simp only [Except.bind,Except.map,Except.ok.injEq]
          constructor
          · rintro rfl
            exact ⟨text.toList,v,rfl,String.ofList_toList.symm,rfl⟩
          · rintro ⟨u,_,rfl,rfl,rfl⟩
            rw [String.toList_ofList]

theorem joined_eq_error_iff {segs : List (Segment PermalinkField)} (h : IsNamed segs)
    {lack : PermalinkLack} :
    joined a segs = .error lack ↔ FirstLack a (segs.flatMap segmentPieces) lack := by
  induction segs with
  | nil =>
    constructor
    · rintro ⟨⟩
    · rintro ⟨before,behind,hps,_⟩
      simp at hps
  | cons s segs ih =>
    cases s with
    | literal x =>
      rw [joined_literal,List.flatMap_cons,segmentPieces,firstLack_text_iff,← ih h]
      cases joined a segs <;> simp [Except.map]
    | field f =>
      obtain ⟨hf,hsegs⟩ := List.forall_mem_cons.mp h
      rw [joined_field,← hf,List.flatMap_cons,segmentPieces,List.singleton_append,name_ofName,
        firstLack_value_iff,← ih hsegs,← fieldText_ofName_eq_error_iff]
      simp only [shows_iff]
      cases fieldText a (ofName f.name) with
      | error lack => simp [Except.bind]
      | ok text =>
        have hshows : ∃ u, text = String.ofList u := ⟨_,String.ofList_toList.symm⟩
        cases joined a segs <;> simp [Except.bind,Except.map,hshows]

theorem joined_congr {a' : Article} {segs : List (Segment PermalinkField)}
    (h : ∀ f ∈ Segment.fields segs, fieldText a f = fieldText a' f) :
    joined a segs = joined a' segs := by
  induction segs with
  | nil => rfl
  | cons s segs ih =>
    cases s with
    | literal t => rw [joined_literal,joined_literal,ih h]
    | field f =>
      obtain ⟨hf,hsegs⟩ := List.forall_mem_cons.mp h
      rw [joined_field,joined_field,hf,ih hsegs]

theorem fieldText_congr {a' : Article} {f : PermalinkField} (hl : a.lang = a'.lang)
    (hd : a.date = a'.date) (hs : a.slug = a'.slug)
    (hdata : ∀ name, f.custom? = some name → a.data.get? name = a'.data.get? name) :
    fieldText a f = fieldText a' f := by
  cases f with
  | lang => rw [fieldText,fieldText,hl]
  | year => rw [fieldText,fieldText,hd]
  | month => rw [fieldText,fieldText,hd]
  | day => rw [fieldText,fieldText,hd]
  | title => rw [fieldText,fieldText,hs]
  | custom name => rw [fieldText,fieldText,customText,customText,hdata name rfl]

end

section

variable {template : String} {p : Permalink} {a : Article}

theorem resolve_eq_ok_iff (hc : Permalink.compile template = .ok p) {text : String} :
    p.resolve a = .ok text ↔ Spells a p.pieces text.toList := by
  rw [pieces,← joined_eq_ok_iff (isNamed_of_compile hc),resolve_eq]
  cases joined a p.segments with
  | error lack => simp [Except.map]
  | ok t =>
    simp only [Except.map,Except.ok.injEq]
    constructor
    · rintro rfl
      exact String.toList_ofList.symm
    · rintro rfl
      exact String.ofList_toList

theorem resolve_eq_error_iff_firstLack (hc : Permalink.compile template = .ok p)
    {lack : PermalinkLack} : p.resolve a = .error lack ↔ FirstLack a p.pieces lack := by
  rw [pieces,← joined_eq_error_iff (isNamed_of_compile hc),resolve_eq]
  cases joined a p.segments <;> simp [Except.map]

theorem resolve_congr {a' : Article} (hl : a.lang = a'.lang) (hd : a.date = a'.date)
    (hs : a.slug = a'.slug)
    (hdata : ∀ name ∈ customs p.segments, a.data.get? name = a'.data.get? name) :
    p.resolve a = p.resolve a' := by
  rw [resolve_eq,resolve_eq,joined_congr fun f hf => fieldText_congr hl hd hs fun name hname =>
    hdata name (List.mem_filterMap.mpr ⟨f,hf,hname⟩)]

end

/-- Where no custom field that is asked for is too long to be written, all that is lacking is reported as
an error of the configuration. -/
theorem isConfiguration_of_firstLack {a : Article} {ps : List Piece} {lack : PermalinkLack}
    (hw : ∀ name v, .value name ∈ ps → name ∉ fixedNames → a.data.get? name = some v →
      ¬ v.Overlong) (h : FirstLack a ps lack) : lack.isConfiguration = true := by
  cases lack with
  | language | metadata | slug => rfl
  | text name =>
    obtain ⟨before,behind,rfl,⟨hn,v,hv,hlong⟩,-⟩ := h
    exact absurd hlong (hw name v (by simp [PermalinkLack.field]) hn hv)

/-- A permalink is its template, read from the left: text as it stands, and the values of an article
in the places that ask for them, as they are.  The article has none if and only if it lacks a value
that is asked for, and what is reported is the first; it is an error of the configuration unless that
value is too long to be written.  Of the metadata nothing counts but the custom fields asked for, each
of which is listed once, in the order of their first use. -/
theorem resolve_spells {template : String} {p : Permalink}
    (hc : Permalink.compile template = .ok p) :
    (∃ ps, Reads [] template.toList ps ∧ (∀ qs, Reads [] template.toList qs → qs = ps) ∧
      ∀ a, (∀ text, p.resolve a = .ok text ↔ Spells a ps text.toList) ∧
        (∀ lack, p.resolve a = .error lack ↔ FirstLack a ps lack) ∧
        ((∃ lack, p.resolve a = .error lack) ↔
          ∃ lack, .value lack.field ∈ ps ∧ IsLackOf a lack) ∧
        ((∀ name v, .value name ∈ ps → name ∉ fixedNames → a.data.get? name = some v →
            ¬ v.Overlong) →
          ((∃ lack, p.resolve a = .error lack ∧ lack.isConfiguration = true) ↔
            ∃ lack, .value lack.field ∈ ps ∧ IsLackOf a lack))) ∧
    p.customComponents = (Segment.fields p.segments).filterMap PermalinkField.custom? ∧
    p.customComponents.Nodup ∧
    ∀ a a', a.lang = a'.lang → a.date = a'.date → a.slug = a'.slug →
      (∀ name ∈ p.customComponents, a.data.get? name = a'.data.get? name) →
      p.resolve a = p.resolve a' := by
  obtain ⟨hcustoms,hnodup⟩ := customComponents_of_compile hc
  refine ⟨⟨p.pieces,reads_pieces hc,fun qs hq => hq.unique (reads_pieces hc),fun a => ?_⟩,
    hcustoms,hnodup,fun a a' hl hd hs hdata => ?_⟩
  · have hfirst : ∀ lack, p.resolve a = .error lack ↔ FirstLack a p.pieces lack :=
      fun lack => resolve_eq_error_iff_firstLack hc
    have hlacks : (∃ lack, p.resolve a = .error lack) ↔
        ∃ lack, .value lack.field ∈ p.pieces ∧ IsLackOf a lack := by
      rw [← exists_firstLack_iff]
      exact exists_congr hfirst
    refine ⟨fun text => resolve_eq_ok_iff hc,hfirst,hlacks,fun hw => ?_⟩
    rw [← hlacks]
    refine exists_congr fun lack => and_iff_left_of_imp fun he => ?_
    exact isConfiguration_of_firstLack hw ((hfirst lack).mp he)
  · rw [hcustoms] at hdata
    exact resolve_congr hl hd hs hdata

theorem resolve_spells_sample :
    ∃ p, Permalink.compile ":title/:lang:title" = .ok p ∧
      let day := .ofDate ⟨2015,7,1,by decide,by decide,by decide⟩
      p.resolve { lang := some "en",date := day,slug := ":year" } = .ok ":year/en:title" ∧
      p.resolve { date := day,slug := ":year" } = .error .language := by
  obtain ⟨p,hc⟩ : ∃ p, Permalink.compile ":title/:lang:title" = .ok p :=
    ⟨_,if_neg (by decide)⟩
  have htitle : StartsWithName "title/:lang:title".toList "title" "/:lang:title".toList :=
    startsWithName_iff.mpr ⟨by decide,rfl,rfl⟩
  have hlang : StartsWithName "lang:title".toList "lang" ":title".toList :=
    startsWithName_iff.mpr ⟨by decide,rfl,rfl⟩
  have hagain : StartsWithName "title".toList "title" [] :=
    startsWithName_iff.mpr ⟨by decide,rfl,rfl⟩
  have hreads : Reads [] ":title/:lang:title".toList
      (.value "title" :: .char '/' :: .value "lang" :: ":title".toList.map .char) :=
    .value htitle (.inr (by decide)) (.char (fun h => absurd h (by decide))
      (.value hlang (.inl (by decide)) (.again hagain (by decide) (by decide) .nil)))
  obtain ⟨⟨ps,_,hunique,hresolve⟩,_⟩ := resolve_spells hc
  obtain rfl := hunique _ hreads
  refine ⟨p,hc,((hresolve _).1 _).mpr ?_,((hresolve _).2.1 _).mpr ?_⟩
  · have htext : ":year/en:title".toList =
        ":year".toList ++ '/' :: ("en".toList ++ (":title".toList ++ [])) := rfl
    rw [htext,← List.append_nil (":title".toList.map Piece.char)]
    exact .value .title (.char (.value (.lang rfl (by decide))
      (spells_text_iff.mpr ⟨[],rfl,.nil⟩)))
  · refine ⟨[.value "title",.char '/'],_,rfl,.inl rfl,fun name h => ?_⟩
    obtain rfl : name = "title" := by simpa using h
    exact ⟨_,.title⟩

end Permalink

/-! Metadata with a number that has one digit too many, and two dates of one instant. -/
namespace Sample

open Calendar

def countless : Article where
  date := .ofDate ⟨2015,7,1,by decide,by decide,by decide⟩
  slug := "x"
  data := [("a",.int Numeral.limit)]

def eve : Article where
  date := {
    date := ⟨2000,12,31,by decide,by decide,by decide⟩
    hour := 23
    zone := some (.fixed 0) }
  slug := "x"

def newYear : Article where
  date := {
    date := ⟨2001,1,1,by decide,by decide,by decide⟩
    zone := some (.fixed 3600000000) }
  slug := "x"

end Sample

/-- What is not written is reported before what is missing, and not as an error of the configuration;
and articles of one instant have different permalinks if their dates say different things of it. -/
theorem Permalink.resolve_unwritten :
    (∃ p, Permalink.compile ":a/:b/" = .ok p ∧
      .value "b" ∈ p.pieces ∧ IsLackOf Sample.countless (.metadata "b") ∧
      p.resolve Sample.countless = .error (.text "a") ∧
      PermalinkLack.isConfiguration (.text "a") = false) ∧
    ∃ p, Permalink.compile ":year/" = .ok p ∧
      Sample.eve.date.instant = Sample.newYear.date.instant ∧
      Sample.eve.lang = Sample.newYear.lang ∧ Sample.eve.slug = Sample.newYear.slug ∧
      Sample.eve.data = Sample.newYear.data ∧
      p.resolve Sample.eve = .ok "2000/" ∧ p.resolve Sample.newYear = .ok "2001/" := by
  constructor
  · obtain ⟨p,hc⟩ : ∃ p, Permalink.compile ":a/:b/" = .ok p := ⟨_,if_neg (by decide)⟩
    have hpieces : p.pieces = [.value "a",.char '/',.value "b",.char '/'] := by
      rw [pieces,(segments_of_compile hc).1]
      decide +kernel
    refine ⟨p,hc,by simp [hpieces],⟨by decide,.inl rfl⟩,?_,rfl⟩
    rw [resolve_eq_error_iff_firstLack hc,hpieces]
    exact ⟨[],_,rfl,⟨by decide,_,rfl,.int (by simp)⟩,by simp⟩
  · obtain ⟨p,hc⟩ : ∃ p, Permalink.compile ":year/" = .ok p := ⟨_,if_neg (by decide)⟩
    have hpieces : p.pieces = [.value "year",.char '/'] := by
      rw [pieces,(segments_of_compile hc).1]
      decide +kernel
    have hyear : ∀ a : Article, Spells a p.pieces (Calendar.padded 4 a.date.date.year ++ ['/']) := by
      intro a
      rw [hpieces]
      exact .value .year (.char .nil)
    exact ⟨p,hc,by decide,rfl,rfl,rfl,(resolve_eq_ok_iff hc).mpr (hyear Sample.eve),
      (resolve_eq_ok_iff hc).mpr (hyear Sample.newYear)⟩

end BlogPaths
