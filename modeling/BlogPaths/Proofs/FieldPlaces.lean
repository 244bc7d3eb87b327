import BlogPaths.Proofs.Owners

/-! Which templates of source paths compile, and what is captured by the patterns that come of them.  The
fields of a pattern have their places in order, and the part below an article has the last place; at
these places stand the texts of either kind of match, each the piece of the path that its own segment
has matched. -/
namespace BlogPaths

section Repeats

variable {α : Type}

/-- The first member of a list that equals an earlier one. -/
def IsFirstRepeat (as : List α) (a : α) : Prop :=
  ∃ before behind, as = before ++ a :: behind ∧ a ∈ before ∧ before.Nodup

theorem exists_split_cons_iff {a b : α} {as : List α} {P : List α → Prop} :
    (∃ before behind, b :: as = before ++ a :: behind ∧ P before) ↔
      (b = a ∧ P []) ∨ ∃ before behind, as = before ++ a :: behind ∧ P (b :: before) := by
  constructor
  · rintro ⟨before,behind,heq,hP⟩
    cases before with
    | nil => exact .inl ⟨(List.cons.inj heq).1,hP⟩
    | cons c before =>
      obtain ⟨rfl,htail⟩ := List.cons.inj heq
      exact .inr ⟨before,behind,htail,hP⟩
  · rintro (⟨rfl,hP⟩ | ⟨before,behind,rfl,hP⟩)
    · exact ⟨[],as,rfl,hP⟩
    · exact ⟨b :: before,behind,rfl,hP⟩

variable [DecidableEq α]

/-- What has been seen counts like what stands in front. -/
theorem firstRepeat_eq_some_iff {seen as : List α} {a : α} :
    firstRepeat seen as = some a ↔ ∃ before behind, as = before ++ a :: behind ∧
      (a ∈ before ∨ a ∈ seen) ∧ before.Nodup ∧ ∀ b ∈ before, b ∉ seen := by
  induction as generalizing seen with
  | nil => simp [firstRepeat]
  | cons b as ih =>
    rw [exists_split_cons_iff,firstRepeat]
    split
    · rename_i hb
      have hbehind : ¬ ∃ before behind, as = before ++ a :: behind ∧
          (a ∈ b :: before ∨ a ∈ seen) ∧ (b :: before).Nodup ∧ ∀ c ∈ b :: before, c ∉ seen := by
        rintro ⟨before,behind,-,-,-,hseen⟩
        exact hseen b List.mem_cons_self hb
      rw [or_iff_left hbehind,Option.some.injEq]
      exact ⟨fun h => ⟨h,.inr (h ▸ hb),.nil,by simp⟩,And.left⟩
    · rename_i hb
      have hhead : ¬ (b = a ∧ (a ∈ [] ∨ a ∈ seen) ∧ List.Nodup ([] : List α) ∧
          ∀ c ∈ ([] : List α), c ∉ seen) := by
        rintro ⟨rfl,hmem,-⟩
        exact hb (hmem.resolve_left List.not_mem_nil)
      rw [or_iff_right hhead,ih]
      refine exists_congr fun before => exists_congr fun behind => and_congr_right fun _ => ?_
      grind

theorem firstRepeat_nil_eq_some_iff {as : List α} {a : α} :
    firstRepeat [] as = some a ↔ IsFirstRepeat as a := by
  simp [firstRepeat_eq_some_iff,IsFirstRepeat]

theorem IsFirstRepeat.unique {as : List α} {a b : α} (ha : IsFirstRepeat as a)
    (hb : IsFirstRepeat as b) : a = b := by
  have h := firstRepeat_nil_eq_some_iff.mpr ha
  rw [firstRepeat_nil_eq_some_iff.mpr hb] at h
  exact (Option.some.inj h).symm

theorem firstRepeat_nil_eq_none_iff {as : List α} : firstRepeat [] as = none ↔ as.Nodup := by
  constructor
  · exact fun h => (firstRepeat_eq_none h).2
  · intro hn
    rw [Option.eq_none_iff_forall_ne_some]
    intro a ha
    obtain ⟨before,behind,rfl,hmem,-⟩ := firstRepeat_nil_eq_some_iff.mp ha
    exact (List.nodup_append.mp hn).2.2 a hmem a List.mem_cons_self rfl

end Repeats

theorem lookup_zip_of_nodup {ks vs : List String} (hn : ks.Nodup) {i : Nat} {k : String}
    (h : ks[i]? = some k) : (ks.zip vs).lookup k = vs[i]? := by
  induction ks generalizing vs i with
  | nil => simp at h
  | cons j ks ih =>
    obtain ⟨hj,hn⟩ := List.nodup_cons.mp hn
    cases vs with
    | nil => simp
    | cons v vs =>
      rw [List.zip_cons_cons,List.lookup_cons]
      cases i with
      | zero =>
        obtain rfl : j = k := by simpa using h
        simp
      | succ i =>
        have hk : ks[i]? = some k := h
        have hkj : (k == j) = false := by
          simpa using fun he : k = j => hj (he ▸ List.mem_of_getElem? hk)
        rw [hkj]
        exact ih hn hk

namespace Segment

/-- A piece of a path is what a segment has matched: a literal matches itself, and a field one of its
texts, which is captured under its name. -/
def Matches (cs : Captures) : Segment SourceField → List Char → Prop
  | literal t, piece => piece = t
  | field f, piece => f.Admits piece ∧ cs.lookup f.name = some (String.ofList piece)

theorem exists_pieces {segs : List (Segment SourceField)} {as : List (List Char)} {s : List Char}
    (hd : Describes segs as s) {cs : Captures}
    (hcs : ∀ f a, (f,a) ∈ (fields segs).zip as → cs.lookup f.name = some (String.ofList a)) :
    ∃ pieces, List.Forall₂ (Matches cs) segs pieces ∧ pieces.flatten = s := by
  induction hd with
  | nil => exact ⟨[],.nil,rfl⟩
  | @literal t _ _ _ _ ih =>
    obtain ⟨pieces,hpieces,rfl⟩ := ih hcs
    exact ⟨t :: pieces,.cons rfl hpieces,rfl⟩
  | @field f a _ _ _ ha _ ih =>
    obtain ⟨pieces,hpieces,rfl⟩ := ih fun g b hb => hcs g b (List.mem_cons_of_mem _ hb)
    exact ⟨a :: pieces,.cons ⟨ha,hcs f a List.mem_cons_self⟩ hpieces,rfl⟩

end Segment

theorem splitExtension_of_notMem {s : List Char} (h : '.' ∉ s) : splitExtension s = none := by
  induction s with
  | nil => rfl
  | cons c s ih =>
    have hs : '.' ∉ s := List.not_mem_of_not_mem_cons h
    simp [splitExtension,ih hs,(List.ne_of_not_mem_cons h).symm]

theorem splitExtension_append (u : List Char) {suffix : List Char} (h : IsExtension suffix) :
    splitExtension (u ++ suffix) = some (u,suffix) := by
  induction u with
  | nil =>
    obtain ⟨e,rfl,hne,hdot⟩ := h
    simp [splitExtension,splitExtension_of_notMem hdot,hne,hdot]
  | cons c u ih => simp [splitExtension,ih]

namespace SourcePattern

theorem stemOf_append (before : List (Segment SourceField)) (u : List Char) {suffix : List Char}
    (h : IsExtension suffix) :
    stemOf (before ++ [.literal (u ++ suffix)]) = some (before ++ [.literal u]) := by
  induction before with
  | nil => simp [stemOf,splitExtension_append u h]
  | cons s before ih =>
    rw [List.cons_append,stemOf.eq_4 s _ (by simp) (by simp),ih]
    rfl

theorem stemOf_eq_some_iff {segs stem : List (Segment SourceField)} :
    stemOf segs = some stem ↔ ∃ before u suffix, IsExtension suffix ∧
      segs = before ++ [.literal (u ++ suffix)] ∧ stem = before ++ [.literal u] := by
  constructor
  · exact stemOf_eq_some
  · rintro ⟨before,u,suffix,hx,rfl,rfl⟩
    exact stemOf_append before u hx

/-- How the groups of a pattern are placed, and what is captured at their places. -/
structure IsIndexed (p : SourcePattern) : Prop where
  names : p.fieldIndex.map Prod.fst =
    (Segment.fields p.segments).map SourceField.name ++ ["path"]
  places : p.fieldIndex.map Prod.snd = List.range ((Segment.fields p.segments).length + 1)
  nodup : (p.fieldIndex.map Prod.fst).Nodup
  lookup : ∀ m name i, (name,i) ∈ p.fieldIndex → (p.captures m).lookup name = m.groups[i]?
  article : ∀ path m, PathMatch.article? p.segments path = some m →
    (p.captures m).map Prod.fst = (Segment.fields p.segments).map SourceField.name ∧
    ∃ pieces rest, List.Forall₂ (Segment.Matches (p.captures m)) p.segments pieces ∧
      path.toList = pieces.flatten ++ rest ∧ m.matched = String.ofList pieces.flatten
  nested : ∀ path m, p.nested? path = some m →
    (p.captures m).map Prod.fst = (Segment.fields p.segments).map SourceField.name ++ ["path"] ∧
    ∃ stem pieces t rest, p.stem? = some stem ∧
      List.Forall₂ (Segment.Matches (p.captures m)) stem pieces ∧
      path.toList = pieces.flatten ++ t ++ rest ∧ (rest = [] ∨ rest = ['\n']) ∧
      (p.captures m).lookup "path" = some (String.ofList t) ∧ t.head? = some '/' ∧ '\n' ∉ t
  stem : ∀ stem, p.stem? = some stem ↔ ∃ before u suffix, IsExtension suffix ∧
    p.segments = before ++ [.literal (u ++ suffix)] ∧ stem = before ++ [.literal u]

section

variable {p : SourcePattern}

theorem nodup_groupNames (hn : (Segment.fields p.segments).Nodup) : p.groupNames.Nodup := by
  refine List.nodup_append.mpr ⟨hn.map fun _ _ => SourceField.name_injective,by simp,?_⟩
  rintro name hname _ hpath rfl
  obtain ⟨f,-,rfl⟩ := List.mem_map.mp hname
  exact f.name_ne_path (List.mem_singleton.mp hpath)

theorem map_fst_captured {as : List (List Char)} (hl : as.length = (Segment.fields p.segments).length) :
    (captured (Segment.fields p.segments) as).map Prod.fst =
      (Segment.fields p.segments).map SourceField.name :=
  List.map_fst_zip (by simp [hl])

/-- Where every field stands once, the places of the groups are those of their texts. -/
theorem isIndexed_of_nodup (hn : (Segment.fields p.segments).Nodup) : p.IsIndexed where
  names := List.zipIdx_map_fst 0 p.groupNames
  places := by
    rw [fieldIndex,List.zipIdx_map_snd,List.range_eq_range']
    simp [groupNames]
  nodup := by
    rw [fieldIndex,List.zipIdx_map_fst]
    exact nodup_groupNames hn
  lookup m name i h :=
    lookup_zip_of_nodup (nodup_groupNames hn) (List.mem_zipIdx_iff_getElem?.mp h)
  article path m hm := by
    obtain ⟨as,s,rest,hd,hs,rfl,-⟩ := PathMatch.article?_eq_some hm
    rw [captures_article (length_of_describes hd)]
    obtain ⟨pieces,hpieces,rfl⟩ := Segment.exists_pieces hd fun f a => lookup_captured hn
    exact ⟨map_fst_captured (length_of_describes hd),pieces,rest,hpieces,hs,rfl⟩
  nested path m hm := by
    obtain ⟨stem,hstem,hm⟩ := Option.bind_eq_some_iff.mp hm
    obtain ⟨before,u,suffix,-,hp,rfl⟩ := stemOf_eq_some hstem
    obtain ⟨as,s,t,hat,hd,hcap,-⟩ := owner_of_nested? hn hp hm
    have hnames := map_fst_captured (p := p) (length_of_describes hd)
    have hfields : Segment.fields (before ++ [.literal u]) = Segment.fields p.segments := by
      simp [hp,Segment.fields,List.filterMap_cons,Segment.field?]
    have hcut : Describes (before ++ [.literal u]) as s := by
      rwa [hp,describes_extension_iff] at hd
    have hlookup : ∀ f a, (f,a) ∈ (Segment.fields (before ++ [.literal u])).zip as →
        (p.captures m).lookup f.name = some (String.ofList a) :=
      fun f a hfa => hcap ▸ lookup_captured_append hn (hfields ▸ hfa) _
    obtain ⟨pieces,hpieces,rfl⟩ := Segment.exists_pieces hcut hlookup
    obtain ⟨rest,hrest,hpath⟩ : ∃ rest, (rest = [] ∨ rest = ['\n']) ∧
        path.toList = pieces.flatten ++ t ++ rest := by
      rcases hat.path_eq with h | h
      · exact ⟨[],.inl rfl,by rw [h,List.append_nil]⟩
      · exact ⟨['\n'],.inr rfl,h⟩
    exact ⟨by rw [hcap,List.map_append,hnames]; rfl,_,pieces,t,rest,hstem,hpieces,hpath,hrest,
      hcap ▸ lookup_path_captured_append _,hat.slash,hat.line⟩
  stem _ := stemOf_eq_some_iff

end

section

variable {template : String}

theorem compile_eq_ok_iff {p : SourcePattern} :
    compile template = .ok p ↔
      Text.dropLeadingSlash template.toList ≠ [] ∧
      (Segment.fields (SourceField.grammar.tokenize
        (Text.dropLeadingSlash template.toList))).Nodup ∧
      p = ⟨String.ofList (Text.dropLeadingSlash template.toList),
        SourceField.grammar.tokenize (Text.dropLeadingSlash template.toList)⟩ := by
  rw [← firstRepeat_nil_eq_none_iff,compile]
  generalize Text.dropLeadingSlash template.toList = text
  by_cases ht : text = []
  · simp [ht]
  · cases firstRepeat [] (Segment.fields (SourceField.grammar.tokenize text)) <;>
      simp [ht,eq_comm]

theorem compile_eq_error_iff {e : TemplateError} :
    compile template = .error e ↔
      (Text.dropLeadingSlash template.toList = [] ∧ e = .emptySource) ∨
      ∃ f, IsFirstRepeat (Segment.fields (SourceField.grammar.tokenize
          (Text.dropLeadingSlash template.toList))) f ∧
        e = .repeatedField (String.ofList (Text.dropLeadingSlash template.toList)) f := by
  simp only [← firstRepeat_nil_eq_some_iff]
  rw [compile]
  generalize Text.dropLeadingSlash template.toList = text
  by_cases ht : text = []
  · simp [ht,firstRepeat,eq_comm]
  · cases firstRepeat [] (Segment.fields (SourceField.grammar.tokenize text)) <;>
      simp [ht,eq_comm]

theorem field?_of_compile {e : TemplateError} (hc : compile template = .error e) {name : String} :
    e.field? = some name ↔ ∃ f, IsFirstRepeat (Segment.fields (SourceField.grammar.tokenize
      (Text.dropLeadingSlash template.toList))) f ∧ name = f.name := by
  rcases compile_eq_error_iff.mp hc with ⟨ht,rfl⟩ | ⟨f,hf,rfl⟩
  · constructor
    · intro h
      cases h
    · rintro ⟨f,⟨before,behind,hfields,-⟩,-⟩
      simp [ht] at hfields
  · constructor
    · intro h
      exact ⟨f,hf,(Option.some.inj h).symm⟩
    · rintro ⟨g,hg,rfl⟩
      rw [hf.unique hg]
      rfl

end

/-- A template of source paths compiles if and only if something is left of it behind a slash that it
may start with, and no field stands in it twice; otherwise the error names the first field that has
come before, if there is any.  A compiled template has its groups placed in order, and what either
kind of match captures stands at their places. -/
theorem compile_isIndexed (template : String) :
    let text := Text.dropLeadingSlash template.toList
    let segs := SourceField.grammar.tokenize text
    (∀ p, compile template = .ok p ↔
      text ≠ [] ∧ (Segment.fields segs).Nodup ∧ p = ⟨String.ofList text,segs⟩) ∧
    (∀ e, compile template = .error e ↔ (text = [] ∧ e = .emptySource) ∨
      ∃ f, IsFirstRepeat (Segment.fields segs) f ∧ e = .repeatedField (String.ofList text) f) ∧
    (∀ e, compile template = .error e → ∀ name, e.field? = some name ↔
      ∃ f, IsFirstRepeat (Segment.fields segs) f ∧ name = f.name) ∧
    ∀ p, compile template = .ok p → p.IsIndexed :=
  ⟨fun _ => compile_eq_ok_iff,fun _ => compile_eq_error_iff,fun _ he _ => field?_of_compile he,
    fun _ hc => isIndexed_of_nodup (nodup_of_compile hc)⟩

theorem compile_isIndexed_sample :
    (∃ p m, compile "/:title.d/:year.\n" = .ok p ∧ ("year",1) ∈ p.fieldIndex ∧
      p.nested? "a.d/2014/b.png\n" = some m ∧ m.groups = ["a","2014","/b.png"] ∧
      (p.captures m).lookup "year" = some "2014" ∧
      (p.captures m).map Prod.fst = ["title","year","path"]) ∧
    ∃ e, compile "/:day-:year:days:year" = .error e ∧ e.field? = some "day" := by
  constructor
  · obtain ⟨p,hc,hsegs⟩ : ∃ p, compile "/:title.d/:year.\n" = .ok p ∧
        p.segments = [.field .title,.literal ['.','d','/'],.field .year,.literal ['.','\n']] :=
      ⟨⟨":title.d/:year.\n",[.field .title,.literal ['.','d','/'],.field .year,
        .literal ['.','\n']]⟩,by decide +kernel,rfl⟩
    obtain ⟨-,-,-,hindex⟩ := compile_isIndexed "/:title.d/:year.\n"
    have hyear : ("year",1) ∈ p.fieldIndex := by
      rw [fieldIndex,groupNames,hsegs]
      decide
    obtain ⟨m,hm,hgroups⟩ : ∃ m, p.nested? "a.d/2014/b.png\n" = some m ∧
        m.groups = ["a","2014","/b.png"] := by
      refine ⟨⟨["a","2014","/b.png"],"a.d/2014/b.png"⟩,?_,rfl⟩
      rw [nested?,stem?,hsegs]
      decide +kernel
    refine ⟨p,m,hc,hyear,hm,hgroups,?_,?_⟩
    · rw [(hindex p hc).lookup m _ _ hyear,hgroups]
      rfl
    · rw [((hindex p hc).nested _ m hm).1,hsegs]
      rfl
  · obtain ⟨-,herror,hfield,-⟩ := compile_isIndexed "/:day-:year:days:year"
    have hrepeat : IsFirstRepeat (Segment.fields (SourceField.grammar.tokenize
        (Text.dropLeadingSlash "/:day-:year:days:year".toList))) .day := by
      refine ⟨[.day,.year],[.year],?_,by decide,by decide⟩
      decide +kernel
    have he := (herror _).mpr (.inr ⟨_,hrepeat,rfl⟩)
    exact ⟨_,he,(hfield _ he _).mpr ⟨_,hrepeat,rfl⟩⟩

end SourcePattern

end BlogPaths
