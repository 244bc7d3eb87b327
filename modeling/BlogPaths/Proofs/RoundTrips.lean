import BlogPaths.Proofs.Captures
import Mathlib.Data.List.Basic

/-! Which paths are matched as articles', and what is captured from them.  A path matches if the
segments describe a beginning of it.  Of all ways to describe one a match takes the greatest, where
the lengths of the fields are compared from the left. -/
namespace BlogPaths

theorem lengthLex_trichotomy {segs : List (Segment SourceField)} {as bs : List (List Char)}
    {s t u v : List Char} (hs : Describes segs as s) (ht : Describes segs bs t)
    (he : s ++ u = t ++ v) : LengthLex bs as ∨ bs = as ∨ LengthLex as bs := by
  by_cases hlt : LengthLex bs as
  · exact .inl hlt
  by_cases hgt : LengthLex as bs
  · exact .inr (.inr hgt)
  have hl : as.length = bs.length := by rw [length_of_describes hs,length_of_describes ht]
  exact .inr (.inl (eq_of_describes hs ht (lengths_eq_of_not_lengthLex hl hgt hlt) he).symm)

namespace PathMatch

theorem article?_isSome_iff {segs : List (Segment SourceField)} {path : String} :
    (article? segs path).isSome ↔
      ∃ as s rest, Describes segs as s ∧ path.toList = s ++ rest := by
  constructor
  · intro h
    obtain ⟨m,hm⟩ := Option.isSome_iff_exists.mp h
    obtain ⟨as,s,rest,hd,hs,_⟩ := article?_eq_some hm
    exact ⟨as,s,rest,hd,hs⟩
  · rintro ⟨as,s,rest,hd,hs⟩
    have hpath : path = String.ofList (s ++ rest) := by rw [← hs,String.ofList_toList]
    obtain ⟨m,hm⟩ : ∃ m, article? segs path = some m := hpath ▸ article?_isSome hd
    rw [hm]
    rfl

end PathMatch

namespace SourcePattern

/-- A path matches if and only if the segments of a compiled template describe a beginning of it.
The texts captured under the names of the fields are then those of the one description whose
lengths are greater than those of every other, compared from the left. -/
theorem article?_greatest {template : String} {p : SourcePattern}
    (hc : compile template = .ok p) (path : String) :
    ((PathMatch.article? p.segments path).isSome ↔
      ∃ as s rest, Describes p.segments as s ∧ path.toList = s ++ rest) ∧
    ∀ m, PathMatch.article? p.segments path = some m →
      ∃ as s rest, Describes p.segments as s ∧ path.toList = s ++ rest ∧
        m.matched = String.ofList s ∧ m.groups = as.map String.ofList ∧
        (∀ f a, (f,a) ∈ (Segment.fields p.segments).zip as →
          (p.captures m).lookup f.name = some (String.ofList a)) ∧
        ∀ bs t u, Describes p.segments bs t → path.toList = t ++ u → bs = as ∨ LengthLex bs as := by
  refine ⟨PathMatch.article?_isSome_iff,fun m hm => ?_⟩
  obtain ⟨as,s,rest,hd,hs,rfl,hmax⟩ := PathMatch.article?_eq_some hm
  refine ⟨as,s,rest,hd,hs,rfl,rfl,fun f a hfa => ?_,fun bs t u hd' ht => ?_⟩
  · rw [captures_article (length_of_describes hd)]
    exact lookup_captured (nodup_of_compile hc) hfa
  · rcases lengthLex_trichotomy hd hd' (hs.symm.trans ht) with hlt | heq | hgt
    · exact .inr hlt
    · exact .inl heq
    · exact absurd hgt (hmax bs t u hd' ht)

theorem article?_greatest_sample :
    ∃ p m, compile ":lang-:title.html" = .ok p ∧
      PathMatch.article? p.segments "en-us-x.html~" = some m ∧
      m.groups = ["en-us","x"] ∧ m.matched = "en-us-x.html" ∧
      Describes p.segments ["en".toList,"us-x".toList] "en-us-x.html".toList ∧
      LengthLex ["en".toList,"us-x".toList] ["en-us".toList,"x".toList] := by
  obtain ⟨p,hc,hsegs⟩ : ∃ p, compile ":lang-:title.html" = .ok p ∧
      p.segments = [.field .lang,.literal ['-'],.field .title,.literal ".html".toList] :=
    ⟨⟨":lang-:title.html",[.field .lang,.literal ['-'],.field .title,.literal ".html".toList]⟩,
      by decide +kernel,rfl⟩
  have hother : Describes p.segments ["en".toList,"us-x".toList] "en-us-x.html".toList := by
    rw [hsegs]
    exact .field (a := ['e','n']) (.inl (by simp [SourceField.IsCode,Unicode.isWord]))
      (.literal (t := ['-']) (.field (a := ['u','s','-','x']) (by simp [SourceField.Admits])
        (.literal .nil)))
  have hm : PathMatch.article? p.segments "en-us-x.html~" = some ⟨["en-us","x"],"en-us-x.html"⟩ := by
    rw [hsegs]
    decide +kernel
  obtain ⟨as,_,_,_,_,hmatched,hgroups,_,hgreatest⟩ :=
    (article?_greatest hc "en-us-x.html~").2 _ hm
  have has : as = ["en-us".toList,"x".toList] :=
    List.map_injective_iff.mpr (fun _ _ => String.ofList_injective) hgroups.symm
  refine ⟨p,_,hc,hm,rfl,rfl,hother,?_⟩
  rcases hgreatest _ _ ['~'] hother rfl with heq | hlt
  · rw [has] at heq
    exact absurd heq (by decide)
  · rwa [has] at hlt

end SourcePattern

/-! Matching a path and setting texts in for the fields are inverse to each other: on all that a match
covers, and, where there is no language, on all texts that the fields may stand for. -/

/-- Without a language only the title makes a described text longer, so that a greater description
is one of a longer text. -/
theorem length_lt_of_lengthLex {segs : List (Segment SourceField)} {as bs : List (List Char)}
    {s t : List Char} (hn : (Segment.fields segs).Nodup) (hl : .lang ∉ Segment.fields segs)
    (hs : Describes segs as s) (ht : Describes segs bs t) (h : LengthLex as bs) :
    s.length < t.length := by
  induction hs generalizing bs t with
  | nil =>
    rw [(describes_nil_iff.mp ht).1] at h
    exact absurd h not_lengthLex_nil
  | literal _ ih =>
    cases ht with
    | literal ht =>
      have hrest := ih hn hl ht h
      simp only [List.length_append]
      omega
  | @field f a s segs as ha hs ih =>
    cases ht with
    | @field _ b t _ bs hb ht =>
      have hfn : f ∉ Segment.fields segs := (List.nodup_cons.mp hn).1
      have hl' : .lang ∉ Segment.fields segs := fun hmem => hl (List.mem_cons_of_mem _ hmem)
      simp only [List.length_append]
      rcases lengthLex_cons_iff.mp h with hlt | ⟨heq,hlex⟩
      · -- a field with texts of different lengths is the title, and no other is behind it
        have hwide : (Segment.field f).width? = none := by
          cases hw : (Segment.field f).width? with
          | none => rfl
          | some k =>
            have hka := SourceField.length_of_width? hw ha
            have hkb := SourceField.length_of_width? hw hb
            omega
        rcases Segment.width?_eq_none hwide with he | he
        · cases he
          exact absurd List.mem_cons_self hl
        · cases he
          have hrest := length_eq_of_fixed hl' hfn hs ht
          omega
      · have hrest := ih (nodup_fields_tail hn) hl' ht hlex
        omega

/-- Texts of the fields' own make up a text that the segments describe. -/
theorem exists_describes {segs : List (Segment SourceField)} {text : SourceField → List Char}
    (h : ∀ f ∈ Segment.fields segs, f.Admits (text f)) :
    ∃ s, Describes segs ((Segment.fields segs).map text) s := by
  induction segs with
  | nil => exact ⟨[],.nil⟩
  | cons seg segs ih =>
    cases seg with
    | literal t =>
      obtain ⟨s,hs⟩ := ih h
      exact ⟨t ++ s,.literal hs⟩
    | field f =>
      obtain ⟨hf,hsegs⟩ := List.forall_mem_cons.mp h
      obtain ⟨s,hs⟩ := ih hsegs
      exact ⟨text f ++ s,.field hf hs⟩

namespace PathMatch

theorem article?_of_greatest {segs : List (Segment SourceField)} {as : List (List Char)}
    {s rest : List Char} (hd : Describes segs as s)
    (hmax : ∀ bs t u, Describes segs bs t → s ++ rest = t ++ u → ¬ LengthLex as bs) :
    article? segs (String.ofList (s ++ rest)) = some ⟨as.map String.ofList,String.ofList s⟩ := by
  obtain ⟨m,hm⟩ : ∃ m, article? segs (String.ofList (s ++ rest)) = some m := article?_isSome hd
  obtain ⟨bs,t,u,hd',hs,rfl,hmax'⟩ := article?_eq_some hm
  rw [String.toList_ofList] at hs hmax'
  have hlengths : as.map List.length = bs.map List.length :=
    lengths_eq_of_not_lengthLex (by rw [length_of_describes hd,length_of_describes hd'])
      (hmax bs t u hd' hs) (hmax' as s rest hd rfl)
  have hst : s = t := (List.append_inj hs (length_eq_of_describes hd hd' hlengths)).1
  rw [hm,eq_of_describes hd hd' hlengths hs,hst]

theorem isPrefix_matched {segs : List (Segment SourceField)} {path : String} {m : PathMatch}
    (h : article? segs path = some m) : m.matched.toList <+: path.toList := by
  obtain ⟨as,s,rest,-,hs,rfl,-⟩ := article?_eq_some h
  rw [hs,String.toList_ofList]
  exact List.prefix_append s rest

theorem article?_matched {segs : List (Segment SourceField)} {path : String} {m : PathMatch}
    (h : article? segs path = some m) : article? segs m.matched = some m := by
  obtain ⟨as,s,rest,hd,hs,rfl,hmax⟩ := article?_eq_some h
  have hgreatest : ∀ bs t u, Describes segs bs t → s ++ [] = t ++ u → ¬ LengthLex as bs := by
    intro bs t u hd' he
    refine hmax bs t (u ++ rest) hd' ?_
    rw [hs,← List.append_assoc,← he,List.append_nil]
  simpa using article?_of_greatest hd hgreatest

end PathMatch

namespace SourcePattern

variable {template : String} {p : SourcePattern}

theorem sourcePath_captures (hn : (Segment.fields p.segments).Nodup) {path : String} {m : PathMatch}
    (hm : PathMatch.article? p.segments path = some m) :
    p.sourcePath (p.captures m) = .ok m.matched := by
  obtain ⟨as,s,rest,hd,hs,rfl,-⟩ := PathMatch.article?_eq_some hm
  have hcap : p.captures ⟨as.map String.ofList,String.ofList s⟩ =
      captured (Segment.fields p.segments) as ++ [] := by
    rw [captures_article (length_of_describes hd),List.append_nil]
  rw [hcap]
  exact sourcePath_captured hn hd

theorem mem_zip_map {fs : List SourceField} {text : SourceField → List Char} {f : SourceField}
    {a : List Char} : (f,a) ∈ fs.zip (fs.map text) ↔ f ∈ fs ∧ a = text f := by
  rw [← List.map_prod_left_eq_zip,List.mem_map]
  constructor
  · rintro ⟨g,hg,he⟩
    obtain ⟨rfl,rfl⟩ := Prod.mk.inj he
    exact ⟨hg,rfl⟩
  · rintro ⟨hf,rfl⟩
    exact ⟨f,hf,rfl⟩

theorem sourcePath_of_texts {text : SourceField → List Char} {s : List Char} {cs : Captures}
    (hd : Describes p.segments ((Segment.fields p.segments).map text) s)
    (hcs : ∀ f ∈ Segment.fields p.segments, cs.lookup f.name = some (String.ofList (text f))) :
    p.sourcePath cs = .ok (String.ofList s) := by
  have hzip : ∀ f a, (f,a) ∈ (Segment.fields p.segments).zip ((Segment.fields p.segments).map text) →
      cs.lookup f.name = some (String.ofList a) := by
    intro f a hfa
    obtain ⟨hf,rfl⟩ := mem_zip_map.mp hfa
    exact hcs f hf
  obtain ⟨texts,hmap,rfl⟩ := mapM_segmentText hd hzip
  rw [sourcePath,hmap]
  rfl

/-- Without a language, a path made of texts of the fields' own is matched in full and by these
texts. -/
theorem article?_of_texts (hn : (Segment.fields p.segments).Nodup)
    (hl : .lang ∉ Segment.fields p.segments) {text : SourceField → List Char} {s : List Char}
    (hd : Describes p.segments ((Segment.fields p.segments).map text) s) :
    ∃ m, PathMatch.article? p.segments (String.ofList s) = some m ∧ m.matched = String.ofList s ∧
      p.captures m = captured (Segment.fields p.segments) ((Segment.fields p.segments).map text) := by
  have hgreatest : ∀ bs t u, Describes p.segments bs t → s ++ [] = t ++ u →
      ¬ LengthLex ((Segment.fields p.segments).map text) bs := by
    intro bs t u hd' he hlex
    have hlt := length_lt_of_lengthLex hn hl hd hd' hlex
    have hlen := congrArg List.length he
    simp only [List.length_append,List.length_nil] at hlen
    omega
  have hm := PathMatch.article?_of_greatest hd hgreatest
  rw [List.append_nil] at hm
  exact ⟨_,hm,rfl,captures_article (length_of_describes hd)⟩

/-- Matching and setting in are inverse to each other.  Of a path that matches, the captured texts set
in for the fields give the beginning that the match covers; matched again, that beginning is covered
in full and the captured texts are the same.  And where the template has no language, any texts of
the fields' own, set in for them, make a path that is covered in full and from which those texts are
captured, and nothing else. -/
theorem sourcePath_inverse (hc : compile template = .ok p) :
    (∀ path m, PathMatch.article? p.segments path = some m →
      m.matched.toList <+: path.toList ∧ p.sourcePath (p.captures m) = .ok m.matched ∧
      PathMatch.article? p.segments m.matched = some m) ∧
    (.lang ∉ Segment.fields p.segments → ∀ cs : Captures,
      (∀ f ∈ Segment.fields p.segments, ∃ s, cs.lookup f.name = some s ∧ f.Admits s.toList) →
      ∃ path m, p.sourcePath cs = .ok path ∧ PathMatch.article? p.segments path = some m ∧
        m.matched = path ∧
        (p.captures m).map Prod.fst = (Segment.fields p.segments).map SourceField.name ∧
        ∀ f ∈ Segment.fields p.segments, (p.captures m).lookup f.name = cs.lookup f.name) := by
  have hn := nodup_of_compile hc
  constructor
  · intro path m hm
    exact ⟨PathMatch.isPrefix_matched hm,sourcePath_captures hn hm,PathMatch.article?_matched hm⟩
  · intro hl cs hcs
    let text : SourceField → List Char := fun f => ((cs.lookup f.name).getD "").toList
    have htext : ∀ f ∈ Segment.fields p.segments,
        cs.lookup f.name = some (String.ofList (text f)) ∧ f.Admits (text f) := by
      intro f hf
      obtain ⟨s,hs,ha⟩ := hcs f hf
      simpa [text,hs] using ha
    obtain ⟨s,hd⟩ := exists_describes fun f hf => (htext f hf).2
    obtain ⟨m,hm,hmatched,hcap⟩ := article?_of_texts hn hl hd
    refine ⟨String.ofList s,m,sourcePath_of_texts hd fun f hf => (htext f hf).1,hm,hmatched,?_,
      fun f hf => ?_⟩
    · rw [hcap,captured,List.map_fst_zip (by simp)]
    · rw [hcap,lookup_captured hn (mem_zip_map.mpr ⟨hf,rfl⟩),(htext f hf).1]

theorem sourcePath_inverse_sample :
    ∃ p m, compile ":title-:year.html" = .ok p ∧
      PathMatch.article? p.segments "x-2013.html-2014.html~" = some m ∧
      p.sourcePath (p.captures m) = .ok "x-2013.html-2014.html" ∧
      .lang ∉ Segment.fields p.segments ∧ SourceField.title.Admits "x-2013.html".toList ∧
      SourceField.year.Admits "2014".toList ∧
      ∃ path m', p.sourcePath [("year","2014"),("title","x-2013.html")] = .ok path ∧
        PathMatch.article? p.segments path = some m' ∧ m'.matched = path ∧
        (p.captures m').lookup "title" = some "x-2013.html" := by
  obtain ⟨p,hc,hsegs⟩ : ∃ p, compile ":title-:year.html" = .ok p ∧
      p.segments = [.field .title,.literal ['-'],.field .year,.literal ".html".toList] :=
    ⟨⟨":title-:year.html",[.field .title,.literal ['-'],.field .year,.literal ".html".toList]⟩,
      by decide +kernel,rfl⟩
  have hm : PathMatch.article? p.segments "x-2013.html-2014.html~" =
      some ⟨["x-2013.html","2014"],"x-2013.html-2014.html"⟩ := by
    rw [hsegs]
    decide +kernel
  have hl : .lang ∉ Segment.fields p.segments := by
    rw [hsegs]
    decide
  have htitle : SourceField.title.Admits "x-2013.html".toList := by simp [SourceField.Admits]
  have hyear : SourceField.year.Admits "2014".toList :=
    ⟨rfl,fun c hc => List.all_eq_true.mp (by decide : "2014".toList.all Unicode.isDigit = true) c hc⟩
  have htexts : ∀ f ∈ Segment.fields p.segments,
      ∃ s, ([("year","2014"),("title","x-2013.html")] : Captures).lookup f.name = some s ∧
        f.Admits s.toList := by
    rw [hsegs]
    intro f hf
    simp only [Segment.fields_field,Segment.fields_literal,Segment.fields_nil,List.mem_cons,
      List.not_mem_nil,or_false] at hf
    rcases hf with rfl | rfl
    · exact ⟨"x-2013.html",rfl,htitle⟩
    · exact ⟨"2014",rfl,hyear⟩
  obtain ⟨hback,hforth⟩ := sourcePath_inverse hc
  obtain ⟨path,m',hpath,hm',hmatched,_,hlookup⟩ := hforth hl _ htexts
  have hfield : .title ∈ Segment.fields p.segments := by
    rw [hsegs]
    decide
  exact ⟨p,_,hc,hm,(hback _ _ hm).2.1,hl,htitle,hyear,path,m',hpath,hm',hmatched,
    hlookup .title hfield⟩

end SourcePattern

end BlogPaths
