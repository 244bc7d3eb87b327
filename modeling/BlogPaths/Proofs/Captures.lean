import BlogPaths.Proofs.Greedy
import BlogPaths.Source.Pattern

/-! What the two ways of matching capture, and how the captured texts give a path back.  A pattern has
every field once, so that the texts are found under their names. -/
namespace BlogPaths

namespace SourceField

theorem name_injective {f g : SourceField} (h : f.name = g.name) : f = g := by
  cases f <;> cases g <;> simp_all [name]

theorem name_ne_path (f : SourceField) : f.name ≠ "path" := by
  cases f <;> decide

end SourceField

def captured (fs : List SourceField) (as : List (List Char)) : Captures :=
  (fs.map SourceField.name).zip (as.map String.ofList)

theorem lookup_captured {fs : List SourceField} {as : List (List Char)} {f : SourceField}
    {a : List Char} (hn : fs.Nodup) (h : (f,a) ∈ fs.zip as) :
    (captured fs as).lookup f.name = some (String.ofList a) := by
  induction fs generalizing as with
  | nil => simp at h
  | cons g fs ih =>
    cases as with
    | nil => simp at h
    | cons b as =>
      obtain ⟨hg,hn⟩ := List.nodup_cons.mp hn
      simp only [captured,List.map_cons,List.zip_cons_cons,List.lookup_cons]
      rcases List.mem_cons.mp h with he | hmem
      · cases he
        simp
      · have hfg : f ≠ g := fun he => hg (he ▸ (List.of_mem_zip hmem).1)
        have hname : (f.name == g.name) = false := by
          simpa using fun he => hfg (SourceField.name_injective he)
        rw [hname]
        exact ih hn hmem

theorem lookup_captured_of_ne {fs : List SourceField} {as : List (List Char)} {name : String}
    (h : ∀ f ∈ fs, f.name ≠ name) : (captured fs as).lookup name = none := by
  induction fs generalizing as with
  | nil => rfl
  | cons g fs ih =>
    cases as with
    | nil => rfl
    | cons b as =>
      have hname : (name == g.name) = false := by
        simpa using (h g List.mem_cons_self).symm
      simp only [captured,List.map_cons,List.zip_cons_cons,List.lookup_cons,hname]
      exact ih fun f hf => h f (List.mem_cons_of_mem _ hf)

theorem lookup_captured_eq_none {fs : List SourceField} {as : List (List Char)} {f : SourceField}
    (h : f ∉ fs) : (captured fs as).lookup f.name = none := by
  apply lookup_captured_of_ne
  intro g hg he
  exact h (SourceField.name_injective he ▸ hg)

theorem lookup_captured_path {fs : List SourceField} {as : List (List Char)} :
    (captured fs as).lookup "path" = none :=
  lookup_captured_of_ne fun f _ => f.name_ne_path

theorem lookup_captured_append {fs : List SourceField} {as : List (List Char)} {f : SourceField}
    {a : List Char} (hn : fs.Nodup) (h : (f,a) ∈ fs.zip as) (extra : Captures) :
    (captured fs as ++ extra).lookup f.name = some (String.ofList a) := by
  rw [List.lookup_append,lookup_captured hn h]
  rfl

theorem lookup_path_captured_append {fs : List SourceField} {as : List (List Char)} (t : String) :
    (captured fs as ++ [("path",t)]).lookup "path" = some t := by
  rw [List.lookup_append,lookup_captured_path]
  rfl

theorem exists_captured {segs : List (Segment SourceField)} {as : List (List Char)} {s : List Char}
    (hd : Describes segs as s) {f : SourceField} (hf : f ∈ Segment.fields segs) :
    ∃ a, (f,a) ∈ (Segment.fields segs).zip as ∧ f.Admits a := by
  induction hd with
  | nil => simp at hf
  | literal _ ih => exact ih hf
  | @field g a _ _ _ ha _ ih =>
    rcases List.mem_cons.mp hf with rfl | hf
    · exact ⟨a,by simp,ha⟩
    · obtain ⟨b,hb,hadm⟩ := ih hf
      exact ⟨b,List.mem_cons_of_mem _ hb,hadm⟩

theorem firstRepeat_eq_none {α : Type} [DecidableEq α] {seen as : List α}
    (h : firstRepeat seen as = none) : (∀ a ∈ as, a ∉ seen) ∧ as.Nodup := by
  induction as generalizing seen with
  | nil => simp
  | cons a as ih =>
    simp only [firstRepeat] at h
    split at h
    · simp at h
    · rename_i ha
      obtain ⟨hseen,hn⟩ := ih h
      refine ⟨?_,List.nodup_cons.mpr ⟨fun hm => hseen a hm List.mem_cons_self,hn⟩⟩
      intro b hb
      rcases List.mem_cons.mp hb with rfl | hb
      · exact ha
      · exact fun hm => hseen b hb (List.mem_cons_of_mem _ hm)

namespace SourcePattern

variable {p : SourcePattern}

theorem segments_of_compile {template : String} (hc : compile template = .ok p) :
    p.segments = SourceField.grammar.tokenize (Text.dropLeadingSlash template.toList) ∧
      (Segment.fields p.segments).Nodup := by
  unfold compile at hc
  simp only at hc
  split at hc
  · simp at hc
  · split at hc
    · simp at hc
    · rename_i hnone
      simp only [Except.ok.injEq] at hc
      subst hc
      exact ⟨rfl,(firstRepeat_eq_none hnone).2⟩

theorem nodup_of_compile {template : String} (hc : compile template = .ok p) :
    (Segment.fields p.segments).Nodup := (segments_of_compile hc).2

theorem captures_eq {as : List (List Char)} {extra : List (List Char)} {matched : String}
    (hl : as.length = (Segment.fields p.segments).length) :
    p.captures ⟨(as ++ extra).map String.ofList,matched⟩ =
      captured (Segment.fields p.segments) as ++ ["path"].zip (extra.map String.ofList) := by
  rw [captures,groupNames,List.map_append,List.zip_append (by simp [hl])]
  rfl

theorem captures_article {as : List (List Char)} {matched : String}
    (hl : as.length = (Segment.fields p.segments).length) :
    p.captures ⟨as.map String.ofList,matched⟩ = captured (Segment.fields p.segments) as := by
  have h : p.captures ⟨(as ++ []).map String.ofList,matched⟩ =
      captured (Segment.fields p.segments) as ++ ["path"].zip [] := captures_eq hl
  simpa using h

/-- The captured texts, set in for the fields, give the described text. -/
theorem mapM_segmentText {segs : List (Segment SourceField)} {as : List (List Char)} {s : List Char}
    (hd : Describes segs as s) {cs : Captures}
    (hcs : ∀ f a, (f,a) ∈ (Segment.fields segs).zip as →
      cs.lookup f.name = some (String.ofList a)) :
    ∃ texts, segs.mapM (segmentText cs) = .ok texts ∧ texts.flatten = s := by
  induction hd with
  | nil => exact ⟨[],rfl,rfl⟩
  | @literal t _ _ _ _ ih =>
    obtain ⟨texts,hm,rfl⟩ := ih hcs
    exact ⟨t :: texts,by rw [List.mapM_cons,hm]; rfl,rfl⟩
  | @field f a _ _ _ _ _ ih =>
    obtain ⟨texts,hm,rfl⟩ := ih fun g b hb => hcs g b (List.mem_cons_of_mem _ hb)
    have hf : segmentText cs (.field f) = .ok a := by simp [segmentText,hcs f a (by simp)]
    exact ⟨a :: texts,by rw [List.mapM_cons,hf,hm]; rfl,rfl⟩

theorem sourcePath_captured {as : List (List Char)} {s : List Char} {extra : Captures}
    (hn : (Segment.fields p.segments).Nodup) (hd : Describes p.segments as s) :
    p.sourcePath (captured (Segment.fields p.segments) as ++ extra) = .ok (String.ofList s) := by
  have hcs : ∀ f a, (f,a) ∈ (Segment.fields p.segments).zip as →
      (captured (Segment.fields p.segments) as ++ extra).lookup f.name =
        some (String.ofList a) := fun f a hfa => lookup_captured_append hn hfa extra
  obtain ⟨texts,hm,rfl⟩ := mapM_segmentText hd hcs
  rw [sourcePath,hm]
  rfl

end SourcePattern

namespace PathMatch

/-- A match of an article's path covers a beginning that the segments describe, and takes of all
such descriptions the one that is shorter than no other. -/
theorem article?_eq_some {segs : List (Segment SourceField)} {path : String} {m : PathMatch}
    (h : article? segs path = some m) :
    ∃ as s rest, Describes segs as s ∧ path.toList = s ++ rest ∧
      m = ⟨as.map String.ofList,String.ofList s⟩ ∧
      ∀ bs t u, Describes segs bs t → path.toList = t ++ u → ¬ LengthLex as bs := by
  obtain ⟨⟨gs,rest⟩,hm,rfl⟩ := Option.map_eq_some_iff.mp h
  obtain ⟨as,s,u,cs,hd,hs,hl,rfl,hmax⟩ := greatest_of_matchThen hm
  simp only [leaveRest,Option.some.injEq,Prod.mk.injEq] at hl
  obtain ⟨rfl,rfl⟩ := hl
  refine ⟨as,s,u,hd,hs,?_,fun bs t v hd' hs' => hmax bs t v hd' hs' rfl⟩
  simp [ofRest,hs]

theorem article?_isSome {segs : List (Segment SourceField)} {as : List (List Char)}
    {s rest : List Char} (hd : Describes segs as s) :
    ∃ m, article? segs (String.ofList (s ++ rest)) = some m := by
  have h : (matchThen leaveRest segs (s ++ rest)).isSome := matchThen_isSome hd rfl
  obtain ⟨gr,hgr⟩ := Option.isSome_iff_exists.mp h
  exact ⟨ofRest (String.ofList (s ++ rest)) gr,by rw [article?,String.toList_ofList,hgr]; rfl⟩

end PathMatch

/-- A line of text, behind which one line break may stand, reaches up to that line break. -/
theorem takeWhile_line {x rest : List Char} (hx : '\n' ∉ x) (hr : rest = [] ∨ rest = ['\n']) :
    (x ++ rest).takeWhile (· ≠ '\n') = x := by
  have hpos : ∀ c ∈ x, c ≠ '\n' := fun c hc he => hx (he ▸ hc)
  rw [List.takeWhile_append_of_pos (by simpa using hpos)]
  rcases hr with rfl | rfl <;> simp

theorem takeTail_eq_some_iff {s rest : List Char} {cs : List (List Char)} :
    takeTail s = some (cs,rest) ↔ ∃ t, cs = [t] ∧ s = t ++ rest ∧ t.head? = some '/' ∧ '\n' ∉ t ∧
      (rest = [] ∨ rest = ['\n']) := by
  constructor
  · intro h
    unfold takeTail at h
    split at h
    · rename_i x
      simp only at h
      split at h
      · rename_i hr
        simp only [Option.some.injEq,Prod.mk.injEq] at h
        obtain ⟨rfl,rfl⟩ := h
        refine ⟨_,rfl,by simp,rfl,?_,hr⟩
        have hw : ∀ c ∈ x.takeWhile (· ≠ '\n'), c ≠ '\n' := fun c hc => by
          simpa using List.all_eq_true.mp List.all_takeWhile c hc
        intro hm
        rcases List.mem_cons.mp hm with he | hm
        · exact absurd he (by decide)
        · exact hw _ hm rfl
      · simp at h
    · simp at h
  · rintro ⟨t,rfl,rfl,hh,hn,hr⟩
    obtain ⟨x,rfl⟩ : ∃ x, t = '/' :: x := by
      cases t with
      | nil => simp at hh
      | cons c x => exact ⟨x,by simpa using hh⟩
    have htake := takeWhile_line (fun hm => hn (List.mem_cons_of_mem _ hm)) hr
    have hdrop : (x ++ rest).dropWhile (· ≠ '\n') = rest := by
      have happ := List.takeWhile_append_dropWhile (p := (· ≠ '\n')) (l := x ++ rest)
      rw [htake] at happ
      exact List.append_cancel_left happ
    simp only [takeTail,List.cons_append,htake,hdrop,if_pos hr]

end BlogPaths
