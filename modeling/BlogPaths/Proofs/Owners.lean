import BlogPaths.Classifier.Turn
import BlogPaths.Proofs.Captures
import Mathlib.Data.List.Nodup

/-! The owner of a nested file.  A path below an article is the article's path with its extension cut
off and a nested part in its place; there is one way only to cut it, since slashes are counted, and
the article that it leads to is matched with the very texts that were captured from the path. -/
namespace BlogPaths

/-- A dot and what stands behind it, in which there is no other dot. -/
def IsExtension (suffix : List Char) : Prop := ∃ e, suffix = '.' :: e ∧ e ≠ [] ∧ '.' ∉ e

theorem splitExtension_eq_some {s stem suffix : List Char}
    (h : splitExtension s = some (stem,suffix)) :
    s = stem ++ suffix ∧ IsExtension suffix := by
  induction s generalizing stem with
  | nil => simp [splitExtension] at h
  | cons c cs ih =>
    cases hs : splitExtension cs with
    | some r =>
      obtain ⟨stem',suffix'⟩ := r
      simp only [splitExtension,hs,Option.some.injEq,Prod.mk.injEq] at h
      obtain ⟨rfl,rfl⟩ := h
      obtain ⟨rfl,hx⟩ := ih hs
      exact ⟨rfl,hx⟩
    | none =>
      simp only [splitExtension,hs] at h
      split at h
      · rename_i hc
        simp only [Option.some.injEq,Prod.mk.injEq] at h
        obtain ⟨rfl,rfl⟩ := h
        obtain ⟨rfl,hne,hdot⟩ := hc
        exact ⟨rfl,cs,rfl,hne,hdot⟩
      · simp at h

theorem eq_of_count_slash {s s' x y : List Char} (h : s ++ '/' :: x = s' ++ '/' :: y)
    (hc : s.count '/' = s'.count '/') : s = s' ∧ x = y := by
  induction s generalizing s' with
  | nil =>
    cases s' with
    | nil => simpa using h
    | cons c s' =>
      obtain ⟨rfl,-⟩ := List.cons.inj h
      simp at hc
  | cons c s ih =>
    cases s' with
    | nil =>
      obtain ⟨rfl,-⟩ := List.cons.inj h
      simp at hc
    | cons c' s' =>
      obtain ⟨rfl,htail⟩ := List.cons.inj h
      obtain ⟨rfl,rfl⟩ := ih htail (by simpa [List.count_cons] using hc)
      exact ⟨rfl,rfl⟩

namespace SourcePattern

theorem stemOf_eq_some {segs stem : List (Segment SourceField)} (h : stemOf segs = some stem) :
    ∃ before u suffix, IsExtension suffix ∧ segs = before ++ [.literal (u ++ suffix)] ∧
      stem = before ++ [.literal u] := by
  fun_induction stemOf segs generalizing stem with
  | case1 => simp at h
  | case2 t =>
    obtain ⟨⟨u,suffix⟩,hs,rfl⟩ := Option.map_eq_some_iff.mp h
    obtain ⟨rfl,hx⟩ := splitExtension_eq_some hs
    exact ⟨[],u,suffix,hx,rfl,rfl⟩
  | case3 => simp at h
  | case4 s segs _ _ ih =>
    obtain ⟨stem',hs,rfl⟩ := Option.map_eq_some_iff.mp h
    obtain ⟨before,u,suffix,hx,rfl,rfl⟩ := ih hs
    exact ⟨s :: before,u,suffix,hx,rfl,rfl⟩

/-- The path of a nested file: an article's path up to its extension, the nested part, and
possibly a line break. -/
structure NestedAt (p : SourcePattern) (suffix path s t : List Char) : Prop where
  article : ∃ as, Describes p.segments as (s ++ suffix)
  slash : t.head? = some '/'
  line : '\n' ∉ t
  path_eq : path = s ++ t ∨ path = s ++ t ++ ['\n']

section

variable {p : SourcePattern} {before : List (Segment SourceField)} {u suffix : List Char}

theorem describes_extension_iff {as : List (List Char)} {s : List Char} :
    Describes (before ++ [.literal (u ++ suffix)]) as (s ++ suffix) ↔
      Describes (before ++ [.literal u]) as s := by
  simp only [describes_append_iff,describes_literal_iff]
  constructor
  · rintro ⟨bs,b,cs,r,rfl,hs,hd,rfl,rfl⟩
    rw [← List.append_assoc] at hs
    obtain rfl := List.append_cancel_right hs
    exact ⟨bs,b,[],u,rfl,rfl,hd,rfl,rfl⟩
  · rintro ⟨bs,b,cs,r,rfl,rfl,hd,rfl,rfl⟩
    exact ⟨bs,b,[],r ++ suffix,rfl,by simp,hd,rfl,rfl⟩

theorem NestedAt.exists_rest {path s t : List Char} (h : NestedAt p suffix path s t) :
    ∃ x r, t = '/' :: x ∧ '\n' ∉ x ∧ (r = [] ∨ r = ['\n']) ∧ path = s ++ '/' :: (x ++ r) := by
  obtain ⟨x,rfl⟩ : ∃ x, t = '/' :: x := by
    cases t with
    | nil => simpa using h.slash
    | cons c x => exact ⟨x,by simpa using h.slash⟩
  have hx : '\n' ∉ x := fun hm => h.line (List.mem_cons_of_mem _ hm)
  rcases h.path_eq with hp | hp
  · exact ⟨x,[],rfl,hx,.inl rfl,by simpa using hp⟩
  · exact ⟨x,['\n'],rfl,hx,.inr rfl,by simpa using hp⟩

/-- There is one way to cut the path of a nested file. -/
theorem NestedAt.unique {path s t s' t' : List Char} (h : NestedAt p suffix path s t)
    (h' : NestedAt p suffix path s' t') : s = s' ∧ t = t' := by
  obtain ⟨as,hd⟩ := h.article
  obtain ⟨as',hd'⟩ := h'.article
  have hcount := count_slash_of_describes hd hd'
  rw [List.count_append,List.count_append] at hcount
  obtain ⟨x,r,rfl,hx,hr,hp⟩ := h.exists_rest
  obtain ⟨y,r',rfl,hy,hr',hp'⟩ := h'.exists_rest
  obtain ⟨rfl,he⟩ := eq_of_count_slash (hp.symm.trans hp') (by omega)
  have hline := congrArg (List.takeWhile (· ≠ '\n')) he
  rw [takeWhile_line hx hr,takeWhile_line hy hr'] at hline
  rw [hline]
  exact ⟨rfl,rfl⟩

theorem nested?_isSome_of_nestedAt {path : String} {s t : List Char}
    (hp : p.segments = before ++ [.literal (u ++ suffix)]) (h : NestedAt p suffix path.toList s t) :
    (PathMatch.nested? (before ++ [.literal u]) path).isSome := by
  obtain ⟨as,hd⟩ := h.article
  rw [hp,describes_extension_iff] at hd
  obtain ⟨x,r,rfl,hx,hr,hpath⟩ := h.exists_rest
  have htail : takeTail ('/' :: (x ++ r)) = some (['/' :: x],r) :=
    takeTail_eq_some_iff.mpr ⟨'/' :: x,rfl,rfl,rfl,by simpa using hx,hr⟩
  rw [PathMatch.nested?,Option.isSome_map,hpath]
  exact matchThen_isSome hd (by rw [htail]; rfl)

/-- A match of a nested file's path cuts it, and takes of all descriptions of the first part the one
that is shorter than no other. -/
theorem nestedAt_of_nested? {path : String} {m : PathMatch}
    (hp : p.segments = before ++ [.literal (u ++ suffix)])
    (h : PathMatch.nested? (before ++ [.literal u]) path = some m) :
    ∃ as s t, NestedAt p suffix path.toList s t ∧ Describes (before ++ [.literal u]) as s ∧
      m.groups = (as ++ [t]).map String.ofList ∧
      ∀ bs, Describes (before ++ [.literal u]) bs s → ¬ LengthLex as bs := by
  obtain ⟨⟨gs,rest⟩,hm,rfl⟩ := Option.map_eq_some_iff.mp h
  obtain ⟨as,s,v,cs,hd,hs,hl,rfl,hmax⟩ := greatest_of_matchThen hm
  have hsome : (takeTail v).isSome := by rw [hl]; rfl
  obtain ⟨t,rfl,rfl,hslash,hline,hr⟩ := takeTail_eq_some_iff.mp hl
  refine ⟨as,s,t,⟨⟨as,?_⟩,hslash,hline,?_⟩,hd,rfl,fun bs hd' => hmax bs s _ hd' hs hsome⟩
  · rw [hp]
    exact describes_extension_iff.mpr hd
  · rcases hr with rfl | rfl
    · exact .inl (by simpa using hs)
    · exact .inr (by simpa using hs)

/-- The path of the owner is matched in full, and by the same texts. -/
theorem article?_owner {as : List (List Char)} {s : List Char}
    (hn : (Segment.fields p.segments).Nodup) (hp : p.segments = before ++ [.literal (u ++ suffix)])
    (hd : Describes (before ++ [.literal u]) as s)
    (hmax : ∀ bs, Describes (before ++ [.literal u]) bs s → ¬ LengthLex as bs) :
    PathMatch.article? p.segments (String.ofList (s ++ suffix)) =
      some ⟨as.map String.ofList,String.ofList (s ++ suffix)⟩ := by
  have hd₁ : Describes p.segments as (s ++ suffix) := by
    rw [hp]
    exact describes_extension_iff.mpr hd
  obtain ⟨m,hm⟩ : ∃ m, PathMatch.article? p.segments (String.ofList (s ++ suffix ++ [])) = some m :=
    PathMatch.article?_isSome hd₁
  rw [List.append_nil] at hm
  obtain ⟨bs,v,rest,hd₂,hv,rfl,hmax'⟩ := PathMatch.article?_eq_some hm
  rw [String.toList_ofList] at hv hmax'
  have hrest : rest = [] := by
    apply eq_nil_of_greatest hn (hv ▸ hd₁) hd₂
    intro cs w x hcs he
    exact hmax' cs w x hcs (hv.trans he)
  rw [hrest,List.append_nil] at hv
  subst hv
  have hlens : as.map List.length = bs.map List.length := by
    apply lengths_eq_of_not_lengthLex (by rw [length_of_describes hd₁,length_of_describes hd₂])
    · rw [hp] at hd₂
      exact hmax bs (describes_extension_iff.mp hd₂)
    · exact hmax' as (s ++ suffix) [] hd₁ (by simp)
  rw [hm,eq_of_describes (u := []) hd₁ hd₂ hlens rfl]

theorem captures_of_groups {m : PathMatch} {as : List (List Char)} {t : List Char}
    (hl : as.length = (Segment.fields p.segments).length)
    (hg : m.groups = (as ++ [t]).map String.ofList) :
    p.captures m = captured (Segment.fields p.segments) as ++ [("path",String.ofList t)] := by
  have h : p.captures ⟨(as ++ [t]).map String.ofList,m.matched⟩ =
      captured (Segment.fields p.segments) as ++ ["path"].zip [String.ofList t] := captures_eq hl
  rw [← hg] at h
  exact h

theorem lookup_path_of_groups {m : PathMatch} {as : List (List Char)} {t : List Char}
    (hl : as.length = (Segment.fields p.segments).length)
    (hg : m.groups = (as ++ [t]).map String.ofList) :
    (p.captures m).lookup "path" = some (String.ofList t) := by
  rw [captures_of_groups hl hg,lookup_path_captured_append]

theorem owner_of_nested? {path : String} {m : PathMatch}
    (hn : (Segment.fields p.segments).Nodup) (hp : p.segments = before ++ [.literal (u ++ suffix)])
    (h : PathMatch.nested? (before ++ [.literal u]) path = some m) :
    ∃ as s t, NestedAt p suffix path.toList s t ∧ Describes p.segments as (s ++ suffix) ∧
      p.captures m = captured (Segment.fields p.segments) as ++ [("path",String.ofList t)] ∧
      p.sourcePath (p.captures m) = .ok (String.ofList (s ++ suffix)) ∧
      PathMatch.article? p.segments (String.ofList (s ++ suffix)) =
        some ⟨as.map String.ofList,String.ofList (s ++ suffix)⟩ := by
  obtain ⟨as,s,t,hat,hd,hg,hmax⟩ := nestedAt_of_nested? hp h
  have hd₁ : Describes p.segments as (s ++ suffix) := by
    rw [hp]
    exact describes_extension_iff.mpr hd
  have hcap := captures_of_groups (length_of_describes hd₁) hg
  refine ⟨as,s,t,hat,hd₁,hcap,?_,article?_owner hn hp hd hmax⟩
  rw [hcap]
  exact sourcePath_captured hn hd₁

end

theorem exists_owner_of_nested? {p : SourcePattern} {path : String} {m : PathMatch}
    (hn : (Segment.fields p.segments).Nodup) (h : p.nested? path = some m) :
    ∃ ownerPath m', p.sourcePath (p.captures m) = .ok ownerPath ∧
      PathMatch.article? p.segments ownerPath = some m' := by
  obtain ⟨stem,hstem,hm⟩ := Option.bind_eq_some_iff.mp h
  obtain ⟨before,u,suffix,_,hp,rfl⟩ := stemOf_eq_some hstem
  obtain ⟨_,_,_,_,_,_,hsource,harticle⟩ := owner_of_nested? hn hp hm
  exact ⟨_,_,hsource,harticle⟩

/-- The paths that match as those of nested files, and the owner of each: cut off the nested part,
put the extension in its place, and the article's path is there, which is matched in full and by the
texts that were captured from the nested file's path. -/
theorem nested_owner {template : String} {p : SourcePattern} (hc : compile template = .ok p)
    (hs : p.stem?.isSome) :
    ∃ suffix, IsExtension suffix ∧ (∃ before u, p.segments = before ++ [.literal (u ++ suffix)]) ∧
      ∀ path : String,
        ((p.nested? path).isSome ↔ ∃ s t, p.NestedAt suffix path.toList s t) ∧
        ∀ m s t, p.nested? path = some m → p.NestedAt suffix path.toList s t →
          (∀ s' t', p.NestedAt suffix path.toList s' t' → s' = s ∧ t' = t) ∧
          (p.captures m).lookup "path" = some (String.ofList t) ∧
          p.sourcePath (p.captures m) = .ok (String.ofList (s ++ suffix)) ∧
          ∃ m', PathMatch.article? p.segments (String.ofList (s ++ suffix)) = some m' ∧
            m'.matched = String.ofList (s ++ suffix) ∧
            (∀ f ∈ Segment.fields p.segments, ∃ a, (p.captures m').lookup f.name = some a ∧
              (p.captures m).lookup f.name = some a) ∧
            ∀ (n : Nat) (c : Classifier) (front : Fin n → FrontMatter) (hs : List (Fin n))
              (h o : Fin n), c.pattern = p → c.articleSegments = p.segments →
              Classifier.ownerAt? front hs (String.ofList (s ++ suffix)) = some o →
              c.nestedTurn front hs h path m =
                c.ownedTurn front h o path (String.ofList (s ++ suffix)) (String.ofList t) m' := by
  have hn := nodup_of_compile hc
  obtain ⟨stem,hstem⟩ := Option.isSome_iff_exists.mp hs
  obtain ⟨before,u,suffix,hx,hp,rfl⟩ := stemOf_eq_some hstem
  have hnested : ∀ path, p.nested? path = PathMatch.nested? (before ++ [.literal u]) path := by
    intro path
    rw [nested?,hstem]
    rfl
  refine ⟨suffix,hx,⟨before,u,hp⟩,fun path => ⟨?_,?_⟩⟩
  · rw [hnested]
    constructor
    · intro h
      obtain ⟨m,hm⟩ := Option.isSome_iff_exists.mp h
      obtain ⟨as,s,t,hat,-⟩ := owner_of_nested? hn hp hm
      exact ⟨s,t,hat⟩
    · rintro ⟨s,t,hat⟩
      exact nested?_isSome_of_nestedAt hp hat
  · intro m s t hm hat
    rw [hnested] at hm
    obtain ⟨as,s',t',hat',hd,hcap,hsource,harticle⟩ := owner_of_nested? hn hp hm
    obtain ⟨rfl,rfl⟩ := hat.unique hat'
    have hpath : (p.captures m).lookup "path" = some (String.ofList t) := by
      rw [hcap,List.lookup_append,lookup_captured_path]
      rfl
    have hcap' : p.captures ⟨as.map String.ofList,String.ofList (s ++ suffix)⟩ =
        captured (Segment.fields p.segments) as := captures_article (length_of_describes hd)
    refine ⟨fun s' t' h => ?_,hpath,hsource,_,harticle,rfl,fun f hf => ?_,?_⟩
    · obtain ⟨rfl,rfl⟩ := hat.unique h
      exact ⟨rfl,rfl⟩
    · obtain ⟨a,hfa,-⟩ := exists_captured hd hf
      have hlookup := lookup_captured hn hfa
      refine ⟨String.ofList a,by rw [hcap',hlookup],?_⟩
      rw [hcap,List.lookup_append,hlookup]
      rfl
    · intro n c front hs h o hpat hseg ho
      subst hpat
      simp only [Classifier.nestedTurn,hsource,ho,hseg,harticle,hpath,Option.getD_some]

theorem nested_owner_sample :
    ∃ p m, compile ":lang/:title.html" = .ok p ∧ p.stem?.isSome ∧
      p.nested? "en-us/a.b/c.jpg" = some m ∧ (p.captures m).lookup "path" = some "/c.jpg" ∧
      ∃ suffix s t, p.NestedAt suffix "en-us/a.b/c.jpg".toList s t ∧
        p.sourcePath (p.captures m) = .ok (String.ofList (s ++ suffix)) := by
  obtain ⟨p,m,hc,hs,hm,hpath⟩ : ∃ p m, compile ":lang/:title.html" = .ok p ∧ p.stem?.isSome ∧
      p.nested? "en-us/a.b/c.jpg" = some m ∧ (p.captures m).lookup "path" = some "/c.jpg" :=
    ⟨⟨":lang/:title.html",[.field .lang,.literal ['/'],.field .title,
      .literal ['.','h','t','m','l']]⟩,⟨["en-us","a.b","/c.jpg"],"en-us/a.b/c.jpg"⟩,
      by decide +kernel,rfl,by decide +kernel,by decide⟩
  obtain ⟨suffix,_,_,h⟩ := nested_owner hc hs
  obtain ⟨s,t,hat⟩ := (h "en-us/a.b/c.jpg").1.mp (by simp [hm])
  obtain ⟨_,_,hsource,_⟩ := (h "en-us/a.b/c.jpg").2 m s t hm hat
  exact ⟨p,m,hc,hs,hm,hpath,suffix,s,t,hat,hsource⟩

end SourcePattern

end BlogPaths
