import BlogPaths.Proofs.Descriptions
import BlogPaths.Source.Pattern

/-! Which of several descriptions a match takes.  From the left, every field takes as much as it can;
so a match takes the description whose lengths are the greatest in the order of dictionaries.  Where
something is left over, and the same segments describe the whole text as well, there is a description
still greater: a match of a text that is described in full covers all of it. -/
namespace BlogPaths

open Unicode

/-- The first fields of different lengths decide which of two descriptions is the shorter. -/
def LengthLex (as bs : List (List Char)) : Prop :=
  List.Lex (fun m n : Nat => m < n) (as.map List.length) (bs.map List.length)

theorem lengthLex_cons_iff {a b : List Char} {as bs : List (List Char)} :
    LengthLex (a :: as) (b :: bs) ↔
      a.length < b.length ∨ (a.length = b.length ∧ LengthLex as bs) := by
  constructor
  · intro h
    unfold LengthLex at h
    simp only [List.map_cons] at h
    generalize ha : a.length = m at h
    generalize hb : b.length = k at h
    cases h with
    | cons h => exact .inr ⟨rfl,h⟩
    | rel h => exact .inl h
  · rintro (h | ⟨h,ht⟩)
    · exact .rel h
    · unfold LengthLex
      simp only [List.map_cons,h]
      exact .cons ht

theorem not_lengthLex_nil {as : List (List Char)} : ¬ LengthLex as [] := by
  intro h
  cases as with
  | nil => cases h
  | cons a as => cases h

theorem LengthLex.append_left {as bs : List (List Char)} (h : LengthLex as bs)
    (cs : List (List Char)) : LengthLex (cs ++ as) (cs ++ bs) := by
  induction cs with
  | nil => exact h
  | cons c cs ih => exact lengthLex_cons_iff.mpr (.inr ⟨rfl,ih⟩)

theorem lengths_eq_of_not_lengthLex {as bs : List (List Char)} (hl : as.length = bs.length)
    (h : ¬ LengthLex as bs) (h' : ¬ LengthLex bs as) :
    as.map List.length = bs.map List.length := by
  induction as generalizing bs with
  | nil =>
    have hb := List.eq_nil_of_length_eq_zero hl.symm
    rw [hb]
  | cons a as ih =>
    cases bs with
    | nil => simp at hl
    | cons b bs =>
      simp only [lengthLex_cons_iff,not_or,not_and] at h h'
      have hab : a.length = b.length := by omega
      rw [List.map_cons,List.map_cons,hab,ih (by simpa using hl) (h.2 hab) (h'.2 hab.symm)]

namespace SourceField

theorem pairwise_lengths (f : SourceField) (s : List Char) :
    (f.lengths s).Pairwise fun m k => k < m := by
  have hexactly : ∀ p k, (exactly p k s).Pairwise fun m k => k < m := by
    intro p k
    unfold exactly
    split <;> simp
  have hdown : ∀ k, (downFrom k).Pairwise fun m k => k < m := by
    intro k
    induction k with
    | zero => exact .nil
    | succ k ih =>
      refine .cons (fun m hm => ?_) ih
      have := (mem_downFrom.mp hm).2
      omega
  cases f with
  | lang =>
    simp only [lengths,langLengths]
    split
    · split <;> simp
    · simp
  | year => exact hexactly _ _
  | month => exact hexactly _ _
  | day => exact hexactly _ _
  | title => exact hdown _

end SourceField

/-- Of all descriptions of a beginning behind which `last` finds the rest, a match takes the one that
is shorter than no other. -/
theorem greatest_of_matchThen {last : List Char → Option GroupsAndRest}
    {segs : List (Segment SourceField)} {s rest : List Char} {as : List (List Char)}
    (h : matchThen last segs s = some (as,rest)) :
    ∃ bs t u cs, Describes segs bs t ∧ s = t ++ u ∧ last u = some (cs,rest) ∧ as = bs ++ cs ∧
      ∀ bs' t' u', Describes segs bs' t' → s = t' ++ u' → (last u').isSome →
        ¬ LengthLex bs bs' := by
  induction segs generalizing s as with
  | nil =>
    refine ⟨[],[],s,as,.nil,rfl,h,rfl,fun bs' t' u' hd _ _ => ?_⟩
    rw [(describes_nil_iff.mp hd).1]
    exact not_lengthLex_nil
  | cons seg segs ih =>
    cases seg with
    | literal t =>
      simp only [matchThen] at h
      split at h
      · rename_i hp
        obtain ⟨r,rfl⟩ := hp
        rw [List.drop_left] at h
        obtain ⟨bs,t',u',cs,hd,rfl,hl,rfl,hmax⟩ := ih h
        refine ⟨bs,t ++ t',u',cs,.literal hd,by simp,hl,rfl,fun bs' v w hd' he hw => ?_⟩
        cases hd' with
        | literal hd' => exact hmax _ _ _ hd' (by simpa using he) hw
      · simp at h
    | field f =>
      simp only [matchThen] at h
      obtain ⟨longer,k,shorter,hsplit,hr,hnone⟩ := List.findSome?_eq_some_iff.mp h
      obtain ⟨⟨as',rest'⟩,h',he⟩ := Option.map_eq_some_iff.mp hr
      simp only [Prod.mk.injEq] at he
      obtain ⟨rfl,rfl⟩ := he
      obtain ⟨bs,t,u,cs,hd,hs,hl,rfl,hmax⟩ := ih h'
      have hk : k ∈ f.lengths s := by simp [hsplit]
      have hlen := (SourceField.mem_lengths.mp hk).1
      refine ⟨s.take k :: bs,s.take k ++ t,u,cs,.field (SourceField.admits_of_mem_lengths hk) hd,?_,
        hl,rfl,fun bs' v w hd' he hw => ?_⟩
      · rw [List.append_assoc,← hs,List.take_append_drop]
      · cases hd' with
        | @field _ a r _ as ha hd' =>
          rw [List.append_assoc] at he
          have ha' : a.length ∈ f.lengths s := by
            rw [he]
            exact SourceField.length_mem_lengths _ ha
          rw [lengthLex_cons_iff,List.length_take,Nat.min_eq_left hlen]
          rintro (hlt | ⟨heq,hlex⟩)
          · -- a longer text was tried before, and the segments behind it did not match
            have hmem : a.length ∈ longer := by
              have hp := SourceField.pairwise_lengths f s
              rw [hsplit] at ha' hp
              rcases List.mem_append.mp ha' with h₁ | h₁
              · exact h₁
              · have hp' := (List.pairwise_append.mp hp).2.1
                rcases List.mem_cons.mp h₁ with h₂ | h₂
                · omega
                · have := (List.pairwise_cons.mp hp').1 _ h₂
                  omega
            have hsome := matchThen_isSome hd' hw
            have hdrop : s.drop a.length = r ++ w := by rw [he,List.drop_left]
            rw [← hdrop] at hsome
            obtain ⟨x,hx⟩ := Option.isSome_iff_exists.mp hsome
            have := hnone _ hmem
            simp [hx] at this
          · have hdrop : s.drop k = r ++ w := by rw [heq,he,List.drop_left]
            exact hmax _ _ _ hd' hdrop hw hlex

theorem Segment.width?_eq_none {seg : Segment SourceField} (h : seg.width? = none) :
    seg = .field .lang ∨ seg = .field .title := by
  cases seg with
  | literal t => simp [Segment.width?] at h
  | field f => cases f <;> simp_all [Segment.width?,SourceField.width?]

theorem length_eq_of_fixed {segs : List (Segment SourceField)} {as bs : List (List Char)}
    {s t : List Char} (hl : .lang ∉ Segment.fields segs) (ht : .title ∉ Segment.fields segs)
    (hs : Describes segs as s) (hd : Describes segs bs t) : s.length = t.length := by
  induction segs generalizing as s bs t with
  | nil => rw [(describes_nil_iff.mp hs).2,(describes_nil_iff.mp hd).2]
  | cons seg segs ih =>
    obtain ⟨_,a,_,_,-,rfl,hc,hs⟩ := describes_cons_iff.mp hs
    obtain ⟨_,b,_,_,-,rfl,hc',hd⟩ := describes_cons_iff.mp hd
    cases hw : seg.width? with
    | none => rcases Segment.width?_eq_none hw with rfl | rfl <;> simp at hl ht
    | some k =>
      have hfields : ∀ f, f ∈ Segment.fields segs → f ∈ Segment.fields (seg :: segs) := by
        intro f hf
        cases seg <;> simp [hf]
      have := ih (fun h => hl (hfields _ h)) (fun h => ht (hfields _ h)) hs hd
      rw [List.length_append,List.length_append,hc.length hw,hc'.length hw,this]

/-- A piece that stands at two places of a text shifts what follows it by the same distance. -/
theorem exists_shift {d a b z y : List Char} (h : d ++ (b ++ z) = a ++ y)
    (hl : a.length = b.length) : ∃ d' : List Char, d'.length = d.length ∧ y = d' ++ z := by
  refine ⟨(d ++ b).drop a.length,by simp; omega,?_⟩
  have hy : y = (d ++ (b ++ z)).drop a.length := by rw [h,List.drop_left]
  rw [hy,← List.append_assoc,List.drop_append_of_le_length (by simp; omega)]

theorem nodup_fields_tail {seg : Segment SourceField} {segs : List (Segment SourceField)}
    (hn : (Segment.fields (seg :: segs)).Nodup) : (Segment.fields segs).Nodup := by
  cases seg with
  | literal t => exact hn
  | field f => exact (List.nodup_cons.mp hn).2

/-- A title that is followed by texts of one length reaches to them, wherever it starts. -/
theorem exists_title_to_end {d b z u a y : List Char} (h : d ++ (b ++ (z ++ u)) = a ++ y)
    (hl : y.length = z.length) (ha : SourceField.title.Admits a)
    (hb : SourceField.title.Admits b) :
    ∃ c : List Char, SourceField.title.Admits c ∧ b ++ (z ++ u) = c ++ y ∧
      c.length = b.length + u.length := by
  have hlen := congrArg List.length h
  simp only [List.length_append] at hlen
  have hy : (b ++ (z ++ u)).drop (b.length + u.length) = y := by
    have hdrop := congrArg (List.drop a.length) h
    rw [List.drop_left,show a.length = d.length + (b.length + u.length) by omega,← List.drop_drop,
      List.drop_left] at hdrop
    exact hdrop
  have hc : a = d ++ (b ++ (z ++ u)).take (b.length + u.length) := by
    have htake := congrArg (List.take a.length) h
    rw [List.take_left,show a.length = d.length + (b.length + u.length) by omega,
      List.take_length_add_append] at htake
    exact htake.symm
  have hclen : ((b ++ (z ++ u)).take (b.length + u.length)).length = b.length + u.length := by
    simp only [List.length_take,List.length_append]
    omega
  refine ⟨(b ++ (z ++ u)).take (b.length + u.length),⟨?_,?_⟩,?_,hclen⟩
  · intro hnil
    rw [hnil] at hclen
    have hpos := List.length_pos_iff.mpr hb.1
    simp at hclen
    omega
  · intro hs
    exact ha.2 (hc ▸ List.mem_append_right d hs)
  · have happ := List.take_append_drop (b.length + u.length) (b ++ (z ++ u))
    rw [hy] at happ
    exact happ.symm

/-- Without a language only the title can take more, and it can take all that is left over where
the segments also describe a longer text with the same end. -/
theorem exists_longer_of_suffix {segs : List (Segment SourceField)} {as bs : List (List Char)}
    {d t u : List Char} (hn : (Segment.fields segs).Nodup) (hl : .lang ∉ Segment.fields segs)
    (hd : Describes segs as (d ++ (t ++ u))) (hd' : Describes segs bs t) :
    u = [] ∨ ∃ cs, Describes segs cs (t ++ u) ∧ LengthLex bs cs := by
  induction segs generalizing as bs d t with
  | nil =>
    have := (describes_nil_iff.mp hd).2
    simp_all
  | cons seg segs ih =>
    obtain ⟨as₁,a,as₂,y,rfl,hy,hc,hr⟩ := describes_cons_iff.mp hd
    obtain ⟨bs₁,b,bs₂,z,rfl,rfl,hc',hr'⟩ := describes_cons_iff.mp hd'
    rw [List.append_assoc] at hy ⊢
    cases hw : seg.width? with
    | some k =>
      obtain ⟨d',-,rfl⟩ := exists_shift hy (by rw [hc.length hw,hc'.length hw])
      have hl' : .lang ∉ Segment.fields segs := by cases seg <;> simp_all
      rcases ih (nodup_fields_tail hn) hl' hr hr' with hu | ⟨cs,hcs,hlex⟩
      · exact .inl hu
      · exact .inr ⟨bs₁ ++ cs,describes_cons_iff.mpr ⟨bs₁,b,cs,z ++ u,rfl,rfl,hc',hcs⟩,
          hlex.append_left bs₁⟩
    | none =>
      rcases Segment.width?_eq_none hw with rfl | rfl
      · simp at hl
      · have hl' : .lang ∉ Segment.fields segs := by simpa using hl
        have ht' : .title ∉ Segment.fields segs := (List.nodup_cons.mp hn).1
        obtain ⟨rfl,ha⟩ := hc
        obtain ⟨rfl,hb⟩ := hc'
        obtain ⟨c,hadm,he,hclen⟩ :=
          exists_title_to_end hy (length_eq_of_fixed hl' ht' hr hr') ha hb
        by_cases hu : u = []
        · exact .inl hu
        · refine .inr ⟨c :: as₂,he ▸ .field hadm hr,lengthLex_cons_iff.mpr (.inl ?_)⟩
          have hpos := List.length_pos_iff.mpr hu
          omega

/-- A language that starts too far on ends with the text, since its hyphen is no word character. -/
theorem lang_reaches_end {d b z u a y : List Char} (h : d ++ (b ++ (z ++ u)) = a ++ y)
    (hl : y.length = z.length) (ha : SourceField.lang.Admits a) (hb : SourceField.lang.Admits b)
    (hd : d ≠ []) : u = [] := by
  have hlen := congrArg List.length h
  simp only [List.length_append] at hlen
  have hdpos := List.length_pos_iff.mpr hd
  have hhyphen : Unicode.isWord '-' = false := by decide
  rcases SourceField.admits_lang ha with ⟨ha,-⟩ | ⟨ha,hmid⟩
  · rcases SourceField.admits_lang hb with ⟨hb,-⟩ | ⟨hb,-⟩ <;> omega
  · rcases SourceField.admits_lang hb with ⟨hb,hword⟩ | ⟨hb,-⟩
    · by_cases hu : u = []
      · exact hu
      have hupos := List.length_pos_iff.mpr hu
      -- the hyphen of the longer language falls into the two word characters of the shorter
      have hget : (d ++ (b ++ (z ++ u)))[2]? = some '-' := by
        rw [h,List.getElem?_append_left (by omega)]
        exact hmid
      rw [List.getElem?_append_right (by omega),List.getElem?_append_left (by omega)] at hget
      have := hword _ (List.mem_of_getElem? hget)
      simp [hhyphen] at this
    · omega

theorem eq_nil_of_suffix {segs : List (Segment SourceField)} {as bs : List (List Char)}
    {d t u : List Char} (hn : (Segment.fields segs).Nodup) (ht : .title ∉ Segment.fields segs)
    (hd : Describes segs as (d ++ (t ++ u))) (hd' : Describes segs bs t) (hne : d ≠ []) :
    u = [] := by
  induction segs generalizing as bs d t with
  | nil =>
    have := (describes_nil_iff.mp hd).2
    simp_all
  | cons seg segs ih =>
    obtain ⟨as₁,a,as₂,y,rfl,hy,hc,hr⟩ := describes_cons_iff.mp hd
    obtain ⟨bs₁,b,bs₂,z,rfl,rfl,hc',hr'⟩ := describes_cons_iff.mp hd'
    rw [List.append_assoc] at hy
    cases hw : seg.width? with
    | some k =>
      obtain ⟨d',hdlen,rfl⟩ := exists_shift hy (by rw [hc.length hw,hc'.length hw])
      have ht' : .title ∉ Segment.fields segs := by cases seg <;> simp_all
      have hne' : d' ≠ [] := by
        rw [← List.length_pos_iff,hdlen]
        exact List.length_pos_iff.mpr hne
      exact ih (nodup_fields_tail hn) ht' hr hr' hne'
    | none =>
      rcases Segment.width?_eq_none hw with rfl | rfl
      · have ht' : .title ∉ Segment.fields segs := by simpa using ht
        have hl' : .lang ∉ Segment.fields segs := (List.nodup_cons.mp hn).1
        exact lang_reaches_end hy (length_eq_of_fixed hl' ht' hr hr') hc.2 hc'.2 hne
      · simp at ht

/-- A longer description of a beginning leaves nothing over, or there is one still longer. -/
theorem exists_longer {segs : List (Segment SourceField)} {as bs : List (List Char)}
    {t u : List Char} (hn : (Segment.fields segs).Nodup) (hd : Describes segs as (t ++ u))
    (hd' : Describes segs bs t) (h : LengthLex as bs) :
    u = [] ∨ ∃ cs, Describes segs cs (t ++ u) ∧ LengthLex bs cs := by
  induction segs generalizing as bs t with
  | nil =>
    rw [(describes_nil_iff.mp hd').1] at h
    exact absurd h not_lengthLex_nil
  | cons seg segs ih =>
    obtain ⟨as₁,a,as₂,y,rfl,hy,hc,hr⟩ := describes_cons_iff.mp hd
    obtain ⟨bs₁,b,bs₂,z,rfl,rfl,hc',hr'⟩ := describes_cons_iff.mp hd'
    rw [List.append_assoc] at hy ⊢
    have hsame : a.length = b.length → LengthLex as₂ bs₂ →
        u = [] ∨ ∃ cs, Describes (seg :: segs) cs (b ++ (z ++ u)) ∧ LengthLex (bs₁ ++ bs₂) cs := by
      intro hl hlex
      obtain ⟨-,rfl⟩ := List.append_inj hy hl.symm
      rcases ih (nodup_fields_tail hn) hr hr' hlex with hu | ⟨cs,hcs,hlex'⟩
      · exact .inl hu
      · exact .inr ⟨bs₁ ++ cs,describes_cons_iff.mpr ⟨bs₁,b,cs,z ++ u,rfl,rfl,hc',hcs⟩,
          hlex'.append_left bs₁⟩
    cases seg with
    | literal x =>
      obtain ⟨rfl,rfl⟩ := hc
      obtain ⟨rfl,rfl⟩ := hc'
      exact hsame rfl h
    | field f =>
      obtain ⟨rfl,ha⟩ := hc
      obtain ⟨rfl,hb⟩ := hc'
      rcases lengthLex_cons_iff.mp h with hlt | ⟨hl,hlex⟩
      · -- the texts of this field differ in length, so it is the language or the title
        obtain ⟨hf,hn'⟩ := List.nodup_cons.mp hn
        have hpre : a <+: b := by
          have hab : a <+: b ++ (z ++ u) := hy ▸ List.prefix_append _ _
          exact List.prefix_of_prefix_length_le hab (List.prefix_append _ _) (by omega)
        obtain ⟨d,rfl⟩ := hpre
        rw [List.append_assoc] at hy
        have hyd : y = d ++ (z ++ u) := (List.append_cancel_left hy).symm
        subst hyd
        have hd₀ : d ≠ [] := by
          rintro rfl
          simp at hlt
        cases hw : f.width? with
        | some k =>
          have := SourceField.length_of_width? hw ha
          have := SourceField.length_of_width? hw hb
          omega
        | none =>
          have hwide : (Segment.field f).width? = none := hw
          rcases Segment.width?_eq_none hwide with he | he
          · cases he
            rcases exists_longer_of_suffix hn' hf hr hr' with hu | ⟨cs,hcs,hlex'⟩
            · exact .inl hu
            · exact .inr ⟨(a ++ d) :: cs,.field hb hcs,lengthLex_cons_iff.mpr (.inr ⟨rfl,hlex'⟩)⟩
          · cases he
            exact .inl (eq_nil_of_suffix hn' hf hr hr' hd₀)
      · exact hsame hl hlex

theorem eq_nil_of_greatest {segs : List (Segment SourceField)} {as bs : List (List Char)}
    {t u : List Char} (hn : (Segment.fields segs).Nodup) (hd : Describes segs as (t ++ u))
    (hd' : Describes segs bs t)
    (hmax : ∀ cs v w, Describes segs cs v → t ++ u = v ++ w → ¬ LengthLex bs cs) : u = [] := by
  by_cases hlex : LengthLex as bs
  · rcases exists_longer hn hd hd' hlex with hu | ⟨cs,hcs,hlex'⟩
    · exact hu
    · exact absurd hlex' (hmax cs (t ++ u) [] hcs (by simp))
  · have hl : as.length = bs.length := by rw [length_of_describes hd,length_of_describes hd']
    have hlens := lengths_eq_of_not_lengthLex hl hlex (hmax as (t ++ u) [] hd (by simp))
    have := length_eq_of_describes hd hd' hlens
    rw [List.length_append] at this
    exact List.eq_nil_of_length_eq_zero (by omega)

end BlogPaths
