import BlogPaths.Proofs.CanonicalSegments
import BlogPaths.Proofs.Captures
import BlogPaths.Source.Pattern

/-! Expressions read back.  From the left, a character behind a backslash stands for itself, a
parenthesis opens the group of a field, and every other character stands for itself again.  So the
expression of a template tells its segments, but for months and days, which have the same group:
nothing in a literal is taken for more than a text. -/
namespace BlogPaths

open Segment

namespace SourceField

/-- The field that is read where a group stands. -/
def byGroup : SourceField → SourceField
  | day => month
  | f => f

def exchange : SourceField → SourceField
  | month => day
  | day => month
  | f => f

theorem exchange_exchange (f : SourceField) : f.exchange.exchange = f := by cases f <;> rfl

/-- Fields with the same group are the same or have been exchanged. -/
theorem byGroup_eq_iff {f g : SourceField} : f.byGroup = g.byGroup ↔ g = f ∨ g = f.exchange := by
  cases f <;> cases g <;> decide

end SourceField

namespace Expression

open SourceField

def readGroup? (s : List Char) : Option (SourceField × List Char) :=
  [lang,year,month,title].findSome? fun f =>
    if group f <+: s then some (f,s.drop (group f).length) else none

theorem length_lt_of_readGroup? {s r : List Char} {f : SourceField}
    (h : readGroup? s = some (f,r)) : r.length < s.length := by
  obtain ⟨f',-,hf⟩ := List.exists_of_findSome?_eq_some h
  split at hf
  · rename_i hprefix
    obtain ⟨t,rfl⟩ := hprefix
    obtain ⟨rfl,rfl⟩ := Prod.mk.inj (Option.some.inj hf)
    have hpos : 0 < (group f').length := by cases f' <;> decide
    rw [List.drop_left,List.length_append]
    omega
  · cases hf

def read? : List Char → Option (List (Segment SourceField))
  | [] => some []
  | ['\\'] => none
  | '\\' :: c :: s => (read? s).map (consChar c)
  | '(' :: s =>
    match _h : readGroup? ('(' :: s) with
    | some (f,r) => (read? r).map (field f :: ·)
    | none => none
  | c :: s => (read? s).map (consChar c)
termination_by s => s.length
decreasing_by
  · exact Nat.lt_succ_of_lt (Nat.lt_succ_self _)
  · exact length_lt_of_readGroup? _h
  · exact Nat.lt_succ_self _

def segments? (e : String) : Option (List (Segment SourceField)) :=
  match e.toList with
  | '^' :: s => read? s
  | _ => none

@[simp] theorem group_byGroup (f : SourceField) : group f.byGroup = group f := by cases f <;> rfl

theorem group_exchange (f : SourceField) : group f.exchange = group f := by cases f <;> rfl

theorem readGroup?_append (f : SourceField) (s : List Char) :
    readGroup? (group f ++ s) = some (f.byGroup,s) := by
  have hfree : ∀ f ∈ [lang,year,month,title], ∀ g ∈ [lang,year,month,title],
      group f <+: group g → f = g := by decide
  have hmem : f.byGroup ∈ [lang,year,month,title] := by cases f <;> decide
  rw [← group_byGroup f]
  exact findSome?_word_append hfree hmem s

theorem read?_group (f : SourceField) (s : List Char) :
    read? (group f ++ s) = (read? s).map (field f.byGroup :: ·) := by
  obtain ⟨t,ht⟩ : ∃ t, group f ++ s = '(' :: t := by cases f <;> exact ⟨_,rfl⟩
  have hgroup := readGroup?_append f s
  rw [ht] at hgroup ⊢
  rw [read?]
  split <;> simp_all

theorem read?_char (c : Char) (s : List Char) :
    read? (escape [c] ++ s) = (read? s).map (consChar c) := by
  by_cases hc : c ∈ special
  · simp [escape,hc,read?]
  · have hback : c ≠ '\\' := by
      rintro rfl
      exact hc (by decide)
    have hparen : c ≠ '(' := by
      rintro rfl
      exact hc (by decide)
    have hescape : escape [c] ++ s = c :: s := by simp [escape,hc]
    rw [hescape,read?] <;> simp_all

theorem read?_escape_append (t s : List Char) :
    read? (escape t ++ s) = (read? s).map fun segs => t.foldr consChar segs := by
  induction t with
  | nil => simp
  | cons c t ih =>
    rw [← List.singleton_append,escape_append,List.append_assoc,read?_char,ih,Option.map_map]
    rfl

/-- The expression of segments of the one form is read as these segments. -/
theorem read?_ofSegments {segs : List (Segment SourceField)} (h : SourceField.IsCanonical segs) :
    read? (ofSegments segs) = some (segs.map (Segment.map byGroup)) := by
  induction segs with
  | nil => simp [ofSegments,read?]
  | cons s segs ih =>
    obtain ⟨hallowed,hnext,hsegs⟩ := isCanonical_cons_iff.mp h
    rw [ofSegments,List.flatMap_cons,← ofSegments]
    cases s with
    | literal t =>
      -- what is read behind the literal is no literal either
      have hbehind : ∀ s ∈ (segs.map (Segment.map byGroup)).head?,
          MayPrecede (fun _ => True) (literal t) s := by
        intro s hs
        rw [List.head?_map] at hs
        obtain ⟨s',hs',rfl⟩ := Option.map_eq_some_iff.mp hs
        cases s' with
        | literal u => exact hnext _ hs'
        | field f => trivial
      rw [ofSegment,read?_escape_append,ih hsegs,Option.map_some,foldr_consChar hallowed.1 hbehind]
      rfl
    | field f =>
      rw [ofSegment,read?_group,ih hsegs]
      rfl

theorem ofSegments_map_exchange (segs : List (Segment SourceField)) :
    ofSegments (segs.map (Segment.map exchange)) = ofSegments segs := by
  rw [ofSegments,List.flatMap_map]
  congr
  funext s
  cases s with
  | literal t => rfl
  | field f => exact group_exchange f

end Expression

namespace SourceField

theorem map_exchange_eq_self {segs : List (Segment SourceField)} {f : SourceField}
    (hne : f.exchange ≠ f) (hf : f ∉ Segment.fields segs) (hx : f.exchange ∉ Segment.fields segs) :
    segs.map (Segment.map exchange) = segs := by
  refine (List.map_congr_left fun s hs => map_eq_self fun g hg => ?_).trans (List.map_id segs)
  have hmem : g ∈ Segment.fields segs := List.mem_filterMap.mpr ⟨s,hs,hg⟩
  cases f <;> cases g <;> simp_all [exchange]

theorem mem_fields_map_exchange {segs : List (Segment SourceField)} {f : SourceField} :
    f.exchange ∈ Segment.fields (segs.map (Segment.map exchange)) ↔ f ∈ Segment.fields segs := by
  rw [fields_map]
  exact List.mem_map_of_injective fun f g h => by
    rw [← exchange_exchange f,h,exchange_exchange]

/-- Where every field stands once, segments with the same groups are the same, or all of their months
and days are exchanged. -/
theorem eq_or_eq_exchange {segs segs' : List (Segment SourceField)}
    (hn : (Segment.fields segs).Nodup) (hn' : (Segment.fields segs').Nodup)
    (h : segs.map (Segment.map byGroup) = segs'.map (Segment.map byGroup)) :
    segs' = segs ∨ segs' = segs.map (Segment.map exchange) := by
  induction segs generalizing segs' with
  | nil => exact .inl (List.map_eq_nil_iff.mp h.symm)
  | cons s segs ih =>
    cases segs' with
    | nil => cases h
    | cons s' segs' =>
      obtain ⟨hs,hsegs⟩ := List.cons.inj h
      have hrest := ih (nodup_fields_tail hn) (nodup_fields_tail hn') hsegs
      cases s with
      | literal t =>
        cases s' with
        | field g => cases hs
        | literal t' =>
          obtain rfl := literal.inj hs
          rcases hrest with rfl | rfl
          · exact .inl rfl
          · exact .inr rfl
      | field f =>
        cases s' with
        | literal t' => cases hs
        | field g =>
          have hf : f ∉ Segment.fields segs := (List.nodup_cons.mp hn).1
          have hg : g ∉ Segment.fields segs' := (List.nodup_cons.mp hn').1
          have hfg := byGroup_eq_iff.mp (field.inj hs)
          by_cases hfix : f.exchange = f
          · obtain rfl : g = f := by simpa [hfix] using hfg
            rcases hrest with rfl | rfl
            · exact .inl rfl
            · exact .inr (by rw [List.map_cons,Segment.map,hfix])
          · -- where heads and rests go apart, the rests have no field of this group
            rcases hfg with rfl | rfl <;> rcases hrest with rfl | rfl
            · exact .inl rfl
            · have hx : g.exchange ∉ Segment.fields segs := fun hmem => hg <| by
                rwa [← mem_fields_map_exchange,exchange_exchange] at hmem
              exact .inl (by rw [map_exchange_eq_self hfix hf hx])
            · exact .inr (by rw [List.map_cons,Segment.map,map_exchange_eq_self hfix hf hg])
            · exact .inr rfl

end SourceField

namespace SourcePattern

theorem isCanonical_of_compile {template : String} {p : SourcePattern}
    (hc : compile template = .ok p) : SourceField.IsCanonical p.segments := by
  rw [(segments_of_compile hc).1]
  exact SourceField.grammar_reads.isCanonical_tokenize _

theorem segments?_articleExpression {template : String} {p : SourcePattern}
    (hc : compile template = .ok p) :
    Expression.segments? p.articleExpression =
      some (p.segments.map (Segment.map SourceField.byGroup)) := by
  rw [articleExpression,Expression.article,Expression.segments?,String.toList_ofList]
  exact Expression.read?_ofSegments (isCanonical_of_compile hc)

/-- The expression of a template is read as the template's segments, with a month for a day; so two
templates have one expression if and only if they have the same segments, or the same but for month
and day in each other's place. -/
theorem articleExpression_eq_iff {template template' : String} {p p' : SourcePattern}
    (hc : compile template = .ok p) (hc' : compile template' = .ok p') :
    Expression.segments? p.articleExpression =
      some (p.segments.map (Segment.map SourceField.byGroup)) ∧
    (p.articleExpression = p'.articleExpression ↔
      p'.segments = p.segments ∨ p'.segments = p.segments.map (Segment.map SourceField.exchange)) := by
  refine ⟨segments?_articleExpression hc,fun h => ?_,?_⟩
  · have hread := segments?_articleExpression hc
    rw [h,segments?_articleExpression hc',Option.some.injEq] at hread
    exact SourceField.eq_or_eq_exchange (nodup_of_compile hc) (nodup_of_compile hc') hread.symm
  · rintro (h | h)
    · rw [articleExpression,articleExpression,h]
    · rw [articleExpression,articleExpression,h,Expression.article,Expression.article,
        Expression.ofSegments_map_exchange]

theorem articleExpression_eq_iff_sample :
    ∃ p p', compile "(\\d\x7b2\x7d):month\\:day" = .ok p ∧
      compile "(\\d\x7b2\x7d):day\\:month" = .ok p' ∧
      p'.segments ≠ p.segments ∧ p.articleExpression = p'.articleExpression ∧
      Expression.segments? p.articleExpression =
        some [.literal "(\\d\x7b2\x7d)".toList,.field .month,.literal ['\\'],.field .month] := by
  obtain ⟨p,hc,hsegs⟩ : ∃ p, compile "(\\d\x7b2\x7d):month\\:day" = .ok p ∧ p.segments =
      [.literal "(\\d\x7b2\x7d)".toList,.field .month,.literal ['\\'],.field .day] :=
    ⟨⟨"(\\d\x7b2\x7d):month\\:day",[.literal "(\\d\x7b2\x7d)".toList,.field .month,
      .literal ['\\'],.field .day]⟩,by decide +kernel,rfl⟩
  obtain ⟨p',hc',hsegs'⟩ : ∃ p, compile "(\\d\x7b2\x7d):day\\:month" = .ok p ∧ p.segments =
      [.literal "(\\d\x7b2\x7d)".toList,.field .day,.literal ['\\'],.field .month] :=
    ⟨⟨"(\\d\x7b2\x7d):day\\:month",[.literal "(\\d\x7b2\x7d)".toList,.field .day,
      .literal ['\\'],.field .month]⟩,by decide +kernel,rfl⟩
  obtain ⟨hread,heq⟩ := articleExpression_eq_iff hc hc'
  rw [hsegs] at hread
  refine ⟨p,p',hc,hc',?_,heq.mpr (.inr ?_),hread⟩
  · rw [hsegs,hsegs']
    decide
  · rw [hsegs,hsegs']
    rfl

end SourcePattern

end BlogPaths
