import BlogPaths.Permalink.Expansion

/-! How a template of permalinks is read: what its fields are called, of what pieces it consists, and
which custom fields are left in it, where one that comes again stands for its name. -/
namespace BlogPaths

namespace PermalinkField

theorem ofName_injective {name name' : String} (h : ofName name = ofName name') : name = name' := by
  rw [← name_ofName name,h,name_ofName]

theorem ofName_cases (name : String) :
    (name = "lang" ∧ ofName name = lang) ∨ (name = "year" ∧ ofName name = year) ∨
    (name = "month" ∧ ofName name = month) ∨ (name = "day" ∧ ofName name = day) ∨
    (name = "title" ∧ ofName name = title) ∨
    (name ∉ Permalink.fixedNames ∧ ofName name = custom name) := by
  unfold ofName Permalink.fixedNames
  repeat (split; · simp_all)
  simp_all

theorem ofName_of_notMem {name : String} (h : name ∉ Permalink.fixedNames) :
    ofName name = custom name := by
  simp_all [ofName,Permalink.fixedNames]

theorem isRepeatable_ofName (name : String) :
    (ofName name).isRepeatable = true ↔ name ∈ Permalink.repeatableNames := by
  rcases ofName_cases name with ⟨rfl,h⟩ | ⟨rfl,h⟩ | ⟨rfl,h⟩ | ⟨rfl,h⟩ | ⟨rfl,h⟩ | ⟨hn,h⟩ <;>
    simp_all [isRepeatable,Permalink.repeatableNames,Permalink.fixedNames]

theorem custom?_of_isRepeatable {f : PermalinkField} (h : f.isRepeatable = true) :
    f.custom? = none := by
  cases f with
  | custom name => cases h
  | _ => rfl

end PermalinkField

namespace Permalink

open PermalinkField

theorem startsWithName_iff {s rest : List Char} {name : String} :
    StartsWithName s name rest ↔
      name ≠ "" ∧ s.takeWhile Char.isAlphanum = name.toList ∧ s.dropWhile Char.isAlphanum = rest := by
  constructor
  · rintro ⟨rfl,hne,hall,hlongest⟩
    have hrest : rest.takeWhile Char.isAlphanum = [] ∧ rest.dropWhile Char.isAlphanum = rest := by
      cases rest with
      | nil => exact ⟨rfl,rfl⟩
      | cons c r => simp [hlongest c rfl]
    rw [List.takeWhile_append_of_pos hall,List.dropWhile_append_of_pos hall,hrest.1,hrest.2]
    exact ⟨hne,List.append_nil _,rfl⟩
  · rintro ⟨hne,htake,rfl⟩
    refine ⟨?_,hne,fun c hc => ?_,fun c hc => ?_⟩
    · rw [← htake,List.takeWhile_append_dropWhile]
    · rw [← htake] at hc
      exact List.all_eq_true.mp List.all_takeWhile c hc
    · have := List.head?_dropWhile_not Char.isAlphanum s
      rw [hc] at this
      simpa using this

theorem StartsWithName.unique {s rest rest' : List Char} {name name' : String}
    (h : StartsWithName s name rest) (h' : StartsWithName s name' rest') :
    name = name' ∧ rest = rest' := by
  obtain ⟨_,htake,hdrop⟩ := startsWithName_iff.mp h
  obtain ⟨_,htake',hdrop'⟩ := startsWithName_iff.mp h'
  exact ⟨String.toList_injective (htake.symm.trans htake'),hdrop.symm.trans hdrop'⟩

theorem startsWithName_of_read? {s rest : List Char} {f : PermalinkField}
    (h : read? s = some (f,rest)) : ∃ name, StartsWithName s name rest ∧ f = ofName name := by
  simp only [read?] at h
  split at h
  · simp at h
  · rename_i hne
    simp only [Option.some.injEq,Prod.mk.injEq] at h
    obtain ⟨rfl,rfl⟩ := h
    refine ⟨_,startsWithName_iff.mpr ⟨fun he => hne ?_,(String.toList_ofList).symm,rfl⟩,rfl⟩
    simpa using congrArg String.toList he

theorem not_startsWithName_of_read? {s : List Char} (h : read? s = none) (name : String)
    (rest : List Char) : ¬ StartsWithName s name rest := by
  intro hn
  obtain ⟨hne,htake,_⟩ := startsWithName_iff.mp hn
  simp only [read?,htake] at h
  split at h
  · rename_i hnil
    exact hne (by simpa using hnil)
  · simp at h

/-- A template is read in one way only. -/
theorem Reads.unique {seen : List String} {s : List Char} {ps qs : List Piece}
    (hp : Reads seen s ps) (hq : Reads seen s qs) : ps = qs := by
  induction hp generalizing qs with
  | nil => cases hq; rfl
  | char hc _ ih =>
    cases hq with
    | char _ hq => rw [ih hq]
    | value hn => exact absurd hn (hc rfl _ _)
    | again hn => exact absurd hn (hc rfl _ _)
  | value hn ha _ ih =>
    cases hq with
    | char hc => exact absurd hn (hc rfl _ _)
    | value hn' _ hq =>
      obtain ⟨rfl,rfl⟩ := hn.unique hn'
      rw [ih hq]
    | again hn' hr hs =>
      obtain ⟨rfl,rfl⟩ := hn.unique hn'
      exact absurd hs (ha.resolve_left hr)
  | again hn hr hs _ ih =>
    cases hq with
    | char hc => exact absurd hn (hc rfl _ _)
    | value hn' ha =>
      obtain ⟨rfl,rfl⟩ := hn.unique hn'
      exact absurd hs (ha.resolve_left hr)
    | again hn' _ _ hq =>
      obtain ⟨rfl,rfl⟩ := hn.unique hn'
      rw [ih hq]

theorem pieces_consChar (seen : List PermalinkField) (c : Char)
    (segs : List (Segment PermalinkField)) :
    (demote seen (Segment.consChar c segs)).flatMap segmentPieces =
      .char c :: (demote seen segs).flatMap segmentPieces := by
  unfold Segment.consChar
  split <;> simp [demote,segmentPieces]

/-- The pieces of the segments are those that the template reads as. -/
theorem reads_tokenize {s : List Char} {fields : List PermalinkField} {seen : List String}
    (hseen : ∀ name, name ∉ repeatableNames → (ofName name ∈ fields ↔ name ∈ seen)) :
    Reads seen s ((demote fields (grammar.tokenize s)).flatMap segmentPieces) := by
  fun_induction Grammar.tokenize grammar s generalizing fields seen with
  | case1 => exact .nil
  | case2 cs f rest h ih =>
    obtain ⟨name,hn,rfl⟩ := startsWithName_of_read? h
    -- Names that may be repeated are never looked for among those that have come before.
    by_cases hr : name ∈ repeatableNames
    · have hrepeat := (isRepeatable_ofName name).mpr hr
      simp only [demote,hrepeat,if_true,List.flatMap_cons,segmentPieces,name_ofName]
      refine .value hn (.inl hr) (ih fun name' hr' => ?_)
      have hne : name' ≠ name := fun he => hr' (he ▸ hr)
      simp [hseen name' hr',hne]
    · have hrepeat : (ofName name).isRepeatable = false := by
        simpa using mt (isRepeatable_ofName name).mp hr
      by_cases hs : ofName name ∈ fields
      · simp only [demote,hrepeat,hs,if_true,Bool.false_eq_true,if_false,List.flatMap_cons,
          segmentPieces,name_ofName]
        exact .again hn hr ((hseen name hr).mp hs) (ih hseen)
      · simp only [demote,hrepeat,hs,Bool.false_eq_true,if_false,List.flatMap_cons,
          segmentPieces,name_ofName]
        refine .value hn (.inr fun h => hs ((hseen name hr).mpr h)) (ih fun name' hr' => ?_)
        rw [List.mem_cons,List.mem_cons,hseen name' hr']
        exact or_congr ⟨ofName_injective,congrArg ofName⟩ Iff.rfl
  | case3 cs h ih =>
    rw [pieces_consChar]
    exact .char (fun _ => not_startsWithName_of_read? h) (ih hseen)
  | case4 c cs hc ih =>
    rw [pieces_consChar]
    exact .char (fun h => absurd h hc) (ih hseen)

def IsNamed (segs : List (Segment PermalinkField)) : Prop :=
  ∀ f ∈ Segment.fields segs, ofName f.name = f

theorem isNamed_consChar {c : Char} {segs : List (Segment PermalinkField)} (h : IsNamed segs) :
    IsNamed (Segment.consChar c segs) := by
  rwa [IsNamed,Segment.fields_consChar]

theorem isNamed_tokenize (s : List Char) : IsNamed (grammar.tokenize s) := by
  fun_induction Grammar.tokenize grammar s with
  | case1 => simp [IsNamed]
  | case2 cs f rest h ih =>
    obtain ⟨name,_,rfl⟩ := startsWithName_of_read? h
    exact List.forall_mem_cons.mpr ⟨by rw [name_ofName],ih⟩
  | case3 cs h ih => exact isNamed_consChar ih
  | case4 c cs hc ih => exact isNamed_consChar ih

theorem fields_demote_sublist (seen : List PermalinkField) (segs : List (Segment PermalinkField)) :
    (Segment.fields (demote seen segs)).Sublist (Segment.fields segs) := by
  fun_induction demote seen segs with
  | case1 => exact .slnil
  | case2 seen t segs ih => exact ih
  | case3 seen f segs hr ih => exact ih.cons_cons f
  | case4 seen f segs hr hs ih => exact ih.cons f
  | case5 seen f segs hr hs ih => exact ih.cons_cons f

theorem IsNamed.demote {segs : List (Segment PermalinkField)} (h : IsNamed segs)
    (seen : List PermalinkField) : IsNamed (demote seen segs) :=
  fun f hf => h f ((fields_demote_sublist seen segs).subset hf)

def customs (segs : List (Segment PermalinkField)) : List String :=
  (Segment.fields segs).filterMap custom?

@[simp] theorem customs_nil : customs [] = [] := rfl
@[simp] theorem customs_literal (t : List Char) (segs : List (Segment PermalinkField)) :
    customs (.literal t :: segs) = customs segs := rfl
@[simp] theorem customs_custom (name : String) (segs : List (Segment PermalinkField)) :
    customs (.field (.custom name) :: segs) = name :: customs segs := rfl

theorem customs_field {f : PermalinkField} (hf : f.custom? = none)
    (segs : List (Segment PermalinkField)) : customs (.field f :: segs) = customs segs := by
  simp [customs,hf]

/-- The custom fields that demotion leaves are those of the template that have not come before,
each at its first use. -/
theorem customs_demote (seen : List PermalinkField) (segs : List (Segment PermalinkField)) :
    customs (demote seen segs) =
      ((customs segs).filter fun name => .custom name ∉ seen).eraseDups := by
  fun_induction demote seen segs with
  | case1 => rfl
  | case2 seen t segs ih => exact ih
  | case3 seen f segs hr ih =>
    have hf : f.custom? = none := custom?_of_isRepeatable hr
    rw [customs_field hf,customs_field hf,ih]
  | case4 seen f segs hr hs ih =>
    cases f with
    | title => rw [customs_literal,customs_field rfl,ih]
    | custom name =>
      rw [customs_literal,customs_custom,List.filter_cons_of_neg (by simpa using hs),ih]
    | lang | year | month | day => exact absurd rfl hr
  | case5 seen f segs hr hs ih =>
    cases f with
    | title =>
      rw [customs_field rfl,customs_field rfl,ih]
      simp
    | custom name =>
      have hkeep : ∀ n, decide (custom n ∉ custom name :: seen) =
          (!(n == name) && decide (custom n ∉ seen)) := by
        intro n
        by_cases hn : n = name <;> simp [hn]
      rw [customs_custom,customs_custom,List.filter_cons_of_pos (by simpa using hs),
        List.eraseDups_cons,List.filter_filter,ih]
      simp only [hkeep]
    | lang | year | month | day => exact absurd rfl hr

theorem nodup_customs_demote (seen : List PermalinkField) (segs : List (Segment PermalinkField)) :
    (customs (demote seen segs)).Nodup ∧
      ∀ name ∈ customs (demote seen segs), .custom name ∉ seen := by
  fun_induction demote seen segs with
  | case1 => simp
  | case2 seen t segs ih => exact ih
  | case3 seen f segs hr ih =>
    rwa [customs_field (custom?_of_isRepeatable hr)]
  | case4 seen f segs hr hs ih => exact ih
  | case5 seen f segs hr hs ih =>
    obtain ⟨hnodup,hseen⟩ := ih
    cases f with
    | title =>
      rw [customs_field rfl]
      exact ⟨hnodup,fun name h => List.not_mem_of_not_mem_cons (hseen name h)⟩
    | custom name =>
      rw [customs_custom]
      refine ⟨List.nodup_cons.mpr ⟨fun h => hseen name h List.mem_cons_self,hnodup⟩,?_⟩
      rintro name' h
      rcases List.mem_cons.mp h with rfl | h
      · exact hs
      · exact List.not_mem_of_not_mem_cons (hseen name' h)
    | lang | year | month | day => exact absurd rfl hr

section

variable {template : String} {p : Permalink}

theorem segments_of_compile (hc : Permalink.compile template = .ok p) :
    p.segments = demote [] (grammar.tokenize template.toList) ∧
      p.customComponents = (customs (grammar.tokenize template.toList)).eraseDups := by
  unfold Permalink.compile at hc
  split at hc
  · cases hc
  · cases hc
    exact ⟨rfl,rfl⟩

theorem isNamed_of_compile (hc : Permalink.compile template = .ok p) : IsNamed p.segments := by
  rw [(segments_of_compile hc).1]
  exact (isNamed_tokenize template.toList).demote []

theorem reads_pieces (hc : Permalink.compile template = .ok p) :
    Reads [] template.toList p.pieces := by
  rw [pieces,(segments_of_compile hc).1]
  exact reads_tokenize (by simp)

theorem customComponents_of_compile (hc : Permalink.compile template = .ok p) :
    p.customComponents = customs p.segments ∧ p.customComponents.Nodup := by
  obtain ⟨hs,hcustoms⟩ := segments_of_compile hc
  have heq : p.customComponents = customs p.segments := by
    rw [hcustoms,hs,customs_demote,List.filter_eq_self.mpr (by simp)]
  refine ⟨heq,?_⟩
  rw [heq,hs]
  exact (nodup_customs_demote _ _).1

end

end Permalink

end BlogPaths
