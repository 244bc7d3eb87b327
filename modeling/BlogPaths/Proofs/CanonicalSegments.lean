import BlogPaths.Proofs.TemplatePieces
import BlogPaths.Source.Field
import Mathlib.Data.List.Chain

/-! The one form of a template's segments.  It is said of the segments alone: no literal is empty, next to
another one, or has a field in it, and no name runs on into the literal behind it.  Every template is
written by one list of segments in this form, and that is the list it is split into. -/
namespace BlogPaths

variable {φ : Type}

namespace Segment

variable {name : φ → List Char} {has : φ → Prop} {ends : Char → Prop}

/-- A literal is some text in which no field is written; a field is one that `has` allows. -/
def IsAllowed (name : φ → List Char) (has : φ → Prop) : Segment φ → Prop
  | literal t => t ≠ [] ∧ ∀ f, has f → ¬ written name (field f) <:+: t
  | field f => has f

/-- What may follow a segment: a field always, and behind a field a literal that ends its name. -/
def MayPrecede (ends : Char → Prop) : Segment φ → Segment φ → Prop
  | literal _, literal _ => False
  | field _, literal t => ∀ c ∈ t.head?, ends c
  | _, field _ => True

structure IsCanonical (name : φ → List Char) (has : φ → Prop) (ends : Char → Prop)
    (segs : List (Segment φ)) : Prop where
  isAllowed : ∀ s ∈ segs, s.IsAllowed name has
  isChain : segs.IsChain (MayPrecede ends)

theorem isCanonical_nil : IsCanonical name has ends [] := ⟨by simp,.nil⟩

theorem isCanonical_cons_iff {s : Segment φ} {segs : List (Segment φ)} :
    IsCanonical name has ends (s :: segs) ↔
      s.IsAllowed name has ∧ (∀ s' ∈ segs.head?, MayPrecede ends s s') ∧
        IsCanonical name has ends segs := by
  constructor
  · rintro ⟨hallowed,hchain⟩
    obtain ⟨hs,hsegs⟩ := List.forall_mem_cons.mp hallowed
    obtain ⟨hnext,hchain⟩ := List.isChain_cons.mp hchain
    exact ⟨hs,hnext,hsegs,hchain⟩
  · rintro ⟨hs,hnext,hsegs,hchain⟩
    exact ⟨List.forall_mem_cons.mpr ⟨hs,hsegs⟩,List.isChain_cons.mpr ⟨hnext,hchain⟩⟩

theorem MayPrecede.of_literal {t : List Char} (u : List Char) {s : Segment φ}
    (h : MayPrecede ends (literal t) s) : MayPrecede ends (literal u) s := by
  cases s with
  | literal v => exact h
  | field f => trivial

/-- The characters of a text put one by one in front of a field, or of nothing, are a literal. -/
theorem foldr_consChar {t : List Char} {segs : List (Segment φ)} (ht : t ≠ [])
    (h : ∀ s ∈ segs.head?, MayPrecede ends (literal t) s) :
    t.foldr consChar segs = literal t :: segs := by
  induction t with
  | nil => exact absurd rfl ht
  | cons c t ih =>
    cases t with
    | nil =>
      cases segs with
      | nil => rfl
      | cons s segs =>
        cases s with
        | literal u => exact (h _ rfl).elim
        | field f => rfl
    | cons c' t =>
      rw [List.foldr_cons,ih (List.cons_ne_nil _ _) fun s hs => (h s hs).of_literal _]
      rfl

theorem IsCanonical.consChar {c : Char} {segs : List (Segment φ)}
    (h : IsCanonical name has ends segs)
    (hc : c = ':' → ∀ f, has f → ¬ name f <+: writtenAll name segs) :
    IsCanonical name has ends (consChar c segs) := by
  have hprefix : ∀ f t, has f → t <+: writtenAll name segs → ¬ written name (field f) <+: c :: t := by
    intro f t hf ht hp
    obtain ⟨hcolon,hname⟩ := List.cons_prefix_cons.mp hp
    exact hc hcolon.symm f hf (hname.trans ht)
  have hsingle : IsAllowed name has (literal [c]) := by
    refine ⟨List.cons_ne_nil _ _,fun f hf hinfix => ?_⟩
    rcases List.infix_cons_iff.mp hinfix with hp | hinfix
    · exact hprefix f [] hf List.nil_prefix hp
    · exact List.cons_ne_nil _ _ (List.infix_nil.mp hinfix)
  cases segs with
  | nil => exact isCanonical_cons_iff.mpr ⟨hsingle,by simp,isCanonical_nil⟩
  | cons s segs =>
    cases s with
    | literal t =>
      obtain ⟨⟨-,ht⟩,hnext,hsegs⟩ := isCanonical_cons_iff.mp h
      refine isCanonical_cons_iff.mpr ⟨⟨List.cons_ne_nil _ _,fun f hf hinfix => ?_⟩,?_,hsegs⟩
      · rcases List.infix_cons_iff.mp hinfix with hp | hinfix
        · exact hprefix f t hf (List.prefix_append _ _) hp
        · exact ht f hf hinfix
      · exact fun s' hs' => (hnext s' hs').of_literal _
    | field f =>
      refine isCanonical_cons_iff.mpr ⟨hsingle,fun s' hs' => ?_,h⟩
      obtain rfl := Option.some.inj hs'
      trivial

end Segment

open Segment

namespace Grammar

variable {g : Grammar φ} {has : φ → Prop} {ends : Char → Prop}

/-- A grammar reads the fields that `has` allows, wherever their names stand and end.  A colon ends
every name and is in none. -/
structure Reads (g : Grammar φ) (has : φ → Prop) (ends : Char → Prop) : Prop where
  read?_eq_some_iff : ∀ {s f r},
    g.read? s = some (f,r) ↔ s = g.name f ++ r ∧ has f ∧ ∀ c ∈ r.head?, ends c
  read?_ne_none : ∀ {f r}, has f → g.read? (g.name f ++ r) ≠ none
  colon_ends : ends ':'
  colon_notMem : ∀ {f}, has f → ':' ∉ g.name f

theorem tokenize_field {s r : List Char} {f : φ} (h : g.read? s = some (f,r)) :
    g.tokenize (':' :: s) = field f :: g.tokenize r := by
  rw [tokenize,if_pos rfl]
  split <;> simp_all

theorem tokenize_char {c : Char} {s : List Char} (h : c = ':' → g.read? s = none) :
    g.tokenize (c :: s) = consChar c (g.tokenize s) := by
  rw [tokenize]
  split
  · split <;> simp_all
  · rfl

/-- A template is split into segments of the one form. -/
theorem Reads.isCanonical_tokenize (h : g.Reads has ends) (s : List Char) :
    IsCanonical g.name has ends (g.tokenize s) := by
  fun_induction tokenize g s with
  | case1 => exact isCanonical_nil
  | case2 s f r hr ih =>
    obtain ⟨-,hf,hends⟩ := h.read?_eq_some_iff.mp hr
    refine isCanonical_cons_iff.mpr ⟨hf,fun next hnext => ?_,ih⟩
    cases next with
    | field f' => trivial
    | literal t =>
      -- the literal is what the rest of the template starts with
      intro c hc
      refine hends c ?_
      obtain ⟨segs,hsegs⟩ : ∃ segs, g.tokenize r = literal t :: segs := by
        cases hsegs : g.tokenize r with
        | nil => simp [hsegs] at hnext
        | cons s segs => exact ⟨segs,by simpa [hsegs] using hnext⟩
      rw [← g.writtenAll_tokenize r,hsegs,writtenAll_cons,written,List.head?_append,hc]
      rfl
  | case3 s hnone ih =>
    refine ih.consChar fun _ f hf hp => ?_
    rw [g.writtenAll_tokenize] at hp
    obtain ⟨r,rfl⟩ := hp
    exact h.read?_ne_none hf hnone
  | case4 c s hc ih => exact ih.consChar fun he => absurd he hc

/-- Where a text without fields is followed by a field or by nothing, no field starts in it. -/
theorem Reads.read?_append_eq_none (h : g.Reads has ends) {t : List Char} {segs : List (Segment φ)}
    (ht : ∀ f, has f → ¬ written g.name (field f) <:+: ':' :: t)
    (hnext : ∀ s ∈ segs.head?, MayPrecede ends (literal t) s) :
    g.read? (t ++ writtenAll g.name segs) = none := by
  rw [Option.eq_none_iff_forall_ne_some]
  rintro ⟨f,r⟩ hr
  obtain ⟨hs,hf,-⟩ := h.read?_eq_some_iff.mp hr
  rcases List.append_eq_append_iff.mp hs with ⟨x,hname,hx⟩ | ⟨x,rfl,-⟩
  · cases x with
    | nil =>
      rw [List.append_nil] at hname
      exact ht f hf ⟨[],[],by simp [written,hname]⟩
    | cons c x =>
      -- the name would reach over the colon of the next field
      cases segs with
      | nil => simp at hx
      | cons s segs =>
        cases s with
        | literal u => exact hnext _ rfl
        | field f' =>
          obtain ⟨rfl,-⟩ := List.cons.inj hx
          exact h.colon_notMem hf (by simp [hname])
  · exact ht f hf ⟨[],x,by simp [written]⟩

theorem Reads.tokenize_append (h : g.Reads has ends) {t : List Char} {segs : List (Segment φ)}
    (ht : ∀ f, has f → ¬ written g.name (field f) <:+: t)
    (hnext : ∀ s ∈ segs.head?, MayPrecede ends (literal t) s) :
    g.tokenize (t ++ writtenAll g.name segs) =
      t.foldr consChar (g.tokenize (writtenAll g.name segs)) := by
  induction t with
  | nil => rfl
  | cons c t ih =>
    have hnext' : ∀ s ∈ segs.head?, MayPrecede ends (literal t) s :=
      fun s hs => (hnext s hs).of_literal _
    rw [List.cons_append,tokenize_char fun hc => h.read?_append_eq_none (hc ▸ ht) hnext',
      ih (fun f hf hinfix => ht f hf (List.infix_cons hinfix)) hnext',List.foldr_cons]

/-- Segments of the one form are what the template that they write is split into. -/
theorem Reads.tokenize_writtenAll (h : g.Reads has ends) {segs : List (Segment φ)}
    (hs : IsCanonical g.name has ends segs) : g.tokenize (writtenAll g.name segs) = segs := by
  induction segs with
  | nil => exact tokenize_nil g
  | cons s segs ih =>
    obtain ⟨hallowed,hnext,hsegs⟩ := isCanonical_cons_iff.mp hs
    cases s with
    | literal t =>
      rw [writtenAll_cons,written,h.tokenize_append hallowed.2 hnext,ih hsegs,
        foldr_consChar hallowed.1 hnext]
    | field f =>
      have hends : ∀ c ∈ (writtenAll g.name segs).head?, ends c := by
        cases segs with
        | nil => simp
        | cons s segs =>
          cases s with
          | literal t =>
            obtain ⟨⟨hne,-⟩,-⟩ := isCanonical_cons_iff.mp hsegs
            intro c hc
            refine hnext _ rfl c ?_
            rwa [writtenAll_cons,written,List.head?_append_of_ne_nil _ hne] at hc
          | field f' =>
            intro c hc
            obtain rfl := Option.some.inj hc
            exact h.colon_ends
      rw [writtenAll_cons,written,List.cons_append,
        tokenize_field (h.read?_eq_some_iff.mpr ⟨rfl,hallowed,hends⟩),ih hsegs]

theorem Reads.tokenize_eq_iff (h : g.Reads has ends) {s : List Char} {segs : List (Segment φ)} :
    g.tokenize s = segs ↔ writtenAll g.name segs = s ∧ IsCanonical g.name has ends segs := by
  constructor
  · rintro rfl
    exact ⟨g.writtenAll_tokenize s,h.isCanonical_tokenize s⟩
  · rintro ⟨rfl,hs⟩
    exact h.tokenize_writtenAll hs

end Grammar

/-- Of words none of which starts another one, the one in front of a text is found. -/
theorem findSome?_word_append {α : Type} {word : α → List Char} {as : List α}
    (hfree : ∀ a ∈ as, ∀ b ∈ as, word a <+: word b → a = b) {a : α} (ha : a ∈ as)
    (s : List Char) :
    (as.findSome? fun b =>
      if word b <+: word a ++ s then some (b,(word a ++ s).drop (word b).length) else none) =
      some (a,s) := by
  cases hfind : as.findSome? fun b =>
      if word b <+: word a ++ s then some (b,(word a ++ s).drop (word b).length) else none with
  | none =>
    have hnone := List.findSome?_eq_none_iff.mp hfind a ha
    simp at hnone
  | some p =>
    obtain ⟨b,hb,hp⟩ := List.exists_of_findSome?_eq_some hfind
    split at hp
    · rename_i hprefix
      have hab : a = b := by
        rcases List.prefix_or_prefix_of_prefix (List.prefix_append _ s) hprefix with h | h
        · exact hfree a ha b hb h
        · exact (hfree b hb a ha h).symm
      subst hab
      rw [← hp,List.drop_left]
    · cases hp

namespace SourceField

theorem eq_of_name_isPrefix {f g : SourceField} (h : f.name.toList <+: g.name.toList) : f = g := by
  have hall : ∀ f ∈ all, ∀ g ∈ all, f.name.toList <+: g.name.toList → f = g := by decide
  exact hall f (mem_all f) g (mem_all g) h

theorem read?_name_append (f : SourceField) (r : List Char) :
    read? (f.name.toList ++ r) = some (f,r) :=
  findSome?_word_append (fun _ _ _ _ => eq_of_name_isPrefix) (mem_all f) r

theorem grammar_reads : grammar.Reads (· ∈ all) fun _ => True where
  read?_eq_some_iff {s f r} := by
    constructor
    · intro h
      exact ⟨read?_eq h,mem_all f,fun _ _ => trivial⟩
    · rintro ⟨rfl,-,-⟩
      exact read?_name_append f r
  read?_ne_none {f r} _ h := by
    have hread : grammar.read? (grammar.name f ++ r) = some (f,r) := read?_name_append f r
    rw [hread] at h
    cases h
  colon_ends := trivial
  colon_notMem {f} _ := by cases f <;> decide

def IsCanonical (segs : List (Segment SourceField)) : Prop :=
  Segment.IsCanonical grammar.name (· ∈ all) (fun _ => True) segs

end SourceField

namespace PermalinkField

open Permalink

/-- A field of a permalink is one that its name, which is a run of letters and digits, stands for. -/
def HasName (f : PermalinkField) : Prop :=
  f.name ≠ "" ∧ (∀ c ∈ f.name.toList, c.isAlphanum = true) ∧ ofName f.name = f

theorem read?_eq_some_iff {s r : List Char} {f : PermalinkField} :
    read? s = some (f,r) ↔
      s = f.name.toList ++ r ∧ f.HasName ∧ ∀ c ∈ r.head?, c.isAlphanum = false := by
  constructor
  · intro h
    obtain ⟨name,hn,rfl⟩ := startsWithName_of_read? h
    refine ⟨read?_eq h,?_,hn.longest⟩
    rw [HasName,name_ofName]
    exact ⟨hn.ne_empty,hn.isAlphanum,rfl⟩
  · rintro ⟨hs,⟨hne,hall,hf⟩,hends⟩
    have hn : StartsWithName s f.name r := ⟨hs,hne,hall,hends⟩
    obtain ⟨_,htake,hdrop⟩ := startsWithName_iff.mp hn
    have hnil : f.name.toList ≠ [] := by simpa using hne
    simp only [read?,htake,hdrop,if_neg hnil,String.ofList_toList,hf]

theorem grammar_reads : grammar.Reads HasName fun c => c.isAlphanum = false where
  read?_eq_some_iff := read?_eq_some_iff
  read?_ne_none {f r} hf h := by
    have htake : (f.name.toList ++ r).takeWhile Char.isAlphanum ≠ [] := by
      rw [List.takeWhile_append_of_pos hf.2.1]
      simp [hf.1]
    simp [grammar,read?,htake] at h
  colon_ends := by decide
  colon_notMem {f} hf hcolon := by simpa using hf.2.1 ':' hcolon

def IsCanonical (segs : List (Segment PermalinkField)) : Prop :=
  Segment.IsCanonical grammar.name HasName (fun c => c.isAlphanum = false) segs

end PermalinkField

/-- Templates and segments of the one form correspond to each other, in both grammars: a template is
split into the only such segments that write it. -/
theorem tokenize_canonical (s : List Char) :
    (∀ segs, SourceField.grammar.tokenize s = segs ↔
      writtenAll SourceField.grammar.name segs = s ∧ SourceField.IsCanonical segs) ∧
    ∀ segs, PermalinkField.grammar.tokenize s = segs ↔
      writtenAll PermalinkField.grammar.name segs = s ∧ PermalinkField.IsCanonical segs :=
  ⟨fun _ => SourceField.grammar_reads.tokenize_eq_iff,
    fun _ => PermalinkField.grammar_reads.tokenize_eq_iff⟩

/-- Source paths have no field `da`, and the name of a permalink's field reaches as far as it can. -/
example :
    SourceField.grammar.tokenize ":da:days".toList =
      [.literal ":da".toList,.field .day,.literal ['s']] ∧
    PermalinkField.grammar.tokenize ":da:days".toList =
      [.field (.custom "da"),.field (.custom "days")] := by decide +kernel

end BlogPaths
