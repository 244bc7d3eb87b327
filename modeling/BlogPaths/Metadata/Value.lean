import BlogPaths.Calendar.Numeral
import BlogPaths.Decimal.Binary64

/-! Values of front matter, and the objects that hold them in the order in which they were
written. -/
namespace BlogPaths

open Decimal Text

inductive Value
  | null
  | bool (b : Bool)
  | int (n : Int)
  | float (x : Binary64)
  | str (s : String)
  | list (items : List Value)
  | object (entries : List (String × Value))
  deriving Repr, Inhabited

/-- The entries of an object, in the order of their keys' first appearance. -/
abbrev Metadata := List (String × Value)

namespace Metadata

def get? (m : Metadata) (key : String) : Option Value := m.lookup key

def keys (m : Metadata) : List String := m.map (·.1)

end Metadata

namespace Value

/-- Whether a value counts as given: nothing, zero and what is empty do not. -/
def isGiven : Value → Bool
  | null => false
  | bool b => b
  | int n => n != 0
  | float x => !x.isZero
  | str s => s != ""
  | list items => !items.isEmpty
  | object entries => !entries.isEmpty

def toFraction? : Value → Option (Int × Nat)
  | bool b => some (if b then 1 else 0,1)
  | int n => some (n,1)
  | float x => if x.isFinite then some x.toFraction else none
  | _ => none

/-- Whether two values that are no containers are equal.  Numbers are compared by their value, and a
truth value counts as the number one or zero; infinities and what is no number equal themselves. -/
def sameScalar : Value → Value → Bool
  | null, null => true
  | str s, str t => s == t
  | a, b =>
    match a.toFraction?, b.toFraction? with
    | some (p,q), some (p',q') => p*q' == p'*q
    | none, none =>
      match a, b with
      | float x, float y => x == y
      | _, _ => false
    | _, _ => false

def isContainer : Value → Bool
  | list _ => true
  | object _ => true
  | _ => false

def typeName : Value → String
  | null => "NoneType"
  | bool _ => "bool"
  | int _ => "int"
  | float _ => "float"
  | str _ => "str"
  | list _ => "list"
  | object _ => "dict"

end Value

/-! The text of a metadata value.  A text is its own; inside a list or an object it stands in
quotes.  A whole number with more digits than a numeral may have is not written, nor is what holds
it. -/

/-- Digits with at least one on either side of the point. -/
def Decimal.Digits.positional (d : Digits) : List Char :=
  if d.point ≤ 0 then '0' :: '.' :: (List.replicate (-d.point).toNat '0' ++ d.digits)
  else
    let whole := d.point.toNat
    if d.digits.length ≤ whole then
      d.digits ++ List.replicate (whole - d.digits.length) '0' ++ ['.', '0']
    else d.digits.take whole ++ '.' :: d.digits.drop whole

/-- One digit before the point, and an exponent of at least two digits with its sign. -/
def Decimal.Digits.scientific (d : Digits) : List Char :=
  let e := d.point - 1
  let mantissa :=
    match d.digits with
    | [] => ['0']
    | [c] => [c]
    | c :: cs => c :: '.' :: cs
  let power := Nat.toDigits 10 e.natAbs
  mantissa ++ 'e' :: (if e < 0 then '-' else '+') ::
    (if power.length < 2 then '0' :: power else power)

/-- The text of a double: positional from a ten-thousandth up to `10^16`. -/
def Decimal.Binary64.written (x : Binary64) : List Char :=
  if x.isNan then ['n', 'a', 'n']
  else (if x.isNegative then ['-'] else []) ++
    if !x.isFinite then ['i', 'n', 'f']
    else if x.isZero then ['0', '.', '0']
    else
      let d := x.shortest
      if -4 < d.point ∧ d.point ≤ 16 then d.positional else d.scientific

namespace Value

def commaSeparated (xs : List String) : String := ", ".intercalate xs

def numeral? (n : Int) : Option String :=
  if n.natAbs < Calendar.Numeral.limit then some (toString n) else none

mutual

/-- The text of a value inside a container. -/
def nested? : Value → Option String
  | null => some "None"
  | bool b => some (if b then "True" else "False")
  | int n => numeral? n
  | float x => some (String.ofList x.written)
  | str s => some (quoted s)
  | list items => (nestedItems? items).map fun xs => "[" ++ commaSeparated xs ++ "]"
  | object entries =>
    (nestedEntries? entries).map fun xs => "\x7b" ++ commaSeparated xs ++ "\x7d"

def nestedItems? : List Value → Option (List String)
  | [] => some []
  | v :: vs => do
    let x ← nested? v
    let xs ← nestedItems? vs
    return x :: xs

def nestedEntries? : List (String × Value) → Option (List String)
  | [] => some []
  | (k,v) :: es => do
    let x ← nested? v
    let xs ← nestedEntries? es
    return (quoted k ++ ": " ++ x) :: xs

end

def text? : Value → Option String
  | str s => some s
  | v => nested? v

@[simp] theorem text?_str (s : String) : (str s).text? = some s := rfl

/-- A whole number with too many digits, or a list or an object that holds one. -/
inductive Overlong : Value → Prop
  | int {n} (h : Calendar.Numeral.limit ≤ n.natAbs) : Overlong (int n)
  | item {items v} (hv : v ∈ items) (h : Overlong v) : Overlong (list items)
  | entry {entries k v} (hv : (k,v) ∈ entries) (h : Overlong v) : Overlong (object entries)

theorem overlong_int_iff {n : Int} : (int n).Overlong ↔ Calendar.Numeral.limit ≤ n.natAbs :=
  ⟨fun | .int h => h,.int⟩

theorem overlong_list_iff {items : List Value} :
    (list items).Overlong ↔ ∃ v ∈ items, v.Overlong :=
  ⟨fun | .item hv h => ⟨_,hv,h⟩,fun ⟨_,hv,h⟩ => .item hv h⟩

theorem overlong_object_iff {entries : List (String × Value)} :
    (object entries).Overlong ↔ ∃ e ∈ entries, e.2.Overlong :=
  ⟨fun | .entry hv h => ⟨_,hv,h⟩,fun ⟨_,hv,h⟩ => .entry hv h⟩

theorem numeral?_eq_none_iff {n : Int} : numeral? n = none ↔ (int n).Overlong := by
  rw [overlong_int_iff,numeral?]
  split
  · simp; omega
  · simp; omega

mutual

theorem nested?_eq_none_iff (v : Value) : v.nested? = none ↔ v.Overlong := by
  cases v with
  | null | bool | float | str => simp only [nested?,reduceCtorEq,false_iff]; intro h; cases h
  | int n => rw [nested?,numeral?_eq_none_iff]
  | list items =>
    rw [nested?,Option.map_eq_none_iff,nestedItems?_eq_none_iff items,overlong_list_iff]
  | object entries =>
    rw [nested?,Option.map_eq_none_iff,nestedEntries?_eq_none_iff entries,overlong_object_iff]

theorem nestedItems?_eq_none_iff (vs : List Value) :
    nestedItems? vs = none ↔ ∃ v ∈ vs, v.Overlong := by
  cases vs with
  | nil => simp [nestedItems?]
  | cons v vs =>
    simp only [List.mem_cons,exists_eq_or_imp]
    rw [← nested?_eq_none_iff v,← nestedItems?_eq_none_iff vs,nestedItems?]
    cases v.nested? <;> cases nestedItems? vs <;> simp

theorem nestedEntries?_eq_none_iff (es : List (String × Value)) :
    nestedEntries? es = none ↔ ∃ e ∈ es, e.2.Overlong := by
  match es with
  | [] => simp [nestedEntries?]
  | (k,v) :: es =>
    simp only [List.mem_cons,exists_eq_or_imp]
    rw [← nested?_eq_none_iff v,← nestedEntries?_eq_none_iff es,nestedEntries?]
    cases v.nested? <;> cases nestedEntries? es <;> simp

end

theorem text?_eq_none_iff (v : Value) : v.text? = none ↔ v.Overlong := by
  cases v with
  | str s => simp only [text?,reduceCtorEq,false_iff]; intro h; cases h
  | null | bool | int | float | list | object => exact nested?_eq_none_iff _

end Value

end BlogPaths
