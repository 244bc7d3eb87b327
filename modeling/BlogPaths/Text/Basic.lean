import BlogPaths.Unicode.Ranges

/-! Taking away what stands at the ends of a text, and cutting a text at a separator. -/
namespace BlogPaths.Text

open Unicode

def trimStart (s : List Char) : List Char := s.dropWhile isBlank

def trimEnd (s : List Char) : List Char := (s.reverse.dropWhile isBlank).reverse

def trim (s : List Char) : List Char := trimEnd (trimStart s)

def isBlankText (s : List Char) : Bool := s.all isBlank

@[simp] theorem trim_nil : trim [] = [] := rfl

def dropLeadingSlash : List Char → List Char
  | '/' :: s => s
  | s => s

/-- The pieces between the separators; one more than there are separators. -/
def cut (sep : Char) : List Char → List (List Char)
  | [] => [[]]
  | c :: cs =>
    if c = sep then [] :: cut sep cs
    else match cut sep cs with
      | [] => [[c]]
      | p :: ps => (c :: p) :: ps

theorem cut_ne_nil (sep : Char) (s : List Char) : cut sep s ≠ [] := by
  cases s with
  | nil => simp [cut]
  | cons c cs => simp only [cut]; split <;> (try split) <;> simp

/-! Texts in quotes, as messages and log lines show them.  Single quotes are taken unless the text
holds a single quote and no double one; whatever is not printable is written by its code point. -/

/-- The lower-case hexadecimal digits of a number, as many as asked for. -/
def hexDigits : Nat → Nat → List Char
  | 0, _ => []
  | k+1, n => hexDigits k (n/16) ++ [(n % 16).digitChar]

@[simp] theorem length_hexDigits (k n : Nat) : (hexDigits k n).length = k := by
  induction k generalizing n <;> simp_all [hexDigits]

/-- A code point in the shortest of the three widths that holds it. -/
def codeEscape (n : Nat) : List Char :=
  if n < 0x100 then '\\' :: 'x' :: hexDigits 2 n
  else if n < 0x10000 then '\\' :: 'u' :: hexDigits 4 n
  else '\\' :: 'U' :: hexDigits 8 n

def quotedChar (quote c : Char) : List Char :=
  if c = quote ∨ c = '\\' then ['\\', c]
  else if c = '\n' then ['\\', 'n']
  else if c = '\r' then ['\\', 'r']
  else if c = '\t' then ['\\', 't']
  else if isPrintable c then [c]
  else codeEscape c.toNat

def quoteFor (s : List Char) : Char :=
  if s.contains '\'' && !s.contains '"' then '"' else '\''

def quotedChars (s : List Char) : List Char :=
  quoteFor s :: (s.flatMap (quotedChar (quoteFor s)) ++ [quoteFor s])

def quoted (s : String) : String := String.ofList (quotedChars s.toList)

end BlogPaths.Text
