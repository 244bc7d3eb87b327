import BlogPaths.Source.Field
import BlogPaths.Text.Basic

/-! Matching of source paths against segments.  A match covers a beginning of the path; every field
takes the longest text that lets the rest of the segments match. -/
namespace BlogPaths

/-- The texts of the groups in a beginning of a path, and the rest of the path. -/
abbrev GroupsAndRest := List (List Char) × List Char

/-- Matches segments at the start of a text, and then `last` against what they leave. -/
def matchThen (last : List Char → Option GroupsAndRest) :
    List (Segment SourceField) → List Char → Option GroupsAndRest
  | [], s => last s
  | .literal t :: segs, s =>
    if t <+: s then matchThen last segs (s.drop t.length) else none
  | .field f :: segs, s =>
    (f.lengths s).findSome? fun n =>
      (matchThen last segs (s.drop n)).map fun (as,rest) => (s.take n :: as,rest)

/-- What is left of an article's path is not looked at. -/
def leaveRest (s : List Char) : Option GroupsAndRest := some ([],s)

/-- The end of a nested file's path is a group of its own: a slash and a line of text.  A line break
may be left over. -/
def takeTail : List Char → Option GroupsAndRest
  | '/' :: s =>
    let rest := s.dropWhile (· ≠ '\n')
    if rest = [] ∨ rest = ['\n'] then some (['/' :: s.takeWhile (· ≠ '\n')],rest) else none
  | _ => none

/-- What a match has found: the text of every group, and all the text it covers. -/
structure PathMatch where
  groups : List String
  matched : String
  deriving DecidableEq, Repr

namespace PathMatch

def ofRest (path : String) : GroupsAndRest → PathMatch
  | (groups,rest) =>
    ⟨groups.map String.ofList,String.ofList (path.toList.take (path.toList.length - rest.length))⟩

def article? (segs : List (Segment SourceField)) (path : String) : Option PathMatch :=
  (matchThen leaveRest segs path.toList).map (ofRest path)

def nested? (stem : List (Segment SourceField)) (path : String) : Option PathMatch :=
  (matchThen takeTail stem path.toList).map (ofRest path)

end PathMatch

/-! Compiled source templates: which paths are articles, which are files nested below an article,
and how the path of an article is put together again from the texts of its fields. -/

/-- Texts by the name of the field they were captured for. -/
abbrev Captures := List (String × String)

structure SourcePattern where
  template : String
  segments : List (Segment SourceField)
  deriving DecidableEq, Repr

/-- The first member of a list that equals an earlier one. -/
def firstRepeat {α : Type} [DecidableEq α] (seen : List α) : List α → Option α
  | [] => none
  | a :: as => if a ∈ seen then some a else firstRepeat (a :: seen) as

/-- Cuts a text before its last dot, unless nothing stands behind that dot. -/
def splitExtension : List Char → Option (List Char × List Char)
  | [] => none
  | c :: cs =>
    match splitExtension cs with
    | some (stem,ext) => some (c :: stem,ext)
    | none => if c = '.' ∧ cs ≠ [] ∧ '.' ∉ cs then some ([],c :: cs) else none

namespace SourcePattern

/-- Compiles a template.  A field may stand in it once only. -/
def compile (template : String) : Except TemplateError SourcePattern :=
  let chars := Text.dropLeadingSlash template.toList
  let segments := SourceField.grammar.tokenize chars
  if chars = [] then .error .emptySource
  else match firstRepeat [] (Segment.fields segments) with
    | some f => .error (.repeatedField (String.ofList chars) f)
    | none => .ok ⟨String.ofList chars,segments⟩

/-- The segments with the extension at their end taken away, if they end in one. -/
def stemOf : List (Segment SourceField) → Option (List (Segment SourceField))
  | [] => none
  | [.literal t] => (splitExtension t).map fun (stem,_) => [.literal stem]
  | [.field _] => none
  | s :: segs => (stemOf segs).map (s :: ·)

/-- What precedes the nested part in the path of a file below an article. -/
def stem? (p : SourcePattern) : Option (List (Segment SourceField)) := stemOf p.segments

/-- The names of the groups: the fields in order, and the nested part of the path. -/
def groupNames (p : SourcePattern) : List String :=
  (Segment.fields p.segments).map SourceField.name ++ ["path"]

def fieldIndex (p : SourcePattern) : List (String × Nat) := p.groupNames.zipIdx

def captures (p : SourcePattern) (m : PathMatch) : Captures := p.groupNames.zip m.groups

def nested? (p : SourcePattern) (path : String) : Option PathMatch :=
  p.stem?.bind (PathMatch.nested? · path)

/-- The text of a segment.  A field without a captured text is an error that names it. -/
def segmentText (captures : Captures) : Segment SourceField → Except SourceField (List Char)
  | .literal t => .ok t
  | .field f =>
    match captures.lookup f.name with
    | some s => .ok s.toList
    | none => .error f

/-- The path of the article that the captured texts belong to. -/
def sourcePath (p : SourcePattern) (captures : Captures) : Except SourceField String := do
  let texts ← p.segments.mapM (segmentText captures)
  return String.ofList texts.flatten

end SourcePattern

/-! Source patterns written as regular expressions. -/

namespace Expression

/-- The characters with a meaning of their own in a regular expression, and blanks. -/
def special : List Char :=
  ['(', ')', '[', ']', '\x7b', '\x7d', '?', '*', '+', '-', '|', '^', '$', '\\', '.', '&', '~', '#',
    ' ', '\t', '\n', '\r', '\x0b', '\x0c']

/-- Literal text, every special character behind a backslash. -/
def escape (s : List Char) : List Char :=
  s.flatMap fun c => if c ∈ special then ['\\', c] else [c]

@[simp] theorem escape_nil : escape [] = [] := rfl
@[simp] theorem escape_append (s t : List Char) : escape (s ++ t) = escape s ++ escape t := by
  simp [escape]

def group : SourceField → List Char
  | .lang => "(\\w\x7b2\x7d(?:-\\w\x7b2\x7d)?)".toList
  | .year => "(\\d\x7b4\x7d)".toList
  | .month => "(\\d\x7b2\x7d)".toList
  | .day => "(\\d\x7b2\x7d)".toList
  | .title => "([^/]+)".toList

def ofSegment : Segment SourceField → List Char
  | .literal t => escape t
  | .field f => group f

def ofSegments (segs : List (Segment SourceField)) : List Char := segs.flatMap ofSegment

def article (segs : List (Segment SourceField)) : String :=
  String.ofList ('^' :: ofSegments segs)

def nested (stem : List (Segment SourceField)) : String :=
  String.ofList ('^' :: ofSegments stem ++ "(/.*)$".toList)

end Expression

namespace SourcePattern

def articleExpression (p : SourcePattern) : String := Expression.article p.segments

def nestedExpression? (p : SourcePattern) : Option String := p.stem?.map Expression.nested

end SourcePattern

end BlogPaths
