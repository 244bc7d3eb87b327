import BlogPaths.Calendar.Timestamp
import BlogPaths.Reading.Checked
import BlogPaths.Resource
import BlogPaths.Text.Basic

/-! Reading of articles and resources from what a host's loader hands over.  Tags come as a list, or as
one text with commas; what is empty is dropped, and of equal tags the first is kept. -/
namespace BlogPaths

open Calendar Checked Text

/-- Why a value cannot even be gone through as tags. -/
inductive TagFault
  | memberless (typeName : String)
  | containerMember (typeName : String)
  deriving DecidableEq, Repr

def TagFault.message : TagFault → String
  | memberless typeName => "'" ++ typeName ++ "' object is not iterable"
  | containerMember typeName => "unhashable type: '" ++ typeName ++ "'"

namespace Tags

/-- The pieces of a text between its commas, without the blanks around them. -/
def ofText (s : String) : List String :=
  (cut ',' s.toList).map fun piece => String.ofList (trim piece)

/-- What is given of a list, the first of equal members only, given those `seen` before. -/
def distinct (seen : List Value) : List Value → Except TagFault (List Value)
  | [] => .ok []
  | v :: vs =>
    if !v.isGiven then distinct seen vs
    else match v with
      | .list _ | .object _ => .error (.containerMember v.typeName)
      | _ =>
        if seen.any (Value.sameScalar v) then distinct seen vs
        else (distinct (v :: seen) vs).map (v :: ·)

def members : Value → Except TagFault (List Value)
  | .null => .ok []
  | .str s => distinct [] ((ofText s).map .str)
  | .list vs => distinct [] vs
  | .object m => distinct [] ((Metadata.keys m).map .str)
  | v => .error (.memberless v.typeName)

end Tags

def Value.readTimestamp : Value → Checked Timestamp
  | str s =>
    match Calendar.readTimestamp s with
    | .ok t => .ok t
    | .error .malformed => fail .malformedTimestamp
    | .error .yearZero => fail .yearZero
  | _ => fail .notTimestamp

def Value.readCaptures : Value → Checked Captures
  | object m => entries readString m
  | _ => fail .notObject

namespace Article

/-- An article from its fields.  Keys that no field has are passed over. -/
def ofMetadata (m : Metadata) : Checked Article :=
  (fun lang date slug tags data captures => { lang, date, slug, tags, data, captures })
    <$> m.optional "lang" none (Value.readOptional Value.readString)
    <*> m.required "date" Value.readTimestamp
    <*> m.required "slug" Value.readString
    <*> m.optional "tags" [] (Value.readList Value.readString)
    <*> m.optional "data" [] Value.readObject
    <*> m.optional "captures" [] Value.readCaptures

def ofValue : Value → Checked Article
  | .object m => ofMetadata m
  | _ => fail .notRecord

end Article

inductive ResourceError
  | tags (fault : TagFault)
  | invalid (found : List Issue)
  deriving DecidableEq, Repr

def Value.readKind : Value → Checked Kind
  | str s =>
    match Kind.ofName? s with
    | some k => .ok k
    | none => fail .unknownKind
  | _ => fail .unknownKind

namespace Resource

/-- A resource from its fields, the members of its tags being known.  Keys that no field has are
passed over. -/
def ofMetadata (m : Metadata) (tags : List Value) : Checked Resource :=
  (fun path destinationPath date lang slug tags published data kind article ownerPath controller =>
    { path := .proper path, date, lang := .proper lang, slug := .proper slug, tags := .proper tags
      published := .proper published, data := .proper data, kind := .proper kind
      article := .proper article, destinationPath := .proper destinationPath
      ownerPath := .proper ownerPath, controller })
    <$> m.required "path" Value.readString
    <*> m.optional "destination_path" none (Value.readOptional Value.readString)
    <*> m.optional "date" none (Value.readOptional Value.readTimestamp)
    <*> m.optional "lang" none (Value.readOptional Value.readString)
    <*> m.optional "slug" none (Value.readOptional Value.readString)
    <*> within (.key "tags") (items Value.readString 0 tags)
    <*> m.optional "published" true Value.readBool
    <*> m.optional "data" [] Value.readObject
    <*> m.optional "kind" .plain Value.readKind
    <*> m.optional "article" none (Value.readOptional Article.ofValue)
    <*> m.optional "owner_path" none (Value.readOptional Value.readString)
    <*> m.optional "controller" .null .ok

/-- A resource from a value.  Tags that cannot be gone through win over every other issue. -/
def ofValue : Value → Except ResourceError Resource
  | .object m => do
    let tags ← match Metadata.get? m "tags" with
      | some v => (Tags.members v).mapError .tags
      | none => .ok []
    match ofMetadata m tags with
    | .ok r => .ok r
    | .issues found => .error (.invalid found)
  | _ => .error (.invalid [⟨[],.notRecord⟩])

end Resource

end BlogPaths
