import BlogPaths.Classifier.Promotion
import BlogPaths.Index
import BlogPaths.Text.Basic
import BlogPaths.Text.Percent

/-! What blogs write to the log. -/
namespace BlogPaths

inductive LogLevel
  | debug | info
  deriving DecidableEq, Repr

inductive LogEvent
  | noCompanions (template : String)
  | compiled (sources expression : String)
  | skippedArticle (path : String)
  | skippedCompanion (path owner : String)
  | companion (path owner destination : String)
  | classified (resources articles skipped : Nat)
  deriving DecidableEq, Repr

namespace LogEvent

def level : LogEvent → LogLevel
  | classified .. => .info
  | _ => .debug

def text : LogEvent → String
  | noCompanions template =>
    "Source template " ++ Text.quoted template ++ " has no extension; companions disabled"
  | compiled sources expression =>
    "Compiled blog sources " ++ Text.quoted sources ++ " to " ++ Text.quoted expression
  | skippedArticle path => "Skipping unpublished article " ++ path
  | skippedCompanion path owner => "Skipping " ++ path ++ ": article " ++ owner ++ " is unpublished"
  | companion path owner destination =>
    "Companion " ++ path ++ " of " ++ owner ++ " -> " ++ destination
  | classified resources articles skipped =>
    s!"Classified {resources} resources: {articles} articles, {skipped} skipped"

end LogEvent

/-! The turn of one resource in a pass.  A turn is decided by front matter alone; what it does to
standings is a list of edits. -/

inductive Edit
  | enroll (controller : Value)
  | describe (a : Article)
  | publish (destination : String)
  | attach (ownerPath : String) (controller : Value)
  deriving Repr

namespace Edit

def apply (s : Standing) : Edit → Standing
  | enroll controller => { s with kind := .proper .article, controller }
  | describe a => { s with article := .proper (some a) }
  | publish destination => { s with destinationPath := .proper (some destination) }
  | attach ownerPath controller =>
    { s with kind := .proper .companion, ownerPath := .proper (some ownerPath), controller }

end Edit

/-- The edits that a promotion makes, as far as it gets. -/
def Promotion.edits (controller : Value) : Promotion → List Edit
  | refused _ => []
  | broken _ => [.enroll controller]
  | complete a => [.enroll controller, .describe a]

inductive Verdict (n : Nat)
  | kept (entry : Option (IndexEntry n))
  | dropped
  | failed (e : PassError)
  deriving Repr

namespace Verdict

variable {n : Nat}

def isKept : Verdict n → Bool
  | kept _ => true
  | _ => false

def isDropped : Verdict n → Bool
  | dropped => true
  | _ => false

def entry? : Verdict n → Option (IndexEntry n)
  | kept entry => entry
  | _ => none

def error? : Verdict n → Option PassError
  | failed e => some e
  | _ => none

end Verdict

structure Turn (n : Nat) where
  handle : Fin n
  edits : List (Fin n × Edit) := []
  log : List LogEvent := []
  verdict : Verdict n

namespace Classifier

variable {n : Nat}

def promotionEdits (c : Classifier) (h : Fin n) (p : Promotion) : List (Fin n × Edit) :=
  (p.edits c.controller).map fun e => (h,e)

def articleTurn (c : Classifier) (front : Fin n → FrontMatter) (h : Fin n) (path : String)
    (m : PathMatch) : Turn n :=
  let promotion := c.promote (front h) path (c.pattern.captures m)
  let edits := c.promotionEdits h promotion
  match promotion with
  | .refused e | .broken e => { handle := h, edits, verdict := .failed e }
  | .complete a =>
    if !c.isVisible (front h) then
      { handle := h, edits, log := [.skippedArticle path], verdict := .dropped }
    else match c.permalink.resolve a with
      | .error lack =>
        { handle := h, edits, verdict := .failed (.permalink c.permalink.template lack) }
      | .ok permalink =>
        { handle := h, edits := edits ++ [(h,.publish (outputPath permalink))]
          verdict := .kept (some ⟨h,some path,a.date⟩) }

/-- The last resource of a list that has a path. -/
def ownerAt? (front : Fin n → FrontMatter) (hs : List (Fin n)) (path : String) : Option (Fin n) :=
  hs.reverse.find? fun k => (front k).path.proper? == some path

/-- The turn of a resource nested below the article `o` at the path `ownerPath`, which is promoted
first. -/
def ownedTurn (c : Classifier) (front : Fin n → FrontMatter) (h o : Fin n)
    (path ownerPath tail : String) (m : PathMatch) : Turn n :=
  let promotion := c.promote (front o) ownerPath (c.pattern.captures m)
  let edits := c.promotionEdits o promotion
  match promotion with
  | .refused e | .broken e => { handle := h, edits, verdict := .failed e }
  | .complete a =>
    if !c.isVisible (front o) then
      { handle := h, edits, log := [.skippedCompanion path ownerPath], verdict := .dropped }
    else
      let edits := edits ++ [(h,.attach ownerPath c.controller)]
      match c.permalink.resolve a with
      | .error lack =>
        { handle := h, edits, verdict := .failed (.permalink c.permalink.template lack) }
      | .ok permalink =>
        let destination := outputPath (Permalink.companion c.indexFile permalink tail)
        { handle := h, edits := edits ++ [(h,.publish destination)]
          log := [.companion path ownerPath destination]
          verdict := .kept none }

def nestedTurn (c : Classifier) (front : Fin n → FrontMatter) (hs : List (Fin n)) (h : Fin n)
    (path : String) (m : PathMatch) : Turn n :=
  let captures := c.pattern.captures m
  match c.pattern.sourcePath captures with
  | .error field => { handle := h, verdict := .failed (.missingCapture field) }
  | .ok ownerPath =>
    match ownerAt? front hs ownerPath with
    | none => { handle := h, verdict := .failed (.noOwner path ownerPath) }
    | some o =>
      match PathMatch.article? c.articleSegments ownerPath with
      | none => { handle := h, verdict := .failed (.ownerNoArticle path ownerPath) }
      | some m' => c.ownedTurn front h o path ownerPath ((captures.lookup "path").getD "") m'

def pathTurn (c : Classifier) (front : Fin n → FrontMatter) (hs : List (Fin n)) (h : Fin n)
    (path : String) : Turn n :=
  match PathMatch.article? c.articleSegments path with
  | some m => c.articleTurn front h path m
  | none =>
    match c.pattern.nested? path with
    | some m => c.nestedTurn front hs h path m
    | none => { handle := h, verdict := .kept none }

def turn (c : Classifier) (front : Fin n → FrontMatter) (hs : List (Fin n)) (h : Fin n) : Turn n :=
  match (front h).path with
  | .proper path => c.pathTurn front hs h path
  | .stray v => { handle := h, verdict := .failed (.pathNoText v.typeName) }

end Classifier

end BlogPaths
