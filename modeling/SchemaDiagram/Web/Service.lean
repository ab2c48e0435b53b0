import SchemaDiagram.Document.Grammar
import SchemaDiagram.Settings
import SchemaDiagram.Text.Blank
import SchemaDiagram.Document.Model

/-! The service: what it answers to each request. -/
namespace SchemaDiagram.Web

structure Request where
  method : Text
  path : Text
  contentType : Text
  body : Text
deriving DecidableEq

/-- What a reply holds. -/
inductive Content where
  | nothing
  | document (value : Document)
  /-- A text to be saved as a file. -/
  | download (text : Text)

structure Reply where
  status : Nat
  content : Content := .nothing

namespace Reply

def notFound : Reply := { status := 404 }

def notAllowed : Reply := { status := 405 }

/-- A reply that tells what went wrong. -/
def error (status : Nat) (message : Text) : Reply :=
  { status, content := .document (.record [("error", .string message)]) }

end Reply

/-- Why the body of a request is not usable. -/
inductive Refusal where
  | noObject
  | badScripts
  | badRelations
deriving DecidableEq

def Refusal.message : Refusal → String
  | noObject => "Request body must be a JSON object"
  | badScripts => "'sql' must be a string or a list of strings"
  | badRelations => "'relations' must be a string"

/-- The media type of a request, without its parameters. -/
def Request.mediaType (r : Request) : Text :=
  Text.lower (Text.trim (r.contentType.takeWhile (· != ';')))

/-- Whether the body of a request is said to be a document. -/
def Request.isDocument (r : Request) : Bool :=
  let type := r.mediaType
  type == "application/json".toList
    || ("application/".toList.isPrefixOf type && "+json".toList.isSuffixOf type)

def Request.document? (r : Request) : Option Document := if r.isDocument then Document.read? r.body else none

/-- The scripts of a request: one text or a list of texts. -/
def scripts? : Option Document → Option (List Text)
  | some (.string script) => some [script]
  | some (.array items) => items.mapM Document.text?
  | _ => none

/-- The stated relations of a request, which may be missing. -/
def relations? : Option Document → Option (Option Text)
  | none | some .null => some none
  | some (.string text) => some (some text)
  | some _ => none

/-- The scripts and the stated relations in the body of a request. -/
def payload (r : Request) : Except Refusal (List Text × Option Text) :=
  match r.document? with
  | some (.object fields) =>
    let body := Document.object fields
    match scripts? (body.field? "sql"), relations? (body.field? "relations") with
    | none, _ => .error .badScripts
    | _, none => .error .badRelations
    | some scripts, some stated => .ok (scripts, stated)
  | _ => .error .noObject

/-- Answers a request with the model of its scripts, or with what is wrong. -/
def answer (r : Request) (content : Model → Content) : Reply :=
  match payload r with
  | .error refusal => .error 400 refusal.message.toList
  | .ok (scripts, stated) =>
    match Model.ofTexts scripts stated with
    | .ok m => { status := 200, content := content m }
    | .error fault => .error 500 fault.message

/-- What a path of the service does, and the method that it takes. -/
def routes (s : Settings) : List (String × String × (Request → Reply)) := [
  ("/api/health", "GET", fun _ =>
    { status := 200, content := .document (.record [("status", .string "ok".toList)]) }),
  ("/api/parse_sql", "POST", fun r => answer r fun m => .document m.document),
  ("/api/export_diagram", "POST", fun r => answer r fun m => .download (s.exported m.diagram))]

/-- The reply to a request. A question mark ends its path. -/
def reply (s : Settings) (r : Request) : Reply :=
  let path := r.path.takeWhile (· != '?')
  match (routes s).find? (·.1.toList == path) with
  | none => .notFound
  | some (_, method, act) => if method.toList == r.method then act r else .notAllowed

end SchemaDiagram.Web
