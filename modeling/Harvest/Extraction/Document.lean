import Harvest.Extraction.Engine
import Harvest.Markup.Build
import Harvest.Selector.Match

/-!
# Documents

`documentView` is the view of a parsed document: selectors are read and matched, the text of a node is
that of its element, and attributes are those of the markup.  With the parser it makes an engine
(`Engine.html`).
-/

namespace Harvest.Extraction

open Markup

/-- The answer to a search below a place of a document. -/
def findIn (p : Place) (selector : String) : Answer Place :=
  match Selector.read selector with
  | .ok alternatives => .nodes (Selector.select alternatives p)
  | .error e =>
    match e with
    | .fault .. => .malformed e.message
    | .number _ => .failed (.invalid e.message)
    | .pseudoElement _ => .failed (.unsupported e.message)
    | .atRule _ => .failed (.unsupported e.message)

/-- The value of an attribute at a place. -/
def attributeAt (p : Place) (name : String) : Value :=
  (p.node.attribute? name).elim .null .text

/-- The view of a document. -/
def documentView : View Place where
  find := findIn
  text p := p.node.readText
  attr := attributeAt

/-- The names of the parser. -/
def parserNames : List String :=
  ["html.parser", "html", "strict"]

/-- The error for a value that is no markup. -/
def notMarkup (v : Value) : DocumentError :=
  match v with
  | .list _ => .notMarkup "expected string or bytes-like object, got 'list'"
  | .tuple _ => .notMarkup "expected string or bytes-like object, got 'tuple'"
  | .map _ => .notMarkup "unhashable type: 'slice'"
  | v =>
    v.quoted?.elim (.tooLong .written) fun shown =>
      .notMarkup ("Incoming markup is of an invalid type: " ++ shown ++
        ". Markup must be a string, a bytestring, or an open filehandle.")

/-- The document of a markup text, for the parser of a name. -/
def parseDocument (parser : String) (markup : String) : Except DocumentError Place :=
  if !parserNames.contains parser then .error (.noParser parser)
  else
    match Markup.parse markup with
    | .error (.tooLong digits) => .error (.tooLong (.read digits))
    | .error e => .error (.refused e.message)
    | .ok document => .ok (.top document)

/-- The document of a value, which is text or bytes. -/
def parseValue (parser : String) (v : Value) : Except DocumentError Place :=
  match v, v.binary? with
  | .text s, _ => parseDocument parser s
  | _, some bs => parseDocument parser (Text.Utf8.decodeLossy bs)
  | v, none =>
    if !parserNames.contains parser then .error (.noParser parser) else .error (notMarkup v)

/-- The parser and the matcher of this library. -/
def Engine.html : Engine where
  Node := Place
  parse := parseValue
  view := documentView

end Harvest.Extraction
