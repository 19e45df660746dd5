import SignedGateway.Text.Split

namespace SignedGateway

/-!
# XML documents

Documents are written from a tree of elements.  The five characters with a
meaning in XML are escaped in every text and attribute, so that no content can
add or end an element.
-/

inductive Xml where
  | text (content : String)
  | element (name : String) (attributes : List (String × String)) (children : List Xml)
  deriving Repr

namespace Xml

def escapeChar (c : Char) : List Char :=
  if c = '<' then "&lt;".toList
  else if c = '>' then "&gt;".toList
  else if c = '&' then "&amp;".toList
  else if c = '\'' then "&apos;".toList
  else if c = '"' then "&quot;".toList
  else [c]

def escape (text : String) : String :=
  String.ofList (text.toList.flatMap escapeChar)

def renderAttribute (pair : String × String) : String :=
  " " ++ pair.1 ++ "=\"" ++ escape pair.2 ++ "\""

def renderAttributes (attributes : List (String × String)) : String :=
  Text.joinWith "" (attributes.map renderAttribute)

/-- An element without its declaration. -/
def render : Xml → String
  | .text content => escape content
  | .element name attributes children =>
      "<" ++ name ++ renderAttributes attributes ++ ">" ++ renderAll children ++ "</" ++ name ++ ">"
where
  renderAll : List Xml → String
    | [] => ""
    | child :: rest => render child ++ renderAll rest

/-- An element that holds one text. -/
def leaf (name content : String) : Xml :=
  .element name [] [.text content]

/-- A document with its declaration. -/
def document (root : Xml) : String :=
  "<?xml version=\"1.0\" encoding=\"UTF-8\"?>" ++ root.render

end Xml
end SignedGateway
