import GUPnP.Base.CString

/-!
# XML trees and their accessors (`xml-util.c`)

The trees of libxml2 as far as the library reads them: a document or an element has children, and the
children are elements, text, CDATA blocks, comments and processing instructions. The accessors go by
the name of a node, which is also set for nodes that are no elements. They look for a name; a loop that
compares the name of each child with `strcmp` fails on a CDATA block, which has none.
-/

set_option autoImplicit false

namespace GUPnP.Xml

/-- An `xmlNode`. The name of an element is its local name. -/
inductive Node where
  | document (children : List Node)
  | element (name : Str) (attributes : List (Str × Str)) (children : List Node)
  | text (content : Str)
  | cdata (content : Str)
  | comment (content : Str)
  | instruction (target content : Str)
  deriving Repr

namespace Node

/-- `node->children`, with their siblings. -/
def children : Node → List Node
  | document children => children
  | element _ _ children => children
  | _ => []

/-- `node->name`; a CDATA block and a document have none. -/
def name : Node → Option Str
  | document _ => none
  | element name _ _ => some name
  | text _ => some "text".toList
  | cdata _ => none
  | comment _ => some "comment".toList
  | instruction target _ => some target

/-- Whether the node is an element. -/
def isElement : Node → Bool
  | element .. => true
  | _ => false

mutual

/-- What a node adds to the content of a node above it. -/
def inner : Node → Str
  | text content => content
  | cdata content => content
  | document children => inners children
  | element _ _ children => inners children
  | comment _ => []
  | instruction _ _ => []

def inners : List Node → Str
  | [] => []
  | node :: rest => inner node ++ inners rest

end

/-- `xmlNodeGetContent`: the text below the node; a comment or an instruction has its own. -/
def content : Node → Str
  | comment content => content
  | instruction _ content => content
  | node => inner node

/-- `xmlIsBlankNode`. -/
def isBlank : Node → Bool
  | text content => content.all fun c => c == ' ' || c == '\t' || c == '\n' || c == '\r'
  | cdata content => content.all fun c => c == ' ' || c == '\t' || c == '\n' || c == '\r'
  | _ => false

end Node

/-- The first of `nodes` with this name. -/
def firstNamed (name : Str) (nodes : List Node) : Option Node :=
  nodes.find? fun node => node.name == some name

/-- `xml_util_get_element`. -/
def getElement (node : Node) : List Str → Option Node
  | [] => some node
  | arg :: args => (firstNamed arg node.children).bind (getElement · args)

/-- The children with this name, by `strcmp`, which fails on a child without a name. -/
def childrenNamed (name : Str) (node : Node) : Option (List Node) :=
  if node.children.all (·.name.isSome) then
    some (node.children.filter fun child => child.name = some name)
  else none

/-- `xml_util_get_child_element_content`. -/
def getChildElementContent (node : Node) (childName : Str) : Option Str :=
  (getElement node [childName]).map Node.content

/-- `xml_util_get_child_element_content_int`. -/
def getChildElementContentInt (node : Node) (childName : Str) : Int :=
  match getChildElementContent node childName with
  | none => -1
  | some content => CString.atoi content

/-- `xml_util_real_node`: the siblings from the first node on that is neither a comment nor blank. -/
def realNode (nodes : List Node) : List Node :=
  nodes.dropWhile fun node =>
    match node with
    | .comment _ => true
    | node => node.isBlank

/-- What `xml_util_start_element` appends. -/
def startElement (elementName : Str) : Str := ['<'] ++ elementName ++ ['>']

/-- What `xml_util_end_element` appends. -/
def endElement (elementName : Str) : Str := "</".toList ++ elementName ++ ['>']

/-- What `xml_util_add_content` appends for one character. -/
def addContentChar : Char → Str
  | '&' => "&amp;".toList
  | '<' => "&lt;".toList
  | '>' => "&gt;".toList
  | '"' => "&quot;".toList
  | c => [c]

/-- What `xml_util_add_content` appends for a string. -/
def addContent (content : Str) : Str := content.flatMap addContentChar

theorem childrenNamed_of_named {name : Str} {node : Node}
    (h : ∀ child ∈ node.children, child.name.isSome) :
    childrenNamed name node = some (node.children.filter fun child => child.name = some name) := by
  unfold childrenNamed
  rw [if_pos (List.all_eq_true.2 h)]

theorem childrenNamed_spec {name : Str} {node : Node} {nodes : List Node}
    (h : childrenNamed name node = some nodes) (child : Node) :
    child ∈ nodes ↔ child ∈ node.children ∧ child.name = some name := by
  unfold childrenNamed at h
  split at h
  · obtain rfl := Option.some.inj h
    rw [List.mem_filter, decide_eq_true_eq]
  · cases h

theorem mem_of_firstNamed {name : Str} {nodes : List Node} {node : Node}
    (h : firstNamed name nodes = some node) : node ∈ nodes := List.mem_of_find?_eq_some h

theorem getElement_singleton (node : Node) (arg : Str) :
    getElement node [arg] = firstNamed arg node.children := by
  unfold getElement
  cases firstNamed arg node.children <;> rfl

end GUPnP.Xml
