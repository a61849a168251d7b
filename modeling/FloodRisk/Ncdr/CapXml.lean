import FloodRisk.Values
import FloodRisk.Lib.Outcome

/-!
# CAP documents (adapters/cap_xml.py)

The messages that `parse_cap_document` reads off the element tree of a
document.  The XML parser, ISO timestamps, `float`, URL splitting and the
digests are those of libraries; the model takes them as functions.
-/

namespace FloodRisk.Ncdr

/-- An element of `xml.etree`: the tag holds the namespace in braces. -/
structure Element where
  tag : String
  attrib : List (String × String) := []
  text : Option String := none
  children : List Element := []

/-- Value of `float(text)`, where it has one. -/
inductive FloatValue where
  | finite (value : ℚ)
  | nonFinite

/-- Result of `urlsplit`; `port` is `none` where reading it raises. -/
structure SplitUrl where
  scheme : String
  hostname : Option String
  username : Option String
  password : Option String
  port : Option (Option ℕ)
  path : String
  query : String
  fragment : String

structure ParsedCapReference where
  sender : String
  identifier : String
  sent : ℤ
  deriving DecidableEq

structure ParsedCapArea where
  areaDesc : String
  geocodes : List (String × String)
  polygon : Option (List Position)
  circle : Option (ℚ × ℚ × ℚ)
  deriving DecidableEq

structure ParsedCapMessage where
  sender : String
  identifier : String
  sent : ℤ
  status : String
  messageType : String
  scope : String
  event : String
  headline : Option String
  description : Option String
  effective : Option ℤ
  onset : Option ℤ
  expires : Option ℤ
  references : List ParsedCapReference
  areas : List ParsedCapArea
  deriving DecidableEq

/-- What the adapter calls in libraries.  `none` is an error that the function
raises, and the XML parser's error is the name of its exception; the digests are
the hexadecimal texts of the hashed canonical JSON. -/
structure Runtime where
  fromstring : String → Except String Element
  fromisoformat : String → Option Datetime
  isoformat : ℤ → String
  float : String → Option FloatValue
  urlsplit : String → Option SplitUrl
  capMessageDigest : String → String → ℤ → String
  areaDigest : String → List (String × String) → Option (List Position) → Option (ℚ × ℚ × ℚ) → String
  transportDigest : String → String

/-- `CapDocumentError`. -/
structure CapDocumentError where
  message : String
  deriving DecidableEq

abbrev maxCapBytes : ℕ := 2 * 1024 * 1024
abbrev maxXmlDepth : ℕ := 32
abbrev maxXmlElements : ℕ := 20000
abbrev maxCapMessages : ℕ := 256
abbrev maxAreasPerMessage : ℕ := 128
abbrev maxReferencesPerMessage : ℕ := 64
abbrev maxPolygonCoordinates : ℕ := 4096

abbrev cap12Namespace : String := "urn:oasis:names:tc:emergency:cap:1.2"
abbrev cap12AlertTag : String := "{urn:oasis:names:tc:emergency:cap:1.2}alert"
abbrev cap12AlertsTag : String := "{urn:oasis:names:tc:emergency:cap:1.2}alerts"

/-! ### Elements -/

/-- `_local_name`: the text after the last closing brace. -/
def localName (tag : String) : String :=
  String.ofList (tag.toList.reverse.takeWhile (· != '\x7d')).reverse

/-- `_namespace`. -/
def tagNamespace (tag : String) : Option String :=
  match tag.toList with
  | '\x7b' :: rest =>
      if '\x7d' ∈ rest then some (String.ofList (rest.takeWhile (· != '\x7d'))) else none
  | _ => none

def isCapElement (name : String) (element : Element) : Bool :=
  localName element.tag = name && tagNamespace element.tag = some cap12Namespace

/-- `_children`. -/
def childrenOf (parent : Element) (name : String) : List Element :=
  parent.children.filter (isCapElement name)

/-- `_optional_text`. -/
def optionalElementText (parent : Element) (name : String) : Option String :=
  match parent.children.find? (isCapElement name) with
  | some child => optionalText (some (child.text.getD ""))
  | none => none

/-- `_required_text`. -/
def requiredText (parent : Element) (name : String) : Except CapDocumentError String :=
  match optionalElementText parent name with
  | some text => .ok text
  | none => .error ⟨"CAP field " ++ name ++ " is required"⟩

mutual

/-- `alert.iter()` without the element itself. -/
def Element.descendants : Element → List Element
  | ⟨_, _, _, children⟩ => descendantsOfAll children

def descendantsOfAll : List Element → List Element
  | [] => []
  | child :: rest => child :: (child.descendants ++ descendantsOfAll rest)

end

/-- The loop of `_validate_tree_bounds`; the top of the stack is the head. -/
def validateStack : ℕ → List (Element × ℕ) → Except CapDocumentError Unit
  | _, [] => .ok ()
  | 0, _ :: _ => .error ⟨"CAP XML exceeds the 20000 element limit"⟩
  | allowed + 1, (element, depth) :: stack =>
      if maxXmlDepth < depth then .error ⟨"CAP XML exceeds the depth limit of 32"⟩
      else validateStack allowed ((element.children.map fun child => (child, depth + 1)).reverse ++ stack)

def validateTreeBounds (root : Element) : Except CapDocumentError Unit :=
  validateStack maxXmlElements [(root, 1)]

/-- `_root_alerts`. -/
def rootAlerts (root : Element) : Except CapDocumentError (List Element) := do
  let alerts ←
    if root.tag = cap12AlertTag then .ok [root]
    else if root.tag = cap12AlertsTag then
      if root.children.any fun child => child.tag != cap12AlertTag then
        .error ⟨"CAP alerts collection children must be direct CAP 1.2 alert elements"⟩
      else .ok root.children
    else .error ⟨"CAP root must be a CAP 1.2 alert or alerts element"⟩
  if alerts.any fun alert => alert.descendants.any fun element => localName element.tag = "alert" then
    .error ⟨"CAP alert elements cannot be nested"⟩
  else .ok alerts

/-! ### Values -/

/-- `text.split()`. -/
def splitWhitespace (text : String) : List String :=
  ((text.toList.splitOnP isWhitespace).filter fun part => !part.isEmpty).map String.ofList

/-- `text.split(",")`. -/
def splitComma (text : String) : List String :=
  (text.toList.splitOnP (· == ',')).map String.ofList

section Parse

variable (runtime : Runtime)

/-- `_parse_datetime`. -/
def parseDatetime (text fieldName : String) : Except CapDocumentError ℤ :=
  match runtime.fromisoformat text with
  | some (.aware instant) => .ok instant
  | some (.naive _) => .error ⟨"CAP " ++ fieldName ++ " must be timezone-aware"⟩
  | none => .error ⟨"CAP " ++ fieldName ++ " must be an ISO 8601 datetime"⟩

/-- `_required_datetime`. -/
def requiredDatetime (parent : Element) (name : String) : Except CapDocumentError ℤ := do
  let text ← requiredText parent name
  parseDatetime runtime text name

/-- `_optional_datetime`. -/
def optionalDatetime (parent : Element) (name : String) : Except CapDocumentError (Option ℤ) :=
  match optionalElementText parent name with
  | some text => some <$> parseDatetime runtime text name
  | none => .ok none

/-- `_finite_float`. -/
def finiteFloat (text fieldName : String) : Except CapDocumentError ℚ :=
  match runtime.float text with
  | some (.finite value) => .ok value
  | some .nonFinite => .error ⟨"CAP " ++ fieldName ++ " contains a non-finite value"⟩
  | none => .error ⟨"CAP " ++ fieldName ++ " contains a non-numeric value"⟩

/-- `_parse_pair`. -/
def parsePair (text fieldName : String) : Except CapDocumentError Position :=
  match splitComma text with
  | [first, second] => do
      let latitude ← finiteFloat runtime first fieldName
      let longitude ← finiteFloat runtime second fieldName
      return (latitude, longitude)
  | _ => .error ⟨"CAP " ++ fieldName ++ " coordinate must contain two numbers"⟩

/-- `_parse_polygon`. -/
def parsePolygon (text : String) : Except CapDocumentError (List Position) :=
  let tokens := splitWhitespace text
  if tokens.isEmpty then .error ⟨"CAP polygon must contain coordinates"⟩
  else if maxPolygonCoordinates < tokens.length then
    .error ⟨"CAP polygon exceeds the 4096 coordinate limit"⟩
  else tokens.mapM fun token => parsePair runtime token "polygon"

/-- `_parse_circle`. -/
def parseCircle (text : String) : Except CapDocumentError (ℚ × ℚ × ℚ) :=
  match splitWhitespace text with
  | [center, extent] => do
      let (latitude, longitude) ← parsePair runtime center "circle"
      let radius ← finiteFloat runtime extent "circle radius"
      if radius < 0 then .error ⟨"CAP circle radius must be non-negative"⟩
      else .ok (latitude, longitude, radius)
  | _ => .error ⟨"CAP circle must contain a coordinate and radius"⟩

def parseReference (token : String) : Except CapDocumentError ParsedCapReference :=
  match splitComma token with
  | [sender, identifier, sent] =>
      if strip sender = "" ∨ strip identifier = "" ∨ strip sent = "" then
        .error ⟨"CAP reference must be a sender,identifier,sent triple"⟩
      else do
        let instant ← parseDatetime runtime sent "references.sent"
        return ⟨strip sender, strip identifier, instant⟩
  | _ => .error ⟨"CAP reference must be a sender,identifier,sent triple"⟩

/-- `_parse_references`. -/
def parseReferences : Option String → Except CapDocumentError (List ParsedCapReference)
  | none => .ok []
  | some text =>
      let tokens := splitWhitespace text
      if maxReferencesPerMessage < tokens.length then
        .error ⟨"CAP alert exceeds the 64 reference limit"⟩
      else tokens.mapM (parseReference runtime)

def parseGeocode (geocode : Element) : Except CapDocumentError (String × String) := do
  let valueName ← requiredText geocode "valueName"
  let value ← requiredText geocode "value"
  return (valueName, value)

/-- `_parse_area`. -/
def parseArea (area : Element) : Except CapDocumentError ParsedCapArea := do
  let areaDesc ← requiredText area "areaDesc"
  let geocodes ← (childrenOf area "geocode").mapM parseGeocode
  let polygon ← (optionalElementText area "polygon").mapM (parsePolygon runtime)
  let circle ← (optionalElementText area "circle").mapM (parseCircle runtime)
  return ⟨areaDesc, geocodes, polygon, circle⟩

/-- `_parse_message`: the times and texts are those of the first `info`, the
areas those of every one. -/
def parseMessage (alert : Element) : Except CapDocumentError ParsedCapMessage := do
  let sender ← requiredText alert "sender"
  let identifier ← requiredText alert "identifier"
  let sent ← requiredDatetime runtime alert "sent"
  let status ← requiredText alert "status"
  let messageType ← requiredText alert "msgType"
  let scope ← requiredText alert "scope"
  let infos := childrenOf alert "info"
  match infos with
  | [] => .error ⟨"CAP alert is missing info"⟩
  | info :: _ => do
      let event ← requiredText info "event"
      let areas ← (infos.flatMap fun parent => childrenOf parent "area").mapM (parseArea runtime)
      if maxAreasPerMessage < areas.length then .error ⟨"CAP alert exceeds the 128 area limit"⟩
      else do
        let headline := optionalElementText info "headline"
        let description := optionalElementText info "description"
        let effective ← optionalDatetime runtime info "effective"
        let onset ← optionalDatetime runtime info "onset"
        let expires ← optionalDatetime runtime info "expires"
        let references ← parseReferences runtime (optionalElementText alert "references")
        return { sender, identifier, sent, status, messageType, scope, event, headline,
                 description, effective, onset, expires, references, areas }

/-- The alerts of a document that passes the bounds of `parse_cap_document`. -/
def documentAlerts (xmlText : String) : Except CapDocumentError (List Element) :=
  if maxCapBytes < xmlText.utf8ByteSize then .error ⟨"CAP document exceeds the 2 MiB input limit"⟩
  else
    match runtime.fromstring xmlText with
    | .error exception => .error ⟨"CAP XML could not be parsed: " ++ exception⟩
    | .ok root => do
        validateTreeBounds root
        let alerts ← rootAlerts root
        if maxCapMessages < alerts.length then .error ⟨"CAP document exceeds the 256 message limit"⟩
        else .ok alerts

def parseCapDocument (xmlText : String) : Except CapDocumentError (List ParsedCapMessage) := do
  let alerts ← documentAlerts runtime xmlText
  alerts.mapM (parseMessage runtime)

end Parse

end FloodRisk.Ncdr
