import FloodRisk.Ncdr.AuditRow

/-!
# The index of active warnings (adapters/ncdr/cap_alerts.py)

`_parse_datastore_cap_ids` reads the ids of the member datastore and keeps the
first of them; `_parse_public_active_feed` reads the documents of the public
Atom feed.
-/

namespace FloodRisk.Ncdr

inductive NcdrError where
  | configuration (message : String)
  | fetch (message : String) (retryAfterSeconds : Option ℤ)
  | rateLimit (message : String) (retryAfterSeconds : Option ℤ)
  | payload (message : String)
  | value (message : String)
  | uncaught (exception : String)
  deriving DecidableEq

/-- Subclasses of `NcdrCapAlertAdapterError`. -/
def NcdrError.isAdapterError : NcdrError → Bool
  | .value _ | .uncaught _ => false
  | _ => true

/-- A decoded JSON value. -/
inductive Json where
  | null
  | bool (value : Bool)
  | number (value : ℚ)
  | text (value : String)
  | list (values : List Json)
  | object (members : List (String × Json))

/-! ### The member datastore -/

/-- The list of records of `_parse_datastore_cap_ids`. -/
def datastoreRecords (payload : Json) : Except NcdrError (List Json) :=
  let records : Except NcdrError Json :=
    match payload with
    | .list values => .ok (.list values)
    | .object members =>
        match members.lookup "data" with
        | some (.object data) =>
            match data.lookup "records", data.lookup "items" with
            | some records, _ => .ok records
            | none, some items => .ok items
            | none, none => .ok .null
        | some records => .ok records
        | none => .ok .null
    | _ => .error (.payload "NCDR datastore payload must be a JSON object or list")
  match records with
  | .ok (.list values) => .ok values
  | .ok _ => .error (.payload "NCDR datastore payload is missing a data list")
  | .error error => .error error

/-- The id of a record, if it has a usable one. -/
def recordCapId (apiKey : String) (record : Json) : Except NcdrError (Option String) :=
  match record with
  | .object members =>
      match members.lookup "capid" with
      | none | some .null => .ok none
      | some (.text rawCapId) =>
          let capId := strip rawCapId
          if capId = "" ∨ 256 < capId.length then .ok none
          else if apiKey ≠ "" && isSubtext apiKey capId then
            .error (.payload "NCDR datastore capid contained [REDACTED] credential material")
          else .ok (some capId)
      | some _ => .error (.payload "NCDR datastore capid must be text")
  | _ => .error (.payload "NCDR datastore data entries must be objects")

/-- `_parse_datastore_cap_ids`. -/
def parseDatastoreCapIds (payload : Json) (apiKey : String) (limit : ℕ) :
    Except NcdrError (List String) := do
  let records ← datastoreRecords payload
  let found ← records.mapM (recordCapId apiKey)
  let capIds := found.reduceOption.dedup
  if !records.isEmpty && capIds.isEmpty then
    .error (.payload "NCDR datastore contained no usable capid values")
  else .ok ((capIds.insertionSort (· ≤ ·)).take limit)

/-! ### The public feed -/

abbrev ncdrPublicHost : String := "alerts.ncdr.nat.gov.tw"
abbrev ncdrFloodCategory : String := "淹水"

def attributeText (element : Element) (name : String) : Option String :=
  optionalText (element.attrib.lookup name)

/-- `_first_direct_xml_text`. -/
def firstDirectXmlText (element : Element) (name : String) : Option String :=
  match element.children.find? fun child => localName child.tag = name with
  | some child => optionalText child.text
  | none => none

def isFloodEntry (entry : Element) : Bool :=
  localName entry.tag = "entry" &&
    entry.children.any fun element =>
      localName element.tag = "category" && attributeText element "term" = some ncdrFloodCategory

def isCapLink (element : Element) : Bool :=
  localName element.tag = "link" && (attributeText element "href").isSome &&
    (attributeText element "rel" = none || attributeText element "rel" = some "alternate")

def isTrustedCapUrl (feedHost : Option String) (parts : SplitUrl) (port : Option ℕ) : Bool :=
  parts.scheme = "https" && (parts.hostname.getD "").toLower = ncdrPublicHost &&
    (feedHost.getD "").toLower = ncdrPublicHost && parts.username.isNone && parts.password.isNone &&
    (port = none || port = some 443) && parts.path.startsWith "/Capstorage/" &&
    parts.path.toLower.endsWith ".cap" && parts.query = "" && parts.fragment = ""

section Feed

variable (runtime : Runtime) (feedUrl : String)

/-- `_active_feed_cap_url`. -/
def activeFeedCapUrl (entry : Element) : Except NcdrError String :=
  match (entry.children.find? isCapLink).bind fun link => attributeText link "href" with
  | none => .error (.payload "NCDR active-warning flood entry is missing a CAP link")
  | some href =>
      match runtime.urlsplit feedUrl, runtime.urlsplit href with
      | some feedParts, some parts =>
          match parts.port with
          | none => .error (.payload "NCDR active-warning flood entry has an invalid CAP link")
          | some port =>
              if isTrustedCapUrl feedParts.hostname parts port then
                .ok ("https://" ++ ncdrPublicHost ++ parts.path)
              else
                .error (.payload "NCDR active-warning flood entry has an untrusted CAP link")
      | _, _ => .error (.uncaught "ValueError")

/-- The id and the address of a flood entry. -/
def feedDocument (entry : Element) : Except NcdrError (String × String) :=
  match firstDirectXmlText entry "id" with
  | none => .error (.payload "NCDR active-warning flood entry is missing a usable id")
  | some capId =>
      if 256 < capId.length then
        .error (.payload "NCDR active-warning flood entry is missing a usable id")
      else do
        let capUrl ← activeFeedCapUrl runtime feedUrl entry
        return (capId, capUrl)

/-- One entry of the loop of `_parse_public_active_feed`. -/
def addFeedEntry (documents : List (String × String)) (entry : Element) :
    Except NcdrError (List (String × String)) :=
  if !isFloodEntry entry then .ok documents
  else do
    let document ← feedDocument runtime feedUrl entry
    if document.1 ∈ documents.map Prod.fst ∨ document.2 ∈ documents.map Prod.snd then
      if document ∈ documents then .ok documents
      else .error (.payload "NCDR active-warning feed contains conflicting flood entries")
    else .ok (documents ++ [document])

/-- The root of a feed document. -/
def feedRoot (xmlText : String) : Except NcdrError Element :=
  match runtime.fromstring xmlText with
  | .error exception =>
      if exception = "ParseError" then
        .error (.payload "NCDR active-warning Atom feed could not be parsed")
      else .error (.uncaught exception)
  | .ok root =>
      if localName root.tag ≠ "feed" then
        .error (.payload "NCDR active-warning payload root must be an Atom feed")
      else .ok root

/-- `_parse_public_active_feed`. -/
def parsePublicActiveFeed (xmlText : String) (limit : ℕ) :
    Except NcdrError (List (String × String)) := do
  let root ← feedRoot runtime xmlText
  let documents ← root.children.foldlM (addFeedEntry runtime feedUrl) []
  if limit < documents.length then
    .error (.payload "NCDR active-warning flood entry count exceeds the configured run limit")
  else .ok documents

end Feed

end FloodRisk.Ncdr
