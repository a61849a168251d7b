import FloodRisk.IsoText
import FloodRisk.Ncdr.CapXml

/-!
# What reading a CAP document raises (adapters/cap_xml.py)

`parse_cap_document` with the errors that are no `CapDocumentError`: a text that
has no UTF-8 encoding, and a time outside the calendar in UTC.
-/

namespace FloodRisk.Ncdr.Raising

inductive ParseFailure where
  | document (error : CapDocumentError)
  | overflow
  | encoding
  deriving DecidableEq

/-- A Python text by its code points; lone surrogates are among them. -/
abbrev DocumentText := List ℕ

/-- The text that `encode("utf-8")` takes. -/
def encodable (xmlText : DocumentText) : Option String :=
  if xmlText.all fun point => Nat.isValidChar point then
    some (String.ofList (xmlText.map Char.ofNat))
  else none

def raised {α : Type} (result : Except CapDocumentError α) : Except ParseFailure α :=
  result.mapError .document

section Parse

variable (runtime : Runtime)

/-- `_parse_datetime` up to `value.astimezone(UTC)`. -/
def parseDatetime (text fieldName : String) : Except ParseFailure ℤ := do
  let instant ← raised (Ncdr.parseDatetime runtime text fieldName)
  if InCalendar instant then .ok instant else .error .overflow

def requiredDatetime (parent : Element) (name : String) : Except ParseFailure ℤ := do
  let text ← raised (requiredText parent name)
  parseDatetime runtime text name

def optionalDatetime (parent : Element) (name : String) : Except ParseFailure (Option ℤ) :=
  match optionalElementText parent name with
  | some text => some <$> parseDatetime runtime text name
  | none => .ok none

def parseReference (token : String) : Except ParseFailure ParsedCapReference :=
  match splitComma token with
  | [sender, identifier, sent] =>
      if strip sender = "" ∨ strip identifier = "" ∨ strip sent = "" then
        .error (.document ⟨"CAP reference must be a sender,identifier,sent triple"⟩)
      else do
        let instant ← parseDatetime runtime sent "references.sent"
        return ⟨strip sender, strip identifier, instant⟩
  | _ => .error (.document ⟨"CAP reference must be a sender,identifier,sent triple"⟩)

def parseReferences : Option String → Except ParseFailure (List ParsedCapReference)
  | none => .ok []
  | some text =>
      let tokens := splitWhitespace text
      if maxReferencesPerMessage < tokens.length then
        .error (.document ⟨"CAP alert exceeds the 64 reference limit"⟩)
      else tokens.mapM (parseReference runtime)

/-- The times of a message, in the order in which they are read. -/
def parseTimes (alert info : Element) :
    Except ParseFailure (Option ℤ × Option ℤ × Option ℤ × List ParsedCapReference) := do
  let effective ← optionalDatetime runtime info "effective"
  let onset ← optionalDatetime runtime info "onset"
  let expires ← optionalDatetime runtime info "expires"
  let references ← parseReferences runtime (optionalElementText alert "references")
  return (effective, onset, expires, references)

def parseMessage (alert : Element) : Except ParseFailure ParsedCapMessage := do
  let sender ← raised (requiredText alert "sender")
  let identifier ← raised (requiredText alert "identifier")
  let sent ← requiredDatetime runtime alert "sent"
  let status ← raised (requiredText alert "status")
  let messageType ← raised (requiredText alert "msgType")
  let scope ← raised (requiredText alert "scope")
  let infos := childrenOf alert "info"
  match infos with
  | [] => .error (.document ⟨"CAP alert is missing info"⟩)
  | info :: _ => do
      let event ← raised (requiredText info "event")
      let areas ← raised ((infos.flatMap fun parent => childrenOf parent "area").mapM
        (parseArea runtime))
      if maxAreasPerMessage < areas.length then
        .error (.document ⟨"CAP alert exceeds the 128 area limit"⟩)
      else do
        let headline := optionalElementText info "headline"
        let description := optionalElementText info "description"
        let (effective, onset, expires, references) ← parseTimes runtime alert info
        return { sender, identifier, sent, status, messageType, scope, event, headline,
                 description, effective, onset, expires, references, areas }

/-- `parse_cap_document`. -/
def parseCapDocument (xmlText : DocumentText) : Except ParseFailure (List ParsedCapMessage) :=
  match encodable xmlText with
  | none => .error .encoding
  | some text => do
      let alerts ← raised (documentAlerts runtime text)
      alerts.mapM (parseMessage runtime)

/-! ### What is read -/

/-- A text that `_required_text` returns. -/
def IsField (text : String) : Prop := strip text = text ∧ text ≠ ""

/-- A message with the limits that `parse_cap_document` declares. -/
structure ReadMessage (message : ParsedCapMessage) : Prop where
  sender : IsField message.sender
  identifier : IsField message.identifier
  sent : InCalendar message.sent
  effective : ∀ instant ∈ message.effective, InCalendar instant
  onset : ∀ instant ∈ message.onset, InCalendar instant
  expires : ∀ instant ∈ message.expires, InCalendar instant
  references : message.references.length ≤ maxReferencesPerMessage
  referenceFields : ∀ reference ∈ message.references,
    IsField reference.sender ∧ IsField reference.identifier ∧ InCalendar reference.sent
  areas : message.areas.length ≤ maxAreasPerMessage
  polygons : ∀ area ∈ message.areas, ∀ polygon ∈ area.polygon,
    polygon.length ≤ maxPolygonCoordinates

variable {runtime}

theorem raised_eq_ok {α : Type} {result : Except CapDocumentError α} {value : α} :
    raised result = .ok value ↔ result = .ok value := by
  cases result <;> simp [raised, Except.mapError]

theorem requiredText_isField {parent : Element} {name text : String}
    (h : requiredText parent name = .ok text) : IsField text := by
  unfold requiredText at h
  split at h
  · rename_i found hfound
    cases h
    unfold optionalElementText at hfound
    split at hfound
    · obtain ⟨raw, -, rfl⟩ := optionalText_eq_some hfound
      exact ⟨strip_strip raw, optionalText_ne_empty hfound⟩
    · cases hfound
  · cases h

theorem parseDatetime_inCalendar {text name : String} {instant : ℤ}
    (h : parseDatetime runtime text name = .ok instant) : InCalendar instant := by
  obtain ⟨read, -, h⟩ := Outcome.bind_eq_ok.mp h
  split_ifs at h with hcalendar
  cases h
  exact hcalendar

theorem optionalDatetime_inCalendar {parent : Element} {name : String} {found : Option ℤ}
    (h : optionalDatetime runtime parent name = .ok found) : ∀ instant ∈ found, InCalendar instant := by
  unfold optionalDatetime at h
  split at h
  · rename_i text htext
    cases hread : parseDatetime runtime text name with
    | error failure =>
      rw [hread] at h
      cases h
    | ok instant =>
      rw [hread] at h
      cases h
      rintro other ⟨⟩
      exact parseDatetime_inCalendar hread
  · cases h
    rintro instant ⟨⟩

theorem parseReference_fields {token : String} {reference : ParsedCapReference}
    (h : parseReference runtime token = .ok reference) :
    IsField reference.sender ∧ IsField reference.identifier ∧ InCalendar reference.sent := by
  unfold parseReference at h
  split at h
  · rename_i sender identifier sent hfields
    split_ifs at h with hblank
    obtain ⟨instant, hinstant, h⟩ := Outcome.bind_eq_ok.mp h
    cases h
    push Not at hblank
    exact ⟨⟨strip_strip sender, hblank.1⟩, ⟨strip_strip identifier, hblank.2.1⟩,
      parseDatetime_inCalendar hinstant⟩
  · cases h

theorem parseReferences_fields {text : Option String} {references : List ParsedCapReference}
    (h : parseReferences runtime text = .ok references) :
    references.length ≤ maxReferencesPerMessage ∧ ∀ reference ∈ references,
      IsField reference.sender ∧ IsField reference.identifier ∧ InCalendar reference.sent := by
  cases text with
  | none =>
    cases h
    exact ⟨Nat.zero_le _, fun reference hmem => absurd hmem List.not_mem_nil⟩
  | some text =>
    simp only [parseReferences] at h
    split_ifs at h with hcount
    have hall := Outcome.mapM_eq_ok.mp h
    refine ⟨hall.length_eq ▸ not_lt.mp hcount, ?_⟩
    intro reference hmem
    obtain ⟨token, -, htoken⟩ := Outcome.exists_of_mem_mapM h hmem
    exact parseReference_fields htoken

theorem documentAlerts_length {xmlText : String} {alerts : List Element}
    (h : documentAlerts runtime xmlText = .ok alerts) : alerts.length ≤ maxCapMessages := by
  unfold documentAlerts at h
  split_ifs at h
  split at h
  · cases h
  · obtain ⟨_, -, h⟩ := Outcome.bind_eq_ok.mp h
    obtain ⟨found, -, h⟩ := Outcome.bind_eq_ok.mp h
    split_ifs at h with hcount
    cases h
    exact not_lt.mp hcount

theorem parsePolygon_length {text : String} {polygon : List Position}
    (h : parsePolygon runtime text = .ok polygon) : polygon.length ≤ maxPolygonCoordinates := by
  simp only [parsePolygon] at h
  split_ifs at h with hempty hcount
  exact (Outcome.mapM_eq_ok.mp h).length_eq ▸ not_lt.mp hcount

theorem parseArea_polygon {element : Element} {area : ParsedCapArea}
    (h : parseArea runtime element = .ok area) :
    ∀ polygon ∈ area.polygon, polygon.length ≤ maxPolygonCoordinates := by
  obtain ⟨areaDesc, -, h⟩ := Outcome.bind_eq_ok.mp h
  obtain ⟨geocodes, -, h⟩ := Outcome.bind_eq_ok.mp h
  obtain ⟨polygon, hpolygon, h⟩ := Outcome.bind_eq_ok.mp h
  obtain ⟨circle, -, h⟩ := Outcome.bind_eq_ok.mp h
  cases h
  cases htext : optionalElementText element "polygon" with
  | none =>
    rw [htext] at hpolygon
    cases hpolygon
    rintro positions ⟨⟩
  | some text =>
    rw [htext] at hpolygon
    obtain ⟨positions, hpositions, hpolygon⟩ := Outcome.bind_eq_ok.mp hpolygon
    cases hpolygon
    rintro found ⟨⟩
    exact parsePolygon_length hpositions

theorem parseMessage_readMessage {alert : Element} {message : ParsedCapMessage}
    (h : parseMessage runtime alert = .ok message) : ReadMessage message := by
  obtain ⟨sender, hsender, h⟩ := Outcome.bind_eq_ok.mp h
  obtain ⟨identifier, hidentifier, h⟩ := Outcome.bind_eq_ok.mp h
  obtain ⟨sent, hsent, h⟩ := Outcome.bind_eq_ok.mp h
  obtain ⟨status, -, h⟩ := Outcome.bind_eq_ok.mp h
  obtain ⟨messageType, -, h⟩ := Outcome.bind_eq_ok.mp h
  obtain ⟨scope, -, h⟩ := Outcome.bind_eq_ok.mp h
  dsimp only at h
  split at h
  · cases h
  · rename_i info others hinfos
    obtain ⟨event, -, h⟩ := Outcome.bind_eq_ok.mp h
    obtain ⟨areas, hareas, h⟩ := Outcome.bind_eq_ok.mp h
    split_ifs at h with hcount
    obtain ⟨⟨effective, onset, expires, references⟩, htimes, h⟩ := Outcome.bind_eq_ok.mp h
    cases h
    obtain ⟨text, -, hsent⟩ := Outcome.bind_eq_ok.mp hsent
    obtain ⟨_, heffective, htimes⟩ := Outcome.bind_eq_ok.mp htimes
    obtain ⟨_, honset, htimes⟩ := Outcome.bind_eq_ok.mp htimes
    obtain ⟨_, hexpires, htimes⟩ := Outcome.bind_eq_ok.mp htimes
    obtain ⟨_, hreferences, htimes⟩ := Outcome.bind_eq_ok.mp htimes
    cases htimes
    obtain ⟨hreferenceCount, hfields⟩ := parseReferences_fields hreferences
    constructor
    · exact requiredText_isField (raised_eq_ok.mp hsender)
    · exact requiredText_isField (raised_eq_ok.mp hidentifier)
    · exact parseDatetime_inCalendar hsent
    · exact optionalDatetime_inCalendar heffective
    · exact optionalDatetime_inCalendar honset
    · exact optionalDatetime_inCalendar hexpires
    · exact hreferenceCount
    · exact hfields
    · exact not_lt.mp hcount
    · intro area harea
      obtain ⟨element, -, helement⟩ := Outcome.exists_of_mem_mapM (raised_eq_ok.mp hareas) harea
      exact parseArea_polygon helement

/-! ### Documents with times of the calendar -/

/-- The texts that are read as times of references. -/
def referenceTimes (text : Option String) : List String :=
  (text.elim [] splitWhitespace).filterMap fun token =>
    match splitComma token with
    | [_, _, sent] => some sent
    | _ => none

/-- The texts that `_parse_message` reads as times. -/
def timeTexts (alert : Element) : List String :=
  (optionalElementText alert "sent").toList ++
    ((childrenOf alert "info").head?.elim [] fun info =>
      ["effective", "onset", "expires"].filterMap (optionalElementText info)) ++
    referenceTimes (optionalElementText alert "references")

/-- No time of the texts lies outside the calendar in UTC. -/
def TimesInCalendar (runtime : Runtime) (texts : List String) : Prop :=
  ∀ text ∈ texts, ∀ instant, runtime.fromisoformat text = some (.aware instant) →
    InCalendar instant

/-- No alert of the document has a time outside the calendar. -/
def DocumentInCalendar (runtime : Runtime) (xmlText : String) : Prop :=
  ∀ alerts, documentAlerts runtime xmlText = .ok alerts →
    ∀ alert ∈ alerts, TimesInCalendar runtime (timeTexts alert)

theorem raised_bind {α β : Type} (x : Except CapDocumentError α)
    (f : α → Except CapDocumentError β) :
    raised (x >>= f) = raised x >>= fun value => raised (f value) := by
  cases x <;> rfl

theorem raised_mapM {α β : Type} {f : α → Except CapDocumentError β}
    {g : α → Except ParseFailure β} {l : List α} (h : ∀ a ∈ l, g a = raised (f a)) :
    l.mapM g = raised (l.mapM f) := by
  induction l with
  | nil => rfl
  | cons a l ih =>
    rw [List.mapM_cons, List.mapM_cons, h a List.mem_cons_self,
      ih fun b hb => h b (List.mem_cons_of_mem a hb), raised_bind]
    congr 1
    funext value
    rw [raised_bind]
    rfl

theorem parseDatetime_raised {text name : String}
    (h : ∀ instant, runtime.fromisoformat text = some (.aware instant) → InCalendar instant) :
    parseDatetime runtime text name = raised (Ncdr.parseDatetime runtime text name) := by
  unfold parseDatetime Ncdr.parseDatetime
  split
  · rename_i instant hread
    exact if_pos (h instant hread)
  · rfl
  · rfl

theorem requiredDatetime_raised {parent : Element} {name : String}
    (h : TimesInCalendar runtime (optionalElementText parent name).toList) :
    requiredDatetime runtime parent name = raised (Ncdr.requiredDatetime runtime parent name) := by
  unfold requiredDatetime Ncdr.requiredDatetime requiredText
  cases htext : optionalElementText parent name with
  | none => rfl
  | some text => exact parseDatetime_raised (h text (by simp [htext]))

theorem optionalDatetime_raised {parent : Element} {name : String}
    (h : TimesInCalendar runtime (optionalElementText parent name).toList) :
    optionalDatetime runtime parent name = raised (Ncdr.optionalDatetime runtime parent name) := by
  unfold optionalDatetime Ncdr.optionalDatetime
  cases htext : optionalElementText parent name with
  | none => rfl
  | some text =>
    dsimp only
    rw [parseDatetime_raised (h text (by simp [htext]))]
    cases Ncdr.parseDatetime runtime text name <;> rfl

theorem parseReferences_raised {text : Option String}
    (h : TimesInCalendar runtime (referenceTimes text)) :
    parseReferences runtime text = raised (Ncdr.parseReferences runtime text) := by
  cases text with
  | none => rfl
  | some text =>
    have htoken : ∀ token ∈ splitWhitespace text,
        parseReference runtime token = raised (Ncdr.parseReference runtime token) := by
      intro token htoken
      unfold parseReference Ncdr.parseReference
      rcases hfields : splitComma token with
        _ | ⟨sender, _ | ⟨identifier, _ | ⟨sent, _ | ⟨more, rest⟩⟩⟩⟩
      · rfl
      · rfl
      · rfl
      · have hsent : sent ∈ referenceTimes (some text) :=
          List.mem_filterMap.mpr ⟨token, htoken, by rw [hfields]⟩
        dsimp only
        split_ifs
        · rfl
        · rw [raised_bind, parseDatetime_raised (h sent hsent)]
          rfl
      · rfl
    simp only [parseReferences, Ncdr.parseReferences]
    split_ifs
    · rfl
    · exact raised_mapM htoken

/-- Where every time is in the calendar only `CapDocumentError` is raised. -/
theorem parseMessage_raised {alert : Element} (h : TimesInCalendar runtime (timeTexts alert)) :
    parseMessage runtime alert = raised (Ncdr.parseMessage runtime alert) := by
  have hsent : requiredDatetime runtime alert "sent" =
      raised (Ncdr.requiredDatetime runtime alert "sent") :=
    requiredDatetime_raised fun text htext =>
      h text (List.mem_append_left _ (List.mem_append_left _ htext))
  have hreferences := parseReferences_raised fun text htext =>
    h text (List.mem_append_right _ htext)
  unfold parseMessage Ncdr.parseMessage
  simp only [raised_bind, hsent]
  cases hinfos : childrenOf alert "info" with
  | nil => rfl
  | cons info others =>
    have htimes : ∀ name ∈ ["effective", "onset", "expires"],
        optionalDatetime runtime info name = raised (Ncdr.optionalDatetime runtime info name) := by
      intro name hname
      apply optionalDatetime_raised
      intro text htext
      apply h text (List.mem_append_left _ (List.mem_append_right _ ?_))
      rw [hinfos]
      exact List.mem_filterMap.mpr ⟨name, hname, by simpa using htext⟩
    simp only [parseTimes, htimes "effective" (by simp), htimes "onset" (by simp),
      htimes "expires" (by simp), hreferences, apply_ite raised, raised_bind, bind_assoc,
      pure_bind]
    rfl

/-- `parse_cap_document` of a text without lone surrogates and with times of the calendar. -/
theorem parseCapDocument_raised {xmlText : String} (h : DocumentInCalendar runtime xmlText) :
    parseCapDocument runtime (xmlText.toList.map Char.toNat) =
      raised (Ncdr.parseCapDocument runtime xmlText) := by
  have hencodable : encodable (xmlText.toList.map Char.toNat) = some xmlText := by
    have hvalid : (xmlText.toList.map Char.toNat).all (fun point => Nat.isValidChar point) = true := by
      rw [List.all_map, List.all_eq_true]
      intro c _
      exact decide_eq_true c.valid
    have hchars : (xmlText.toList.map Char.toNat).map Char.ofNat = xmlText.toList := by
      rw [List.map_map]
      exact (List.map_congr_left fun c _ => Char.ofNat_toNat c).trans (List.map_id _)
    rw [encodable, if_pos hvalid, hchars, String.ofList_toList]
  unfold parseCapDocument Ncdr.parseCapDocument
  rw [hencodable, raised_bind]
  dsimp only
  cases halerts : documentAlerts runtime xmlText with
  | error error => rfl
  | ok alerts => exact raised_mapM fun alert halert => parseMessage_raised (h alerts halerts alert halert)

end Parse

end FloodRisk.Ncdr.Raising
