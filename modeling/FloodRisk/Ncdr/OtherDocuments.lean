import FloodRisk.Ncdr.AllClear
import FloodRisk.Ncdr.Isolation

/-!
# One document and the others (adapters/ncdr/cap_alerts.py)

`_fetch_audited_rows` over the parser that can raise more than
`CapDocumentError`, and two polls that differ in the content of one document.
-/

namespace FloodRisk.Ncdr

namespace Raising

def codePoints (text : String) : DocumentText := text.toList.map Char.toNat

/-- The fetch and the parse of a dump. -/
def fetchDump (poll : Poll) (document : SelectedDocument) : Except NcdrError Poll.Dump :=
  match poll.callTextFetcher document.capUrl document.dumpParams with
  | .error (.rateLimit _ retryAfterSeconds) => .ok (.failed retryAfterSeconds)
  | .error error => if error.isAdapterError then .ok (.failed none) else .error error
  | .ok xmlText =>
      if poll.key ≠ "" && isSubtext poll.key xmlText then .ok (.failed none)
      else
        match parseCapDocument poll.runtime (codePoints xmlText) with
        | .ok messages => .ok (.parsed messages)
        | .error (.document _) => .ok (.failed none)
        | .error .overflow => .error (.uncaught "OverflowError")
        | .error .encoding => .error (.uncaught "UnicodeEncodeError")

def auditDocument (poll : Poll) (rows : AuditedRows) (document : SelectedDocument) :
    Except NcdrError AuditedRows := do
  let dump ← fetchDump poll document
  poll.auditDump rows document dump

/-- `_fetch_audited_rows` with the number of selected documents. -/
def fetchAuditedRows (poll : Poll) : Except NcdrError (AuditedRows × ℕ) := do
  let selected ← poll.selectedDocuments
  let rows ← selected.foldlM (auditDocument poll) {}
  return (rows, selected.length)

variable {poll : Poll} {document : SelectedDocument} {text : String}

/-- A content with times of the calendar is a dump, parsed or failed. -/
theorem fetchDump_inCalendar
    (hfetch : poll.callTextFetcher document.capUrl document.dumpParams = .ok text)
    (h : DocumentInCalendar poll.runtime text) :
    fetchDump poll document = poll.fetchDump document := by
  have hparse : parseCapDocument poll.runtime (codePoints text) =
      raised (Ncdr.parseCapDocument poll.runtime text) := parseCapDocument_raised h
  unfold fetchDump Poll.fetchDump
  rw [hfetch]
  dsimp only
  rw [hparse]
  cases Ncdr.parseCapDocument poll.runtime text <;> rfl

theorem exists_fetchDump
    (hfetch : poll.callTextFetcher document.capUrl document.dumpParams = .ok text)
    (h : DocumentInCalendar poll.runtime text) : ∃ dump, fetchDump poll document = .ok dump := by
  rw [fetchDump_inCalendar hfetch h, Poll.fetchDump, hfetch]
  dsimp only
  split_ifs
  · exact ⟨_, rfl⟩
  · cases Ncdr.parseCapDocument poll.runtime text with
    | ok messages => exact ⟨_, rfl⟩
    | error error => exact ⟨_, rfl⟩

/-- The limits of a document, and the only error of one with times of the calendar. -/
theorem parseCapDocument_limits {runtime : Runtime} {xmlText : DocumentText}
    {messages : List ParsedCapMessage} (h : parseCapDocument runtime xmlText = .ok messages) :
    messages.length ≤ maxCapMessages ∧ ∀ message ∈ messages, ReadMessage message := by
  unfold parseCapDocument at h
  split at h
  · cases h
  · rename_i content hencodable
    obtain ⟨alerts, halerts, hmessages⟩ := Outcome.bind_eq_ok.mp h
    have hcount : alerts.length ≤ maxCapMessages := documentAlerts_length (raised_eq_ok.mp halerts)
    refine ⟨(Outcome.mapM_eq_ok.mp hmessages).length_eq ▸ hcount, ?_⟩
    intro message hmessage
    obtain ⟨alert, -, hread⟩ := Outcome.exists_of_mem_mapM hmessages hmessage
    exact parseMessage_readMessage hread

theorem parseCapDocument_error {runtime : Runtime} (h : DocumentInCalendar runtime text)
    {failure : ParseFailure} (herror : parseCapDocument runtime (codePoints text) = .error failure) :
    ∃ error, failure = .document error := by
  have hparse : parseCapDocument runtime (codePoints text) =
      raised (Ncdr.parseCapDocument runtime text) := parseCapDocument_raised h
  rw [hparse] at herror
  cases hresult : Ncdr.parseCapDocument runtime text with
  | ok messages =>
    rw [hresult] at herror
    cases herror
  | error error =>
    rw [hresult] at herror
    cases herror
    exact ⟨error, rfl⟩

end Raising

/-! ### Another content of one document -/

namespace Poll

/-- The poll where one address has another content. -/
def withText (poll : Poll) (url : String) (params : List (String × String)) (text : String) : Poll :=
  { poll with
    callTextFetcher := fun capUrl dumpParams =>
      if capUrl = url ∧ dumpParams = params then .ok text
      else poll.callTextFetcher capUrl dumpParams }

end Poll

def IsAt (url : String) (params : List (String × String)) (document : SelectedDocument) : Prop :=
  document.capUrl = url ∧ document.dumpParams = params

instance (url : String) (params : List (String × String)) : DecidablePred (IsAt url params) :=
  fun document => inferInstanceAs (Decidable (document.capUrl = url ∧ document.dumpParams = params))

/-- The selected documents with an address. -/
def selectedAt (poll : Poll) (url : String) (params : List (String × String)) :
    List SelectedDocument :=
  match poll.selectedDocuments with
  | .ok selected => selected.filter (IsAt url params)
  | .error _ => []

/-- The raw rows of a document in a poll. -/
def documentRaws (poll : Poll) (document : SelectedDocument) : List RawSourceItem :=
  match Raising.fetchDump poll document with
  | .ok dump => dumpRaws poll document dump
  | .error _ => []

/-- The source ids of the document at an address, in a poll and with another content. -/
def changedIds (poll : Poll) (url : String) (params : List (String × String)) (text : String) :
    List String :=
  (selectedAt poll url params).flatMap fun document =>
    (documentRaws poll document ++ documentRaws (poll.withText url params text) document).map
      RawSourceItem.sourceId

variable {poll : Poll} {url text : String} {params : List (String × String)}
  {document : SelectedDocument} {rows other next : AuditedRows}

theorem selectedDocuments_withText (hfeed : (url, params) ≠ (poll.activeFeedUrl, [])) :
    (poll.withText url params text).selectedDocuments = poll.selectedDocuments := by
  have hfetch : (poll.withText url params text).callTextFetcher poll.activeFeedUrl [] =
      poll.callTextFetcher poll.activeFeedUrl [] := by
    apply if_neg
    rintro ⟨rfl, rfl⟩
    exact hfeed rfl
  unfold Poll.selectedDocuments
  change (if _ then _ else if _ then _ else do
    let feedXml ← (poll.withText url params text).callTextFetcher poll.activeFeedUrl []
    _) = _
  rw [hfetch]
  rfl

theorem auditDump_withText (dump : Poll.Dump) :
    (poll.withText url params text).auditDump rows document dump =
      poll.auditDump rows document dump := rfl

theorem dumpRaws_withText (dump : Poll.Dump) :
    dumpRaws (poll.withText url params text) document dump = dumpRaws poll document dump := rfl

theorem callTextFetcher_withText (hat : IsAt url params document) :
    (poll.withText url params text).callTextFetcher document.capUrl document.dumpParams =
      .ok text := if_pos hat

theorem fetchDump_withText (h : ¬ IsAt url params document) :
    Raising.fetchDump (poll.withText url params text) document = Raising.fetchDump poll document := by
  have hfetch : (poll.withText url params text).callTextFetcher document.capUrl document.dumpParams =
      poll.callTextFetcher document.capUrl document.dumpParams := if_neg h
  unfold Raising.fetchDump
  rw [hfetch]
  rfl

theorem mem_changedIds {selected : List SelectedDocument}
    (hselected : poll.selectedDocuments = .ok selected) (hmem : document ∈ selected)
    (hat : IsAt url params document) {raw : RawSourceItem}
    (hraw : raw ∈ documentRaws poll document ∨
      raw ∈ documentRaws (poll.withText url params text) document) :
    raw.sourceId ∈ changedIds poll url params text := by
  have hdocument : document ∈ selectedAt poll url params := by
    unfold selectedAt
    rw [hselected]
    exact List.mem_filter.mpr ⟨hmem, decide_eq_true hat⟩
  exact List.mem_flatMap.mpr
    ⟨document, hdocument, List.mem_map_of_mem (List.mem_append.mpr hraw)⟩

/-- How the poll with the other content may stop. -/
inductive StopsFor (poll : Poll) (url : String) (params : List (String × String)) (text : String) :
    NcdrError → Prop where
  | atLimit : StopsFor poll url params text rowLimitError
  | secret {document : SelectedDocument} {raw : RawSourceItem}
      (selected : document ∈ selectedAt poll url params)
      (mem : raw ∈ documentRaws (poll.withText url params text) document)
      (rejected : poll.rejectSecretBearingRaw raw = .error secretError) :
      StopsFor poll url params text secretError

/-- One document in both loops. -/
theorem auditDocument_withText {selected : List SelectedDocument}
    (hselected : poll.selectedDocuments = .ok selected) (hmem : document ∈ selected)
    (hcalendar : Raising.DocumentInCalendar poll.runtime text)
    (h : SameOutside (changedIds poll url params text) rows other)
    (hnext : Raising.auditDocument poll rows document = .ok next) :
    (∃ next', Raising.auditDocument (poll.withText url params text) other document = .ok next' ∧
        SameOutside (changedIds poll url params text) next next') ∨
      ∃ error, Raising.auditDocument (poll.withText url params text) other document =
        .error error ∧ StopsFor poll url params text error := by
  obtain ⟨dump, hdump, hadded⟩ := Outcome.bind_eq_ok.mp hnext
  by_cases hat : IsAt url params document
  · -- the changed document adds only rows with changed ids, in either poll
    have hraws : documentRaws poll document = dumpRaws poll document dump := by
      unfold documentRaws
      rw [hdump]
    obtain ⟨dump', hdump'⟩ :=
      Raising.exists_fetchDump (@callTextFetcher_withText poll url text params document hat) hcalendar
    have hraws' : documentRaws (poll.withText url params text) document =
        dumpRaws poll document dump' := by
      unfold documentRaws
      rw [hdump']
      exact dumpRaws_withText dump'
    have hfirst : SameOutside (changedIds poll url params text) rows next := by
      have haudited : AuditedDump poll (changedIds poll url params text) rows
          (dumpRaws poll document dump) (poll.auditDump rows document dump) :=
        auditDump_audited rows dump fun raw hraw =>
          mem_changedIds hselected hmem hat (Or.inl (hraws ▸ hraw))
      rw [hadded] at haudited
      cases haudited with
      | added same => exact same
    have hstep : Raising.auditDocument (poll.withText url params text) other document =
        poll.auditDump other document dump' := by
      unfold Raising.auditDocument
      rw [hdump']
      exact auditDump_withText dump'
    have hsecond : AuditedDump poll (changedIds poll url params text) other
        (dumpRaws poll document dump') (poll.auditDump other document dump') :=
      auditDump_audited other dump' fun raw hraw =>
        mem_changedIds hselected hmem hat (Or.inr (hraws' ▸ hraw))
    rw [hstep]
    cases hresult : poll.auditDump other document dump' with
    | ok next' =>
      rw [hresult] at hsecond
      cases hsecond with
      | added same => exact Or.inl ⟨next', rfl, (hfirst.symm.trans h).trans same⟩
    | error error =>
      rw [hresult] at hsecond
      refine Or.inr ⟨error, rfl, ?_⟩
      cases hsecond with
      | atLimit => exact .atLimit
      | secret mem rejected =>
        have hdocument : document ∈ selectedAt poll url params := by
          unfold selectedAt
          rw [hselected]
          exact List.mem_filter.mpr ⟨hmem, decide_eq_true hat⟩
        exact .secret hdocument (hraws' ▸ mem) rejected
  · have hstep : Raising.auditDocument (poll.withText url params text) other document =
        poll.auditDump other document dump := by
      unfold Raising.auditDocument
      rw [fetchDump_withText hat, hdump]
      exact auditDump_withText dump
    rw [hstep]
    cases h.auditDump hadded with
    | inl hsame => exact Or.inl hsame
    | inr hlimit => exact Or.inr ⟨rowLimitError, hlimit, .atLimit⟩

/-- The rows of a poll and of the poll with another content of one document. -/
theorem fetchAuditedRows_withText (hfeed : (url, params) ≠ (poll.activeFeedUrl, []))
    (hcalendar : Raising.DocumentInCalendar poll.runtime text) {count : ℕ}
    (h : Raising.fetchAuditedRows poll = .ok (rows, count)) :
    (∃ other, Raising.fetchAuditedRows (poll.withText url params text) = .ok (other, count) ∧
        SameOutside (changedIds poll url params text) rows other) ∨
      ∃ error, Raising.fetchAuditedRows (poll.withText url params text) = .error error ∧
        StopsFor poll url params text error := by
  obtain ⟨selected, hselected, h⟩ := Outcome.bind_eq_ok.mp h
  obtain ⟨audited, hloop, h⟩ := Outcome.bind_eq_ok.mp h
  cases h
  unfold Raising.fetchAuditedRows
  rw [selectedDocuments_withText hfeed, hselected]
  cases Outcome.foldlM_related
      (fun document hmem _ _ _ hsame hstep =>
        auditDocument_withText hselected hmem hcalendar hsame hstep)
      (SameOutside.refl (changedIds poll url params text) {}) hloop with
  | inl hok =>
    obtain ⟨other, hother, hsame⟩ := hok
    refine Or.inl ⟨other, ?_, hsame⟩
    simp only [bind, Except.bind, hother]
    rfl
  | inr herror =>
    obtain ⟨error, herror, hstops⟩ := herror
    refine Or.inr ⟨error, ?_, hstops⟩
    simp only [bind, Except.bind, herror]

/-! ### Two documents -/

/-- The document of `message` with the first character of its identifier as a reference. -/
def escapedMessage : FloodMessage :=
  ⟨"&#116;est-secret", "Cancel", "ncdr@example.test,CAP-000,2026-06-15T02:00:00+00:00", [morning]⟩

def secretMessage : FloodMessage := { escapedMessage with identifier := "test-secret" }

/-- Libraries that know one document, and a second one that is read as another message. -/
def referenceRuntime (known written read : FloodMessage) : Runtime :=
  { documentRuntime [known] with
    fromstring := fun text =>
      if text = written.text then .ok read.element else (documentRuntime [known]).fromstring text }

def escapedRuntime : Runtime := referenceRuntime morningCancel escapedMessage secretMessage

/-- A cancellation, and a document that is not XML. -/
def mixedPoll : Poll :=
  { memberPoll [morningCancel, escapedMessage] 2 1781496000000000 with
    runtime := escapedRuntime
    callJsonFetcher := fun _ _ =>
      .ok (.object [("data", .list [.object [("capid", .text "CAP-001")],
        .object [("capid", .text "CAP-002")]])])
    callTextFetcher := fun _ params =>
      if params.lookup "capid" = some "CAP-001" then .ok morningCancel.text else .ok "" }

/-- What is computed of the poll and of its documents. -/
theorem mixedPoll_computed :
    mixedPoll.selectedDocuments =
        .ok [mixedPoll.dumpDocument "CAP-001", mixedPoll.dumpDocument "CAP-002"] ∧
      (mixedPoll.dumpDocument "CAP-001").dumpParams.lookup "capid" = some "CAP-001" ∧
      (mixedPoll.dumpDocument "CAP-002").dumpParams.lookup "capid" ≠ some "CAP-001" ∧
      validateTreeBounds secretMessage.element = .ok () ∧
      String.utf8Len escapedMessage.chars ≤ maxCapBytes ∧
      (morningCancel.chars.tails.any fun rest => mixedPoll.key.toList.isPrefixOf rest) = false ∧
      (escapedMessage.chars.tails.any fun rest => mixedPoll.key.toList.isPrefixOf rest) = false ∧
      morningCancel.chars ≠ escapedMessage.chars := by
  decide +kernel

theorem documentInCalendar_of_isoHours {runtime : Runtime}
    (hruntime : ∀ time, runtime.fromisoformat time = (isoHours.lookup time).map .aware)
    (text : String) : Raising.DocumentInCalendar runtime text := by
  intro alerts _ alert _ time _ instant hread
  rw [hruntime] at hread
  obtain ⟨hour, hlookup, hinstant⟩ := Option.map_eq_some_iff.mp hread
  cases hinstant
  have hall : ∀ hour ∈ isoHours, InCalendar hour.2 := by decide
  obtain ⟨before, after, hhours, -⟩ := List.lookup_eq_some_iff.mp hlookup
  apply hall (time, _)
  rw [hhours]
  exact List.mem_append_right _ List.mem_cons_self

theorem escapedRuntime_inCalendar (text : String) :
    Raising.DocumentInCalendar escapedRuntime text :=
  documentInCalendar_of_isoHours (fun _ => rfl) text

theorem referenceRuntime_fromstring (known written read : FloodMessage) (text : String) :
    (referenceRuntime known written read).fromstring text =
      if text = written.text then .ok read.element
      else (documentRuntime [known]).fromstring text := by
  simp only [referenceRuntime]

theorem mixedPoll_callTextFetcher (url : String) (params : List (String × String)) :
    mixedPoll.callTextFetcher url params =
      if params.lookup "capid" = some "CAP-001" then .ok morningCancel.text else .ok "" := rfl

theorem morningCancel_ne_escaped : morningCancel.text ≠ escapedMessage.text := by
  obtain ⟨-, -, -, -, -, -, -, hchars⟩ := mixedPoll_computed
  intro htext
  have hsame := congrArg String.toList htext
  rw [FloodMessage.toList_text, FloodMessage.toList_text] at hsame
  exact hchars hsame

theorem mixedPoll_cancel :
    Raising.fetchDump mixedPoll (mixedPoll.dumpDocument "CAP-001") =
      .ok (.parsed [cancelMessage]) := by
  obtain ⟨-, -, hbounds, hsize, -⟩ := limitedPoll_computed
  obtain ⟨-, hfirst, -, -, -, hsecret, -, -⟩ := mixedPoll_computed
  have hfetch : mixedPoll.callTextFetcher (mixedPoll.dumpDocument "CAP-001").capUrl
      (mixedPoll.dumpDocument "CAP-001").dumpParams = .ok morningCancel.text := by
    rw [mixedPoll_callTextFetcher, if_pos hfirst]
  have hroot : escapedRuntime.fromstring morningCancel.text = .ok morningCancel.element := by
    rw [escapedRuntime, referenceRuntime_fromstring, if_neg morningCancel_ne_escaped]
    exact fromstring_first morningCancel []
  rw [Raising.fetchDump_inCalendar hfetch (escapedRuntime_inCalendar _)]
  exact fetchDump_of_alert hfetch ((isSubtext_text _ _).trans hsecret)
    (documentAlerts_message ((FloodMessage.utf8ByteSize_text _).trans_le hsize) hroot hbounds)
    (parseMessage_cancel (fun _ => rfl)
      (isStripped_writtenTexts (by simp [writtenTexts]) : IsStripped "CAP-001"))

theorem text_ne_empty (message : FloodMessage) : message.text ≠ "" := by
  intro htext
  have hchars := congrArg String.toList htext
  rw [FloodMessage.toList_text] at hchars
  obtain ⟨-, hend⟩ := List.append_eq_nil_iff.mp hchars
  exact absurd hend (by decide)

theorem mixedPoll_failed :
    Raising.fetchDump mixedPoll (mixedPoll.dumpDocument "CAP-002") = .ok (.failed none) := by
  have hfetch : mixedPoll.callTextFetcher (mixedPoll.dumpDocument "CAP-002").capUrl
      (mixedPoll.dumpDocument "CAP-002").dumpParams = .ok "" := by
    rw [mixedPoll_callTextFetcher, if_neg mixedPoll_computed.2.2.1]
  have hroot : escapedRuntime.fromstring "" = .error "ParseError" := by
    rw [escapedRuntime, referenceRuntime_fromstring, if_neg (text_ne_empty escapedMessage).symm]
    simp [documentRuntime, text_ne_empty]
  have hmessages : parseCapDocument mixedPoll.runtime "" =
      .error ⟨"CAP XML could not be parsed: ParseError"⟩ := by
    have halerts : documentAlerts mixedPoll.runtime "" =
        .error ⟨"CAP XML could not be parsed: ParseError"⟩ := by
      unfold documentAlerts
      rw [if_neg (by simp), show mixedPoll.runtime = escapedRuntime from rfl, hroot]
      dsimp only
      congr 2
    unfold parseCapDocument
    rw [halerts]
    rfl
  rw [Raising.fetchDump_inCalendar hfetch (escapedRuntime_inCalendar _), Poll.fetchDump, hfetch]
  dsimp only
  rw [hmessages]
  dsimp only
  exact ite_self _

theorem fetchAuditedRows_of_pair {first second : SelectedDocument} {dump dump' : Poll.Dump}
    (hselected : poll.selectedDocuments = .ok [first, second])
    (hfirst : Raising.fetchDump poll first = .ok dump)
    (hsecond : Raising.fetchDump poll second = .ok dump') :
    Raising.fetchAuditedRows poll =
      (poll.auditDump {} first dump >>= fun rows => poll.auditDump rows second dump').map
        fun rows => (rows, 2) := by
  unfold Raising.fetchAuditedRows
  rw [hselected]
  change (Raising.auditDocument poll {} first >>= fun rows =>
    Raising.auditDocument poll rows second >>= pure) >>= _ = _
  unfold Raising.auditDocument
  rw [hfirst, hsecond]
  simp only [bind, Except.bind, pure, Except.pure]
  cases poll.auditDump {} first dump with
  | error error => rfl
  | ok rows =>
    dsimp only
    cases poll.auditDump rows second dump' <;> rfl

/-- The parsed `secretMessage`. -/
def readSecretMessage : ParsedCapMessage := { cancelMessage with identifier := "test-secret" }

theorem isAt_second : IsAt mixedPoll.dumpUrl (mixedPoll.dumpDocument "CAP-002").dumpParams
    (mixedPoll.dumpDocument "CAP-002") := ⟨rfl, rfl⟩

/-- The poll where the second document is the one with the reference. -/
def secretPoll : Poll :=
  mixedPoll.withText mixedPoll.dumpUrl (mixedPoll.dumpDocument "CAP-002").dumpParams
    escapedMessage.text

theorem secretPoll_secret :
    Raising.fetchDump secretPoll (mixedPoll.dumpDocument "CAP-002") =
      .ok (.parsed [readSecretMessage]) := by
  obtain ⟨-, -, -, hbounds, hsize, -, hsecret, -⟩ := mixedPoll_computed
  have hfetch : secretPoll.callTextFetcher (mixedPoll.dumpDocument "CAP-002").capUrl
      (mixedPoll.dumpDocument "CAP-002").dumpParams = .ok escapedMessage.text :=
    callTextFetcher_withText isAt_second
  have hroot : escapedRuntime.fromstring escapedMessage.text = .ok secretMessage.element := by
    rw [escapedRuntime, referenceRuntime_fromstring, if_pos rfl]
  rw [Raising.fetchDump_inCalendar hfetch (escapedRuntime_inCalendar _)]
  exact fetchDump_of_alert hfetch ((isSubtext_text _ _).trans hsecret)
    (documentAlerts_message ((FloodMessage.utf8ByteSize_text _).trans_le hsize) hroot hbounds)
    (parseMessage_cancel (fun _ => rfl)
      (isStripped_writtenTexts (by simp [writtenTexts]) : IsStripped "test-secret"))

theorem mixedPoll_rows :
    ∃ rows, Raising.fetchAuditedRows mixedPoll = .ok (rows, 2) ∧ rows.normalized ≠ [] := by
  have hkept : (match mixedPoll.auditDump {} (mixedPoll.dumpDocument "CAP-001")
        (.parsed [cancelMessage]) >>= fun rows =>
          mixedPoll.auditDump rows (mixedPoll.dumpDocument "CAP-002") (.failed none) with
      | .ok rows => !rows.normalized.isEmpty
      | .error _ => false) = true := by
    decide +kernel
  rw [fetchAuditedRows_of_pair mixedPoll_computed.1 mixedPoll_cancel mixedPoll_failed]
  split at hkept
  · rename_i rows hrows
    rw [hrows]
    refine ⟨rows, rfl, ?_⟩
    intro hempty
    rw [hempty] at hkept
    cases hkept
  · cases hkept

/-! ### Isolation -/

/-- A document is read within its limits or rejected, and another content of one document
leaves the rows of the others. -/
theorem one_document_leaves_the_others (hfeed : (url, params) ≠ (poll.activeFeedUrl, []))
    (hcalendar : Raising.DocumentInCalendar poll.runtime text) :
    (∀ xmlText messages, Raising.parseCapDocument poll.runtime xmlText = .ok messages →
        messages.length ≤ maxCapMessages ∧
          ∀ message ∈ messages, Raising.ReadMessage message) ∧
      (∀ failure, Raising.parseCapDocument poll.runtime (Raising.codePoints text) =
        .error failure → ∃ error, failure = .document error) ∧
      ∀ rows count, Raising.fetchAuditedRows poll = .ok (rows, count) →
        (∃ other, Raising.fetchAuditedRows (poll.withText url params text) = .ok (other, count) ∧
            SameOutside (changedIds poll url params text) rows other) ∨
          ∃ error, Raising.fetchAuditedRows (poll.withText url params text) = .error error ∧
            StopsFor poll url params text error := by
  refine ⟨?_, ?_, ?_⟩
  · intro xmlText messages hread
    exact Raising.parseCapDocument_limits hread
  · intro failure herror
    exact Raising.parseCapDocument_error hcalendar herror
  · intro rows count hrows
    exact fetchAuditedRows_withText hfeed hcalendar hrows

/-- The same text in both documents of `mixedPoll`. -/
theorem mixedPoll_leaves_the_others :
    ∃ rows, Raising.fetchAuditedRows mixedPoll = .ok (rows, 2) ∧ rows.normalized ≠ [] ∧
      ((∃ other, Raising.fetchAuditedRows (mixedPoll.withText mixedPoll.dumpUrl
            (mixedPoll.dumpDocument "CAP-002").dumpParams morningCancel.text) = .ok (other, 2) ∧
          SameOutside (changedIds mixedPoll mixedPoll.dumpUrl
            (mixedPoll.dumpDocument "CAP-002").dumpParams morningCancel.text) rows other) ∨
        ∃ error, Raising.fetchAuditedRows (mixedPoll.withText mixedPoll.dumpUrl
            (mixedPoll.dumpDocument "CAP-002").dumpParams morningCancel.text) = .error error ∧
          StopsFor mixedPoll mixedPoll.dumpUrl (mixedPoll.dumpDocument "CAP-002").dumpParams
            morningCancel.text error) := by
  obtain ⟨rows, hrows, hne⟩ := mixedPoll_rows
  obtain ⟨-, -, hothers⟩ :=
    @one_document_leaves_the_others mixedPoll mixedPoll.dumpUrl morningCancel.text
      (mixedPoll.dumpDocument "CAP-002").dumpParams (by decide +kernel)
      (escapedRuntime_inCalendar morningCancel.text)
  exact ⟨rows, hrows, hne, hothers rows 2 hrows⟩

/-- The rows of the cancellation are lost where the second document carries the credential. -/
theorem credential_in_one_document_stops_the_poll :
    (∃ rows, Raising.fetchAuditedRows mixedPoll = .ok (rows, 2) ∧ rows.normalized ≠ []) ∧
      Raising.fetchAuditedRows secretPoll = .error secretError ∧
      Raising.DocumentInCalendar mixedPoll.runtime escapedMessage.text := by
  have hfirst : Raising.fetchDump secretPoll (mixedPoll.dumpDocument "CAP-001") =
      .ok (.parsed [cancelMessage]) := by
    refine (fetchDump_withText ?_).trans mixedPoll_cancel
    decide +kernel
  have hselected : secretPoll.selectedDocuments =
      .ok [mixedPoll.dumpDocument "CAP-001", mixedPoll.dumpDocument "CAP-002"] :=
    (selectedDocuments_withText (by decide +kernel)).trans mixedPoll_computed.1
  refine ⟨mixedPoll_rows, ?_, escapedRuntime_inCalendar _⟩
  have hstops : (match secretPoll.auditDump {} (mixedPoll.dumpDocument "CAP-001")
        (.parsed [cancelMessage]) >>= fun rows =>
          secretPoll.auditDump rows (mixedPoll.dumpDocument "CAP-002")
            (.parsed [readSecretMessage]) with
      | .ok _ => false
      | .error error => error = secretError) = true := by
    decide +kernel
  rw [fetchAuditedRows_of_pair hselected hfirst secretPoll_secret]
  split at hstops
  · cases hstops
  · rename_i error herror
    rw [herror, of_decide_eq_true hstops]
    rfl

end FloodRisk.Ncdr
