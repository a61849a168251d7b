import FloodRisk.Ncdr.AllClear

/-!
# The live warnings of a poll

A warning is in force by the times of its own `info`, while `_parse_message`
gives every area the times of the first one.
-/

namespace FloodRisk.Ncdr
open OrderBy

/-! ### Warnings of the fetched documents -/

/-- The block is in force: its onset or effective time has come, its expiry has
not. -/
def isBlockInForce (runtime : Runtime) (fetchedAt : ℤ) (info : Element) : Bool :=
  match optionalDatetime runtime info "onset", optionalDatetime runtime info "effective",
      optionalDatetime runtime info "expires" with
  | .ok onset, .ok effective, .ok (some expires) =>
      (onset.or effective).any (· ≤ fetchedAt) && fetchedAt < expires
  | _, _, _ => false

/-- The row states the message and the township. -/
structure StatesWarning (raw : RawSourceItem) (message : ParsedCapMessage) (adminCode : String) :
    Prop where
  sender : getMember raw.payload "cap_sender" = .text message.sender
  identifier : getMember raw.payload "cap_identifier" = .text message.identifier
  sent : getMember raw.payload "cap_sent" = .instant message.sent
  messageType : getMember raw.payload "cap_message_type" = .text message.messageType
  adminCode : getMember raw.payload "admin_code" = .text adminCode

namespace Poll

variable (poll : Poll)

/-- The message and the area are those of a block in force, in a document that
was fetched. -/
structure HasBlock (document : SelectedDocument) (message : ParsedCapMessage)
    (area : ParsedCapArea) : Prop where
  block : ∃ xmlText alerts, poll.callTextFetcher document.capUrl document.dumpParams = .ok xmlText ∧
    documentAlerts poll.runtime xmlText = .ok alerts ∧
    ∃ alert ∈ alerts, parseMessage poll.runtime alert = .ok message ∧
    ∃ info ∈ childrenOf alert "info", isBlockInForce poll.runtime poll.fetchedAt info = true ∧
    ∃ element ∈ childrenOf info "area", parseArea poll.runtime element = .ok area

/-- An area of an Actual, Public Alert or Update, in force by its own block,
with one reviewed township and no other geometry. -/
structure LiveArea (selected : List SelectedDocument) (message : ParsedCapMessage)
    (area : ParsedCapArea) (adminCode : String) : Prop where
  inForce : ∃ document ∈ selected, poll.HasBlock document message area
  actual : message.status = "Actual"
  isPublic : message.scope = "Public"
  warning : message.messageType = "Alert" ∨ message.messageType = "Update"
  township : ∃ name value, reviewedTownshipGeocode (some area) = some (name, value) ∧
    adminCode = value ++ "0"
  noPolygon : area.polygon = none
  noCircle : area.circle = none

def AllParsed (selected : List SelectedDocument) : Prop :=
  ∀ document ∈ selected, ∃ messages, poll.fetchDump document = .ok (.parsed messages)

/-- A normalized evidence of the township of the message. -/
def IsWarned (result : AdapterRunResult) (message : ParsedCapMessage) (adminCode : String) : Prop :=
  ∃ evidence ∈ result.normalized, evidence.sourceId = areaSourceId poll.runtime message adminCode ∧
    ∃ raw ∈ result.fetched, raw.sourceId = evidence.sourceId ∧ StatesWarning raw message adminCode

/-- Exactly one fetched row has the source id, and it is either normalized or a
source rejection. -/
def Represents (result : AdapterRunResult) (sourceId : String) : Prop :=
  (∃! raw, raw ∈ result.fetched ∧ raw.sourceId = sourceId) ∧
    Xor (sourceId ∈ result.normalized.map NormalizedEvidence.sourceId)
      (sourceId ∈ result.sourceRejections.map SourceRejection.sourceId)

structure KeepsWarnings (selected : List SelectedDocument) (result : AdapterRunResult) : Prop where
  warned : ∀ message area adminCode, poll.LiveArea selected message area adminCode →
    poll.IsWarned result message adminCode
  represented : ∀ document ∈ selected, ∀ messages,
    poll.fetchDump document = .ok (.parsed messages) → ∀ pair ∈ auditPairs messages,
      ∃ row, poll.prepareRow document pair = .ok row ∧ Represents result row.1.sourceId
  distinct : (result.fetched.map RawSourceItem.sourceId).Nodup

/-- A poll whose selected documents are all fetched and parsed keeps their
warnings, and `AdapterRunResult` does not reject its result. -/
def WarningsKept : Prop :=
  ∀ selected, poll.selectedDocuments = .ok selected → poll.AllParsed selected →
    (∀ message, poll.run ≠ .error (.value message)) ∧
      ∀ result, poll.run = .ok result → poll.KeepsWarnings selected result

/-! ### What decides -/

/-- Every message passes the lifecycle checks, by the times of its first block. -/
def LifecyclesValid (selected : List SelectedDocument) : Prop :=
  ∀ document ∈ selected, ∀ messages, poll.fetchDump document = .ok (.parsed messages) →
    ∀ message ∈ messages, ∃ times, messageLifecycle message = .ok times

/-- The first row with the source id of a live area passes the audit, by the
times of its own first block, and states the same warning. -/
def FirstRowsAccepted (selected : List SelectedDocument) : Prop :=
  ∀ message area adminCode, poll.LiveArea selected message area adminCode →
    ∀ first, (rowsOf poll selected).find? (fun row =>
        row.1.sourceId = areaSourceId poll.runtime message adminCode) = some first →
      first.2 = none ∧ StatesWarning first.1 message adminCode

/-- The run comes to its result: it returns, or `AdapterRunResult` raises. -/
def ReachesResult : Prop :=
  (∃ result, poll.run = .ok result) ∨ ∃ message, poll.run = .error (.value message)

end Poll

variable {poll : Poll} {selected : List SelectedDocument} {document : SelectedDocument}
  {message : ParsedCapMessage} {area : ParsedCapArea} {adminCode : String}

/-! ### From a block to its row -/

theorem parseMessage_areas {runtime : Runtime} {alert : Element}
    (h : parseMessage runtime alert = .ok message) :
    ((childrenOf alert "info").flatMap fun parent => childrenOf parent "area").mapM
      (parseArea runtime) = .ok message.areas := by
  unfold parseMessage at h
  obtain ⟨sender, -, h⟩ := Outcome.bind_eq_ok.mp h
  obtain ⟨identifier, -, h⟩ := Outcome.bind_eq_ok.mp h
  obtain ⟨sent, -, h⟩ := Outcome.bind_eq_ok.mp h
  obtain ⟨status, -, h⟩ := Outcome.bind_eq_ok.mp h
  obtain ⟨messageType, -, h⟩ := Outcome.bind_eq_ok.mp h
  obtain ⟨scope, -, h⟩ := Outcome.bind_eq_ok.mp h
  simp only at h
  split at h
  · exact absurd h (by simp)
  · rename_i info rest hinfos
    obtain ⟨event, -, h⟩ := Outcome.bind_eq_ok.mp h
    obtain ⟨areas, hareas, h⟩ := Outcome.bind_eq_ok.mp h
    split at h
    · exact absurd h (by simp)
    · obtain ⟨effective, -, h⟩ := Outcome.bind_eq_ok.mp h
      obtain ⟨onset, -, h⟩ := Outcome.bind_eq_ok.mp h
      obtain ⟨expires, -, h⟩ := Outcome.bind_eq_ok.mp h
      obtain ⟨references, -, h⟩ := Outcome.bind_eq_ok.mp h
      rw [← Except.ok.inj h]
      exact hareas

theorem fetchDump_eq_parsed {messages : List ParsedCapMessage}
    (h : poll.fetchDump document = .ok (.parsed messages)) :
    ∃ xmlText, poll.callTextFetcher document.capUrl document.dumpParams = .ok xmlText ∧
      parseCapDocument poll.runtime xmlText = .ok messages := by
  unfold Poll.fetchDump at h
  split at h
  · exact absurd h (by simp)
  · split at h
    · exact absurd h (by simp)
    · exact absurd h (by simp)
  · rename_i xmlText hfetch
    split at h
    · exact absurd h (by simp)
    · split at h
      · rename_i found hparse
        obtain rfl := Poll.Dump.parsed.inj (Except.ok.inj h)
        exact ⟨xmlText, hfetch, hparse⟩
      · exact absurd h (by simp)

theorem mem_auditPairs_of_block {messages : List ParsedCapMessage}
    (h : poll.HasBlock document message area)
    (hdump : poll.fetchDump document = .ok (.parsed messages)) :
    (message, some area) ∈ Poll.auditPairs messages := by
  obtain ⟨xmlText, alerts, hfetch, halerts, alert, halert, hmessage, info, hinfo, -, element,
    helement, harea⟩ := h.block
  obtain ⟨xmlText', hfetch', hparse⟩ := fetchDump_eq_parsed hdump
  obtain rfl := Except.ok.inj (hfetch.symm.trans hfetch')
  obtain ⟨alerts', halerts', hmessages⟩ := Outcome.bind_eq_ok.mp hparse
  obtain rfl := Except.ok.inj (halerts.symm.trans halerts')
  obtain ⟨parsed, hparsed, hsame⟩ := Outcome.mapM_mem hmessages halert
  obtain rfl := Except.ok.inj (hmessage.symm.trans hsame)
  obtain ⟨parsedArea, hparsedArea, hsameArea⟩ := Outcome.mapM_mem (parseMessage_areas hmessage)
    (List.mem_flatMap.mpr ⟨info, hinfo, helement⟩)
  obtain rfl := Except.ok.inj (harea.symm.trans hsameArea)
  refine List.mem_flatMap.mpr ⟨message, hparsed, List.mem_map_of_mem ?_⟩
  have hne : message.areas.isEmpty = false := by
    rw [List.isEmpty_eq_false_iff]
    exact List.ne_nil_of_mem hparsedArea
  rw [Poll.auditAreas, hne]
  exact List.mem_map_of_mem hparsedArea

theorem auditSourceId_live (h : poll.LiveArea selected message area adminCode) :
    auditSourceId poll.runtime message (some area) =
      areaSourceId poll.runtime message adminCode := by
  obtain ⟨name, value, hreviewed, rfl⟩ := h.township
  simp [auditSourceId, hreviewed, h.noPolygon, h.noCircle]

/-! ### The rows of a poll whose messages all prepare -/

theorem prepareRow_of_lifecycle (document : SelectedDocument)
    {pair : ParsedCapMessage × Option ParsedCapArea} {times : ℤ × ℤ}
    (h : messageLifecycle pair.1 = .ok times) : ∃ row, poll.prepareRow document pair = .ok row := by
  unfold Poll.prepareRow prepareAuditRow
  rw [h]
  exact ⟨_, rfl⟩

theorem prepared_of_lifecycles (hparsed : poll.AllParsed selected)
    (hvalid : poll.LifecyclesValid selected) :
    ∀ document ∈ selected, (preparedRows poll document).isSome := by
  intro document hdocument
  obtain ⟨messages, hdump⟩ := hparsed document hdocument
  obtain ⟨prepared, hprepared⟩ := Outcome.exists_mapM (f := poll.prepareRow document)
    (l := Poll.auditPairs messages) fun pair hpair => by
      obtain ⟨message, hmessage, harea⟩ := List.mem_flatMap.mp hpair
      obtain ⟨area, -, rfl⟩ := List.mem_map.mp harea
      obtain ⟨times, htimes⟩ := hvalid document hdocument messages hdump message hmessage
      exact prepareRow_of_lifecycle document htimes
  have hrows : poll.prepareRows document messages = .ok prepared := hprepared
  rw [preparedRows, hdump]
  simp only [hrows]
  rfl

/-! ### What the result holds of a row -/

section Result

variable {rows : AuditedRows} {result : AdapterRunResult} {done : List AuditRow} {row : AuditRow}

/-- The result is made of the first rows. -/
structure MadeOf (runtime : Runtime) (done : List AuditRow) (result : AdapterRunResult) : Prop where
  fetched : result.fetched = (firstRows done).map Prod.fst
  normalized : result.normalized = (firstRows done).filterMap (evidenceOf runtime)
  rejections : result.sourceRejections = (firstRows done).filterMap (rejectionOf runtime)

theorem firstRow_of_normalized {runtime : Runtime} (h : MadeOf runtime done result)
    (hrow : row ∈ firstRows done) :
    row.1.sourceId ∈ result.normalized.map NormalizedEvidence.sourceId ↔
      (evidenceOf runtime row).isSome := by
  rw [h.normalized]
  constructor
  · intro hmem
    obtain ⟨evidence, hevidence, hid⟩ := List.mem_map.mp hmem
    obtain ⟨other, hother, hmade⟩ := List.mem_filterMap.mp hevidence
    have hsame : other = row :=
      distinctBy_unique hother hrow ((evidenceOf_sourceId hmade).2.symm.trans hid)
    rw [← hsame, hmade]
    rfl
  · intro hsome
    obtain ⟨evidence, hevidence⟩ := Option.isSome_iff_exists.mp hsome
    rw [← (evidenceOf_sourceId hevidence).2]
    exact List.mem_map_of_mem (List.mem_filterMap.mpr ⟨row, hrow, hevidence⟩)

theorem firstRow_of_rejected {runtime : Runtime} (h : MadeOf runtime done result)
    (hrow : row ∈ firstRows done) :
    row.1.sourceId ∈ result.sourceRejections.map SourceRejection.sourceId ↔
      (rejectionOf runtime row).isSome := by
  rw [h.rejections]
  constructor
  · intro hmem
    obtain ⟨rejection, hrejection, hid⟩ := List.mem_map.mp hmem
    obtain ⟨other, hother, hmade⟩ := List.mem_filterMap.mp hrejection
    have hsame : other = row :=
      distinctBy_unique hother hrow ((rejectionOf_sourceId hmade).symm.trans hid)
    rw [← hsame, hmade]
    rfl
  · intro hsome
    obtain ⟨rejection, hrejection⟩ := Option.isSome_iff_exists.mp hsome
    rw [← rejectionOf_sourceId hrejection]
    exact List.mem_map_of_mem (List.mem_filterMap.mpr ⟨row, hrow, hrejection⟩)

theorem evidence_or_rejection (runtime : Runtime) (row : AuditRow) :
    Xor (evidenceOf runtime row).isSome (rejectionOf runtime row).isSome := by
  unfold evidenceOf rejectionOf
  cases row.2 with
  | some reason => simp [Xor]
  | none => cases normalizeReviewedRaw runtime row.1 <;> simp [Xor]

/-- Every row is represented through the first of its source id. -/
theorem represents_of_mem {runtime : Runtime} (h : MadeOf runtime done result) (hrow : row ∈ done) :
    Poll.Represents result row.1.sourceId := by
  obtain ⟨first, hfirst, hid, -⟩ := exists_first (fun row : AuditRow => row.1.sourceId) hrow
  rw [← hid]
  refine ⟨⟨first.1, ⟨?_, rfl⟩, ?_⟩, ?_⟩
  · rw [h.fetched]
    exact List.mem_map_of_mem hfirst
  · rintro raw ⟨hraw, hsame⟩
    rw [h.fetched] at hraw
    obtain ⟨other, hother, rfl⟩ := List.mem_map.mp hraw
    rw [distinctBy_unique hother hfirst hsame]
  · rw [firstRow_of_normalized h hfirst, firstRow_of_rejected h hfirst]
    exact evidence_or_rejection runtime first

theorem fetched_distinct {runtime : Runtime} (h : MadeOf runtime done result) :
    (result.fetched.map RawSourceItem.sourceId).Nodup := by
  rw [h.fetched, List.map_map]
  exact distinctBy_keysNodup (fun row : AuditRow => row.1.sourceId) done

/-! ### `AdapterRunResult` does not reject the rows -/

theorem makeRunResult_isOk (hkept : Kept poll.runtime done rows)
    (hbound : done.length ≤ maxNcdrAuditedRows) (noActiveEvent : Bool) :
    ∃ result, Poll.makeRunResult rows.fetched rows.normalized
      (rows.rejections.map SourceRejection.sourceId) rows.rejections noActiveEvent = .ok result := by
  have hmade : ∀ row rejection, rejectionOf poll.runtime row = some rejection →
      rejection.sourceId = row.1.sourceId := fun _ _ h => rejectionOf_sourceId h
  have hkeys := filterMap_keys_sublist (fun row : AuditRow => row.1.sourceId)
    SourceRejection.sourceId hmade (firstRows done)
  have bounded : rows.rejections.length ≤ 256 := by
    rw [hkept.rejections]
    exact (List.length_filterMap_le _ _).trans
      ((distinctBy_sublist _ done).length_le.trans hbound)
  have distinct : (rows.rejections.map SourceRejection.sourceId).Nodup := by
    rw [hkept.rejections]
    exact hkeys.nodup (distinctBy_keysNodup _ done)
  have listed : ∀ rejection ∈ rows.rejections,
      rejection.sourceId ∈ rows.rejections.map SourceRejection.sourceId :=
    fun _ hmem => List.mem_map_of_mem hmem
  have disjoint : ∀ rejection ∈ rows.rejections, ∀ evidence ∈ rows.normalized,
      rejection.sourceId ≠ evidence.sourceId := by
    rw [hkept.rejections, hkept.normalized]
    intro rejection hrejection evidence hevidence hsame
    obtain ⟨first, hfirst, hrejected⟩ := List.mem_filterMap.mp hrejection
    obtain ⟨second, hsecond, hnormalized⟩ := List.mem_filterMap.mp hevidence
    rw [rejectionOf_sourceId hrejected, (evidenceOf_sourceId hnormalized).2] at hsame
    obtain rfl := distinctBy_unique hfirst hsecond hsame
    rcases evidence_or_rejection poll.runtime first with ⟨-, hnone⟩ | ⟨-, hnone⟩
    · exact hnone (by rw [hrejected]; rfl)
    · exact hnone (by rw [hnormalized]; rfl)
  unfold Poll.makeRunResult
  rw [dif_pos bounded, dif_pos distinct, dif_pos listed, dif_pos disjoint]
  exact ⟨_, rfl⟩

theorem rejectSecret_ne_value {raw : RawSourceItem} {text : String} :
    poll.rejectSecretBearingRaw raw ≠ .error (.value text) := by
  unfold Poll.rejectSecretBearingRaw
  split <;> simp

theorem auditDocument_ne_value (hparsed : ∃ messages, poll.fetchDump document = .ok (.parsed messages))
    {text : String} : poll.auditDocument rows document ≠ .error (.value text) := by
  intro h
  obtain ⟨messages, hdump⟩ := hparsed
  have hfailed : poll.addFailedDump rows document none ≠ .error (.value text) := by
    unfold Poll.addFailedDump
    split
    · simp
    · intro hadd
      cases hsecret : poll.rejectSecretBearingRaw (poll.failureRaw document none) with
      | ok _ =>
          simp only [hsecret] at hadd
          exact absurd hadd (by simp [bind, Except.bind, pure, Except.pure])
      | error error =>
          simp only [hsecret] at hadd
          rw [Except.error.inj hadd] at hsecret
          exact rejectSecret_ne_value hsecret
  unfold Poll.auditDocument at h
  rw [hdump] at h
  change (if maxNcdrAuditedRows < rows.auditedRowCount + Poll.rowCount messages then _ else _) = _ at h
  split at h
  · exact absurd h (by simp)
  · split at h
    · rename_i prepared _
      unfold Poll.addDump at h
      cases hsecrets : prepared.forM fun row => poll.rejectSecretBearingRaw row.1 with
      | ok _ =>
          rw [hsecrets] at h
          exact absurd h (by simp [bind, Except.bind, pure, Except.pure])
      | error error =>
          rw [hsecrets] at h
          rw [Except.error.inj h] at hsecrets
          obtain ⟨row, -, hrow⟩ := Outcome.forM_eq_error hsecrets
          exact rejectSecret_ne_value hrow
    · exact hfailed h

theorem run_ne_value (hselected : poll.selectedDocuments = .ok selected)
    (hparsed : poll.AllParsed selected) (hvalid : poll.LifecyclesValid selected) (text : String) :
    poll.run ≠ .error (.value text) := by
  intro h
  unfold Poll.run Poll.fetchAuditedRows at h
  rw [hselected] at h
  cases hloop : selected.foldlM poll.auditDocument {} with
  | error error =>
      simp only [bind, Except.bind, hloop] at h
      rw [Except.error.inj h] at hloop
      obtain ⟨document, hdocument, state, hstep⟩ := Outcome.foldlM_eq_error hloop
      exact auditDocument_ne_value (hparsed document hdocument) hstep
  | ok rows =>
      simp only [bind, Except.bind, hloop, pure, Except.pure] at h
      obtain ⟨hkept, -, -, hbound⟩ := (audited_of_foldlM hloop).prepared
        (prepared_of_lifecycles hparsed hvalid)
      unfold Poll.resultOf at h
      split at h
      · exact absurd h (by simp)
      · obtain ⟨result, hresult⟩ :=
          makeRunResult_isOk hkept hbound (Poll.isNoActiveEvent rows selected.length)
        rw [hresult] at h
        exact absurd h (by simp)

end Result

/-! ### What a run keeps, and when -/

section Condition

variable {rows : AuditedRows} {result : AdapterRunResult}

theorem madeOf_completes (h : Completes poll selected rows result)
    (hall : ∀ document ∈ selected, (preparedRows poll document).isSome) :
    MadeOf poll.runtime (rowsOf poll selected) result := by
  obtain ⟨hkept, -, -, -⟩ := h.audited.prepared hall
  exact ⟨h.fetched.trans hkept.fetched, h.normalized.trans hkept.normalized,
    h.rejections.trans hkept.rejections⟩

theorem lifecycles_of_represented (hkeeps : poll.KeepsWarnings selected result) :
    poll.LifecyclesValid selected := by
  intro document hdocument messages hdump message hmessage
  obtain ⟨area, hpair⟩ := exists_pair hmessage
  obtain ⟨row, hrow, -⟩ := hkeeps.represented document hdocument messages hdump _ hpair
  obtain ⟨activeFrom, expires, htimes, -⟩ := (prepareAuditRow_eq_ok hrow).reason
  exact ⟨_, htimes⟩

theorem firstRows_of_warned (hmade : MadeOf poll.runtime (rowsOf poll selected) result)
    (hkeeps : poll.KeepsWarnings selected result) : poll.FirstRowsAccepted selected := by
  intro message area adminCode hlive first hfound
  obtain ⟨evidence, hevidence, hid, raw, hraw, hsame, hstates⟩ :=
    hkeeps.warned message area adminCode hlive
  have hkey : first.1.sourceId = areaSourceId poll.runtime message adminCode := by
    simpa using List.find?_some hfound
  have hfirst : first ∈ firstRows (rowsOf poll selected) := by
    refine mem_distinctBy_iff_find.mpr ?_
    rw [hkey]
    exact hfound
  rw [hmade.normalized] at hevidence
  rw [hmade.fetched] at hraw
  obtain ⟨accepted, haccepted, hmadeOf⟩ := List.mem_filterMap.mp hevidence
  obtain ⟨other, hother, rfl⟩ := List.mem_map.mp hraw
  obtain ⟨hreason, hacceptedId⟩ := evidenceOf_sourceId hmadeOf
  have hacceptedFirst : accepted = first :=
    distinctBy_unique haccepted hfirst (by rw [← hacceptedId, hid, hkey])
  have hotherFirst : other = first :=
    distinctBy_unique hother hfirst (by rw [hsame, hid, hkey])
  rw [hacceptedFirst] at hreason
  rw [hotherFirst] at hstates
  exact ⟨hreason, hstates⟩

theorem warned_of_firstRows (hmade : MadeOf poll.runtime (rowsOf poll selected) result)
    (hall : ∀ document ∈ selected, (preparedRows poll document).isSome)
    (hparsed : poll.AllParsed selected) (haccepted : poll.FirstRowsAccepted selected)
    (hlive : poll.LiveArea selected message area adminCode) :
    poll.IsWarned result message adminCode := by
  obtain ⟨document, hdocument, hblock⟩ := hlive.inForce
  obtain ⟨messages, hdump⟩ := hparsed document hdocument
  obtain ⟨row, hrow, hfrom⟩ :=
    exists_row hdocument (hall document hdocument) hdump (mem_auditPairs_of_block hblock hdump)
  have hid : row.1.sourceId = areaSourceId poll.runtime message adminCode :=
    hfrom.sourceId.trans (auditSourceId_live hlive)
  obtain ⟨first, hfirst, hsame, hfound⟩ :=
    exists_first (fun row : AuditRow => row.1.sourceId) hrow
  rw [hid] at hsame hfound
  obtain ⟨hreason, hstates⟩ := haccepted message area adminCode hlive first hfound
  obtain ⟨_, _, _, _, pair, _, hprepared⟩ := preparedFrom_of_mem (mem_of_distinctBy hfirst)
  obtain ⟨evidence, hevidence, hevidenceId⟩ := normalize_accepted hprepared hreason
  have hevidenceOf : evidenceOf poll.runtime first = some evidence := by
    unfold evidenceOf
    rw [hreason]
    exact hevidence
  refine ⟨evidence, ?_, hevidenceId.trans hsame, first.1, ?_, hevidenceId.symm, hstates⟩
  · rw [hmade.normalized]
    exact List.mem_filterMap.mpr ⟨first, hfirst, hevidenceOf⟩
  · rw [hmade.fetched]
    exact List.mem_map_of_mem hfirst

theorem represented_of_prepared (hmade : MadeOf poll.runtime (rowsOf poll selected) result)
    (hall : ∀ document ∈ selected, (preparedRows poll document).isSome)
    {messages : List ParsedCapMessage} (hdocument : document ∈ selected)
    (hdump : poll.fetchDump document = .ok (.parsed messages))
    {pair : ParsedCapMessage × Option ParsedCapArea} (hpair : pair ∈ Poll.auditPairs messages) :
    ∃ row, poll.prepareRow document pair = .ok row ∧ Poll.Represents result row.1.sourceId := by
  obtain ⟨prepared, hsome⟩ := Option.isSome_iff_exists.mp (hall document hdocument)
  obtain ⟨found, hfound, hrows⟩ := preparedRows_eq_some hsome
  obtain rfl : messages = found := by
    rw [hdump] at hfound
    exact Poll.Dump.parsed.inj (Except.ok.inj hfound)
  obtain ⟨row, hrow, hprepare⟩ := Outcome.mapM_mem hrows hpair
  refine ⟨row, hprepare, represents_of_mem hmade (List.mem_flatMap.mpr ⟨document, hdocument, ?_⟩)⟩
  rw [hsome]
  exact hrow

/-- The warnings are kept exactly when every message passes the lifecycle
checks and the first row of each live area's source id passes the audit and
states the same warning. -/
theorem warningsKept_iff (poll : Poll) :
    poll.WarningsKept ↔
      ∀ selected, poll.selectedDocuments = .ok selected → poll.AllParsed selected →
        poll.ReachesResult → poll.LifecyclesValid selected ∧ poll.FirstRowsAccepted selected := by
  constructor
  · intro hkept selected hselected hparsed hreaches
    obtain ⟨hraises, hresult⟩ := hkept selected hselected hparsed
    rcases hreaches with ⟨result, hrun⟩ | ⟨text, hrun⟩
    · have hkeeps := hresult result hrun
      have hvalid := lifecycles_of_represented hkeeps
      obtain ⟨selected', rows, hcompletes⟩ := exists_completes hrun
      obtain rfl := Except.ok.inj (hselected.symm.trans hcompletes.selection)
      have hmade := madeOf_completes hcompletes (prepared_of_lifecycles hparsed hvalid)
      exact ⟨hvalid, firstRows_of_warned hmade hkeeps⟩
    · exact absurd hrun (hraises text)
  · intro hcondition selected hselected hparsed
    refine ⟨?_, ?_⟩
    · intro text hrun
      have hvalid := (hcondition selected hselected hparsed (Or.inr ⟨text, hrun⟩)).1
      exact run_ne_value hselected hparsed hvalid text hrun
    · intro result hrun
      obtain ⟨hvalid, haccepted⟩ := hcondition selected hselected hparsed (Or.inl ⟨result, hrun⟩)
      obtain ⟨selected', rows, hcompletes⟩ := exists_completes hrun
      obtain rfl := Except.ok.inj (hselected.symm.trans hcompletes.selection)
      have hall := prepared_of_lifecycles hparsed hvalid
      have hmade := madeOf_completes hcompletes hall
      refine ⟨?_, ?_, fetched_distinct hmade⟩
      · intro message area adminCode hlive
        exact warned_of_firstRows hmade hall hparsed haccepted hlive
      · intro document hdocument messages hdump pair hpair
        exact represented_of_prepared hmade hall hdocument hdump hpair

end Condition

/-! ### A second block in force -/

/-- A block that has expired at four o'clock, and one that holds until six. -/
def earlyHours : TownshipInfo :=
  ⟨"2026-06-15T02:00:00+00:00", "2026-06-15T04:00:00+00:00", "6703500"⟩

def lateHours : TownshipInfo :=
  ⟨"2026-06-15T04:00:00+00:00", "2026-06-15T06:00:00+00:00", "6703600"⟩

def secondBlockAlert : FloodMessage := ⟨"CAP-001", "Alert", "", [earlyHours, lateHours]⟩

def secondBlockPoll : Poll := memberPoll [secondBlockAlert] 200 1781496000000000

def lateArea : ParsedCapArea := ⟨"6703600", [("TOWNCODE", "6703600")], none, none⟩

/-- The message has the times of the early block. -/
def secondBlockMessage : ParsedCapMessage where
  sender := "ncdr@example.test"
  identifier := "CAP-001"
  sent := 1781488800000000
  status := "Actual"
  messageType := "Alert"
  scope := "Public"
  event := "淹水"
  headline := none
  description := none
  effective := some 1781488800000000
  onset := none
  expires := some 1781496000000000
  references := []
  areas := [⟨"6703500", [("TOWNCODE", "6703500")], none, none⟩, lateArea]

/-- What is computed of the poll and of its document. -/
theorem secondBlock_computed :
    secondBlockPoll.selectedDocuments = .ok [secondBlockPoll.dumpDocument "CAP-001"] ∧
      validateTreeBounds secondBlockAlert.element = .ok () ∧
      String.utf8Len secondBlockAlert.chars ≤ maxCapBytes ∧
      (secondBlockAlert.chars.tails.any fun rest => secondBlockPoll.key.toList.isPrefixOf rest) =
        false ∧
      parseReferences secondBlockPoll.runtime (optionalText (some secondBlockAlert.references)) =
        .ok [] ∧
      isBlockInForce secondBlockPoll.runtime secondBlockPoll.fetchedAt lateHours.element = true := by
  decide +kernel

theorem secondBlock_message :
    parseMessage secondBlockPoll.runtime secondBlockAlert.element = .ok secondBlockMessage := by
  obtain ⟨-, -, -, -, hreferences, -⟩ := secondBlock_computed
  refine parseMessage_element rfl (show 2 ≤ maxAreasPerMessage by decide)
    (isStripped_writtenTexts (by simp [writtenTexts, secondBlockAlert]))
    (isStripped_writtenTexts (by simp [writtenTexts, secondBlockAlert])) ?_
    (isStripped_writtenTexts (by simp [writtenTexts, earlyHours]))
    (isStripped_writtenTexts (by simp [writtenTexts, earlyHours])) rfl rfl rfl hreferences
  intro info hinfo
  rcases List.mem_cons.mp hinfo with rfl | hinfo
  · exact isStripped_writtenTexts (by simp [writtenTexts, earlyHours])
  · rw [List.mem_singleton.mp hinfo]
    exact isStripped_writtenTexts (by simp [writtenTexts, lateHours])

theorem secondBlock_fetched :
    secondBlockPoll.callTextFetcher (secondBlockPoll.dumpDocument "CAP-001").capUrl
      (secondBlockPoll.dumpDocument "CAP-001").dumpParams = .ok secondBlockAlert.text :=
  callTextFetcher_first secondBlockAlert _ _ _ _

theorem secondBlock_alerts :
    documentAlerts secondBlockPoll.runtime secondBlockAlert.text =
      .ok [secondBlockAlert.element] := by
  obtain ⟨-, hbounds, hsize, -, -, -⟩ := secondBlock_computed
  have hruntime : secondBlockPoll.runtime = documentRuntime [secondBlockAlert] := rfl
  refine documentAlerts_message ((FloodMessage.utf8ByteSize_text _).trans_le hsize) ?_ hbounds
  rw [hruntime]
  exact fromstring_first secondBlockAlert _

theorem secondBlock_dump : secondBlockPoll.fetchDump (secondBlockPoll.dumpDocument "CAP-001") =
    .ok (.parsed [secondBlockMessage]) := by
  obtain ⟨-, -, -, hsecret, -, -⟩ := secondBlock_computed
  exact fetchDump_of_alert secondBlock_fetched ((isSubtext_text _ _).trans hsecret)
    secondBlock_alerts secondBlock_message

theorem secondBlock_normalized : (match secondBlockPoll.run with
    | .ok result => result.normalized.isEmpty
    | .error _ => false) = true := by
  rw [run_of_single secondBlock_computed.1 secondBlock_dump]
  decide +kernel

theorem lateHours_block : lateHours.element ∈ childrenOf secondBlockAlert.element "info" := by
  rw [FloodMessage.childrenOf_element]
  exact List.mem_map_of_mem (List.mem_cons_of_mem _ List.mem_cons_self)

theorem lateArea_block : secondBlockPoll.HasBlock (secondBlockPoll.dumpDocument "CAP-001")
    secondBlockMessage lateArea := by
  obtain ⟨-, -, -, -, -, hforce⟩ := secondBlock_computed
  have harea : lateHours.area ∈ childrenOf lateHours.element "area" := by
    rw [TownshipInfo.childrenOf_element]
    exact List.mem_singleton_self _
  have hcode : IsStripped lateHours.towncode :=
    isStripped_writtenTexts (by simp [writtenTexts, lateHours])
  exact ⟨secondBlockAlert.text, [secondBlockAlert.element], secondBlock_fetched, secondBlock_alerts,
    secondBlockAlert.element, List.mem_cons_self, secondBlock_message, lateHours.element,
    lateHours_block, hforce, lateHours.area, harea, TownshipInfo.parseArea_area hcode _⟩

theorem lateArea_live :
    secondBlockPoll.LiveArea [secondBlockPoll.dumpDocument "CAP-001"] secondBlockMessage lateArea
      "67036000" where
  inForce := ⟨_, List.mem_cons_self, lateArea_block⟩
  actual := rfl
  isPublic := rfl
  warning := Or.inl rfl
  township := ⟨"TOWNCODE", "6703600", by decide +kernel, by decide⟩
  noPolygon := rfl
  noCircle := rfl

/-- The late block is in force, and the poll normalizes nothing. -/
theorem second_block_is_lost : ¬ secondBlockPoll.WarningsKept := by
  intro hkept
  have hnone := secondBlock_normalized
  have hparsed : secondBlockPoll.AllParsed [secondBlockPoll.dumpDocument "CAP-001"] := by
    intro document hdocument
    rw [List.mem_singleton.mp hdocument]
    exact ⟨_, secondBlock_dump⟩
  have hkeeps := (hkept _ secondBlock_computed.1 hparsed).2
  cases hrun : secondBlockPoll.run with
  | error error =>
      rw [hrun] at hnone
      exact absurd hnone (by simp)
  | ok result =>
      rw [hrun] at hnone
      obtain ⟨evidence, hevidence, -⟩ := (hkeeps result hrun).warned _ _ _ lateArea_live
      rw [List.isEmpty_iff.mp hnone] at hevidence
      exact absurd hevidence List.not_mem_nil

end FloodRisk.Ncdr
