import FloodRisk.Ncdr.AuditRuns
import Mathlib.Data.List.Dedup
import Mathlib.Data.List.ReduceOption

/-!
# The all-clear of a poll

A result with `no_active_event` retires the live warnings of the source.  It is
sound when every document that the index lists was fetched and parsed and holds
Actual Cancel messages only.
-/

namespace FloodRisk.Ncdr
open OrderBy

/-! ### What the index lists -/

namespace Poll

variable (poll : Poll)

/-- The document that each entry of the index lists; an entry without a usable
id lists one that the poll cannot name. -/
def listedDocuments : Except NcdrError (List (Option SelectedDocument)) :=
  if poll.key ≠ "" then do
    let indexPayload ← poll.fetchIndex
    let records ← datastoreRecords indexPayload
    let found ← records.mapM (recordCapId poll.key)
    return found.map (Option.map poll.dumpDocument)
  else do
    let feedXml ← poll.callTextFetcher poll.activeFeedUrl []
    let root ← feedRoot poll.runtime feedXml
    let documents ←
      (root.children.filter isFloodEntry).mapM (feedDocument poll.runtime poll.activeFeedUrl)
    return documents.map fun document => some (publicDocument document)

/-- Every message of the document is an Actual Cancel. -/
def IsCancelled (document : SelectedDocument) : Prop :=
  ∃ messages, poll.fetchDump document = .ok (.parsed messages) ∧
    ∀ message ∈ messages, message.status = "Actual" ∧ message.messageType = "Cancel"

/-- Each document that the index lists is one of those the poll fetches, and
cancelled. -/
def IndexCancelled : Prop :=
  ∃ selected listed, poll.selectedDocuments = .ok selected ∧ poll.listedDocuments = .ok listed ∧
    ∀ entry ∈ listed, ∃ document ∈ selected, entry = some document ∧ poll.IsCancelled document

def AllClearSound : Prop :=
  ∀ result, poll.run = .ok result → result.noActiveEvent = true → poll.IndexCancelled

/-! ### What decides -/

/-- Every entry has a usable id, and there are no more ids than the limit. -/
def IndexComplete : Prop :=
  ∃ listed, poll.listedDocuments = .ok listed ∧ (∀ entry ∈ listed, entry.isSome) ∧
    listed.reduceOption.dedup.length ≤ poll.maxCapIdsPerRun

/-- No selected dump fails, and the first row of each source id is an accepted
Actual Cancel. -/
def Quiet : Prop :=
  ∀ selected, poll.selectedDocuments = .ok selected →
    (∀ document ∈ selected, (preparedRows poll document).isSome) ∧
      ∀ row ∈ firstRows (rowsOf poll selected), row.2 = none ∧ isActualCancel row.1 = true

/-- Rows of one source id are all Actual Cancels, or none is. -/
def AgreeById : Prop :=
  ∀ selected, poll.selectedDocuments = .ok selected →
    ∀ first ∈ rowsOf poll selected, ∀ second ∈ rowsOf poll selected,
      first.1.sourceId = second.1.sourceId → isActualCancel first.1 = isActualCancel second.1

end Poll

variable {poll : Poll} {selected : List SelectedDocument}

/-! ### The feed -/

/-- The documents after some entries are those that the flood entries list. -/
structure FeedRead (runtime : Runtime) (feedUrl : String) (done : List Element)
    (documents : List (String × String)) : Prop where
  complete : ∀ entry ∈ done, isFloodEntry entry = true →
    ∃ document ∈ documents, feedDocument runtime feedUrl entry = .ok document
  listed : ∀ document ∈ documents, ∃ entry ∈ done, isFloodEntry entry = true ∧
    feedDocument runtime feedUrl entry = .ok document

theorem FeedRead.addFeedEntry {runtime : Runtime} {feedUrl : String} {done : List Element}
    {documents next : List (String × String)} {entry : Element}
    (h : FeedRead runtime feedUrl done documents)
    (hnext : addFeedEntry runtime feedUrl documents entry = .ok next) :
    FeedRead runtime feedUrl (done ++ [entry]) next := by
  unfold Ncdr.addFeedEntry at hnext
  by_cases hflood : isFloodEntry entry = true
  · rw [if_neg (by simp [hflood])] at hnext
    obtain ⟨document, hdocument, hadd⟩ := Outcome.bind_eq_ok.mp hnext
    have hnew : document ∈ next ∧ ∀ other, other ∈ next ↔ other ∈ documents ∨ other = document := by
      split at hadd
      · split at hadd
        · rename_i hmem
          rw [← Except.ok.inj hadd]
          refine ⟨hmem, fun other => ⟨Or.inl, ?_⟩⟩
          rintro (hother | rfl)
          · exact hother
          · exact hmem
        · exact absurd hadd (by simp)
      · rw [← Except.ok.inj hadd]
        exact ⟨List.mem_append_right _ List.mem_cons_self, fun other => by simp⟩
    refine ⟨?_, ?_⟩
    · intro other hother hotherFlood
      rcases List.mem_append.mp hother with hold | hlast
      · obtain ⟨listed, hlisted, hread⟩ := h.complete other hold hotherFlood
        exact ⟨listed, (hnew.2 listed).mpr (Or.inl hlisted), hread⟩
      · rw [List.mem_singleton.mp hlast]
        exact ⟨document, hnew.1, hdocument⟩
    · intro other hother
      rcases (hnew.2 other).mp hother with hold | rfl
      · obtain ⟨listed, hlisted, hread⟩ := h.listed other hold
        exact ⟨listed, List.mem_append_left _ hlisted, hread⟩
      · exact ⟨entry, List.mem_append_right _ List.mem_cons_self, hflood, hdocument⟩
  · rw [if_pos (by simp [hflood])] at hnext
    rw [← Except.ok.inj hnext]
    refine ⟨?_, ?_⟩
    · intro other hother hotherFlood
      rcases List.mem_append.mp hother with hold | hlast
      · exact h.complete other hold hotherFlood
      · rw [List.mem_singleton.mp hlast] at hotherFlood
        exact absurd hotherFlood hflood
    · intro document hdocument
      obtain ⟨listed, hlisted, hread⟩ := h.listed document hdocument
      exact ⟨listed, List.mem_append_left _ hlisted, hread⟩

theorem feedRead_of_foldlM {runtime : Runtime} {feedUrl : String} {entries : List Element}
    {documents : List (String × String)}
    (h : entries.foldlM (addFeedEntry runtime feedUrl) [] = .ok documents) :
    FeedRead runtime feedUrl entries documents :=
  Outcome.foldlM_invariant (fun _ _ _ _ hread hstep => hread.addFeedEntry hstep)
    ⟨fun _ hmem => absurd hmem List.not_mem_nil, fun _ hmem => absurd hmem List.not_mem_nil⟩ h

/-! ### Selection and listing -/

/-- What a selection is to the index it was made from. -/
structure SelectedFrom (poll : Poll) (selected : List SelectedDocument)
    (listed : List (Option SelectedDocument)) : Prop where
  limited : selected.length ≤ poll.maxCapIdsPerRun
  indexed : ∀ document ∈ selected, some document ∈ listed
  complete : (∀ entry ∈ listed, entry.isSome) →
    listed.reduceOption.dedup.length ≤ poll.maxCapIdsPerRun →
    ∀ entry ∈ listed, ∃ document ∈ selected, entry = some document

theorem dumpDocument_injective (poll : Poll) : Function.Injective poll.dumpDocument :=
  fun _ _ h => congrArg SelectedDocument.capId h

theorem selectedFrom_datastore (poll : Poll) (found : List (Option String)) :
    SelectedFrom poll
      (((found.reduceOption.dedup.insertionSort (· ≤ ·)).take poll.maxCapIdsPerRun).map
        poll.dumpDocument)
      (found.map (Option.map poll.dumpDocument)) := by
  have hmem : ∀ capId, some capId ∈ found ↔ capId ∈ found.reduceOption.dedup.insertionSort (· ≤ ·) := by
    intro capId
    rw [List.mem_insertionSort, List.mem_dedup, List.reduceOption_mem_iff]
  refine ⟨?_, ?_, ?_⟩
  · rw [List.length_map]
    exact List.length_take_le _ _
  · intro document hdocument
    obtain ⟨capId, hcapId, rfl⟩ := List.mem_map.mp hdocument
    exact List.mem_map.mpr ⟨some capId, (hmem capId).mpr (List.mem_of_mem_take hcapId), rfl⟩
  · intro hsome hlength entry hentry
    have hdocuments : (found.map (Option.map poll.dumpDocument)).reduceOption =
        found.reduceOption.map poll.dumpDocument := List.reduceOption_map
    have hshort : (found.reduceOption.dedup.insertionSort (· ≤ ·)).length ≤ poll.maxCapIdsPerRun := by
      rw [List.length_insertionSort]
      rw [hdocuments, List.dedup_map_of_injective (dumpDocument_injective poll), List.length_map]
        at hlength
      exact hlength
    obtain ⟨capId, hcapId, rfl⟩ := List.mem_map.mp hentry
    cases capId with
    | none => exact absurd (hsome _ hentry) (by simp)
    | some capId =>
        rw [List.take_of_length_le hshort]
        exact ⟨poll.dumpDocument capId, List.mem_map_of_mem ((hmem capId).mp hcapId), rfl⟩

theorem selectedFrom_feed {entries : List Element} {documents listed : List (String × String)}
    (hread : FeedRead poll.runtime poll.activeFeedUrl entries documents)
    (hbound : documents.length ≤ poll.maxCapIdsPerRun)
    (hlisted : (entries.filter isFloodEntry).mapM
      (feedDocument poll.runtime poll.activeFeedUrl) = .ok listed) :
    SelectedFrom poll (documents.map Poll.publicDocument)
      (listed.map fun document => some (Poll.publicDocument document)) := by
  refine ⟨by rw [List.length_map]; exact hbound, ?_, ?_⟩
  · intro document hdocument
    obtain ⟨pair, hpair, rfl⟩ := List.mem_map.mp hdocument
    obtain ⟨entry, hentry, hflood, hfound⟩ := hread.listed pair hpair
    obtain ⟨other, hother, hsame⟩ :=
      Outcome.mapM_mem hlisted (List.mem_filter.mpr ⟨hentry, hflood⟩)
    rw [hfound] at hsame
    rw [Except.ok.inj hsame]
    exact List.mem_map_of_mem (f := fun document => some (Poll.publicDocument document)) hother
  · intro _ _ entry hentry
    obtain ⟨pair, hpair, rfl⟩ := List.mem_map.mp hentry
    obtain ⟨element, helement, hfound⟩ := Outcome.exists_of_mem_mapM hlisted hpair
    obtain ⟨hmem, hflood⟩ := List.mem_filter.mp helement
    obtain ⟨other, hother, hsame⟩ := hread.complete element hmem hflood
    rw [hfound] at hsame
    rw [Except.ok.inj hsame]
    exact ⟨Poll.publicDocument other, List.mem_map_of_mem hother, rfl⟩

theorem exists_listed (h : poll.selectedDocuments = .ok selected) :
    ∃ listed, poll.listedDocuments = .ok listed ∧ SelectedFrom poll selected listed := by
  unfold Poll.selectedDocuments at h
  unfold Poll.listedDocuments
  split at h
  · exact absurd h (by simp)
  · split at h
    · rename_i hkey
      obtain ⟨payload, hpayload, hrest⟩ := Outcome.bind_eq_ok.mp h
      obtain ⟨capIds, hcapIds, hselected⟩ := Outcome.bind_eq_ok.mp hrest
      obtain ⟨records, hrecords, hids⟩ := Outcome.bind_eq_ok.mp hcapIds
      obtain ⟨found, hfound, htake⟩ := Outcome.bind_eq_ok.mp hids
      simp only at htake
      split at htake
      · exact absurd htake (by simp)
      · rw [if_pos hkey, ← Except.ok.inj hselected, ← Except.ok.inj htake]
        refine ⟨found.map (Option.map poll.dumpDocument), ?_, selectedFrom_datastore poll found⟩
        simp [hpayload, hrecords, hfound, bind, Except.bind, pure, Except.pure]
    · rename_i hkey
      obtain ⟨feedXml, hfeed, hrest⟩ := Outcome.bind_eq_ok.mp h
      obtain ⟨documents, hdocuments, hselected⟩ := Outcome.bind_eq_ok.mp hrest
      obtain ⟨root, hroot, hentries⟩ := Outcome.bind_eq_ok.mp hdocuments
      obtain ⟨read, hfold, hlimit⟩ := Outcome.bind_eq_ok.mp hentries
      split at hlimit
      · exact absurd hlimit (by simp)
      · rename_i hbound
        obtain rfl := Except.ok.inj hlimit
        have hread := feedRead_of_foldlM hfold
        obtain ⟨listed, hlisted⟩ := Outcome.exists_mapM
          (f := feedDocument poll.runtime poll.activeFeedUrl)
          (l := root.children.filter isFloodEntry) fun entry hentry => by
            obtain ⟨hmem, hflood⟩ := List.mem_filter.mp hentry
            obtain ⟨document, -, hdocument⟩ := hread.complete entry hmem hflood
            exact ⟨document, hdocument⟩
        rw [if_neg hkey, ← Except.ok.inj hselected]
        refine ⟨listed.map fun document => some (Poll.publicDocument document), ?_, ?_⟩
        · simp [hfeed, hroot, hlisted, bind, Except.bind, pure, Except.pure]
        · exact selectedFrom_feed hread (not_lt.mp hbound) hlisted

/-! ### The decision -/

variable {rows : AuditedRows} {result : AdapterRunResult}

theorem rejectionOf_accepted {row : AuditRow} (h : row ∈ rowsOf poll selected)
    (haccepted : row.2 = none) : rejectionOf poll.runtime row = none := by
  obtain ⟨_, _, _, _, pair, _, hprepared⟩ := preparedFrom_of_mem h
  obtain ⟨evidence, hevidence, -⟩ := normalize_accepted hprepared haccepted
  rw [rejectionOf, haccepted]
  simp only [hevidence]

theorem accepted_of_rejectionOf {runtime : Runtime} {row : AuditRow}
    (h : rejectionOf runtime row = none) : row.2 = none := by
  cases hreason : row.2 with
  | none => rfl
  | some reason =>
      rw [rejectionOf, hreason] at h
      exact absurd h (by simp)

theorem rejections_empty_iff (hkept : Kept poll.runtime (rowsOf poll selected) rows) :
    rows.rejections = [] ↔ ∀ row ∈ firstRows (rowsOf poll selected), row.2 = none := by
  rw [hkept.rejections, List.filterMap_eq_nil_iff]
  constructor
  · intro h row hrow
    exact accepted_of_rejectionOf (h row hrow)
  · intro h row hrow
    exact rejectionOf_accepted (mem_of_distinctBy hrow) (h row hrow)

theorem cancelOnly_iff (hkept : Kept poll.runtime (rowsOf poll selected) rows) :
    (rows.fetched.isEmpty || Poll.isCancelOnlySnapshot rows.fetched) = true ↔
      ∀ row ∈ firstRows (rowsOf poll selected), Poll.isActualCancel row.1 = true := by
  rw [hkept.fetched, Poll.isCancelOnlySnapshot]
  cases hfirst : firstRows (rowsOf poll selected) with
  | nil => simp
  | cons row rest => simp

/-- The all-clear is given exactly to a quiet poll. -/
theorem noActiveEvent_iff (h : Completes poll selected rows result) :
    result.noActiveEvent = true ↔ poll.Quiet := by
  have hquiet : poll.Quiet ↔ (∀ document ∈ selected, (preparedRows poll document).isSome) ∧
      ∀ row ∈ firstRows (rowsOf poll selected),
        row.2 = none ∧ Poll.isActualCancel row.1 = true := by
    constructor
    · intro hall
      exact hall selected h.selection
    · intro hall other hother
      obtain rfl := Except.ok.inj (h.selection.symm.trans hother)
      exact hall
  rw [h.noActiveEvent, hquiet]
  unfold Poll.isNoActiveEvent
  by_cases hempty : selected = []
  · have hrows : firstRows (rowsOf poll []) = [] := rfl
    rw [hempty, hrows]
    simp
  · have hcount : decide (selected.length = 0) = false :=
      decide_eq_false fun hlength => hempty (List.length_eq_zero_iff.mp hlength)
    have hreached : decide (0 < rows.successfulDumpCount) = true := decide_eq_true (h.reached hempty)
    rw [hcount, hreached, Bool.false_or, Bool.true_and, Bool.and_eq_true, List.isEmpty_iff]
    constructor
    · rintro ⟨hrejections, hcancel⟩
      have hall : ∀ document ∈ selected, (preparedRows poll document).isSome := by
        intro document hdocument
        rw [Option.isSome_iff_ne_none]
        intro hnone
        exact h.audited.failed ⟨document, hdocument, hnone⟩ hrejections
      have hkept := (h.audited.prepared hall).1
      refine ⟨hall, fun row hrow => ⟨?_, ?_⟩⟩
      · exact (rejections_empty_iff hkept).mp hrejections row hrow
      · exact (cancelOnly_iff hkept).mp hcancel row hrow
    · rintro ⟨hall, hrows⟩
      have hkept := (h.audited.prepared hall).1
      exact ⟨(rejections_empty_iff hkept).mpr fun row hrow => (hrows row hrow).1,
        (cancelOnly_iff hkept).mpr fun row hrow => (hrows row hrow).2⟩

/-! ### Soundness -/

/-- In a quiet poll whose rows agree by id every row is an Actual Cancel. -/
theorem cancel_of_quiet (hselected : poll.selectedDocuments = .ok selected) (hquiet : poll.Quiet)
    (hagree : poll.AgreeById) {row : AuditRow} (hrow : row ∈ rowsOf poll selected) :
    Poll.isActualCancel row.1 = true := by
  obtain ⟨first, hfirst, hsame, -⟩ := exists_first (fun row : AuditRow => row.1.sourceId) hrow
  rw [← hagree selected hselected first (mem_of_distinctBy hfirst) row hrow hsame]
  exact ((hquiet selected hselected).2 first hfirst).2

theorem isCancelled_of_quiet (hselected : poll.selectedDocuments = .ok selected)
    (hquiet : poll.Quiet) (hagree : poll.AgreeById) {document : SelectedDocument}
    (hdocument : document ∈ selected) : poll.IsCancelled document := by
  have hprepared := (hquiet selected hselected).1 document hdocument
  obtain ⟨prepared, hsome⟩ := Option.isSome_iff_exists.mp hprepared
  obtain ⟨messages, hdump, -⟩ := preparedRows_eq_some hsome
  refine ⟨messages, hdump, fun message hmessage => ?_⟩
  obtain ⟨area, hpair⟩ := exists_pair hmessage
  obtain ⟨row, hrow, hfrom⟩ := exists_row hdocument hprepared hdump hpair
  exact (isActualCancel_prepared hfrom).mp (cancel_of_quiet hselected hquiet hagree hrow)

theorem cancel_of_isCancelled
    (hall : ∀ document ∈ selected, poll.IsCancelled document) {row : AuditRow}
    (hrow : row ∈ rowsOf poll selected) : Poll.isActualCancel row.1 = true := by
  obtain ⟨document, hdocument, messages, hdump, pair, hpair, hfrom⟩ := preparedFrom_of_mem hrow
  obtain ⟨found, hfound, hcancelled⟩ := hall document hdocument
  obtain rfl : messages = found := by
    rw [hdump] at hfound
    exact Poll.Dump.parsed.inj (Except.ok.inj hfound)
  obtain ⟨message, hmessage, harea⟩ := List.mem_flatMap.mp hpair
  obtain ⟨area, -, rfl⟩ := List.mem_map.mp harea
  exact (isActualCancel_prepared hfrom).mpr (hcancelled message hmessage)

theorem indexCancelled_iff (hselected : poll.selectedDocuments = .ok selected)
    (hquiet : poll.Quiet) : poll.IndexCancelled ↔ poll.IndexComplete ∧ poll.AgreeById := by
  obtain ⟨listed, hlisted, hfrom⟩ := exists_listed hselected
  constructor
  · rintro ⟨selected', listed', hselected', hlisted', hcancelled⟩
    obtain rfl := Except.ok.inj (hselected.symm.trans hselected')
    obtain rfl := Except.ok.inj (hlisted.symm.trans hlisted')
    have hall : ∀ document ∈ selected, poll.IsCancelled document := by
      intro document hdocument
      obtain ⟨other, -, hsame, hother⟩ := hcancelled _ (hfrom.indexed document hdocument)
      rw [Option.some.inj hsame]
      exact hother
    refine ⟨⟨listed, hlisted, ?_, ?_⟩, ?_⟩
    · intro entry hentry
      obtain ⟨document, -, rfl, -⟩ := hcancelled entry hentry
      rfl
    · have hsubset : listed.reduceOption.dedup ⊆ selected := by
        intro document hdocument
        have hentry := List.reduceOption_mem_iff.mp (List.mem_dedup.mp hdocument)
        obtain ⟨other, hother, hsame, -⟩ := hcancelled _ hentry
        rw [Option.some.inj hsame]
        exact hother
      exact (List.subperm_of_subset (List.nodup_dedup _) hsubset).length_le.trans hfrom.limited
    · intro other hother first hfirst second hsecond _
      obtain rfl := Except.ok.inj (hselected.symm.trans hother)
      rw [cancel_of_isCancelled hall hfirst, cancel_of_isCancelled hall hsecond]
  · rintro ⟨⟨listed', hlisted', hsome, hlimit⟩, hagree⟩
    obtain rfl := Except.ok.inj (hlisted.symm.trans hlisted')
    refine ⟨selected, listed, hselected, hlisted, ?_⟩
    intro entry hentry
    obtain ⟨document, hdocument, hsame⟩ := hfrom.complete hsome hlimit entry hentry
    exact ⟨document, hdocument, hsame, isCancelled_of_quiet hselected hquiet hagree hdocument⟩

/-- The all-clear is sound exactly when a quiet poll that returns has read the
whole index and no row of another kind shares the source id of a cancel. -/
theorem allClearSound_iff (poll : Poll) :
    poll.AllClearSound ↔
      ((∃ result, poll.run = .ok result) → poll.Quiet → poll.IndexComplete ∧ poll.AgreeById) := by
  constructor
  · rintro hsound ⟨result, hrun⟩ hquiet
    obtain ⟨selected, rows, hcompletes⟩ := exists_completes hrun
    have hclear := (noActiveEvent_iff hcompletes).mpr hquiet
    exact (indexCancelled_iff hcompletes.selection hquiet).mp (hsound result hrun hclear)
  · intro h result hrun hclear
    obtain ⟨selected, rows, hcompletes⟩ := exists_completes hrun
    have hquiet := (noActiveEvent_iff hcompletes).mp hclear
    exact (indexCancelled_iff hcompletes.selection hquiet).mpr (h ⟨result, hrun⟩ hquiet)

/-! ### An unread alert -/

/-- A text element of a CAP document. -/
def capElement (name text : String) : Element :=
  { tag := "{urn:oasis:names:tc:emergency:cap:1.2}" ++ name, text := some text }

def capParent (name : String) (children : List Element) : Element :=
  { tag := "{urn:oasis:names:tc:emergency:cap:1.2}" ++ name, children }

def capChars (name : String) (content : List Char) : List Char :=
  "<".toList ++ name.toList ++ ">".toList ++ content ++ "</".toList ++ name.toList ++ ">".toList

/-- An `info` of one township, between two times. -/
structure TownshipInfo where
  effective : String
  expires : String
  towncode : String

def TownshipInfo.element (info : TownshipInfo) : Element :=
  capParent "info"
    [capElement "event" "淹水", capElement "effective" info.effective,
      capElement "expires" info.expires,
      capParent "area"
        [capElement "areaDesc" info.towncode,
          capParent "geocode"
            [capElement "valueName" "TOWNCODE", capElement "value" info.towncode]]]

def TownshipInfo.chars (info : TownshipInfo) : List Char :=
  capChars "info"
    (capChars "event" "淹水".toList ++ capChars "effective" info.effective.toList ++
      capChars "expires" info.expires.toList ++
      capChars "area"
        (capChars "areaDesc" info.towncode.toList ++
          capChars "geocode"
            (capChars "valueName" "TOWNCODE".toList ++ capChars "value" info.towncode.toList)))

structure FloodMessage where
  identifier : String
  messageType : String
  references : String
  infos : List TownshipInfo

def FloodMessage.element (message : FloodMessage) : Element :=
  capParent "alert"
    ([capElement "identifier" message.identifier, capElement "sender" "ncdr@example.test",
      capElement "sent" "2026-06-15T02:00:00+00:00", capElement "status" "Actual",
      capElement "msgType" message.messageType, capElement "scope" "Public",
      capElement "references" message.references] ++ message.infos.map TownshipInfo.element)

def FloodMessage.chars (message : FloodMessage) : List Char :=
  "<alert xmlns=\"urn:oasis:names:tc:emergency:cap:1.2\">".toList ++
    capChars "identifier" message.identifier.toList ++
    capChars "sender" "ncdr@example.test".toList ++
    capChars "sent" "2026-06-15T02:00:00+00:00".toList ++ capChars "status" "Actual".toList ++
    capChars "msgType" message.messageType.toList ++ capChars "scope" "Public".toList ++
    capChars "references" message.references.toList ++ message.infos.flatMap TownshipInfo.chars ++
    "</alert>".toList

def FloodMessage.text (message : FloodMessage) : String := String.ofList message.chars

theorem FloodMessage.toList_text (message : FloodMessage) : message.text.toList = message.chars :=
  String.toList_ofList

theorem FloodMessage.utf8ByteSize_text (message : FloodMessage) :
    message.text.utf8ByteSize = String.utf8Len message.chars :=
  String.utf8ByteSize_ofList _

/-- The hours of one morning as ISO texts. -/
def isoHours : List (String × ℤ) :=
  [("2026-06-15T02:00:00+00:00", 1781488800000000), ("2026-06-15T04:00:00+00:00", 1781496000000000),
    ("2026-06-15T06:00:00+00:00", 1781503200000000)]

/-- Libraries that know some documents and the hours of `isoHours`; a digest is
the text that is hashed. -/
def documentRuntime (messages : List FloodMessage) : Runtime where
  fromstring text :=
    match messages.find? fun message => message.text = text with
    | some message => .ok message.element
    | none => .error "ParseError"
  fromisoformat text := (isoHours.lookup text).map .aware
  isoformat instant := ((isoHours.find? fun hour => hour.2 = instant).map Prod.fst).getD ""
  float _ := none
  urlsplit _ := none
  capMessageDigest sender identifier sent := sender ++ "," ++ identifier ++ "," ++ toString sent
  areaDigest areaDesc _ _ _ := areaDesc
  transportDigest capId := capId

/-- A poll of the member datastore, whose ids are those of its messages. -/
def memberPoll (messages : List FloodMessage) (limit : ℤ) (fetchedAt : ℤ) : Poll where
  runtime := documentRuntime messages
  apiKey := some "test-secret"
  datastoreUrl := "https://alerts.ncdr.nat.gov.tw/api/datastore"
  dumpUrl := "https://alerts.ncdr.nat.gov.tw/api/dump/datastore"
  activeFeedUrl := "https://alerts.ncdr.nat.gov.tw/RssAtomFeeds.ashx"
  configuredMaxCapIds := limit
  rawSnapshotKey := none
  fetchedAt
  callJsonFetcher _ _ :=
    .ok (.object [("data", .list (messages.map fun message =>
      .object [("capid", .text message.identifier)]))])
  callTextFetcher _ params :=
    match messages.find? fun message => params.lookup "capid" = some message.identifier with
    | some message => .ok message.text
    | none => .error (.fetch "NCDR XML resource fetcher failed" none)

def morning : TownshipInfo := ⟨"2026-06-15T02:00:00+00:00", "2026-06-15T06:00:00+00:00", "6703500"⟩

theorem documentAlerts_of_alert {runtime : Runtime} {text : String} {root : Element}
    (hsize : text.utf8ByteSize ≤ maxCapBytes) (hroot : runtime.fromstring text = .ok root)
    (hbounds : validateTreeBounds root = .ok ()) (htag : root.tag = cap12AlertTag)
    (hnested : (root.descendants.any fun element => localName element.tag = "alert") = false) :
    documentAlerts runtime text = .ok [root] := by
  have hany : ([root].any fun alert =>
      alert.descendants.any fun element => localName element.tag = "alert") = false := by
    rw [List.any_cons, hnested, List.any_nil]
    rfl
  have halerts : rootAlerts root = .ok [root] := by
    unfold rootAlerts
    rw [if_pos htag]
    change (if ([root].any fun alert => alert.descendants.any fun element =>
      localName element.tag = "alert") = true then _ else _) = _
    rw [hany]
    rfl
  unfold documentAlerts
  rw [if_neg (not_lt.mpr hsize), hroot]
  simp only [hbounds, halerts, bind, Except.bind]
  rfl

theorem fromstring_first (message : FloodMessage) (rest : List FloodMessage) :
    (documentRuntime (message :: rest)).fromstring message.text = .ok message.element := by
  simp [documentRuntime]

theorem callTextFetcher_first (message : FloodMessage) (rest : List FloodMessage)
    (limit fetchedAt : ℤ) (url : String) :
    (memberPoll (message :: rest) limit fetchedAt).callTextFetcher url
      ((memberPoll (message :: rest) limit fetchedAt).dumpDocument message.identifier).dumpParams =
        .ok message.text := by
  simp [memberPoll, Poll.dumpDocument, List.lookup_cons]

/-! ### Elements as they are read -/

abbrev capMark : String := "{urn:oasis:names:tc:emergency:cap:1.2}"

/-- The names of the elements of a `FloodMessage` below its root. -/
def capTags : List String :=
  ["identifier", "sender", "sent", "status", "msgType", "scope", "references", "info", "event",
    "effective", "expires", "area", "areaDesc", "geocode", "valueName", "value"]

theorem capMark_chars : capMark.toList = '\x7b' :: (cap12Namespace.toList ++ ['\x7d']) ∧
    '\x7d' ∉ cap12Namespace.toList ∧ capMark ++ "alert" = cap12AlertTag ∧
      capTags.all (fun tag => !tag.toList.contains '\x7d') = true := by
  decide +kernel

theorem capTags_plain {tag : String} (h : tag ∈ capTags) : '\x7d' ∉ tag.toList := by
  obtain ⟨-, -, -, hall⟩ := capMark_chars
  simpa using List.all_eq_true.mp hall tag h

theorem bne_of_notMem {l : List Char} (h : '\x7d' ∉ l) : ∀ c ∈ l, (c != '\x7d') = true :=
  fun _ hc => bne_iff_ne.mpr fun heq => h (heq ▸ hc)

section Tag

variable {name tag : String} {element : Element} (htag : element.tag = capMark ++ tag)
include htag

theorem toList_tag :
    element.tag.toList = '\x7b' :: (cap12Namespace.toList ++ '\x7d' :: tag.toList) := by
  rw [htag, String.toList_append, capMark_chars.1, List.cons_append, List.append_assoc,
    List.singleton_append]

theorem localName_of_tag (hplain : '\x7d' ∉ tag.toList) : localName element.tag = tag := by
  unfold localName
  rw [toList_tag htag, List.reverse_cons, List.reverse_append, List.reverse_cons, List.append_assoc,
    List.append_assoc, List.takeWhile_append_of_pos
      (fun c hc => bne_of_notMem hplain c (List.mem_reverse.mp hc)), List.singleton_append,
    List.takeWhile_cons, if_neg (by simp), List.append_nil, List.reverse_reverse,
    String.ofList_toList]

theorem tagNamespace_of_tag : tagNamespace element.tag = some cap12Namespace := by
  unfold tagNamespace
  rw [toList_tag htag]
  simp only [List.mem_append, List.mem_cons, true_or, or_true, if_true]
  rw [List.takeWhile_append_of_pos (bne_of_notMem capMark_chars.2.1), List.takeWhile_cons,
    if_neg (by simp), List.append_nil, String.ofList_toList]

/-- An element of the namespace is found by what follows it in the tag. -/
theorem isCapElement_of_tag (hplain : '\x7d' ∉ tag.toList) :
    isCapElement name element = decide (tag = name) := by
  rw [isCapElement, localName_of_tag htag hplain, tagNamespace_of_tag htag]
  simp

end Tag


theorem isCapElement_capElement {tag : String} (h : tag ∈ capTags) (name text : String) :
    isCapElement name (capElement tag text) = decide (tag = name) :=
  isCapElement_of_tag rfl (capTags_plain h)

theorem isCapElement_capParent {tag : String} (h : tag ∈ capTags) (name : String)
    (children : List Element) : isCapElement name (capParent tag children) = decide (tag = name) :=
  isCapElement_of_tag rfl (capTags_plain h)

/-- The elements of some fields, in front of others. -/
def fieldElements (fields : List (String × String)) (others : List Element) : List Element :=
  (fields.map fun field => capElement field.1 field.2) ++ others

theorem optionalElementText_eq (parent : Element) (name : String) :
    optionalElementText parent name = (parent.children.find? (isCapElement name)).bind fun child =>
      optionalText (some (child.text.getD "")) := by
  unfold optionalElementText
  cases parent.children.find? (isCapElement name) <;> rfl

theorem optionalElementText_fields {tag name : String} {fields : List (String × String)}
    {others : List Element} (hfields : ∀ field ∈ fields, field.1 ∈ capTags)
    (hothers : ∀ other ∈ others, isCapElement name other = false) :
    optionalElementText (capParent tag (fieldElements fields others)) name =
      (fields.lookup name).bind fun text => optionalText (some text) := by
  rw [optionalElementText_eq]
  change ((fieldElements fields others).find? (isCapElement name)).bind _ = _
  induction fields with
  | nil =>
    have hnone : others.find? (isCapElement name) = none :=
      List.find?_eq_none.mpr fun other hother => by simp [hothers other hother]
    rw [fieldElements, List.map_nil, List.nil_append, hnone]
    rfl
  | cons field rest ih =>
    have hrest := ih fun other hother => hfields other (List.mem_cons_of_mem _ hother)
    have htag := isCapElement_capElement (hfields field List.mem_cons_self) name field.2
    by_cases hname : field.1 = name
    · rw [fieldElements, List.map_cons, List.cons_append, List.find?_cons_of_pos
        (by rw [htag]; exact decide_eq_true hname)]
      rw [List.lookup_cons, beq_iff_eq.mpr hname.symm]
      rfl
    · rw [fieldElements, List.map_cons, List.cons_append, List.find?_cons_of_neg
        (by rw [htag]; simpa using hname)]
      rw [List.lookup_cons, beq_eq_false_iff_ne.mpr (Ne.symm hname)]
      exact hrest

theorem childrenOf_fields {tag name : String} {fields : List (String × String)}
    {others : List Element} (hfields : ∀ field ∈ fields, field.1 ∈ capTags ∧ field.1 ≠ name)
    (hothers : ∀ other ∈ others, isCapElement name other = true) :
    childrenOf (capParent tag (fieldElements fields others)) name = others := by
  change (fieldElements fields others).filter (isCapElement name) = others
  rw [fieldElements, List.filter_append, List.filter_eq_self.mpr hothers,
    List.filter_eq_nil_iff.mpr, List.nil_append]
  intro element helement
  obtain ⟨field, hfield, rfl⟩ := List.mem_map.mp helement
  rw [isCapElement_capElement (hfields field hfield).1]
  simpa using (hfields field hfield).2


/-- The text is read as it is written. -/
def IsStripped (text : String) : Prop := optionalText (some text) = some text

/-- The texts of the documents of the examples. -/
def writtenTexts : List String :=
  ["ncdr@example.test", "Actual", "Public", "Alert", "Cancel", "淹水", "TOWNCODE", "6703500",
    "6703600", "CAP-000", "CAP-001", "test-secret", "2026-06-15T02:00:00+00:00",
    "2026-06-15T04:00:00+00:00", "2026-06-15T06:00:00+00:00",
    "ncdr@example.test,CAP-000,2026-06-15T02:00:00+00:00"]

theorem isStripped_writtenTexts {text : String} (h : text ∈ writtenTexts) : IsStripped text := by
  have hall : writtenTexts.all (fun text => optionalText (some text) = some text) = true := by
    decide +kernel
  have htext : optionalText (some text) = some text :=
    of_decide_eq_true (List.all_eq_true.mp hall text h)
  exact htext

def TownshipInfo.area (info : TownshipInfo) : Element :=
  capParent "area" (fieldElements [("areaDesc", info.towncode)]
    [capParent "geocode"
      (fieldElements [("valueName", "TOWNCODE"), ("value", info.towncode)] [])])

def TownshipInfo.fields (info : TownshipInfo) : List (String × String) :=
  [("event", "淹水"), ("effective", info.effective), ("expires", info.expires)]

theorem TownshipInfo.element_eq (info : TownshipInfo) :
    info.element = capParent "info" (fieldElements info.fields [info.area]) := rfl

def FloodMessage.fields (message : FloodMessage) : List (String × String) :=
  [("identifier", message.identifier), ("sender", "ncdr@example.test"),
    ("sent", "2026-06-15T02:00:00+00:00"), ("status", "Actual"), ("msgType", message.messageType),
    ("scope", "Public"), ("references", message.references)]

theorem FloodMessage.element_eq (message : FloodMessage) :
    message.element =
      capParent "alert" (fieldElements message.fields (message.infos.map TownshipInfo.element)) := rfl


theorem lookup_text {name text : String} {fields : List (String × String)} (hname : name ≠ text)
    (value : String) : List.lookup name ((text, value) :: fields) = fields.lookup name := by
  rw [List.lookup_cons, beq_eq_false_iff_ne.mpr hname]

/-- The reading of one text of an element whose other children have another name. -/
theorem requiredText_fields {tag name text : String} {fields : List (String × String)}
    {others : List Element} (hfields : ∀ field ∈ fields, field.1 ∈ capTags)
    (hothers : ∀ other ∈ others, isCapElement name other = false)
    (hlookup : fields.lookup name = some text) (h : IsStripped text) :
    requiredText (capParent tag (fieldElements fields others)) name = .ok text := by
  have htext : optionalText (some text) = some text := h
  rw [requiredText, optionalElementText_fields hfields hothers, hlookup, Option.bind_some, htext]

theorem not_isCapElement_singleton {tag name : String} (htag : tag ∈ capTags) (h : tag ≠ name)
    (children : List Element) : ∀ other ∈ [capParent tag children], isCapElement name other = false := by
  intro other hother
  rw [List.mem_singleton.mp hother, isCapElement_capParent htag]
  exact decide_eq_false h

theorem isCapElement_singleton {tag : String} (htag : tag ∈ capTags) (children : List Element) :
    ∀ other ∈ [capParent tag children], isCapElement tag other = true := by
  intro other hother
  rw [List.mem_singleton.mp hother, isCapElement_capParent htag]
  exact decide_eq_true rfl

theorem TownshipInfo.parseArea_area {info : TownshipInfo} (h : IsStripped info.towncode)
    (runtime : Runtime) :
    parseArea runtime info.area = .ok ⟨info.towncode, [("TOWNCODE", info.towncode)], none, none⟩ := by
  have hgeocode : "geocode" ∈ capTags := by simp [capTags]
  have htowncode : IsStripped "TOWNCODE" := isStripped_writtenTexts (by simp [writtenTexts])
  have hfields : ∀ field ∈ [("areaDesc", info.towncode)], field.1 ∈ capTags := by simp [capTags]
  have hparsed : parseGeocode (capParent "geocode"
      (fieldElements [("valueName", "TOWNCODE"), ("value", info.towncode)] [])) =
        .ok ("TOWNCODE", info.towncode) := by
    have hpair : ∀ field ∈ [("valueName", "TOWNCODE"), ("value", info.towncode)],
        field.1 ∈ capTags := by simp [capTags]
    rw [parseGeocode, requiredText_fields hpair (by simp) (by simp) htowncode,
      requiredText_fields hpair (by simp) (by simp [List.lookup_cons]) h]
    rfl
  have hdesc : requiredText info.area "areaDesc" = .ok info.towncode :=
    requiredText_fields hfields (not_isCapElement_singleton hgeocode (by simp) _)
      (by simp) h
  have hnone : ∀ name ∈ ["polygon", "circle"], optionalElementText info.area name = none := by
    intro name hname
    have hne : name ≠ "areaDesc" ∧ "geocode" ≠ name := by
      rcases List.mem_cons.mp hname with rfl | hname
      · simp
      · rw [List.mem_singleton.mp hname]
        simp
    rw [area, optionalElementText_fields hfields (not_isCapElement_singleton hgeocode hne.2 _),
      lookup_text hne.1]
    rfl
  have hgeocodes : childrenOf info.area "geocode" = [capParent "geocode"
      (fieldElements [("valueName", "TOWNCODE"), ("value", info.towncode)] [])] :=
    childrenOf_fields (by simp [capTags]) (isCapElement_singleton hgeocode _)
  rw [parseArea, hdesc, hgeocodes, hnone "polygon" (by simp), hnone "circle" (by simp)]
  simp only [List.mapM_cons, List.mapM_nil, hparsed, bind, Except.bind]
  rfl


section Message

variable {runtime : Runtime} {message : FloodMessage} {info : TownshipInfo} {rest : List TownshipInfo}

theorem isCapElement_infos {name : String} (h : name ≠ "info") (infos : List TownshipInfo) :
    ∀ other ∈ infos.map TownshipInfo.element, isCapElement name other = false := by
  intro other hother
  obtain ⟨info, -, rfl⟩ := List.mem_map.mp hother
  rw [TownshipInfo.element_eq, isCapElement_capParent (by simp [capTags])]
  exact decide_eq_false h.symm

theorem FloodMessage.requiredText_element {name text : String} (hname : name ≠ "info")
    (hlookup : message.fields.lookup name = some text) (h : IsStripped text) :
    requiredText message.element name = .ok text := by
  rw [element_eq]
  exact requiredText_fields (by simp [fields, capTags]) (isCapElement_infos hname _) hlookup h

theorem FloodMessage.childrenOf_element (message : FloodMessage) :
    childrenOf message.element "info" = message.infos.map TownshipInfo.element := by
  rw [element_eq]
  refine childrenOf_fields (by simp [fields, capTags]) ?_
  intro other hother
  obtain ⟨info, -, rfl⟩ := List.mem_map.mp hother
  rw [TownshipInfo.element_eq, isCapElement_capParent (by simp [capTags])]
  exact decide_eq_true rfl

theorem TownshipInfo.optionalElementText_element {name : String} (hname : name ≠ "area") :
    optionalElementText info.element name =
      (info.fields.lookup name).bind fun text => optionalText (some text) := by
  rw [element_eq]
  exact optionalElementText_fields (by simp [fields, capTags])
    (not_isCapElement_singleton (by simp [capTags]) hname.symm _)

theorem TownshipInfo.childrenOf_element (info : TownshipInfo) :
    childrenOf info.element "area" = [info.area] := by
  rw [element_eq]
  exact childrenOf_fields (by simp [fields, capTags]) (isCapElement_singleton (by simp [capTags]) _)

/-- A time of an `info` is read from the text that was written. -/
theorem TownshipInfo.optionalDatetime_element {name text : String} {instant : ℤ}
    (hname : name ≠ "area") (hlookup : info.fields.lookup name = some text) (h : IsStripped text)
    (hread : runtime.fromisoformat text = some (.aware instant)) :
    optionalDatetime runtime info.element name = .ok (some instant) := by
  have htext : optionalText (some text) = some text := h
  rw [optionalDatetime, optionalElementText_element hname, hlookup, Option.bind_some, htext]
  simp only [parseDatetime, hread]
  rfl

/-- A message is read as it was written. -/
theorem parseMessage_element {sent effective expires : ℤ} {references : List ParsedCapReference}
    (hinfos : message.infos = info :: rest) (hlength : message.infos.length ≤ maxAreasPerMessage)
    (hidentifier : IsStripped message.identifier) (htype : IsStripped message.messageType)
    (hcodes : ∀ i ∈ message.infos, IsStripped i.towncode)
    (heffective : IsStripped info.effective) (hexpires : IsStripped info.expires)
    (hsent : runtime.fromisoformat "2026-06-15T02:00:00+00:00" = some (.aware sent))
    (hfrom : runtime.fromisoformat info.effective = some (.aware effective))
    (huntil : runtime.fromisoformat info.expires = some (.aware expires))
    (hreferences : parseReferences runtime (optionalText (some message.references)) =
      .ok references) :
    parseMessage runtime message.element = .ok
      { sender := "ncdr@example.test", identifier := message.identifier, sent, status := "Actual",
        messageType := message.messageType, scope := "Public", event := "淹水", headline := none,
        description := none, effective := some effective, onset := none, expires := some expires,
        references,
        areas := message.infos.map fun i =>
          ⟨i.towncode, [("TOWNCODE", i.towncode)], none, none⟩ } := by
  have hsender : requiredText message.element "sender" = .ok "ncdr@example.test" :=
    FloodMessage.requiredText_element (by simp) (by simp [FloodMessage.fields, List.lookup_cons])
      (isStripped_writtenTexts (by simp [writtenTexts]))
  have hid : requiredText message.element "identifier" = .ok message.identifier :=
    FloodMessage.requiredText_element (by simp) (by simp [FloodMessage.fields])
      hidentifier
  have hsentAt : requiredDatetime runtime message.element "sent" = .ok sent := by
    have htext : requiredText message.element "sent" = .ok "2026-06-15T02:00:00+00:00" :=
      FloodMessage.requiredText_element (by simp) (by simp [FloodMessage.fields, List.lookup_cons])
        (isStripped_writtenTexts (by simp [writtenTexts]))
    rw [requiredDatetime, htext]
    simp only [bind, Except.bind, parseDatetime, hsent]
  have hstatus : requiredText message.element "status" = .ok "Actual" :=
    FloodMessage.requiredText_element (by simp) (by simp [FloodMessage.fields, List.lookup_cons])
      (isStripped_writtenTexts (by simp [writtenTexts]))
  have hmessageType : requiredText message.element "msgType" = .ok message.messageType :=
    FloodMessage.requiredText_element (by simp) (by simp [FloodMessage.fields, List.lookup_cons]) htype
  have hscope : requiredText message.element "scope" = .ok "Public" :=
    FloodMessage.requiredText_element (by simp) (by simp [FloodMessage.fields, List.lookup_cons])
      (isStripped_writtenTexts (by simp [writtenTexts]))
  have hreferred : optionalElementText message.element "references" =
      optionalText (some message.references) := by
    rw [FloodMessage.element_eq, optionalElementText_fields
      (by simp [FloodMessage.fields, capTags]) (isCapElement_infos (by simp) _)]
    simp [FloodMessage.fields, List.lookup_cons]
  have hevent : requiredText info.element "event" = .ok "淹水" := by
    have htext : optionalText (some "淹水") = some "淹水" :=
      isStripped_writtenTexts (by simp [writtenTexts])
    rw [requiredText, TownshipInfo.optionalElementText_element (by simp)]
    simp only [TownshipInfo.fields, List.lookup_cons, beq_self_eq_true, Option.bind_some, htext]
  have hnone : ∀ name ∈ ["headline", "description", "onset"],
      optionalElementText info.element name = none := by
    intro name hname
    simp only [List.mem_cons, List.not_mem_nil, or_false] at hname
    rw [TownshipInfo.optionalElementText_element (by rintro rfl; simp at hname)]
    rcases hname with rfl | rfl | rfl <;> simp [TownshipInfo.fields, List.lookup_cons]
  have honset : optionalDatetime runtime info.element "onset" = .ok none := by
    rw [optionalDatetime, hnone "onset" (by simp)]
  have hstart : optionalDatetime runtime info.element "effective" = .ok (some effective) :=
    TownshipInfo.optionalDatetime_element (by simp) (by simp [TownshipInfo.fields, List.lookup_cons])
      heffective hfrom
  have hend : optionalDatetime runtime info.element "expires" = .ok (some expires) :=
    TownshipInfo.optionalDatetime_element (by simp) (by simp [TownshipInfo.fields, List.lookup_cons])
      hexpires huntil
  have hareas : ((message.infos.map TownshipInfo.element).flatMap fun parent =>
      childrenOf parent "area").mapM (parseArea runtime) =
        .ok (message.infos.map fun i => ⟨i.towncode, [("TOWNCODE", i.towncode)], none, none⟩) := by
    have hflat : (message.infos.map TownshipInfo.element).flatMap (fun parent =>
        childrenOf parent "area") = message.infos.map TownshipInfo.area := by
      rw [List.flatMap_map, List.map_eq_flatMap]
      simp only [TownshipInfo.childrenOf_element]
    rw [hflat, Outcome.mapM_eq_ok, List.forall₂_map_left_iff, List.forall₂_map_right_iff,
      List.forall₂_same]
    intro i hi
    exact TownshipInfo.parseArea_area (hcodes i hi) runtime
  rw [parseMessage, hsender, hid, hsentAt, hstatus, hmessageType, hscope,
    FloodMessage.childrenOf_element]
  simp only [bind, Except.bind] at hareas ⊢
  rw [hareas]
  rw [hinfos, List.map_cons] at *
  simp only [hevent, hstart, honset, hend, hreferred, hreferences]
  rw [hnone "headline" (by simp), hnone "description" (by simp), if_neg]
  · rfl
  · simpa using hlength

theorem descendantsOfAll_append (front back : List Element) :
    descendantsOfAll (front ++ back) = descendantsOfAll front ++ descendantsOfAll back := by
  induction front with
  | nil => rfl
  | cons child rest ih =>
    rw [List.cons_append, descendantsOfAll, descendantsOfAll, ih, List.cons_append,
      List.append_assoc]

/-- The name of an element is one of `capTags`. -/
def Named (element : Element) : Prop := ∃ tag ∈ capTags, element.tag = capMark ++ tag

theorem named_fieldElements {fields : List (String × String)} {others : List Element}
    (hfields : ∀ field ∈ fields, field.1 ∈ capTags)
    (hothers : ∀ element ∈ descendantsOfAll others, Named element) :
    ∀ element ∈ descendantsOfAll (fieldElements fields others), Named element := by
  intro element helement
  rw [fieldElements, descendantsOfAll_append, List.mem_append] at helement
  cases helement with
  | inr h => exact hothers element h
  | inl h =>
    induction fields with
    | nil => cases h
    | cons field rest ih =>
      change element ∈ capElement field.1 field.2 :: descendantsOfAll _ at h
      cases List.mem_cons.mp h with
      | inl hfirst =>
        rw [hfirst]
        exact ⟨field.1, hfields field List.mem_cons_self, rfl⟩
      | inr hrest => exact ih (fun f hf => hfields f (List.mem_cons_of_mem _ hf)) hrest

theorem named_capParent {tag : String} {children : List Element} (htag : tag ∈ capTags)
    (h : ∀ element ∈ descendantsOfAll children, Named element) :
    ∀ element ∈ descendantsOfAll [capParent tag children], Named element := by
  intro element helement
  change element ∈ capParent tag children :: (descendantsOfAll children ++ []) at helement
  rw [List.append_nil, List.mem_cons] at helement
  cases helement with
  | inl hself =>
    rw [hself]
    exact ⟨tag, htag, rfl⟩
  | inr hmem => exact h element hmem

theorem FloodMessage.not_nested (message : FloodMessage) :
    (message.element.descendants.any fun element => localName element.tag = "alert") = false := by
  have hinfo : ∀ i : TownshipInfo, ∀ element ∈ descendantsOfAll [i.element], Named element := by
    intro i
    rw [TownshipInfo.element_eq, TownshipInfo.area]
    refine named_capParent (by simp [capTags])
      (named_fieldElements (by simp [TownshipInfo.fields, capTags]) ?_)
    refine named_capParent (by simp [capTags]) (named_fieldElements (by simp [capTags]) ?_)
    refine named_capParent (by simp [capTags]) (named_fieldElements (by simp [capTags]) ?_)
    exact fun element h => absurd h List.not_mem_nil
  have hinfos : ∀ element ∈ descendantsOfAll (message.infos.map TownshipInfo.element),
      Named element := by
    induction message.infos with
    | nil => exact fun element h => absurd h List.not_mem_nil
    | cons i rest ih =>
      intro element helement
      rw [List.map_cons, ← List.singleton_append, descendantsOfAll_append, List.mem_append]
        at helement
      exact helement.elim (hinfo i element) (ih element)
  have hall : ∀ element ∈ message.element.descendants, Named element :=
    named_fieldElements (by simp [fields, capTags] : ∀ field ∈ message.fields, field.1 ∈ capTags)
      hinfos
  rw [List.any_eq_false]
  intro element helement
  obtain ⟨tag, hmem, htag⟩ := hall element helement
  have hne : tag ≠ "alert" := by
    rintro rfl
    simp [capTags] at hmem
  rw [localName_of_tag htag (capTags_plain hmem)]
  simpa using hne

/-- A document of one message has that message as its only alert. -/
theorem documentAlerts_message {text : String} (hsize : text.utf8ByteSize ≤ maxCapBytes)
    (hroot : runtime.fromstring text = .ok message.element)
    (hbounds : validateTreeBounds message.element = .ok ()) :
    documentAlerts runtime text = .ok [message.element] :=
  documentAlerts_of_alert hsize hroot hbounds capMark_chars.2.2.1 message.not_nested

end Message

/-! ### One cancellation -/

theorem fetchDump_of_alert {document : SelectedDocument} {text : String} {alert : Element}
    {message : ParsedCapMessage}
    (hfetch : poll.callTextFetcher document.capUrl document.dumpParams = .ok text)
    (hsecret : isSubtext poll.key text = false)
    (halerts : documentAlerts poll.runtime text = .ok [alert])
    (hmessage : parseMessage poll.runtime alert = .ok message) :
    poll.fetchDump document = .ok (.parsed [message]) := by
  have hmessages : parseCapDocument poll.runtime text = .ok [message] := by
    unfold parseCapDocument
    rw [halerts]
    exact Outcome.mapM_eq_ok.mpr (.cons hmessage .nil)
  rw [Poll.fetchDump, hfetch]
  simp only [hsecret, hmessages, Bool.and_false, Bool.false_eq_true, if_false]

def morningCancel : FloodMessage :=
  ⟨"CAP-001", "Cancel", "ncdr@example.test,CAP-000,2026-06-15T02:00:00+00:00", [morning]⟩

/-- A cancellation and an alert in force, with a limit of one id. -/
def limitedPoll : Poll :=
  memberPoll [morningCancel, ⟨"CAP-002", "Alert", "", [morning]⟩] 1 1781496000000000

def cancelMessage : ParsedCapMessage where
  sender := "ncdr@example.test"
  identifier := "CAP-001"
  sent := 1781488800000000
  status := "Actual"
  messageType := "Cancel"
  scope := "Public"
  event := "淹水"
  headline := none
  description := none
  effective := some 1781488800000000
  onset := none
  expires := some 1781503200000000
  references := [⟨"ncdr@example.test", "CAP-000", 1781488800000000⟩]
  areas := [⟨"6703500", [("TOWNCODE", "6703500")], none, none⟩]

/-- The reference of the cancellation, as it is read where the hours are known. -/
theorem parseReferences_cancel {runtime : Runtime}
    (hhours : ∀ time, runtime.fromisoformat time = (isoHours.lookup time).map .aware) :
    parseReferences runtime (optionalText (some morningCancel.references)) =
      .ok cancelMessage.references := by
  have htexts : splitWhitespace morningCancel.references = [morningCancel.references] ∧
      splitComma morningCancel.references =
        ["ncdr@example.test", "CAP-000", "2026-06-15T02:00:00+00:00"] ∧
      strip "ncdr@example.test" = "ncdr@example.test" ∧ strip "CAP-000" = "CAP-000" ∧
      strip "2026-06-15T02:00:00+00:00" = "2026-06-15T02:00:00+00:00" := by decide +kernel
  obtain ⟨htokens, htriple, hsender, hidentifier, hsent⟩ := htexts
  have hstripped : IsStripped morningCancel.references :=
    isStripped_writtenTexts (by simp [writtenTexts, morningCancel])
  have hinstant : parseDatetime runtime "2026-06-15T02:00:00+00:00" "references.sent" =
      .ok 1781488800000000 := by
    rw [parseDatetime, hhours]
    rfl
  have hreference : parseReference runtime morningCancel.references =
      .ok ⟨"ncdr@example.test", "CAP-000", 1781488800000000⟩ := by
    simp only [parseReference, htriple, hsender, hidentifier, hsent]
    rw [if_neg (by simp), hinstant]
    rfl
  rw [show optionalText (some morningCancel.references) = some morningCancel.references from hstripped]
  simp only [parseReferences, htokens]
  rw [if_neg (by simp)]
  simp only [List.mapM_cons, List.mapM_nil, hreference]
  rfl

theorem parseMessage_cancel {runtime : Runtime}
    (hhours : ∀ time, runtime.fromisoformat time = (isoHours.lookup time).map .aware)
    {identifier : String} (h : IsStripped identifier) :
    parseMessage runtime (FloodMessage.element { morningCancel with identifier := identifier }) =
      .ok { cancelMessage with identifier } := by
  refine parseMessage_element rfl (show 1 ≤ maxAreasPerMessage by decide) h
    (isStripped_writtenTexts (by simp [writtenTexts, morningCancel])) ?_
    (isStripped_writtenTexts (by simp [writtenTexts, morning]))
    (isStripped_writtenTexts (by simp [writtenTexts, morning])) ?_ ?_ ?_
    (parseReferences_cancel hhours)
  · intro info hinfo
    rw [List.mem_singleton.mp hinfo]
    exact isStripped_writtenTexts (by simp [writtenTexts, morning])
  · rw [hhours]
    rfl
  · rw [hhours]
    rfl
  · rw [hhours]
    rfl

/-- What is computed of the poll and of its document. -/
theorem limitedPoll_computed :
    limitedPoll.selectedDocuments = .ok [limitedPoll.dumpDocument "CAP-001"] ∧
      limitedPoll.listedDocuments =
        .ok [some (limitedPoll.dumpDocument "CAP-001"), some (limitedPoll.dumpDocument "CAP-002")] ∧
      validateTreeBounds morningCancel.element = .ok () ∧
      String.utf8Len morningCancel.chars ≤ maxCapBytes ∧
      (morningCancel.chars.tails.any fun rest => limitedPoll.key.toList.isPrefixOf rest) = false := by
  decide +kernel

theorem isSubtext_text (key : String) (message : FloodMessage) : isSubtext key message.text =
    message.chars.tails.any fun rest => key.toList.isPrefixOf rest := by
  rw [isSubtext, FloodMessage.toList_text]

theorem limitedPoll_dump : limitedPoll.fetchDump (limitedPoll.dumpDocument "CAP-001") =
    .ok (.parsed [cancelMessage]) := by
  obtain ⟨-, -, hbounds, hsize, hsecret⟩ := limitedPoll_computed
  have hruntime : limitedPoll.runtime =
      documentRuntime [morningCancel, ⟨"CAP-002", "Alert", "", [morning]⟩] := rfl
  have hfetched : limitedPoll.callTextFetcher (limitedPoll.dumpDocument "CAP-001").capUrl
      (limitedPoll.dumpDocument "CAP-001").dumpParams = .ok morningCancel.text :=
    callTextFetcher_first morningCancel _ _ _ _
  have hroot : limitedPoll.runtime.fromstring morningCancel.text = .ok morningCancel.element := by
    rw [hruntime]
    exact fromstring_first morningCancel _
  exact fetchDump_of_alert hfetched ((isSubtext_text _ _).trans hsecret)
    (documentAlerts_message ((FloodMessage.utf8ByteSize_text _).trans_le hsize) hroot hbounds)
    (parseMessage_cancel (fun _ => rfl)
      (isStripped_writtenTexts (by simp [writtenTexts]) : IsStripped "CAP-001"))

/-- The alert is beyond the limit, and the poll gives the all-clear. -/
theorem unread_alert_is_cleared : ¬ limitedPoll.AllClearSound := by
  obtain ⟨hselected, hlisted, -, -, -⟩ := limitedPoll_computed
  have hclear : (match limitedPoll.run with
      | .ok result => result.noActiveEvent
      | .error _ => false) = true := by
    rw [run_of_single hselected limitedPoll_dump]
    decide +kernel
  intro hsound
  cases hrun : limitedPoll.run with
  | error error =>
      rw [hrun] at hclear
      exact absurd hclear (by simp)
  | ok result =>
      rw [hrun] at hclear
      obtain ⟨selected, listed, hselected', hlisted', hall⟩ := hsound result hrun hclear
      obtain rfl := Except.ok.inj (hselected.symm.trans hselected')
      obtain rfl := Except.ok.inj (hlisted.symm.trans hlisted')
      obtain ⟨document, hdocument, hsame, -⟩ :=
        hall _ (List.mem_cons_of_mem _ List.mem_cons_self)
      rw [List.mem_singleton.mp hdocument] at hsame
      have hid : "CAP-002" = "CAP-001" := congrArg SelectedDocument.capId (Option.some.inj hsame)
      exact absurd hid (by decide)

end FloodRisk.Ncdr
