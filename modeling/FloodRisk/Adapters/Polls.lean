import FloodRisk.Adapters.OwnReadings
import FloodRisk.Adapters.StagedNumbers
import FloodRisk.Adapters.StationSources

/-!
# Polls of a station source, item by item

What one item of a list does to the run over all of them and to the rows that are staged.
-/

namespace FloodRisk.Adapters
open Python

variable {runtime : Runtime}

/-! ### Polls -/

section Polls

variable (runtime)

/-- A run with the rows that are staged of it. -/
structure Poll where
  result : AdapterRunResult
  rows : List StagedRow

/-- The rows that `_summary_from_result` stages; a run that fetched nothing is skipped. -/
def stagedRows (context : StagingContext) (result : AdapterRunResult) :
    Except Raised (List StagedRow) :=
  if result.fetched.isEmpty then .ok []
  else (buildStagingBatch runtime context result).map AdapterStagingBatch.rows

def StationSource.poll (source : StationSource) (context : StagingContext) : Except Raised Poll := do
  let result ← source.run runtime
  let rows ← stagedRows runtime context result
  return ⟨result, rows⟩

def evidenceOf (normalize : RawSourceItem → Except Raised (Option NormalizedEvidence))
    (raw : RawSourceItem) : Option NormalizedEvidence :=
  (normalize raw).toOption.join

def rowOf (context : StagingContext) (fetched : List RawSourceItem)
    (evidence : NormalizedEvidence) : Option StagedRow :=
  (stagedRow runtime context fetched evidence).toOption

/-- The rows in the order of a batch. -/
def batchRows (row : NormalizedEvidence → Option StagedRow) (normalized : List NormalizedEvidence) :
    List StagedRow :=
  let checked := (normalized.filter fun evidence => evidenceErrors evidence = []).filterMap row
  (checked.filter fun row => row.rejectionReason.isNone) ++
    ((checked.filter fun row => row.rejectionReason.isSome) ++
      (normalized.filter fun evidence => evidenceErrors evidence ≠ []).filterMap row)

end Polls

section Evidences

variable {normalize : RawSourceItem → Except Raised (Option NormalizedEvidence)}
  {fetched : List RawSourceItem} {context : StagingContext} {result : AdapterRunResult}

theorem evidenceOf_eq_some {raw : RawSourceItem} {evidence : NormalizedEvidence} :
    evidenceOf normalize raw = some evidence ↔ Normalizes normalize raw evidence := by
  unfold evidenceOf Normalizes
  cases normalize raw with
  | error e => exact ⟨fun h => (by cases h), fun h => by cases h⟩
  | ok found => cases found <;> simp [Except.toOption]

theorem normalizeAll_eq {normalized : List NormalizedEvidence} {rejected : List Text}
    (h : normalizeAll normalize fetched = .ok (normalized, rejected)) :
    normalized = fetched.filterMap (evidenceOf normalize) ∧
      rejected = (fetched.filter fun raw => (evidenceOf normalize raw).isNone).map (·.sourceId) := by
  induction fetched generalizing normalized rejected with
  | nil =>
    cases h
    exact ⟨rfl, rfl⟩
  | cons raw rest ih =>
    unfold normalizeAll at h
    obtain ⟨found, hfound, h⟩ := Outcome.bind_eq_ok.mp h
    obtain ⟨⟨others, refused⟩, hothers, h⟩ := Outcome.bind_eq_ok.mp h
    obtain ⟨hnormalized, hrejected⟩ := ih hothers
    have hof : evidenceOf normalize raw = found := by
      rw [evidenceOf, hfound]
      cases found <;> rfl
    rw [List.filterMap_cons, List.filter_cons, hof]
    cases found with
    | none =>
      cases h
      exact ⟨hnormalized, by simp [hrejected]⟩
    | some evidence =>
      cases h
      exact ⟨by simp [hnormalized], by simp [hrejected]⟩

theorem rowOf_eq_some {evidence : NormalizedEvidence} {row : StagedRow} :
    rowOf runtime context fetched evidence = some row ↔
      stagedRow runtime context fetched evidence = .ok row := by
  unfold rowOf
  cases stagedRow runtime context fetched evidence <;> simp [Except.toOption]

theorem stagedRows_eq {rows : List StagedRow}
    (hempty : result.fetched = [] → result.normalized = [])
    (h : stagedRows runtime context result = .ok rows) :
    rows = batchRows (rowOf runtime context result.fetched) result.normalized := by
  unfold stagedRows at h
  split_ifs at h with hnone
  · cases h
    rw [hempty (List.isEmpty_iff.mp hnone)]
    rfl
  · unfold buildStagingBatch at h
    rw [if_neg hnone] at h
    split_ifs at h
    · cases h
    · cases hchecked : (result.normalized.filter fun evidence => evidenceErrors evidence = []).mapM
          (stagedRow runtime context result.fetched) with
      | error e =>
        rw [hchecked] at h
        cases h
      | ok checked =>
        cases hfailed : (result.normalized.filter fun evidence =>
            evidenceErrors evidence ≠ []).mapM (stagedRow runtime context result.fetched) with
        | error e =>
          rw [hchecked] at h
          simp only [hfailed] at h
          cases h
        | ok failed =>
          rw [hchecked] at h
          simp only [hfailed] at h
          cases h
          rw [Outcome.mapM_eq_filterMap hchecked, Outcome.mapM_eq_filterMap hfailed]
          rfl

end Evidences

/-! ### One item less -/

section Items

variable {normalize : RawSourceItem → Except Raised (Option NormalizedEvidence)}
  {before own after : List RawSourceItem} {context : StagingContext} {full without : Poll}
  {adapterKey : String}

/-- A poll over what was fetched. -/
structure PollsFetched (runtime : Runtime) (context : StagingContext) (adapterKey : String)
    (normalize : RawSourceItem → Except Raised (Option NormalizedEvidence))
    (fetched : List RawSourceItem) (poll : Poll) : Prop where
  run : runFetched adapterKey normalize fetched = .ok poll.result
  rows : stagedRows runtime context poll.result = .ok poll.rows

namespace PollsFetched

variable {fetched : List RawSourceItem} {poll : Poll}

theorem fields (h : PollsFetched runtime context adapterKey normalize fetched poll) :
    poll.result.fetched = fetched ∧
      poll.result.normalized = fetched.filterMap (evidenceOf normalize) ∧
      poll.result.rejected =
        (fetched.filter fun raw => (evidenceOf normalize raw).isNone).map (·.sourceId) ∧
      poll.rows = batchRows (rowOf runtime context fetched)
        (fetched.filterMap (evidenceOf normalize)) := by
  have hrun := h.run
  unfold runFetched at hrun
  obtain ⟨⟨normalized, rejected⟩, hall, hresult⟩ := Outcome.bind_eq_ok.mp hrun
  obtain ⟨hnormalized, hrejected⟩ := normalizeAll_eq hall
  have hresult := Except.ok.inj hresult
  have hfetched : poll.result.fetched = fetched := by rw [← hresult]
  have hfound : poll.result.normalized = fetched.filterMap (evidenceOf normalize) := by
    rw [← hresult]
    exact hnormalized
  have hrows := stagedRows_eq (fun hempty => by
    rw [hfound, ← hfetched, hempty]
    rfl) h.rows
  rw [hfetched, hfound] at hrows
  refine ⟨hfetched, hfound, ?_, hrows⟩
  rw [← hresult]
  exact hrejected

theorem mem_rows (h : PollsFetched runtime context adapterKey normalize fetched poll)
    {row : StagedRow} : row ∈ poll.rows ↔
      ∃ raw ∈ fetched, ∃ evidence, Normalizes normalize raw evidence ∧
        stagedRow runtime context fetched evidence = .ok row := by
  rw [h.fields.2.2.2]
  have hmem : ∀ normalized, row ∈ batchRows (rowOf runtime context fetched) normalized ↔
      ∃ evidence ∈ normalized, rowOf runtime context fetched evidence = some row := by
    intro normalized
    unfold batchRows
    simp only [List.mem_append, List.mem_filter, List.mem_filterMap, decide_eq_true_eq]
    constructor
    · rintro (⟨⟨evidence, ⟨hevidence, -⟩, hrow⟩, -⟩ | ⟨⟨evidence, ⟨hevidence, -⟩, hrow⟩, -⟩ |
        ⟨evidence, ⟨hevidence, -⟩, hrow⟩)
      · exact ⟨evidence, hevidence, hrow⟩
      · exact ⟨evidence, hevidence, hrow⟩
      · exact ⟨evidence, hevidence, hrow⟩
    · rintro ⟨evidence, hevidence, hrow⟩
      by_cases herrors : evidenceErrors evidence = []
      · cases hreason : row.rejectionReason with
        | none => exact Or.inl ⟨⟨evidence, ⟨hevidence, herrors⟩, hrow⟩, by simp⟩
        | some reason => exact Or.inr (Or.inl ⟨⟨evidence, ⟨hevidence, herrors⟩, hrow⟩, by simp⟩)
      · exact Or.inr (Or.inr ⟨evidence, ⟨hevidence, herrors⟩, hrow⟩)
  rw [hmem]
  constructor
  · rintro ⟨evidence, hevidence, hrow⟩
    obtain ⟨raw, hraw, hfound⟩ := List.mem_filterMap.mp hevidence
    exact ⟨raw, hraw, evidence, evidenceOf_eq_some.mp hfound, rowOf_eq_some.mp hrow⟩
  · rintro ⟨raw, hraw, evidence, hfound, hrow⟩
    exact ⟨evidence, List.mem_filterMap.mpr ⟨raw, hraw, evidenceOf_eq_some.mpr hfound⟩,
      rowOf_eq_some.mpr hrow⟩

end PollsFetched

end Items

/-! ### What the items carry -/

/-- What is staged of an item. -/
structure StationReading where
  stationId : Text
  observedAt : ℤ
  numbers : List Double
  isStaged : Bool

def StationReading.sourceId (reading : StationReading) : Text :=
  reading.stationId ++ text ":" ++ isoText reading.observedAt

def lastReading (readings : List StationReading) (sourceId : Text) : Option StationReading :=
  readings.reverse.find? fun reading => reading.sourceId = sourceId

/-- What an adapter makes of the raw item of a reading. -/
structure RawReads (normalize : RawSourceItem → Except Raised (Option NormalizedEvidence))
    (raw : RawSourceItem) (reading : StationReading) : Prop where
  sourceId : raw.sourceId = reading.sourceId
  payload : StationPayload reading.numbers raw.payload
  numbers : NumbersFinite raw.payload ↔ ∀ x ∈ reading.numbers, x.isFinite = true
  returns : Outcome.Returns (normalize raw) ↔
    (reading.isStaged = true → encodes reading.stationId = true)
  staged : ∀ found, normalize raw = .ok found → found.isSome = reading.isStaged
  evidence : ∀ evidence, Normalizes normalize raw evidence →
    evidence.sourceId = raw.sourceId ∧ evidence.eventType ≠ .floodWarning

/-- A source that reads its items one by one. -/
structure ReadsItems (runtime : Runtime) (source : List Value → StationSource)
    (parse : Members → Except Raised (Option Members))
    (normalize : RawSourceItem → Except Raised (Option NormalizedEvidence))
    (itemReading : Members → Except Raised (Option StationReading)) : Prop where
  fetch : ∀ items, (source items).fetch runtime =
    (parseItems parse items >>= fun records => .ok (records.map rawItemOf))
  normalizes : ∀ items, (source items).normalize runtime = normalize
  key : ∀ items, (source items).key = (source []).key
  skips : ∀ item, parse item = .ok none → itemReading item = .ok none
  reads : ∀ item record, parse item = .ok (some record) → ∃ reading,
    itemReading item = .ok (some reading) ∧ RawReads normalize (rawItemOf record) reading

section Readings

variable {source : List Value → StationSource} {parse : Members → Except Raised (Option Members)}
  {normalize : RawSourceItem → Except Raised (Option NormalizedEvidence)}
  {itemReading : Members → Except Raised (Option StationReading)} {items : List Value}
  {context : StagingContext} {poll : Poll}

namespace ReadsItems

/-- Each record has its reading. -/
theorem readings (h : ReadsItems runtime source parse normalize itemReading)
    {records : List Members} (hrecords : parseItems parse items = .ok records) :
    ∃ readings, parseItems itemReading items = .ok readings ∧
      List.Forall₂ (RawReads normalize) (records.map rawItemOf) readings := by
  induction items generalizing records with
  | nil =>
    cases hrecords
    exact ⟨[], rfl, List.Forall₂.nil⟩
  | cons item rest ih =>
    cases item with
    | object members =>
      obtain ⟨found, hfound, hrecords⟩ := Outcome.bind_eq_ok.mp hrecords
      rw [parseItems]
      cases found with
      | none =>
        obtain ⟨readings, hreadings, hrelated⟩ := ih hrecords
        exact ⟨readings, Outcome.bind_eq_ok.mpr ⟨none, h.skips members hfound, hreadings⟩, hrelated⟩
      | some record =>
        obtain ⟨others, hothers, heq⟩ := Outcome.bind_eq_ok.mp hrecords
        cases heq
        obtain ⟨readings, hreadings, hrelated⟩ := ih hothers
        obtain ⟨reading, hreading, hraw⟩ := h.reads members record hfound
        exact ⟨reading :: readings, Outcome.bind_eq_ok.mpr ⟨some reading, hreading,
          Outcome.bind_eq_ok.mpr ⟨readings, hreadings, rfl⟩⟩, List.Forall₂.cons hraw hrelated⟩
    | _ => exact ih hrecords

end ReadsItems

variable {fetched : List RawSourceItem} {readings : List StationReading}

theorem rel_lastReading (h : List.Forall₂ (RawReads normalize) fetched readings)
    (sourceId : Text) : Option.Rel (RawReads normalize) (rawBySourceId fetched sourceId)
      (lastReading readings sourceId) := by
  unfold rawBySourceId lastReading
  refine Outcome.forall₂_find? (List.forall₂_reverse_iff.mpr h) fun raw reading hraw => ?_
  rw [hraw.sourceId]

/-- The row of an item that is normalized has the numbers of the last reading of its id. -/
theorem exists_row (h : List.Forall₂ (RawReads normalize) fetched readings)
    {raw : RawSourceItem} (hraw : raw ∈ fetched) {evidence : NormalizedEvidence}
    (hfound : Normalizes normalize raw evidence) :
    ∃ row last, stagedRow runtime context fetched evidence = .ok row ∧
      lastReading readings raw.sourceId = some last ∧
        ((stagedDocument row).isFinite = true ↔ ∀ x ∈ last.numbers, x.isFinite = true) := by
  obtain ⟨reading, -, hraws⟩ := Outcome.forall₂_mem_left h hraw
  obtain ⟨hid, hevent⟩ := hraws.evidence evidence hfound
  obtain ⟨lastRaw, hlast⟩ := exists_rawBySourceId hraw
  have hrel := rel_lastReading h raw.sourceId
  rw [hlast] at hrel
  obtain ⟨last, hlastReading⟩ : ∃ last, lastReading readings raw.sourceId = some last := by
    cases hfind : lastReading readings raw.sourceId with
    | none =>
      rw [hfind] at hrel
      cases hrel
    | some last => exact ⟨last, rfl⟩
  rw [hlastReading] at hrel
  cases hrel with
  | some hreads =>
    have hjoined : rawBySourceId fetched evidence.sourceId = some lastRaw := by rw [hid, hlast]
    obtain ⟨row, hrow, -, hfinite⟩ := exists_stagedRow context hjoined hreads.payload hevent
    exact ⟨row, last, hrow, hlastReading, hfinite.trans hreads.numbers⟩

end Readings

end FloodRisk.Adapters
