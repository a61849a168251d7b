import FloodRisk.Adapters.StagedReadings

/-!
# Readings that are joined by source id

A batch joins evidence and raw items by source id, and takes the last raw item of an id.
-/

namespace FloodRisk.Adapters
open Python

/-- The row is tagged dry. -/
def DryTagged (row : StagedRow) : Prop :=
  ∃ tags, row.payload.lookup "tags" = some (.list tags) ∧ Value.text (text "dry") ∈ tags

def Normalizes (normalize : RawSourceItem → Except Raised (Option NormalizedEvidence))
    (raw : RawSourceItem) (evidence : NormalizedEvidence) : Prop :=
  normalize raw = .ok (some evidence)

/-- Each staged row has the reading of the item that its evidence was made of. -/
structure StagesOwnReadings (runtime : Runtime) (context : StagingContext)
    (normalize : RawSourceItem → Except Raised (Option NormalizedEvidence))
    (fetched : List RawSourceItem) (batch : AdapterStagingBatch) : Prop where
  own : ∀ raw ∈ fetched, ∀ evidence, Normalizes normalize raw evidence →
    ∃ row ∈ batch.rows, stagedRow runtime context fetched evidence = .ok row ∧
      CarriesReading row raw
  dry : ∀ row ∈ batch.rows, DryTagged row →
    ∃ depth, row.payload.lookup "flood_depth_cm" = some (.float depth) ∧ depth.isZero = true
  flooded : ∀ row ∈ batch.rows, ∀ depth, row.payload.lookup "flood_depth_cm" = some (.float depth) →
    Double.le (.finite 3) depth = true → ¬ DryTagged row

/-- A reading that is normalized agrees with the last item of its station and time. -/
def LastReadingsAgree (normalize : RawSourceItem → Except Raised (Option NormalizedEvidence))
    (fetched : List RawSourceItem) : Prop :=
  ∀ before last after, fetched = before ++ last :: after →
    (∀ other ∈ after, other.sourceId ≠ last.sourceId) →
    ∀ raw ∈ before, raw.sourceId = last.sourceId → (∃ evidence, Normalizes normalize raw evidence) →
      SameReading raw last

/-- What the adapters do with an item. -/
structure NormalizesReadings (normalize : RawSourceItem → Except Raised (Option NormalizedEvidence))
    (fetched : List RawSourceItem) : Prop where
  sourceId : ∀ raw evidence, Normalizes normalize raw evidence → evidence.sourceId = raw.sourceId
  dry : ∀ raw ∈ fetched, ∀ evidence, Normalizes normalize raw evidence → "dry" ∈ evidence.tags →
    ∃ depth, measurement raw "flood_depth_cm" = some depth ∧ depth.isZero = true

variable {runtime : Runtime} {context : StagingContext}
  {normalize : RawSourceItem → Except Raised (Option NormalizedEvidence)}
  {fetched : List RawSourceItem} {result : AdapterRunResult} {batch : AdapterStagingBatch}

/-! ### The run and the batch -/

theorem normalizeAll_spec {normalized : List NormalizedEvidence} {rejected : List Text}
    (h : normalizeAll normalize fetched = .ok (normalized, rejected)) (evidence : NormalizedEvidence) :
    evidence ∈ normalized ↔ ∃ raw ∈ fetched, Normalizes normalize raw evidence := by
  induction fetched generalizing normalized rejected with
  | nil =>
    cases h
    simp
  | cons raw rest ih =>
    unfold normalizeAll at h
    obtain ⟨found, hfound, h⟩ := Outcome.bind_eq_ok.mp h
    obtain ⟨⟨others, refused⟩, hothers, h⟩ := Outcome.bind_eq_ok.mp h
    have hrest := ih hothers
    rw [List.exists_mem_cons_iff, ← hrest]
    unfold Normalizes
    rw [hfound]
    cases found with
    | none =>
      cases h
      simp
    | some own =>
      cases h
      simp [List.mem_cons, eq_comm]

theorem runFetched_spec {adapterKey : String}
    (h : runFetched adapterKey normalize fetched = .ok result) : result.fetched = fetched ∧
      ∀ evidence, evidence ∈ result.normalized ↔ ∃ raw ∈ fetched, Normalizes normalize raw evidence := by
  unfold runFetched at h
  obtain ⟨⟨normalized, rejected⟩, hall, h⟩ := Outcome.bind_eq_ok.mp h
  cases h
  exact ⟨rfl, normalizeAll_spec hall⟩

/-- The rows of a batch are those of the evidence. -/
theorem buildStagingBatch_spec (h : buildStagingBatch runtime context result = .ok batch) :
    (∀ row ∈ batch.rows, ∃ evidence ∈ result.normalized,
      stagedRow runtime context result.fetched evidence = .ok row) ∧
    ∀ evidence ∈ result.normalized, ∃ row ∈ batch.rows,
      stagedRow runtime context result.fetched evidence = .ok row := by
  unfold buildStagingBatch at h
  split_ifs at h
  obtain ⟨checked, hchecked, h⟩ := Outcome.bind_eq_ok.mp h
  obtain ⟨failed, hfailed, h⟩ := Outcome.bind_eq_ok.mp h
  cases h
  have hrows : ∀ row, row ∈ AdapterStagingBatch.rows ⟨result.adapterKey,
      checked.filter fun row => row.rejectionReason.isNone,
      (checked.filter fun row => row.rejectionReason.isSome) ++ failed, result.rejected⟩ ↔
        row ∈ checked ∨ row ∈ failed := by
    intro row
    unfold AdapterStagingBatch.rows
    rw [List.mem_append, List.mem_append, List.mem_filter, List.mem_filter]
    cases row.rejectionReason with
    | none => simp
    | some reason => simp
  constructor
  · intro row hrow
    cases (hrows row).mp hrow with
    | inl hmem =>
      obtain ⟨evidence, hevidence, heq⟩ := Outcome.exists_of_mem_mapM hchecked hmem
      exact ⟨evidence, List.mem_of_mem_filter hevidence, heq⟩
    | inr hmem =>
      obtain ⟨evidence, hevidence, heq⟩ := Outcome.exists_of_mem_mapM hfailed hmem
      exact ⟨evidence, List.mem_of_mem_filter hevidence, heq⟩
  · intro evidence hevidence
    by_cases herrors : evidenceErrors evidence = []
    · obtain ⟨row, hrow, heq⟩ := Outcome.mapM_mem hchecked
        (List.mem_filter.mpr ⟨hevidence, decide_eq_true herrors⟩)
      exact ⟨row, (hrows row).mpr (Or.inl hrow), heq⟩
    · obtain ⟨row, hrow, heq⟩ := Outcome.mapM_mem hfailed
        (List.mem_filter.mpr ⟨hevidence, decide_eq_true herrors⟩)
      exact ⟨row, (hrows row).mpr (Or.inr hrow), heq⟩

/-! ### The join -/

theorem rawBySourceId_eq_some {sourceId : Text} {last : RawSourceItem} :
    rawBySourceId fetched sourceId = some last ↔
      last.sourceId = sourceId ∧ ∃ before after, fetched = before ++ last :: after ∧
        ∀ other ∈ after, other.sourceId ≠ sourceId := by
  unfold rawBySourceId
  rw [List.find?_eq_some_iff_append]
  constructor
  · rintro ⟨hid, after, before, heq, hafter⟩
    refine ⟨of_decide_eq_true hid, before.reverse, after.reverse, ?_, ?_⟩
    · have hreverse := congrArg List.reverse heq
      rw [List.reverse_reverse] at hreverse
      rw [hreverse, List.reverse_append, List.reverse_cons, List.append_assoc, List.singleton_append]
    · intro other hother
      have hdiffer := hafter other (List.mem_reverse.mp hother)
      simpa using hdiffer
  · rintro ⟨hid, before, after, rfl, hafter⟩
    refine ⟨decide_eq_true hid, after.reverse, before.reverse, ?_, ?_⟩
    · rw [List.reverse_append, List.reverse_cons, List.append_assoc, List.singleton_append]
    · intro other hother
      have hdiffer := hafter other (List.mem_reverse.mp hother)
      simpa using hdiffer

/-- An item that was fetched has a last one of its id. -/
theorem exists_rawBySourceId {raw : RawSourceItem} (h : raw ∈ fetched) :
    ∃ last, rawBySourceId fetched raw.sourceId = some last := by
  cases hfind : rawBySourceId fetched raw.sourceId with
  | some last => exact ⟨last, rfl⟩
  | none =>
    unfold rawBySourceId at hfind
    have hdiffer := List.find?_eq_none.mp hfind raw (List.mem_reverse.mpr h)
    exact absurd (decide_eq_true rfl) hdiffer

theorem toStagingUpsert_tags {evidence : NormalizedEvidence} {reason : Option String}
    {rawItem : Option RawSourceItem} {generation : Option IsoFormat.Reading} {row : StagedRow}
    (h : toStagingUpsert runtime context evidence reason rawItem generation = .ok row) :
    row.payload.lookup "tags" = some (.list (evidence.tags.map fun tag => .text (text tag))) := by
  obtain ⟨metrics, passthrough, hmetrics, hpassthrough, hpayload⟩ := toStagingUpsert_payload h
  have hlocation : (locationPayload (payloadOf rawItem)).lookup "tags" = none :=
    lookup_eq_none_of_keys (locationPayload_keys _) (by decide)
  have hmetric : metrics.lookup "tags" = none :=
    lookup_eq_none_of_keys (metricsOf_keys hmetrics) (by decide)
  have hpassed : passthrough.lookup "tags" = none :=
    lookup_eq_none_of_keys (passthroughPayload_keys hpassthrough) (by decide)
  have hfirst : ("tags" == "location_text") = false := by decide
  rw [hpayload, List.lookup_cons, hfirst, List.lookup_append, hlocation, Option.none_or,
    List.lookup_append, hmetric, Option.none_or, List.lookup_append, hpassed, Option.none_or]
  cases generation with
  | none => cases context.snapshotGenerationMode <;> rfl
  | some started => cases context.snapshotGenerationMode <;> rfl

/-- A row has the reading of the last item of its id, and the tags of its evidence. -/
theorem stagedRow_spec {evidence : NormalizedEvidence} {row : StagedRow} {last : RawSourceItem}
    (hlast : rawBySourceId fetched evidence.sourceId = some last)
    (h : stagedRow runtime context fetched evidence = .ok row) :
    CarriesReading row last ∧
      row.payload.lookup "tags" = some (.list (evidence.tags.map fun tag => .text (text tag))) := by
  unfold stagedRow at h
  dsimp only at h
  rw [hlast] at h
  split_ifs at h
  · exact ⟨toStagingUpsert_spec h, toStagingUpsert_tags h⟩
  · obtain ⟨errors, -, h⟩ := Outcome.bind_eq_ok.mp h
    split_ifs at h
    · exact ⟨toStagingUpsert_spec h, toStagingUpsert_tags h⟩
    · exact ⟨toStagingUpsert_spec h, toStagingUpsert_tags h⟩

theorem CarriesReading.iff_same {row : StagedRow} {raw last : RawSourceItem}
    (h : CarriesReading row last) : CarriesReading row raw ↔ SameReading raw last := by
  constructor
  · intro hraw
    refine ⟨fun key hkey => ?_, hraw.location.symm.trans h.location⟩
    have heq := (hraw.measurements key hkey).symm.trans (h.measurements key hkey)
    exact Option.map_injective (fun _ _ hfloat => Value.float.inj hfloat) heq
  · intro hsame
    refine ⟨fun key hkey => ?_, h.location.trans hsame.location.symm⟩
    rw [h.measurements key hkey, hsame.measurements key hkey]

/-! ### Runs -/

/-- The rows of a batch have the readings of their own items exactly where each reading that is
normalized agrees with the last item of its id. -/
theorem stagesOwnReadings_iff (hreadings : NormalizesReadings normalize result.fetched)
    (hrun : ∀ evidence, evidence ∈ result.normalized ↔
      ∃ raw ∈ result.fetched, Normalizes normalize raw evidence)
    (hbuild : buildStagingBatch runtime context result = .ok batch) :
    StagesOwnReadings runtime context normalize result.fetched batch ↔
      LastReadingsAgree normalize result.fetched := by
  obtain ⟨hrows, hevidence⟩ := buildStagingBatch_spec hbuild
  constructor
  · intro hown before last after heq hafter raw hraw hid ⟨evidence, hnormalized⟩
    have hmem : raw ∈ result.fetched := heq ▸ List.mem_append_left _ hraw
    obtain ⟨row, -, hrow, hcarries⟩ := hown.own raw hmem evidence hnormalized
    have hlast : rawBySourceId result.fetched evidence.sourceId = some last := by
      rw [hreadings.sourceId raw evidence hnormalized, hid]
      exact rawBySourceId_eq_some.mpr ⟨rfl, before, after, heq, hafter⟩
    exact (stagedRow_spec hlast hrow).1.iff_same.mp hcarries
  · intro hagree
    -- the row of an item has its reading, whichever item the join picks
    have hown : ∀ raw ∈ result.fetched, ∀ evidence, Normalizes normalize raw evidence →
        ∀ row, stagedRow runtime context result.fetched evidence = .ok row →
          CarriesReading row raw := by
      intro raw hraw evidence hnormalized row hrow
      obtain ⟨last, hlast⟩ := exists_rawBySourceId hraw
      have hjoin := hlast
      rw [← hreadings.sourceId raw evidence hnormalized] at hjoin
      obtain ⟨hid, before, after, heq, hafter⟩ := rawBySourceId_eq_some.mp hlast
      apply (stagedRow_spec hjoin hrow).1.iff_same.mpr
      rw [heq] at hraw
      rcases List.mem_append.mp hraw with hbefore | hrest
      · exact hagree before last after heq (fun other hother => hid ▸ hafter other hother) raw hbefore
          hid.symm ⟨evidence, hnormalized⟩
      · cases hrest with
        | head => exact ⟨fun _ _ => rfl, rfl⟩
        | tail _ hlater => exact absurd rfl (hafter raw hlater)
    have hdry : ∀ row ∈ batch.rows, DryTagged row →
        ∃ depth, row.payload.lookup "flood_depth_cm" = some (.float depth) ∧ depth.isZero = true := by
      rintro row hrow ⟨tags, htags, hdry⟩
      obtain ⟨evidence, hnormalized, hstaged⟩ := hrows row hrow
      obtain ⟨raw, hraw, hraws⟩ := (hrun evidence).mp hnormalized
      have hjoined := hreadings.sourceId raw evidence hraws
      obtain ⟨last, hlast⟩ := exists_rawBySourceId hraw
      rw [← hjoined] at hlast
      have htagged := (stagedRow_spec hlast hstaged).2
      rw [htags] at htagged
      cases htagged
      obtain ⟨tag, htag, heq⟩ := List.mem_map.mp hdry
      have hname : tag = "dry" := text_injective (Value.text.inj heq)
      obtain ⟨depth, hdepth, hzero⟩ := hreadings.dry raw hraw evidence hraws (hname ▸ htag)
      have hcarries := (hown raw hraw evidence hraws row hstaged).measurements "flood_depth_cm"
        (by decide)
      rw [hdepth] at hcarries
      exact ⟨depth, hcarries, hzero⟩
    refine ⟨fun raw hraw evidence hnormalized => ?_, hdry, ?_⟩
    · obtain ⟨row, hrow, hstaged⟩ := hevidence evidence ((hrun evidence).mpr ⟨raw, hraw, hnormalized⟩)
      exact ⟨row, hrow, hstaged, hown raw hraw evidence hnormalized row hstaged⟩
    · intro row hrow depth hdepth hthree htagged
      obtain ⟨zero, hzero, hiszero⟩ := hdry row hrow htagged
      rw [hdepth] at hzero
      cases hzero
      unfold Double.isZero at hiszero
      rw [Bool.or_eq_true, decide_eq_true_eq, decide_eq_true_eq] at hiszero
      rcases hiszero with rfl | rfl
      · exact absurd hthree (by decide)
      · exact absurd hthree (by decide)

end FloodRisk.Adapters
