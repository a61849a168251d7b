import FloodRisk.WraIncident.Incidents

/-!
# Every incident of a poll is accounted for

When the run of a payload that was parsed returns.
-/

namespace FloodRisk.WraIncident
open Python Adapters

variable {runtime : IncidentRuntime}

/-- A record with a point and a location text. -/
def Locatable (record : IncidentRecord) : Bool := record.locationText.isSome && record.point.isSome

/-- The records whose rejections are reported. -/
def reported (records : List IncidentRecord) : List IncidentRecord :=
  (records.filter fun record => !Locatable record).take 256

/-- The incident ids of a poll that the run accepts. -/
structure IdsAccepted (records : List IncidentRecord) : Prop where
  encoded : ∀ record ∈ records, Locatable record = true → encodes record.incidentId = true
  short : ∀ record ∈ reported records, record.incidentId.length ≤ 512
  unique : ((reported records).map IncidentRecord.incidentId).Nodup
  disjoint : ∀ record ∈ reported records, ∀ other ∈ records, Locatable other = true →
    record.incidentId ≠ other.incidentId

/-- The run returns, and loses no incident. -/
def AccountsForIncidents (runtime : IncidentRuntime) (payload : Value)
    (records : List IncidentRecord) : Prop :=
  ∃ result, run runtime payload = .ok result ∧
    (∀ record ∈ records,
      record.incidentId ∈ result.normalized.map IncidentEvidence.sourceId ∨
        record.incidentId ∈ result.rejected) ∧
    ∀ record ∈ records, Locatable record = true →
      record.incidentId ∈ result.normalized.map IncidentEvidence.sourceId

/-! ### Records that were parsed -/

/-- The texts of a record are stripped, and not empty. -/
structure WellRead (record : IncidentRecord) : Prop where
  incidentId : stripText record.incidentId = record.incidentId ∧ record.incidentId ≠ []
  locationText : ∀ t ∈ record.locationText, stripText t = t ∧ t ≠ []

def StrippedText (t : Option Text) : Prop := ∀ s ∈ t, stripText s = s ∧ s ≠ []

theorem strippedText_of_optionalStr {value : Value} {t : Option Text}
    (h : optionalStr runtime.toRuntime value = .ok t) : StrippedText t := by
  intro s hs
  rw [Option.mem_def] at hs
  subst hs
  exact optionalStr_eq_some runtime.toRuntime h

theorem StrippedText.or {s t : Option Text} (hs : StrippedText s) (ht : StrippedText t) :
    StrippedText (s.or t) := by
  cases s with
  | none => exact ht
  | some _ => exact hs

theorem wellRead_of_parseIncident {cityCode : Option Text} {incident : Members}
    {record : IncidentRecord} (hcity : StrippedText cityCode)
    (h : parseIncident runtime cityCode incident = .ok (some record)) : WellRead record := by
  unfold parseIncident at h
  obtain ⟨incidentId, hid, h⟩ := Outcome.bind_eq_ok.mp h
  obtain ⟨occurredAt, -, h⟩ := Outcome.bind_eq_ok.mp h
  split at h
  · obtain ⟨location, hlocation, h⟩ := Outcome.bind_eq_ok.mp h
    obtain ⟨operatorName, hoperator, h⟩ := Outcome.bind_eq_ok.mp h
    obtain ⟨townCode, htown, h⟩ := Outcome.bind_eq_ok.mp h
    obtain ⟨point, -, h⟩ := Outcome.bind_eq_ok.mp h
    obtain ⟨categoryCode, -, h⟩ := Outcome.bind_eq_ok.mp h
    obtain ⟨sourceCode, -, h⟩ := Outcome.bind_eq_ok.mp h
    obtain ⟨caseNo, -, h⟩ := Outcome.bind_eq_ok.mp h
    obtain ⟨incidentType, -, h⟩ := Outcome.bind_eq_ok.mp h
    obtain ⟨recededAt, -, h⟩ := Outcome.bind_eq_ok.mp h
    obtain ⟨reportedDepth, -, h⟩ := Outcome.bind_eq_ok.mp h
    cases h
    have htext : StrippedText (((location.or operatorName).or townCode).or cityCode) :=
      (((strippedText_of_optionalStr hlocation).or (strippedText_of_optionalStr hoperator)).or
        (strippedText_of_optionalStr htown)).or hcity
    exact { incidentId := optionalStr_eq_some runtime.toRuntime hid, locationText := htext }
  · cases h

theorem wellRead_of_parseIncidents {cityCode : Option Text} {items : List Value}
    (hcity : StrippedText cityCode) : ∀ {parsed found : List IncidentRecord},
      (∀ record ∈ parsed, WellRead record) →
      parseIncidents runtime cityCode parsed items = .ok found →
      ∀ record ∈ found, WellRead record := by
  induction items with
  | nil =>
    intro parsed found hparsed h
    cases h
    exact hparsed
  | cons item rest ih =>
    intro parsed found hparsed h
    cases item with
    | object incident =>
      unfold parseIncidents at h
      obtain ⟨record, hrecord, h⟩ := Outcome.bind_eq_ok.mp h
      dsimp only at h
      split_ifs at h
      refine ih ?_ h
      intro other hother
      rcases List.mem_append.mp hother with hother | hother
      · exact hparsed other hother
      · rw [Option.mem_toList] at hother
        subst hother
        exact wellRead_of_parseIncident hcity (mapError_eq_ok.mp hrecord)
    | _ => exact ih hparsed h

theorem wellRead_of_parseCities {cities : List Value} : ∀ {parsed found : List IncidentRecord},
    (∀ record ∈ parsed, WellRead record) → parseCities runtime parsed cities = .ok found →
      ∀ record ∈ found, WellRead record := by
  induction cities with
  | nil =>
    intro parsed found hparsed h
    cases h
    exact hparsed
  | cons item rest ih =>
    intro parsed found hparsed h
    cases item with
    | object city =>
      unfold parseCities at h
      obtain ⟨cityCode, hcity, h⟩ := Outcome.bind_eq_ok.mp h
      split at h
      · exact ih hparsed h
      · obtain ⟨incidents, hincidents, h⟩ := Outcome.bind_eq_ok.mp h
        exact ih (wellRead_of_parseIncidents
          (strippedText_of_optionalStr (mapError_eq_ok.mp hcity)) hparsed hincidents) h
      · cases h
    | _ => exact ih hparsed h

theorem wellRead_of_parse {payload : Value} {records : List IncidentRecord}
    (h : parseIncidentPayload runtime payload = .ok records) :
    ∀ record ∈ records, WellRead record := by
  unfold parseIncidentPayload at h
  split at h
  · split at h
    · exact wellRead_of_parseCities (fun _ hrecord => absurd hrecord List.not_mem_nil) h
    · cases h
  · cases h

/-! ### One record -/

theorem normalize_of_not_locatable {record : IncidentRecord} (h : Locatable record = false) :
    normalize runtime record = .ok none := by
  unfold normalize
  cases hlocation : record.locationText with
  | none => rfl
  | some location =>
    have hpoint : record.point.isNone = true := by
      cases hsome : record.point with
      | none => rfl
      | some point =>
        unfold Locatable at h
        rw [hlocation, hsome] at h
        cases h
    by_cases hempty : stripText location = []
    · rw [Option.filter_some, if_neg (by simp [hempty])]
    · rw [Option.filter_some, if_pos (by simp [hempty])]
      dsimp only
      rw [hpoint, Bool.or_true, if_pos rfl]

theorem normalize_of_locatable {record : IncidentRecord} (hread : WellRead record)
    (h : Locatable record = true) :
    (encodes record.incidentId = true ∧ ∃ evidence, normalize runtime record = .ok (some evidence) ∧
      evidence.sourceId = record.incidentId) ∨
    (encodes record.incidentId = false ∧ ¬ Outcome.Returns (normalize runtime record)) := by
  unfold Locatable at h
  rw [Bool.and_eq_true, Option.isSome_iff_exists, Option.isSome_iff_exists] at h
  obtain ⟨⟨location, hlocation⟩, point, hpoint⟩ := h
  obtain ⟨hstrip, hne⟩ := hread.locationText location hlocation
  have hfilter : (record.locationText.filter fun t => stripText t ≠ []) = some location := by
    rw [hlocation, Option.filter_some, hstrip, if_pos (decide_eq_true hne)]
  have hprecision : record.locationPrecision = "point" := by
    unfold IncidentRecord.locationPrecision
    rw [hpoint]
    rfl
  have hopen : (decide (record.locationPrecision ≠ "point") || record.point.isNone) = false := by
    rw [hprecision, hpoint]
    rfl
  unfold normalize
  rw [hfilter]
  dsimp only
  rw [hopen, if_neg Bool.false_ne_true]
  unfold stableEvidenceId
  cases hencodes : encodes record.incidentId with
  | true => exact Or.inl ⟨rfl, _, rfl, rfl⟩
  | false => exact Or.inr ⟨rfl, Outcome.not_returns_error _⟩

theorem canonicalReason_rejectionReason (record : IncidentRecord) :
    canonicalReason (rejectionReason record) = true := by
  unfold rejectionReason
  split_ifs
  · decide
  · decide

theorem sourceRejection_of_wellRead {record : IncidentRecord} (hread : WellRead record) :
    sourceRejection record.incidentId (rejectionReason record) =
      if record.incidentId.length ≤ 512 then .ok ⟨record.incidentId, rejectionReason record⟩
      else .error .valueError := by
  unfold sourceRejection
  rw [canonicalReason_rejectionReason, if_pos rfl]
  by_cases hlength : record.incidentId.length ≤ 512
  · rw [if_pos hlength, if_neg]
    rintro (hempty | hstrip | hlong)
    · exact hread.incidentId.2 hempty
    · exact hstrip hread.incidentId.1.symm
    · omega
  · rw [if_neg hlength, if_pos (Or.inr (Or.inr (by omega)))]

/-! ### The loop -/

/-- The records that the loop has done leave these three lists. -/
structure LoopState (done : List IncidentRecord) (state : RunState) : Prop where
  normalized : state.normalized.map IncidentEvidence.sourceId =
    (done.filter Locatable).map IncidentRecord.incidentId
  rejected : state.rejected =
    (done.filter fun record => !Locatable record).map IncidentRecord.incidentId
  details : state.rejectionDetails.map SourceRejection.sourceId =
    (reported done).map IncidentRecord.incidentId

theorem reported_append (done : List IncidentRecord) (record : IncidentRecord) :
    reported (done ++ [record]) =
      if !Locatable record ∧ (reported done).length < 256 then reported done ++ [record]
      else reported done := by
  unfold reported
  rw [List.filter_append, List.filter_cons, List.filter_nil]
  cases hlocatable : Locatable record with
  | true => simp
  | false =>
    rw [if_pos (by decide), List.take_append, List.length_take]
    by_cases hless : (done.filter fun record => !Locatable record).length < 256
    · rw [if_pos ⟨by decide, by omega⟩]
      obtain ⟨room, hroom⟩ := Nat.exists_eq_add_of_lt hless
      rw [show 256 - (done.filter fun record => !Locatable record).length = room + 1 by omega]
      simp
    · rw [if_neg (by omega), show 256 - (done.filter fun record => !Locatable record).length = 0 by
        omega]
      simp

theorem LoopState.accept {done : List IncidentRecord} {state : RunState}
    (hstate : LoopState done state) {record : IncidentRecord} (hlocatable : Locatable record = true)
    {evidence : IncidentEvidence} (hid : evidence.sourceId = record.incidentId) :
    LoopState (done ++ [record])
      { state with normalized := state.normalized ++ [evidence] } := by
  have hreported : reported (done ++ [record]) = reported done := by
    rw [reported_append, if_neg (by simp [hlocatable])]
  constructor
  · simp [hstate.normalized, hlocatable, hid]
  · simp [hstate.rejected, hlocatable]
  · rw [hreported]
    exact hstate.details

theorem LoopState.reject {done : List IncidentRecord} {state : RunState}
    (hstate : LoopState done state) {record : IncidentRecord}
    (hlocatable : Locatable record = false) {details : List SourceRejection}
    (hdetails : details.map SourceRejection.sourceId =
      (reported (done ++ [record])).map IncidentRecord.incidentId) :
    LoopState (done ++ [record])
      ⟨state.normalized, state.rejected ++ [record.incidentId], details⟩ := by
  constructor
  · simp [hstate.normalized, hlocatable]
  · simp [hstate.rejected, hlocatable]
  · exact hdetails

theorem LoopState.length_details {done : List IncidentRecord} {state : RunState}
    (hstate : LoopState done state) : state.rejectionDetails.length = (reported done).length := by
  have h := congrArg List.length hstate.details
  rwa [List.length_map, List.length_map] at h

theorem isPrefix_reported (done rest : List IncidentRecord) :
    reported done <+: reported (done ++ rest) := by
  unfold reported
  rw [List.filter_append, List.take_append]
  exact List.prefix_append _ _

/-- The loop returns exactly where the ids of the locatable records are encoded and those of the
reported ones are short. -/
theorem runLoop_spec {rest : List IncidentRecord} : ∀ {done : List IncidentRecord}
    {state : RunState}, LoopState done state → (∀ record ∈ rest, WellRead record) →
    (∀ record ∈ reported done, record.incidentId.length ≤ 512) →
      (∀ final, runLoop runtime state rest = .ok final → LoopState (done ++ rest) final) ∧
      (Outcome.Returns (runLoop runtime state rest) ↔
        (∀ record ∈ rest, Locatable record = true → encodes record.incidentId = true) ∧
          ∀ record ∈ reported (done ++ rest), record.incidentId.length ≤ 512) := by
  induction rest with
  | nil =>
    intro done state hstate _ hshort
    rw [List.append_nil]
    constructor
    · intro final hfinal
      cases hfinal
      exact hstate
    · exact ⟨fun _ => ⟨fun _ hrecord => absurd hrecord List.not_mem_nil, hshort⟩,
        fun _ => Outcome.returns_ok state⟩
  | cons record rest ih =>
    intro done state hstate hread hshort
    have hrest : ∀ other ∈ rest, WellRead other :=
      fun other hother => hread other (List.mem_cons_of_mem record hother)
    rw [List.append_cons, List.forall_mem_cons]
    cases hlocatable : Locatable record with
    | true =>
      rcases @normalize_of_locatable runtime record (hread record List.mem_cons_self) hlocatable
        with ⟨hencodes, evidence, hnormalize, hid⟩ | ⟨hencodes, hraises⟩
      · have hloop : runLoop runtime state (record :: rest) =
            runLoop runtime { state with normalized := state.normalized ++ [evidence] } rest := by
          rw [runLoop, hnormalize]
          rfl
        obtain ⟨hfinal, hreturns⟩ := ih (hstate.accept hlocatable hid) hrest (by
          rw [reported_append, if_neg (by simp [hlocatable])]
          exact hshort)
        rw [hloop]
        refine ⟨hfinal, hreturns.trans ?_⟩
        rw [hencodes]
        simp
      · have hloop : ¬ Outcome.Returns (runLoop runtime state (record :: rest)) := by
          intro h
          rw [runLoop, Outcome.returns_bind] at h
          obtain ⟨found, hfound, -⟩ := h
          exact hraises ⟨found, hfound⟩
        refine ⟨fun final hfinal => absurd ⟨final, hfinal⟩ hloop, ?_⟩
        rw [hencodes]
        simp [hloop]
    | false =>
      have hnormalize := @normalize_of_not_locatable runtime record hlocatable
      by_cases hroom : state.rejectionDetails.length < 256
      · have hreported : reported (done ++ [record]) = reported done ++ [record] := by
          rw [reported_append, if_pos ⟨by simp [hlocatable], hstate.length_details ▸ hroom⟩]
        by_cases hlength : record.incidentId.length ≤ 512
        · have hloop : runLoop runtime state (record :: rest) =
              runLoop runtime ⟨state.normalized, state.rejected ++ [record.incidentId],
                state.rejectionDetails ++ [⟨record.incidentId, rejectionReason record⟩]⟩ rest := by
            rw [runLoop, hnormalize]
            dsimp only [bind, Except.bind]
            rw [if_pos hroom, sourceRejection_of_wellRead (hread record List.mem_cons_self),
              if_pos hlength]
          have hnext : LoopState (done ++ [record]) ⟨state.normalized,
              state.rejected ++ [record.incidentId],
              state.rejectionDetails ++ [⟨record.incidentId, rejectionReason record⟩]⟩ := by
            apply hstate.reject hlocatable
            rw [hreported, List.map_append, List.map_append, hstate.details]
            rfl
          obtain ⟨hfinal, hreturns⟩ := ih hnext hrest (by
            rw [hreported]
            intro other hother
            rcases List.mem_append.mp hother with hother | hother
            · exact hshort other hother
            · rw [List.mem_singleton.mp hother]
              exact hlength)
          rw [hloop]
          refine ⟨hfinal, hreturns.trans ?_⟩
          simp
        · have hloop : ¬ Outcome.Returns (runLoop runtime state (record :: rest)) := by
            rw [runLoop, hnormalize]
            dsimp only [bind, Except.bind]
            rw [if_pos hroom, sourceRejection_of_wellRead (hread record List.mem_cons_self),
              if_neg hlength]
            exact Outcome.not_returns_error _
          refine ⟨fun final hfinal => absurd ⟨final, hfinal⟩ hloop, ?_⟩
          refine ⟨fun h => absurd h hloop, fun h => absurd (h.2 record ?_) hlength⟩
          apply (isPrefix_reported (done ++ [record]) rest).mem
          rw [hreported]
          simp
      · have hreported : reported (done ++ [record]) = reported done := by
          rw [reported_append, if_neg fun h => hroom (hstate.length_details ▸ h.2)]
        have hloop : runLoop runtime state (record :: rest) =
            runLoop runtime ⟨state.normalized, state.rejected ++ [record.incidentId],
              state.rejectionDetails⟩ rest := by
          rw [runLoop, hnormalize]
          dsimp only [bind, Except.bind]
          rw [if_neg hroom]
        obtain ⟨hfinal, hreturns⟩ := ih (hstate.reject hlocatable (by
            rw [hreported]
            exact hstate.details)) hrest (by
          rw [hreported]
          exact hshort)
        rw [hloop]
        refine ⟨hfinal, hreturns.trans ?_⟩
        simp

/-! ### The run -/

theorem forall_details {done : List IncidentRecord} {state : RunState}
    (hstate : LoopState done state) {P : Text → Prop} :
    (∀ rejection ∈ state.rejectionDetails, P rejection.sourceId) ↔
      ∀ record ∈ reported done, P record.incidentId := by
  rw [← List.forall_mem_map, hstate.details, List.forall_mem_map]

theorem acceptsRejections_iff {records : List IncidentRecord} {state : RunState}
    (hstate : LoopState records state) :
    AcceptsRejections (state.normalized.map IncidentEvidence.sourceId) state.rejected
        state.rejectionDetails ↔
      ((reported records).map IncidentRecord.incidentId).Nodup ∧
        ∀ record ∈ reported records, ∀ other ∈ records, Locatable other = true →
          record.incidentId ≠ other.incidentId := by
  have hdisjoint : (∀ rejection ∈ state.rejectionDetails,
      rejection.sourceId ∉ state.normalized.map IncidentEvidence.sourceId) ↔
      ∀ record ∈ reported records, ∀ other ∈ records, Locatable other = true →
        record.incidentId ≠ other.incidentId := by
    rw [forall_details hstate (P := fun id => id ∉ state.normalized.map IncidentEvidence.sourceId),
      hstate.normalized]
    simp only [List.mem_map, List.mem_filter, not_exists, not_and, and_imp]
    exact forall₂_congr fun record _ => forall₃_congr fun other _ _ => ne_comm
  constructor
  · intro h
    exact ⟨hstate.details ▸ h.unique, hdisjoint.mp h.disjoint⟩
  · intro h
    constructor
    · rw [hstate.length_details]
      exact List.length_take_le _ _
    · rw [hstate.details]
      exact h.1
    · rw [forall_details hstate (P := fun id => id ∈ state.rejected), hstate.rejected]
      intro record hrecord
      exact List.mem_map_of_mem (List.mem_of_mem_take hrecord)
    · exact hdisjoint.mpr h.2

theorem loopState_nil : LoopState [] ⟨[], [], []⟩ := ⟨rfl, rfl, rfl⟩

theorem accountsForIncidents_of_loopState {payload : Value} {records : List IncidentRecord}
    {state : RunState} (hrun : run runtime payload = .ok state) (hstate : LoopState records state) :
    AccountsForIncidents runtime payload records := by
  have hnormalized : ∀ record ∈ records, Locatable record = true →
      record.incidentId ∈ state.normalized.map IncidentEvidence.sourceId := by
    intro record hrecord hlocatable
    rw [hstate.normalized]
    exact List.mem_map_of_mem (List.mem_filter.mpr ⟨hrecord, hlocatable⟩)
  refine ⟨state, hrun, ?_, hnormalized⟩
  intro record hrecord
  cases hlocatable : Locatable record with
  | true => exact Or.inl (hnormalized record hrecord hlocatable)
  | false =>
    apply Or.inr
    rw [hstate.rejected]
    exact List.mem_map_of_mem (List.mem_filter.mpr ⟨hrecord, by simp [hlocatable]⟩)

/-- A poll is accounted for exactly where the ids of its incidents are accepted. -/
theorem accountsForIncidents_iff {payload : Value} {records : List IncidentRecord}
    (hparse : parseIncidentPayload runtime payload = .ok records) :
    AccountsForIncidents runtime payload records ↔ IdsAccepted records := by
  obtain ⟨hfinal, hreturns⟩ := runLoop_spec loopState_nil (wellRead_of_parse hparse)
    (fun _ hrecord => absurd hrecord List.not_mem_nil)
  rw [List.nil_append] at hfinal hreturns
  constructor
  · rintro ⟨state, hrun, -⟩
    unfold run at hrun
    obtain ⟨parsed, hparsed, hrun⟩ := Outcome.bind_eq_ok.mp hrun
    rw [hparse] at hparsed
    cases hparsed
    obtain ⟨final, hloop, hrun⟩ := Outcome.bind_eq_ok.mp hrun
    obtain ⟨_, hcheck, -⟩ := Outcome.bind_eq_ok.mp hrun
    have hloop := mapError_eq_ok.mp hloop
    obtain ⟨hencoded, hshort⟩ := hreturns.mp ⟨final, hloop⟩
    obtain ⟨hunique, hdisjoint⟩ := (acceptsRejections_iff (hfinal final hloop)).mp
      (returns_checkRejections.mp ⟨_, mapError_eq_ok.mp hcheck⟩)
    exact ⟨hencoded, hshort, hunique, hdisjoint⟩
  · intro h
    obtain ⟨final, hloop⟩ := hreturns.mpr ⟨h.encoded, h.short⟩
    have hstate := hfinal final hloop
    obtain ⟨checked, hcheck⟩ := returns_checkRejections.mpr
      ((acceptsRejections_iff hstate).mpr ⟨h.unique, h.disjoint⟩)
    apply accountsForIncidents_of_loopState _ hstate
    unfold run
    exact Outcome.bind_eq_ok.mpr ⟨records, hparse, Outcome.bind_eq_ok.mpr
      ⟨final, mapError_eq_ok.mpr hloop, Outcome.bind_eq_ok.mpr ⟨checked, mapError_eq_ok.mpr hcheck, rfl⟩⟩⟩

def plainRuntime : IncidentRuntime where
  printing := ⟨fun _ => [], fun _ => .error .typeError⟩
  parseFloat := fun _ => none
  casefold := id
  formatFixed := fun _ _ => []
  shortest := fun q => ⟨q.num.natAbs, 0⟩
  sha256 := id
  subtract := fun _ _ => .nan
  twd97ToWgs84 := fun _ _ => .error .valueError
  formatGeneral := fun _ => []

def incident (id : String) (point : Value) : Value :=
  .object [("DisasterFloodingID", .text (text id)), ("Time", .text (text "2026-07-01T08:00:00")),
    ("Location", .text (text "民生路")), ("Point", point)]

def onePoint : Value := .object [("Latitude", .integer 25), ("Longitude", .integer 121)]

/-- A poll of one city. -/
def poll (incidents : List Value) : Value :=
  .object [("Data", .list [.object [("CityCode", .text (text "63")),
    ("DisasterFlooding", .list incidents)]])]

def parsedRecords (payload : Value) : List IncidentRecord :=
  match parseIncidentPayload plainRuntime payload with
  | .ok records => records
  | .error _ => []

def parses (payload : Value) : Bool :=
  match parseIncidentPayload plainRuntime payload with
  | .ok _ => true
  | .error _ => false

theorem parseIncidentPayload_of_parses {payload : Value} (h : parses payload = true) :
    parseIncidentPayload plainRuntime payload = .ok (parsedRecords payload) := by
  unfold parses at h
  unfold parsedRecords
  split at h
  · rename_i records hrecords
    rw [hrecords]
  · cases h

instance (records : List IncidentRecord) : Decidable (IdsAccepted records) :=
  decidable_of_iff
    ((∀ record ∈ records, Locatable record = true → encodes record.incidentId = true) ∧
      (∀ record ∈ reported records, record.incidentId.length ≤ 512) ∧
      ((reported records).map IncidentRecord.incidentId).Nodup ∧
      ∀ record ∈ reported records, ∀ other ∈ records, Locatable other = true →
        record.incidentId ≠ other.incidentId)
    ⟨fun h => ⟨h.1, h.2.1, h.2.2.1, h.2.2.2⟩, fun h => ⟨h.encoded, h.short, h.unique, h.disjoint⟩⟩

theorem accountsForIncidents_one_refused :
    AccountsForIncidents plainRuntime (poll [incident "a" onePoint, incident "b" .null])
      (parsedRecords (poll [incident "a" onePoint, incident "b" .null])) :=
  (accountsForIncidents_iff (parseIncidentPayload_of_parses (by decide +kernel))).mpr
    (by decide +kernel)

def loses (payload : Value) : Bool :=
  match run plainRuntime payload with
  | .ok _ => false
  | .error _ => true

/-- An incident that is listed twice without a point loses the poll. -/
theorem repeated_incident_loses_poll :
    parseIncidentPayload plainRuntime
        (poll [incident "a" onePoint, incident "b" .null, incident "b" .null]) =
      .ok (parsedRecords (poll [incident "a" onePoint, incident "b" .null, incident "b" .null])) ∧
    ¬ AccountsForIncidents plainRuntime
      (poll [incident "a" onePoint, incident "b" .null, incident "b" .null])
      (parsedRecords (poll [incident "a" onePoint, incident "b" .null, incident "b" .null])) := by
  refine ⟨parseIncidentPayload_of_parses (by decide +kernel), ?_⟩
  rintro ⟨result, hrun, -⟩
  have hloses : loses (poll [incident "a" onePoint, incident "b" .null, incident "b" .null]) = true := by
    decide +kernel
  unfold loses at hloses
  rw [hrun] at hloses
  cases hloses

end FloodRisk.WraIncident
