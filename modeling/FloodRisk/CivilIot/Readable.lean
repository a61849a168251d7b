import FloodRisk.CivilIot.Pages

/-!
# Items that can be read

What of an item, and of a page, the helpers are given: a page is read where each of these values is
printed, fits a float or is in the calendar.
-/

namespace FloodRisk.CivilIot
open Python Adapters

section Conditions

variable (runtime : Runtime)

/-! ### Ids -/

structure ThingIdReads (thing : Members) : Prop where
  properties : FirstPrints runtime (membersOf (get thing "properties"))
    ["stationID", "stationId", "station_id", "stationNo", "ID", "id"]
  own : Blank runtime (firstNotNone (membersOf (get thing "properties"))
    ["stationID", "stationId", "station_id", "stationNo", "ID", "id"]) →
      FirstPrints runtime thing ["@iot.id"]

structure RecordIdReads (thing : Members) : Prop where
  id : ThingIdReads runtime thing
  name : thingStationId runtime thing = .ok none → FirstPrints runtime thing ["name"]

/-- The id of a Thing, or of the Thing of a Datastream. -/
def ItemIdReads (things : Bool) (item : Members) : Prop :=
  if things then ThingIdReads runtime item
  else ∀ thing, get item "Thing" = .object thing → RecordIdReads runtime thing

/-! ### Records -/

/-- The names of datastreams, up to the first with the token and an observation. -/
def NamesRead (token : Text) : List Members → Prop
  | [] => True
  | datastream :: rest => Prints runtime (get datastream "name") ∧
      ((∀ name, optionalStr runtime (get datastream "name") = .ok name →
        ¬ (token <:+: name.getD [] ∧ (latestObservation datastream).isSome)) →
          NamesRead token rest)

/-- The names of datastreams, token after token. -/
def TokensRead (streams : List Members) : List Text → Prop
  | [] => True
  | token :: rest => NamesRead runtime token streams ∧
      (datastreamNamed runtime token streams = .ok none → TokensRead streams rest)

mutual

/-- The coordinates in a geometry, or in the one that it wraps. -/
def coordinatesOf : Value → Value
  | .object members => (wrappedCoordinates members).getD (get members "coordinates")
  | _ => .null

def wrappedCoordinates : Members → Option Value
  | [] => none
  | (name, value) :: rest =>
      if name = "geometry" then if Wraps value then some (coordinatesOf value) else none
      else wrappedCoordinates rest

end

/-- The first two coordinates fit a float. -/
def CoordinatesFit (value : Value) : Prop :=
  ∀ first second rest, value = .list (first :: second :: rest) → FitsFloat first ∧ FitsFloat second

/-- The coordinates of the locations, up to the first with a point. -/
def LocationsFit : List Value → Prop
  | [] => True
  | .object location :: rest => CoordinatesFit (coordinatesOf (get location "location")) ∧
      (geojsonPoint runtime (get location "location") = .ok none → LocationsFit rest)
  | _ :: rest => LocationsFit rest

/-- The members that a record copies of a Thing. -/
def copiedKeys : List (List String) :=
  [["authority", "Authority", "owner"], ["city", "City", "county", "County"],
    ["town", "Town", "district", "District"], ["address", "Address"], countyKeys, townKeys,
    countyCodeKeys, areaCodeKeys]

structure DescriptionReads (thing datastream : Members) : Prop where
  unit : ∀ unit, get datastream "unitOfMeasurement" = .object unit →
    FirstPrints runtime unit ["symbol", "name"]
  name : Prints runtime (get datastream "name")
  copied : ∀ keys ∈ copiedKeys, FirstPrints runtime (membersOf (get thing "properties")) keys
  inferred : Blank runtime (firstNotNone (membersOf (get thing "properties")) countyKeys) →
    FirstPrints runtime (membersOf (get thing "properties"))
      ["stationName", "StationName", "STATIONNAME"]
  locations : ∀ locations, get thing "Locations" = .list locations → LocationsFit runtime locations

structure ObservationReads (thing datastream observation : Members) : Prop where
  time : FitsCalendar runtime 0 (firstNotNone observation ["phenomenonTime", "resultTime"])
  result : FitsFloat (get observation "result")
  described : ∀ observedAt value,
    parseObservedAt runtime 0 (firstNotNone observation ["phenomenonTime", "resultTime"]) =
      .ok (some observedAt) →
    optionalFloat runtime (get observation "result") = .ok (some value) →
      DescriptionReads runtime thing datastream

structure ThingReads (nameTokens : List Text) (thing : Members) : Prop where
  id : RecordIdReads runtime thing
  name : ∀ stationId, recordStationId runtime thing = .ok (some stationId) →
    FirstPrints runtime thing ["name", "description"]
  tokens : ∀ stationId, recordStationId runtime thing = .ok (some stationId) → nameTokens ≠ [] →
    TokensRead runtime (datastreams thing) nameTokens
  observation : ∀ stationId datastream observation,
    recordStationId runtime thing = .ok (some stationId) →
    selectDatastream runtime thing nameTokens = .ok (some datastream) →
    latestObservation datastream = some observation →
      ObservationReads runtime thing datastream observation

/-- A Thing, or a Datastream with its Thing. -/
def RecordReads (collection : Collection) (things : Bool) (item : Members) : Prop :=
  if things then
    ThingReads runtime (match collection with
      | .things nameTokens => nameTokens
      | .datastreams => []) item
  else ∀ thing, get item "Thing" = .object thing →
    ThingReads runtime [] (setMember thing "Datastreams" (.list [.object item]))

end Conditions

variable {runtime : Runtime} {thing datastream : Members}

theorem returns_thingStationId :
    Outcome.Returns (thingStationId runtime thing) ↔ ThingIdReads runtime thing := by
  unfold thingStationId
  refine Iff.trans (Outcome.returns_orElse fun _ => Outcome.returns_ok _) ?_
  rw [returns_textOfFirst]
  exact ⟨fun h => ⟨h.1, fun hblank => returns_textOfFirst.mp (h.2 hblank)⟩,
    fun h => ⟨h.properties, fun hblank => returns_textOfFirst.mpr (h.own hblank)⟩⟩

theorem returns_recordStationId :
    Outcome.Returns (recordStationId runtime thing) ↔ RecordIdReads runtime thing := by
  unfold recordStationId
  refine Iff.trans (Outcome.returns_orElse fun _ => Outcome.returns_ok _) ?_
  rw [returns_thingStationId]
  exact ⟨fun h => ⟨h.1, fun hnone => returns_textOfFirst.mp (h.2 hnone)⟩,
    fun h => ⟨h.id, fun hnone => returns_textOfFirst.mpr (h.name hnone)⟩⟩

theorem returns_datastreamStationId :
    Outcome.Returns (datastreamStationId runtime datastream) ↔
      ∀ thing, get datastream "Thing" = .object thing → RecordIdReads runtime thing :=
  returns_of_object.trans (forall₂_congr fun _ _ => returns_recordStationId)

/-! ### Datastreams -/

theorem returns_datastreamNamed {token : Text} {streams : List Members} :
    Outcome.Returns (datastreamNamed runtime token streams) ↔ NamesRead runtime token streams := by
  induction streams with
  | nil => exact ⟨fun _ => trivial, fun _ => Outcome.returns_ok none⟩
  | cons datastream rest ih =>
    unfold datastreamNamed NamesRead
    rw [Outcome.returns_bind_iff, returns_optionalStr, ← ih]
    constructor
    · rintro ⟨hprints, h⟩
      refine ⟨hprints, fun hnot => ?_⟩
      obtain ⟨name, hname⟩ := (returns_optionalStr runtime).mpr hprints
      have hrest := h name hname
      rw [if_neg (hnot name hname)] at hrest
      exact hrest
    · rintro ⟨hprints, h⟩
      refine ⟨hprints, fun name hname => ?_⟩
      by_cases hfound : token <:+: name.getD [] ∧ (latestObservation datastream).isSome
      · rw [if_pos hfound]
        exact Outcome.returns_ok _
      · rw [if_neg hfound]
        apply h
        intro other hother
        rw [hname] at hother
        cases hother
        exact hfound

theorem returns_firstNamed {streams : List Members} {tokens : List Text} :
    Outcome.Returns (firstNamed runtime streams tokens) ↔ TokensRead runtime streams tokens := by
  induction tokens with
  | nil => exact ⟨fun _ => trivial, fun _ => Outcome.returns_ok none⟩
  | cons token rest ih =>
    unfold firstNamed TokensRead
    rw [← returns_datastreamNamed, ← ih]
    exact Outcome.returns_orElse fun _ => Outcome.returns_ok _

theorem returns_selectDatastream {nameTokens : List Text} :
    Outcome.Returns (selectDatastream runtime thing nameTokens) ↔
      (nameTokens ≠ [] → TokensRead runtime (datastreams thing) nameTokens) := by
  unfold selectDatastream
  by_cases hempty : nameTokens = []
  · rw [if_pos hempty]
    exact ⟨fun _ hne => absurd hempty hne, fun _ => Outcome.returns_ok _⟩
  · rw [if_neg hempty, returns_firstNamed]
    exact ⟨fun h _ => h, fun h => h hempty⟩

theorem returns_datastreamUnit :
    Outcome.Returns (datastreamUnit runtime datastream) ↔
      ∀ unit, get datastream "unitOfMeasurement" = .object unit →
        FirstPrints runtime unit ["symbol", "name"] :=
  returns_of_object.trans (forall₂_congr fun _ _ => returns_textOfFirst)

/-! ### Places -/

theorem returns_coordinatesPoint {value : Value} :
    Outcome.Returns (coordinatesPoint runtime value) ↔ CoordinatesFit value := by
  unfold coordinatesPoint CoordinatesFit
  split
  · rename_i first second rest
    rw [Outcome.returns_bind_iff, returns_optionalFloat]
    constructor
    · rintro ⟨hfirst, h⟩ _ _ _ heq
      cases heq
      obtain ⟨longitude, hlongitude⟩ := (returns_optionalFloat runtime).mpr hfirst
      have hsecond := h longitude hlongitude
      rw [Outcome.returns_bind_iff, returns_optionalFloat] at hsecond
      exact ⟨hfirst, hsecond.1⟩
    · intro h
      obtain ⟨hfirst, hsecond⟩ := h first second rest rfl
      refine ⟨hfirst, fun longitude _ => ?_⟩
      rw [Outcome.returns_bind_iff, returns_optionalFloat]
      refine ⟨hsecond, fun latitude _ => ?_⟩
      split
      · split_ifs <;> exact Outcome.returns_ok _
      · exact Outcome.returns_ok _
  · rename_i hnot
    constructor
    · rintro - first second rest rfl
      exact absurd rfl (hnot first second rest)
    · exact fun _ => Outcome.returns_ok none

mutual

theorem geojsonPoint_eq (value : Value) :
    geojsonPoint runtime value = coordinatesPoint runtime (coordinatesOf value) := by
  cases value with
  | object members =>
    rw [geojsonPoint, coordinatesOf, wrappedPoint_eq members]
    cases wrappedCoordinates members <;> rfl
  | _ => rfl

theorem wrappedPoint_eq (members : Members) :
    wrappedPoint runtime members =
      (wrappedCoordinates members).map (coordinatesPoint runtime) := by
  match members with
  | [] => rfl
  | (name, value) :: rest =>
    rw [wrappedPoint, wrappedCoordinates]
    split_ifs
    · rw [geojsonPoint_eq value]
      rfl
    · rfl
    · exact wrappedPoint_eq rest

end

theorem returns_firstPoint {locations : List Value} :
    Outcome.Returns (firstPoint runtime locations) ↔ LocationsFit runtime locations := by
  induction locations with
  | nil => exact ⟨fun _ => trivial, fun _ => Outcome.returns_ok none⟩
  | cons first rest ih =>
    cases first with
    | object location =>
      unfold firstPoint LocationsFit
      rw [← returns_coordinatesPoint, ← geojsonPoint_eq, ← ih]
      exact Outcome.returns_orElse fun _ => Outcome.returns_ok _
    | _ => exact ih

theorem returns_thingCoordinate :
    Outcome.Returns (thingCoordinate runtime thing) ↔
      ∀ locations, get thing "Locations" = .list locations → LocationsFit runtime locations := by
  unfold thingCoordinate
  cases hlocations : get thing "Locations" with
  | list locations =>
    constructor
    · intro h other hother
      cases hother
      exact returns_firstPoint.mp h
    · exact fun h => returns_firstPoint.mpr (h locations rfl)
  | _ => exact ⟨fun _ _ h => (nomatch h), fun _ => Outcome.returns_ok none⟩

/-! ### Records -/

theorem returns_locationText {properties : Members} :
    Outcome.Returns (locationText runtime properties) ↔
      FirstPrints runtime properties ["city", "City", "county", "County"] ∧
        FirstPrints runtime properties ["town", "Town", "district", "District"] ∧
          FirstPrints runtime properties ["address", "Address"] := by
  rw [← returns_textOfFirst, ← returns_textOfFirst, ← returns_textOfFirst]
  unfold locationText
  refine Outcome.returns_bind_const fun _ _ => ?_
  refine Outcome.returns_bind_const fun _ _ => ?_
  exact Outcome.returns_bind_ok

theorem returns_inferCounty {properties : Members} {stationName : Text} :
    Outcome.Returns (inferCounty runtime properties stationName) ↔
      FirstPrints runtime properties ["authority", "Authority", "owner"] ∧
        FirstPrints runtime properties ["stationName", "StationName", "STATIONNAME"] := by
  rw [← returns_textOfFirst, ← returns_textOfFirst]
  unfold inferCounty
  refine Outcome.returns_bind_const fun _ _ => ?_
  exact Outcome.returns_bind_ok

theorem returns_describedMembers {stationName : Text} :
    Outcome.Returns (describedMembers runtime thing datastream stationName) ↔
      DescriptionReads runtime thing datastream := by
  have hsteps : Outcome.Returns (describedMembers runtime thing datastream stationName) ↔
      Outcome.Returns (datastreamUnit runtime datastream) ∧
      Outcome.Returns (optionalStr runtime (get datastream "name")) ∧
      Outcome.Returns (textOfFirst runtime (membersOf (get thing "properties"))
        ["authority", "Authority", "owner"]) ∧
      Outcome.Returns (locationText runtime (membersOf (get thing "properties"))) ∧
      (Outcome.Returns (textOfFirst runtime (membersOf (get thing "properties")) countyKeys) ∧
        (Blank runtime (firstNotNone (membersOf (get thing "properties")) countyKeys) →
          Outcome.Returns (inferCounty runtime (membersOf (get thing "properties")) stationName))) ∧
      Outcome.Returns (textOfFirst runtime (membersOf (get thing "properties")) townKeys) ∧
      Outcome.Returns (textOfFirst runtime (membersOf (get thing "properties")) countyCodeKeys) ∧
      Outcome.Returns (textOfFirst runtime (membersOf (get thing "properties")) areaCodeKeys) ∧
      Outcome.Returns (thingCoordinate runtime thing) := by
    unfold describedMembers
    refine Outcome.returns_bind_const fun _ _ => ?_
    refine Outcome.returns_bind_const fun _ _ => ?_
    refine Outcome.returns_bind_const fun _ _ => ?_
    refine Outcome.returns_bind_const fun _ _ => ?_
    have hrest : ∀ (unit name authority location county : Option Text), Outcome.Returns (do
        let town ← textOfFirst runtime (membersOf (get thing "properties")) townKeys
        let countyCode ← textOfFirst runtime (membersOf (get thing "properties")) countyCodeKeys
        let areaCode ← textOfFirst runtime (membersOf (get thing "properties")) areaCodeKeys
        let coordinate ← thingCoordinate runtime thing
        return (textMember "unit" unit ++ textMember "datastream_name" name ++
          textMember "authority" authority ++ textMember "location_text" location ++
          textMember "county" county ++ textMember "town" town ++
          textMember "county_code" countyCode ++ textMember "area_code" areaCode ++
          CwaRainfall.coordinateMembers coordinate : Members)) ↔
        Outcome.Returns (textOfFirst runtime (membersOf (get thing "properties")) townKeys) ∧
        Outcome.Returns (textOfFirst runtime (membersOf (get thing "properties")) countyCodeKeys) ∧
        Outcome.Returns (textOfFirst runtime (membersOf (get thing "properties")) areaCodeKeys) ∧
        Outcome.Returns (thingCoordinate runtime thing) := by
      intro unit name authority location county
      refine Outcome.returns_bind_const fun _ _ => ?_
      refine Outcome.returns_bind_const fun _ _ => ?_
      refine Outcome.returns_bind_const fun _ _ => ?_
      exact Outcome.returns_bind_ok
    rw [Outcome.returns_bind_iff, and_assoc]
    apply and_congr_right
    rintro ⟨found, hfound⟩
    constructor
    · intro h
      have hstep := h found hfound
      cases found with
      | none =>
        rw [Outcome.returns_bind_iff] at hstep
        obtain ⟨⟨county, hcounty⟩, hothers⟩ := hstep
        exact ⟨fun _ => ⟨county, hcounty⟩, (hrest _ _ _ _ _).mp (hothers county hcounty)⟩
      | some own =>
        refine ⟨fun hblank => ?_, (hrest _ _ _ _ _).mp hstep⟩
        cases hfound.symm.trans hblank
    · rintro ⟨hinferred, hothers⟩ other hother
      cases hfound.symm.trans hother
      cases found with
      | none =>
        rw [Outcome.returns_bind_iff]
        exact ⟨hinferred hfound, fun _ _ => (hrest _ _ _ _ _).mpr hothers⟩
      | some own => exact (hrest _ _ _ _ _).mpr hothers
  rw [hsteps, returns_datastreamUnit, returns_optionalStr, returns_textOfFirst,
    returns_locationText, returns_textOfFirst, returns_inferCounty, returns_textOfFirst,
    returns_textOfFirst, returns_textOfFirst, returns_thingCoordinate]
  constructor
  · rintro ⟨hunit, hname, hauthority, ⟨hcity, hdistrict, haddress⟩, ⟨hcounty, hinferred⟩, htown,
      hcountyCode, hareaCode, hlocations⟩
    refine ⟨hunit, hname, ?_, fun hblank => (hinferred hblank).2, hlocations⟩
    simp only [copiedKeys, List.forall_mem_cons]
    exact ⟨hauthority, hcity, hdistrict, haddress, hcounty, htown, hcountyCode, hareaCode,
      fun _ h => absurd h List.not_mem_nil⟩
  · rintro ⟨hunit, hname, hcopied, hinferred, hlocations⟩
    simp only [copiedKeys, List.forall_mem_cons] at hcopied
    obtain ⟨hauthority, hcity, hdistrict, haddress, hcounty, htown, hcountyCode, hareaCode, -⟩ :=
      hcopied
    exact ⟨hunit, hname, hauthority, ⟨hcity, hdistrict, haddress⟩,
      ⟨hcounty, fun hblank => ⟨hauthority, hinferred hblank⟩⟩, htown, hcountyCode, hareaCode,
      hlocations⟩

theorem returns_observation {sourceUrl stationId stationName : Text} {observation : Members} :
    Outcome.Returns (do
        let observedAt ← parseObservedAt runtime 0
          (firstNotNone observation ["phenomenonTime", "resultTime"])
        let value ← optionalFloat runtime (get observation "result")
        match observedAt, value with
        | some observedAt, some value =>
            let described ← describedMembers runtime thing datastream stationName
            return some ([("station_id", .text stationId), ("station_name", .text stationName),
              ("observed_at", .text (isoText observedAt)), ("value", .float value),
              ("source_url", .text sourceUrl)] ++ described)
        | _, _ => (return none : Except Raised (Option Members))) ↔
      ObservationReads runtime thing datastream observation := by
  rw [Outcome.returns_bind_iff, returns_parseObservedAt]
  constructor
  · rintro ⟨htime, h⟩
    obtain ⟨observedAt, hobservedAt⟩ := (returns_parseObservedAt runtime).mpr htime
    have hvalue := h observedAt hobservedAt
    rw [Outcome.returns_bind_iff, returns_optionalFloat] at hvalue
    refine ⟨htime, hvalue.1, fun time value htime' hvalue' => ?_⟩
    have hdescribed := h (some time) htime'
    rw [Outcome.returns_bind_iff] at hdescribed
    have hreturns := hdescribed.2 (some value) hvalue'
    dsimp only at hreturns
    rw [Outcome.returns_bind_iff] at hreturns
    exact returns_describedMembers.mp hreturns.1
  · intro h
    refine ⟨h.time, fun observedAt hobservedAt => ?_⟩
    rw [Outcome.returns_bind_iff, returns_optionalFloat]
    refine ⟨h.result, fun value hvalue => ?_⟩
    split
    · rename_i time found
      rw [Outcome.returns_bind_iff, returns_describedMembers]
      exact ⟨h.described time found hobservedAt hvalue, fun _ _ => Outcome.returns_ok _⟩
    · exact Outcome.returns_ok none

theorem returns_parseThing {sourceUrl : Text} {nameTokens : List Text} :
    Outcome.Returns (parseThing runtime sourceUrl nameTokens thing) ↔
      ThingReads runtime nameTokens thing := by
  unfold parseThing
  rw [Outcome.returns_bind_iff, returns_recordStationId]
  constructor
  · rintro ⟨hid, h⟩
    have hfound : ∀ stationId, recordStationId runtime thing = .ok (some stationId) →
        FirstPrints runtime thing ["name", "description"] ∧
          Outcome.Returns (selectDatastream runtime thing nameTokens) ∧
          ∀ datastream observation,
            selectDatastream runtime thing nameTokens = .ok (some datastream) →
            latestObservation datastream = some observation →
              ObservationReads runtime thing datastream observation := by
      intro stationId hstationId
      have hname := h (some stationId) hstationId
      dsimp only at hname
      rw [Outcome.returns_bind_iff, returns_textOfFirst] at hname
      obtain ⟨own, hown⟩ := returns_textOfFirst.mpr hname.1
      have hselect := hname.2 own hown
      rw [Outcome.returns_bind_iff] at hselect
      refine ⟨hname.1, hselect.1, fun datastream observation hdatastream hobservation => ?_⟩
      have hread := hselect.2 (some datastream) hdatastream
      dsimp only at hread
      rw [hobservation] at hread
      exact returns_observation.mp hread
    exact ⟨hid, fun stationId h => (hfound stationId h).1,
      fun stationId h => returns_selectDatastream.mp (hfound stationId h).2.1,
      fun stationId datastream observation h => (hfound stationId h).2.2 datastream observation⟩
  · intro h
    refine ⟨h.id, fun found hfound => ?_⟩
    cases found with
    | none => exact Outcome.returns_ok none
    | some stationId =>
      dsimp only
      rw [Outcome.returns_bind_iff, returns_textOfFirst]
      refine ⟨h.name stationId hfound, fun own _ => ?_⟩
      rw [Outcome.returns_bind_iff, returns_selectDatastream]
      refine ⟨h.tokens stationId hfound, fun selected hselected => ?_⟩
      cases selected with
      | none => exact Outcome.returns_ok none
      | some datastream =>
        dsimp only
        cases hobservation : latestObservation datastream with
        | none => exact Outcome.returns_ok none
        | some observation =>
          exact returns_observation.mpr
            (h.observation stationId datastream observation hfound hselected hobservation)

theorem returns_parseDatastream {sourceUrl : Text} :
    Outcome.Returns (parseDatastream runtime sourceUrl datastream) ↔
      ∀ thing, get datastream "Thing" = .object thing →
        ThingReads runtime [] (setMember thing "Datastreams" (.list [.object datastream])) :=
  returns_of_object.trans (forall₂_congr fun _ _ => returns_parseThing)

/-! ### Pages -/

/-- The id and the record of an item of a page. -/
structure ItemReads (runtime : Runtime) (collection : Collection) (things : Bool)
    (item : Members) : Prop where
  id : ItemIdReads runtime things item
  record : RecordReads runtime collection things item

/-- A count of digits is one that `int` reads. -/
def CountReads (runtime : StaRuntime) (members : Members) : Prop :=
  ∀ t, members.lookup "@iot.count" = some (.text t) → stripText t ≠ [] →
    (stripText t).all runtime.isDigit = true →
      ∃ digits, (stripText t).mapM runtime.decimal = some digits ∧ digits.length ≤ printedDigits

/-- What a page has to be for no other error: its count, its items and its link. -/
structure PageReads (runtime : StaRuntime) (collection : Collection) (payload : Value) :
    Prop where
  count : CountReads runtime (membersOf payload)
  items : ∀ items, pageItems collection payload = .ok items → ∀ item, .object item ∈ items →
    ItemReads runtime.toRuntime collection (holdsThings collection items) item
  nextLink : ∀ items, pageItems collection payload = .ok items →
    Prints runtime.toRuntime (get (membersOf payload) "@iot.nextLink")

variable {sta : StaRuntime} {collection : Collection} {payload : Value} {items : List Value}

theorem returns_staUpstreamTotal :
    Outcome.Returns (staUpstreamTotal sta payload) ↔ CountReads sta (membersOf payload) := by
  cases payload with
  | object members =>
    show _ ↔ CountReads sta members
    unfold staUpstreamTotal CountReads
    dsimp only
    cases hcount : members.lookup "@iot.count" with
    | none => exact ⟨fun _ _ h => (nomatch h), fun _ => Outcome.returns_ok none⟩
    | some value =>
      cases value with
      | text t =>
        dsimp only
        by_cases hdigits : stripText t ≠ [] ∧ (stripText t).all sta.isDigit = true
        · rw [if_pos hdigits, Outcome.returns_map]
          unfold intOfDigits
          constructor
          · intro h other hother _ _
            cases hother
            cases hread : (stripText t).mapM sta.decimal with
            | none =>
              rw [hread] at h
              exact absurd h (Outcome.not_returns_error _)
            | some digits =>
              rw [hread] at h
              dsimp only at h
              split_ifs at h with hlength
              · exact ⟨digits, rfl, hlength⟩
              · exact absurd h (Outcome.not_returns_error _)
          · intro h
            obtain ⟨digits, hread, hlength⟩ := h t rfl hdigits.1 hdigits.2
            rw [hread]
            dsimp only
            rw [if_pos hlength]
            exact Outcome.returns_ok _
        · rw [if_neg hdigits]
          refine ⟨fun _ other hother hne hall => ?_, fun _ => Outcome.returns_ok _⟩
          cases hother
          exact absurd ⟨hne, hall⟩ hdigits
      | _ => exact ⟨fun _ _ h => (nomatch h), fun _ => Outcome.returns_ok _⟩
  | _ => exact ⟨fun _ _ h => (nomatch h), fun _ => Outcome.returns_ok none⟩

theorem returns_staNextLink :
    Outcome.Returns (staNextLink sta payload) ↔
      Prints sta.toRuntime (get (membersOf payload) "@iot.nextLink") := by
  cases payload with
  | object members => exact returns_optionalStr sta.toRuntime
  | _ => exact ⟨fun _ => ⟨_, rfl⟩, fun _ => Outcome.returns_ok none⟩

theorem returns_itemStationId {things : Bool} {item : Value} :
    Outcome.Returns (itemStationId sta things item) ↔
      ∀ members, item = .object members → ItemIdReads sta.toRuntime things members := by
  unfold ItemIdReads
  cases things with
  | true => exact returns_of_object.trans (forall₂_congr fun _ _ => returns_thingStationId)
  | false => exact returns_of_object.trans (forall₂_congr fun _ _ => returns_datastreamStationId)

theorem returns_pageRecords {sourceUrl : Text} :
    Outcome.Returns (pageRecords sta collection sourceUrl items) ↔
      ∀ item, .object item ∈ items →
        RecordReads sta.toRuntime collection (holdsThings collection items) item := by
  cases collection with
  | things nameTokens =>
    exact returns_parseItems.trans (forall₂_congr fun _ _ => returns_parseThing)
  | datastreams =>
    show Outcome.Returns (datastreamRecords sta.toRuntime sourceUrl items) ↔
      ∀ item, .object item ∈ items →
        RecordReads sta.toRuntime .datastreams (isLegacyPage items) item
    unfold datastreamRecords
    cases isLegacyPage items with
    | true => exact returns_parseItems.trans (forall₂_congr fun _ _ => returns_parseThing)
    | false => exact returns_parseItems.trans (forall₂_congr fun _ _ => returns_parseDatastream)

end FloodRisk.CivilIot
