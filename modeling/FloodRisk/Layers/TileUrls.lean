import FloodRisk.Adapters.Helpers
import FloodRisk.Lib.IpAddress
import FloodRisk.Lib.PercentDecode
import Mathlib.Data.List.DropRight
import Mathlib.Data.List.Infix

/-!
# Reviewed tile URLs (api/services/public_layers.py)

A tile template of a layer is published as it stands, after the checks of its decoded form.
-/

namespace FloodRisk.Layers
open Python Adapters

/-- Unicode, IDNA and the registries of addresses are parameters; a text is folded one code point
at a time. -/
structure LayerRuntime where
  rules : UrlRules
  fold : CodePoint → Text
  idna : Text → Option Text
  isGlobal : IpAddress → Bool
  isAlnum : CodePoint → Bool

variable (runtime : LayerRuntime)

def LayerRuntime.casefold (t : Text) : Text := t.flatMap runtime.fold

def isSpace (c : CodePoint) : Bool := isWhitespace c.shown

/-- `needle in haystack`. -/
def contains (needle : String) (haystack : Text) : Bool := text needle <:+: haystack

def endsWith (t : Text) (suffix : String) : Bool := (text suffix).isSuffixOf t

scoped instance lawfulBEq_port : LawfulBEq (Option (Option ℕ)) := inferInstance

/-! ### Decoding -/

/-- `_has_unsafe_url_characters`. -/
def hasUnsafeUrlCharacters (t : Text) : Bool :=
  t.any fun c => isSpace c || c.shown.toNat < 32 || c.shown.toNat = 127

/-- The text that decoding does not change; nothing where it has an unsafe character. -/
def settled (current : Text) : Option Text :=
  if hasUnsafeUrlCharacters current then none else some current

/-- One pass: the decoded text, where the escapes of the canonical form can be read. -/
def decodePass (current : Text) : Option Text :=
  let canonical := runtime.rules.nfkc current
  if hasBareEscape canonical then none else unquoteStrict canonical

/-- The loop of `_fully_percent_decoded_url`, with the passes that are left. -/
def decodePasses : ℕ → Text → Option Text
  | 0, current =>
      match decodePass runtime current with
      | none => none
      | some decoded => if decoded ≠ current then none else settled current
  | passes + 1, current =>
      match decodePass runtime current with
      | none => none
      | some decoded => if decoded = current then settled current else decodePasses passes decoded

def maxPercentDecodePasses : ℕ := 5

/-- `_fully_percent_decoded_url`. -/
def fullyPercentDecodedUrl (value : Text) : Option Text :=
  if stripText value = [] ∨ stripText value ≠ value then none
  else decodePasses runtime maxPercentDecodePasses value

/-! ### Hosts -/

def placeholderTileUrlMarkers : List String :=
  ["tiles.placeholder.flood-risk.local", "tiles.example.test"]

def unsafeExternalHostSuffixes : List String :=
  [".example", ".home", ".internal", ".invalid", ".lan", ".local", ".localdomain", ".localhost",
    ".test"]

def reservedPlaceholderHosts : List String := ["example.com", "example.net", "example.org"]

def isHostChar : CodePoint → Bool
  | .scalar c => 'a' ≤ c && c ≤ 'z' || '0' ≤ c && c ≤ '9' || c = '-'
  | .surrogate _ => false

def isHostLabel (label : Text) : Bool :=
  label ≠ [] && label.length ≤ 63 && label.head? ≠ some (.scalar '-') &&
    label.getLast? ≠ some (.scalar '-') && label.all isHostChar

/-- The checks of `_normalized_public_host` on a name that is no address. -/
def isPublicName (host : Text) : Bool :=
  let labels := host.splitOn (.scalar '.')
  !(host ≠ [] && host.all fun c => c.isOneOf "0123456789.".toList) &&
    !labels.any ((text "0x").isPrefixOf ·) && CodePoint.scalar '.' ∈ host &&
    labels.all isHostLabel

/-- `_normalized_public_host`. -/
def normalizedPublicHost (value : Text) : Option Text :=
  let candidate := runtime.casefold ((stripText value).rdropWhile fun c => c = .scalar '.')
  if candidate = [] ∨ candidate.any isSpace then none
  else
    match runtime.idna candidate with
    | none => none
    | some host =>
        match ipAddress host with
        | some address => if runtime.isGlobal address then some host else none
        | none =>
            if !isPublicName host then none
            else if reservedPlaceholderHosts.any fun reserved =>
              host = text reserved || endsWith host ("." ++ reserved) then none
            else if unsafeExternalHostSuffixes.any fun suffix =>
              host = (text suffix).tail || endsWith host suffix then none
            else if placeholderTileUrlMarkers.any fun marker => contains marker host then none
            else some host

/-! ### Paths -/

/-- `geturl` of parts with an authority. -/
def geturl (parts : UrlParts) : Text :=
  let path :=
    if parts.path ≠ [] ∧ parts.path.head? ≠ some (.scalar '/') then .scalar '/' :: parts.path
    else parts.path
  (if parts.scheme = [] then [] else parts.scheme ++ text ":") ++ text "//" ++ parts.netloc ++
    path ++ (if parts.query = [] then [] else text "?" ++ parts.query) ++
    (if parts.fragment = [] then [] else text "#" ++ parts.fragment)

def isPlain : CodePoint → Bool
  | .scalar c => 'a' ≤ c && c ≤ 'z' || '0' ≤ c && c ≤ '9'
  | .surrogate _ => false

/-- `v1[^a-z0-9]+tiles(?![a-z0-9])` at the start of a text. -/
def startsTilesPath (t : Text) : Bool :=
  (text "v1").isPrefixOf t &&
    let gap := (t.drop 2).takeWhile fun c => !isPlain c
    let rest := (t.drop 2).dropWhile fun c => !isPlain c
    gap ≠ [] && (text "tiles").isPrefixOf rest && !(rest.drop 5).head?.any isPlain

/-- The search for it, unless a letter or digit stands before. -/
def hasTilesPath : Bool → Text → Bool
  | _, [] => false
  | afterPlain, c :: rest =>
      (!afterPlain && startsTilesPath (c :: rest)) || hasTilesPath (isPlain c) rest

/-- `_has_safe_product_path`. -/
def hasSafeProductPath (parts : UrlParts) : Bool :=
  let url := geturl parts
  let segments := (parts.path.splitOn (.scalar '/')).map runtime.casefold
  let components := runtime.casefold
    (parts.path ++ text "?" ++ parts.query ++ text "#" ++ parts.fragment)
  !hasUnsafeUrlCharacters url && !contains "\\" url && !contains "//" parts.path &&
    !segments.any (fun segment => segment ∈ [text ".", text ".."]) &&
    !hasTilesPath false components && !contains "pmtiles" components

/-! ### URLs -/

/-- `is_placeholder_tile_url`. -/
def isPlaceholderTileUrl (value : Text) : Bool :=
  placeholderTileUrlMarkers.any fun marker => contains marker (runtime.casefold value)

/-- The port of the scheme, for which none may be written. -/
def defaultPort (scheme : Text) : ℕ := if runtime.casefold scheme = text "https" then 443 else 80

/-- `_safe_external_url`. -/
def safeExternalUrl (value : Text) : Option UrlParts :=
  match fullyPercentDecodedUrl runtime value with
  | none => none
  | some decoded =>
      match urlsplit runtime.rules decoded with
      | none => none
      | some parsed =>
          if runtime.casefold parsed.scheme ∉ ["http", "https"].map text ∨ parsed.netloc = [] then
            none
          else if parsed.hasUserinfo then none
          else if parsed.port ∉ [some none, some (some (defaultPort runtime parsed.scheme))] then
            none
          else if normalizedPublicHost runtime ((parsed.hostname runtime.rules).getD []) = none then
            none
          else if isPlaceholderTileUrl runtime decoded || !hasSafeProductPath runtime parsed then none
          else some parsed

/-- `_has_nested_network_reference`: the matches do not overlap. -/
def nestedReference : Bool → Text → Bool
  | afterAlnum, .scalar '/' :: .scalar '/' :: rest =>
      !afterAlnum || nestedReference (runtime.isAlnum (.scalar '/')) rest
  | _, c :: rest => nestedReference (runtime.isAlnum c) rest
  | _, [] => false

/-- `is_external_tile_url`. -/
def isExternalTileUrl (reviewedHosts : List Text) (value : Text) : Bool :=
  match safeExternalUrl runtime value with
  | none => false
  | some parsed =>
      match normalizedPublicHost runtime ((parsed.hostname runtime.rules).getD []) with
      | none => false
      | some host =>
          host ∈ reviewedHosts.filterMap (normalizedPublicHost runtime) &&
            !([parsed.path, parsed.query, parsed.fragment].any (nestedReference runtime false))

/-! ### Layers -/

def textsOf (items : List Value) : Option (List Text) :=
  items.mapM fun item =>
    match item with
    | .text t => some t
    | _ => none

/-- `_validated_raw_tile_templates`. -/
def validatedRawTileTemplates (metadata : Members) : Option (List Text) :=
  match get metadata "tiles" with
  | .list (first :: rest) => (textsOf (first :: rest)).filter fun tiles => [] ∉ tiles
  | _ => none

/-- `reviewed_external_tile_hosts`. -/
def reviewedExternalTileHosts (metadata : Members) : List Text :=
  match get metadata "reviewed_external_tile_hosts" with
  | .list hosts =>
      ((textsOf hosts).bind fun hosts => hosts.mapM (normalizedPublicHost runtime)).getD []
  | _ => []

/-- `tile_templates_for_layer`; nothing where the layer is disabled. -/
def tileTemplatesForLayer (metadata : Members) : Option (List Text) :=
  (validatedRawTileTemplates metadata).filter fun tiles =>
    tiles.all (isExternalTileUrl runtime (reviewedExternalTileHosts runtime metadata))

theorem accepted_of_published {runtime : LayerRuntime} {metadata : Members} {tiles : List Text}
    (h : tileTemplatesForLayer runtime metadata = some tiles) :
    ∀ tile ∈ tiles,
      isExternalTileUrl runtime (reviewedExternalTileHosts runtime metadata) tile = true := by
  unfold tileTemplatesForLayer at h
  exact List.all_eq_true.mp (Option.filter_eq_some_iff.mp h).2

end FloodRisk.Layers
