import FloodRisk.Adapters.Helpers
import FloodRisk.Lib.Replace
import FloodRisk.Lib.UrlSplit
import Mathlib.Data.Set.Defs

/-!
# Official history citations (domain/history/news_enrichment.py)

The search for flood reports of government sites, up to the fields that identify a record.
-/

namespace FloodRisk.News
open Python Adapters

/-- An item of a feed: the texts of its children, and the publisher. -/
structure FeedItem where
  title : Option Text
  link : Option Text
  description : Option Text
  pubDate : Option Text
  published : Option Text
  sourceUrl : Option Text

/-- The parts that are parameters: Unicode, HTML entities, query strings, the parser of feeds,
times as instants, the place names that regular expressions find in a text, and the headings of
a page. -/
structure NewsRuntime where
  rules : UrlRules
  casefold : Text → Text
  unescape : Text → Text
  queryValue : Text → Text → Text
  unquote : Text → Text
  feedItems : Text → Except Raised (List FeedItem)
  publicNewsTime : Text → Except Raised (Option ℤ)
  roadTail : Text → Text
  adminContextTerms : Text → List Text
  locationTerms : Text → List Text
  pageHeadingText : Text → Text

variable (runtime : NewsRuntime)

/-- `needle in haystack`. -/
def isIn (needle haystack : Text) : Bool := haystack.tails.any fun rest => needle.isPrefixOf rest

/-- `_normalize`. -/
def normalize (value : Text) : Text :=
  stripText ((Replace.replaceAll (text "臺") (text "台") (runtime.casefold value)).filter
    fun c => c ≠ .scalar ' ')

/-! ### URLs -/

def officialSuffixes : List Text := [".gov.tw", ".gov.taipei"].map text

/-- `_is_official_taiwan_web_url`. -/
def isOfficialTaiwanWebUrl (value : Text) : Bool :=
  match urlsplit runtime.rules value with
  | none => false
  | some parsed =>
      if parsed.scheme ≠ text "https" then false
      else
        let host := (runtime.casefold ((parsed.hostname runtime.rules).getD [])).rdropWhile
          fun c => c = .scalar '.'
        host = text "gov.tw" || officialSuffixes.any fun suffix => suffix.isSuffixOf host

/-- `_is_google_news_article_url`. -/
def isGoogleNewsArticleUrl (value : Text) : Bool :=
  match urlsplit runtime.rules value with
  | none => false
  | some parsed =>
      parsed.scheme = text "https" &&
        runtime.casefold ((parsed.hostname runtime.rules).getD []) = text "news.google.com" &&
        (["/articles/", "/read/", "/rss/articles/"].map text).any fun start =>
          start.isPrefixOf parsed.parsedPath

/-- `_canonical_public_news_url`. -/
def canonicalPublicNewsUrl (url : Text) : Text :=
  let normalized := stripText (runtime.unescape url)
  match urlsplit runtime.rules normalized with
  | none => normalized
  | some parsed =>
      if parsed.hostname runtime.rules ∈ ["bing.com", "www.bing.com"].map (fun host => some (text host)) ∧
          (text "/news/apiclick.aspx").isSuffixOf (runtime.casefold parsed.parsedPath) then
        let target := stripText (runtime.unquote (runtime.queryValue parsed.query (text "url")))
        match urlsplit runtime.rules target with
        | none => normalized
        | some targetParsed =>
            if targetParsed.scheme ∈ ["http", "https"].map text then target else normalized
      else normalized

/-! ### Articles -/

structure Article where
  title : Text
  url : Text
  description : Text
  publishedAt : Text
  publisherUrl : Text
  deriving DecidableEq

def childText (child : Option Text) : Text := stripText (child.getD [])

/-- One item of `_rss_articles`. -/
def articleOf (item : FeedItem) : Option Article :=
  let title := childText item.title
  let link := canonicalPublicNewsUrl runtime (childText item.link)
  if title = [] ∨ link = [] then none
  else some {
    title := title
    url := link
    description := childText item.description
    publishedAt := if childText item.pubDate = [] then childText item.published
      else childText item.pubDate
    publisherUrl := stripText (item.sourceUrl.getD []) }

/-- `_rss_articles`: the latest first; one without a time sorts last. -/
def rssArticles (payload : Text) : Except Raised (List Article) := do
  let items ← runtime.feedItems payload
  let timed ← (items.filterMap (articleOf runtime)).mapM fun article => do
    let time ← runtime.publicNewsTime article.publishedAt
    return (time, article)
  return (timed.mergeSort fun a b =>
    match a.1, b.1 with
    | _, none => true
    | none, some _ => false
    | some a, some b => b ≤ a).map Prod.snd

/-- `_article_match_text`, with the context that a checked page adds. -/
def articleMatchText (article : Article) (context : Text) : Text :=
  (text " ").intercalate
    (([article.title, article.description, context].map stripText).filter fun t => t ≠ [])

def primaryFloodTerms : List Text :=
  ["淹水", "積淹水", "積水", "水淹", "水災", "水患", "泡水"].map text

def contextFloodTerms : List Text :=
  ["豪雨", "暴雨", "颱風", "災情", "災損", "道路積水", "排水不及", "地下道", "封閉", "抽水", "低窪",
    "溢流", "一片汪洋"].map text

def hardNonIncidentPhrases : List Text :=
  ["防蚊", "登革熱", "病媒蚊", "積水容器", "孳生源", "衛教", "常見問題", "faq", "q&a", "應向哪個單位",
    "通報單位"].map text

def softNonIncidentPhrases : List Text :=
  ["消毒", "儲備", "整備", "演練", "宣導", "防颱準備", "完工", "通車", "淹水問題"].map text

def planningPhrases : List Text :=
  ["淹水潛勢", "降低淹水", "改善淹水", "避免淹水", "預防淹水", "防止淹水", "防範淹水", "無淹水", "未淹水",
    "汛期水患", "防洪工程", "排水工程", "堤防工程", "治理工程"].map text

def incidentPhrases : List Text :=
  ["災情", "受災", "救助", "慰助", "災後", "封閉", "阻斷", "退水", "進水", "泡水", "道路積水", "積淹水",
    "造成", "發生", "勘災"].map text

def eventMarkers : List Text :=
  incidentPhrases ++ ["豪雨", "暴雨", "大雨", "颱風", "多處", "視察"].map text

/-- `_official_history_text_qualifies`. -/
def officialHistoryTextQualifies (t : Text) : Bool :=
  let normalized := normalize runtime t
  let hasEventMarker := eventMarkers.any fun marker => isIn marker normalized
  if hardNonIncidentPhrases.any fun phrase => isIn (normalize runtime phrase) normalized then false
  else if !primaryFloodTerms.any fun term => isIn (normalize runtime term) normalized then false
  else if softNonIncidentPhrases.any (fun phrase => isIn (normalize runtime phrase) normalized) &&
      !hasEventMarker then false
  else if planningPhrases.any (fun phrase => isIn phrase normalized) &&
      !incidentPhrases.any (fun phrase => isIn phrase normalized) then false
  else hasEventMarker

inductive MatchBasis where
  | exact | roadWithAdminContext | locationTerm | relaxedAdminContext
  deriving DecidableEq

structure LocationMatch where
  term : Text
  basis : MatchBasis
  deriving DecidableEq

/-- `_location_match`. -/
def locationMatch (t location : Text) (relaxedTerms : List Text) : Option LocationMatch :=
  let normalizedText := normalize runtime t
  let normalizedLocation := normalize runtime location
  if !(primaryFloodTerms ++ contextFloodTerms).any fun term => isIn term normalizedText then none
  else if normalizedLocation ≠ [] && isIn normalizedLocation normalizedText then
    some ⟨location, .exact⟩
  else
    let roadTail := runtime.roadTail location
    let normalizedRoadTail := normalize runtime roadTail
    let adminTerms := runtime.adminContextTerms location
    if normalizedRoadTail ≠ [] && isIn normalizedRoadTail normalizedText then
      if adminTerms.isEmpty || adminTerms.any fun term => isIn (normalize runtime term) normalizedText
      then some ⟨roadTail, .roadWithAdminContext⟩
      else none
    else
      let found := fun term => normalize runtime term ≠ [] && isIn (normalize runtime term) normalizedText
      match (runtime.locationTerms location).find? fun term =>
        !(!adminTerms.isEmpty && normalizedRoadTail ≠ [] &&
          normalize runtime term = normalizedRoadTail) && found term with
      | some term => some ⟨term, .locationTerm⟩
      | none => (relaxedTerms.find? found).map fun term => ⟨term, .relaxedAdminContext⟩

/-! ### The search -/

inductive Scope where
  | adminArea | road | exact
  deriving DecidableEq

structure SearchTarget where
  term : Text
  scope : Scope
  deriving DecidableEq

/-- What a record is known by; the fields that copy or weigh these are left out. -/
structure CitationRecord where
  title : Text
  url : Text
  occurredAt : ℤ
  queryLocation : Text
  matchScope : Scope
  matchBasis : MatchBasis
  matchTerm : Text
  locationVerification : String
  deriving DecidableEq

/-- The instant of the query, and 1 January of the first covered year in its zone. -/
structure QueryTime where
  instant : ℤ
  oldestAllowed : ℤ

def microsecondsPerDay : ℤ := 86400 * 1000000

/-- What a search depends on. A client or a resolver that returns nothing returns an empty text;
`clock` is what `monotonic` reads, one reading after another. -/
structure SearchInput where
  targets : List SearchTarget
  relaxedTerms : List Text
  feedUrls : Text → List Text
  now : QueryTime
  maxRecords : ℤ
  timeoutSeconds : ℚ
  fetchText : Text → ℚ → Text
  resolveUrl : Text → ℚ → Text
  fetchCitationText : Text → ℚ → Text
  clock : ℕ → ℚ

structure SearchState where
  accepted : List CitationRecord
  seenUrls : List Text
  errors : ℕ
  reads : ℕ

variable (input : SearchInput)

def deadline : ℚ := input.clock 0 + max (1 / 2) input.timeoutSeconds

/-- `deadline - monotonic()`, and the state after the reading. -/
def remaining (state : SearchState) : ℚ × SearchState :=
  (deadline input - input.clock state.reads, { state with reads := state.reads + 1 })

def recordLimit : ℕ := (max 1 input.maxRecords).toNat

/-- `_has_recent_official_history`. -/
def hasRecentOfficialHistory (records : List CitationRecord) : Bool :=
  records.any fun record => input.now.instant - 30 * microsecondsPerDay ≤ record.occurredAt &&
    record.occurredAt ≤ input.now.instant + microsecondsPerDay

def hasEnough (state : SearchState) : Bool :=
  recordLimit input ≤ state.accepted.length && hasRecentOfficialHistory input state.accepted

/-- How a step of the loop over the articles ends: with a value, or with `continue` or `break`. -/
inductive Step (α : Type) where
  | value (a : α) (state : SearchState)
  | next (state : SearchState)
  | stop (state : SearchState)

def SearchState.failed (state : SearchState) : SearchState := { state with errors := state.errors + 1 }

/-- The seconds that a resolver is given. -/
def resolveTimeout (needsPage : Bool) (left : ℚ) : ℚ :=
  min (if needsPage then 7 / 5 else 9 / 5)
    (max (9 / 20) (if needsPage then left * (13 / 20) else left))

/-- The URL that is cited for an article. -/
def citationUrl (article : Article) (needsPage : Bool) (state : SearchState) : Step Text :=
  if isOfficialTaiwanWebUrl runtime article.url then .value article.url state
  else if isGoogleNewsArticleUrl runtime article.url &&
      isOfficialTaiwanWebUrl runtime article.publisherUrl then
    let (left, state) := remaining input state
    if left ≤ 0 then .stop state.failed
    else
      let resolved := input.resolveUrl article.url (resolveTimeout needsPage left)
      if resolved = [] || !isOfficialTaiwanWebUrl runtime resolved then .next state
      else .value resolved state
  else .next state

/-- The text of a page in which a place is looked for. -/
def citationMatchText (target : SearchTarget) (payload : Text) : Text :=
  if target.scope = .adminArea then runtime.pageHeadingText payload else payload

/-- The check of the cited page, where the article does not name the place. -/
def verifyCitation (target : SearchTarget) (citation : Text) (needsPage : Bool)
    (state : SearchState) : Step String :=
  if needsPage then
    let (left, state) := remaining input state
    if left ≤ 0 then .stop state.failed
    else
      let payload := input.fetchCitationText citation (min (9 / 10) (max (7 / 20) left))
      if payload = [] then .next state.failed
      else if (locationMatch runtime (citationMatchText runtime target payload) target.term
          input.relaxedTerms).isNone then .next state
      else .value "direct_official_page" state
  else .value "citation_metadata" state

/-- `_record_from_article`, of the article whose URL is the citation. -/
def recordFromArticle (article : Article) (citation context : Text) (target : SearchTarget)
    (publishedAt : ℤ) (verification : String) : Except Raised (Option CitationRecord) :=
  let title := stripText article.title
  let url := canonicalPublicNewsUrl runtime (stripText citation)
  if title = [] ∨ url = [] then .ok none
  else
    match locationMatch runtime (articleMatchText article context) target.term input.relaxedTerms with
    | none => .ok none
    | some found =>
        if encodes url && encodes title then
          .ok (some {
            title := title
            url := url
            occurredAt := publishedAt
            queryLocation := target.term
            matchScope := if found.basis = .relaxedAdminContext then .adminArea else target.scope
            matchBasis := found.basis
            matchTerm := found.term
            locationVerification := verification })
        else .error .unicodeEncodeError

/-- The text of an article in which the place of a target is looked for. -/
def metadataMatchText (target : SearchTarget) (article : Article) : Text :=
  if target.scope = .adminArea then stripText article.title else articleMatchText article []

def needsPageCheck (target : SearchTarget) (article : Article) : Bool :=
  (locationMatch runtime (metadataMatchText target article) target.term input.relaxedTerms).isNone

def keepRecord (record : Option CitationRecord) (state : SearchState) : SearchState :=
  match record with
  | none => state
  | some record =>
      if record.url ∈ state.seenUrls then state
      else { state with
        seenUrls := state.seenUrls ++ [record.url]
        accepted := state.accepted ++ [record] }

/-- An article that qualifies, with its time. -/
def takeArticle (target : SearchTarget) (article : Article) (publishedAt : ℤ)
    (state : SearchState) : Except Raised (Step Unit) :=
  let needsPage := needsPageCheck runtime input target article
  match citationUrl runtime input article needsPage state with
  | .next state => .ok (.next state)
  | .stop state => .ok (.stop state)
  | .value citation state =>
      match verifyCitation runtime input target citation needsPage state with
      | .next state => .ok (.next state)
      | .stop state => .ok (.stop state)
      | .value verification state => do
          let record ← recordFromArticle runtime input article citation
            (if needsPage then target.term else []) target publishedAt verification
          return .value () (keepRecord record state)

def inCoverage (publishedAt : ℤ) : Bool :=
  input.now.oldestAllowed ≤ publishedAt && publishedAt ≤ input.now.instant + microsecondsPerDay

/-- The body of the loop over the articles of a feed. -/
def articleStep (target : SearchTarget) (article : Article) (state : SearchState) :
    Except Raised (Step Unit) := do
  if officialHistoryTextQualifies runtime (articleMatchText article []) then
    match ← runtime.publicNewsTime article.publishedAt with
    | none => .ok (.next state)
    | some publishedAt =>
        if inCoverage input publishedAt then takeArticle runtime input target article publishedAt state
        else .ok (.next state)
  else .ok (.next state)

def searchArticles (target : SearchTarget) :
    List Article → SearchState → Except Raised SearchState
  | [], state => .ok state
  | article :: rest, state => do
      match ← articleStep runtime input target article state with
      | .value _ state => searchArticles target rest state
      | .next state => searchArticles target rest state
      | .stop state => .ok state

/-- The loop over the feeds of a target. -/
def searchFeeds (target : SearchTarget) : List Text → SearchState → Except Raised SearchState
  | [], state => .ok state
  | feedUrl :: rest, state =>
      let (left, state) := remaining input state
      if left ≤ 0 then .ok state.failed
      else
        let payload := input.fetchText feedUrl (min (3 / 2) (max (9 / 20) left))
        if payload = [] then searchFeeds target rest state.failed
        else do
          let articles ← rssArticles runtime payload
          let state ← searchArticles runtime input target articles state
          if hasEnough input state then .ok state else searchFeeds target rest state

/-- The loop over the targets. -/
def searchTargets : List SearchTarget → SearchState → Except Raised SearchState
  | [], state => .ok state
  | target :: rest, state => do
      let state ← searchFeeds runtime input target (input.feedUrls target.term) state
      if hasEnough input state then .ok state
      else
        let (left, state) := remaining input state
        if left ≤ 0 then .ok state else searchTargets rest state

/-- The records of `search_taiwan_official_flood_citations`. -/
def searchCitations : Except Raised (List CitationRecord) := do
  let state ← searchTargets runtime input input.targets ⟨[], [], 0, 1⟩
  return (state.accepted.mergeSort fun a b => b.occurredAt ≤ a.occurredAt).take (recordLimit input)

end FloodRisk.News
