import FloodRisk.News.CitationRuns

/-!
# When citations open on a government host

The host is checked before the URL goes through `_canonical_public_news_url` once more, so the law
holds for the searches over a kind of URLs exactly where that keeps the official ones official.
-/

namespace FloodRisk.News
open Python Adapters

variable {runtime : NewsRuntime}

/-- A record can be built of the URL. -/
def Citable (runtime : NewsRuntime) (citation : Text) : Prop :=
  publishedUrl runtime citation ≠ [] ∧ encodes (publishedUrl runtime citation) = true

/-- The law of a search that returns. -/
def Lawful (runtime : NewsRuntime) (input : SearchInput) : Prop :=
  ∀ records, searchCitations runtime input = .ok records → LawfulRecords runtime input records

/-! ### A feed with one article of an index -/

/-- A feed whose only article is listed by Google News for a government publisher and names the
place. -/
structure Sample (runtime : NewsRuntime) (payload : Text) (article : Article)
    (target : SearchTarget) (time : ℤ) : Prop where
  fetched : payload ≠ []
  articles : rssArticles runtime payload = .ok [article]
  qualifies : officialHistoryTextQualifies runtime (articleMatchText article []) = true
  time : runtime.publicNewsTime article.publishedAt = .ok (some time)
  google : isGoogleNewsArticleUrl runtime article.url = true
  publisher : isOfficialTaiwanWebUrl runtime article.publisherUrl = true
  title : stripText article.title ≠ []
  encodes : encodes (stripText article.title) = true
  metadata : (locationMatch runtime (metadataMatchText target article) target.term []).isSome = true
  named : (locationMatch runtime (articleMatchText article []) target.term []).isSome = true

/-- The search of the feed with a resolver that gives one answer. -/
def sampleInput (payload : Text) (target : SearchTarget) (time : ℤ) (answer : Text) :
    SearchInput where
  targets := [target]
  relaxedTerms := []
  feedUrls := fun _ => [text "https://news.google.com/rss/search"]
  now := ⟨time, time⟩
  maxRecords := 1
  timeoutSeconds := 3
  fetchText := fun _ _ => payload
  resolveUrl := fun _ _ => answer
  fetchCitationText := fun _ _ => []
  clock := fun _ => 0

variable {payload answer : Text} {article : Article} {target : SearchTarget} {time : ℤ}

theorem not_official_of_google (h : isGoogleNewsArticleUrl runtime article.url = true) :
    isOfficialTaiwanWebUrl runtime article.url = false := by
  unfold isGoogleNewsArticleUrl at h
  unfold isOfficialTaiwanWebUrl
  cases hsplit : urlsplit runtime.rules article.url with
  | none => rfl
  | some parsed =>
    rw [hsplit] at h
    simp only [Bool.and_eq_true, decide_eq_true_eq] at h
    dsimp only
    rw [h.1.2, if_neg (not_not.mpr h.1.1)]
    decide +kernel

theorem deadline_sampleInput : deadline (sampleInput payload target time answer) = 3 := by
  norm_num [deadline, sampleInput]

theorem citationUrl_sample {state : SearchState} (h : Sample runtime payload article target time)
    (hofficial : isOfficialTaiwanWebUrl runtime answer = true) (hanswer : answer ≠ []) :
    citationUrl runtime (sampleInput payload target time answer) article false state =
      .value answer { state with reads := state.reads + 1 } := by
  unfold citationUrl
  rw [not_official_of_google h.google, if_neg Bool.false_ne_true, h.google, h.publisher,
    Bool.and_self, if_pos rfl]
  dsimp only [remaining]
  rw [deadline_sampleInput]
  have hleft : ¬ (3 : ℚ) - (sampleInput payload target time answer).clock state.reads ≤ 0 := by
    norm_num [sampleInput]
  rw [if_neg hleft]
  rw [if_neg]
  · rfl
  · dsimp only [sampleInput]
    simp [hofficial, hanswer]

theorem ne_nil_of_official (h : isOfficialTaiwanWebUrl runtime answer = true) : answer ≠ [] := by
  rintro rfl
  unfold isOfficialTaiwanWebUrl at h
  have hsplit : urlsplit runtime.rules [] = some ⟨[], [], [], [], []⟩ := by
    simp [urlsplit, splitScheme, splitNetloc, cleanUrl, partition, checkBrackets, checkNetloc]
  rw [hsplit] at h
  cases h

theorem recordFromArticle_sample (h : Sample runtime payload article target time)
    (hcitable : Citable runtime answer) :
    ∃ record, recordFromArticle runtime (sampleInput payload target time answer) article answer []
        target time "citation_metadata" = .ok (some record) ∧
      record.url = publishedUrl runtime answer ∧ record.occurredAt = time := by
  unfold recordFromArticle
  have hkept : ¬ (stripText article.title = [] ∨
      canonicalPublicNewsUrl runtime (stripText answer) = []) :=
    not_or.mpr ⟨h.title, hcitable.1⟩
  obtain ⟨found, hfound⟩ := Option.isSome_iff_exists.mp h.named
  dsimp only
  rw [if_neg hkept, show (sampleInput payload target time answer).relaxedTerms = [] from rfl, hfound]
  dsimp only
  have hencodes : encodes (canonicalPublicNewsUrl runtime (stripText answer)) = true := hcitable.2
  rw [hencodes, h.encodes]
  exact ⟨_, rfl, rfl, rfl⟩

theorem articleStep_sample {state : SearchState} (h : Sample runtime payload article target time)
    (hofficial : isOfficialTaiwanWebUrl runtime answer = true) (hcitable : Citable runtime answer)
    (hempty : state.seenUrls = []) :
    ∃ record errors reads, articleStep runtime (sampleInput payload target time answer) target
        article state = .ok (.value () ⟨state.accepted ++ [record], [record.url], errors, reads⟩) ∧
      record.url = publishedUrl runtime answer ∧ record.occurredAt = time := by
  obtain ⟨record, hrecord, hurl, htime⟩ := recordFromArticle_sample h hcitable
  have hneeds : needsPageCheck runtime (sampleInput payload target time answer) target article =
      false := by
    unfold needsPageCheck
    rw [Option.isNone_eq_false_iff]
    exact h.metadata
  have hcoverage : inCoverage (sampleInput payload target time answer) time = true := by
    unfold inCoverage sampleInput microsecondsPerDay
    simp
  refine ⟨record, state.errors, state.reads + 1, ?_, hurl, htime⟩
  unfold articleStep
  rw [h.qualifies, if_pos rfl, h.time]
  dsimp only [bind, Except.bind]
  rw [if_pos hcoverage]
  unfold takeArticle
  dsimp only
  rw [hneeds, citationUrl_sample h hofficial (ne_nil_of_official hofficial)]
  dsimp only [verifyCitation]
  rw [if_neg Bool.false_ne_true, if_neg Bool.false_ne_true]
  dsimp only
  rw [hrecord]
  dsimp only [bind, Except.bind, keepRecord]
  rw [hempty, if_neg List.not_mem_nil]
  rfl

/-- The search of the sample publishes the answer of the resolver. -/
theorem search_sample (h : Sample runtime payload article target time)
    (hofficial : isOfficialTaiwanWebUrl runtime answer = true) (hcitable : Citable runtime answer) :
    ∃ record, searchCitations runtime (sampleInput payload target time answer) = .ok [record] ∧
      record.url = publishedUrl runtime answer := by
  obtain ⟨record, errors, reads, hstep, hurl, htime⟩ :=
    @articleStep_sample runtime payload answer article target time ⟨[], [], 0, 2⟩ h hofficial
      hcitable rfl
  refine ⟨record, ?_, hurl⟩
  have henough : hasEnough (sampleInput payload target time answer)
      ⟨[record], [record.url], errors, reads⟩ = true := by
    have hlimit : recordLimit (sampleInput payload target time answer) = 1 := by
      unfold recordLimit sampleInput
      rfl
    unfold hasEnough hasRecentOfficialHistory
    rw [hlimit]
    dsimp only [sampleInput]
    simp [htime, microsecondsPerDay]
  have hfeeds : searchFeeds runtime (sampleInput payload target time answer) target
      [text "https://news.google.com/rss/search"] ⟨[], [], 0, 1⟩ =
      .ok ⟨[record], [record.url], errors, reads⟩ := by
    rw [searchFeeds]
    dsimp only [remaining]
    have hleft : ¬ deadline (sampleInput payload target time answer) -
        (sampleInput payload target time answer).clock 1 ≤ 0 := by
      rw [deadline_sampleInput]
      norm_num [sampleInput]
    have hfetched : ∀ timeout, (sampleInput payload target time answer).fetchText
        (text "https://news.google.com/rss/search") timeout = payload := fun _ => rfl
    rw [if_neg hleft, hfetched, if_neg h.fetched, h.articles]
    dsimp only [bind, Except.bind]
    rw [searchArticles, hstep]
    dsimp only [bind, Except.bind, searchArticles, List.nil_append]
    rw [if_pos henough]
  unfold searchCitations
  rw [show (sampleInput payload target time answer).targets = [target] from rfl, searchTargets,
    show (sampleInput payload target time answer).feedUrls target.term =
      [text "https://news.google.com/rss/search"] from rfl, hfeeds]
  dsimp only [bind, Except.bind]
  rw [if_pos henough]
  dsimp only [pure, Except.pure]
  rw [List.mergeSort_singleton]
  rfl

/-- For the searches over a kind of URLs. -/
theorem citations_lawful_iff (h : Sample runtime payload article target time) (URLs : Set Text) :
    (∀ input, CitesFrom runtime input URLs → Lawful runtime input) ↔
      ∀ citation ∈ URLs, isOfficialTaiwanWebUrl runtime citation = true →
        Citable runtime citation →
          isOfficialTaiwanWebUrl runtime (publishedUrl runtime citation) = true := by
  constructor
  · intro hlawful citation hmem hofficial hcitable
    obtain ⟨record, hsearch, hurl⟩ := search_sample h hofficial hcitable
    have hcites : CitesFrom runtime (sampleInput payload target time citation) URLs := by
      rintro _ other _ _ ⟨_, articles, _, -, hfeed, harticle⟩ -
      obtain ⟨_, _, hread⟩ := hfeed.read
      have hone : rssArticles runtime payload = .ok articles := hread
      rw [h.articles] at hone
      cases hone
      have hother := List.mem_singleton.mp harticle.mem
      constructor
      · intro hlink
        rw [hother, not_official_of_google h.google] at hlink
        cases hlink
      · rintro resolved - - - - hanswer -
        have heq : citation = resolved := hanswer
        exact heq ▸ hmem
    rw [← hurl]
    exact (hlawful _ hcites _ hsearch).official record List.mem_cons_self
  · intro hkept input hcites records hsearch
    obtain ⟨hgrounded, hdistinct, hbounded⟩ := grounded_of_search hcites hsearch
    constructor
    · intro record hrecord
      obtain ⟨target, -, citation, hmem, hofficial, hurl, hne, hencodes, -⟩ :=
        (hgrounded record hrecord).source
      rw [hurl] at hne hencodes ⊢
      exact hkept citation hmem hofficial ⟨hne, hencodes⟩
    · intro record hrecord
      have htime := (hgrounded record hrecord).time
      unfold inCoverage at htime
      rw [Bool.and_eq_true, decide_eq_true_eq, decide_eq_true_eq] at htime
      exact htime
    · intro record hrecord
      obtain ⟨target, htarget, citation, -, -, hurl, -, -, hquery, hnamed⟩ :=
        (hgrounded record hrecord).source
      exact ⟨target, htarget, citation, hurl, hquery, hnamed⟩
    · exact hdistinct
    · exact hbounded

/-! ### A resolver that answers with an entity -/

def sampleTime : Text := text "Tue, 14 Jul 2026 08:00:00 GMT"

def sampleItem : FeedItem where
  title := some (text "臺南市安平區豪雨造成道路淹水")
  link := some (text "https://news.google.com/rss/articles/CBMiAA")
  description := none
  pubDate := some sampleTime
  published := none
  sourceUrl := some (text "https://www.tainan.gov.tw")

def sampleFeed : Text := text "<rss><channel><item><title>臺南市安平區豪雨造成道路淹水</title><link>https://news.google.com/rss/articles/CBMiAA</link><pubDate>Tue, 14 Jul 2026 08:00:00 GMT</pubDate><source url=\"https://www.tainan.gov.tw\"/></item></channel></rss>"

def sampleRuntime : NewsRuntime where
  rules := ⟨id, List.map lowerAscii, fun _ => true⟩
  casefold := List.map lowerAscii
  unescape := Replace.replaceAll (text "&sol;") (text "/")
  queryValue := fun _ _ => []
  unquote := id
  feedItems := fun payload => .ok (if payload = sampleFeed then [sampleItem] else [])
  publicNewsTime := fun t => .ok (if t = sampleTime then some 1784016000000000 else none)
  roadTail := fun _ => []
  adminContextTerms := fun _ => []
  locationTerms := fun _ => []
  pageHeadingText := fun _ => []

def sampleArticle : Article where
  title := text "臺南市安平區豪雨造成道路淹水"
  url := text "https://news.google.com/rss/articles/CBMiAA"
  description := []
  publishedAt := sampleTime
  publisherUrl := text "https://www.tainan.gov.tw"

def sampleTarget : SearchTarget := ⟨text "臺南市安平區", .adminArea⟩

theorem articleOf_sampleItem : articleOf sampleRuntime sampleItem = some sampleArticle := by
  decide +kernel

theorem rssArticles_sampleFeed : rssArticles sampleRuntime sampleFeed = .ok [sampleArticle] := by
  have hitems : sampleRuntime.feedItems sampleFeed = .ok [sampleItem] := by
    show Except.ok (if sampleFeed = sampleFeed then [sampleItem] else []) = _
    rw [if_pos rfl]
  have htime : sampleRuntime.publicNewsTime sampleArticle.publishedAt =
      .ok (some 1784016000000000) := by
    show Except.ok (if sampleTime = sampleTime then some 1784016000000000 else none) = _
    rw [if_pos rfl]
  unfold rssArticles
  rw [hitems]
  dsimp only [bind, Except.bind]
  rw [List.filterMap_cons_some articleOf_sampleItem, List.filterMap_nil, List.mapM_cons, htime]
  dsimp only [bind, Except.bind, pure, Except.pure]
  rw [List.mapM_nil]
  dsimp only [pure, Except.pure]
  rw [List.mergeSort_singleton]
  rfl

theorem sample_of_sampleFeed :
    Sample sampleRuntime sampleFeed sampleArticle sampleTarget 1784016000000000 where
  fetched := by decide +kernel
  articles := rssArticles_sampleFeed
  qualifies := by decide +kernel
  time := rfl
  google := by decide +kernel
  publisher := by decide +kernel
  title := by decide +kernel
  encodes := by decide +kernel
  metadata := by decide +kernel
  named := by decide +kernel

def cityPage : Text := text "https://www.tainan.gov.tw/News_Content.aspx"

/-- With a slash as an entity the host is another one after it is decoded. -/
def hiddenHost : Text := text "https://example.com&sol;.gov.tw/"

theorem citations_of_cityPage : isOfficialTaiwanWebUrl sampleRuntime cityPage = true ∧
    ∀ input, CitesFrom sampleRuntime input {cityPage} → Lawful sampleRuntime input := by
  refine ⟨by decide +kernel, (citations_lawful_iff sample_of_sampleFeed {cityPage}).mpr ?_⟩
  intro citation hcitation _ _
  rw [Set.mem_singleton_iff.mp hcitation]
  decide +kernel

theorem hiddenHost_is_cited :
    ∃ records, searchCitations sampleRuntime
        (sampleInput sampleFeed sampleTarget 1784016000000000 hiddenHost) = .ok records ∧
      ¬ LawfulRecords sampleRuntime
        (sampleInput sampleFeed sampleTarget 1784016000000000 hiddenHost) records := by
  have hcitable : Citable sampleRuntime hiddenHost := by
    constructor
    · decide +kernel
    · decide +kernel
  obtain ⟨record, hsearch, hurl⟩ := search_sample sample_of_sampleFeed (by decide +kernel) hcitable
  refine ⟨[record], hsearch, fun hlawful => ?_⟩
  have hofficial := hlawful.official record List.mem_cons_self
  have hfalse : isOfficialTaiwanWebUrl sampleRuntime (publishedUrl sampleRuntime hiddenHost) =
      false := by decide +kernel
  rw [hurl, hfalse] at hofficial
  cases hofficial

end FloodRisk.News
