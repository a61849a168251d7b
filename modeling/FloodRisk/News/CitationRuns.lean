import FloodRisk.News.Citations

/-!
# Citations of government hosts

Where the records of a search come from, for any feeds, resolvers, pages and clocks.
-/

namespace FloodRisk.News
open Python Adapters

variable {runtime : NewsRuntime} {input : SearchInput} {target : SearchTarget} {article : Article}
  {state state' : SearchState} {URLs : Set Text}

/-- The URL of a record, from the URL that is cited. -/
def publishedUrl (runtime : NewsRuntime) (citation : Text) : Text :=
  canonicalPublicNewsUrl runtime (stripText citation)

/-- The target is matched in the title, or in the heading of the cited page. -/
def NamesPlace (runtime : NewsRuntime) (input : SearchInput) (target : SearchTarget)
    (citation title : Text) : Prop :=
  (locationMatch runtime title target.term input.relaxedTerms).isSome = true ∨
    ∃ timeout, (locationMatch runtime
      (runtime.pageHeadingText (input.fetchCitationText citation timeout)) target.term
      input.relaxedTerms).isSome = true

/-- What a record rests on. -/
structure Grounded (runtime : NewsRuntime) (input : SearchInput) (URLs : Set Text)
    (record : CitationRecord) : Prop where
  source : ∃ target ∈ input.targets, ∃ citation ∈ URLs,
    isOfficialTaiwanWebUrl runtime citation = true ∧ record.url = publishedUrl runtime citation ∧
      record.url ≠ [] ∧ encodes record.url = true ∧ record.queryLocation = target.term ∧
      (target.scope = .adminArea → NamesPlace runtime input target citation record.title)
  time : inCoverage input record.occurredAt = true

/-! ### The articles that a search takes -/

def Step.reached {α : Type} : Step α → SearchState
  | .value _ state => state
  | .next state => state
  | .stop state => state

/-- The loop goes on in the state. -/
def Step.GoesOn {α : Type} (next : SearchState) : Step α → Prop
  | .value _ state => state = next
  | .next state => state = next
  | .stop _ => False

section Visits

variable (runtime : NewsRuntime) (input : SearchInput) (target : SearchTarget)

/-- The loop over the articles comes to one of them, in this state. -/
inductive VisitsArticle : List Article → SearchState → Article → SearchState → Prop
  | here (article : Article) (rest : List Article) (state : SearchState) :
      VisitsArticle (article :: rest) state article state
  | later {article found : Article} {rest : List Article} {state next last : SearchState}
      {step : Step Unit} (hstep : articleStep runtime input target article state = .ok step)
      (hnext : step.GoesOn next) (hrest : VisitsArticle rest next found last) :
      VisitsArticle (article :: rest) state found last

/-- The payload of a feed, at the time that is left. -/
def feedPayload (feedUrl : Text) (state : SearchState) : Text :=
  input.fetchText feedUrl (min (3 / 2) (max (9 / 20) (remaining input state).1))

/-- The loop over the feeds of a target comes to the articles of one of them. -/
inductive VisitsFeed : List Text → SearchState → List Article → SearchState → Prop
  | here {feedUrl : Text} {articles : List Article} {state : SearchState} (rest : List Text)
      (hleft : 0 < (remaining input state).1) (hpayload : feedPayload input feedUrl state ≠ [])
      (harticles : rssArticles runtime (feedPayload input feedUrl state) = .ok articles) :
      VisitsFeed (feedUrl :: rest) state articles (remaining input state).2
  | failed {feedUrl : Text} {rest : List Text} {found : List Article} {state last : SearchState}
      (hleft : 0 < (remaining input state).1) (hpayload : feedPayload input feedUrl state = [])
      (hrest : VisitsFeed rest (remaining input state).2.failed found last) :
      VisitsFeed (feedUrl :: rest) state found last
  | later {feedUrl : Text} {rest : List Text} {articles found : List Article}
      {state next last : SearchState}
      (hleft : 0 < (remaining input state).1) (hpayload : feedPayload input feedUrl state ≠ [])
      (harticles : rssArticles runtime (feedPayload input feedUrl state) = .ok articles)
      (hnext : searchArticles runtime input target articles (remaining input state).2 = .ok next)
      (hmore : hasEnough input next = false) (hrest : VisitsFeed rest next found last) :
      VisitsFeed (feedUrl :: rest) state found last

/-- The loop over the targets comes to one of them. -/
inductive VisitsTarget : List SearchTarget → SearchState → SearchTarget → SearchState → Prop
  | here (target : SearchTarget) (rest : List SearchTarget) (state : SearchState) :
      VisitsTarget (target :: rest) state target state
  | later {target found : SearchTarget} {rest : List SearchTarget} {state next last : SearchState}
      (hnext : searchFeeds runtime input target (input.feedUrls target.term) state = .ok next)
      (hmore : hasEnough input next = false) (hleft : 0 < (remaining input next).1)
      (hrest : VisitsTarget rest (remaining input next).2 found last) :
      VisitsTarget (target :: rest) state found last

/-- The search comes to the article for the target, in this state. -/
def Visits (article : Article) (state : SearchState) : Prop :=
  ∃ start articles read, VisitsTarget runtime input input.targets ⟨[], [], 0, 1⟩ target start ∧
    VisitsFeed runtime input target (input.feedUrls target.term) start articles read ∧
      VisitsArticle runtime input target articles read article state

/-- The article is about a flood, and its time is covered. -/
structure Taken (article : Article) (publishedAt : ℤ) : Prop where
  qualifies : officialHistoryTextQualifies runtime (articleMatchText article []) = true
  time : runtime.publicNewsTime article.publishedAt = .ok (some publishedAt)
  coverage : inCoverage input publishedAt = true

/-- The official URLs for an article are of a kind: its link, or where that is not official, what
an index link of a government publisher resolves to in the time that is left. -/
structure ArticleCitesFrom (URLs : Set Text) (article : Article) (state : SearchState) : Prop where
  link : isOfficialTaiwanWebUrl runtime article.url = true → article.url ∈ URLs
  answer : ∀ resolved, isOfficialTaiwanWebUrl runtime article.url = false →
    isGoogleNewsArticleUrl runtime article.url = true →
    isOfficialTaiwanWebUrl runtime article.publisherUrl = true →
    0 < (remaining input state).1 →
    input.resolveUrl article.url (resolveTimeout (needsPageCheck runtime input target article)
      (remaining input state).1) = resolved →
    isOfficialTaiwanWebUrl runtime resolved = true → resolved ∈ URLs

/-- The official URLs for the articles that the search takes are of a kind. -/
def CitesFrom (URLs : Set Text) : Prop :=
  ∀ target article publishedAt state, Visits runtime input target article state →
    Taken runtime input article publishedAt →
      ArticleCitesFrom runtime input target URLs article state

end Visits

theorem VisitsArticle.mem {articles : List Article}
    (h : VisitsArticle runtime input target articles state article state') :
    article ∈ articles := by
  induction h with
  | here => exact List.mem_cons_self
  | later _ _ _ ih => exact List.mem_cons_of_mem _ ih

theorem VisitsFeed.read {feedUrls : List Text} {articles : List Article}
    (h : VisitsFeed runtime input target feedUrls state articles state') :
    ∃ feedUrl start, rssArticles runtime (feedPayload input feedUrl start) = .ok articles := by
  induction h with
  | here _ _ _ harticles => exact ⟨_, _, harticles⟩
  | failed _ _ _ ih => exact ih
  | later _ _ _ _ _ _ ih => exact ih

/-! ### The law -/

/-- The law of the returned records. -/
structure LawfulRecords (runtime : NewsRuntime) (input : SearchInput)
    (records : List CitationRecord) : Prop where
  official : ∀ record ∈ records, isOfficialTaiwanWebUrl runtime record.url = true
  time : ∀ record ∈ records, input.now.oldestAllowed ≤ record.occurredAt ∧
    record.occurredAt ≤ input.now.instant + microsecondsPerDay
  located : ∀ record ∈ records, ∃ target ∈ input.targets, ∃ citation,
    record.url = publishedUrl runtime citation ∧ record.queryLocation = target.term ∧
      (target.scope = .adminArea → NamesPlace runtime input target citation record.title)
  distinct : (records.map CitationRecord.url).Nodup
  bounded : records.length ≤ recordLimit input

/-- The accepted records of a state are grounded, and their URLs are those that were seen. -/
structure StateLaw (runtime : NewsRuntime) (input : SearchInput) (URLs : Set Text)
    (state : SearchState) : Prop where
  grounded : ∀ record ∈ state.accepted, Grounded runtime input URLs record
  seen : state.seenUrls = state.accepted.map CitationRecord.url
  distinct : state.seenUrls.Nodup

/-- The records are those of another state. -/
def SameRecords (state state' : SearchState) : Prop :=
  state'.accepted = state.accepted ∧ state'.seenUrls = state.seenUrls

theorem SameRecords.law (h : SameRecords state state') (hlaw : StateLaw runtime input URLs state) :
    StateLaw runtime input URLs state' := by
  constructor
  · rw [h.1]
    exact hlaw.grounded
  · rw [h.1, h.2]
    exact hlaw.seen
  · rw [h.2]
    exact hlaw.distinct

theorem StateLaw.counted (hlaw : StateLaw runtime input URLs state) (errors reads : ℕ) :
    StateLaw runtime input URLs ⟨state.accepted, state.seenUrls, errors, reads⟩ :=
  ⟨hlaw.grounded, hlaw.seen, hlaw.distinct⟩

/-! ### One article -/

theorem citationUrl_sameRecords (needsPage : Bool) :
    SameRecords state (citationUrl runtime input article needsPage state).reached := by
  unfold citationUrl
  by_cases hofficial : isOfficialTaiwanWebUrl runtime article.url = true
  · rw [if_pos hofficial]
    exact ⟨rfl, rfl⟩
  rw [if_neg hofficial]
  by_cases hgoogle : (isGoogleNewsArticleUrl runtime article.url &&
      isOfficialTaiwanWebUrl runtime article.publisherUrl) = true
  · rw [if_pos hgoogle]
    dsimp only [remaining]
    split_ifs <;> exact ⟨rfl, rfl⟩
  · rw [if_neg hgoogle]
    exact ⟨rfl, rfl⟩

theorem citationUrl_value {needsPage : Bool} {citation : Text}
    (h : citationUrl runtime input article needsPage state = .value citation state') :
    isOfficialTaiwanWebUrl runtime citation = true ∧ (citation = article.url ∨
      (isOfficialTaiwanWebUrl runtime article.url = false ∧
        isGoogleNewsArticleUrl runtime article.url = true ∧
        isOfficialTaiwanWebUrl runtime article.publisherUrl = true ∧
        0 < (remaining input state).1 ∧
        input.resolveUrl article.url (resolveTimeout needsPage (remaining input state).1) =
          citation)) := by
  unfold citationUrl at h
  by_cases hofficial : isOfficialTaiwanWebUrl runtime article.url = true
  · rw [if_pos hofficial] at h
    cases h
    exact ⟨hofficial, Or.inl rfl⟩
  rw [if_neg hofficial] at h
  by_cases hgoogle : (isGoogleNewsArticleUrl runtime article.url &&
      isOfficialTaiwanWebUrl runtime article.publisherUrl) = true
  · rw [if_pos hgoogle] at h
    rw [Bool.and_eq_true] at hgoogle
    obtain ⟨left, hleft⟩ : ∃ left, (remaining input state).1 = left := ⟨_, rfl⟩
    dsimp only [remaining] at h hleft
    rw [hleft] at h
    by_cases hlate : left ≤ 0
    · rw [if_pos hlate] at h
      cases h
    rw [if_neg hlate] at h
    cases hresolved : isOfficialTaiwanWebUrl runtime
        (input.resolveUrl article.url (resolveTimeout needsPage left)) with
    | false =>
      rw [hresolved, Bool.not_false, Bool.or_true, if_pos rfl] at h
      cases h
    | true =>
      rw [hresolved, Bool.not_true, Bool.or_false] at h
      split_ifs at h
      cases h
      refine ⟨hresolved, Or.inr ⟨eq_false_of_ne_true hofficial, hgoogle.1, hgoogle.2, ?_, ?_⟩⟩
      · show 0 < deadline input - input.clock state.reads
        rw [hleft]
        exact not_le.mp hlate
      · show input.resolveUrl article.url
          (resolveTimeout needsPage (deadline input - input.clock state.reads)) = _
        rw [hleft]
  · rw [if_neg hgoogle] at h
    cases h

theorem verifyCitation_sameRecords (citation : Text) (needsPage : Bool) :
    SameRecords state (verifyCitation runtime input target citation needsPage state).reached := by
  unfold verifyCitation
  split_ifs
  · dsimp only [remaining]
    split_ifs <;> exact ⟨rfl, rfl⟩
  · exact ⟨rfl, rfl⟩

theorem verifyCitation_value {citation : Text} {verification : String}
    (h : verifyCitation runtime input target citation true state = .value verification state') :
    ∃ timeout, (locationMatch runtime
      (citationMatchText runtime target (input.fetchCitationText citation timeout)) target.term
      input.relaxedTerms).isSome = true := by
  unfold verifyCitation at h
  rw [if_pos rfl] at h
  dsimp only [remaining] at h
  split_ifs at h with hlate hempty hnone
  rw [Option.isNone_iff_eq_none, ← ne_eq, Option.ne_none_iff_isSome] at hnone
  exact ⟨_, hnone⟩

/-- The place is named where the search looks for it. -/
theorem namesPlace_of_checks {citation : Text} {verification : String}
    (hscope : target.scope = .adminArea)
    (h : verifyCitation runtime input target citation (needsPageCheck runtime input target article)
      state = .value verification state') :
    NamesPlace runtime input target citation (stripText article.title) := by
  cases hneeds : needsPageCheck runtime input target article with
  | true =>
    rw [hneeds] at h
    obtain ⟨timeout, hmatch⟩ := verifyCitation_value h
    unfold citationMatchText at hmatch
    rw [if_pos hscope] at hmatch
    exact Or.inr ⟨timeout, hmatch⟩
  | false =>
    unfold needsPageCheck metadataMatchText at hneeds
    rw [if_pos hscope, Option.isNone_eq_false_iff] at hneeds
    exact Or.inl hneeds

theorem recordFromArticle_some {citation context : Text} {publishedAt : ℤ} {verification : String}
    {record : CitationRecord}
    (h : recordFromArticle runtime input article citation context target publishedAt verification =
      .ok (some record)) :
    record.title = stripText article.title ∧ record.url = publishedUrl runtime citation ∧
      record.url ≠ [] ∧ encodes record.url = true ∧ record.occurredAt = publishedAt ∧
      record.queryLocation = target.term := by
  unfold recordFromArticle at h
  dsimp only at h
  by_cases hempty : stripText article.title = [] ∨
      canonicalPublicNewsUrl runtime (stripText citation) = []
  · rw [if_pos hempty] at h
    cases h
  rw [if_neg hempty] at h
  rw [not_or] at hempty
  cases hfound : locationMatch runtime (articleMatchText article context) target.term
      input.relaxedTerms with
  | none =>
    rw [hfound] at h
    cases h
  | some found =>
    rw [hfound] at h
    dsimp only at h
    by_cases hencodes : (encodes (canonicalPublicNewsUrl runtime (stripText citation)) &&
        encodes (stripText article.title)) = true
    · rw [if_pos hencodes] at h
      cases h
      rw [Bool.and_eq_true] at hencodes
      exact ⟨rfl, rfl, hempty.2, hencodes.1, rfl, rfl⟩
    · rw [if_neg hencodes] at h
      cases h

theorem StateLaw.keepRecord {record : Option CitationRecord}
    (hlaw : StateLaw runtime input URLs state)
    (h : ∀ found, record = some found → Grounded runtime input URLs found) :
    StateLaw runtime input URLs (keepRecord record state) := by
  cases record with
  | none => exact hlaw
  | some record =>
    unfold News.keepRecord
    dsimp only
    split_ifs with hseen
    · exact hlaw
    · constructor
      · intro other hother
        rcases List.mem_append.mp hother with hother | hother
        · exact hlaw.grounded other hother
        · rw [List.mem_singleton.mp hother]
          exact h record rfl
      · rw [hlaw.seen, List.map_append, List.map_singleton]
      · rw [List.nodup_append]
        refine ⟨hlaw.distinct, List.pairwise_singleton _ _, ?_⟩
        intro url hurl url' hurl' heq
        rw [List.mem_singleton.mp hurl'] at heq
        exact hseen (heq ▸ hurl)

theorem StateLaw.takeArticle {publishedAt : ℤ} {step : Step Unit} (htarget : target ∈ input.targets)
    (hlaw : StateLaw runtime input URLs state)
    (hcites : ArticleCitesFrom runtime input target URLs article state)
    (hcoverage : inCoverage input publishedAt = true)
    (h : takeArticle runtime input target article publishedAt state = .ok step) :
    StateLaw runtime input URLs step.reached := by
  unfold News.takeArticle at h
  dsimp only at h
  have hsame := @citationUrl_sameRecords runtime input article state
    (needsPageCheck runtime input target article)
  cases hcited : citationUrl runtime input article (needsPageCheck runtime input target article)
      state with
  | next found =>
    rw [hcited] at h hsame
    cases h
    exact hsame.law hlaw
  | stop found =>
    rw [hcited] at h hsame
    cases h
    exact hsame.law hlaw
  | value citation found =>
    rw [hcited] at h hsame
    obtain ⟨hofficial, hsource⟩ := citationUrl_value hcited
    have hmem : citation ∈ URLs := by
      rcases hsource with rfl | ⟨hlink, hgoogle, hpublisher, hleft, hresolved⟩
      · exact hcites.link hofficial
      · exact hcites.answer citation hlink hgoogle hpublisher hleft hresolved hofficial
    have hlaw' := hsame.law hlaw
    have hsame' := @verifyCitation_sameRecords runtime input target found citation
      (needsPageCheck runtime input target article)
    dsimp only [Step.reached] at h hlaw'
    cases hverified : verifyCitation runtime input target citation
        (needsPageCheck runtime input target article) found with
    | next last =>
      rw [hverified] at h hsame'
      cases h
      exact hsame'.law hlaw'
    | stop last =>
      rw [hverified] at h hsame'
      cases h
      exact hsame'.law hlaw'
    | value verification last =>
      rw [hverified] at h hsame'
      obtain ⟨record, hrecord, h⟩ := Outcome.bind_eq_ok.mp h
      cases h
      apply (hsame'.law hlaw').keepRecord
      rintro made rfl
      obtain ⟨htitle, hurl, hne, hencodes, htime, hquery⟩ := recordFromArticle_some hrecord
      refine ⟨⟨target, htarget, citation, hmem, hofficial, hurl, hne, hencodes, hquery, ?_⟩, ?_⟩
      · intro hscope
        rw [htitle]
        exact namesPlace_of_checks hscope hverified
      · rw [htime]
        exact hcoverage

theorem StateLaw.articleStep {step : Step Unit} (htarget : target ∈ input.targets)
    (hlaw : StateLaw runtime input URLs state)
    (hcites : ∀ publishedAt, Taken runtime input article publishedAt →
      ArticleCitesFrom runtime input target URLs article state)
    (h : articleStep runtime input target article state = .ok step) :
    StateLaw runtime input URLs step.reached := by
  unfold News.articleStep at h
  split_ifs at h with hqualifies
  · obtain ⟨time, htime, h⟩ := Outcome.bind_eq_ok.mp h
    cases time with
    | none =>
      cases h
      exact hlaw
    | some publishedAt =>
      dsimp only at h
      split_ifs at h with hcoverage
      · have hcited := hcites publishedAt ⟨hqualifies, htime, hcoverage⟩
        exact hlaw.takeArticle htarget hcited hcoverage h
      · cases h
        exact hlaw
  · cases h
    exact hlaw

/-! ### The loops -/

theorem StateLaw.searchArticles {articles : List Article} (htarget : target ∈ input.targets)
    (hlaw : StateLaw runtime input URLs state)
    (hcites : ∀ article publishedAt last,
      VisitsArticle runtime input target articles state article last →
      Taken runtime input article publishedAt →
        ArticleCitesFrom runtime input target URLs article last)
    (h : searchArticles runtime input target articles state = .ok state') :
    StateLaw runtime input URLs state' := by
  induction articles generalizing state with
  | nil =>
    cases h
    exact hlaw
  | cons article rest ih =>
    rw [News.searchArticles] at h
    obtain ⟨step, hstep, h⟩ := Outcome.bind_eq_ok.mp h
    have hnext := hlaw.articleStep htarget
      (fun publishedAt => hcites article publishedAt state (.here article rest state)) hstep
    have hrest : ∀ next, step.GoesOn next → ∀ other publishedAt last,
        VisitsArticle runtime input target rest next other last →
        Taken runtime input other publishedAt →
          ArticleCitesFrom runtime input target URLs other last :=
      fun next hgoes other publishedAt last hvisits =>
        hcites other publishedAt last (.later hstep hgoes hvisits)
    cases step with
    | value _ found => exact ih hnext (hrest found rfl) h
    | next found => exact ih hnext (hrest found rfl) h
    | stop found =>
      cases h
      exact hnext

theorem StateLaw.searchFeeds {feedUrls : List Text} (htarget : target ∈ input.targets)
    (hlaw : StateLaw runtime input URLs state)
    (hcites : ∀ articles read article publishedAt last,
      VisitsFeed runtime input target feedUrls state articles read →
      VisitsArticle runtime input target articles read article last →
      Taken runtime input article publishedAt →
        ArticleCitesFrom runtime input target URLs article last)
    (h : searchFeeds runtime input target feedUrls state = .ok state') :
    StateLaw runtime input URLs state' := by
  induction feedUrls generalizing state with
  | nil =>
    cases h
    exact hlaw
  | cons feedUrl rest ih =>
    rw [News.searchFeeds] at h
    dsimp only at h
    have hread : StateLaw runtime input URLs (remaining input state).2 := hlaw.counted _ _
    have hfailed : StateLaw runtime input URLs (remaining input state).2.failed := hlaw.counted _ _
    split_ifs at h with hlate hempty
    · cases h
      exact hfailed
    · apply ih hfailed _ h
      intro articles read article publishedAt last hvisits
      exact hcites articles read article publishedAt last (.failed (not_le.mp hlate) hempty hvisits)
    · obtain ⟨articles, harticles, h⟩ := Outcome.bind_eq_ok.mp h
      obtain ⟨found, hfound, h⟩ := Outcome.bind_eq_ok.mp h
      have hnext := hread.searchArticles htarget (fun article publishedAt last =>
        hcites articles _ article publishedAt last (.here rest (not_le.mp hlate) hempty harticles))
        hfound
      split_ifs at h with hmore
      · cases h
        exact hnext
      · apply ih hnext _ h
        intro others read article publishedAt last hvisits
        exact hcites others read article publishedAt last
          (.later (not_le.mp hlate) hempty harticles hfound (eq_false_of_ne_true hmore) hvisits)

theorem StateLaw.searchTargets {targets : List SearchTarget}
    (htargets : ∀ target ∈ targets, target ∈ input.targets)
    (hlaw : StateLaw runtime input URLs state)
    (hcites : ∀ target start articles read article publishedAt last,
      VisitsTarget runtime input targets state target start →
      VisitsFeed runtime input target (input.feedUrls target.term) start articles read →
      VisitsArticle runtime input target articles read article last →
      Taken runtime input article publishedAt →
        ArticleCitesFrom runtime input target URLs article last)
    (h : searchTargets runtime input targets state = .ok state') :
    StateLaw runtime input URLs state' := by
  induction targets generalizing state with
  | nil =>
    cases h
    exact hlaw
  | cons target rest ih =>
    rw [News.searchTargets] at h
    obtain ⟨found, hfound, h⟩ := Outcome.bind_eq_ok.mp h
    have hnext := hlaw.searchFeeds (htargets target List.mem_cons_self)
      (fun articles read article publishedAt last =>
        hcites target state articles read article publishedAt last (.here target rest state)) hfound
    split_ifs at h with hmore
    · cases h
      exact hnext
    · dsimp only at h
      have hread : StateLaw runtime input URLs (remaining input found).2 := hnext.counted _ _
      split_ifs at h with hlate
      · cases h
        exact hread
      · apply ih (fun other hother => htargets other (List.mem_cons_of_mem target hother)) hread _ h
        intro other start articles read article publishedAt last hvisits
        exact hcites other start articles read article publishedAt last
          (.later hfound (eq_false_of_ne_true hmore) (not_le.mp hlate) hvisits)

/-- What every returned record rests on. -/
theorem grounded_of_search {records : List CitationRecord} (hcites : CitesFrom runtime input URLs)
    (h : searchCitations runtime input = .ok records) :
    (∀ record ∈ records, Grounded runtime input URLs record) ∧
      (records.map CitationRecord.url).Nodup ∧ records.length ≤ recordLimit input := by
  unfold searchCitations at h
  obtain ⟨state, hstate, h⟩ := Outcome.bind_eq_ok.mp h
  cases h
  have hstart : StateLaw runtime input URLs ⟨[], [], 0, 1⟩ :=
    ⟨fun _ hrecord => absurd hrecord List.not_mem_nil, rfl, List.nodup_nil⟩
  have hlaw := hstart.searchTargets (fun _ htarget => htarget)
    (fun target start articles read article publishedAt last htarget hfeed harticle =>
      hcites target article publishedAt last ⟨start, articles, read, htarget, hfeed, harticle⟩)
    hstate
  have hperm := List.mergeSort_perm state.accepted fun a b => decide (b.occurredAt ≤ a.occurredAt)
  refine ⟨?_, ?_, List.length_take_le _ _⟩
  · intro record hrecord
    exact hlaw.grounded record (hperm.mem_iff.mp (List.mem_of_mem_take hrecord))
  · have hnodup := (hperm.map CitationRecord.url).nodup_iff.mpr (hlaw.seen ▸ hlaw.distinct)
    exact hnodup.sublist ((List.take_sublist _ _).map CitationRecord.url)

end FloodRisk.News
