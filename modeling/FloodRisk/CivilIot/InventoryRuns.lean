import FloodRisk.CivilIot.Inventory

/-!
# The walks that answer
-/

namespace FloodRisk.CivilIot
open Python Adapters

section Law

variable (runtime : StaRuntime) (collection : Collection) (sourceUrl : Text) (server : Server)
  (startUrl : Text)

/-- The walk gets to the link: the pages before it were read under different keys. -/
structure Walks (url : Text) (pages : List (Text × Page)) (keys : List Text) (link : Text) :
    Prop where
  follows : Follows runtime collection sourceUrl server url pages (some link)
  keyed : List.Forall₂ (fun entry key => withCountQuery runtime entry.1 = .ok key) pages keys
  once : keys.Nodup

/-- The server hands out finitely many next links. -/
def FiniteLinks : Prop :=
  ∀ url, withCountQuery runtime startUrl = .ok url →
    {link | ∃ pages, Follows runtime collection sourceUrl server url pages (some link)}.Finite

/-- The URLs of a walk can be split, and its pages read. -/
structure PagesRead : Prop where
  start : Outcome.Returns (withCountQuery runtime startUrl)
  links : ∀ url pages keys link, withCountQuery runtime startUrl = .ok url →
    Walks runtime collection sourceUrl server url pages keys link →
      Outcome.Returns (withCountQuery runtime link)
  pages : ∀ url pages keys link key payload, withCountQuery runtime startUrl = .ok url →
    Walks runtime collection sourceUrl server url pages keys link →
      withCountQuery runtime link = .ok key → key ∉ keys → server link = some payload →
        PageReads runtime collection payload

structure InventoryLaw : Prop where
  sound : ∀ turns result,
    fetchPaginated runtime collection sourceUrl server startUrl turns = some (.ok result) →
      result.proof.inventoryComplete = true → ∃ url pages,
        withCountQuery runtime startUrl = .ok url ∧
          CompletePages runtime collection sourceUrl server url pages result
  answers : FiniteLinks runtime collection sourceUrl server startUrl → ∃ turns outcome,
    fetchPaginated runtime collection sourceUrl server startUrl turns = some outcome ∧
      Answers outcome

end Law

variable {runtime : StaRuntime} {collection : Collection} {sourceUrl : Text} {server : Server}
  {startUrl url link : Text} {walk : PageWalk} {pages : List (Text × Page)} {keys : List Text}
  {page : Page} {payload : Value}

/-! ### Soundness -/

theorem fetchPaginated_ok {turns : ℕ} {outcome : Except StaFailure ThingsFetchResult}
    (hurl : withCountQuery runtime startUrl = .ok url) :
    fetchPaginated runtime collection sourceUrl server startUrl turns = some outcome ↔
      ∃ ended, While.run walkGuard (walkTurn runtime collection sourceUrl server) turns
        (startWalk url) = some ended ∧ ended.bind fetchResult = outcome := by
  unfold fetchPaginated
  rw [hurl]
  exact Option.map_eq_some_iff

theorem inventory_sound {turns : ℕ} {result : ThingsFetchResult}
    (h : fetchPaginated runtime collection sourceUrl server startUrl turns = some (.ok result))
    (hcomplete : result.proof.inventoryComplete = true) : ∃ url pages,
      withCountQuery runtime startUrl = .ok url ∧
        CompletePages runtime collection sourceUrl server url pages result := by
  cases hurl : withCountQuery runtime startUrl with
  | error cause =>
    unfold fetchPaginated at h
    rw [hurl] at h
    cases h
  | ok url =>
    obtain ⟨ended, hrun, hbind⟩ := (fetchPaginated_ok hurl).mp h
    cases ended with
    | error e => cases hbind
    | ok walk =>
      obtain ⟨last, hreaches, hstop⟩ := While.ends_iff.mp ⟨turns, hrun⟩
      rcases hstop with ⟨hguard, heq⟩ | ⟨-, e, -, heq⟩
      · cases heq
        obtain ⟨pages, hinv⟩ := walkInv_of_reaches hreaches
        exact ⟨url, pages, rfl, completePages_of_complete hinv
          (Option.not_isSome_iff_eq_none.mp (Bool.eq_false_iff.mp hguard)) hbind hcomplete⟩
      · cases heq

/-! ### Turns -/

theorem seenUrls_takePage (walk : PageWalk) (key : Text) (page : Page) :
    (takePage walk key page).seenUrls = walk.seenUrls ++ [key] := by
  obtain ⟨counted, hcounted, htake⟩ := takePage_eq walk key page
  obtain ⟨ids, seen, missing, duplicates, hids⟩ := hcounted.others
  obtain ⟨totals, invalid, htotals⟩ := countTotal_others { walk with
    seenUrls := walk.seenUrls ++ [key]
    pagesFetched := walk.pagesFetched + 1 } page.count
  rw [htake, hids, htotals]

theorem walkTurn_of_key {key : Text} (hurl : walk.nextUrl = some link)
    (hkey : withCountQuery runtime link = .ok key) (hnew : key ∉ walk.seenUrls)
    (hpayload : server link = some payload) :
    walkTurn runtime collection sourceUrl server walk =
      (readPage runtime collection sourceUrl payload).map (takePage walk key) := by
  unfold walkTurn
  rw [hurl]
  dsimp only
  rw [hkey]
  show (if key ∈ walk.seenUrls then _ else _) = _
  rw [if_neg hnew, hpayload]
  show (readPage runtime collection sourceUrl payload >>= fun page =>
    pure (takePage walk key page)) = _
  cases readPage runtime collection sourceUrl payload <;> rfl

theorem forall₂_concat_left {α β : Type} {related : α → β → Prop} {l : List α} {a : α}
    {r : List β} (h : List.Forall₂ related (l ++ [a]) r) :
    ∃ front b, List.Forall₂ related l front ∧ related a b ∧ r = front ++ [b] := by
  induction l generalizing r with
  | nil =>
    cases h with
    | cons hlast hnil =>
      cases hnil
      exact ⟨[], _, .nil, hlast, rfl⟩
  | cons first rest ih =>
    cases h with
    | cons hfirst hrest =>
      obtain ⟨front, b, hfront, hlast, rfl⟩ := ih hrest
      exact ⟨_ :: front, b, .cons hfirst hfront, hlast, rfl⟩

/-- Every walk in the sense of the pages is one of the loop. -/
theorem reaches_of_walks (h : Walks runtime collection sourceUrl server url pages keys link) :
    ∃ walk, While.Reaches walkGuard (walkTurn runtime collection sourceUrl server) (startWalk url)
      walk ∧ walk.nextUrl = some link ∧ walk.seenUrls = keys := by
  obtain ⟨hfollows, hkeys, honce⟩ := h
  generalize hnext : some link = next at hfollows
  induction hfollows generalizing link keys with
  | start =>
    cases hnext
    cases hkeys
    exact ⟨startWalk url, .refl, rfl, rfl⟩
  | @page pages before payload page _ hpayload hpage ih =>
    obtain ⟨front, key, hfront, hkey, rfl⟩ := forall₂_concat_left hkeys
    rw [List.nodup_append] at honce
    obtain ⟨walk, hreaches, hurl, hseen⟩ := ih hfront honce.1 rfl
    have hnew : key ∉ walk.seenUrls := by
      rw [hseen]
      exact fun hmem => honce.2.2 key hmem key List.mem_cons_self rfl
    refine ⟨takePage walk key page, hreaches.tail ⟨?_, ?_⟩, rfl, ?_⟩
    · unfold walkGuard
      rw [hurl]
      rfl
    · rw [walkTurn_of_key hurl hkey hnew hpayload, hpage]
      rfl
    · rw [seenUrls_takePage, hseen]

/-- A walk that meets another error has no answer. -/
theorem not_answers_of_raise {cause : Raised} (hurl : withCountQuery runtime startUrl = .ok url)
    (hreaches : While.Reaches walkGuard (walkTurn runtime collection sourceUrl server)
      (startWalk url) walk) (hlink : walk.nextUrl = some link)
    (hturn : walkTurn runtime collection sourceUrl server walk = .error (.raised cause)) :
    ¬ ∃ turns outcome, fetchPaginated runtime collection sourceUrl server startUrl turns =
      some outcome ∧ Answers outcome := by
  rintro ⟨turns, outcome, h, hanswers⟩
  obtain ⟨ended, hrun, hbind⟩ := (fetchPaginated_ok hurl).mp h
  have hguard : walkGuard walk = true := by
    unfold walkGuard
    rw [hlink]
    rfl
  have hends := While.ends_of_reaches hreaches (While.ends_of_raise hguard hturn)
  rw [While.Ends.unique ⟨turns, hrun⟩ hends] at hbind
  exact hanswers cause hbind.symm

theorem pagesRead_of_answers (h : ∃ turns outcome,
    fetchPaginated runtime collection sourceUrl server startUrl turns = some outcome ∧
      Answers outcome) : PagesRead runtime collection sourceUrl server startUrl := by
  constructor
  · cases hurl : withCountQuery runtime startUrl with
    | ok url => exact Outcome.returns_ok url
    | error cause =>
      obtain ⟨turns, outcome, h, hanswers⟩ := h
      unfold fetchPaginated at h
      rw [hurl] at h
      cases h
      exact absurd rfl (hanswers cause)
  · intro url pages keys link hurl hwalks
    obtain ⟨walk, hreaches, hlink, -⟩ := reaches_of_walks hwalks
    cases hkey : withCountQuery runtime link with
    | ok key => exact Outcome.returns_ok key
    | error cause =>
      have hturn : walkTurn runtime collection sourceUrl server walk = .error (.raised cause) := by
        unfold walkTurn
        rw [hlink]
        dsimp only
        rw [hkey]
        rfl
      exact absurd h (not_answers_of_raise hurl hreaches hlink hturn)
  · intro url pages keys link key payload hurl hwalks hkey hnew hpayload
    obtain ⟨walk, hreaches, hlink, hseen⟩ := reaches_of_walks hwalks
    apply answers_readPage.mp
    intro cause hcause
    have hturn : walkTurn runtime collection sourceUrl server walk = .error (.raised cause) := by
      rw [walkTurn_of_key hlink hkey (hseen ▸ hnew) hpayload, hcause]
      rfl
    exact not_answers_of_raise hurl hreaches hlink hturn h

/-! ### Ends -/

theorem Follows.before {next : Option Text}
    (h : Follows runtime collection sourceUrl server url pages next) : ∀ entry ∈ pages,
      ∃ before, Follows runtime collection sourceUrl server url before (some entry.1) := by
  induction h with
  | start => exact fun _ hentry => absurd hentry List.not_mem_nil
  | page hfollows _ _ ih =>
    intro entry hentry
    rcases List.mem_append.mp hentry with hold | hnew
    · exact ih entry hold
    · rw [List.mem_singleton.mp hnew]
      exact ⟨_, hfollows⟩

/-- The loop ends where the links are finitely many: each turn adds a key. -/
theorem exists_ended (hfinite : {link | ∃ pages,
      Follows runtime collection sourceUrl server url pages (some link)}.Finite) :
    ∃ ended, While.Ends walkGuard (walkTurn runtime collection sourceUrl server) (startWalk url)
      ended := by
  obtain ⟨keyOf, hkeyOf⟩ : ∃ keyOf : Text → Text, ∀ link key,
      withCountQuery runtime link = .ok key → keyOf link = key := by
    refine ⟨fun link => (withCountQuery runtime link).toOption.getD [], ?_⟩
    intro link key hkey
    dsimp only
    rw [hkey]
    rfl
  have hstep : ∀ s t, (∃ pages, WalkInv runtime collection sourceUrl server url s pages) →
      While.Turn walkGuard (walkTurn runtime collection sourceUrl server) s t →
        (∃ pages, WalkInv runtime collection sourceUrl server url t pages) ∧
          s.seenUrls.length < t.seenUrls.length := by
    rintro s t ⟨pages, hs⟩ ⟨hguard, hturn⟩
    obtain ⟨link, hlink⟩ := Option.isSome_iff_exists.mp hguard
    obtain ⟨key, payload, page, hkey, hnew, hpayload, hpage, rfl⟩ := walkTurn_cases hlink hturn
    refine ⟨⟨_, hs.take hlink hkey hnew hpayload hpage⟩, ?_⟩
    rw [seenUrls_takePage, List.length_append, List.length_singleton]
    omega
  have hbound : ∀ s, (∃ pages, WalkInv runtime collection sourceUrl server url s pages) →
      s.seenUrls.length ≤ (hfinite.toFinset.image keyOf).card := by
    rintro s ⟨pages, hs⟩
    rw [← List.toFinset_card_of_nodup hs.once]
    apply Finset.card_le_card
    intro key hkey
    obtain ⟨i, hi, hget⟩ := List.getElem_of_mem (List.mem_toFinset.mp hkey)
    have hlength := hs.keys.length_eq
    have hpair := (List.forall₂_iff_get.mp hs.keys).2 i (hlength ▸ hi) hi
    rw [List.get_eq_getElem, List.get_eq_getElem, hget] at hpair
    rw [← hkeyOf _ _ hpair]
    apply Finset.mem_image_of_mem
    rw [Set.Finite.mem_toFinset]
    exact hs.follows.before _ (List.getElem_mem _)
  exact @While.exists_ends _ _ _ _
    (fun walk => ∃ pages, WalkInv runtime collection sourceUrl server url walk pages) _
    (fun walk => walk.seenUrls.length) _ hstep hbound ⟨[], walkInv_start url⟩

/-- `__post_init__` never refuses the proof of a walk that has ended. -/
theorem returns_fetchResult
    (hinv : WalkInv runtime collection sourceUrl server url walk pages) :
    Outcome.Returns (fetchResult walk) := by
  have hperm : (sortTexts walk.stationIds).Perm walk.stationIds := sortTexts_perm _
  have hfilled : ¬ (walk.paginationComplete = true ∧ walk.pagesFetched = 0) := by
    rintro ⟨hcomplete, hnone⟩
    rw [hinv.fetched] at hnone
    exact (hinv.complete hcomplete).2 (List.length_eq_zero_iff.mp hnone)
  have hstripped : ¬ ((sortTexts walk.stationIds).any fun stationId =>
      stationId = [] || stationId ≠ stripText stationId) = true := by
    intro hany
    obtain ⟨stationId, hmem, hbad⟩ := List.any_eq_true.mp hany
    obtain ⟨entry, hentry, hid⟩ := hinv.origin stationId (hperm.mem_iff.mp hmem)
    obtain ⟨payload, -, hpage⟩ := hinv.follows.read entry hentry
    obtain ⟨hstrip, hne⟩ := stripped_stationId hpage hid
    rw [Bool.or_eq_true, decide_eq_true_eq, decide_eq_true_eq] at hbad
    rcases hbad with hempty | hspace
    · exact hne hempty
    · exact hspace hstrip.symm
  have hsorted : sortTexts walk.stationIds = sortTexts (sortTexts walk.stationIds).dedup := by
    rw [List.dedup_eq_self.mpr (hperm.nodup_iff.mpr hinv.nodup), sortTexts_sortTexts]
  unfold fetchResult InventoryProof.checked
  rw [if_neg hfilled, if_neg hstripped, if_neg (not_not.mpr hsorted)]
  exact ⟨_, rfl⟩

theorem answers_of_pagesRead (hfinite : FiniteLinks runtime collection sourceUrl server startUrl)
    (h : PagesRead runtime collection sourceUrl server startUrl) : ∃ turns outcome,
    fetchPaginated runtime collection sourceUrl server startUrl turns = some outcome ∧
      Answers outcome := by
  obtain ⟨url, hurl⟩ := h.start
  obtain ⟨ended, turns, hrun⟩ := exists_ended (hfinite url hurl)
  refine ⟨turns, ended.bind fetchResult, (fetchPaginated_ok hurl).mpr ⟨ended, hrun, rfl⟩, ?_⟩
  obtain ⟨walk, hreaches, hstop⟩ := While.ends_iff.mp ⟨turns, hrun⟩
  obtain ⟨pages, hinv⟩ := walkInv_of_reaches hreaches
  rcases hstop with ⟨-, rfl⟩ | ⟨hguard, e, hturn, rfl⟩
  · obtain ⟨result, hresult⟩ := returns_fetchResult hinv
    intro cause hcause
    have hbind : fetchResult walk = .error (.raised cause) := hcause
    rw [hresult] at hbind
    cases hbind
  · intro cause hcause
    have heq : (Except.error e : Except StaFailure ThingsFetchResult) = .error (.raised cause) :=
      hcause
    cases heq
    obtain ⟨link, hlink⟩ := Option.isSome_iff_exists.mp hguard
    have hwalks : Walks runtime collection sourceUrl server url pages walk.seenUrls link :=
      ⟨hlink ▸ hinv.follows, hinv.keys, hinv.once⟩
    obtain ⟨key, hkey⟩ := h.links url pages walk.seenUrls link hurl hwalks
    by_cases hseen : key ∈ walk.seenUrls
    · unfold walkTurn at hturn
      rw [hlink] at hturn
      dsimp only at hturn
      rw [hkey] at hturn
      have hrepeat : (if key ∈ walk.seenUrls then Except.error StaFailure.payload else _) =
          .error (.raised cause) := hturn
      rw [if_pos hseen] at hrepeat
      cases hrepeat
    · cases hpayload : server link with
      | none =>
        unfold walkTurn at hturn
        rw [hlink] at hturn
        dsimp only at hturn
        rw [hkey] at hturn
        simp only [Except.mapError, bind, Except.bind, if_neg hseen, hpayload] at hturn
        cases hturn
      | some payload =>
        rw [walkTurn_of_key hlink hkey hseen hpayload] at hturn
        have hreads := h.pages url pages walk.seenUrls link key payload hurl hwalks hkey hseen
          hpayload
        cases hpage : readPage runtime collection sourceUrl payload with
        | ok page =>
          rw [hpage] at hturn
          cases hturn
        | error e =>
          rw [hpage] at hturn
          cases hturn
          exact answers_readPage.mpr hreads cause hpage

theorem inventory_law_iff : InventoryLaw runtime collection sourceUrl server startUrl ↔
    (FiniteLinks runtime collection sourceUrl server startUrl →
      PagesRead runtime collection sourceUrl server startUrl) := by
  constructor
  · exact fun h hfinite => pagesRead_of_answers (h.answers hfinite)
  · intro h
    constructor
    · exact fun turns result hresult hcomplete => inventory_sound hresult hcomplete
    · exact fun hfinite => answers_of_pagesRead hfinite (h hfinite)

/-! ### A count that is a digit, and no number -/

def superscriptRuntime : StaRuntime where
  toRuntime := plainRuntime
  rules := ⟨id, id, fun _ => true⟩
  isDigit := fun c => c.isOneOf "0123456789²".toList
  decimal := fun c => (digitOf c).filter (· < 10)

def superscriptPage : Value :=
  .object [("@iot.count", .text (text "²")), ("value", .list [])]

def thingsUrl : Text := text "https://sta.colife.org.tw/STA_WaterResource_v2/v1.0/Things"

theorem superscriptPage_raises (collection : Collection) (sourceUrl : Text) :
    readPage superscriptRuntime collection sourceUrl superscriptPage =
      .error (.raised .valueError) := by
  have hcount : staUpstreamTotal superscriptRuntime superscriptPage = .error .valueError := by
    rfl
  unfold readPage
  rw [hcount]
  rfl

theorem superscript_count_raises :
    ¬ InventoryLaw superscriptRuntime (.things []) [] (fun _ => some superscriptPage) thingsUrl := by
  intro h
  have hfinite : FiniteLinks superscriptRuntime (.things []) [] (fun _ => some superscriptPage)
      thingsUrl := by
    intro url _
    apply (Set.finite_singleton url).subset
    rintro link ⟨pages, hfollows⟩
    generalize hnext : some link = next at hfollows
    cases hfollows with
    | start => exact Option.some.inj hnext
    | page _ hpayload hpage =>
      cases hpayload
      rw [superscriptPage_raises] at hpage
      cases hpage
  have hread := pagesRead_of_answers (h.answers hfinite)
  obtain ⟨url, hurl⟩ := hread.start
  have hstart : Walks superscriptRuntime (.things []) [] (fun _ => some superscriptPage) url [] []
      url := ⟨.start, .nil, List.nodup_nil⟩
  obtain ⟨key, hkey⟩ := hread.links url [] [] url hurl hstart
  have hpage := hread.pages url [] [] url key superscriptPage hurl hstart hkey List.not_mem_nil rfl
  exact answers_readPage.mpr hpage .valueError (superscriptPage_raises _ [])

end FloodRisk.CivilIot
