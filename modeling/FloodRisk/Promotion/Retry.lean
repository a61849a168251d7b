import FloodRisk.Promotion.Reruns

/-!
# The retried promotion (jobs/runtime_managed.py:530-579)

`promoteAcceptedStagingWithRetry` runs a second attempt after a transient
failure of the first.  An attempt commits one transaction after the other, and
what the first one committed stays.
-/

namespace FloodRisk.Promotion
open Transition

variable {env : Environment} {now : ℤ} {payload : EvidencePromotionPayload}
  {db next : Database}

/-! ### Results -/

/-- `PromotionResult`. -/
structure PromotionResult where
  promoted : ℕ
  evidenceIds : List ℕ

def callResults (env : Environment) (db : Database) : Call → List (Option ℕ)
  | .single now payload => [(writeEvidence env now payload db).1]
  | .batch now payloads => (writeEvidenceBatch env now payloads db).1

def runResults (env : Environment) : Database → List Call → List (Option ℕ)
  | _, [] => []
  | db, call :: rest => callResults env db call ++ runResults env (callStep env db call) rest

def promotionResult (env : Environment) (call : PromotionCall) (db : Database) :
    PromotionResult :=
  let evidenceIds := (runResults env db (call.writes db)).filterMap id
  ⟨evidenceIds.length, evidenceIds⟩

theorem promoteChunks_results (env : Environment)
    (chunks : List (ℤ × List EvidencePromotionPayload)) (db : Database) :
    (promoteChunks env chunks db).1 =
      runResults env db (chunks.map fun chunk => .batch chunk.1 chunk.2) := by
  induction chunks generalizing db with
  | nil => rfl
  | cons chunk rest ih =>
    simp only [promoteChunks, List.map_cons, runResults, ih]
    rfl

theorem promotionResult_eq_promoteAcceptedStaging (env : Environment) (now : ℤ)
    (limit : Option ℕ) (adapterKeys rawRefs : Option (List String)) (db : Database) :
    (promotionResult env { limit, adapterKeys, rawRefs, clock := fun _ => now } db).evidenceIds =
      (promoteAcceptedStaging env now limit adapterKeys rawRefs db).1 := by
  simp only [promoteAcceptedStaging, promoteChunks_results, promotionResult, PromotionCall.writes,
    if_true, numbered_batches]

/-! ### The exception -/

/-- What `_is_transient_promotion_error` reads of an exception. -/
structure RaisedException where
  sqlstate : Option String := none
  typeModule : String
  typeName : String

def transientPromotionSqlstates : List String :=
  ["53300", "55P03", "57014", "57P01", "57P02", "57P03"]

def transientPromotionSqlstatePrefixes : List String := ["08", "40"]

def transientPsycopgExceptionNames : List String := ["InterfaceError", "OperationalError"]

def startsWith (lead text : String) : Bool := lead.toList.isPrefixOf text.toList

/-- `chain` is the exception followed by its causes or contexts, each once. -/
def isTransientPromotionError (chain : List RaisedException) : Bool :=
  chain.any fun current =>
    (current.sqlstate.any fun sqlstate =>
      sqlstate ∈ transientPromotionSqlstates ||
        transientPromotionSqlstatePrefixes.any fun lead => startsWith lead sqlstate) ||
    (startsWith "psycopg" current.typeModule && current.typeName ∈ transientPsycopgExceptionNames)

/-! ### `_promote_accepted_staging_with_retry` -/

/-- One attempt: the clock it reads and, when it fails, how many transactions it
committed before the exception. -/
structure PromotionAttempt where
  clock : ℕ → ℤ
  failure : Option (ℕ × List RaisedException) := none

/-- The arguments of the two attempts. -/
structure PromotionArguments where
  limit : Option ℕ := none
  adapterKeys : List String
  rawRefs : List String
  batched : Bool := true

def PromotionArguments.call (arguments : PromotionArguments) (attempt : PromotionAttempt) :
    PromotionCall where
  limit := arguments.limit
  adapterKeys := some arguments.adapterKeys
  rawRefs := some arguments.rawRefs
  batched := arguments.batched
  clock := attempt.clock
  crashedAfter := attempt.failure.map Prod.fst

def attemptPromotion (env : Environment) (arguments : PromotionArguments)
    (attempt : PromotionAttempt) (db : Database) :
    Except (List RaisedException) PromotionResult × Database :=
  let call := arguments.call attempt
  match attempt.failure with
  | none => (.ok (promotionResult env call db), promote env call db)
  | some (_, chain) => (.error chain, promote env call db)

def promoteAcceptedStagingWithRetry (env : Environment) (arguments : PromotionArguments)
    (first second : PromotionAttempt) (db : Database) :
    Except (List RaisedException) PromotionResult × Database :=
  match attemptPromotion env arguments first db with
  | (.ok result, final) => (.ok result, final)
  | (.error chain, left) =>
      if isTransientPromotionError chain then attemptPromotion env arguments second left
      else (.error chain, left)

/-! ### Transactions -/

inductive Transaction where
  | settle (now : ℤ) (payloads : List EvidencePromotionPayload)
  | write (now : ℤ) (payload : EvidencePromotionPayload)

/-- The transaction of a candidate whose evidence row is inserted. -/
def Transaction.Promotes (env : Environment) (db : Database) : Transaction → Prop
  | .settle _ _ => False
  | .write now payload => ReachesPromotion env now payload db ∧
      ∃ source evidence promoteLatest, InsertsEvidence env payload db source evidence promoteLatest

def transactionStep (env : Environment) (db : Database) : Transaction → Database
  | .settle now payloads => (settleUnchangedObservations env now payloads db).2
  | .write now payload => (writeEvidence env now payload db).2

def callTransactions (env : Environment) (db : Database) : Call → List Transaction
  | .single now payload => [.write now payload]
  | .batch now payloads =>
      .settle now payloads ::
        (unsettledWrites now (settledStagingIds env now db payloads) payloads).map fun write =>
          .write write.1 write.2

/-- The transactions of a sequence of calls, in their order. -/
def transactions (env : Environment) : Database → List Call → List Transaction
  | _, [] => []
  | db, call :: rest => callTransactions env db call ++ transactions env (callStep env db call) rest

theorem committedStates_eq_trajectory (env : Environment) (db : Database) (call : Call) :
    committedStates env db call =
      trajectory (transactionStep env) db (callTransactions env db call) := by
  cases call with
  | single now payload => rfl
  | batch now payloads =>
    rw [committedStates, callTransactions, trajectory, trajectory_map]
    rfl

theorem callStep_eq_run_transactions (env : Environment) (db : Database) (call : Call) :
    callStep env db call = run (transactionStep env) db (callTransactions env db call) := by
  cases call with
  | single now payload => rfl
  | batch now payloads =>
    rw [callStep_batch, callTransactions, run_cons, run_map]
    rfl

theorem committedRun_eq_trajectory (env : Environment) (db : Database) (calls : List Call) :
    committedRun env db calls = trajectory (transactionStep env) db (transactions env db calls) := by
  induction calls generalizing db with
  | nil => rfl
  | cons call rest ih =>
    rw [committedRun, transactions, trajectory_append, committedStates_eq_trajectory, ih,
      ← callStep_eq_run_transactions]

/-- The transactions that a call commits before it fails. -/
def committedTransactions (env : Environment) (call : PromotionCall) (commits : ℕ)
    (db : Database) : List Transaction :=
  (transactions env db (call.writes db)).take commits

theorem promote_of_crash {call : PromotionCall} {commits : ℕ}
    (h : call.crashedAfter = some commits) :
    promote env call db =
      run (transactionStep env) db (committedTransactions env call commits db) := by
  simp only [promote, h, committedRun_eq_trajectory, getLastD_take_trajectory,
    committedTransactions]

/-! ### Inserted rows -/

def evidenceIdsOf (db : Database) : List ℕ := db.evidence.rows.map Evidence.id

/-- The rows with the new identities `ids` were appended to the evidence, and nothing else. -/
structure Inserts (db next : Database) (ids : List ℕ) : Prop where
  rows : ∃ added, next.evidence.rows = db.evidence.rows ++ added ∧ added.map Evidence.id = ids
  fresh : ∀ id ∈ ids, id ∉ evidenceIdsOf db
  nodup : ids.Nodup

/-- The result names the rows that were inserted between the two states. -/
structure ReportsInserted (db final : Database) (result : PromotionResult) : Prop where
  nodup : result.evidenceIds.Nodup
  exact : ∀ id, id ∈ result.evidenceIds ↔ id ∈ evidenceIdsOf final ∧ id ∉ evidenceIdsOf db
  promoted : result.promoted = result.evidenceIds.length

namespace Inserts

theorem of_eq (h : next.evidence = db.evidence) : Inserts db next [] :=
  ⟨⟨[], by rw [h, List.append_nil], rfl⟩, by simp, List.nodup_nil⟩

theorem mem {ids : List ℕ} (h : Inserts db next ids) {id : ℕ} :
    id ∈ evidenceIdsOf next ↔ id ∈ evidenceIdsOf db ∨ id ∈ ids := by
  obtain ⟨added, hrows, rfl⟩ := h.rows
  rw [evidenceIdsOf, hrows, List.map_append, List.mem_append]
  rfl

theorem trans {middle : Database} {ids more : List ℕ} (h : Inserts db middle ids)
    (k : Inserts middle next more) : Inserts db next (ids ++ more) := by
  obtain ⟨added, hrows, hids⟩ := h.rows
  obtain ⟨others, hothers, hmore⟩ := k.rows
  refine ⟨⟨added ++ others, ?_, ?_⟩, ?_, ?_⟩
  · rw [hothers, hrows, List.append_assoc]
  · rw [List.map_append, hids, hmore]
  · intro id hid
    cases List.mem_append.mp hid with
    | inl hfirst => exact h.fresh id hfirst
    | inr hsecond => exact fun hold => k.fresh id hsecond (h.mem.mpr (Or.inl hold))
  · apply h.nodup.append k.nodup
    intro id hfirst hsecond
    exact k.fresh id hsecond (h.mem.mpr (Or.inr hfirst))

theorem eq_nil {ids : List ℕ} (h : Inserts db next ids)
    (hsame : next.evidence.rows = db.evidence.rows) : ids = [] := by
  apply List.eq_nil_iff_forall_not_mem.mpr
  intro id hid
  apply h.fresh id hid
  have hmem := h.mem.mpr (Or.inr hid)
  rwa [evidenceIdsOf, hsame] at hmem

end Inserts

theorem filterMap_result (result : Option ℕ) (others : List (Option ℕ)) :
    (result :: others).filterMap id = result.toList ++ others.filterMap id := by
  cases result with
  | none => rfl
  | some id => rfl

/-- A transaction returns the identity of the row it inserts, and nothing otherwise. -/
theorem writeEvidence_inserts (env : Environment) (now : ℤ) (payload : EvidencePromotionPayload)
    (db : Database) :
    Inserts db (writeEvidence env now payload db).2
      (writeEvidence env now payload db).1.toList := by
  refine writeEvidence_cases
    (motive := fun result => Inserts db result.2 result.1.toList) ?_ ?_ ?_ ?_ ?_ ?_
  · exact fun _ => Inserts.of_eq rfl
  · intro reason _
    apply Inserts.of_eq
    rw [terminallyRejectStaging_evidence]
    split
    · exact (SameOutsideLatest.retireInactive payload db).evidence
    · rfl
  · exact fun _ _ => Inserts.of_eq rfl
  · intro reason settled _ _ _ hsettled
    apply Inserts.of_eq
    rw [terminallyRejectStaging_evidence]
    exact (SameOutsideLatest.settle hsettled).evidence
  · intro reason _
    apply Inserts.of_eq
    rw [terminallyRejectStaging_evidence]
    exact (SameOutsideLatest.duplicate env payload db).evidence
  · intro source evidence promoteLatest _ inserts
    have hpublished := (publishedDatabase_frame env payload db evidence promoteLatest).evidence
    have hinserted := inserts.inserted
    unfold Table.insertNew at hinserted
    split_ifs at hinserted with hkey
    refine ⟨⟨[evidenceRow (weightedPayload env payload db) source
      (freshId (db.evidence.rows.map Evidence.id))], ?_, rfl⟩, ?_, List.nodup_singleton _⟩
    · rw [hpublished, ← Option.some.inj hinserted]
    · intro id hid
      rw [Option.toList_some, List.mem_singleton] at hid
      rw [hid]
      exact freshId_not_mem _

theorem writeUnsettled_inserts (env : Environment) (now : ℤ) (settled : List ℕ)
    (payloads : List EvidencePromotionPayload) (db : Database) :
    Inserts db (writeUnsettled env now settled payloads db).2
      ((writeUnsettled env now settled payloads db).1.filterMap id) := by
  induction payloads generalizing db with
  | nil => exact Inserts.of_eq rfl
  | cons payload rest ih =>
    unfold writeUnsettled
    split_ifs with hsettled
    · exact ih db
    · have hfirst := writeEvidence_inserts env now payload db
      simp only [filterMap_result]
      exact hfirst.trans (ih (writeEvidence env now payload db).2)

theorem callStep_inserts (env : Environment) (call : Call) (db : Database) :
    Inserts db (callStep env db call) ((callResults env db call).filterMap id) := by
  cases call with
  | single now payload =>
    have hwrite := writeEvidence_inserts env now payload db
    simp only [callResults, filterMap_result, List.filterMap_nil, List.append_nil]
    exact hwrite
  | batch now payloads =>
    have hsettled : Inserts db (settleUnchangedObservations env now payloads db).2 [] :=
      Inserts.of_eq rfl
    exact hsettled.trans (writeUnsettled_inserts env now _ payloads _)

theorem run_inserts (env : Environment) (calls : List Call) (db : Database) :
    Inserts db (run (callStep env) db calls) ((runResults env db calls).filterMap id) := by
  induction calls generalizing db with
  | nil => exact Inserts.of_eq rfl
  | cons call rest ih =>
    have hrest := (callStep_inserts env call db).trans (ih (callStep env db call))
    rw [run_cons, runResults, List.filterMap_append]
    exact hrest

theorem writeEvidence_eq_none_iff : (writeEvidence env now payload db).1 = none ↔
    ¬ (Transaction.write now payload).Promotes env db := by
  constructor
  · rintro h ⟨reaches, source, evidence, promoteLatest, inserts⟩
    rw [writeEvidence_eq_published reaches inserts] at h
    cases h
  · refine writeEvidence_cases
      (motive := fun result => ¬ (Transaction.write now payload).Promotes env db →
        result.1 = none) ?_ ?_ ?_ ?_ ?_ ?_
    · exact fun _ _ => rfl
    · exact fun _ _ _ => rfl
    · exact fun _ _ _ => rfl
    · exact fun _ _ _ _ _ _ _ => rfl
    · exact fun _ _ _ => rfl
    · intro source evidence promoteLatest reaches inserts hnot
      exact absurd ⟨reaches, source, evidence, promoteLatest, inserts⟩ hnot

theorem transaction_inserts (env : Environment) (db : Database) (transaction : Transaction) :
    ∃ ids, Inserts db (transactionStep env db transaction) ids ∧
      (ids = [] ↔ ¬ transaction.Promotes env db) := by
  cases transaction with
  | settle now payloads => exact ⟨[], Inserts.of_eq rfl, iff_of_true rfl not_false⟩
  | write now payload =>
    refine ⟨_, writeEvidence_inserts env now payload db, ?_⟩
    rw [Option.toList_eq_nil_iff, writeEvidence_eq_none_iff]

/-- A run of transactions inserts nothing where none of them promotes. -/
theorem run_transactions_inserts (env : Environment) (actions : List Transaction)
    (db : Database) :
    ∃ ids, Inserts db (run (transactionStep env) db actions) ids ∧
      (ids = [] ↔ Along (transactionStep env) (fun db transaction =>
        ¬ transaction.Promotes env db) db actions) := by
  induction actions generalizing db with
  | nil => exact ⟨[], Inserts.of_eq rfl, iff_of_true rfl trivial⟩
  | cons transaction rest ih =>
    obtain ⟨first, hfirst, hnone⟩ := transaction_inserts env db transaction
    obtain ⟨others, hothers, hrest⟩ := ih (transactionStep env db transaction)
    refine ⟨first ++ others, hfirst.trans hothers, ?_⟩
    rw [List.append_eq_nil_iff, along_cons, hnone, hrest]

/-! ### What the call reports -/

theorem Inserts.reports {result : PromotionResult} {ids : List ℕ} (h : Inserts db next ids)
    (hids : result.evidenceIds = ids) (hcount : result.promoted = ids.length) :
    ReportsInserted db next result := by
  refine ⟨hids ▸ h.nodup, fun id => ?_, by rw [hids, hcount]⟩
  rw [hids, h.mem]
  constructor
  · exact fun hid => ⟨Or.inr hid, h.fresh id hid⟩
  · rintro ⟨hold | hnew, hfresh⟩
    · exact absurd hold hfresh
    · exact hnew

/-- A result of the second attempt alone is complete when the first inserted nothing. -/
theorem reports_iff {left : Database} {result : PromotionResult} {lost ids : List ℕ}
    (h : Inserts db left lost) (k : Inserts left next ids) (hids : result.evidenceIds = ids)
    (hcount : result.promoted = ids.length) : ReportsInserted db next result ↔ lost = [] := by
  constructor
  · intro reports
    apply List.eq_nil_iff_forall_not_mem.mpr
    intro id hid
    have hleft : id ∈ evidenceIdsOf left := h.mem.mpr (Or.inr hid)
    have hreported := (reports.exact id).mpr ⟨k.mem.mpr (Or.inl hleft), h.fresh id hid⟩
    exact k.fresh id (hids ▸ hreported) hleft
  · rintro rfl
    exact (h.trans k).reports hids hcount

theorem attemptPromotion_ok {arguments : PromotionArguments} {attempt : PromotionAttempt}
    {result : PromotionResult} (h : (attemptPromotion env arguments attempt db).1 = .ok result) :
    attempt.failure = none ∧ result = promotionResult env (arguments.call attempt) db ∧
      Inserts db (attemptPromotion env arguments attempt db).2
        (promotionResult env (arguments.call attempt) db).evidenceIds := by
  unfold attemptPromotion at h ⊢
  cases hfailure : attempt.failure with
  | some failure => simp [hfailure] at h
  | none =>
    simp only [hfailure] at h
    have hrun := run_inserts env ((arguments.call attempt).writes db) db
    refine ⟨rfl, (Except.ok.inj h).symm, ?_⟩
    simpa [promote, PromotionArguments.call, hfailure, promotionResult] using hrun

/-- The call reports what it did unless the first attempt promoted a candidate and then failed. -/
theorem retry_reports_inserted_iff (env : Environment) (arguments : PromotionArguments)
    (first second : PromotionAttempt) (db : Database) (result : PromotionResult)
    (h : (promoteAcceptedStagingWithRetry env arguments first second db).1 = .ok result) :
    ReportsInserted db (promoteAcceptedStagingWithRetry env arguments first second db).2 result ↔
      ∀ commits chain, first.failure = some (commits, chain) →
        Along (transactionStep env) (fun db transaction => ¬ transaction.Promotes env db) db
          (committedTransactions env (arguments.call first) commits db) := by
  unfold promoteAcceptedStagingWithRetry at h ⊢
  cases hfailure : first.failure with
  | none =>
    have hfirst : attemptPromotion env arguments first db =
        (.ok (promotionResult env (arguments.call first) db),
          promote env (arguments.call first) db) := by
      simp only [attemptPromotion, hfailure]
    have hinserts := (attemptPromotion_ok (congrArg Prod.fst hfirst)).2.2
    rw [hfirst] at h hinserts ⊢
    simp only [Except.ok.injEq] at h
    refine iff_of_true ?_ (by simp)
    exact hinserts.reports (by rw [← h]) (by rw [← h]; rfl)
  | some failure =>
    have hfirst : attemptPromotion env arguments first db =
        (.error failure.2, promote env (arguments.call first) db) := by
      simp only [attemptPromotion, hfailure]
    rw [hfirst] at h ⊢
    simp only at h ⊢
    split_ifs at h ⊢ with htransient
    obtain ⟨lost, hlost, hnone⟩ := run_transactions_inserts env
      (committedTransactions env (arguments.call first) failure.1 db) db
    have hcrash : (arguments.call first).crashedAfter = some failure.1 := by
      simp only [PromotionArguments.call, hfailure, Option.map_some]
    rw [← promote_of_crash hcrash] at hlost
    obtain ⟨-, heq, hinserts⟩ := attemptPromotion_ok h
    rw [reports_iff hlost hinserts (by rw [heq]) (by rw [heq]; rfl), hnone]
    constructor
    · intro halong commits chain hsame
      cases hsame
      exact halong
    · exact fun halong => halong failure.1 failure.2 rfl

/-! ### A connection lost after the first candidate -/

def polledDatabase : Database := writeBatch rainPoll (catalogued ["official.cwa.rainfall"])

def rainArguments : PromotionArguments where
  adapterKeys := ["official.cwa.rainfall"]
  rawRefs := ["raw/rain"]

def connectionLost : List RaisedException := [⟨none, "psycopg.errors", "OperationalError"⟩]

def lostAfter (commits : ℕ) : PromotionAttempt := ⟨fun _ => 2000, some (commits, connectionLost)⟩

def secondAttempt : PromotionAttempt := ⟨fun _ => 3000, none⟩

theorem retried_result (commits : ℕ) :
    (promoteAcceptedStagingWithRetry bareEnvironment rainArguments (lostAfter commits)
      secondAttempt polledDatabase).1 =
        .ok (promotionResult bareEnvironment (rainArguments.call secondAttempt)
          (promote bareEnvironment (rainArguments.call (lostAfter commits)) polledDatabase)) := by
  have htransient : isTransientPromotionError connectionLost = true := by decide +kernel
  simp only [promoteAcceptedStagingWithRetry, attemptPromotion, lostAfter, htransient, if_true]
  rfl

/-- The failure follows the settling of the batch: both stations are reported. -/
theorem retry_reports_after_settling :
    ReportsInserted polledDatabase
      (promoteAcceptedStagingWithRetry bareEnvironment rainArguments (lostAfter 1) secondAttempt
        polledDatabase).2
      (promotionResult bareEnvironment (rainArguments.call secondAttempt)
        (promote bareEnvironment (rainArguments.call (lostAfter 1)) polledDatabase)) := by
  apply (retry_reports_inserted_iff bareEnvironment rainArguments (lostAfter 1) secondAttempt
    polledDatabase _ (retried_result 1)).mpr
  intro commits chain hfailure
  cases hfailure
  obtain ⟨ids, hids, hnone⟩ := run_transactions_inserts bareEnvironment
    (committedTransactions bareEnvironment (rainArguments.call (lostAfter 1)) 1 polledDatabase)
    polledDatabase
  apply hnone.mp
  apply hids.eq_nil
  rw [← promote_of_crash rfl]
  have hbefore : polledDatabase.evidence.rows.length = 0 := by decide +kernel
  have hafter : (promote bareEnvironment (rainArguments.call (lostAfter 1))
      polledDatabase).evidence.rows.length = 0 := by decide +kernel
  rw [List.eq_nil_of_length_eq_zero hbefore, List.eq_nil_of_length_eq_zero hafter]

/-- The failure follows the first station: only the second one is reported. -/
theorem retry_loses_the_first_attempt :
    ∃ result, (promoteAcceptedStagingWithRetry bareEnvironment rainArguments (lostAfter 2)
        secondAttempt polledDatabase).1 = .ok result ∧
      ¬ ReportsInserted polledDatabase
        (promoteAcceptedStagingWithRetry bareEnvironment rainArguments (lostAfter 2) secondAttempt
          polledDatabase).2 result := by
  refine ⟨_, retried_result 2, fun reports => ?_⟩
  have hstored : 1 ∈ evidenceIdsOf (promoteAcceptedStagingWithRetry bareEnvironment rainArguments
      (lostAfter 2) secondAttempt polledDatabase).2 := by decide +kernel
  have hnew : 1 ∉ evidenceIdsOf polledDatabase := by decide +kernel
  have hlost : 1 ∉ (promotionResult bareEnvironment (rainArguments.call secondAttempt)
      (promote bareEnvironment (rainArguments.call (lostAfter 2)) polledDatabase)).evidenceIds := by
    decide +kernel
  exact hlost ((reports.exact 1).mpr ⟨hstored, hnew⟩)

end FloodRisk.Promotion
