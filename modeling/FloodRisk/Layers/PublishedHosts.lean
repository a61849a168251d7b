import FloodRisk.Layers.Authority

/-!
# The hosts of published tile URLs

A URL that is published keeps its host where no escape stands in the authority and NFKC does not
change what is read there.
-/

namespace FloodRisk.Layers
open Python Adapters

variable (runtime : LayerRuntime) (reviewedHosts : List Text)

/-- What Unicode and IDNA do to ASCII texts. -/
structure ReadsAscii : Prop where
  nfkc : FixesAscii runtime.rules
  lower : ∀ t : Text, t.all CodePoint.isAscii = true → runtime.rules.lower t = t.map lowerAscii
  fold : ∀ c, CodePoint.isAscii c = true → runtime.fold c = [lowerAscii c]
  idna : ∀ t host, t.all CodePoint.isAscii = true → runtime.idna t = some host → host = t

/-- NFKC makes one text of the other, whatever stands behind the authority. -/
def TurnsInto (part other : Text) : Prop :=
  ∀ rest : Text, (∀ c ∈ rest.head?, endsAuthority c = true) →
    ∃ rest' : Text, (∀ c ∈ rest'.head?, endsAuthority c = true) ∧
      runtime.rules.nfkc (part ++ rest) = other ++ rest'

/-- The scheme never gets a slash, and where it has an escape, no port is written, or port 80. -/
structure KeepsFront (front authority : Text) : Prop where
  no_slash : ∀ k, CodePoint.scalar '/' ∉ unquote^[k] front
  port : CodePoint.scalar '%' ∈ front →
    (authorityParts front authority).port ∈ [some none, some (some 80)]

/-- NFKC leaves the URL as it is up to the end of its authority. -/
def Unturned (value : Text) : Prop :=
  (∀ k, (unquote^[k] value).all CodePoint.isAscii = true) ∨
    ∀ k, TurnsInto runtime (unquote^[k] (hostPart value)) (unquote^[k] (hostPart value))

/-- NFKC makes a text of it that has no escape, that it leaves as it is, and that is read alike. -/
def ReadsAlike (part : Text) : Prop :=
  ∃ other, CodePoint.scalar '%' ∉ other ∧ TurnsInto runtime part other ∧
    TurnsInto runtime other other ∧ hostReading runtime other = hostReading runtime part

/-- The authority is written without an escape, and NFKC does not change how it is read. -/
def KeepsHost (value : Text) : Prop :=
  ∃ front authority, splitAuthority value = some (front, authority) ∧
    CodePoint.scalar '%' ∉ authority ∧
    (KeepsFront front authority ∧ Unturned runtime value ∨
      CodePoint.scalar '%' ∉ front ∧ ReadsAlike runtime (hostPart value))

/-- No authority is written, or one with an escape that is no bracketed address. -/
def LosesHost (value : Text) : Prop :=
  ∀ found ∈ splitAuthority value, found.2.all CodePoint.isAscii = true ∧
    CodePoint.scalar '[' ∉ found.2 ∧ CodePoint.scalar '%' ∈ found.2

variable {runtime reviewedHosts} {value part other decoded front authority rest : Text} {passes : ℕ}

/-! ### What the passes keep -/

theorem pass_of_turns (hturns : TurnsInto runtime part other)
    (hrest : ∀ c ∈ rest.head?, endsAuthority c = true) {next : Text}
    (h : decodePass runtime (part ++ rest) = some next) :
    ∃ rest', next = unquote other ++ rest' ∧ ∀ c ∈ rest'.head?, endsAuthority c = true := by
  obtain ⟨turned, hturned, hnfkc⟩ := hturns rest hrest
  unfold decodePass at h
  dsimp only at h
  rw [hnfkc] at h
  split_ifs at h
  obtain ⟨happend, hends⟩ := unquote_append_ends hturned other
  exact ⟨unquote turned, by rw [← unquote_of_strict h, happend], hends⟩

theorem decoded_of_unturned (hfixes : FixesAscii runtime.rules)
    (hsplit : splitAuthority value = some (front, authority)) (h : Unturned runtime value)
    (hdecoded : decodePasses runtime passes value = some decoded) :
    hasUnsafeUrlCharacters decoded = false ∧
      ∃ k rest, decoded = unquote^[k] (hostPart value) ++ rest ∧
        ∀ c ∈ rest.head?, endsAuthority c = true := by
  obtain ⟨rest, hvalue, hends⟩ := hostPart_append hsplit
  rcases h with hascii | hturns
  · have hrun := decodePasses_invariant (motive := fun t => ∃ k, t = unquote^[k] value)
      (fun current next hcurrent hpass => by
        obtain ⟨k, rfl⟩ := hcurrent
        refine ⟨k + 1, ?_⟩
        rw [Function.iterate_succ_apply']
        exact (decodePass_ascii hfixes (hascii k) hpass).symm)
      ⟨0, rfl⟩ hdecoded
    obtain ⟨hsafe, k, rfl⟩ := hrun
    refine ⟨hsafe, k, ?_⟩
    obtain ⟨rest', happend, hends'⟩ := iterate_append_ends hends (hostPart value) k
    exact ⟨rest', by rw [← happend, ← hvalue], hends'⟩
  · refine decodePasses_invariant
      (motive := fun t => ∃ k rest, t = unquote^[k] (hostPart value) ++ rest ∧
        ∀ c ∈ rest.head?, endsAuthority c = true) ?_ ⟨0, rest, hvalue, hends⟩ hdecoded
    rintro _ next ⟨k, rest, rfl, hends⟩ hpass
    obtain ⟨rest', hnext, hends'⟩ := pass_of_turns (hturns k) hends hpass
    refine ⟨k + 1, rest', ?_, hends'⟩
    rw [hnext, Function.iterate_succ_apply']

/-! ### The scheme before an authority -/

theorem notMem_of_casefold_https (hreads : ReadsAscii runtime) {scheme : Text}
    (h : runtime.casefold scheme = text "https") : CodePoint.scalar '%' ∉ scheme := by
  intro hmem
  have hfold : runtime.fold (.scalar '%') = [.scalar '%'] := hreads.fold _ (by decide)
  have hin : CodePoint.scalar '%' ∈ runtime.casefold scheme := by
    apply List.mem_flatMap.mpr
    refine ⟨_, hmem, ?_⟩
    rw [hfold]
    exact List.mem_singleton_self _
  rw [h] at hin
  exact absurd hin (by decide)

/-- A scheme without an escape stays. -/
theorem schemeBefore_unquote (h : CodePoint.scalar '%' ∉ schemeBefore front) :
    schemeBefore (unquote front) = schemeBefore front := by
  unfold schemeBefore at h ⊢
  have hescape : CodePoint.scalar '%' ∉ front.takeWhile fun c => c ≠ .scalar ':' :=
    fun hmem => h (List.mem_map.mpr ⟨_, hmem, rfl⟩)
  have hfixed := unquote_of_no_escape hescape
  have hfront := List.takeWhile_append_dropWhile (p := fun c => c ≠ .scalar ':') (l := front)
  cases hrest : front.dropWhile fun c => c ≠ .scalar ':' with
  | nil =>
    rw [hrest, List.append_nil] at hfront
    rw [hfront] at hfixed
    rw [hfixed]
  | cons c rest =>
    have hcolon : c = .scalar ':' := by
      have hnot := List.head?_dropWhile_not (fun c => c ≠ .scalar ':') front
      rw [hrest] at hnot
      simpa using hnot
    rw [hrest, hcolon] at hfront
    have hdecoded : unquote front =
        (front.takeWhile fun c => c ≠ .scalar ':') ++ .scalar ':' :: unquote rest := by
      calc unquote front
          = unquote ((front.takeWhile fun c => c ≠ .scalar ':') ++ .scalar ':' :: rest) := by
            rw [hfront]
        _ = _ := by
            rw [unquote_append (by decide) ⟨by decide, by decide⟩, hfixed]
    rw [hdecoded, List.takeWhile_append_of_pos, List.takeWhile_cons_of_neg, List.append_nil]
    · simp
    · intro c hc
      exact List.mem_takeWhile_imp (p := fun c : CodePoint => c ≠ .scalar ':') hc

theorem https_of_unquote (hreads : ReadsAscii runtime) (k : ℕ)
    (h : runtime.casefold (schemeBefore front) = text "https") :
    runtime.casefold (schemeBefore (unquote^[k] front)) = text "https" := by
  induction k generalizing front with
  | zero => exact h
  | succ k ih =>
    rw [Function.iterate_succ_apply]
    apply ih
    rw [schemeBefore_unquote (notMem_of_casefold_https hreads h)]
    exact h

/-- No decoding of a scheme is `https` where the checked one is not. -/
theorem defaultPort_iterate (hreads : ReadsAscii runtime) {checked : ℕ}
    (hplain : CodePoint.scalar '%' ∉ unquote^[checked] front)
    (h : defaultPort runtime (schemeBefore (unquote^[checked] front)) = 80) (k : ℕ) :
    defaultPort runtime (schemeBefore (unquote^[k] front)) = 80 := by
  unfold defaultPort at h ⊢
  rw [if_neg]
  intro hhttps
  have hlater : runtime.casefold (schemeBefore (unquote^[checked] front)) = text "https" := by
    rcases Nat.le_total k checked with hle | hle
    · obtain ⟨more, rfl⟩ := Nat.exists_eq_add_of_le' hle
      rw [Function.iterate_add_apply]
      exact https_of_unquote hreads more hhttps
    · obtain ⟨more, rfl⟩ := Nat.exists_eq_add_of_le' hle
      rw [Function.iterate_add_apply, iterate_of_no_escape hplain] at hhttps
      exact hhttps
  rw [if_pos hlater] at h
  exact absurd h (by decide)

/-! ### What the clients read -/

theorem hostReading_append (hrest : ∀ c ∈ rest.head?, endsAuthority c = true)
    (h : splitAuthority url = some (front, authority)) :
    hostReading runtime (url ++ rest) = some (readHost runtime front authority) := by
  unfold hostReading
  rw [splitAuthority_append hrest h]
  rfl

theorem splitAuthority_parts (hslash : CodePoint.scalar '/' ∉ front)
    (hauthority : ∀ c ∈ authority, endsAuthority c = false) :
    splitAuthority (front ++ text "//" ++ authority) = some (front, authority) := by
  rw [splitAuthority_front hslash, takeWhile_not_ends hauthority]

/-- An authority of its own, with a scheme that may be decoded. -/
theorem splitAuthority_iterate (hsplit : splitAuthority value = some (front, authority))
    (hescape : CodePoint.scalar '%' ∉ authority)
    (hslash : ∀ k, CodePoint.scalar '/' ∉ unquote^[k] front) (k : ℕ) :
    splitAuthority (unquote^[k] (hostPart value)) = some (unquote^[k] front, authority) := by
  rw [hostPart_eq hsplit, iterate_slashes, iterate_of_no_escape hescape]
  exact splitAuthority_parts (hslash k) (not_ends_of_mem hsplit)

theorem hostReading_iterate (hsplit : splitAuthority value = some (front, authority))
    (hescape : CodePoint.scalar '%' ∉ authority)
    (hslash : ∀ k, CodePoint.scalar '/' ∉ unquote^[k] front) (k : ℕ) :
    hostReading runtime (unquote^[k] value) =
      some (readHost runtime (unquote^[k] front) authority) := by
  obtain ⟨rest, hvalue, hends⟩ := hostPart_append hsplit
  obtain ⟨rest', happend, hends'⟩ := iterate_append_ends hends (hostPart value) k
  rw [hvalue, happend]
  exact hostReading_append hends' (splitAuthority_iterate hsplit hescape hslash k)

theorem isReviewed_iff {reading : HostReading} :
    reading.isReviewed runtime reviewedHosts = true ↔
      reading.hasUserinfo = false ∧
        reading.port ∈ [some none, some (some reading.defaultPort)] ∧
          reading.host.any (fun host =>
            host ∈ reviewedHosts.filterMap (normalizedPublicHost runtime)) = true := by
  unfold HostReading.isReviewed
  rw [Bool.and_eq_true, Bool.and_eq_true, Bool.not_eq_true', decide_eq_true_eq, and_assoc]

theorem keeps_of_front (hreads : ReadsAscii runtime)
    (hsplit : splitAuthority value = some (front, authority))
    (hescape : CodePoint.scalar '%' ∉ authority) (hfront : KeepsFront front authority)
    {checked : ℕ} (hplain : CodePoint.scalar '%' ∉ unquote^[checked] front)
    (hchecked : (readHost runtime (unquote^[checked] front) authority).isReviewed runtime
      reviewedHosts = true) :
    NamesReviewedHosts runtime reviewedHosts value := by
  intro k
  unfold namesReviewedHost
  rw [hostReading_iterate hsplit hescape hfront.no_slash]
  show (readHost runtime (unquote^[k] front) authority).isReviewed runtime reviewedHosts = true
  by_cases hmem : CodePoint.scalar '%' ∈ front
  · obtain ⟨huser, hport, hhost⟩ := isReviewed_iff.mp hchecked
    refine isReviewed_iff.mpr ⟨huser, ?_, hhost⟩
    have hwritten : (authorityParts front authority).port ∈ [some none, some (some 80)] :=
      hfront.port hmem
    -- the port is read in the authority alone
    change (authorityParts front authority).port ∈ [some none,
      some (some (defaultPort runtime (schemeBefore (unquote^[checked] front))))] at hport
    show (authorityParts front authority).port ∈ [some none,
      some (some (defaultPort runtime (schemeBefore (unquote^[k] front))))]
    rcases List.mem_cons.mp hwritten with hnone | heighty
    · rw [hnone]
      exact List.mem_cons_self
    · have heighty : (authorityParts front authority).port = some (some 80) :=
        List.mem_singleton.mp heighty
      rw [heighty] at hport ⊢
      have hdefault : defaultPort runtime (schemeBefore (unquote^[checked] front)) = 80 := by
        simpa [eq_comm] using hport
      rw [defaultPort_iterate hreads hplain hdefault k]
      simp
  · rw [iterate_of_no_escape hmem] at hchecked ⊢
    exact hchecked

/-- The authority in which the checks found the host. -/
theorem keeps_of_unturned (hreads : ReadsAscii runtime)
    (hsplit : splitAuthority value = some (front, authority))
    (hescape : CodePoint.scalar '%' ∉ authority) (hfront : KeepsFront front authority)
    (hunturned : Unturned runtime value)
    (haccepted : isExternalTileUrl runtime reviewedHosts value = true) :
    NamesReviewedHosts runtime reviewedHosts value := by
  obtain ⟨decoded, hdecoded, hreviewed⟩ := reviewed_of_checked haccepted
  unfold fullyPercentDecodedUrl at hdecoded
  split_ifs at hdecoded
  obtain ⟨hsafe, checked, rest, rfl, hends⟩ :=
    decoded_of_unturned hreads.nfkc hsplit hunturned hdecoded
  obtain ⟨front', authority', hsplit', hplain, hchecked⟩ := hreviewed hsafe
  rw [splitAuthority_append hends (splitAuthority_iterate hsplit hescape hfront.no_slash checked)]
    at hsplit'
  cases hsplit'
  exact keeps_of_front hreads hsplit hescape hfront hplain hchecked

theorem keeps_of_alike (hsplit : splitAuthority value = some (front, authority))
    (hescape : CodePoint.scalar '%' ∉ hostPart value) (halike : ReadsAlike runtime (hostPart value))
    (haccepted : isExternalTileUrl runtime reviewedHosts value = true) :
    NamesReviewedHosts runtime reviewedHosts value := by
  obtain ⟨other, hother, hturns, hstays, hread⟩ := halike
  obtain ⟨rest, hvalue, hends⟩ := hostPart_append hsplit
  have hpart : splitAuthority (hostPart value) = some (front, authority) :=
    splitAuthority_hostPart hsplit
  have hfound : hostReading runtime other = some (readHost runtime front authority) := by
    rw [hread]
    unfold hostReading
    rw [hpart]
    rfl
  obtain ⟨⟨front', authority'⟩, hother', hsame⟩ := Option.map_eq_some_iff.mp hfound
  -- after the first pass the text starts with the other one
  have hpass : ∀ current next : Text,
      (∃ rest, (∀ c ∈ rest.head?, endsAuthority c = true) ∧
        (current = hostPart value ++ rest ∨ current = other ++ rest)) →
      decodePass runtime current = some next →
      ∃ rest, (∀ c ∈ rest.head?, endsAuthority c = true) ∧
        (next = hostPart value ++ rest ∨ next = other ++ rest) := by
    rintro _ next ⟨rest, hends, rfl | rfl⟩ hnext
    · obtain ⟨rest', rfl, hends'⟩ := pass_of_turns hturns hends hnext
      rw [unquote_of_no_escape hother]
      exact ⟨rest', hends', Or.inr rfl⟩
    · obtain ⟨rest', rfl, hends'⟩ := pass_of_turns hstays hends hnext
      rw [unquote_of_no_escape hother]
      exact ⟨rest', hends', Or.inr rfl⟩
  obtain ⟨decoded, hdecoded, hreviewed⟩ := reviewed_of_checked haccepted
  unfold fullyPercentDecodedUrl at hdecoded
  split_ifs at hdecoded
  obtain ⟨hsafe, rest', hends', hcases⟩ :=
    decodePasses_invariant hpass ⟨rest, hends, Or.inl hvalue⟩ hdecoded
  obtain ⟨front₁, authority₁, hsplit₁, -, hchecked⟩ := hreviewed hsafe
  have hreading : readHost runtime front₁ authority₁ = readHost runtime front authority := by
    rcases hcases with rfl | rfl
    · rw [splitAuthority_append hends' hpart] at hsplit₁
      cases hsplit₁
      rfl
    · rw [splitAuthority_append hends' hother'] at hsplit₁
      cases hsplit₁
      exact hsame
  intro k
  obtain ⟨rest₂, happend, hends₂⟩ := iterate_append_ends hends (hostPart value) k
  unfold namesReviewedHost
  rw [hvalue, happend, iterate_of_no_escape hescape, hostReading_append hends₂ hpart]
  show (readHost runtime front authority).isReviewed runtime reviewedHosts = true
  rw [← hreading]
  exact hchecked

theorem keeps_host (hreads : ReadsAscii runtime)
    (haccepted : isExternalTileUrl runtime reviewedHosts value = true)
    (h : KeepsHost runtime value) : NamesReviewedHosts runtime reviewedHosts value := by
  obtain ⟨front, authority, hsplit, hescape, ⟨hfront, hunturned⟩ | ⟨hplain, halike⟩⟩ := h
  · exact keeps_of_unturned hreads hsplit hescape hfront hunturned haccepted
  · refine keeps_of_alike hsplit ?_ halike haccepted
    rw [hostPart_eq hsplit]
    intro hmem
    rcases List.mem_append.mp hmem with hmem | hmem
    · rcases List.mem_append.mp hmem with hmem | hmem
      · exact hplain hmem
      · exact absurd hmem (by decide)
    · exact hescape hmem

/-! ### An escaped host -/

theorem mem_dropWhile {p : CodePoint → Bool} {c : CodePoint} {t : Text} (h : c ∈ t)
    (hp : p c = false) : c ∈ t.dropWhile p := by
  rw [← List.takeWhile_append_dropWhile (p := p) (l := t)] at h
  rcases List.mem_append.mp h with h | h
  · rw [List.mem_takeWhile_imp h] at hp
    cases hp
  · exact h

theorem escape_mem_stripText {t : Text} (h : CodePoint.scalar '%' ∈ t) :
    CodePoint.scalar '%' ∈ stripText t := by
  have hspace : isWhitespace (CodePoint.scalar '%').shown = false := by decide
  unfold stripText
  rw [List.mem_reverse]
  apply mem_dropWhile _ hspace
  rw [List.mem_reverse]
  exact mem_dropWhile h hspace

theorem stripText_subset {c : CodePoint} {t : Text} (h : c ∈ stripText t) : c ∈ t := by
  unfold stripText at h
  rw [List.mem_reverse] at h
  have hinner := (List.dropWhile_suffix _).subset h
  rw [List.mem_reverse] at hinner
  exact (List.dropWhile_suffix _).subset hinner

/-- A letter is made of a letter. -/
theorem lowerAscii_spec {c : CodePoint} (h : c.isAscii = true) :
    (lowerAscii c).isAscii = true ∧ (lowerAscii c = .scalar ':' → c = .scalar ':') := by
  have hall : (List.range 128).all fun n =>
      (lowerAscii (.scalar (Char.ofNat n))).isAscii &&
        (lowerAscii (.scalar (Char.ofNat n)) != .scalar ':' || n == 58) := by decide
  cases c with
  | surrogate n => cases h
  | scalar c =>
    have hc : c.toNat < 128 := of_decide_eq_true h
    have hspec := List.all_eq_true.mp hall c.toNat (List.mem_range.mpr hc)
    rw [Char.ofNat_toNat, Bool.and_eq_true, Bool.or_eq_true, bne_iff_ne, beq_iff_eq] at hspec
    refine ⟨hspec.1, fun hcolon => ?_⟩
    rcases hspec.2 with hne | hnat
    · exact absurd hcolon hne
    · rw [← Char.ofNat_toNat c, hnat]

theorem all_lowerAscii {t : Text} (h : t.all CodePoint.isAscii = true) :
    (t.map lowerAscii).all CodePoint.isAscii = true := by
  rw [List.all_map, List.all_eq_true]
  exact fun c hc => (lowerAscii_spec (List.all_eq_true.mp h c hc)).1

theorem colon_notMem_map {t : Text} (h : t.all CodePoint.isAscii = true)
    (hcolon : CodePoint.scalar ':' ∉ t) : CodePoint.scalar ':' ∉ t.map lowerAscii := by
  intro hmem
  obtain ⟨c, hc, heq⟩ := List.mem_map.mp hmem
  rw [(lowerAscii_spec (List.all_eq_true.mp h c hc)).2 heq] at hc
  exact hcolon hc

/-- What becomes of a name of ASCII characters before IDNA. -/
theorem casefold_ascii (hreads : ReadsAscii runtime) {t : Text}
    (h : t.all CodePoint.isAscii = true) : runtime.casefold t = t.map lowerAscii := by
  induction t with
  | nil => rfl
  | cons c t ih =>
    rw [List.all_cons, Bool.and_eq_true] at h
    show runtime.fold c ++ runtime.casefold t = _
    rw [hreads.fold c h.1, ih h.2]
    rfl

theorem isPublicName_eq_false {host : Text} (h : CodePoint.scalar '%' ∈ host) :
    isPublicName host = false := by
  obtain ⟨label, hlabel, hmem⟩ := exists_mem_splitOn (by decide : _ ≠ CodePoint.scalar '.') h
  have hbad : isHostLabel label = false := by
    have hall : label.all isHostChar = false :=
      List.all_eq_false.mpr ⟨_, hmem, by decide⟩
    unfold isHostLabel
    rw [hall, Bool.and_false]
  have hlabels : (host.splitOn (.scalar '.')).all isHostLabel = false :=
    List.all_eq_false.mpr ⟨label, hlabel, by rw [hbad]; exact Bool.false_ne_true⟩
  unfold isPublicName
  dsimp only
  rw [hlabels, Bool.and_false]

theorem normalizedPublicHost_eq_none (hreads : ReadsAscii runtime) {name : Text}
    (hascii : name.all CodePoint.isAscii = true) (hescape : CodePoint.scalar '%' ∈ name)
    (hcolon : CodePoint.scalar ':' ∉ name) : normalizedPublicHost runtime name = none := by
  have hsubset : ∀ c ∈ (stripText name).rdropWhile (fun c => c = .scalar '.'), c ∈ name :=
    fun c hc => stripText_subset ((List.rdropWhile_prefix _ _).subset hc)
  have hstripped : ((stripText name).rdropWhile fun c => c = .scalar '.').all
      CodePoint.isAscii = true :=
    List.all_eq_true.mpr fun c hc => List.all_eq_true.mp hascii c (hsubset c hc)
  have hmem : CodePoint.scalar '%' ∈ (stripText name).rdropWhile fun c => c = .scalar '.' := by
    unfold List.rdropWhile
    rw [List.mem_reverse]
    apply mem_dropWhile _ (by decide)
    rw [List.mem_reverse]
    exact escape_mem_stripText hescape
  unfold normalizedPublicHost
  dsimp only
  rw [casefold_ascii hreads hstripped]
  split_ifs
  · rfl
  · cases hidna : runtime.idna _ with
    | none => rfl
    | some host =>
      have hhost := hreads.idna _ _ (all_lowerAscii hstripped) hidna
      have hin : CodePoint.scalar '%' ∈ host := by
        rw [hhost]
        exact List.mem_map.mpr ⟨_, hmem, rfl⟩
      have hno : CodePoint.scalar ':' ∉ host := by
        rw [hhost]
        exact colon_notMem_map hstripped fun h => hcolon (hsubset _ h)
      dsimp only
      rw [ipAddress_eq_none hin hno, isPublicName_eq_false hin]
      rfl

/-- Before and after the first of a character stand the characters of a text. -/
theorem mem_partition {c : Char} {d : CodePoint} {t : Text} (h : d ∈ t) (hne : d ≠ .scalar c) :
    d ∈ (partition c t).1 ∨ d ∈ (partition c t).2.getD [] := by
  rw [← List.takeWhile_append_dropWhile (p := fun d => d ≠ .scalar c) (l := t)] at h
  rcases List.mem_append.mp h with h | h
  · exact Or.inl h
  · right
    have hnot := List.head?_dropWhile_not (fun d => d ≠ .scalar c) t
    unfold partition
    cases hdrop : t.dropWhile fun d => d ≠ .scalar c with
    | nil =>
      rw [hdrop] at h
      cases h
    | cons first others =>
      rw [hdrop] at h hnot
      have hfirst : first = .scalar c := by simpa using hnot
      rcases List.mem_cons.mp h with rfl | h
      · exact absurd hfirst hne
      · exact h

theorem notMem_partition (c : Char) (t : Text) : CodePoint.scalar c ∉ (partition c t).1 := by
  intro hmem
  have hne := List.mem_takeWhile_imp (p := fun d : CodePoint => d ≠ .scalar c) hmem
  simp at hne

/-- The host and the port of an authority without userinfo and brackets. -/
theorem hostinfo_eq {parts : UrlParts} (huser : CodePoint.scalar '@' ∉ parts.netloc)
    (hbracket : CodePoint.scalar '[' ∉ parts.netloc) :
    parts.hostinfo = ((partition ':' parts.netloc).1, (partition ':' parts.netloc).2.getD []) := by
  have hafter : afterLast '@' parts.netloc = parts.netloc := by
    unfold afterLast
    rw [List.takeWhile_eq_self_iff.mpr, List.reverse_reverse]
    intro c hc
    apply decide_eq_true
    rintro rfl
    exact huser (List.mem_reverse.mp hc)
  have hnone : (partition '[' parts.netloc).2 = none := by
    unfold partition
    rw [List.dropWhile_eq_nil_iff.mpr]
    intro c hc
    apply decide_eq_true
    rintro rfl
    exact hbracket hc
  unfold UrlParts.hostinfo
  rw [hafter]
  dsimp only
  split
  · rename_i hpartition
    rw [hpartition] at hnone
    cases hnone
  · rfl

theorem port_eq_none {parts : UrlParts} (h : CodePoint.scalar '%' ∈ parts.hostinfo.2) :
    parts.port = none := by
  have hdigits : parts.portDigits = none := by
    unfold UrlParts.portDigits
    rw [if_neg]
    rw [Bool.not_eq_true]
    exact List.all_eq_false.mpr ⟨_, h, by decide⟩
  unfold UrlParts.port
  rw [if_neg (List.ne_nil_of_mem h), hdigits]

theorem host_eq_none (hreads : ReadsAscii runtime) {parts : UrlParts}
    (hascii : parts.hostinfo.1.all CodePoint.isAscii = true)
    (hcolon : CodePoint.scalar ':' ∉ parts.hostinfo.1)
    (hescape : CodePoint.scalar '%' ∈ parts.hostinfo.1) :
    normalizedPublicHost runtime ((parts.hostname runtime.rules).getD []) = none := by
  unfold UrlParts.hostname
  rw [if_neg (List.ne_nil_of_mem hescape)]
  cases hpartition : partition '%' parts.hostinfo.1 with
  | mk host zone =>
    cases zone with
    | none =>
      have hmem : CodePoint.scalar '%' ∈ parts.hostinfo.1.dropWhile fun d => d ≠ .scalar '%' :=
        mem_dropWhile hescape (by simp)
      have hsecond := congrArg Prod.snd hpartition
      unfold partition at hsecond
      cases hdrop : parts.hostinfo.1.dropWhile fun d => d ≠ .scalar '%' with
      | nil =>
        rw [hdrop] at hmem
        cases hmem
      | cons first others =>
        dsimp only at hsecond
        rw [hdrop] at hsecond
        cases hsecond
    | some zone =>
      have hinfo := (partition_eq_some hpartition).1
      rw [hinfo, List.all_append, Bool.and_eq_true] at hascii
      rw [hinfo, List.mem_append, not_or] at hcolon
      show normalizedPublicHost runtime (runtime.rules.lower host ++ .scalar '%' :: zone) = none
      rw [hreads.lower host hascii.1]
      apply normalizedPublicHost_eq_none hreads
      · rw [List.all_append, all_lowerAscii hascii.1, hascii.2]
        rfl
      · exact List.mem_append_right _ List.mem_cons_self
      · rw [List.mem_append, not_or]
        exact ⟨colon_notMem_map hascii.1 hcolon.1, hcolon.2⟩

/-- An escape in a host, a port or userinfo is read as no reviewed host. -/
theorem not_reviewed_of_escape (hreads : ReadsAscii runtime)
    (hascii : authority.all CodePoint.isAscii = true) (hbracket : CodePoint.scalar '[' ∉ authority)
    (hescape : CodePoint.scalar '%' ∈ authority) :
    (readHost runtime front authority).isReviewed runtime reviewedHosts ≠ true := by
  intro hreviewed
  obtain ⟨huser, hport, hhost⟩ := isReviewed_iff.mp hreviewed
  have hnone : CodePoint.scalar '@' ∉ authority := of_decide_eq_false huser
  have hinfo := @hostinfo_eq (authorityParts front authority) hnone hbracket
  have hsubset : ∀ c ∈ (partition ':' authority).1, c ∈ authority :=
    fun c hc => (List.takeWhile_prefix _).subset hc
  rcases mem_partition hescape (by decide : _ ≠ CodePoint.scalar ':') with hmem | hmem
  · have hno : (readHost runtime front authority).host = none := by
      apply host_eq_none hreads
      · rw [hinfo]
        exact List.all_eq_true.mpr fun c hc => List.all_eq_true.mp hascii c (hsubset c hc)
      · rw [hinfo]
        exact notMem_partition ':' authority
      · rw [hinfo]
        exact hmem
    rw [hno] at hhost
    cases hhost
  · have hno : (readHost runtime front authority).port = none := by
      apply port_eq_none
      rw [hinfo]
      exact hmem
    rw [hno] at hport
    simp at hport

/-! ### The two directions -/

/-- Every published URL that keeps its host in this way names reviewed hosts only. None does with
an escape in its host, its port or its userinfo. -/
theorem published_hosts_reviewed (hreads : ReadsAscii runtime)
    (haccepted : isExternalTileUrl runtime reviewedHosts value = true) :
    (KeepsHost runtime value → NamesReviewedHosts runtime reviewedHosts value) ∧
      (LosesHost value → ¬ NamesReviewedHosts runtime reviewedHosts value) := by
  refine ⟨keeps_host hreads haccepted, ?_⟩
  intro hloses hnames
  have hgiven := hnames 0
  unfold namesReviewedHost hostReading at hgiven
  rw [Function.iterate_zero_apply] at hgiven
  cases hsplit : splitAuthority value with
  | none =>
    rw [hsplit] at hgiven
    cases hgiven
  | some found =>
    rw [hsplit] at hgiven
    obtain ⟨hascii, hbracket, hescape⟩ := hloses found hsplit
    exact not_reviewed_of_escape hreads hascii hbracket hescape hgiven

def asciiRuntime : LayerRuntime where
  rules := ⟨id, fun t => t.map lowerAscii, fun _ => true⟩
  fold := fun c => [lowerAscii c]
  idna := some
  isGlobal := fun _ => true
  isAlnum := isPlain

theorem asciiRuntime_reads : ReadsAscii asciiRuntime where
  nfkc := fun _ _ => rfl
  lower := fun _ _ => rfl
  fold := fun _ _ => rfl
  idna := fun _ _ _ h => (Option.some.inj h).symm

def officialHosts : List Text := [text "tiles.official.gov.tw"]

def plainTemplate : Text := text "https://tiles.official.gov.tw/flood/%7Bz%7D/{x}/{y}.pbf"

theorem plainTemplate_keeps : KeepsHost asciiRuntime plainTemplate := by
  refine ⟨text "https:", text "tiles.official.gov.tw", by decide, by decide, Or.inl ⟨⟨?_, ?_⟩, ?_⟩⟩
  · intro k
    rw [iterate_of_no_escape (by decide)]
    decide
  · exact fun h => absurd h (by decide)
  · exact Or.inr fun _ rest hends => ⟨rest, hends, rfl⟩

theorem plainTemplate_names :
    isExternalTileUrl asciiRuntime officialHosts plainTemplate = true ∧
      NamesReviewedHosts asciiRuntime officialHosts plainTemplate := by
  have haccepted : isExternalTileUrl asciiRuntime officialHosts plainTemplate = true := by
    decide +kernel
  exact ⟨haccepted, (published_hosts_reviewed asciiRuntime_reads haccepted).1 plainTemplate_keeps⟩

/-- Behind the escape the client finds another host. -/
def userinfoTemplate : Text := text "https://tiles.official.gov.tw%23@evil.tw/{z}/{x}/{y}.pbf"

theorem userinfoTemplate_published :
    isExternalTileUrl asciiRuntime officialHosts userinfoTemplate = true ∧
      ¬ NamesReviewedHosts asciiRuntime officialHosts userinfoTemplate := by
  constructor
  · decide +kernel
  · intro h
    exact absurd (h 0) (by decide +kernel)

end FloodRisk.Layers
