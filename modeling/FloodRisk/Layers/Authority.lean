import FloodRisk.Layers.TileUrls

/-!
# The authority of a tile URL

The checks read a URL that was decoded, the clients get it as it stands.
-/

namespace FloodRisk.Layers
open Python Adapters

def endsAuthority (c : CodePoint) : Bool := c.isOneOf ['/', '?', '#']

/-- The text before the first `//`, and the authority after it. -/
def splitAuthority : Text → Option (Text × Text)
  | [] => none
  | c :: rest =>
      if c = .scalar '/' ∧ rest.head? = some (.scalar '/') then
        some ([], rest.tail.takeWhile fun c => !endsAuthority c)
      else (splitAuthority rest).map fun found => (c :: found.1, found.2)

/-- The URL up to the end of its authority. -/
def hostPart (url : Text) : Text :=
  match splitAuthority url with
  | none => url
  | some (front, authority) => front ++ text "//" ++ authority

/-- The scheme before the authority. -/
def schemeBefore (front : Text) : Text :=
  (front.takeWhile fun c => c ≠ .scalar ':').map lowerAscii

def authorityParts (front authority : Text) : UrlParts := ⟨schemeBefore front, authority, [], [], []⟩

variable (runtime : LayerRuntime) (reviewedHosts : List Text)

/-- What is read in an authority, with the port of the scheme before it. -/
structure HostReading where
  hasUserinfo : Bool
  port : Option (Option ℕ)
  defaultPort : ℕ
  host : Option Text

def readHost (front authority : Text) : HostReading :=
  let parts := authorityParts front authority
  ⟨parts.hasUserinfo, parts.port, defaultPort runtime parts.scheme,
    normalizedPublicHost runtime ((parts.hostname runtime.rules).getD [])⟩

def hostReading (url : Text) : Option HostReading :=
  (splitAuthority url).map fun found => readHost runtime found.1 found.2

/-- No userinfo, the default port, and a reviewed host. -/
def HostReading.isReviewed (reading : HostReading) : Bool :=
  !reading.hasUserinfo && reading.port ∈ [some none, some (some reading.defaultPort)] &&
    reading.host.any fun host => host ∈ reviewedHosts.filterMap (normalizedPublicHost runtime)

/-- The authority has no userinfo, and names a reviewed host with the default port. -/
def namesReviewedHost (url : Text) : Bool :=
  (hostReading runtime url).any (HostReading.isReviewed runtime reviewedHosts)

/-- The URL as given, and after any number of percent-decodings. -/
def NamesReviewedHosts (value : Text) : Prop :=
  ∀ k, namesReviewedHost runtime reviewedHosts (unquote^[k] value) = true

variable {runtime reviewedHosts} {value url front authority rest : Text}

/-! ### Splitting -/

theorem takeWhile_append_ends {p : CodePoint → Bool} (hrest : ∀ c ∈ rest.head?, p c = false)
    (t : Text) : (t ++ rest).takeWhile p = t.takeWhile p := by
  induction t with
  | nil =>
    cases rest with
    | nil => rfl
    | cons c others =>
      have hc : p c = false := hrest c rfl
      rw [List.nil_append, List.takeWhile_cons, hc]
      rfl
  | cons c t ih =>
    rw [List.cons_append, List.takeWhile_cons, List.takeWhile_cons, ih]

theorem splitAuthority_append (hrest : ∀ c ∈ rest.head?, endsAuthority c = true)
    (h : splitAuthority url = some (front, authority)) :
    splitAuthority (url ++ rest) = some (front, authority) := by
  induction url generalizing front with
  | nil => cases h
  | cons c others ih =>
    rw [splitAuthority] at h
    rw [List.cons_append, splitAuthority]
    cases others with
    | nil =>
      rw [if_neg] at h
      · cases h
      · exact fun hslash => nomatch hslash.2
    | cons d others =>
      rw [List.cons_append, List.head?_cons] at *
      by_cases hslash : c = .scalar '/' ∧ some d = some (.scalar '/')
      · rw [if_pos hslash] at h ⊢
        rw [List.tail_cons] at h ⊢
        rw [takeWhile_append_ends]
        · exact h
        · intro c hc
          rw [hrest c hc]
          rfl
      · rw [if_neg hslash] at h ⊢
        obtain ⟨found, hfound, heq⟩ := Option.map_eq_some_iff.mp h
        cases heq
        rw [ih hfound]
        rfl

theorem splitAuthority_front (h : CodePoint.scalar '/' ∉ front) (rest : Text) :
    splitAuthority (front ++ text "//" ++ rest) =
      some (front, rest.takeWhile fun c => !endsAuthority c) := by
  induction front with
  | nil => exact if_pos ⟨rfl, rfl⟩
  | cons c front ih =>
    rw [List.cons_append, List.cons_append, splitAuthority, if_neg,
      ih fun hmem => h (List.mem_cons_of_mem c hmem)]
    · rfl
    · rintro ⟨rfl, -⟩
      exact h List.mem_cons_self

theorem takeWhile_not_ends (h : ∀ c ∈ authority, endsAuthority c = false) :
    authority.takeWhile (fun c => !endsAuthority c) = authority := by
  rw [List.takeWhile_eq_self_iff]
  intro c hc
  rw [h c hc]
  rfl

theorem splitAuthority_eq (h : splitAuthority url = some (front, authority)) :
    ∃ rest, url = front ++ text "//" ++ authority ++ rest ∧
      ∀ c ∈ rest.head?, endsAuthority c = true := by
  induction url generalizing front with
  | nil => cases h
  | cons c others ih =>
    rw [splitAuthority] at h
    split_ifs at h with hslash
    · cases h
      obtain ⟨rfl, hhead⟩ := hslash
      cases others with
      | nil => cases hhead
      | cons d others =>
        cases hhead
        refine ⟨others.dropWhile fun c => !endsAuthority c, ?_, ?_⟩
        · show _ = text "//" ++ others.takeWhile _ ++ _
          rw [List.append_assoc, List.takeWhile_append_dropWhile]
          rfl
        · intro c hc
          have hnot := List.head?_dropWhile_not (fun c => !endsAuthority c) others
          rw [Option.mem_def.mp hc] at hnot
          simpa using hnot
    · obtain ⟨found, hfound, heq⟩ := Option.map_eq_some_iff.mp h
      cases heq
      obtain ⟨rest, hrest, hends⟩ := ih hfound
      refine ⟨rest, ?_, hends⟩
      rw [hrest]
      rfl

theorem not_ends_of_mem (h : splitAuthority url = some (front, authority)) :
    ∀ c ∈ authority, endsAuthority c = false := by
  induction url generalizing front with
  | nil => cases h
  | cons c others ih =>
    rw [splitAuthority] at h
    split_ifs at h
    · cases h
      intro d hd
      simpa using List.mem_takeWhile_imp hd
    · obtain ⟨found, hfound, heq⟩ := Option.map_eq_some_iff.mp h
      cases heq
      exact ih hfound

theorem hostPart_eq (h : splitAuthority url = some (front, authority)) :
    hostPart url = front ++ text "//" ++ authority := by
  unfold hostPart
  rw [h]

theorem hostPart_append (h : splitAuthority url = some (front, authority)) :
    ∃ rest, url = hostPart url ++ rest ∧ ∀ c ∈ rest.head?, endsAuthority c = true := by
  rw [hostPart_eq h]
  exact splitAuthority_eq h

theorem splitAuthority_hostPart (h : splitAuthority url = some (front, authority)) :
    splitAuthority (hostPart url) = some (front, authority) := by
  obtain ⟨rest, hurl, -⟩ := hostPart_append h
  rw [hostPart_eq h] at hurl ⊢
  have hends := not_ends_of_mem h
  induction url generalizing front with
  | nil => cases h
  | cons c others ih =>
    rw [splitAuthority] at h
    split_ifs at h with hslash
    · cases h
      rw [splitAuthority_front List.not_mem_nil, takeWhile_not_ends hends]
    · obtain ⟨found, hfound, heq⟩ := Option.map_eq_some_iff.mp h
      cases heq
      have hothers := (List.cons.inj hurl).2
      rw [List.cons_append, List.cons_append, splitAuthority, if_neg, ih hfound hothers]
      · rfl
      -- the text that follows starts as before
      · rw [hothers] at hslash
        cases hfront : found.1 with
        | nil =>
          rw [hfront] at hslash
          exact hslash
        | cons d front =>
          rw [hfront] at hslash
          exact hslash

/-! ### Decoding -/

theorem exists_of_endsAuthority {c : CodePoint} (h : endsAuthority c = true) :
    ∃ d : Char, c = .scalar d ∧ d.toNat < 128 ∧ IsDelimiter (.scalar d) := by
  obtain ⟨d, hd, rfl⟩ := List.mem_map.mp (of_decide_eq_true h)
  refine ⟨d, rfl, ?_⟩
  rcases List.mem_cons.mp hd with rfl | hd
  · exact ⟨by decide, by decide, by decide⟩
  rcases List.mem_cons.mp hd with rfl | hd
  · exact ⟨by decide, by decide, by decide⟩
  rw [List.mem_singleton.mp hd]
  exact ⟨by decide, by decide, by decide⟩

theorem unquote_append_ends (hrest : ∀ c ∈ rest.head?, endsAuthority c = true) (t : Text) :
    unquote (t ++ rest) = unquote t ++ unquote rest ∧
      ∀ c ∈ (unquote rest).head?, endsAuthority c = true := by
  cases rest with
  | nil =>
    refine ⟨?_, hrest⟩
    rw [List.append_nil]
    exact (List.append_nil _).symm
  | cons c others =>
    have hc := hrest c rfl
    obtain ⟨d, rfl, hascii, hdelimiter⟩ := exists_of_endsAuthority hc
    have hfirst : unquote (.scalar d :: others) = .scalar d :: unquote others :=
      unquote_append hascii hdelimiter [] others
    rw [unquote_append hascii hdelimiter, hfirst]
    refine ⟨rfl, ?_⟩
    intro e he
    cases he
    exact hc

theorem iterate_append_ends (hrest : ∀ c ∈ rest.head?, endsAuthority c = true) (t : Text)
    (k : ℕ) : ∃ rest', unquote^[k] (t ++ rest) = unquote^[k] t ++ rest' ∧
      ∀ c ∈ rest'.head?, endsAuthority c = true := by
  induction k generalizing t rest with
  | zero => exact ⟨rest, rfl, hrest⟩
  | succ k ih =>
    obtain ⟨happend, hends⟩ := unquote_append_ends hrest t
    rw [Function.iterate_succ_apply, Function.iterate_succ_apply, happend]
    exact ih hends (unquote t)

theorem iterate_slashes (front authority : Text) (k : ℕ) :
    unquote^[k] (front ++ text "//" ++ authority) =
      unquote^[k] front ++ text "//" ++ unquote^[k] authority := by
  induction k generalizing front authority with
  | zero => rfl
  | succ k ih =>
    have hslash : IsDelimiter (.scalar '/') := ⟨by decide, by decide⟩
    have hone : unquote (front ++ text "//" ++ authority) =
        unquote front ++ text "//" ++ unquote authority := by
      have hsecond : unquote (.scalar '/' :: authority) = .scalar '/' :: unquote authority :=
        unquote_append (by decide) hslash [] authority
      rw [List.append_assoc, List.append_assoc]
      show unquote (front ++ .scalar '/' :: (.scalar '/' :: authority)) = _
      rw [unquote_append (by decide) hslash, hsecond]
      rfl
    rw [Function.iterate_succ_apply, hone]
    exact ih _ _

theorem iterate_of_no_escape (h : CodePoint.scalar '%' ∉ value) (k : ℕ) :
    unquote^[k] value = value :=
  Function.iterate_fixed (unquote_of_no_escape h) k

/-! ### The URL that was checked -/

/-- What the model of NFKC is assumed to do. -/
def FixesAscii (rules : UrlRules) : Prop :=
  ∀ t : Text, t.all CodePoint.isAscii = true → rules.nfkc t = t

theorem decodePass_ascii (hfixes : FixesAscii runtime.rules)
    (hascii : value.all CodePoint.isAscii = true) {next : Text}
    (h : decodePass runtime value = some next) : unquote value = next := by
  unfold decodePass at h
  dsimp only at h
  rw [hfixes value hascii] at h
  split_ifs at h
  exact unquote_of_strict h

theorem settled_eq_some {decoded : Text} (h : settled value = some decoded) :
    decoded = value ∧ hasUnsafeUrlCharacters value = false := by
  unfold settled at h
  split_ifs at h with hunsafe
  cases h
  exact ⟨rfl, Bool.eq_false_of_not_eq_true hunsafe⟩

/-- What one pass keeps holds of the text that was checked. -/
theorem decodePasses_invariant {motive : Text → Prop}
    (hpass : ∀ current next, motive current → decodePass runtime current = some next → motive next)
    (hvalue : motive value) {passes : ℕ} {decoded : Text}
    (h : decodePasses runtime passes value = some decoded) :
    hasUnsafeUrlCharacters decoded = false ∧ motive decoded := by
  induction passes generalizing value with
  | zero =>
    rw [decodePasses] at h
    split at h
    · cases h
    · split_ifs at h
      obtain ⟨rfl, hsafe⟩ := settled_eq_some h
      exact ⟨hsafe, hvalue⟩
  | succ passes ih =>
    rw [decodePasses] at h
    split at h
    · cases h
    · rename_i next hnext
      split_ifs at h
      · obtain ⟨rfl, hsafe⟩ := settled_eq_some h
        exact ⟨hsafe, hvalue⟩
      · exact ih (hpass value next hvalue hnext) h

/-! ### The parts that were checked -/

theorem not_unsafe_of_mem {c : CodePoint} (h : hasUnsafeUrlCharacters url = false) (hc : c ∈ url) :
    isSpace c = false ∧ 32 ≤ c.shown.toNat := by
  have hnot := List.any_eq_false.mp h c hc
  rw [Bool.or_eq_true, Bool.or_eq_true, not_or, not_or, decide_eq_true_eq] at hnot
  exact ⟨Bool.eq_false_of_not_eq_true hnot.1.1, not_lt.mp hnot.1.2⟩

/-- `urlsplit` cuts nothing out of a text without unsafe characters. -/
theorem cleanUrl_eq (h : hasUnsafeUrlCharacters url = false) : cleanUrl url = url := by
  have hspace : isSpace (.scalar ' ') = true := by decide
  have htab : isSpace (.scalar '\t') = true := by decide
  have hreturn : isSpace (.scalar '\r') = true := by decide
  have hnewline : isSpace (.scalar '\n') = true := by decide
  unfold cleanUrl
  rw [List.filter_eq_self.mpr]
  · cases url with
    | nil => rfl
    | cons c rest =>
      obtain ⟨hc, hle⟩ := not_unsafe_of_mem h List.mem_cons_self
      rw [List.dropWhile_cons_of_neg]
      cases c with
      | surrogate n => exact Bool.false_ne_true
      | scalar c =>
        intro hsmall
        have hsmall' : c.toNat ≤ 32 := of_decide_eq_true hsmall
        have hle' : 32 ≤ c.toNat := hle
        have heq : c = ' ' := by
          rw [← Char.ofNat_toNat c, le_antisymm hsmall' hle']
        rw [heq, hspace] at hc
        cases hc
  · intro c hmem
    have hc := (not_unsafe_of_mem h ((List.dropWhile_suffix _).subset hmem)).1
    rw [Bool.not_eq_true']
    apply decide_eq_false
    intro hbad
    have hcases : c = .scalar '\t' ∨ c = .scalar '\r' ∨ c = .scalar '\n' := by
      simpa using hbad
    rcases hcases with rfl | rfl | rfl
    · rw [htab] at hc
      cases hc
    · rw [hreturn] at hc
      cases hc
    · rw [hnewline] at hc
      cases hc

theorem splitNetloc_eq {after : Text} (h : (splitNetloc after).1 ≠ []) :
    ∃ rest, after = .scalar '/' :: .scalar '/' :: rest ∧
      (splitNetloc after).1 = rest.takeWhile fun c => !endsAuthority c := by
  unfold splitNetloc at h ⊢
  split at h
  · rename_i rest
    exact ⟨rest, rfl, rfl⟩
  · exact absurd rfl h

theorem splitScheme_eq (h : (splitScheme url).1 ≠ []) :
    ∃ scheme, url = scheme ++ .scalar ':' :: (splitScheme url).2 ∧
      (splitScheme url).1 = scheme.map lowerAscii ∧ (∀ c ∈ scheme, isSchemeChar c = true) ∧
      .scalar ':' ∉ scheme := by
  unfold splitScheme at h ⊢
  split at h
  · rename_i front rest hpartition
    obtain ⟨hurl, hfront⟩ := partition_eq_some hpartition
    split_ifs at h with hscheme
    · rw [if_pos hscheme]
      rw [Bool.and_eq_true, List.all_eq_true] at hscheme
      refine ⟨front, hurl, rfl, hscheme.2, ?_⟩
      intro hcolon
      rw [hfront] at hcolon
      have hne := List.mem_takeWhile_imp hcolon
      simp at hne
    · exact absurd rfl h
  · exact absurd rfl h

/-- The authority of a URL that was checked is the one that was parsed. -/
theorem splitAuthority_of_parsed {parsed : UrlParts} (hsafe : hasUnsafeUrlCharacters url = false)
    (h : urlsplit runtime.rules url = some parsed) (hscheme : parsed.scheme ≠ [])
    (hnetloc : parsed.netloc ≠ []) :
    ∃ front, splitAuthority url = some (front, parsed.netloc) ∧
      schemeBefore front = parsed.scheme ∧ .scalar '%' ∉ front := by
  unfold urlsplit at h
  rw [cleanUrl_eq hsafe] at h
  dsimp only at h
  split_ifs at h
  cases h
  dsimp only at hscheme hnetloc ⊢
  obtain ⟨scheme, hurl, hlower, hchars, hcolon⟩ := splitScheme_eq hscheme
  obtain ⟨rest, hafter, hauthority⟩ := splitNetloc_eq hnetloc
  have hnot : ∀ c : Char, isSchemeChar (.scalar c) = false → c ≠ ':' →
      CodePoint.scalar c ∉ scheme ++ [.scalar ':'] := by
    intro c hc hne hmem
    rcases List.mem_append.mp hmem with hmem | hmem
    · rw [hchars _ hmem] at hc
      cases hc
    · exact hne (CodePoint.scalar.inj (List.mem_singleton.mp hmem))
  refine ⟨scheme ++ [.scalar ':'], ?_, ?_, hnot '%' (by decide) (by decide)⟩
  · rw [hauthority]
    rw [hafter] at hurl
    rw [hurl]
    have hshape : scheme ++ .scalar ':' :: .scalar '/' :: .scalar '/' :: rest =
        scheme ++ [.scalar ':'] ++ text "//" ++ rest := by
      rw [List.append_assoc, List.append_assoc]
      rfl
    rw [hshape]
    exact splitAuthority_front (hnot '/' (by decide) (by decide)) rest
  · rw [hlower]
    unfold schemeBefore
    rw [List.takeWhile_append_of_pos, List.takeWhile_cons_of_neg, List.append_nil]
    · simp
    · intro c hc
      apply decide_eq_true
      rintro rfl
      exact hcolon hc

/-- The authority that was checked. -/
theorem reviewed_of_checked (h : isExternalTileUrl runtime reviewedHosts value = true) :
    ∃ decoded, fullyPercentDecodedUrl runtime value = some decoded ∧
      (hasUnsafeUrlCharacters decoded = false →
        ∃ front authority, splitAuthority decoded = some (front, authority) ∧
          .scalar '%' ∉ front ∧
          (readHost runtime front authority).isReviewed runtime reviewedHosts = true) := by
  unfold isExternalTileUrl at h
  cases hurl : safeExternalUrl runtime value with
  | none =>
    rw [hurl] at h
    cases h
  | some parsed =>
    rw [hurl] at h
    dsimp only at h
    unfold safeExternalUrl at hurl
    cases hdecoded : fullyPercentDecodedUrl runtime value with
    | none =>
      rw [hdecoded] at hurl
      cases hurl
    | some decoded =>
      rw [hdecoded] at hurl
      dsimp only at hurl
      cases hsplit : urlsplit runtime.rules decoded with
      | none =>
        rw [hsplit] at hurl
        cases hurl
      | some parts =>
        rw [hsplit] at hurl
        dsimp only at hurl
        split_ifs at hurl with hscheme huserinfo hport hhost hpath
        cases hurl
        refine ⟨decoded, rfl, ?_⟩
        intro hsafe
        rw [not_or, not_not] at hscheme
        have hfilled : parsed.scheme ≠ [] := by
          intro hempty
          rw [hempty] at hscheme
          have hnone : runtime.casefold [] = [] := rfl
          rw [hnone] at hscheme
          exact absurd hscheme.1 (by decide)
        obtain ⟨front, hauthority, hbefore, hplain⟩ :=
          splitAuthority_of_parsed hsafe hsplit hfilled hscheme.2
        refine ⟨front, parsed.netloc, hauthority, hplain, ?_⟩
        unfold HostReading.isReviewed readHost
        rw [Bool.and_eq_true, Bool.and_eq_true]
        refine ⟨⟨?_, ?_⟩, ?_⟩
        · show (!parsed.hasUserinfo) = true
          rw [Bool.eq_false_of_not_eq_true huserinfo]
          rfl
        · show decide (parsed.port ∈ [_, some (some (defaultPort runtime (schemeBefore front)))]) = true
          rw [hbefore]
          exact decide_eq_true hport
        · show (normalizedPublicHost runtime ((parsed.hostname runtime.rules).getD [])).any _ = true
          cases hname : normalizedPublicHost runtime ((parsed.hostname runtime.rules).getD []) with
          | none => exact absurd hname hhost
          | some host =>
            rw [hname] at h
            rw [Bool.and_eq_true] at h
            exact h.1

end FloodRisk.Layers
