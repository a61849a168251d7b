import FloodRisk.Adapters.Helpers
import FloodRisk.Lib.IpAddress

/-!
# Client signals (api/services/client_signal.py)

A client writes the left of a forwarding header, our proxies append to its right.
-/

namespace FloodRisk.Reports
open Python Adapters

/-- The headers of a request by their names, and the host of its peer. -/
structure ClientRequest where
  header : Text → Option Text
  client : Option Text

/-- `_PROXY_NETWORKS`. -/
def proxyNetworks : List IpNetwork :=
  ["127.0.0.0/8", "10.0.0.0/8", "172.16.0.0/12", "192.168.0.0/16", "169.254.0.0/16",
    "100.64.0.0/10", "::1/128", "fc00::/7", "fe80::/10"].filterMap fun cidr => ipNetwork (text cidr)

/-- `_parse_networks`: a range that cannot be read is ignored. -/
def parseNetworks (cidrs : List Text) : List IpNetwork :=
  ((cidrs.map stripText).filter (· ≠ [])).filterMap ipNetwork

-- `str.isdigit` of a code point
variable (isDigit : CodePoint → Bool)

/-- The part of a hop that `_parse_address` reads: without the brackets, or without the port. -/
def addressPart (hop : Text) : Text :=
  if hop.head? = some (.scalar '[') ∧ CodePoint.scalar ']' ∈ hop then (partition ']' hop.tail).1
  else if hop.count (.scalar ':') = 1 then
    let (host, port) := partition ':' hop
    if port.getD [] ≠ [] ∧ (port.getD []).all isDigit then host else hop
  else hop

/-- `_parse_address`. -/
def parseAddress (hop : Text) : Option IpAddress := ipAddress (addressPart isDigit hop)

def isProxy (trusted : List IpNetwork) (address : IpAddress) : Bool :=
  proxyNetworks.any (·.contains address) || trusted.any (·.contains address)

/-- Whether the loop over the hops returns this one. -/
def isChosen (trusted : List IpNetwork) (hop : Text) : Bool :=
  match parseAddress isDigit hop with
  | none => true
  | some address => !isProxy trusted address

def hopsOf (header : Text) : List Text :=
  ((header.splitOn (.scalar ',')).map stripText).filter (· ≠ [])

/-- `_rightmost_untrusted_hop`. -/
def rightmostUntrustedHop (header : Text) (cidrs : List Text) : Option Text :=
  let hops := hopsOf header
  (hops.reverse.find? (isChosen isDigit (parseNetworks cidrs))).or hops.head?

/-- A text that the code tests for truth. -/
def present (value : Option Text) : Option Text := value.filter (· ≠ [])

/-- `resolve_client_signal`. -/
def resolveClientSignal (request : ClientRequest) (configured : Option Text)
    (cidrs : List Text) : Text :=
  let header := present ((present configured).bind request.header)
  match present (header.bind (rightmostUntrustedHop isDigit · cidrs)) with
  | some hop => hop
  | none => request.client.getD (text "unknown-client")

/-! ### The address that our proxies saw -/

/-- The address of a hop outside all ranges. -/
def outsideAddress (trusted : List IpNetwork) (hop : Text) : Option IpAddress :=
  (parseAddress isDigit hop).filter fun address => !isProxy trusted address

/-- The right-most hop with an address outside the ranges. -/
def rightmostOutside (cidrs : List Text) (suffix : Text) : Option (Text × IpAddress) :=
  (hopsOf suffix).reverse.findSome? fun hop =>
    (outsideAddress isDigit (parseNetworks cidrs) hop).map (hop, ·)

/-- All hops to the right of that one are addresses of proxies. -/
def OnlyProxiesAfter (cidrs : List Text) (suffix : Text) : Prop :=
  ∀ hop ∈ (hopsOf suffix).reverse.takeWhile fun hop =>
      (outsideAddress isDigit (parseNetworks cidrs) hop).isNone,
    parseAddress isDigit hop ≠ none

/-- The signal of a header that a client started and our proxies completed. -/
def signalOf (cidrs : List Text) (client : Option Text) (spoofed suffix : Text) : Text :=
  resolveClientSignal isDigit ⟨fun _ => some (spoofed ++ .scalar ',' :: suffix), client⟩
    (some (text "x-forwarded-for")) cidrs

/-- Requests with the same address get the same signal, however it is written. -/
def OneSignalEach : Prop :=
  ∀ cidrs client suffix other hop hop' address,
    rightmostOutside isDigit cidrs suffix = some (hop, address) →
    rightmostOutside isDigit cidrs other = some (hop', address) →
      ∀ spoofed spoofed', signalOf isDigit cidrs client spoofed suffix =
        signalOf isDigit cidrs client spoofed' other

def SeparatesAddresses : Prop :=
  ∀ cidrs client suffix other hop hop' address address',
    rightmostOutside isDigit cidrs suffix = some (hop, address) →
    rightmostOutside isDigit cidrs other = some (hop', address') → address ≠ address' →
      ∀ spoofed spoofed', signalOf isDigit cidrs client spoofed suffix ≠
        signalOf isDigit cidrs client spoofed' other

variable {isDigit} {cidrs : List Text} {client : Option Text} {suffix spoofed hop : Text}
  {trusted : List IpNetwork} {address : IpAddress}

/-! ### The hops -/

theorem hopsOf_append (spoofed suffix : Text) :
    hopsOf (spoofed ++ .scalar ',' :: suffix) = hopsOf spoofed ++ hopsOf suffix := by
  unfold hopsOf
  rw [List.splitOn_append_cons_self, List.map_append, List.filter_append]

theorem ne_nil_of_mem_hopsOf (h : hop ∈ hopsOf suffix) : hop ≠ [] :=
  of_decide_eq_true (List.mem_filter.mp h).2

theorem isChosen_eq : isChosen isDigit trusted hop = true ↔
    parseAddress isDigit hop = none ∨ outsideAddress isDigit trusted hop ≠ none := by
  unfold isChosen outsideAddress
  cases parseAddress isDigit hop with
  | none =>
    constructor
    · exact fun _ => Or.inl rfl
    · exact fun _ => rfl
  | some address =>
    cases hproxy : isProxy trusted address with
    | true => simp [hproxy]
    | false => simp [hproxy]

theorem present_some {t : Text} (h : t ≠ []) : present (some t) = some t := by
  unfold present
  rw [Option.filter_some_pos]
  exact decide_eq_true h

/-- Where the appended hops have a chosen one, what is on their left is not read. -/
theorem signalOf_of_find (h : (hopsOf suffix).reverse.find? (isChosen isDigit (parseNetworks cidrs)) =
    some hop) : signalOf isDigit cidrs client spoofed suffix = hop := by
  have hne : hop ≠ [] := ne_nil_of_mem_hopsOf (List.mem_reverse.mp (List.mem_of_find?_eq_some h))
  have hheader : spoofed ++ CodePoint.scalar ',' :: suffix ≠ [] :=
    List.append_ne_nil_of_right_ne_nil _ (List.cons_ne_nil _ _)
  have hname : text "x-forwarded-for" ≠ [] := by decide
  have hfound : rightmostUntrustedHop isDigit (spoofed ++ .scalar ',' :: suffix) cidrs = some hop := by
    unfold rightmostUntrustedHop
    dsimp only
    rw [hopsOf_append, List.reverse_append, List.find?_append, h]
    rfl
  unfold signalOf resolveClientSignal
  rw [present_some hname, Option.bind_some, present_some hheader]
  dsimp only
  rw [Option.bind_some, hfound, present_some hne]

theorem exists_find (h : rightmostOutside isDigit cidrs suffix = some (hop, address)) :
    ∃ chosen, (hopsOf suffix).reverse.find? (isChosen isDigit (parseNetworks cidrs)) =
      some chosen := by
  unfold rightmostOutside at h
  obtain ⟨front, other, rest, hsplit, hother, -⟩ := List.findSome?_eq_some_iff.mp h
  rw [← Option.isSome_iff_exists, List.find?_isSome]
  refine ⟨other, ?_, ?_⟩
  · rw [hsplit]
    exact List.mem_append_right _ List.mem_cons_self
  · apply isChosen_eq.mpr
    refine Or.inr fun hnone => ?_
    rw [hnone] at hother
    cases hother

theorem parse_of_rightmost (h : rightmostOutside isDigit cidrs suffix = some (hop, address)) :
    parseAddress isDigit hop = some address := by
  unfold rightmostOutside at h
  obtain ⟨other, -, hother⟩ := List.exists_of_findSome?_eq_some h
  obtain ⟨found, hfound, heq⟩ := Option.map_eq_some_iff.mp hother
  cases heq
  exact (Option.filter_eq_some_iff.mp hfound).1

/-- Without another text to its right the chosen hop is the one with the address. -/
theorem find_of_onlyProxies (h : rightmostOutside isDigit cidrs suffix = some (hop, address))
    (honly : OnlyProxiesAfter isDigit cidrs suffix) :
    (hopsOf suffix).reverse.find? (isChosen isDigit (parseNetworks cidrs)) = some hop := by
  unfold rightmostOutside at h
  unfold OnlyProxiesAfter at honly
  generalize (hopsOf suffix).reverse = hops at h honly ⊢
  induction hops with
  | nil => cases h
  | cons first rest ih =>
    rw [List.findSome?_cons] at h
    rw [List.takeWhile_cons] at honly
    cases hfirst : outsideAddress isDigit (parseNetworks cidrs) first with
    | some found =>
      rw [hfirst] at h
      cases h
      apply List.find?_cons_of_pos
      exact isChosen_eq.mpr (Or.inr (by rw [hfirst]; exact Option.some_ne_none _))
    | none =>
      rw [hfirst] at h honly
      have hproxy : ¬ isChosen isDigit (parseNetworks cidrs) first = true := by
        intro hchosen
        cases isChosen_eq.mp hchosen with
        | inl htoken => exact honly first List.mem_cons_self htoken
        | inr houtside => exact houtside hfirst
      rw [List.find?_cons_of_neg hproxy]
      exact ih h fun other hother => honly other (List.mem_cons_of_mem first hother)

/-! ### The bucket of a client -/

theorem client_cannot_choose {other hop' : Text} {address' : IpAddress}
    (h : rightmostOutside isDigit cidrs suffix = some (hop, address))
    (h' : rightmostOutside isDigit cidrs other = some (hop', address')) :
    (∀ spoofed spoofed', signalOf isDigit cidrs client spoofed suffix =
        signalOf isDigit cidrs client spoofed' suffix) ∧
      (OnlyProxiesAfter isDigit cidrs suffix → OnlyProxiesAfter isDigit cidrs other →
        ∀ spoofed spoofed',
          (hop = hop' → signalOf isDigit cidrs client spoofed suffix =
            signalOf isDigit cidrs client spoofed' other) ∧
          (address ≠ address' → signalOf isDigit cidrs client spoofed suffix ≠
            signalOf isDigit cidrs client spoofed' other)) := by
  constructor
  · obtain ⟨chosen, hchosen⟩ := exists_find h
    intro spoofed spoofed'
    rw [signalOf_of_find hchosen, signalOf_of_find hchosen]
  · intro honly honly' spoofed spoofed'
    rw [signalOf_of_find (find_of_onlyProxies h honly),
      signalOf_of_find (find_of_onlyProxies h' honly')]
    refine ⟨id, ?_⟩
    intro hne heq
    apply hne
    have hparse := parse_of_rightmost h
    rw [heq, parse_of_rightmost h'] at hparse
    exact (Option.some.inj hparse).symm

def asciiDigit (c : CodePoint) : Bool := c.isOneOf "0123456789".toList

theorem client_cannot_choose_two :
    signalOf asciiDigit [] none (text "6.6.6.6") (text "203.0.113.10, 10.0.0.1") =
        signalOf asciiDigit [] none [] (text "203.0.113.10, [::1]:443") ∧
      signalOf asciiDigit [] none [] (text "203.0.113.10, 10.0.0.1") ≠
        signalOf asciiDigit [] none [] (text "203.0.113.11:80, 10.0.0.1") := by
  have h : rightmostOutside asciiDigit [] (text "203.0.113.10, 10.0.0.1") =
      some (text "203.0.113.10", .v4 3405803786) := by decide +kernel
  have h' : rightmostOutside asciiDigit [] (text "203.0.113.10, [::1]:443") =
      some (text "203.0.113.10", .v4 3405803786) := by decide +kernel
  have h'' : rightmostOutside asciiDigit [] (text "203.0.113.11:80, 10.0.0.1") =
      some (text "203.0.113.11:80", .v4 3405803787) := by decide +kernel
  have honly : OnlyProxiesAfter asciiDigit [] (text "203.0.113.10, 10.0.0.1") := by
    unfold OnlyProxiesAfter
    decide +kernel
  have honly' : OnlyProxiesAfter asciiDigit [] (text "203.0.113.10, [::1]:443") := by
    unfold OnlyProxiesAfter
    decide +kernel
  have honly'' : OnlyProxiesAfter asciiDigit [] (text "203.0.113.11:80, 10.0.0.1") := by
    unfold OnlyProxiesAfter
    decide +kernel
  constructor
  · exact ((client_cannot_choose h h').2 honly honly' _ _).1 rfl
  · exact ((client_cannot_choose h h'').2 honly honly'' _ _).2 (by decide)

/-- A port changes the signal, and a text that is no address hides the address. -/
theorem signal_follows_text : ¬ OneSignalEach asciiDigit ∧ ¬ SeparatesAddresses asciiDigit := by
  constructor
  · intro h
    have hplain : rightmostOutside asciiDigit [] (text "203.0.113.10") =
        some (text "203.0.113.10", .v4 3405803786) := by decide +kernel
    have hport : rightmostOutside asciiDigit [] (text "203.0.113.10:4711") =
        some (text "203.0.113.10:4711", .v4 3405803786) := by decide +kernel
    exact absurd (h [] none _ _ _ _ _ hplain hport [] []) (by decide +kernel)
  · intro h
    have hfirst : rightmostOutside asciiDigit [] (text "203.0.113.10, unknown") =
        some (text "203.0.113.10", .v4 3405803786) := by decide +kernel
    have hsecond : rightmostOutside asciiDigit [] (text "203.0.113.11, unknown") =
        some (text "203.0.113.11", .v4 3405803787) := by decide +kernel
    exact h [] none _ _ _ _ _ _ hfirst hsecond (by decide) [] [] (by decide +kernel)

end FloodRisk.Reports
