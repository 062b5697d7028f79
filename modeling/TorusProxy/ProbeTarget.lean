import TorusProxy.TwoParsers

/-! What a health check requests. `HTTPChecker.Check` appends the path of the
configuration to the text of the upstream and has the whole parsed again. -/
namespace TorusProxy

open NetURL ServeMux

/-! ## The request of a probe -/

/-- What `http.NewRequest` keeps of its URL. -/
structure ProbeRequest where
  url : URL
  /-- Path and query, as the request line gives them. -/
  requestTarget : Bytes
  deriving DecidableEq, Repr

/-- `hasPort`: a colon after the last bracket. -/
def hasPort (host : List Char) : Bool :=
  host.reverse.find? (fun c => c == ':' || c == ']') == some ':'

/-- `removeEmptyPort`. -/
def removeEmptyPort (host : String) : String :=
  if hasPort host.toList && host.toList.getLast? == some ':' then
    String.ofList host.toList.dropLast
  else host

/-- `http.NewRequest` for a `GET`; none where the URL is refused. -/
def newRequest (parseAuthority : Bytes → Bytes → Option String) (rawURL : String) :
    Option ProbeRequest :=
  (NetURL.parse parseAuthority (bytes rawURL)).map fun u =>
    ⟨⟨u.scheme, removeEmptyPort u.host⟩, u.requestURI⟩

structure HTTPChecker where
  url : String
  path : String

/-- The request that `Check` sends. -/
def HTTPChecker.request (h : HTTPChecker) (parseAuthority : Bytes → Bytes → Option String) :
    Option ProbeRequest :=
  newRequest parseAuthority (h.url ++ h.path)

/-- The probe goes where the forwarded requests go and asks for the path. -/
def ProbesTraffic (env : Env) (parseAuthority : Bytes → Bytes → Option String)
    (h : HTTPChecker) : Prop :=
  ∀ u, env.parse h.url = .ok u → ∃ probe, h.request parseAuthority = some probe ∧
    (∀ newString inbound out, (rewrite u newString inbound out).url = probe.url) ∧
    probe.requestTarget = bytes h.path

/-! ## When it does -/

/-- What follows `scheme://authority`. -/
def afterAuthority (raw : Bytes) : Bytes :=
  ((cut raw 58).2.drop 2).dropWhile fun c => c ≠ 47 && c ≠ 63

/-- The path of a text without an authority, up to its `?`. -/
def pathText (rest : Bytes) : Bytes := (cut rest 63).1

/-- The request target that path and query of a URL give. -/
def targetText (rest : Bytes) : Bytes := target (pathText rest) (rest.dropWhile (· ≠ 63))

/-- Behind a `#` all that is appended belongs to the fragment. Elsewhere it must
follow the authority and be a path and query that stay as they are. -/
def Appends (upstream path : Bytes) : Prop :=
  if 35 ∈ upstream then
    targetText (afterAuthority (cut upstream 35).1) = path ∧
      ∃ fragment, unescape ((cut upstream 35).2 ++ path) = some fragment
  else
    afterAuthority upstream = [] ∧ 35 ∉ path ∧ path.any isCTL = false ∧
      validEncoded (pathText path) = true ∧ ∃ p, unescape (pathText path) = some p

theorem bytes_append (s t : String) : bytes (s ++ t) = bytes s ++ bytes t := by
  simp [bytes]

theorem bytes_hasPrefix_slash {p : String} (h : hasPrefix p "/" = true) :
    (bytes p).head? = some 47 := by
  obtain ⟨t, eq⟩ := List.isPrefixOf_iff_prefix.mp h
  rw [bytes, ← eq]
  rfl

theorem removeEmptyPort_reaches {scheme host : String} (h : Reaches ⟨scheme, host⟩) :
    removeEmptyPort host = host := by
  obtain ⟨n, hn, -⟩ := h.port
  have last : host.toList.getLast? ≠ some ':' := by
    intro colon
    rw [List.getLast?_eq_head?_reverse] at colon
    have blank : (URL.mk scheme host).port = "" := by
      cases eq : host.toList.reverse with
      | nil =>
        rw [eq] at colon
        cases colon
      | cons c rest =>
        rw [eq] at colon
        cases colon
        simp only [URL.port, cutPort, eq, bne_self_eq_false, Bool.false_eq_true,
          not_false_eq_true, List.takeWhile_cons_of_neg, List.reverse_nil, List.all_nil]
        split <;> rfl
    rw [blank, atoi_empty] at hn
    cases hn
  simp [removeEmptyPort, last]

namespace NetURL

/-! ## A path behind a text with an authority -/

section
variable {raw scheme authority path query p q : Bytes}

theorem targetText_append (plain : 63 ∉ path) (queries : ∀ c ∈ query.head?, c = 63) :
    targetText (path ++ query) = target path query := by
  obtain ⟨first, second⟩ := span_append (t := query) (ne_of_absent plain)
    (fun c hc => by simp [queries c hc])
  rw [targetText, pathText, cut, first, second]

theorem Splits.afterAuthority (h : Splits raw scheme authority path query) :
    afterAuthority raw = path ++ query := by
  have colon : (58 : UInt8) ∉ scheme := fun mem => Bool.noConfusion (h.scheme 58 mem)
  have stops : ∀ c ∈ (path ++ query).head?, (decide (c ≠ 47) && decide (c ≠ 63)) = false := by
    intro c hc
    cases path with
    | nil => simp [h.query c hc]
    | cons d path => simp [h.rooted c hc]
  obtain ⟨-, rest⟩ := span_append (fun c hc => by simpa using h.authority c hc) stops
  rw [TorusProxy.afterAuthority, h.text, cut_append colon]
  exact rest

/-- Path and query of a text that begins a path. -/
theorem pathText_append_query (p : Bytes) :
    p = pathText p ++ p.dropWhile (· ≠ 63) ∧ 63 ∉ pathText p ∧
      ∀ c ∈ (p.dropWhile (· ≠ 63)).head?, c = 63 := by
  obtain ⟨a, t, rfl, before, stops⟩ := exists_span (fun c => decide (c ≠ 63)) p
  obtain ⟨first, second⟩ := span_append before stops
  rw [pathText, cut, first, second]
  refine ⟨rfl, fun mem => by simpa using before 63 mem, fun c hc => by simpa using stops c hc⟩

/-- Behind a query everything belongs to it. -/
theorem Splits.append_query (h : Splits raw scheme authority path query) (ne : query ≠ [])
    (t : Bytes) : Splits (raw ++ t) scheme authority path (query ++ t) := by
  refine ⟨by simp [h.text], h.letter, h.scheme, h.authority, h.rooted, h.path, ?_⟩
  intro c hc
  cases query with
  | nil => exact absurd rfl ne
  | cons d query => exact h.query c hc

theorem Splits.append_path (h : Splits raw scheme authority path []) (rooted : p.head? = some 47)
    (plain : 63 ∉ p) (queries : ∀ c ∈ q.head?, c = 63) :
    Splits (raw ++ (p ++ q)) scheme authority (path ++ p) q := by
  refine ⟨by simp [h.text], h.letter, h.scheme, h.authority, ?_, ?_, queries⟩
  · intro c hc
    cases path with
    | nil =>
      rw [List.nil_append, rooted] at hc
      cases hc
      rfl
    | cons d path => exact h.rooted c hc
  · rw [List.mem_append, not_or]
    exact ⟨h.path, plain⟩

theorem Splits.append (h : Splits raw scheme authority path query) (rooted : p.head? = some 47) :
    ∃ path' query', Splits (raw ++ p) scheme authority path' query' := by
  cases query with
  | nil =>
    obtain ⟨whole, noQuery, queries⟩ := pathText_append_query p
    have start : (pathText p).head? = some 47 := head?_cut 63 rooted (by decide)
    have splits := h.append_path start noQuery queries
    rw [← whole] at splits
    exact ⟨_, _, splits⟩
  | cons d query => exact ⟨_, _, h.append_query (List.cons_ne_nil d query) p⟩

theorem Splits.query_plain (h : Splits raw scheme authority path query) (plain : 35 ∉ raw) :
    35 ∉ query := by
  intro mem
  rw [h.text] at plain
  apply plain
  simp [mem]

theorem validEncoded_escapedText (path : Bytes) : validEncoded (escapedText path) = true := by
  unfold escapedText
  split
  · assumption
  · exact validEncoded_escape _

/-- No target has a `#` but in its query. -/
theorem hash_not_mem_target (plain : 35 ∉ query) : 35 ∉ target path query := by
  rw [target, List.mem_append, not_or]
  refine ⟨?_, plain⟩
  split
  · decide
  · intro hash
    exact Bool.noConfusion (List.all_eq_true.mp (validEncoded_escapedText path) 35 hash)

/-- A query that is put before a path stays visible, -/
theorem target_append_ne (ne : query ≠ []) : target path (query ++ p) ≠ p := by
  intro same
  have pos := List.length_pos_iff.mpr ne
  have length := congrArg List.length same
  simp only [target, List.length_append] at length
  omega

/-- and so does another path. -/
theorem escapedText_append_eq (same : escapedText (path ++ p) = p)
    (before : ∃ a, Unescapes path a) (whole : ∃ c, Unescapes (path ++ p) c) :
    path = [] ∧ validEncoded p = true := by
  have valid : validEncoded p = true := by
    rw [← same]
    exact validEncoded_escapedText _
  obtain ⟨a, ha⟩ := before
  obtain ⟨c, hc⟩ := whole
  refine ⟨?_, valid⟩
  unfold escapedText at same
  split at same
  · simpa using same
  · rw [unescape_iff.mpr hc, Option.getD_some] at same
    obtain ⟨b, hb, rfl⟩ := ha.drop hc
    -- What is escaped is read back, so the path adds nothing to it.
    have again := Unescapes.escape (a ++ b)
    rw [same] at again
    have empty : a = [] := by simpa using again.unique hb
    rw [empty] at ha
    exact ha.eq_nil

end

end NetURL

/-! ## The appended text -/

section
variable {parseAuthority : Bytes → Bytes → Option String}
  {raw scheme authority path query p : Bytes} {host : String} {w : ParsedURL}

namespace Accepted

/-- The site stays the same whatever is appended. -/
theorem append_site (h : Accepted parseAuthority raw scheme authority path query host)
    (plain : 35 ∉ authority) (rooted : p.head? = some 47)
    (parsed : NetURL.parse parseAuthority (raw ++ p) = some w) :
    w.toURL = ⟨ascii (toLower scheme), host⟩ := by
  obtain ⟨parsed, -⟩ := parse_eq_some.mp parsed
  have site {raw' path' query' : Bytes} (splits : Splits raw' scheme authority path' query')
      (parsed : NetURL.parseAs parseAuthority false raw' = some w) :
      w.toURL = ⟨ascii (toLower scheme), host⟩ := by
    obtain ⟨host', accepted⟩ := of_parseAs splits parsed
    obtain ⟨v, hv, same, -⟩ := accepted.parseAs false
    obtain rfl : host = host' := Option.some.inj (h.host.symm.trans accepted.host)
    rw [Option.some.inj (parsed.symm.trans hv)]
    exact same
  by_cases hash : 35 ∈ raw
  · rw [cut_append_right hash] at parsed
    obtain ⟨path', query', before⟩ := h.beforeHash plain
    exact site before.splits parsed
  · rw [cut_append_left hash] at parsed
    obtain ⟨path', query', splits⟩ := h.splits.append (head?_cut 35 rooted (by decide))
    exact site splits parsed

/-- Behind a `#`. -/
theorem append_hash_iff (h : Accepted parseAuthority raw scheme authority path query host)
    (plain : 35 ∉ authority) (hash : 35 ∈ raw) :
    (∃ w, NetURL.parse parseAuthority (raw ++ p) = some w ∧ w.requestURI = p) ↔
      targetText (afterAuthority (cut raw 35).1) = p ∧
        ∃ fragment, unescape ((cut raw 35).2 ++ p) = some fragment := by
  obtain ⟨path', query', before⟩ := h.beforeHash plain
  obtain ⟨v, parsed, -, requests⟩ := before.parseAs false
  have same : targetText (afterAuthority (cut raw 35).1) = v.requestURI := by
    rw [before.splits.afterAuthority,
      targetText_append before.splits.path before.splits.query, requests]
  simp only [parse_eq_some, cut_append_right hash, parsed, Option.some.injEq, same]
  constructor
  · rintro ⟨w, ⟨rfl, whole⟩, requested⟩
    exact ⟨requested, whole⟩
  · rintro ⟨requested, whole⟩
    exact ⟨v, ⟨rfl, whole⟩, requested⟩

/-- A request for the path alone shows that nothing stands before it, and that
it has come through both parsers as it is. -/
theorem of_requested (h : Accepted parseAuthority raw scheme authority path query host)
    (hash : 35 ∉ raw) (rooted : p.head? = some 47)
    (parsed : NetURL.parse parseAuthority (raw ++ p) = some w) (requested : w.requestURI = p) :
    afterAuthority raw = [] ∧ 35 ∉ p ∧ p.any isCTL = false ∧
      validEncoded (pathText p) = true ∧ ∃ q, unescape (pathText p) = some q := by
  obtain ⟨parsed, -⟩ := parse_eq_some.mp parsed
  rw [cut_append_left hash] at parsed
  have absent : 35 ∉ p := by
    obtain ⟨path', query', splits⟩ := h.splits.append (head?_cut 35 rooted (by decide))
    have plain : 35 ∉ raw ++ (cut p 35).1 := by
      rw [List.mem_append, not_or]
      exact ⟨hash, not_mem_cut p 35⟩
    rw [← requested, splits.requestURI parsed]
    exact hash_not_mem_target (splits.query_plain plain)
  rw [cut_absent absent] at parsed
  rw [h.splits.afterAuthority]
  cases query with
  | nil =>
    obtain ⟨whole, noQuery, queries⟩ := pathText_append_query p
    have start : (pathText p).head? = some 47 := head?_cut 63 rooted (by decide)
    have splits := h.splits.append_path start noQuery queries
    rw [← whole] at splits
    have nonempty : path ++ pathText p ≠ [] := by
      intro empty
      rw [(List.append_eq_nil_iff.mp empty).2] at start
      cases start
    obtain ⟨host', accepted⟩ := of_parseAs splits parsed
    obtain ⟨c, unescapes⟩ := accepted.whole
    have same : escapedText (path ++ pathText p) = pathText p := by
      rw [splits.requestURI parsed, target, if_neg nonempty] at requested
      exact List.append_cancel_right (requested.trans whole)
    obtain ⟨rfl, valid⟩ := escapedText_append_eq same h.whole ⟨c, unescapes⟩
    refine ⟨rfl, absent, ?_, valid, c, unescape_iff.mpr unescapes⟩
    have clean := accepted.clean
    rw [List.any_append, Bool.or_eq_false_iff] at clean
    exact clean.2
  | cons d query =>
    have splits := h.splits.append_query (List.cons_ne_nil d query) p
    rw [splits.requestURI parsed] at requested
    exact absurd requested (target_append_ne (List.cons_ne_nil d query))

/-- Behind a text without one. -/
theorem append_plain_iff (h : Accepted parseAuthority raw scheme authority path query host)
    (hash : 35 ∉ raw) (rooted : p.head? = some 47) :
    (∃ w, NetURL.parse parseAuthority (raw ++ p) = some w ∧ w.requestURI = p) ↔
      afterAuthority raw = [] ∧ 35 ∉ p ∧ p.any isCTL = false ∧
        validEncoded (pathText p) = true ∧ ∃ q, unescape (pathText p) = some q := by
  constructor
  · rintro ⟨w, parsed, requested⟩
    exact h.of_requested hash rooted parsed requested
  · rintro ⟨bare, absent, clean, valid, q, unescapes⟩
    rw [h.splits.afterAuthority] at bare
    obtain ⟨rfl, rfl⟩ := List.append_eq_nil_iff.mp bare
    obtain ⟨eq, noQuery, queries⟩ := pathText_append_query p
    have start : (pathText p).head? = some 47 := head?_cut 63 rooted (by decide)
    have splits := h.splits.append_path start noQuery queries
    rw [← eq] at splits
    have accepted : Accepted parseAuthority (raw ++ p) scheme authority (pathText p)
        (p.dropWhile (· ≠ 63)) host := by
      refine ⟨splits, ?_, h.host, q, unescape_iff.mp unescapes⟩
      rw [List.any_append, h.clean, clean]
      rfl
    obtain ⟨w, parsed, -, requests⟩ := accepted.parseAs false
    have nonempty : pathText p ≠ [] := by
      intro empty
      rw [empty] at start
      cases start
    refine ⟨w, parse_eq_some.mpr ?_, ?_⟩
    · rw [cut_append_left hash, cut_absent absent]
      exact ⟨parsed, [], rfl⟩
    · rw [requests, target, if_neg nonempty, escapedText, if_pos valid]
      exact eq.symm

end Accepted

end

/-- The probes of an accepted upstream ask for the configured path where the
traffic goes exactly if the path can be appended to the text of the upstream. -/
theorem probes_traffic_iff {env : Env} {parseAuthority : Bytes → Bytes → Option String}
    {h : HTTPChecker} (std : env.Standard parseAuthority) (accepted : UpstreamURL env h.url)
    (path : trimSpace h.path ≠ "" ∧ hasPrefix h.path "/" = true)
    (backend : ∃ u, env.parse h.url = .ok u) :
    ProbesTraffic env parseAuthority h ↔ Appends (bytes h.url) (bytes h.path) := by
  obtain ⟨scheme, authority, urlPath, query, host, taken, plain, reaches, -⟩ :=
    std.accepted accepted
  obtain ⟨u, built⟩ := backend
  have rooted := bytes_hasPrefix_slash path.2
  -- The backend has the site that was checked,
  have site : u = ⟨ascii (toLower scheme), host⟩ := by
    have parses := std.parse h.url
    rw [built] at parses
    obtain ⟨v, hv, rfl⟩ := Option.map_eq_some_iff.mp parses.symm
    obtain ⟨w, hw, same⟩ := (taken.parse_iff plain).mpr (parse_eq_some.mp hv).2
    rw [Option.some.inj (hv.symm.trans hw)]
    exact same
  have appends : (∃ w, NetURL.parse parseAuthority (bytes h.url ++ bytes h.path) = some w ∧
      w.requestURI = bytes h.path) ↔ Appends (bytes h.url) (bytes h.path) := by
    unfold Appends
    split
    · rename_i hash
      exact taken.append_hash_iff plain hash
    · rename_i hash
      exact taken.append_plain_iff hash rooted
  rw [← appends]
  constructor
  · intro probes
    obtain ⟨probe, request, -, requested⟩ := probes u built
    rw [HTTPChecker.request, newRequest, bytes_append] at request
    obtain ⟨w, parsed, rfl⟩ := Option.map_eq_some_iff.mp request
    exact ⟨w, parsed, requested⟩
  · rintro ⟨w, parsed, requested⟩ u' built'
    obtain rfl : u = u' := Except.ok.inj (built.symm.trans built')
    -- and so has the probe.
    have probed := taken.append_site plain rooted parsed
    refine ⟨⟨⟨w.scheme, removeEmptyPort w.host⟩, w.requestURI⟩, ?_, ?_, requested⟩
    · rw [HTTPChecker.request, newRequest, bytes_append, parsed]
      rfl
    · intro newString inbound out
      rw [probed, removeEmptyPort_reaches reaches, site]
      rfl

/-- The sample upstream and path. -/
theorem probes_traffic_sample :
    ProbesTraffic standardEnv sampleAuthority ⟨"http://10.0.0.1:9000", "/health"⟩ := by
  have accepted : UpstreamURL standardEnv "http://10.0.0.1:9000" := .of_validate (by decide +kernel)
  have built : ∃ u, standardEnv.parse "http://10.0.0.1:9000" = .ok u := ⟨_, standardEnv_parse_sample⟩
  refine (probes_traffic_iff (h := ⟨"http://10.0.0.1:9000", "/health"⟩) standardEnv_standard
    accepted (by decide +kernel) built).mpr ?_
  rw [Appends, if_neg (by decide +kernel)]
  exact ⟨by decide +kernel, by decide +kernel, by decide +kernel, by decide +kernel,
    bytes "/health", by decide +kernel⟩

/-- The upstream with a slash at its end: `//health` is requested. -/
theorem probe_doubles_slash :
    ¬ ∀ (env : Env) (parseAuthority : Bytes → Bytes → Option String) (h : HTTPChecker),
      env.Standard parseAuthority → UpstreamURL env h.url →
      trimSpace h.path ≠ "" ∧ hasPrefix h.path "/" = true → (∃ u, env.parse h.url = .ok u) →
      ProbesTraffic env parseAuthority h := by
  intro always
  have accepted : UpstreamURL standardEnv "http://10.0.0.1:9000/" := .of_validate (by decide +kernel)
  have built : standardEnv.parse "http://10.0.0.1:9000/" = .ok ⟨"http", "10.0.0.1:9000"⟩ :=
    eq_ok_of_toOption (by decide +kernel)
  obtain ⟨probe, request, -, requested⟩ := always _ _ ⟨"http://10.0.0.1:9000/", "/health"⟩
    standardEnv_standard accepted (by decide +kernel) ⟨_, built⟩ _ built
  have doubled : (newRequest sampleAuthority ("http://10.0.0.1:9000/" ++ "/health")).map
      (·.requestTarget) = some (bytes "//health") := by decide +kernel
  rw [HTTPChecker.request] at request
  rw [request, Option.map_some, requested] at doubled
  revert doubled
  decide +kernel

end TorusProxy
