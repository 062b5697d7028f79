import TorusProxy.Rewrite

/-! The request that is handed to the transport of a backend: the logging middleware, and
what `httputil.ReverseProxy` does to the headers around the rewrite of a backend. -/
namespace TorusProxy

/-! ## Headers -/

namespace Header

def del (h : Header) (key : String) : Header :=
  ⟨Function.update h.values (canonicalMIMEHeaderKey key) []⟩

theorem values_set (h : Header) (key other : String) (value : Bytes) :
    (h.set other value).values key =
      if key = canonicalMIMEHeaderKey other then [value] else h.values key :=
  Function.update_apply _ _ _ _

theorem values_del (h : Header) (key other : String) :
    (h.del other).values key =
      if key = canonicalMIMEHeaderKey other then [] else h.values key :=
  Function.update_apply _ _ _ _

theorem values_foldl_del (others : List String) (h : Header) (key : String) :
    (others.foldl del h).values key =
      if key ∈ others.map canonicalMIMEHeaderKey then [] else h.values key := by
  induction others generalizing h with
  | nil => rfl
  | cons other others ih =>
    rw [List.foldl_cons, ih, values_del]
    by_cases here : key = canonicalMIMEHeaderKey other
    · simp [here]
    · simp [here]

end Header

/-! ## Tokens -/

def lowerASCII (b : UInt8) : UInt8 := if 65 ≤ b ∧ b ≤ 90 then b + 32 else b

/-- `httpguts.tokenEqual`, for a token of ASCII letters. -/
def tokenEqual (s token : Bytes) : Bool := s.map lowerASCII == token.map lowerASCII

/-- `httpguts.HeaderValuesContainsToken`. -/
def headerValuesContainsToken (values : List Bytes) (token : Bytes) : Bool :=
  values.any fun v => (elements v).any (tokenEqual · token)

/-- `textproto.TrimString`. -/
def trimString (s : Bytes) : Bytes :=
  let space (b : UInt8) : Bool := b == 32 || b == 9 || b == 10 || b == 13
  ((s.dropWhile space).reverse.dropWhile space).reverse

/-- A byte string as the key of a header. -/
def headerKey (s : Bytes) : String := String.ofList (s.map fun b => Char.ofNat b.toNat)

/-- `ascii.IsPrint`. -/
def asciiIsPrint (s : Bytes) : Bool := s.all fun b => 32 ≤ b && b ≤ 126

/-! ## The reverse proxy -/

/-- `hopHeaders`. -/
def hopHeaders : List String :=
  ["Connection", "Proxy-Connection", "Keep-Alive", "Proxy-Authenticate", "Proxy-Authorization",
    "Te", "Trailer", "Transfer-Encoding", "Upgrade"]

/-- The headers the lines of `Connection` name. -/
def connectionOptions (h : Header) : List String :=
  (h.values "Connection").flatMap fun f =>
    (((f.splitOn 44).map trimString).filter (· ≠ [])).map headerKey

def removeHopByHopHeaders (h : Header) : Header :=
  hopHeaders.foldl Header.del ((connectionOptions h).foldl Header.del h)

def upgradeType (h : Header) : Bytes :=
  if headerValuesContainsToken (h.values "Connection") (bytes "Upgrade") then h.get "Upgrade"
  else []

/-- The headers `ReverseProxy.ServeHTTP` gives the rewrite. -/
def proxyHeader (inbound : Header) : Header :=
  let header := removeHopByHopHeaders inbound
  let header :=
    if headerValuesContainsToken (inbound.values "Te") (bytes "trailers") then
      header.set "Te" (bytes "trailers")
    else header
  let header :=
    if upgradeType inbound ≠ [] then
      (header.set "Connection" (bytes "Upgrade")).set "Upgrade" (upgradeType inbound)
    else header
  let header := header.del "Forwarded"
  let header := header.del "X-Forwarded-For"
  let header := header.del "X-Forwarded-Host"
  header.del "X-Forwarded-Proto"

/-- `ReverseProxy.ServeHTTP` up to the round trip; none where it refuses to switch
protocols. -/
def proxyRequest (u : URL) (newString : Bytes) (inbound : InboundRequest) (url : URL) :
    Option OutboundRequest :=
  if !asciiIsPrint (upgradeType inbound.header) then none
  else
    let out := rewrite u newString inbound ⟨url, proxyHeader inbound.header⟩
    -- No default `User-Agent` of the client library.
    if out.header.values "User-Agent" = [] then
      some ⟨out.url, out.header.set "User-Agent" []⟩
    else some out

/-- `LoggingMiddleware`: the request it passes on, and the id it logs. -/
def withRequestID (newString : Bytes) (inbound : InboundRequest) : InboundRequest × Bytes :=
  let reqID := inbound.header.get "X-Request-ID"
  let reqID := if reqID = [] then newString else reqID
  ({ inbound with header := inbound.header.set "X-Request-ID" reqID }, reqID)

/-- A request through the middleware and the reverse proxy of a backend. -/
def forward (u : URL) (first second : Bytes) (inbound : InboundRequest) (url : URL) :
    Bytes × Option OutboundRequest :=
  let (passed, reqID) := withRequestID first inbound
  (reqID, proxyRequest u second passed url)

/-! ## What the backend gets -/

/-- The headers the proxy speaks for. -/
def proxyHeaders : List String :=
  ["Forwarded", "X-Forwarded-For", "X-Forwarded-Host", "X-Forwarded-Proto", "X-Request-Id"]

/-- A header of this hop: of the fixed list, or named by a line of `Connection`. -/
def Header.PerHop (h : Header) (key : String) : Prop :=
  key ∈ hopHeaders ∨ key ∈ (connectionOptions h).map canonicalMIMEHeaderKey

instance (h : Header) (key : String) : Decidable (h.PerHop key) :=
  inferInstanceAs (Decidable (_ ∨ _))

theorem hopHeaders_canonical : hopHeaders.map canonicalMIMEHeaderKey = hopHeaders := by
  decide

theorem removeHopByHopHeaders_values (h : Header) (key : String) :
    (removeHopByHopHeaders h).values key = if h.PerHop key then [] else h.values key := by
  rw [removeHopByHopHeaders, Header.values_foldl_del, hopHeaders_canonical, Header.values_foldl_del]
  unfold Header.PerHop
  by_cases hop : key ∈ hopHeaders
  · simp [hop]
  · simp [hop]

theorem canonical_forwarded : canonicalMIMEHeaderKey "Forwarded" = "Forwarded" := by
  decide

theorem canonical_forwardedHost :
    canonicalMIMEHeaderKey "X-Forwarded-Host" = "X-Forwarded-Host" := by decide

theorem canonical_forwardedProto :
    canonicalMIMEHeaderKey "X-Forwarded-Proto" = "X-Forwarded-Proto" := by decide

theorem canonical_requestID : canonicalMIMEHeaderKey "X-Request-ID" = "X-Request-Id" := by
  decide

theorem canonical_te : canonicalMIMEHeaderKey "Te" = "Te" := by decide

theorem canonical_connection : canonicalMIMEHeaderKey "Connection" = "Connection" := by
  decide

theorem canonical_upgrade : canonicalMIMEHeaderKey "Upgrade" = "Upgrade" := by decide

theorem canonical_userAgent : canonicalMIMEHeaderKey "User-Agent" = "User-Agent" := by
  decide

/-- The id the backend of this request is told. -/
def requestID (newString : Bytes) (inbound : InboundRequest) : Bytes :=
  if inbound.header.get "X-Request-ID" = [] then newString else inbound.header.get "X-Request-ID"

def forwardedProto (inbound : InboundRequest) : Bytes :=
  bytes (if inbound.tls then "https" else "http")

/-- The rewrite, header by header. -/
theorem rewrite_values (u : URL) (newString : Bytes) (inbound : InboundRequest)
    (out : OutboundRequest) (key : String) :
    (rewrite u newString inbound out).header.values key =
      if key = "X-Request-Id" then [requestID newString inbound]
      else if key = "X-Forwarded-Host" ∧ inbound.host ≠ [] then [inbound.host]
      else if key = "X-Forwarded-Proto" then [forwardedProto inbound]
      else if key = "X-Forwarded-For" then [forwardedFor inbound]
      else out.header.values key := by
  unfold rewrite forwardedFor
  by_cases named : inbound.host = []
  · by_cases prior : inbound.header.get "X-Forwarded-For" = []
    · simp [named, prior, Header.values_set, requestID, forwardedProto, canonical_requestID,
        canonical_forwardedProto, canonical_forwardedFor]
    · simp [named, prior, Header.values_set, requestID, forwardedProto, canonical_requestID,
        canonical_forwardedProto, canonical_forwardedFor]
  · by_cases prior : inbound.header.get "X-Forwarded-For" = []
    · simp [named, prior, Header.values_set, requestID, forwardedProto, canonical_requestID,
        canonical_forwardedHost, canonical_forwardedProto, canonical_forwardedFor]
    · simp [named, prior, Header.values_set, requestID, forwardedProto, canonical_requestID,
        canonical_forwardedHost, canonical_forwardedProto, canonical_forwardedFor]

/-- The headers the rewrite is given none of. -/
def forwardingHeaders : List String :=
  ["Forwarded", "X-Forwarded-For", "X-Forwarded-Host", "X-Forwarded-Proto"]

/-- What the rewrite is given of any other header. -/
def outboundValues (h : Header) (key : String) : List Bytes :=
  if key = "Te" then
    if headerValuesContainsToken (h.values "Te") (bytes "trailers") then [bytes "trailers"] else []
  else if key = "Connection" then if upgradeType h ≠ [] then [bytes "Upgrade"] else []
  else if key = "Upgrade" then if upgradeType h ≠ [] then [upgradeType h] else []
  else if h.PerHop key then []
  else h.values key

/-- What the transport is handed of an inbound request, header by header. The client's
lines of the headers that the proxy speaks for do not pass, nor do those of its
own hop; all others do. -/
structure Forwarded (inbound : InboundRequest) (id : Bytes) (out : Header) : Prop where
  requestID : out.values "X-Request-Id" = [id]
  chain : out.values "X-Forwarded-For" = [forwardedFor inbound]
  proto : out.values "X-Forwarded-Proto" = [forwardedProto inbound]
  host : out.values "X-Forwarded-Host" = if inbound.host ≠ [] then [inbound.host] else []
  forwarded : out.values "Forwarded" = []
  userAgent : out.values "User-Agent" =
    if inbound.header.PerHop "User-Agent" ∨ inbound.header.values "User-Agent" = [] then [[]]
    else inbound.header.values "User-Agent"
  rest : ∀ key, key ∉ proxyHeaders → key ≠ "User-Agent" →
    out.values key = outboundValues inbound.header key

theorem proxyHeader_values (h : Header) (key : String) :
    (proxyHeader h).values key =
      if key ∈ forwardingHeaders then [] else outboundValues h key := by
  have te : h.PerHop "Te" := .inl (by decide)
  have connection : h.PerHop "Connection" := .inl (by decide)
  have upgrade : h.PerHop "Upgrade" := .inl (by decide)
  by_cases own : key ∈ forwardingHeaders
  · rw [if_pos own]
    simp only [forwardingHeaders, List.mem_cons, List.not_mem_nil, or_false] at own
    rcases own with rfl | rfl | rfl | rfl
    · simp [proxyHeader, Header.values_del, canonical_forwarded]
    · simp [proxyHeader, Header.values_del, canonical_forwardedFor]
    · simp [proxyHeader, Header.values_del, canonical_forwardedHost]
    · simp [proxyHeader, Header.values_del, canonical_forwardedProto]
  · rw [if_neg own]
    simp only [forwardingHeaders, List.mem_cons, List.not_mem_nil, or_false, not_or] at own
    simp only [proxyHeader, Header.values_del, canonical_forwarded, canonical_forwardedFor,
      canonical_forwardedHost, canonical_forwardedProto, if_neg own.1, if_neg own.2.1,
      if_neg own.2.2.1, if_neg own.2.2.2]
    by_cases trailers : headerValuesContainsToken (h.values "Te") (bytes "trailers") = true
    · by_cases upgrades : upgradeType h = []
      · simp only [trailers, upgrades, if_true, ne_eq, not_true, if_false, Header.values_set,
          canonical_te, removeHopByHopHeaders_values, outboundValues]
        grind
      · simp only [trailers, upgrades, if_true, ne_eq, not_false_eq_true, Header.values_set,
          canonical_te, canonical_connection, canonical_upgrade, removeHopByHopHeaders_values,
          outboundValues]
        grind
    · by_cases upgrades : upgradeType h = []
      · simp only [trailers, upgrades, ne_eq, not_true, if_false, Bool.false_eq_true,
          removeHopByHopHeaders_values, outboundValues]
        grind
      · simp only [trailers, upgrades, if_true, ne_eq, not_false_eq_true, if_false,
          Bool.false_eq_true, Header.values_set, canonical_connection, canonical_upgrade,
          removeHopByHopHeaders_values, outboundValues]
        grind

/-- The rewrite, and the empty `User-Agent` where the request has none. -/
theorem proxyRequest_values {u url : URL} {newString : Bytes} {inbound : InboundRequest}
    {out : OutboundRequest} (h : proxyRequest u newString inbound url = some out) (key : String) :
    out.header.values key =
      let rewritten := (rewrite u newString inbound ⟨url, proxyHeader inbound.header⟩).header
      if key = "User-Agent" ∧ rewritten.values "User-Agent" = [] then [[]]
      else rewritten.values key := by
  unfold proxyRequest at h
  split at h
  · cases h
  · simp only at h ⊢
    split at h <;> cases h
    · rename_i absent
      by_cases agent : key = "User-Agent"
      · simp [agent, absent, Header.values_set, canonical_userAgent]
      · simp [agent, Header.values_set, canonical_userAgent]
    · rename_i given
      simp [given]

/-- What the reverse proxy sends, of the request it was given. -/
theorem proxyRequest_forwarded {u url : URL} {newString : Bytes} {inbound : InboundRequest}
    {out : OutboundRequest} (h : proxyRequest u newString inbound url = some out) :
    Forwarded inbound (TorusProxy.requestID newString inbound) out.header where
  requestID := by simp [proxyRequest_values h, rewrite_values]
  chain := by simp [proxyRequest_values h, rewrite_values]
  proto := by simp [proxyRequest_values h, rewrite_values]
  host := by
    by_cases named : inbound.host = []
    · simp [proxyRequest_values h, rewrite_values, named, proxyHeader_values, forwardingHeaders]
    · simp [proxyRequest_values h, rewrite_values, named]
  forwarded := by
    simp [proxyRequest_values h, rewrite_values, proxyHeader_values, forwardingHeaders]
  userAgent := by
    by_cases hop : inbound.header.PerHop "User-Agent"
    · simp [proxyRequest_values h, rewrite_values, proxyHeader_values, forwardingHeaders,
        outboundValues, hop]
    · simp [proxyRequest_values h, rewrite_values, proxyHeader_values, forwardingHeaders,
        outboundValues, hop]
  rest := by
    intro key other agent
    simp only [proxyHeaders, List.mem_cons, List.not_mem_nil, or_false, not_or] at other
    obtain ⟨notForwarded, notFor, notHost, notProto, notID⟩ := other
    simp [proxyRequest_values h, rewrite_values, proxyHeader_values, forwardingHeaders, *]

/-! ## Through the middleware -/

theorem withRequestID_values (newString : Bytes) (inbound : InboundRequest) (key : String) :
    (withRequestID newString inbound).1.header.values key =
      if key = "X-Request-Id" then [requestID newString inbound]
      else inbound.header.values key := by
  simp [withRequestID, Header.values_set, canonical_requestID, requestID]

theorem requestID_ne_nil {newString : Bytes} (drawn : newString ≠ []) (inbound : InboundRequest) :
    requestID newString inbound ≠ [] := by
  unfold requestID
  split
  · exact drawn
  · assumption

/-- The id of the middleware is kept: the rewrite draws none of its own. -/
theorem requestID_kept {first second : Bytes} (drawn : first ≠ []) (inbound : InboundRequest) :
    requestID second (withRequestID first inbound).1 = requestID first inbound := by
  have told : (withRequestID first inbound).1.header.get "X-Request-ID" =
      requestID first inbound := by
    simp [Header.get, withRequestID_values, canonical_requestID]
  rw [requestID, told, if_neg (requestID_ne_nil drawn inbound)]

theorem Header.perHop_passed (newString : Bytes) (inbound : InboundRequest) (key : String) :
    (withRequestID newString inbound).1.header.PerHop key ↔ inbound.header.PerHop key := by
  unfold Header.PerHop connectionOptions
  simp [withRequestID_values]

theorem upgradeType_passed (newString : Bytes) (inbound : InboundRequest) :
    upgradeType (withRequestID newString inbound).1.header = upgradeType inbound.header := by
  unfold upgradeType Header.get
  simp [withRequestID_values, canonical_upgrade]

theorem forwardedFor_passed (newString : Bytes) (inbound : InboundRequest) :
    forwardedFor (withRequestID newString inbound).1 = forwardedFor inbound := by
  have prior : (withRequestID newString inbound).1.header.get "X-Forwarded-For" =
      inbound.header.get "X-Forwarded-For" := by
    simp [Header.get, withRequestID_values, canonical_forwardedFor]
  unfold forwardedFor
  rw [prior]
  rfl

theorem outboundValues_passed (newString : Bytes) (inbound : InboundRequest) {key : String}
    (other : key ≠ "X-Request-Id") :
    outboundValues (withRequestID newString inbound).1.header key =
      outboundValues inbound.header key := by
  simp [outboundValues, upgradeType_passed, Header.perHop_passed, withRequestID_values, other]

theorem Forwarded.of_passed {newString id : Bytes} {inbound : InboundRequest} {out : Header}
    (h : Forwarded (withRequestID newString inbound).1 id out) : Forwarded inbound id out where
  requestID := h.requestID
  chain := by rw [h.chain, forwardedFor_passed]
  proto := h.proto
  host := h.host
  forwarded := h.forwarded
  userAgent := by simpa [Header.perHop_passed, withRequestID_values] using h.userAgent
  rest := by
    intro key other agent
    rw [h.rest key other agent]
    apply outboundValues_passed
    rintro rfl
    exact other (by decide)

theorem proxyRequest_none {u url : URL} {newString : Bytes} {inbound : InboundRequest} :
    proxyRequest u newString inbound url = none ↔
      asciiIsPrint (upgradeType inbound.header) = false := by
  unfold proxyRequest
  cases asciiIsPrint (upgradeType inbound.header) with
  | false => simp
  | true =>
    simp only [Bool.not_true, Bool.false_eq_true, if_false]
    split <;> simp

theorem proxyRequest_url {u url : URL} {newString : Bytes} {inbound : InboundRequest}
    {out : OutboundRequest} (h : proxyRequest u newString inbound url = some out) :
    out.url = ⟨u.scheme, u.host⟩ := by
  unfold proxyRequest at h
  split at h
  · cases h
  · simp only at h
    split at h <;> cases h <;> rfl

/-- The request for the backend has the id that is logged, and whatever the client names in
`Connection`, the headers the proxy speaks for are its own. -/
theorem forwarded_as_logged {u url : URL} {first second reqID : Bytes} {inbound : InboundRequest}
    {sent : Option OutboundRequest} (drawn : first ≠ [])
    (h : forward u first second inbound url = (reqID, sent)) :
    reqID = requestID first inbound ∧
      (sent = none ↔ asciiIsPrint (upgradeType inbound.header) = false) ∧
      ∀ out ∈ sent, Forwarded inbound reqID out.header ∧ out.url = ⟨u.scheme, u.host⟩ := by
  have split : forward u first second inbound url =
      (requestID first inbound, proxyRequest u second (withRequestID first inbound).1 url) := rfl
  obtain ⟨rfl, rfl⟩ := Prod.mk.inj (split.symm.trans h)
  refine ⟨rfl, ?_, ?_⟩
  · rw [proxyRequest_none, upgradeType_passed]
  · intro out given
    have same := proxyRequest_forwarded given
    rw [requestID_kept drawn inbound] at same
    exact ⟨same.of_passed, proxyRequest_url given⟩

/-- A client that asks for its own `X-Forwarded-For` and `X-Request-ID` to be removed. -/
def stripping : InboundRequest where
  remoteAddr := bytes "192.0.2.1:1234"
  tls := true
  host := bytes "example.com"
  header := ⟨fun key =>
    if key = "Connection" then [bytes "X-Forwarded-For, X-Request-ID"]
    else if key = "X-Forwarded-For" then [bytes "203.0.113.7"]
    else if key = "X-Request-Id" then [bytes "7"]
    else []⟩

theorem forwarded_as_logged_stripping :
    ∃ out, forward ⟨"http", "10.0.0.1:9000"⟩ (bytes "8") (bytes "9") stripping ⟨"", ""⟩ =
        (bytes "7", some out) ∧
      out.header.values "X-Request-Id" = [bytes "7"] ∧
      out.header.values "X-Forwarded-For" = [bytes "203.0.113.7, 192.0.2.1"] ∧
      out.url = ⟨"http", "10.0.0.1:9000"⟩ := by
  have id : requestID (bytes "8") stripping = bytes "7" := by decide
  have same : forward ⟨"http", "10.0.0.1:9000"⟩ (bytes "8") (bytes "9") stripping ⟨"", ""⟩ =
      (bytes "7",
        (forward ⟨"http", "10.0.0.1:9000"⟩ (bytes "8") (bytes "9") stripping ⟨"", ""⟩).2) :=
    Prod.ext id rfl
  obtain ⟨-, refused, passed⟩ := forwarded_as_logged (by decide) same
  cases sent : (forward ⟨"http", "10.0.0.1:9000"⟩ (bytes "8") (bytes "9") stripping ⟨"", ""⟩).2 with
  | none => exact absurd (refused.mp sent) (by decide)
  | some out =>
    obtain ⟨forwarded, url⟩ := passed out sent
    refine ⟨out, by rw [same, sent], forwarded.requestID, ?_, url⟩
    rw [forwarded.chain]
    decide

end TorusProxy
