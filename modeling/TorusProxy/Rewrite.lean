import Mathlib.Logic.Function.Basic
import TorusProxy.Config

/-! `proxy.Rewrite`, which every backend installs in its reverse proxy: the
outbound URL and the forwarding headers of a request. -/
namespace TorusProxy

/-! ## Headers -/

/-- `validHeaderFieldByte`. -/
def validHeaderFieldByte (c : Char) : Bool :=
  c.isAlphanum || "!#$%&*+-.^_|~".toList.contains c || c.toNat == 39 || c.toNat == 96

/-- Upper case at the start and after a hyphen, lower case elsewhere. -/
def canonicalCase : Bool → List Char → List Char
  | _, [] => []
  | upper, c :: rest =>
    let c := if upper then c.toUpper else c.toLower
    c :: canonicalCase (c == '-') rest

/-- `textproto.CanonicalMIMEHeaderKey`. -/
def canonicalMIMEHeaderKey (s : String) : String :=
  if s.toList.all validHeaderFieldByte then String.ofList (canonicalCase true s.toList) else s

/-- `http.Header`: the lines of each key, in order. -/
structure Header where
  values : String → List Bytes

namespace Header

/-- The first line of the key, or the empty string. -/
def get (h : Header) (key : String) : Bytes := ((h.values (canonicalMIMEHeaderKey key)).head?).getD []

def set (h : Header) (key : String) (value : Bytes) : Header :=
  ⟨Function.update h.values (canonicalMIMEHeaderKey key) [value]⟩

theorem values_set_self (h : Header) {key : String} (value : Bytes)
    (canonical : canonicalMIMEHeaderKey key = key) : (h.set key value).values key = [value] := by
  rw [set, canonical]
  exact Function.update_self _ _ _

theorem values_set_of_ne (h : Header) {key other : String} (value : Bytes)
    (ne : key ≠ canonicalMIMEHeaderKey other) : (h.set other value).values key = h.values key :=
  Function.update_of_ne ne _ _

end Header

/-! ## Addresses -/

def indexByte (s : Bytes) (c : UInt8) : Option Nat := s.idxOf? c

def lastIndexByte (s : Bytes) (c : UInt8) : Option Nat :=
  (s.reverse.idxOf? c).map (s.length - 1 - ·)

/-- The end of `net.SplitHostPort`: no bracket from the places on at which
there can still be one. -/
def splitAtColon (hostport host : Bytes) (i j k : Nat) : Option (Bytes × Bytes) :=
  if 91 ∈ hostport.drop j then none
  else if 93 ∈ hostport.drop k then none
  else some (host, hostport.drop (i + 1))

/-- `net.SplitHostPort`; none where it returns an error. -/
def splitHostPort (hostport : Bytes) : Option (Bytes × Bytes) :=
  match lastIndexByte hostport 58 with
  | none => none
  | some i =>
    if hostport.head? = some 91 then
      match indexByte hostport 93 with
      | none => none
      | some e =>
        -- The bracket ends the address, or the last colon does not follow it.
        if e + 1 = hostport.length then none
        else if e + 1 = i then splitAtColon hostport ((hostport.take e).drop 1) i 1 (e + 1)
        else none
    else if 58 ∈ hostport.take i then none
    else splitAtColon hostport (hostport.take i) i 0 0

/-! ## The rewrite -/

/-- What the rewrite reads of the inbound request. -/
structure InboundRequest where
  remoteAddr : Bytes
  /-- `TLS != nil`. -/
  tls : Bool
  host : Bytes
  header : Header

/-- What it writes of the outbound one. -/
structure OutboundRequest where
  url : URL
  header : Header

/-- The address of the client, or all of `RemoteAddr` where it has no port. -/
def clientIP (remoteAddr : Bytes) : Bytes :=
  match splitHostPort remoteAddr with
  | some (host, _) => host
  | none => remoteAddr

/-- `proxy.Rewrite` of a backend with this URL; `newString` is what
`uuid.NewString` would return. -/
def rewrite (u : URL) (newString : Bytes) (inbound : InboundRequest) (out : OutboundRequest) :
    OutboundRequest :=
  let client := clientIP inbound.remoteAddr
  let prior := inbound.header.get "X-Forwarded-For"
  let header :=
    if prior ≠ [] then out.header.set "X-Forwarded-For" (prior ++ bytes ", " ++ client)
    else out.header.set "X-Forwarded-For" client
  let header := header.set "X-Forwarded-Proto" (bytes (if inbound.tls then "https" else "http"))
  let header :=
    if inbound.host ≠ [] then header.set "X-Forwarded-Host" inbound.host else header
  let requestID := inbound.header.get "X-Request-ID"
  let header := header.set "X-Request-ID" (if requestID = [] then newString else requestID)
  ⟨⟨u.scheme, u.host⟩, header⟩

/-! ## Host and port -/

theorem indexByte_eq_some {s : Bytes} {c : UInt8} {i : Nat} :
    indexByte s c = some i ↔ ∃ a b, s = a ++ c :: b ∧ c ∉ a ∧ a.length = i := by
  induction s generalizing i with
  | nil => simp [indexByte]
  | cons x s ih =>
    unfold indexByte at ih ⊢
    rw [List.idxOf?_cons]
    by_cases here : x = c
    · subst here
      simp only [beq_self_eq_true, if_true, Option.some.injEq]
      constructor
      · rintro rfl
        exact ⟨[], s, rfl, by simp, rfl⟩
      · rintro ⟨a, b, same, fresh, rfl⟩
        cases a with
        | nil => rfl
        | cons y a =>
          cases same
          simp at fresh
    · simp only [beq_iff_eq, here, if_false, Option.map_eq_some_iff, ih]
      constructor
      · rintro ⟨_, ⟨a, b, rfl, fresh, rfl⟩, rfl⟩
        exact ⟨x :: a, b, rfl, by simp [fresh, Ne.symm here], rfl⟩
      · rintro ⟨a, b, same, fresh, rfl⟩
        cases a with
        | nil =>
          cases same
          exact absurd rfl here
        | cons y a =>
          cases same
          exact ⟨a.length, ⟨a, b, rfl, fun mem => fresh (List.mem_cons_of_mem _ mem), rfl⟩, rfl⟩

theorem lastIndexByte_eq_some {s : Bytes} {c : UInt8} {i : Nat} :
    lastIndexByte s c = some i ↔ ∃ a b, s = a ++ c :: b ∧ c ∉ b ∧ a.length = i := by
  unfold lastIndexByte
  rw [Option.map_eq_some_iff]
  constructor
  · rintro ⟨j, hj, rfl⟩
    obtain ⟨b, a, same, fresh, rfl⟩ := indexByte_eq_some.mp hj
    have turned : s = a.reverse ++ c :: b.reverse := by
      rw [← List.reverse_reverse s, same]
      simp
    refine ⟨a.reverse, b.reverse, turned, by simpa using fresh, ?_⟩
    rw [turned]
    simp only [List.length_append, List.length_reverse, List.length_cons]
    omega
  · rintro ⟨a, b, rfl, fresh, rfl⟩
    refine ⟨b.length, indexByte_eq_some.mpr ⟨b.reverse, a.reverse, by simp, by simpa using fresh,
      by simp⟩, ?_⟩
    simp only [List.length_append, List.length_cons]
    omega

/-- The address is `host:port`, or `[host]:port` with any colons in the host. -/
structure HostPort (a host port : Bytes) : Prop where
  portPlain : 58 ∉ port ∧ 91 ∉ port ∧ 93 ∉ port
  hostPlain : 91 ∉ host ∧ 93 ∉ host
  joined : 58 ∉ host ∧ a = host ++ 58 :: port ∨ a = 91 :: (host ++ 93 :: 58 :: port)

theorem splitAtColon_eq_some {a host host' port : Bytes} {i j k : Nat} :
    splitAtColon a host i j k = some (host', port) ↔
      91 ∉ a.drop j ∧ 93 ∉ a.drop k ∧ host = host' ∧ a.drop (i + 1) = port := by
  unfold splitAtColon
  by_cases opened : 91 ∈ a.drop j
  · simp [opened]
  · by_cases closed : 93 ∈ a.drop k
    · simp [opened, closed]
    · simp [opened, closed]

theorem splitHostPort_host {a host port : Bytes} (h : splitHostPort a = some (host, port)) :
    HostPort a host port := by
  unfold splitHostPort at h
  split at h
  · cases h
  · rename_i i last
    obtain ⟨x, y, rfl, late, rfl⟩ := lastIndexByte_eq_some.mp last
    split at h
    · rename_i opens
      split at h
      · cases h
      · rename_i e bracket
        obtain ⟨p, q, same, early, rfl⟩ := indexByte_eq_some.mp bracket
        split at h
        · cases h
        · split at h
          · rename_i next
            have aligned : (p ++ [93]) ++ q = x ++ 58 :: y := by simpa using same.symm
            obtain ⟨rfl, rfl⟩ := List.append_inj aligned (by simpa using next)
            cases p with
            | nil => simp at opens
            | cons b p =>
              obtain rfl : b = 91 := by simpa using opens
              obtain ⟨opened, closed, rfl, rfl⟩ := splitAtColon_eq_some.mp h
              have whole : 91 :: p ++ [93] ++ 58 :: y = 91 :: (p ++ 93 :: 58 :: y) := by simp
              rw [whole] at opened closed ⊢
              have port : (91 :: (p ++ 93 :: 58 :: y)).drop ((91 :: p ++ [93]).length + 1) = y := by
                simp
              have host : ((91 :: (p ++ 93 :: 58 :: y)).take (91 :: p).length).drop 1 = p := by
                simp
              rw [port, host]
              simp only [List.drop_succ_cons, List.drop_zero, List.mem_append, List.mem_cons,
                not_or] at opened
              have after : (91 :: (p ++ 93 :: 58 :: y)).drop ((91 :: p).length + 1) = 58 :: y := by
                simp
              rw [after, List.mem_cons, not_or] at closed
              rw [List.mem_cons, not_or] at early
              exact ⟨⟨late, opened.2.2.2, closed.2⟩, ⟨opened.1, early.2⟩, .inr rfl⟩
          · cases h
    · rename_i plain
      split at h
      · cases h
      · rename_i single
        obtain ⟨opened, closed, rfl, rfl⟩ := splitAtColon_eq_some.mp h
        have port : (x ++ 58 :: y).drop (x.length + 1) = y := by simp
        rw [port, List.take_left]
        rw [List.take_left] at single
        simp only [List.drop_zero, List.mem_append, List.mem_cons, not_or] at opened closed
        exact ⟨⟨late, opened.2.2, closed.2.2⟩, ⟨opened.1, closed.1⟩, .inl ⟨single, rfl⟩⟩

theorem HostPort.split {a host port : Bytes} (h : HostPort a host port) :
    splitHostPort a = some (host, port) := by
  obtain ⟨⟨late, opened, closed⟩, ⟨opened', closed'⟩, ⟨single, rfl⟩ | rfl⟩ := h
  · have last := lastIndexByte_eq_some.mpr ⟨host, port, rfl, late, rfl⟩
    have head : (host ++ 58 :: port).head? ≠ some 91 := by
      cases host with
      | nil => simp
      | cons b host =>
        rw [List.mem_cons, not_or] at opened'
        simpa using Ne.symm opened'.1
    unfold splitHostPort
    simp only [last, if_neg head, List.take_left, if_neg single]
    rw [splitAtColon_eq_some]
    simp [opened, opened', closed, closed']
  · have last : lastIndexByte (91 :: (host ++ 93 :: 58 :: port)) 58 = some (host.length + 2) :=
      lastIndexByte_eq_some.mpr ⟨91 :: host ++ [93], port, by simp, late, by simp⟩
    have bracket : indexByte (91 :: (host ++ 93 :: 58 :: port)) 93 = some (host.length + 1) :=
      indexByte_eq_some.mpr ⟨91 :: host, 58 :: port, rfl, by simp [closed'], rfl⟩
    have inside : ¬ host.length + 1 + 1 = (91 :: (host ++ 93 :: 58 :: port)).length := by
      simp
    unfold splitHostPort
    simp only [last, bracket, if_neg inside, List.head?_cons, if_true]
    rw [splitAtColon_eq_some]
    simp [opened, opened', closed]

/-- The host part where the address is `host:port`, else all of it. -/
def ClientAddress (a client : Bytes) : Prop :=
  (∃ port, HostPort a client port) ∨ (∀ host port, ¬ HostPort a host port) ∧ client = a

theorem clientAddress_iff {a client : Bytes} : ClientAddress a client ↔ client = clientIP a := by
  unfold ClientAddress clientIP
  cases h : splitHostPort a with
  | none =>
    have never (host port : Bytes) : ¬ HostPort a host port := by
      intro split
      rw [split.split] at h
      cases h
    simp [never]
  | some found =>
    obtain ⟨host, port⟩ := found
    have split := splitHostPort_host h
    constructor
    · rintro (⟨port', other⟩ | ⟨never, -⟩)
      · rw [other.split] at h
        cases h
        rfl
      · exact absurd split (never host port)
    · rintro rfl
      exact .inl ⟨port, split⟩

example : clientIP (bytes "[2001:db8::1]:4711") = bytes "2001:db8::1" := by decide

/-! ## Comma-separated lists -/

def isOWS (c : UInt8) : Bool := c == 32 || c == 9

def trimOWS (s : Bytes) : Bytes := ((s.dropWhile isOWS).reverse.dropWhile isOWS).reverse

/-- The elements of a list-valued header line. -/
def elements (line : Bytes) : List Bytes := (line.splitOn 44).map trimOWS

theorem elements_ne_nil (line : Bytes) : elements line ≠ [] := by
  simp [elements]

theorem elements_comma (a b : Bytes) : elements (a ++ 44 :: b) = elements a ++ elements b := by
  rw [elements, List.splitOn_append_cons_self, List.map_append, ← elements, ← elements]

/-- Blanks after a comma do not count. -/
theorem elements_space (line : Bytes) : elements (32 :: line) = elements line := by
  have trim (s : Bytes) : trimOWS (32 :: s) = trimOWS s := by simp [trimOWS, isOWS]
  rw [elements, elements, List.splitOn_cons_eq_if_modifyHead, if_neg (by decide)]
  cases line.splitOn 44 with
  | nil => rfl
  | cons s rest => rw [List.modifyHead_cons, List.map_cons, List.map_cons, trim]

theorem length_trimOWS_le (s : Bytes) : (trimOWS s).length ≤ s.length := by
  rw [trimOWS, List.length_reverse]
  have outer := (List.dropWhile_sublist (l := (s.dropWhile isOWS).reverse) isOWS).length_le
  have inner := (List.dropWhile_sublist (l := s) isOWS).length_le
  rw [List.length_reverse] at outer
  omega

theorem elements_plain {line : Bytes} (plain : 44 ∉ line) : elements line = [trimOWS line] := by
  rw [elements, List.splitOn_eq_singleton plain, List.map_singleton]

/-- A line whose last element is the whole line has no other element. -/
theorem elements_last {line : Bytes} {before : List Bytes}
    (h : elements line = before ++ [line]) : 44 ∉ line ∧ trimOWS line = line ∧ before = [] := by
  by_cases comma : 44 ∈ line
  · exfalso
    obtain ⟨b, a, turned, plain⟩ := List.eq_append_cons_of_mem (List.mem_reverse.mpr comma)
    have split : line = a.reverse ++ 44 :: b.reverse := by
      rw [← List.reverse_reverse line, turned]
      simp
    have last : elements line = elements a.reverse ++ [trimOWS b.reverse] := by
      conv_lhs => rw [split]
      rw [elements_comma, elements_plain (mt List.mem_reverse.mp plain)]
    have same : trimOWS b.reverse = line :=
      (List.append_inj' (last.symm.trans h) rfl).2 |> List.singleton_inj.mp
    have short := length_trimOWS_le b.reverse
    rw [same, split] at short
    simp only [List.length_append, List.length_cons, List.length_reverse] at short
    omega
  · rw [elements_plain comma] at h
    cases before with
    | nil => exact ⟨comma, List.singleton_inj.mp h, rfl⟩
    | cons x before => simp at h

/-- The elements of all lines that are not empty. -/
def chain (lines : List Bytes) : List Bytes := (lines.filter (· ≠ [])).flatMap elements

theorem chain_append (lines more : List Bytes) : chain (lines ++ more) = chain lines ++ chain more := by
  rw [chain, List.filter_append, List.flatMap_append, ← chain, ← chain]

theorem chain_eq_nil {lines : List Bytes} : chain lines = [] ↔ ∀ line ∈ lines, line = [] := by
  simp [chain, List.flatMap_eq_nil_iff, elements_ne_nil]

/-! ## The forwarding chain -/

/-- The value the rewrite sets. -/
def forwardedFor (inbound : InboundRequest) : Bytes :=
  if inbound.header.get "X-Forwarded-For" ≠ [] then
    inbound.header.get "X-Forwarded-For" ++ bytes ", " ++ clientIP inbound.remoteAddr
  else clientIP inbound.remoteAddr

theorem canonical_forwardedFor : canonicalMIMEHeaderKey "X-Forwarded-For" = "X-Forwarded-For" := by
  decide

theorem rewrite_forwardedFor (u : URL) (newString : Bytes) (inbound : InboundRequest)
    (out : OutboundRequest) :
    (rewrite u newString inbound out).header.values "X-Forwarded-For" = [forwardedFor inbound] := by
  have proto : "X-Forwarded-For" ≠ canonicalMIMEHeaderKey "X-Forwarded-Proto" := by decide
  have host : "X-Forwarded-For" ≠ canonicalMIMEHeaderKey "X-Forwarded-Host" := by decide
  have id : "X-Forwarded-For" ≠ canonicalMIMEHeaderKey "X-Request-ID" := by decide
  unfold rewrite forwardedFor
  simp only
  rw [Header.values_set_of_ne _ _ id]
  have named (h : Header) :
      (if inbound.host ≠ [] then h.set "X-Forwarded-Host" inbound.host else h).values
        "X-Forwarded-For" = h.values "X-Forwarded-For" := by
    split
    · exact Header.values_set_of_ne _ _ host
    · rfl
  rw [named, Header.values_set_of_ne _ _ proto]
  split
  · exact Header.values_set_self _ _ canonical_forwardedFor
  · exact Header.values_set_self _ _ canonical_forwardedFor

theorem elements_forwardedFor (inbound : InboundRequest) :
    elements (forwardedFor inbound) =
      chain ((inbound.header.values "X-Forwarded-For").take 1) ++
        elements (clientIP inbound.remoteAddr) := by
  have comma (a b : Bytes) : a ++ bytes ", " ++ b = a ++ 44 :: 32 :: b := by
    have blank : bytes ", " = [44, 32] := by decide
    rw [blank]
    simp
  have first : inbound.header.get "X-Forwarded-For" =
      (inbound.header.values "X-Forwarded-For").head?.getD [] := by
    rw [Header.get, canonical_forwardedFor]
  unfold forwardedFor
  rw [first]
  cases inbound.header.values "X-Forwarded-For" with
  | nil => simp [chain]
  | cons line rest =>
    rw [List.head?_cons, Option.getD_some, List.take_succ_cons, List.take_zero]
    by_cases given : line = []
    · simp [chain, given]
    · rw [if_pos given, comma, elements_comma, elements_space]
      simp [chain, given]

/-- The outbound lines carry on the chain of the inbound ones. -/
def Chained (inbound : InboundRequest) (out : OutboundRequest) : Prop :=
  ∃ client value, ClientAddress inbound.remoteAddr client ∧
    out.header.values "X-Forwarded-For" = [value] ∧
    elements value = chain (inbound.header.values "X-Forwarded-For") ++ [client]

/-- `Header.Get` reads the first line only, so the chain is whole exactly if
no further line says anything and the client's address is one element. -/
theorem rewrite_chained_iff (u : URL) (newString : Bytes) (inbound : InboundRequest)
    (out : OutboundRequest) :
    Chained inbound (rewrite u newString inbound out) ↔
      (∀ line ∈ (inbound.header.values "X-Forwarded-For").drop 1, line = []) ∧
      ∃ client, ClientAddress inbound.remoteAddr client ∧ 44 ∉ client ∧ trimOWS client = client := by
  have lines := List.take_append_drop 1 (inbound.header.values "X-Forwarded-For")
  have whole : chain (inbound.header.values "X-Forwarded-For") =
      chain ((inbound.header.values "X-Forwarded-For").take 1) ++
        chain ((inbound.header.values "X-Forwarded-For").drop 1) := by
    rw [← chain_append, lines]
  have value := rewrite_forwardedFor u newString inbound out
  have parts := elements_forwardedFor inbound
  constructor
  · rintro ⟨client, _, address, single, same⟩
    obtain rfl := clientAddress_iff.mp address
    rw [value, List.singleton_inj] at single
    subst single
    rw [parts, whole, List.append_assoc, List.append_cancel_left_eq] at same
    obtain ⟨plain, trimmed, silent⟩ := elements_last same
    exact ⟨chain_eq_nil.mp silent, _, address, plain, trimmed⟩
  · rintro ⟨silent, client, address, plain, trimmed⟩
    refine ⟨client, _, address, value, ?_⟩
    obtain rfl := clientAddress_iff.mp address
    rw [parts, whole, chain_eq_nil.mpr silent, elements_plain plain, trimmed, List.append_nil]

/-- A request that has come through two proxies, each with a line of its own. -/
def twoHops : InboundRequest where
  remoteAddr := bytes "192.0.2.1:1234"
  tls := false
  host := bytes "example.com"
  header := ⟨fun key =>
    if key = "X-Forwarded-For" then [bytes "203.0.113.7", bytes "198.51.100.2"] else []⟩

/-- Its second hop is dropped. -/
theorem rewrite_drops_hop :
    ¬ ∀ (u : URL) (newString : Bytes) (inbound : InboundRequest) (out : OutboundRequest),
      Chained inbound (rewrite u newString inbound out) := by
  intro always
  obtain ⟨client, value, -, single, same⟩ :=
    always ⟨"http", "10.0.0.1:9000"⟩ [] twoHops ⟨⟨"", ""⟩, ⟨fun _ => []⟩⟩
  rw [rewrite_forwardedFor, List.singleton_inj] at single
  subst single
  have hops := congrArg List.length same
  rw [List.length_append, List.length_singleton] at hops
  revert hops
  decide

end TorusProxy
