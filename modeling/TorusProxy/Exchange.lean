import TorusProxy.Handler

/-! The response of one request: `net/http`'s writer, the two writers that note its
status (`middleware.statusRecorder` around the logging middleware's
`responseWriter`), and the reverse proxy that writes to them. -/
namespace TorusProxy

/-- What `net/http` has of a response. -/
structure Response where
  /-- The informational status lines. They are sent at once. -/
  interim : List Nat
  /-- The status line, once it is written. -/
  status : Option Nat
  /-- What was written has left the buffer. -/
  flushed : Bool
  deriving DecidableEq, Repr

namespace Response

/-- The status line the client was sent. -/
def sent (r : Response) : Option Nat := if r.flushed then r.status else none

/-- `WriteHeader`; none where it panics. -/
def writeHeader (r : Response) (code : Nat) : Option Response :=
  -- superfluous
  if r.status.isSome then some r
  -- `checkWriteHeaderCode`
  else if code < 100 ∨ 999 < code then none
  else if code ≤ 199 ∧ code ≠ 101 then some { r with interim := r.interim ++ [code] }
  else some { r with status := some code }

/-- The handler has returned: 200 where it has written nothing, and the buffer goes out. -/
def finish (r : Response) : Response := { r with status := some (r.status.getD 200), flushed := true }

end Response

/-- `httputil.ReverseProxy.ServeHTTP`. -/
inductive ProxyPC
  | serveHTTP
  | roundTrip
  | copyResponse
  | returned
  | panicked
  deriving DecidableEq, Repr

/-- A round trip that has come back to its `instrumentedTransport`. -/
structure RoundTrip where
  backend : String
  enabled : Bool
  err : Bool
  deriving DecidableEq, Repr

structure Exchange where
  /-- `statusRecorder.status`. -/
  recorder : Nat
  /-- `responseWriter.statusCode`. -/
  wrapped : Nat
  response : Response
  proxy : ProxyPC
  /-- History. No step reads it. -/
  trip : Option RoundTrip
  /-- The status of the log line. -/
  logged : Option Nat
  deriving DecidableEq, Repr

/-- What the client, the backend and the network do to the proxy. -/
inductive ProxyEvent
  /-- The client asks for a protocol whose name is not printable. -/
  | invalidUpgrade
  | send
  /-- `Got1xxResponse`. -/
  | interim (code : Nat)
  /-- `RoundTrip` returns an error, -/
  | failed
  /-- or a response. -/
  | response (code : Nat)
  /-- A part of the body fills the buffer of the response. -/
  | overflow
  /-- The body is copied, or breaks off. -/
  | copied
  | broken
  deriving DecidableEq, Repr

/-- The transport has come back, with or without an error. -/
def ProxyEvent.tripped : ProxyEvent → Option Bool
  | .failed => some true
  | .response _ => some false
  | _ => none

/-- A response that another one follows. -/
def informational (code : Nat) : Bool := 100 ≤ code && code ≤ 199 && code != 101

namespace Exchange

/-- `NewStatusRecorder` around the middleware's writer. -/
def new : Exchange := ⟨200, 200, ⟨[], none, false⟩, .serveHTTP, none, none⟩

/-- `rec.WriteHeader`: both writers note the code before they pass it on. -/
def writeHeader (x : Exchange) (code : Nat) (next : ProxyPC) : Exchange :=
  match x.response.writeHeader code with
  | some r => { x with recorder := code, wrapped := code, response := r, proxy := next }
  | none => { x with recorder := code, wrapped := code, proxy := .panicked }

/-- The `ErrorHandler` of a backend. -/
def badGateway (x : Exchange) : Exchange := x.writeHeader 502 .returned

/-- `instrumentedTransport.RoundTrip` after its base has returned. -/
def roundTripped (x : Exchange) (backend : Backend) (err : Bool) : Exchange :=
  { x with trip := some ⟨backend.url, backend.observabilityEnabled, err⟩ }

/-- One step of `ServeHTTP` on a backend. -/
def reverseProxy (backend : Backend) (x : Exchange) (e : ProxyEvent) : Option Exchange :=
  match x.proxy, e with
  | .serveHTTP, .invalidUpgrade => some x.badGateway
  | .serveHTTP, .send => some { x with proxy := .roundTrip }
  | .roundTrip, .interim code =>
    if informational code then some (x.writeHeader code .roundTrip) else none
  | .roundTrip, .failed => some (x.roundTripped backend true).badGateway
  | .roundTrip, .response code =>
    if informational code || 999 < code then none
    -- the recorder is no `Hijacker` and does not unwrap
    else if code = 101 then some (x.roundTripped backend false).badGateway
    else some ((x.roundTripped backend false).writeHeader code .copyResponse)
  | .copyResponse, .overflow => some { x with response := { x.response with flushed := true } }
  | .copyResponse, .copied => some { x with proxy := .returned }
  -- `panic(http.ErrAbortHandler)`
  | .copyResponse, .broken => some { x with proxy := .panicked }
  | _, _ => none

/-- How `transport.Forward` ends. -/
def forwarded (x : Exchange) : Option Choice :=
  match x.proxy with
  | .returned => some (.status x.recorder)
  | .panicked => some (.abort x.recorder)
  | _ => none

/-- The rest of `LoggingMiddleware` and of `net/http`: a panic passes through the
first, and the second closes the connection on it and drops what the response
has buffered. -/
def finish (x : Exchange) : Exchange :=
  if x.proxy = .panicked then x
  else { x with logged := some x.wrapped, response := x.response.finish }

/-- What the step of `httpHandler` from this place does to the response. -/
def handled (x : Exchange) : HandlerPC → Exchange
  | .notFound _ _ => x.writeHeader 404 .serveHTTP
  | .unavailable _ _ => x.writeHeader 503 .serveHTTP
  | .exit _ => x.finish
  | _ => x

end Exchange

/-! ## What the writers have noted -/

namespace Exchange

/-- The final status is written, and both writers have noted it, unless the writer
below has panicked on it. -/
structure Settled (x : Exchange) : Prop where
  wrapped : x.wrapped = x.recorder
  written : x.response.status = some x.recorder ∨
    x.response.status = none ∧ x.proxy = .panicked ∧ x.recorder < 100
  proper : x.recorder ≠ 101
  failed : ∀ trip ∈ x.trip, trip.err = true →
    x.response.status = some 502 ∧ x.proxy = .returned

/-- A response the reverse proxy works on. -/
structure InProxy (x : Exchange) : Prop where
  logged : x.logged = none
  opened : x.proxy = .serveHTTP ∨ x.proxy = .roundTrip → x.response.status = none ∧ x.trip = none
  settled : x.proxy = .copyResponse ∨ x.proxy = .returned ∨ x.proxy = .panicked → x.Settled

theorem new_inProxy : new.InProxy := by
  refine ⟨rfl, fun _ => ⟨rfl, rfl⟩, ?_⟩
  rintro (h | h | h) <;> cases h

section
variable {x : Exchange} {code : Nat} {next : ProxyPC}

/-- An informational status leaves the response open. -/
theorem writeHeader_informational (next : ProxyPC) (opened : x.response.status = none)
    (interim : informational code = true) :
    ∃ r, r.status = none ∧ x.writeHeader code next =
      { x with recorder := code, wrapped := code, response := r, proxy := next } := by
  simp only [informational, Bool.and_eq_true, decide_eq_true_eq, bne_iff_ne, ne_eq] at interim
  refine ⟨{ x.response with interim := x.response.interim ++ [code] }, opened, ?_⟩
  rw [writeHeader, Response.writeHeader, if_neg (by simp [opened]), if_neg (by omega),
    if_pos ⟨interim.1.2, interim.2⟩]

/-- A final one is written, -/
theorem writeHeader_final (opened : x.response.status = none) (big : 199 < code)
    (small : code ≤ 999) :
    x.writeHeader code next =
      { x with
        recorder := code
        wrapped := code
        response := { x.response with status := some code }
        proxy := next } := by
  rw [writeHeader, Response.writeHeader, if_neg (by simp [opened]), if_neg (by omega),
    if_neg (by omega)]

/-- and one below a hundred panics. -/
theorem writeHeader_invalid (opened : x.response.status = none) (invalid : code < 100) :
    x.writeHeader code next =
      { x with recorder := code, wrapped := code, proxy := .panicked } := by
  rw [writeHeader, Response.writeHeader, if_neg (by simp [opened]), if_pos (.inl invalid)]

theorem badGateway_eq (opened : x.response.status = none) :
    x.badGateway =
      { x with
        recorder := 502
        wrapped := 502
        response := { x.response with status := some 502 }
        proxy := .returned } :=
  writeHeader_final opened (by omega) (by omega)

theorem badGateway_inProxy (opened : x.response.status = none) (unlogged : x.logged = none) :
    x.badGateway.InProxy := by
  rw [badGateway_eq opened]
  refine ⟨unlogged, ?_, fun _ => ⟨rfl, .inl rfl, by simp, fun _ _ _ => ⟨rfl, rfl⟩⟩⟩
  rintro (h | h) <;> cases h

@[simp] theorem roundTripped_same (backend : Backend) (err : Bool) :
    (x.roundTripped backend err).response = x.response ∧
      (x.roundTripped backend err).logged = x.logged := ⟨rfl, rfl⟩

/-- The status of a backend that answered. -/
theorem response_inProxy (opened : x.response.status = none) (unlogged : x.logged = none)
    (passed : ∀ trip ∈ x.trip, trip.err = false) (final : code < 100 ∨ 199 < code)
    (small : code ≤ 999) : (x.writeHeader code .copyResponse).InProxy := by
  have unfailed {P : Prop} (trip : RoundTrip) (mem : trip ∈ x.trip) (err : trip.err = true) : P := by
    rw [passed trip mem] at err
    cases err
  rcases final with invalid | big
  · rw [writeHeader_invalid opened invalid]
    refine ⟨unlogged, by simp, fun _ => ⟨rfl, .inr ⟨opened, rfl, invalid⟩, ?_, unfailed⟩⟩
    simp only
    omega
  · rw [writeHeader_final opened big small]
    refine ⟨unlogged, by simp, fun _ => ⟨rfl, .inl rfl, ?_, unfailed⟩⟩
    simp only
    omega

@[simp] theorem writeHeader_trip : (x.writeHeader code next).trip = x.trip := by
  unfold writeHeader
  split <;> rfl

/-- A request makes one round trip at most. -/
theorem InProxy.trip {x' : Exchange} {backend : Backend} {e : ProxyEvent} (h : x.InProxy)
    (hs : x.reverseProxy backend e = some x') :
    (e.tripped = none ∧ x'.trip = x.trip) ∨
      ∃ err, e.tripped = some err ∧ x.trip = none ∧
        x'.trip = some ⟨backend.url, backend.observabilityEnabled, err⟩ := by
  have opened := h.opened
  obtain ⟨recorder, wrapped, response, proxy, trip, log⟩ := x
  cases proxy with
  | roundTrip =>
    have fresh := (opened (.inr rfl)).2
    cases e with
    | interim code =>
      simp only [reverseProxy] at hs
      split at hs <;> cases hs
      exact .inl ⟨rfl, writeHeader_trip⟩
    | failed => cases hs; exact .inr ⟨true, rfl, fresh, writeHeader_trip⟩
    | response code =>
      simp only [reverseProxy] at hs
      split at hs
      · cases hs
      · split at hs <;> cases hs
        · exact .inr ⟨false, rfl, fresh, writeHeader_trip⟩
        · exact .inr ⟨false, rfl, fresh, writeHeader_trip⟩
    | invalidUpgrade | send | overflow | copied | broken => cases hs
  | serveHTTP =>
    cases e with
    | invalidUpgrade => cases hs; exact .inl ⟨rfl, writeHeader_trip⟩
    | send => cases hs; exact .inl ⟨rfl, rfl⟩
    | interim | failed | response | overflow | copied | broken => cases hs
  | copyResponse =>
    cases e with
    | overflow | copied | broken => cases hs; exact .inl ⟨rfl, rfl⟩
    | invalidUpgrade | send | interim | failed | response => cases hs
  | returned | panicked => cases e <;> cases hs

theorem InProxy.step {x' : Exchange} {backend : Backend} {e : ProxyEvent} (h : x.InProxy)
    (hs : x.reverseProxy backend e = some x') : x'.InProxy := by
  obtain ⟨logged, opened, settled⟩ := h
  obtain ⟨recorder, wrapped, response, proxy, trip, log⟩ := x
  cases proxy with
  | serveHTTP =>
    obtain ⟨open_, fresh⟩ := opened (.inl rfl)
    cases e with
    | invalidUpgrade => cases hs; exact badGateway_inProxy open_ logged
    | send =>
      cases hs
      refine ⟨logged, fun _ => ⟨open_, fresh⟩, ?_⟩
      rintro (h | h | h) <;> cases h
    | interim | failed | response | overflow | copied | broken => cases hs
  | roundTrip =>
    obtain ⟨open_, fresh⟩ := opened (.inr rfl)
    cases e with
    | interim code =>
      simp only [reverseProxy] at hs
      split at hs <;> cases hs
      rename_i interim
      obtain ⟨r, still, same⟩ := writeHeader_informational .roundTrip open_ interim
      rw [same]
      refine ⟨logged, fun _ => ⟨still, fresh⟩, ?_⟩
      rintro (h | h | h) <;> cases h
    | failed =>
      cases hs
      exact badGateway_inProxy (by simpa using open_) (by simpa using logged)
    | response code =>
      simp only [reverseProxy] at hs
      split at hs
      · cases hs
      · rename_i final
        simp only [informational, Bool.or_eq_true, Bool.and_eq_true, decide_eq_true_eq, bne_iff_ne,
          ne_eq, not_or, not_and] at final
        split at hs <;> cases hs
        · exact badGateway_inProxy (by simpa using open_) (by simpa using logged)
        · rename_i proper
          exact response_inProxy (by simpa using open_) (by simpa using logged)
            (by rintro trip ⟨⟩; rfl) (by omega) (by omega)
    | invalidUpgrade | send | overflow | copied | broken => cases hs
  | copyResponse =>
    have done := settled (.inl rfl)
    have written := done.written.resolve_right (by simp)
    -- a failed round trip has nothing to copy
    have unfailed {P : Prop} (t : RoundTrip) (mem : t ∈ trip) (err : t.err = true) : P := by
      cases (done.failed t mem err).2
    cases e with
    | overflow | copied | broken =>
      cases hs
      exact ⟨logged, by simp, fun _ => ⟨done.wrapped, .inl written, done.proper, unfailed⟩⟩
    | invalidUpgrade | send | interim | failed | response => cases hs
  | returned | panicked => cases e <;> cases hs

/-- A response of `http.Error`. -/
theorem error_settled (big : 199 < code) (small : code ≤ 999) :
    (new.writeHeader code .serveHTTP).Settled ∧
      (new.writeHeader code .serveHTTP).logged = none := by
  rw [writeHeader_final rfl big small]
  refine ⟨⟨rfl, .inl rfl, ?_, by rintro trip ⟨⟩⟩, rfl⟩
  simp only
  omega

theorem Settled.finish (h : x.Settled) : x.finish.Settled := by
  unfold Exchange.finish
  split
  · exact h
  · rename_i calm
    have written := h.written.resolve_right fun broken => calm broken.2.1
    refine ⟨h.wrapped, .inl ?_, h.proper, fun trip mem err => ?_⟩
    · simp [Response.finish, written]
    · obtain ⟨bad, returned⟩ := h.failed trip mem err
      exact ⟨by simp [Response.finish, bad], returned⟩

/-- A handler that returns is logged under the status the client was sent. -/
theorem Settled.told (h : x.Settled) (unlogged : x.logged = none) :
    (x.finish.proxy ≠ .panicked ∧ x.finish.response.sent = some x.finish.recorder ∧
        x.finish.logged = some x.finish.recorder) ∨
      (x.finish.proxy = .panicked ∧ x.finish.logged = none) := by
  unfold Exchange.finish
  split
  · rename_i panicked
    exact .inr ⟨panicked, unlogged⟩
  · rename_i calm
    have written := h.written.resolve_right fun broken => calm broken.2.1
    refine .inl ⟨calm, by simp [Response.finish, Response.sent, written], ?_⟩
    simp [h.wrapped]

end

end Exchange

end TorusProxy
