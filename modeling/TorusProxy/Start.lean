import TorusProxy.Runtime

/-! `Server.Start`. Its stores to `state` and `ready` before `Serve` are not
under `runtimeMu` and do not look at the current state. -/
namespace TorusProxy

inductive StartPC
  | load
  /-- The mux, the base context and `s.srv`. -/
  | assignSrv (rt : Rid)
  | listen (rt : Rid)
  | listenReady (rt : Rid) (err : Error)
  | listenState (rt : Rid) (err : Error)
  | listenCancel (rt : Rid) (err : Error)
  | listenStop (rt : Rid) (err : Error) (pc : StopPC)
  /-- `s.ready.Store(true)` and `s.state.Store(serverRunning)`. -/
  | storeReady (rt : Rid)
  | storeState (rt : Rid)
  | serve
  | serving
  /-- The path after an unexpected error of `Serve`. -/
  | failLock (err : Error)
  | failLocking (err : Error)
  | failCheck (err : Error)
  | failReady (err : Error)
  | failState (err : Error)
  | failLoad (err : Error)
  | failUnlock (rt : Rid) (err : Error)
  | failCancel (rt : Rid) (err : Error)
  | failStop (rt : Rid) (err : Error) (pc : StopPC)
  | failSkip (err : Error)
  /-- Returned after it retired `rt` itself. -/
  | retired (rt : Rid) (err : Error)
  | returned (err : Option Error)
  deriving DecidableEq, Repr

/-- The routes of `Start`: `/metrics` only for an observed runtime. -/
def newMux (observabilityEnabled : Bool) : ServeMux Endpoint :=
  let mux := ServeMux.new.handle (bytes "/") .proxy
  let mux := if observabilityEnabled then mux.handle (bytes "/metrics") .metrics else mux
  mux.handle (bytes "/readyz") .readyz

def start (sh : Shared) (c : Choice) : StartPC → Option (Shared × StartPC)
  | .load => some (sh, .assignSrv sh.server.runtime)
  | .assignSrv rt =>
    -- one call of Start: there is no older server whose connections it could lose
    some (sh.setServer (fun s =>
      { s with
        mux := newMux (sh.heap rt).observabilityEnabled
        srv := { s.srv with assigned := true }
        forceCancel := some false }), .listen rt)
  | .listen rt =>
    match c with
    | .ok =>
      some (sh.setServer ({ · with listener := some (sh.heap rt).tlsConfig }), .storeReady rt)
    | .fail message => some (sh, .listenReady rt (.text message))
    | _ => none
  | .listenReady rt err => some (sh.setServer ({ · with ready := false }), .listenState rt err)
  | .listenState rt err => some (sh.setServer ({ · with state := .stopped }), .listenCancel rt err)
  | .listenCancel rt err =>
    some (sh.setServer (fun s => { s with forceCancel := s.forceCancel.map fun _ => true }),
      .listenStop rt err .cancel)
  | .listenStop _ err .done => some (sh, .returned (some err))
  | .listenStop rt err pc => (stop sh rt pc).map fun (sh', pc') => (sh', .listenStop rt err pc')
  | .storeReady rt => some (sh.setServer ({ · with ready := true }), .storeState rt)
  | .storeState _ => some (sh.setServer ({ · with state := .running }), .serve)
  | .serve =>
    if sh.server.srv.inShutdown then some (sh, .returned none)
    else some (sh.setServer (fun s => { s with srv := { s.srv with serving := true } }), .serving)
  | .serving =>
    match c with
    | .ok => if sh.server.srv.inShutdown then some (sh, .returned none) else none
    | .fail message => some (sh, .failLock (.text message))
    | _ => none
  | .failLock err => (sh.tryMu RWMutex.announce).map (·, .failLocking err)
  | .failLocking err => (sh.tryMu RWMutex.lock).map (·, .failCheck err)
  | .failCheck err => some (sh, if sh.server.state = .running then .failReady err else .failSkip err)
  | .failReady err => some (sh.setServer ({ · with ready := false }), .failState err)
  | .failState err => some (sh.setServer ({ · with state := .stopped }), .failLoad err)
  | .failLoad err => some (sh, .failUnlock sh.server.runtime err)
  | .failUnlock rt err => some (sh.unlock, .failCancel rt err)
  | .failCancel rt err =>
    some (sh.setServer (fun s => { s with forceCancel := s.forceCancel.map fun _ => true }),
      .failStop rt err .cancel)
  | .failStop rt err .done => some (sh, .retired rt err)
  | .failStop rt err pc => (stop sh rt pc).map fun (sh', pc') => (sh', .failStop rt err pc')
  | .failSkip err => some (sh.unlock, .returned (some err))
  | .retired _ _ | .returned _ => none

namespace StartPC

def hold : StartPC → RWMutex.Hold
  | .failLocking _ => .announced
  | .failCheck _ | .failReady _ | .failState _ | .failLoad _ | .failUnlock _ _ | .failSkip _ =>
    .writer
  | _ => .none

/-- Before `Serve` is called: the server is not running by this call's doing. -/
def booting : StartPC → Bool
  | .load | .assignSrv _ | .listen _ | .listenReady _ _ | .listenState _ _ | .listenCancel _ _
  | .listenStop _ _ _ | .storeReady _ | .storeState _ => true
  | _ => false

end StartPC

/-- Everything one step of the start can do. -/
inductive StartMove (sh : Shared) : StartPC → Shared → StartPC → Prop
  | load : StartMove sh .load sh (.assignSrv sh.server.runtime)
  | assignSrv (rt : Rid) :
      StartMove sh (.assignSrv rt)
        (sh.setServer (fun s =>
          { s with
            mux := newMux (sh.heap rt).observabilityEnabled
            srv := { s.srv with assigned := true }
            forceCancel := some false }))
        (.listen rt)
  | listened (rt : Rid) :
      StartMove sh (.listen rt) (sh.setServer ({ · with listener := some (sh.heap rt).tlsConfig }))
        (.storeReady rt)
  | listenFailed (rt : Rid) (err : Error) : StartMove sh (.listen rt) sh (.listenReady rt err)
  | listenReady (rt : Rid) (err : Error) :
      StartMove sh (.listenReady rt err) (sh.setServer ({ · with ready := false }))
        (.listenState rt err)
  | listenState (rt : Rid) (err : Error) :
      StartMove sh (.listenState rt err) (sh.setServer ({ · with state := .stopped }))
        (.listenCancel rt err)
  | listenCancel (rt : Rid) (err : Error) :
      StartMove sh (.listenCancel rt err)
        (sh.setServer (fun s => { s with forceCancel := s.forceCancel.map fun _ => true }))
        (.listenStop rt err .cancel)
  | listenStop {sh' : Shared} {p p' : StopPC} (rt : Rid) (err : Error)
      (move : StopMove sh rt p sh' p') : StartMove sh (.listenStop rt err p) sh' (.listenStop rt err p')
  | listenStopped (rt : Rid) (err : Error) :
      StartMove sh (.listenStop rt err .done) sh (.returned (some err))
  | storeReady (rt : Rid) :
      StartMove sh (.storeReady rt) (sh.setServer ({ · with ready := true })) (.storeState rt)
  | storeState (rt : Rid) :
      StartMove sh (.storeState rt) (sh.setServer ({ · with state := .running })) .serve
  | serve (h : sh.server.srv.inShutdown = false) :
      StartMove sh .serve
        (sh.setServer (fun s => { s with srv := { s.srv with serving := true } })) .serving
  | closed {pc : StartPC} (h : sh.server.srv.inShutdown = true)
      (site : pc = .serve ∨ pc = .serving) : StartMove sh pc sh (.returned none)
  | failed (err : Error) : StartMove sh .serving sh (.failLock err)
  | failLock {sh' : Shared} (err : Error) (h : sh.tryMu RWMutex.announce = some sh') :
      StartMove sh (.failLock err) sh' (.failLocking err)
  | failLocking {sh' : Shared} (err : Error) (h : sh.tryMu RWMutex.lock = some sh') :
      StartMove sh (.failLocking err) sh' (.failCheck err)
  | failOwn (err : Error) (h : sh.server.state = .running) :
      StartMove sh (.failCheck err) sh (.failReady err)
  | failLeave (err : Error) (h : sh.server.state ≠ .running) :
      StartMove sh (.failCheck err) sh (.failSkip err)
  | failReady (err : Error) :
      StartMove sh (.failReady err) (sh.setServer ({ · with ready := false })) (.failState err)
  | failState (err : Error) :
      StartMove sh (.failState err) (sh.setServer ({ · with state := .stopped })) (.failLoad err)
  | failLoad (err : Error) : StartMove sh (.failLoad err) sh (.failUnlock sh.server.runtime err)
  | failUnlock (rt : Rid) (err : Error) :
      StartMove sh (.failUnlock rt err) sh.unlock (.failCancel rt err)
  | failCancel (rt : Rid) (err : Error) :
      StartMove sh (.failCancel rt err)
        (sh.setServer (fun s => { s with forceCancel := s.forceCancel.map fun _ => true }))
        (.failStop rt err .cancel)
  | failStop {sh' : Shared} {p p' : StopPC} (rt : Rid) (err : Error)
      (move : StopMove sh rt p sh' p') : StartMove sh (.failStop rt err p) sh' (.failStop rt err p')
  | failStopped (rt : Rid) (err : Error) :
      StartMove sh (.failStop rt err .done) sh (.retired rt err)
  | failSkip (err : Error) : StartMove sh (.failSkip err) sh.unlock (.returned (some err))

section
variable {sh sh' : Shared} {pc pc' : StartPC} {c : Choice}

theorem start_move (h : start sh c pc = some (sh', pc')) : StartMove sh pc sh' pc' := by
  cases pc with
  | listen rt =>
    simp only [start] at h
    split at h <;> cases h
    · exact .listened rt
    · exact .listenFailed rt _
  | serve =>
    simp only [start] at h
    split at h <;> cases h
    · rename_i closed; exact .closed closed (.inl rfl)
    · rename_i live; exact .serve (by simpa using live)
  | serving =>
    simp only [start] at h
    split at h
    · split at h
      · rename_i closed
        cases h
        exact .closed closed (.inr rfl)
      · cases h
    · cases h
      exact .failed _
    · cases h
  | failLock err =>
    obtain ⟨sh₁, hmu, he⟩ := Option.map_eq_some_iff.mp h
    cases he
    exact .failLock err hmu
  | failLocking err =>
    obtain ⟨sh₁, hmu, he⟩ := Option.map_eq_some_iff.mp h
    cases he
    exact .failLocking err hmu
  | failCheck err =>
    cases h
    split
    · rename_i running; exact .failOwn err running
    · rename_i idle; exact .failLeave err idle
  | listenStop rt err p =>
    cases p with
    | done => cases h; exact .listenStopped rt err
    | cancel | waitRequests | waitWorkers =>
      simp only [start, Option.map_eq_some_iff] at h
      obtain ⟨⟨sh₁, p₁⟩, hs, he⟩ := h
      cases he
      exact .listenStop rt err (stop_move hs)
  | failStop rt err p =>
    cases p with
    | done => cases h; exact .failStopped rt err
    | cancel | waitRequests | waitWorkers =>
      simp only [start, Option.map_eq_some_iff] at h
      obtain ⟨⟨sh₁, p₁⟩, hs, he⟩ := h
      cases he
      exact .failStop rt err (stop_move hs)
  | load => cases h; exact .load
  | assignSrv rt => cases h; exact .assignSrv rt
  | listenReady rt err => cases h; exact .listenReady rt err
  | listenState rt err => cases h; exact .listenState rt err
  | listenCancel rt err => cases h; exact .listenCancel rt err
  | storeReady rt => cases h; exact .storeReady rt
  | storeState rt => cases h; exact .storeState rt
  | failReady err => cases h; exact .failReady err
  | failState err => cases h; exact .failState err
  | failLoad err => cases h; exact .failLoad err
  | failUnlock rt err => cases h; exact .failUnlock rt err
  | failCancel rt err => cases h; exact .failCancel rt err
  | failSkip err => cases h; exact .failSkip err
  | retired rt err | returned err => cases h

theorem StartMove.turn (h : StartMove sh pc sh' pc') :
    RWMutex.Turn sh.server.runtimeMu sh'.server.runtimeMu pc.hold pc'.hold := by
  cases h with
  | failLock err h =>
    obtain ⟨m, hm, rfl⟩ := Shared.tryMu_eq_some.mp h
    exact .announce hm
  | failLocking err h =>
    obtain ⟨m, hm, rfl⟩ := Shared.tryMu_eq_some.mp h
    exact .lock hm
  | failUnlock | failSkip => exact .unlock rfl
  | closed h site => obtain rfl | rfl := site <;> exact .same _ rfl
  | listenStop rt err move => rw [move.server]; exact .same _ rfl
  | failStop rt err move => rw [move.server]; exact .same _ rfl
  | _ => exact .same _ rfl

end
end TorusProxy
