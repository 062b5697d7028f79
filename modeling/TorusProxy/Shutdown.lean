import TorusProxy.Runtime

/-! `Server.Shutdown`. The owner is the call that stores `serverShuttingDown`;
the others read its result. -/
namespace TorusProxy

inductive ShutdownPC
  | lock
  | locking
  | switch
  /-- `case serverStopped`. -/
  | readStopped
  | unlockStopped (err : Option Error)
  /-- `case serverShuttingDown`. -/
  | unlockWait
  | await
  | relock
  | relocking
  | reread
  | unlockReread (err : Option Error)
  /-- `case serverStarting, serverRunning`. -/
  | storeState
  | storeReady
  | capture
  | unlock (rt : Rid)
  | checkSrv (rt : Rid)
  /-- `s.srv.Shutdown(ctx)`: the call and its return. -/
  | graceful (rt : Rid)
  | gracefulWait (rt : Rid)
  | forceCancel (rt : Rid)
  | forced (rt : Rid)
  | forcedWait (rt : Rid)
  | stop (rt : Rid) (pc : StopPC)
  /-- The closure `complete(err)`; `rt` is the captured runtime. -/
  | completeLock (rt : Rid) (err : Option Error)
  | completeLocking (rt : Rid) (err : Option Error)
  | completeErr (rt : Rid) (err : Option Error)
  | completeState (rt : Rid) (err : Option Error)
  | completeClose (rt : Rid) (err : Option Error)
  | completeUnlock (rt : Rid) (err : Option Error)
  /-- Returned as the owner, or with the owner's result. -/
  | completed (rt : Rid) (err : Option Error)
  | returned (err : Option Error)
  /-- A second close of `shutdownDone`. -/
  | panicked (rt : Rid)
  deriving DecidableEq, Repr

def shutdown (sh : Shared) (c : Choice) : ShutdownPC → Option (Shared × ShutdownPC)
  | .lock => (sh.tryMu RWMutex.announce).map (·, .locking)
  | .locking => (sh.tryMu RWMutex.lock).map (·, .switch)
  | .switch =>
    match sh.server.state with
    | .stopped => some (sh, .readStopped)
    | .shuttingDown => some (sh, .unlockWait)
    | .starting | .running => some (sh, .storeState)
  | .readStopped => some (sh, .unlockStopped sh.server.shutdownErr)
  | .unlockStopped err => some (sh.unlock, .returned err)
  | .unlockWait => some (sh.unlock, .await)
  | .await => if sh.server.shutdownDone then some (sh, .relock) else none
  | .relock => (sh.tryMu RWMutex.announce).map (·, .relocking)
  | .relocking => (sh.tryMu RWMutex.lock).map (·, .reread)
  | .reread => some (sh, .unlockReread sh.server.shutdownErr)
  | .unlockReread err => some (sh.unlock, .returned err)
  | .storeState => some (sh.setServer ({ · with state := .shuttingDown }), .storeReady)
  | .storeReady => some (sh.setServer ({ · with ready := false }), .capture)
  | .capture => some (sh, .unlock sh.server.runtime)
  | .unlock rt => some (sh.unlock, .checkSrv rt)
  | .checkSrv rt =>
    some (sh, if sh.server.srv.assigned then .graceful rt else .stop rt .cancel)
  | .graceful rt =>
    some (sh.setServer (fun s => { s with srv := { s.srv with inShutdown := true } }),
      .gracefulWait rt)
  | .gracefulWait rt =>
    match c with
    | .ok =>
      if sh.server.srv.handlers = 0 then
        some (sh.setServer (fun s => { s with srv := { s.srv with drained := true } }),
          .stop rt .cancel)
      else none
    | .fail _ => some (sh, .forceCancel rt)
    | _ => none
  | .forceCancel rt =>
    some (sh.setServer (fun s => { s with forceCancel := s.forceCancel.map fun _ => true }),
      .forced rt)
  | .forced rt =>
    some (sh.setServer (fun s => { s with srv := { s.srv with inShutdown := true } }),
      .forcedWait rt)
  | .forcedWait rt =>
    match c with
    | .ok =>
      if sh.server.srv.handlers = 0 then
        some (sh.setServer (fun s => { s with srv := { s.srv with drained := true } }),
          .stop rt .cancel)
      else none
    | .fail message => some (sh, .completeLock rt (some (.text message)))
    | _ => none
  | .stop rt .done => some (sh, .completeLock rt none)
  | .stop rt pc => (stop sh rt pc).map fun (sh', pc') => (sh', .stop rt pc')
  | .completeLock rt err => (sh.tryMu RWMutex.announce).map (·, .completeLocking rt err)
  | .completeLocking rt err => (sh.tryMu RWMutex.lock).map (·, .completeErr rt err)
  | .completeErr rt err => some (sh.setServer ({ · with shutdownErr := err }), .completeState rt err)
  | .completeState rt none =>
    some (sh.setServer ({ · with state := .stopped }), .completeClose rt none)
  | .completeState rt (some err) => some (sh, .completeClose rt (some err))
  | .completeClose rt err =>
    if sh.server.shutdownDone then some (sh, .panicked rt)
    else some (sh.setServer ({ · with shutdownDone := true }), .completeUnlock rt err)
  | .completeUnlock rt err => some (sh.unlock, .completed rt err)
  | .completed _ _ | .returned _ | .panicked _ => none

namespace ShutdownPC

def hold : ShutdownPC → RWMutex.Hold
  | .locking | .relocking | .completeLocking _ _ => .announced
  | .switch | .readStopped | .unlockStopped _ | .unlockWait | .reread | .unlockReread _
  | .storeState | .storeReady | .capture | .unlock _ | .completeErr _ _ | .completeState _ _
  | .completeClose _ _ | .completeUnlock _ _ | .panicked _ => .writer
  | _ => .none

/-- The runtime the owner captured. -/
def captured : ShutdownPC → Option Rid
  | .unlock rt | .checkSrv rt | .graceful rt | .gracefulWait rt | .forceCancel rt | .forced rt
  | .forcedWait rt | .stop rt _ | .completeLock rt _ | .completeLocking rt _ | .completeErr rt _
  | .completeState rt _ | .completeClose rt _ | .completeUnlock rt _ | .completed rt _
  | .panicked rt => some rt
  | _ => none

/-- The runtime the owner stops, and how far it is. A failed forced shutdown
stops nothing. -/
def stopping : ShutdownPC → Option (Rid × StopPC)
  | .stop rt pc => some (rt, pc)
  | .completeLock rt none | .completeLocking rt none | .completeErr rt none
  | .completeState rt none | .completeClose rt none | .completeUnlock rt none
  | .completed rt none => some (rt, .done)
  | _ => none

end ShutdownPC

/-- Everything one step of a shutdown can do. -/
inductive ShutdownMove (sh : Shared) : ShutdownPC → Shared → ShutdownPC → Prop
  | announce {sh' : Shared} {pc pc' : ShutdownPC} (h : sh.tryMu RWMutex.announce = some sh')
      (site : pc = .lock ∧ pc' = .locking ∨ pc = .relock ∧ pc' = .relocking ∨
        ∃ rt err, pc = .completeLock rt err ∧ pc' = .completeLocking rt err) :
      ShutdownMove sh pc sh' pc'
  | take {sh' : Shared} {pc pc' : ShutdownPC} (h : sh.tryMu RWMutex.lock = some sh')
      (site : pc = .locking ∧ pc' = .switch ∨ pc = .relocking ∧ pc' = .reread ∨
        ∃ rt err, pc = .completeLocking rt err ∧ pc' = .completeErr rt err) :
      ShutdownMove sh pc sh' pc'
  | sawStopped (h : sh.server.state = .stopped) : ShutdownMove sh .switch sh .readStopped
  | sawShuttingDown (h : sh.server.state = .shuttingDown) : ShutdownMove sh .switch sh .unlockWait
  | becomeOwner (h : sh.server.state = .starting ∨ sh.server.state = .running) :
      ShutdownMove sh .switch sh .storeState
  | readStopped :
      ShutdownMove sh .readStopped sh (.unlockStopped sh.server.shutdownErr)
  | unlockStopped (err : Option Error) :
      ShutdownMove sh (.unlockStopped err) sh.unlock (.returned err)
  | unlockWait : ShutdownMove sh .unlockWait sh.unlock .await
  | await (closed : sh.server.shutdownDone = true) : ShutdownMove sh .await sh .relock
  | reread : ShutdownMove sh .reread sh (.unlockReread sh.server.shutdownErr)
  | unlockReread (err : Option Error) :
      ShutdownMove sh (.unlockReread err) sh.unlock (.returned err)
  | storeState :
      ShutdownMove sh .storeState (sh.setServer ({ · with state := .shuttingDown })) .storeReady
  | storeReady : ShutdownMove sh .storeReady (sh.setServer ({ · with ready := false })) .capture
  | capture : ShutdownMove sh .capture sh (.unlock sh.server.runtime)
  | unlock (rt : Rid) : ShutdownMove sh (.unlock rt) sh.unlock (.checkSrv rt)
  | noSrv (rt : Rid) (h : sh.server.srv.assigned = false) :
      ShutdownMove sh (.checkSrv rt) sh (.stop rt .cancel)
  | hasSrv (rt : Rid) (h : sh.server.srv.assigned = true) :
      ShutdownMove sh (.checkSrv rt) sh (.graceful rt)
  | callShutdown {pc pc' : ShutdownPC} (rt : Rid)
      (site : pc = .graceful rt ∧ pc' = .gracefulWait rt ∨ pc = .forced rt ∧ pc' = .forcedWait rt) :
      ShutdownMove sh pc
        (sh.setServer (fun s => { s with srv := { s.srv with inShutdown := true } })) pc'
  | drained {pc : ShutdownPC} (rt : Rid) (zero : sh.server.srv.handlers = 0)
      (site : pc = .gracefulWait rt ∨ pc = .forcedWait rt) :
      ShutdownMove sh pc
        (sh.setServer (fun s => { s with srv := { s.srv with drained := true } }))
        (.stop rt .cancel)
  | timeout (rt : Rid) : ShutdownMove sh (.gracefulWait rt) sh (.forceCancel rt)
  | forceCancel (rt : Rid) :
      ShutdownMove sh (.forceCancel rt)
        (sh.setServer (fun s => { s with forceCancel := s.forceCancel.map fun _ => true }))
        (.forced rt)
  | failed (rt : Rid) (message : String) :
      ShutdownMove sh (.forcedWait rt) sh (.completeLock rt (some (.text message)))
  | stop {sh' : Shared} {p p' : StopPC} (rt : Rid) (move : StopMove sh rt p sh' p') :
      ShutdownMove sh (.stop rt p) sh' (.stop rt p')
  | stopped (rt : Rid) : ShutdownMove sh (.stop rt .done) sh (.completeLock rt none)
  | completeErr (rt : Rid) (err : Option Error) :
      ShutdownMove sh (.completeErr rt err) (sh.setServer ({ · with shutdownErr := err }))
        (.completeState rt err)
  | completeStopped (rt : Rid) :
      ShutdownMove sh (.completeState rt none) (sh.setServer ({ · with state := .stopped }))
        (.completeClose rt none)
  | completeFailed (rt : Rid) (err : Error) :
      ShutdownMove sh (.completeState rt (some err)) sh (.completeClose rt (some err))
  | close (rt : Rid) (err : Option Error) (once : sh.server.shutdownDone = false) :
      ShutdownMove sh (.completeClose rt err) (sh.setServer ({ · with shutdownDone := true }))
        (.completeUnlock rt err)
  | closeTwice (rt : Rid) (err : Option Error) (twice : sh.server.shutdownDone = true) :
      ShutdownMove sh (.completeClose rt err) sh (.panicked rt)
  | completeUnlock (rt : Rid) (err : Option Error) :
      ShutdownMove sh (.completeUnlock rt err) sh.unlock (.completed rt err)

section
variable {sh sh' : Shared} {pc pc' : ShutdownPC} {c : Choice}

theorem shutdown_move (h : shutdown sh c pc = some (sh', pc')) : ShutdownMove sh pc sh' pc' := by
  cases pc with
  | lock | relock | completeLock rt err =>
    obtain ⟨sh₁, hmu, he⟩ := Option.map_eq_some_iff.mp h
    cases he
    exact .announce hmu (by simp)
  | locking | relocking | completeLocking rt err =>
    obtain ⟨sh₁, hmu, he⟩ := Option.map_eq_some_iff.mp h
    cases he
    exact .take hmu (by simp)
  | switch =>
    simp only [shutdown] at h
    split at h <;> cases h
    · rename_i hs; exact .sawStopped hs
    · rename_i hs; exact .sawShuttingDown hs
    · rename_i hs; exact .becomeOwner (.inl hs)
    · rename_i hs; exact .becomeOwner (.inr hs)
  | await =>
    simp only [shutdown] at h
    split at h
    · rename_i closed
      cases h
      exact .await closed
    · cases h
  | checkSrv rt =>
    cases h
    split
    · rename_i ha; exact .hasSrv rt ha
    · rename_i ha; exact .noSrv rt (by simpa using ha)
  | gracefulWait rt =>
    simp only [shutdown] at h
    split at h
    · split at h
      · rename_i zero
        cases h
        exact .drained rt zero (.inl rfl)
      · cases h
    · cases h
      exact .timeout rt
    · cases h
  | forcedWait rt =>
    simp only [shutdown] at h
    split at h
    · split at h
      · rename_i zero
        cases h
        exact .drained rt zero (.inr rfl)
      · cases h
    · cases h
      exact .failed rt _
    · cases h
  | stop rt p =>
    cases p with
    | done => cases h; exact .stopped rt
    | cancel | waitRequests | waitWorkers =>
      simp only [shutdown, Option.map_eq_some_iff] at h
      obtain ⟨⟨sh₁, p₁⟩, hs, he⟩ := h
      cases he
      exact .stop rt (stop_move hs)
  | completeState rt err =>
    cases err with
    | none => cases h; exact .completeStopped rt
    | some err => cases h; exact .completeFailed rt err
  | completeClose rt err =>
    simp only [shutdown] at h
    split at h
    · rename_i twice
      cases h
      exact .closeTwice rt err twice
    · rename_i once
      cases h
      exact .close rt err (by simpa using once)
  | readStopped => cases h; exact .readStopped
  | unlockStopped err => cases h; exact .unlockStopped err
  | unlockWait => cases h; exact .unlockWait
  | reread => cases h; exact .reread
  | unlockReread err => cases h; exact .unlockReread err
  | storeState => cases h; exact .storeState
  | storeReady => cases h; exact .storeReady
  | capture => cases h; exact .capture
  | unlock rt => cases h; exact .unlock rt
  | graceful rt => cases h; exact .callShutdown rt (.inl ⟨rfl, rfl⟩)
  | forced rt => cases h; exact .callShutdown rt (.inr ⟨rfl, rfl⟩)
  | forceCancel rt => cases h; exact .forceCancel rt
  | completeErr rt err => cases h; exact .completeErr rt err
  | completeUnlock rt err => cases h; exact .completeUnlock rt err
  | completed rt err | returned err | panicked rt => cases h

theorem ShutdownMove.turn (h : ShutdownMove sh pc sh' pc') :
    RWMutex.Turn sh.server.runtimeMu sh'.server.runtimeMu pc.hold pc'.hold := by
  cases h with
  | announce h site =>
    obtain ⟨m, hm, rfl⟩ := Shared.tryMu_eq_some.mp h
    obtain ⟨rfl, rfl⟩ | ⟨rfl, rfl⟩ | ⟨rt, err, rfl, rfl⟩ := site <;> exact .announce hm
  | take h site =>
    obtain ⟨m, hm, rfl⟩ := Shared.tryMu_eq_some.mp h
    obtain ⟨rfl, rfl⟩ | ⟨rfl, rfl⟩ | ⟨rt, err, rfl, rfl⟩ := site <;> exact .lock hm
  | unlockStopped | unlockWait | unlockReread | unlock | completeUnlock => exact .unlock rfl
  | callShutdown rt site =>
    obtain ⟨rfl, rfl⟩ | ⟨rfl, rfl⟩ := site <;> exact .same _ rfl
  | drained rt zero site => obtain rfl | rfl := site <;> exact .same _ rfl
  | stop rt move => rw [move.server]; exact .same _ rfl
  | _ => exact .same _ rfl

end
end TorusProxy
