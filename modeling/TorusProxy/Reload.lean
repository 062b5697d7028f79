import TorusProxy.Runtime

/-! `Server.Reload` with the `Runtime.Stop` of the runtime it displaces. -/
namespace TorusProxy

/-- What a goroutine answers for a runtime as. -/
inductive Role
  | building
  | pending
  | displaced
  | rejected
  | abandoned
  deriving DecidableEq, Repr

inductive ReloadPC
  | lock
  | locking
  | check
  | reject
  | swap
  | unlock (old : Rid)
  | setGeneration (old : Rid)
  | recordReload (old : Rid)
  | stop (old : Rid) (pc : StopPC)
  /-- Returned nil, having displaced `old`. -/
  | accepted (old : Rid)
  /-- Returned `ErrServerNotRunning`. -/
  | rejected
  deriving DecidableEq, Repr

def reload (new : Rid) (sh : Shared) : ReloadPC → Option (Shared × ReloadPC)
  | .lock => (sh.tryMu RWMutex.announce).map (·, .locking)
  | .locking => (sh.tryMu RWMutex.lock).map (·, .check)
  | .check => some (sh, if sh.server.state = .running then .swap else .reject)
  | .reject => some (sh.unlock, .rejected)
  | .swap =>
    some ({ sh.setServer ({ · with runtime := new }) with installed := sh.installed ++ [new] },
      .unlock sh.server.runtime)
  | .unlock old => some (sh.unlock, .setGeneration old)
  | .setGeneration old =>
    some (sh.setMetrics ({ · with generation := float64 (sh.heap new).generation }),
      .recordReload old)
  | .recordReload old =>
    some (sh.setMetrics (fun m => { m with reloadsSuccess := m.reloadsSuccess + 1 }),
      .stop old .cancel)
  | .stop old .done => some (sh, .accepted old)
  | .stop old pc => (stop sh old pc).map fun (sh', pc') => (sh', .stop old pc')
  | .accepted _ | .rejected => none

namespace ReloadPC

def hold : ReloadPC → RWMutex.Hold
  | .locking => .announced
  | .check | .reject | .swap | .unlock _ => .writer
  | _ => .none

/-- The runtime the call has displaced and answers for, also after its return. -/
def displaced : ReloadPC → Option Rid
  | .unlock old | .setGeneration old | .recordReload old | .stop old _ | .accepted old => some old
  | _ => none

/-- The runtime the call answers for, and as what: the new one until the swap
and after a rejection, else the displaced one. -/
def owned (new : Rid) : ReloadPC → Rid × Role
  | .unlock old | .setGeneration old | .recordReload old | .stop old _ | .accepted old =>
    (old, .displaced)
  | .rejected => (new, .rejected)
  | _ => (new, .pending)

/-- The runtime the call stops, and how far it is. -/
def stopping : ReloadPC → Option (Rid × StopPC)
  | .stop old pc => some (old, pc)
  | .accepted old => some (old, .done)
  | _ => none

end ReloadPC

/-- Everything one step of a reload can do. -/
inductive ReloadMove (new : Rid) (sh : Shared) : ReloadPC → Shared → ReloadPC → Prop
  | lock {sh' : Shared} (h : sh.tryMu RWMutex.announce = some sh') :
      ReloadMove new sh .lock sh' .locking
  | locking {sh' : Shared} (h : sh.tryMu RWMutex.lock = some sh') :
      ReloadMove new sh .locking sh' .check
  | accept (running : sh.server.state = .running) : ReloadMove new sh .check sh .swap
  | refuse (idle : sh.server.state ≠ .running) : ReloadMove new sh .check sh .reject
  | reject : ReloadMove new sh .reject sh.unlock .rejected
  | swap :
      ReloadMove new sh .swap
        { sh.setServer ({ · with runtime := new }) with installed := sh.installed ++ [new] }
        (.unlock sh.server.runtime)
  | unlock (old : Rid) : ReloadMove new sh (.unlock old) sh.unlock (.setGeneration old)
  | setGeneration (old : Rid) :
      ReloadMove new sh (.setGeneration old)
        (sh.setMetrics ({ · with generation := float64 (sh.heap new).generation }))
        (.recordReload old)
  | recordReload (old : Rid) :
      ReloadMove new sh (.recordReload old)
        (sh.setMetrics (fun m => { m with reloadsSuccess := m.reloadsSuccess + 1 }))
        (.stop old .cancel)
  | stop {sh' : Shared} {p p' : StopPC} (old : Rid) (move : StopMove sh old p sh' p') :
      ReloadMove new sh (.stop old p) sh' (.stop old p')
  | stopped (old : Rid) : ReloadMove new sh (.stop old .done) sh (.accepted old)

section
variable {new : Rid} {sh sh' : Shared} {pc pc' : ReloadPC}

theorem reload_move (h : reload new sh pc = some (sh', pc')) : ReloadMove new sh pc sh' pc' := by
  cases pc with
  | lock =>
    obtain ⟨sh₁, hmu, he⟩ := Option.map_eq_some_iff.mp h
    cases he
    exact .lock hmu
  | locking =>
    obtain ⟨sh₁, hmu, he⟩ := Option.map_eq_some_iff.mp h
    cases he
    exact .locking hmu
  | check =>
    cases h
    split
    · rename_i running
      exact .accept running
    · rename_i idle
      exact .refuse idle
  | reject => cases h; exact .reject
  | swap => cases h; exact .swap
  | unlock old => cases h; exact .unlock old
  | setGeneration old => cases h; exact .setGeneration old
  | recordReload old => cases h; exact .recordReload old
  | stop old p =>
    cases p with
    | done => cases h; exact .stopped old
    | cancel | waitRequests | waitWorkers =>
      simp only [reload, Option.map_eq_some_iff] at h
      obtain ⟨⟨sh₁, p₁⟩, hs, he⟩ := h
      cases he
      exact .stop old (stop_move hs)
  | accepted old => cases h
  | rejected => cases h

theorem ReloadMove.turn (h : ReloadMove new sh pc sh' pc') :
    RWMutex.Turn sh.server.runtimeMu sh'.server.runtimeMu pc.hold pc'.hold := by
  cases h with
  | lock h =>
    obtain ⟨m, hm, rfl⟩ := Shared.tryMu_eq_some.mp h
    exact .announce hm
  | locking h =>
    obtain ⟨m, hm, rfl⟩ := Shared.tryMu_eq_some.mp h
    exact .lock hm
  | accept | refuse | swap | setGeneration | recordReload | stopped => exact .same _ rfl
  | reject | unlock => exact .unlock rfl
  | stop old move => rw [move.server]; exact .same _ rfl

end
end TorusProxy
