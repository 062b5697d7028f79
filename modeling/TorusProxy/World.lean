import TorusProxy.Lib.Threads
import TorusProxy.Handler
import TorusProxy.Manager
import TorusProxy.Shutdown
import TorusProxy.Start

/-! The process as a machine of goroutines over the shared state. A run is any
order of their atomic steps, of calls entering, and of changes on disk. -/
namespace TorusProxy

inductive Thread
  | request (req : Request) (pc : HandlerPC)
  | reload (new : Rid) (pc : ReloadPC)
  | manager (pc : ManagerPC)
  | shutdown (pc : ShutdownPC)
  | start (pc : StartPC)
  | prober (p : Prober) (pc : ProberPC)
  deriving DecidableEq, Repr

/-- What enters from outside. `Start` is called once, so its goroutine is part
of the world a run begins with. -/
inductive Call
  | request (req : Request)
  /-- `Server.Reload` with a fresh runtime of the caller's. -/
  | reload (rt : Runtime)
  | manager
  | shutdown

def Thread.step (env : Env) (sh : Shared) (t : Thread) (c : Choice) :
    Option (Shared × Thread × List Thread) :=
  match t with
  | .request req pc => (httpHandler req sh c pc).map fun (sh', pc') => (sh', .request req pc', [])
  | .reload new pc => (TorusProxy.reload new sh pc).map fun (sh', pc') => (sh', .reload new pc', [])
  | .manager pc =>
    (managerReload env sh pc).map fun (sh', pc', new) =>
      (sh', .manager pc', new.toList.map (.prober · .newTicker))
  | .shutdown pc => (TorusProxy.shutdown sh c pc).map fun (sh', pc') => (sh', .shutdown pc', [])
  | .start pc => (TorusProxy.start sh c pc).map fun (sh', pc') => (sh', .start pc', [])
  | .prober p pc =>
    (TorusProxy.prober p sh c pc).map fun (sh', pc', new) =>
      (sh', .prober p pc', if new then [.prober p .newTicker] else [])

/-- `net/http` starts a handler while it serves and has not drained. -/
def enter (sh : Shared) : Call → Option (Shared × Thread)
  | .request req =>
    if sh.server.srv.serving && !sh.server.srv.drained then
      some (sh.setServer (fun s => { s with srv := { s.srv with handlers := s.srv.handlers + 1 } }),
        .request req .rLock)
    else none
  | .reload rt =>
    some ({ sh with
        allocated := sh.allocated + 1
        heap := Function.update sh.heap sh.allocated { rt with requestWG := 0, workerWG := 0 } },
      .reload sh.allocated .lock)
  | .manager => some (sh, .manager .begin)
  | .shutdown => some (sh, .shutdown .lock)

abbrev machine (env : Env) : Threads.Machine Shared Thread Choice Call Disk where
  step := Thread.step env
  enter := enter
  change := fun sh disk => some { sh with disk := disk }

abbrev World := Threads.World Shared Thread

abbrev Action := Threads.Action Choice Call Disk

abbrev World.step (env : Env) : World → Action → Option World := (machine env).next

/-- Runs whose every step meets the guard. -/
abbrev Run (env : Env) (ok : World → Action → Prop) : World → World → Prop :=
  Exec.Run (World.step env) ok

namespace Thread

def hold : Thread → RWMutex.Hold
  | .request _ pc => pc.hold
  | .reload _ pc => pc.hold
  | .manager pc => pc.hold
  | .shutdown pc => pc.hold
  | .start pc => pc.hold
  | .prober _ _ => .none

/-- The runtime a request holds. -/
def holds : Thread → Option Rid
  | .request _ pc => pc.holds
  | _ => none

def inFlight : Thread → Nat
  | .request _ pc => pc.inFlight
  | _ => 0

/-- The runtime whose worker group a live prober is registered in. -/
def works : Thread → Option Rid
  | .prober p pc => if pc = .exited then none else some p.rt
  | _ => none

theorem works_of_alive {p : Prober} {pc : ProberPC} (h : pc.alive = 1) :
    (Thread.prober p pc).works = some p.rt := by
  have live : pc ≠ .exited := by
    rintro rfl
    cases h
  exact if_neg live

def owned : Thread → Option (Rid × Role)
  | .reload new pc => some (pc.owned new)
  | .manager pc => pc.owned
  | _ => none

/-- Answers for a runtime that it displaced. -/
def displaced (t : Thread) : Bool := t.owned.any fun x => decide (x.2 = .displaced)

/-- The runtime a reload has installed. -/
def swapped : Thread → Option Rid
  | .reload new pc => if pc.displaced.isSome then some new else none
  | .manager (.serverReload _ new pc) => if pc.displaced.isSome then some new else none
  | .manager (.recordFailure (.accepted _ new _)) | .manager (.returned (.accepted _ new _)) =>
    some new
  | _ => none

/-- About to install a runtime. -/
def swapping : Thread → Option Rid
  | .reload new .swap => some new
  | .manager (.serverReload _ new .swap) => some new
  | _ => none

end Thread

/-- One step of one goroutine, by kind. -/
inductive ThreadMove (env : Env) (sh : Shared) : Thread → Shared → Thread → List Thread → Prop
  | request {sh' : Shared} {pc pc' : HandlerPC} (req : Request)
      (move : HandlerMove sh pc sh' pc') :
      ThreadMove env sh (.request req pc) sh' (.request req pc') []
  | reload {sh' : Shared} {pc pc' : ReloadPC} (new : Rid) (move : ReloadMove new sh pc sh' pc') :
      ThreadMove env sh (.reload new pc) sh' (.reload new pc') []
  | manager {sh' : Shared} {pc pc' : ManagerPC} {new : Option Prober}
      (move : ManagerMove env sh pc sh' pc' new) :
      ThreadMove env sh (.manager pc) sh' (.manager pc') (new.toList.map (.prober · .newTicker))
  | shutdown {sh' : Shared} {pc pc' : ShutdownPC} (move : ShutdownMove sh pc sh' pc') :
      ThreadMove env sh (.shutdown pc) sh' (.shutdown pc') []
  | start {sh' : Shared} {pc pc' : StartPC} (move : StartMove sh pc sh' pc') :
      ThreadMove env sh (.start pc) sh' (.start pc') []
  | prober {sh' : Shared} {pc pc' : ProberPC} {new : Bool} (p : Prober)
      (move : ProberMove p sh pc sh' pc' new) :
      ThreadMove env sh (.prober p pc) sh' (.prober p pc') (if new then [.prober p .newTicker] else [])

/-- A goroutine steps as the function it runs does. -/
inductive ThreadStep (env : Env) (sh : Shared) (c : Choice) (sh' : Shared) :
    Thread → Thread → List Thread → Prop
  | request {req : Request} {pc pc' : HandlerPC} (runs : httpHandler req sh c pc = some (sh', pc')) :
      ThreadStep env sh c sh' (.request req pc) (.request req pc') []
  | reload {new : Rid} {pc pc' : ReloadPC} (runs : TorusProxy.reload new sh pc = some (sh', pc')) :
      ThreadStep env sh c sh' (.reload new pc) (.reload new pc') []
  | manager {pc pc' : ManagerPC} {new : Option Prober}
      (runs : managerReload env sh pc = some (sh', pc', new)) :
      ThreadStep env sh c sh' (.manager pc) (.manager pc') (new.toList.map (.prober · .newTicker))
  | shutdown {pc pc' : ShutdownPC} (runs : TorusProxy.shutdown sh c pc = some (sh', pc')) :
      ThreadStep env sh c sh' (.shutdown pc) (.shutdown pc') []
  | start {pc pc' : StartPC} (runs : TorusProxy.start sh c pc = some (sh', pc')) :
      ThreadStep env sh c sh' (.start pc) (.start pc') []
  | prober {p : Prober} {pc pc' : ProberPC} {new : Bool}
      (runs : TorusProxy.prober p sh c pc = some (sh', pc', new)) :
      ThreadStep env sh c sh' (.prober p pc) (.prober p pc')
        (if new then [.prober p .newTicker] else [])

theorem Thread.step_runs {env : Env} {sh sh' : Shared} {t t' : Thread} {c : Choice}
    {new : List Thread} (h : t.step env sh c = some (sh', t', new)) :
    ThreadStep env sh c sh' t t' new := by
  cases t with
  | request | reload | shutdown | start =>
    simp only [Thread.step, Option.map_eq_some_iff] at h
    obtain ⟨⟨sh₁, pc₁⟩, runs, he⟩ := h
    cases he
    constructor
    exact runs
  | manager | prober =>
    simp only [Thread.step, Option.map_eq_some_iff] at h
    obtain ⟨⟨sh₁, pc₁, new⟩, runs, he⟩ := h
    cases he
    constructor
    exact runs

theorem Thread.step_move {env : Env} {sh sh' : Shared} {t t' : Thread} {c : Choice}
    {new : List Thread} (h : t.step env sh c = some (sh', t', new)) :
    ThreadMove env sh t sh' t' new := by
  cases Thread.step_runs h with
  | request runs => exact .request _ (httpHandler_move runs)
  | reload runs => exact .reload _ (reload_move runs)
  | manager runs => exact .manager (managerReload_move runs)
  | shutdown runs => exact .shutdown (shutdown_move runs)
  | start runs => exact .start (start_move runs)
  | prober runs => exact .prober _ (prober_move runs)

/-- Everything a call entering can do. -/
inductive EnterMove (sh : Shared) : Call → Shared → Thread → Prop
  | request (req : Request) (serving : sh.server.srv.serving = true)
      (live : sh.server.srv.drained = false) :
      EnterMove sh (.request req)
        (sh.setServer (fun s => { s with srv := { s.srv with handlers := s.srv.handlers + 1 } }))
        (.request req .rLock)
  | reload (rt : Runtime) :
      EnterMove sh (.reload rt)
        { sh with
          allocated := sh.allocated + 1
          heap := Function.update sh.heap sh.allocated { rt with requestWG := 0, workerWG := 0 } }
        (.reload sh.allocated .lock)
  | manager : EnterMove sh .manager sh (.manager .begin)
  | shutdown : EnterMove sh .shutdown sh (.shutdown .lock)

theorem enter_move {sh sh' : Shared} {x : Call} {t : Thread} (h : enter sh x = some (sh', t)) :
    EnterMove sh x sh' t := by
  cases x with
  | request req =>
    simp only [enter] at h
    split at h
    · rename_i hs
      simp only [Bool.and_eq_true, Bool.not_eq_true'] at hs
      cases h
      exact .request req hs.1 hs.2
    · cases h
  | reload rt => cases h; exact .reload rt
  | manager => cases h; exact .manager
  | shutdown => cases h; exact .shutdown

theorem ThreadMove.turn {env : Env} {sh sh' : Shared} {t t' : Thread} {new : List Thread}
    (h : ThreadMove env sh t sh' t' new) :
    RWMutex.Turn sh.server.runtimeMu sh'.server.runtimeMu t.hold t'.hold := by
  cases h with
  | request req move => exact move.turn
  | reload new move => exact move.turn
  | manager move => exact move.turn
  | shutdown move => exact move.turn
  | start move => exact move.turn
  | prober p move =>
    cases move with
    | inner _ _ still => rw [still.server]; exact .same _ rfl
    | restart => exact .same _ rfl
    | exit => exact .same _ rfl

/-- Only probers are started by a step. -/
theorem ThreadMove.starts {env : Env} {sh sh' : Shared} {t t' : Thread} {new : List Thread}
    (h : ThreadMove env sh t sh' t' new) : ∀ n ∈ new, ∃ p, n = .prober p .newTicker := by
  cases h with
  | @manager _ _ _ new move =>
    intro n hn
    obtain ⟨p, _, rfl⟩ := List.mem_map.mp hn
    exact ⟨p, rfl⟩
  | @prober _ _ _ new p move =>
    intro n hn
    cases new with
    | false => simp at hn
    | true => exact ⟨p, by simpa using hn⟩
  | request | reload | shutdown | start => intro n hn; simp at hn

/-- Where a goroutine comes from: it was there, it moved, a step started it as a
prober, or it entered. -/
inductive Origin (env : Env) (w w' : World) : Thread → Prop
  | stayed {t : Thread} (mem : t ∈ w.threads) : Origin env w w' t
  | moved {t' : Thread} {sh' : Shared} {new : List Thread} (t : Thread) (c : Choice)
      (mem : t ∈ w.threads) (fires : t.step env w.shared c = some (sh', t', new))
      (shared : w'.shared = sh') : Origin env w w' t'
  | started (p : Prober) : Origin env w w' (.prober p .newTicker)
  | entered {t : Thread} {sh' : Shared} (x : Call) (fires : enter w.shared x = some (sh', t)) :
      Origin env w w' t

theorem World.origin {env : Env} {w w' : World} {a : Action}
    (m : Threads.Moved (machine env) w a w') {t : Thread} (ht : t ∈ w'.threads) :
    Origin env w w' t := by
  obtain ⟨i, hi⟩ := List.mem_iff_getElem?.mp ht
  rcases m.origin hi with same | ⟨u, c, sh', new, -, hu, fires, shared⟩ |
    ⟨u, c, sh', u', new, -, fires, started, -⟩ | ⟨x, sh', -, fires, -⟩
  · exact .stayed (List.mem_of_getElem? same)
  · exact .moved u c (List.mem_of_getElem? hu) fires shared
  · obtain ⟨p, rfl⟩ := (Thread.step_move fires).starts t started
    exact .started p
  · exact .entered x fires

/-- The assertion rule for goroutines, where the only ones a step starts are
probers and the disk is nobody's business. -/
theorem World.assertion {env : Env} {w w' : World} {a : Action}
    (m : Threads.Moved (machine env) w a w') (A : Shared → Thread → Prop)
    (inv : ∀ t ∈ w.threads, A w.shared t)
    (self : ∀ i t c sh' t' new, a = .run i c → w.threads[i]? = some t → A w.shared t →
      t.step env w.shared c = some (sh', t', new) → A sh' t')
    (others : ∀ i j t u c sh' t' new, a = .run i c → i ≠ j → w.threads[i]? = some t →
      w.threads[j]? = some u → t.step env w.shared c = some (sh', t', new) →
      A w.shared u → A sh' u)
    (probers : ∀ sh' p, A sh' (.prober p .newTicker))
    (enters : ∀ x sh' t, enter w.shared x = some (sh', t) →
      A sh' t ∧ ∀ u ∈ w.threads, A w.shared u → A sh' u)
    (files : ∀ disk u, A w.shared u → A { w.shared with disk := disk } u) :
    ∀ t ∈ w'.threads, A w'.shared t := by
  refine m.assertion A inv ?_ others ?_ ?_
  · intro i t c sh' t' new ha hi before fires
    refine ⟨self i t c sh' t' new ha hi before fires, ?_⟩
    intro n hn
    obtain ⟨p, rfl⟩ := (Thread.step_move fires).starts n hn
    exact probers sh' p
  · intro x sh' t _ fires
    exact enters x sh' t fires
  · intro disk sh' fires u _ before
    cases fires
    exact files disk u before

/-- The same for what a goroutine decides alone. -/
theorem World.each {env : Env} {w w' : World} {a : Action}
    (m : Threads.Moved (machine env) w a w') (P : Thread → Prop) (inv : ∀ t ∈ w.threads, P t)
    (self : ∀ i t c sh' t' new, a = .run i c → w.threads[i]? = some t → P t →
      t.step env w.shared c = some (sh', t', new) → P t')
    (probers : ∀ p, P (.prober p .newTicker))
    (enters : ∀ x sh' t, enter w.shared x = some (sh', t) → P t) :
    ∀ t ∈ w'.threads, P t := by
  refine m.each P inv ?_ ?_
  · intro i t c sh' t' new ha hi before fires
    refine ⟨self i t c sh' t' new ha hi before fires, ?_⟩
    intro n hn
    obtain ⟨p, rfl⟩ := (Thread.step_move fires).starts n hn
    exact probers p
  · intro x sh' t _ fires
    exact enters x sh' t fires

end TorusProxy
