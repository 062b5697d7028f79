import TorusProxy.World

/-! What each kind of step leaves alone, and who answers for which runtime
before and after it. -/
namespace TorusProxy

section
variable {β : Type} {sh sh' : Shared} (q : Rid)

/-- A field that the update keeps is kept everywhere. -/
theorem Shared.setRuntime_same (π : Runtime → β) {r : Rid} {f : Runtime → Runtime}
    (keep : π (f (sh.heap r)) = π (sh.heap r)) :
    π ((sh.setRuntime r f).heap q) = π (sh.heap q) := by
  by_cases h : q = r
  · subst h; simpa using keep
  · simp [h]

variable (π : Runtime → β) (ignores : ∀ x : Runtime, π { x with cancelled := true } = π x)
include ignores

theorem StopMove.heap_same {r : Rid} {p p' : StopPC} (h : StopMove sh r p sh' p') :
    π (sh'.heap q) = π (sh.heap q) := by
  cases h with
  | cancel => exact Shared.setRuntime_same q π (ignores _)
  | waitRequests | waitWorkers => rfl

theorem ReloadMove.heap_same {new : Rid} {pc pc' : ReloadPC} (h : ReloadMove new sh pc sh' pc') :
    π (sh'.heap q) = π (sh.heap q) := by
  cases h with
  | lock hm | locking hm => exact Shared.tryMu_same (fun x => π (x.heap q)) (fun _ => rfl) hm
  | stop old move => exact move.heap_same q π ignores
  | _ => rfl

theorem ShutdownMove.heap_same {pc pc' : ShutdownPC} (h : ShutdownMove sh pc sh' pc') :
    π (sh'.heap q) = π (sh.heap q) := by
  cases h with
  | announce hm | take hm => exact Shared.tryMu_same (fun x => π (x.heap q)) (fun _ => rfl) hm
  | stop rt move => exact move.heap_same q π ignores
  | _ => rfl

theorem StartMove.heap_same {pc pc' : StartPC} (h : StartMove sh pc sh' pc') :
    π (sh'.heap q) = π (sh.heap q) := by
  cases h with
  | failLock err hm | failLocking err hm =>
    exact Shared.tryMu_same (fun x => π (x.heap q)) (fun _ => rfl) hm
  | listenStop rt err move | failStop rt err move => exact move.heap_same q π ignores
  | _ => rfl

end

section
variable {β : Type} {sh sh' : Shared} (π : Server → β)
  (mu : ∀ s m, π { s with runtimeMu := m } = π s)
include mu

theorem HandlerMove.server_same (handlers : ∀ s n, π { s with srv := { s.srv with handlers := n } } = π s)
    {pc pc' : HandlerPC} (h : HandlerMove sh pc sh' pc') : π sh'.server = π sh.server := by
  cases h with
  | rLock hm => exact Shared.tryMu_same (fun x => π x.server) (fun m => mu _ m) hm
  | rUnlock => exact mu _ _
  | exit => exact handlers _ _
  | inner _ _ _ _ _ still => rw [still.server]
  | load | acquire | release => rfl

/-- A reload touches the lock and the active runtime, and nothing else of the
server. -/
theorem ReloadMove.server_same (swap : ∀ s r, π { s with runtime := r } = π s) {rt : Rid}
    {pc pc' : ReloadPC} (h : ReloadMove rt sh pc sh' pc') : π sh'.server = π sh.server := by
  cases h with
  | lock hm | locking hm => exact Shared.tryMu_same (fun x => π x.server) (fun m => mu _ m) hm
  | swap => exact swap _ _
  | reject | unlock => exact mu _ _
  | stop old move => rw [move.server]
  | accept | refuse | setGeneration | recordReload | stopped => rfl

theorem ManagerMove.server_same (swap : ∀ s r, π { s with runtime := r } = π s) {env : Env}
    {pc pc' : ManagerPC} {new : Option Prober} (h : ManagerMove env sh pc sh' pc' new) :
    π sh'.server = π sh.server := by
  cases h with
  | reload cfg rt move => exact move.server_same π mu swap
  | stop cfg rt move => rw [move.server]
  | _ => rfl

end

/-- The active runtime, the history and the allocations are untouched. -/
structure Shared.Fixed (sh sh' : Shared) : Prop where
  runtime : sh'.server.runtime = sh.server.runtime
  installed : sh'.installed = sh.installed
  allocated : sh'.allocated = sh.allocated

section
variable {sh sh' : Shared}

theorem Shared.Fixed.refl (sh : Shared) : Shared.Fixed sh sh := ⟨rfl, rfl, rfl⟩

theorem Shared.Still.fixed (h : Shared.Still sh sh') : Shared.Fixed sh sh' :=
  ⟨by rw [h.server], h.installed, h.allocated⟩

theorem Shared.tryMu_fixed {op : RWMutex → Option RWMutex} (h : sh.tryMu op = some sh') :
    Shared.Fixed sh sh' := by
  obtain ⟨m, -, rfl⟩ := Shared.tryMu_eq_some.mp h
  exact ⟨rfl, rfl, rfl⟩

theorem StopMove.fixed {r : Rid} {p p' : StopPC} (h : StopMove sh r p sh' p') :
    Shared.Fixed sh sh' := by
  cases h <;> exact ⟨rfl, rfl, rfl⟩

theorem HandlerMove.fixed {pc pc' : HandlerPC} (h : HandlerMove sh pc sh' pc') :
    Shared.Fixed sh sh' := by
  cases h with
  | rLock h => exact Shared.tryMu_fixed h
  | inner _ _ _ _ _ still => exact still.fixed
  | _ => exact ⟨rfl, rfl, rfl⟩

theorem ShutdownMove.fixed {pc pc' : ShutdownPC} (h : ShutdownMove sh pc sh' pc') :
    Shared.Fixed sh sh' := by
  cases h with
  | announce h | take h => exact Shared.tryMu_fixed h
  | stop rt move => exact move.fixed
  | _ => exact ⟨rfl, rfl, rfl⟩

theorem StartMove.fixed {pc pc' : StartPC} (h : StartMove sh pc sh' pc') :
    Shared.Fixed sh sh' := by
  cases h with
  | failLock err h | failLocking err h => exact Shared.tryMu_fixed h
  | listenStop rt err move | failStop rt err move => exact move.fixed
  | _ => exact ⟨rfl, rfl, rfl⟩

theorem ProberMove.fixed {p : Prober} {pc pc' : ProberPC} {new : Bool}
    (h : ProberMove p sh pc sh' pc' new) : Shared.Fixed sh sh' := by
  cases h with
  | inner _ _ still => exact still.fixed
  | restart | exit => exact ⟨rfl, rfl, rfl⟩

end

/-- How a step moves the answer for runtimes: not at all, from the runtime it
installs to the one it displaces, or to a new allocation. -/
inductive Ownership (sh : Shared) (t : Thread) (sh' : Shared) (t' : Thread) : Prop
  | same (fixed : Shared.Fixed sh sh') (owned : t'.owned.map Prod.fst = t.owned.map Prod.fst)
      (displaced : t'.displaced = t.displaced) (swapped : t'.swapped = t.swapped)
  | swap (new : Rid) (swapping : t.swapping = some new) (runtime : sh'.server.runtime = new)
      (installed : sh'.installed = sh.installed ++ [new]) (allocated : sh'.allocated = sh.allocated)
      (owned : t'.owned = some (sh.server.runtime, .displaced)) (swapped : t'.swapped = some new)
  | allocate (owned : t.owned = none) (owned' : t'.owned = some (sh.allocated, .building))
      (runtime : sh'.server.runtime = sh.server.runtime) (installed : sh'.installed = sh.installed)
      (allocated : sh'.allocated = sh.allocated + 1) (swapped : t'.swapped = none)

/-- As `Ownership.same` and `Ownership.swap`, for the inside of `Server.Reload`. -/
theorem ReloadMove.ownership {new : Rid} {sh sh' : Shared} {pc pc' : ReloadPC}
    (h : ReloadMove new sh pc sh' pc') :
    (Shared.Fixed sh sh' ∧ (pc'.owned new).1 = (pc.owned new).1 ∧
      ((pc'.owned new).2 = .displaced ↔ (pc.owned new).2 = .displaced) ∧
      pc'.displaced.isSome = pc.displaced.isSome) ∨
    (pc = .swap ∧ sh'.server.runtime = new ∧ sh'.installed = sh.installed ++ [new] ∧
      sh'.allocated = sh.allocated ∧ pc'.owned new = (sh.server.runtime, .displaced) ∧
      pc'.displaced.isSome = true) := by
  cases h with
  | lock h | locking h => exact .inl ⟨Shared.tryMu_fixed h, rfl, .rfl, rfl⟩
  | swap => exact .inr ⟨rfl, rfl, rfl, rfl, rfl, rfl⟩
  | stop old move => exact .inl ⟨move.fixed, rfl, .rfl, rfl⟩
  | reject => exact .inl ⟨⟨rfl, rfl, rfl⟩, rfl, by simp [ReloadPC.owned], rfl⟩
  | _ => exact .inl ⟨⟨rfl, rfl, rfl⟩, rfl, .rfl, rfl⟩

theorem ManagerMove.ownership {env : Env} {sh sh' : Shared} {pc pc' : ManagerPC}
    {new : Option Prober} (h : ManagerMove env sh pc sh' pc' new) :
    Ownership sh (.manager pc) sh' (.manager pc') := by
  cases h with
  | @reload _ pc₁ pc₂ cfg rt move =>
    rcases move.ownership with ⟨fixed, owned, displaced, swapped⟩ |
      ⟨rfl, runtime, installed, allocated, owned, swapped⟩
    · exact .same fixed (by simp [Thread.owned, ManagerPC.owned, owned])
        (by simp [Thread.displaced, Thread.owned, ManagerPC.owned, displaced])
        (by simp only [Thread.swapped, swapped])
    · exact .swap rt rfl runtime installed allocated (by simp [Thread.owned, ManagerPC.owned, owned])
        (by simp [Thread.swapped, swapped])
  | allocate cfg tls => exact .allocate rfl rfl rfl rfl rfl rfl
  | stop cfg rt move => exact .same move.fixed rfl rfl rfl
  | recordFailure out => cases out <;> exact .same ⟨rfl, rfl, rfl⟩ rfl rfl rfl
  | _ => exact .same ⟨rfl, rfl, rfl⟩ rfl rfl rfl

theorem ThreadMove.ownership {env : Env} {sh sh' : Shared} {t t' : Thread} {new : List Thread}
    (h : ThreadMove env sh t sh' t' new) : Ownership sh t sh' t' := by
  cases h with
  | request req move => exact .same move.fixed rfl rfl rfl
  | @reload _ pc pc' new move =>
    rcases move.ownership with ⟨fixed, owned, displaced, swapped⟩ |
      ⟨rfl, runtime, installed, allocated, owned, swapped⟩
    · exact .same fixed (by simp [Thread.owned, owned])
        (by simp [Thread.displaced, Thread.owned, displaced]) (by simp only [Thread.swapped, swapped])
    · exact .swap new rfl runtime installed allocated (by simp [Thread.owned, owned])
        (by simp [Thread.swapped, swapped])
  | manager move => exact move.ownership
  | shutdown move => exact .same move.fixed rfl rfl rfl
  | start move => exact .same move.fixed rfl rfl rfl
  | prober p move => exact .same move.fixed rfl rfl rfl

/-- A thread that is about to install a runtime answers for it and holds the
lock. -/
theorem Thread.swapping_owned {t : Thread} {new : Rid} (h : t.swapping = some new) :
    t.owned = some (new, .pending) ∧ t.hold = .writer := by
  unfold Thread.swapping at h
  split at h <;> cases h <;> exact ⟨rfl, rfl⟩

/-! ## Handler calls -/

section
variable {sh sh' : Shared}

theorem ShutdownMove.handlers {pc pc' : ShutdownPC} (h : ShutdownMove sh pc sh' pc') :
    sh'.server.srv.handlers = sh.server.srv.handlers := by
  cases h with
  | announce hm | take hm => exact Shared.tryMu_same (·.server.srv.handlers) (fun _ => rfl) hm
  | stop rt move => rw [move.server]
  | _ => rfl

theorem StartMove.handlers {pc pc' : StartPC} (h : StartMove sh pc sh' pc') :
    sh'.server.srv.handlers = sh.server.srv.handlers := by
  cases h with
  | failLock err hm | failLocking err hm =>
    exact Shared.tryMu_same (·.server.srv.handlers) (fun _ => rfl) hm
  | listenStop rt err move | failStop rt err move => rw [move.server]
  | _ => rfl

theorem ProberMove.server {p : Prober} {pc pc' : ProberPC} {new : Bool}
    (h : ProberMove p sh pc sh' pc' new) : sh'.server = sh.server := by
  cases h with
  | inner _ _ still => exact still.server
  | restart | exit => rfl

end

theorem ProberMove.requestWG {p : Prober} {sh sh' : Shared} {pc pc' : ProberPC} {new : Bool}
    (h : ProberMove p sh pc sh' pc' new) (q : Rid) :
    (sh'.heap q).requestWG = (sh.heap q).requestWG := by
  cases h with
  | inner _ _ still => exact still.requestWG q
  | restart | exit => exact Shared.setRuntime_same q Runtime.requestWG rfl

/-- A manager's step keeps a field that building and retiring do not move, and
that a new runtime has as its place in the heap had it. -/
theorem ManagerMove.heap_same {β : Type} (π : Runtime → β)
    (cancels : ∀ x : Runtime, π { x with cancelled := true } = π x)
    (works : ∀ x : Runtime, π { x with workerWG := x.workerWG + 1 } = π x)
    (backends : ∀ (x : Runtime) url, π (x.addBackend url) = π x)
    (services : ∀ (x : Runtime) bs, π (x.addService bs) = π x)
    (routes : ∀ (x : Runtime) path svc, π (x.addRoute path svc) = π x)
    {env : Env} {sh sh' : Shared} {pc pc' : ManagerPC} {new : Option Prober}
    (h : ManagerMove env sh pc sh' pc' new) (q : Rid)
    (blank : q = sh.allocated → ∀ n addr tls on, π (newRuntime n addr tls on) = π (sh.heap q)) :
    π (sh'.heap q) = π (sh.heap q) := by
  cases h with
  | allocate cfg tls =>
    by_cases hq : q = sh.allocated
    · have := blank hq
      subst hq
      simp [TorusProxy.allocate, this]
    · simp [TorusProxy.allocate, hq]
  | backendFailed => exact Shared.setRuntime_same q π (cancels _)
  | backend => exact Shared.setRuntime_same q π (backends _ _)
  | service => exact Shared.setRuntime_same q π (services _ _)
  | route => exact Shared.setRuntime_same q π (routes _ _ _)
  | startProber cfg rt => exact Shared.setRuntime_same q π (works _)
  | reload cfg rt move => exact move.heap_same q π cancels
  | stop cfg rt move => exact move.heap_same q π cancels
  | _ => rfl

/-! ## Joining a wait group -/

section
variable {env : Env} {sh sh' : Shared} {t t' : Thread} {new : List Thread}

/-- A request comes to hold a runtime only by its acquire. -/
theorem ThreadMove.holds (h : ThreadMove env sh t sh' t' new) {r : Rid}
    (hr : t'.holds = some r) : t.holds = some r ∨ ∃ req, t = .request req (.acquire r) := by
  cases h with
  | request req move =>
    cases move with
    | acquire rt => cases hr; exact .inr ⟨req, rfl⟩
    | rUnlock rt => exact .inl hr
    | inner q _ _ holds holds' _ => exact .inl (holds.trans (holds'.symm.trans hr))
    | rLock | load | release | exit => cases hr
  | reload | manager | shutdown | start | prober => cases hr

/-- A prober joins the workers of a runtime while another one is among them,
or while the runtime is being built. -/
theorem ThreadMove.works (h : ThreadMove env sh t sh' t' new) {r : Rid} {n : Thread}
    (hn : n = t' ∨ n ∈ new) (hr : n.works = some r) :
    t.works = some r ∨ t.owned = some (r, .building) := by
  rcases hn with rfl | hn
  · cases h with
    | prober p move =>
      cases move with
      | inner alive alive' _ =>
        rw [Thread.works_of_alive alive'] at hr
        exact .inl ((Thread.works_of_alive alive).trans hr)
      | restart => exact .inl hr
      | exit => cases hr
    | request | reload | manager | shutdown | start => cases hr
  · cases h with
    | manager move =>
      cases move with
      | startProber cfg rt b todo vars =>
        obtain rfl : n = .prober ⟨rt, b, cfg.healthCheck.interval⟩ .newTicker := by simpa using hn
        cases hr
        exact .inr rfl
      | _ => cases hn
    | prober p move =>
      cases move with
      | restart =>
        obtain rfl : n = .prober p .newTicker := by simpa using hn
        exact .inl hr
      | _ => simp at hn
    | request | reload | shutdown | start => cases hn

/-- No step takes a cancellation back; a new runtime has a place of its own. -/
theorem ThreadMove.cancelled (h : ThreadMove env sh t sh' t' new) {r : Rid}
    (hr : r ≠ sh.allocated) (hc : (sh.heap r).cancelled = true) : (sh'.heap r).cancelled = true := by
  have update (q : Rid) (f : Runtime → Runtime)
      (keep : ∀ x : Runtime, x.cancelled = true → (f x).cancelled = true) :
      ((sh.setRuntime q f).heap r).cancelled = true := by
    by_cases hq : r = q
    · subst hq; simpa using keep _ hc
    · simpa [hq] using hc
  have stops {q : Rid} {p p' : StopPC} (move : StopMove sh q p sh' p') :
      (sh'.heap r).cancelled = true := by
    cases move with
    | cancel => exact update q _ fun _ _ => rfl
    | waitRequests | waitWorkers => exact hc
  have locks {op : RWMutex → Option RWMutex} (hm : sh.tryMu op = some sh') :
      (sh'.heap r).cancelled = true :=
    (Shared.tryMu_same (fun x => (x.heap r).cancelled) (fun _ => rfl) hm).trans hc
  have reloads {q : Rid} {pc pc' : ReloadPC} (move : ReloadMove q sh pc sh' pc') :
      (sh'.heap r).cancelled = true := by
    cases move with
    | lock hm | locking hm => exact locks hm
    | stop old move => exact stops move
    | _ => exact hc
  cases h with
  | request req move =>
    cases move with
    | rLock hm => exact locks hm
    | acquire rt | release rt => exact update rt _ fun _ h => h
    | inner _ _ _ _ _ still => exact (still.cancelled r).trans hc
    | load | rUnlock | exit => exact hc
  | reload q move => exact reloads move
  | manager move =>
    cases move with
    | allocate cfg tls => simpa [TorusProxy.allocate, hr] using hc
    | backendFailed cfg rt => exact update rt _ fun _ _ => rfl
    | backend cfg rt => exact update rt _ fun _ h => h
    | service cfg rt => exact update rt _ fun _ h => h
    | route cfg rt => exact update rt _ fun _ h => h
    | startProber cfg rt => exact update rt _ fun _ h => h
    | reload cfg rt move => exact reloads move
    | stop cfg rt move => exact stops move
    | _ => exact hc
  | shutdown move =>
    cases move with
    | announce hm | take hm => exact locks hm
    | stop rt move => exact stops move
    | _ => exact hc
  | start move =>
    cases move with
    | failLock err hm | failLocking err hm => exact locks hm
    | listenStop rt err move | failStop rt err move => exact stops move
    | _ => exact hc
  | prober p move =>
    cases move with
    | inner _ _ still => exact (still.cancelled r).trans hc
    | restart | exit => exact update p.rt _ fun _ h => h

end

end TorusProxy
