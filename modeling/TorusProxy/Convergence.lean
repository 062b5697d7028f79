import TorusProxy.System

/-! Whether the server comes to serve the file. A change is lost where no event
follows it or the reload that answers it is turned away; otherwise it is on its
way until it is served. -/
namespace TorusProxy

open Threads

/-! ## What is promised -/

/-- Every upstream parses. -/
def Config.Parses (env : Env) (cfg : Config) : Prop :=
  ∀ s ∈ cfg.services, ∀ url ∈ s.upstreams, ∃ u, env.parse url = .ok u

/-- `BuildRuntime` succeeds on this configuration. -/
structure Buildable (env : Env) (disk : Disk) (cfg : Config) : Prop where
  tls : ∃ loaded, loadTlsConfig disk cfg.tls = .ok loaded
  backends : cfg.Parses env

/-- The active runtime is one built from the file, if one can be. -/
def Settled (env : Env) (sh : Shared) : Prop :=
  ∀ cfg, loadConfig env sh.disk.config = .ok cfg → Buildable env sh.disk cfg →
    ∃ disk, BuiltFrom disk cfg (sh.heap sh.server.runtime)

/-- No event is undelivered or unprocessed, no timer pending, no reload in progress. -/
structure Quiescent (s : System) : Prop where
  owed : s.owed = []
  queue : s.watcher.queue = []
  debounceC : s.watcher.debounceC = none
  idle : s.watcher.pc ≠ .reload

def Converged (env : Env) (s : System) : Prop :=
  Quiescent s → s.world.shared.server.state = .running → Settled env s.world.shared

/-- The last reload found the server not running. -/
def Refused (s : System) : Prop := ∃ cfg rt, s.answered = some (.rejected cfg rt)

/-- The file has changed while it was not watched, and no reload has been called since. -/
def Unnoticed (s : System) : Prop := s.world.shared.disk.config ≠ s.noticed

/-- The last reload has failed, and the key pair files have changed since its call. -/
def Unkeyed (s : System) : Prop := s.rekeyed = true ∧ ∃ err, s.answered = some (.failed err)

/-! ## Steps of the server -/

/-- Has not come to its swap or to its error. -/
def ManagerPC.undecided : ManagerPC → Bool
  | .begin | .load | .tls _ | .generation _ _ | .build _ _ _ _ | .startProber _ _ _ _ _ => true
  | .serverReload _ _ .lock | .serverReload _ _ .locking | .serverReload _ _ .check
  | .serverReload _ _ .swap => true
  | _ => false

/-- On its way to `ErrServerNotRunning`, -/
def ManagerPC.refused : ManagerPC → Bool
  | .serverReload _ _ .reject | .serverReload _ _ .rejected | .stop _ _ _
  | .recordFailure (.rejected _ _) | .returned (.rejected _ _) => true
  | _ => false

/-- or to an error from before there was a runtime. -/
def ManagerPC.failed : ManagerPC → Bool
  | .recordFailure (.failed _) | .returned (.failed _) => true
  | _ => false

/-- What the call has read is the file, and what it has loaded the key pair, unless
that has changed. -/
structure ManagerPC.OnTrack (env : Env) (noticed : Except String Bytes) (rekeyed : Bool)
    (sh : Shared) (pc : ManagerPC) : Prop where
  read : ∀ cfg, pc.config = some cfg → loadConfig env noticed = .ok cfg
  keyed : rekeyed = false → ∀ cfg tls, pc.carries sh = some (cfg, tls) →
    loadTlsConfig sh.disk cfg.tls = .ok tls

/-- The active runtime is built from the file, if its upstreams parse. -/
def Served (env : Env) (noticed : Except String Bytes) (rekeyed : Bool) (sh : Shared) : Prop :=
  ∀ cfg, loadConfig env noticed = .ok cfg → cfg.Parses env →
    (∃ disk, BuiltFrom disk cfg (sh.heap sh.server.runtime)) ∧
    (rekeyed = false → BuiltFrom sh.disk cfg (sh.heap sh.server.runtime))

/-- The file needs a key pair that does not load. -/
def Hopeless (env : Env) (noticed : Except String Bytes) (rekeyed : Bool) (sh : Shared) : Prop :=
  rekeyed = false → ∀ cfg tls, loadConfig env noticed = .ok cfg →
    loadTlsConfig sh.disk cfg.tls ≠ .ok tls

/-- What comes of a call that was on track. -/
inductive ManagerPC.Decision (env : Env) (noticed : Except String Bytes) (rekeyed : Bool)
    (sh : Shared) (pc : ManagerPC) : Prop
  | refused (h : pc.refused = true)
  | failed (h : pc.failed = true) (hopeless : Hopeless env noticed rekeyed sh)
  | served (h : Served env noticed rekeyed sh)

section
variable {env : Env} {sh sh' : Shared} {t t' : Thread} {new : List Thread}

theorem Shared.tryMu_files {op : RWMutex → Option RWMutex} (h : sh.tryMu op = some sh') :
    sh'.disk = sh.disk ∧ sh'.hasServer = sh.hasServer := by
  obtain ⟨m, -, rfl⟩ := Shared.tryMu_eq_some.mp h
  exact ⟨rfl, rfl⟩

theorem StopMove.files {r : Rid} {p p' : StopPC} (h : StopMove sh r p sh' p') :
    sh'.disk = sh.disk ∧ sh'.hasServer = sh.hasServer := by
  cases h <;> exact ⟨rfl, rfl⟩

theorem ReloadMove.files {rt : Rid} {pc pc' : ReloadPC} (h : ReloadMove rt sh pc sh' pc') :
    sh'.disk = sh.disk ∧ sh'.hasServer = sh.hasServer := by
  cases h with
  | lock hm | locking hm => exact Shared.tryMu_files hm
  | stop old move => exact move.files
  | _ => exact ⟨rfl, rfl⟩

/-- No goroutine of the server writes files. -/
theorem ThreadMove.files (h : ThreadMove env sh t sh' t' new) :
    sh'.disk = sh.disk ∧ sh'.hasServer = sh.hasServer := by
  cases h with
  | request req move =>
    cases move with
    | rLock hm => exact Shared.tryMu_files hm
    | inner _ _ _ _ _ still => exact ⟨still.disk, still.hasServer⟩
    | _ => exact ⟨rfl, rfl⟩
  | reload rt move => exact move.files
  | manager move =>
    cases move with
    | reload cfg rt move => exact move.files
    | stop cfg rt move => exact move.files
    | _ => exact ⟨rfl, rfl⟩
  | shutdown move =>
    cases move with
    | announce hm | take hm => exact Shared.tryMu_files hm
    | stop rt move => exact move.files
    | _ => exact ⟨rfl, rfl⟩
  | start move =>
    cases move with
    | failLock err hm | failLocking err hm => exact Shared.tryMu_files hm
    | listenStop rt err move | failStop rt err move => exact move.files
    | _ => exact ⟨rfl, rfl⟩
  | prober p move =>
    cases move with
    | inner _ _ still => exact ⟨still.disk, still.hasServer⟩
    | restart | exit => exact ⟨rfl, rfl⟩

theorem loadTlsConfig_congr {disk disk' : Disk} (same : disk'.keyPair = disk.keyPair)
    (tls : Option TlsConfig) : loadTlsConfig disk' tls = loadTlsConfig disk tls := by
  unfold loadTlsConfig
  rw [same]

section
variable {noticed : Except String Bytes} {rekeyed : Bool}

theorem Served.of_cfg {cfg : Config} (read : loadConfig env noticed = .ok cfg)
    (built : cfg.Parses env → (∃ disk, BuiltFrom disk cfg (sh.heap sh.server.runtime)) ∧
      (rekeyed = false → BuiltFrom sh.disk cfg (sh.heap sh.server.runtime))) :
    Served env noticed rekeyed sh := by
  intro cfg' loaded
  rw [read] at loaded
  cases loaded
  exact built

theorem Hopeless.of_load_error {err : String} (h : loadConfig env noticed = .error err) :
    Hopeless env noticed rekeyed sh := by
  intro _ cfg tls loaded
  rw [h] at loaded
  cases loaded

/-- Every upstream of the plan is one of the configuration. -/
theorem Config.Parses.parse {cfg : Config} (h : cfg.Parses env) {service url : String}
    (mem : .upstream service url ∈ buildPlan cfg) : ∃ u, env.parse url = .ok u := by
  simp only [buildPlan, List.mem_append, List.mem_flatMap, List.mem_map, List.mem_singleton] at mem
  rcases mem with ⟨s, hs, ⟨url', hurl, same⟩ | same⟩ | ⟨r, _, same⟩
  · cases same
    exact h s hs url hurl
  · cases same
  · cases same

/-- A call on track stays so until it is decided. -/
theorem ManagerMove.onTrack {pc pc' : ManagerPC} {q : Option Prober}
    (h : ManagerMove env sh pc sh' pc' q) (built : pc.Built sh) (has : sh.hasServer = true)
    (file : sh.disk.config = noticed) (undecided : pc.undecided = true)
    (track : pc.OnTrack env noticed rekeyed sh) :
    (pc'.undecided = true ∧ pc'.OnTrack env noticed rekeyed sh') ∨
    (pc'.undecided = false ∧ pc'.Decision env noticed rekeyed sh') := by
  subst file
  -- what the call has after the step it had before, or it loads it in the step
  have on (disk : sh'.disk = sh.disk)
      (config : ∀ cfg, pc'.config = some cfg → loadConfig env sh.disk.config = .ok cfg) :
      pc'.OnTrack env sh.disk.config rekeyed sh' := by
    refine ⟨config, fun still cfg tls carries => ?_⟩
    rw [disk]
    rcases h.carries carries with before | ⟨-, loaded⟩
    · exact track.keyed still cfg tls before
    · exact loaded
  cases h with
  | noServer none =>
    rw [none] at has
    cases has
  | begin => exact .inl ⟨rfl, on rfl (by rintro cfg ⟨⟩)⟩
  | loadFailed err failed => exact .inr ⟨rfl, .failed rfl (.of_load_error failed)⟩
  | loaded cfg read => exact .inl ⟨rfl, on rfl (by rintro _ ⟨⟩; exact read)⟩
  | tlsFailed cfg err failed =>
    refine .inr ⟨rfl, .failed rfl fun _ cfg' tls loaded => ?_⟩
    cases (track.read cfg rfl).symm.trans loaded
    rw [failed]
    rintro ⟨⟩
  | backendFailed cfg rt service url err todo vars failed =>
    refine .inr ⟨rfl, .served (.of_cfg (track.read cfg rfl) fun parses => ?_)⟩
    obtain ⟨items, plan, -⟩ := built
    obtain ⟨u, ok⟩ := parses.parse (plan ▸ List.mem_append_right items List.mem_cons_self)
    rw [failed] at ok
    cases ok
  | tlsLoaded | allocate | backend | service | route | startProber | offer =>
    exact .inl ⟨rfl, on rfl track.read⟩
  | reload cfg rt move =>
    cases move with
    | lock hm | locking hm => exact .inl ⟨rfl, on (Shared.tryMu_files hm).1 track.read⟩
    | accept => exact .inl ⟨rfl, on rfl track.read⟩
    | refuse => exact .inr ⟨rfl, .refused rfl⟩
    | swap =>
      refine .inr ⟨rfl, .served (.of_cfg (track.read cfg rfl) fun _ => ⟨built, fun still => ?_⟩)⟩
      obtain ⟨disk, built⟩ := built
      exact built.on (track.keyed still cfg _ rfl)
    | reject | unlock | setGeneration | recordReload | stop | stopped => cases undecided
  | accepted | refused | stop | stopped => cases undecided
  | recordFailure => cases undecided

end

theorem ManagerMove.stays_refused {pc pc' : ManagerPC} {q : Option Prober}
    (h : ManagerMove env sh pc sh' pc' q) (refused : pc.refused = true) : pc'.refused = true := by
  cases h with
  | reload cfg rt move =>
    cases move with
    | reject => rfl
    | _ => cases refused
  | refused | stop | stopped => rfl
  | recordFailure out => cases out <;> exact refused
  | _ => cases refused

theorem ManagerMove.stays_failed {pc pc' : ManagerPC} {q : Option Prober}
    (h : ManagerMove env sh pc sh' pc' q) (failed : pc.failed = true) : pc'.failed = true := by
  cases h with
  | recordFailure out => cases out <;> exact failed
  | _ => cases failed

/-- A decided call installs nothing. -/
theorem ManagerMove.decided {pc pc' : ManagerPC} {q : Option Prober}
    (h : ManagerMove env sh pc sh' pc' q) (decided : pc.undecided = false) :
    pc'.undecided = false ∧ sh'.server.runtime = sh.server.runtime := by
  cases h with
  | reload cfg rt move =>
    cases move with
    | lock | locking | accept | refuse | swap => cases decided
    | stop old move => exact ⟨rfl, by rw [move.server]⟩
    | reject | unlock | setGeneration | recordReload | stopped => exact ⟨rfl, rfl⟩
  | accepted | refused | stopped | recordFailure => exact ⟨rfl, rfl⟩
  | stop cfg rt move => exact ⟨rfl, by rw [move.server]⟩
  | _ => cases decided

end

/-- At most one call of `Manager.Reload` has not returned. -/
def Serial (w : World) : Prop :=
  ∀ (i j : Nat) (pc qc : ManagerPC), w.threads[i]? = some (Thread.manager pc) →
    w.threads[j]? = some (Thread.manager qc) → (∀ out, pc ≠ .returned out) →
    (∀ out, qc ≠ .returned out) → i = j

/-- A reload that reads the file is under way, or what came of the last one. -/
inductive Tracked (env : Env) (last : Option Nat) (noticed : Except String Bytes) (rekeyed : Bool)
    (w : World) : Prop
  | reloading (i : Nat) (pc : ManagerPC) (at_ : w.threads[i]? = some (Thread.manager pc))
      (mine : last = some i) (undecided : pc.undecided = true)
      (track : pc.OnTrack env noticed rekeyed w.shared)
  | refused (i : Nat) (pc : ManagerPC) (at_ : w.threads[i]? = some (Thread.manager pc))
      (mine : last = some i) (h : pc.refused = true)
  | failed (i : Nat) (pc : ManagerPC) (at_ : w.threads[i]? = some (Thread.manager pc))
      (mine : last = some i) (h : pc.failed = true)
      (hopeless : Hopeless env noticed rekeyed w.shared)
  | served (idle : ∀ pc, .manager pc ∈ w.threads → pc.undecided = false)
      (h : Served env noticed rekeyed w.shared)

section
variable {env : Env} {w w' : World} {a : Action} {last : Option Nat}
  {noticed : Except String Bytes} {rekeyed : Bool}

theorem ManagerPC.not_returned {pc : ManagerPC} (undecided : pc.undecided = true) :
    ∀ out, pc ≠ .returned out := by
  rintro out rfl
  cases undecided

/-- Beside an undecided call every other one has returned. -/
theorem Serial.others (h : Serial w) {i : Nat} {pc : ManagerPC}
    (at_ : w.threads[i]? = some (Thread.manager pc)) (undecided : pc.undecided = true) {j : Nat}
    {qc : ManagerPC} (other : w.threads[j]? = some (Thread.manager qc)) (ne : j ≠ i) :
    qc.undecided = false := by
  cases hq : qc.undecided with
  | false => rfl
  | true =>
    exact absurd (h j i qc pc other at_ (ManagerPC.not_returned hq)
      (ManagerPC.not_returned undecided)) ne

theorem Served.step (h : Served env noticed rekeyed w.shared) (history : History w)
    (m : Moved (machine env) w a w') (disk : w'.shared.disk = w.shared.disk)
    (runtime : w'.shared.server.runtime = w.shared.server.runtime) :
    Served env noticed rekeyed w'.shared := by
  intro cfg read parses
  have same := history.blueprint m history.active_mem
  obtain ⟨⟨d, built⟩, now⟩ := h cfg read parses
  rw [disk, runtime]
  exact ⟨⟨d, built.of_blueprint same⟩, fun still => (now still).of_blueprint same⟩

/-- Who moves the active runtime: an undecided managed reload, or a direct one. -/
theorem ThreadMove.runtime {sh sh' : Shared} {t t' : Thread} {new : List Thread}
    (h : ThreadMove env sh t sh' t' new) (managed : ∀ rt pc, t ≠ .reload rt pc)
    (decided : ∀ pc, t = .manager pc → pc.undecided = false) :
    sh'.server.runtime = sh.server.runtime := by
  cases h with
  | request req move => exact move.fixed.runtime
  | reload rt move => exact absurd rfl (managed rt _)
  | manager move => exact (move.decided (decided _ rfl)).2
  | shutdown move => exact move.fixed.runtime
  | start move => exact move.fixed.runtime
  | prober p move => exact move.fixed.runtime

theorem Tracked.step_undecided {i : Nat} {pc : ManagerPC} (serial : Serial w)
    (building : Building w) (has : w.shared.hasServer = true)
    (file : w.shared.disk.config = noticed)
    (at_ : w.threads[i]? = some (Thread.manager pc)) (mine : last = some i)
    (undecided : pc.undecided = true) (track : pc.OnTrack env noticed rekeyed w.shared)
    {sh' : Shared} {t' : Thread} {new : List Thread}
    (move : ThreadMove env w.shared (.manager pc) sh' t' new) :
    Tracked env last noticed rekeyed ⟨sh', w.threads.set i t' ++ new⟩ := by
  have started := move.starts
  cases move with
  | @manager _ _ pc' _ move =>
    rcases move.onTrack (building pc (List.mem_of_getElem? at_)) has file undecided track with
      ⟨undecided', track'⟩ | ⟨decided, decision⟩
    · exact .reloading i pc' (getElem?_moved _ at_) mine undecided' track'
    · cases decision with
      | refused refused => exact .refused i pc' (getElem?_moved _ at_) mine refused
      | failed failed hopeless => exact .failed i pc' (getElem?_moved _ at_) mine failed hopeless
      | served served =>
        refine .served ?_ served
        intro qc mem
        rcases mem_moved mem with same | fresh | ⟨j, ne, other⟩
        · cases same
          exact decided
        · obtain ⟨p, hp⟩ := started _ fresh
          cases hp
        · exact serial.others at_ undecided other ne

/-- A manager's thread has what no step of a manager takes from it. -/
theorem manager_keeps {P : ManagerPC → Prop}
    (keep : ∀ sh pc sh' pc' q, ManagerMove env sh pc sh' pc' q → P pc → P pc')
    (m : Moved (machine env) w a w') {i : Nat} {pc : ManagerPC}
    (at_ : w.threads[i]? = some (Thread.manager pc)) (h : P pc) :
    ∃ pc', w'.threads[i]? = some (Thread.manager pc') ∧ P pc' := by
  rcases m.thread at_ with stays | ⟨k, sh', t', new, -, fires, -, moved⟩
  · exact ⟨pc, stays, h⟩
  · have move : ThreadMove env w.shared (.manager pc) sh' t' new := Thread.step_move (c := k) fires
    cases move with
    | manager move => exact ⟨_, moved, keep _ _ _ _ _ move h⟩

theorem step_files (outside : ofServer a = true) (m : Moved (machine env) w a w') :
    w'.shared.disk = w.shared.disk := by
  cases m with
  | step at_ fires => exact (Thread.step_move fires).files.1
  | enter fires => cases enter_move fires <;> rfl
  | change fires => cases outside

theorem Tracked.step (h : Tracked env last noticed rekeyed w) (serial : Serial w)
    (consistent : Consistent w) (history : History w) (building : Building w)
    (noDirect : NoDirect w) (has : w.shared.hasServer = true)
    (file : ∀ i pc, last = some i → w.threads[i]? = some (Thread.manager pc) →
      (∀ out, pc ≠ .returned out) → w.shared.disk.config = noticed)
    (outside : ofServer a = true) (hs : World.step env w a = some w') :
    Tracked env last noticed rekeyed w' := by
  have m := Machine.next_moved hs
  have disk := step_files outside m
  cases h with
  | reloading j pc here mine undecided track =>
    rcases m.fate here with ⟨other, stays⟩ | ⟨k, -, -, -, rfl, -⟩
    · refine .reloading j pc stays mine undecided ⟨track.read, fun still cfg tls carries => ?_⟩
      rw [disk]
      refine track.keyed still cfg tls (Eq.trans ?_ carries)
      exact (ManagerPC.carries_same fun r hr =>
        Building.blueprint consistent history m here other hr).symm
    · cases m with
      | @step _ _ t sh' t' new at_ fires =>
        have move : ThreadMove env w.shared t sh' t' new := Thread.step_move fires
        cases at_.symm.trans here
        exact Tracked.step_undecided serial building has
          (file j pc mine here (ManagerPC.not_returned undecided)) here mine undecided track move
  | refused j pc here mine refused =>
    obtain ⟨pc', there, refused'⟩ :=
      manager_keeps (P := (·.refused = true)) (fun _ _ _ _ _ move => move.stays_refused) m here refused
    exact .refused j pc' there mine refused'
  | failed j pc here mine failed hopeless =>
    obtain ⟨pc', there, failed'⟩ :=
      manager_keeps (P := (·.failed = true)) (fun _ _ _ _ _ move => move.stays_failed) m here failed
    refine .failed j pc' there mine failed' ?_
    rw [Hopeless, disk]
    exact hopeless
  | served idle served =>
    have keep := m
    cases m with
    | @step i c t sh' t' new at_ fires =>
      have move : ThreadMove env w.shared t sh' t' new := Thread.step_move fires
      have ht := List.mem_of_getElem? at_
      have decided : ∀ pc, t = .manager pc → pc.undecided = false := by
        rintro pc rfl
        exact idle pc ht
      refine .served ?_ (served.step history keep disk
        (move.runtime (fun rt pc => noDirect t ht rt pc) decided))
      intro qc mem
      rcases mem_moved mem with same | fresh | ⟨j, -, other⟩
      · subst same
        cases move with
        | manager move => exact (move.decided (decided _ rfl)).1
      · obtain ⟨p, hp⟩ := move.starts _ fresh
        cases hp
      · exact idle qc (List.mem_of_getElem? other)
    | @enter x sh' t fires =>
      have files : sh'.server.runtime = w.shared.server.runtime ∧ ∀ pc, t ≠ .manager pc := by
        cases enter_move fires with
        | request | shutdown => exact ⟨rfl, by rintro pc ⟨⟩⟩
        | reload | manager => cases outside
      refine .served ?_ (served.step history keep disk files.1)
      intro qc mem
      rcases List.mem_append.mp mem with mem | mem
      · exact idle qc mem
      · exact absurd (List.mem_singleton.mp mem).symm (files.2 qc)
    | change fires => cases outside

/-- What others write to the files does not matter until a reload reads it, but for
the key pair. -/
theorem Tracked.setDisk (h : Tracked env last noticed rekeyed w) {disk : Disk} {rekeyed' : Bool}
    (still : rekeyed' = false → rekeyed = false ∧ disk.keyPair = w.shared.disk.keyPair) :
    Tracked env last noticed rekeyed' ⟨{ w.shared with disk := disk }, w.threads⟩ := by
  cases h with
  | reloading i pc at_ mine undecided track =>
    refine .reloading i pc at_ mine undecided ⟨track.read, fun now cfg tls carries => ?_⟩
    obtain ⟨before, same⟩ := still now
    exact (loadTlsConfig_congr same cfg.tls).trans (track.keyed before cfg tls carries)
  | refused i pc at_ mine refused => exact .refused i pc at_ mine refused
  | failed i pc at_ mine failed hopeless =>
    refine .failed i pc at_ mine failed fun now cfg tls loaded => ?_
    obtain ⟨before, same⟩ := still now
    exact fun ok => hopeless before cfg tls loaded ((loadTlsConfig_congr same cfg.tls).symm.trans ok)
  | served idle served =>
    refine .served idle fun cfg loaded parses => ?_
    obtain ⟨built, now⟩ := served cfg loaded parses
    refine ⟨built, fun now' => ?_⟩
    obtain ⟨before, same⟩ := still now'
    exact (now before).on ((loadTlsConfig_congr same cfg.tls).trans (now before).tlsConfig)

end

/-! ## Steps of the process -/

/-- A reload that will read the file is on its way, or the last one is accounted for. -/
inductive Covered (env : Env) (wd : Except String Bytes) (path : Bytes) (s : System) : Prop
  | owed (e : Event) (mem : e ∈ s.owed) (hit : relevant wd path e = true)
  | queued (e : Event) (mem : e ∈ s.watcher.queue) (hit : relevant wd path e = true)
  | armed (h : s.watcher.debounceC.isSome = true)
  | tracked (h : Tracked env s.reloading s.noticed s.rekeyed s.world)

structure Converging (env : Env) (wd : Except String Bytes) (path : Bytes) (s : System) : Prop where
  consistent : Consistent s.world
  history : History s.world
  building : Building s.world
  noDirect : NoDirect s.world
  hasServer : s.world.shared.hasServer = true
  debouncing : Debouncing wd path s.watcher
  single : ∀ (i : Nat) (pc : ManagerPC), s.world.threads[i]? = some (Thread.manager pc) →
    (∃ out, pc = .returned out) ∨ s.watcher.pc = .reload ∧ s.reloading = some i
  /-- During a reload every write yields an event. -/
  file : s.watcher.pc = .reload → s.world.shared.disk.config = s.noticed
  covered : Covered env wd path s

section
variable {env : Env} {wd : Except String Bytes} {path : Bytes} {s s' : System} {a : SystemAction}

theorem Converging.serial (h : Converging env wd path s) : Serial s.world := by
  intro i j pc qc hi hj live live'
  rcases h.single i pc hi with ⟨out, rfl⟩ | ⟨-, here⟩
  · exact absurd rfl (live out)
  · rcases h.single j qc hj with ⟨out, rfl⟩ | ⟨-, there⟩
    · exact absurd rfl (live' out)
    · exact Option.some.inj (here.symm.trans there)

/-- Every step of the process is one of the server's machine, or leaves that alone. -/
theorem SystemMove.world (h : SystemMove env wd s a s') :
    s'.world = s.world ∨
      ∃ b, Managed s.world b ∧ World.step env s.world b = some s'.world := by
  cases h with
  | server b w outside step =>
    refine .inr ⟨b, ?_, step⟩
    rintro rt rfl
    cases outside
  | watcher | done => exact .inl rfl
  | call => exact .inr ⟨.call .manager, by rintro rt ⟨⟩, rfl⟩
  | write content | unnoticed content =>
    exact .inr ⟨.env { s.world.shared.disk with config := .ok content }, by rintro rt ⟨⟩, rfl⟩
  | rekey keyPair =>
    exact .inr ⟨.env { s.world.shared.disk with keyPair := keyPair }, by rintro rt ⟨⟩, rfl⟩

theorem hasServer_step {w w' : World} {b : Action} (m : Moved (machine env) w b w') :
    w'.shared.hasServer = w.shared.hasServer := by
  cases m with
  | step at_ fires => exact (Thread.step_move fires).files.2
  | enter fires => cases enter_move fires <;> rfl
  | change fires => cases fires; rfl

/-- A manager's thread after a step of the server: it was there, and if it had
returned it is as it was. -/
theorem manager_origin {w w' : World} {b : Action} (outside : ofServer b = true)
    (m : Moved (machine env) w b w') {i : Nat} {pc : ManagerPC}
    (hi : w'.threads[i]? = some (Thread.manager pc)) :
    ∃ qc, w.threads[i]? = some (Thread.manager qc) ∧ ((∃ out, qc = .returned out) → pc = qc) := by
  rcases m.origin hi with before | ⟨t, c, sh', new, rfl, before, fires, -⟩ |
    ⟨t, c, sh', t', new, -, fires, started, -⟩ | ⟨x, sh', rfl, fires, -⟩
  · exact ⟨pc, before, fun _ => rfl⟩
  · have move : ThreadMove env w.shared t sh' (.manager pc) new := Thread.step_move fires
    cases move with
    | manager move =>
      refine ⟨_, before, ?_⟩
      rintro ⟨out, rfl⟩
      cases move
  · obtain ⟨p, hp⟩ := (Thread.step_move fires).starts _ started
    cases hp
  · cases enter_move fires
    cases outside

/-- Only the reload the loop waits for has not returned. -/
theorem SystemMove.single (m : SystemMove env wd s a s')
    (h : ∀ (i : Nat) (pc : ManagerPC), s.world.threads[i]? = some (Thread.manager pc) →
      (∃ out, pc = .returned out) ∨ s.watcher.pc = .reload ∧ s.reloading = some i) :
    ∀ (i : Nat) (pc : ManagerPC), s'.world.threads[i]? = some (Thread.manager pc) →
      (∃ out, pc = .returned out) ∨ s'.watcher.pc = .reload ∧ s'.reloading = some i := by
  cases m with
  | server b w outside step =>
    intro i pc hi
    obtain ⟨qc, before, stays⟩ := manager_origin outside (Machine.next_moved step) hi
    rcases h i qc before with returned | here
    · rw [stays returned]
      exact .inl returned
    · exact .inr here
  | watcher b v owed step same kept =>
    intro i pc hi
    rcases h i pc hi with returned | ⟨busy, here⟩
    · exact .inl returned
    · exact .inr ⟨same.mpr busy, here⟩
  | call b t site step =>
    intro i pc hi
    by_cases lt : i < s.world.threads.length
    · simp only [System.callReload, List.getElem?_append_left lt] at hi
      rcases h i pc hi with returned | ⟨busy, -⟩
      · exact .inl returned
      · rw [site] at busy
        cases busy
    · have le := Nat.not_lt.mp lt
      simp only [System.callReload, List.getElem?_append_right le] at hi
      have zero : i - s.world.threads.length = 0 := by
        have lt := (List.getElem?_eq_some_iff.mp hi).1
        simp only [List.length_singleton] at lt
        omega
      have last : i = s.world.threads.length := by omega
      exact .inr ⟨rfl, congrArg some last.symm⟩
  | done out v site answered step =>
    intro i pc hi
    rcases h i pc hi with returned | ⟨-, here⟩
    · exact .inl returned
    · simp only [System.answered, here, Option.bind_some, hi] at answered
      split at answered
      · rename_i same
        cases same
        exact .inl ⟨_, rfl⟩
      · cases answered
  | write | unnoticed | rekey => exact h

theorem Watcher.queue_kept {w v : Watcher} {b : WatcherAction} (h : Debouncing wd path w)
    (step : w.next wd b = some v) {e : Event} (mem : e ∈ w.queue)
    (hit : relevant wd path e = true) : e ∈ v.queue ∨ v.debounceC.isSome = true := by
  cases Watcher.next_move step with
  | quiet quiet _ =>
    obtain ⟨more, queue⟩ := quiet.queue
    exact .inl (queue ▸ List.mem_append_left more mem)
  | skip c e' site other =>
    have irrelevant := h.irrelevant site other
    simp only [Watcher.queue, site, List.mem_cons] at mem
    rcases mem with rfl | mem
    · rw [irrelevant] at hit
      cases hit
    · exact .inl mem
  | arm => exact .inr rfl
  | receive t site => exact .inl (by simpa [Watcher.queue, site, Watcher.receive] using mem)
  | call c t site => exact .inl (by simpa [Watcher.queue, site, Watcher.callReload] using mem)
  | done c pc site next =>
    rcases next with rfl | rfl <;> exact .inl (by simpa [Watcher.queue, site] using mem)

theorem Watcher.armed_kept {w v : Watcher} {b : WatcherAction} (step : w.next wd b = some v)
    (armed : w.debounceC.isSome = true) :
    v.debounceC.isSome = true ∨ w.pc ≠ .reload ∧ v.pc = .reload := by
  cases Watcher.next_move step with
  | quiet quiet _ => exact .inl (quiet.debounceC ▸ armed)
  | skip | receive | done => exact .inl armed
  | arm => exact .inl rfl
  | call c t site => exact .inr ⟨by simp [site], rfl⟩

theorem Watcher.deliver_queue {w v : Watcher} {e : Event}
    (step : w.next wd (.deliver e) = some v) : e ∈ v.queue := by
  simp only [Watcher.next] at step
  split at step <;> cases step
  cases hp : w.pc <;> simp [Watcher.queue]

theorem Converging.step_server {b : Action} {w : World} (h : Converging env wd path s)
    (outside : ofServer b = true) (step : World.step env s.world b = some w) :
    Covered env wd path { s with world := w } := by
  cases h.covered with
  | owed e mem hit => exact .owed e mem hit
  | queued e mem hit => exact .queued e mem hit
  | armed some => exact .armed some
  | tracked track =>
    refine .tracked (track.step h.serial h.consistent h.history h.building h.noDirect h.hasServer
      ?_ outside step)
    intro i pc mine at_ live
    rcases h.single i pc at_ with ⟨out, rfl⟩ | ⟨busy, -⟩
    · exact absurd rfl (live out)
    · exact h.file busy

theorem Converging.step_watcher {b : WatcherAction} {v : Watcher} (h : Converging env wd path s)
    (step : s.watcher.next wd b = some v) (outside : s.watcher.pc ≠ .reload → v.pc ≠ .reload)
    {owed : List Event} (kept : ∀ e ∈ s.owed, e ∈ owed ∨ b = .deliver e) :
    Covered env wd path { s with watcher := v, owed := owed } := by
  cases h.covered with
  | owed e mem hit =>
    rcases kept e mem with mem | rfl
    · exact .owed e mem hit
    · exact .queued e (Watcher.deliver_queue step) hit
  | queued e mem hit =>
    rcases Watcher.queue_kept h.debouncing step mem hit with mem | some
    · exact .queued e mem hit
    · exact .armed some
  | armed some =>
    rcases Watcher.armed_kept step some with some | ⟨site, busy⟩
    · exact .armed some
    · exact absurd busy (outside site)
  | tracked track => exact .tracked track

theorem Covered.setDisk (h : Covered env wd path s) {disk : Disk} {rekeyed : Bool}
    (still : rekeyed = false → s.rekeyed = false ∧ disk.keyPair = s.world.shared.disk.keyPair) :
    Covered env wd path { s.setDisk disk with rekeyed := rekeyed } := by
  cases h with
  | owed e mem hit => exact .owed e mem hit
  | queued e mem hit => exact .queued e mem hit
  | armed some => exact .armed some
  | tracked track => exact .tracked (track.setDisk still)

theorem Converging.step_covered (h : Converging env wd path s) (m : SystemMove env wd s a s') :
    Covered env wd path s' := by
  cases m with
  | server b w outside step => exact h.step_server outside step
  | watcher b v owed step same kept => exact h.step_watcher step (fun site busy => site (same.mp busy)) kept
  | call b t site step =>
    -- the pending timer has become a reload that has read nothing yet
    refine .tracked (.reloading s.world.threads.length .begin ?_ rfl rfl
      ⟨by rintro cfg ⟨⟩, by rintro _ cfg tls ⟨⟩⟩)
    simp [System.callReload]
  | done out v site answered step =>
    exact h.step_watcher step (fun there => absurd site there) fun e mem => .inl mem
  | write content e added hit =>
    rw [h.debouncing.configPath] at hit
    exact .owed e (List.mem_append_right s.owed List.mem_cons_self) hit
  | unnoticed content e out => exact h.covered.setDisk fun still => ⟨still, rfl⟩
  | rekey keyPair => exact h.covered.setDisk (by rintro ⟨⟩)

theorem Converging.step_file (h : Converging env wd path s) (m : SystemMove env wd s a s') :
    s'.watcher.pc = .reload → s'.world.shared.disk.config = s'.noticed := by
  cases m with
  | server b w outside step =>
    intro busy
    rw [step_files outside (Machine.next_moved step)]
    exact h.file busy
  | watcher b v owed step same kept => exact fun busy => h.file (same.mp busy)
  | call => exact fun _ => rfl
  | done out v site answered step => exact fun busy => absurd busy (Watcher.start_leaves step site)
  | write => exact fun _ => rfl
  | unnoticed content e out =>
    intro busy
    have inside : s.watcher.pc.added = true := by rw [show s.watcher.pc = .reload from busy]; rfl
    rw [out] at inside
    cases inside
  | rekey => exact h.file

theorem Converging.step (h : Converging env wd path s) (hs : s.step env wd a = some s') :
    Converging env wd path s' := by
  have m := System.step_move hs
  have single := m.single h.single
  have covered := h.step_covered m
  have file := h.step_file m
  have debouncing : Debouncing wd path s'.watcher := by
    cases m with
    | server | write | unnoticed | rekey => exact h.debouncing
    | watcher b v owed step => exact h.debouncing.step step
    | call b t site step => exact h.debouncing.step step
    | done out v site answered step => exact h.debouncing.step step
  rcases m.world with same | ⟨b, managed, step⟩
  · exact ⟨same ▸ h.consistent, same ▸ h.history, same ▸ h.building, same ▸ h.noDirect,
      same ▸ h.hasServer, debouncing, single, file, covered⟩
  · exact ⟨h.consistent.step step, h.history.step h.consistent step,
      h.building.step h.consistent h.history step, h.noDirect.step managed step,
      (hasServer_step (Machine.next_moved step)).trans h.hasServer, debouncing, single, file, covered⟩

theorem Boot.converging (h : Boot env s) : ∃ path, Converging env wd path s := by
  obtain ⟨path, watcher⟩ := h.watcher
  obtain ⟨cfg, read, built⟩ := h.built
  have fresh := h.starting.toFresh
  have none : ∀ pc, .manager pc ∉ s.world.threads := by
    intro pc ht
    rcases fresh.threads _ ht with ⟨p, q, hp, -⟩ | hp <;> cases hp
  refine ⟨path, fresh.consistent rfl, fresh.history, fresh.building, fresh.noDirect, h.hasServer,
    watcher ▸ Debouncing.new wd path, ?_, fun _ => h.noticed.symm, .tracked (.served ?_ ?_)⟩
  · intro i pc hi
    exact absurd (List.mem_of_getElem? hi) (none pc)
  · intro pc ht
    exact absurd ht (none pc)
  · refine .of_cfg (h.noticed ▸ read) fun _ => ?_
    rw [fresh.runtime]
    exact ⟨⟨_, built⟩, fun _ => built⟩

/-- In a quiescent state nothing is on its way to a reload any more, -/
theorem Converging.tracked (h : Converging env wd path s) (quiet : Quiescent s) :
    Tracked env s.reloading s.noticed s.rekeyed s.world := by
  cases h.covered with
  | owed e mem =>
    rw [quiet.owed] at mem
    cases mem
  | queued e mem =>
    rw [quiet.queue] at mem
    cases mem
  | armed some =>
    rw [quiet.debounceC] at some
    cases some
  | tracked track => exact track

/-- and the last one has returned. -/
theorem Converging.returned (h : Converging env wd path s) (quiet : Quiescent s) {i : Nat}
    {pc : ManagerPC} (at_ : s.world.threads[i]? = some (Thread.manager pc))
    (mine : s.reloading = some i) : ∃ out, pc = .returned out ∧ s.answered = some out := by
  rcases h.single i pc at_ with ⟨out, rfl⟩ | ⟨busy, -⟩
  · exact ⟨out, rfl, by simp [System.answered, mine, at_]⟩
  · exact absurd busy quiet.idle

/-- **Convergence.** A quiescent server has a runtime built from the file, if one can be
built: unless its last reload found it not running, or the file has changed while it
was not watched and no reload came after that, or the last reload has failed and the
key pair files were changed after its call. Where these were not changed at all since
that call, the runtime has the key pair that they hold. -/
theorem configuration_converges {s₀ : System} (boot : Boot env s₀)
    (r : System.Run env wd (fun _ _ => True) s₀ s) (accepted : ¬ Refused s)
    (noticed : ¬ Unnoticed s) (keyed : ¬ Unkeyed s) (quiet : Quiescent s) :
    Settled env s.world.shared ∧
    (s.rekeyed = false →
      ∀ cfg, loadConfig env s.world.shared.disk.config = .ok cfg →
        Buildable env s.world.shared.disk cfg →
        BuiltFrom s.world.shared.disk cfg (s.world.shared.heap s.world.shared.server.runtime)) := by
  obtain ⟨path, init⟩ := boot.converging
  have converging : Converging env wd path s :=
    r.invariant (Converging env wd path) init fun _ _ _ _ inv _ hs => inv.step hs
  have file : s.world.shared.disk.config = s.noticed := not_not.mp noticed
  have both (cfg : Config) (loaded : loadConfig env s.world.shared.disk.config = .ok cfg)
      (able : Buildable env s.world.shared.disk cfg) :
      (∃ disk, BuiltFrom disk cfg (s.world.shared.heap s.world.shared.server.runtime)) ∧
      (s.rekeyed = false → BuiltFrom s.world.shared.disk cfg
        (s.world.shared.heap s.world.shared.server.runtime)) := by
    rw [file] at loaded
    cases converging.tracked quiet with
    | reloading i pc at_ mine undecided =>
      obtain ⟨out, rfl, -⟩ := converging.returned quiet at_ mine
      cases undecided
    | refused i pc at_ mine refused =>
      obtain ⟨out, rfl, answered⟩ := converging.returned quiet at_ mine
      cases out with
      | rejected cfg rt => exact absurd ⟨cfg, rt, answered⟩ accepted
      | accepted | abandoned | failed => cases refused
    | failed i pc at_ mine failed hopeless =>
      obtain ⟨out, rfl, answered⟩ := converging.returned quiet at_ mine
      cases out with
      | failed err =>
        have still : s.rekeyed = false := by
          by_contra changed
          exact keyed ⟨by simpa using changed, err, answered⟩
        obtain ⟨tls, ok⟩ := able.tls
        exact absurd ok (hopeless still cfg tls loaded)
      | accepted | rejected | abandoned => cases failed
    | served idle served => exact served cfg loaded able.backends
  exact ⟨fun cfg loaded able => (both cfg loaded able).1,
    fun still cfg loaded able => (both cfg loaded able).2 still⟩

end

/-! ## Changes that are lost -/

/-- `sampleFile` with the route at another path, -/
def movedFile : Bytes :=
  ["apiVersion: v2\n", "server:\n", "  addr: \":8080\"\n", "health:\n", "  interval_ms: 1000\n",
    "  timeout_ms: 500\n", "  path: /health\n", "services:\n", "  - name: api\n",
    "    upstreams:\n", "      - http://10.0.0.1:9000\n", "routes:\n", "  - path: /v2\n",
    "    service: api\n"].flatMap bytes

/-- and this with a key pair. -/
def securedFile : Bytes :=
  movedFile ++ ["tls:\n", "  cert_file: cert.pem\n", "  key_file: key.pem\n"].flatMap bytes

def movedConfig : Config := { sampleConfig with routes := [⟨"/v2", "api"⟩] }

def securedConfig : Config := { movedConfig with tls := some ⟨"cert.pem", "key.pem", ""⟩ }

def fileEnv : Env :=
  { sampleEnv with
    unmarshal := fun content =>
      if content = movedFile then .ok movedConfig
      else if content = securedFile then .ok securedConfig
      else sampleEnv.unmarshal content }

def sampleSystem : System :=
  ⟨sampleStart, .new samplePath, none, [], sampleStart.shared.disk.config, false⟩

theorem sampleSystem_boot : Boot fileEnv sampleSystem := by
  refine ⟨sampleStart_starting, rfl, ⟨sampleConfig, ?_, 1, none, rfl, rfl⟩, ⟨samplePath, rfl⟩,
    ⟨rfl, rfl⟩, rfl, rfl⟩
  exact eq_ok_of_toOption (by decide +kernel)

theorem movedFile_loads : loadConfig fileEnv (.ok movedFile) = .ok movedConfig :=
  eq_ok_of_toOption (by decide +kernel)

theorem securedFile_loads : loadConfig fileEnv (.ok securedFile) = .ok securedConfig :=
  eq_ok_of_toOption (by decide +kernel)

theorem movedConfig_parses : movedConfig.Parses fileEnv := by
  intro s hs url hurl
  obtain rfl := List.mem_singleton.mp hs
  obtain rfl := List.mem_singleton.mp hurl
  exact ⟨_, rfl⟩

/-- Steps of the server's goroutines. -/
def serves (as : List Action) : List SystemAction := as.map .server

def watches (cs : List WatcherChoice) : List SystemAction := cs.map (.watcher <| .run ·)

/-- `Start` listens and puts the server in service. -/
def started : List SystemAction := serves (goes 0 2 ++ [.run 0 .ok] ++ goes 0 3)

/-- The directory watch is added. -/
def watched : List SystemAction := watches [.ok, .go, .ok]

/-- The file is rewritten; the event comes, the timer fires and `Reload` is called. -/
def rewritten (content : Bytes) (timer : Nat) : List SystemAction :=
  [.write content sampleWrite, .deliver] ++ watches [.events, .go] ++ [.watcher (.fire timer)] ++
    watches [.debounceC, .go]

/-- In quiet service, with this file on disk and one route to serve. -/
structure Serves (file path : Bytes) (s : System) : Prop where
  quiet : s.owed = [] ∧ s.watcher.queue = [] ∧ s.watcher.debounceC = none ∧ s.watcher.pc = .select
  running : s.world.shared.server.state = .running
  file : s.world.shared.disk.config.toOption = some file
  routes : (s.world.shared.heap s.world.shared.server.runtime).router.routes = [(path, some 0)]

instance (file path : Bytes) : DecidablePred (Serves file path) := fun s =>
  decidable_of_iff
    ((s.owed = [] ∧ s.watcher.queue = [] ∧ s.watcher.debounceC = none ∧ s.watcher.pc = .select) ∧
      s.world.shared.server.state = .running ∧
      s.world.shared.disk.config.toOption = some file ∧
      (s.world.shared.heap s.world.shared.server.runtime).router.routes = [(path, some 0)])
    ⟨fun ⟨a, b, c, d⟩ => ⟨a, b, c, d⟩, fun ⟨a, b, c, d⟩ => ⟨a, b, c, d⟩⟩

section
variable {file path : Bytes} {s : System}

theorem Serves.quiescent (h : Serves file path s) : Quiescent s := by
  obtain ⟨owed, queue, debounceC, site⟩ := h.quiet
  exact ⟨owed, queue, debounceC, by simp [site]⟩

theorem Serves.config (h : Serves file path s) : s.world.shared.disk.config = .ok file :=
  eq_ok_of_toOption h.file

theorem Serves.noticed (h : Serves file path s) (noticed : s.noticed.toOption = some file) :
    ¬ Unnoticed s := by
  rw [Unnoticed, h.config, eq_ok_of_toOption noticed]
  exact not_not_intro rfl

/-- The file moves the route, and the old one is still served. -/
theorem Serves.not_converged (h : Serves file (bytes "/api") s) {cfg : Config}
    (loads : loadConfig fileEnv (.ok file) = .ok cfg)
    (able : Buildable fileEnv s.world.shared.disk cfg)
    (moved : ∀ generation tls,
      (buildRuntime generation cfg tls).router.routes = [(bytes "/v2", some 0)]) :
    ¬ Converged fileEnv s := by
  intro converged
  obtain ⟨disk, generation, tls, -, built⟩ :=
    converged h.quiescent h.running cfg (by rw [h.config, loads]) able
  have same : (s.world.shared.heap s.world.shared.server.runtime).router.routes =
      (buildRuntime generation cfg tls).router.routes := by
    rw [← built]
    rfl
  rw [h.routes, moved] at same
  revert same
  decide

end

/-- The server runs before the file changes: the reload is accepted. -/
theorem configuration_converges_sample :
    ∃ s, System.Run fileEnv (.error "getwd") (fun _ _ => True) sampleSystem s ∧
      Serves movedFile (bytes "/v2") s ∧
      BuiltFrom s.world.shared.disk movedConfig
        (s.world.shared.heap s.world.shared.server.runtime) := by
  obtain ⟨s, r, serves, noticed, still, answered⟩ := Exec.exists_run_of_execWhile
    (System.step fileEnv (.error "getwd")) (fun _ _ => True) sampleSystem
    (started ++ watched ++ rewritten movedFile 0 ++ serves (goes 2 18 ++ proberExits 1 ++ goes 2 3) ++
      watches [.go])
    (fun s => Serves movedFile (bytes "/v2") s ∧ s.noticed.toOption = some movedFile ∧
      s.rekeyed = false ∧ s.answered = some (.accepted movedConfig 1 0)) (by decide +kernel)
  have accepted : ¬ Refused s := by simp [Refused, answered]
  have keyed : ¬ Unkeyed s := by simp [Unkeyed, still]
  have built := (configuration_converges sampleSystem_boot r accepted (serves.noticed noticed) keyed
    serves.quiescent).2 still movedConfig (by rw [serves.config, movedFile_loads])
    ⟨⟨none, rfl⟩, movedConfig_parses⟩
  exact ⟨s, r, serves, built⟩

/-- None of the three exceptions can be left out. The first reload comes while `Start`
has not listened yet and is refused, and nothing repeats it. The second change comes
before the watch is in place. The third one needs a key pair that is put there after
the reload has failed. -/
theorem configuration_lost :
    (¬ ∀ (env : Env) (wd : Except String Bytes) (s₀ s : System), Boot env s₀ →
      System.Run env wd (fun _ _ => True) s₀ s → Converged env s) ∧
    (¬ ∀ (env : Env) (wd : Except String Bytes) (s₀ s : System), Boot env s₀ →
      System.Run env wd (fun _ _ => True) s₀ s → ¬ Unnoticed s → ¬ Unkeyed s → Converged env s) ∧
    (¬ ∀ (env : Env) (wd : Except String Bytes) (s₀ s : System), Boot env s₀ →
      System.Run env wd (fun _ _ => True) s₀ s → ¬ Refused s → ¬ Unkeyed s → Converged env s) ∧
    ¬ ∀ (env : Env) (wd : Except String Bytes) (s₀ s : System), Boot env s₀ →
      System.Run env wd (fun _ _ => True) s₀ s → ¬ Refused s → ¬ Unnoticed s → Converged env s := by
  have unmoved {s : System} (serves : Serves movedFile (bytes "/api") s) : ¬ Converged fileEnv s :=
    serves.not_converged movedFile_loads ⟨⟨none, rfl⟩, movedConfig_parses⟩ fun _ _ => rfl
  obtain ⟨refused, toRefused, refusedServes, noticed, unchanged⟩ := Exec.exists_run_of_execWhile
    (System.step fileEnv (.error "getwd")) (fun _ _ => True) sampleSystem
    (watched ++ rewritten movedFile 0 ++ serves (goes 2 16 ++ proberExits 3 ++ goes 2 3) ++
      watches [.go, .go] ++ started)
    (fun s => Serves movedFile (bytes "/api") s ∧ s.noticed.toOption = some movedFile ∧
      s.rekeyed = false) (by decide +kernel)
  obtain ⟨early, toEarly, earlyServes, unanswered, unchanged'⟩ := Exec.exists_run_of_execWhile
    (System.step fileEnv (.error "getwd")) (fun _ _ => True) sampleSystem
    ([.write movedFile sampleWrite] ++ watched ++ started)
    (fun s => Serves movedFile (bytes "/api") s ∧ s.answered = none ∧ s.rekeyed = false)
    (by decide +kernel)
  obtain ⟨late, toLate, lateServes, noticed', failed, keyed⟩ := Exec.exists_run_of_execWhile
    (System.step fileEnv (.error "getwd")) (fun _ _ => True) sampleSystem
    (started ++ watched ++ rewritten securedFile 0 ++ serves (goes 2 4) ++ watches [.go, .go] ++
      [.rekey fun _ _ => .ok ⟨0⟩])
    (fun s => Serves securedFile (bytes "/api") s ∧ s.noticed.toOption = some securedFile ∧
      s.answered = some (.failed (.text
        "load TLS config: open cert.pem: no such file or directory")) ∧
      (s.world.shared.disk.keyPair "cert.pem" "key.pem").toOption = some ⟨0⟩)
    (by decide +kernel)
  refine ⟨fun claim => ?_, fun claim => ?_, fun claim => ?_, fun claim => ?_⟩
  · exact unmoved refusedServes (claim _ _ _ _ sampleSystem_boot toRefused)
  · exact unmoved refusedServes (claim _ _ _ _ sampleSystem_boot toRefused
      (refusedServes.noticed noticed) (by simp [Unkeyed, unchanged]))
  · exact unmoved earlyServes (claim _ _ _ _ sampleSystem_boot toEarly
      (by simp [Refused, unanswered]) (by simp [Unkeyed, unchanged']))
  · refine lateServes.not_converged securedFile_loads ⟨⟨some ⟨⟨0⟩, .tls12⟩, ?_⟩, movedConfig_parses⟩
      (fun _ _ => rfl) (claim _ _ _ _ sampleSystem_boot toLate (by simp [Refused, failed])
        (lateServes.noticed noticed'))
    simp [loadTlsConfig, securedConfig, eq_ok_of_toOption keyed]

end TorusProxy
