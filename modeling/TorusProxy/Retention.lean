import TorusProxy.History

/-! A request keeps the runtime it acquired: a runtime is stopped only after
its last request has released it, and a later request finds a later runtime. -/
namespace TorusProxy

open Threads

section
variable {env : Env} {w w' : World} {a : Action} {t t' : Thread}

/-- A finished stop stays finished. -/
theorem ThreadMove.stopped {sh sh' : Shared} {new : List Thread}
    (h : ThreadMove env sh t sh' t' new) {r : Rid} (hs : t.stopping = some (r, .done))
    (unbroken : ∀ rt, t' ≠ .shutdown (.panicked rt)) : t'.stopping = some (r, .done) := by
  have reloads {rt : Rid} {pc pc' : ReloadPC} (move : ReloadMove rt sh pc sh' pc')
      (hs : pc.stopping = some (r, .done)) : pc'.stopping = some (r, .done) := by
    cases move with
    | stop old move => cases hs; cases move
    | stopped old => exact hs
    | _ => cases hs
  cases h with
  | reload rt move => exact reloads move hs
  | manager move =>
    cases move with
    | reload cfg rt move => exact reloads move hs
    | stop cfg rt move => cases hs; cases move
    | accepted cfg rt old | stopped cfg rt => exact hs
    | recordFailure out => cases out <;> exact hs
    | _ => cases hs
  | shutdown move =>
    cases move with
    | announce _ site =>
      obtain ⟨rfl, rfl⟩ | ⟨rfl, rfl⟩ | ⟨rt, err, rfl, rfl⟩ := site
      · cases hs
      · cases hs
      · cases err <;> exact hs
    | take _ site =>
      obtain ⟨rfl, rfl⟩ | ⟨rfl, rfl⟩ | ⟨rt, err, rfl, rfl⟩ := site
      · cases hs
      · cases hs
      · cases err <;> exact hs
    | callShutdown rt site => obtain ⟨rfl, rfl⟩ | ⟨rfl, rfl⟩ := site <;> cases hs
    | drained rt _ site => obtain rfl | rfl := site <;> cases hs
    | stop rt move => cases hs; cases move
    | stopped rt | completeStopped rt => exact hs
    | completeErr rt err | close rt err | completeUnlock rt err => cases err <;> exact hs
    | closeTwice rt => exact absurd rfl (unbroken rt)
    | _ => cases hs
  | request | start | prober => cases hs

theorem Owned.stopped_stays {ok : World → Action → Prop} (h : Owned w) (run : Run env ok w w')
    {r : Rid} (ht : t ∈ w.threads) (hs : t.stopping = some (r, .done)) :
    ∃ u ∈ w'.threads, u.stopping = some (r, .done) := by
  refine (run.invariant (fun v => Owned v ∧ ∃ u ∈ v.threads, u.stopping = some (r, .done))
    ⟨h, t, ht, hs⟩ ?_).2
  rintro a u v _ ⟨hu, x, hx, hxs⟩ _ hstep
  have hv := hu.step hstep
  refine ⟨hv, ?_⟩
  obtain ⟨i, hi⟩ := List.mem_iff_getElem?.mp hx
  rcases (Machine.next_moved hstep).thread hi with same | ⟨c, sh', x', new, -, fires, -, after⟩
  · exact ⟨x, List.mem_of_getElem? same, hxs⟩
  · have hx' := List.mem_of_getElem? after
    exact ⟨x', hx', (Thread.step_move fires).stopped hxs (hv.unbroken x' hx')⟩

/-- After its stop a runtime has no request and gets none. -/
theorem Serving.unheld (h : Serving w) (ht : t ∈ w.threads) {r : Rid}
    (hs : t.stopping = some (r, .done)) :
    ∀ u ∈ w.threads, u.holds ≠ some r ∧ ∀ req, u ≠ .request req (.acquire r) := by
  intro u hu
  have zero := (h.stops t ht r .done hs).2.1
  refine ⟨?_, (h.retiring_of_stopping ht hs).closed u hu⟩
  intro holds
  have pos := h.consistent.holds_le hu holds
  omega

end

/-! ## One request -/

/-- What one action does to a request: it keeps its place, or moves as
`httpHandler` does. -/
structure Retains (w w' : World) : Prop where
  /-- The runtime it comes to hold is the active one. -/
  acquires : ∀ (i : Nat) (req : Request) (pc pc' : HandlerPC) (r : Rid),
    w.threads[i]? = some (.request req pc) → w'.threads[i]? = some (.request req pc') →
    pc.acquired = none → pc'.acquired = some r →
    r = w.shared.server.runtime ∧ w'.shared.server.runtime = r ∧
      (w'.shared.heap r).requestWG = (w.shared.heap r).requestWG + 1
  /-- It holds it until it releases it, and no other one ever. -/
  keeps : ∀ (i : Nat) (req : Request) (pc : HandlerPC) (r : Rid),
    w.threads[i]? = some (.request req pc) → pc.holds = some r →
    ∃ pc', w'.threads[i]? = some (.request req pc') ∧
      (pc'.holds = some r ∨ pc = .release r ∧ pc' = .exit r)
  once : ∀ (i : Nat) (req : Request) (pc : HandlerPC) (r : Rid),
    w.threads[i]? = some (.request req pc) → pc.acquired = some r →
    ∃ pc', w'.threads[i]? = some (.request req pc') ∧ pc'.acquired = some r

section
variable {env : Env} {w w' : World} {a : Action}

/-- A step of a request is a step of `httpHandler`. -/
theorem ThreadMove.handler {sh sh' : Shared} {req : Request} {pc : HandlerPC} {t' : Thread}
    {new : List Thread} (h : ThreadMove env sh (.request req pc) sh' t' new) :
    ∃ pc', t' = .request req pc' ∧ HandlerMove sh pc sh' pc' := by
  cases h with
  | request _ move => exact ⟨_, rfl, move⟩

theorem Consistent.retains (h : Consistent w) (m : Moved (machine env) w a w') : Retains w w' := by
  constructor
  · intro i req pc pc' r hi hi' none acquired
    rcases m.thread hi with same | ⟨c, sh', t', new, -, fires, shared, after⟩
    · rw [hi'] at same
      cases same
      rw [none] at acquired
      cases acquired
    · have step : ThreadMove env w.shared (.request req pc) sh' t' new := Thread.step_move fires
      obtain ⟨pc₁, rfl, move⟩ := step.handler
      rw [hi'] at after
      cases after
      cases move with
      | acquire rt =>
        cases acquired
        have active := h.acquiring _ (List.mem_of_getElem? hi) req _ rfl
        rw [shared, ← active]
        exact ⟨rfl, active.symm, by simp⟩
      | inner q _ _ holds _ _ =>
        rw [HandlerPC.acquired_of_holds holds] at none
        cases none
      | rUnlock | release | exit => cases none
      | rLock | load => cases acquired
  · intro i req pc r hi holds
    rcases m.thread hi with same | ⟨c, sh', t', new, -, fires, -, after⟩
    · exact ⟨pc, same, .inl holds⟩
    · have step : ThreadMove env w.shared (.request req pc) sh' t' new := Thread.step_move fires
      obtain ⟨pc', rfl, move⟩ := step.handler
      exact ⟨pc', after, move.holds holds⟩
  · intro i req pc r hi acquired
    rcases m.thread hi with same | ⟨c, sh', t', new, -, fires, -, after⟩
    · exact ⟨pc, same, acquired⟩
    · have step : ThreadMove env w.shared (.request req pc) sh' t' new := Thread.step_move fires
      obtain ⟨pc', rfl, move⟩ := step.handler
      exact ⟨pc', after, move.acquired acquired⟩

end

/-! ## After a reload -/

/-- `r` is `new` or came after it. -/
def InstalledSince (new r : Rid) (installed : List Rid) : Prop :=
  ∃ earlier later, installed = earlier ++ new :: later ∧ (r = new ∨ r ∈ later)

theorem InstalledSince.append {new r q : Rid} {l : List Rid} (h : InstalledSince new r l) :
    InstalledSince new r (l ++ [q]) := by
  obtain ⟨earlier, later, rfl, hr⟩ := h
  refine ⟨earlier, later ++ [q], by simp, ?_⟩
  rcases hr with rfl | hr
  · exact .inl rfl
  · exact .inr (List.mem_append_left _ hr)

theorem installedSince_last {new r : Rid} {l : List Rid} (mem : new ∈ l)
    (last : l.getLast? = some r) : InstalledSince new r l := by
  obtain ⟨earlier, later, rfl⟩ := List.append_of_mem mem
  refine ⟨earlier, later, rfl, ?_⟩
  rw [List.getLast?_append, List.getLast?_cons] at last
  cases hl : later.getLast? with
  | none => simp [hl] at last; exact .inl last.symm
  | some q =>
    simp [hl] at last
    exact .inr (last ▸ List.mem_of_getLast? hl)

/-- `Server.Reload` of this runtime has returned nil. -/
def Thread.reloaded : Thread → Option Rid
  | .reload new (.accepted _) | .manager (.serverReload _ new (.accepted _))
  | .manager (.returned (.accepted _ new _)) => some new
  | _ => none

theorem Thread.reloaded_swapped {t : Thread} {new : Rid} (h : t.reloaded = some new) :
    t.swapped = some new := by
  unfold Thread.reloaded at h
  split at h <;> cases h <;> rfl

section
variable {env : Env} {w w' : World} {ok : World → Action → Prop}

/-- One step: the active runtime and what late requests acquired stay at or
after `new`. -/
theorem since_step {new : Rid} {k : Nat} {a : Action} (c : Consistent w)
    (m : Moved (machine env) w a w')
    (active : InstalledSince new w.shared.server.runtime w.shared.installed)
    (late : ∀ i req pc r, k ≤ i → w.threads[i]? = some (.request req pc) → pc.acquired = some r →
      InstalledSince new r w.shared.installed) :
    InstalledSince new w'.shared.server.runtime w'.shared.installed ∧
    ∀ i req pc r, k ≤ i → w'.threads[i]? = some (.request req pc) → pc.acquired = some r →
      InstalledSince new r w'.shared.installed := by
  have stays {r : Rid} (h : InstalledSince new r w.shared.installed) :
      InstalledSince new r w'.shared.installed := by
    rcases History.grows m with ⟨installed, -⟩ | ⟨t, -, q, -, installed, -⟩
    · exact installed ▸ h
    · exact installed ▸ h.append
  refine ⟨?_, ?_⟩
  · rcases History.grows m with ⟨installed, runtime⟩ | ⟨t, -, q, -, installed, runtime⟩
    · rw [runtime]
      exact stays active
    · rw [runtime, installed]
      obtain ⟨earlier, later, eq, -⟩ := active
      exact ⟨earlier, later ++ [q], by simp [eq], .inr (by simp)⟩
  · intro i req pc r hk hi acquired
    rcases m.origin hi with same | ⟨t, c', sh', new', -, ht, fires, -⟩ |
      ⟨t, c', sh', t', new', -, fires, hn, -⟩ | ⟨x, sh', -, fires, -⟩
    · exact stays (late i req pc r hk same acquired)
    · have move := Thread.step_move fires
      cases move with
      | @request _ pc₀ _ _ move =>
        cases move with
        | acquire rt =>
          cases acquired
          rw [c.acquiring _ (List.mem_of_getElem? ht) req _ rfl]
          exact stays active
        | inner q _ _ holds holds' _ =>
          rw [HandlerPC.acquired_of_holds holds'] at acquired
          exact stays (late i req pc₀ r hk ht ((HandlerPC.acquired_of_holds holds).trans acquired))
        | rUnlock rt | release rt | exit rt => exact stays (late i req _ r hk ht acquired)
        | rLock | load => cases acquired
    · obtain ⟨p, hp⟩ := (Thread.step_move fires).starts _ hn
      cases hp
    · cases enter_move fires
      cases acquired

theorem since_run {new : Rid} {k : Nat} (c : Consistent w) (run : Run env ok w w')
    (active : InstalledSince new w.shared.server.runtime w.shared.installed)
    (late : ∀ i req pc r, k ≤ i → w.threads[i]? = some (.request req pc) → pc.acquired = some r →
      InstalledSince new r w.shared.installed) :
    ∀ i req pc r, k ≤ i → w'.threads[i]? = some (.request req pc) → pc.acquired = some r →
      InstalledSince new r w'.shared.installed := by
  refine (run.invariant (fun v => Consistent v ∧
    InstalledSince new v.shared.server.runtime v.shared.installed ∧
    ∀ i req pc r, k ≤ i → v.threads[i]? = some (.request req pc) → pc.acquired = some r →
      InstalledSince new r v.shared.installed) ⟨c, active, late⟩ ?_).2.2
  rintro a u v _ ⟨hc, hactive, hlate⟩ _ hs
  exact ⟨hc.step hs, since_step hc (Machine.next_moved hs) hactive hlate⟩

/-- From a server in service, in any order of requests, reloads and shutdowns:
a stopped runtime has no request and gets none; a request acquires the active
runtime and keeps it until it releases it; a request that enters after a
reload has returned acquires what that reload installed, or something later. -/
theorem request_runtime_retention {w₀ : World} (init : Running w₀) (before : Run env ok w₀ w)
    (after : Run env ok w w') :
    (∀ t ∈ w.threads, ∀ r, t.stopping = some (r, .done) →
      ∀ u ∈ w'.threads, u.holds ≠ some r ∧ ∀ req, u ≠ .request req (.acquire r)) ∧
    (∀ a w₁, World.step env w a = some w₁ → Retains w w₁) ∧
    (∀ t ∈ w.threads, ∀ new, t.reloaded = some new →
      ∀ i req pc r, w.threads.length ≤ i → w'.threads[i]? = some (.request req pc) →
        pc.acquired = some r → InstalledSince new r w'.shared.installed) := by
  have owned := init.owned.run before
  have consistent := owned.serving.consistent
  have history := init.history.run init.consistent before
  refine ⟨?_, ?_, ?_⟩
  · intro t ht r hs
    obtain ⟨u, hu, hus⟩ := owned.stopped_stays after ht hs
    exact (owned.run after).serving.unheld hu hus
  · intro a w₁ hs
    exact consistent.retains (Machine.next_moved hs)
  · intro t ht new hr
    have mem := history.swapped t ht new (Thread.reloaded_swapped hr)
    refine since_run consistent after (installedSince_last mem history.active) ?_
    intro i req pc r hk hi
    have lt := (List.getElem?_eq_some_iff.mp hi).1
    omega

end

/-- A request acquires runtime 0, a reload replaces it by runtime 1 and waits
for the request and the prober; then a second request enters. -/
theorem request_runtime_retention_sample :
    ∃ w w', Run sampleEnv (fun _ _ => True) sampleWorld w ∧ Run sampleEnv (fun _ _ => True) w w' ∧
      .reload 1 (.accepted 0) ∈ w.threads ∧
      w'.threads[4]? = some (.request ⟨"GET", bytes "/api"⟩ (.track 1)) ∧
      (∀ u ∈ w'.threads, u.holds ≠ some 0) ∧ InstalledSince 1 1 w'.shared.installed := by
  obtain ⟨w, w', before, after, accepted, length, late⟩ := Exec.exists_runs_of_execWhile
    (World.step sampleEnv) (fun _ _ => True) (fun _ _ => True) sampleWorld
    ([.call (.request ⟨"GET", bytes "/api"⟩)] ++ goes 2 4 ++
      [.call (.reload { sampleRuntime with generation := 2 })] ++ goes 3 8 ++ goes 2 4 ++
      [.run 2 (.status 200)] ++ goes 2 4 ++ goes 3 1 ++ goes 1 1 ++ [.run 1 .ctxDone] ++
      goes 1 1 ++ goes 3 2)
    ([.call (.request ⟨"GET", bytes "/api"⟩)] ++ goes 4 4)
    (fun w w' => .reload 1 (.accepted 0) ∈ w.threads ∧ w.threads.length = 4 ∧
      w'.threads[4]? = some (.request ⟨"GET", bytes "/api"⟩ (.track 1)))
    (by decide)
  obtain ⟨stopped, -, reloaded⟩ := request_runtime_retention sampleWorld_running before after
  refine ⟨w, w', before, after, accepted, late, ?_, ?_⟩
  · intro u hu
    exact (stopped _ accepted 0 rfl u hu).1
  · exact reloaded _ accepted 1 rfl 4 _ _ 1 (Nat.le_of_eq length) late rfl

end TorusProxy
