import TorusProxy.Running

/-! However many calls of `Shutdown` there are and however the HTTP server
shuts down, one of them owns the shutdown and all return its result. -/
namespace TorusProxy

open Threads

/-- Has decided to own the shutdown, and everything it then does. -/
def ShutdownPC.owner : ShutdownPC → Bool
  | .storeState | .storeReady | .capture => true
  | pc => pc.captured.isSome

/-- Past the `switch` on the state. -/
def ShutdownPC.decided : ShutdownPC → Bool
  | .lock | .locking | .switch => false
  | _ => true

/-- One call owns the shutdown and closes the channel; the others return after
it and with its result. -/
structure SingleOwner (w : World) : Prop where
  atMostOne : ∀ (i j : Nat) (pc qc : ShutdownPC), w.threads[i]? = some (Thread.shutdown pc) →
    w.threads[j]? = some (Thread.shutdown qc) → pc.owner = true → qc.owner = true → i = j
  atLeastOne : ∀ pc, .shutdown pc ∈ w.threads → pc.decided = true →
    ∃ qc, .shutdown qc ∈ w.threads ∧ qc.owner = true
  closes : total Thread.closes w.threads = w.shared.server.shutdownDone.toNat
  unbroken : ∀ rt, .shutdown (.panicked rt) ∉ w.threads
  answers : ∀ err, .shutdown (.returned err) ∈ w.threads →
    ∃ rt, .shutdown (.completed rt err) ∈ w.threads

section
variable {env : Env} {w w' : World} {pc : ShutdownPC}

theorem ShutdownPC.owner_cases (h : pc.owner = true) :
    pc = .storeState ∨ (Thread.shutdown pc).closed = 1 := by
  cases pc <;> first | exact .inr rfl | exact .inl rfl | cases h

theorem ShutdownPC.owner_of_closed (h : (Thread.shutdown pc).closed = 1) : pc.owner = true := by
  cases pc <;> first | rfl | cases h

theorem ShutdownPC.decided_cases (h : pc.decided = true) :
    pc.owner = true ∨ pc.answering = true ∨ pc.waiting = true := by
  cases pc <;> first | exact .inl rfl | exact .inr (.inl rfl) | exact .inr (.inr rfl) | cases h

/-- Unless `Serve` failed, the running state was ended by a shutdown. -/
theorem Owned.exists_closed (h : Owned w) (calm : Undisturbed w)
    (ended : w.shared.server.state ≠ .running) :
    ∃ qc, .shutdown qc ∈ w.threads ∧ (Thread.shutdown qc).closed = 1 := by
  obtain ⟨t, ht, one⟩ := h.serving.exists_closed ended
  cases t with
  | shutdown qc => exact ⟨qc, ht, one⟩
  | start qc => rcases calm _ ht qc rfl with rfl | rfl <;> cases one
  | request | reload | manager | prober => cases one

theorem Owned.owner_unique (h : Owned w) {i j : Nat} {qc : ShutdownPC}
    (hi : w.threads[i]? = some (.shutdown pc)) (hj : w.threads[j]? = some (.shutdown qc))
    (hp : pc.owner = true) (hq : qc.owner = true) : i = j := by
  have none {k l : Nat} {u : ShutdownPC} (hk : w.threads[k]? = some (.shutdown .storeState))
      (hl : w.threads[l]? = some (.shutdown u)) : (Thread.shutdown u).closed ≠ 1 := by
    have running := h.serving.sawRunning _ (List.mem_of_getElem? hk) rfl
    have closers := h.serving.closers
    rw [closing, if_pos running] at closers
    rw [total_eq_zero.mp closers.symm _ (List.mem_of_getElem? hl)]
    exact Nat.zero_ne_one
  rcases ShutdownPC.owner_cases hp with rfl | cp
  · rcases ShutdownPC.owner_cases hq with rfl | cq
    · exact h.serving.consistent.writer_unique hi hj rfl rfl
    · exact absurd cq (none hi hj)
  · rcases ShutdownPC.owner_cases hq with rfl | cq
    · exact absurd cp (none hj hi)
    · exact h.serving.closed_unique hi hj cp cq

theorem Owned.singleOwner (h : Owned w) (calm : Undisturbed w) : SingleOwner w := by
  refine ⟨fun i j pc qc => h.owner_unique, ?_, h.done.symm, fun rt ht => h.unbroken _ ht rt rfl, ?_⟩
  · intro pc ht decided
    have of_ended (ended : w.shared.server.state ≠ .running) :
        ∃ qc, Thread.shutdown qc ∈ w.threads ∧ qc.owner = true := by
      obtain ⟨qc, hq, closed⟩ := h.exists_closed calm ended
      exact ⟨qc, hq, ShutdownPC.owner_of_closed closed⟩
    rcases ShutdownPC.decided_cases decided with owner | answering | waiting
    · exact ⟨pc, ht, owner⟩
    · exact of_ended (h.not_running_of_finished (h.answers _ ht answering))
    · exact of_ended (h.ended _ ht waiting)
  · intro err ht
    have finished := h.answers _ ht rfl
    obtain ⟨qc, hq, closed⟩ := h.exists_closed calm (h.not_running_of_finished finished)
    have final := h.final _ ht err rfl _ hq closed
    cases qc with
    | completed rt e =>
      have same : e = err := (h.publishes _ hq e rfl).symm.trans (h.results _ ht err rfl)
      exact ⟨rt, same ▸ hq⟩
    | _ => cases final

/-- A call that has returned as the owner stays as it is. -/
theorem completed_stays {ok : World → Action → Prop} (r : Run env ok w w') {rt : Rid}
    {err : Option Error} (ht : .shutdown (.completed rt err) ∈ w.threads) :
    .shutdown (.completed rt err) ∈ w'.threads := by
  refine r.invariant (fun v => Thread.shutdown (.completed rt err) ∈ v.threads) ht ?_
  intro a u v _ hu _ hs
  obtain ⟨i, hi⟩ := List.mem_iff_getElem?.mp hu
  rcases (Machine.next_moved hs).thread hi with same | ⟨c, sh', t', new, -, fires, -⟩
  · exact List.mem_of_getElem? same
  · cases fires

/-- From a server in service whose `Serve` does not fail: one owner, one close,
one result, and the state that result leaves behind for good. -/
theorem shutdown_single_owner {w₀ : World} (init : Running w₀) (r : Run env Calm w₀ w)
    (later : Run env Calm w w') :
    SingleOwner w ∧ ∀ rt err, .shutdown (.completed rt err) ∈ w.threads →
      .shutdown (.completed rt err) ∈ w'.threads ∧ w'.shared.server.shutdownDone = true ∧
      w'.shared.server.state = if err = none then .stopped else .shuttingDown := by
  have owned := init.owned.run r
  refine ⟨owned.singleOwner (init.undisturbed.run r), ?_⟩
  intro rt err ht
  have ht' := completed_stays later ht
  have owned' := owned.run later
  refine ⟨ht', ?_, ?_⟩
  · cases hd : w'.shared.server.shutdownDone with
    | true => rfl
    | false =>
      have le := le_total Thread.closes ht'
      rw [← owned'.done, hd] at le
      cases le
  · cases err with
    | none => exact owned'.leaves _ ht' .stopped rfl
    | some e => exact owned'.leaves _ ht' .shuttingDown rfl

end

/-- Both attempts of the HTTP server fail; a second call returns the same error. -/
def forcedFailure : List Action :=
  [.call .shutdown] ++ goes 2 7 ++ [.call .shutdown] ++ goes 3 4 ++ goes 2 2 ++
    [.run 2 (.fail "context deadline exceeded")] ++ goes 2 2 ++
    [.run 2 (.fail "context deadline exceeded")] ++ goes 2 6 ++ goes 3 5

theorem shutdown_single_owner_forced_failure :
    ∃ w, Run sampleEnv Calm sampleWorld w ∧
      .shutdown (.returned (some (.text "context deadline exceeded"))) ∈ w.threads ∧
      SingleOwner w ∧ w.shared.server.state = .shuttingDown := by
  obtain ⟨w, r, owner, caller⟩ := Exec.exists_run_of_execWhile (World.step sampleEnv) Calm
    sampleWorld forcedFailure
    (fun w => .shutdown (.completed 0 (some (.text "context deadline exceeded"))) ∈ w.threads ∧
      .shutdown (.returned (some (.text "context deadline exceeded"))) ∈ w.threads)
    (by decide)
  have both := shutdown_single_owner sampleWorld_running r .refl
  exact ⟨w, r, caller, both.1, (both.2 0 _ owner).2.2⟩

end TorusProxy
