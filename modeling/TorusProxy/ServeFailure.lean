import TorusProxy.Roles

/-! The path of `Start` behind an unexpected error of `Serve`. It retires the
active runtime, but nothing keeps the connections that are open from asking for
it: the handler does not look at the state of the server. -/
namespace TorusProxy

open Threads

/-- `requestWG.Wait` has returned. -/
def StopPC.waited : StopPC → Bool
  | .waitWorkers | .done => true
  | _ => false

namespace Thread

/-- A handler before its `AcquireRequest`. -/
def unacquired : Thread → Bool
  | .request _ pc => pc.acquired.isNone
  | _ => false

/-- The failing start, waiting for requests. -/
def failWaits : Thread → Bool
  | .start (.failStop _ _ .waitRequests) => true
  | _ => false

end Thread

/-- When the failing start is done waiting for requests every handler that was
started has acquired its runtime, and none is started afterwards. -/
def HandlersFirst (w : World) : Action → Prop
  | .run i _ => ∀ t ∈ w.threads[i]?, t.failWaits = true → ∀ u ∈ w.threads, u.unacquired = false
  | .call (.request _) => ∀ t ∈ w.threads, ∀ x ∈ t.failStopping, x.2.waited = false
  | _ => True

/-- A request that is done with the runtime, if it ever had it. -/
def Thread.Past (r : Rid) (t : Thread) : Prop :=
  ∀ req pc, t = .request req pc → pc.acquired.isSome = true ∧ pc.holds ≠ some r

/-- Behind the wait of the failing start no request has the runtime or will. -/
def Emptied (w : World) : Prop :=
  ∀ t ∈ w.threads, ∀ r p, t.failStopping = some (r, p) → p.waited = true →
    ∀ u ∈ w.threads, u.Past r

section
variable {env : Env} {w w' : World} {a : Action}

theorem ThreadMove.past {sh sh' : Shared} {t t' : Thread} {new : List Thread}
    (h : ThreadMove env sh t sh' t' new) {r : Rid} (past : t.Past r) : t'.Past r := by
  rintro req pc rfl
  have after := h.holds (r := r)
  cases h with
  | @request _ pc₀ _ _ move =>
    obtain ⟨acquired, holds⟩ := past req pc₀ rfl
    obtain ⟨q, hq⟩ := Option.isSome_iff_exists.mp acquired
    refine ⟨by rw [move.acquired hq]; rfl, ?_⟩
    intro now
    rcases after now with before | ⟨req', acquiring⟩
    · exact holds before
    · cases acquiring
      cases acquired

/-- Once nothing may acquire the runtime, a step that starts no handler keeps it so. -/
theorem past_step (m : Moved (machine env) w a w') {r : Rid} (past : ∀ u ∈ w.threads, u.Past r)
    (none : ∀ req, a ≠ .call (.request req)) : ∀ u ∈ w'.threads, u.Past r := by
  refine m.each (fun u => u.Past r) past ?_ ?_
  · intro i t c sh' t' new _ _ before fires
    have move := Thread.step_move fires
    refine ⟨move.past before, ?_⟩
    rintro n hn req pc rfl
    obtain ⟨p, hp⟩ := move.starts _ hn
    cases hp
  · intro x sh' t ha fires
    cases enter_move fires with
    | request req => exact absurd ha (none req)
    | reload | manager | shutdown => rintro req pc ⟨⟩

/-- The failing start is done waiting: it was before, or its wait just ended. -/
theorem waited_origin (m : Moved (machine env) w a w') {t' : Thread} (ht : t' ∈ w'.threads)
    {r : Rid} {p : StopPC} (stopping : t'.failStopping = some (r, p)) (waited : p.waited = true) :
    (∃ t ∈ w.threads, ∃ q, t.failStopping = some (r, q) ∧ q.waited = true) ∨
    ∃ i c err, a = .run i c ∧ w.threads[i]? = some (.start (.failStop r err .waitRequests)) ∧
      (w.shared.heap r).requestWG = 0 := by
  cases m with
  | @step i c t sh' t₁ new hi fires =>
    have mem := List.mem_of_getElem? hi
    have move : ThreadMove env w.shared t sh' t₁ new := Thread.step_move fires
    rcases mem_moved ht with rfl | hn | ⟨j, -, hj⟩
    · rcases move.failStopping stopping with rfl | before | ⟨q, before, stop⟩
      · cases waited
      · exact .inl ⟨t, mem, p, before, waited⟩
      · cases stop with
        | cancel => cases waited
        | waitWorkers => exact .inl ⟨t, mem, _, before, rfl⟩
        | waitRequests zero =>
          refine .inr ⟨i, c, ?_⟩
          unfold Thread.failStopping at before
          split at before <;> cases before
          exact ⟨_, rfl, hi, zero⟩
    · obtain ⟨q, rfl⟩ := move.starts _ hn
      cases stopping
    · exact .inl ⟨t', List.mem_of_getElem? hj, p, stopping, waited⟩
  | enter fires =>
    rcases List.mem_append.mp ht with ht | ht
    · exact .inl ⟨t', ht, p, stopping, waited⟩
    · obtain rfl := List.mem_singleton.mp ht
      cases enter_move fires <;> cases stopping
  | change fires => exact .inl ⟨t', ht, p, stopping, waited⟩

theorem Emptied.step (h : Emptied w) (c : Consistent w) (first : HandlersFirst w a)
    (hs : World.step env w a = some w') : Emptied w' := by
  have m := Machine.next_moved hs
  intro t' ht r p stopping waited
  rcases waited_origin m ht stopping waited with ⟨t, mem, q, before, waited'⟩ |
    ⟨i, k, err, rfl, hi, zero⟩
  · refine past_step m (h t mem r q before waited') ?_
    rintro req rfl
    rw [first t mem (r, q) before] at waited'
    cases waited'
  · refine past_step m ?_ (by rintro req ⟨⟩)
    rintro u hu req pc rfl
    have acquired := first _ hi rfl _ hu
    refine ⟨by simpa [Thread.unacquired] using acquired, ?_⟩
    intro holds
    have pos := c.holds_le hu holds
    omega

theorem Emptied.run (h : Emptied w) (c : Consistent w) (r : Run env HandlersFirst w w') :
    Emptied w' := by
  refine (r.invariant (fun v => Emptied v ∧ Consistent v) ⟨h, c⟩ ?_).1
  rintro a u v _ ⟨he, hc⟩ first hs
  exact ⟨he.step hc first hs, hc.step hs⟩

theorem Running.emptied (h : Running w) : Emptied w := by
  intro t ht r p stopping
  rcases h.threads t ht with ⟨q, pc, rfl, -⟩ | rfl <;> cases stopping

/-- The stopping start stays where it is once its `Stop` has returned. -/
theorem failStopped_stays {ok : World → Action → Prop} (run : Run env ok w w') {r : Rid}
    (stopped : ∃ t ∈ w.threads, t.failStopping = some (r, .done)) :
    ∃ t ∈ w'.threads, t.failStopping = some (r, .done) := by
  refine run.invariant (fun v => ∃ t ∈ v.threads, t.failStopping = some (r, .done)) stopped ?_
  rintro a u v _ ⟨t, ht, done⟩ _ hs
  obtain ⟨i, hi⟩ := List.mem_iff_getElem?.mp ht
  rcases (Machine.next_moved hs).thread hi with same | ⟨c, sh', t', new, -, fires, -, after⟩
  · exact ⟨t, List.mem_of_getElem? same, done⟩
  · refine ⟨t', List.mem_of_getElem? after, ?_⟩
    have move : ThreadMove env u.shared t sh' t' new := Thread.step_move fires
    unfold Thread.failStopping at done
    split at done <;> cases done
    · cases move with
      | start move =>
        cases move with
        | failStop rt err move => cases move
        | failStopped rt err => rfl
        | closed _ site => rcases site with site | site <;> cases site
    · cases move with
      | start move =>
        cases move with
        | closed _ site => rcases site with site | site <;> cases site

/-- A request that comes to its acquire behind the failure gets the retired
runtime: the active one is not replaced any more. -/
theorem failed_runtime_stays {ok : World → Action → Prop} (h : Serving w) {r : Rid}
    (stopped : ∃ t ∈ w.threads, t.failStopping = some (r, .done)) (later : Run env ok w w') :
    w'.shared.installed = w.shared.installed ∧ w'.shared.server.runtime = r := by
  obtain ⟨t, ht, done⟩ := stopped
  have captured := Thread.failStopping_captured done
  have ended : w.shared.server.state ≠ .running := by
    intro running
    have closers := h.closers
    rw [closing, if_pos running] at closers
    have closed := Thread.captured_closed captured
    rw [total_eq_zero.mp closers.symm t ht] at closed
    cases closed
  obtain ⟨installed, runtime⟩ := h.no_swap ended later
  exact ⟨installed, runtime.trans (h.captured t ht r captured).symm⟩

/-- When every handler comes before the failing start is done waiting, its
runtime is retired for good. In every run the active runtime stays the retired
one, and so is what a later handler acquires. -/
theorem serve_failure_retires {ok : World → Action → Prop} {w₀ : World} (init : Running w₀)
    (before : Run env ok w₀ w) {r : Rid}
    (stopped : ∃ t ∈ w.threads, t.failStopping = some (r, .done)) (later : Run env ok w w') :
    (w'.shared.installed = w.shared.installed ∧ w'.shared.server.runtime = r) ∧
    (∀ req q, .request req (.acquire q) ∈ w'.threads → q = r) ∧
    ((∀ v a, ok v a → HandlersFirst v a) →
      ∀ t ∈ w'.threads, t.holds ≠ some r ∧ ∀ req, t ≠ .request req (.acquire r)) := by
  have whole := before.trans later
  have stays := failed_runtime_stays (init.serving.run before) stopped later
  refine ⟨stays, ?_, ?_⟩
  · intro req q ht
    rw [(init.consistent.run whole).acquiring _ ht req q rfl]
    exact stays.2
  · intro first t ht
    have emptied := init.emptied.run init.consistent (Exec.Run.mono whole first)
    obtain ⟨u, hu, done⟩ := failStopped_stays later stopped
    have past := emptied u hu r .done done rfl t ht
    refine ⟨?_, ?_⟩
    · intro holds
      cases t with
      | request req pc => exact (past req pc rfl).2 holds
      | reload | manager | shutdown | start | prober => cases holds
    · rintro req rfl
      cases (past req _ rfl).1

end

instance : ∀ w a, Decidable (HandlersFirst w a)
  | w, .run i _ => inferInstanceAs (Decidable
      (∀ t ∈ w.threads[i]?, t.failWaits = true → ∀ u ∈ w.threads, u.unacquired = false))
  | w, .call (.request _) =>
    inferInstanceAs (Decidable (∀ t ∈ w.threads, ∀ x ∈ t.failStopping, x.2.waited = false))
  | _, .call (.reload _) | _, .call .manager | _, .call .shutdown | _, .env _ => .isTrue trivial

/-- `Serve` fails and the start comes to the wait for requests. -/
def serveFails : List Action := [.run 0 (.fail "accept: too many open files")] ++ goes 0 9

/-- A request that is in flight at the failure releases its runtime before the
start is done waiting for it. -/
theorem serve_failure_retires_sample :
    ∃ w, Run sampleEnv HandlersFirst sampleWorld w ∧
      (∃ t ∈ w.threads, t.failStopping = some (0, .done)) ∧
      ∀ t ∈ w.threads, t.holds ≠ some 0 ∧ ∀ req, t ≠ .request req (.acquire 0) := by
  obtain ⟨w, r, stopped⟩ := Exec.exists_run_of_execWhile (World.step sampleEnv) HandlersFirst
    sampleWorld
    ([.call (.request ⟨"GET", bytes "/api"⟩)] ++ goes 2 8 ++ serveFails ++ [.run 2 (.status 200)] ++
      goes 2 4 ++ goes 0 1 ++ proberExits 1 ++ goes 0 1)
    (fun w => ∃ t ∈ w.threads, t.failStopping = some (0, .done)) (by decide)
  exact ⟨w, r, stopped, (serve_failure_retires sampleWorld_running r stopped .refl).2.2
    fun _ _ first => first⟩

/-- A request on a connection that is still open comes when the runtime is
stopped, and acquires it. -/
theorem serve_failure_reacquired :
    ¬ ∀ (env : Env) (w₀ w w' : World) (r : Rid), Running w₀ → Run env (fun _ _ => True) w₀ w →
      (∃ t ∈ w.threads, t.failStopping = some (r, .done)) → Run env (fun _ _ => True) w w' →
      (∀ t ∈ w'.threads, t.holds ≠ some r ∧ ∀ req, t ≠ .request req (.acquire r)) ∧
        w'.shared.server.runtime = w.shared.server.runtime := by
  intro all
  obtain ⟨w, w', before, later, stopped, t, ht, holds⟩ := Exec.exists_runs_of_execWhile
    (World.step sampleEnv) (fun _ _ => True) (fun _ _ => True) sampleWorld
    (serveFails ++ goes 0 1 ++ proberExits 1 ++ goes 0 1)
    ([.call (.request ⟨"GET", bytes "/api"⟩)] ++ goes 2 3)
    (fun w w' => (∃ t ∈ w.threads, t.failStopping = some (0, .done)) ∧
      ∃ t ∈ w'.threads, t.holds = some 0) (by decide)
  have retired := (all sampleEnv sampleWorld w w' 0 sampleWorld_running before stopped later).1
  exact (retired t ht).1 holds

end TorusProxy
