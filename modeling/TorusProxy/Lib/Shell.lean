import Mathlib.Init

/-! Shell scripts under `set -e`: a command takes effect or fails without any, and
the script stops at the first that fails. -/
namespace Shell

inductive Script (σ : Type)
  | skip
  /-- A command, undefined where it cannot succeed. -/
  | cmd (run : σ → Option σ)
  /-- An assignment, or a command whose failure is ignored. -/
  | set (update : σ → σ)
  | seq (first rest : Script σ)
  | ite (test : σ → Bool) (yes no : Script σ)

section
variable {σ : Type}

namespace Script

/-- Where the script ends, or the state it stops in. -/
@[simp] def exec : Script σ → σ → Except σ σ
  | .skip, s => .ok s
  | .cmd run, s =>
    match run s with
    | some s' => .ok s'
    | none => .error s
  | .set update, s => .ok (update s)
  | .seq first rest, s =>
    match exec first s with
    | .ok s' => exec rest s'
    | .error s' => .error s'
  | .ite test yes no, s => if test s then exec yes s else exec no s

/-- The state left behind, however the script came out. -/
def finish (script : Script σ) (s : σ) : σ :=
  match script.exec s with
  | .ok s' => s'
  | .error s' => s'

/-- The script may stop in this state: it came to a command and the command
failed, for reasons of its own or of the world. -/
@[simp] def Stops : Script σ → σ → σ → Prop
  | .skip, _, _ => False
  | .cmd _, s, s' => s' = s
  | .set _, _, _ => False
  | .seq first rest, s, s' => Stops first s s' ∨ ∃ mid, first.exec s = .ok mid ∧ Stops rest mid s'
  | .ite test yes no, s, s' => if test s then Stops yes s s' else Stops no s s'

/-- `command || true`. -/
def orTrue (run : σ → Option σ) : Script σ := .set fun s => (run s).getD s

def when (test : σ → Bool) (yes : Script σ) : Script σ := .ite test yes .skip

/-- A command, and the assignment that records that it took effect. -/
def recorded (run : σ → Option σ) (update : σ → σ) : Script σ := .seq (.cmd run) (.set update)

def block : List (Script σ) → Script σ
  | [] => .skip
  | first :: rest => .seq first (block rest)

end Script

/-! ## Rules -/

open Script

/-- From `P` the script can only end in `Q`, and wherever it stops, `R` holds. -/
def Guards (P : σ → Prop) (script : Script σ) (Q R : σ → Prop) : Prop :=
  ∀ s, P s → (∀ s', script.exec s = .ok s' → Q s') ∧ ∀ s', script.Stops s s' → R s'

/-- From `P` the script comes to its end, in `Q`. -/
def Ends (P : σ → Prop) (script : Script σ) (Q : σ → Prop) : Prop :=
  ∀ s, P s → ∃ s', script.exec s = .ok s' ∧ Q s'

/-- From `P` the script fails, in `R`. -/
def Fails (P : σ → Prop) (script : Script σ) (R : σ → Prop) : Prop :=
  ∀ s, P s → ∃ s', script.exec s = .error s' ∧ R s'

variable {P Q R M : σ → Prop} {run : σ → Option σ} {update : σ → σ} {test : σ → Bool}
variable {first rest yes no : Script σ} {scripts : List (Script σ)}

namespace Guards

theorem skip (h : ∀ s, P s → Q s) : Guards P .skip Q R := by
  intro s pre
  refine ⟨?_, fun _ stop => stop.elim⟩
  rintro _ ⟨⟩
  exact h s pre

theorem cmd (stop : ∀ s, P s → R s) (done : ∀ s s', P s → run s = some s' → Q s') :
    Guards P (.cmd run) Q R := by
  intro s pre
  constructor
  · intro s' ran
    simp only [exec] at ran
    split at ran
    · rename_i after effect
      cases ran
      exact done s _ pre effect
    · cases ran
  · rintro _ rfl
    exact stop _ pre

theorem set (h : ∀ s, P s → Q (update s)) : Guards P (.set update) Q R := by
  intro s pre
  refine ⟨?_, fun _ stop => stop.elim⟩
  rintro _ ⟨⟩
  exact h s pre

theorem seq (h : Guards P first M R) (h' : Guards M rest Q R) :
    Guards P (.seq first rest) Q R := by
  intro s pre
  obtain ⟨mid, stopped⟩ := h s pre
  constructor
  · intro s' ran
    simp only [exec] at ran
    split at ran
    · rename_i after done
      exact (h' after (mid after done)).1 s' ran
    · cases ran
  · rintro s' (stop | ⟨after, done, stop⟩)
    · exact stopped s' stop
    · exact (h' after (mid after done)).2 s' stop

theorem ite (h : Guards (fun s => P s ∧ test s = true) yes Q R)
    (h' : Guards (fun s => P s ∧ test s = false) no Q R) : Guards P (.ite test yes no) Q R := by
  intro s pre
  simp only [exec, Stops]
  cases on : test s with
  | true => simpa using h s ⟨pre, on⟩
  | false => simpa using h' s ⟨pre, on⟩

/-- Nothing can stop a script between a command and its record. -/
theorem recorded (stop : ∀ s, P s → R s) (done : ∀ s s', P s → run s = some s' → Q (update s')) :
    Guards P (.recorded run update) Q R :=
  seq (cmd stop fun s s' pre ran => (done s s' pre ran : Q (update s'))) (set fun _ post => post)

/-- What every part of a block keeps, the block keeps. -/
theorem block_invariant (h : ∀ script ∈ scripts, Guards P script P R) :
    Guards P (block scripts) P R := by
  induction scripts with
  | nil => exact skip fun _ pre => pre
  | cons first rest ih =>
    apply seq (h first List.mem_cons_self)
    exact ih fun script mem => h script (List.mem_cons_of_mem _ mem)

theorem weaken {P' Q' R' : σ → Prop} (h : Guards P first Q R) (pre : ∀ s, P' s → P s)
    (post : ∀ s, Q s → Q' s) (stop : ∀ s, R s → R' s) : Guards P' first Q' R' := by
  intro s start
  obtain ⟨done, stopped⟩ := h s (pre s start)
  exact ⟨fun s' ran => post s' (done s' ran), fun s' at_ => stop s' (stopped s' at_)⟩

theorem narrow (h : Guards P first Q R) : Guards (fun s => P s ∧ M s) first Q R :=
  h.weaken (fun _ pre => pre.1) (fun _ post => post) fun _ stop => stop

end Guards

namespace Ends

theorem skip (h : ∀ s, P s → Q s) : Ends P .skip Q := fun s pre => ⟨s, rfl, h s pre⟩

theorem cmd (h : ∀ s, P s → ∃ s', run s = some s' ∧ Q s') : Ends P (.cmd run) Q := by
  intro s pre
  obtain ⟨s', ran, post⟩ := h s pre
  exact ⟨s', by simp [exec, ran], post⟩

theorem set (h : ∀ s, P s → Q (update s)) : Ends P (.set update) Q :=
  fun s pre => ⟨update s, rfl, h s pre⟩

theorem seq (h : Ends P first M) (h' : Ends M rest Q) : Ends P (.seq first rest) Q := by
  intro s pre
  obtain ⟨mid, ran, at_mid⟩ := h s pre
  obtain ⟨s', ran', post⟩ := h' mid at_mid
  exact ⟨s', by simp only [exec, ran, ran'], post⟩

theorem branch (on : ∀ s, P s → test s = true) (h : Ends P yes Q) :
    Ends P (.ite test yes no) Q := by
  intro s pre
  simpa [exec, on s pre] using h s pre

theorem otherwise (off : ∀ s, P s → test s = false) (h : Ends P no Q) :
    Ends P (.ite test yes no) Q := by
  intro s pre
  simpa [exec, off s pre] using h s pre

end Ends

namespace Fails

theorem cmd (h : ∀ s, P s → run s = none ∧ R s) : Fails P (.cmd run) R := by
  intro s pre
  obtain ⟨failed, post⟩ := h s pre
  exact ⟨s, by simp [exec, failed], post⟩

theorem head (h : Fails P first R) : Fails P (.seq first rest) R := by
  intro s pre
  obtain ⟨s', ran, post⟩ := h s pre
  exact ⟨s', by simp only [exec, ran], post⟩

theorem tail (h : Ends P first M) (h' : Fails M rest R) : Fails P (.seq first rest) R := by
  intro s pre
  obtain ⟨mid, ran, at_mid⟩ := h s pre
  obtain ⟨s', ran', post⟩ := h' mid at_mid
  exact ⟨s', by simp only [exec, ran, ran'], post⟩

theorem branch (on : ∀ s, P s → test s = true) (h : Fails P yes R) :
    Fails P (.ite test yes no) R := by
  intro s pre
  simpa [exec, on s pre] using h s pre

theorem otherwise (off : ∀ s, P s → test s = false) (h : Fails P no R) :
    Fails P (.ite test yes no) R := by
  intro s pre
  simpa [exec, off s pre] using h s pre

end Fails

theorem Ends.finish {script : Script σ} {s : σ} (h : Ends P script Q) (pre : P s) :
    Q (script.finish s) := by
  obtain ⟨s', ran, post⟩ := h s pre
  simpa [Script.finish, ran] using post

theorem Fails.finish {script : Script σ} {s : σ} (h : Fails P script R) (pre : P s) :
    R (script.finish s) := by
  obtain ⟨s', ran, post⟩ := h s pre
  simpa [Script.finish, ran] using post

end
end Shell
