import Mathlib.Logic.Relation
import TorusProxy.Rollback

/-! Upgrades: what a complete installation leaves, and what a later run of the
installer makes of that, wherever it fails. -/
namespace TorusProxy.Installer

open Shell Script

section
variable {Content : Type}

/-! ## A complete installation -/

namespace Host

/-- With the user and the group. -/
def staffed (h : Host Content) : Host Content := { h with user := true, group := true }

/-- With the directories, too. -/
def housed (inputs : Inputs Content) (h : Host Content) : Host Content :=
  let home := h.home.getD ⟨none, none⟩
  let tls := if inputs.tlsEnabled then some (home.tls.getD ⟨none, none⟩) else home.tls
  { h.staffed with home := some { home with tls := tls } }

/-- The host as the installer leaves it. Without TLS what there is of certificates
stays. -/
def installed (inputs : Inputs Content) (h : Host Content) : Host Content where
  binary := some (inputs.source .binary)
  service := some (inputs.source .service)
  home := some {
    config := some (inputs.source .config)
    tls :=
      if inputs.tlsEnabled then some ⟨some (inputs.source .cert), some (inputs.source .key)⟩
      else h.tls }
  enabled := true
  active := true
  user := true
  group := true

end Host

/-- From the host `a` the script can only come to `b`. It does not declare the
installation complete, wherever it stops. -/
abbrev Leads (a b : Host Content) (script : Script (Session Content)) : Prop :=
  Guards (fun s => s.host = a ∧ s.installSucceeded = false) script
    (fun s => s.host = b ∧ s.installSucceeded = false) (fun s => s.installSucceeded = false)

section
variable {a b : Host Content} {command : Host Content → Option (Host Content)}

theorem idle_leads : Leads a a idle := idle_guards fun _ pre => pre.2

theorem cmd_leads (effect : ∀ h, command a = some h → h = b) :
    Leads a b (.cmd (onHost command)) := by
  apply Guards.cmd fun _ pre => pre.2
  rintro s s' ⟨rfl, unfinished⟩ ran
  obtain ⟨h, done, rfl⟩ := Option.map_eq_some_iff.mp ran
  exact ⟨effect h done, unfinished⟩

theorem recorded_leads {update : Session Content → Session Content}
    (effect : ∀ h, command a = some h → h = b)
    (books : ∀ s, (update s).host = s.host ∧ (update s).installSucceeded = s.installSucceeded) :
    Leads a b (recorded (onHost command) update) := by
  apply Guards.recorded fun _ pre => pre.2
  rintro s s' ⟨rfl, unfinished⟩ ran
  obtain ⟨h, done, rfl⟩ := Option.map_eq_some_iff.mp ran
  obtain ⟨host, succeeded⟩ := books { s with host := h }
  exact ⟨host.trans (effect h done), succeeded.trans unfinished⟩

theorem ite_leads (test : Host Content → Bool) {yes no : Script (Session Content)}
    (on : test a = true → Leads a b yes) (off : test a = false → Leads a b no) :
    Leads a b (.ite (fun s => test s.host) yes no) := by
  apply Guards.ite
  · rintro s ⟨⟨rfl, unfinished⟩, passed⟩
    exact on passed s ⟨rfl, unfinished⟩
  · rintro s ⟨⟨rfl, unfinished⟩, failed⟩
    exact off failed s ⟨rfl, unfinished⟩

end

theorem createGroup_leads (h : Host Content) : Leads h { h with group := true } createGroup := by
  apply ite_leads Host.group
  · intro there
    have same : { h with group := true } = h := by rw [← there]
    rw [same]
    exact idle_leads
  · intro missing
    refine idle_leads.seq (Guards.seq (recorded_leads ?_ fun _ => ⟨rfl, rfl⟩)
      (Guards.skip fun _ post => post))
    intro h' done
    simp only [Host.groupadd, missing, Bool.false_eq_true, if_false, Option.some.injEq] at done
    exact done.symm

theorem createUser_leads (h : Host Content) :
    Leads { h with group := true } h.staffed createUser := by
  apply ite_leads Host.user
  · intro there
    have same : h.staffed = { h with group := true } := by rw [Host.staffed, ← there]
    rw [same]
    exact idle_leads
  · intro missing
    refine idle_leads.seq (Guards.seq (recorded_leads ?_ fun _ => ⟨rfl, rfl⟩)
      (Guards.skip fun _ post => post))
    intro h' done
    exact (Option.some.inj (Option.ite_none_right_eq_some.mp done).2).symm

theorem regroup_leads (a : Host Content) :
    Leads a a (block [.cmd (onHost Host.needsGroup), idle]) := by
  refine (cmd_leads ?_).seq (idle_leads.seq (Guards.skip fun _ post => post))
  intro h done
  exact (Option.some.inj (Option.ite_none_right_eq_some.mp done).2).symm

theorem prepareHome_leads (a : Host Content) :
    Leads a { a with home := some (a.home.getD ⟨none, none⟩) } prepareHome := by
  apply ite_leads fun h => !h.home.isSome
  · intro missing
    refine recorded_leads ?_ fun _ => ⟨rfl, rfl⟩
    intro h done
    have absent : a.home = none := by simpa using missing
    rw [← Option.some.inj (Option.ite_none_right_eq_some.mp done).2, absent]
    rfl
  · intro there
    obtain ⟨home, found⟩ := Option.isSome_iff_exists.mp (by simpa using there)
    have same : { a with home := some (a.home.getD ⟨none, none⟩) } = a := by
      rw [found, Option.getD_some, ← found]
    rw [same]
    exact regroup_leads a

theorem prepareTlsDir_leads {a : Host Content} {home : Home Content} (there : a.home = some home) :
    Leads a { a with home := some { home with tls := some (home.tls.getD ⟨none, none⟩) } }
      prepareTlsDir := by
  have same_tls : a.tls = home.tls := by simp [Host.tls, there]
  apply ite_leads fun h => !h.tls.isSome
  · intro missing
    refine recorded_leads ?_ fun _ => ⟨rfl, rfl⟩
    intro h done
    have absent : home.tls = none := by simpa [same_tls] using missing
    simp only [Host.installTlsDir, there] at done
    split at done
    · rename_i found
      cases done
      cases found
      rw [absent]
      rfl
    · cases done
  · intro dir
    obtain ⟨tls, found⟩ := Option.isSome_iff_exists.mp (by simpa [same_tls] using dir)
    have same : { home with tls := some (home.tls.getD ⟨none, none⟩) } = home := by
      rw [found, Option.getD_some, ← found]
    rw [same, ← there]
    exact regroup_leads a

theorem prepareDirectories_leads (inputs : Inputs Content) (h : Host Content) :
    Leads h.staffed (h.housed inputs) (prepareDirectories inputs) := by
  refine idle_leads.seq ((prepareHome_leads h.staffed).seq
    (Guards.seq ?_ (Guards.skip fun _ post => post)))
  unfold Host.housed
  apply ite_leads fun _ => inputs.tlsEnabled
  · intro on
    rw [on]
    exact prepareTlsDir_leads rfl
  · intro off
    rw [off]
    exact Guards.skip fun _ pre => pre

/-! ## Files and service -/

theorem installFile_leads (inputs : Inputs Content) (file : File) (a : Host Content) :
    Leads a (a.put file (some (inputs.source file))) (installFile inputs file) := by
  apply cmd_leads
  intro h done
  exact (Option.some.inj (Option.ite_none_right_eq_some.mp done).2).symm

theorem backupVisibleConfig_leads (a : Host Content) : Leads a a backupVisibleConfig := by
  apply Guards.ite
  · have regroup : Leads a a (block [log, .cmd (onHost Host.needsGroup), log]) :=
      idle_leads.seq (regroup_leads a)
    exact regroup.narrow
  · exact Guards.skip fun _ pre => pre.1

/-- The host with its files in place. -/
def Host.filed (inputs : Inputs Content) (h : Host Content) : Host Content :=
  let config := ((h.housed inputs).put .binary (some (inputs.source .binary))).put .config
    (some (inputs.source .config))
  let tls :=
    if inputs.tlsEnabled then
      (config.put .cert (some (inputs.source .cert))).put .key (some (inputs.source .key))
    else config
  tls.put .service (some (inputs.source .service))

theorem installTls_leads (inputs : Inputs Content) (a : Host Content) :
    Leads a ((a.put .cert (some (inputs.source .cert))).put .key (some (inputs.source .key)))
      (block [log, installFile inputs .cert, log, installFile inputs .key]) :=
  idle_leads.seq <| (installFile_leads inputs .cert a).seq <| idle_leads.seq <|
    (installFile_leads inputs .key _).seq <| Guards.skip fun _ post => post

theorem installFiles_leads (inputs : Inputs Content) (h : Host Content) :
    Leads (h.housed inputs) (h.filed inputs) (installFiles inputs) := by
  refine idle_leads.seq <| (installFile_leads inputs .binary _).seq <|
    (backupVisibleConfig_leads _).seq <| idle_leads.seq <|
    (installFile_leads inputs .config _).seq <| Guards.seq ?_ <| idle_leads.seq <|
    (installFile_leads inputs .service _).seq <| Guards.skip fun _ post => post
  apply ite_leads fun _ => inputs.tlsEnabled
  · intro on
    rw [if_pos on]
    exact installTls_leads inputs _
  · intro off
    rw [if_neg (by simp [off])]
    exact Guards.skip fun _ pre => pre

theorem activateService_leads (a : Host Content) :
    Leads a { a with enabled := true, active := true } activateService := by
  have enable : Leads a { a with enabled := true } (.cmd (onHost Host.systemctlEnable)) := by
    apply cmd_leads
    intro h done
    exact (Option.some.inj (Option.ite_none_right_eq_some.mp done).2).symm
  have restart : Leads { a with enabled := true } { a with enabled := true, active := true }
      (.cmd (onHost Host.systemctlRestart)) := by
    apply cmd_leads
    intro h done
    exact (Option.some.inj (Option.ite_none_right_eq_some.mp done).2).symm
  exact idle_leads.seq <| idle_leads.seq <| idle_leads.seq <| enable.seq <| idle_leads.seq <|
    restart.seq <| Guards.skip fun _ post => post

/-- A service that has died is noticed. -/
theorem verifyService_leads (inputs : Inputs Content) {a : Host Content} (up : a.active = true) :
    Leads a a (verifyService inputs) := by
  let died : Host Content := { a with active := a.active && !inputs.crashed }
  have dies : Leads a died (.set fun s =>
      { s with host.active := s.host.active && !inputs.crashed }) := by
    apply Guards.set
    rintro s ⟨rfl, unfinished⟩
    exact ⟨rfl, unfinished⟩
  have runs : Leads died a (.cmd fun s => if s.host.active then some s else none) := by
    apply Guards.cmd fun _ pre => pre.2
    rintro s s' ⟨host, unfinished⟩ ran
    obtain ⟨active, same⟩ := Option.ite_none_right_eq_some.mp ran
    cases same
    rw [host] at active
    have alive : died = a := by
      have both : died = { died with active := a.active } := by rw [up, ← active]
      exact both
    exact ⟨host.trans alive, unfinished⟩
  have listens : Leads a a (.cmd fun s => if inputs.listening then some s else none) := by
    apply Guards.cmd fun _ pre => pre.2
    intro s s' pre ran
    obtain ⟨-, same⟩ := Option.ite_none_right_eq_some.mp ran
    cases same
    exact pre
  exact idle_leads.seq <| dies.seq <| runs.seq <| idle_leads.seq <| idle_leads.seq <|
    listens.seq <| idle_leads.seq <| Guards.skip fun _ post => post

theorem filed_installed (inputs : Inputs Content) (h : Host Content) :
    { h.filed inputs with enabled := true, active := true } = h.installed inputs := by
  obtain ⟨binary, service, home, enabled, active, user, group⟩ := h
  cases tls : inputs.tlsEnabled with
  | true => simp [Host.filed, Host.housed, Host.installed, Host.staffed, Host.put, Host.mapTls, tls]
  | false =>
    cases home with
    | none => simp [Host.filed, Host.housed, Host.installed, Host.staffed, Host.put, Host.tls, tls]
    | some home =>
      simp [Host.filed, Host.housed, Host.installed, Host.staffed, Host.put, Host.tls, tls]

/-- A copy of a file, or a note about the service. -/
theorem backupFile_leads (a : Host Content) (file : File) : Leads a a (backupFile file) := by
  apply Guards.ite
  · apply Guards.recorded fun _ pre => pre.1.2
    rintro s _ ⟨pre, -⟩ ⟨⟩
    exact pre
  · exact Guards.skip fun _ pre => pre.1

theorem serviceState_leads (a : Host Content) : Leads a a serviceState := by
  have note {test : Session Content → Bool} {update : Session Content → Session Content}
      (books : ∀ s, (update s).host = s.host ∧ (update s).installSucceeded = s.installSucceeded) :
      Leads a a (when test (.set update)) := by
    have noted : Leads a a (.set update) := by
      apply Guards.set
      rintro s ⟨rfl, unfinished⟩
      exact ⟨(books s).1, (books s).2.trans unfinished⟩
    exact Guards.ite noted.narrow (Guards.skip fun _ pre => pre.1)
  have notes : Leads a a (block [
      when (fun s => s.host.active) (.set fun s => { s with serviceWasActive := true }),
      when (fun s => s.host.enabled) (.set fun s => { s with serviceWasEnabled := true })]) := by
    refine Guards.seq (note ?_) <| Guards.seq (note ?_) <| Guards.skip fun _ post => post
    · exact fun _ => ⟨rfl, rfl⟩
    · exact fun _ => ⟨rfl, rfl⟩
  exact Guards.ite notes.narrow (Guards.skip fun _ pre => pre.1)

theorem prepareBackup_leads (a : Host Content) : Leads a a prepareBackup := by
  apply Guards.block_invariant
  simp only [List.forall_mem_cons]
  exact ⟨idle_leads, backupFile_leads a _, backupFile_leads a _, backupFile_leads a _,
    backupFile_leads a _, backupFile_leads a _, serviceState_leads a, by simp⟩

/-- Wherever the installer declares itself done, the host is what it was to become. -/
theorem main_installs (inputs : Inputs Content) (h : Host Content) :
    Guards (· = Session.new h) (main inputs)
      (fun s => s.installSucceeded = true ∧ s.host = h.installed inputs)
      (fun s => s.installSucceeded = true → s.host = h.installed inputs) := by
  have quiet {a b : Host Content} {script : Script (Session Content)} (leads : Leads a b script) :
      Guards (fun s => s.host = a ∧ s.installSucceeded = false) script
        (fun s => s.host = b ∧ s.installSucceeded = false)
        (fun s => s.installSucceeded = true → s.host = h.installed inputs) := by
    refine leads.weaken (fun _ pre => pre) (fun _ post => post) ?_
    intro s unfinished done
    cases unfinished.symm.trans done
  have prepare : Guards (· = Session.new h) prepareBackup
      (fun s => s.host = h ∧ s.installSucceeded = false)
      (fun s => s.installSucceeded = true → s.host = h.installed inputs) := by
    apply (quiet (prepareBackup_leads h)).weaken _ (fun _ post => post) fun _ stop => stop
    rintro s rfl
    exact ⟨rfl, rfl⟩
  have users : Leads h h.staffed createUserGroup :=
    (createGroup_leads h).seq <| (createUser_leads h).seq <| Guards.skip fun _ post => post
  refine prepare.seq <| Guards.seq (Guards.set fun _ pre => pre) <| (quiet users).seq <|
    (quiet (prepareDirectories_leads inputs h)).seq <| (quiet (installFiles_leads inputs h)).seq <|
    (quiet (activateService_leads _)).seq <| (quiet (verifyService_leads inputs rfl)).seq <|
    Guards.seq (Guards.set ?_) <| (idle_guards ?_).seq <| Guards.skip fun _ done => done
  · rintro s ⟨host, -⟩
    exact ⟨rfl, host.trans (filed_installed inputs h)⟩
  · exact fun s done _ => done.2

/-! ## Upgrades -/

/-- What a run of the installer makes of a host: it comes to its end, or it stops
somewhere and the trap finds a failure. -/
inductive Outcome (inputs : Inputs Content) (h : Host Content) : Host Content → Prop
  | completed (s : Session Content) (ended : (main inputs).exec (Session.new h) = .ok s) :
      Outcome inputs h ((onExit inputs false).finish s).host
  | stopped (s : Session Content) (stops : (main inputs).Stops (Session.new h) s) :
      Outcome inputs h ((onExit inputs true).finish s).host

/-- What happens to a host that is deployed: the installer runs again, the service is
switched on or off or dies, one of the files is edited. -/
inductive Change : Host Content → Host Content → Prop
  | upgrade (inputs : Inputs Content) (h h' : Host Content) (run : Outcome inputs h h') :
      Change h h'
  | service (h : Host Content) (enabled active : Bool) :
      Change h { h with enabled := enabled, active := active }
  | edit (h : Host Content) (file : File) (content : Content) :
      Change h (h.put file (some content))

/-- All that a rollback may need and does not make. -/
structure Host.Maintained (h : Host Content) : Prop where
  user : h.user = true
  group : h.group = true
  service : h.service.isSome = true

theorem Host.installed_maintained (inputs : Inputs Content) (h : Host Content) :
    (h.installed inputs).Maintained :=
  ⟨rfl, rfl, rfl⟩

theorem onExit_completed (inputs : Inputs Content) (s : Session Content) :
    ((onExit inputs false).finish s).host = s.host := rfl

/-- On a host that is maintained the installer is atomic. -/
theorem Outcome.atomic {inputs : Inputs Content} {h h' : Host Content} (run : Outcome inputs h h')
    (maintained : h.Maintained) : h' = h ∨ h' = h.installed inputs := by
  cases run with
  | completed s ended =>
    rw [onExit_completed]
    exact .inr ((main_installs inputs h _ rfl).1 s ended).2
  | stopped s stops =>
    rcases (main_guards inputs h _ rfl).2 s stops with idle | done | r
    · rw [onExit_outside inputs (.inl idle.1)]
      exact .inl idle.2
    · rw [onExit_outside inputs (.inr done)]
      exact .inr ((main_installs inputs h _ rfl).2 s stops done)
    · have calm : ¬ Strands h s := by
        rintro ⟨missing, -⟩
        rw [r.group, maintained.group] at missing
        cases missing
      have found : s.createdUser ≠ true := by
        intro created
        have absent := r.user_new created
        rw [maintained.user] at absent
        cases absent
      rw [onExit_rolledBack inputs r calm]
      exact .inl ((rolledBack_eq_iff inputs h s.createdUser).mpr
        ⟨.inl maintained.service, fun taken => found taken.1⟩)

theorem Change.maintained {h h' : Host Content} (change : Change h h')
    (maintained : h.Maintained) : h'.Maintained := by
  cases change with
  | upgrade inputs _ _ run =>
    rcases run.atomic maintained with rfl | rfl
    · exact maintained
    · exact h.installed_maintained inputs
  | service => exact ⟨maintained.user, maintained.group, maintained.service⟩
  | edit _ file content =>
    cases file with
    | service => exact ⟨maintained.user, maintained.group, rfl⟩
    | binary | config | cert | key =>
      exact ⟨maintained.user, maintained.group, maintained.service⟩

theorem maintained_of_changes {h h' : Host Content} (maintained : h.Maintained)
    (changes : Relation.ReflTransGen Change h h') : h'.Maintained := by
  induction changes with
  | refl => exact maintained
  | tail _ change ih => exact change.maintained ih

/-- **Upgrades.** The first run of the installer that comes to its end leaves the host it
was to make, whatever was there. From then on, whatever has happened since, every
run leaves the host that it was to make, or the one that it found. -/
theorem upgrades_atomic {inputs : Inputs Content} {h₀ : Host Content} {s : Session Content}
    (first : (main inputs).exec (Session.new h₀) = .ok s) :
    s.host = h₀.installed inputs ∧
      ∀ h, Relation.ReflTransGen Change s.host h → ∀ inputs' h', Outcome inputs' h h' →
        h' = h ∨ h' = h.installed inputs' := by
  have made := ((main_installs inputs h₀ _ rfl).1 s first).2
  refine ⟨made, ?_⟩
  intro h changes inputs' h' run
  exact run.atomic (maintained_of_changes (made ▸ h₀.installed_maintained inputs) changes)

end

/-- After a first installation, an upgrade whose service crashes is undone or has come
through. -/
theorem upgrades_atomic_crashed :
    ∃ s, (main plainInputs).exec (Session.new emptyHost) = .ok s ∧
      s.host = emptyHost.installed plainInputs ∧
      ∀ h', Outcome { plainInputs with crashed := true } s.host h' →
        h' = s.host ∨ h' = s.host.installed { plainInputs with crashed := true } := by
  obtain ⟨s, first⟩ : ∃ s, (main plainInputs).exec (Session.new emptyHost) = .ok s := ⟨_, rfl⟩
  obtain ⟨made, later⟩ := upgrades_atomic first
  exact ⟨s, first, made, fun h' run => later _ .refl _ h' run⟩

end TorusProxy.Installer
