import TorusProxy.Installer

/-! The installation up to any failure: what holds wherever a command of `main`
fails, from the backup of the host on. -/
namespace TorusProxy.Installer

open Shell Script

section
variable {Content : Type}

/-! ## The managed state -/

/-- All that is managed of a host, side by side. -/
@[ext] structure View (Content : Type) where
  file : File → Option Content
  home : Bool
  tls : Bool
  enabled : Bool
  active : Bool
  user : Bool
  group : Bool

namespace Host

def view (h : Host Content) : View Content where
  file := h.read
  home := h.home.isSome
  tls := h.tls.isSome
  enabled := h.enabled
  active := h.active
  user := h.user
  group := h.group

/-- A host is nothing but its managed state. -/
theorem view_injective {h h' : Host Content} (same : h.view = h'.view) : h = h' := by
  obtain ⟨binary, service, home, enabled, active, user, group⟩ := h
  obtain ⟨binary', service', home', enabled', active', user', group'⟩ := h'
  have reads (file : File) := congrFun (congrArg View.file same) file
  have read_binary := reads .binary
  have read_service := reads .service
  have read_config := reads .config
  have read_cert := reads .cert
  have read_key := reads .key
  have same_home := congrArg View.home same
  have same_tls := congrArg View.tls same
  have same_enabled := congrArg View.enabled same
  have same_active := congrArg View.active same
  have same_user := congrArg View.user same
  have same_group := congrArg View.group same
  simp only [view, read, Host.tls] at *
  rcases home with _ | ⟨config, _ | ⟨cert, key⟩⟩ <;>
    rcases home' with _ | ⟨config', _ | ⟨cert', key'⟩⟩ <;> simp_all

theorem read_of_no_dir {h : Host Content} {file : File} (missing : h.hasDir file = false) :
    h.read file = none := by
  cases file with
  | binary => cases missing
  | service => cases missing
  | config =>
    have none : h.home = none := by simpa [hasDir] using missing
    simp [read, none]
  | cert =>
    have none : h.tls = none := by simpa [hasDir] using missing
    simp [read, none]
  | key =>
    have none : h.tls = none := by simpa [hasDir] using missing
    simp [read, none]

theorem put_of_no_dir {h : Host Content} {file : File} (missing : h.hasDir file = false)
    (content : Option Content) : h.put file content = h := by
  obtain ⟨binary, service, home, enabled, active, user, group⟩ := h
  cases file <;> rcases home with _ | ⟨config, _ | ⟨cert, key⟩⟩ <;>
    simp_all [hasDir, put, mapTls, Host.tls]

theorem view_put {h : Host Content} {file : File} (dir : h.hasDir file = true)
    (content : Option Content) :
    (h.put file content).view =
      { h.view with file := Function.update h.view.file file content } := by
  obtain ⟨binary, service, home, enabled, active, user, group⟩ := h
  have files (g : File) :
      ((Host.mk binary service home enabled active user group).put file content).read g =
      Function.update (Host.read ⟨binary, service, home, enabled, active, user, group⟩)
        file content g := by
    cases file <;> cases g <;> rcases home with _ | ⟨config, _ | ⟨cert, key⟩⟩ <;>
      simp_all [hasDir, put, mapTls, Host.tls, read]
  apply View.ext
  · exact funext files
  all_goals cases file <;> rcases home with _ | ⟨config, _ | ⟨cert, key⟩⟩ <;>
    simp_all [hasDir, put, mapTls, Host.tls, view]

theorem rmdirTlsDir_empty {h : Host Content} (there : h.tls.isSome = true)
    (cert : h.read .cert = none) (key : h.read .key = none) :
    ∃ h', h.rmdirTlsDir = some h' ∧ h'.view = { h.view with tls := false } := by
  obtain ⟨binary, service, home, enabled, active, user, group⟩ := h
  rcases home with _ | ⟨config, _ | ⟨_ | cert, _ | key⟩⟩ <;> simp_all [Host.tls, read]
  refine ⟨_, rfl, ?_⟩
  apply View.ext
  · funext file
    cases file <;> rfl
  all_goals rfl

theorem rmdirHome_empty {h : Host Content} (there : h.home.isSome = true)
    (config : h.read .config = none) (no_tls : h.tls.isSome = false) :
    ∃ h', h.rmdirHome = some h' ∧ h'.view = { h.view with home := false } := by
  obtain ⟨binary, service, home, enabled, active, user, group⟩ := h
  rcases home with _ | ⟨_ | config, _ | tls⟩ <;> simp_all [Host.tls, read]
  refine ⟨_, rfl, ?_⟩
  apply View.ext
  · funext file
    cases file <;> rfl
  all_goals rfl

/-- The directories and the accounts are the same. -/
def SameBooks (h h' : Host Content) : Prop :=
  h'.home.isSome = h.home.isSome ∧ h'.tls.isSome = h.tls.isSome ∧ h'.user = h.user ∧
    h'.group = h.group

theorem put_books (h : Host Content) (file : File) (content : Option Content) :
    SameBooks h (h.put file content) := by
  cases dir : h.hasDir file with
  | false =>
    rw [put_of_no_dir dir]
    exact ⟨rfl, rfl, rfl, rfl⟩
  | true =>
    have seen := view_put dir content
    exact ⟨congrArg View.home seen, congrArg View.tls seen, congrArg View.user seen,
      congrArg View.group seen⟩

end Host

/-! ## The backup -/

/-- The session with these files backed up. -/
def Session.backed (h₀ : Host Content) (done : List File) : Session Content :=
  { Session.new h₀ with
    backup := fun file => if file ∈ done then h₀.read file else none
    existing := fun file => decide (file ∈ done) && (h₀.read file).isSome }

/-- The session `prepare_backup` leaves. -/
def Session.prepared (h₀ : Host Content) : Session Content :=
  { Session.new h₀ with
    backup := h₀.read
    existing := fun file => (h₀.read file).isSome
    serviceWasActive := (h₀.read .service).isSome && h₀.active
    serviceWasEnabled := (h₀.read .service).isSome && h₀.enabled }

/-- Nothing has been changed yet, and the trap will change nothing. -/
def Idle (h₀ : Host Content) (s : Session Content) : Prop :=
  s.mutationStarted = false ∧ s.host = h₀

theorem backed_present {h₀ : Host Content} (done : List File) {file : File}
    (present : (h₀.read file).isSome = true) :
    { Session.backed h₀ done with
      backup := Function.update (Session.backed h₀ done).backup file (h₀.read file)
      existing := Function.update (Session.backed h₀ done).existing file true } =
    Session.backed h₀ (file :: done) := by
  simp only [Session.backed, Session.mk.injEq, true_and, and_true]
  constructor <;> funext g <;> by_cases same : g = file <;> simp [same, present]

theorem backed_absent {h₀ : Host Content} (done : List File) {file : File}
    (absent : h₀.read file = none) :
    Session.backed h₀ done = Session.backed h₀ (file :: done) := by
  simp only [Session.backed, Session.mk.injEq, true_and, and_true]
  constructor <;> funext g <;> by_cases same : g = file <;> simp [same, absent]

theorem backupFile_guards (h₀ : Host Content) (done : List File) (file : File) :
    Guards (· = Session.backed h₀ done) (backupFile file)
      (· = Session.backed h₀ (file :: done)) (Idle h₀) := by
  apply Guards.ite
  · apply Guards.recorded
    · rintro _ ⟨rfl, _⟩
      exact ⟨rfl, rfl⟩
    · rintro _ _ ⟨rfl, present⟩ ⟨⟩
      exact backed_present done present
  · apply Guards.skip
    rintro _ ⟨rfl, missing⟩
    apply backed_absent
    simpa [Session.backed, Session.new] using missing

theorem idle_guards {P R : Session Content → Prop} (stop : ∀ s, P s → R s) :
    Guards P idle P R := by
  apply Guards.cmd stop
  rintro s _ pre ⟨⟩
  exact pre

theorem backed_nil (h₀ : Host Content) : Session.backed h₀ [] = Session.new h₀ := by
  simp [Session.backed, Session.new]

theorem serviceState_guards (h₀ : Host Content) :
    Guards (· = Session.backed h₀ [.key, .cert, .service, .config, .binary]) serviceState
      (· = Session.prepared h₀) (Idle h₀) := by
  have all (file : File) : file ∈ [File.key, .cert, .service, .config, .binary] := by
    cases file <;> decide
  have backed : Session.backed h₀ [.key, .cert, .service, .config, .binary] =
      { Session.new h₀ with
        backup := h₀.read, existing := fun file => (h₀.read file).isSome } := by
    simp only [Session.backed, all, if_true, decide_true, Bool.true_and]
  have ran : serviceState.exec (Session.backed h₀ [.key, .cert, .service, .config, .binary]) =
      .ok (Session.prepared h₀) := by
    rw [backed]
    unfold serviceState Session.prepared
    cases present : (h₀.read .service).isSome <;> cases active : h₀.active <;>
      cases enabled : h₀.enabled <;>
      simp [Session.new, Script.exec, when, block, present, active, enabled]
  rintro _ rfl
  constructor
  · intro s' ran'
    cases ran.symm.trans ran'
    rfl
  · intro s' stop
    -- only tests and assignments
    simp [serviceState, Stops, when, block] at stop

theorem prepareBackup_guards (h₀ : Host Content) :
    Guards (· = Session.new h₀) prepareBackup (· = Session.prepared h₀) (Idle h₀) := by
  have start : Guards (· = Session.new h₀) idle (· = Session.backed h₀ []) (Idle h₀) := by
    rw [backed_nil]
    apply idle_guards
    rintro _ rfl
    exact ⟨rfl, rfl⟩
  exact start.seq <| (backupFile_guards h₀ _ _).seq <| (backupFile_guards h₀ _ _).seq <|
    (backupFile_guards h₀ _ _).seq <| (backupFile_guards h₀ _ _).seq <|
    (backupFile_guards h₀ _ _).seq <| (serviceState_guards h₀).seq <| Guards.skip fun _ h => h

/-! ## The installation, up to any failure -/

/-- What the rollback can count on wherever the installation fails: the backup is
of the host as it was, and whatever exists beyond that is on the books. -/
structure Restorable (h₀ : Host Content) (s : Session Content) : Prop where
  started : s.mutationStarted = true
  unfinished : s.installSucceeded = false
  backup : s.backup = h₀.read
  existing : ∀ file, s.existing file = (h₀.read file).isSome
  wasActive : s.serviceWasActive = ((h₀.read .service).isSome && h₀.active)
  wasEnabled : s.serviceWasEnabled = ((h₀.read .service).isSome && h₀.enabled)
  home : s.host.home.isSome = (h₀.home.isSome || s.createdHome)
  home_new : s.createdHome = true → h₀.home.isSome = false
  tls : s.host.tls.isSome = (h₀.tls.isSome || s.createdTlsDir)
  tls_new : s.createdTlsDir = true → h₀.tls.isSome = false
  user : s.host.user = (h₀.user || s.createdUser)
  user_new : s.createdUser = true → h₀.user = false
  group : s.host.group = (h₀.group || s.createdGroup)
  group_new : s.createdGroup = true → h₀.group = false
  /-- Without the group nothing has been done yet. -/
  untouched : s.host.group = false → s.host = h₀ ∧ s.createdUser = false

/-- The same, once there is a group. -/
structure Grouped (h₀ : Host Content) (s : Session Content) : Prop extends Restorable h₀ s where
  grouped : s.host.group = true

variable {h₀ : Host Content}

theorem prepared_restorable (h₀ : Host Content) :
    Restorable h₀ { Session.prepared h₀ with mutationStarted := true } where
  started := rfl
  unfinished := rfl
  backup := rfl
  existing := fun _ => rfl
  wasActive := rfl
  wasEnabled := rfl
  home := (Bool.or_false _).symm
  home_new := nofun
  tls := (Bool.or_false _).symm
  tls_new := nofun
  user := (Bool.or_false _).symm
  user_new := nofun
  group := (Bool.or_false _).symm
  group_new := nofun
  untouched := fun _ => ⟨rfl, rfl⟩

/-- Files and service flags are not on the books. -/
theorem Grouped.changed {s : Session Content} (g : Grouped h₀ s) {h : Host Content}
    (home : h.home.isSome = s.host.home.isSome) (tls : h.tls.isSome = s.host.tls.isSome)
    (user : h.user = s.host.user) (group : h.group = s.host.group) :
    Grouped h₀ { s with host := h } :=
  { g with
    home := home.trans g.home
    tls := tls.trans g.tls
    user := user.trans g.user
    group := group.trans g.group
    untouched := fun missing => absurd (group.symm.trans missing) (by simp [g.grouped])
    grouped := group.trans g.grouped }

/-- The script keeps the books, and can be rolled back wherever it stops. -/
abbrev Keeps (h₀ : Host Content) (script : Script (Session Content)) : Prop :=
  Guards (Grouped h₀) script (Grouped h₀) (Restorable h₀)

theorem idle_keeps : Keeps h₀ idle := idle_guards fun _ g => g.toRestorable

/-- A command that only changes files or service flags, where it is possible. -/
theorem cmd_keeps {test : Host Content → Bool} {effect : Host Content → Host Content}
    (books : ∀ h : Host Content, h.SameBooks (effect h)) :
    Keeps h₀ (.cmd (onHost fun h => if test h then some (effect h) else none)) := by
  apply Guards.cmd fun _ g => g.toRestorable
  intro s s' g ran
  obtain ⟨h, possible, rfl⟩ := Option.map_eq_some_iff.mp ran
  obtain ⟨_, done⟩ := Option.ite_none_right_eq_some.mp possible
  cases done
  obtain ⟨home, tls, user, group⟩ := books s.host
  exact g.changed home tls user group

theorem needsGroup_keeps : Keeps h₀ (.cmd (onHost Host.needsGroup)) :=
  cmd_keeps fun _ => ⟨rfl, rfl, rfl, rfl⟩

theorem installFile_keeps (inputs : Inputs Content) (file : File) :
    Keeps h₀ (installFile inputs file) :=
  cmd_keeps fun h => h.put_books file _

theorem when_keeps {test : Session Content → Bool} {yes : Script (Session Content)}
    (h : Keeps h₀ yes) : Keeps h₀ (when test yes) :=
  Guards.ite h.narrow (Guards.skip fun _ pre => pre.1)

theorem createGroup_guards :
    Guards (Restorable h₀) createGroup (Grouped h₀) (Restorable h₀) := by
  apply Guards.ite
  · apply Guards.cmd fun _ pre => pre.1
    rintro s _ ⟨r, grouped⟩ ⟨⟩
    exact { r with grouped := grouped }
  · refine (idle_guards fun _ pre => pre.1).seq (Guards.seq ?_ (Guards.skip fun _ g => g))
    apply Guards.recorded fun _ pre => pre.1
    rintro s s' ⟨r, missing⟩ ran
    obtain ⟨h, effect, rfl⟩ := Option.map_eq_some_iff.mp ran
    rw [Host.groupadd, if_neg (by simp [missing])] at effect
    cases effect
    obtain ⟨host, _⟩ := r.untouched missing
    have absent : h₀.group = false := host ▸ missing
    exact { r with
      group := (Bool.or_true _).symm
      group_new := fun _ => absent
      untouched := nofun
      grouped := rfl }

theorem createUser_keeps : Keeps h₀ createUser := by
  apply Guards.ite
  · exact idle_keeps.narrow
  · refine (idle_guards fun _ pre => pre.1.toRestorable).seq
      (Guards.seq ?_ (Guards.skip fun _ g => g))
    apply Guards.recorded fun _ pre => pre.1.toRestorable
    rintro s s' ⟨g, missing⟩ ran
    obtain ⟨h, effect, rfl⟩ := Option.map_eq_some_iff.mp ran
    rw [Host.useradd, if_pos (by simp [g.grouped, missing])] at effect
    cases effect
    have absent : h₀.user = false := (Bool.or_eq_false_iff.mp (g.user.symm.trans missing)).1
    exact { g with
      user := (Bool.or_true _).symm
      user_new := fun _ => absent
      untouched := fun missing => absurd (g.grouped.symm.trans missing) nofun }

theorem createUserGroup_guards :
    Guards (Restorable h₀) createUserGroup (Grouped h₀) (Restorable h₀) :=
  createGroup_guards.seq <| createUser_keeps.seq <| Guards.skip fun _ g => g

theorem regroup_keeps : Keeps h₀ (block [.cmd (onHost Host.needsGroup), idle]) :=
  needsGroup_keeps.seq <| idle_keeps.seq <| Guards.skip fun _ g => g

theorem prepareHome_keeps : Keeps h₀ prepareHome := by
  apply Guards.ite
  · apply Guards.recorded fun _ pre => pre.1.toRestorable
    rintro s s' ⟨g, absent⟩ ran
    obtain ⟨h, effect, rfl⟩ := Option.map_eq_some_iff.mp ran
    rw [Host.installHome, if_pos g.grouped] at effect
    cases effect
    have no_home : s.host.home = none := by simpa using absent
    have no_tls : s.host.tls = none := by simp [Host.tls, no_home]
    have missing : h₀.home.isSome = false := by
      have books := g.home
      rw [no_home] at books
      exact (Bool.or_eq_false_iff.mp books.symm).1
    exact { g with
      home := (Bool.or_true _).symm
      home_new := fun _ => missing
      tls := by rw [← g.tls, no_tls]; rfl
      untouched := fun missing => absurd (g.grouped.symm.trans missing) nofun }
  · exact regroup_keeps.narrow

theorem prepareTlsDir_keeps : Keeps h₀ prepareTlsDir := by
  apply Guards.ite
  · apply Guards.recorded fun _ pre => pre.1.toRestorable
    rintro s s' ⟨g, absent⟩ ran
    obtain ⟨h, effect, rfl⟩ := Option.map_eq_some_iff.mp ran
    have no_tls : s.host.tls = none := by simpa using absent
    have missing : h₀.tls.isSome = false := by
      have books := g.tls
      rw [no_tls] at books
      exact (Bool.or_eq_false_iff.mp books.symm).1
    simp only [Host.installTlsDir] at effect
    split at effect
    · rename_i home _ in_home
      cases effect
      exact { g with
        home := by rw [← g.home, in_home]; rfl
        tls := (Bool.or_true _).symm
        tls_new := fun _ => missing
        untouched := fun missing => absurd (g.grouped.symm.trans missing) nofun }
    · cases effect
  · exact regroup_keeps.narrow

theorem prepareDirectories_keeps (inputs : Inputs Content) :
    Keeps h₀ (prepareDirectories inputs) := by
  apply Guards.block_invariant
  simp only [List.forall_mem_cons]
  exact ⟨idle_keeps, prepareHome_keeps, when_keeps prepareTlsDir_keeps, nofun⟩

theorem backupVisibleConfig_keeps : Keeps h₀ backupVisibleConfig := by
  apply when_keeps
  apply Guards.block_invariant
  simp only [List.forall_mem_cons]
  exact ⟨idle_keeps, needsGroup_keeps, idle_keeps, nofun⟩

theorem installFiles_keeps (inputs : Inputs Content) : Keeps h₀ (installFiles inputs) := by
  have installed (file : File) : Keeps h₀ (installFile inputs file) := installFile_keeps inputs file
  have tls_files : Keeps h₀
      (block [log, installFile inputs .cert, log, installFile inputs .key]) := by
    apply Guards.block_invariant
    simp only [List.forall_mem_cons]
    exact ⟨idle_keeps, installed .cert, idle_keeps, installed .key, nofun⟩
  apply Guards.block_invariant
  simp only [List.forall_mem_cons]
  exact ⟨idle_keeps, installed .binary, backupVisibleConfig_keeps, idle_keeps, installed .config,
    when_keeps tls_files, idle_keeps, installed .service, nofun⟩

theorem activateService_keeps : Keeps h₀ activateService := by
  have enable : Keeps h₀ (.cmd (onHost Host.systemctlEnable)) :=
    cmd_keeps fun _ => ⟨rfl, rfl, rfl, rfl⟩
  have restart : Keeps h₀ (.cmd (onHost Host.systemctlRestart)) :=
    cmd_keeps fun _ => ⟨rfl, rfl, rfl, rfl⟩
  apply Guards.block_invariant
  simp only [List.forall_mem_cons]
  exact ⟨idle_keeps, idle_keeps, idle_keeps, enable, idle_keeps, restart, nofun⟩

theorem verifyService_keeps (inputs : Inputs Content) : Keeps h₀ (verifyService inputs) := by
  have died : Keeps h₀ (.set fun s =>
      { s with host.active := s.host.active && !inputs.crashed }) :=
    Guards.set fun _ g => g.changed rfl rfl rfl rfl
  have check (test : Session Content → Bool) :
      Keeps h₀ (.cmd fun s => if test s then some s else none) := by
    apply Guards.cmd fun _ g => g.toRestorable
    intro s s' g ran
    obtain ⟨_, same⟩ := Option.ite_none_right_eq_some.mp ran
    cases same
    exact g
  apply Guards.block_invariant
  simp only [List.forall_mem_cons]
  exact ⟨idle_keeps, died, check fun s => s.host.active, idle_keeps, idle_keeps,
    check fun _ => inputs.listening, idle_keeps, nofun⟩

/-- Wherever `main` stops, either nothing was changed yet, or the installation is
complete, or the rollback can count on its books. -/
theorem main_guards (inputs : Inputs Content) (h₀ : Host Content) :
    Guards (· = Session.new h₀) (main inputs) (fun s => s.installSucceeded = true)
      (fun s => Idle h₀ s ∨ s.installSucceeded = true ∨ Restorable h₀ s) := by
  have prepare : Guards (· = Session.new h₀) prepareBackup (· = Session.prepared h₀)
      (fun s => Idle h₀ s ∨ s.installSucceeded = true ∨ Restorable h₀ s) :=
    (prepareBackup_guards h₀).weaken (fun _ pre => pre) (fun _ post => post) fun _ i => .inl i
  have mutate {P : Session Content → Prop} {script : Script (Session Content)}
      (h : Guards P script (Grouped h₀) (Restorable h₀)) : Guards P script (Grouped h₀)
        (fun s => Idle h₀ s ∨ s.installSucceeded = true ∨ Restorable h₀ s) :=
    h.weaken (fun _ pre => pre) (fun _ post => post) fun _ r => .inr (.inr r)
  refine prepare.seq <| Guards.seq (Guards.set ?_) <| (mutate createUserGroup_guards).seq <|
    (mutate (prepareDirectories_keeps inputs)).seq <| (mutate (installFiles_keeps inputs)).seq <|
    (mutate activateService_keeps).seq <| (mutate (verifyService_keeps inputs)).seq <|
    Guards.seq (Guards.set ?_) <| (idle_guards ?_).seq <| Guards.skip fun _ done => done
  · rintro _ rfl
    exact prepared_restorable h₀
  · exact fun _ _ => rfl
  · exact fun _ done => .inr (.inl done)

end
end TorusProxy.Installer
