import TorusProxy.Installation

/-! What the installer's rollback restores: the exit trap from the state of the
failure to its end, stage by stage. -/
namespace TorusProxy.Installer

open Shell Script

section
variable {Content : Type} {h₀ : Host Content}

/-! ## The rollback -/

/-- The session of the failure, with the managed state as it is now. -/
def Rolling (s₀ : Session Content) (v : View Content) (s : Session Content) : Prop :=
  s = { s₀ with host := s.host } ∧ s.host.view = v

section
variable {s₀ : Session Content} {v v' : View Content}

theorem rolling_cmd {command : Host Content → Option (Host Content)}
    (effect : ∀ h, h.view = v → ∃ h', command h = some h' ∧ h'.view = v') :
    Ends (Rolling s₀ v) (.cmd (onHost command)) (Rolling s₀ v') := by
  apply Ends.cmd
  rintro s ⟨vars, seen⟩
  obtain ⟨h', ran, seen'⟩ := effect s.host seen
  refine ⟨{ s with host := h' }, by rw [onHost, ran]; rfl, ?_, seen'⟩
  rw [vars]

theorem rolling_ignored {command : Host Content → Option (Host Content)}
    (effect : ∀ h, h.view = v → ((command h).getD h).view = v') :
    Ends (Rolling s₀ v) (orTrue (onHost command)) (Rolling s₀ v') := by
  apply Ends.set
  rintro s ⟨vars, seen⟩
  have left := effect s.host seen
  unfold onHost
  cases ran : command s.host with
  | none =>
    rw [ran] at left
    exact ⟨vars, left⟩
  | some h =>
    rw [ran] at left
    refine ⟨?_, left⟩
    rw [vars]
    rfl

theorem rolling_orTrue {command : Host Content → Option (Host Content)}
    (effect : ∀ h, h.view = v → ∃ h', command h = some h' ∧ h'.view = v') :
    Ends (Rolling s₀ v) (orTrue (onHost command)) (Rolling s₀ v') := by
  apply rolling_ignored
  intro h seen
  obtain ⟨h', ran, seen'⟩ := effect h seen
  rwa [ran]

theorem Rolling.test {s : Session Content} (r : Rolling s₀ v s) (test : Session Content → Bool)
    (blind : ∀ h, test { s₀ with host := h } = test s₀) : test s = test s₀ := by
  rw [r.1]
  exact blind s.host

/-- A branch on a variable of the script. -/
theorem rolling_when {test : Session Content → Bool} {yes : Script (Session Content)}
    (blind : ∀ h, test { s₀ with host := h } = test s₀)
    (taken : test s₀ = true → Ends (Rolling s₀ v) yes (Rolling s₀ v'))
    (passed : test s₀ = false → v = v') :
    Ends (Rolling s₀ v) (when test yes) (Rolling s₀ v') := by
  cases on : test s₀ with
  | true => exact Ends.branch (fun _ r => (r.test _ blind).trans on) (taken on)
  | false =>
    apply Ends.otherwise (fun _ r => (r.test _ blind).trans on)
    rw [passed on]
    exact Ends.skip fun _ r => r

/-- The directory of the file exists. -/
def View.hasDir (v : View Content) : File → Bool
  | .binary | .service => true
  | .config => v.home
  | .cert | .key => v.tls

theorem Host.view_hasDir (h : Host Content) (file : File) :
    h.view.hasDir file = h.hasDir file := by
  cases file <;> rfl

/-- A file that was there is put back, if the group its copy goes to is there, and
one that was not is removed. -/
theorem restoreFile_ends (r : Restorable h₀ s₀) {file : File}
    (able : v.group = true ∨ file.ofTorus = false ∨ h₀.read file = none)
    (dir : v.hasDir file = true ∨ h₀.read file = none) :
    Ends (Rolling s₀ v) (restoreFile file)
      (Rolling s₀ { v with file := Function.update v.file file (h₀.read file) }) := by
  have copy (s : Session Content) (rolling : Rolling s₀ v s) : s.backup file = h₀.read file := by
    rw [rolling.1]
    exact congrFun r.backup file
  have known (s : Session Content) (rolling : Rolling s₀ v s) :
      (s.existing file && (s.backup file).isSome) = (h₀.read file).isSome := by
    rw [copy s rolling, rolling.test (fun s => s.existing file) fun _ => rfl, r.existing,
      Bool.and_self]
  cases was : h₀.read file with
  | some content =>
    rw [was] at copy
    have group : (!file.ofTorus || v.group) = true := by
      rcases able with on | root | none
      · simp [on]
      · simp [root]
      · simp [was] at none
    have there : v.hasDir file = true := dir.resolve_right (by simp [was])
    apply Ends.branch fun s rolling => (known s rolling).trans (by simp [was])
    apply Ends.cmd
    rintro s ⟨vars, rfl⟩
    have here : s.host.hasDir file = true := by rw [← Host.view_hasDir, there]
    have allowed : (!file.ofTorus || s.host.group) = true := group
    refine ⟨{ s with host := s.host.put file (some content) }, ?_, ?_, Host.view_put here _⟩
    · rw [copy s ⟨vars, rfl⟩, Option.bind_some, onHost, Host.install,
        if_pos (Bool.and_eq_true_iff.mpr ⟨allowed, here⟩)]
      rfl
    · rw [vars]
  | none =>
    apply Ends.otherwise fun s rolling => (known s rolling).trans (by simp [was])
    apply rolling_cmd
    rintro h rfl
    refine ⟨_, rfl, ?_⟩
    cases here : h.hasDir file with
    | true => exact Host.view_put here none
    | false =>
      have nothing : h.view.file file = none := Host.read_of_no_dir here
      rw [Host.put_of_no_dir here, ← nothing, Function.update_eq_self]

/-- A file that was there cannot be put back without the group. -/
theorem restoreFile_fails (r : Restorable h₀ s₀) {file : File} (no_group : v.group = false)
    (torus : file.ofTorus = true) (was : (h₀.read file).isSome = true) :
    Fails (Rolling s₀ v) (restoreFile file) (Rolling s₀ v) := by
  obtain ⟨content, read⟩ := Option.isSome_iff_exists.mp was
  have copy (s : Session Content) (rolling : Rolling s₀ v s) : s.backup file = some content := by
    rw [rolling.1, ← read]
    exact congrFun r.backup file
  apply Fails.branch
  · intro s rolling
    rw [copy s rolling, rolling.test (fun s => s.existing file) fun _ => rfl, r.existing, was]
    rfl
  · apply Fails.cmd
    intro s rolling
    have missing : s.host.group = false := (congrArg View.group rolling.2).trans no_group
    refine ⟨?_, rolling⟩
    rw [copy s rolling, Option.bind_some, onHost, Host.install,
      if_neg (by simp [torus, missing]), Option.map_none]

/-- The files a rollback restores, in its order. -/
theorem update_all (file read : File → Option Content) :
    Function.update (Function.update (Function.update (Function.update (Function.update file
      .binary (read .binary)) .config (read .config)) .cert (read .cert)) .key (read .key))
      .service (read .service) = read := by
  funext g
  cases g <;> simp [Function.update]

/-- Directories that were there are still there. -/
theorem Restorable.dir (r : Restorable h₀ s₀) (home : v.home = s₀.host.home.isSome)
    (tls : v.tls = s₀.host.tls.isSome) (file : File) :
    v.hasDir file = true ∨ h₀.read file = none := by
  cases was : h₀.hasDir file with
  | false => exact .inr (Host.read_of_no_dir was)
  | true =>
    left
    have home := home.trans r.home
    have tls := tls.trans r.tls
    cases file <;> simp_all [Host.hasDir, View.hasDir]

/-- Nothing that was there needs a group that is not. -/
def Able (h₀ : Host Content) (s : Session Content) : Prop :=
  s.host.group = true ∨ ∀ file, file.ofTorus = true → h₀.read file = none

theorem restoreFiles_ends (r : Restorable h₀ s₀) (able : Able h₀ s₀)
    {rest : Script (Session Content)} {Q : Session Content → Prop}
    (after : Ends (Rolling s₀ { s₀.host.view with active := false, file := h₀.read }) rest Q) :
    Ends (Rolling s₀ { s₀.host.view with active := false })
      (.seq (restoreFile .binary) (.seq (restoreFile .config) (.seq (restoreFile .cert)
        (.seq (restoreFile .key) (.seq (restoreFile .service) rest))))) Q := by
  have each (file : File) (files : File → Option Content) :
      Ends (Rolling s₀ { s₀.host.view with active := false, file := files }) (restoreFile file)
        (Rolling s₀ { s₀.host.view with
          active := false, file := Function.update files file (h₀.read file) }) := by
    apply restoreFile_ends r
    · rcases able with grouped | none
      · exact .inl grouped
      · cases torus : file.ofTorus with
        | false => exact .inr (.inl rfl)
        | true => exact .inr (.inr (none file torus))
    · exact r.dir rfl rfl file
  rw [← update_all s₀.host.view.file h₀.read] at after
  exact (each .binary _).seq <| (each .config _).seq <| (each .cert _).seq <|
    (each .key _).seq <| (each .service _).seq after

theorem disable_ends :
    Ends (Rolling s₀ v) (orTrue (onHost Host.systemctlDisable))
      (Rolling s₀ { v with enabled := false }) := by
  apply rolling_orTrue
  rintro h rfl
  exact ⟨_, rfl, rfl⟩

theorem enable_ends (loaded : (v.file .service).isSome = true) :
    Ends (Rolling s₀ v) (orTrue (onHost Host.systemctlEnable))
      (Rolling s₀ { v with enabled := true }) := by
  apply rolling_orTrue
  rintro h rfl
  have unit : h.service.isSome = true := loaded
  exact ⟨_, by rw [Host.systemctlEnable, if_pos unit], rfl⟩

theorem restart_ends (loaded : (v.file .service).isSome = true) :
    Ends (Rolling s₀ v) (orTrue (onHost Host.systemctlRestart))
      (Rolling s₀ { v with active := true }) := by
  apply rolling_orTrue
  rintro h rfl
  have unit : h.service.isSome = true := loaded
  exact ⟨_, by rw [Host.systemctlRestart, if_pos unit], rfl⟩

/-- A service with a unit file gets its flags back; one without loses them. -/
theorem restoreServiceState_ends (r : Restorable h₀ s₀) (files : v.file = h₀.read)
    (stopped : v.active = false) :
    Ends (Rolling s₀ v) restoreServiceState
      (Rolling s₀ { v with
        enabled := (h₀.read .service).isSome && h₀.enabled
        active := (h₀.read .service).isSome && h₀.active }) := by
  have known (s : Session Content) (rolling : Rolling s₀ v s) :
      s.existing .service = (h₀.read .service).isSome := by
    rw [rolling.test (fun s => s.existing .service) fun _ => rfl, r.existing]
  cases was : (h₀.read .service).isSome with
  | false =>
    apply Ends.otherwise fun s rolling => (known s rolling).trans was
    have same : { v with enabled := false } =
        { v with enabled := false && h₀.enabled, active := false && h₀.active } := by
      simp [stopped]
    rw [← same]
    exact disable_ends
  | true =>
    have loaded : (v.file .service).isSome = true := by rw [files, was]
    have wasEnabled : s₀.serviceWasEnabled = h₀.enabled := by rw [r.wasEnabled, was, Bool.true_and]
    have wasActive : s₀.serviceWasActive = h₀.active := by rw [r.wasActive, was, Bool.true_and]
    have recorded (s : Session Content) (rolling : Rolling s₀ v s) :
        s.serviceWasEnabled = h₀.enabled :=
      (rolling.test (fun s => s.serviceWasEnabled) fun _ => rfl).trans wasEnabled
    apply Ends.branch fun s rolling => (known s rolling).trans was
    rw [Bool.true_and, Bool.true_and]
    apply Ends.seq (M := Rolling s₀ { v with enabled := h₀.enabled })
    · cases on : h₀.enabled with
      | true =>
        exact Ends.branch (fun s rolling => (recorded s rolling).trans on) (enable_ends loaded)
      | false =>
        exact Ends.otherwise (fun s rolling => (recorded s rolling).trans on) disable_ends
    · refine Ends.seq (rolling_when (fun _ => rfl) ?_ ?_) (Ends.skip fun _ post => post)
      · intro on
        rw [← wasActive, on]
        exact restart_ends loaded
      · intro off
        rw [← wasActive, off, ← stopped]

theorem removeTlsDir_ends (r : Restorable h₀ s₀) (files : v.file = h₀.read)
    (now : v.tls = s₀.host.tls.isSome) :
    Ends (Rolling s₀ v) (when (fun s => s.createdTlsDir) (orTrue (onHost Host.rmdirTlsDir)))
      (Rolling s₀ { v with tls := h₀.tls.isSome }) := by
  apply rolling_when fun _ => rfl
  · intro created
    have absent := r.tls_new created
    have no_tls : h₀.tls = none := by simpa using absent
    rw [absent]
    apply rolling_orTrue
    rintro h rfl
    apply Host.rmdirTlsDir_empty
    · have there := now.trans r.tls
      rwa [created, Bool.or_true] at there
    · exact (congrFun files .cert).trans (by simp [Host.read, no_tls])
    · exact (congrFun files .key).trans (by simp [Host.read, no_tls])
  · intro kept
    rw [← Bool.or_false h₀.tls.isSome, ← kept, ← r.tls, ← now]

theorem removeHome_ends (r : Restorable h₀ s₀) (files : v.file = h₀.read)
    (now : v.home = s₀.host.home.isSome) (tls : v.tls = h₀.tls.isSome) :
    Ends (Rolling s₀ v) (when (fun s => s.createdHome) (orTrue (onHost Host.rmdirHome)))
      (Rolling s₀ { v with home := h₀.home.isSome }) := by
  apply rolling_when fun _ => rfl
  · intro created
    have absent := r.home_new created
    have no_home : h₀.home = none := by simpa using absent
    rw [absent]
    apply rolling_orTrue
    rintro h rfl
    apply Host.rmdirHome_empty
    · have there := now.trans r.home
      rwa [created, Bool.or_true] at there
    · exact (congrFun files .config).trans (by simp [Host.read, no_home])
    · exact tls.trans (by simp [Host.tls, no_home])
  · intro kept
    rw [← Bool.or_false h₀.home.isSome, ← kept, ← r.home, ← now]

theorem removeUser_ends (inputs : Inputs Content) (r : Restorable h₀ s₀)
    (now : v.user = s₀.host.user) :
    Ends (Rolling s₀ v)
      (when (fun s => s.createdUser) (orTrue (onHost (Host.userdel inputs.usergroups))))
      (Rolling s₀ { v with
        user := h₀.user
        group := v.group && !(s₀.createdUser && inputs.usergroups) }) := by
  apply rolling_when fun _ => rfl
  · intro created
    rw [r.user_new created, created, Bool.true_and]
    apply rolling_orTrue
    rintro h rfl
    have there : h.user = true := by
      have books := now.trans r.user
      rwa [created, Bool.or_true] at books
    exact ⟨_, by rw [Host.userdel, if_pos there], rfl⟩
  · intro kept
    have user : v.user = h₀.user := by
      have books := now.trans r.user
      rwa [kept, Bool.or_false] at books
    simp [kept, ← user]

theorem removeGroup_ends (r : Restorable h₀ s₀) {taken : Bool}
    (now : v.group = (s₀.host.group && !taken)) :
    Ends (Rolling s₀ v) (when (fun s => s.createdGroup) (orTrue (onHost Host.groupdel)))
      (Rolling s₀ { v with group := h₀.group && !taken }) := by
  apply rolling_when fun _ => rfl
  · intro created
    rw [r.group_new created, Bool.false_and]
    apply rolling_ignored
    rintro h rfl
    -- `userdel` may have taken the group already
    cases there : h.group with
    | true =>
      rw [Host.groupdel, if_pos there]
      rfl
    | false =>
      rw [Host.groupdel, if_neg (by simp [there])]
      exact View.ext rfl rfl rfl rfl rfl rfl there
  · intro kept
    have group : s₀.host.group = h₀.group := by
      have books := r.group
      rwa [kept, Bool.or_false] at books
    rw [← group, ← now]

theorem log_ends : Ends (Rolling s₀ v) log (Rolling s₀ v) := Ends.cmd fun s r => ⟨s, rfl, r⟩

theorem stop_ends :
    Ends (Rolling s₀ v) (orTrue (onHost Host.systemctlStop))
      (Rolling s₀ { v with active := false }) := by
  apply rolling_orTrue
  rintro h rfl
  exact ⟨_, rfl, rfl⟩

theorem rollback_test (r : Restorable h₀ s₀) (s : Session Content) (rolling : Rolling s₀ v s) :
    (!s.mutationStarted || s.installSucceeded) = false := by
  rw [rolling.test (fun s => !s.mutationStarted || s.installSucceeded) fun _ => rfl, r.started,
    r.unfinished]
  rfl

/-- The host after a rollback that ran to its end: a service that had no unit file
is down, and the group may be gone with the user. -/
def Host.rolledBack (inputs : Inputs Content) (h₀ : Host Content) (createdUser : Bool) :
    Host Content :=
  { h₀ with
    enabled := (h₀.read .service).isSome && h₀.enabled
    active := (h₀.read .service).isSome && h₀.active
    group := h₀.group && !(createdUser && inputs.usergroups) }

theorem rollback_ends (inputs : Inputs Content) (r : Restorable h₀ s₀) (able : Able h₀ s₀) :
    Ends (Rolling s₀ s₀.host.view) (rollback inputs)
      (Rolling s₀ (h₀.rolledBack inputs s₀.createdUser).view) := by
  apply Ends.otherwise (rollback_test r)
  refine log_ends.seq <| stop_ends.seq <| restoreFiles_ends r able ?_
  refine Ends.seq (Ends.set fun _ rolling => rolling) ?_
  refine (restoreServiceState_ends r rfl rfl).seq ?_
  refine (removeTlsDir_ends r rfl rfl).seq ?_
  refine (removeHome_ends r rfl rfl rfl).seq ?_
  refine (removeUser_ends inputs r rfl).seq ?_
  exact (removeGroup_ends r rfl).seq <| log_ends.seq <| Ends.skip fun _ rolling => rolling

/-- Without the group the rollback stops at the first file it would give to it. The
service is down by then, and nothing else has happened. -/
theorem rollback_fails (inputs : Inputs Content) (r : Restorable h₀ s₀)
    (missing : s₀.host.group = false) {file : File} (torus : file.ofTorus = true)
    (was : (h₀.read file).isSome = true) :
    Fails (Rolling s₀ s₀.host.view) (rollback inputs)
      (Rolling s₀ ({ h₀ with active := false } : Host Content).view) := by
  obtain ⟨host, _⟩ := r.untouched missing
  have no_group : h₀.group = false := host ▸ missing
  rw [host]
  have keep {file : File} (spared : file.ofTorus = false ∨ h₀.read file = none) :
      Ends (Rolling s₀ { h₀.view with active := false }) (restoreFile file)
        (Rolling s₀ { h₀.view with active := false }) := by
    have restored := restoreFile_ends (v := { h₀.view with active := false }) r
      (.inr spared) (r.dir (by rw [host]; rfl) (by rw [host]; rfl) file)
    rwa [show Function.update h₀.view.file file (h₀.read file) = h₀.view.file from
      Function.update_eq_self _ _] at restored
  have next {file : File} (torus : file.ofTorus = true) {rest : Script (Session Content)}
      (later : h₀.read file = none → Fails (Rolling s₀ { h₀.view with active := false }) rest
        (Rolling s₀ { h₀.view with active := false })) :
      Fails (Rolling s₀ { h₀.view with active := false }) (.seq (restoreFile file) rest)
        (Rolling s₀ { h₀.view with active := false }) := by
    cases read : h₀.read file with
    | some content => exact Fails.head (restoreFile_fails r no_group torus (by simp [read]))
    | none => exact Fails.tail (keep (.inr read)) (later read)
  apply Fails.otherwise (rollback_test r)
  refine Fails.tail log_ends <| Fails.tail stop_ends <| Fails.tail (keep (.inl rfl)) <|
    next rfl fun no_config => next rfl fun no_cert => next rfl fun no_key => ?_
  cases file <;> simp_all [File.ofTorus]

end

/-! ## The exit trap -/

/-- The rollback would have to give a file to a group that does not exist. -/
def Strands (h₀ : Host Content) (s : Session Content) : Prop :=
  s.host.group = false ∧ ∃ file, file.ofTorus = true ∧ (h₀.read file).isSome = true

theorem able_of_not_strands {s : Session Content} (calm : ¬ Strands h₀ s) : Able h₀ s := by
  cases group : s.host.group with
  | true => exact .inl group
  | false =>
    right
    intro file torus
    cases was : h₀.read file with
    | none => rfl
    | some content => exact absurd ⟨group, file, torus, by simp [was]⟩ calm

theorem onExit_stranded (inputs : Inputs Content) {s : Session Content} (r : Restorable h₀ s)
    (strands : Strands h₀ s) :
    ((onExit inputs true).finish s).host = { h₀ with active := false } := by
  obtain ⟨missing, file, torus, was⟩ := strands
  have failed : Fails (Rolling s s.host.view) (onExit inputs true)
      (Rolling s ({ h₀ with active := false } : Host Content).view) :=
    Fails.head (Fails.branch (fun _ _ => rfl) (rollback_fails inputs r missing torus was))
  exact Host.view_injective (failed.finish ⟨rfl, rfl⟩).2

theorem onExit_rolledBack (inputs : Inputs Content) {s : Session Content} (r : Restorable h₀ s)
    (calm : ¬ Strands h₀ s) :
    ((onExit inputs true).finish s).host = h₀.rolledBack inputs s.createdUser := by
  have cleaned : Ends (Rolling s (h₀.rolledBack inputs s.createdUser).view) cleanupTmp
      (fun s' => s'.host.view = (h₀.rolledBack inputs s.createdUser).view) :=
    Ends.cmd fun s' rolling => ⟨_, rfl, rolling.2⟩
  have ended : Ends (Rolling s s.host.view) (onExit inputs true)
      (fun s' => s'.host.view = (h₀.rolledBack inputs s.createdUser).view) :=
    (Ends.branch (fun _ _ => rfl) (rollback_ends inputs r (able_of_not_strands calm))).seq <|
      cleaned.seq <| Ends.skip fun _ post => post
  exact Host.view_injective (ended.finish ⟨rfl, rfl⟩)

/-- Outside the mutation the trap leaves the host alone. -/
theorem onExit_outside (inputs : Inputs Content) {s : Session Content}
    (outside : s.mutationStarted = false ∨ s.installSucceeded = true) :
    ((onExit inputs true).finish s).host = s.host := by
  have passed : (!s.mutationStarted || s.installSucceeded) = true := by
    rcases outside with idle | done
    · simp [idle]
    · simp [done]
  have ended : Ends (· = s) (onExit inputs true) (fun s' => s'.host = s.host) := by
    refine Ends.seq (Ends.branch (fun _ _ => rfl) (Ends.branch ?_ (Ends.skip fun _ same => same)))
      (Ends.seq (Ends.cmd ?_) (Ends.skip fun _ post => post))
    · rintro _ rfl
      exact passed
    · rintro _ rfl
      exact ⟨_, rfl, rfl⟩
  exact ended.finish rfl

/-- When a rollback restores the host: it does not need a group that is missing, or
there was nothing to stop before it noticed; it has a unit file to bring the
service back with, or no service to bring back; and removing the user it created
does not take along a group it did not. -/
def Restores (inputs : Inputs Content) (h₀ : Host Content) (s : Session Content) : Prop :=
  (Strands h₀ s → h₀.active = false) ∧
  (¬ Strands h₀ s →
    ((h₀.read .service).isSome = true ∨ h₀.active = false ∧ h₀.enabled = false) ∧
    ¬ (s.createdUser = true ∧ inputs.usergroups = true ∧ h₀.group = true))

theorem rolledBack_eq_iff (inputs : Inputs Content) (h₀ : Host Content) (createdUser : Bool) :
    h₀.rolledBack inputs createdUser = h₀ ↔
      ((h₀.read .service).isSome = true ∨ h₀.active = false ∧ h₀.enabled = false) ∧
      ¬ (createdUser = true ∧ inputs.usergroups = true ∧ h₀.group = true) := by
  obtain ⟨binary, service, home, enabled, active, user, group⟩ := h₀
  simp only [Host.rolledBack, Host.read, Host.mk.injEq, true_and]
  cases service.isSome <;> cases enabled <;> cases active <;> cases group <;>
    cases createdUser <;> cases inputs.usergroups <;> decide

/-- A failure between the first mutation and the end: the host is as it was just
when the rollback could restore it. -/
theorem rollback_restores_iff (inputs : Inputs Content) {h₀ : Host Content} {s : Session Content}
    (stops : (main inputs).Stops (Session.new h₀) s) (started : s.mutationStarted = true)
    (unfinished : s.installSucceeded = false) :
    ((onExit inputs true).finish s).host = h₀ ↔ Restores inputs h₀ s := by
  have r : Restorable h₀ s := by
    rcases (main_guards inputs h₀ _ rfl).2 s stops with idle | done | r
    · exact absurd (idle.1.symm.trans started) nofun
    · exact absurd (done.symm.trans unfinished) nofun
    · exact r
  by_cases strands : Strands h₀ s
  · rw [onExit_stranded inputs r strands]
    simp only [Restores, strands, not_true, false_implies, and_true, true_implies]
    constructor
    · exact fun same => (congrArg Host.active same).symm
    · exact fun inactive => by rw [← inactive]
  · rw [onExit_rolledBack inputs r strands, rolledBack_eq_iff]
    simp only [Restores, strands, not_false_iff, false_implies, true_and, true_implies]

end

/-- An installation without TLS where all goes well but what is made to fail. -/
def plainInputs : Inputs Nat where
  tlsEnabled := false
  source := fun _ => 2
  usergroups := true
  crashed := false
  listening := true

/-- A running deployment whose group is missing. -/
def grouplessHost : Host Nat where
  binary := some 1
  service := some 1
  home := some { config := some 1, tls := none }
  enabled := true
  active := true
  user := false
  group := false

/-- `groupadd` fails, the rollback stops the service and then itself, at the
configuration it would give to the group: the proxy that was running is down. -/
theorem groupadd_failure_leaves_service_down :
    ∃ s, (main plainInputs).Stops (Session.new grouplessHost) s ∧ s.mutationStarted = true ∧
      s.installSucceeded = false ∧
      ((onExit plainInputs true).finish s).host = { grouplessHost with active := false } ∧
      ((onExit plainInputs true).finish s).host ≠ grouplessHost := by
  let s := { prepareBackup.finish (Session.new grouplessHost) with mutationStarted := true }
  have at_groupadd : (createUserGroup : Script (Session Nat)).Stops s s :=
    .inl (.inr ⟨s, rfl, .inl (.inl rfl)⟩)
  have stops : (main plainInputs).Stops (Session.new grouplessHost) s :=
    .inr ⟨_, rfl, .inr ⟨_, rfl, .inl at_groupadd⟩⟩
  exact ⟨s, stops, rfl, rfl, by decide, by decide⟩

/-- A host with nothing on it. -/
def emptyHost : Host Nat where
  binary := none
  service := none
  home := none
  enabled := false
  active := false
  user := false
  group := false

/-- A first installation that fails when it starts the service is undone. -/
theorem first_installation_undone :
    ∃ s, (main plainInputs).Stops (Session.new emptyHost) s ∧ s.host.enabled = true ∧
      ((onExit plainInputs true).finish s).host = emptyHost := by
  let installed := (block [prepareBackup, .set (fun s => { s with mutationStarted := true }),
    createUserGroup, prepareDirectories plainInputs, installFiles plainInputs]).finish
    (Session.new emptyHost)
  let s := { installed with host.enabled := true }
  have at_restart : (activateService : Script (Session Nat)).Stops installed s :=
    .inr ⟨_, rfl, .inr ⟨_, rfl, .inr ⟨_, rfl, .inr ⟨_, rfl, .inr ⟨_, rfl, .inl rfl⟩⟩⟩⟩⟩
  have stops : (main plainInputs).Stops (Session.new emptyHost) s :=
    .inr ⟨_, rfl, .inr ⟨_, rfl, .inr ⟨_, rfl, .inr ⟨_, rfl, .inr ⟨_, rfl, .inl at_restart⟩⟩⟩⟩⟩
  refine ⟨s, stops, rfl, (rollback_restores_iff plainInputs stops rfl rfl).mpr ⟨?_, ?_⟩⟩
  · exact fun _ => rfl
  · exact fun _ => ⟨.inr ⟨rfl, rfl⟩, fun taken => absurd taken.2.2 (by decide)⟩

end TorusProxy.Installer
