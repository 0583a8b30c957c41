import ZoTunnel.Client.PidFile
import ZoTunnel.Lib.Run

/-!
# The pid file names the running client

Parent and child both write `client.pid`, and each command that finds the file stale or empty, or
that fails, removes it without a look at whose pid it holds. `pid_names_client` says when the file
names the client that serves: as long as nobody removes or overwrites the file while another client
claims it.

The invariant says of each client with a claim that the file contains its pid, or that a process
which has truncated the file is about to write it.
-/

namespace ZoTunnel

open FileSystem Transition

variable {s s' : PidSystem} {p q pid : UInt32} {inode : ℕ} {cmd : ClientCommand} {point : Point}

/-- The pid that a process is about to write. -/
def Point.target? : Point → Option UInt32
  | .opening pid | .writing pid _ => some pid
  | _ => none

/-- The client, or a `start` that has spawned it, has truncated the file and is about to write the
pid of the client. -/
def PidSystem.Pending (s : PidSystem) (p : UInt32) : Prop :=
  ∃ inode, s.path = some inode ∧
    (s.procs.lookup p = some (.running .foreground (.writing p inode)) ∨
      ∃ q, s.procs.lookup q = some (.running .start (.writing p inode)))

/-- The file contains the pid of a client, or will do so. A client that is about to write its pid
has the file open. -/
structure HoldsFile (s : PidSystem) (p : UInt32) : Prop where
  path : s.path.isSome = true
  named : s.pidInFile = some p ∨ s.Pending p
  own : ∀ pid inode, s.procs.lookup p = some (.running .foreground (.writing pid inode)) →
    s.path = some inode

/-- The invariant of the runs in which every step respects the claims. -/
structure Named (s : PidSystem) : Prop where
  /-- A `start` writes the pid of a child, and a client its own. -/
  targets : ∀ q cmd point pid, s.procs.lookup q = some (.running cmd point) →
    point.target? = some pid → cmd = .start ∨ cmd = .foreground ∧ pid = q
  held : ∀ p, s.claims p = true → HoldsFile s p

/-! ## Claims and processes -/

/-- What it is to claim the file. -/
theorem PidSystem.claims_iff : s.claims p = true ↔
    ∃ point, s.procs.lookup p = some (.running .foreground point) ∧ point.claims = true := by
  unfold claims
  constructor
  · intro h
    split at h
    · rename_i point hlookup
      exact ⟨point, hlookup, h⟩
    · cases h
  · rintro ⟨point, hlookup, hclaims⟩
    rw [hlookup]
    exact hclaims

/-- When no client claims the file but one, each that claims it is that one. -/
theorem PidSystem.ClaimedBy.eq {o : Option UInt32} (h : s.ClaimedBy o) (hp : s.claims p = true) :
    some p = o := by
  obtain ⟨point, hlookup, -⟩ := claims_iff.mp hp
  refine h p (AList.mem_keys.mpr ?_) hp
  exact AList.lookup_isSome.mp (by rw [hlookup]; rfl)

/-- A file that is read to hold a pid contains it. -/
theorem PidSystem.pidInFile_of_readPid (h : s.readPid = .pid pid) : s.pidInFile = some pid := by
  unfold readPid at h
  unfold pidInFile
  cases hpath : s.path with
  | none =>
    rw [hpath] at h
    cases h
  | some inode =>
    rw [hpath] at h
    dsimp only at h
    rw [Option.bind_some]
    split at h
    · cases h
    · rename_i content hread
      unfold File.readToString at hread
      split_ifs at hread
      rw [hread, Option.bind_some]
      split at h
      · rename_i pid' hparse
        rw [hparse, PidRead.pid.inj h]
      · cases h

/-- A pid is read back from its text. -/
theorem parsePid_pidText (pid : UInt32) :
    (Bytes.fromUtf8? (pidText pid)).bind parsePid = some pid := by
  have hread : Bytes.fromUtf8? (pidText pid) = some (toString pid.toNat) :=
    Bytes.fromUtf8?_eq_some_iff.mpr rfl
  rw [hread, Option.bind_some]
  exact Text.parseU32_toString pid

/-- The processes after one is replaced. -/
theorem PidSystem.setProc_lookup (s : PidSystem) (q : UInt32) (proc : Proc) (p : UInt32) :
    (s.setProc q proc).procs.lookup p = if p = q then some proc else s.procs.lookup p := by
  unfold setProc
  dsimp only
  split_ifs with h
  · rw [h, AList.lookup_insert]
  · rw [AList.lookup_insert_ne h]

/-- Whether another process claims the file when one is replaced. -/
theorem PidSystem.claims_setProc {proc : Proc} :
    (s.setProc q proc).claims p = true ↔
      if p = q then ∃ point, proc = .running .foreground point ∧ point.claims = true
      else s.claims p = true := by
  rw [claims_iff, claims_iff, setProc_lookup]
  split_ifs
  · constructor
    · rintro ⟨point, hproc, hclaims⟩
      exact ⟨point, Option.some.inj hproc, hclaims⟩
    · rintro ⟨point, rfl, hclaims⟩
      exact ⟨point, rfl, hclaims⟩
  · rfl

/-- A removal of the file changes no process. -/
theorem PidSystem.removeFile_procs {ok : Bool} : (s.removeFile ok).procs = s.procs := by
  unfold removeFile
  split <;> rfl

/-- A file that contains a pid is there. -/
theorem PidSystem.path_isSome_of_pidInFile (h : s.pidInFile = some pid) : s.path.isSome = true := by
  obtain ⟨inode, hpath, -⟩ := Option.bind_eq_some_iff.mp h
  rw [hpath]
  rfl

/-- A `start` that ends safely leaves its child a file that contains the pid of the child. -/
theorem PidSystem.EndsSafely.pidInFile (h : s.EndsSafely q)
    (hwriting : s.procs.lookup q = some (.running .start (.writing p inode)))
    (hclaims : s.claims p = true) (hpath : s.path = some inode) : s.pidInFile = some p := by
  unfold EndsSafely at h
  rw [hwriting] at h
  exact h hclaims hpath

/-- Only a `start` that is about to write has to end safely. -/
theorem PidSystem.endsSafely_of_ne
    (h : ∀ child inode, s.procs.lookup q ≠ some (.running .start (.writing child inode))) :
    s.EndsSafely q := by
  unfold EndsSafely
  split
  · rename_i child inode hlookup
    exact absurd hlookup (h child inode)
  · trivial

namespace Named

/-- At the start there is no process. -/
theorem new (file : Option File) : Named (.new file) where
  targets q cmd point pid hlookup := by
    have hnone : (PidSystem.new file).procs.lookup q = none := AList.lookup_empty q
    exact absurd (hnone.symm.trans hlookup) nofun
  held p hclaims := by
    obtain ⟨point, hlookup, -⟩ := PidSystem.claims_iff.mp hclaims
    have hnone : (PidSystem.new file).procs.lookup p = none := AList.lookup_empty p
    exact absurd (hnone.symm.trans hlookup) nofun

/-- One process goes on, and the file stays as it is. A process that gets a claim by it has found
its own pid in the file, or has had the claim before. -/
theorem setProc (h : Named s) {proc : Proc}
    (htarget : ∀ cmd point pid, proc = .running cmd point → point.target? = some pid →
      cmd = .start ∨ cmd = .foreground ∧ pid = q)
    (hclaims : ∀ point, proc = .running .foreground point → point.claims = true →
      (point = .binding ∨ point = .serving) ∧
        (s.pidInFile = some q ∨ s.procs.lookup q = some (.running .foreground .binding)))
    (hends : s.EndsSafely q) : Named (s.setProc q proc) := by
  refine ⟨fun q' cmd point pid hlookup htarget' => ?_, fun p hp => ?_⟩
  · rw [PidSystem.setProc_lookup] at hlookup
    split_ifs at hlookup with hq
    · rw [hq]
      exact htarget cmd point pid (Option.some.inj hlookup) htarget'
    · exact h.targets q' cmd point pid hlookup htarget'
  · rw [PidSystem.claims_setProc] at hp
    split_ifs at hp with hq
    · subst hq
      obtain ⟨point, rfl, hpoint⟩ := hp
      obtain ⟨hbound, hfound⟩ := hclaims point rfl hpoint
      have hown : ∀ pid inode, (s.setProc p (.running .foreground point)).procs.lookup p =
          some (.running .foreground (.writing pid inode)) → s.path = some inode := by
        intro pid inode hlookup
        rw [PidSystem.setProc_lookup, if_pos rfl] at hlookup
        obtain ⟨-, rfl⟩ := Proc.running.inj (Option.some.inj hlookup)
        rcases hbound with hbound | hbound <;> cases hbound
      rcases hfound with hfile | hbinding
      · exact ⟨PidSystem.path_isSome_of_pidInFile hfile, .inl hfile, hown⟩
      · -- The claim is the one from before, when the client was about to bind the port.
        obtain ⟨hpath, hnamed, -⟩ := h.held p (PidSystem.claims_iff.mpr ⟨_, hbinding, rfl⟩)
        refine ⟨hpath, hnamed.imp_right ?_, hown⟩
        rintro ⟨inode, hinode, hwriting | ⟨q', hwriting⟩⟩
        · rw [hbinding] at hwriting
          cases hwriting
        · refine ⟨inode, hinode, .inr ⟨q', ?_⟩⟩
          rw [PidSystem.setProc_lookup, if_neg, hwriting]
          rintro rfl
          rw [hbinding] at hwriting
          cases hwriting
    · have hsame : (s.setProc q proc).procs.lookup p = s.procs.lookup p := by
        rw [PidSystem.setProc_lookup, if_neg hq]
      obtain ⟨hpath, hnamed, hown⟩ := h.held p hp
      refine ⟨hpath, ?_, fun pid inode hlookup => hown pid inode (hsame ▸ hlookup)⟩
      rcases hnamed with hfile | ⟨inode, hinode, hwriting | ⟨q', hwriting⟩⟩
      · exact .inl hfile
      · exact .inr ⟨inode, hinode, .inl (hsame.trans hwriting)⟩
      · by_cases hq' : q' = q
        · subst hq'
          exact .inl (hends.pidInFile hwriting hp hinode)
        · refine .inr ⟨inode, hinode, .inr ⟨q', ?_⟩⟩
          rw [PidSystem.setProc_lookup, if_neg hq', hwriting]

/-- A process goes on with no claim, and with nothing to write. -/
theorem setIdle (h : Named s) {proc : Proc} (hends : s.EndsSafely q)
    (hidle : ∀ cmd point, proc = .running cmd point →
      point.target? = none ∧ (cmd = .foreground → point.claims = false)) :
    Named (s.setProc q proc) := by
  refine h.setProc (fun cmd point pid hproc htarget => ?_) (fun point hproc hclaims => ?_) hends
  · rw [(hidle cmd point hproc).1] at htarget
    cases htarget
  · rw [(hidle .foreground point hproc).2 rfl] at hclaims
    cases hclaims

/-- A process goes on at a point with no claim, and with nothing to write. -/
theorem goIdle (h : Named s) (hends : s.EndsSafely q) (htarget : point.target? = none)
    (hclaims : point.claims = false) : Named (s.setProc q (.running cmd point)) :=
  h.setIdle hends fun _ _ hproc => by
    obtain ⟨-, rfl⟩ := Proc.running.inj hproc
    exact ⟨htarget, fun _ => hclaims⟩

/-- A process goes on to bind the port, or to serve, which are points with a claim of a client. -/
theorem goClaiming (h : Named s) (hends : s.EndsSafely q)
    (hbound : point = .binding ∨ point = .serving)
    (hfound : s.pidInFile = some q ∨ s.procs.lookup q = some (.running cmd .binding)) :
    Named (s.setProc q (.running cmd point)) := by
  refine h.setProc (fun cmd' point' pid hproc htarget => ?_) (fun point' hproc _ => ?_) hends
  · obtain ⟨-, rfl⟩ := Proc.running.inj hproc
    rcases hbound with rfl | rfl
    · cases htarget
    · cases htarget
  · obtain ⟨rfl, rfl⟩ := Proc.running.inj hproc
    exact ⟨hbound, hfound⟩

/-- The file is removed when no client claims it. -/
theorem removeFile (h : Named s) {ok : Bool} (hnone : ok = true → s.ClaimedBy none) :
    Named (s.removeFile ok) := by
  unfold PidSystem.removeFile
  split_ifs with hok
  · exact ⟨h.targets, fun p hp => absurd ((hnone hok).eq hp) nofun⟩
  · exact h

/-- A process opens the file to write the pid of the only client that may claim it. -/
theorem createFile (h : Named s) (hlookup : s.procs.lookup q = some (.running cmd (.opening pid)))
    (honly : s.ClaimedBy (some pid)) :
    Named (s.createFile.1.setProc q (.running cmd (.writing pid s.createFile.2))) := by
  have hcmd : cmd = .start ∨ cmd = .foreground ∧ pid = q := h.targets q cmd _ pid hlookup rfl
  have hpath : s.createFile.1.path = some s.createFile.2 := by
    unfold PidSystem.createFile
    split
    · assumption
    · rfl
  have hkeeps : ∀ inode, s.path = some inode → s.createFile.2 = inode := by
    intro inode hinode
    unfold PidSystem.createFile
    rw [hinode]
  have hprocs : s.createFile.1.procs = s.procs := by
    unfold PidSystem.createFile
    split <;> rfl
  have hsame : ∀ p, p ≠ q → (s.createFile.1.setProc q
      (.running cmd (.writing pid s.createFile.2))).procs.lookup p = s.procs.lookup p := by
    intro p hp
    rw [PidSystem.setProc_lookup, if_neg hp, hprocs]
  have hself : (s.createFile.1.setProc q
      (.running cmd (.writing pid s.createFile.2))).procs.lookup q =
        some (.running cmd (.writing pid s.createFile.2)) := by
    rw [PidSystem.setProc_lookup, if_pos rfl]
  refine ⟨fun q' cmd' point' pid' hlookup' htarget => ?_, fun p hp => ?_⟩
  · by_cases hq : q' = q
    · subst hq
      obtain ⟨rfl, rfl⟩ := Proc.running.inj (Option.some.inj (hself.symm.trans hlookup'))
      rwa [← Option.some.inj htarget]
    · rw [hsame q' hq] at hlookup'
      exact h.targets q' cmd' point' pid' hlookup' htarget
  · obtain ⟨point, hpoint, hclaims⟩ := PidSystem.claims_iff.mp hp
    by_cases hq : p = q
    · subst hq
      obtain ⟨rfl, rfl⟩ := Proc.running.inj (Option.some.inj (hself.symm.trans hpoint))
      have hpid : pid = p := by
        rcases hcmd with hstart | ⟨-, hpid⟩
        · cases hstart
        · exact hpid
      subst hpid
      refine ⟨Option.isSome_iff_exists.mpr ⟨_, hpath⟩, .inr ⟨_, hpath, .inl hself⟩, ?_⟩
      intro pid' inode' hwriting
      obtain ⟨-, hpoint'⟩ := Proc.running.inj (Option.some.inj (hself.symm.trans hwriting))
      rw [← (Point.writing.inj hpoint').2]
      exact hpath
    · rw [hsame p hq] at hpoint
      have hclaimed : s.claims p = true := PidSystem.claims_iff.mpr ⟨point, hpoint, hclaims⟩
      obtain rfl := Option.some.inj (honly.eq hclaimed)
      -- A client that truncates the file is the only one with a claim, so this is a `start`.
      obtain rfl : cmd = .start := hcmd.resolve_right fun hforeground => hq hforeground.2
      refine ⟨Option.isSome_iff_exists.mpr ⟨_, hpath⟩, .inr ⟨_, hpath, .inr ⟨q, hself⟩⟩, ?_⟩
      intro pid' inode' hwriting
      rw [hsame p hq] at hwriting
      have hold := (h.held p hclaimed).own pid' inode' hwriting
      rw [← hkeeps inode' hold]
      exact hpath

/-- A write over no longer text leaves the file with the pid. -/
theorem pidInFile_writeFile (hpath : s.path = some inode)
    (hlen : (s.inodes inode).bytes.length ≤ (pidText pid).length) :
    (s.writeFile inode pid).pidInFile = some pid := by
  have hbytes : ((s.inodes inode).writeAt 0 (pidText pid)).bytes = pidText pid := by
    unfold File.writeAt
    dsimp only
    rw [List.take_zero, Nat.zero_sub, List.replicate_zero, Nat.zero_add,
      List.drop_eq_nil_of_le hlen, List.nil_append, List.nil_append, List.append_nil]
  unfold PidSystem.pidInFile PidSystem.writeFile
  dsimp only
  rw [hpath, Option.bind_some, Function.update_self, hbytes]
  exact parsePid_pidText pid

/-- A write to an inode that the path has left does not change the file. -/
theorem pidInFile_writeFile_of_ne (hpath : s.path ≠ some inode) :
    (s.writeFile inode pid).pidInFile = s.pidInFile := by
  unfold PidSystem.pidInFile PidSystem.writeFile
  dsimp only
  cases hinode : s.path with
  | none => rfl
  | some inode' =>
    have hne : inode' ≠ inode := fun heq => hpath (by rw [hinode, heq])
    rw [Option.bind_some, Option.bind_some, Function.update_of_ne hne]

/-- A process writes a pid. -/
theorem writeFile (h : Named s)
    (hlookup : s.procs.lookup q = some (.running cmd (.writing pid inode)))
    (honly : s.path = some inode → s.ClaimedBy (some pid) ∧
      (s.claims pid = true → (s.inodes inode).bytes.length ≤ (pidText pid).length)) :
    Named ((s.writeFile inode pid).proceed q cmd (afterWrite cmd pid)) := by
  have hcmd : cmd = .start ∨ cmd = .foreground ∧ pid = q := h.targets q cmd _ pid hlookup rfl
  have hwritten : ∀ p, s.claims p = true → s.path = some inode →
      (s.writeFile inode pid).pidInFile = some p := by
    intro p hp hpath
    obtain ⟨hclaimed, hlen⟩ := honly hpath
    obtain rfl := Option.some.inj (hclaimed.eq hp)
    exact pidInFile_writeFile hpath (hlen hp)
  have hnamed : Named (s.writeFile inode pid) := by
    refine ⟨h.targets, fun p hp => ?_⟩
    have hp : s.claims p = true := hp
    obtain ⟨hpath, hfile, hown⟩ := h.held p hp
    refine ⟨hpath, ?_, hown⟩
    by_cases hinode : s.path = some inode
    · exact .inl (hwritten p hp hinode)
    · rw [pidInFile_writeFile_of_ne hinode]
      exact hfile
  rcases hcmd with rfl | ⟨rfl, rfl⟩
  · refine hnamed.setIdle ?_ fun cmd point hproc => ?_
    · unfold PidSystem.EndsSafely
      rw [show (s.writeFile inode pid).procs = s.procs from rfl, hlookup]
      exact fun hp hpath => hwritten pid hp hpath
    · obtain ⟨rfl, rfl⟩ := Proc.running.inj hproc
      exact ⟨rfl, nofun⟩
  · have hclaims : s.claims pid = true := PidSystem.claims_iff.mpr ⟨_, hlookup, rfl⟩
    have hpath : s.path = some inode := (h.held pid hclaims).own pid inode hlookup
    refine hnamed.goClaiming ?_ (.inl rfl) (.inl (hwritten pid hclaims hpath))
    refine PidSystem.endsSafely_of_ne fun child inode' hstart => ?_
    cases hlookup.symm.trans hstart

/-- A process that runs after a signal is a client that shuts down. -/
theorem running_of_signalled {effect : Proc → Proc} {proc : Proc}
    (heffect : effect = Proc.terminate ∨ effect = Proc.kill)
    (hrunning : effect proc = .running cmd point) : cmd = .foreground ∧ point = .closing := by
  rcases heffect with rfl | rfl
  · unfold Proc.terminate at hrunning
    split at hrunning
    · obtain ⟨rfl, rfl⟩ := Proc.running.inj hrunning
      exact ⟨rfl, rfl⟩
    · obtain ⟨rfl, rfl⟩ := Proc.running.inj hrunning
      exact ⟨rfl, rfl⟩
    · cases hrunning
    · rename_i hnot
      exact absurd hrunning (hnot cmd point)
  · unfold Proc.kill at hrunning
    split at hrunning
    · cases hrunning
    · rename_i hnot
      exact absurd hrunning (hnot cmd point)

/-- A process is signalled, and ends safely if it ends. -/
theorem signal (h : Named s) (hends : s.EndsSafely q) {effect : Proc → Proc}
    (heffect : effect = Proc.terminate ∨ effect = Proc.kill) : Named (s.signal q effect) := by
  unfold PidSystem.signal
  split
  · refine h.setIdle hends fun cmd point hrunning => ?_
    obtain ⟨rfl, rfl⟩ := running_of_signalled heffect hrunning
    exact ⟨rfl, fun _ => rfl⟩
  · exact h

/-- A signal makes no process write. -/
theorem endsSafely_signal {effect : Proc → Proc}
    (heffect : effect = Proc.terminate ∨ effect = Proc.kill)
    (hnot : ∀ child inode, s.procs.lookup q ≠ some (.running .start (.writing child inode))) :
    (s.signal p effect).EndsSafely q := by
  refine PidSystem.endsSafely_of_ne fun child inode hwriting => ?_
  unfold PidSystem.signal at hwriting
  split at hwriting
  · rw [PidSystem.setProc_lookup] at hwriting
    split_ifs at hwriting
    · cases (running_of_signalled heffect (Option.some.inj hwriting)).2
    · exact hnot child inode hwriting
  · exact hnot child inode hwriting

/-- A pid that is not in use has nothing to write. -/
theorem endsSafely_of_notMem (h : q ∉ s.procs) : s.EndsSafely q := by
  refine PidSystem.endsSafely_of_ne fun child inode hwriting => ?_
  rw [AList.lookup_eq_none.mpr h] at hwriting
  cases hwriting

/-- A process that is not running is gone. -/
theorem vanish (h : Named s) (hnot : ∀ cmd point, s.procs.lookup q ≠ some (.running cmd point)) :
    Named { s with procs := s.procs.erase q } := by
  have hsame : ∀ p cmd point, (s.procs.erase q).lookup p = some (.running cmd point) ↔
      s.procs.lookup p = some (.running cmd point) := by
    intro p cmd point
    by_cases hp : p = q
    · subst hp
      rw [AList.lookup_erase]
      exact ⟨nofun, fun hrunning => absurd hrunning (hnot cmd point)⟩
    · rw [AList.lookup_erase_ne hp]
  refine ⟨fun q' cmd point pid hlookup => h.targets q' cmd point pid ((hsame _ _ _).mp hlookup),
    fun p hp => ?_⟩
  obtain ⟨point, hpoint, hclaims⟩ := PidSystem.claims_iff.mp hp
  obtain ⟨hpath, hnamed, hown⟩ :=
    h.held p (PidSystem.claims_iff.mpr ⟨point, (hsame _ _ _).mp hpoint, hclaims⟩)
  refine ⟨hpath, hnamed.imp_right ?_, fun pid inode hwriting =>
    hown pid inode ((hsame _ _ _).mp hwriting)⟩
  rintro ⟨inode, hinode, hwriting | ⟨q', hwriting⟩⟩
  · exact ⟨inode, hinode, .inl ((hsame _ _ _).mpr hwriting)⟩
  · exact ⟨inode, hinode, .inr ⟨q', (hsame _ _ _).mpr hwriting⟩⟩

/-- A command can go on at a point without a claim, and with no pid but one that it may write. -/
def CanGoOn (cmd : ClientCommand) (self : UInt32) (point : Point) : Prop :=
  point.claims = false ∧
    ∀ pid, point.target? = some pid → cmd = .start ∨ cmd = .foreground ∧ pid = self

/-- A process of a command goes on at such a point, or exits. -/
theorem proceed (h : Named s) (hends : s.EndsSafely q) {next : Option Point}
    (hnext : ∀ point, next = some point → CanGoOn cmd q point) : Named (s.proceed q cmd next) := by
  cases next with
  | none => exact h.setIdle hends nofun
  | some point =>
    obtain ⟨hclaims, htarget⟩ := hnext point rfl
    refine h.setProc (fun cmd' point' pid hproc htarget' => ?_)
      (fun point' hproc hclaims' => ?_) hends
    · obtain ⟨rfl, rfl⟩ := Proc.running.inj hproc
      exact htarget pid htarget'
    · obtain ⟨rfl, rfl⟩ := Proc.running.inj hproc
      rw [hclaims] at hclaims'
      cases hclaims'

/-- Without a pid in the file, a client is about to write its own. -/
theorem afterRead_canGoOn (hpoint : afterRead cmd q none = some point) : CanGoOn cmd q point := by
  cases cmd with
  | start =>
    obtain rfl := Option.some.inj hpoint
    exact ⟨rfl, nofun⟩
  | foreground =>
    obtain rfl := Option.some.inj hpoint
    exact ⟨rfl, fun pid htarget => .inr ⟨rfl, (Option.some.inj htarget).symm⟩⟩
  | stop | status => cases hpoint

@[inherit_doc afterRead_canGoOn]
theorem afterReadError_canGoOn (hpoint : afterReadError cmd q = some point) :
    CanGoOn cmd q point := by
  cases cmd with
  | start | stop => cases hpoint
  | foreground => exact afterRead_canGoOn hpoint
  | status => cases hpoint

/-- A client is about to write its own pid when the one in the file is stale. -/
theorem afterCheck_canGoOn {ours : Bool} (hpoint : afterCheck cmd q pid ours = some point) :
    CanGoOn cmd q point := by
  cases cmd <;> cases ours <;> cases hpoint
  · exact ⟨rfl, nofun⟩
  · exact ⟨rfl, fun pid htarget => .inr ⟨rfl, (Option.some.inj htarget).symm⟩⟩
  · exact ⟨rfl, nofun⟩
  · exact ⟨rfl, nofun⟩
  · exact ⟨rfl, nofun⟩

/-- A step of a command preserves the invariant if it respects the claims. -/
theorem commandStep {ok : Bool} (h : Named s)
    (hlookup : s.procs.lookup q = some (.running cmd point))
    (hrespects : CommandRespects s q ok point)
    (hstep : ZoTunnel.commandStep s q cmd ok point = some s') : Named s' := by
  have hnot : (∀ pid inode, point ≠ .writing pid inode) →
      ∀ child inode, s.procs.lookup q ≠ some (.running .start (.writing child inode)) := by
    intro hpoint child inode hwriting
    exact hpoint child inode (Proc.running.inj (Option.some.inj (hlookup.symm.trans hwriting))).2
  have hends : (∀ pid inode, point ≠ .writing pid inode) → s.EndsSafely q :=
    fun hpoint => PidSystem.endsSafely_of_ne (hnot hpoint)
  have hremoved : (∀ pid inode, point ≠ .writing pid inode) → (s.removeFile ok).EndsSafely q := by
    intro hpoint
    refine PidSystem.endsSafely_of_ne ?_
    rw [PidSystem.removeFile_procs]
    exact hnot hpoint
  cases point with
  | reading =>
    have hends := hends fun _ _ => nofun
    unfold ZoTunnel.commandStep at hstep
    dsimp only at hstep
    split at hstep
    · obtain rfl := Option.some.inj hstep
      exact h.proceed hends fun _ hnext => afterRead_canGoOn hnext
    · rename_i pid hread
      obtain rfl := Option.some.inj hstep
      unfold afterRead
      dsimp only
      split_ifs with hown
      · -- The client has found its own pid.
        obtain ⟨rfl, rfl⟩ := hown
        exact h.goClaiming hends (.inl rfl) (.inl (PidSystem.pidInFile_of_readPid hread))
      · refine h.proceed hends fun point hnext => ?_
        obtain rfl := Option.some.inj hnext
        exact ⟨rfl, nofun⟩
    · obtain rfl := Option.some.inj hstep
      exact h.goIdle hends rfl rfl
    · obtain rfl := Option.some.inj hstep
      exact h.proceed hends fun _ hnext => afterReadError_canGoOn hnext
  | cleaning =>
    obtain rfl := Option.some.inj hstep
    exact (h.removeFile hrespects).proceed (hremoved fun _ _ => nofun) fun _ hnext =>
      afterRead_canGoOn hnext
  | checking pid =>
    obtain rfl := Option.some.inj hstep
    exact h.proceed (hends fun _ _ => nofun) fun _ hnext => afterCheck_canGoOn hnext
  | removingStale =>
    obtain rfl := Option.some.inj hstep
    exact (h.removeFile hrespects).goIdle (hremoved fun _ _ => nofun) rfl rfl
  | spawning =>
    unfold ZoTunnel.commandStep at hstep
    dsimp only at hstep
    split_ifs at hstep
    obtain rfl := Option.some.inj hstep
    exact h.setIdle (hends fun _ _ => nofun) nofun
  | opening pid =>
    unfold ZoTunnel.commandStep at hstep
    dsimp only at hstep
    split_ifs at hstep with hok
    · obtain rfl := Option.some.inj hstep
      exact h.createFile hlookup (hrespects hok)
    · obtain rfl := Option.some.inj hstep
      exact h.setIdle (hends fun _ _ => nofun) nofun
  | writing pid inode =>
    unfold ZoTunnel.commandStep at hstep
    unfold CommandRespects at hrespects
    dsimp only at hstep hrespects
    split_ifs at hstep hrespects with hok
    · obtain rfl := Option.some.inj hstep
      exact h.writeFile hlookup hrespects
    · obtain rfl := Option.some.inj hstep
      exact h.setIdle hrespects nofun
  | sleeping child =>
    unfold ZoTunnel.commandStep at hstep
    dsimp only at hstep
    split_ifs at hstep
    · obtain rfl := Option.some.inj hstep
      exact h.setIdle (hends fun _ _ => nofun) nofun
    · obtain rfl := Option.some.inj hstep
      exact h.goIdle (hends fun _ _ => nofun) rfl rfl
  | binding =>
    unfold ZoTunnel.commandStep at hstep
    dsimp only at hstep
    split_ifs at hstep
    · obtain rfl := Option.some.inj hstep
      exact h.goIdle (hends fun _ _ => nofun) rfl rfl
    · obtain rfl := Option.some.inj hstep
      exact h.goClaiming (hends fun _ _ => nofun) (.inr rfl) (.inr hlookup)
  | serving =>
    unfold ZoTunnel.commandStep at hstep
    dsimp only at hstep
    split_ifs at hstep
    obtain rfl := Option.some.inj hstep
    exact h.goIdle (hends fun _ _ => nofun) rfl rfl
  | closing | removing =>
    obtain rfl := Option.some.inj hstep
    exact (h.removeFile hrespects).setIdle (hremoved fun _ _ => nofun) nofun
  | killing pid =>
    unfold ZoTunnel.commandStep at hstep
    dsimp only at hstep
    split_ifs at hstep with hself
    · obtain rfl := Option.some.inj hstep
      exact h.setIdle (hends fun _ _ => nofun) nofun
    · obtain rfl := Option.some.inj hstep
      exact (h.signal (hrespects hself) (.inl rfl)).goIdle
        (endsSafely_signal (.inl rfl) (hnot fun _ _ => nofun)) rfl rfl
    · obtain rfl := Option.some.inj hstep
      exact h.goIdle (hends fun _ _ => nofun) rfl rfl
  | waiting pid =>
    unfold ZoTunnel.commandStep at hstep
    dsimp only at hstep
    split_ifs at hstep with hok _ hours
    · obtain rfl := Option.some.inj hstep
      exact h.goIdle (hends fun _ _ => nofun) rfl rfl
    · obtain rfl := Option.some.inj hstep
      have hgiveUp : s.EndsSafely pid := hrespects (Bool.eq_false_iff.mpr hok)
      exact (h.signal hgiveUp (.inr rfl)).goIdle
        (endsSafely_signal (.inr rfl) (hnot fun _ _ => nofun)) rfl rfl
    · obtain rfl := Option.some.inj hstep
      exact h.goIdle (hends fun _ _ => nofun) rfl rfl

/-- A step preserves the invariant if it respects the claims. -/
theorem step {l : PidStep} (h : Named s) (hrespects : RespectsClaims s l)
    (hstep : pidStep s l = some s') : Named s' := by
  cases l with
  | run pid cmd =>
    unfold pidStep at hstep
    dsimp only at hstep
    split_ifs at hstep with hused
    obtain rfl := Option.some.inj hstep
    exact h.goIdle (endsSafely_of_notMem fun hmem => hused (.inr hmem)) rfl rfl
  | spawn pid child =>
    unfold pidStep at hstep
    dsimp only at hstep
    split at hstep
    · rename_i hlookup
      split_ifs at hstep with hused
      obtain rfl := Option.some.inj hstep
      -- The child begins like any process, and its parent has its pid to write.
      have hspawned : Named (s.setProc child (.running .foreground .reading)) :=
        h.goIdle (endsSafely_of_notMem fun hmem => hused (.inr hmem)) rfl rfl
      refine hspawned.setProc (fun cmd point pid' hproc _ => ?_) (fun point hproc _ => ?_) ?_
      · exact .inl (Proc.running.inj hproc).1.symm
      · cases hproc
      · refine PidSystem.endsSafely_of_ne fun child' inode hwriting => ?_
        rw [PidSystem.setProc_lookup] at hwriting
        split_ifs at hwriting
        · cases hwriting
        · cases hlookup.symm.trans hwriting
    · cases hstep
  | go pid ok =>
    unfold pidStep at hstep
    unfold RespectsClaims at hrespects
    dsimp only at hstep hrespects
    split at hstep
    · rename_i cmd point hlookup
      rw [hlookup] at hrespects
      exact h.commandStep hlookup hrespects hstep
    · cases hstep
  | signal pid =>
    unfold pidStep at hstep
    dsimp only at hstep
    split_ifs at hstep
    obtain rfl := Option.some.inj hstep
    exact h.signal hrespects (.inl rfl)
  | die pid =>
    unfold pidStep at hstep
    dsimp only at hstep
    split_ifs at hstep
    obtain rfl := Option.some.inj hstep
    exact h.signal hrespects (.inr rfl)
  | appear pid signalable passes =>
    unfold pidStep at hstep
    dsimp only at hstep
    split_ifs at hstep with hused
    obtain rfl := Option.some.inj hstep
    exact h.setIdle (endsSafely_of_notMem fun hmem => hused (.inr hmem))
      fun cmd point hrunning => by cases hrunning
  | vanish pid =>
    unfold pidStep at hstep
    dsimp only at hstep
    split at hstep
    · rename_i hlookup
      obtain rfl := Option.some.inj hstep
      exact h.vanish fun cmd point hrunning => by cases hlookup.symm.trans hrunning
    · rename_i hlookup
      obtain rfl := Option.some.inj hstep
      exact h.vanish fun cmd point hrunning => by cases hlookup.symm.trans hrunning
    · cases hstep

/-- The invariant names the client that serves. -/
theorem pidNamed (h : Named s) : PidNamed s := by
  intro hidle pid hserving _
  have hlookup : s.procs.lookup pid = some (.running .foreground .serving) := by
    unfold PidSystem.isServing at hserving
    exact eq_of_beq hserving
  have hclaims : s.claims pid = true := PidSystem.claims_iff.mpr ⟨_, hlookup, rfl⟩
  rcases (h.held pid hclaims).named with hfile | ⟨inode, -, hwriting | ⟨q, hwriting⟩⟩
  · exact hfile
  · rw [hlookup] at hwriting
    cases hwriting
  · cases hidle q _ hwriting

end Named

/-- Along a run whose steps respect the claims of the clients, the file contains the pid of the one
client that serves whenever no command is in progress. -/
theorem pid_names_client (file : Option File) (labels : List PidStep)
    (hrespects : Meets pidStep RespectsClaims (.new file) labels) :
    Visits pidStep PidNamed (.new file) labels :=
  (visits_of_meets (fun _ _ _ h hl hstep => h.step hl hstep) (Named.new file) hrespects).mono
    fun _ h => h.pidNamed

/-- A `start` on a host without a pid file. The child reads the file that the parent has truncated,
removes it, and writes its pid itself. -/
def startRun : List PidStep :=
  [.run 7 .start, .go 7 true, .spawn 7 9, .go 7 true, .go 9 true, .go 7 true, .go 9 true,
    .go 9 true, .go 9 true, .go 9 true, .go 7 true, .vanish 7]

/-- Along this run the file names the child. -/
theorem pid_names_child : Visits pidStep PidNamed (.new none) startRun :=
  pid_names_client none startRun (by decide +kernel)

/-- A `status` catches the file of a starting client half-written, and removes it. -/
def statusRun : List PidStep :=
  [.run 7 .foreground, .go 7 true, .go 7 true, .run 8 .status, .go 8 true, .go 7 true, .go 7 true,
    .go 8 true]

/-- Then a client serves, and there is no file. -/
theorem pid_file_lost :
    ¬ ∀ (file : Option File) (labels : List PidStep),
      Visits pidStep PidNamed (.new file) labels := by
  intro h
  have hrun : ((exec pidStep (.new none) statusRun).map fun s =>
      (s.procs.entries.map (fun e => (e.1, e.2)), s.pidInFile)) =
      some ([(8, .zombie), (7, .running .foreground .serving)], none) := by decide +kernel
  obtain ⟨s, hrun, hs⟩ := Option.map_eq_some_iff.mp hrun
  obtain ⟨hprocs, hfile⟩ := Prod.mk.inj hs
  have hlookup : ∀ pid proc, s.procs.lookup pid = some proc ↔
      pid = 8 ∧ proc = .zombie ∨ pid = 7 ∧ proc = .running .foreground .serving := by
    intro pid proc
    have hmem : (pid, proc) ∈ s.procs.entries.map (fun e => (e.1, e.2)) ↔
        s.procs.lookup pid = some proc := by
      constructor
      · intro hmem
        obtain ⟨⟨pid', proc'⟩, hentry, heq⟩ := List.mem_map.mp hmem
        obtain ⟨rfl, rfl⟩ := Prod.mk.inj heq
        exact AList.mem_lookup_iff.mpr hentry
      · exact fun hlookup => List.mem_map.mpr ⟨⟨pid, proc⟩, AList.mem_lookup_iff.mp hlookup, rfl⟩
    rw [← hmem, hprocs]
    simp
  have hserving : ∀ pid, s.isServing pid = true ↔ pid = 7 := by
    intro pid
    unfold PidSystem.isServing
    rw [beq_iff_eq, hlookup]
    simp
  have hnamed : s.pidInFile = some 7 := by
    refine (h none statusRun).last hrun (fun pid proc hproc => ?_) 7 ((hserving 7).mpr rfl)
      fun pid hpid => (hserving pid).mp hpid
    rcases (hlookup pid proc).mp hproc with ⟨-, rfl⟩ | ⟨-, rfl⟩
    · rfl
    · rfl
  rw [hfile] at hnamed
  cases hnamed

end ZoTunnel
