import ZoTunnel.Client.PidFile
import ZoTunnel.Protocol.Message

/-!
# Stopping a client

`stop` and `uninstall` of the client (`zo-tunnel-client/src/main.rs`) read a pid from `client.pid`,
verify in `/proc` that it is the pid of a client, and send SIGTERM, and SIGKILL when the process
does not exit in time. The number is a `u32` in the file and a signed `pid_t` for `kill`, to which a
negative number is a process group, and -1 every process.

A check, and the kill that follows it, see one table of processes (`StopView`). From one check to
the next the table changes in any way. What happens to the file is in `ZoTunnel.Client.PidFile`.

`stop_signals_ours_iff` says when every signal goes to the process that the file names, and that is
a client: unless `kill` takes the number for a process group, or the process is another program's of
which `/proc` shows nothing, or only a name with the mark of a deleted file.
-/

namespace ZoTunnel

open FileSystem
open Bytes (asBytes fromUtf8? fromUtf8Lossy)

/-! ## Processes -/

/-- The pid of a process. -/
structure Pid where
  number : ℕ
  pos : 0 < number
  lt : number < 2^31
  deriving DecidableEq

/-- The program of a process: its path, and whether the file has been deleted or replaced. -/
structure Program where
  path : List UInt8
  deleted : Bool
  deriving DecidableEq, Repr

/-- What `/proc/<pid>/exe` links to. -/
def Program.link (exe : Program) : List UInt8 :=
  if exe.deleted then exe.path ++ asBytes " (deleted)" else exe.path

/-- A process, and what of it we may read and do. -/
structure Process where
  group : Pid
  signalable : Bool
  /-- The program. A zombie has none, nor has a thread of the kernel. -/
  exe : Option Program
  exeReadable : Bool
  /-- The words of the command line, with a zero byte behind each. -/
  cmdline : List UInt8
  cmdlineReadable : Bool
  deriving DecidableEq

/-- `read_link` of `/proc/<pid>/exe`. -/
def Process.readExe (p : Process) : Option (List UInt8) :=
  if p.exeReadable then p.exe.map Program.link else none

/-- `read` of `/proc/<pid>/cmdline`. -/
def Process.readCmdline (p : Process) : Option (List UInt8) :=
  if p.cmdlineReadable then some p.cmdline else none

/-- The first word of a command line. -/
def firstWord (cmdline : List UInt8) : List UInt8 := cmdline.takeWhile (· ≠ 0)

/-- The processes, and which of them is the command itself. -/
structure ProcTable where
  procs : AList fun _ : Pid => Process
  caller : Pid

namespace ProcTable

variable (t : ProcTable)

/-- The entry of `/proc` for a number. -/
def process? (n : ℕ) : Option Process :=
  if h : 0 < n ∧ n < 2^31 then t.procs.lookup ⟨n, h.1, h.2⟩ else none

/-- Whether a process is one of those that `kill` signals. -/
def selects (target : Int32) (pid : Pid) (p : Process) : Bool :=
  if 0 < target.toInt then target.toInt = pid.number
  else if target.toInt = 0 then (t.procs.lookup t.caller).any fun caller => caller.group = p.group
  else if target.toInt = -1 then pid.number ≠ 1 ∧ pid ≠ t.caller
  else -target.toInt = p.group.number

/-- `kill`, for any signal. With -1 it succeeds even if it may signal none of the processes. -/
def kill (target : Int32) : Except Error Unit :=
  let selected := t.procs.entries.filter fun entry => t.selects target entry.1 entry.2
  if selected = [] then .error "No such process (os error 3)"
  else if target.toInt = -1 ∨ selected.any fun entry => entry.2.signalable then .ok ()
  else .error "Operation not permitted (os error 1)"

/-- Check if a process with the given PID exists at all: `kill(pid, 0)` succeeds. -/
def isProcessAlive (pid : UInt32) : Bool :=
  if pid = 0 then false else decide (t.kill pid.toInt32 = .ok ())

end ProcTable

/-- Check if a path string refers to a zo-tunnel-client binary. -/
def isZoTunnelBinary (path : String) : Bool :=
  let cleaned := (Text.stripSuffix path " (deleted)").getD path
  Text.fileName cleaned = some "zo-tunnel-client"

/-- Check if a process with the given PID is our zo-tunnel-client process. -/
def ProcTable.isOurProcess (t : ProcTable) (pid : UInt32) : Bool :=
  if !t.isProcessAlive pid then false
  else
    match (t.process? pid.toNat).bind Process.readExe with
    | some exe => isZoTunnelBinary (fromUtf8Lossy exe)
    | none =>
      match (t.process? pid.toNat).bind Process.readCmdline with
      | some cmdline =>
        match fromUtf8? (firstWord cmdline) with
        | some arg0 => isZoTunnelBinary arg0
        | none => true
      | none => true

/-! ## The commands -/

inductive Signal where
  | term
  | kill
  deriving DecidableEq, Repr

/-- A call of `kill`, and the processes that there are. -/
structure Kill where
  signal : Signal
  target : Int32
  table : ProcTable

/-- The processes that a command sees. -/
structure StopView where
  /-- When it checks, and sends SIGTERM. -/
  first : ProcTable
  /-- After it has waited for the process to exit, for the time given. -/
  waited : ℕ → ProcTable
  /-- When it checks again, and sends SIGKILL. -/
  last : ProcTable

/-- Read PID from file. -/
def readPid (file : Option File) : PidRead := (PidSystem.new file).readPid

/-- Why the file could not be read. -/
def readError (file : Option File) : Error :=
  if file.any (·.readable) then "stream did not contain valid UTF-8"
  else "Permission denied (os error 13)"

/-- The SIGKILL, if the process is still ours. -/
def forceKill (seen : StopView) (pid : UInt32) : List Kill :=
  if seen.last.isOurProcess pid then [⟨.kill, pid.toInt32, seen.last⟩] else []

/-- The process has not exited after up to 2 seconds. -/
def StopView.Lingers (seen : StopView) (pid : UInt32) : Prop :=
  ∀ i < 20, (seen.waited i).isProcessAlive pid = true

instance (seen : StopView) (pid : UInt32) : Decidable (seen.Lingers pid) :=
  inferInstanceAs (Decidable (∀ i < 20, _))

/-- `zo-tunnel-client stop`. -/
def cmdStop (file : Option File) (seen : StopView) : Except Error Unit × List Kill :=
  match readPid file with
  | .error => (.error (readError file), [])
  | .none | .invalid => (.ok (), [])
  | .pid pid =>
    if !seen.first.isOurProcess pid then (.ok (), [])
    else
      let term : Kill := ⟨.term, pid.toInt32, seen.first⟩
      match seen.first.kill pid.toInt32 with
      | .error e =>
        (.error ("Failed to stop process " ++ toString pid.toNat ++ ": " ++ e), [term])
      | .ok () =>
        if seen.Lingers pid then (.ok (), term :: forceKill seen pid) else (.ok (), [term])

/-- `zo-tunnel-client uninstall`, after the user has confirmed, or not (`confirmed`). The wait for
the process to exit has no other effect, and the result of `kill` is ignored. -/
def cmdUninstall (confirmed : Except Error Unit) (file : Option File) (seen : StopView) :
    Except Error Unit × List Kill :=
  match confirmed with
  | .error e => (.error e, [])
  | .ok () =>
    match readPid file with
    | .error | .none | .invalid => (.ok (), [])
    | .pid pid =>
      if seen.first.isOurProcess pid then
        (.ok (), ⟨.term, pid.toInt32, seen.first⟩ :: forceKill seen pid)
      else (.ok (), [])

/-! ## Whom they signal -/

/-- A path names the client. -/
def NamesClient (path : List UInt8) : Prop :=
  Text.fileName (fromUtf8Lossy path) = some "zo-tunnel-client"

/-- A process of the client, by its program or by the first word of its command line. -/
def Process.IsClient (p : Process) : Prop :=
  (∃ exe, p.exe = some exe ∧ NamesClient exe.path) ∨ NamesClient (firstWord p.cmdline)

/-- A signal goes to the process with the pid, and that is a client. -/
def Kill.IsForClient (k : Kill) (pid : UInt32) : Prop :=
  0 < k.target.toInt ∧ k.target.toInt = pid.toNat ∧
    ∃ p, k.table.process? pid.toNat = some p ∧ p.IsClient

/-- Every signal goes to the process that the file names, and that is a client. -/
def SignalsOnlyClient (file : Option File) (kills : List Kill) : Prop :=
  ∀ k ∈ kills, ∃ pid, readPid file = .pid pid ∧ k.IsForClient pid

/-- A path that names the client when the mark of a deleted file is taken off. -/
def BearsMark (path : String) : Prop :=
  ∃ front, path = front ++ " (deleted)" ∧ Text.fileName front = some "zo-tunnel-client"

/-- What can be read of a process does not tell that it is another program's: nothing can be read
but a word that is no text, or the name of a file that is there bears the mark of a deleted one. -/
def Process.PassesForClient (p : Process) : Prop :=
  match p.exeReadable, p.exe with
  | true, some exe => exe.deleted = false ∧ BearsMark (fromUtf8Lossy exe.path)
  | _, _ =>
    p.cmdlineReadable = true → ∀ arg0, fromUtf8? (firstWord p.cmdline) = some arg0 → BearsMark arg0

/-- The check takes a number for the pid of a client that is none: `kill` takes it for a process
group, or it is the pid of another program that passes for the client. -/
def ProcTable.Misjudges (t : ProcTable) (pid : UInt32) : Prop :=
  t.isProcessAlive pid = true ∧ (2^31 ≤ pid.toNat ∨
    ∃ p, t.process? pid.toNat = some p ∧ ¬ p.IsClient ∧ p.PassesForClient)

/-- One of the two checks goes wrong, if the second one is made. -/
def StopView.Misjudges (seen : StopView) (pid : UInt32) (second : Prop) : Prop :=
  seen.first.Misjudges pid ∨
    seen.first.isOurProcess pid = true ∧ second ∧ seen.last.Misjudges pid

/-- A path with the mark of a deleted file does not name the client. -/
theorem fileName_marked_ne (front : String) :
    Text.fileName (front ++ " (deleted)") ≠ some "zo-tunnel-client" := by
  obtain ⟨name, hname⟩ :=
    Text.fileName_append front (s := " (deleted)") (by decide) (c := ')') (by decide) (by decide)
  rw [hname]
  intro heq
  have hlast := congrArg (fun s : String => s.toList.getLast?) (Option.some.inj heq)
  simp at hlast

/-- The check of a path's text. -/
theorem isZoTunnelBinary_iff (path : String) :
    isZoTunnelBinary path = true ↔
      Text.fileName path = some "zo-tunnel-client" ∨ BearsMark path := by
  unfold isZoTunnelBinary
  dsimp only
  rw [decide_eq_true_eq]
  cases hstrip : Text.stripSuffix path " (deleted)" with
  | some front =>
    have hpath := Text.stripSuffix_eq_some_iff.mp hstrip
    constructor
    · intro h
      exact .inr ⟨front, hpath, h⟩
    · rintro (h | h)
      · exact absurd (hpath ▸ h) (fileName_marked_ne front)
      · obtain ⟨front', hpath', hname⟩ := h
        rw [Text.stripSuffix_eq_some_iff.mpr hpath'] at hstrip
        rwa [← Option.some.inj hstrip]
  | none =>
    constructor
    · exact .inl
    · rintro (h | ⟨front, hpath, -⟩)
      · exact h
      · rw [Text.stripSuffix_eq_some_iff.mpr hpath] at hstrip
        cases hstrip

/-- The check of what `/proc/<pid>/exe` links to. -/
theorem Program.isZoTunnelBinary_link (exe : Program) :
    isZoTunnelBinary (fromUtf8Lossy exe.link) = true ↔
      NamesClient exe.path ∨ exe.deleted = false ∧ BearsMark (fromUtf8Lossy exe.path) := by
  obtain ⟨path, deleted⟩ := exe
  cases deleted with
  | false => simp [Program.link, isZoTunnelBinary_iff, NamesClient]
  | true =>
    have hascii : ∀ c, (" (deleted)" : String).toList.head? = some c → c.toNat < 128 := by
      intro c hc
      obtain rfl : ' ' = c := Option.some.inj hc
      decide
    have hlossy := Bytes.fromUtf8Lossy_append path hascii
    have hstrip := Text.stripSuffix_eq_some_iff.mpr hlossy
    simp [Program.link, isZoTunnelBinary, NamesClient, hstrip]

/-- A number below `2^31` is itself for `kill`. -/
theorem toInt_toInt32_of_lt {pid : UInt32} (h : pid.toNat < 2^31) :
    pid.toInt32.toInt = pid.toNat := by
  have hcond := BitVec.toInt_eq_toNat_cond pid.toBitVec
  rw [if_pos (by have : pid.toBitVec.toNat = pid.toNat := rfl; omega)] at hcond
  exact hcond

/-- From `2^31` on, it is negative. -/
theorem toInt_toInt32_neg {pid : UInt32} (h : 2^31 ≤ pid.toNat) : pid.toInt32.toInt < 0 := by
  have hcond := BitVec.toInt_eq_toNat_cond pid.toBitVec
  have hnat : pid.toBitVec.toNat = pid.toNat := rfl
  have hlt := pid.toNat_lt
  rw [if_neg (by omega)] at hcond
  have hint : pid.toInt32.toInt = pid.toBitVec.toInt := rfl
  omega

namespace ProcTable

variable {t : ProcTable} {pid : UInt32}

/-- A number that is alive is not zero. -/
theorem pos_of_isProcessAlive (h : t.isProcessAlive pid = true) : 0 < pid.toNat := by
  unfold isProcessAlive at h
  split_ifs at h with hzero
  have hne : pid.toNat ≠ 0 := fun heq => hzero (UInt32.toNat_inj.mp heq)
  omega

/-- A number that is alive and no process group is the pid of a process. -/
theorem exists_process (h : t.isProcessAlive pid = true) (hlt : pid.toNat < 2^31) :
    ∃ p, t.process? pid.toNat = some p := by
  have hpos := pos_of_isProcessAlive h
  have hint := toInt_toInt32_of_lt hlt
  unfold isProcessAlive at h
  split_ifs at h with hzero
  rw [decide_eq_true_eq] at h
  unfold kill at h
  dsimp only at h
  split_ifs at h with hselected
  obtain ⟨⟨pid', p⟩, hentry⟩ := List.exists_mem_of_ne_nil _ hselected
  obtain ⟨hmem, hselects⟩ := List.mem_filter.mp hentry
  unfold selects at hselects
  rw [if_pos (by omega), decide_eq_true_eq, hint] at hselects
  have hpid : pid' = ⟨pid.toNat, hpos, hlt⟩ := by
    cases pid'
    simp only [Pid.mk.injEq]
    exact_mod_cast hselects.symm
  refine ⟨p, ?_⟩
  unfold process?
  rw [dif_pos ⟨hpos, hlt⟩, ← hpid]
  exact AList.mem_lookup_iff.mpr hmem

/-- Nothing is known about a number from `2^31` on, so it counts as ours if it is alive. -/
theorem isOurProcess_of_le (hle : 2^31 ≤ pid.toNat) (h : t.isProcessAlive pid = true) :
    t.isOurProcess pid = true := by
  have hnone : t.process? pid.toNat = none := by
    unfold process?
    rw [dif_neg (by omega)]
  simp [isOurProcess, h, hnone]

/-- A process that is no client counts as ours exactly if it passes for one. -/
theorem isOurProcess_iff_of_not_isClient {p : Process} (h : t.isProcessAlive pid = true)
    (hp : t.process? pid.toNat = some p) (hclient : ¬ p.IsClient) :
    t.isOurProcess pid = true ↔ p.PassesForClient := by
  have hexe : ∀ exe, p.exe = some exe → ¬ NamesClient exe.path :=
    fun exe heq hnames => hclient (.inl ⟨exe, heq, hnames⟩)
  have hword : ¬ NamesClient (firstWord p.cmdline) := fun hnames => hclient (.inr hnames)
  -- Without the program, the first word decides, if it is there and a text.
  have hcmdline : (match p.readCmdline with
      | some cmdline =>
        match fromUtf8? (firstWord cmdline) with
        | some arg0 => isZoTunnelBinary arg0
        | none => true
      | none => true) = true ↔
        (p.cmdlineReadable = true → ∀ arg0, fromUtf8? (firstWord p.cmdline) = some arg0 →
          BearsMark arg0) := by
    unfold Process.readCmdline
    cases p.cmdlineReadable with
    | false => simp
    | true =>
      rw [if_pos rfl]
      dsimp only
      cases harg : fromUtf8? (firstWord p.cmdline) with
      | none => simp
      | some arg0 =>
        have hbytes := Bytes.fromUtf8?_eq_some_iff.mp harg
        have hnot : Text.fileName arg0 ≠ some "zo-tunnel-client" := by
          unfold NamesClient at hword
          rwa [← hbytes, Bytes.fromUtf8Lossy_asBytes] at hword
        simp [isZoTunnelBinary_iff, hnot]
  unfold isOurProcess
  rw [h, hp, Option.bind_some, Option.bind_some]
  unfold Process.PassesForClient Process.readExe
  cases hreadable : p.exeReadable with
  | false => simpa using hcmdline
  | true =>
    cases hsome : p.exe with
    | none => simpa using hcmdline
    | some exe => simp [exe.isZoTunnelBinary_link, hexe exe hsome]

/-- A number that counts as ours is alive. -/
theorem isProcessAlive_of_isOurProcess (h : t.isOurProcess pid = true) :
    t.isProcessAlive pid = true := by
  unfold isOurProcess at h
  cases halive : t.isProcessAlive pid with
  | false => simp [halive] at h
  | true => rfl

/-- A number that is misjudged counts as ours. -/
theorem Misjudges.isOurProcess (h : t.Misjudges pid) : t.isOurProcess pid = true := by
  obtain ⟨halive, hle | ⟨p, hp, hclient, hpasses⟩⟩ := h
  · exact isOurProcess_of_le hle halive
  · exact (isOurProcess_iff_of_not_isClient halive hp hclient).mpr hpasses

/-- A signal to a number that counts as ours is for a client, unless the check is wrong. -/
theorem isForClient_iff (h : t.isOurProcess pid = true) (signal : Signal) :
    Kill.IsForClient ⟨signal, pid.toInt32, t⟩ pid ↔ ¬ t.Misjudges pid := by
  have halive := isProcessAlive_of_isOurProcess h
  unfold Kill.IsForClient
  dsimp only
  by_cases hlt : pid.toNat < 2^31
  · have hpos := pos_of_isProcessAlive halive
    have hint := toInt_toInt32_of_lt hlt
    obtain ⟨p, hp⟩ := exists_process halive hlt
    constructor
    · rintro ⟨-, -, p', hp', hclient⟩ ⟨-, hle | ⟨p'', hp'', hnot, -⟩⟩
      · omega
      · rw [hp'] at hp''
        exact hnot (Option.some.inj hp'' ▸ hclient)
    · intro hmisjudges
      refine ⟨by omega, hint, p, hp, ?_⟩
      by_contra hclient
      have hpasses := (isOurProcess_iff_of_not_isClient halive hp hclient).mp h
      exact hmisjudges ⟨halive, .inr ⟨p, hp, hclient, hpasses⟩⟩
  · have hneg := toInt_toInt32_neg (Nat.not_lt.mp hlt)
    constructor
    · rintro ⟨hpos, -⟩
      omega
    · intro hmisjudges
      exact absurd ⟨halive, .inl (Nat.not_lt.mp hlt)⟩ hmisjudges

end ProcTable

/-! ## The signals of a command -/

/-- A command that sends no signal signals no stranger. -/
theorem signalsOnlyClient_nil (file : Option File) : SignalsOnlyClient file [] :=
  fun _ hk => absurd hk List.not_mem_nil

/-- The signals of a command that makes the first check, and the second one or not. -/
def killsOf (seen : StopView) (pid : UInt32) (second : Prop) [Decidable second] : List Kill :=
  if seen.first.isOurProcess pid then
    ⟨.term, pid.toInt32, seen.first⟩ :: if second then forceKill seen pid else []
  else []

/-- They are for the client exactly if the checks do not go wrong. -/
theorem signalsOnlyClient_killsOf {file : Option File} {pid : UInt32}
    (hfile : readPid file = .pid pid) (seen : StopView) (second : Prop) [Decidable second] :
    SignalsOnlyClient file (killsOf seen pid second) ↔ ¬ seen.Misjudges pid second := by
  have hpid : ∀ k : Kill, (∃ pid', readPid file = .pid pid' ∧ k.IsForClient pid') ↔
      k.IsForClient pid := by
    intro k
    rw [hfile]
    simp
  -- A number that does not count as ours is not misjudged.
  have hnot : ∀ t : ProcTable, t.isOurProcess pid = false → ¬ t.Misjudges pid := by
    intro t hours hmisjudges
    rw [hmisjudges.isOurProcess] at hours
    cases hours
  have hlast : (∀ k ∈ forceKill seen pid, k.IsForClient pid) ↔ ¬ seen.last.Misjudges pid := by
    unfold forceKill
    cases hours : seen.last.isOurProcess pid with
    | true => simpa using ProcTable.isForClient_iff hours .kill
    | false => simpa using hnot _ hours
  unfold killsOf StopView.Misjudges
  cases hours : seen.first.isOurProcess pid with
  | false =>
    have hfirst := hnot _ hours
    simp [hfirst, signalsOnlyClient_nil]
  | true =>
    have hfirst := ProcTable.isForClient_iff hours .term
    unfold SignalsOnlyClient
    simp only [hpid, if_true, List.forall_mem_cons, hfirst, not_or, true_and, not_and]
    refine and_congr_right fun _ => ?_
    by_cases hsecond : second
    · simpa [hsecond] using hlast
    · simp [hsecond]

/-- The signals of `stop`. -/
theorem cmdStop_kills {file : Option File} {pid : UInt32} (hfile : readPid file = .pid pid)
    (seen : StopView) : (cmdStop file seen).2 = killsOf seen pid (seen.Lingers pid) := by
  unfold cmdStop killsOf
  rw [hfile]
  dsimp only
  cases hours : seen.first.isOurProcess pid with
  | false => rfl
  | true =>
    -- The signal can be sent, since the check has sent one.
    have halive := ProcTable.isProcessAlive_of_isOurProcess hours
    have hkill : seen.first.kill pid.toInt32 = .ok () := by
      unfold ProcTable.isProcessAlive at halive
      split_ifs at halive
      exact of_decide_eq_true halive
    rw [hkill]
    by_cases hlingers : seen.Lingers pid
    · simp [hlingers]
    · simp [hlingers]

/-- The signals of `uninstall`. -/
theorem cmdUninstall_kills {file : Option File} {pid : UInt32} (hfile : readPid file = .pid pid)
    (seen : StopView) : (cmdUninstall (.ok ()) file seen).2 = killsOf seen pid True := by
  unfold cmdUninstall killsOf
  rw [hfile]
  dsimp only
  split_ifs <;> simp

/-- Without a pid in the file, or the user's confirmation, there are no signals. -/
theorem kills_eq_nil {file : Option File} (h : ∀ pid, readPid file ≠ .pid pid)
    (confirmed : Except Error Unit) (seen : StopView) :
    (cmdStop file seen).2 = [] ∧ (cmdUninstall confirmed file seen).2 = [] := by
  unfold cmdStop cmdUninstall
  cases hread : readPid file with
  | pid pid => exact absurd hread (h pid)
  | none => cases confirmed <;> exact ⟨rfl, rfl⟩
  | invalid => cases confirmed <;> exact ⟨rfl, rfl⟩
  | error => cases confirmed <;> exact ⟨rfl, rfl⟩

/-- Every signal of `stop` and `uninstall` is for the client that the file names, exactly if neither
check goes wrong. The second check is made by `stop` if the process lingers, and by `uninstall` in
any case. -/
theorem stop_signals_ours_iff (confirmed : Except Error Unit) (file : Option File)
    (seen : StopView) :
    (SignalsOnlyClient file (cmdStop file seen).2 ↔
      ∀ pid, readPid file = .pid pid → ¬ seen.Misjudges pid (seen.Lingers pid)) ∧
    (SignalsOnlyClient file (cmdUninstall confirmed file seen).2 ↔
      ∀ pid, confirmed = .ok () → readPid file = .pid pid → ¬ seen.Misjudges pid True) := by
  have hnil := signalsOnlyClient_nil file
  by_cases hpid : ∃ pid, readPid file = .pid pid
  · obtain ⟨pid, hread⟩ := hpid
    constructor
    · rw [cmdStop_kills hread, signalsOnlyClient_killsOf hread]
      simp [hread]
    · cases confirmed with
      | error e => exact iff_of_true hnil (by simp)
      | ok =>
        rw [cmdUninstall_kills hread, signalsOnlyClient_killsOf hread]
        simp [hread]
  · rw [not_exists] at hpid
    obtain ⟨hstop, huninstall⟩ := kills_eq_nil hpid confirmed seen
    rw [hstop, huninstall]
    exact ⟨iff_of_true hnil fun pid hread => absurd hread (hpid pid),
      iff_of_true hnil fun pid _ hread => absurd hread (hpid pid)⟩

/-- A system with the command and a shell. -/
def shellTable : ProcTable where
  procs := (AList.insert ⟨1200, by decide, by decide⟩
    ⟨⟨1200, by decide, by decide⟩, true, some ⟨asBytes "/usr/bin/bash", false⟩, true,
      asBytes "bash" ++ [0], true⟩
    (∅ : AList fun _ : Pid => Process)).insert ⟨1300, by decide, by decide⟩
    ⟨⟨1300, by decide, by decide⟩, true, some ⟨asBytes "/usr/bin/zo-tunnel-client", false⟩, true,
      asBytes "zo-tunnel-client" ++ [0] ++ asBytes "stop" ++ [0], true⟩
  caller := ⟨1300, by decide, by decide⟩

/-- With 4294967295 in the file, which is -1 for `kill`, `stop` signals the shell. -/
theorem stop_signals_everyone : ¬ SignalsOnlyClient
    (some ⟨true, asBytes "4294967295"⟩) (cmdStop (some ⟨true, asBytes "4294967295"⟩)
      ⟨shellTable, fun _ => shellTable, shellTable⟩).2 := by
  have hread : readPid (some ⟨true, asBytes "4294967295"⟩) = .pid 4294967295 := by decide +kernel
  have halive : shellTable.isProcessAlive 4294967295 = true := by decide +kernel
  rw [cmdStop_kills hread, signalsOnlyClient_killsOf hread, not_not]
  exact .inl ⟨halive, .inl (by decide)⟩

end ZoTunnel
