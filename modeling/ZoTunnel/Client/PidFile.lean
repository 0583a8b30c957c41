import Mathlib.Data.List.AList
import ZoTunnel.Lib.File
import ZoTunnel.Lib.Text

/-!
# The pid file

`client.pid` and the commands that share it (`zo-tunnel-client/src/main.rs`): `start`, which spawns
a `foreground` in the background, `foreground`, `stop`, and `status`. Each command is a process with
a program counter, and the processes take turns in any order. The file is an inode under a path: a
writer that has opened it keeps writing the inode after `remove_file` has taken the path away.

A command that reads a file which holds no pid removes it (`read_pid`), and `remove_pid` removes the
file whatever it holds. A process is ours if it runs `zo-tunnel-client`, whatever its command, or if
`/proc` says of another program that it does; a process that has exited stays a zombie, which is
alive for `kill` but not ours, until it is reaped. Numbers from `2^31` on, which no command writes,
are those of no process here; what `kill` makes of them is in `ZoTunnel.Client.Stop`.
-/

namespace ZoTunnel

open FileSystem

/-- A command of the client. -/
inductive ClientCommand where
  | start
  | foreground
  | stop
  | status
  deriving DecidableEq, Repr

/-- What a process is about to do. -/
inductive Point where
  /-- `read_pid` reads the file. -/
  | reading
  /-- `read_pid` removes a file that holds no pid. -/
  | cleaning
  /-- `is_our_process` of the pid that has been read. -/
  | checking (pid : UInt32)
  /-- `start` removes a stale file, and goes on. -/
  | removingStale
  | spawning
  /-- `write_pid` opens the file. -/
  | opening (pid : UInt32)
  /-- `write_pid` has truncated the file, and writes the pid. -/
  | writing (pid : UInt32) (inode : ℕ)
  /-- `start` waits to check whether the child has crashed. -/
  | sleeping (child : UInt32)
  /-- `foreground` binds the port. -/
  | binding
  /-- `foreground` has bound the port. -/
  | serving
  /-- `foreground` has stopped serving, and removes the file. -/
  | closing
  /-- `stop` sends SIGTERM. -/
  | killing (pid : UInt32)
  /-- `stop` waits for the process to exit. -/
  | waiting (pid : UInt32)
  /-- The command removes the file, and exits. -/
  | removing
  deriving DecidableEq, Repr

/-- A process. -/
inductive Proc where
  /-- A process of another program: whether we may signal it, and whether what `/proc` shows of it
  passes for a client. -/
  | other (signalable passes : Bool)
  | zombie
  | running (cmd : ClientCommand) (point : Point)
  deriving DecidableEq, Repr

/-- The file and the processes. -/
structure PidSystem where
  /-- The inode of the file. -/
  path : Option ℕ
  inodes : ℕ → File
  nextInode : ℕ
  procs : AList fun _ : UInt32 => Proc

/-- No process, and a file or none. -/
def PidSystem.new (file : Option File) : PidSystem :=
  ⟨file.map fun _ => 0, fun _ => file.getD ⟨true, []⟩, 1, ∅⟩

/-- A step, with what the environment decides in it. -/
inductive PidStep where
  /-- A user runs a command. -/
  | run (pid : UInt32) (cmd : ClientCommand)
  /-- `start` spawns the child. -/
  | spawn (pid child : UInt32)
  /-- The process goes on. The step can fail. -/
  | go (pid : UInt32) (ok : Bool)
  /-- A user sends SIGTERM or SIGINT. -/
  | signal (pid : UInt32)
  /-- The process crashes, or is killed from outside. -/
  | die (pid : UInt32)
  /-- A process of another program starts under the pid. -/
  | appear (pid : UInt32) (signalable passes : Bool)
  /-- A zombie is reaped, or a process of another program ends. -/
  | vanish (pid : UInt32)
  deriving DecidableEq, Repr

/-! ## The pid and its text -/

/-- `pid.to_string()`. -/
def pidText (pid : UInt32) : List UInt8 := Bytes.asBytes (toString pid.toNat)

/-- The pid that a text holds. -/
def parsePid (content : String) : Option UInt32 := Text.parseU32 (Text.trim content)

/-- What `read_pid` finds. -/
inductive PidRead where
  | none
  | pid (pid : UInt32)
  | invalid
  /-- The file cannot be read. -/
  | error
  deriving DecidableEq, Repr

namespace PidSystem

variable (s : PidSystem)

/-- Read PID from file. The removal of an invalid file is a step of its own. -/
def readPid : PidRead :=
  match s.path with
  | none => .none
  | some inode =>
    match (s.inodes inode).readToString with
    | none => .error
    | some content =>
      match parsePid content with
      | some pid => .pid pid
      | none => .invalid

/-- The pid that the file contains. -/
def pidInFile : Option UInt32 :=
  s.path.bind fun inode => (Bytes.fromUtf8? (s.inodes inode).bytes).bind parsePid

/-- Check if a process with the given PID exists at all: `kill(pid, 0)` succeeds. A number from
`2^31` on, which `kill` takes for a process group, is no process here; what is sent to the group
are steps of a user. -/
def isProcessAlive (pid : UInt32) : Bool :=
  if pid = 0 then false
  else
    match s.procs.lookup pid with
    | none => false
    | some (.other signalable _) => signalable
    | some _ => true

/-- Check if a process with the given PID is our zo-tunnel-client process. A process that vanishes
in the middle of the check counts as ours, since `/proc` has nothing about it by then. -/
def isOurProcess (pid : UInt32) (vanishes : Bool) : Bool :=
  if pid = 0 then false
  else
    match s.procs.lookup pid with
    | some (.running _ _) => true
    | some (.other signalable passes) => signalable && passes
    | some .zombie => false
    | none => vanishes

/-- A client has bound the port and is not shutting down. -/
def isServing (pid : UInt32) : Bool :=
  s.procs.lookup pid == some (.running .foreground .serving)

/-- Replace a process. -/
def setProc (pid : UInt32) (proc : Proc) : PidSystem :=
  { s with procs := s.procs.insert pid proc }

/-- A process of a command goes on at a point, or exits. -/
def proceed (pid : UInt32) (cmd : ClientCommand) : Option Point → PidSystem
  | some point => s.setProc pid (.running cmd point)
  | none => s.setProc pid .zombie

/-- `remove_file`, which can fail. -/
def removeFile (ok : Bool) : PidSystem := if ok then { s with path := none } else s

/-- `File::create`: an existing file is truncated, and keeps its inode. -/
def createFile : PidSystem × ℕ :=
  match s.path with
  | some inode =>
    ({ s with inodes := Function.update s.inodes inode (create (some (s.inodes inode))) }, inode)
  | none =>
    ({ s with
      path := some s.nextInode
      inodes := Function.update s.inodes s.nextInode (create none)
      nextInode := s.nextInode + 1 }, s.nextInode)

/-- Write the text of a pid to an opened file, from its beginning. -/
def writeFile (inode : ℕ) (pid : UInt32) : PidSystem :=
  { s with
    inodes := Function.update s.inodes inode ((s.inodes inode).writeAt 0 (pidText pid)) }

end PidSystem

/-! ## The commands -/

/-- What a command does when `read_pid` has returned; `none` exits. -/
def afterRead (cmd : ClientCommand) (self : UInt32) : Option UInt32 → Option Point
  | some pid =>
    -- A client that was spawned by `start` may find its own pid there.
    if cmd = .foreground ∧ pid = self then some .binding else some (.checking pid)
  | none =>
    match cmd with
    | .start => some .spawning
    | .foreground => some (.opening self)
    | .stop | .status => none

/-- What a command does when `read_pid` fails: `read_pid()?`, or `read_pid().unwrap_or(None)`. -/
def afterReadError (cmd : ClientCommand) (self : UInt32) : Option Point :=
  match cmd with
  | .start | .stop => none
  | .foreground | .status => afterRead cmd self none

/-- What a command does when it knows whether the process of another pid is ours. -/
def afterCheck (cmd : ClientCommand) (self pid : UInt32) (ours : Bool) : Option Point :=
  match cmd with
  | .start => if ours then none else some .removingStale
  | .foreground => if ours then none else some (.opening self)
  | .stop => if ours then some (.killing pid) else some .removing
  | .status => if ours then none else some .removing

/-- What a command does when it has written the pid. -/
def afterWrite (cmd : ClientCommand) (pid : UInt32) : Option Point :=
  match cmd with
  | .start => some (.sleeping pid)
  | .foreground => some .binding
  | .stop | .status => none

/-- A process after SIGTERM. A client handles it while it serves. -/
def Proc.terminate : Proc → Proc
  | .running .foreground .serving | .running .foreground .closing => .running .foreground .closing
  | .running _ _ => .zombie
  | proc => proc

/-- A process after SIGKILL. -/
def Proc.kill : Proc → Proc
  | .running _ _ => .zombie
  | proc => proc

/-- Signal a process. -/
def PidSystem.signal (s : PidSystem) (pid : UInt32) (effect : Proc → Proc) : PidSystem :=
  match s.procs.lookup pid with
  | some proc => s.setProc pid (effect proc)
  | none => s

/-- One step of a process of a command. -/
def commandStep (s : PidSystem) (self : UInt32) (cmd : ClientCommand) (ok : Bool) :
    Point → Option PidSystem
  | .reading =>
    match s.readPid with
    | .none => some (s.proceed self cmd (afterRead cmd self none))
    | .pid pid => some (s.proceed self cmd (afterRead cmd self (some pid)))
    | .invalid => some (s.setProc self (.running cmd .cleaning))
    | .error => some (s.proceed self cmd (afterReadError cmd self))
  | .cleaning => some ((s.removeFile ok).proceed self cmd (afterRead cmd self none))
  | .checking pid => some (s.proceed self cmd (afterCheck cmd self pid (s.isOurProcess pid !ok)))
  | .removingStale => some ((s.removeFile ok).setProc self (.running cmd .spawning))
  | .spawning => if ok then none else some (s.setProc self .zombie)
  | .opening pid =>
    if ok then
      match s.createFile with
      | (s, inode) => some (s.setProc self (.running cmd (.writing pid inode)))
    else some (s.setProc self .zombie)
  | .writing pid inode =>
    if ok then some ((s.writeFile inode pid).proceed self cmd (afterWrite cmd pid))
    else some (s.setProc self .zombie)
  | .sleeping child =>
    if s.isProcessAlive child then some (s.setProc self .zombie)
    else some (s.setProc self (.running cmd .removing))
  | .binding =>
    -- Only one process binds the port.
    if !ok then some (s.setProc self (.running cmd .removing))
    else if s.procs.keys.any s.isServing then none
    else some (s.setProc self (.running cmd .serving))
  | .serving =>
    -- The web server fails.
    if ok then none else some (s.setProc self (.running cmd .closing))
  | .killing pid =>
    if pid = self then some (s.setProc self .zombie)
    else if s.isProcessAlive pid then
      some ((s.signal pid .terminate).setProc self (.running cmd (.waiting pid)))
    else some (s.setProc self (.running cmd .removing))
  | .waiting pid =>
    -- The process has exited, or the wait is over.
    if ok then
      if s.isProcessAlive pid then none else some (s.setProc self (.running cmd .removing))
    else if s.isOurProcess pid false then
      some ((s.signal pid .kill).setProc self (.running cmd .removing))
    else some (s.setProc self (.running cmd .removing))
  | .closing | .removing => some ((s.removeFile ok).setProc self .zombie)

/-- One step. -/
def pidStep (s : PidSystem) : PidStep → Option PidSystem
  | .run pid cmd =>
    if pid = 0 ∨ pid ∈ s.procs then none else some (s.setProc pid (.running cmd .reading))
  | .spawn pid child =>
    match s.procs.lookup pid with
    | some (.running .start .spawning) =>
      if child = 0 ∨ child ∈ s.procs then none
      else
        some ((s.setProc child (.running .foreground .reading)).setProc pid
          (.running .start (.opening child)))
    | _ => none
  | .go pid ok =>
    match s.procs.lookup pid with
    | some (.running cmd point) => commandStep s pid cmd ok point
    | _ => none
  | .signal pid => if s.isOurProcess pid false then some (s.signal pid .terminate) else none
  | .die pid => if s.isOurProcess pid false then some (s.signal pid .kill) else none
  | .appear pid signalable passes =>
    if pid = 0 ∨ pid ∈ s.procs then none else some (s.setProc pid (.other signalable passes))
  | .vanish pid =>
    match s.procs.lookup pid with
    | some .zombie | some (.other _ _) => some { s with procs := s.procs.erase pid }
    | _ => none

/-! ## The client that the file names -/

/-- A command is in progress, if it is no client that has bound its port. -/
def Proc.inProgress : Proc → Bool
  | .running .foreground .serving | .running .foreground .closing => false
  | .running _ _ => true
  | .other _ _ | .zombie => false

/-- When no command is in progress and exactly one client has bound its port and is not shutting
down, the file contains the pid of that client. -/
def PidNamed (s : PidSystem) : Prop :=
  (∀ pid proc, s.procs.lookup pid = some proc → proc.inProgress = false) →
    ∀ pid, s.isServing pid = true → (∀ pid', s.isServing pid' = true → pid' = pid) →
      s.pidInFile = some pid

/-- A client claims the file once it has opened it, or has found its own pid there, until it fails
to bind the port or shuts down. -/
def Point.claims : Point → Bool
  | .writing _ _ | .binding | .serving => true
  | _ => false

@[inherit_doc Point.claims]
def PidSystem.claims (s : PidSystem) (pid : UInt32) : Bool :=
  match s.procs.lookup pid with
  | some (.running .foreground point) => point.claims
  | _ => false

/-- No client claims the file, except one that may have this pid. -/
def PidSystem.ClaimedBy (s : PidSystem) (pid : Option UInt32) : Prop :=
  ∀ p ∈ s.procs.keys, s.claims p = true → some p = pid

instance (s : PidSystem) (pid : Option UInt32) : Decidable (s.ClaimedBy pid) :=
  -- Over the pids in use, never over all numbers that a pid can be.
  List.decidableBAll (fun p => s.claims p = true → some p = pid) s.procs.keys

/-- The process ends with nothing to write, unless the file is not claimed by the child whose pid it
has to write, or contains that pid anyway. -/
def PidSystem.EndsSafely (s : PidSystem) (pid : UInt32) : Prop :=
  match s.procs.lookup pid with
  | some (.running .start (.writing child inode)) =>
    s.claims child = true → s.path = some inode → s.pidInFile = some child
  | _ => True

instance (s : PidSystem) (pid : UInt32) : Decidable (s.EndsSafely pid) := by
  unfold PidSystem.EndsSafely
  split <;> infer_instance

/-- A command changes the file only while no other client claims it: it removes the file when none
does, and writes a pid when no client with another pid does, and over no longer text. -/
def CommandRespects (s : PidSystem) (self : UInt32) (ok : Bool) : Point → Prop
  | .cleaning | .removingStale | .removing | .closing => ok = true → s.ClaimedBy none
  | .opening pid => ok = true → s.ClaimedBy (some pid)
  | .writing pid inode =>
    if ok then
      s.path = some inode → s.ClaimedBy (some pid) ∧
        (s.claims pid = true → (s.inodes inode).bytes.length ≤ (pidText pid).length)
    else s.EndsSafely self
  | .killing pid => pid ≠ self → s.EndsSafely pid
  | .waiting pid => ok = false → s.EndsSafely pid
  | _ => True

instance (s : PidSystem) (self : UInt32) (ok : Bool) (point : Point) :
    Decidable (CommandRespects s self ok point) := by
  unfold CommandRespects
  split <;> infer_instance

/-- A step respects the claim of each client. -/
def RespectsClaims (s : PidSystem) : PidStep → Prop
  | .go pid ok =>
    match s.procs.lookup pid with
    | some (.running _ point) => CommandRespects s pid ok point
    | _ => True
  | .signal pid | .die pid => s.EndsSafely pid
  | .run _ _ | .spawn _ _ | .appear _ _ _ | .vanish _ => True

instance (s : PidSystem) (l : PidStep) : Decidable (RespectsClaims s l) := by
  unfold RespectsClaims
  split
  · split <;> infer_instance
  all_goals infer_instance

end ZoTunnel
