import Mathlib.Logic.Function.Basic
import ZoTunnel.Client.Config
import ZoTunnel.Lib.File

/-!
# The saved tunnels

`tunnels.yaml` (`config.rs`) under the clients of a user: each process loads it when it starts with
saved credentials (`AppState::new`) and on every connect, and a failed load counts as an empty
configuration there (`unwrap_or_default`). An operation of the tunnel API changes the configuration
of a manager in memory under its lock, and then writes all of it over the file.

A process can die between any two steps, also between those of a save. A manager is an `Arc`: a
request keeps the one it has cloned, whatever `inner` holds by then. The tunnels that run, and the
reading of the credentials, are left out here; a request that is dropped at an await point is one
that takes no further step.
-/

namespace ZoTunnel

open FileSystem

/-- `serde_yaml::to_string` and `serde_yaml::from_str` at `TunnelsConfig`. No caller looks at the
error of the latter. -/
structure Yaml where
  toString : TunnelsConfig → Except Error String
  fromStr : String → Option TunnelsConfig

/-- `from_str` undoes `to_string`. -/
def Yaml.Lawful (Y : Yaml) : Prop :=
  ∀ config text, Y.toString config = .ok text → Y.fromStr text = some config

/-- An operation of the tunnel API on the configuration. -/
inductive ConfigCall where
  | add (entry : TunnelEntry)
  | update (id clientId localAddr : String) (enabled : Bool)
  | remove (id : String)
  deriving DecidableEq, Repr

namespace TunnelsConfig

/-- Load tunnels config, `none` when this fails. An empty config if the file does not exist. -/
def load (Y : Yaml) : Option File → Option TunnelsConfig
  | none => some ⟨[]⟩
  | some file => file.readToString.bind Y.fromStr

/-- What an operation does before it saves: its result, and the configuration. -/
def call (config : TunnelsConfig) (newId : String) :
    ConfigCall → Except Error TunnelEntry × TunnelsConfig
  | .add entry => config.addTunnel entry newId (.ok ())
  | .update id clientId localAddr enabled =>
    config.updateTunnel id clientId localAddr enabled (.ok ())
  | .remove id => config.removeTunnel id (.ok ())

end TunnelsConfig

/-! ## The clients -/

/-- How far a save has come. -/
inductive SavePoint where
  /-- It is about to create the directory, and to serialize the configuration. -/
  | preparing
  /-- It is about to open the file. -/
  | opening (text : String)
  /-- The file is truncated, and the text is being written. -/
  | writing (w : Descriptor)
  /-- It is about to set the permissions of the file. -/
  | finishing
  deriving DecidableEq

/-- How far a request to the web server has come. -/
inductive ConfigRequest where
  /-- There is no request under this number yet. -/
  | idle
  /-- A connect that has created a manager, and has yet to put it into `inner`. -/
  | connecting (mgr : ℕ)
  /-- An operation that waits for the lock of the configuration. -/
  | waiting (mgr : ℕ) (call : ConfigCall)
  /-- An operation that has changed the configuration in memory, and holds its lock. -/
  | saving (mgr : ℕ) (call : ConfigCall) (entry : TunnelEntry) (point : SavePoint)
  | returned (result : Except Error (Option TunnelEntry))
  deriving DecidableEq

/-- The configuration of a manager behind its lock. -/
structure LockedConfig where
  config : TunnelsConfig
  locked : Bool
  deriving DecidableEq

/-- The file, and the client processes that share it. -/
structure Clients where
  file : Option File
  /-- The managers that any process has created. -/
  managers : ℕ → LockedConfig
  /-- The number of the next manager. -/
  nextManager : ℕ
  running : ℕ → Bool
  /-- The manager that a process hands to its requests. -/
  inner : ℕ → Option ℕ
  /-- The requests of each process. -/
  requests : ℕ → ℕ → ConfigRequest

/-- A step of a process, with what the environment decides in it. -/
inductive ClientStep where
  /-- The process starts, with saved credentials or without. -/
  | start (credentials : Bool)
  | die
  /-- A connect up to its first await: `save` is how the save of the credentials goes. -/
  | connect (rid : ℕ) (save : Except Error Unit)
  /-- A connect puts its manager into `inner`. -/
  | install (rid : ℕ)
  | disconnect
  /-- A request for an operation. -/
  | request (rid : ℕ) (call : ConfigCall)
  /-- An operation gets the lock: `newId` is the id that it generates. -/
  | lock (rid : ℕ) (newId : String)
  /-- `create_dir_all` and `set_permissions` of the directory, and `to_string`. -/
  | prepare (rid : ℕ) (directory : Except Error Unit)
  | create (rid : ℕ) (opened : Except Error Unit)
  /-- One piece of the text is written: `n + 1` bytes of it, or all. -/
  | write (rid : ℕ) (written : Except Error ℕ)
  | setPermissions (rid : ℕ) (set : Except Error Unit)

/-- What a step does to the file, or to a configuration. -/
inductive ClientEvent where
  | none
  /-- A new manager has loaded the file, or has failed to. -/
  | loaded (mgr : ℕ) (result : Option TunnelsConfig)
  /-- A manager has executed an operation in memory, with this result. -/
  | executed (mgr : ℕ) (call : ConfigCall) (entry : TunnelEntry)
  /-- The file has been truncated by a save of this manager. -/
  | truncated (mgr : ℕ)
  /-- The configuration of the manager after this operation has been written. -/
  | written (mgr : ℕ) (call : ConfigCall) (entry : TunnelEntry)

namespace Clients

/-- No process, with a file or without. -/
def new (file : Option File) : Clients :=
  ⟨file, fun _ => ⟨⟨[]⟩, false⟩, 0, fun _ => false, fun _ => none, fun _ _ => .idle⟩

variable (s : Clients)

/-- Replace a request. -/
def setRequest (pid rid : ℕ) (request : ConfigRequest) : Clients :=
  { s with
    requests := Function.update s.requests pid (Function.update (s.requests pid) rid request) }

/-- Replace what a process hands to its requests. -/
def setInner (pid : ℕ) (mgr : Option ℕ) : Clients :=
  { s with inner := Function.update s.inner pid mgr }

/-- Replace a manager. -/
def setManager (mgr : ℕ) (state : LockedConfig) : Clients :=
  { s with managers := Function.update s.managers mgr state }

/-- Load the file into a new manager. A load that fails counts as an empty configuration. -/
def newManager (Y : Yaml) : Clients :=
  { s.setManager s.nextManager ⟨(TunnelsConfig.load Y s.file).getD ⟨[]⟩, false⟩ with
    nextManager := s.nextManager + 1 }

/-- The event of a new manager. -/
def loadEvent (Y : Yaml) : ClientEvent := .loaded s.nextManager (TunnelsConfig.load Y s.file)

/-- An operation ends, and gives the lock back. -/
def finish (pid rid mgr : ℕ) (result : Except Error (Option TunnelEntry)) : Clients :=
  (s.setManager mgr ⟨(s.managers mgr).config, false⟩).setRequest pid rid (.returned result)

/-- The process has a save between the truncation and the end of its write. -/
def Writing (pid rid : ℕ) : Prop :=
  ∃ mgr call entry w, s.requests pid rid = .saving mgr call entry (.writing w)

/-- No process has. -/
def NoneWriting : Prop := ∀ pid rid, ¬ s.Writing pid rid

end Clients

/-- One step of a process. -/
def clientStep (Y : Yaml) (s : Clients) (pid : ℕ) (l : ClientStep) :
    Option (Clients × ClientEvent) :=
  match s.running pid, l with
  | false, .start credentials =>
    let started := { s with running := Function.update s.running pid true }
    if credentials then
      some ((started.newManager Y).setInner pid (some s.nextManager), s.loadEvent Y)
    else some (started, .none)
  | true, .die =>
    some ({ s.setInner pid none with
      running := Function.update s.running pid false
      requests := Function.update s.requests pid fun _ => .idle }, .none)
  | true, .connect rid save =>
    match s.requests pid rid with
    | .idle =>
      -- Disconnect first if already connected.
      let s := s.setInner pid none
      match save with
      | .error e => some (s.setRequest pid rid (.returned (.error e)), .none)
      | .ok () =>
        some ((s.newManager Y).setRequest pid rid (.connecting s.nextManager), s.loadEvent Y)
    | _ => none
  | true, .install rid =>
    match s.requests pid rid with
    | .connecting mgr =>
      some ((s.setInner pid (some mgr)).setRequest pid rid (.returned (.ok none)), .none)
    | _ => none
  | true, .disconnect => some (s.setInner pid none, .none)
  | true, .request rid call =>
    match s.requests pid rid, s.inner pid with
    | .idle, some mgr => some (s.setRequest pid rid (.waiting mgr call), .none)
    | .idle, none =>
      some (s.setRequest pid rid
        (.returned (.error "Not connected. Please connect first.")), .none)
    | _, _ => none
  | true, .lock rid newId =>
    match s.requests pid rid with
    | .waiting mgr call =>
      if (s.managers mgr).locked then none
      else
        match (s.managers mgr).config.call newId call with
        | (.error e, _) => some (s.setRequest pid rid (.returned (.error e)), .none)
        | (.ok entry, config) =>
          some ((s.setManager mgr ⟨config, true⟩).setRequest pid rid
            (.saving mgr call entry .preparing), .executed mgr call entry)
    | _ => none
  | true, .prepare rid directory =>
    match s.requests pid rid with
    | .saving mgr call entry .preparing =>
      match directory, Y.toString (s.managers mgr).config with
      | .error e, _ | .ok (), .error e => some (s.finish pid rid mgr (.error e), .none)
      | .ok (), .ok text =>
        some (s.setRequest pid rid (.saving mgr call entry (.opening text)), .none)
    | _ => none
  | true, .create rid opened =>
    match s.requests pid rid with
    | .saving mgr call entry (.opening text) =>
      match opened with
      | .error e => some (s.finish pid rid mgr (.error e), .none)
      | .ok () =>
        some ({ s with file := some (create s.file) }.setRequest pid rid
          (.saving mgr call entry (.writing ⟨0, Bytes.asBytes text⟩)), .truncated mgr)
    | _ => none
  | true, .write rid written =>
    match s.requests pid rid, s.file with
    | .saving mgr call entry (.writing w), some file =>
      match written with
      | .error e => some (s.finish pid rid mgr (.error e), .none)
      | .ok n =>
        match w.write (n + 1) file with
        | (w, file) =>
          let s := { s with file := some file }
          if w.rest = [] then
            some (s.setRequest pid rid (.saving mgr call entry .finishing), .written mgr call entry)
          else some (s.setRequest pid rid (.saving mgr call entry (.writing w)), .none)
    | _, _ => none
  | true, .setPermissions rid set =>
    match s.requests pid rid with
    | .saving mgr _ entry .finishing =>
      match set with
      | .error e => some (s.finish pid rid mgr (.error e), .none)
      | .ok () =>
        let file := s.file.map fun file => { file with readable := true }
        some ({ s with file }.finish pid rid mgr (.ok (some entry)), .none)
    | _ => none
  | _, _ => none

/-! ## What must stay -/

/-- An entry of a file that loaded: its id, and the values that it may have by now. -/
structure Kept where
  id : String
  entries : List TunnelEntry

namespace Kept

/-- An entry that has just been loaded. -/
def ofEntry (entry : TunnelEntry) : Kept := ⟨entry.id, [entry]⟩

/-- The entry after an operation in memory with this result, if it is not removed. It may still have
its old values, until the operation has been written. -/
def executed (call : ConfigCall) (result : TunnelEntry) (k : Kept) : Option Kept :=
  match call with
  | .add _ => some k
  | .update .. => some (if k.id = result.id then { k with entries := result :: k.entries } else k)
  | .remove _ => if k.id = result.id then none else some k

/-- The entry after an operation with this result has been written. -/
def written (call : ConfigCall) (result : TunnelEntry) (k : Kept) : Kept :=
  match call with
  | .update .. => if k.id = result.id then { k with entries := [result] } else k
  | .add _ | .remove _ => k

/-- A configuration has the entry, with one of its values. -/
def In (k : Kept) (config : TunnelsConfig) : Prop := ∃ entry ∈ k.entries, entry ∈ config.tunnels

end Kept

/-- What the events so far make of the file. -/
structure Ledger where
  /-- A load of the file as it is has failed. -/
  loadFailed : Bool
  /-- The entries of the files that loaded, up to their removal. -/
  kept : List Kept
  /-- The managers that have executed an operation which is not in the file. -/
  unsaved : List ℕ
  /-- The managers that are not behind the file: their own load succeeded, no other manager has
  saved since, and none has loaded the file while they were ahead of it. -/
  fresh : List ℕ

/-- The ledger after an event. -/
def Ledger.after (ledger : Ledger) : ClientEvent → Ledger
  | .none => ledger
  | .loaded mgr (some config) =>
    { ledger with
      kept := config.tunnels.map .ofEntry ++ ledger.kept
      fresh := mgr :: ledger.fresh.filter (· ∉ ledger.unsaved) }
  | .loaded _ none => { ledger with loadFailed := true }
  | .executed mgr call entry =>
    { ledger with
      kept := ledger.kept.filterMap (Kept.executed call entry)
      unsaved := mgr :: ledger.unsaved }
  | .truncated mgr => { ledger with loadFailed := false, fresh := [mgr] }
  | .written mgr call entry =>
    { ledger with
      kept := ledger.kept.map (Kept.written call entry)
      unsaved := ledger.unsaved.filter (· ≠ mgr) }

/-- The clients with their ledger. -/
structure ClientRun where
  clients : Clients
  ledger : Ledger

/-- No process, with a file or without. -/
def ClientRun.new (file : Option File) : ClientRun := ⟨.new file, ⟨false, [], [], []⟩⟩

/-- One step of a process, by its number. -/
def persistStep (Y : Yaml) (r : ClientRun) (l : ℕ × ClientStep) : Option ClientRun :=
  (clientStep Y r.clients l.1 l.2).map fun p => ⟨p.1, r.ledger.after p.2⟩

/-- Whether a step changes the content of the file. -/
def ClientStep.overwrites : ClientStep → Bool
  | .create _ (.ok _) | .write _ (.ok _) => true
  | _ => false

/-- No file is overwritten whose load failed. -/
def SparesFailed (r : ClientRun) (l : ℕ × ClientStep) (_ : ClientRun) : Prop :=
  l.2.overwrites = true → r.ledger.loadFailed = false

/-- Unless a save is between its truncation and the end of its write, every entry of a file that
loaded is loaded again, with its last updated values, until its removal. -/
def EntriesStay (Y : Yaml) (r : ClientRun) : Prop :=
  r.clients.NoneWriting →
    ∀ k ∈ r.ledger.kept, ∃ config, TunnelsConfig.load Y r.clients.file = some config ∧ k.In config

/-- No process dies, and no write fails, between the truncation and the end of the write; no file is
loaded in that time; and a file is truncated only by a manager that is not behind it. -/
def SavesSafely (r : ClientRun) (l : ℕ × ClientStep) : Prop :=
  match l.2 with
  | .die => ∀ rid, ¬ r.clients.Writing l.1 rid
  | .start true | .connect _ (.ok _) => r.clients.NoneWriting
  | .create rid (.ok _) =>
    ∀ mgr call entry point, r.clients.requests l.1 rid = .saving mgr call entry point →
      mgr ∈ r.ledger.fresh
  | .write _ (.error _) => False
  | _ => True

end ZoTunnel
