import ZoTunnel.Client.ConfigInvariant
import ZoTunnel.Client.Durability

/-!
# Saves that fail

The save of `tunnels.yaml` and of `credentials.yaml` (`config.rs`), step by step, and what an
operation on the tunnels leaves in memory and on disk when one of the steps fails. The operations
change the list in memory first, and do not change it back: `memory_matches_disk_iff` says which
calls leave memory and disk in agreement.
-/

namespace ZoTunnel

open FileSystem

/-! ## The steps of a save -/

/-- How the steps of a save go. -/
structure SaveSteps where
  /-- `credentials_dir`, which reads `HOME`. -/
  home : Except Error Unit
  createDir : Except Error Unit
  dirPermissions : Except Error Unit
  opened : Except Error Unit
  /-- The write that fails, by the number of bytes that were written before. -/
  failedWrite : Option (ℕ × Error)
  filePermissions : Except Error Unit

/-- Every step succeeds. -/
def SaveSteps.succeed : SaveSteps := ⟨.ok (), .ok (), .ok (), .ok (), none, .ok ()⟩

/-- `write_all` of a text to an empty file. It ends with the last byte of the text. -/
def writeText (failedWrite : Option (ℕ × Error)) (text : List UInt8) (file : File) :
    Except Error Unit × File :=
  match failedWrite with
  | none => (.ok (), { file with bytes := text })
  | some (n, e) =>
    if n < text.length then (.error e, { file with bytes := text.take n })
    else (.ok (), { file with bytes := text })

/-- The steps of a save before it writes: the text to write. The path is built from the directory,
for which `HOME` is read again. -/
def SaveSteps.prepare (steps : SaveSteps) (yaml : Except Error String) : Except Error String := do
  steps.home
  steps.createDir
  steps.dirPermissions
  steps.home
  let text ← yaml
  steps.opened
  .ok text

/-- The steps of a save of a YAML text to a file in the credentials directory. -/
def saveYaml (steps : SaveSteps) (yaml : Except Error String) (file : Option File) :
    Except Error Unit × Option File :=
  match steps.prepare yaml with
  | .error e => (.error e, file)
  | .ok text =>
    match writeText steps.failedWrite (Bytes.asBytes text) (create file) with
    | (.error e, file) => (.error e, some file)
    | (.ok (), file) =>
      match steps.filePermissions with
      | .error e => (.error e, some file)
      | .ok () => (.ok (), some { file with readable := true })

/-- Every step of a save of this text succeeds. -/
structure SaveSteps.Complete (steps : SaveSteps) (yaml : Except Error String) : Prop where
  home : steps.home = .ok ()
  createDir : steps.createDir = .ok ()
  dirPermissions : steps.dirPermissions = .ok ()
  opened : steps.opened = .ok ()
  written : ∃ text, yaml = .ok text ∧
    ∀ n e, steps.failedWrite = some (n, e) → (Bytes.asBytes text).length ≤ n
  filePermissions : steps.filePermissions = .ok ()

/-- A save comes to its write exactly if all steps before succeed. -/
theorem SaveSteps.prepare_eq_ok_iff {steps : SaveSteps} {yaml : Except Error String}
    {text : String} :
    steps.prepare yaml = .ok text ↔ steps.home = .ok () ∧ steps.createDir = .ok () ∧
      steps.dirPermissions = .ok () ∧ yaml = .ok text ∧ steps.opened = .ok () := by
  unfold prepare
  cases steps.home <;> cases steps.createDir <;> cases steps.dirPermissions <;> cases yaml <;>
    cases steps.opened <;> simp [bind, Except.bind]

/-- A text is written exactly if no write fails before its end, and the file holds it then. -/
theorem writeText_eq_ok_iff {failedWrite : Option (ℕ × Error)} {text : List UInt8} {file : File} :
    (writeText failedWrite text file).1 = .ok () ↔
      ∀ n e, failedWrite = some (n, e) → text.length ≤ n := by
  unfold writeText
  rcases failedWrite with _ | ⟨n, e⟩
  · simp
  · dsimp only
    split_ifs with hlt
    · simpa using hlt
    · simpa using hlt

/-- A text that was written is in the file. -/
theorem writeText_bytes {failedWrite : Option (ℕ × Error)} {text : List UInt8} {file : File}
    (h : (writeText failedWrite text file).1 = .ok ()) :
    (writeText failedWrite text file).2 = { file with bytes := text } := by
  unfold writeText at h ⊢
  rcases failedWrite with _ | ⟨n, e⟩
  · rfl
  · dsimp only at h ⊢
    split_ifs at h ⊢
    rfl

/-- A save succeeds exactly if all its steps do. -/
theorem saveYaml_eq_ok_iff {steps : SaveSteps} {yaml : Except Error String} {file : Option File} :
    (saveYaml steps yaml file).1 = .ok () ↔ steps.Complete yaml := by
  unfold saveYaml
  cases hprepare : steps.prepare yaml with
  | error e =>
    refine iff_of_false (by simp) ?_
    rintro ⟨hhome, hcreate, hdir, hopened, ⟨text, hyaml, -⟩, -⟩
    cases hprepare.symm.trans
      (SaveSteps.prepare_eq_ok_iff.mpr ⟨hhome, hcreate, hdir, hyaml, hopened⟩)
  | ok text =>
    obtain ⟨hhome, hcreate, hdir, hyaml, hopened⟩ := SaveSteps.prepare_eq_ok_iff.mp hprepare
    have hwritten := @writeText_eq_ok_iff steps.failedWrite (Bytes.asBytes text) (create file)
    dsimp only
    generalize writeText steps.failedWrite (Bytes.asBytes text) (create file) = written
      at hwritten ⊢
    obtain ⟨e | _, written⟩ := written
    · refine iff_of_false (by simp) ?_
      rintro ⟨-, -, -, -, ⟨text', hyaml', hwrite⟩, -⟩
      obtain rfl := Except.ok.inj (hyaml.symm.trans hyaml')
      cases hwritten.mpr hwrite
    · have hwrite := hwritten.mp rfl
      cases hpermissions : steps.filePermissions with
      | error e =>
        refine iff_of_false (by simp) fun hcomplete => ?_
        cases hpermissions.symm.trans hcomplete.filePermissions
      | ok _ =>
        exact iff_of_true rfl
          ⟨hhome, hcreate, hdir, hopened, ⟨text, hyaml, hwrite⟩, hpermissions⟩

/-- After a save that succeeds the owner can read the text. -/
theorem saveYaml_file {steps : SaveSteps} {text : String} {file : Option File}
    (h : (saveYaml steps (.ok text) file).1 = .ok ()) :
    (saveYaml steps (.ok text) file).2 = some ⟨true, Bytes.asBytes text⟩ := by
  have hcomplete := saveYaml_eq_ok_iff.mp h
  obtain ⟨text', htext, hwrite⟩ := hcomplete.written
  obtain rfl := Except.ok.inj htext
  have hprepare : steps.prepare (.ok text) = .ok text := SaveSteps.prepare_eq_ok_iff.mpr
    ⟨hcomplete.home, hcomplete.createDir, hcomplete.dirPermissions, rfl, hcomplete.opened⟩
  have hok := (@writeText_eq_ok_iff _ _ (create file)).mpr hwrite
  have hbytes := writeText_bytes hok
  unfold saveYaml
  rw [hprepare]
  dsimp only
  have hwritten : writeText steps.failedWrite (Bytes.asBytes text) (create file) =
      (.ok (), { create file with bytes := Bytes.asBytes text }) := Prod.ext hok hbytes
  rw [hwritten]
  simp only [hcomplete.filePermissions]

/-! ## Operations on the tunnels -/

/-- Save tunnels config to `tunnels.yaml`. -/
def TunnelsConfig.save (Y : Yaml) (steps : SaveSteps) (config : TunnelsConfig)
    (file : Option File) : Except Error Unit × Option File :=
  saveYaml steps (Y.toString config) file

/-- An operation with its save: the result, the configuration in memory, and the file. -/
def TunnelsConfig.callSaved (Y : Yaml) (steps : SaveSteps) (config : TunnelsConfig)
    (newId : String) (c : ConfigCall) (file : Option File) :
    Except Error TunnelEntry × TunnelsConfig × Option File :=
  match config.call newId c with
  | (.error e, config) => (.error e, config, file)
  | (.ok entry, config) =>
    match config.save Y steps file with
    | (.error e, file) => (.error e, config, file)
    | (.ok (), file) => (.ok entry, config, file)

/-! ## Memory and disk -/

/-- After an operation that fails the list in memory is the one before, and after one that succeeds
the file holds the list in memory. -/
def MemoryMatchesDisk (Y : Yaml) (config : TunnelsConfig)
    (after : Except Error TunnelEntry × TunnelsConfig × Option File) : Prop :=
  match after with
  | (.error _, config', _) => config' = config
  | (.ok _, config', file) => TunnelsConfig.load Y file = some config'

/-- The operation passes its checks: what is added or updated gets values that the config takes, and
what is updated or removed is there. -/
def ConfigCall.Accepted (config : TunnelsConfig) : ConfigCall → Prop
  | .add entry => Text.isBlank entry.clientId = false ∧ Text.isBlank entry.localAddr = false ∧
      ∀ t ∈ config.tunnels, t.clientId ≠ entry.clientId
  | .update id clientId localAddr _ =>
    (config.getTunnel id).isSome = true ∧ config.Takes id clientId localAddr
  | .remove id => (config.getTunnel id).isSome = true

/-- The operation changes the list: an update does when a value is new. -/
def ConfigCall.Changes (config : TunnelsConfig) : ConfigCall → Prop
  | .add _ | .remove _ => True
  | .update id clientId localAddr enabled =>
    config.getTunnel id ≠ some ⟨id, clientId, localAddr, enabled⟩

/-- Replacing the first entry with an id changes the list unless that entry is the same. -/
theorem TunnelsConfig.setFirst_eq_self_iff {tunnels : List TunnelEntry} {updated : TunnelEntry}
    (h : (getTunnel ⟨tunnels⟩ updated.id).isSome = true) :
    setFirst updated tunnels = tunnels ↔ getTunnel ⟨tunnels⟩ updated.id = some updated := by
  unfold getTunnel at h ⊢
  induction tunnels with
  | nil => simp at h
  | cons t ts ih =>
    unfold setFirst
    by_cases ht : t.id = updated.id
    · rw [if_pos ht, List.find?_cons_of_pos (by simpa using ht)]
      simp [eq_comm]
    · rw [List.find?_cons_of_neg (by simpa using ht)] at h
      rw [if_neg ht, List.find?_cons_of_neg (by simpa using ht)]
      simpa using ih h

/-- What an operation does before its save: a rejected one changes nothing, and an accepted one the
list, unless it is an update to the same values. -/
theorem TunnelsConfig.call_cases (config : TunnelsConfig) (newId : String) (c : ConfigCall) :
    ¬ c.Accepted config ∧ (∃ e, config.call newId c = (.error e, config)) ∨
      c.Accepted config ∧ (∃ entry, (config.call newId c).1 = .ok entry) ∧
        ((config.call newId c).2 = config ↔ ¬ c.Changes config) := by
  cases c with
  | add entry =>
    have hok := @checkAdd_eq_ok_iff config entry
    rw [← checkAdd_withId entry newId] at hok
    simp only [call, addTunnel]
    cases hcheck : config.checkAdd (entry.withId newId) with
    | error e =>
      refine .inl ⟨fun haccepted => ?_, e, rfl⟩
      cases hcheck.symm.trans (hok.mpr haccepted)
    | ok _ =>
      refine .inr ⟨hok.mp hcheck, ⟨entry.withId newId, rfl⟩, ?_⟩
      refine iff_of_false (fun hsame => ?_) (fun hnot => hnot trivial)
      have hlist := congrArg TunnelsConfig.tunnels hsame
      simp at hlist
  | update id clientId localAddr enabled =>
    have hok := @checkUpdate_eq_ok_iff config id clientId localAddr
    simp only [call, updateTunnel]
    cases hcheck : config.checkUpdate id clientId localAddr with
    | error e =>
      refine .inl ⟨?_, e, rfl⟩
      rintro ⟨hsome, htakes⟩
      obtain ⟨entry, hentry⟩ := Option.isSome_iff_exists.mp hsome
      cases hcheck.symm.trans (hok.mpr ⟨hentry, htakes⟩)
    | ok entry =>
      -- The list changes unless the entry already has these values.
      obtain ⟨hget, htakes⟩ := hok.mp hcheck
      obtain rfl : entry.id = id := getTunnel_id hget
      have hsome : (config.getTunnel entry.id).isSome = true := by rw [hget]; rfl
      have hset := @setFirst_eq_self_iff config.tunnels
        ⟨entry.id, clientId, localAddr, enabled⟩ hsome
      refine .inr ⟨⟨hsome, htakes⟩, ⟨_, rfl⟩, ?_⟩
      unfold ConfigCall.Changes
      rw [not_not]
      refine Iff.trans ?_ hset
      exact ⟨fun h => congrArg TunnelsConfig.tunnels h, congrArg TunnelsConfig.mk⟩
  | remove id =>
    simp only [call, removeTunnel]
    cases hget : config.getTunnel id with
    | none =>
      refine .inl ⟨fun haccepted => ?_, _, rfl⟩
      simp [ConfigCall.Accepted, hget] at haccepted
    | some removed =>
      refine .inr ⟨by simp [ConfigCall.Accepted, hget], ⟨removed, rfl⟩, ?_⟩
      refine iff_of_false (fun hsame => ?_) (fun hnot => hnot trivial)
      -- The list is shorter by one.
      have hlist := congrArg (fun c : TunnelsConfig => c.tunnels.length) hsame
      have hmem := List.mem_of_find?_eq_some hget
      have hshorter := List.length_eraseP_of_mem hmem (List.find?_some hget)
      have hpos := List.length_pos_of_mem hmem
      dsimp only at hlist
      omega

/-- An operation leaves memory and disk in agreement exactly if it is rejected, or does not change
the list, or every step of its save succeeds. -/
theorem memory_matches_disk_iff (Y : Yaml) (hY : Y.Lawful) (steps : SaveSteps)
    (config : TunnelsConfig) (newId : String) (c : ConfigCall) (file : Option File) :
    MemoryMatchesDisk Y config (config.callSaved Y steps newId c file) ↔
      (c.Accepted config → c.Changes config →
        steps.Complete (Y.toString (config.call newId c).2)) := by
  unfold TunnelsConfig.callSaved
  rcases config.call_cases newId c with ⟨hrejected, e, hcall⟩ | ⟨haccepted, ⟨entry, hentry⟩, hsame⟩
  · rw [hcall]
    exact iff_of_true rfl fun haccepted => absurd haccepted hrejected
  · rcases hcall : config.call newId c with ⟨result, edited⟩
    rw [hcall] at hentry hsame
    dsimp only at hentry hsame
    subst hentry
    have hcomplete := @saveYaml_eq_ok_iff steps (Y.toString edited) file
    dsimp only
    rcases hsave : edited.save Y steps file with ⟨e | _, written⟩
    · -- The save failed, and the change stays.
      have hincomplete : ¬ steps.Complete (Y.toString edited) := by
        rw [← hcomplete]
        unfold TunnelsConfig.save at hsave
        simp [hsave]
      refine Iff.trans hsame ?_
      exact ⟨fun hnot _ hchanges => absurd hchanges hnot,
        fun h hchanges => hincomplete (h haccepted hchanges)⟩
    · have hdone : (saveYaml steps (Y.toString edited) file).1 = .ok () := by
        unfold TunnelsConfig.save at hsave
        rw [hsave]
      refine iff_of_true ?_ fun _ _ => hcomplete.mp hdone
      obtain ⟨text, htext, -⟩ := (hcomplete.mp hdone).written
      rw [TunnelsConfig.save, htext] at hsave
      rw [htext] at hdone
      have hfile := saveYaml_file hdone
      rw [hsave] at hfile
      dsimp only at hfile
      rw [hfile]
      unfold MemoryMatchesDisk TunnelsConfig.load
      have hread : (File.mk true (Bytes.asBytes text)).readToString = some text := by
        unfold File.readToString
        rw [if_pos rfl, Bytes.fromUtf8?_eq_some_iff]
      simp only [hread, Option.bind_some]
      exact hY edited text htext

/-- A client with one tunnel adds another, and every step of the save succeeds. -/
theorem memory_matches_disk_add :
    webYaml.Lawful ∧ (MemoryMatchesDisk webYaml ⟨[webEntry]⟩ (TunnelsConfig.callSaved webYaml
        .succeed ⟨[webEntry]⟩ "b2" (.add apiEntry) (some webFile)) ↔
      (ConfigCall.Accepted ⟨[webEntry]⟩ (.add apiEntry) →
        ConfigCall.Changes ⟨[webEntry]⟩ (.add apiEntry) →
        SaveSteps.succeed.Complete
          (webYaml.toString (TunnelsConfig.call ⟨[webEntry]⟩ "b2" (.add apiEntry)).2))) :=
  ⟨webYaml_lawful, memory_matches_disk_iff webYaml webYaml_lawful .succeed ⟨[webEntry]⟩ "b2"
    (.add apiEntry) (some webFile)⟩

/-- A save that cannot open its file. -/
def SaveSteps.readOnly : SaveSteps :=
  { SaveSteps.succeed with opened := .error "Read-only file system" }

/-- When the file cannot be opened the add fails, and the tunnel stays in memory. -/
theorem failed_add_stays : ¬ MemoryMatchesDisk webYaml ⟨[webEntry]⟩
    (TunnelsConfig.callSaved webYaml .readOnly ⟨[webEntry]⟩ "b2" (.add apiEntry)
      (some webFile)) := by
  have hcall : TunnelsConfig.callSaved webYaml .readOnly ⟨[webEntry]⟩ "b2" (.add apiEntry)
      (some webFile) =
        (.error "Read-only file system", ⟨[webEntry, apiEntry]⟩, some webFile) := by
    decide +kernel
  rw [hcall]
  intro hsame
  have hlist := congrArg (fun c : TunnelsConfig => c.tunnels.length) hsame
  simp at hlist

end ZoTunnel
