import ZoTunnel.Protocol.Message
import ZoTunnel.Protocol.Version

/-!
# Self-upgrade

`upgrade` of `zo-tunnel-protocol/src/self_update.rs`: it downloads the latest release, and replaces
the binary at the install path. How each step goes is the environment's choice (`UpgradeSteps`), and
what is followed is the file at the install path. The temporary directory is another place.

The old file is removed before the new one is copied, and the result of the last `sudo chmod` is
ignored. `all_or_nothing_iff` says which outcomes of the steps leave the old binary in place when
the upgrade fails, and the new one ready to run when it succeeds.
-/

namespace ZoTunnel

/-! ## The steps -/

/-- A file with a program: its bytes, and whether it can be executed. -/
structure Executable where
  content : List UInt8
  executable : Bool
  deriving DecidableEq, Repr

/-- What a failed copy leaves of the new file: its first bytes, by their number, and whether they
can be executed. -/
structure Remnant where
  length : ℕ
  executable : Bool
  deriving DecidableEq, Repr

/-- What a failed copy has written. `none` is a copy that has not opened the file. -/
abbrev Written := Option Remnant

/-- How the removal of the old file goes. -/
inductive Removal where
  | removed
  /-- The permission is denied, and `sudo rm -f` removes the file or does not. -/
  | denied (viaSudo : Bool)
  /-- Another error, which is ignored, or the file is not seen (`exists`). -/
  | failed
  deriving DecidableEq, Repr

/-- How `sudo cp` goes. -/
inductive SudoCopy where
  | copied
  /-- `sudo` cannot be run. -/
  | notRun (e : Error)
  | failed (written : Written)
  deriving DecidableEq, Repr

/-- How `std::fs::copy` goes, and `sudo cp` after it when the permission is denied. -/
inductive CopyResult where
  | copied
  | denied (written : Written) (viaSudo : SudoCopy)
  | failed (e : Error) (written : Written)
  deriving DecidableEq, Repr

/-- How the steps of an upgrade go. -/
structure UpgradeSteps where
  /-- `fetch_latest_version`. -/
  latest : Except Error String
  os : String
  arch : String
  tempdir : Except Error Unit
  /-- `curl`, which may not run, and its exit status. -/
  curl : Except Error Bool
  /-- `tar`, in the same way. -/
  tar : Except Error Bool
  /-- The binary in the temporary directory, if it is there. -/
  extracted : Option Executable
  /-- `detect_install_dir`. -/
  installDir : Except Error Unit
  createDir : Except Error Unit
  removal : Removal
  copy : CopyResult
  /-- Whether `set_permissions` makes the file executable. -/
  setPermissions : Bool
  /-- Whether `sudo chmod +x` does. -/
  sudoChmod : Bool

/-- The repository that the releases come from. -/
def repo : String := "Zobite/zo-tunnel"

/-- The name of the platform in the name of a release. -/
def detectTarget (os arch : String) : Except Error String := do
  let osLabel ←
    if os = "linux" then .ok "linux"
    else if os = "macos" then .ok "darwin"
    else .error ("Unsupported OS: " ++ os)
  let archLabel ←
    if arch = "x86_64" then .ok "amd64"
    else if arch = "aarch64" then .ok "arm64"
    else .error ("Unsupported architecture: " ++ arch)
  .ok (osLabel ++ "-" ++ archLabel)

/-- The steps of an upgrade before it changes the install path: the binary to install. -/
def UpgradeSteps.prepare (steps : UpgradeSteps) (binaryName : String) :
    Except Error Executable := do
  let target ← detectTarget steps.os steps.arch
  steps.tempdir
  let downloaded ← steps.curl.mapError fun e => "Failed to run curl: " ++ e
  if !downloaded then
    .error ("Download failed. Binary may not be available for " ++ target ++
      ".\nYou can build from source: cargo install --git https://github.com/" ++ repo ++ " " ++
      binaryName)
  let extracted ← steps.tar
  if !extracted then .error "Failed to extract tarball"
  match steps.extracted with
  | none => .error ("Binary not found in tarball: " ++ binaryName)
  | some extracted =>
    steps.installDir
    steps.createDir
    .ok extracted

/-! ## The install path -/

/-- The file that the old one has left after its removal. -/
def Removal.apply (removal : Removal) (installed : Option Executable) : Option Executable :=
  match removal with
  | .removed | .denied true => none
  | .denied false | .failed => installed

/-- Whether a file can be executed after `cp`: an old file keeps its mode, and a new one gets that
of the source. -/
def modeAfter (src : Executable) (dst : Option Executable) : Bool :=
  (dst.map (·.executable)).getD src.executable

/-- What a failed copy leaves. -/
def Executable.copyFailed (src : Executable) (written : Written) (dst : Option Executable) :
    Option Executable :=
  match written with
  | none => dst
  | some left => some ⟨src.content.take left.length, left.executable⟩

/-- Copy file, falling back to sudo if permission denied. The old file is removed first. -/
def copyWithFallback (steps : UpgradeSteps) (src : Executable) (installed : Option Executable) :
    Except Error Unit × Option Executable :=
  let dst := steps.removal.apply installed
  match steps.copy with
  | .copied => (.ok (), some src)
  | .denied written viaSudo =>
    let dst := src.copyFailed written dst
    match viaSudo with
    | .copied => (.ok (), some ⟨src.content, modeAfter src dst⟩)
    | .notRun e => (.error e, dst)
    | .failed written => (.error "Failed to copy binary with sudo", src.copyFailed written dst)
  | .failed e written => (.error e, src.copyFailed written dst)

/-- chmod +x, falling back to sudo. -/
def setExecutable (steps : UpgradeSteps) (file : Executable) : Executable :=
  if steps.setPermissions || steps.sudoChmod then { file with executable := true } else file

/-- Self-upgrade the binary, on the file at the install path. -/
def upgrade (binaryName currentVersion : String) (steps : UpgradeSteps)
    (installed : Option Executable) : Except Error Unit × Option Executable :=
  match steps.latest with
  | .error e => (.error e, installed)
  | .ok latest =>
    if !isNewer currentVersion latest then (.ok (), installed)
    else
      match steps.prepare binaryName with
      | .error e => (.error e, installed)
      | .ok extracted =>
        match copyWithFallback steps extracted installed with
        | (.error e, installed) => (.error e, installed)
        | (.ok (), installed) => (.ok (), installed.map (setExecutable steps))

/-! ## All or nothing -/

/-- When the upgrade fails the old binary is still there, and when it succeeds after finding a newer
version the extracted binary is there and can be executed. -/
def AllOrNothing (binaryName currentVersion : String) (steps : UpgradeSteps)
    (installed : Option Executable) : Prop :=
  match upgrade binaryName currentVersion steps installed with
  | (.error _, after) => ∀ old, installed = some old → after = some old
  | (.ok (), after) => ∀ latest, steps.latest = .ok latest →
      isNewer currentVersion latest = true →
      ∃ extracted, steps.extracted = some extracted ∧ after = some ⟨extracted.content, true⟩

/-- The old file survives its removal. -/
def Removal.Spares : Removal → Prop
  | .removed | .denied true => False
  | .denied false | .failed => True

/-- The new file is copied in the end. -/
def CopyResult.Succeeds : CopyResult → Prop
  | .copied | .denied _ .copied => True
  | .denied _ (.notRun _) | .denied _ (.failed _) | .failed _ _ => False

/-- What was written last before the copy failed for good. -/
def CopyResult.lastWritten : CopyResult → Written
  | .copied => none
  | .denied written (.failed written') => written'.or written
  | .denied written _ | .failed _ written => written

/-- The old binary is there after a copy that failed: it was not removed and not written to, or what
was written is the old binary again. -/
def OldKept (steps : UpgradeSteps) (src old : Executable) : Prop :=
  match steps.copy.lastWritten with
  | none => steps.removal.Spares
  | some left => src.content.take left.length = old.content ∧ left.executable = old.executable

/-- The new binary can be executed after a copy that succeeded: `chmod` or `sudo chmod` has seen to
it, or the file could be executed anyway. That is up to the mode of the source, unless `sudo cp` has
written over a file. -/
def NewExecutable (steps : UpgradeSteps) (src : Executable) (installed : Option Executable) :
    Prop :=
  steps.setPermissions = true ∨ steps.sudoChmod = true ∨
    match steps.copy, installed with
    | .denied (some left) _, _ => left.executable = true
    | .denied none _, some old =>
      steps.removal.Spares ∧ old.executable = true ∨
        ¬ steps.removal.Spares ∧ src.executable = true
    | _, _ => src.executable = true

/-- An upgrade that gets to the copy has found the binary in the tarball. -/
theorem UpgradeSteps.extracted_of_prepare {steps : UpgradeSteps} {binaryName : String}
    {src : Executable} (h : steps.prepare binaryName = .ok src) : steps.extracted = some src := by
  unfold UpgradeSteps.prepare at h
  obtain ⟨target, -, h⟩ := exists_of_bind_eq_ok h
  obtain ⟨-, -, h⟩ := exists_of_bind_eq_ok h
  obtain ⟨downloaded, -, h⟩ := exists_of_bind_eq_ok h
  cases downloaded with
  | false => nomatch h
  | true =>
    obtain ⟨unpacked, -, h⟩ := exists_of_bind_eq_ok h
    cases unpacked with
    | false => nomatch h
    | true =>
      replace h : (match steps.extracted with
        | none => .error ("Binary not found in tarball: " ++ binaryName)
        | some extracted => do
          steps.installDir
          steps.createDir
          .ok extracted) = Except.ok src := h
      cases hbinary : steps.extracted with
      | none =>
        rw [hbinary] at h
        nomatch h
      | some extracted =>
        rw [hbinary] at h
        obtain ⟨-, -, h⟩ := exists_of_bind_eq_ok h
        obtain ⟨-, -, h⟩ := exists_of_bind_eq_ok h
        exact congrArg some (Except.ok.inj h)

/-- What is left of the old file is the file or nothing. -/
theorem Removal.apply_cases (removal : Removal) (installed : Option Executable) :
    removal.Spares ∧ removal.apply installed = installed ∨
      ¬ removal.Spares ∧ removal.apply installed = none := by
  rcases removal with _ | (_ | _) | _ <;> simp [Spares, apply]

/-- Of two copies that fail, the second one to write decides. -/
theorem Executable.copyFailed_copyFailed (src : Executable) (written written' : Written)
    (dst : Option Executable) :
    src.copyFailed written' (src.copyFailed written dst) =
      src.copyFailed (written'.or written) dst := by
  cases written' with
  | none => rfl
  | some left => rfl

/-- A copy that fails for good leaves what was written last. -/
theorem copyWithFallback_of_fails {steps : UpgradeSteps} (src : Executable)
    (installed : Option Executable) (h : ¬ steps.copy.Succeeds) :
    ∃ e, copyWithFallback steps src installed =
      (.error e, src.copyFailed steps.copy.lastWritten (steps.removal.apply installed)) := by
  unfold copyWithFallback
  generalize steps.copy = copy at h ⊢
  rcases copy with _ | ⟨written, _ | e | written'⟩ | ⟨e, written⟩
  · exact absurd trivial h
  · exact absurd trivial h
  · exact ⟨e, rfl⟩
  · have hlast := src.copyFailed_copyFailed written written' (steps.removal.apply installed)
    exact ⟨_, congrArg (Prod.mk _) hlast⟩
  · exact ⟨e, rfl⟩

/-- A copy that succeeds leaves the bytes of the new binary. -/
theorem copyWithFallback_of_succeeds {steps : UpgradeSteps} (src : Executable)
    (installed : Option Executable) (h : steps.copy.Succeeds) :
    ∃ mode, copyWithFallback steps src installed = (.ok (), some ⟨src.content, mode⟩) ∧
      (NewExecutable steps src installed ↔
        steps.setPermissions = true ∨ steps.sudoChmod = true ∨ mode = true) := by
  unfold copyWithFallback NewExecutable
  generalize steps.copy = copy at h ⊢
  rcases copy with _ | ⟨written, _ | e | written'⟩ | ⟨e, written⟩
  · exact ⟨src.executable, rfl, Iff.rfl⟩
  · refine ⟨_, rfl, or_congr_right (or_congr_right ?_)⟩
    cases written with
    | some left => exact Iff.rfl
    | none =>
      rcases steps.removal.apply_cases installed with ⟨hspares, happly⟩ | ⟨hspares, happly⟩
      · rw [happly]
        cases installed <;> simp [hspares, Executable.copyFailed, modeAfter]
      · rw [happly]
        cases installed <;> simp [hspares, Executable.copyFailed, modeAfter]
  · exact absurd h id
  · exact absurd h id
  · exact absurd h id

/-- Whether a failed copy leaves the old binary. -/
theorem oldKept_iff (steps : UpgradeSteps) (src old : Executable) :
    OldKept steps src old ↔
      src.copyFailed steps.copy.lastWritten (steps.removal.apply (some old)) = some old := by
  unfold OldKept
  generalize steps.copy.lastWritten = written
  cases written with
  | none =>
    rcases steps.removal.apply_cases (some old) with ⟨hspares, happly⟩ | ⟨hspares, happly⟩
    · exact iff_of_true hspares happly
    · exact iff_of_false hspares (by simp [Executable.copyFailed, happly])
  | some left =>
    obtain ⟨content, executable⟩ := old
    simp [Executable.copyFailed]

/-- An upgrade that gets to the copy ends as the copy does, and makes the new file executable. -/
theorem upgrade_of_prepare {binaryName currentVersion latest : String} {steps : UpgradeSteps}
    {src : Executable} (installed : Option Executable) (hlatest : steps.latest = .ok latest)
    (hnewer : isNewer currentVersion latest = true) (hsrc : steps.prepare binaryName = .ok src) :
    upgrade binaryName currentVersion steps installed =
      match copyWithFallback steps src installed with
      | (.error e, installed) => (.error e, installed)
      | (.ok (), installed) => (.ok (), installed.map (setExecutable steps)) := by
  simp only [upgrade, hlatest, hnewer, hsrc, Bool.not_true, Bool.false_eq_true, if_false]

/-- An upgrade that does not get to the copy leaves the install path as it was, and succeeds only if
there is nothing newer. -/
theorem upgrade_of_not_prepared {binaryName currentVersion : String} {steps : UpgradeSteps}
    (installed : Option Executable)
    (h : ∀ latest src, steps.latest = .ok latest → isNewer currentVersion latest = true →
      steps.prepare binaryName ≠ .ok src) :
    (∃ e, upgrade binaryName currentVersion steps installed = (.error e, installed)) ∨
      upgrade binaryName currentVersion steps installed = (.ok (), installed) ∧
        ∀ latest, steps.latest = .ok latest → isNewer currentVersion latest = false := by
  cases hlatest : steps.latest with
  | error e => exact .inl ⟨e, by simp only [upgrade, hlatest]⟩
  | ok latest =>
    cases hnewer : isNewer currentVersion latest with
    | false =>
      refine .inr ⟨by simp only [upgrade, hlatest, hnewer, Bool.not_false, if_true], ?_⟩
      intro latest' hlatest'
      rwa [← Except.ok.inj hlatest']
    | true =>
      cases hsrc : steps.prepare binaryName with
      | error e =>
        refine .inl ⟨e, ?_⟩
        simp only [upgrade, hlatest, hnewer, hsrc, Bool.not_true, Bool.false_eq_true, if_false]
      | ok src => exact absurd hsrc (h latest src hlatest hnewer)

/-- An upgrade that gets to the copy is all or nothing exactly if the copy leaves one of the two
binaries as it should. -/
theorem allOrNothing_of_prepared {binaryName currentVersion latest : String} {steps : UpgradeSteps}
    {src : Executable} (installed : Option Executable) (hlatest : steps.latest = .ok latest)
    (hnewer : isNewer currentVersion latest = true) (hsrc : steps.prepare binaryName = .ok src) :
    AllOrNothing binaryName currentVersion steps installed ↔
      (steps.copy.Succeeds → NewExecutable steps src installed) ∧
        (¬ steps.copy.Succeeds → ∀ old, installed = some old → OldKept steps src old) := by
  have hupgrade := upgrade_of_prepare installed hlatest hnewer hsrc
  by_cases hcopy : steps.copy.Succeeds
  · obtain ⟨mode, hresult, hexecutable⟩ := copyWithFallback_of_succeeds src installed hcopy
    rw [hresult] at hupgrade
    have hmode : setExecutable steps ⟨src.content, mode⟩ = ⟨src.content, true⟩ ↔
        steps.setPermissions = true ∨ steps.sudoChmod = true ∨ mode = true := by
      unfold setExecutable
      cases steps.setPermissions <;> cases steps.sudoChmod <;> simp
    have hextracted := UpgradeSteps.extracted_of_prepare hsrc
    simp only [AllOrNothing, hupgrade, hcopy, hexecutable, ← hmode, hextracted, hlatest]
    constructor
    · intro h
      obtain ⟨extracted, hsome, hfile⟩ := h latest rfl hnewer
      obtain rfl : src = extracted := Option.some.inj hsome
      exact ⟨fun _ => Option.some.inj hfile, fun hnot => absurd trivial hnot⟩
    · intro h latest' _ _
      exact ⟨src, rfl, congrArg some (h.1 trivial)⟩
  · obtain ⟨e, hresult⟩ := copyWithFallback_of_fails src installed hcopy
    rw [hresult] at hupgrade
    simp only [AllOrNothing, hupgrade, hcopy, oldKept_iff]
    constructor
    · rintro h
      refine ⟨False.elim, fun _ old hold => ?_⟩
      rw [← hold]
      exact hold ▸ h old hold
    · intro h old hold
      rw [hold]
      exact h.2 not_false old hold

/-- The upgrade is all or nothing exactly if it does not get to the copy, or the copy leaves the new
binary executable, or a failed copy leaves the old one. -/
theorem all_or_nothing_iff (binaryName currentVersion : String) (steps : UpgradeSteps)
    (installed : Option Executable) :
    AllOrNothing binaryName currentVersion steps installed ↔
      ∀ latest src, steps.latest = .ok latest → isNewer currentVersion latest = true →
        steps.prepare binaryName = .ok src →
          (steps.copy.Succeeds → NewExecutable steps src installed) ∧
            (¬ steps.copy.Succeeds → ∀ old, installed = some old → OldKept steps src old) := by
  constructor
  · intro h latest src hlatest hnewer hsrc
    exact (allOrNothing_of_prepared installed hlatest hnewer hsrc).mp h
  · intro h
    by_cases hprepared : ∃ latest src, steps.latest = .ok latest ∧
        isNewer currentVersion latest = true ∧ steps.prepare binaryName = .ok src
    · obtain ⟨latest, src, hlatest, hnewer, hsrc⟩ := hprepared
      have hcopied := h latest src hlatest hnewer hsrc
      exact (allOrNothing_of_prepared installed hlatest hnewer hsrc).mpr hcopied
    · have hnot : ∀ latest src, steps.latest = .ok latest → isNewer currentVersion latest = true →
          steps.prepare binaryName ≠ .ok src := fun latest src hlatest hnewer hsrc =>
        hprepared ⟨latest, src, hlatest, hnewer, hsrc⟩
      rcases upgrade_of_not_prepared installed hnot with ⟨e, hresult⟩ | ⟨hresult, hold⟩
      · simp only [AllOrNothing, hresult]
        exact fun old hinstalled => hinstalled
      · simp only [AllOrNothing, hresult]
        intro latest hlatest hnewer
        rw [hold latest hlatest] at hnewer
        exact absurd hnewer Bool.false_ne_true

/-- The disk is full: the old binary is removed, and two bytes of the new one are written. -/
def diskFull : UpgradeSteps where
  latest := .ok "v0.5.0"
  os := "linux"
  arch := "x86_64"
  tempdir := .ok ()
  curl := .ok true
  tar := .ok true
  extracted := some ⟨[1, 2, 3, 4], true⟩
  installDir := .ok ()
  createDir := .ok ()
  removal := .removed
  copy := .failed "No space left on device (os error 28)" (some ⟨2, true⟩)
  setPermissions := true
  sudoChmod := true

/-- The upgrade fails on a full disk, and the old binary is gone. -/
theorem full_disk_loses_binary :
    ¬ AllOrNothing "zo-tunnel-client" "0.4.1" diskFull (some ⟨[7, 7], true⟩) := by
  have hresult : upgrade "zo-tunnel-client" "0.4.1" diskFull (some ⟨[7, 7], true⟩) =
      (.error "No space left on device (os error 28)", some ⟨[1, 2], true⟩) := by
    decide +kernel
  simp only [AllOrNothing, hresult]
  exact fun h => absurd (h _ rfl) (by decide)

end ZoTunnel
