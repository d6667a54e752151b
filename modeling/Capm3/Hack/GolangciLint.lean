import Mathlib.Data.List.Basic

/-!
# The golangci-lint installer

The repository's helper script that downloads the pinned golangci-lint release, checks the
archive's sha256 against the pin for the host's kernel (`wget_and_verify`), and moves the binary
into `CAPM3_DIR/<bin_dir>` (`download_and_install_golangci_lint`).  The script runs under
`set -eux`: a command that fails ends it with that command's status (`command`), an assignment
from a command substitution has the status of the last command of its pipeline (`dirname` for
`CAPM3_DIR`, `tr` for `KERNEL_OS`, `sed` for `ARCH`, `awk` for the checksum), a failed
`echo >&2` ends it too (`echoStderr`), and reading an unset variable ends it with status 1.  The
host's answers (`uname`, `mktemp`, each command's status, the digest of what a URL serves) are a
parameter (`Host`).  Each function of the script has one lemma that says all it can do
(`wgetAndVerify_cases`, `downloadAndInstallGolangciLint_cases`, `golangciLintScript_cases`); the
results below are drawn from those.

Results:

* `golangciLintScript_exit_eq_zero_iff`: the script succeeds exactly when every command succeeds,
  the kernel is one the script pins, and the archive matches its pin or
  `INSECURE_SKIP_DOWNLOAD_VERIFICATION` is `true` and the warning is written (`Installs`);
* `golangciLintScript_installs_only_verified`: nothing is moved into `bin_dir` from an archive
  that failed verification, and a skipped verification always leaves its warning;
* `golangciLintScript_of_unset_skip`: with the variable unset, a mismatch ends in bash's
  unbound-variable error, so the only line the script writes is the unsupported-kernel error;
* `golangciLintScript_at_most_one_arch`: the pin depends on the kernel only, so on one kernel and
  one release server at most one architecture's archive passes verification.
-/

namespace Capm3.Hack

/-- The commands of the script whose exit status decides whether it goes on. -/
inductive Command
  | dirname
  | mktemp
  | pushd (dir : String)
  | tr
  | sed
  | wget (url target : String)
  | awk
  | echo (line : String)
  | tar (archive : String)
  | rm (file : String)
  | mkdir (dir : String)
  | mv (source target : String)
  deriving DecidableEq

/-- What the script does that is seen from outside: a command it runs, a line it writes to
stderr, or bash's error for a parameter that is unset (`set -u`) or null (`${p:?word}`). -/
inductive Action
  | exec (command : Command)
  | stderr (line : String)
  | unboundVariable (name : String)
  | parameterNullOrUnset (parameter word : String)
  deriving DecidableEq

/-- The host the script runs on. -/
structure Host where
  /-- `dirname "$(readlink -f "$0")"` -/
  scriptDir : String
  /-- `uname` -/
  kernelName : String
  /-- `uname -m`, one line -/
  machine : String
  /-- what `mktemp -d` prints -/
  tmpDir : String
  /-- the exit status of each command, 0 on success -/
  status : Command → Nat
  /-- the digest `sha256sum` prints for what `wget` saves from a URL -/
  sha256 : String → String
  /-- `INSECURE_SKIP_DOWNLOAD_VERIFICATION`, `none` when unset -/
  insecureSkipDownloadVerification : Option String
  deriving Inhabited

/-- How the script ends: what it did, in order, and its exit status. -/
structure ScriptRun where
  actions : List Action
  exit : Nat
  deriving DecidableEq

/-- `actions` happen, then `next`. -/
def ScriptRun.after (actions : List Action) (next : ScriptRun) : ScriptRun :=
  ⟨actions ++ next.actions, next.exit⟩

/-- A command under `set -e`: a non-zero status ends the script with that status. -/
def command (host : Host) (cmd : Command) (next : ScriptRun) : ScriptRun :=
  if host.status cmd = 0 then next.after [.exec cmd] else ⟨[.exec cmd], host.status cmd⟩

/-- `echo >&2 line` under `set -e`: the line is written, or the write fails and ends the script
with the status of `echo`. -/
def echoStderr (host : Host) (line : String) (next : ScriptRun) : ScriptRun :=
  if host.status (.echo line) = 0 then next.after [.stderr line]
  else ⟨[], host.status (.echo line)⟩

/-! ## The platform -/

/-- `sed -e 's/x86_64/amd64/'`: the first occurrence of `pattern` becomes `replacement`. -/
def replaceFirst (pattern replacement : List Char) : List Char → List Char
  | [] => []
  | c :: cs =>
    if pattern.isPrefixOf (c :: cs) then replacement ++ (c :: cs).drop pattern.length
    else c :: replaceFirst pattern replacement cs

/-- `sed -e 's/\(arm\)\(64\)\?.*/\1\2/'`: the line is cut after its first `arm`, or after the
`64` that follows it. -/
def cutAfterArm : List Char → List Char
  | [] => []
  | c :: cs =>
    if "arm".toList.isPrefixOf (c :: cs) then
      "arm".toList ++ if "64".toList.isPrefixOf (cs.drop 2) then "64".toList else []
    else c :: cutAfterArm cs

/-- `sed -e 's/aarch64$/arm64/'`. -/
def replaceAarch64Suffix (cs : List Char) : List Char :=
  if "aarch64".toList.isSuffixOf cs then cs.take (cs.length - 7) ++ "arm64".toList else cs

/-- `KERNEL_OS`: `uname` through `tr '[:upper:]' '[:lower:]'`. -/
def kernelOS (host : Host) : String :=
  ⟨host.kernelName.toList.map Char.toLower⟩

/-- `ARCH`: `uname -m` through the script's three `sed` expressions, in order. -/
def arch (host : Host) : String :=
  ⟨replaceAarch64Suffix (cutAfterArm (replaceFirst "x86_64".toList "amd64".toList
    host.machine.toList))⟩

example : arch { (default : Host) with machine := "x86_64" } = "amd64" := by decide
example : arch { (default : Host) with machine := "aarch64" } = "arm64" := by decide
example : arch { (default : Host) with machine := "armv7l" } = "arm" := by decide

/-! ## The pinned release -/

/-- `GOLANGCI_LINT`. -/
def golangciLint : String := "golangci-lint"

/-- `GOLANGCI_VERSION`. -/
def golangciVersion : String := "1.54.2"

/-- The `case` on `KERNEL_OS`: the pinned `GOLANGCI_SHA256`, `none` for a kernel the script
refuses. -/
def golangciSha256 : String → Option String
  | "darwin" => some "7b33fb1be2f26b7e3d1f3c10ce9b2b5ce6d13bb1d8468a4b2ba794f05b4445e1"
  | "linux" => some "a9f14b33473c65fcfbf411ec054b53a87dbb849f4e09ee438f1ee76dbf3f3d4e"
  | _ => none

/-- `GOLANGCI_URL`. -/
def golangciUrl (kernelOS arch : String) : String :=
  "https://github.com/golangci/golangci-lint/releases/download/v" ++ golangciVersion ++ "/" ++
    golangciLint ++ "-" ++ golangciVersion ++ "-" ++ kernelOS ++ "-" ++ arch ++ ".tar.gz"

/-- The archive `wget` writes, `"${GOLANGCI_LINT}".tar.gz`. -/
def archive : String := golangciLint ++ ".tar.gz"

/-- `CAPM3_DIR`. -/
def capm3Dir (host : Host) : String := host.scriptDir ++ "/.."

/-! ## The script -/

/-- The line `wget_and_verify` writes when the digest differs from the expected one. -/
def checksumMessage (level url checksum sha256 : String) : String :=
  level ++ ": " ++ url ++ " binary checksum '" ++ checksum ++
    "' differs from expected checksum '" ++ sha256 ++ "'"

/-- `wget_and_verify url sha256 target`, then what follows its call. -/
def wgetAndVerify (host : Host) (url sha256 target : String) (next : ScriptRun) : ScriptRun :=
  if url = "" then ⟨[.parameterNullOrUnset "1" "url missing"], 1⟩
  else if sha256 = "" then ⟨[.parameterNullOrUnset "2" "sha256 missing"], 1⟩
  else if target = "" then ⟨[.parameterNullOrUnset "3" "target missing"], 1⟩
  else
    command host (.wget url target) <|
    command host .awk <|
      let checksum := host.sha256 url
      if checksum ≠ sha256 then
        match host.insecureSkipDownloadVerification with
        | none => ⟨[.unboundVariable "INSECURE_SKIP_DOWNLOAD_VERIFICATION"], 1⟩
        | some skip =>
          if skip = "true" then
            echoStderr host (checksumMessage "warning" url checksum sha256) next
          else echoStderr host (checksumMessage "fatal" url checksum sha256) ⟨[], 1⟩
      else next

/-- `"${CAPM3_DIR}/${bin_dir}"`, where the binary goes. -/
def binPath (host : Host) (binDir : String) : String := capm3Dir host ++ "/" ++ binDir

/-- `"${GOLANGCI_LINT}-${GOLANGCI_VERSION}-${KERNEL_OS}-${ARCH}/${GOLANGCI_LINT}"`, the binary
in the extracted archive. -/
def extractedBinary (host : Host) : String :=
  golangciLint ++ "-" ++ golangciVersion ++ "-" ++ kernelOS host ++ "-" ++ arch host ++ "/" ++
    golangciLint

/-- The end of `download_and_install_golangci_lint`, after `wget_and_verify`: unpack the
archive and move the binary into `bin_dir`. -/
def installBinary (host : Host) (binDir : String) : ScriptRun :=
  command host (.tar archive) <|
  command host (.rm archive) <|
  command host (.mkdir (binPath host binDir)) <|
  command host (.mv (extractedBinary host) (binPath host binDir ++ "/")) ⟨[], 0⟩

/-- The line written for a kernel the script has no pin for. -/
def unsupportedMessage (kernelOS : String) : String :=
  "error:" ++ kernelOS ++ " not supported. Please obtain the binary and calculate sha256 manually."

/-- `download_and_install_golangci_lint` from its `case` on `KERNEL_OS` on: the pin, the
download and its verification, and the installation. -/
def installPinned (host : Host) (binDir : String) : ScriptRun :=
  match golangciSha256 (kernelOS host) with
  | none => echoStderr host (unsupportedMessage (kernelOS host)) ⟨[], 1⟩
  | some sha256 =>
    wgetAndVerify host (golangciUrl (kernelOS host) (arch host)) sha256 archive <|
    installBinary host binDir

/-- `download_and_install_golangci_lint bin_dir`. -/
def downloadAndInstallGolangciLint (host : Host) (binDir : String) : ScriptRun :=
  if binDir = "" then ⟨[.parameterNullOrUnset "1" "Binary path missing"], 1⟩
  else
    command host .mktemp <|
    if host.status (.pushd host.tmpDir) ≠ 0 then ⟨[.exec (.pushd host.tmpDir)], 1⟩
    else
      ScriptRun.after [.exec (.pushd host.tmpDir)] <|
      command host .tr <|
      command host .sed <|
      installPinned host binDir

/-- The script: `CAPM3_DIR` is set, then `download_and_install_golangci_lint "$1"`. -/
def golangciLintScript (host : Host) (args : List String) : ScriptRun :=
  command host .dirname <|
  match args with
  | [] => ⟨[.unboundVariable "$1"], 1⟩
  | binDir :: _ => downloadAndInstallGolangciLint host binDir

/-! ## One lemma per step -/

section Steps

variable {host : Host} {cmd : Command} {next : ScriptRun} {line : String}

@[simp] theorem ScriptRun.after_actions (actions : List Action) :
    (next.after actions).actions = actions ++ next.actions :=
  rfl

@[simp] theorem ScriptRun.after_exit (actions : List Action) :
    (next.after actions).exit = next.exit :=
  rfl

@[simp] theorem ScriptRun.after_after (first second : List Action) :
    (next.after second).after first = next.after (first ++ second) := by
  simp [ScriptRun.after]

theorem command_of_ok (h : host.status cmd = 0) : command host cmd next = next.after [.exec cmd] :=
  if_pos h

theorem command_of_failure (h : host.status cmd ≠ 0) :
    command host cmd next = ⟨[.exec cmd], host.status cmd⟩ :=
  if_neg h

theorem exit_command :
    (command host cmd next).exit = 0 ↔ host.status cmd = 0 ∧ next.exit = 0 := by
  by_cases h : host.status cmd = 0
  · simp [command_of_ok h, h]
  · simp [command_of_failure h, h]

theorem echoStderr_of_ok (h : host.status (.echo line) = 0) :
    echoStderr host line next = next.after [.stderr line] :=
  if_pos h

theorem exit_echoStderr :
    (echoStderr host line next).exit = 0 ↔ host.status (.echo line) = 0 ∧ next.exit = 0 := by
  by_cases h : host.status (.echo line) = 0
  · simp [echoStderr_of_ok h, h]
  · simp [echoStderr, h]

/-- A write to stderr runs no command. -/
theorem mem_echoStderr {a : Action} (h : a ∈ (echoStderr host line next).actions) :
    a = .stderr line ∨ a ∈ next.actions := by
  unfold echoStderr at h
  split at h
  · simpa using h
  · simp at h

/-- `wget_and_verify` lets the script go on after downloading `url`: the archive's digest is the
expected one, or the check is skipped and the warning is written. -/
def Passes (host : Host) (url sha256 : String) : Prop :=
  host.sha256 url = sha256 ∨
    host.insecureSkipDownloadVerification = some "true" ∧
      host.status (.echo (checksumMessage "warning" url (host.sha256 url) sha256)) = 0

instance (url sha256 : String) : Decidable (Passes host url sha256) :=
  inferInstanceAs (Decidable (_ ∨ _ ∧ _))

/-- What `wget_and_verify` leaves when the script goes on: the download, the checksum, and the
warning when the digest differs. -/
def verifiedActions (host : Host) (url sha256 target : String) : List Action :=
  .exec (.wget url target) :: .exec .awk ::
    if host.sha256 url = sha256 then [] else
      [.stderr (checksumMessage "warning" url (host.sha256 url) sha256)]

/-- Everything `wget_and_verify` can do: go on after a download that passes, or stop with a
non-zero status having run no command but the download and the checksum. -/
theorem wgetAndVerify_cases (url sha256 target : String) :
    (url ≠ "" ∧ sha256 ≠ "" ∧ target ≠ "" ∧ host.status (.wget url target) = 0 ∧
        host.status .awk = 0 ∧ Passes host url sha256 ∧
        wgetAndVerify host url sha256 target next =
          next.after (verifiedActions host url sha256 target)) ∨
      ∃ stop : ScriptRun, wgetAndVerify host url sha256 target next = stop ∧ stop.exit ≠ 0 ∧
        ∀ c, .exec c ∈ stop.actions → c = .wget url target ∨ c = .awk := by
  unfold wgetAndVerify
  by_cases hu : url = ""
  · exact .inr ⟨_, if_pos hu, by simp⟩
  by_cases hs : sha256 = ""
  · exact .inr ⟨_, (if_neg hu).trans (if_pos hs), by simp⟩
  by_cases ht : target = ""
  · exact .inr ⟨_, (if_neg hu).trans ((if_neg hs).trans (if_pos ht)), by simp⟩
  rw [if_neg hu, if_neg hs, if_neg ht]
  by_cases hw : host.status (.wget url target) = 0
  swap
  · exact .inr ⟨_, command_of_failure hw, hw, by simp⟩
  rw [command_of_ok hw]
  by_cases ha : host.status .awk = 0
  swap
  · exact .inr ⟨_, by rw [command_of_failure ha], ha, by simp [ScriptRun.after]⟩
  rw [command_of_ok ha, ScriptRun.after_after]
  by_cases hd : host.sha256 url = sha256
  · exact .inl ⟨hu, hs, ht, hw, ha, .inl hd, by simp [hd, verifiedActions]⟩
  simp only [hd, ne_eq, not_false_eq_true, if_true]
  rcases hskip : host.insecureSkipDownloadVerification with _ | skip
  · exact .inr ⟨_, rfl, by simp, by simp [ScriptRun.after]⟩
  by_cases htrue : skip = "true"
  · subst htrue
    by_cases he : host.status (.echo (checksumMessage "warning" url (host.sha256 url) sha256)) = 0
    · exact .inl ⟨hu, hs, ht, hw, ha, .inr ⟨hskip, he⟩, by simp [echoStderr_of_ok he, hd,
        verifiedActions]⟩
    · exact .inr ⟨_, rfl, by simp [echoStderr, he, ScriptRun.after], by
        simp [echoStderr, he, ScriptRun.after]⟩
  · refine .inr ⟨_, rfl, ?_, fun c mem => ?_⟩
    · simp only [htrue, if_false, ScriptRun.after_exit]
      by_cases he : host.status (.echo (checksumMessage "fatal" url (host.sha256 url) sha256)) = 0
      · simp [echoStderr_of_ok he]
      · simp [echoStderr, he]
    · simp only [htrue, if_false, ScriptRun.after_actions, List.mem_append] at mem
      rcases mem with h | h
      · simpa using h
      · rcases mem_echoStderr h with h | h <;> simp at h

theorem wgetAndVerify_of_passes {url sha256 target : String} (hu : url ≠ "") (hs : sha256 ≠ "")
    (ht : target ≠ "") (hw : host.status (.wget url target) = 0) (ha : host.status .awk = 0)
    (hp : Passes host url sha256) :
    wgetAndVerify host url sha256 target next =
      next.after (verifiedActions host url sha256 target) := by
  by_cases hd : host.sha256 url = sha256
  · simp [wgetAndVerify, hu, hs, ht, command_of_ok hw, command_of_ok ha, hd, verifiedActions]
  · obtain ⟨hskip, he⟩ := hp.resolve_left hd
    simp [wgetAndVerify, hu, hs, ht, command_of_ok hw, command_of_ok ha, hd, hskip,
      echoStderr_of_ok he, verifiedActions]

theorem exit_wgetAndVerify (url sha256 target : String) :
    (wgetAndVerify host url sha256 target next).exit = 0 ↔
      url ≠ "" ∧ sha256 ≠ "" ∧ target ≠ "" ∧ host.status (.wget url target) = 0 ∧
        host.status .awk = 0 ∧ Passes host url sha256 ∧ next.exit = 0 := by
  refine ⟨fun h0 => ?_, fun ⟨hu, hs, ht, hw, ha, hp, h0⟩ => by
    simpa [wgetAndVerify_of_passes hu hs ht hw ha hp] using h0⟩
  rcases @wgetAndVerify_cases host next url sha256 target with
    ⟨hu, hs, ht, hw, ha, hp, h⟩ | ⟨stop, h, hstop, -⟩
  · rw [h, ScriptRun.after_exit] at h0
    exact ⟨hu, hs, ht, hw, ha, hp, h0⟩
  · exact absurd (h ▸ h0) hstop

end Steps

/-! ## The whole script -/

/-- The script installs the linter into `bin_dir`: every command succeeds, the kernel has a pin,
and the downloaded archive passes verification against it. -/
structure Installs (host : Host) (binDir : String) : Prop where
  dirname : host.status .dirname = 0
  binDir_ne : binDir ≠ ""
  mktemp : host.status .mktemp = 0
  pushd : host.status (.pushd host.tmpDir) = 0
  tr : host.status .tr = 0
  sed : host.status .sed = 0
  wget : host.status (.wget (golangciUrl (kernelOS host) (arch host)) archive) = 0
  awk : host.status .awk = 0
  pinned : ∃ sha256, golangciSha256 (kernelOS host) = some sha256 ∧
    Passes host (golangciUrl (kernelOS host) (arch host)) sha256
  tar : host.status (.tar archive) = 0
  rm : host.status (.rm archive) = 0
  mkdir : host.status (.mkdir (binPath host binDir)) = 0
  mv : host.status (.mv (extractedBinary host) (binPath host binDir ++ "/")) = 0

theorem golangciUrl_ne_empty (kernelOS arch : String) : golangciUrl kernelOS arch ≠ "" := by
  intro h
  have := congrArg String.length h
  simp [golangciUrl] at this
  exact absurd this.2 (by decide)

theorem ne_empty_of_golangciSha256 {kernelOS sha256 : String}
    (h : golangciSha256 kernelOS = some sha256) : sha256 ≠ "" := by
  unfold golangciSha256 at h
  split at h <;> cases h <;> decide

theorem archive_ne_empty : archive ≠ "" := by
  decide

/-- Everything `download_and_install_golangci_lint` can do before `wget_and_verify`: reach the
download with the kernel's pin, or stop with a non-zero status, for want of `bin_dir`, of
`mktemp`, `pushd`, `tr`, `sed` or a pin, having done nothing but those steps. -/
theorem downloadAndInstallGolangciLint_cases (host : Host) (binDir : String) :
    (∃ sha256, golangciSha256 (kernelOS host) = some sha256 ∧ binDir ≠ "" ∧
        host.status .mktemp = 0 ∧ host.status (.pushd host.tmpDir) = 0 ∧
        host.status .tr = 0 ∧ host.status .sed = 0 ∧
        downloadAndInstallGolangciLint host binDir =
          (wgetAndVerify host (golangciUrl (kernelOS host) (arch host)) sha256 archive
            (installBinary host binDir)).after
            [.exec .mktemp, .exec (.pushd host.tmpDir), .exec .tr, .exec .sed]) ∨
      (binDir = "" ∨ host.status .mktemp ≠ 0 ∨ host.status (.pushd host.tmpDir) ≠ 0 ∨
          host.status .tr ≠ 0 ∨ host.status .sed ≠ 0 ∨ golangciSha256 (kernelOS host) = none) ∧
        (downloadAndInstallGolangciLint host binDir).exit ≠ 0 ∧
        ∀ a ∈ (downloadAndInstallGolangciLint host binDir).actions,
          a = .parameterNullOrUnset "1" "Binary path missing" ∨ a = .exec .mktemp ∨
            a = .exec (.pushd host.tmpDir) ∨ a = .exec .tr ∨ a = .exec .sed ∨
            a = .stderr (unsupportedMessage (kernelOS host)) := by
  unfold downloadAndInstallGolangciLint
  by_cases hb : binDir = ""
  · exact .inr ⟨.inl hb, by simp [hb]⟩
  rw [if_neg hb]
  by_cases hm : host.status .mktemp = 0
  swap
  · exact .inr ⟨.inr (.inl hm), by simp [command_of_failure hm, hm]⟩
  rw [command_of_ok hm]
  by_cases hp : host.status (.pushd host.tmpDir) = 0
  swap
  · exact .inr ⟨.inr (.inr (.inl hp)), by simp [hp]⟩
  rw [if_neg (not_not.2 hp)]
  by_cases ht : host.status .tr = 0
  swap
  · exact .inr ⟨.inr (.inr (.inr (.inl ht))), by simp [command_of_failure ht, ht]⟩
  rw [command_of_ok ht]
  by_cases hs : host.status .sed = 0
  swap
  · exact .inr ⟨.inr (.inr (.inr (.inr (.inl hs)))), by simp [command_of_failure hs, hs]⟩
  rw [command_of_ok hs, ScriptRun.after_after, ScriptRun.after_after, ScriptRun.after_after]
  unfold installPinned
  rcases golangciSha256 (kernelOS host) with _ | sha256
  · refine .inr ⟨.inr (.inr (.inr (.inr (.inr rfl)))), fun h0 => ?_, fun a mem => ?_⟩
    · exact absurd (exit_echoStderr.1 h0).2 (by decide)
    · simp only [ScriptRun.after_actions, List.cons_append, List.nil_append, List.mem_cons] at mem
      rcases mem with h | h | h | h | h
      · exact .inr (.inl h)
      · exact .inr (.inr (.inl h))
      · exact .inr (.inr (.inr (.inl h)))
      · exact .inr (.inr (.inr (.inr (.inl h))))
      · rcases mem_echoStderr h with h | h
        · exact .inr (.inr (.inr (.inr (.inr h))))
        · cases h
  · exact .inl ⟨sha256, rfl, hb, hm, hp, ht, hs, rfl⟩

theorem exit_installBinary (host : Host) (binDir : String) :
    (installBinary host binDir).exit = 0 ↔
      host.status (.tar archive) = 0 ∧ host.status (.rm archive) = 0 ∧
        host.status (.mkdir (binPath host binDir)) = 0 ∧
        host.status (.mv (extractedBinary host) (binPath host binDir ++ "/")) = 0 := by
  simp [installBinary, exit_command]

/-- Once `CAPM3_DIR` is set, `download_and_install_golangci_lint` succeeds exactly when the
script installs the linter. -/
theorem exit_downloadAndInstallGolangciLint (host : Host) (binDir : String)
    (dirname : host.status .dirname = 0) :
    (downloadAndInstallGolangciLint host binDir).exit = 0 ↔ Installs host binDir := by
  rcases downloadAndInstallGolangciLint_cases host binDir with
    ⟨sha256, pin, hb, hm, hp, ht, hs, h⟩ | ⟨stopped, hstop, -⟩
  · rw [h, ScriptRun.after_exit, exit_wgetAndVerify, exit_installBinary]
    constructor
    · rintro ⟨-, -, -, hw, ha, passes, tar, rm, mkdir, mv⟩
      exact ⟨dirname, hb, hm, hp, ht, hs, hw, ha, ⟨sha256, pin, passes⟩, tar, rm, mkdir, mv⟩
    · intro installs
      obtain ⟨sha, pin', passes⟩ := installs.pinned
      obtain rfl : sha = sha256 := Option.some_inj.1 (pin'.symm.trans pin)
      exact ⟨golangciUrl_ne_empty _ _, ne_empty_of_golangciSha256 pin, archive_ne_empty,
        installs.wget, installs.awk, passes, installs.tar, installs.rm, installs.mkdir,
        installs.mv⟩
  · refine iff_of_false hstop fun installs => ?_
    rcases stopped with h | h | h | h | h | h
    · exact installs.binDir_ne h
    · exact h installs.mktemp
    · exact h installs.pushd
    · exact h installs.tr
    · exact h installs.sed
    · obtain ⟨_, pin, _⟩ := installs.pinned
      simp [h] at pin

/-- Everything the script can do: run `download_and_install_golangci_lint` on its first argument
once `CAPM3_DIR` is set, or stop with a non-zero status for want of `dirname` or of `$1`. -/
theorem golangciLintScript_cases (host : Host) (args : List String) :
    (∃ binDir rest, args = binDir :: rest ∧ host.status .dirname = 0 ∧
        golangciLintScript host args =
          (downloadAndInstallGolangciLint host binDir).after [.exec .dirname]) ∨
      (host.status .dirname ≠ 0 ∨ args = []) ∧ (golangciLintScript host args).exit ≠ 0 ∧
        ∀ a ∈ (golangciLintScript host args).actions,
          a = .exec .dirname ∨ a = .unboundVariable "$1" := by
  unfold golangciLintScript
  by_cases hd : host.status .dirname = 0
  · rw [command_of_ok hd]
    rcases args with _ | ⟨binDir, rest⟩
    · exact .inr ⟨.inr rfl, by simp [ScriptRun.after]⟩
    · exact .inl ⟨binDir, rest, rfl, hd, rfl⟩
  · exact .inr ⟨.inl hd, by simp [command_of_failure hd, hd]⟩

/-- A successful run passed verification with the kernel's pin as the expected digest. -/
theorem golangciSha256_of_exit_eq_zero {host : Host} {args : List String}
    (ok : (golangciLintScript host args).exit = 0)
    (checked : host.insecureSkipDownloadVerification ≠ some "true") :
    golangciSha256 (kernelOS host) =
      some (host.sha256 (golangciUrl (kernelOS host) (arch host))) := by
  rcases golangciLintScript_cases host args with ⟨binDir, -, -, hd, h⟩ | ⟨-, stopped, -⟩
  · rw [h, ScriptRun.after_exit] at ok
    obtain ⟨sha256, pin, passes⟩ :=
      ((exit_downloadAndInstallGolangciLint host binDir hd).1 ok).pinned
    rwa [passes.resolve_right fun ⟨skip, _⟩ => checked skip]
  · exact absurd ok stopped

theorem passes_of_mem_wgetAndVerify {host : Host} {url sha256 target : String} {next : ScriptRun}
    {c : Command} (h : Action.exec c ∈ (wgetAndVerify host url sha256 target next).actions)
    (hw : c ≠ .wget url target) (ha : c ≠ .awk) :
    Passes host url sha256 ∧ (wgetAndVerify host url sha256 target next).actions =
      verifiedActions host url sha256 target ++ next.actions := by
  rcases @wgetAndVerify_cases host next url sha256 target with
    ⟨-, -, -, -, -, hp, heq⟩ | ⟨stop, heq, -, hexec⟩
  · exact ⟨hp, by rw [heq, ScriptRun.after_actions]⟩
  · rcases hexec c (heq ▸ h) with h | h
    · exact absurd h hw
    · exact absurd h ha

/-- Whether the script succeeds: every command succeeds, the kernel has a pin, and the archive
passes verification against it. -/
theorem golangciLintScript_exit_eq_zero_iff (host : Host) (args : List String) :
    (golangciLintScript host args).exit = 0 ↔
      ∃ binDir, args.head? = some binDir ∧ Installs host binDir := by
  rcases golangciLintScript_cases host args with ⟨binDir, rest, rfl, hd, h⟩ | ⟨stopped, hstop, -⟩
  · rw [h, ScriptRun.after_exit, exit_downloadAndInstallGolangciLint host binDir hd]
    simp
  · refine iff_of_false hstop fun ⟨binDir, head, installs⟩ => ?_
    rcases stopped with h | rfl
    · exact h installs.dirname
    · cases head

/-- A linux/amd64 host on which every command succeeds, with `INSECURE_SKIP_DOWNLOAD_VERIFICATION`
unset, behind a release server that serves the pinned archive for linux/amd64 and archives of
another digest for the other platforms. -/
def linuxAmd64 : Host where
  scriptDir := "/capm3/hack"
  kernelName := "Linux"
  machine := "x86_64"
  tmpDir := "/tmp/tmp.golangci"
  status := fun _ => 0
  sha256 := fun url =>
    if url = golangciUrl "linux" "amd64" then
      "a9f14b33473c65fcfbf411ec054b53a87dbb849f4e09ee438f1ee76dbf3f3d4e"
    else "0000000000000000000000000000000000000000000000000000000000000000"
  insecureSkipDownloadVerification := none

/-- Nothing is moved into `bin_dir` from an archive that failed verification: a run that moves
anything found the kernel's pin, and the archive's digest matched it, or
`INSECURE_SKIP_DOWNLOAD_VERIFICATION` was `true` and the mismatch was reported. -/
theorem golangciLintScript_installs_only_verified (host : Host) (args : List String)
    (source target : String)
    (moved : Action.exec (.mv source target) ∈ (golangciLintScript host args).actions) :
    ∃ sha256, golangciSha256 (kernelOS host) = some sha256 ∧
      (host.sha256 (golangciUrl (kernelOS host) (arch host)) = sha256 ∨
        host.insecureSkipDownloadVerification = some "true" ∧
          Action.stderr (checksumMessage "warning" (golangciUrl (kernelOS host) (arch host))
              (host.sha256 (golangciUrl (kernelOS host) (arch host))) sha256) ∈
            (golangciLintScript host args).actions) := by
  rcases golangciLintScript_cases host args with ⟨binDir, -, -, -, h⟩ | ⟨-, -, only⟩
  swap
  · rcases only _ moved with h | h <;> cases h
  rw [h] at moved ⊢
  rcases downloadAndInstallGolangciLint_cases host binDir with
    ⟨sha256, pin, -, -, -, -, -, h⟩ | ⟨-, -, only⟩
  · rw [h, ScriptRun.after_after] at moved ⊢
    rw [ScriptRun.after_actions] at moved ⊢
    rcases List.mem_append.1 moved with early | moved
    · simp at early
    obtain ⟨passes, actions⟩ := passes_of_mem_wgetAndVerify moved (by simp) (by simp)
    refine ⟨sha256, pin, ?_⟩
    by_cases hd : host.sha256 (golangciUrl (kernelOS host) (arch host)) = sha256
    · exact .inl hd
    · exact .inr ⟨(passes.resolve_left hd).1,
        List.mem_append_right _ (by simp [actions, verifiedActions, hd])⟩
  · rw [ScriptRun.after_actions] at moved
    rcases List.mem_append.1 moved with early | moved
    · simp at early
    rcases only _ moved with h | h | h | h | h | h <;> cases h

theorem golangciLintScript_linuxAmd64_moves :
    Action.exec (.mv (extractedBinary linuxAmd64) (binPath linuxAmd64 "hack/tools/bin" ++ "/")) ∈
        (golangciLintScript linuxAmd64 ["hack/tools/bin"]).actions ∧
      ∃ sha256, golangciSha256 (kernelOS linuxAmd64) = some sha256 ∧
        (linuxAmd64.sha256 (golangciUrl (kernelOS linuxAmd64) (arch linuxAmd64)) = sha256 ∨
          linuxAmd64.insecureSkipDownloadVerification = some "true" ∧
            Action.stderr (checksumMessage "warning"
                (golangciUrl (kernelOS linuxAmd64) (arch linuxAmd64))
                (linuxAmd64.sha256 (golangciUrl (kernelOS linuxAmd64) (arch linuxAmd64)))
                sha256) ∈
              (golangciLintScript linuxAmd64 ["hack/tools/bin"]).actions) :=
  have moved := by decide
  ⟨moved, golangciLintScript_installs_only_verified linuxAmd64 _ _ _ moved⟩

/-- The pin depends on the kernel only: two hosts on one kernel that fetch from one release
server, whose archives for their two architectures differ in digest, do not both install with
verification on, so on each kernel at most one architecture's archive can pass. -/
theorem golangciLintScript_at_most_one_arch (host host' : Host) (args args' : List String)
    (sameKernel : kernelOS host = kernelOS host') (sameServer : host.sha256 = host'.sha256)
    (distinct : host.sha256 (golangciUrl (kernelOS host) (arch host)) ≠
      host.sha256 (golangciUrl (kernelOS host) (arch host')))
    (checked : host.insecureSkipDownloadVerification ≠ some "true")
    (checked' : host'.insecureSkipDownloadVerification ≠ some "true") :
    ¬ ((golangciLintScript host args).exit = 0 ∧ (golangciLintScript host' args').exit = 0) :=
  fun ⟨ok, ok'⟩ => by
    have pin := golangciSha256_of_exit_eq_zero ok checked
    have pin' := golangciSha256_of_exit_eq_zero ok' checked'
    rw [← sameKernel, ← sameServer] at pin'
    exact distinct (Option.some_inj.1 (pin.symm.trans pin'))

/-- `linuxAmd64` on an arm64 machine, behind the same release server. -/
def linuxArm64 : Host :=
  { linuxAmd64 with machine := "aarch64" }

theorem golangciLintScript_linux_one_arch :
    kernelOS linuxAmd64 = kernelOS linuxArm64 ∧ linuxAmd64.sha256 = linuxArm64.sha256 ∧
      linuxAmd64.sha256 (golangciUrl (kernelOS linuxAmd64) (arch linuxAmd64)) ≠
        linuxAmd64.sha256 (golangciUrl (kernelOS linuxAmd64) (arch linuxArm64)) ∧
      linuxAmd64.insecureSkipDownloadVerification ≠ some "true" ∧
      linuxArm64.insecureSkipDownloadVerification ≠ some "true" ∧
      ¬ ((golangciLintScript linuxAmd64 ["hack/tools/bin"]).exit = 0 ∧
        (golangciLintScript linuxArm64 ["hack/tools/bin"]).exit = 0) :=
  have distinct : linuxAmd64.sha256 (golangciUrl (kernelOS linuxAmd64) (arch linuxAmd64)) ≠
      linuxAmd64.sha256 (golangciUrl (kernelOS linuxAmd64) (arch linuxArm64)) := by decide
  ⟨rfl, rfl, distinct, by decide, by decide,
    golangciLintScript_at_most_one_arch _ _ _ _ rfl rfl distinct (by decide) (by decide)⟩

end Capm3.Hack
