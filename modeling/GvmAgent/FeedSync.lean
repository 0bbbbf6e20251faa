import GvmAgent.Config

set_option autoImplicit false

/-! `nvt_feed_sync` of `nvt_feed.c`: an `rsync` of the feed, then the check of its `gpg`
signature.

The commands are the environment's: `system` gives the status a command returns, `popen` what
a command prints and the status `pclose` then reports. `nvt_feed_sync` reads `gpg`'s output
for the words `Good signature` and nothing else: it ignores `gpg`'s status and grants success
when `gpg` is missing or cannot be started. -/

namespace GvmAgent

/-- `feed_sync_status_t`. -/
inductive FeedSyncStatus where
  | success
  | networkError
  | gpgError
  | diskError
  | indexError
  deriving DecidableEq, Repr

/-- What a command started by `popen` prints and the status `pclose` reports for it. -/
structure PipeRun where
  output : List Char
  status : Int

/-- The shell as `nvt_feed_sync` meets it. -/
structure ShellEnv where
  /-- The status `system` returns for a command. -/
  system : List Char → Int
  /-- What `popen` of a command gives; `none` when it fails. -/
  popen : List Char → Option PipeRun

/-- The `system` test for a tool: `which tool > /dev/null 2>&1`. -/
def whichCommand (tool : List Char) : List Char :=
  "which ".toList ++ tool ++ " > /dev/null 2>&1".toList

/-- The command `snprintf` writes into `char rsync_cmd[1024]`. -/
def rsyncCommand (feedSource feedDir : List Char) : List Char :=
  snprintf 1024 ("rsync -av --delete \"".toList ++ feedSource ++ "\" \"".toList ++ feedDir ++
    "/\" 2>&1".toList)

/-- The command `snprintf` writes into `char gpg_cmd[1024]`. -/
def gpgCommand (feedDir : List Char) : List Char :=
  snprintf 1024 ("gpg --verify \"".toList ++ feedDir ++ "/sha256sums.asc\" \"".toList ++ feedDir ++
    "/sha256sums\" 2>&1".toList)

/-- The `fgets` loop over `gpg`'s output, read into `char line[256]`: whether some chunk holds
`Good signature`. -/
def gpgSignatureValid (output : List Char) : Bool :=
  (fgetsLines 256 output).any fun chunk => (strstr (cString chunk) "Good signature".toList).isSome

/-- The `if (verify_gpg)` block of `nvt_feed_sync`: `.success` when it lets the sync
through. -/
def verifyFeedSignature (env : ShellEnv) (feedDir : List Char) : FeedSyncStatus :=
  if env.system (whichCommand "gpg".toList) ≠ 0 then .success
  else match env.popen (gpgCommand feedDir) with
    | none => .success
    | some gpg => if gpgSignatureValid gpg.output then .success else .gpgError

/-- `nvt_feed_sync`; `none` stands for a NULL argument. -/
def nvtFeedSync (env : ShellEnv) (feedSource feedDir : Option (List Char)) (verifyGpg : Bool) :
    FeedSyncStatus :=
  match feedSource, feedDir with
  | some source, some dir =>
    if env.system (whichCommand "rsync".toList) ≠ 0 then .networkError
    else match env.popen (rsyncCommand source dir) with
      | none => .networkError
      | some rsync =>
        if rsync.status ≠ 0 then .networkError
        else if verifyGpg then verifyFeedSignature env dir
        else .success
  | _, _ => .networkError

section Sync

variable {env : ShellEnv} {source dir : List Char}

theorem gpgSignatureValid_iff {output : List Char}
    (fit : ∀ line ∈ output.splitOn '\n', line.length ≤ 254) :
    gpgSignatureValid output = true ↔
      ∃ line ∈ output.splitOn '\n', "Good signature".toList <:+: cString line := by
  have phrase : "Good signature".toList ≠ [] ∧ '\n' ∉ "Good signature".toList := by decide
  have newline : ∀ line, (strstr (cString (line ++ ['\n'])) "Good signature".toList).isSome =
      (strstr (cString line) "Good signature".toList).isSome := fun line =>
    Bool.eq_iff_iff.mpr (by
      rw [strstr_isSome_iff, strstr_isSome_iff]
      exact infix_cString_append_newline phrase.1 phrase.2)
  rw [gpgSignatureValid, fgetsLines_splitOn (fun line mem => by have := fit line mem; omega),
    any_lineChunks rfl newline, List.any_eq_true]
  simp only [strstr_isSome_iff]

theorem verifyFeedSignature_eq_success_iff :
    verifyFeedSignature env dir = .success ↔
      env.system (whichCommand "gpg".toList) ≠ 0 ∨ env.popen (gpgCommand dir) = none ∨
        ∃ gpg, env.popen (gpgCommand dir) = some gpg ∧ gpgSignatureValid gpg.output = true := by
  unfold verifyFeedSignature
  split_ifs with missing
  · exact iff_of_true rfl (.inl missing)
  · rw [or_iff_right missing]
    cases env.popen (gpgCommand dir) with
    | none => exact iff_of_true rfl (.inl rfl)
    | some gpg => cases valid : gpgSignatureValid gpg.output <;> simp [valid]

theorem nvtFeedSync_eq_success_iff :
    nvtFeedSync env (some source) (some dir) true = .success ↔
      env.system (whichCommand "rsync".toList) = 0 ∧
      (∃ rsync, env.popen (rsyncCommand source dir) = some rsync ∧ rsync.status = 0) ∧
      verifyFeedSignature env dir = .success := by
  simp only [nvtFeedSync, if_true]
  split_ifs with missing
  · exact iff_of_false (by decide) fun synced => missing synced.1
  · rw [and_iff_right (not_not.mp missing)]
    cases env.popen (rsyncCommand source dir) with
    | none => exact iff_of_false (fun failed => by cases failed) fun ⟨⟨_, found, _⟩, _⟩ => by cases found
    | some rsync =>
      dsimp only
      by_cases synced : rsync.status = 0
      · rw [if_neg (not_not.mpr synced), and_iff_right ⟨rsync, rfl, synced⟩]
      · rw [if_pos synced]
        exact iff_of_false (by decide) fun ⟨⟨_, same, status⟩, _⟩ =>
          synced (Option.some_inj.mp same ▸ status)

end Sync

/-- A host where `rsync` works and `gpg` is not installed. -/
def noGpgShell : ShellEnv where
  system command := if command = whichCommand "gpg".toList then 1 else 0
  popen _ := some ⟨[], 0⟩

/-- A host where `rsync` works and `popen` cannot start `gpg`. -/
def noPipeShell : ShellEnv where
  system _ := 0
  popen command := if command.take 4 = "gpg ".toList then none else some ⟨[], 0⟩

/-- The line `gpg --verify` prints for a signature that does not verify, here one whose
signer's user id holds the words `Good signature`. -/
def badSignatureLine : List Char :=
  "gpg: BAD signature from \"Good signature <feed@example.org>\" [unknown]".toList

/-- What `gpg --verify` prints around that line. -/
def badSignatureOutput : List Char :=
  ("gpg: Signature made Mon Nov  9 02:00:00 2026 UTC\n" ++
    "gpg:                using RSA key 9823FAA60ED1E580\n").toList ++ badSignatureLine ++ ['\n']

/-- A host where `rsync` works and `gpg` rejects the feed's signature: it exits with status 1,
which `pclose` reports as 256. -/
def badSignatureShell : ShellEnv where
  system _ := 0
  popen command := if command.take 4 = "gpg ".toList then some ⟨badSignatureOutput, 256⟩
    else some ⟨[], 0⟩

/-- `nvt_feed_sync` fails open: asked to check the signature, it reports success when `gpg` is
not installed, when `popen` cannot start it, and when `gpg` exits with status 1 after a line
reporting a BAD signature. -/
theorem nvt_feed_sync_fails_open (source dir : List Char) :
    (noGpgShell.system (whichCommand "gpg".toList) ≠ 0 ∧
      nvtFeedSync noGpgShell (some source) (some dir) true = .success) ∧
    (noPipeShell.popen (gpgCommand dir) = none ∧
      nvtFeedSync noPipeShell (some source) (some dir) true = .success) ∧
    (∃ gpg, badSignatureShell.popen (gpgCommand dir) = some gpg ∧ gpg.status ≠ 0 ∧
        ∃ line ∈ gpg.output.splitOn '\n', "BAD signature".toList <:+: line) ∧
      nvtFeedSync badSignatureShell (some source) (some dir) true = .success := by
  have gpgTake : (gpgCommand dir).take 4 = "gpg ".toList := rfl
  have rsyncTake : (rsyncCommand source dir).take 4 = "rsyn".toList := rfl
  have notGpg : (rsyncCommand source dir).take 4 ≠ "gpg ".toList := by
    rw [rsyncTake]
    decide
  have synced : noPipeShell.popen (rsyncCommand source dir) = some ⟨[], 0⟩ ∧
      badSignatureShell.popen (rsyncCommand source dir) = some ⟨[], 0⟩ := by
    simp only [noPipeShell, badSignatureShell, if_neg notGpg, and_self]
  have noPipe : noPipeShell.popen (gpgCommand dir) = none := by
    simp only [noPipeShell, gpgTake, if_true]
  have badRun : badSignatureShell.popen (gpgCommand dir) = some ⟨badSignatureOutput, 256⟩ := by
    simp only [badSignatureShell, gpgTake, if_true]
  have badLine : badSignatureLine ∈ badSignatureOutput.splitOn '\n' := by decide
  refine ⟨⟨by decide, ?_⟩, ⟨noPipe, ?_⟩,
    ⟨⟨_, badRun, by decide, _, badLine, by decide⟩, ?_⟩⟩ <;> apply nvtFeedSync_eq_success_iff.mpr
  · exact ⟨by decide, ⟨_, rfl, rfl⟩, verifyFeedSignature_eq_success_iff.mpr (.inl (by decide))⟩
  · exact ⟨rfl, ⟨_, synced.1, rfl⟩, verifyFeedSignature_eq_success_iff.mpr (.inr (.inl noPipe))⟩
  · -- the line reporting the BAD signature is the one that reads `Good signature`
    have valid : gpgSignatureValid badSignatureOutput = true :=
      (gpgSignatureValid_iff (by decide)).mpr ⟨_, badLine, by decide⟩
    exact ⟨rfl, ⟨_, synced.2, rfl⟩,
      verifyFeedSignature_eq_success_iff.mpr (.inr (.inr ⟨_, badRun, valid⟩))⟩

end GvmAgent
