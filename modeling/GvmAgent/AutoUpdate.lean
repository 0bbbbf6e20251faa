import GvmAgent.Agent
import GvmAgent.JsonWriter
import GvmAgent.Transfer
import GvmAgent.Utils

set_option autoImplicit false

/-! `auto_update.c`: the check for an update, the download of a new binary, the check of it
against the checksum the Controller announces, and its installation in place of the running one.

The check reads the five fields of the Controller's reply with the parse helpers of
`http_client.c`, so on a text of the reply that writes those members as the helpers read them
it reads what the reply announces.

The download hands the `body_size` bytes the transfer received to `fwrite` and checks neither
what `fwrite` wrote nor what `fclose` flushed. The checksum is `sha256:` followed by the
digest.

The digest of the file is what `sha256sum "path"` prints on its standard output, read through
`popen`: the last word `sscanf (line, "%64s", actual_hash)` finds in the chunks `fgets` reads
into `char line[256]`, cut at 64 characters. The check compares it with the text after
`sha256:` ignoring case and looks at nothing else: an empty expected digest matches an output
with no word in it. -/

namespace GvmAgent

/-- The command `snprintf` writes into `char sha_cmd[1024]`. -/
def sha256Command (filePath : List Char) : List Char :=
  snprintf 1024 ("sha256sum \"".toList ++ filePath ++ "\"".toList)

/-- `sscanf (line, "%64s", actual_hash)`: the first word of the line, cut at 64 characters; a
line of white space alone leaves `actual_hash` as it was. -/
def sscanfWord (actualHash line : List Char) : List Char :=
  match line.dropWhile isSpace with
  | [] => actualHash
  | word => (word.takeWhile fun c => !isSpace c).take 64

/-- What `char actual_hash[65]` holds after the `fgets` loop over the command's output. -/
def scannedHash (output : List Char) : List Char :=
  (fgetsLines 256 output).foldl (fun actualHash chunk => sscanfWord actualHash (cString chunk)) []

/-- `strcasecmp (s1, s2) == 0`: the strings agree once `tolower` has mapped both. -/
def strcasecmpEq (s1 s2 : List Char) : Bool :=
  s1.map Char.toLower == s2.map Char.toLower

/-- `auto_update_verify_checksum`; `none` stands for a NULL argument, and `sha256sum` gives what
`popen` of a command prints (`none` when `popen` fails). -/
def autoUpdateVerifyChecksum (sha256sum : List Char → Option (List Char))
    (filePath expectedChecksum : Option (List Char)) : Bool :=
  match filePath, expectedChecksum with
  | some path, some expected =>
    -- `strncmp (expected_checksum, "sha256:", 7) != 0`
    if expected.take 7 ≠ "sha256:".toList then false
    else match sha256sum (sha256Command path) with
      | none => false
      | some output => strcasecmpEq (scannedHash output) (expected.drop 7)
  | _, _ => false

/-- The digits of a hexadecimal number, in either case. -/
def hexDigits : List Char := "0123456789abcdefABCDEF".toList

/-- `d` is a SHA-256 digest written out: 64 hexadecimal digits. -/
def Sha256Digest (d : List Char) : Prop := d.length = 64 ∧ ∀ c ∈ d, c ∈ hexDigits

section Checksum

variable {sha256sum : List Char → Option (List Char)}

theorem hexDigits_plain : ∀ c ∈ hexDigits, isSpace c = false ∧ c ≠ '\x00' ∧ c ≠ '\n' := by
  decide

theorem autoUpdateVerifyChecksum_eq_true_iff {path expected : List Char} :
    autoUpdateVerifyChecksum sha256sum (some path) (some expected) = true ↔
      ∃ digest output, expected = "sha256:".toList ++ digest ∧
        sha256sum (sha256Command path) = some output ∧
        (scannedHash output).map Char.toLower = digest.map Char.toLower := by
  rw [autoUpdateVerifyChecksum]
  split_ifs with other
  · exact iff_of_false (by decide) fun ⟨_, _, eq, _⟩ => other (eq ▸ rfl)
  · obtain ⟨digest, rfl⟩ : ∃ digest, expected = "sha256:".toList ++ digest :=
      ⟨expected.drop 7, by rw [← not_not.mp other, List.take_append_drop]⟩
    cases sha256sum (sha256Command path) with
    | none => exact iff_of_false Bool.false_ne_true fun ⟨_, _, _, run, _⟩ => by cases run
    | some output =>
      have dropped : ("sha256:".toList ++ digest).drop 7 = digest := rfl
      dsimp only
      rw [strcasecmpEq, dropped, beq_iff_eq]
      constructor
      · exact fun same => ⟨digest, output, rfl, rfl, same⟩
      · rintro ⟨_, _, eq, run, same⟩
        cases List.append_cancel_left eq
        cases run
        exact same

theorem autoUpdateVerifyChecksum_of_digest {path name printed digest : List Char}
    (hex : Sha256Digest printed) (same : printed.map Char.toLower = digest.map Char.toLower)
    (noNewline : '\n' ∉ name) (noNul : '\x00' ∉ name) (fits : name.length ≤ 188)
    (prints : sha256sum (sha256Command path) = some (printed ++ ' ' :: ' ' :: name ++ ['\n'])) :
    autoUpdateVerifyChecksum sha256sum (some path) (some ("sha256:".toList ++ digest)) = true := by
  have plain : ∀ c ∈ printed, isSpace c = false ∧ c ≠ '\x00' ∧ c ≠ '\n' :=
    fun c mem => hexDigits_plain c (hex.2 c mem)
  have oneLine : '\n' ∉ printed ++ ' ' :: ' ' :: name := by
    simpa [noNewline] using fun mem => (plain _ mem).2.2 rfl
  have chunks : fgetsLines 256 (printed ++ ' ' :: ' ' :: name ++ ['\n']) =
      [printed ++ ' ' :: ' ' :: name ++ ['\n']] := by
    have := @fgetsLoop_line 255 _ [] [] oneLine (by simp [hex.1]; omega)
    simpa [fgetsLines] using this
  have clean : cString (printed ++ ' ' :: ' ' :: name ++ ['\n']) =
      printed ++ ' ' :: ' ' :: name ++ ['\n'] :=
    cString_of_not_mem (by simpa [noNul] using fun mem => (plain _ mem).2.1 rfl)
  obtain ⟨c, cs, first⟩ := List.exists_cons_of_length_eq_add_one hex.1
  have word : sscanfWord [] (printed ++ ' ' :: ' ' :: name ++ ['\n']) = printed := by
    have lead : isSpace c = false := (plain c (first ▸ List.mem_cons_self c cs)).1
    rw [sscanfWord, List.append_assoc, first, List.cons_append, List.dropWhile_cons_of_neg (by simp [lead])]
    dsimp only
    rw [← List.cons_append, ← first, List.takeWhile_append_of_pos (fun c mem => by simp [(plain c mem).1]),
      List.cons_append, List.takeWhile_cons_of_neg (p := fun c => !isSpace c) (by decide), List.append_nil,
      List.take_of_length_le hex.1.le]
  rw [autoUpdateVerifyChecksum_eq_true_iff]
  exact ⟨digest, _, rfl, prints, by rw [scannedHash, chunks, List.foldl_cons, List.foldl_nil, clean, word, same]⟩

end Checksum

section Check

/-- `update_info_t`; a `char *` field is `none` while NULL. -/
structure UpdateInfo where
  updateAvailable : Bool
  latestVersion : Option (List Char)
  downloadUrl : Option (List Char)
  checksum : Option (List Char)
  releaseNotes : Option (List Char)
  deriving DecidableEq, Repr

/-- The update endpoint; `utils_build_url` fails on a NULL base. -/
def updateUrl (config : AgentConfig) : Option (List Char) :=
  config.controllerUrl.map (utilsBuildUrl · "/api/v1/agents/updates".toList)

/-- The GET `auto_update_check` hands to `http_get`. -/
def autoUpdateCheckRequest (ctx : AgentContext) : Option HttpRequest :=
  (updateUrl ctx.config).map (httpGet · ctx.config.authToken)

/-- What `auto_update_check` decodes from a 200 body into the `update_info_t` that `calloc`
zeroed: a helper that finds nothing leaves its field as it was. -/
def updateInfoOf (body : List Char) : UpdateInfo where
  updateAvailable := (httpParseJsonBool body "update_available".toList).getD false
  latestVersion := httpParseJsonString body "latest_version".toList
  downloadUrl := httpParseJsonString body "download_url".toList
  checksum := httpParseJsonString body "checksum".toList
  releaseNotes := httpParseJsonString body "release_notes".toList

/-- `auto_update_check` against the outcome of its GET. Unlike `heartbeat_send` and `job_poll`,
it has no case for 401. -/
def autoUpdateCheck (ctx : AgentContext) (outcome : Transport) : Except AgentError UpdateInfo :=
  match updateUrl ctx.config, outcome with
  | none, _ => .error .networkUnreachable
  | some _, .failure => .error .networkUnreachable
  | some _, .response status body =>
    if status ≠ 200 then .error .serverError else .ok (updateInfoOf body)

/-- The members of a reply that announces an update, as the Controller means them. -/
def updateMembers (available : Bool) (version url digest notes : List Char) :
    List (List Char × JsonValue) :=
  [("update_available".toList, .bool available), ("latest_version".toList, .string version),
    ("download_url".toList, .string url), ("checksum".toList, .string digest),
    ("release_notes".toList, .string notes)]

/-- The update info a reply with these members stands for. -/
def updateInfoOfMembers (available : Bool) (version url digest notes : List Char) : UpdateInfo :=
  ⟨available, some version, some url, some digest, some notes⟩

/-- The member names `auto_update_check` looks up. -/
def updateKeys : List (List Char) :=
  ["update_available".toList, "latest_version".toList, "download_url".toList, "checksum".toList,
    "release_notes".toList]

theorem updateKeys_plainKey : ∀ k ∈ updateKeys, PlainKey k := by
  simp only [updateKeys, List.mem_cons, List.mem_singleton, List.not_mem_nil, or_false]
  rintro k (rfl | rfl | rfl | rfl | rfl) <;>
    exact ⟨by decide, by decide, by decide, by decide, by decide⟩

theorem updateMembers_keys (available : Bool) (version url digest notes : List Char) :
    ∀ m ∈ updateMembers available version url digest notes, m.1 ∈ updateKeys := by
  simp only [updateMembers, List.mem_cons, List.mem_singleton, List.not_mem_nil, or_false]
  rintro m (rfl | rfl | rfl | rfl | rfl) <;> dsimp only <;> decide

variable {ms : List (List Char × JsonValue)} {body k : List Char} {keys : List (List Char)}

theorem httpParseJsonBool_member (text : KeyedText keys ms body) (distinct : DistinctKeys ms)
    (key : PlainKey k) (read : k ∈ keys) (names : ∀ q ∈ ms, ¬ ('"' :: k) <:+ q.1)
    (clean : ∀ q ∈ ms, ¬ Mentions k q.2) {b : Bool} (mem : (k, .bool b) ∈ ms) :
    httpParseJsonBool body k = some b := by
  obtain ⟨w, vt, after, hw, hv, -, start⟩ := jsonValueStart_key key read text distinct names clean mem
  rw [httpParseJsonBool, start, Option.some_bind, readJsonBool_value hw hv]

theorem httpParseJsonString_member (text : KeyedText keys ms body) (distinct : DistinctKeys ms)
    (key : PlainKey k) (read : k ∈ keys) (names : ∀ q ∈ ms, ¬ ('"' :: k) <:+ q.1)
    (clean : ∀ q ∈ ms, ¬ Mentions k q.2) {s : List Char} (mem : (k, .string s) ∈ ms) :
    httpParseJsonString body k = some s := by
  obtain ⟨w, vt, after, hw, hv, -, start⟩ := jsonValueStart_key key read text distinct names clean mem
  rw [httpParseJsonString, start, Option.some_bind, readJsonString_value hw hv]

/-- For every JSON text of a reply with distinct member names that holds the five members of an
announcement, written as the helpers read them, and in which none of the five names is met
elsewhere, `auto_update_check` succeeds with exactly the announced update info; every status
but 200, 401 included, is `ERR_SERVER_ERROR`. -/
theorem auto_update_check_reads_reply {ctx : AgentContext} {base : List Char} {available : Bool}
    {version url digest notes : List Char} (configured : ctx.config.controllerUrl = some base)
    (distinct : DistinctKeys ms) (text : KeyedText updateKeys ms body)
    (announces : ∀ m ∈ updateMembers available version url digest notes, m ∈ ms)
    (names : ∀ k ∈ updateKeys, ∀ q ∈ ms, ¬ ('"' :: k) <:+ q.1)
    (clean : ∀ k ∈ updateKeys, ∀ q ∈ ms, ¬ Mentions k q.2) :
    autoUpdateCheck ctx (.response 200 body) = .ok (updateInfoOfMembers available version url digest notes) ∧
      ∀ status reply, status ≠ 200 → autoUpdateCheck ctx (.response status reply) = .error .serverError := by
  have endpoint : updateUrl ctx.config = some (utilsBuildUrl base "/api/v1/agents/updates".toList) := by
    rw [updateUrl, configured, Option.map_some']
  have member : ∀ m ∈ updateMembers available version url digest notes, m.1 ∈ updateKeys ∧ m ∈ ms :=
    fun m mem => ⟨updateMembers_keys available version url digest notes m mem, announces m mem⟩
  simp only [updateMembers, List.mem_cons, List.mem_singleton, List.not_mem_nil, or_false,
    forall_eq_or_imp, forall_eq] at member
  obtain ⟨⟨r₁, m₁⟩, ⟨r₂, m₂⟩, ⟨r₃, m₃⟩, ⟨r₄, m₄⟩, ⟨r₅, m₅⟩⟩ := member
  have lookup : ∀ k ∈ updateKeys, PlainKey k ∧ (∀ q ∈ ms, ¬ ('"' :: k) <:+ q.1) ∧
      ∀ q ∈ ms, ¬ Mentions k q.2 := fun k read => ⟨updateKeys_plainKey k read, names k read, clean k read⟩
  refine ⟨?_, fun status reply other => by simp only [autoUpdateCheck, endpoint, if_pos other]⟩
  simp only [autoUpdateCheck, endpoint, ne_eq, not_true_eq_false, if_false, updateInfoOf,
    httpParseJsonBool_member text distinct (lookup _ r₁).1 r₁ (lookup _ r₁).2.1 (lookup _ r₁).2.2 m₁,
    httpParseJsonString_member text distinct (lookup _ r₂).1 r₂ (lookup _ r₂).2.1 (lookup _ r₂).2.2 m₂,
    httpParseJsonString_member text distinct (lookup _ r₃).1 r₃ (lookup _ r₃).2.1 (lookup _ r₃).2.2 m₃,
    httpParseJsonString_member text distinct (lookup _ r₄).1 r₄ (lookup _ r₄).2.1 (lookup _ r₄).2.2 m₄,
    httpParseJsonString_member text distinct (lookup _ r₅).1 r₅ (lookup _ r₅).2.1 (lookup _ r₅).2.2 m₅,
    Option.getD_some]
  rfl

/-- A reply announcing version 1.2.0. -/
def updateReplyText : List Char :=
  ("\x7b\"update_available\": true, \"latest_version\": \"1.2.0\", " ++
    "\"download_url\": \"https://controller.example/gvm-agent\", \"checksum\": \"sha256:ab12\", " ++
    "\"release_notes\": \"Fixes\"\x7d").toList

/-- The check of `sampleContext` against that reply. -/
theorem auto_update_check_announced :
    autoUpdateCheck sampleContext (.response 200 updateReplyText) =
        .ok (updateInfoOfMembers true "1.2.0".toList "https://controller.example/gvm-agent".toList
          "sha256:ab12".toList "Fixes".toList) ∧
      ∀ status reply, status ≠ 200 →
        autoUpdateCheck sampleContext (.response status reply) = .error .serverError := by
  have blank : Style.plain.Ws [' '] := by simp [Style.Ws, Style.plain]
  have object := @Grammar.object_intercalate .plain [' '] [' '] blank blank
    [("update_available".toList, .bool true, "true".toList),
      ("latest_version".toList, .string "1.2.0".toList, '"' :: "1.2.0".toList ++ ['"']),
      ("download_url".toList, .string "https://controller.example/gvm-agent".toList,
        '"' :: "https://controller.example/gvm-agent".toList ++ ['"']),
      ("checksum".toList, .string "sha256:ab12".toList, '"' :: "sha256:ab12".toList ++ ['"']),
      ("release_notes".toList, .string "Fixes".toList, '"' :: "Fixes".toList ++ ['"'])]
    (List.cons_ne_nil _ _) (by
      simp only [List.mem_cons, List.mem_singleton, forall_eq_or_imp, forall_eq, List.not_mem_nil,
        false_imp_iff, imp_true_iff, and_true]
      exact ⟨⟨by decide, .trueLit⟩, ⟨by decide, .literal _ (by decide)⟩, ⟨by decide, .literal _ (by decide)⟩,
        ⟨by decide, .literal _ (by decide)⟩, ⟨by decide, .literal _ (by decide)⟩⟩)
  have text : Serializes .plain (.object (updateMembers true "1.2.0".toList
      "https://controller.example/gvm-agent".toList "sha256:ab12".toList "Fixes".toList)) updateReplyText :=
    Grammar.cast (by rfl) (.element (Style.ws_nil _) object (Style.ws_nil _))
  have distinct : DistinctKeys (updateMembers true "1.2.0".toList
      "https://controller.example/gvm-agent".toList "sha256:ab12".toList "Fixes".toList) := by
    simp [DistinctKeys, updateMembers]
  have names : ∀ k ∈ updateKeys, ∀ q ∈ updateMembers true "1.2.0".toList
      "https://controller.example/gvm-agent".toList "sha256:ab12".toList "Fixes".toList,
      ¬ ('"' :: k) <:+ q.1 := by
    decide
  have clean : ∀ k ∈ updateKeys, ∀ q ∈ updateMembers true "1.2.0".toList
      "https://controller.example/gvm-agent".toList "sha256:ab12".toList "Fixes".toList, ¬ Mentions k q.2 := by
    simp only [updateKeys, updateMembers, List.mem_cons, List.mem_singleton, List.not_mem_nil, or_false]
    rintro k (rfl | rfl | rfl | rfl | rfl) q (rfl | rfl | rfl | rfl | rfl) mention <;> cases mention
    all_goals exact absurd ‹KeyLike _ _› (by decide)
  exact auto_update_check_reads_reply rfl distinct (.of_plain text) (fun _ mem => mem) names clean

end Check

section Download

/-- What writing the output file meets: whether `fopen` succeeds, and how many bytes reach the
file through `fwrite` and the flush in `fclose`; a full disk or an I/O error stops them
short. -/
structure OutputFile where
  opens : Bool
  stored : Nat

/-- `auto_update_download` against the transfer of its GET and the output file: the code it
returns, with what the file holds when it returns `ERR_SUCCESS`. Neither the count `fwrite`
returns nor the result of `fclose` is checked. -/
def autoUpdateDownload (transfer : Transfer) (output : OutputFile) : Except AgentError (List Char) :=
  match curlEasyPerform transfer with
  | none => .error .networkUnreachable
  | some response =>
    if response.statusCode ≠ 200 then .error .serverError
    else if output.opens then .ok ((response.body.take response.bodySize).take output.stored)
    else .error .configInvalid

/-- For every transfer and every outcome of the writes, the download returns `ERR_SUCCESS` when
every callback gets its memory, the transfer completes with 200 and the file opens, and the file
then holds the bytes the server sent, in order and NULs included, cut where the writes stopped:
all of them only when no write falls short. Another status is `ERR_SERVER_ERROR`, any other
failure `ERR_NETWORK_UNREACHABLE`. -/
theorem auto_update_download_writes_body (transfer : Transfer) (stored : Nat) :
    autoUpdateDownload transfer ⟨true, stored⟩ =
      (if AllGrow transfer.grows 0 transfer.chunks.length ∧ transfer.completes = true then
        if transfer.status = 200 then .ok (transfer.chunks.flatten.take stored) else .error .serverError
      else .error .networkUnreachable) := by
  unfold autoUpdateDownload
  rw [curlEasyPerform_eq]
  by_cases completed : AllGrow transfer.grows 0 transfer.chunks.length ∧ transfer.completes = true
  · by_cases ok : transfer.status = 200 <;> simp [completed, ok, bufferOf]
  · simp [completed]

end Download

section Install

/-- `rename (oldpath, newpath)` on the files, with `allowed` whether the kernel lets it through:
the file at `oldpath` moves to `newpath`, replacing what was there; a missing `oldpath` fails,
and a path renamed onto itself stays as it is. -/
def rename (allowed : Bool) (files : List Char → Option (List Char)) (oldpath newpath : List Char) :
    Option (List Char → Option (List Char)) :=
  if allowed then
    (files oldpath).map fun file =>
      if oldpath = newpath then files
      else fun path => if path = newpath then some file else if path = oldpath then none else files path
  else none

/-- `auto_update_get_binary_path` on Linux: what `readlink` reads of `/proc/self/exe` into
`char path[1024]`, at most 1023 bytes, or `/usr/bin/gvm-agent` when it fails. -/
def autoUpdateGetBinaryPath (exeLink : Option (List Char)) : List Char :=
  match exeLink with
  | some target => target.take 1023
  | none => "/usr/bin/gvm-agent".toList

/-- `auto_update_has_permission`: `access (binary_path, W_OK)` on the running binary's path;
`writable` is what `access` reports. -/
def autoUpdateHasPermission (exeLink : Option (List Char)) (writable : List Char → Bool) : Bool :=
  writable (autoUpdateGetBinaryPath exeLink)

/-- The path `snprintf` writes into `char backup_path[1024]`. -/
def backupPath (currentBinary : List Char) : List Char :=
  snprintf 1024 (currentBinary ++ ".backup".toList)

/-- What `auto_update_install_and_restart` meets: the target of `/proc/self/exe` (`none` when
`readlink` fails) and whether each of its three `rename`s is let through. -/
structure InstallEnv where
  exeLink : Option (List Char)
  backupAllowed : Bool
  installAllowed : Bool
  restoreAllowed : Bool

/-- `auto_update_install_and_restart` up to the restart: the code it returns and the files it
leaves. The result of the restoring `rename` is not checked. -/
def autoUpdateInstallAndRestart (env : InstallEnv) (files : List Char → Option (List Char))
    (newBinaryPath : List Char) : AgentError × (List Char → Option (List Char)) :=
  let currentBinary := autoUpdateGetBinaryPath env.exeLink
  match rename env.backupAllowed files currentBinary (backupPath currentBinary) with
  | none => (.configInvalid, files)
  | some backedUp =>
    match rename env.installAllowed backedUp newBinaryPath currentBinary with
    | some installed => (.success, installed)
    | none => (.configInvalid,
        (rename env.restoreAllowed backedUp (backupPath currentBinary) currentBinary).getD backedUp)

variable {files : List Char → Option (List Char)} {oldpath newpath : List Char}

/-- Everything one `rename` can do: fail and change nothing, or move the file. -/
theorem rename_cases {allowed : Bool} {after : List Char → Option (List Char)}
    (renamed : rename allowed files oldpath newpath = some after) :
    ∃ file, files oldpath = some file ∧ after newpath = some file ∧
      (oldpath ≠ newpath → after oldpath = none) ∧
      ∀ path, path ≠ oldpath → path ≠ newpath → after path = files path := by
  unfold rename at renamed
  split_ifs at renamed with allowed same
  · obtain ⟨file, found, rfl⟩ := Option.map_eq_some'.mp renamed
    subst same
    exact ⟨file, found, found, fun apart => absurd rfl apart, fun _ _ _ => rfl⟩
  · obtain ⟨file, found, rfl⟩ := Option.map_eq_some'.mp renamed
    exact ⟨file, found, by simp, fun _ => by simp [same],
      fun path other other' => by simp [other, other']⟩

theorem rename_moves {allowed : Bool} {after : List Char → Option (List Char)} {file : List Char}
    (present : files oldpath = some file) (renamed : rename allowed files oldpath newpath = some after) :
    after newpath = some file := by
  obtain ⟨moved, found, atNew, -, -⟩ := rename_cases renamed
  rwa [present.symm.trans found]

/-- For every outcome of its three `rename`s, `auto_update_install_and_restart` leaves at the
running binary's path the new binary when it succeeds and the old one when it fails, except
when the restoring `rename` is refused: the old binary then sits at the backup path only. -/
theorem auto_update_install_keeps_binary (env : InstallEnv) (newBinaryPath : List Char)
    {old : List Char} (running : files (autoUpdateGetBinaryPath env.exeLink) = some old)
    (apart : newBinaryPath ≠ autoUpdateGetBinaryPath env.exeLink ∧
      newBinaryPath ≠ backupPath (autoUpdateGetBinaryPath env.exeLink)) :
    let current := autoUpdateGetBinaryPath env.exeLink
    let outcome := autoUpdateInstallAndRestart env files newBinaryPath
    (outcome.1 = .success ∧ ∃ new, files newBinaryPath = some new ∧ outcome.2 current = some new) ∨
    (outcome.1 = .configInvalid ∧ outcome.2 current = some old) ∨
    (outcome.1 = .configInvalid ∧ env.restoreAllowed = false ∧ outcome.2 current = none ∧
      outcome.2 (backupPath current) = some old) := by
  intro current outcome
  simp only [outcome, autoUpdateInstallAndRestart]
  cases backed : rename env.backupAllowed files current (backupPath current) with
  | none => exact .inr (.inl ⟨rfl, running⟩)
  | some backedUp =>
    obtain ⟨moved, found, atBackup, cleared, others⟩ := rename_cases backed
    rw [running, Option.some_inj] at found
    subst found
    dsimp only
    cases installed : rename env.installAllowed backedUp newBinaryPath current with
    | some after =>
      obtain ⟨new, fromNew, atCurrent, -, -⟩ := rename_cases installed
      exact .inl ⟨rfl, new, (others _ apart.1 apart.2).symm.trans fromNew, atCurrent⟩
    | none =>
      dsimp only
      cases restored : rename env.restoreAllowed backedUp (backupPath current) current with
      | some after => exact .inr (.inl ⟨rfl, rename_moves atBackup restored⟩)
      | none =>
        by_cases same : current = backupPath current
        · -- the backup path is the binary's own: the first `rename` moved nothing
          exact .inr (.inl ⟨rfl, (congrArg backedUp same).trans atBackup⟩)
        · have refused : env.restoreAllowed = false := by
            cases allowed : env.restoreAllowed
            · rfl
            · simp [rename, allowed, atBackup] at restored
          exact .inr (.inr ⟨rfl, refused, cleared same, atBackup⟩)

/-- A host running `/usr/sbin/gvm-agent`, with the update downloaded to
`/tmp/gvm-agent.new`. -/
def updateFiles (path : List Char) : Option (List Char) :=
  if path = "/usr/sbin/gvm-agent".toList then some "ELF v1".toList
  else if path = "/tmp/gvm-agent.new".toList then some "ELF v2".toList else none

/-- A host whose kernel lets the backup through and refuses the install and the restore. -/
def refusedInstall : InstallEnv := ⟨some "/usr/sbin/gvm-agent".toList, true, false, false⟩

/-- There the binary is gone from its path. -/
theorem auto_update_install_refused_restore :
    updateFiles (autoUpdateGetBinaryPath refusedInstall.exeLink) = some "ELF v1".toList ∧
    ("/tmp/gvm-agent.new".toList ≠ autoUpdateGetBinaryPath refusedInstall.exeLink ∧
      "/tmp/gvm-agent.new".toList ≠ backupPath (autoUpdateGetBinaryPath refusedInstall.exeLink)) ∧
    (((autoUpdateInstallAndRestart refusedInstall updateFiles "/tmp/gvm-agent.new".toList).1 = .success ∧
        ∃ new, updateFiles "/tmp/gvm-agent.new".toList = some new ∧
          (autoUpdateInstallAndRestart refusedInstall updateFiles "/tmp/gvm-agent.new".toList).2
            (autoUpdateGetBinaryPath refusedInstall.exeLink) = some new) ∨
      ((autoUpdateInstallAndRestart refusedInstall updateFiles "/tmp/gvm-agent.new".toList).1 = .configInvalid ∧
        (autoUpdateInstallAndRestart refusedInstall updateFiles "/tmp/gvm-agent.new".toList).2
          (autoUpdateGetBinaryPath refusedInstall.exeLink) = some "ELF v1".toList) ∨
      ((autoUpdateInstallAndRestart refusedInstall updateFiles "/tmp/gvm-agent.new".toList).1 = .configInvalid ∧
        refusedInstall.restoreAllowed = false ∧
        (autoUpdateInstallAndRestart refusedInstall updateFiles "/tmp/gvm-agent.new".toList).2
          (autoUpdateGetBinaryPath refusedInstall.exeLink) = none ∧
        (autoUpdateInstallAndRestart refusedInstall updateFiles "/tmp/gvm-agent.new".toList).2
          (backupPath (autoUpdateGetBinaryPath refusedInstall.exeLink)) = some "ELF v1".toList)) ∧
    (autoUpdateInstallAndRestart refusedInstall updateFiles "/tmp/gvm-agent.new".toList).2
      "/usr/sbin/gvm-agent".toList = none :=
  ⟨by decide, ⟨by decide, by decide⟩,
    auto_update_install_keeps_binary refusedInstall "/tmp/gvm-agent.new".toList (by decide) ⟨by decide, by decide⟩,
    by decide⟩

end Install

/-- The check passes an update against the checksum `sha256:` with no digest after it when the
command prints nothing on its standard output, as when the file or `sha256sum` is missing and
the error goes to standard error: no word is read, and `strcasecmp ("", "")` is 0. -/
theorem auto_update_accepts_empty_digest (path : List Char) :
    scannedHash [] = [] ∧ ¬ Sha256Digest ("sha256:".toList.drop 7) ∧
      autoUpdateVerifyChecksum (fun _ => some []) (some path) (some "sha256:".toList) = true :=
  ⟨rfl, fun digest => absurd digest.1 (by decide),
    autoUpdateVerifyChecksum_eq_true_iff.mpr ⟨[], [], (List.append_nil _).symm, rfl, rfl⟩⟩

end GvmAgent
