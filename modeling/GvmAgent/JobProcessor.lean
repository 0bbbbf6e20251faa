import GvmAgent.HttpClient
import GvmAgent.NaslExecutor
import GvmAgent.Utils

set_option autoImplicit false

/-! `job_processor.c`: polling for jobs and submitting results.

`job_poll` parses no job out of a 200 body: whether the body holds `"jobs": []` or not, the
list it returns is empty. Of `job_t` only the fields the agent reads are kept. -/

namespace GvmAgent

/-- The fields of `job_t` that `job_execute` and `job_submit_results` read. -/
structure Job where
  jobId : List Char
  scanId : List Char
  deriving DecidableEq, Repr

/-- The jobs endpoint; `utils_build_url` fails on a NULL base. -/
def jobsUrl (config : AgentConfig) : Option (List Char) :=
  config.controllerUrl.map (utilsBuildUrl · "/api/v1/agents/jobs".toList)

/-- The header line `snprintf` writes into `char agent_id_header[256]`. -/
def agentIdHeader (agentId : Option (List Char)) : List Char :=
  snprintf 256 ("X-Agent-ID: ".toList ++ printfString agentId)

/-- The GET `job_poll` hands to libcurl; unlike `http_get` it formats the token even when it
is NULL. -/
def jobPollRequest (ctx : AgentContext) : Option HttpRequest :=
  (jobsUrl ctx.config).map fun url =>
    { method := .get, url := url, body := [],
      headers := ["Accept: application/json".toList,
        authorizationHeader (printfString ctx.config.authToken), agentIdHeader ctx.config.agentId] }

/-- `job_poll` against the outcome of its GET. -/
def jobPoll (ctx : AgentContext) (outcome : Transport) : Except AgentError (List Job) :=
  match jobsUrl ctx.config, outcome with
  | none, _ => .error .networkUnreachable
  | some _, .failure => .error .networkUnreachable
  | some _, .response status _ =>
    if status = 401 then .error .authFailed
    else if status ≠ 200 then .error .serverError
    else .ok []

/-- The path `snprintf` writes into `char path[512]`. -/
def resultsPath (jobId : List Char) : List Char :=
  snprintf 512 ("/api/v1/agents/jobs/".toList ++ jobId ++ "/results".toList)

/-- The POST `job_submit_results` hands to `http_post`. -/
def jobSubmitRequest (ctx : AgentContext) (jobId resultsJson : List Char) : Option HttpRequest :=
  ctx.config.controllerUrl.map fun base =>
    httpPost (utilsBuildUrl base (resultsPath jobId)) ctx.config.authToken resultsJson

/-- `job_submit_results` against the outcome of its POST; the Controller must answer 202. -/
def jobSubmitResults (ctx : AgentContext) (outcome : Transport) : AgentError :=
  match ctx.config.controllerUrl, outcome with
  | none, _ => .networkUnreachable
  | some _, .failure => .networkUnreachable
  | some _, .response status _ =>
    if status = 401 then .authFailed else if status ≠ 202 then .serverError else .success

/-- What `job_execute` meets: the two timestamps (`none` when `utils_get_iso8601_timestamp`
fails), the scripts, the NVT cache and the port probes. -/
structure ExecEnv where
  startedAt : Option (List Char)
  completedAt : Option (List Char)
  script : ScriptEnv
  cache : Option (List NvtRecord)
  portOpen : Nat → Bool

/-- The OIDs `job_execute` scans for. -/
def jobTestOids : List (List Char) :=
  ["1.3.6.1.4.1.25623.1.0.10662".toList, "1.3.6.1.4.1.25623.1.0.10330".toList]

/-- `%.1f` of a `float` widened to `double`: the sign bit, then the exact value in tenths,
rounded to nearest with ties to even as glibc prints it; `inf` and `nan` otherwise. -/
def formatFixed1 : CFloat → List Char
  | .finite negative m e =>
    let tenths := fixed1Tenths m e
    (if negative then ['-'] else []) ++ (Nat.repr (tenths / 10)).toList ++ '.' ::
      (Nat.repr (tenths % 10)).toList
  | .infinite negative => (if negative then "-inf" else "inf").toList
  | .nan negative => (if negative then "-nan" else "nan").toList

/-- The item `snprintf` writes into `char result_item[1024]` for the `index`-th result. -/
def resultItem (index : Nat) (r : ScanResult) : List Char :=
  snprintf 1024 ((if 0 < index then [','] else []) ++
    "\x7b\"nvt\":\x7b\"oid\":\"".toList ++ r.nvtOid.getD [] ++ "\",\"name\":\"".toList ++ r.nvtName.getD [] ++
    "\",\"severity\":".toList ++ formatFixed1 r.severity ++ ",\"cvss_base_vector\":\"".toList ++
    r.cvssBaseVector.getD [] ++ "\"\x7d,\"host\":\"".toList ++ r.host.getD [] ++ "\",\"port\":\"".toList ++
    r.port.getD [] ++ "\",\"threat\":\"".toList ++ r.threat.getD [] ++ "\",\"description\":\"".toList ++
    r.description.getD [] ++ "\",\"qod\":".toList ++ (Int.repr r.qod).toList ++ "\x7d".toList)

/-- The array `strncat` builds in `char results_array[8192]`; `none` when the closing
`strcat` writes past it. -/
def resultsArray (results : List ScanResult) : Option (List Char) :=
  let items := (results.enum.foldl (fun array item =>
    (array ++ resultItem item.1 item.2).take 8191) ['['])
  if items.length < 8191 then some (items ++ [']']) else none

/-- The document `snprintf` writes into `char results[16384]`. -/
def resultsDocument (job : Job) (agentId startedAt completedAt : Option (List Char))
    (array : List Char) : List Char :=
  snprintf 16384 ("\x7b\"job_id\":\"".toList ++ job.jobId ++ "\",\"scan_id\":\"".toList ++ job.scanId ++
    "\",\"agent_id\":\"".toList ++ printfString agentId ++
    "\",\"status\":\"completed\",\"started_at\":\"".toList ++ startedAt.getD [] ++
    "\",\"completed_at\":\"".toList ++ completedAt.getD [] ++ "\",\"results\":".toList ++ array ++
    "\x7d".toList)

/-- The results `job_execute` collects: a scan of the two test OIDs with `openvas-nasl`, the
basic checks without it. A failed scan leaves no results. -/
def jobScanResults (env : ExecEnv) : Option (List ScanResult) :=
  if env.script.hasOpenvasNasl then
    (naslExecutorRunScan env.script env.cache jobTestOids "localhost".toList).map fun scan =>
      match scan with
      | .ok results => results
      | .error _ => []
  else some (naslExecutorRunBasicChecks "localhost".toList env.portOpen)

/-- `job_execute`: the results document it hands back; `none` is undefined behaviour. -/
def jobExecute (ctx : AgentContext) (job : Job) (env : ExecEnv) : Option (List Char) := do
  let results ← jobScanResults env
  let array ← resultsArray results
  pure (resultsDocument job ctx.config.agentId env.startedAt env.completedAt array)

section Execute

/-- The items of `job_execute`'s loop, each with the comma of its position. -/
def resultItems (results : List ScanResult) : List Char :=
  (results.enum.map fun item => resultItem item.1 item.2).flatten

theorem resultsArray_eq_some {results : List ScanResult} {array : List Char} :
    resultsArray results = some array ↔
      (resultItems results).length < 8190 ∧ array = '[' :: resultItems results ++ [']'] := by
  have fold : results.enum.foldl (fun array item => (array ++ resultItem item.1 item.2).take 8191) ['['] =
      (['['] ++ resultItems results).take 8191 := by
    rw [resultItems, ← foldl_take_append 8191 _ _ (by decide), List.foldl_map]
  dsimp only [resultsArray]
  rw [fold, List.singleton_append]
  by_cases fits : (resultItems results).length < 8190
  · rw [List.take_of_length_le (by simp; omega), if_pos (by simp; omega), Option.some_inj]
    exact ⟨fun same => ⟨fits, same.symm⟩, fun ⟨_, same⟩ => same.symm⟩
  · rw [if_neg (by simp; omega)]
    exact iff_of_false (fun none => by cases none) fun ⟨short, _⟩ => fits short

theorem length_flatten_le {k : Nat} :
    ∀ {chunks : List (List Char)}, (∀ c ∈ chunks, c.length ≤ k) → chunks.flatten.length ≤ k * chunks.length
  | [], _ => by simp
  | c :: cs, each => by
    have head := each c (List.mem_cons_self _ _)
    have rest := length_flatten_le fun d mem => each d (List.mem_cons_of_mem _ mem)
    rw [List.flatten_cons, List.length_append, List.length_cons, Nat.mul_succ, Nat.add_comm]
    exact Nat.add_le_add rest head

theorem resultItems_length_le (results : List ScanResult) :
    (resultItems results).length ≤ 1023 * results.length := by
  have each : ∀ c ∈ results.enum.map (fun item => resultItem item.1 item.2), c.length ≤ 1023 := by
    simp only [List.mem_map]
    rintro _ ⟨item, -, rfl⟩
    simp [resultItem, snprintf]
  have bound := length_flatten_le each
  rwa [List.length_map, List.enum_length] at bound

theorem jobScanResults_length_le (env : ExecEnv) :
    ∃ results, jobScanResults env = some results ∧ results.length ≤ 3 := by
  unfold jobScanResults
  split_ifs
  · rw [naslExecutorRunScan_ok env.cache (by decide)]
    exact ⟨_, rfl, (length_flatten_filterMap_le env.cache jobTestOids).trans (by decide)⟩
  · refine ⟨_, rfl, ?_⟩
    unfold naslExecutorRunBasicChecks basicCheck
    split_ifs <;> simp

theorem resultsArray_of_few {results : List ScanResult} (few : results.length ≤ 8) :
    resultsArray results = some ('[' :: resultItems results ++ [']']) := by
  have := resultItems_length_le results
  exact resultsArray_eq_some.mpr ⟨by omega, rfl⟩

theorem jobExecute_of_scan {ctx : AgentContext} {job : Job} {env : ExecEnv} {results : List ScanResult}
    (scanned : jobScanResults env = some results) (few : results.length ≤ 3) :
    jobExecute ctx job env = some (resultsDocument job ctx.config.agentId env.startedAt
      env.completedAt ('[' :: resultItems results ++ [']'])) := by
  simp only [jobExecute, scanned, Option.bind_eq_bind, Option.some_bind, resultsArray_of_few (few.trans (by decide))]
  rfl

/-- For every context, job and environment, `job_execute` writes its array within
`char results_array[8192]`: the scan gives at most three results, so every item is appended
whole and the closing bracket fits. -/
theorem job_execute_array_in_bounds (ctx : AgentContext) (job : Job) (env : ExecEnv) :
    ∃ results, jobScanResults env = some results ∧ results.length ≤ 3 ∧
      jobExecute ctx job env = some (resultsDocument job ctx.config.agentId env.startedAt
        env.completedAt ('[' :: resultItems results ++ [']'])) :=
  have ⟨results, scanned, few⟩ := jobScanResults_length_le env
  ⟨results, scanned, few, jobExecute_of_scan scanned few⟩

end Execute

theorem jobPoll_no_jobs (ctx : AgentContext) (outcome : Transport) (jobs : List Job)
    (polled : jobPoll ctx outcome = .ok jobs) : jobs = [] := by
  unfold jobPoll at polled
  split at polled
  · cases polled
  · cases polled
  · split_ifs at polled
    cases polled
    rfl

end GvmAgent
