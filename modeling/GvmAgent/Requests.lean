import GvmAgent.AutoUpdate
import GvmAgent.Heartbeat
import GvmAgent.JobProcessor

set_option autoImplicit false

/-! The requests the agent builds from its configuration: their URLs and the header lines
that `snprintf` writes into fixed buffers. -/

namespace GvmAgent

theorem snprintf_of_fits {size : Nat} {text : List Char} (fits : text.length < size) :
    snprintf size text = text :=
  List.take_of_length_le (by omega)

theorem authorizationHeader_of_fits {token : List Char} (fits : token.length ≤ 489) :
    authorizationHeader token = "Authorization: Bearer ".toList ++ token :=
  snprintf_of_fits (by simp; omega)

theorem agentIdHeader_of_fits {agentId : List Char} (fits : agentId.length ≤ 243) :
    agentIdHeader (some agentId) = "X-Agent-ID: ".toList ++ agentId :=
  snprintf_of_fits (by simp [printfString]; omega)

theorem resultsPath_of_fits {jobId : List Char} (fits : jobId.length ≤ 483) :
    resultsPath jobId = "/api/v1/agents/jobs/".toList ++ jobId ++ "/results".toList :=
  snprintf_of_fits (by simp; omega)

/-- Two parts of a URL joined by exactly one `/`. -/
def urlJoin (base path : List Char) : List Char :=
  (base.reverse.dropWhile (· == '/')).reverse ++ '/' :: path.dropWhile (· == '/')

theorem utilsBuildUrl_eq_urlJoin {base rest : List Char} (noTrailingSlash : base.getLast? ≠ some '/')
    (noSlash : rest.head? ≠ some '/') : utilsBuildUrl base ('/' :: rest) = urlJoin base ('/' :: rest) := by
  have keep : ∀ l : List Char, l.head? ≠ some '/' → l.dropWhile (· == '/') = l := by
    intro l head
    cases l with
    | nil => rfl
    | cons c l => exact List.dropWhile_cons_of_neg (by simpa using head)
  rw [utilsBuildUrl_of_slash_path, urlJoin, keep _ (by rwa [List.head?_reverse]), List.reverse_reverse,
    List.dropWhile_cons_of_pos (by simp), keep _ noSlash]

/-- Every request the agent builds (the heartbeat, the job poll, the results, the update check
and the download's GET) carries the configured URL, token and id unaltered, as long as the URL
does not end with `/` and the token, the agent id and the job id fit the buffers the headers
and the path are written into. -/
theorem agent_requests_carry_config {ctx : AgentContext} {base token agentId : List Char}
    (url : ctx.config.controllerUrl = some base) (noTrailingSlash : base.getLast? ≠ some '/')
    (auth : ctx.config.authToken = some token) (tokenFits : token.length ≤ 489)
    (id : ctx.config.agentId = some agentId) (idFits : agentId.length ≤ 243) :
    heartbeatRequest ctx = (heartbeatBody ctx).map (fun body =>
      ⟨.post, urlJoin base "/api/v1/agents/heartbeat".toList,
        ["Content-Type: application/json".toList, "Authorization: Bearer ".toList ++ token], body⟩) ∧
    jobPollRequest ctx = some ⟨.get, urlJoin base "/api/v1/agents/jobs".toList,
      ["Accept: application/json".toList, "Authorization: Bearer ".toList ++ token,
        "X-Agent-ID: ".toList ++ agentId], []⟩ ∧
    (∀ jobId resultsJson : List Char, jobId.length ≤ 483 →
      jobSubmitRequest ctx jobId resultsJson = some ⟨.post,
        urlJoin base ("/api/v1/agents/jobs/".toList ++ jobId ++ "/results".toList),
        ["Content-Type: application/json".toList, "Authorization: Bearer ".toList ++ token],
        resultsJson⟩) ∧
    autoUpdateCheckRequest ctx = some ⟨.get, urlJoin base "/api/v1/agents/updates".toList,
      ["Accept: application/json".toList, "Authorization: Bearer ".toList ++ token], []⟩ ∧
    (∀ getUrl : List Char, (httpGet getUrl (some token)).headers =
      ["Accept: application/json".toList, "Authorization: Bearer ".toList ++ token]) := by
  have header := authorizationHeader_of_fits tokenFits
  have join : ∀ rest : List Char, rest.head? ≠ some '/' →
      utilsBuildUrl base ('/' :: rest) = urlJoin base ('/' :: rest) :=
    fun _ noSlash => utilsBuildUrl_eq_urlJoin noTrailingSlash noSlash
  refine ⟨?_, ?_, fun jobId resultsJson jobFits => ?_, ?_, fun getUrl => ?_⟩
  · cases body : heartbeatBody ctx <;>
      simp [heartbeatRequest, heartbeatUrl, url, body, auth, httpPost, header, join]
  · simp [jobPollRequest, jobsUrl, url, auth, id, printfString, header, join,
      agentIdHeader_of_fits idFits]
  · simp [jobSubmitRequest, url, auth, httpPost, header, resultsPath_of_fits jobFits, join]
  · simp [autoUpdateCheckRequest, updateUrl, url, auth, httpGet, header, join]
  · simp [httpGet, header]

/-- The job poll of a registered agent. -/
theorem agent_requests_sample_poll :
    jobPollRequest sampleContext = some ⟨.get,
      urlJoin "https://controller.example".toList "/api/v1/agents/jobs".toList,
      ["Accept: application/json".toList, "Authorization: Bearer ".toList ++ "token".toList,
        "X-Agent-ID: ".toList ++ "5f0c1a2b-3c4d-4e5f-8a6b-7c8d9e0f1a2b".toList], []⟩ :=
  (agent_requests_carry_config rfl (by decide) rfl (by decide) rfl (by decide)).2.1

/-- A configuration file whose URL ends with `/`. -/
def slashConfigText : List Char :=
  "[controller]\nurl = https://controller.example/\nauth_token = token\n".toList

/-- What `config_load` makes of `slashConfigText`. -/
def slashConfig : AgentConfig := { configDefaults with
  controllerUrl := some "https://controller.example/".toList
  authToken := some "token".toList }

/-- The context `agent_init` completes from `slashConfig`. -/
def slashContext : AgentContext :=
  { sampleContext with config := { slashConfig with
      agentId := sampleContext.config.agentId
      hostname := sampleContext.config.hostname } }

theorem authorizationHeader_of_long {token : List Char} (long : 489 < token.length) :
    authorizationHeader token = "Authorization: Bearer ".toList ++ token.take 489 ∧
      authorizationHeader token ≠ "Authorization: Bearer ".toList ++ token := by
  have cut : authorizationHeader token = "Authorization: Bearer ".toList ++ token.take 489 := by
    simp [authorizationHeader, snprintf, List.take_append_eq_append_take]
  refine ⟨cut, fun same => ?_⟩
  have := congrArg List.length (cut.symm.trans same)
  simp at this
  omega

/-- `config_load` accepts a URL with a trailing `/`, and the job poll then goes to
`…//api/v1/agents/jobs`; a token longer than 489 characters is cut in every header. -/
theorem agent_requests_alter_config :
    configLoad (some slashConfigText) = .ok slashConfig ∧
    (jobPollRequest slashContext).map (·.url) =
      some "https://controller.example//api/v1/agents/jobs".toList ∧
    ∀ token : List Char, 489 < token.length →
      authorizationHeader token ≠ "Authorization: Bearer ".toList ++ token :=
  ⟨by rfl, by rfl, fun _ long => (authorizationHeader_of_long long).2⟩

end GvmAgent
