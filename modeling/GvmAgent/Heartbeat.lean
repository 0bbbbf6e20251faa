import GvmAgent.Config
import GvmAgent.HttpClient
import GvmAgent.Utils

set_option autoImplicit false

/-! The heartbeat module: `heartbeat_send` and `heartbeat_send_with_retry`.

Each attempt meets an `AttemptEnv`: the outcome of its POST, the clock when the response is
handled, and the value `rand ()` returns if a jitter is drawn after it. Signed `int` overflow
and a shift into the sign bit are undefined behaviour; the model stops with `none` there.
Logging is left out. -/

namespace GvmAgent

/-- What one heartbeat attempt meets. -/
structure AttemptEnv where
  transport : Transport
  now : Int
  rand : Nat

/-- `heartbeat_response_t`. -/
structure HeartbeatResponse where
  accepted : Bool
  configUpdated : Bool
  nextHeartbeatInSeconds : Int
  authorized : Bool
  deriving DecidableEq, Repr

/-- `"\"%s\""` of one address into `char ip_json[64]`. -/
def ipJson (ip : List Char) : List Char := snprintf 64 ('"' :: ip ++ ['"'])

/-- The array the `strcat`s build in `char ip_addresses_json[1024]`. The text only grows, so
they overflow the buffer (`none`) exactly when the finished text does not fit. -/
def ipAddressesJson (ips : List (List Char)) : Option (List Char) :=
  let text := '[' :: List.intercalate ", ".toList (ips.map ipJson) ++ [']']
  if text.length < 1024 then some text else none

/-- The request body `heartbeat_send` formats into `char json_body[4096]`. -/
def heartbeatBody (ctx : AgentContext) : Option (List Char) :=
  (ipAddressesJson ctx.ipAddresses).map fun ips =>
    snprintf 4096 ("\x7b\"agent_id\": \"".toList ++ printfString ctx.config.agentId ++
      "\", \"hostname\": \"".toList ++ printfString ctx.config.hostname ++
      "\", \"connection_status\": \"active\", \"ip_addresses\": ".toList ++ ips ++
      ", \"agent_version\": \"".toList ++ agentVersion ++
      "\", \"operating_system\": \"".toList ++ ctx.operatingSystem.getD [] ++
      "\", \"architecture\": \"".toList ++ ctx.architecture.getD [] ++ "\"\x7d".toList)

/-- The heartbeat endpoint; `utils_build_url` fails on a NULL base. -/
def heartbeatUrl (config : AgentConfig) : Option (List Char) :=
  config.controllerUrl.map (utilsBuildUrl · "/api/v1/agents/heartbeat".toList)

/-- The POST `heartbeat_send` hands to `http_post`. -/
def heartbeatRequest (ctx : AgentContext) : Option HttpRequest := do
  let url ← heartbeatUrl ctx.config
  let body ← heartbeatBody ctx
  pure (httpPost url ctx.config.authToken body)

/-- What `heartbeat_send` decodes from a 200 body into the zeroed response. -/
def heartbeatResponseOf (body : List Char) : HeartbeatResponse where
  accepted := (httpParseJsonString body "status".toList).any (· == "accepted".toList)
  configUpdated := (httpParseJsonBool body "config_updated".toList).getD false
  nextHeartbeatInSeconds := (httpParseJsonInt body "next_heartbeat_in_seconds".toList).getD 0
  authorized := (httpParseJsonBool body "authorized".toList).getD false

/-- `heartbeat_send` against what its POST meets. -/
def heartbeatSend (ctx : AgentContext) (env : AttemptEnv) :
    Option (AgentError × AgentContext × Option HeartbeatResponse) :=
  match heartbeatUrl ctx.config with
  | none => some (.networkUnreachable, ctx, none)
  | some _ =>
    if (heartbeatBody ctx).isNone then none
    else match env.transport with
      | .failure => some (.networkUnreachable, ctx, none)
      | .response status body =>
        if status = 401 then some (.authFailed, ctx, none)
        else if status ≠ 200 then some (.serverError, ctx, none)
        else
          let response := heartbeatResponseOf body
          some (.success, { ctx with authorized := response.authorized, lastHeartbeat := env.now },
            some response)

/-- What one call of `heartbeat_send_with_retry` leaves behind. -/
structure RetryOutcome where
  result : AgentError
  ctx : AgentContext
  /-- `*response_out`, set by the attempt that succeeded. -/
  response : Option HeartbeatResponse
  /-- The number of `heartbeat_send` calls made. -/
  attempts : Nat
  /-- The arguments of the `utils_sleep` calls, in order. -/
  sleeps : List Int

/-- `base_delay * (1 << (attempt - 1))`; `none` when the shift or the product leaves `int`. -/
def retryBackoff (baseDelay : Int) (attempt : Nat) : Option Int :=
  if attempt - 1 < 31 ∧ IntRange (baseDelay * 2 ^ (attempt - 1)) then
    some (baseDelay * 2 ^ (attempt - 1))
  else none

/-- The sleeps after a failed attempt that is not the last one. -/
def retrySleeps (delay jitter : Int) : List Int :=
  delay :: if 0 < jitter then [jitter / 1000] else []

/-- The `for` loop of `heartbeat_send_with_retry` from `attempt` on, with `remaining` passes
left; the loop that runs out bumps `retry_count`. -/
def retryLoop (maxAttempts baseDelay maxJitter : Int) (envs : Nat → AttemptEnv) :
    Nat → Nat → AgentContext → Option RetryOutcome
  | 0, attempt, ctx =>
    if IntRange (ctx.retryCount + 1) then
      some ⟨.networkUnreachable, { ctx with retryCount := ctx.retryCount + 1 }, none, attempt - 1, []⟩
    else none
  | remaining + 1, attempt, ctx => do
    let (result, ctx, response) ← heartbeatSend ctx (envs attempt)
    if result = .success then
      pure ⟨.success, { ctx with retryCount := 0 }, response, attempt, []⟩
    else if result = .authFailed then
      pure ⟨.authFailed, ctx, none, attempt, []⟩
    else if (attempt : Int) < maxAttempts then
      let delay ← retryBackoff baseDelay attempt
      let jitter := utilsGetRandomJitterMs maxJitter (envs attempt).rand
      let rest ← retryLoop maxAttempts baseDelay maxJitter envs remaining (attempt + 1) ctx
      pure { rest with sleeps := retrySleeps delay jitter ++ rest.sleeps }
    else retryLoop maxAttempts baseDelay maxJitter envs remaining (attempt + 1) ctx

/-- `heartbeat_send_with_retry`; `max_jitter_seconds * 1000` is computed on entry, and the
loop makes `retry_attempts` passes when that is positive. -/
def heartbeatSendWithRetry (ctx : AgentContext) (envs : Nat → AttemptEnv) :
    Option RetryOutcome :=
  if IntRange (ctx.config.maxJitterSeconds * 1000) then
    retryLoop ctx.config.retryAttempts ctx.config.retryDelaySeconds
      (ctx.config.maxJitterSeconds * 1000) envs ctx.config.retryAttempts.toNat 1 ctx
  else none

/-- The context a successful attempt leaves: `authorized` as decoded, the clock stored. -/
def heartbeatUpdate (ctx : AgentContext) (body : List Char) (now : Int) : AgentContext :=
  { ctx with authorized := (heartbeatResponseOf body).authorized, lastHeartbeat := now }

section Send

variable {ctx : AgentContext} {env : AttemptEnv}
  {result : AgentError} {ctx' : AgentContext} {response : Option HeartbeatResponse}

/-- Everything one `heartbeat_send` can do: fail and leave the context alone, or meet a 200
response and store what it decodes. -/
theorem heartbeatSend_cases (sent : heartbeatSend ctx env = some (result, ctx', response)) :
    (result ≠ .success ∧ ctx' = ctx ∧ response = none) ∨
    (result = .success ∧ ∃ body, env.transport = .response 200 body ∧
      ctx' = heartbeatUpdate ctx body env.now ∧
      response = some (heartbeatResponseOf body)) := by
  unfold heartbeatSend at sent
  split at sent
  · cases sent
    exact .inl ⟨by decide, rfl, rfl⟩
  · split_ifs at sent
    split at sent
    · cases sent
      exact .inl ⟨by decide, rfl, rfl⟩
    · rename_i status body transport
      split_ifs at sent with unauthorized ok
      · cases sent
        exact .inl ⟨by decide, rfl, rfl⟩
      · cases sent
        exact .inl ⟨by decide, rfl, rfl⟩
      · cases sent
        exact .inr ⟨rfl, body, by rw [transport, not_not.mp ok], rfl, rfl⟩

theorem heartbeatSend_of_failure {url body : List Char} (hasUrl : heartbeatUrl ctx.config = some url)
    (hasBody : heartbeatBody ctx = some body) (failure : env.transport = .failure) :
    heartbeatSend ctx env = some (.networkUnreachable, ctx, none) := by
  simp [heartbeatSend, hasUrl, hasBody, failure]

end Send

section Retry

variable {maxAttempts baseDelay maxJitter : Int} {envs : Nat → AttemptEnv}

theorem retryLoop_zero (attempt : Nat) (ctx : AgentContext) (range : IntRange (ctx.retryCount + 1)) :
    retryLoop maxAttempts baseDelay maxJitter envs 0 attempt ctx =
      some ⟨.networkUnreachable, { ctx with retryCount := ctx.retryCount + 1 }, none, attempt - 1, []⟩ := by
  simp [retryLoop, range]

theorem retryLoop_of_failed {remaining attempt : Nat} {ctx : AgentContext} {result : AgentError}
    (sent : heartbeatSend ctx (envs attempt) = some (result, ctx, none))
    (failed : result ≠ .success) (notAuth : result ≠ .authFailed) (more : (attempt : Int) < maxAttempts) :
    retryLoop maxAttempts baseDelay maxJitter envs (remaining + 1) attempt ctx =
      (retryBackoff baseDelay attempt).bind fun delay =>
        (retryLoop maxAttempts baseDelay maxJitter envs remaining (attempt + 1) ctx).bind fun rest =>
          some { rest with
            sleeps := retrySleeps delay (utilsGetRandomJitterMs maxJitter (envs attempt).rand) ++
              rest.sleeps } := by
  simp only [retryLoop, sent, Option.bind_eq_bind, Option.some_bind, failed, notAuth, if_false, more,
    if_true]
  rfl

/-- What the whole loop can do: succeed on its last attempt with a 200 response, whose
decoding is stored, or fail with every field but `retry_count` as it was. -/
theorem retryLoop_cases {remaining attempt : Nat} {ctx : AgentContext} {out : RetryOutcome}
    (run : retryLoop maxAttempts baseDelay maxJitter envs remaining attempt ctx = some out) :
    (out.result = .success ∧ ∃ body, (envs out.attempts).transport = .response 200 body ∧
      out.ctx = { heartbeatUpdate ctx body (envs out.attempts).now with retryCount := 0 }) ∨
    (out.result ≠ .success ∧ out.ctx = { ctx with retryCount := out.ctx.retryCount }) := by
  induction remaining generalizing attempt out with
  | zero =>
    simp only [retryLoop] at run
    split_ifs at run
    cases run
    exact .inr ⟨by simp, rfl⟩
  | succ remaining ih =>
    simp only [retryLoop, Option.bind_eq_bind] at run
    obtain ⟨⟨result, ctx', response⟩, sent, run⟩ := Option.bind_eq_some.mp run
    rcases heartbeatSend_cases sent with ⟨failed, rfl, rfl⟩ | ⟨rfl, body, reply, rfl, rfl⟩
    · simp only [failed, if_false] at run
      split_ifs at run with auth more
      · cases run
        exact .inr ⟨by simp, rfl⟩
      · obtain ⟨delay, -, run⟩ := Option.bind_eq_some.mp run
        obtain ⟨rest, restRun, done⟩ := Option.bind_eq_some.mp run
        cases done
        exact @ih _ rest restRun
      · exact ih run
    · simp only [if_true] at run
      cases run
      exact .inl ⟨rfl, body, reply, rfl⟩

/-- The sleeps after the failed attempts `first`, …, `first + count - 1`: the backoff
`base_delay * 2 ^ (attempt - 1)` seconds, then the jitter's whole seconds when it is
positive. -/
def backoffSchedule (baseDelay maxJitter : Int) (envs : Nat → AttemptEnv) (first count : Nat) :
    List Int :=
  (List.range' first count).flatMap fun k =>
    retrySleeps (baseDelay * 2 ^ (k - 1)) (utilsGetRandomJitterMs maxJitter (envs k).rand)

theorem retryBackoff_eq_some {attempt : Nat} {delay : Int} (backoff : retryBackoff baseDelay attempt = some delay) :
    delay = baseDelay * 2 ^ (attempt - 1) ∧ IntRange delay := by
  unfold retryBackoff at backoff
  split_ifs at backoff with range
  obtain rfl := Option.some_inj.mp backoff
  exact ⟨rfl, range.2⟩

theorem jitter_seconds_intRange (range : IntRange maxJitter) (r : Nat) :
    IntRange (utilsGetRandomJitterMs maxJitter r / 1000) := by
  have := utilsGetRandomJitterMs_bounds maxJitter r
  have := range.2
  have : max maxJitter 1 ≤ 2 ^ 31 := max_le (by omega) (by decide)
  constructor <;> omega

theorem retryLoop_sleeps_intRange (range : IntRange maxJitter) :
    ∀ {remaining attempt : Nat} {ctx : AgentContext} {out : RetryOutcome},
      retryLoop maxAttempts baseDelay maxJitter envs remaining attempt ctx = some out →
      ∀ s ∈ out.sleeps, IntRange s
  | 0, attempt, ctx, out, run => by
    simp only [retryLoop] at run
    split_ifs at run
    cases run
    exact fun _ none => absurd none (List.not_mem_nil _)
  | remaining + 1, attempt, ctx, out, run => by
    simp only [retryLoop, Option.bind_eq_bind] at run
    obtain ⟨⟨result, ctx', response⟩, -, run⟩ := Option.bind_eq_some.mp run
    split_ifs at run
    · cases run
      exact fun _ none => absurd none (List.not_mem_nil _)
    · cases run
      exact fun _ none => absurd none (List.not_mem_nil _)
    · obtain ⟨delay, backoff, run⟩ := Option.bind_eq_some.mp run
      obtain ⟨rest, restRun, done⟩ := Option.bind_eq_some.mp run
      cases done
      intro s mem
      simp only [retrySleeps, List.cons_append, List.mem_cons, List.mem_append] at mem
      rcases mem with rfl | jitter | later
      · exact (retryBackoff_eq_some backoff).2
      · split_ifs at jitter
        · obtain rfl := List.mem_singleton.mp jitter
          exact jitter_seconds_intRange range _
        · cases jitter
      · exact retryLoop_sleeps_intRange range restRun s later
    · exact retryLoop_sleeps_intRange range run

/-- The loop from `attempt` on, with the passes left that `retry_attempts` allows: it makes the
attempts `attempt`, …, `out.attempts`, at least one when a pass is left, and sleeps the
backoff after each failed attempt but the last it makes. -/
theorem retryLoop_schedule :
    ∀ {remaining attempt : Nat} {ctx : AgentContext} {out : RetryOutcome},
      attempt + remaining = maxAttempts.toNat + 1 →
      retryLoop maxAttempts baseDelay maxJitter envs remaining attempt ctx = some out →
      attempt ≤ out.attempts + 1 ∧ (0 < remaining → attempt ≤ out.attempts) ∧
        out.attempts + 1 ≤ attempt + remaining ∧
        out.sleeps = backoffSchedule baseDelay maxJitter envs attempt (out.attempts - attempt)
  | 0, attempt, ctx, out, passes, run => by
    simp only [retryLoop] at run
    split_ifs at run
    cases run
    exact ⟨by dsimp only; omega, fun none => absurd none (Nat.lt_irrefl 0), by dsimp only; omega,
      by simp [backoffSchedule, Nat.sub_eq_zero_of_le (Nat.sub_le attempt 1)]⟩
  | remaining + 1, attempt, ctx, out, passes, run => by
    simp only [retryLoop, Option.bind_eq_bind] at run
    obtain ⟨⟨result, ctx', response⟩, sent, run⟩ := Option.bind_eq_some.mp run
    have ended : ∀ out : RetryOutcome, out.attempts = attempt → out.sleeps = [] →
        attempt ≤ out.attempts + 1 ∧ (0 < remaining + 1 → attempt ≤ out.attempts) ∧
          out.attempts + 1 ≤ attempt + (remaining + 1) ∧
          out.sleeps = backoffSchedule baseDelay maxJitter envs attempt (out.attempts - attempt) :=
      fun out made none => ⟨by omega, fun _ => made.ge, by omega, by simp [none, made, backoffSchedule]⟩
    rcases heartbeatSend_cases sent with ⟨failed, rfl, rfl⟩ | ⟨rfl, -⟩
    · simp only [failed, if_false] at run
      split_ifs at run with auth more
      · cases run
        exact ended _ rfl rfl
      · obtain ⟨delay, backoff, run⟩ := Option.bind_eq_some.mp run
        obtain ⟨rest, restRun, done⟩ := Option.bind_eq_some.mp run
        cases done
        obtain ⟨-, later, bound, sleeps⟩ := retryLoop_schedule (by omega) restRun
        have made := later (by omega)
        refine ⟨by dsimp only; omega, fun _ => by dsimp only; omega, by dsimp only; omega, ?_⟩
        rw [show rest.attempts - attempt = rest.attempts - (attempt + 1) + 1 by omega, backoffSchedule,
          List.range'_succ, List.flatMap_cons, ← backoffSchedule, ← sleeps, (retryBackoff_eq_some backoff).1]
      · obtain ⟨first, -, bound, sleeps⟩ := retryLoop_schedule (by omega) run
        have last : remaining = 0 := by omega
        subst last
        exact ended out (by omega) (by rw [sleeps, Nat.sub_eq_zero_of_le (by omega)]; rfl)
    · simp only [if_true] at run
      cases run
      exact ended _ rfl rfl

/-- Every run of `heartbeat_send_with_retry` makes at most `retry_attempts` attempts and calls
`utils_sleep`, after each failed attempt but the last it makes, with
`retry_delay_seconds * 2 ^ (attempt - 1)` and then with the jitter's whole seconds. Each call
sleeps its argument when that is not negative and `2 ^ 32` seconds more than it when it is. -/
theorem heartbeat_retry_backoff_schedule {ctx : AgentContext} {out : RetryOutcome}
    (run : heartbeatSendWithRetry ctx envs = some out) :
    out.attempts ≤ ctx.config.retryAttempts.toNat ∧
      out.sleeps = backoffSchedule ctx.config.retryDelaySeconds (ctx.config.maxJitterSeconds * 1000) envs 1
        (out.attempts - 1) ∧
      ∀ s ∈ out.sleeps, (utilsSleep s : Int) = if 0 ≤ s then s else s + 2 ^ 32 := by
  unfold heartbeatSendWithRetry at run
  split_ifs at run with range
  obtain ⟨-, -, bound, sleeps⟩ := retryLoop_schedule (Nat.add_comm _ _) run
  exact ⟨by omega, sleeps, fun s mem => utilsSleep_of_intRange (retryLoop_sleeps_intRange range run s mem)⟩

/-- An agent with the default retry settings whose Controller cannot be reached. -/
def unreachableContext : AgentContext where
  config := { configDefaults with controllerUrl := some "https://controller.example".toList }
  state := .registering
  authorized := false
  lastHeartbeat := 0
  retryCount := 0
  operatingSystem := none
  architecture := none
  ipAddresses := []

theorem heartbeat_retry_unreachable_schedule :
    ∃ out, heartbeatSendWithRetry unreachableContext (fun k => ⟨.failure, 0, 7 * k⟩) = some out ∧
      out.attempts ≤ unreachableContext.config.retryAttempts.toNat ∧
      out.sleeps = backoffSchedule unreachableContext.config.retryDelaySeconds
        (unreachableContext.config.maxJitterSeconds * 1000) (fun k => ⟨.failure, 0, 7 * k⟩) 1 (out.attempts - 1) ∧
      ∀ s ∈ out.sleeps, (utilsSleep s : Int) = if 0 ≤ s then s else s + 2 ^ 32 :=
  ⟨_, rfl, heartbeat_retry_backoff_schedule rfl⟩

end Retry

section Overflow

/-- The configuration file that sets `retry.attempts` to `0`. -/
def noRetryConfigText : List Char :=
  "[controller]\nurl = https://controller.example\nauth_token = token\n[retry]\nattempts = 0\n".toList

/-- What `config_load` makes of `noRetryConfigText`. -/
def noRetryConfig : AgentConfig := { configDefaults with
  controllerUrl := some "https://controller.example".toList
  authToken := some "token".toList
  retryAttempts := 0 }

/-- `config_load` accepts `attempts = 0`, and then `heartbeat_send_with_retry` gives up at
once: no heartbeat is sent, and the failure is counted. -/
theorem heartbeat_send_with_retry_no_attempt :
    configLoad (some noRetryConfigText) = .ok noRetryConfig ∧
      ∀ (ctx : AgentContext) (envs : Nat → AttemptEnv),
        heartbeatSendWithRetry { ctx with config := noRetryConfig, retryCount := 0 } envs =
          some ⟨.networkUnreachable, { ctx with config := noRetryConfig, retryCount := 1 }, none, 0, []⟩ :=
  ⟨by rfl, fun _ _ => by simp [heartbeatSendWithRetry, retryLoop, IntRange, noRetryConfig, configDefaults]⟩

/-- The configuration file that sets `retry.delay_in_seconds` to `2 ^ 28`. -/
def longDelayConfigText : List Char :=
  ("[controller]\nurl = https://controller.example\nauth_token = token\n[retry]\n" ++
    "delay_in_seconds = 268435456\n").toList

/-- What `config_load` makes of `longDelayConfigText`. -/
def longDelayConfig : AgentConfig := { configDefaults with
  controllerUrl := some "https://controller.example".toList
  authToken := some "token".toList
  retryDelaySeconds := 268435456 }

theorem retry_overflow_of_failures {ctx : AgentContext} (config : ctx.config = longDelayConfig)
    {envs : Nat → AttemptEnv} (failing : ∀ k, (envs k).transport = .failure) :
    heartbeatSendWithRetry ctx envs = none := by
  rcases hasBody : heartbeatBody ctx with _ | body
  · have undefined : ∀ k, heartbeatSend ctx (envs k) = none := fun k => by
      rw [heartbeatSend, heartbeatUrl, config]
      simp only [hasBody, Option.isNone_none, if_true]
      rfl
    rw [heartbeatSendWithRetry, config, if_pos (by decide)]
    show retryLoop _ _ _ envs (4 + 1) 1 ctx = none
    simp only [retryLoop, undefined]
    rfl
  · have sent := fun k =>
      heartbeatSend_of_failure (by rw [heartbeatUrl, config]; rfl) hasBody (failing k)
    simp [heartbeatSendWithRetry, config, longDelayConfig, configDefaults, IntRange, retryBackoff,
      retryLoop_of_failed (sent _) (by decide) (by decide)]

/-- `config_load` accepts a delay of `2 ^ 28` seconds with the default five attempts. When the
first four attempts do not get through, the backoff after the fourth is `2 ^ 28 * 8 = 2 ^ 31`,
which overflows `int`. -/
theorem heartbeat_send_with_retry_backoff_overflow :
    configLoad (some longDelayConfigText) = .ok longDelayConfig ∧
      retryBackoff longDelayConfig.retryDelaySeconds 4 = none ∧
      ∀ (ctx : AgentContext) (now : Nat → Int) (rand : Nat → Nat),
        heartbeatSendWithRetry { ctx with config := longDelayConfig }
          (fun k => ⟨.failure, now k, rand k⟩) = none :=
  ⟨by rfl, by decide, fun _ _ _ => retry_overflow_of_failures rfl fun _ => rfl⟩

end Overflow

end GvmAgent
