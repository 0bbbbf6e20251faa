import GvmAgent.Agent
import GvmAgent.Heartbeat
import GvmAgent.JobProcessor
import GvmAgent.JsonWriter

set_option autoImplicit false

/-! The main loop of `agent_run`.

The loop never ends; `agentRun ctx envs n` is the state after its first `n` passes, with a
log of each pass. Pass `i` meets `envs i`: the outcomes of its heartbeat attempts and of its
job poll. `job_poll` never hands out a job (`jobPoll_no_jobs`), so the loop that executes
jobs is never entered. -/

namespace GvmAgent

/-- What one pass of the main loop meets. -/
structure IterationEnv where
  attempts : Nat → AttemptEnv
  poll : Transport

/-- The body of a 200 response. -/
def okBody : Transport → Option (List Char)
  | .failure => none
  | .response status body => if status = 200 then some body else none

/-- What one pass of the main loop did. -/
structure PassLog where
  /-- What `heartbeat_send_with_retry` returned. -/
  heartbeat : AgentError
  /-- The body of the 200 response the heartbeat succeeded with. -/
  reply : Option (List Char)
  /-- What `job_poll` returned, when it was called. -/
  poll : Option AgentError
  /-- The arguments of the pass's `utils_sleep` calls. -/
  sleeps : List Int

/-- The code `job_poll` returns. -/
def pollResult : Except AgentError (List Job) → AgentError
  | .ok _ => .success
  | .error e => e

/-- One pass of the `while (1)` loop. -/
def agentRunStep (ctx : AgentContext) (env : IterationEnv) : Option (AgentContext × PassLog) :=
  (heartbeatSendWithRetry ctx env.attempts).map fun out =>
    let sleeps := out.sleeps ++ [out.ctx.config.heartbeatIntervalSeconds]
    if out.result ≠ .success then (out.ctx, ⟨out.result, none, none, sleeps⟩)
    else
      let reply := okBody (env.attempts out.attempts).transport
      if !out.ctx.authorized then ({ out.ctx with state := .unauthorized }, ⟨.success, reply, none, sleeps⟩)
      else
        let ctx := { out.ctx with state := .active }
        (ctx, ⟨.success, reply, some (pollResult (jobPoll ctx env.poll)), sleeps⟩)

/-- The first `n` passes of `agent_run`. -/
def agentRun (ctx : AgentContext) (envs : Nat → IterationEnv) :
    Nat → Option (AgentContext × List PassLog)
  | 0 => some (ctx, [])
  | n + 1 => (agentRun ctx envs n).bind fun before =>
    (agentRunStep before.1 (envs n)).map fun pass => (pass.1, before.2 ++ [pass.2])

/-- How `heartbeat_send` reads `authorized` out of a body. -/
def decodedAuthorized (body : List Char) : Bool := (heartbeatResponseOf body).authorized

/-- The reply of the last pass whose heartbeat succeeded. -/
def lastReply (logs : List PassLog) : Option (List Char) :=
  logs.foldl (fun acc log => log.reply <|> acc) none

@[simp] theorem lastReply_nil : lastReply [] = none := rfl

@[simp] theorem lastReply_append_single (logs : List PassLog) (log : PassLog) :
    lastReply (logs ++ [log]) = (log.reply <|> lastReply logs) := by
  simp [lastReply, List.foldl_append]

theorem okBody_eq_some {t : Transport} {body : List Char} :
    okBody t = some body ↔ t = .response 200 body := by
  cases t with
  | failure => simp [okBody]
  | response status b =>
    simp only [okBody, Transport.response.injEq]
    split_ifs with h <;> simp [h, eq_comm]

/-- What holds after every pass of the loop, from a context `agent_init` returns. -/
structure RunInv (config : AgentConfig) (envs : Nat → IterationEnv) (ctx : AgentContext)
    (logs : List PassLog) : Prop where
  config : ctx.config = config
  registering : ctx.state = .registering ↔ ∀ log ∈ logs, log.heartbeat ≠ .success
  active : ctx.state = .active ↔ ctx.authorized = true
  authorized : ctx.authorized = (lastReply logs).elim false decodedAuthorized
  replies : ∀ log ∈ logs, log.heartbeat = .success ↔ log.reply.isSome
  polls : ∀ log ∈ logs, log.poll.isSome → ∃ body, log.reply = some body ∧ decodedAuthorized body
  sources : ∀ log ∈ logs, ∀ body, log.reply = some body →
    ∃ i k, ((envs i).attempts k).transport = .response 200 body

section Step

variable {config : AgentConfig} {envs : Nat → IterationEnv} {ctx ctx' : AgentContext}
  {logs : List PassLog} {log : PassLog} {n : Nat}

/-- Everything a pass can do: a failed heartbeat changes nothing but `retry_count`; a
successful one stores the decoded `authorized`, sets the state from it, and polls for jobs
exactly when it is set. -/
theorem agentRunStep_cases (step : agentRunStep ctx (envs n) = some (ctx', log)) :
    (log.heartbeat ≠ .success ∧ log.reply = none ∧ log.poll = none ∧ ctx'.config = ctx.config ∧
      ctx'.state = ctx.state ∧ ctx'.authorized = ctx.authorized) ∨
    (log.heartbeat = .success ∧ ∃ k body, ((envs n).attempts k).transport = .response 200 body ∧
      log.reply = some body ∧ ctx'.config = ctx.config ∧
      ctx'.authorized = decodedAuthorized body ∧
      (ctx'.state = if decodedAuthorized body then .active else .unauthorized) ∧
      (log.poll.isSome ↔ decodedAuthorized body)) := by
  unfold agentRunStep at step
  obtain ⟨out, retry, hout⟩ := Option.map_eq_some'.mp step
  unfold heartbeatSendWithRetry at retry
  split_ifs at retry
  rcases retryLoop_cases retry with ⟨success, body, reply, hctx⟩ | ⟨failed, hctx⟩
  · have decoded : out.ctx.authorized = decodedAuthorized body := by rw [hctx]; rfl
    simp only [success, ne_eq, not_true_eq_false, if_false, (okBody_eq_some).mpr reply] at hout
    refine .inr ⟨?_, out.attempts, body, reply, ?_⟩
    · split at hout <;> cases hout <;> rfl
    · cases h : decodedAuthorized body <;> rw [h] at decoded <;>
        simp only [decoded, Bool.not_false, Bool.not_true, if_true, if_false] at hout <;>
        cases hout <;> simp [hctx, heartbeatUpdate]
  · simp only [failed, ne_eq, not_false_eq_true, if_true] at hout
    cases hout
    exact .inl ⟨failed, rfl, rfl, by rw [hctx], by rw [hctx], by rw [hctx]⟩

theorem runInv_step (inv : RunInv config envs ctx logs)
    (step : agentRunStep ctx (envs n) = some (ctx', log)) :
    RunInv config envs ctx' (logs ++ [log]) := by
  rcases agentRunStep_cases step with ⟨failed, noReply, noPoll, sameConfig, sameState, sameAuth⟩ |
    ⟨success, k, body, transport, reply, sameConfig, decoded, state, polled⟩
  · refine ⟨sameConfig.trans inv.config, ?_, ?_, ?_, ?_, ?_, ?_⟩
    · simp only [sameState, List.mem_append, List.mem_singleton]
      exact inv.registering.trans ⟨fun h l m => m.elim (h l) (· ▸ failed), fun h l m => h l (.inl m)⟩
    · rw [sameState, sameAuth]
      exact inv.active
    · simp [noReply, sameAuth, inv.authorized]
    · exact List.forall_mem_append.mpr ⟨inv.replies, by simp [failed, noReply]⟩
    · exact List.forall_mem_append.mpr ⟨inv.polls, by simp [noPoll]⟩
    · exact List.forall_mem_append.mpr ⟨inv.sources, by simp [noReply]⟩
  · refine ⟨sameConfig.trans inv.config, ?_, ?_, ?_, ?_, ?_, ?_⟩
    · constructor
      · intro registering
        rw [state] at registering
        split at registering <;> cases registering
      · intro none
        exact absurd success (none log (List.mem_append_right _ (List.mem_singleton_self _)))
    · rw [state, decoded]
      split <;> simp_all
    · simp [reply, decoded]
    · exact List.forall_mem_append.mpr ⟨inv.replies, by simp [success, reply]⟩
    · exact List.forall_mem_append.mpr ⟨inv.polls, by simpa [reply] using polled.mp⟩
    · refine List.forall_mem_append.mpr ⟨inv.sources, ?_⟩
      simp only [List.mem_singleton, forall_eq, reply, Option.some.injEq, forall_eq']
      exact ⟨n, k, transport⟩

end Step

theorem runInv_of_agentRun {ctx₀ ctx : AgentContext} {envs : Nat → IterationEnv}
    (initial : ctx₀.state = .registering ∧ ctx₀.authorized = false) :
    ∀ {n : Nat} {logs : List PassLog}, agentRun ctx₀ envs n = some (ctx, logs) →
      RunInv ctx₀.config envs ctx logs := by
  intro n
  induction n generalizing ctx with
  | zero =>
    intro logs run
    cases run
    refine ⟨rfl, ?_, ?_, ?_, ?_, ?_, ?_⟩ <;> simp [initial]
  | succ n ih =>
    intro logs run
    obtain ⟨⟨ctx', logs'⟩, before, after⟩ := Option.bind_eq_some.mp run
    obtain ⟨⟨ctx'', log⟩, pass, done⟩ := Option.map_eq_some'.mp after
    obtain ⟨rfl, rfl⟩ := Prod.mk.inj done
    exact runInv_step (ih before) pass

theorem lastReply_foldl_mem (logs : List PassLog) (acc : Option (List Char)) {body : List Char}
    (last : logs.foldl (fun acc log => log.reply <|> acc) acc = some body) :
    acc = some body ∨ ∃ log ∈ logs, log.reply = some body := by
  induction logs generalizing acc with
  | nil => exact .inl last
  | cons log logs ih =>
    rcases ih _ last with first | ⟨l, m, r⟩
    · cases h : log.reply with
      | none => simp only [h, Option.none_orElse] at first; exact .inl first
      | some b =>
        simp only [h, Option.some_orElse] at first
        exact .inr ⟨log, List.mem_cons_self _ _, h.trans first⟩
    · exact .inr ⟨l, List.mem_cons_of_mem _ m, r⟩

theorem lastReply_mem {logs : List PassLog} {body : List Char} (last : lastReply logs = some body) :
    ∃ log ∈ logs, log.reply = some body :=
  (lastReply_foldl_mem logs none last).resolve_left (by simp)

/-- The reply's top-level member `authorized` is the JSON value `true`, in a text of the kind
the helpers read right. -/
def AuthorizedReply (body : List Char) : Prop :=
  ∃ ms, KeyedObjectText "authorized".toList ms body ∧ ("authorized".toList, .bool true) ∈ ms

theorem authorizedKey : PlainKey "authorized".toList :=
  ⟨by decide, by decide, by decide, by decide, by decide⟩

theorem decodedAuthorized_iff {ms : List (List Char × JsonValue)} {body : List Char}
    (text : KeyedObjectText "authorized".toList ms body) :
    decodedAuthorized body = true ↔ AuthorizedReply body :=
  ⟨fun decoded => ⟨ms, text, (parseBool_true_iff authorizedKey text).mp decoded⟩,
    fun ⟨_, text', mem⟩ => (parseBool_true_iff authorizedKey text').mpr mem⟩

/-- As long as every 200 body the Controller sends is a JSON text of an object whose member
`authorized` is written as the helpers read it and in which `authorized` is met nowhere else, the
agent polls for jobs only after a heartbeat whose reply says `"authorized": true`; it is
`REGISTERING` until its first successful heartbeat, `ACTIVE` exactly when it is authorized, and
authorized exactly when the last successful heartbeat's reply said so. -/
theorem agent_run_polls_only_when_authorized {ctx₀ ctx : AgentContext}
    {envs : Nat → IterationEnv} {n : Nat} {logs : List PassLog}
    (initial : ctx₀.state = .registering ∧ ctx₀.authorized = false)
    (replies : ∀ i k body, ((envs i).attempts k).transport = .response 200 body →
      ∃ ms, KeyedObjectText "authorized".toList ms body)
    (run : agentRun ctx₀ envs n = some (ctx, logs)) :
    (∀ log ∈ logs, log.poll.isSome →
      log.heartbeat = .success ∧ ∃ body, log.reply = some body ∧ AuthorizedReply body) ∧
    (ctx.state = .registering ↔ ∀ log ∈ logs, log.heartbeat ≠ .success) ∧
    (ctx.state = .active ↔ ctx.authorized = true) ∧
    (ctx.authorized = true ↔ ∃ body, lastReply logs = some body ∧ AuthorizedReply body) := by
  have inv := runInv_of_agentRun initial run
  have keyed : ∀ log ∈ logs, ∀ body, log.reply = some body →
      (decodedAuthorized body = true ↔ AuthorizedReply body) := by
    intro log mem body reply
    obtain ⟨i, k, transport⟩ := inv.sources log mem body reply
    obtain ⟨ms, text⟩ := replies i k body transport
    exact decodedAuthorized_iff text
  refine ⟨fun log mem polled => ?_, inv.registering, inv.active, ?_⟩
  · obtain ⟨body, reply, decoded⟩ := inv.polls log mem polled
    exact ⟨(inv.replies log mem).mpr (by simp [reply]), body, reply,
      (keyed log mem body reply).mp decoded⟩
  · rw [inv.authorized]
    cases last : lastReply logs with
    | none => simp
    | some body =>
      obtain ⟨log, mem, reply⟩ := lastReply_mem last
      simpa using keyed log mem body reply

section Sleeps

end Sleeps

/-- The pass in which every attempt gets the reply `body` and the poll finds no job. -/
def replyingEnv (body : List Char) : IterationEnv :=
  ⟨fun _ => ⟨.response 200 body, 1700000000, 0⟩, .response 200 "\x7b\"jobs\": []\x7d".toList⟩

/-- The reply the Controller's API documents for an accepted heartbeat, pretty-printed. -/
def authorizedReplyText : List Char :=
  ("\x7b\n  \"status\": \"accepted\",\n  \"config_updated\": false,\n" ++
    "  \"next_heartbeat_in_seconds\": 600,\n  \"authorized\": true\n\x7d").toList

/-- The members of that reply. -/
def authorizedReply : List (List Char × JsonValue) :=
  [("status".toList, .string "accepted".toList), ("config_updated".toList, .bool false),
    ("next_heartbeat_in_seconds".toList, .number 600), ("authorized".toList, .bool true)]

/-- One pass against a Controller that answers with the documented reply. -/
theorem agent_run_authorized_pass :
    (sampleContext.state = .registering ∧ sampleContext.authorized = false) ∧
    (∀ (_ : Nat) (k : Nat) (body : List Char),
      ((replyingEnv authorizedReplyText).attempts k).transport = .response 200 body →
      ∃ ms, KeyedObjectText "authorized".toList ms body) ∧
    ∃ ctx logs, agentRun sampleContext (fun _ => replyingEnv authorizedReplyText) 1 = some (ctx, logs) ∧
      ((∀ log ∈ logs, log.poll.isSome →
          log.heartbeat = .success ∧ ∃ body, log.reply = some body ∧ AuthorizedReply body) ∧
        (ctx.state = .registering ↔ ∀ log ∈ logs, log.heartbeat ≠ .success) ∧
        (ctx.state = .active ↔ ctx.authorized = true) ∧
        (ctx.authorized = true ↔ ∃ body, lastReply logs = some body ∧ AuthorizedReply body)) := by
  have initial : sampleContext.state = .registering ∧ sampleContext.authorized = false := ⟨rfl, rfl⟩
  have indent : Style.json.Ws ['\n', ' ', ' '] := by unfold Style.Ws; decide
  have blank : Style.plain.Ws [' '] := by unfold Style.Ws; decide
  have name : ∀ s : List Char, JsonLiteral s → StringText .json s s := fun _ => StringText.ofLiteral _
  have keyed : KeyedText ["authorized".toList] authorizedReply authorizedReplyText :=
    KeyedText.cast (by rfl) (.object (List.Perm.refl _) (Style.ws_nil _)
      (.cons (.other (by decide) indent (name _ (by decide)) (Style.ws_nil _)
          (.element (blank.mono Style.plain_le_json) (.literal _ (by decide)) (Style.ws_nil _)))
        (.cons (.other (by decide) indent (name _ (by decide)) (Style.ws_nil _)
            (.element (blank.mono Style.plain_le_json) .falseLit (Style.ws_nil _)))
          (.cons (.other (by decide) indent (name _ (by decide)) (Style.ws_nil _)
              (.element (blank.mono Style.plain_le_json) (.number (NumberText.ofNat _ 600))
                (Style.ws_nil _)))
            (.one (.key (List.mem_singleton_self _) indent (StringText.ofLiteral _ (by decide))
              (Style.ws_nil _) blank .trueLit (show Style.json.Ws ['\n'] by unfold Style.Ws; decide))))))
      (Style.ws_nil _))
  have text : KeyedObjectText "authorized".toList authorizedReply authorizedReplyText := by
    refine ⟨by unfold DistinctKeys; decide, keyed, by decide, ?_⟩
    simp only [authorizedReply, List.mem_cons, List.mem_singleton, List.not_mem_nil, or_false]
    rintro q (rfl | rfl | rfl | rfl) mention <;> cases mention
    exact absurd ‹KeyLike _ _› (by decide)
  have replies : ∀ (_ : Nat) (k : Nat) (body : List Char),
      ((replyingEnv authorizedReplyText).attempts k).transport = .response 200 body →
      ∃ ms, KeyedObjectText "authorized".toList ms body := by
    intro _ k body reply
    obtain ⟨-, rfl⟩ := Transport.response.inj reply
    exact ⟨_, text⟩
  have run : agentRun sampleContext (fun _ => replyingEnv authorizedReplyText) 1 =
      some ({ sampleContext with state := .active, authorized := true, lastHeartbeat := 1700000000 },
        [⟨.success, some authorizedReplyText, some .success, [600]⟩]) := by
    rfl
  exact ⟨initial, replies, _, _, run, agent_run_polls_only_when_authorized initial replies run⟩

/-- The reply whose nested member `a.authorized` is `true` and whose top-level member
`authorized` is `false`. -/
def nestedReplyText : List Char :=
  "\x7b\"a\":\x7b\"authorized\":true\x7d,\"authorized\":false\x7d".toList

/-- The object `nestedReplyText` is a text of. -/
def nestedReply : List (List Char × JsonValue) :=
  [("a".toList, .object [("authorized".toList, .bool true)]), ("authorized".toList, .bool false)]

/-- The agent takes a nested `authorized` for its own: against a reply whose top-level member
`authorized` is `false`, it becomes `ACTIVE` and polls for jobs. -/
theorem agent_run_polls_on_nested_authorized :
    agentRun sampleContext (fun _ => replyingEnv nestedReplyText) 1 =
      some ({ sampleContext with state := .active, authorized := true, lastHeartbeat := 1700000000 },
        [⟨.success, some nestedReplyText, some .success, [600]⟩]) ∧
    DistinctKeys nestedReply ∧ Serializes .json (.object nestedReply) nestedReplyText ∧
    ("authorized".toList, JsonValue.bool false) ∈ nestedReply := by
  refine ⟨by rfl, by simp [DistinctKeys, nestedReply], ?_, by simp [nestedReply]⟩
  have key : ∀ s : List Char, (∀ c ∈ s, c ≠ '"' ∧ c ≠ '\\' ∧ 0x20 ≤ c.toNat) →
      StringText .json s s := fun _ => StringText.ofLiteral _
  exact Grammar.cast (by decide) (.element (Style.ws_nil _)
    (.object (List.Perm.refl _)
      (.membersCons (Style.ws_nil _) (key "a".toList (by decide)) (Style.ws_nil _)
        (.element (Style.ws_nil _)
          (.object (List.Perm.refl _) (.membersOne (Style.ws_nil _) (key "authorized".toList (by decide))
            (Style.ws_nil _) (.element (Style.ws_nil _) .trueLit (Style.ws_nil _))))
          (Style.ws_nil _))
        (.membersOne (Style.ws_nil _) (key "authorized".toList (by decide)) (Style.ws_nil _)
          (.element (Style.ws_nil _) .falseLit (Style.ws_nil _)))))
    (Style.ws_nil _))

end GvmAgent
