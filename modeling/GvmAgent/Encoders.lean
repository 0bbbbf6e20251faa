import GvmAgent.Agent
import GvmAgent.Heartbeat
import GvmAgent.JobProcessor
import GvmAgent.JsonWriter

set_option autoImplicit false

/-! What the agent's JSON encoders produce. The `snprintf` templates of `job_execute` and
`heartbeat_send` put each string between quotes as it is, without escaping: what they write is
the JSON text of the object they mean when every string is a literal and the buffers hold the
text, and need not be JSON at all otherwise. -/

namespace GvmAgent

theorem json_ws_space : Style.json.Ws [' '] := by simp [Style.Ws, Style.json]

section Heartbeat

/-- The object `heartbeat_send` means to send. -/
def heartbeatJson (ctx : AgentContext) : JsonValue :=
  .object [("agent_id".toList, .string (printfString ctx.config.agentId)),
    ("hostname".toList, .string (printfString ctx.config.hostname)),
    ("connection_status".toList, .string "active".toList),
    ("ip_addresses".toList, .array (ctx.ipAddresses.map .string)),
    ("agent_version".toList, .string agentVersion),
    ("operating_system".toList, .string (ctx.operatingSystem.getD [])),
    ("architecture".toList, .string (ctx.architecture.getD []))]

/-- What `heartbeat_send` writes between quotes are literals, and each address fits
`char ip_json[64]` with its quotes. -/
structure PlainHeartbeat (ctx : AgentContext) : Prop where
  agentId : JsonLiteral (printfString ctx.config.agentId)
  hostname : JsonLiteral (printfString ctx.config.hostname)
  operatingSystem : JsonLiteral (ctx.operatingSystem.getD [])
  architecture : JsonLiteral (ctx.architecture.getD [])
  addresses : ∀ ip ∈ ctx.ipAddresses, JsonLiteral ip ∧ ip.length ≤ 61

theorem ipAddressesJson_grammar {ips : List (List Char)} {text : List Char}
    (each : ∀ ip ∈ ips, JsonLiteral ip ∧ ip.length ≤ 61) (built : ipAddressesJson ips = some text) :
    Grammar .json (.value (.array (ips.map .string))) text := by
  dsimp only [ipAddressesJson] at built
  split_ifs at built
  cases built
  have quoted : ips.map ipJson = ips.map fun ip => '"' :: ip ++ ['"'] :=
    List.map_congr_left fun ip mem => List.take_of_length_le (by simp [(each ip mem).2.trans (by decide : 61 ≤ 63 - 2)])
  have array := @Grammar.array_intercalate .json _ json_ws_space
    (ips.map fun ip => (JsonValue.string ip, '"' :: ip ++ ['"']))
    (by simpa using fun ip mem => Grammar.literal .json (each ip mem).1)
  rw [List.map_map, List.map_map] at array
  exact Grammar.cast (by rw [quoted]; rfl) array

/-- What `heartbeat_send` posts is the JSON text of the heartbeat object, unless it filled
`char json_body[4096]`. -/
theorem heartbeat_body_serializes {ctx : AgentContext} (plain : PlainHeartbeat ctx) {body : List Char}
    (built : heartbeatBody ctx = some body) :
    Serializes .json (heartbeatJson ctx) body ∨ body.length = 4095 := by
  obtain ⟨ips, ipsBuilt, rfl⟩ := Option.map_eq_some'.mp built
  refine (snprintf_cases 4096 _).imp (fun whole => ?_) id
  rw [whole]
  have object := @Grammar.object_intercalate .json [' '] [' '] json_ws_space json_ws_space
    [("agent_id".toList, .string (printfString ctx.config.agentId),
        '"' :: printfString ctx.config.agentId ++ ['"']),
      ("hostname".toList, .string (printfString ctx.config.hostname),
        '"' :: printfString ctx.config.hostname ++ ['"']),
      ("connection_status".toList, .string "active".toList, '"' :: "active".toList ++ ['"']),
      ("ip_addresses".toList, .array (ctx.ipAddresses.map .string), ips),
      ("agent_version".toList, .string agentVersion, '"' :: agentVersion ++ ['"']),
      ("operating_system".toList, .string (ctx.operatingSystem.getD []),
        '"' :: ctx.operatingSystem.getD [] ++ ['"']),
      ("architecture".toList, .string (ctx.architecture.getD []), '"' :: ctx.architecture.getD [] ++ ['"'])]
    (List.cons_ne_nil _ _) (by
      simp only [List.mem_cons, List.mem_singleton, forall_eq_or_imp, forall_eq, List.not_mem_nil,
        false_imp_iff, imp_true_iff, and_true]
      exact ⟨⟨by decide, .literal _ plain.agentId⟩, ⟨by decide, .literal _ plain.hostname⟩,
        ⟨by decide, .literal _ (by decide)⟩, ⟨by decide, ipAddressesJson_grammar plain.addresses ipsBuilt⟩,
        ⟨by decide, .literal _ (by decide)⟩, ⟨by decide, .literal _ plain.operatingSystem⟩,
        ⟨by decide, .literal _ plain.architecture⟩⟩)
  exact Grammar.cast
    (by simp only [List.map_cons, List.map_nil, intercalate_cons_cons, intercalate_singleton, memberText,
      String.toList, List.cons_append, List.append_assoc, List.nil_append, List.append_nil,
      List.singleton_append])
    (.element (Style.ws_nil _) object (Style.ws_nil _))

theorem heartbeat_body_sample :
    PlainHeartbeat sampleContext ∧ ∃ body, heartbeatBody sampleContext = some body ∧
      (Serializes .json (heartbeatJson sampleContext) body ∨ body.length = 4095) :=
  have plain : PlainHeartbeat sampleContext := ⟨by decide, by decide, by decide, by decide, by decide⟩
  ⟨plain, _, rfl, heartbeat_body_serializes plain rfl⟩

end Heartbeat

section Results

/-- The value `%.1f` prints for a finite datum. -/
def fixed1Value : CFloat → ℚ
  | .finite negative m e => (if negative then -1 else 1) * (fixed1Tenths m e / 10 : ℚ)
  | _ => 0

theorem formatFixed1_numberText {x : CFloat} (finite : x.isFinite) :
    NumberText .json (formatFixed1 x) (fixed1Value x) := by
  cases x with
  | finite negative m e =>
    have text := NumberText.ofTenths .json (negative = true) (fixed1Tenths m e / 10)
      (Nat.mod_lt (fixed1Tenths m e) (by decide : 10 > 0))
    rwa [Nat.div_add_mod] at text
  | infinite | nan => cases finite

/-- The object `job_execute` means to write for a result. -/
def scanResultJson (r : ScanResult) : JsonValue :=
  .object [("nvt".toList, .object [("oid".toList, .string (r.nvtOid.getD [])),
      ("name".toList, .string (r.nvtName.getD [])),
      ("severity".toList, .number (fixed1Value r.severity)),
      ("cvss_base_vector".toList, .string (r.cvssBaseVector.getD []))]),
    ("host".toList, .string (r.host.getD [])),
    ("port".toList, .string (r.port.getD [])),
    ("threat".toList, .string (r.threat.getD [])),
    ("description".toList, .string (r.description.getD [])),
    ("qod".toList, .number r.qod)]

/-- What `snprintf` formats into `char result_item[1024]` after the comma. -/
def resultItemText (r : ScanResult) : List Char :=
  "\x7b\"nvt\":\x7b\"oid\":\"".toList ++ r.nvtOid.getD [] ++ "\",\"name\":\"".toList ++ r.nvtName.getD [] ++
    "\",\"severity\":".toList ++ formatFixed1 r.severity ++ ",\"cvss_base_vector\":\"".toList ++
    r.cvssBaseVector.getD [] ++ "\"\x7d,\"host\":\"".toList ++ r.host.getD [] ++ "\",\"port\":\"".toList ++
    r.port.getD [] ++ "\",\"threat\":\"".toList ++ r.threat.getD [] ++ "\",\"description\":\"".toList ++
    r.description.getD [] ++ "\",\"qod\":".toList ++ (Int.repr r.qod).toList ++ "\x7d".toList

theorem resultItem_eq (index : Nat) (r : ScanResult) :
    resultItem index r = snprintf 1024 ((if 0 < index then [','] else []) ++ resultItemText r) := by
  simp only [resultItem, resultItemText, List.append_assoc]

/-- The strings of a result are literals, its severity is finite (`%.1f` of an infinity or a
NaN is not a number), and its item fits `char result_item[1024]` with the comma in front. -/
structure PlainResult (r : ScanResult) : Prop where
  oid : JsonLiteral (r.nvtOid.getD [])
  name : JsonLiteral (r.nvtName.getD [])
  cvssBaseVector : JsonLiteral (r.cvssBaseVector.getD [])
  host : JsonLiteral (r.host.getD [])
  port : JsonLiteral (r.port.getD [])
  threat : JsonLiteral (r.threat.getD [])
  description : JsonLiteral (r.description.getD [])
  finite : r.severity.isFinite
  fits : (resultItemText r).length < 1023

theorem resultItemText_grammar {r : ScanResult} (plain : PlainResult r) :
    Grammar .json (.value (scanResultJson r)) (resultItemText r) := by
  have nvt := @Grammar.object_intercalate .json [] [] (Style.ws_nil _) (Style.ws_nil _)
    [("oid".toList, .string (r.nvtOid.getD []), '"' :: r.nvtOid.getD [] ++ ['"']),
      ("name".toList, .string (r.nvtName.getD []), '"' :: r.nvtName.getD [] ++ ['"']),
      ("severity".toList, .number (fixed1Value r.severity), formatFixed1 r.severity),
      ("cvss_base_vector".toList, .string (r.cvssBaseVector.getD []),
        '"' :: r.cvssBaseVector.getD [] ++ ['"'])]
    (List.cons_ne_nil _ _) (by
      simp only [List.mem_cons, List.mem_singleton, forall_eq_or_imp, forall_eq, List.not_mem_nil,
        false_imp_iff, imp_true_iff, and_true]
      exact ⟨⟨by decide, .literal _ plain.oid⟩, ⟨by decide, .literal _ plain.name⟩,
        ⟨by decide, .number (formatFixed1_numberText plain.finite)⟩, ⟨by decide, .literal _ plain.cvssBaseVector⟩⟩)
  have item := @Grammar.object_intercalate .json [] [] (Style.ws_nil _) (Style.ws_nil _)
    [("nvt".toList, _, _),
      ("host".toList, .string (r.host.getD []), '"' :: r.host.getD [] ++ ['"']),
      ("port".toList, .string (r.port.getD []), '"' :: r.port.getD [] ++ ['"']),
      ("threat".toList, .string (r.threat.getD []), '"' :: r.threat.getD [] ++ ['"']),
      ("description".toList, .string (r.description.getD []), '"' :: r.description.getD [] ++ ['"']),
      ("qod".toList, .number r.qod, (Int.repr r.qod).toList)]
    (List.cons_ne_nil _ _) (by
      simp only [List.mem_cons, List.mem_singleton, forall_eq_or_imp, forall_eq, List.not_mem_nil,
        false_imp_iff, imp_true_iff, and_true]
      exact ⟨⟨by decide, nvt⟩, ⟨by decide, .literal _ plain.host⟩, ⟨by decide, .literal _ plain.port⟩,
        ⟨by decide, .literal _ plain.threat⟩, ⟨by decide, .literal _ plain.description⟩,
        ⟨by decide, .number (by exact_mod_cast NumberText.ofInt .json r.qod)⟩⟩)
  exact Grammar.cast
    (by simp only [resultItemText, List.map_cons, List.map_nil, intercalate_cons_cons, intercalate_singleton,
      memberText, String.toList, List.cons_append, List.append_assoc, List.nil_append, List.append_nil,
      List.singleton_append])
    item

theorem resultItem_of_plain {r : ScanResult} (plain : PlainResult r) (index : Nat) :
    resultItem index r = (if 0 < index then [','] else []) ++ resultItemText r := by
  have := plain.fits
  rw [resultItem_eq]
  exact List.take_of_length_le (by split_ifs <;> simp <;> omega)

theorem resultItems_of_plain {results : List ScanResult} (each : ∀ r ∈ results, PlainResult r) :
    resultItems results = List.intercalate [','] (results.map resultItemText) := by
  have later : ∀ (rs : List ScanResult) (k : Nat), (∀ r ∈ rs, PlainResult r) →
      (rs.enumFrom (k + 1)).map (fun item => resultItem item.1 item.2) =
        rs.map fun r => [','] ++ resultItemText r := by
    intro rs
    induction rs with
    | nil => exact fun _ _ => rfl
    | cons r rs ih =>
      intro k each
      rw [List.enumFrom_cons, List.map_cons, List.map_cons, resultItem_of_plain (each r (List.mem_cons_self _ _)),
        if_pos (Nat.succ_pos k), ih (k + 1) fun r' mem => each r' (List.mem_cons_of_mem _ mem)]
  cases results with
  | nil => rfl
  | cons r rest =>
    rw [resultItems, List.enum_cons, List.map_cons, List.flatten_cons,
      resultItem_of_plain (each r (List.mem_cons_self _ _)), if_neg (lt_irrefl 0), List.nil_append,
      later rest 0 fun r' mem => each r' (List.mem_cons_of_mem _ mem), List.map_cons, intercalate_cons,
      List.map_map]
    rfl

theorem resultsArray_grammar {results : List ScanResult} {array : List Char}
    (each : ∀ r ∈ results, PlainResult r) (built : resultsArray results = some array) :
    Grammar .json (.value (.array (results.map scanResultJson))) array := by
  obtain ⟨-, rfl⟩ := resultsArray_eq_some.mp built
  have items := @Grammar.array_intercalate .json [] (Style.ws_nil _)
    (results.map fun r => (scanResultJson r, resultItemText r))
    (by simpa using fun r mem => resultItemText_grammar (each r mem))
  rw [List.map_map, List.map_map] at items
  rw [resultItems_of_plain each]
  exact items

/-- The object `job_execute` means to submit. -/
def resultsJson (job : Job) (agentId startedAt completedAt : Option (List Char))
    (results : List ScanResult) : JsonValue :=
  .object [("job_id".toList, .string job.jobId), ("scan_id".toList, .string job.scanId),
    ("agent_id".toList, .string (printfString agentId)), ("status".toList, .string "completed".toList),
    ("started_at".toList, .string (startedAt.getD [])),
    ("completed_at".toList, .string (completedAt.getD [])),
    ("results".toList, .array (results.map scanResultJson))]

/-- What the results document writes between quotes, apart from the results, is literals. -/
structure PlainDocument (job : Job) (agentId startedAt completedAt : Option (List Char)) : Prop where
  jobId : JsonLiteral job.jobId
  scanId : JsonLiteral job.scanId
  agentId : JsonLiteral (printfString agentId)
  startedAt : JsonLiteral (startedAt.getD [])
  completedAt : JsonLiteral (completedAt.getD [])

theorem results_document_serializes {job : Job} {agentId startedAt completedAt : Option (List Char)}
    (plain : PlainDocument job agentId startedAt completedAt) {results : List ScanResult}
    {array : List Char} (each : ∀ r ∈ results, PlainResult r) (built : resultsArray results = some array) :
    Serializes .json (resultsJson job agentId startedAt completedAt results)
        (resultsDocument job agentId startedAt completedAt array) ∨
      (resultsDocument job agentId startedAt completedAt array).length = 16383 := by
  unfold resultsDocument
  refine (snprintf_cases 16384 _).imp (fun whole => ?_) id
  rw [whole]
  have object := @Grammar.object_intercalate .json [] [] (Style.ws_nil _) (Style.ws_nil _)
    [("job_id".toList, .string job.jobId, '"' :: job.jobId ++ ['"']),
      ("scan_id".toList, .string job.scanId, '"' :: job.scanId ++ ['"']),
      ("agent_id".toList, .string (printfString agentId), '"' :: printfString agentId ++ ['"']),
      ("status".toList, .string "completed".toList, '"' :: "completed".toList ++ ['"']),
      ("started_at".toList, .string (startedAt.getD []), '"' :: startedAt.getD [] ++ ['"']),
      ("completed_at".toList, .string (completedAt.getD []), '"' :: completedAt.getD [] ++ ['"']),
      ("results".toList, .array (results.map scanResultJson), array)]
    (List.cons_ne_nil _ _) (by
      simp only [List.mem_cons, List.mem_singleton, forall_eq_or_imp, forall_eq, List.not_mem_nil,
        false_imp_iff, imp_true_iff, and_true]
      exact ⟨⟨by decide, .literal _ plain.jobId⟩, ⟨by decide, .literal _ plain.scanId⟩,
        ⟨by decide, .literal _ plain.agentId⟩, ⟨by decide, .literal _ (by decide)⟩,
        ⟨by decide, .literal _ plain.startedAt⟩, ⟨by decide, .literal _ plain.completedAt⟩,
        ⟨by decide, resultsArray_grammar each built⟩⟩)
  exact Grammar.cast
    (by simp only [List.map_cons, List.map_nil, intercalate_cons_cons, intercalate_singleton, memberText,
      String.toList, List.cons_append, List.append_assoc, List.nil_append, List.append_nil,
      List.singleton_append])
    (.element (Style.ws_nil _) object (Style.ws_nil _))

set_option maxRecDepth 2000 in
theorem basicChecks_plain (portOpen : Nat → Bool) :
    ∀ r ∈ naslExecutorRunBasicChecks "localhost".toList portOpen, PlainResult r := by
  have probe : ∀ {ok : Bool} {oid name port description : List Char},
      PlainResult (createScanResult oid name .zero "localhost".toList port description) →
      ∀ r ∈ basicCheck ok oid name port description "localhost".toList, PlainResult r := by
    intro ok _ _ _ _ plain r mem
    cases ok <;> simp_all [basicCheck]
  simp only [naslExecutorRunBasicChecks, List.mem_append]
  rintro r ((mem | mem) | mem) <;> refine probe ⟨?_, ?_, ?_, ?_, ?_, ?_, ?_, ?_, ?_⟩ r mem <;> decide

/-- With the job's strings literals and every result a literal that fits its item, the document
`job_execute` hands back is the JSON text of the results object, unless it filled
`char results[16384]`. -/
theorem job_execute_serializes (ctx : AgentContext) (job : Job) (env : ExecEnv)
    (plain : PlainDocument job ctx.config.agentId env.startedAt env.completedAt)
    (each : ∀ results, jobScanResults env = some results → ∀ r ∈ results, PlainResult r) :
    ∃ results doc, jobScanResults env = some results ∧ jobExecute ctx job env = some doc ∧
      (Serializes .json (resultsJson job ctx.config.agentId env.startedAt env.completedAt results) doc ∨
        doc.length = 16383) := by
  obtain ⟨results, scanned, few⟩ := jobScanResults_length_le env
  exact ⟨results, _, scanned, jobExecute_of_scan scanned few,
    results_document_serializes plain (each results scanned) (resultsArray_of_few (few.trans (by decide)))⟩

/-- A job run without `openvas-nasl` on a host where only SSH answers. -/
def probeEnv : ExecEnv where
  startedAt := some "2024-01-01T00:00:00Z".toList
  completedAt := some "2024-01-01T00:01:00Z".toList
  script := ⟨false, fun _ => none⟩
  cache := none
  portOpen := fun port => port == 22

theorem job_execute_probe_sample :
    PlainDocument ⟨"job-1".toList, "scan-1".toList⟩ sampleContext.config.agentId probeEnv.startedAt
      probeEnv.completedAt ∧
    (∀ results, jobScanResults probeEnv = some results → ∀ r ∈ results, PlainResult r) ∧
    ∃ results doc, jobScanResults probeEnv = some results ∧
      jobExecute sampleContext ⟨"job-1".toList, "scan-1".toList⟩ probeEnv = some doc ∧
      (Serializes .json (resultsJson ⟨"job-1".toList, "scan-1".toList⟩ sampleContext.config.agentId
        probeEnv.startedAt probeEnv.completedAt results) doc ∨ doc.length = 16383) :=
  have plain : PlainDocument ⟨"job-1".toList, "scan-1".toList⟩ sampleContext.config.agentId
      probeEnv.startedAt probeEnv.completedAt := ⟨by decide, by decide, by decide, by decide, by decide⟩
  have each : ∀ results, jobScanResults probeEnv = some results → ∀ r ∈ results, PlainResult r :=
    fun _ scanned => Option.some_inj.mp scanned ▸ basicChecks_plain probeEnv.portOpen
  ⟨plain, each, job_execute_serializes _ _ _ plain each⟩

/-- Without `openvas-nasl`, whatever the port probes find, the document `job_execute` hands
back for a job whose strings are literals is the JSON text of the results object, unless it
filled `char results[16384]`. -/
theorem job_execute_basic_checks_serializes (ctx : AgentContext) (job : Job) (env : ExecEnv)
    (noNasl : env.script.hasOpenvasNasl = false)
    (plain : PlainDocument job ctx.config.agentId env.startedAt env.completedAt) :
    ∃ doc, jobExecute ctx job env = some doc ∧
      (Serializes .json (resultsJson job ctx.config.agentId env.startedAt env.completedAt
        (naslExecutorRunBasicChecks "localhost".toList env.portOpen)) doc ∨ doc.length = 16383) := by
  obtain ⟨results, scanned, few⟩ := jobScanResults_length_le env
  rw [jobScanResults, if_neg (by simp [noNasl]), Option.some_inj] at scanned
  subst scanned
  exact ⟨_, jobExecute_of_scan (by rw [jobScanResults, if_neg (by simp [noNasl])]) few,
    results_document_serializes plain (basicChecks_plain env.portOpen)
      (resultsArray_of_few (few.trans (by decide)))⟩

theorem job_execute_basic_checks_sample :
    probeEnv.script.hasOpenvasNasl = false ∧
    PlainDocument ⟨"job-1".toList, "scan-1".toList⟩ sampleContext.config.agentId probeEnv.startedAt
      probeEnv.completedAt ∧
    ∃ doc, jobExecute sampleContext ⟨"job-1".toList, "scan-1".toList⟩ probeEnv = some doc ∧
      (Serializes .json (resultsJson ⟨"job-1".toList, "scan-1".toList⟩ sampleContext.config.agentId
        probeEnv.startedAt probeEnv.completedAt
        (naslExecutorRunBasicChecks "localhost".toList probeEnv.portOpen)) doc ∨ doc.length = 16383) :=
  have plain : PlainDocument ⟨"job-1".toList, "scan-1".toList⟩ sampleContext.config.agentId
      probeEnv.startedAt probeEnv.completedAt := ⟨by decide, by decide, by decide, by decide, by decide⟩
  ⟨rfl, plain, job_execute_basic_checks_serializes _ _ _ rfl plain⟩

end Results

/-- The SSH detection script as the cache holds it. -/
def sshDetectionNvt : NvtRecord where
  oid := "1.3.6.1.4.1.25623.1.0.10662".toList
  name := "SSH Server Detection".toList
  family := "Service detection".toList
  filename := "/var/lib/openvas/plugins/ssh_detect.nasl".toList
  version := "unknown".toList
  cvssBase := .finite false 5 0
  lastModification := 1700000000
  dependencies := []

/-- A job run with `openvas-nasl`, whose SSH script prints a finding holding one double
quote. -/
def quotedFindingEnv : ExecEnv where
  startedAt := some "2024-01-01T00:00:00Z".toList
  completedAt := some "2024-01-01T00:01:00Z".toList
  script := ⟨true, fun _ => some "ALARM: banner \"SSH-2.0\n".toList⟩
  cache := some [sshDetectionNvt]
  portOpen := fun _ => false

/-- A job as the Controller assigns it. -/
def sampleJob : Job := ⟨"job-12345".toList, "550e8400-e29b-41d4-a716-446655440000".toList⟩

set_option maxRecDepth 4000 in
/-- The finding's line goes into the results document as it is, so the document has an odd
number of double quotes and no backslash: it is no JSON text at all. -/
theorem job_execute_not_json :
    (jobScanResults quotedFindingEnv).map (·.map (·.description)) =
      some [some "ALARM: banner \"SSH-2.0\n".toList] ∧
    ∃ doc, jobExecute sampleContext sampleJob quotedFindingEnv = some doc ∧
      ∀ v, ¬ Serializes .json v doc := by
  have flags : ((jobExecute sampleContext sampleJob quotedFindingEnv).map fun doc =>
      !doc.contains '\\' && doc.count '"' % 2 == 1) = some true := by
    decide
  obtain ⟨doc, run, checked⟩ := Option.map_eq_some'.mp flags
  simp only [Bool.and_eq_true, Bool.not_eq_true', beq_iff_eq] at checked
  refine ⟨by decide, doc, run, not_serializes_of_odd_quotes ?_ checked.2⟩
  simpa using checked.1

end GvmAgent
