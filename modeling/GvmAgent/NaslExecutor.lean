import GvmAgent.NvtFeed

set_option autoImplicit false

/-! `nasl_executor.c`: running one NVT script, a scan over a list of OIDs, and the basic port
checks used when `openvas-nasl` is missing.

The outputs of `openvas-nasl` and of the `nc` probes are the environment's. `severity` is a
`float`, compared with the `double` constants `7.0`, `4.0` and `0`. -/

namespace GvmAgent

/-- `scan_result_t`; a `char *` field is `none` while NULL. -/
structure ScanResult where
  nvtOid : Option (List Char)
  nvtName : Option (List Char)
  severity : CFloat
  cvssBaseVector : Option (List Char)
  host : Option (List Char)
  port : Option (List Char)
  threat : Option (List Char)
  description : Option (List Char)
  qod : Int
  deriving DecidableEq

/-- `create_scan_result`: the threat level follows the severity, the quality of detection is
always 70. -/
def createScanResult (oid name : List Char) (severity : CFloat) (host port description : List Char) :
    ScanResult where
  nvtOid := some oid
  nvtName := some name
  severity := severity
  cvssBaseVector := some "AV:N/AC:L/Au:N/C:N/I:N/A:N".toList
  host := some host
  port := some port
  threat := some (if severity.geNat 7 then "High".toList else if severity.geNat 4 then "Medium".toList
    else "Low".toList)
  description := some description
  qod := 70

/-- An output line that reports a finding. -/
def reportsFinding (line : List Char) : Bool :=
  (strstr line "ALARM".toList).isSome || (strstr line "HOLE".toList).isSome ||
    (strstr line "WARNING".toList).isSome

/-- The text `strncat` gathers in `char description[1024]`: every output line, as `fgets`
reads it into `char line[512]`, that reports a finding. -/
def naslDescription (output : List Char) : List Char :=
  (fgetsLines 512 output).foldl (fun description chunk =>
    if reportsFinding (cString chunk) then (description ++ cString chunk).take 1023 else description) []

/-- What running a script meets: whether `openvas-nasl` is installed, and what
`openvas-nasl -t target file` prints for each script file (`none` when `popen` fails). -/
structure ScriptEnv where
  hasOpenvasNasl : Bool
  naslOutput : List Char → Option (List Char)

/-- `nasl_executor_run_script`: the results it hands back; `none` is
`ERR_JOB_EXECUTION_FAILED`. -/
def naslExecutorRunScript (env : ScriptEnv) (nvt : NvtRecord) (target : List Char) :
    Option (List ScanResult) :=
  if env.hasOpenvasNasl then
    (env.naslOutput nvt.filename).map fun output =>
      if (fgetsLines 512 output).any (fun chunk => reportsFinding (cString chunk)) then
        let description := naslDescription output
        [createScanResult nvt.oid nvt.name nvt.cvssBase target "general/tcp".toList
          (if description = [] then "Vulnerability detected by NASL script".toList else description)]
      else []
  else if nvt.cvssBase.isPositive then
    some [createScanResult nvt.oid nvt.name nvt.cvssBase target "general/tcp".toList
      "Phase 2: Simplified check result (install openvas-nasl for full scanning)".toList]
  else some []

/-- Appending a script's results to the `oid_count` entries of the aggregate array; `none`
when a write passes its end. -/
def appendResults (capacity : Nat) (acc script : List ScanResult) : Option (List ScanResult) :=
  script.foldlM (fun acc r => if acc.length < capacity then some (acc ++ [r]) else none) acc

/-- `nasl_executor_run_scan`: the results of the scripts found in the cache, in the order of
the OIDs. The outer `none` is a write past the aggregate array; `.error` is the code it
returns for an empty list. -/
def naslExecutorRunScan (env : ScriptEnv) (db : Option (List NvtRecord))
    (oids : List (List Char)) (target : List Char) : Option (Except AgentError (List ScanResult)) :=
  if oids = [] then some (.error .jobExecutionFailed)
  else (oids.foldlM (fun acc oid =>
      match nvtFeedLookupByOid db oid with
      | none => some acc
      | some nvt =>
        match naslExecutorRunScript env nvt target with
        | none => some acc
        | some script => appendResults oids.length acc script) []).map .ok

/-- One `nc` probe of `nasl_executor_run_basic_checks`. -/
def basicCheck (succeeded : Bool) (oid name port description target : List Char) :
    List ScanResult :=
  if succeeded then [createScanResult oid name .zero target port description] else []

/-- `nasl_executor_run_basic_checks`: `portOpen p` is whether the probe of port `p`
succeeds. -/
def naslExecutorRunBasicChecks (target : List Char) (portOpen : Nat → Bool) : List ScanResult :=
  basicCheck (portOpen 22) "1.3.6.1.4.1.25623.1.0.900001".toList "SSH Service Detection".toList
      "22/tcp".toList "SSH service is running on port 22".toList target ++
    basicCheck (portOpen 80) "1.3.6.1.4.1.25623.1.0.900002".toList "HTTP Service Detection".toList
      "80/tcp".toList "HTTP service is running on port 80".toList target ++
    basicCheck (portOpen 443) "1.3.6.1.4.1.25623.1.0.900003".toList "HTTPS Service Detection".toList
      "443/tcp".toList "HTTPS service is running on port 443".toList target

/-- The lines of `output`, as `fgets` hands them over and `strstr` reads them, that report a
finding. -/
def naslFindings (output : List Char) : List (List Char) :=
  ((fgetsLines 512 output).map cString).filter reportsFinding

section Description

theorem ne_nil_of_reportsFinding {line : List Char} (reports : reportsFinding line = true) : line ≠ [] := by
  rintro rfl
  exact absurd reports (by decide)

/-- The `strncat`s leave in `description` the lines that report a finding, in order, cut to
the 1023 characters the buffer holds before its NUL. -/
theorem naslDescription_eq (output : List Char) :
    naslDescription output = (naslFindings output).flatten.take 1023 := by
  rw [naslDescription, naslFindings, ← List.nil_append (List.flatten _),
    ← foldl_take_append 1023 _ [] (Nat.zero_le _), foldl_filter, List.foldl_map]

theorem any_reportsFinding_eq (output : List Char) :
    (fgetsLines 512 output).any (fun chunk => reportsFinding (cString chunk)) = !(naslFindings output).isEmpty := by
  cases h : (naslFindings output).isEmpty <;> simp_all [naslFindings, List.isEmpty_iff, List.filter_eq_nil_iff]

/-- With `openvas-nasl` installed, the run of a script that prints `output` hands back one
result exactly when a line of the output reports a finding, with those lines, in order and cut
at 1023 characters, as its description. A finding line is never empty, so the text for an
empty description is never used. -/
theorem nasl_run_script_description (env : ScriptEnv) (nvt : NvtRecord) (target : List Char)
    {output : List Char} (installed : env.hasOpenvasNasl = true)
    (printed : env.naslOutput nvt.filename = some output) :
    naslExecutorRunScript env nvt target =
      some (if naslFindings output = [] then [] else
        [createScanResult nvt.oid nvt.name nvt.cvssBase target "general/tcp".toList
          ((naslFindings output).flatten.take 1023)]) := by
  rw [naslExecutorRunScript, if_pos installed, printed, Option.map_some', any_reportsFinding_eq,
    naslDescription_eq]
  cases found : naslFindings output with
  | nil => rfl
  | cons line rest =>
    have nonempty : line ≠ [] :=
      ne_nil_of_reportsFinding (List.of_mem_filter (found ▸ List.mem_cons_self line rest : line ∈ naslFindings output))
    have written : (line :: rest).flatten.take 1023 ≠ [] := by simp [nonempty]
    simp only [List.isEmpty_cons, Bool.not_false, if_true, if_neg written, if_neg (List.cons_ne_nil line rest)]

/-- A run of the service detection script whose output reports a hole. -/
theorem nasl_run_script_hole_sample :
    naslExecutorRunScript ⟨true, fun _ => some "HOLE: weak key exchange\n".toList⟩
        ⟨"1.3.6.1.4.1.25623.1.0.10330".toList, "Services".toList, "Service detection".toList,
          "find_service.nasl".toList, "unknown".toList, .finite false 5 0, 0, []⟩ "localhost".toList =
      some (if naslFindings "HOLE: weak key exchange\n".toList = [] then [] else
        [createScanResult "1.3.6.1.4.1.25623.1.0.10330".toList "Services".toList (.finite false 5 0)
          "localhost".toList
          "general/tcp".toList ((naslFindings "HOLE: weak key exchange\n".toList).flatten.take 1023)]) :=
  nasl_run_script_description _ _ _ rfl rfl

end Description

section Scan

variable {env : ScriptEnv} {target : List Char}

theorem naslExecutorRunScript_length_le {nvt : NvtRecord} {script : List ScanResult}
    (ran : naslExecutorRunScript env nvt target = some script) : script.length ≤ 1 := by
  unfold naslExecutorRunScript at ran
  split_ifs at ran
  · obtain ⟨output, -, rfl⟩ := Option.map_eq_some'.mp ran
    split <;> simp
  all_goals cases ran; simp

theorem appendResults_of_fits {capacity : Nat} {acc script : List ScanResult}
    (fits : acc.length + script.length ≤ capacity) :
    appendResults capacity acc script = some (acc ++ script) := by
  induction script generalizing acc with
  | nil => simp [appendResults]
  | cons r rest ih =>
    rw [List.length_cons] at fits
    have next : (acc ++ [r]).length + rest.length ≤ capacity := by
      rw [List.length_append, List.length_singleton]
      omega
    simp only [appendResults, List.foldlM_cons, if_pos (by omega : acc.length < capacity)] at ih ⊢
    exact (ih next).trans (by rw [List.append_assoc, List.singleton_append])

/-- The loop over the OIDs: a pass that appends what `found` gives for its OID, whenever
that fits, appends over the whole list the in-order concatenation of what it gives. -/
theorem foldlM_appends {capacity : Nat} {found : List Char → Option (List ScanResult)}
    {pass : List ScanResult → List Char → Option (List ScanResult)}
    (step : ∀ acc oid, acc.length + ((found oid).getD []).length ≤ capacity →
      pass acc oid = some (acc ++ (found oid).getD [])) :
    ∀ (oids : List (List Char)) (acc : List ScanResult),
      acc.length + (oids.filterMap found).flatten.length ≤ capacity →
      oids.foldlM pass acc = some (acc ++ (oids.filterMap found).flatten)
  | [], acc, _ => by simp
  | oid :: oids, acc, fits => by
    have whole : ((oid :: oids).filterMap found).flatten =
        (found oid).getD [] ++ (oids.filterMap found).flatten := by
      cases hit : found oid <;> simp [List.filterMap_cons, hit]
    rw [whole, List.length_append, ← Nat.add_assoc] at fits
    rw [whole, List.foldlM_cons, step acc oid (by omega), ← List.append_assoc]
    exact foldlM_appends step oids _ (by rwa [List.length_append])

theorem length_flatten_filterMap_le (db : Option (List NvtRecord)) (oids : List (List Char)) :
    (oids.filterMap fun oid =>
      (nvtFeedLookupByOid db oid).bind fun nvt => naslExecutorRunScript env nvt target).flatten.length ≤
      oids.length := by
  induction oids with
  | nil => simp
  | cons oid oids ih =>
    rw [List.filterMap_cons]
    cases hit : (nvtFeedLookupByOid db oid).bind fun nvt => naslExecutorRunScript env nvt target with
    | none => simp only [List.length_cons]; omega
    | some script =>
      obtain ⟨nvt, -, ran⟩ := Option.bind_eq_some.mp hit
      have one := naslExecutorRunScript_length_le ran
      simp only [List.flatten_cons, List.length_append, List.length_cons]
      omega

theorem naslExecutorRunScan_ok (db : Option (List NvtRecord)) {oids : List (List Char)}
    (nonempty : oids ≠ []) :
    naslExecutorRunScan env db oids target = some (.ok (oids.filterMap fun oid =>
      (nvtFeedLookupByOid db oid).bind fun nvt => naslExecutorRunScript env nvt target).flatten) := by
  rw [naslExecutorRunScan, if_neg nonempty, foldlM_appends (fun acc oid fits => ?_) oids []
    ((zero_add _).trans_le (@length_flatten_filterMap_le env target db oids))]
  · rfl
  · cases hit : nvtFeedLookupByOid db oid with
    | none => simp
    | some nvt =>
      cases ran : naslExecutorRunScript env nvt target with
      | none => simp [ran]
      | some script =>
        simp only [hit, ran, Option.some_bind, Option.getD_some] at fits ⊢
        exact appendResults_of_fits fits

/-- For every list of OIDs, every cache and every outcome of the scripts,
`nasl_executor_run_scan` writes its aggregate array only below `oid_count` and hands back, in
order, the results of the scripts found in the cache; this rests on a script handing back at
most one result. -/
theorem nasl_executor_run_scan_in_bounds (db : Option (List NvtRecord)) (oids : List (List Char))
    (nonempty : oids ≠ []) :
    (∀ nvt script, naslExecutorRunScript env nvt target = some script → script.length ≤ 1) ∧
    ∃ results, naslExecutorRunScan env db oids target = some (.ok results) ∧
      results = (oids.filterMap fun oid =>
        (nvtFeedLookupByOid db oid).bind fun nvt => naslExecutorRunScript env nvt target).flatten ∧
      results.length ≤ oids.length :=
  ⟨fun _ _ => naslExecutorRunScript_length_le, _, naslExecutorRunScan_ok db nonempty, rfl,
    length_flatten_filterMap_le db oids⟩

/-- A cache holding the service detection script. -/
def serviceDetectionCache : Option (List NvtRecord) :=
  some [⟨"1.3.6.1.4.1.25623.1.0.10330".toList, "Services".toList, "Service detection".toList,
    "find_service.nasl".toList, "unknown".toList, .finite false 5 0, 0, []⟩]

/-- A scan of two OIDs without `openvas-nasl`, with the second in the cache. -/
theorem nasl_executor_run_scan_sample :
    ["1.3.6.1.4.1.25623.1.0.10662".toList, "1.3.6.1.4.1.25623.1.0.10330".toList] ≠ [] ∧
    ((∀ nvt script, naslExecutorRunScript ⟨false, fun _ => none⟩ nvt "localhost".toList =
        some script → script.length ≤ 1) ∧
      ∃ results, naslExecutorRunScan ⟨false, fun _ => none⟩ serviceDetectionCache
        ["1.3.6.1.4.1.25623.1.0.10662".toList, "1.3.6.1.4.1.25623.1.0.10330".toList]
        "localhost".toList = some (.ok results) ∧
      results = (["1.3.6.1.4.1.25623.1.0.10662".toList, "1.3.6.1.4.1.25623.1.0.10330".toList].filterMap
        fun oid => (nvtFeedLookupByOid serviceDetectionCache oid).bind
          fun nvt => naslExecutorRunScript ⟨false, fun _ => none⟩ nvt "localhost".toList).flatten ∧
      results.length ≤ 2) :=
  ⟨by decide, nasl_executor_run_scan_in_bounds _ _ (by decide)⟩

end Scan

end GvmAgent
