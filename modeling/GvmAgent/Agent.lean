import GvmAgent.Config
import Mathlib.Data.List.FinRange

set_option autoImplicit false

/-! `agent_init` and the helpers it calls in `agent.c`: system information, the agent UUID,
the hostname.

`agent_init` reads the file system, the host and a random source; it writes nothing that
outlives it, so a second call meets the same files. The Linux branches are modelled. -/

namespace GvmAgent

/-- What `agent_get_system_info` reads from the host: `uname`'s `sysname`, `release` and
`machine` (`none` when it fails), and the IPv4 addresses `getifaddrs` lists, in order, as
`inet_ntop` prints them (`none` when it fails). -/
structure SystemEnv where
  uname : Option (List Char × List Char × List Char)
  ipv4 : Option (List (List Char))

/-- What `agent_init` meets. -/
structure InitEnv where
  /-- Whether `curl_global_init` succeeds. -/
  httpClientInit : Bool
  /-- The contents of each readable file. -/
  files : List Char → Option (List Char)
  /-- The sixteen bytes `uuid_generate_random` draws. -/
  uuidRandom : Fin 16 → UInt8
  /-- What `gethostname` writes. -/
  hostname : List Char
  system : SystemEnv

/-- `config_get_default_path` on Linux. -/
def configGetDefaultPath : List Char := "/etc/gvm-agent/agent.conf".toList

/-- `agent_get_system_info`: operating system, architecture and at most 16 addresses other
than the loopback one, with the loopback address when there is no other. -/
def agentGetSystemInfo (env : SystemEnv) : List Char × List Char × List (List Char) :=
  let (os, arch) := match env.uname with
    | some (sysname, release, machine) => (snprintf 256 (sysname ++ ' ' :: release), machine)
    | none => ("Unknown".toList, "Unknown".toList)
  let ips := ((env.ipv4.getD []).filter (· != "127.0.0.1".toList)).take 16
  (os, arch, if ips = [] then ["127.0.0.1".toList] else ips)

/-- `uuid_generate_random`: the random bytes with the version (4) and variant (`10`) bits set. -/
def uuidGenerateRandom (random : Fin 16 → UInt8) (i : Fin 16) : UInt8 :=
  if i.val = 6 then (random i &&& 0x0F) ||| 0x40
  else if i.val = 8 then (random i &&& 0x3F) ||| 0x80
  else random i

/-- `uuid_unparse_lower`: two lowercase hex digits a byte, a dash before bytes 4, 6, 8 and 10. -/
def uuidUnparseLower (uuid : Fin 16 → UInt8) : List Char :=
  (List.finRange 16).flatMap fun i =>
    (if i.val ∈ [4, 6, 8, 10] then ['-'] else []) ++
      [Nat.digitChar ((uuid i).toNat / 16), Nat.digitChar ((uuid i).toNat % 16)]

/-- `utils_generate_uuid` (its `malloc` failure left out). -/
def utilsGenerateUuid (random : Fin 16 → UInt8) : List Char :=
  uuidUnparseLower (uuidGenerateRandom random)

/-- `agent_get_or_generate_uuid`: the path is not read; a fresh UUID every time. -/
def agentGetOrGenerateUuid (_configPath : List Char) (random : Fin 16 → UInt8) : List Char :=
  utilsGenerateUuid random

/-- The configuration `agent_init` completes: a fresh UUID when `agent_id` is missing or
empty, the host's name when `hostname` is. -/
def agentInitConfig (confPath : List Char) (env : InitEnv) (config : AgentConfig) : AgentConfig :=
  let config := if config.agentId.getD [] = [] then
      { config with agentId := some (agentGetOrGenerateUuid confPath env.uuidRandom) }
    else config
  if config.hostname.getD [] = [] then { config with hostname := some env.hostname } else config

/-- `agent_init`; `none` is the NULL it returns when libcurl or the configuration fails. -/
def agentInit (configPath : Option (List Char)) (env : InitEnv) : Option AgentContext :=
  if env.httpClientInit then
    let confPath := configPath.getD configGetDefaultPath
    (configLoad (env.files confPath)).toOption.map fun config =>
      let (os, arch, ips) := agentGetSystemInfo env.system
      { config := agentInitConfig confPath env config, state := .registering, authorized := false,
        lastHeartbeat := 0, retryCount := 0, operatingSystem := some os, architecture := some arch,
        ipAddresses := ips }
  else none

theorem agentInit_agentId_of_unset {configPath : Option (List Char)} {env : InitEnv}
    {config : AgentConfig} (curl : env.httpClientInit = true)
    (loaded : configLoad (env.files (configPath.getD configGetDefaultPath)) = .ok config)
    (unset : config.agentId.getD [] = []) :
    (agentInit configPath env).map (·.config.agentId) =
      some (some (utilsGenerateUuid env.uuidRandom)) := by
  simp only [agentInit, curl, if_true, loaded, Except.toOption, Option.map_some', agentInitConfig,
    unset, agentGetOrGenerateUuid]
  split_ifs <;> rfl

/-- A context `agent_init` may return. -/
def sampleContext : AgentContext where
  config := { configDefaults with
    agentId := some "5f0c1a2b-3c4d-4e5f-8a6b-7c8d9e0f1a2b".toList
    hostname := some "scanner-host".toList
    controllerUrl := some "https://controller.example".toList
    authToken := some "token".toList }
  state := .registering
  authorized := false
  lastHeartbeat := 0
  retryCount := 0
  operatingSystem := some "Linux 6.1.0".toList
  architecture := some "x86_64".toList
  ipAddresses := ["192.0.2.10".toList]

/-- A configuration file with no `[agent]` section. -/
def anonymousConfigText : List Char :=
  "[controller]\nurl = https://controller.example\nauth_token = token\n".toList

/-- What `config_load` makes of `anonymousConfigText`. -/
def anonymousConfig : AgentConfig := { configDefaults with
  controllerUrl := some "https://controller.example".toList
  authToken := some "token".toList }

/-- Two runs of `agent_init` on the same files, one after the other, come up with different
identities when the UUID generator draws different bytes. -/
theorem agent_init_identity_not_stable (hostname : List Char) (system : SystemEnv) :
    (agentInit none ⟨true, fun _ => some anonymousConfigText, fun _ => 0, hostname, system⟩).map
        (·.config.agentId) = some (some "00000000-0000-4000-8000-000000000000".toList) ∧
      (agentInit none ⟨true, fun _ => some anonymousConfigText, fun i => if i.val = 0 then 1 else 0,
          hostname, system⟩).map (·.config.agentId) =
        some (some "01000000-0000-4000-8000-000000000000".toList) ∧
      "00000000-0000-4000-8000-000000000000".toList ≠ "01000000-0000-4000-8000-000000000000".toList := by
  have first : utilsGenerateUuid (fun _ => 0) = "00000000-0000-4000-8000-000000000000".toList := by
    decide
  have second : utilsGenerateUuid (fun i => if i.val = 0 then 1 else 0) =
      "01000000-0000-4000-8000-000000000000".toList := by
    decide
  exact ⟨(@agentInit_agentId_of_unset none _ anonymousConfig rfl (by rfl) rfl).trans (by rw [← first]),
    (@agentInit_agentId_of_unset none _ anonymousConfig rfl (by rfl) rfl).trans (by rw [← second]),
    by decide⟩

end GvmAgent
