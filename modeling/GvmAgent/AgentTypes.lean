import GvmAgent.CString

set_option autoImplicit false

/-! The data model of `agent.h`: error codes, lifecycle states, the configuration and the
context the main loop threads through every call. -/

namespace GvmAgent

/-- The `ERR_*` codes of `agent.h`. -/
inductive AgentError where
  | success
  | configMissing
  | configInvalid
  | networkUnreachable
  | authFailed
  | serverError
  | invalidResponse
  | agentUnauthorized
  | jobExecutionFailed
  deriving DecidableEq, Repr

/-- The numeric value of each code. -/
def AgentError.code : AgentError → Int
  | .success => 0
  | .configMissing => 1001
  | .configInvalid => 1002
  | .networkUnreachable => 2001
  | .authFailed => 2002
  | .serverError => 2003
  | .invalidResponse => 2004
  | .agentUnauthorized => 3001
  | .jobExecutionFailed => 3002

/-- `agent_state_t`. -/
inductive AgentState where
  | initializing
  | registering
  | active
  | unauthorized
  | error
  | shutdown
  deriving DecidableEq, Repr

/-- `agent_config_t`; a `char *` field is `none` while it is NULL. -/
structure AgentConfig where
  agentId : Option (List Char)
  hostname : Option (List Char)
  controllerUrl : Option (List Char)
  authToken : Option (List Char)
  heartbeatIntervalSeconds : Int
  retryAttempts : Int
  retryDelaySeconds : Int
  maxJitterSeconds : Int
  logLevel : Option (List Char)
  deriving DecidableEq, Repr

/-- `agent_context_t`; the IP list carries its own count. -/
structure AgentContext where
  config : AgentConfig
  state : AgentState
  authorized : Bool
  lastHeartbeat : Int
  retryCount : Int
  operatingSystem : Option (List Char)
  architecture : Option (List Char)
  ipAddresses : List (List Char)
  deriving DecidableEq, Repr

/-- `AGENT_VERSION`. -/
def agentVersion : List Char := "1.0.0".toList

end GvmAgent
