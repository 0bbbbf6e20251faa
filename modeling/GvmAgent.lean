import GvmAgent.CString
import GvmAgent.CFloat
import GvmAgent.Json
import GvmAgent.HttpClient
import GvmAgent.Transfer
import GvmAgent.JsonExtract
import GvmAgent.JsonWriter
import GvmAgent.AgentTypes
import GvmAgent.Config
import GvmAgent.ConfigIni
import GvmAgent.Utils
import GvmAgent.Heartbeat
import GvmAgent.Agent
import GvmAgent.NvtFeed
import GvmAgent.NaslParse
import GvmAgent.FeedCache
import GvmAgent.FeedSync
import GvmAgent.NaslExecutor
import GvmAgent.JobProcessor
import GvmAgent.Severity
import GvmAgent.AgentRun
import GvmAgent.Uuid
import GvmAgent.Encoders
import GvmAgent.AutoUpdate
import GvmAgent.Requests
import GvmAgent.Main
