import GvmAgent.CString

set_option autoImplicit false

/-! `utils.c`: joining a base URL and a path, the random jitter of the retry loop, and
`utils_sleep`.

`malloc` failures are left out: `utils_build_url` is modelled on its success path. -/

namespace GvmAgent

/-- `utils_build_url`: a `/` goes between base and path only when the base does not end with
one and the path does not start with one. -/
def utilsBuildUrl (base path : List Char) : List Char :=
  let needsSlash := (base ≠ [] ∧ base.getLast? ≠ some '/') ∧ (path ≠ [] ∧ path.head? ≠ some '/')
  base ++ (if needsSlash then ['/'] else []) ++ path

/-- `utils_get_random_jitter_ms`, with `r` the value `rand ()` returns. -/
def utilsGetRandomJitterMs (maxJitterMs : Int) (r : Nat) : Int :=
  if maxJitterMs ≤ 0 then 0 else r % maxJitterMs

/-- `utils_sleep`: the seconds `sleep` sleeps. It takes an `unsigned int`, so the `int` it is
handed is taken modulo `2 ^ 32`. -/
def utilsSleep (seconds : Int) : Nat := (seconds % 2 ^ 32).toNat

/-- An `int` is slept as it is when it is not negative, and `2 ^ 32` seconds longer than it, at
least `2 ^ 31` seconds, when it is. -/
theorem utilsSleep_of_intRange {seconds : Int} (range : IntRange seconds) :
    (utilsSleep seconds : Int) = if 0 ≤ seconds then seconds else seconds + 2 ^ 32 := by
  unfold utilsSleep
  rw [Int.toNat_of_nonneg (Int.emod_nonneg _ (by decide))]
  unfold IntRange at range
  split_ifs <;> omega

theorem utilsBuildUrl_of_slash_path {base rest : List Char} :
    utilsBuildUrl base ('/' :: rest) = base ++ '/' :: rest := by
  simp [utilsBuildUrl]

theorem utilsGetRandomJitterMs_bounds (maxJitterMs : Int) (r : Nat) :
    0 ≤ utilsGetRandomJitterMs maxJitterMs r ∧
      utilsGetRandomJitterMs maxJitterMs r < max maxJitterMs 1 := by
  unfold utilsGetRandomJitterMs
  split
  · omega
  · exact ⟨Int.emod_nonneg _ (by omega), lt_max_of_lt_left (Int.emod_lt_of_pos _ (by omega))⟩

end GvmAgent
