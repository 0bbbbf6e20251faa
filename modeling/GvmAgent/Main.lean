import GvmAgent.Agent

set_option autoImplicit false

/-! `main` of `main.c`: the loop over the command line, then `agent_init`.

The loop reads `-h`/`--help` and `-v`/`--version`, which end the program with status 0, and
`-c`/`--config` followed by a path, which sets `config_path`; anything else ends it with
status 1. So `main` goes on to `agent_init` exactly when the command line is a sequence of
configuration options, and hands it the path of the last one. -/

namespace GvmAgent

/-- Where the argument loop of `main` leaves the program. -/
inductive MainOutcome where
  /-- `print_usage`, then `return 0`. -/
  | usage
  /-- `print_version`, then `return 0`. -/
  | version
  /-- The message written to `stderr`, then `print_usage` and `return 1`. -/
  | error (message : List Char)
  /-- The loop ends and `main` calls `agent_init (config_path)`. -/
  | start (configPath : Option (List Char))
  deriving DecidableEq, Repr

/-- The `for` loop over `argv[1]`, …, with `config_path` as set so far. -/
def mainArgs (configPath : Option (List Char)) : List (List Char) → MainOutcome
  | [] => .start configPath
  | arg :: rest =>
    if arg = "-h".toList ∨ arg = "--help".toList then .usage
    else if arg = "-v".toList ∨ arg = "--version".toList then .version
    else if arg = "-c".toList ∨ arg = "--config".toList then
      match rest with
      | path :: rest => mainArgs (some path) rest
      | [] => .error "Error: --config requires a path argument\n".toList
    else .error ("Error: Unknown option: ".toList ++ arg ++ "\n".toList)

/-- `main` up to the main loop: the status it returns before it, or the context `agent_init`
hands to `agent_run`. -/
def main (args : List (List Char)) (env : InitEnv) : Except Int AgentContext :=
  match mainArgs none args with
  | .usage | .version => .error 0
  | .error _ => .error 1
  | .start configPath =>
    match agentInit configPath env with
    | none => .error 1
    | some ctx => .ok ctx

/-- The spelling of a configuration option: `--config` or `-c`. -/
def configOptionName (long : Bool) : List Char := if long then "--config".toList else "-c".toList

/-- A command line of configuration options, each spelt either way and followed by its path. -/
def configOptions : List (Bool × List Char) → List (List Char)
  | [] => []
  | (long, path) :: rest => configOptionName long :: path :: configOptions rest

/-- The path the last of the options gives, or `configPath` when there is none. -/
def lastConfigPath (options : List (Bool × List Char)) (configPath : Option (List Char)) :
    Option (List Char) :=
  (options.getLast?.map (·.2)).or configPath

section Args

theorem configOptions_eq_cons {options : List (Bool × List Char)} {arg : List Char}
    {rest : List (List Char)} :
    configOptions options = arg :: rest ↔
      ∃ long path more, options = (long, path) :: more ∧ arg = configOptionName long ∧
        rest = path :: configOptions more := by
  cases options with
  | nil => exact iff_of_false (fun none => by cases none) fun ⟨_, _, _, eq, _⟩ => by cases eq
  | cons option more =>
    obtain ⟨long, path⟩ := option
    simp only [configOptions, List.cons.injEq, Prod.mk.injEq]
    exact ⟨fun ⟨same, rest⟩ => ⟨long, path, more, ⟨⟨rfl, rfl⟩, rfl⟩, same.symm, rest.symm⟩,
      fun ⟨_, _, _, ⟨⟨rfl, rfl⟩, rfl⟩, same, rest⟩ => ⟨same.symm, rest.symm⟩⟩

theorem lastConfigPath_cons (long : Bool) (path : List Char) (more : List (Bool × List Char))
    (configPath : Option (List Char)) :
    lastConfigPath ((long, path) :: more) configPath = lastConfigPath more (some path) := by
  cases more with
  | nil => rfl
  | cons option more => simp [lastConfigPath, List.getLast?_cons]

theorem configOptionName_cases (long : Bool) :
    configOptionName long = "-c".toList ∨ configOptionName long = "--config".toList := by
  cases long
  · exact .inl rfl
  · exact .inr rfl

theorem mainArgs_eq_start_iff :
    ∀ (args : List (List Char)) (configPath result : Option (List Char)),
      mainArgs configPath args = .start result ↔
        ∃ options, args = configOptions options ∧ result = lastConfigPath options configPath
  | [], configPath, result => by
    simp only [mainArgs, MainOutcome.start.injEq]
    refine ⟨fun same => ⟨[], rfl, same.symm⟩, fun ⟨options, eq, last⟩ => ?_⟩
    cases options with
    | nil => exact last.symm
    | cons option more => cases eq
  | arg :: rest, configPath, result => by
    have notOption : ¬ (arg = "-c".toList ∨ arg = "--config".toList) →
        ¬ ∃ options, arg :: rest = configOptions options ∧ result = lastConfigPath options configPath :=
      fun other ⟨options, eq, _⟩ => by
        obtain ⟨long, _, _, _, rfl, _⟩ := configOptions_eq_cons.mp eq.symm
        exact other (configOptionName_cases long)
    unfold mainArgs
    split_ifs with help version config
    · exact iff_of_false (fun none => by cases none) (notOption (by rcases help with rfl | rfl <;> decide))
    · exact iff_of_false (fun none => by cases none) (notOption (by rcases version with rfl | rfl <;> decide))
    · cases rest with
      | nil =>
        refine iff_of_false (fun none => by cases none) fun ⟨options, eq, _⟩ => ?_
        obtain ⟨_, _, _, _, _, missing⟩ := configOptions_eq_cons.mp eq.symm
        cases missing
      | cons path rest =>
        dsimp only
        rw [mainArgs_eq_start_iff rest (some path) result]
        constructor
        · rintro ⟨more, rfl, rfl⟩
          have long : arg = configOptionName (arg = "--config".toList) := by
            rcases config with rfl | rfl <;> decide
          exact ⟨(_, path) :: more, by rw [configOptions, ← long], (lastConfigPath_cons _ _ _ _).symm⟩
        · rintro ⟨options, eq, rfl⟩
          obtain ⟨long, path', more, rfl, -, tail⟩ := configOptions_eq_cons.mp eq.symm
          obtain ⟨rfl, rfl⟩ := List.cons.inj tail
          exact ⟨more, rfl, lastConfigPath_cons _ _ _ _⟩
    · exact iff_of_false (fun none => by cases none) (notOption config)

/-- Wherever the loop stops, it stops at the first argument that is not an option followed by
a path, after the configuration options before it, and ends as it would on that argument
alone. -/
theorem mainArgs_stops : ∀ (args : List (List Char)) (configPath : Option (List Char)),
    (∃ options, args = configOptions options ∧
      mainArgs configPath args = .start (lastConfigPath options configPath)) ∨
    (∃ options arg rest, args = configOptions options ++ arg :: rest ∧
      (arg = "-c".toList ∨ arg = "--config".toList → rest = []) ∧
      mainArgs configPath args = mainArgs (lastConfigPath options configPath) [arg])
  | [], _ => .inl ⟨[], rfl, rfl⟩
  | arg :: rest, configPath => by
    by_cases config : arg = "-c".toList ∨ arg = "--config".toList
    · cases rest with
      | nil => exact .inr ⟨[], arg, [], rfl, fun _ => rfl, rfl⟩
      | cons path rest =>
        have step : mainArgs configPath (arg :: path :: rest) = mainArgs (some path) rest := by
          rw [mainArgs, if_neg (by rcases config with rfl | rfl <;> decide),
            if_neg (by rcases config with rfl | rfl <;> decide), if_pos config]
        have long : arg = configOptionName (arg = "--config".toList) := by
          rcases config with rfl | rfl <;> decide
        rcases mainArgs_stops rest (some path) with ⟨options, rfl, start⟩ |
          ⟨options, arg', rest', rfl, last, stop⟩
        · exact .inl ⟨(_, path) :: options, by rw [configOptions, ← long],
            by rw [step, start, lastConfigPath_cons]⟩
        · exact .inr ⟨(_, path) :: options, arg', rest', by rw [configOptions, ← long]; rfl, last,
            by rw [step, stop, lastConfigPath_cons]⟩
    · refine .inr ⟨[], arg, rest, rfl, fun named => absurd named config, ?_⟩
      cases rest with
      | nil => rfl
      | cons path rest => simp only [mainArgs, if_neg config]

end Args

/-- `main` calls `agent_init` exactly when every argument is a configuration option or its path,
and hands it the path of the last option, or NULL when there is none. Any other command line
ends the program before `agent_init`, at its first argument that is not an option followed by
a path: with status 0 when that argument asks for the help or the version, and 1 otherwise. -/
theorem main_config_path (args : List (List Char)) (env : InitEnv) :
    (∃ options, args = configOptions options ∧
      main args env = ((agentInit (lastConfigPath options none) env).map Except.ok).getD (.error 1)) ∨
    (∃ options arg rest, args = configOptions options ++ arg :: rest ∧
      (arg = "-c".toList ∨ arg = "--config".toList → rest = []) ∧
      main args env =
        .error (if arg ∈ ["-h".toList, "--help".toList, "-v".toList, "--version".toList] then 0 else 1)) := by
  rcases mainArgs_stops args none with ⟨options, eq, start⟩ | ⟨options, arg, rest, eq, last, stop⟩
  · refine .inl ⟨options, eq, ?_⟩
    rw [main, start]
    dsimp only
    cases agentInit (lastConfigPath options none) env <;> rfl
  · refine .inr ⟨options, arg, rest, eq, last, ?_⟩
    rw [main, stop]
    simp only [mainArgs, List.mem_cons, List.mem_singleton, List.not_mem_nil, or_false]
    split_ifs <;> simp_all

end GvmAgent
