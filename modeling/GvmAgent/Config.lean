import GvmAgent.AgentTypes

set_option autoImplicit false

/-! `config.c`: the INI-style parser and the validation of the loaded configuration.

The file is read with `fgets` into `char line[MAX_LINE_LENGTH]`; `fgetsLines` gives the
chunks those calls return, so a line longer than the buffer arrives in pieces. -/

namespace GvmAgent

/-- `MAX_LINE_LENGTH`. -/
def maxLineLength : Nat := 1024

/-- The chunks successive `fgets` calls return while at most `cap` characters fit: a chunk
ends after a newline or when it is full. -/
def fgetsLoop (cap : Nat) : List Char → List Char → List (List Char)
  | [], [] => []
  | [], current => [current]
  | c :: rest, current =>
    if c = '\n' ∨ current.length + 1 = cap then (current ++ [c]) :: fgetsLoop cap rest []
    else fgetsLoop cap rest (current ++ [c])

/-- What `while (fgets (line, size, file))` hands to the loop body, chunk by chunk. -/
def fgetsLines (size : Nat) (text : List Char) : List (List Char) := fgetsLoop (size - 1) text []

/-- The chunks `fgets` hands over when every line fits its buffer: each line with its
newline, the last one as it stands, and nothing for an empty last line. -/
def lineChunks : List (List Char) → List (List Char)
  | [] => []
  | [line] => if line = [] then [] else [line]
  | line :: next :: rest => (line ++ ['\n']) :: lineChunks (next :: rest)

/-- The characters `trim_whitespace` removes at the end of a string. -/
def isTrailingSpace (c : Char) : Bool := c == ' ' || c == '\t' || c == '\n' || c == '\r'

/-- `trim_whitespace`: spaces and tabs in front, spaces, tabs, CR and LF behind. The loop
stops at the first character, so that one is never removed from the back. -/
def trimWhitespace (s : List Char) : List Char :=
  match s.dropWhile (fun c => c == ' ' || c == '\t') with
  | [] => []
  | c :: rest => c :: (rest.reverse.dropWhile isTrailingSpace).reverse

/-- The defaults `config_load` sets before reading the file. -/
def configDefaults : AgentConfig where
  agentId := none
  hostname := none
  controllerUrl := none
  authToken := none
  heartbeatIntervalSeconds := 600
  retryAttempts := 5
  retryDelaySeconds := 60
  maxJitterSeconds := 30
  logLevel := some "info".toList

/-- The assignment `key = value` in section `currentSection`, as the chain of `strcmp`s in
`config_load` applies it; `heartbeat.miss_until_inactive` and unknown keys change nothing. -/
def configAssign (currentSection key value : List Char) (config : AgentConfig) : AgentConfig :=
  if currentSection = "agent".toList then
    if key = "agent_id".toList then { config with agentId := some value }
    else if key = "hostname".toList then { config with hostname := some value }
    else config
  else if currentSection = "controller".toList then
    if key = "url".toList then { config with controllerUrl := some value }
    else if key = "auth_token".toList then { config with authToken := some value }
    else config
  else if currentSection = "heartbeat".toList then
    if key = "interval_in_seconds".toList then { config with heartbeatIntervalSeconds := atoi value }
    else config
  else if currentSection = "retry".toList then
    if key = "attempts".toList then { config with retryAttempts := atoi value }
    else if key = "delay_in_seconds".toList then { config with retryDelaySeconds := atoi value }
    else if key = "max_jitter_in_seconds".toList then { config with maxJitterSeconds := atoi value }
    else config
  else if currentSection = "logging".toList then
    if key = "level".toList then { config with logLevel := some value } else config
  else config

/-- A value with a leading double quote loses it and everything from the next one. -/
def unquote (value : List Char) : List Char :=
  match value with
  | '"' :: rest => rest.takeWhile (· != '"')
  | _ => value

/-- The parser's state between two lines: the configuration so far and
`char current_section[64]`. -/
structure ConfigLoadState where
  config : AgentConfig
  currentSection : List Char

/-- The body of the `fgets` loop once `trim_whitespace` has trimmed the line. -/
def configLoadTrimmed (state : ConfigLoadState) (trimmed : List Char) : ConfigLoadState :=
  match trimmed with
  | [] => state
  | '#' :: _ => state
  | ';' :: _ => state
  | first :: rest =>
    if first = '[' ∧ ']' ∈ rest then
      { state with currentSection := (rest.takeWhile (· != ']')).take 63 }
    else if '=' ∈ first :: rest then
      let key := trimWhitespace ((first :: rest).takeWhile (· != '='))
      let value := unquote (trimWhitespace (((first :: rest).dropWhile (· != '=')).drop 1))
      { state with config := configAssign state.currentSection key value state.config }
    else state

/-- The body of the `fgets` loop for one chunk. -/
def configLoadLine (state : ConfigLoadState) (line : List Char) : ConfigLoadState :=
  configLoadTrimmed state (trimWhitespace (cString line))

/-- `config_validate`: the URL and the token must be present and non-empty, the heartbeat
interval at least 60 seconds. -/
def configValidate (config : AgentConfig) : AgentError :=
  if config.controllerUrl.getD [] = [] then .configInvalid
  else if config.authToken.getD [] = [] then .configInvalid
  else if config.heartbeatIntervalSeconds < 60 then .configInvalid
  else .success

/-- `config_load` on the file's contents (`none` when `fopen` fails). -/
def configLoad (file : Option (List Char)) : Except AgentError AgentConfig :=
  match file with
  | none => .error .configMissing
  | some text =>
    let state := (fgetsLines maxLineLength text).foldl configLoadLine ⟨configDefaults, []⟩
    match configValidate state.config with
    | .success => .ok state.config
    | failure => .error failure

section Fgets

variable {cap : Nat}

theorem fgetsLoop_line {line current : List Char} (rest : List Char) (noNewline : '\n' ∉ line)
    (fits : current.length + line.length < cap) :
    fgetsLoop cap (line ++ '\n' :: rest) current =
      (current ++ line ++ ['\n']) :: fgetsLoop cap rest [] := by
  induction line generalizing current with
  | nil => simp [fgetsLoop]
  | cons c line ih =>
    have other : c ≠ '\n' := fun h => noNewline (h ▸ List.mem_cons_self _ _)
    have room : current.length + 1 ≠ cap := by simp at fits; omega
    rw [List.cons_append, fgetsLoop, if_neg (by simp [other, room]),
      ih (fun h => noNewline (List.mem_cons_of_mem _ h)) (by simp at fits ⊢; omega)]
    simp

theorem fgetsLoop_full {line current : List Char} (rest : List Char) (noNewline : '\n' ∉ line)
    (nonempty : line ≠ []) (full : current.length + line.length = cap) :
    fgetsLoop cap (line ++ rest) current = (current ++ line) :: fgetsLoop cap rest [] := by
  induction line generalizing current with
  | nil => exact absurd rfl nonempty
  | cons c line ih =>
    have other : c ≠ '\n' := fun h => noNewline (h ▸ List.mem_cons_self _ _)
    by_cases last : line = []
    · subst last
      simp at full
      simp [fgetsLoop, full]
    · have room : current.length + 1 ≠ cap := by
        have := List.length_pos.mpr last
        simp at full
        omega
      rw [List.cons_append, fgetsLoop, if_neg (by simp [other, room]),
        ih (fun h => noNewline (List.mem_cons_of_mem _ h)) last (by simp at full ⊢; omega)]
      simp

theorem fgetsLoop_last {line current : List Char} (noNewline : '\n' ∉ line)
    (fits : current.length + line.length ≤ cap) :
    fgetsLoop cap line current = if current ++ line = [] then [] else [current ++ line] := by
  induction line generalizing current with
  | nil => cases current <;> simp [fgetsLoop]
  | cons c line ih =>
    have other : c ≠ '\n' := fun h => noNewline (h ▸ List.mem_cons_self _ _)
    by_cases full : current.length + 1 = cap
    · obtain rfl : line = [] := List.eq_nil_of_length_eq_zero (by simp at fits; omega)
      simp [fgetsLoop, full]
    · rw [fgetsLoop, if_neg (by simp [other, full]),
        ih (fun h => noNewline (List.mem_cons_of_mem _ h)) (by simp at fits ⊢; omega)]
      simp

/-- A line of any length comes back in pieces, each a piece of the line with its newline: whole
when it fits, else a full buffer at a time. -/
theorem fgetsLoop_pieces (positive : 0 < cap) (line rest : List Char) (noNewline : '\n' ∉ line) :
    ∃ pieces, fgetsLoop cap (line ++ '\n' :: rest) [] = pieces ++ fgetsLoop cap rest [] ∧
      ∀ p ∈ pieces, p <:+: line ++ ['\n'] := by
  by_cases fits : line.length < cap
  · exact ⟨[line ++ ['\n']], by simpa using fgetsLoop_line rest noNewline (by simpa using fits),
      by simp⟩
  · have full := @fgetsLoop_full cap (line.take cap) [] (line.drop cap ++ '\n' :: rest)
      (fun m => noNewline (List.mem_of_mem_take m))
      (List.ne_nil_of_length_pos (by simp only [List.length_take]; omega)) (by simp; omega)
    rw [← List.append_assoc, List.take_append_drop] at full
    obtain ⟨pieces, eq, within⟩ := fgetsLoop_pieces positive (line.drop cap) rest
      (fun m => noNewline (List.mem_of_mem_drop m))
    refine ⟨line.take cap :: pieces, by rw [full, List.nil_append, eq, List.cons_append], ?_⟩
    rintro p (_ | ⟨_, mem⟩)
    · exact (List.take_prefix _ _).isInfix.trans (List.prefix_append _ _).isInfix
    · exact (within p mem).trans ⟨line.take cap, [], by rw [List.append_nil, ← List.append_assoc,
        List.take_append_drop]⟩
termination_by line.length
decreasing_by simp; omega

theorem fgetsLoop_last_pieces (positive : 0 < cap) (line : List Char) (noNewline : '\n' ∉ line) :
    ∀ p ∈ fgetsLoop cap line [], p <:+: line := by
  by_cases fits : line.length ≤ cap
  · rw [fgetsLoop_last noNewline (by simpa using fits)]
    split_ifs
    · exact fun _ none => absurd none (List.not_mem_nil _)
    · simp
  · have full := @fgetsLoop_full cap (line.take cap) [] (line.drop cap)
      (fun m => noNewline (List.mem_of_mem_take m))
      (List.ne_nil_of_length_pos (by simp only [List.length_take]; omega)) (by simp; omega)
    rw [List.take_append_drop] at full
    rw [full]
    rintro p (_ | ⟨_, mem⟩)
    · exact (List.take_prefix _ _).isInfix
    · exact (fgetsLoop_last_pieces positive (line.drop cap)
        (fun m => noNewline (List.mem_of_mem_drop m)) p mem).trans (List.drop_suffix _ _).isInfix
termination_by line.length
decreasing_by simp; omega

theorem fgetsLines_intercalate {size : Nat} {lines : List (List Char)}
    (fit : ∀ line ∈ lines, '\n' ∉ line ∧ line.length + 2 ≤ size) :
    fgetsLines size (List.intercalate ['\n'] lines) = lineChunks lines := by
  induction lines with
  | nil => rfl
  | cons line rest ih =>
    obtain ⟨noNewline, short⟩ := fit line (List.mem_cons_self _ _)
    cases rest with
    | nil =>
      have last := @fgetsLoop_last (size - 1) line [] noNewline (by simp; omega)
      simpa [fgetsLines, List.intercalate, lineChunks] using last
    | cons next rest =>
      have split : List.intercalate ['\n'] (line :: next :: rest) =
          line ++ '\n' :: List.intercalate ['\n'] (next :: rest) := by
        simp [List.intercalate]
      rw [split, fgetsLines, fgetsLoop_line _ noNewline (by simp; omega), ← fgetsLines,
        ih (fun l mem => fit l (List.mem_cons_of_mem _ mem)), lineChunks, List.nil_append]

theorem not_mem_of_mem_splitOn {sep : Char} {text line : List Char}
    (mem : line ∈ text.splitOn sep) : sep ∉ line := by
  induction text generalizing line with
  | nil => simp_all
  | cons c text ih =>
    simp only [List.splitOn, List.splitOnP_cons] at mem ih
    split_ifs at mem with isSep
    · rcases List.mem_cons.mp mem with rfl | mem
      exacts [List.not_mem_nil _, ih mem]
    · obtain ⟨first, pieces, eq⟩ := List.exists_cons_of_ne_nil (List.splitOnP_ne_nil _ text)
      rw [eq, List.modifyHead] at mem
      rcases List.mem_cons.mp mem with rfl | mem
      · exact List.not_mem_cons_of_ne_of_not_mem (fun same => isSep (by simp [same]))
          (@ih first (by simp [eq]))
      · exact ih (by simp [eq, mem])

theorem fgetsLines_splitOn {size : Nat} {text : List Char}
    (fit : ∀ line ∈ text.splitOn '\n', line.length + 2 ≤ size) :
    fgetsLines size text = lineChunks (text.splitOn '\n') := by
  conv_lhs => rw [← List.intercalate_splitOn text '\n']
  exact fgetsLines_intercalate fun line mem => ⟨not_mem_of_mem_splitOn mem, fit line mem⟩

theorem any_lineChunks {p : List Char → Bool} (empty : p [] = false)
    (newline : ∀ line, p (line ++ ['\n']) = p line) :
    ∀ lines : List (List Char), (lineChunks lines).any p = lines.any p
  | [] => rfl
  | [line] => by by_cases blank : line = [] <;> simp [lineChunks, blank, empty]
  | line :: next :: rest => by
    rw [lineChunks, List.any_cons, newline, any_lineChunks empty newline (next :: rest)]
    rfl

end Fgets

theorem configLoad_ok_iff {text : List Char} {config : AgentConfig} :
    configLoad (some text) = .ok config ↔
      config = ((fgetsLines maxLineLength text).foldl configLoadLine ⟨configDefaults, []⟩).config ∧
      config.controllerUrl.getD [] ≠ [] ∧ config.authToken.getD [] ≠ [] ∧
      60 ≤ config.heartbeatIntervalSeconds := by
  simp only [configLoad]
  generalize ((fgetsLines maxLineLength text).foldl configLoadLine ⟨configDefaults, []⟩).config = loaded
  unfold configValidate
  constructor
  · intro h
    split at h <;> simp only [Except.ok.injEq, reduceCtorEq] at h
    subst h
    split_ifs at * with url token interval
    exact ⟨rfl, url, token, not_lt.mp interval⟩
  · rintro ⟨rfl, url, token, interval⟩
    simp [url, token, not_lt.mpr interval]

theorem configLoad_error {file : Option (List Char)} {failure : AgentError}
    (failed : configLoad file = .error failure) :
    failure = .configMissing ∨ failure = .configInvalid := by
  cases file with
  | none => exact .inl (Except.error.inj failed).symm
  | some text =>
    simp only [configLoad, configValidate] at failed
    split_ifs at failed <;> simp_all

end GvmAgent
