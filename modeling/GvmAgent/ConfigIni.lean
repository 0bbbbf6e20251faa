import GvmAgent.Config

set_option autoImplicit false

/-! The configuration file as INI rules read it, and `config_load` against them.

The INI reading splits the text at newlines, trims every line of spaces, tabs, CR and LF,
and lets the last assignment of a field win. `config_load` reads it in `fgets` chunks and
trims lines with `trim_whitespace`, which never strips a CR or LF in front. The two agree on
every text whose lines hold no NUL byte, fit the buffer with their newline, and hold a CR
at most as their last character. -/

namespace GvmAgent

/-- The characters the INI rules trim around a line, a key and a value. -/
def isIniBlank (c : Char) : Bool := c == ' ' || c == '\t' || c == '\n' || c == '\r'

/-- A text without its surrounding spaces, tabs, CR and LF. -/
def iniTrim (s : List Char) : List Char :=
  ((s.dropWhile isIniBlank).reverse.dropWhile isIniBlank).reverse

/-- What a line says under the INI rules. -/
inductive IniLine where
  | ignored
  | header (name : List Char)
  | assignment (key value : List Char)

/-- A trimmed line under the INI rules: empty lines and comments say nothing, `[name]…`
opens a section, `key = value` assigns the value with its quotes removed. -/
def iniRead (trimmed : List Char) : IniLine :=
  match trimmed with
  | [] => .ignored
  | '#' :: _ => .ignored
  | ';' :: _ => .ignored
  | first :: rest =>
    if first = '[' ∧ ']' ∈ rest then .header (rest.takeWhile (· != ']'))
    else if '=' ∈ first :: rest then
      .assignment (iniTrim ((first :: rest).takeWhile (· != '=')))
        (unquote (iniTrim (((first :: rest).dropWhile (· != '=')).drop 1)))
    else .ignored

/-- A line under the INI rules. -/
def iniLine (line : List Char) : IniLine := iniRead (iniTrim line)

/-- The current section and the assignments so far, each with its section, after one more
line. -/
def iniNext (state : List Char × List (List Char × List Char × List Char)) :
    IniLine → List Char × List (List Char × List Char × List Char)
  | .ignored => state
  | .header name => (name, state.2)
  | .assignment key value => (state.1, state.2 ++ [(state.1, key, value)])

/-- The assignments of a file in order, as `(section, key, value)`. -/
def iniAssignments (lines : List (List Char)) : List (List Char × List Char × List Char) :=
  (lines.foldl (fun state line => iniNext state (iniLine line)) ([], [])).2

/-- The value of the last assignment to the key `path.2` in the section `path.1`. -/
def lastAssigned (path : List Char × List Char)
    (assignments : List (List Char × List Char × List Char)) : Option (List Char) :=
  assignments.foldl (fun acc a => if path = (a.1, a.2.1) then some a.2.2 else acc) none

/-- The value a text assigns last to a key of a section. -/
def iniValue (text : List Char) (path : List Char × List Char) : Option (List Char) :=
  lastAssigned path (iniAssignments (text.splitOn '\n'))

/-- The fields `config_load` reads from the file. -/
inductive ConfigKey where
  | agentId
  | hostname
  | controllerUrl
  | authToken
  | logLevel
  | heartbeatInterval
  | retryAttempts
  | retryDelay
  | maxJitter
  deriving DecidableEq

/-- The section and the key that name a field. -/
def ConfigKey.path : ConfigKey → List Char × List Char
  | .agentId => ("agent".toList, "agent_id".toList)
  | .hostname => ("agent".toList, "hostname".toList)
  | .controllerUrl => ("controller".toList, "url".toList)
  | .authToken => ("controller".toList, "auth_token".toList)
  | .logLevel => ("logging".toList, "level".toList)
  | .heartbeatInterval => ("heartbeat".toList, "interval_in_seconds".toList)
  | .retryAttempts => ("retry".toList, "attempts".toList)
  | .retryDelay => ("retry".toList, "delay_in_seconds".toList)
  | .maxJitter => ("retry".toList, "max_jitter_in_seconds".toList)

/-- An integer field holds the value of its last assignment when that is a decimal `int`
literal, and its default when it is never assigned. -/
def NumberAssigned (assigned : Option (List Char)) (default field : Int) : Prop :=
  match assigned with
  | none => field = default
  | some value => ∀ n, decimalLiteral? value = some n → IntRange n → field = n

/-- A field of `config` holds what the INI rules give it, `assigned` being its last assigned
value: a string field that value, an integer field the number it spells; an unassigned
field its default. -/
def ConfigKey.Holds (assigned : Option (List Char)) (config : AgentConfig) : ConfigKey → Prop
  | .agentId => config.agentId = assigned.or configDefaults.agentId
  | .hostname => config.hostname = assigned.or configDefaults.hostname
  | .controllerUrl => config.controllerUrl = assigned.or configDefaults.controllerUrl
  | .authToken => config.authToken = assigned.or configDefaults.authToken
  | .logLevel => config.logLevel = assigned.or configDefaults.logLevel
  | .heartbeatInterval => NumberAssigned assigned configDefaults.heartbeatIntervalSeconds
      config.heartbeatIntervalSeconds
  | .retryAttempts => NumberAssigned assigned configDefaults.retryAttempts config.retryAttempts
  | .retryDelay => NumberAssigned assigned configDefaults.retryDelaySeconds config.retryDelaySeconds
  | .maxJitter => NumberAssigned assigned configDefaults.maxJitterSeconds config.maxJitterSeconds

/-- Every field of `config` holds what the INI rules give it for `text`. -/
def IniReads (text : List Char) (config : AgentConfig) : Prop :=
  ∀ key : ConfigKey, key.Holds (iniValue text key.path) config

/-- A line `config_load` reads as the INI rules do: it fits `char line[MAX_LINE_LENGTH]` with
its newline, holds no NUL byte, and holds a CR at most as its last character. -/
structure IniLineFits (line : List Char) : Prop where
  short : line.length ≤ 1022
  noNul : '\x00' ∉ line
  crLast : '\r' ∉ line.dropLast

instance (line : List Char) : Decidable (IniLineFits line) :=
  decidable_of_iff (line.length ≤ 1022 ∧ '\x00' ∉ line ∧ '\r' ∉ line.dropLast)
    ⟨fun ⟨short, noNul, crLast⟩ => ⟨short, noNul, crLast⟩,
      fun ⟨short, noNul, crLast⟩ => ⟨short, noNul, crLast⟩⟩

/-! ### The fields `configAssign` sets -/

/-- The field a `key = value` line names in `currentSection`, by the `strcmp` chain of
`config_load`. -/
def configKeyOf (currentSection key : List Char) : Option ConfigKey :=
  if currentSection = "agent".toList then
    if key = "agent_id".toList then some .agentId
    else if key = "hostname".toList then some .hostname
    else none
  else if currentSection = "controller".toList then
    if key = "url".toList then some .controllerUrl
    else if key = "auth_token".toList then some .authToken
    else none
  else if currentSection = "heartbeat".toList then
    if key = "interval_in_seconds".toList then some .heartbeatInterval else none
  else if currentSection = "retry".toList then
    if key = "attempts".toList then some .retryAttempts
    else if key = "delay_in_seconds".toList then some .retryDelay
    else if key = "max_jitter_in_seconds".toList then some .maxJitter
    else none
  else if currentSection = "logging".toList then
    if key = "level".toList then some .logLevel else none
  else none

/-- What `configAssign` writes into a field. -/
def ConfigKey.assign (value : List Char) (config : AgentConfig) : ConfigKey → AgentConfig
  | .agentId => { config with agentId := some value }
  | .hostname => { config with hostname := some value }
  | .controllerUrl => { config with controllerUrl := some value }
  | .authToken => { config with authToken := some value }
  | .logLevel => { config with logLevel := some value }
  | .heartbeatInterval => { config with heartbeatIntervalSeconds := atoi value }
  | .retryAttempts => { config with retryAttempts := atoi value }
  | .retryDelay => { config with retryDelaySeconds := atoi value }
  | .maxJitter => { config with maxJitterSeconds := atoi value }

section Keys

variable {s k v : List Char} {c : AgentConfig} {key : ConfigKey}

theorem configAssign_eq_assign : configAssign s k v c = (configKeyOf s k).elim c (·.assign v c) := by
  unfold configAssign configKeyOf
  simp only [apply_ite (fun o : Option ConfigKey => o.elim c (·.assign v c))]
  rfl

theorem configKeyOf_eq_some : configKeyOf s k = some key ↔ key.path = (s, k) := by
  constructor
  · intro named
    unfold configKeyOf at named
    simp only [ite_eq_iff, Option.some.injEq, reduceCtorEq, and_false, or_false] at named
    rcases named with ⟨rfl, ⟨rfl, rfl⟩ | ⟨-, rfl, rfl⟩⟩ | ⟨-, ⟨rfl, ⟨rfl, rfl⟩ | ⟨-, rfl, rfl⟩⟩ |
      ⟨-, ⟨rfl, rfl, rfl⟩ | ⟨-, ⟨rfl, ⟨rfl, rfl⟩ | ⟨-, ⟨rfl, rfl⟩ | ⟨-, rfl, rfl⟩⟩⟩ |
      ⟨-, rfl, rfl, rfl⟩⟩⟩⟩ <;> rfl
  · intro path
    obtain ⟨rfl, rfl⟩ := Prod.mk.inj path
    cases key <;> rfl

theorem ConfigKey.section_short (key : ConfigKey) : key.path.1.length ≤ 10 := by
  cases key <;> decide

theorem configKeyOf_of_long (long : 10 < s.length) : configKeyOf s k = none := by
  cases named : configKeyOf s k with
  | none => rfl
  | some key =>
    have short : (s, k).1.length ≤ 10 := configKeyOf_eq_some.mp named ▸ key.section_short
    exact absurd (show s.length ≤ 10 from short) (by omega)

/-- `char current_section[64]` keeps 63 characters, more than any section `config_load`
knows. -/
theorem configAssign_take (s k v : List Char) (c : AgentConfig) :
    configAssign (s.take 63) k v c = configAssign s k v c := by
  by_cases short : s.length ≤ 63
  · rw [List.take_of_length_le short]
  · rw [configAssign_eq_assign, configAssign_eq_assign, configKeyOf_of_long (by simp; omega),
      configKeyOf_of_long (by omega)]

theorem holds_assign (key : ConfigKey) (v : List Char) (c : AgentConfig) :
    key.Holds (some v) (key.assign v c) := by
  cases key <;> first
    | rfl
    | exact fun _ literal range => atoi_of_decimalLiteral literal range

theorem holds_assign_other {key' : ConfigKey} (other : key' ≠ key) (assigned : Option (List Char)) :
    key.Holds assigned (key'.assign v c) ↔ key.Holds assigned c := by
  cases key <;> cases key' <;> first | exact absurd rfl other | exact Iff.rfl

theorem holds_configAssign {assigned : Option (List Char)} (holds : key.Holds assigned c) :
    key.Holds (if key.path = (s, k) then some v else assigned) (configAssign s k v c) := by
  rw [configAssign_eq_assign]
  split_ifs with named
  · rw [configKeyOf_eq_some.mpr named]
    exact holds_assign key v c
  · cases found : configKeyOf s k with
    | none => exact holds
    | some key' =>
      have other : key' ≠ key := fun same => named (configKeyOf_eq_some.mp (same ▸ found))
      exact (holds_assign_other other assigned).mpr holds

/-- The assignments of a file applied in order, from the defaults. -/
def applyAssignments (assignments : List (List Char × List Char × List Char)) : AgentConfig :=
  assignments.foldl (fun config a => configAssign a.1 a.2.1 a.2.2 config) configDefaults

theorem holds_foldl (key : ConfigKey) :
    ∀ (assignments : List (List Char × List Char × List Char)) (c : AgentConfig)
      (acc : Option (List Char)), key.Holds acc c →
      key.Holds (assignments.foldl (fun acc a => if key.path = (a.1, a.2.1) then some a.2.2 else acc) acc)
        (assignments.foldl (fun config a => configAssign a.1 a.2.1 a.2.2 config) c)
  | [], _, _, holds => holds
  | _ :: rest, _, _, holds => holds_foldl key rest _ _ (holds_configAssign holds)

theorem holds_applyAssignments (assignments : List (List Char × List Char × List Char))
    (key : ConfigKey) : key.Holds (lastAssigned key.path assignments) (applyAssignments assignments) :=
  holds_foldl key assignments configDefaults none (by cases key <;> rfl)

end Keys

/-! ### One line -/

section Trim

variable {u : List Char} {c : Char}

theorem isIniBlank_eq : isIniBlank = isTrailingSpace := rfl

/-- A blank put after a text changes its trimmed form only when the text is all spaces and
tabs: `trim_whitespace` then keeps the blank. -/
theorem trimWhitespace_append_blank (blank : isTrailingSpace c) :
    trimWhitespace (u ++ [c]) = trimWhitespace u ∨
      (trimWhitespace u = [] ∧ trimWhitespace (u ++ [c]) = [c]) := by
  unfold trimWhitespace
  cases front : u.dropWhile (fun c => c == ' ' || c == '\t') with
  | nil =>
    have spaces := List.dropWhile_eq_nil_iff.mp front
    rw [List.dropWhile_append_of_pos spaces]
    by_cases space : (c == ' ' || c == '\t') = true
    · simp [List.dropWhile_cons, space]
    · simp [List.dropWhile_cons, space]
  | cons d rest =>
    left
    rw [List.dropWhile_append, front]
    simp [List.dropWhile_cons_of_pos blank]

theorem iniTrim_append_blank (blank : isIniBlank c) : iniTrim (u ++ [c]) = iniTrim u := by
  unfold iniTrim
  rw [List.dropWhile_append]
  split
  · rename_i front
    have spaces := List.isEmpty_iff.mp front
    simp [List.dropWhile_cons_of_pos blank, spaces]
  · simp [List.dropWhile_cons_of_pos blank]

theorem mem_of_mem_iniTrim {x : Char} (mem : x ∈ iniTrim u) : x ∈ u :=
  (List.dropWhile_sublist _).subset
    ((List.dropWhile_sublist _).subset (List.mem_reverse.mp mem) |> List.mem_reverse.mp)

theorem trimWhitespace_eq_iniTrim (noCr : '\r' ∉ u) (noLf : '\n' ∉ u) :
    trimWhitespace u = iniTrim u := by
  have same : ∀ x ∈ u, isIniBlank x = (x == ' ' || x == '\t') := by
    intro x mem
    simp only [isIniBlank, beq_eq_false_iff_ne.mpr (ne_of_mem_of_not_mem mem noCr),
      beq_eq_false_iff_ne.mpr (ne_of_mem_of_not_mem mem noLf), Bool.or_false]
  have front : u.dropWhile isIniBlank = u.dropWhile (fun c => c == ' ' || c == '\t') := by
    induction u with
    | nil => rfl
    | cons x u ih =>
      rw [List.dropWhile_cons, List.dropWhile_cons, same x (List.mem_cons_self _ _)]
      split
      · exact ih (fun h => noCr (List.mem_cons_of_mem _ h)) (fun h => noLf (List.mem_cons_of_mem _ h))
          (fun y mem => same y (List.mem_cons_of_mem _ mem))
      · rfl
  unfold trimWhitespace iniTrim
  rw [front]
  cases rest : u.dropWhile (fun c => c == ' ' || c == '\t') with
  | nil => rfl
  | cons d rest' =>
    have mem : d ∈ u := (List.dropWhile_sublist _).subset (rest ▸ List.mem_cons_self _ _)
    have keep : ¬ isIniBlank d := by
      have head := List.head_dropWhile_not (fun c => c == ' ' || c == '\t') u
      simp only [rest, List.head_cons] at head
      simpa [same d mem] using head
    dsimp only
    rw [List.reverse_cons, List.dropWhile_append, List.dropWhile_cons_of_neg keep, isIniBlank_eq]
    split_ifs with empty
    · simp [List.isEmpty_iff.mp empty]
    · simp

theorem iniTrim_eq_self {s : List Char} (first : ∀ c, s.head? = some c → isIniBlank c = false)
    (last : ∀ c, s.getLast? = some c → isIniBlank c = false) : iniTrim s = s := by
  have keep : ∀ t : List Char, (∀ c, t.head? = some c → isIniBlank c = false) →
      t.dropWhile isIniBlank = t := by
    intro t head
    cases t with
    | nil => rfl
    | cons c t => exact List.dropWhile_cons_of_neg (by simp [head c rfl])
  rw [iniTrim, keep s first, keep s.reverse (by simpa [List.head?_reverse] using last),
    List.reverse_reverse]

theorem iniTrim_blank_cons (blank : isIniBlank c) (s : List Char) :
    iniTrim (c :: s) = iniTrim s := by
  rw [iniTrim, List.dropWhile_cons_of_pos blank, iniTrim]

theorem trimWhitespace_append_blanks {bs : List Char} (blanks : ∀ c ∈ bs, isTrailingSpace c) :
    trimWhitespace (u ++ bs) = trimWhitespace u ∨
      (trimWhitespace u = [] ∧ ∃ c ∈ bs, trimWhitespace (u ++ bs) = [c]) := by
  induction bs using List.reverseRecOn with
  | nil => simp
  | append_singleton bs x ih =>
    have ih := ih (fun c mem => blanks c (List.mem_append_left _ mem))
    rw [← List.append_assoc]
    rcases trimWhitespace_append_blank (u := u ++ bs) (blanks x (by simp)) with same | ⟨empty, lone⟩
    · rw [same]
      rcases ih with same' | ⟨empty', c, mem, lone'⟩
      · exact .inl same'
      · exact .inr ⟨empty', c, List.mem_append_left _ mem, lone'⟩
    · rcases ih with same' | ⟨-, c, -, lone'⟩
      · exact .inr ⟨same' ▸ empty, x, by simp, lone⟩
      · exact absurd (empty.symm.trans lone') (List.cons_ne_nil _ _).symm

end Trim

/-- What a line read under the INI rules does to the parser's state; the section is cut to
`char current_section[64]`. -/
def applyIniLine (state : ConfigLoadState) : IniLine → ConfigLoadState
  | .ignored => state
  | .header name => { state with currentSection := name.take 63 }
  | .assignment key value =>
    { state with config := configAssign state.currentSection key value state.config }

section Line

theorem configLoadTrimmed_eq_iniRead (state : ConfigLoadState) {t : List Char} (noCr : '\r' ∉ t)
    (noLf : '\n' ∉ t) : configLoadTrimmed state t = applyIniLine state (iniRead t) := by
  have clean : ∀ s : List Char, s ⊆ t → trimWhitespace s = iniTrim s := fun s sub =>
    trimWhitespace_eq_iniTrim (fun h => noCr (sub h)) (fun h => noLf (sub h))
  rcases t with _ | ⟨first, rest⟩
  · rfl
  by_cases hash : first = '#'
  · subst hash
    rfl
  by_cases semi : first = ';'
  · subst semi
    rfl
  rw [configLoadTrimmed.eq_4 state first rest hash semi, iniRead.eq_4 first rest hash semi]
  split_ifs
  · rfl
  · simp only [applyIniLine, clean _ (List.takeWhile_sublist _).subset,
      clean _ ((List.drop_sublist _ _).trans (List.dropWhile_sublist _)).subset]
  · rfl

/-- A line without NUL and LF whose only CR is its last character, read with or without its
newline: one pass of the loop does what the INI rules read. -/
theorem configLoadLine_eq_iniLine (state : ConfigLoadState) {line : List Char} (tail : List Char)
    (noNul : '\x00' ∉ line) (crLast : '\r' ∉ line.dropLast) (noNewline : '\n' ∉ line)
    (newline : tail = [] ∨ tail = ['\n']) :
    configLoadLine state (line ++ tail) = applyIniLine state (iniLine line) := by
  obtain ⟨u, cr, rfl, crTail, noCr⟩ :
      ∃ u cr, line = u ++ cr ∧ (cr = [] ∨ cr = ['\r']) ∧ '\r' ∉ u := by
    rcases List.eq_nil_or_concat line with rfl | ⟨init, last, rfl⟩
    · exact ⟨[], [], rfl, .inl rfl, List.not_mem_nil _⟩
    · rw [List.concat_eq_append, List.dropLast_concat] at crLast
      by_cases isCr : last = '\r'
      · exact ⟨init, ['\r'], by simp [isCr], .inr rfl, crLast⟩
      · exact ⟨init ++ [last], [], by simp, .inl rfl, by simp [crLast, Ne.symm isCr]⟩
  have noLf : '\n' ∉ u := fun h => noNewline (List.mem_append_left _ h)
  have trimmed := trimWhitespace_eq_iniTrim noCr noLf
  have withoutCr : iniTrim (u ++ cr) = iniTrim u := by
    rcases crTail with rfl | rfl
    · rw [List.append_nil]
    · exact iniTrim_append_blank rfl
  have blanks : ∀ c ∈ cr ++ tail, c = '\r' ∨ c = '\n' := by
    rcases crTail with rfl | rfl <;> rcases newline with rfl | rfl <;> simp
  have clean : '\x00' ∉ u ++ cr ++ tail := by
    rcases newline with rfl | rfl <;> simpa using noNul
  rw [configLoadLine, cString_of_not_mem clean, iniLine, withoutCr, List.append_assoc]
  rcases trimWhitespace_append_blanks (u := u) (fun c mem => by
      rcases blanks c mem with rfl | rfl <;> rfl) with same | ⟨empty, c, mem, lone⟩
  · rw [same, trimmed, configLoadTrimmed_eq_iniRead state (fun h => noCr (mem_of_mem_iniTrim h))
      (fun h => noLf (mem_of_mem_iniTrim h))]
  · rw [lone, ← trimmed, empty]
    rcases blanks c mem with rfl | rfl <;> rfl

theorem foldl_configLoadLine : ∀ (lines : List (List Char)) (state : ConfigLoadState),
    (∀ line ∈ lines, IniLineFits line ∧ '\n' ∉ line) →
    (lineChunks lines).foldl configLoadLine state =
      lines.foldl (fun state line => applyIniLine state (iniLine line)) state
  | [], _, _ => rfl
  | [line], state, fit => by
    obtain ⟨fits, noNewline⟩ := fit line (List.mem_singleton_self _)
    by_cases empty : line = []
    · subst empty
      rfl
    · have step := configLoadLine_eq_iniLine state [] fits.noNul fits.crLast noNewline (.inl rfl)
      rw [List.append_nil] at step
      simp [lineChunks, empty, step]
  | line :: next :: rest, state, fit => by
    obtain ⟨fits, noNewline⟩ := fit line (List.mem_cons_self _ _)
    rw [lineChunks, List.foldl_cons,
      configLoadLine_eq_iniLine state ['\n'] fits.noNul fits.crLast noNewline (.inr rfl), List.foldl_cons]
    exact foldl_configLoadLine (next :: rest) _ (fun l mem => fit l (List.mem_cons_of_mem _ mem))

end Line

/-- The parser's state in step with the INI reading: the assignments so far applied, and
the current section cut to `char current_section[64]`. -/
def InStep (state : ConfigLoadState)
    (ini : List Char × List (List Char × List Char × List Char)) : Prop :=
  state.currentSection = ini.1.take 63 ∧ state.config = applyAssignments ini.2

theorem InStep.next {state : ConfigLoadState}
    {ini : List Char × List (List Char × List Char × List Char)} (inStep : InStep state ini)
    (r : IniLine) : InStep (applyIniLine state r) (iniNext ini r) := by
  obtain ⟨current, config⟩ := inStep
  cases r with
  | ignored => exact ⟨current, config⟩
  | header name => exact ⟨rfl, config⟩
  | assignment key value =>
    refine ⟨current, ?_⟩
    simp only [applyIniLine, iniNext, applyAssignments, List.foldl_append, List.foldl_cons,
      List.foldl_nil, current, config, configAssign_take]

theorem InStep.run : ∀ (lines : List (List Char)) (state : ConfigLoadState)
    (ini : List Char × List (List Char × List Char × List Char)), InStep state ini →
    InStep (lines.foldl (fun state line => applyIniLine state (iniLine line)) state)
      (lines.foldl (fun ini line => iniNext ini (iniLine line)) ini)
  | [], _, _, inStep => inStep
  | _ :: rest, _, _, inStep => InStep.run rest _ _ (inStep.next _)

/-- When every line fits, holds no NUL byte and holds a CR at most at its end, a
configuration `config_load` accepts is the one the INI rules read. -/
theorem config_load_reads_ini {text : List Char} {config : AgentConfig}
    (fits : ∀ line ∈ text.splitOn '\n', IniLineFits line)
    (loaded : configLoad (some text) = .ok config) : IniReads text config := by
  obtain ⟨rfl, -⟩ := configLoad_ok_iff.mp loaded
  rw [fgetsLines_splitOn (fun line mem => by have := (fits line mem).short; simp [maxLineLength]; omega),
    foldl_configLoadLine _ _ (fun line mem => ⟨fits line mem, not_mem_of_mem_splitOn mem⟩),
    (InStep.run (text.splitOn '\n') ⟨configDefaults, []⟩ ([], []) ⟨rfl, rfl⟩).2]
  exact fun key => holds_applyAssignments _ key

/-- A configuration file in the shape the agent ships. -/
def sampleConfigText : List Char :=
  ("[agent]\nagent_id = \"5f0c1a2b\"\n\n[controller]\nurl = https://controller.example\n" ++
    "auth_token = token\n# heartbeat\n[heartbeat]\ninterval_in_seconds = 300\n").toList

/-- What `config_load` makes of `sampleConfigText`. -/
def sampleIniConfig : AgentConfig := { configDefaults with
  agentId := some "5f0c1a2b".toList
  controllerUrl := some "https://controller.example".toList
  authToken := some "token".toList
  heartbeatIntervalSeconds := 300 }

theorem config_load_sample_ini :
    (∀ line ∈ sampleConfigText.splitOn '\n', IniLineFits line) ∧
    configLoad (some sampleConfigText) = .ok sampleIniConfig ∧
    IniReads sampleConfigText sampleIniConfig :=
  ⟨by decide, by rfl, config_load_reads_ini (by decide) (by rfl)⟩

/-! ### A token longer than the buffer -/

section LongToken

theorem iniTrim_replicate (n : Nat) :
    iniTrim (List.replicate (n + 1) 'A') = List.replicate (n + 1) 'A' :=
  iniTrim_eq_self (fun c h => by simp [List.head?_replicate] at h; subst h; rfl)
    (fun c h => by simp [List.getLast?_replicate] at h; subst h; rfl)

theorem iniLine_token {n : Nat} (pos : 0 < n) :
    iniLine ("auth_token = ".toList ++ List.replicate n 'A') =
      .assignment "auth_token".toList (List.replicate n 'A') := by
  obtain ⟨n, rfl⟩ := Nat.exists_eq_succ_of_ne_zero pos.ne'
  have trim : iniTrim ("auth_token = ".toList ++ List.replicate (n + 1) 'A') =
      "auth_token = ".toList ++ List.replicate (n + 1) 'A' :=
    iniTrim_eq_self (fun c h => by simp at h; subst h; rfl)
      (fun c h => by simp [List.getLast?_cons, List.getLast?_replicate] at h; subst h; rfl)
  have key : ('a' :: ("uth_token = ".toList ++ List.replicate (n + 1) 'A')).takeWhile (· != '=') =
      "auth_token ".toList := by
    rw [← List.cons_append, List.takeWhile_append, if_neg (by decide)]
    rfl
  have value : ('a' :: ("uth_token = ".toList ++ List.replicate (n + 1) 'A')).dropWhile (· != '=') =
      '=' :: ' ' :: List.replicate (n + 1) 'A' := by
    rw [← List.cons_append, List.dropWhile_append, if_neg (by decide)]
    rfl
  rw [iniLine, trim, show "auth_token = ".toList ++ List.replicate (n + 1) 'A' =
    'a' :: ("uth_token = ".toList ++ List.replicate (n + 1) 'A') from rfl,
    iniRead.eq_4 _ _ (by decide) (by decide), if_neg (by simp), if_pos (by simp), key, value,
    List.drop_one, List.tail_cons, iniTrim_blank_cons (c := ' ') rfl, iniTrim_replicate,
    List.replicate_succ]
  rfl

theorem iniLine_replicate {n : Nat} (pos : 0 < n) : iniLine (List.replicate n 'A') = .ignored := by
  obtain ⟨n, rfl⟩ := Nat.exists_eq_succ_of_ne_zero pos.ne'
  rw [iniLine, iniTrim_replicate, List.replicate_succ, iniRead.eq_4 _ _ (by decide) (by decide),
    if_neg (by simp), if_neg (by simp [List.mem_replicate])]

/-- A configuration file whose token is longer than the line buffer, as JSON Web Tokens often
are. -/
def longTokenText : List Char :=
  "[controller]\nurl = https://controller.example\nauth_token = ".toList ++ List.replicate 1100 'A' ++
    ['\n']

/-- What `config_load` makes of `longTokenText`. -/
def longTokenConfig : AgentConfig := { configDefaults with
  controllerUrl := some "https://controller.example".toList
  authToken := some (List.replicate 1010 'A') }

theorem longTokenText_eq : longTokenText = "[controller]".toList ++ '\n' ::
    ("url = https://controller.example".toList ++ '\n' ::
      ("auth_token = ".toList ++ (List.replicate 1010 'A' ++ (List.replicate 90 'A' ++ ['\n'])))) := by
  have front : "[controller]\nurl = https://controller.example\nauth_token = ".toList =
      "[controller]".toList ++ '\n' :: ("url = https://controller.example".toList ++ '\n' ::
        "auth_token = ".toList) := by decide
  rw [longTokenText, front, show 1100 = 1010 + 90 from rfl, List.replicate_add]
  simp only [List.append_assoc, List.cons_append]

theorem longTokenText_chunks : fgetsLines maxLineLength longTokenText =
    ["[controller]\n".toList, "url = https://controller.example\n".toList,
      "auth_token = ".toList ++ List.replicate 1010 'A', List.replicate 90 'A' ++ ['\n']] := by
  have noNewline : '\n' ∉ "auth_token = ".toList ++ List.replicate 1010 'A' := fun mem => by
    rcases List.mem_append.mp mem with mem | mem
    exacts [absurd mem (by decide), absurd (List.eq_of_mem_replicate mem) (by decide)]
  rw [longTokenText_eq, ← List.append_assoc, fgetsLines, maxLineLength,
    fgetsLoop_line _ (by decide) (by decide), fgetsLoop_line _ (by decide) (by decide),
    fgetsLoop_full _ noNewline (List.cons_ne_nil _ _)
      (by simp only [List.length_nil, List.length_append, List.length_replicate]; rfl),
    fgetsLoop_line _ (fun mem => absurd (List.eq_of_mem_replicate mem) (by decide))
      (by simp only [List.length_nil, List.length_replicate]; decide)]
  rfl

theorem not_mem_token {c : Char} (n : Nat) (notKey : c ∉ "auth_token = ".toList) (other : c ≠ 'A') :
    c ∉ "auth_token = ".toList ++ List.replicate n 'A' := fun mem => by
  rcases List.mem_append.mp mem with mem | mem
  exacts [notKey mem, other (List.eq_of_mem_replicate mem)]

theorem longTokenText_lines : longTokenText.splitOn '\n' = ["[controller]".toList,
    "url = https://controller.example".toList, "auth_token = ".toList ++ List.replicate 1100 'A', []] := by
  have front : "[controller]\nurl = https://controller.example\nauth_token = ".toList =
      "[controller]".toList ++ '\n' :: ("url = https://controller.example".toList ++ '\n' ::
        "auth_token = ".toList) := by decide
  have shape : longTokenText = List.intercalate ['\n'] ["[controller]".toList,
      "url = https://controller.example".toList, "auth_token = ".toList ++ List.replicate 1100 'A', []] := by
    rw [longTokenText, front]
    simp only [List.intercalate, List.intersperse_cons₂, List.intersperse_single, List.flatten_cons,
      List.flatten_nil, List.append_nil, List.nil_append, List.append_assoc, List.cons_append,
      List.singleton_append]
  rw [shape, List.splitOn_intercalate _ '\n' (fun l mem => by
      simp only [List.mem_cons, List.mem_singleton, List.not_mem_nil, or_false] at mem
      rcases mem with rfl | rfl | rfl | rfl
      exacts [by decide, by decide, not_mem_token 1100 (by decide) (by decide), List.not_mem_nil _])
    (List.cons_ne_nil _ _)]

/-- `config_load` keeps the first 1010 characters of a 1100-character token and passes over
the other 90 as a line without `=`, where the INI rules assign the whole token. -/
theorem config_load_truncates_long_token :
    configLoad (some longTokenText) = .ok longTokenConfig ∧
    longTokenConfig.authToken = some (List.replicate 1010 'A') ∧
    iniValue longTokenText ConfigKey.authToken.path = some (List.replicate 1100 'A') ∧
    ¬ IniReads longTokenText longTokenConfig := by
  have value : iniValue longTokenText ConfigKey.authToken.path = some (List.replicate 1100 'A') := by
    rw [iniValue, longTokenText_lines, iniAssignments]
    simp only [List.foldl_cons, List.foldl_nil, iniLine_token (by decide : 0 < 1100)]
    rfl
  refine ⟨?_, rfl, value, fun reads => ?_⟩
  · have token : ∀ state, configLoadLine state ("auth_token = ".toList ++ List.replicate 1010 'A') =
        applyIniLine state (iniLine ("auth_token = ".toList ++ List.replicate 1010 'A')) := fun state => by
      have step := configLoadLine_eq_iniLine state [] (not_mem_token 1010 (by decide) (by decide))
        (fun mem => not_mem_token 1010 (by decide) (by decide) ((List.dropLast_sublist _).subset mem))
        (not_mem_token 1010 (by decide) (by decide)) (.inl rfl)
      rwa [List.append_nil] at step
    have rest : ∀ state, configLoadLine state (List.replicate 90 'A' ++ ['\n']) =
        applyIniLine state (iniLine (List.replicate 90 'A')) := fun state =>
      configLoadLine_eq_iniLine state ['\n']
        (fun mem => absurd (List.eq_of_mem_replicate mem) (by decide))
        (fun mem => absurd (List.eq_of_mem_replicate ((List.dropLast_sublist _).subset mem)) (by decide))
        (fun mem => absurd (List.eq_of_mem_replicate mem) (by decide)) (.inr rfl)
    rw [configLoad_ok_iff, longTokenText_chunks]
    refine ⟨?_, by decide, ?_, by decide⟩
    · simp only [List.foldl_cons, List.foldl_nil, token, rest, iniLine_token (by decide : 0 < 1010),
        iniLine_replicate (by decide : 0 < 90)]
      rfl
    · exact List.cons_ne_nil 'A' (List.replicate 1009 'A')
  · have token := reads .authToken
    rw [value] at token
    have := congrArg List.length (Option.some.inj token)
    simp only [List.length_replicate] at this
    exact absurd this (by decide)

end LongToken

end GvmAgent
