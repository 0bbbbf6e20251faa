import GvmAgent.NvtFeed

set_option autoImplicit false

/-! What `parse_nasl_file` records, read against the calls of a script.

`parse_nasl_file` does not parse NASL. Every line that contains `script_oid(` overwrites the
OID with the text between the line's first two double quotes, and likewise for the name and
the family; later lines win. The three values are the arguments of the script's last calls
when every line that mentions one of the three names holds no NUL byte, fits `char line[512]`
with its newline, mentions no other of them, and calls it with a string argument that holds
the line's first double quote. Other lines may be of any length: `fgets` hands them over in
pieces, none of which mentions a name. A line such as `if (get_script_oid() == "x")` mentions
`script_oid(` but calls `get_script_oid`. -/

namespace GvmAgent

/-- The markers of the three blocks of `parse_nasl_file` that record a quoted argument. -/
def naslCallMarkers : List (List Char) :=
  ["script_oid(".toList, "script_name(".toList, "script_family(".toList]

/-- `line` calls `marker` with the string argument `v`, whose opening quote is the line's first
double quote. -/
def CallLine (marker line v : List Char) : Prop :=
  ∃ pre post, line = pre ++ marker ++ '"' :: (v ++ '"' :: post) ∧ '"' ∉ pre ∧ '"' ∉ v

/-- `v` is the argument of the last of `lines` that calls `marker`: no later line mentions
`marker`. -/
def LastCall (marker : List Char) (lines : List (List Char)) (v : List Char) : Prop :=
  ∃ front line back, lines = front ++ line :: back ∧ CallLine marker line v ∧
    ∀ later ∈ back, ¬ marker <:+: later

/-- A line whose calls `parse_nasl_file` reads right: if it mentions one of the three names, it
holds no NUL byte, fits `char line[512]` with its newline, mentions no other of them and calls
that one. -/
def NaslCallLine (line : List Char) : Prop :=
  ∀ m ∈ naslCallMarkers, m <:+: line → '\x00' ∉ line ∧ line.length ≤ 510 ∧
    (∀ m' ∈ naslCallMarkers, m' <:+: line → m' = m) ∧ ∃ v, CallLine m line v

/-- What `parse_nasl_file` has recorded once it has read `lines`, in terms of their calls. -/
structure RecordsCalls (lines : List (List Char)) (meta : NaslMeta) : Prop where
  found : meta.foundOid = true ↔ ∃ line ∈ lines, "script_oid(".toList <:+: line
  oid : ∀ v, meta.oid = some v ↔ LastCall "script_oid(".toList lines v
  name : ∀ v, meta.name = some v ↔ LastCall "script_name(".toList lines v
  family : ∀ v, meta.family = some v ↔ LastCall "script_family(".toList lines v

section Calls

variable {m line v w : List Char} {lines : List (List Char)}

theorem naslCallMarkers_plain : ∀ m ∈ naslCallMarkers, m ≠ [] ∧ '\n' ∉ m ∧ '"' ∉ m := by
  decide

theorem CallLine.mentions (call : CallLine m line v) : m <:+: line := by
  obtain ⟨pre, post, rfl, -, -⟩ := call
  exact ⟨pre, _, rfl⟩

theorem CallLine.append (call : CallLine m line v) (tail : List Char) :
    CallLine m (line ++ tail) v := by
  obtain ⟨pre, post, rfl, noQuote, noQuoteArg⟩ := call
  exact ⟨pre, post ++ tail, by simp, noQuote, noQuoteArg⟩

theorem extractArgument_of_callLine (call : CallLine m line v) (noQuote : '"' ∉ m) :
    ∃ cut, extractArgument m line = some (v, cut) ∧ cut <+: line := by
  obtain ⟨pre, post, rfl, noQuotePre, noQuoteArg⟩ := call
  have front : '"' ∉ pre ++ m := by simp [noQuotePre, noQuote]
  refine ⟨pre ++ m ++ '"' :: v, ?_, ⟨'"' :: post, by simp⟩⟩
  rw [extractArgument, if_pos (strstr_isSome_iff.mpr ⟨pre, _, rfl⟩)]
  simp only [quotedArgument, strchr_append_of_not_mem front, strchr_cons_self, Option.bind_eq_bind,
    Option.some_bind, List.tail_cons, strchr_append_of_not_mem noQuoteArg, takeWhile_not_quote front,
    takeWhile_not_quote noQuoteArg, Option.pure_def]

theorem extractArgument_of_absent (absent : ¬ m <:+: line) : extractArgument m line = none :=
  by rw [extractArgument, if_neg (fun found => absent (strstr_isSome_iff.mp found))]

theorem CallLine.unique (noQuote : '"' ∉ m) (first : CallLine m line v)
    (second : CallLine m line w) : v = w := by
  obtain ⟨_, found, -⟩ := extractArgument_of_callLine first noQuote
  obtain ⟨_, found', -⟩ := extractArgument_of_callLine second noQuote
  rw [found] at found'
  exact (Prod.mk.inj (Option.some.inj found')).1

theorem readCvssBase_eq (meta : NaslMeta) (line : List Char) :
    ∃ q, readCvssBase meta line = { meta with cvssBase := q } := by
  unfold readCvssBase
  split
  · split
    exacts [⟨_, rfl⟩, ⟨meta.cvssBase, rfl⟩]
  · exact ⟨meta.cvssBase, rfl⟩

theorem lastCall_nil : ¬ LastCall m [] v := by
  rintro ⟨front, line, back, eq, -⟩
  simp at eq

theorem append_single_eq_cases {l line : List Char} {front back : List (List Char)}
    (eq : lines ++ [line] = front ++ l :: back) :
    (lines = front ∧ line = l ∧ back = []) ∨
      ∃ back', lines = front ++ l :: back' ∧ back = back' ++ [line] := by
  rcases List.eq_nil_or_concat back with rfl | ⟨back', last, rfl⟩
  · obtain ⟨rfl, same⟩ := List.append_inj' eq rfl
    exact .inl ⟨rfl, by simpa using same, rfl⟩
  · rw [List.concat_eq_append, ← List.cons_append, ← List.append_assoc] at eq
    rw [List.concat_eq_append]
    obtain ⟨rfl, same⟩ := List.append_inj' eq rfl
    exact .inr ⟨back', rfl, by simpa using same.symm⟩

theorem lastCall_append_of_call (noQuote : '"' ∉ m) (call : CallLine m line v) :
    LastCall m (lines ++ [line]) w ↔ v = w := by
  refine ⟨fun ⟨front, l, back, eq, last, later⟩ => ?_, fun same => ⟨lines, line, [], rfl, same ▸ call, by simp⟩⟩
  rcases append_single_eq_cases eq with ⟨-, rfl, -⟩ | ⟨back', -, rfl⟩
  · exact call.unique noQuote last
  · exact absurd call.mentions (later line (by simp))

theorem lastCall_append_of_absent (absent : ¬ m <:+: line) :
    LastCall m (lines ++ [line]) w ↔ LastCall m lines w := by
  constructor
  · rintro ⟨front, l, back, eq, last, later⟩
    rcases append_single_eq_cases eq with ⟨-, rfl, -⟩ | ⟨back', rfl, rfl⟩
    · exact absurd last.mentions absent
    · exact ⟨front, l, back', rfl, last, fun x mem => later x (by simp [mem])⟩
  · rintro ⟨front, l, back, rfl, last, later⟩
    refine ⟨front, l, back ++ [line], by simp, last, fun x mem => ?_⟩
    rcases List.mem_append.mp mem with mem | mem
    · exact later x mem
    · exact (List.mem_singleton.mp mem) ▸ absent

theorem parseNaslLine_absent (meta : NaslMeta) {chunk : List Char}
    (absent : ∀ m ∈ naslCallMarkers, ¬ m <:+: chunk) :
    ∃ q, parseNaslLine meta chunk = { meta with cvssBase := q } := by
  have cut : ∀ m ∈ naslCallMarkers, extractArgument m (cString chunk) = none := fun m mem =>
    extractArgument_of_absent fun found =>
      absent m mem (found.trans (List.takeWhile_prefix _).isInfix)
  obtain ⟨q, cvss⟩ := readCvssBase_eq meta (cString chunk)
  refine ⟨q, ?_⟩
  simp only [parseNaslLine, cut "script_oid(".toList (by decide), cut "script_name(".toList (by decide),
    cut "script_family(".toList (by decide), cvss]

end Calls

section Lines

variable {line tail : List Char}

theorem parseNaslLine_cases (meta : NaslMeta) (plain : NaslCallLine line)
    (newline : tail = [] ∨ tail = ['\n']) :
    (¬ "script_oid(".toList <:+: line ∧ ¬ "script_name(".toList <:+: line ∧
      ¬ "script_family(".toList <:+: line ∧
      ∃ q, parseNaslLine meta (line ++ tail) = { meta with cvssBase := q }) ∨
    (∃ v, CallLine "script_oid(".toList line v ∧ ¬ "script_name(".toList <:+: line ∧
      ¬ "script_family(".toList <:+: line ∧
      ∃ q, parseNaslLine meta (line ++ tail) =
        { meta with oid := some v, foundOid := true, cvssBase := q }) ∨
    (∃ v, CallLine "script_name(".toList line v ∧ ¬ "script_oid(".toList <:+: line ∧
      ¬ "script_family(".toList <:+: line ∧
      ∃ q, parseNaslLine meta (line ++ tail) = { meta with name := some v, cvssBase := q }) ∨
    (∃ v, CallLine "script_family(".toList line v ∧ ¬ "script_oid(".toList <:+: line ∧
      ¬ "script_name(".toList <:+: line ∧
      ∃ q, parseNaslLine meta (line ++ tail) = { meta with family := some v, cvssBase := q }) := by
  have chunk : ∀ m ∈ naslCallMarkers, (m <:+: line ++ tail ↔ m <:+: line) := by
    intro m mem
    obtain ⟨nonempty, noNewline, -⟩ := naslCallMarkers_plain m mem
    rcases newline with rfl | rfl
    · rw [List.append_nil]
    · exact infix_append_newline nonempty noNewline
  have clean : ∀ m ∈ naslCallMarkers, m <:+: line → cString (line ++ tail) = line ++ tail :=
    fun m mem found => cString_of_not_mem
      (by rcases newline with rfl | rfl <;> simp [(plain m mem found).1])
  have oidMem : "script_oid(".toList ∈ naslCallMarkers := by simp [naslCallMarkers]
  have nameMem : "script_name(".toList ∈ naslCallMarkers := by simp [naslCallMarkers]
  have familyMem : "script_family(".toList ∈ naslCallMarkers := by simp [naslCallMarkers]
  -- a block whose marker the line does not mention, on the line or on a cut of it
  have skip : ∀ m ∈ naslCallMarkers, ¬ m <:+: line → ∀ cut, cut <+: line ++ tail →
      extractArgument m cut = none := fun m mem absent cut cutPrefix =>
    extractArgument_of_absent fun found => absent ((chunk m mem).mp (found.trans cutPrefix.isInfix))
  by_cases oid : "script_oid(".toList <:+: line
  · obtain ⟨-, -, only, v, call⟩ := plain _ oidMem oid
    have noName : ¬ "script_name(".toList <:+: line :=
      fun found => absurd (only _ nameMem found) (by decide)
    have noFamily : ¬ "script_family(".toList <:+: line :=
      fun found => absurd (only _ familyMem found) (by decide)
    obtain ⟨cut, found, cutPrefix⟩ := extractArgument_of_callLine (call.append tail) (by decide)
    obtain ⟨q, cvss⟩ := readCvssBase_eq { meta with oid := some v, foundOid := true } cut
    refine .inr (.inl ⟨v, call, noName, noFamily, q, ?_⟩)
    simp only [parseNaslLine, clean _ oidMem oid, found, skip _ nameMem noName cut cutPrefix,
      skip _ familyMem noFamily cut cutPrefix, cvss]
  by_cases name : "script_name(".toList <:+: line
  · obtain ⟨-, -, only, v, call⟩ := plain _ nameMem name
    have noFamily : ¬ "script_family(".toList <:+: line :=
      fun found => absurd (only _ familyMem found) (by decide)
    obtain ⟨cut, found, cutPrefix⟩ := extractArgument_of_callLine (call.append tail) (by decide)
    obtain ⟨q, cvss⟩ := readCvssBase_eq { meta with name := some v } cut
    refine .inr (.inr (.inl ⟨v, call, oid, noFamily, q, ?_⟩))
    simp only [parseNaslLine, clean _ nameMem name, skip _ oidMem oid _ (List.prefix_refl _), found,
      skip _ familyMem noFamily cut cutPrefix, cvss]
  by_cases family : "script_family(".toList <:+: line
  · obtain ⟨-, -, -, v, call⟩ := plain _ familyMem family
    obtain ⟨cut, found, -⟩ := extractArgument_of_callLine (call.append tail) (by decide)
    obtain ⟨q, cvss⟩ := readCvssBase_eq { meta with family := some v } cut
    refine .inr (.inr (.inr ⟨v, call, oid, name, q, ?_⟩))
    simp only [parseNaslLine, clean _ familyMem family, skip _ oidMem oid _ (List.prefix_refl _),
      skip _ nameMem name _ (List.prefix_refl _), found, cvss]
  · refine .inl ⟨oid, name, family, parseNaslLine_absent meta fun m mem found => ?_⟩
    simp only [naslCallMarkers, List.mem_cons, List.mem_singleton, List.not_mem_nil, or_false] at mem
    rcases mem with rfl | rfl | rfl
    exacts [oid ((chunk _ oidMem).mp found), name ((chunk _ nameMem).mp found),
      family ((chunk _ familyMem).mp found)]

theorem NaslCallLine.of_call {m pre v post : List Char}
    (eq : line = pre ++ m ++ '"' :: (v ++ '"' :: post)) (noQuote : '"' ∉ pre) (noQuoteArg : '"' ∉ v)
    (noNul : '\x00' ∉ line) (short : line.length ≤ 510)
    (only : ∀ m' ∈ naslCallMarkers, m' <:+: line → m' = m) : NaslCallLine line := fun _ mem found => by
  obtain rfl := only _ mem found
  exact ⟨noNul, short, only, v, pre, post, eq, noQuote, noQuoteArg⟩

theorem NaslCallLine.of_no_call (absent : ∀ m ∈ naslCallMarkers, ¬ m <:+: line) :
    NaslCallLine line :=
  fun m mem found => absurd found (absent m mem)

theorem RecordsCalls.empty : RecordsCalls [] NaslMeta.empty :=
  ⟨by simp [NaslMeta.empty], fun _ => by simp [NaslMeta.empty, lastCall_nil],
    fun _ => by simp [NaslMeta.empty, lastCall_nil], fun _ => by simp [NaslMeta.empty, lastCall_nil]⟩

section Step

variable {lines : List (List Char)} {meta : NaslMeta}

theorem exists_mem_append_single (p : List Char → Prop) :
    (∃ l ∈ lines ++ [line], p l) ↔ (∃ l ∈ lines, p l) ∨ p line := by
  simp [or_and_right, exists_or]

theorem RecordsCalls.absent (records : RecordsCalls lines meta) (noOid : ¬ "script_oid(".toList <:+: line)
    (noName : ¬ "script_name(".toList <:+: line) (noFamily : ¬ "script_family(".toList <:+: line)
    (q : CFloat) : RecordsCalls (lines ++ [line]) { meta with cvssBase := q } :=
  ⟨by rw [exists_mem_append_single, ← records.found, or_iff_left noOid],
    fun w => (records.oid w).trans (lastCall_append_of_absent noOid).symm,
    fun w => (records.name w).trans (lastCall_append_of_absent noName).symm,
    fun w => (records.family w).trans (lastCall_append_of_absent noFamily).symm⟩

theorem RecordsCalls.step (records : RecordsCalls lines meta) (plain : NaslCallLine line)
    (newline : tail = [] ∨ tail = ['\n']) :
    RecordsCalls (lines ++ [line]) (parseNaslLine meta (line ++ tail)) := by
  rcases parseNaslLine_cases meta plain newline with
    ⟨noOid, noName, noFamily, q, eq⟩ | ⟨v, call, noName, noFamily, q, eq⟩ |
    ⟨v, call, noOid, noFamily, q, eq⟩ | ⟨v, call, noOid, noName, q, eq⟩ <;> rw [eq]
  · exact records.absent noOid noName noFamily q
  · exact ⟨iff_of_true rfl ((exists_mem_append_single _).mpr (.inr call.mentions)),
      fun w => Option.some_inj.trans (lastCall_append_of_call (by decide) call).symm,
      fun w => (records.name w).trans (lastCall_append_of_absent noName).symm,
      fun w => (records.family w).trans (lastCall_append_of_absent noFamily).symm⟩
  · exact ⟨by rw [exists_mem_append_single, ← records.found, or_iff_left noOid],
      fun w => (records.oid w).trans (lastCall_append_of_absent noOid).symm,
      fun w => Option.some_inj.trans (lastCall_append_of_call (by decide) call).symm,
      fun w => (records.family w).trans (lastCall_append_of_absent noFamily).symm⟩
  · exact ⟨by rw [exists_mem_append_single, ← records.found, or_iff_left noOid],
      fun w => (records.oid w).trans (lastCall_append_of_absent noOid).symm,
      fun w => (records.name w).trans (lastCall_append_of_absent noName).symm,
      fun w => Option.some_inj.trans (lastCall_append_of_call (by decide) call).symm⟩

theorem RecordsCalls.skip (records : RecordsCalls lines meta)
    (absent : ∀ m ∈ naslCallMarkers, ¬ m <:+: line) {pieces : List (List Char)}
    (within : ∀ p ∈ pieces, p <:+: line ++ ['\n']) :
    RecordsCalls (lines ++ [line]) (pieces.foldl parseNaslLine meta) := by
  have fold : ∀ (pieces : List (List Char)) (meta : NaslMeta), (∀ p ∈ pieces, p <:+: line ++ ['\n']) →
      ∃ q, pieces.foldl parseNaslLine meta = { meta with cvssBase := q } := by
    intro pieces
    induction pieces with
    | nil => exact fun meta _ => ⟨meta.cvssBase, rfl⟩
    | cons p pieces ih =>
      intro meta within
      obtain ⟨q, eq⟩ := parseNaslLine_absent meta fun m mem found => absent m mem
        ((infix_append_newline (naslCallMarkers_plain m mem).1 (naslCallMarkers_plain m mem).2.1).mp
          (found.trans (within p (List.mem_cons_self _ _))))
      obtain ⟨q', eq'⟩ := ih _ fun p' mem => within p' (List.mem_cons_of_mem _ mem)
      exact ⟨q', by rw [List.foldl_cons, eq, eq']⟩
  obtain ⟨q, eq⟩ := fold pieces meta within
  rw [eq]
  exact records.absent (absent _ (by decide)) (absent _ (by decide)) (absent _ (by decide)) q

theorem RecordsCalls.readLine (records : RecordsCalls lines meta) (plain : NaslCallLine line)
    (noNewline : '\n' ∉ line) (rest : List Char) :
    ∃ pieces, fgetsLoop 511 (line ++ '\n' :: rest) [] = pieces ++ fgetsLoop 511 rest [] ∧
      RecordsCalls (lines ++ [line]) (pieces.foldl parseNaslLine meta) := by
  by_cases mentions : ∃ m ∈ naslCallMarkers, m <:+: line
  · obtain ⟨m, mem, found⟩ := mentions
    have short := (plain m mem found).2.1
    exact ⟨[line ++ ['\n']], by simpa using fgetsLoop_line rest noNewline (by simp; omega),
      records.step plain (.inr rfl)⟩
  · push_neg at mentions
    obtain ⟨pieces, eq, within⟩ := @fgetsLoop_pieces 511 (by decide) line rest noNewline
    exact ⟨pieces, eq, records.skip mentions within⟩

theorem RecordsCalls.readLastLine (records : RecordsCalls lines meta) (plain : NaslCallLine line)
    (noNewline : '\n' ∉ line) :
    RecordsCalls (lines ++ [line]) ((fgetsLoop 511 line []).foldl parseNaslLine meta) := by
  by_cases mentions : ∃ m ∈ naslCallMarkers, m <:+: line
  · obtain ⟨m, mem, found⟩ := mentions
    have short := (plain m mem found).2.1
    have nonempty : line ≠ [] := fun empty => by
      subst empty
      exact (naslCallMarkers_plain m mem).1 (List.eq_nil_of_infix_nil found)
    rw [fgetsLoop_last noNewline (by simp; omega), if_neg (by simpa using nonempty)]
    simpa using records.step plain (.inl rfl)
  · push_neg at mentions
    exact records.skip mentions fun p mem =>
      (@fgetsLoop_last_pieces 511 (by decide) line noNewline p mem).trans (List.prefix_append _ _).isInfix

end Step

/-- The run lemma: reading the lines one after the other keeps the records in step with the
calls. -/
theorem RecordsCalls.run : ∀ (rest processed : List (List Char)) (meta : NaslMeta),
    RecordsCalls processed meta → (∀ line ∈ rest, NaslCallLine line ∧ '\n' ∉ line) → rest ≠ [] →
    RecordsCalls (processed ++ rest)
      ((fgetsLoop 511 (List.intercalate ['\n'] rest) []).foldl parseNaslLine meta)
  | [], _, _, _, _, nonempty => absurd rfl nonempty
  | [line], _, _, records, plain, _ => by
    simpa [intercalate_singleton] using records.readLastLine (plain line (List.mem_singleton_self _)).1
      (plain line (List.mem_singleton_self _)).2
  | line :: next :: rest, processed, meta, records, plain, _ => by
    obtain ⟨pieces, eq, step⟩ := records.readLine (plain line (List.mem_cons_self _ _)).1
      (plain line (List.mem_cons_self _ _)).2 (List.intercalate ['\n'] (next :: rest))
    rw [intercalate_cons_cons, List.append_assoc, List.singleton_append, eq, List.foldl_append]
    simpa using RecordsCalls.run (next :: rest) _ _ step
      (fun l mem => plain l (List.mem_cons_of_mem _ mem)) (List.cons_ne_nil _ _)

end Lines

/-- For a script whose lines read as calls, `parse_nasl_file` succeeds exactly when a line
calls `script_oid`, and records the arguments of the last calls of the three names. -/
theorem parse_nasl_file_reads_calls {text : List Char}
    (calls : ∀ line ∈ text.splitOn '\n', NaslCallLine line) :
    ((parseNaslFile (some text)).isSome ↔
      ∃ line ∈ text.splitOn '\n', "script_oid(".toList <:+: line) ∧
    ∀ meta, parseNaslFile (some text) = some meta →
      (∀ v, meta.oid = some v ↔ LastCall "script_oid(".toList (text.splitOn '\n') v) ∧
      (∀ v, meta.name = some v ↔ LastCall "script_name(".toList (text.splitOn '\n') v) ∧
      (∀ v, meta.family = some v ↔ LastCall "script_family(".toList (text.splitOn '\n') v) := by
  have records := RecordsCalls.run (text.splitOn '\n') [] NaslMeta.empty RecordsCalls.empty
    (fun line mem => ⟨calls line mem, not_mem_of_mem_splitOn mem⟩) (List.splitOnP_ne_nil _ _)
  rw [List.nil_append, List.intercalate_splitOn] at records
  simp only [parseNaslFile, Option.some_bind, fgetsLines]
  generalize (fgetsLoop (512 - 1) text []).foldl parseNaslLine NaslMeta.empty = recorded at records ⊢
  refine ⟨?_, fun meta parsed => ?_⟩
  · rw [← records.found]
    split_ifs with found <;> simp [found]
  · split_ifs at parsed
    obtain rfl := Option.some.inj parsed
    exact ⟨records.oid, records.name, records.family⟩

/-- The description block of a script, one call a line. -/
def sampleScriptText : List Char :=
  ("script_oid(\"1.3.6.1.4.1.25623.1.0.10330\");\n" ++
    "script_name(\"Services\");\nscript_family(\"Service detection\");\n").toList

theorem parse_nasl_file_sample_calls :
    (∀ line ∈ sampleScriptText.splitOn '\n', NaslCallLine line) ∧
    ((parseNaslFile (some sampleScriptText)).isSome ↔
      ∃ line ∈ sampleScriptText.splitOn '\n', "script_oid(".toList <:+: line) ∧
    ∀ meta, parseNaslFile (some sampleScriptText) = some meta →
      (∀ v, meta.oid = some v ↔ LastCall "script_oid(".toList (sampleScriptText.splitOn '\n') v) ∧
      (∀ v, meta.name = some v ↔ LastCall "script_name(".toList (sampleScriptText.splitOn '\n') v) ∧
      (∀ v, meta.family = some v ↔
        LastCall "script_family(".toList (sampleScriptText.splitOn '\n') v) := by
  have calls : ∀ line ∈ sampleScriptText.splitOn '\n', NaslCallLine line := by
    have lines : sampleScriptText.splitOn '\n' = ["script_oid(\"1.3.6.1.4.1.25623.1.0.10330\");".toList,
        "script_name(\"Services\");".toList, "script_family(\"Service detection\");".toList, []] := by
      decide
    intro line mem
    simp only [lines, List.mem_cons, List.mem_singleton, List.not_mem_nil, or_false] at mem
    rcases mem with rfl | rfl | rfl | rfl
    · exact .of_call (m := "script_oid(".toList) (v := "1.3.6.1.4.1.25623.1.0.10330".toList)
        (show _ = [] ++ _ ++ _ :: (_ ++ _ :: ");".toList) from rfl) (by decide) (by decide)
        (by decide) (by decide) (by decide)
    · exact .of_call (m := "script_name(".toList) (v := "Services".toList)
        (show _ = [] ++ _ ++ _ :: (_ ++ _ :: ");".toList) from rfl) (by decide) (by decide)
        (by decide) (by decide) (by decide)
    · exact .of_call (m := "script_family(".toList) (v := "Service detection".toList)
        (show _ = [] ++ _ ++ _ :: (_ ++ _ :: ");".toList) from rfl) (by decide) (by decide)
        (by decide) (by decide) (by decide)
    · exact .of_no_call (by decide)
  exact ⟨calls, parse_nasl_file_reads_calls calls⟩

/-- A script whose second line reads its own OID back and compares it with a string. -/
def decoyScriptText : List Char :=
  "script_oid(\"1.3.6.1.4.1.25623.1.0.10662\");\nif (get_script_oid() != \"decoy\") exit(0);\n".toList

/-- The script calls `script_oid` once, on its first line; `get_script_oid()` on the second
line is no such call, yet `parse_nasl_file` records the string that line compares with. -/
theorem parse_nasl_file_takes_decoy_oid :
    CallLine "script_oid(".toList "script_oid(\"1.3.6.1.4.1.25623.1.0.10662\");".toList
      "1.3.6.1.4.1.25623.1.0.10662".toList ∧
    (∀ v, ¬ CallLine "script_oid(".toList "if (get_script_oid() != \"decoy\") exit(0);".toList v) ∧
    (parseNaslFile (some decoyScriptText)).bind (·.oid) = some "decoy".toList := by
  refine ⟨⟨[], ");".toList, rfl, by decide, by decide⟩, fun v ⟨pre, post, eq, noQuote, _⟩ => ?_, by rfl⟩
  have front := congrArg (List.takeWhile (· != '"')) eq
  rw [takeWhile_not_quote (by simpa using noQuote)] at front
  have cut : "if (get_script_oid() != \"decoy\") exit(0);".toList.takeWhile (· != '"') =
      "if (get_script_oid() != ".toList := by decide
  exact (by decide : ¬ "script_oid(".toList <:+ "if (get_script_oid() != ".toList)
    ⟨pre, front.symm.trans cut⟩

end GvmAgent
