import Mathlib.Data.List.Infix
import Mathlib.Data.Int.Defs
import Mathlib.Tactic.Ring

set_option autoImplicit false

/-! The C library the agent leans on, over `List Char`.

A C string is the list of its characters up to the terminating NUL. Buffers read with
`fgets` may hold a NUL byte; `cString` cuts them where the string functions stop. -/

namespace GvmAgent

/-- The values a C `int` holds. -/
def IntRange (v : Int) : Prop := -2 ^ 31 ≤ v ∧ v < 2 ^ 31

instance (v : Int) : Decidable (IntRange v) := inferInstanceAs (Decidable (_ ∧ _))

/-- A `char` buffer read as a C string: everything before the first NUL. -/
def cString (bytes : List Char) : List Char := bytes.takeWhile (· != '\x00')

/-- `snprintf (buf, size, ...)` keeps at most `size - 1` characters of the formatted text. -/
def snprintf (size : Nat) (text : List Char) : List Char := text.take (size - 1)

/-- What glibc's `printf` writes for a `%s` argument: a NULL pointer prints as `(null)`. -/
def printfString (s : Option (List Char)) : List Char := s.getD "(null)".toList

/-- `strstr`: the suffix of `haystack` that starts at the first occurrence of `needle`. -/
def strstr (haystack needle : List Char) : Option (List Char) :=
  if needle.isPrefixOf haystack then some haystack
  else match haystack with
    | [] => none
    | _ :: rest => strstr rest needle

/-- `strchr`: the suffix of `s` that starts at the first `c`. -/
def strchr : List Char → Char → Option (List Char)
  | [], _ => none
  | d :: rest, c => if d = c then some (d :: rest) else strchr rest c

/-- `isspace` in the C locale. -/
def isSpace (c : Char) : Bool :=
  c == ' ' || c == '\t' || c == '\n' || c == '\x0B' || c == '\x0C' || c == '\r'

/-- One step of reading a decimal number left to right. -/
def digitStep (acc : Nat) (c : Char) : Nat := 10 * acc + (c.toNat - '0'.toNat)

/-- The value of a run of decimal digits. -/
def digitsValue (digits : List Char) : Nat := digits.foldl digitStep 0

/-- The optional sign in front of the digits `strtol` reads. -/
def splitSign : List Char → Bool × List Char
  | '-' :: r => (true, r)
  | '+' :: r => (false, r)
  | r => (false, r)

/-- `strtol (s, NULL, 10)`: leading white space, a sign, the longest run of digits,
saturated to the range of a 64-bit `long`. -/
def strtol (s : List Char) : Int :=
  let (negative, rest) := splitSign (s.dropWhile isSpace)
  let magnitude : Int := digitsValue (rest.takeWhile Char.isDigit)
  max (-2 ^ 63) (min (2 ^ 63 - 1) (if negative then -magnitude else magnitude))

/-- glibc's `atoi` is `(int) strtol (s, NULL, 10)`; the narrowing keeps the low 32 bits. -/
def atoi (s : List Char) : Int := (strtol s).bmod (2 ^ 32)

/-- A decimal integer literal: an optional sign and at least one digit, nothing else. -/
def decimalLiteral? (t : List Char) : Option Int :=
  let (negative, digits) := splitSign t
  if digits ≠ [] ∧ digits.all Char.isDigit then
    some (if negative then -(digitsValue digits : Int) else digitsValue digits)
  else none


section Digits

theorem isDigit_bounds {c : Char} (h : c.isDigit) : 48 ≤ c.toNat ∧ c.toNat ≤ 57 := by
  simp only [Char.isDigit, Char.le_def, Bool.and_eq_true, decide_eq_true_eq] at h
  exact ⟨UInt32.le_toNat_of_le (by decide) h.1, UInt32.toNat_le_of_le (by decide) h.2⟩

theorem isSpace_of_isDigit {c : Char} (h : c.isDigit) : isSpace c = false := by
  have := isDigit_bounds h
  simp only [isSpace, Bool.or_eq_false_iff, beq_eq_false_iff_ne]
  refine ⟨⟨⟨⟨⟨?_, ?_⟩, ?_⟩, ?_⟩, ?_⟩, ?_⟩ <;> rintro rfl <;> simp_all

theorem foldl_digitStep (acc : Nat) (d : List Char) :
    d.foldl digitStep acc = acc * 10 ^ d.length + digitsValue d := by
  induction d generalizing acc with
  | nil => simp [digitsValue]
  | cons c d ih =>
    rw [digitsValue, List.foldl_cons, List.foldl_cons, ih, ih (digitStep 0 c), List.length_cons]
    simp only [digitStep]
    ring

theorem digitsValue_cons (c : Char) (d : List Char) :
    digitsValue (c :: d) = (c.toNat - '0'.toNat) * 10 ^ d.length + digitsValue d := by
  rw [digitsValue, List.foldl_cons, foldl_digitStep, digitStep]
  ring

theorem digitsValue_lt {d : List Char} (digits : ∀ c ∈ d, c.isDigit) :
    digitsValue d < 10 ^ d.length := by
  induction d with
  | nil => simp [digitsValue]
  | cons c d ih =>
    have low := (isDigit_bounds (digits c (List.mem_cons_self _ _))).2
    have rest := ih (fun x m => digits x (List.mem_cons_of_mem _ m))
    have step : (c.toNat - '0'.toNat) * 10 ^ d.length ≤ 9 * 10 ^ d.length :=
      Nat.mul_le_mul_right _ (by simp; omega)
    rw [digitsValue_cons, List.length_cons, pow_succ]
    omega

theorem splitSign_digit {c : Char} (digit : c.isDigit) (r : List Char) :
    splitSign (c :: r) = (false, c :: r) := by
  have := isDigit_bounds digit
  unfold splitSign
  split <;> simp_all

theorem splitSign_minus (r : List Char) : splitSign ('-' :: r) = (true, r) := rfl

theorem splitSign_head {t d : List Char} {negative : Bool} (split : splitSign t = (negative, d))
    (first : ∀ c, d.head? = some c → c.isDigit) : ∀ c, t.head? = some c → isSpace c = false := by
  intro c hc
  unfold splitSign at split
  split at split
  · obtain rfl : '-' = c := by simpa using hc
    rfl
  · obtain rfl : '+' = c := by simpa using hc
    rfl
  · obtain ⟨-, rfl⟩ := Prod.mk.inj split
    exact isSpace_of_isDigit (first c hc)

theorem takeWhile_digits {d y : List Char} (digits : ∀ c ∈ d, c.isDigit)
    (stop : ∀ c, y.head? = some c → c.isDigit = false) :
    (d ++ y).takeWhile Char.isDigit = d := by
  rw [List.takeWhile_append_of_pos digits]
  cases y with
  | nil => simp
  | cons c y => simp [List.takeWhile_cons_of_neg, stop c rfl]

theorem dropWhile_spaces {w x : List Char} (spaces : ∀ c ∈ w, isSpace c)
    (head : ∀ c, x.head? = some c → isSpace c = false) : (w ++ x).dropWhile isSpace = x := by
  induction w with
  | nil =>
    cases x with
    | nil => rfl
    | cons c x => exact List.dropWhile_cons_of_neg (by simp [head c rfl])
  | cons c w ih =>
    rw [List.cons_append, List.dropWhile_cons_of_pos (spaces c (List.mem_cons_self _ _))]
    exact ih (fun z m => spaces z (List.mem_cons_of_mem _ m))

theorem strtol_of_split {s body d y : List Char} {negative : Bool} (skip : s.dropWhile isSpace = body)
    (split : splitSign body = (negative, d ++ y)) (digits : ∀ c ∈ d, c.isDigit)
    (stop : ∀ c, y.head? = some c → c.isDigit = false) :
    strtol s = max (-2 ^ 63) (min (2 ^ 63 - 1)
      (if negative then -(digitsValue d : Int) else digitsValue d)) := by
  simp only [strtol, skip, split, takeWhile_digits digits stop]

theorem bmod_of_intRange {n : Int} (range : IntRange n) : n.bmod (2 ^ 32) = n := by
  obtain ⟨low, high⟩ := range
  rw [Int.bmod_def]
  split <;> omega

theorem atoi_of_split {s body d y : List Char} {negative : Bool} (skip : s.dropWhile isSpace = body)
    (split : splitSign body = (negative, d ++ y)) (digits : ∀ c ∈ d, c.isDigit)
    (stop : ∀ c, y.head? = some c → c.isDigit = false)
    (range : IntRange (if negative then -(digitsValue d : Int) else digitsValue d)) :
    atoi s = if negative then -(digitsValue d : Int) else digitsValue d := by
  have := range.1
  have := range.2
  rw [atoi, strtol_of_split skip split digits stop, max_eq_right (by omega),
    min_eq_right (by omega), bmod_of_intRange range]

theorem atoi_of_decimalLiteral {t : List Char} {n : Int} (literal : decimalLiteral? t = some n)
    (range : IntRange n) : atoi t = n := by
  unfold decimalLiteral? at literal
  rcases split : splitSign t with ⟨negative, d⟩
  simp only [split] at literal
  by_cases ok : d ≠ [] ∧ d.all Char.isDigit = true
  · rw [if_pos ok] at literal
    obtain rfl := Option.some.inj literal
    have digits : ∀ c ∈ d, c.isDigit := by simpa using ok.2
    have skip := @dropWhile_spaces [] t (fun _ m => absurd m (List.not_mem_nil _))
      (splitSign_head split (fun c hc => digits c (List.mem_of_mem_head? hc)))
    exact atoi_of_split skip (by rw [split, List.append_nil]) digits (fun _ h => by cases h) range
  · rw [if_neg ok] at literal
    cases literal

end Digits

section Lemmas

variable {needle haystack : List Char}

theorem strstr_at_match (found : needle <+: haystack) : strstr haystack needle = some haystack := by
  unfold strstr
  rw [if_pos (List.isPrefixOf_iff_prefix.mpr found)]

theorem strstr_cons_of_unmatched (c : Char) (missing : ¬ needle <+: c :: haystack) :
    strstr (c :: haystack) needle = strstr haystack needle := by
  conv_lhs => unfold strstr
  rw [if_neg (fun h => missing (List.isPrefixOf_iff_prefix.mp h))]

theorem strstr_cons_of_ne {q c : Char} {rest : List Char} (starts : needle = q :: rest)
    (other : c ≠ q) : strstr (c :: haystack) needle = strstr haystack needle := by
  apply strstr_cons_of_unmatched
  rintro ⟨t, ht⟩
  subst starts
  simp only [List.cons_append, List.cons.injEq] at ht
  exact other ht.1.symm

theorem strstr_append_of_not_mem {q : Char} {rest front : List Char} (starts : needle = q :: rest)
    (absent : q ∉ front) : strstr (front ++ haystack) needle = strstr haystack needle := by
  induction front with
  | nil => rfl
  | cons c front ih =>
    rw [List.cons_append, strstr_cons_of_ne starts (fun h => absent (h ▸ List.mem_cons_self _ _)),
      ih (fun h => absent (List.mem_cons_of_mem _ h))]

theorem strstr_nil_of_ne_nil (nonempty : needle ≠ []) : strstr [] needle = none := by
  unfold strstr
  rw [if_neg]
  intro h
  exact nonempty (List.prefix_nil.mp (List.isPrefixOf_iff_prefix.mp h))

theorem strchr_append_of_not_mem {c : Char} {front s : List Char} (absent : c ∉ front) :
    strchr (front ++ s) c = strchr s c := by
  induction front with
  | nil => rfl
  | cons d front ih =>
    have differ : d ≠ c := fun h => absent (h ▸ List.mem_cons_self _ _)
    simp only [List.cons_append, strchr, differ, if_false]
    exact ih (fun h => absent (List.mem_cons_of_mem _ h))

@[simp] theorem strchr_cons_self (c : Char) (s : List Char) : strchr (c :: s) c = some (c :: s) := by
  simp [strchr]

theorem takeWhile_not_quote {s y : List Char} (noQuote : '"' ∉ s) :
    (s ++ '"' :: y).takeWhile (· != '"') = s := by
  rw [List.takeWhile_append_of_pos (fun c m => by simpa using ne_of_mem_of_not_mem m noQuote),
    List.takeWhile_cons_of_neg (by simp), List.append_nil]

theorem cString_of_not_mem {bytes : List Char} (noNul : '\x00' ∉ bytes) : cString bytes = bytes :=
  List.takeWhile_eq_self_iff.mpr fun c mem => by simpa using ne_of_mem_of_not_mem mem noNul

theorem strstr_isSome_iff : (strstr haystack needle).isSome ↔ needle <:+: haystack := by
  induction haystack with
  | nil =>
    unfold strstr
    split_ifs with found
    · simpa using (List.isPrefixOf_iff_prefix.mp found).isInfix
    · simpa [List.infix_nil] using fun empty => found (by simp [empty])
  | cons c rest ih =>
    unfold strstr
    split_ifs with found
    · simpa using (List.isPrefixOf_iff_prefix.mp found).isInfix
    · rw [ih, List.infix_cons_iff, or_iff_right (fun h => found (List.isPrefixOf_iff_prefix.mpr h))]

theorem infix_append_newline {m line : List Char} (nonempty : m ≠ []) (noNewline : '\n' ∉ m) :
    m <:+: line ++ ['\n'] ↔ m <:+: line := by
  refine ⟨fun found => ?_, fun found => found.trans (List.prefix_append _ _).isInfix⟩
  rw [← List.reverse_infix] at found ⊢
  simp only [List.reverse_append, List.reverse_singleton, List.singleton_append] at found
  rcases List.infix_cons_iff.mp found with starts | inner
  · obtain ⟨c, rest, eq⟩ := List.exists_cons_of_ne_nil (List.reverse_ne_nil_iff.mpr nonempty)
    rw [eq, List.cons_prefix_cons] at starts
    exact absurd (List.mem_reverse.mp (eq ▸ starts.1 ▸ List.mem_cons_self c rest)) noNewline
  · exact inner

theorem infix_cString_append_newline {m line : List Char} (nonempty : m ≠ [])
    (noNewline : '\n' ∉ m) : m <:+: cString (line ++ ['\n']) ↔ m <:+: cString line := by
  unfold cString
  rw [List.takeWhile_append]
  split_ifs with whole
  · rw [(List.takeWhile_prefix _).eq_of_length whole,
      show ['\n'].takeWhile (· != '\x00') = ['\n'] from rfl]
    exact infix_append_newline nonempty noNewline
  · rfl

theorem snprintf_cases (size : Nat) (text : List Char) :
    snprintf size text = text ∨ (snprintf size text).length = size - 1 := by
  by_cases fits : text.length ≤ size - 1
  · exact .inl (List.take_of_length_le fits)
  · exact .inr (by rw [snprintf, List.length_take]; omega)

theorem take_append_take (n : Nat) (l y : List Char) : (l.take n ++ y).take n = (l ++ y).take n := by
  rw [List.take_append_eq_append_take, List.take_append_eq_append_take, List.take_take, min_self,
    List.length_take]
  by_cases short : l.length ≤ n
  · rw [min_eq_right short]
  · rw [min_eq_left (by omega), Nat.sub_self, Nat.sub_eq_zero_of_le (by omega)]

/-- `strncat`s into a buffer that holds `n` characters leave the concatenation, cut at `n`. -/
theorem foldl_take_append (n : Nat) :
    ∀ (chunks : List (List Char)) (acc : List Char), acc.length ≤ n →
      chunks.foldl (fun a x => (a ++ x).take n) acc = (acc ++ chunks.flatten).take n
  | [], acc, short => by rw [List.foldl_nil, List.flatten_nil, List.append_nil, List.take_of_length_le short]
  | x :: xs, acc, _ => by
    rw [List.foldl_cons, foldl_take_append n xs _ (List.length_take_le _ _), List.flatten_cons,
      take_append_take, List.append_assoc]

theorem foldl_filter {α β : Type} (p : α → Bool) (f : β → α → β) :
    ∀ (l : List α) (b : β), (l.filter p).foldl f b = l.foldl (fun b a => if p a then f b a else b) b
  | [], _ => rfl
  | a :: l, b => by
    by_cases kept : p a
    · rw [List.filter_cons_of_pos kept, List.foldl_cons, List.foldl_cons, if_pos kept, foldl_filter p f l]
    · rw [List.filter_cons_of_neg kept, List.foldl_cons, if_neg kept, foldl_filter p f l]

theorem intercalate_singleton {α : Type} (sep a : List α) : List.intercalate sep [a] = a := by
  simp [List.intercalate]

theorem intercalate_cons_cons {α : Type} (sep a b : List α) (rest : List (List α)) :
    List.intercalate sep (a :: b :: rest) = a ++ sep ++ List.intercalate sep (b :: rest) := by
  simp [List.intercalate, List.append_assoc]

theorem intercalate_cons {α : Type} (sep a : List α) :
    ∀ rest : List (List α), List.intercalate sep (a :: rest) = a ++ (rest.map (sep ++ ·)).flatten
  | [] => by rw [intercalate_singleton, List.map_nil, List.flatten_nil, List.append_nil]
  | b :: rest => by
    rw [intercalate_cons_cons, intercalate_cons sep b rest, List.map_cons, List.flatten_cons,
      List.append_assoc, List.append_assoc]

end Lemmas

end GvmAgent
