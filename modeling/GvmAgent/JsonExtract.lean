import GvmAgent.Json
import GvmAgent.HttpClient
import Mathlib.Tactic.FieldSimp
import Mathlib.Tactic.Linarith
import Mathlib.Tactic.Positivity

set_option autoImplicit false

/-! What the `strstr`-based helpers of `http_client.c` read out of a JSON text.

The helpers look for the needle `"k"` and read from the first colon after it. In a JSON text a
double quote opens or closes a string, or is the second character of the escape `\"`; after a
closing quote comes white space or one of `: , ] }`. So the needle is met exactly where a string
reads `k` or ends in a quote and `k` (`KeyLike`), provided `k` holds no quote or backslash and
does not start like what follows a closing quote. The search is followed through the grammar:
over one string, character by character; over any phrase that does not mention `k`; then up to
the member named `k`. There the helpers read the value right when it is written as they expect
(`KeyedText`): the name as it is, only spaces and tabs before the value, a string with no escape,
a number with no exponent. -/

namespace GvmAgent

/-- What may follow the closing quote of a string. -/
def afterString : List Char := [' ', '\t', '\n', '\r', ':', ',', ']', '\x7d']

/-- A rest of text that starts where a string may end. -/
def Boundary (rest : List Char) : Prop := ∀ c, rest.head? = some c → c ∈ afterString

/-- A key the helpers can look up: it fits the 256-byte search buffer, holds no quote, backslash
or colon, and does not start like what follows a closing quote. -/
structure PlainKey (k : List Char) : Prop where
  noQuote : '"' ∉ k
  noBackslash : '\\' ∉ k
  noColon : ':' ∉ k
  start : k.head? ∉ afterString.map some
  short : k.length ≤ 253

section Whitespace

theorem json_ws_quote {w : List Char} (ws : Style.json.Ws w) : '"' ∉ w :=
  fun mem => absurd (ws _ mem) (by decide)

theorem json_ws_colon {w : List Char} (ws : Style.json.Ws w) : ':' ∉ w :=
  fun mem => absurd (ws _ mem) (by decide)

theorem boundary_ws_append {w rest : List Char} (ws : Style.json.Ws w) (boundary : Boundary rest) :
    Boundary (w ++ rest) := by
  cases w with
  | nil => exact boundary
  | cons c w =>
    intro d hd
    obtain rfl : c = d := by simpa using hd
    have blank : ∀ x ∈ Style.json.whitespace, x ∈ afterString := by decide
    exact blank c (ws c (List.mem_cons_self _ _))

theorem boundary_cons {c : Char} {rest : List Char} (mem : c ∈ afterString) : Boundary (c :: rest) := by
  intro d hd
  obtain rfl : c = d := by simpa using hd
  exact mem

theorem boundary_nil : Boundary [] := by
  intro c hc
  cases hc

theorem plain_ws_mem {w : List Char} (ws : Style.plain.Ws w) {c : Char} (mem : c ∈ w) :
    c = ' ' ∨ c = '\t' := by
  simpa [Style.plain] using ws c mem

end Whitespace

section Strings

theorem plain_stringText {t s : List Char} (h : StringText .plain t s) :
    t = s ∧ '"' ∉ s := by
  induction h with
  | nil => exact ⟨rfl, List.not_mem_nil _⟩
  | cons hc _ ih =>
    cases hc with
    | literal quote _ _ =>
      obtain ⟨rfl, absent⟩ := ih
      exact ⟨rfl, by simp [Ne.symm quote, absent]⟩
    | short escapes _ => exact absurd escapes (by decide)
    | unicode escapes _ _ => exact absurd escapes (by decide)
    | surrogate escapes _ _ _ => exact absurd escapes (by decide)

theorem Hex4.no_quote {h : List Char} {n : Nat} (hex : Hex4 h n) : '"' ∉ h := by
  obtain ⟨a, b, c, d, rfl, value⟩ := hex
  have quote : hexDigit? '"' = none := by decide
  intro mem
  simp only [List.mem_cons, List.mem_singleton, List.not_mem_nil, or_false] at mem
  rcases mem with rfl | rfl | rfl | rfl <;> simp [quote] at value

theorem shortEscape_quote {c : Char} (h : shortEscape c = some '"') : c = '"' := by
  by_contra other
  rw [shortEscape, if_neg other] at h
  repeat' rw [apply_ite (· = some '"')] at h
  simp at h

theorem CharText.literal_or_escape {style : Style} {c : Char} {ct : List Char}
    (h : CharText style c ct) : (ct = [c] ∧ c ≠ '"' ∧ c ≠ '\\') ∨ ∃ r, ct = '\\' :: r := by
  cases h with
  | literal quote backslash _ => exact .inl ⟨rfl, quote, backslash⟩
  | short _ _ | unicode _ _ _ | surrogate _ _ _ _ => exact .inr ⟨_, rfl⟩

theorem CharText.quote_mem {style : Style} {c : Char} {ct : List Char} (h : CharText style c ct)
    (mem : '"' ∈ ct) : c = '"' ∧ ct = ['\\', '"'] := by
  cases h with
  | literal quote _ _ => exact absurd (List.mem_singleton.mp mem).symm quote
  | short _ escape =>
    obtain rfl : '"' = _ := by simpa using mem
    exact ⟨shortEscape_quote escape, rfl⟩
  | unicode _ _ hex =>
    simp only [List.mem_cons] at mem
    exact absurd ((mem.resolve_left (by decide)).resolve_left (by decide)) hex.no_quote
  | surrogate _ _ high low =>
    simp only [List.cons_append, List.mem_cons, List.mem_append] at mem
    rcases mem with h | h | h | h | h | h
    all_goals first | exact absurd h (by decide) | exact absurd h high.no_quote | exact absurd h low.no_quote

theorem StringText.eq_of_prefix_key {style : Style} {t s k rest : List Char} (h : StringText style t s)
    (noQuote : '"' ∉ k) (noBackslash : '\\' ∉ k) (pre : k ++ ['"'] <+: t ++ '"' :: rest) :
    t = k ∧ s = k := by
  induction h generalizing k with
  | nil =>
    cases k with
    | nil => exact ⟨rfl, rfl⟩
    | cons a k =>
      obtain ⟨u, hu⟩ := pre
      simp only [List.cons_append, List.nil_append, List.cons.injEq] at hu
      exact absurd (hu.1 ▸ List.mem_cons_self _ _) noQuote
  | cons hc _ ih =>
    obtain ⟨u, hu⟩ := pre
    rcases hc.literal_or_escape with ⟨rfl, quote, -⟩ | ⟨r, rfl⟩
    · cases k with
      | nil =>
        simp only [List.nil_append, List.singleton_append, List.cons_append, List.cons.injEq] at hu
        exact absurd hu.1.symm quote
      | cons a k =>
        simp only [List.cons_append, List.singleton_append, List.append_assoc, List.cons.injEq] at hu
        obtain ⟨rfl, hu⟩ := hu
        obtain ⟨rfl, rfl⟩ := ih (fun m => noQuote (List.mem_cons_of_mem _ m))
          (fun m => noBackslash (List.mem_cons_of_mem _ m)) ⟨u, by simpa using hu⟩
        exact ⟨rfl, rfl⟩
    · cases k with
      | nil => simp at hu
      | cons a k =>
        simp only [List.cons_append, List.cons.injEq] at hu
        exact absurd (hu.1 ▸ List.mem_cons_self _ _) noBackslash

end Strings

section Search

variable {k : List Char}

theorem searchKey_eq (key : PlainKey k) : searchKey k = '"' :: (k ++ ['"']) := by
  simp only [searchKey, snprintf]
  exact List.take_of_length_le (by simp; have := key.short; omega)

theorem strstr_skip (key : PlainKey k) {front rest : List Char} (noQuote : '"' ∉ front) :
    strstr (front ++ rest) (searchKey k) = strstr rest (searchKey k) :=
  strstr_append_of_not_mem (searchKey_eq key) noQuote

theorem strstr_skip_char (key : PlainKey k) {c : Char} (other : c ≠ '"') (rest : List Char) :
    strstr (c :: rest) (searchKey k) = strstr rest (searchKey k) :=
  strstr_cons_of_ne (searchKey_eq key) other

theorem not_prefix_closing (key : PlainKey k) {rest : List Char} (boundary : Boundary rest) :
    ¬ k ++ ['"'] <+: rest := by
  rintro ⟨u, hu⟩
  cases k with
  | nil =>
    have := boundary '"' (by simp [← hu])
    simp [afterString] at this
  | cons a k => exact key.start (List.mem_map_of_mem _ (boundary a (by simp [← hu])))

theorem strstr_inside_string (key : PlainKey k) {style : Style} {t s rest : List Char}
    (h : StringText style t s) (noTail : ¬ ('"' :: k) <:+ s) (boundary : Boundary rest) :
    strstr (t ++ '"' :: rest) (searchKey k) = strstr rest (searchKey k) := by
  induction h with
  | nil =>
    rw [List.nil_append, strstr_cons_of_unmatched]
    rw [searchKey_eq key, List.cons_prefix_cons]
    exact fun h => not_prefix_closing key boundary h.2
  | @cons c ct t' s' hc hs ih =>
    have noTail' : ¬ ('"' :: k) <:+ s' := fun tail => noTail (tail.trans (List.suffix_cons c s'))
    rw [List.append_assoc]
    by_cases quoted : '"' ∈ ct
    · obtain ⟨rfl, rfl⟩ := hc.quote_mem quoted
      rw [List.cons_append, strstr_skip_char key (by decide), List.singleton_append,
        strstr_cons_of_unmatched, ih noTail']
      rw [searchKey_eq key, List.cons_prefix_cons]
      rintro ⟨-, pre⟩
      obtain ⟨-, rfl⟩ := hs.eq_of_prefix_key key.noQuote key.noBackslash pre
      exact noTail (List.suffix_refl _)
    · rw [strstr_skip key quoted, ih noTail']

theorem strstr_string_token (key : PlainKey k) {style : Style} {t s rest : List Char}
    (h : StringText style t s) (other : ¬ KeyLike k s) (boundary : Boundary rest) :
    strstr ('"' :: (t ++ '"' :: rest)) (searchKey k) = strstr rest (searchKey k) := by
  rw [strstr_cons_of_unmatched, strstr_inside_string key h (fun tail => other (.inr tail)) boundary]
  rw [searchKey_eq key, List.cons_prefix_cons]
  exact fun ⟨_, pre⟩ => other (.inl (h.eq_of_prefix_key key.noQuote key.noBackslash pre).2)

theorem strstr_found (key : PlainKey k) {front rest : List Char} (noQuote : '"' ∉ front) :
    strstr (front ++ '"' :: (k ++ '"' :: rest)) (searchKey k) = some ('"' :: (k ++ '"' :: rest)) := by
  rw [strstr_skip key noQuote, strstr_at_match]
  rw [searchKey_eq key]
  exact ⟨rest, by simp⟩

end Search

section Phrases

variable {k : List Char}

theorem quote_not_mem_digits {d : List Char} (digits : ∀ x ∈ d, x.isDigit) : '"' ∉ d :=
  fun mem => absurd (digits _ mem) (by decide)

theorem numberText_quote {style : Style} {t : List Char} {q : ℚ} (h : NumberText style t q) :
    '"' ∉ t := by
  obtain ⟨negative, integral, fraction, exponent, e, hi, hf, he, rfl, -⟩ := h
  have hexp : '"' ∉ exponent := by
    rcases he with ⟨rfl, -⟩ | ⟨-, marker, neg, sign, ds, hm, hs, -, hd, rfl, -⟩
    · exact List.not_mem_nil _
    · have : '"' ∉ sign := by rcases hs with ⟨rfl, -⟩ | ⟨rfl, -⟩ | ⟨rfl, -⟩ <;> decide
      rcases hm with rfl | rfl <;> simp [this, quote_not_mem_digits hd]
  have := quote_not_mem_digits hi.2.1
  have := quote_not_mem_digits hf
  cases negative <;> split <;> simp [*]

/-- `k` can be met in a phrase, as a string value or as a member name. -/
def PhraseMentions (k : List Char) : Phrase → Prop
  | .value v => Mentions k v
  | .element v => Mentions k v
  | .elements vs => ∃ v ∈ vs, Mentions k v
  | .members ms => ∃ q ∈ ms, KeyLike k q.1 ∨ Mentions k q.2

theorem strstr_skip_phrase (key : PlainKey k) {p : Phrase} {t : List Char}
    (h : Grammar .json p t) (absent : ¬ PhraseMentions k p) {rest : List Char}
    (boundary : Boundary rest) : strstr (t ++ rest) (searchKey k) = strstr rest (searchKey k) := by
  induction h generalizing rest with
  | nullLit | trueLit | falseLit => exact strstr_skip key (by decide)
  | number ht => exact strstr_skip key (numberText_quote ht)
  | string ht => simpa using strstr_string_token key ht (fun kl => absent (Mentions.string kl)) boundary
  | emptyArray ws | emptyObject ws =>
    exact strstr_skip key (by simp [json_ws_quote ws])
  | @array vs t _ ih =>
    simp only [List.cons_append, List.append_assoc, List.singleton_append, List.nil_append]
    rw [strstr_skip_char key (by decide), ih (fun ⟨v, mem, m⟩ => absent (Mentions.item mem m))
      (boundary_cons (by decide)), strstr_skip_char key (by decide)]
  | @object ms order t perm _ ih =>
    simp only [List.cons_append, List.append_assoc, List.singleton_append, List.nil_append]
    refine (strstr_skip_char key (by decide) _).trans ?_
    rw [ih ?_ (boundary_cons (by decide)), strstr_skip_char key (by decide)]
    rintro ⟨⟨k', v⟩, mem, named | m⟩
    · exact absent (Mentions.key (perm.subset mem) named)
    · exact absent (Mentions.member (perm.subset mem) m)
  | @element v w₁ t w₂ ws₁ _ ws₂ ih =>
    simp only [List.append_assoc]
    rw [strstr_skip key (json_ws_quote ws₁), ih absent (boundary_ws_append ws₂ boundary),
      strstr_skip key (json_ws_quote ws₂)]
  | elementsOne _ ih =>
    exact ih (fun m => absent ⟨_, List.mem_singleton_self _, m⟩) boundary
  | @elementsCons v vs t ts _ _ ih ihs =>
    simp only [List.append_assoc, List.cons_append]
    rw [ih (fun m => absent ⟨v, List.mem_cons_self _ _, m⟩) (boundary_cons (by decide)),
      strstr_skip_char key (by decide),
      ihs (fun ⟨u, mem, m⟩ => absent ⟨u, List.mem_cons_of_mem _ mem, m⟩) boundary]
  | @membersOne k' kt w₁ w₂ t v ws₁ hk ws₂ _ ih =>
    simp only [List.append_assoc, List.cons_append]
    rw [strstr_skip key (json_ws_quote ws₁),
      strstr_string_token key hk (fun named => absent ⟨_, List.mem_singleton_self _, .inl named⟩)
        (boundary_ws_append ws₂ (boundary_cons (by decide))),
      strstr_skip key (json_ws_quote ws₂), strstr_skip_char key (by decide),
      ih (fun m => absent ⟨_, List.mem_singleton_self _, .inr m⟩) boundary]
  | @membersCons k' kt w₁ w₂ t ts v ms ws₁ hk ws₂ _ _ ih ihs =>
    simp only [List.append_assoc, List.cons_append]
    rw [strstr_skip key (json_ws_quote ws₁),
      strstr_string_token key hk (fun named => absent ⟨_, List.mem_cons_self _ _, .inl named⟩)
        (boundary_ws_append ws₂ (boundary_cons (by decide))),
      strstr_skip key (json_ws_quote ws₂), strstr_skip_char key (by decide),
      ih (fun m => absent ⟨_, List.mem_cons_self _ _, .inr m⟩) (boundary_cons (by decide)),
      strstr_skip_char key (by decide),
      ihs (fun ⟨u, mem, m⟩ => absent ⟨u, List.mem_cons_of_mem _ mem, m⟩) boundary]

end Phrases

section Keyed

/-- How the helpers need the value they read written: a string with no escape, a number with
no exponent; any other value as JSON allows. -/
def readableStyle : JsonValue → Style
  | .string _ | .number _ => .plain
  | _ => .json

theorem readableStyle_le (v : JsonValue) : (readableStyle v).Le .json := by
  cases v <;> first | exact Style.plain_le_json | exact ⟨fun _ m => m, id, id⟩

/-- A member of an object as the helpers need it when they look up the names `keys`: any JSON
text of a member whose name is none of them; for one of them, the name written as it is, only
spaces and tabs between the colon and the value, and the value in `readableStyle`. -/
inductive KeyedMember (keys : List (List Char)) : List Char × JsonValue → List Char → Prop
  | other {k kt w₁ w₂ t : List Char} {v : JsonValue} : k ∉ keys → Style.json.Ws w₁ →
      StringText .json kt k → Style.json.Ws w₂ → Grammar .json (.element v) t →
      KeyedMember keys (k, v) (w₁ ++ '"' :: kt ++ '"' :: w₂ ++ ':' :: t)
  | key {k w₁ w₂ w₃ vt w₄ : List Char} {v : JsonValue} : k ∈ keys → Style.json.Ws w₁ →
      StringText .plain k k → Style.json.Ws w₂ → Style.plain.Ws w₃ →
      Grammar (readableStyle v) (.value v) vt → Style.json.Ws w₄ →
      KeyedMember keys (k, v) (w₁ ++ '"' :: k ++ '"' :: w₂ ++ ':' :: (w₃ ++ vt ++ w₄))

/-- The members of an object, separated by commas. -/
inductive KeyedMembers (keys : List (List Char)) : List (List Char × JsonValue) → List Char → Prop
  | one {m : List Char × JsonValue} {t : List Char} : KeyedMember keys m t → KeyedMembers keys [m] t
  | cons {m : List Char × JsonValue} {ms : List (List Char × JsonValue)} {t ts : List Char} :
      KeyedMember keys m t → KeyedMembers keys ms ts → KeyedMembers keys (m :: ms) (t ++ ',' :: ts)

/-- A JSON text of the object `ms` whose members named in `keys` are written as the helpers read
them. -/
inductive KeyedText (keys : List (List Char)) : List (List Char × JsonValue) → List Char → Prop
  | empty {w₁ w w₂ : List Char} : Style.json.Ws w₁ → Style.json.Ws w → Style.json.Ws w₂ →
      KeyedText keys [] (w₁ ++ '\x7b' :: w ++ '\x7d' :: w₂)
  | object {ms order : List (List Char × JsonValue)} {w₁ t w₂ : List Char} : order.Perm ms →
      Style.json.Ws w₁ → KeyedMembers keys order t → Style.json.Ws w₂ →
      KeyedText keys ms (w₁ ++ '\x7b' :: t ++ '\x7d' :: w₂)

variable {keys : List (List Char)}

theorem KeyedText.cast {ms : List (List Char × JsonValue)} {J J' : List Char} (same : J = J')
    (h : KeyedText keys ms J) : KeyedText keys ms J' := same ▸ h

theorem KeyedMember.members {m : List Char × JsonValue} {t : List Char} (h : KeyedMember keys m t) :
    Grammar .json (.members [m]) t := by
  cases h with
  | other _ ws₁ hk ws₂ hv => exact .membersOne ws₁ hk ws₂ hv
  | key _ ws₁ hk ws₂ ws₃ hv ws₄ =>
    exact .membersOne ws₁ (hk.mono Style.plain_le_json) ws₂
      (.element (ws₃.mono Style.plain_le_json) (hv.mono (readableStyle_le _)) ws₄)

theorem Grammar.members_cons {style : Style} {m : List Char × JsonValue}
    {ms : List (List Char × JsonValue)} {t ts : List Char} (h : Grammar style (.members [m]) t)
    (hs : Grammar style (.members ms) ts) : Grammar style (.members (m :: ms)) (t ++ ',' :: ts) := by
  cases h with
  | membersOne ws₁ hk ws₂ hv => exact .membersCons ws₁ hk ws₂ hv hs
  | membersCons _ _ _ _ rest => cases rest

theorem KeyedMembers.grammar {ms : List (List Char × JsonValue)} {t : List Char}
    (h : KeyedMembers keys ms t) : Grammar .json (.members ms) t := by
  induction h with
  | one hm => exact hm.members
  | cons hm _ ih => exact hm.members.members_cons ih

theorem KeyedText.serializes {ms : List (List Char × JsonValue)} {J : List Char}
    (h : KeyedText keys ms J) : Serializes .json (.object ms) J := by
  cases h with
  | empty ws₁ w ws₂ => exact Grammar.cast (by simp) (.element ws₁ (.emptyObject w) ws₂)
  | object perm ws₁ hm ws₂ => exact Grammar.cast (by simp) (.element ws₁ (.object perm hm.grammar) ws₂)

theorem plain_le_readableStyle (v : JsonValue) : Style.plain.Le (readableStyle v) := by
  cases v <;> first | exact Style.plain_le_json | exact ⟨fun _ m => m, id, id⟩

theorem KeyedMember.of_plain {k kt w₁ w₂ t : List Char} {v : JsonValue} (ws₁ : Style.plain.Ws w₁)
    (hk : StringText .plain kt k) (ws₂ : Style.plain.Ws w₂) (hv : Grammar .plain (.element v) t) :
    KeyedMember keys (k, v) (w₁ ++ '"' :: kt ++ '"' :: w₂ ++ ':' :: t) := by
  obtain ⟨rfl, -⟩ := plain_stringText hk
  by_cases read : kt ∈ keys
  · cases hv with
    | element ws₃ hv ws₄ =>
      exact .key read (ws₁.mono Style.plain_le_json) hk (ws₂.mono Style.plain_le_json) ws₃
        (hv.mono (plain_le_readableStyle v)) (ws₄.mono Style.plain_le_json)
  · exact .other read (ws₁.mono Style.plain_le_json) (hk.mono Style.plain_le_json)
      (ws₂.mono Style.plain_le_json) (hv.mono Style.plain_le_json)

theorem KeyedMembers.of_plain {ms : List (List Char × JsonValue)} {t : List Char}
    (h : Grammar .plain (.members ms) t) : KeyedMembers keys ms t := by
  generalize hp : Phrase.members ms = p at h
  induction h generalizing ms with
  | membersOne ws₁ hk ws₂ hv =>
    cases hp
    exact .one (.of_plain ws₁ hk ws₂ hv)
  | membersCons ws₁ hk ws₂ hv _ _ ihs =>
    cases hp
    exact .cons (.of_plain ws₁ hk ws₂ hv) (ihs rfl)
  | _ => cases hp

/-- A plain text of an object, with spaces and tabs as its only white space and no escape or
exponent anywhere, is written as the helpers read it, whatever keys they look up. -/
theorem KeyedText.of_plain {ms : List (List Char × JsonValue)} {J : List Char}
    (text : Serializes .plain (.object ms) J) : KeyedText keys ms J := by
  cases text with
  | element ws₁ hv ws₂ =>
    cases hv with
    | emptyObject w =>
      exact KeyedText.cast (by simp) (.empty (ws₁.mono Style.plain_le_json) (w.mono Style.plain_le_json)
        (ws₂.mono Style.plain_le_json))
    | object perm hm =>
      exact KeyedText.cast (by simp) (.object perm (ws₁.mono Style.plain_le_json) (.of_plain hm)
        (ws₂.mono Style.plain_le_json))

end Keyed

section Find

variable {k : List Char} {keys : List (List Char)}

theorem KeyedMember.found (key : PlainKey k) (read : k ∈ keys) {v : JsonValue} {t : List Char}
    (h : KeyedMember keys (k, v) t) {rest : List Char} (boundary : Boundary rest) :
    ∃ w₂ w₃ vt after, Style.json.Ws w₂ ∧ Style.plain.Ws w₃ ∧ Grammar (readableStyle v) (.value v) vt ∧
      Boundary after ∧
      strstr (t ++ rest) (searchKey k) = some ('"' :: (k ++ '"' :: (w₂ ++ ':' :: (w₃ ++ vt ++ after)))) := by
  cases h with
  | other unread _ _ _ _ => exact absurd read unread
  | key _ ws₁ _ ws₂ ws₃ hv ws₄ =>
    refine ⟨_, _, _, _, ws₂, ws₃, hv, boundary_ws_append ws₄ boundary, ?_⟩
    simpa only [List.append_assoc, List.cons_append] using strstr_found key (json_ws_quote ws₁)

theorem strstr_find_key (key : PlainKey k) (read : k ∈ keys) {order : List (List Char × JsonValue)}
    {t : List Char} (h : KeyedMembers keys order t) (distinct : DistinctKeys order)
    (names : ∀ q ∈ order, ¬ ('"' :: k) <:+ q.1) (clean : ∀ q ∈ order, ¬ Mentions k q.2)
    {v : JsonValue} (mem : (k, v) ∈ order) {rest : List Char} (boundary : Boundary rest) :
    ∃ w₂ w₃ vt after, Style.json.Ws w₂ ∧ Style.plain.Ws w₃ ∧ Grammar (readableStyle v) (.value v) vt ∧
      Boundary after ∧
      strstr (t ++ rest) (searchKey k) = some ('"' :: (k ++ '"' :: (w₂ ++ ':' :: (w₃ ++ vt ++ after)))) := by
  induction h generalizing rest with
  | one hm =>
    obtain rfl := List.mem_singleton.mp mem
    exact hm.found key read boundary
  | @cons m ms t ts hm _ ih =>
    rw [DistinctKeys, List.pairwise_cons] at distinct
    by_cases same : m.1 = k
    · obtain rfl : m = (k, v) := by
        rcases List.mem_cons.mp mem with e | e
        · exact e.symm
        · exact absurd same (distinct.1 _ e)
      simpa only [List.append_assoc, List.cons_append] using
        hm.found key read (show Boundary (',' :: (ts ++ rest)) from boundary_cons (by decide))
    · have inTail : (k, v) ∈ ms := (List.mem_cons.mp mem).resolve_left fun e => same (by rw [← e])
      have unmentioned : ¬ PhraseMentions k (.members [m]) := by
        rintro ⟨q, hq, named | mention⟩
        · obtain rfl := List.mem_singleton.mp hq
          exact named.elim same (names q (List.mem_cons_self _ _))
        · obtain rfl := List.mem_singleton.mp hq
          exact clean q (List.mem_cons_self _ _) mention
      rw [List.append_assoc, List.cons_append,
        strstr_skip_phrase key hm.members unmentioned (boundary_cons (by decide)),
        strstr_skip_char key (by decide)]
      exact ih distinct.2 (fun q m' => names q (List.mem_cons_of_mem _ m'))
        (fun q m' => clean q (List.mem_cons_of_mem _ m')) inTail boundary

theorem strchr_colon_after_key (key : PlainKey k) {w : List Char} (ws : Style.json.Ws w)
    (x : List Char) : strchr ('"' :: (k ++ '"' :: (w ++ ':' :: x))) ':' = some (':' :: x) := by
  have split : '"' :: (k ++ '"' :: (w ++ ':' :: x)) = ('"' :: (k ++ '"' :: w)) ++ ':' :: x := by
    simp
  rw [split, strchr_append_of_not_mem (by simp [key.noColon, json_ws_colon ws]), strchr_cons_self]

theorem distinct_of_perm {ms order : List (List Char × JsonValue)} (perm : order.Perm ms)
    (distinct : DistinctKeys ms) : DistinctKeys order :=
  distinct.perm perm.symm (fun h => Ne.symm h)

theorem jsonValueStart_key (key : PlainKey k) (read : k ∈ keys) {ms : List (List Char × JsonValue)}
    {J : List Char} (text : KeyedText keys ms J) (distinct : DistinctKeys ms)
    (names : ∀ q ∈ ms, ¬ ('"' :: k) <:+ q.1) (clean : ∀ q ∈ ms, ¬ Mentions k q.2) {v : JsonValue}
    (mem : (k, v) ∈ ms) :
    ∃ w vt after, Style.plain.Ws w ∧ Grammar (readableStyle v) (.value v) vt ∧ Boundary after ∧
      jsonValueStart J k = some (w ++ vt ++ after) := by
  cases text with
  | empty _ _ _ => cases mem
  | @object _ order w₁ t w₂ perm ws₁ hm _ =>
    obtain ⟨w₂', w, vt, after, hw₂', hw, hv, hafter, found⟩ := strstr_find_key key read hm
      (distinct_of_perm perm distinct) (fun q m => names q (perm.subset m))
      (fun q m => clean q (perm.subset m)) (perm.mem_iff.mpr mem)
      (show Boundary ('\x7d' :: w₂) from boundary_cons (by decide))
    refine ⟨w, vt, after, hw, hv, hafter, ?_⟩
    have skip : strstr (w₁ ++ '\x7b' :: t ++ '\x7d' :: w₂) (searchKey k) =
        strstr (t ++ '\x7d' :: w₂) (searchKey k) := by
      simp only [List.append_assoc, List.cons_append]
      rw [strstr_skip key (json_ws_quote ws₁), strstr_skip_char key (by decide)]
    simp only [jsonValueStart, skip, found, Option.bind_eq_bind, Option.some_bind,
      strchr_colon_after_key key hw₂', List.tail_cons]
    rfl

end Find

section Readers

theorem isBlank_plain {w : List Char} (ws : Style.plain.Ws w) : ∀ c ∈ w, isBlank c := by
  intro c mem
  rcases plain_ws_mem ws mem with rfl | rfl <;> rfl

theorem dropWhile_blank_ws {w x : List Char} (ws : Style.plain.Ws w) :
    (w ++ x).dropWhile isBlank = x.dropWhile isBlank := by
  induction w with
  | nil => rfl
  | cons c w ih =>
    rw [List.cons_append, List.dropWhile_cons_of_pos (isBlank_plain ws c (List.mem_cons_self _ _))]
    exact ih (fun d m => ws d (List.mem_cons_of_mem _ m))

theorem isBlank_of_isDigit {c : Char} (h : c.isDigit) : isBlank c = false := by
  have := isDigit_bounds h
  simp only [isBlank, Bool.or_eq_false_iff, beq_eq_false_iff_ne]
  constructor <;> rintro rfl <;> simp_all

theorem dropWhile_blank_value {w vt x : List Char} (ws : Style.plain.Ws w)
    (notBlank : vt.head?.map isBlank = some false) :
    (w ++ (vt ++ x)).dropWhile isBlank = vt ++ x := by
  rw [dropWhile_blank_ws ws]
  cases vt with
  | nil => cases notBlank
  | cons c r =>
    rw [List.cons_append, List.dropWhile_cons_of_neg (by simpa using notBlank)]

theorem readJsonBool_value {style : Style} {b : Bool} {w vt after : List Char}
    (ws : Style.plain.Ws w) (h : Grammar style (.value (.bool b)) vt) :
    readJsonBool (w ++ vt ++ after) = some b := by
  cases h with
  | trueLit =>
    rw [List.append_assoc, readJsonBool, dropWhile_blank_value ws (by decide),
      if_pos (List.isPrefixOf_iff_prefix.mpr (List.prefix_append _ _))]
  | falseLit =>
    have notTrue : ∀ y, ¬ "true".toList.isPrefixOf ("false".toList ++ y) = true := by
      intro y h
      obtain ⟨u, hu⟩ := List.isPrefixOf_iff_prefix.mp h
      exact absurd (congrArg List.head? hu) (by simp)
    rw [List.append_assoc, readJsonBool, dropWhile_blank_value ws (by decide),
      if_neg (notTrue _), if_pos (List.isPrefixOf_iff_prefix.mpr (List.prefix_append _ _))]

theorem readJsonString_value {s w vt after : List Char} (ws : Style.plain.Ws w)
    (h : Grammar .plain (.value (.string s)) vt) : readJsonString (w ++ vt ++ after) = some s := by
  cases h with
  | string hs =>
    obtain ⟨rfl, noQuote⟩ := plain_stringText hs
    rw [List.append_assoc, readJsonString, dropWhile_blank_value ws (by rfl)]
    simp only [List.cons_append, List.append_assoc, List.singleton_append]
    rw [if_pos (List.mem_append_right _ (List.mem_cons_self _ _)), takeWhile_not_quote noQuote]

theorem integral_of_value {n : Int} {a f k : Nat} (negative : Bool) (fLt : f < 10 ^ k)
    (h : (n : ℚ) = (if negative then -1 else 1) * ((a : ℚ) + f / 10 ^ k) * 10 ^ (0 : Int)) :
    n = if negative then -(a : Int) else a := by
  set z : Int := (if negative then -n else n) - a with hz
  have scaled : (z : ℚ) * 10 ^ k = f := by
    rw [zpow_zero, mul_one] at h
    cases negative <;> simp only [if_true, if_false, Bool.false_eq_true, hz] at h ⊢ <;> push_cast <;>
      rw [h] <;> field_simp <;> ring
  have scaledZ : z * 10 ^ k = (f : ℤ) := by exact_mod_cast scaled
  -- the fraction is a multiple of `10 ^ k` below `10 ^ k`
  have fZero : (f : ℤ) = 0 := Int.eq_zero_of_abs_lt_dvd ⟨z, by rw [← scaledZ, mul_comm]⟩
    (by rw [abs_of_nonneg (by positivity)]; exact_mod_cast fLt)
  have zZero : z = 0 := (mul_eq_zero.mp (scaledZ.trans fZero)).resolve_right (by positivity)
  cases negative <;> simp only [if_true, if_false, Bool.false_eq_true] at hz ⊢ <;> omega

theorem isSpace_of_isBlank {c : Char} (h : isBlank c) : isSpace c := by
  simp only [isBlank, Bool.or_eq_true, beq_iff_eq] at h
  rcases h with rfl | rfl <;> rfl

theorem Boundary.not_digit {rest : List Char} (boundary : Boundary rest) :
    ∀ x, rest.head? = some x → x.isDigit = false := by
  intro x hx
  have := boundary x hx
  simp only [afterString, List.mem_cons, List.mem_singleton, List.not_mem_nil, or_false] at this
  rcases this with rfl | rfl | rfl | rfl | rfl | rfl | rfl | rfl <;> rfl

theorem atoi_value {n : Int} {w vt after : List Char} (ws : Style.plain.Ws w)
    (h : Grammar .plain (.value (.number n)) vt) (boundary : Boundary after) (range : IntRange n) :
    atoi (w ++ vt ++ after) = n := by
  cases h with
  | number hn =>
  obtain ⟨negative, integral, fraction, exponent, e, hi, hf, hexp, rfl, hq⟩ := hn
  obtain ⟨rfl, rfl⟩ : exponent = [] ∧ e = 0 := by
    rcases hexp with h | ⟨no, -⟩
    · exact h
    · exact absurd no (by decide)
  have value := integral_of_value negative (digitsValue_lt hf) hq
  obtain ⟨c, d, hcd⟩ := List.exists_cons_of_ne_nil hi.1
  have digit : c.isDigit := hi.2.1 c (hcd ▸ List.mem_cons_self _ _)
  set fractionPart : List Char := if fraction = [] then [] else '.' :: fraction
  have stop : ∀ x, (fractionPart ++ after).head? = some x → x.isDigit = false := by
    by_cases none : fraction = []
    · simpa [fractionPart, none] using boundary.not_digit
    · intro x hx
      obtain rfl : '.' = x := by simpa [fractionPart, none] using hx
      rfl
  set body := (if negative then ['-'] else []) ++ (integral ++ (fractionPart ++ after))
  have split : splitSign body = (negative, integral ++ (fractionPart ++ after)) := by
    cases negative
    · simp only [body, if_false, Bool.false_eq_true, List.nil_append, hcd, List.cons_append]
      exact splitSign_digit digit _
    · rfl
  have skip : (w ++ body).dropWhile isSpace = body :=
    dropWhile_spaces (fun x m => isSpace_of_isBlank (isBlank_plain ws x m))
      (splitSign_head split fun x hx => by
        simp only [hcd, List.cons_append, List.head?_cons, Option.some.injEq] at hx
        exact hx ▸ digit)
  rw [value] at range ⊢
  rw [← atoi_of_split skip split hi.2.1 stop range]
  congr 1
  simp [body]

theorem value_head_of_not_bool {style : Style} {v : JsonValue} {vt : List Char}
    (h : Grammar style (.value v) vt) (notBool : ∀ b, v ≠ .bool b) :
    ∃ c r, vt = c :: r ∧ isBlank c = false ∧ c ≠ 't' ∧ c ≠ 'f' := by
  cases h with
  | nullLit => exact ⟨'n', _, rfl, rfl, by decide, by decide⟩
  | trueLit => exact absurd rfl (notBool true)
  | falseLit => exact absurd rfl (notBool false)
  | number hn =>
    obtain ⟨negative, integral, fraction, exponent, e, hi, -, -, rfl, -⟩ := hn
    cases negative
    · obtain ⟨c, d, rfl⟩ := List.exists_cons_of_ne_nil hi.1
      have digit := hi.2.1 c (List.mem_cons_self _ _)
      have := isDigit_bounds digit
      refine ⟨c, _, rfl, isBlank_of_isDigit digit, ?_, ?_⟩ <;> rintro rfl <;> simp at this
    · exact ⟨'-', _, rfl, rfl, by decide, by decide⟩
  | string _ => exact ⟨'"', _, rfl, rfl, by decide, by decide⟩
  | emptyArray _ | array _ => exact ⟨'[', _, rfl, rfl, by decide, by decide⟩
  | emptyObject _ | object _ _ => exact ⟨'\x7b', _, rfl, rfl, by decide, by decide⟩

theorem readJsonBool_of_not_bool {style : Style} {v : JsonValue} {w vt after : List Char}
    (ws : Style.plain.Ws w) (h : Grammar style (.value v) vt) (notBool : ∀ b, v ≠ .bool b) :
    readJsonBool (w ++ vt ++ after) = none := by
  obtain ⟨c, r, rfl, blank, notT, notF⟩ := value_head_of_not_bool h notBool
  rw [List.append_assoc, readJsonBool, dropWhile_blank_value ws (by simp [blank])]
  simp [List.isPrefixOf, notT.symm, notF.symm]

end Readers

section Decoding

variable {k : List Char}

theorem Style.ws_nil (style : Style) : style.Ws [] := fun _ h => absurd h (List.not_mem_nil _)

theorem StringText.ofLiteral (style : Style) {s : List Char}
    (plain : ∀ c ∈ s, c ≠ '"' ∧ c ≠ '\\' ∧ 0x20 ≤ c.toNat) : StringText style s s := by
  induction s with
  | nil => exact .nil
  | cons c s ih =>
    have head := plain c (List.mem_cons_self _ _)
    exact .cons (.literal head.1 head.2.1 head.2.2) (ih (fun d m => plain d (List.mem_cons_of_mem _ m)))

theorem strstr_absent_key (key : PlainKey k) {ms : List (List Char × JsonValue)} {J : List Char}
    (text : Serializes .json (.object ms) J) (absent : ∀ v, (k, v) ∉ ms)
    (names : ∀ q ∈ ms, ¬ ('"' :: k) <:+ q.1) (clean : ∀ q ∈ ms, ¬ Mentions k q.2) :
    strstr J (searchKey k) = none := by
  have unmentioned : ¬ PhraseMentions k (.element (.object ms)) := by
    rintro (_ | _ | @⟨k', v, _, mem, rfl | tail⟩ | @⟨k', v, _, mem, m⟩)
    · exact absent v mem
    · exact names _ mem tail
    · exact clean _ mem m
  have empty : strstr [] (searchKey k) = none :=
    strstr_nil_of_ne_nil (by simp [searchKey_eq key])
  simpa [empty] using strstr_skip_phrase key text unmentioned boundary_nil

/-- The helpers decode a JSON text of an object whose member `k` is written as they read it: what
they return for `k` is that member, provided no other name and no string value of the object,
at any depth, is `k` or ends in a quote and `k`. -/
theorem parse_helpers_keyed_object {ms : List (List Char × JsonValue)} {J : List Char}
    (distinct : DistinctKeys ms) (text : KeyedText [k] ms J) (key : PlainKey k)
    (names : ∀ q ∈ ms, ¬ ('"' :: k) <:+ q.1) (clean : ∀ q ∈ ms, ¬ Mentions k q.2) :
    (∀ b, (k, .bool b) ∈ ms → httpParseJsonBool J k = some b) ∧
    (∀ n : Int, (k, .number n) ∈ ms → IntRange n → httpParseJsonInt J k = some n) ∧
    (∀ s, (k, .string s) ∈ ms → httpParseJsonString J k = some s) ∧
    ((∀ v, (k, v) ∉ ms) → httpParseJsonString J k = none ∧ httpParseJsonBool J k = none ∧
      httpParseJsonInt J k = none) := by
  have read := List.mem_singleton_self k
  refine ⟨fun b mem => ?_, fun n mem range => ?_, fun s mem => ?_, fun absent => ?_⟩
  · obtain ⟨w, vt, after, hw, hv, -, start⟩ := jsonValueStart_key key read text distinct names clean mem
    simp only [httpParseJsonBool, start, Option.some_bind, readJsonBool_value hw hv]
  · obtain ⟨w, vt, after, hw, hv, hafter, start⟩ :=
      jsonValueStart_key key read text distinct names clean mem
    simp only [httpParseJsonInt, start, Option.map_some', atoi_value hw hv hafter range]
  · obtain ⟨w, vt, after, hw, hv, -, start⟩ := jsonValueStart_key key read text distinct names clean mem
    simp only [httpParseJsonString, start, Option.some_bind, readJsonString_value hw hv]
  · exact parse_helpers_of_no_key (strstr_absent_key key text.serializes absent names clean)

/-- The text `{"note": "\n", "authorized": true}`, written over lines as a pretty printer
does, with an escape in another member. -/
def prettyReplyText : List Char :=
  "\x7b\n  \"note\": \"\\n\",\n  \"authorized\": true\n\x7d".toList

/-- The members of that text. -/
def prettyReply : List (List Char × JsonValue) :=
  [("note".toList, .string ['\n']), ("authorized".toList, .bool true)]

theorem parse_helpers_pretty_reply :
    DistinctKeys prettyReply ∧ KeyedText ["authorized".toList] prettyReply prettyReplyText ∧
      PlainKey "authorized".toList ∧ (∀ q ∈ prettyReply, ¬ ('"' :: "authorized".toList) <:+ q.1) ∧
      (∀ q ∈ prettyReply, ¬ Mentions "authorized".toList q.2) ∧
      httpParseJsonBool prettyReplyText "authorized".toList = some true := by
  have distinct : DistinctKeys prettyReply := by simp [DistinctKeys, prettyReply]
  have indent : Style.json.Ws ['\n', ' ', ' '] := by unfold Style.Ws; decide
  have blank : Style.plain.Ws [' '] := by unfold Style.Ws; decide
  have newline : StringText .json ['\\', 'n'] ['\n'] := .cons (.short rfl (by decide)) .nil
  have text : KeyedText ["authorized".toList] prettyReply prettyReplyText :=
    .object (List.Perm.refl _) (Style.ws_nil _)
      (.cons (.other (by decide) indent (StringText.ofLiteral _ (by decide)) (Style.ws_nil _)
          (.element (blank.mono Style.plain_le_json) (.string newline) (Style.ws_nil _)))
        (.one (.key (List.mem_singleton_self _) indent (StringText.ofLiteral _ (by decide))
          (Style.ws_nil _) blank .trueLit (show Style.json.Ws ['\n'] by unfold Style.Ws; decide))))
      (Style.ws_nil _)
  have key : PlainKey "authorized".toList := ⟨by decide, by decide, by decide, by decide, by decide⟩
  have names : ∀ q ∈ prettyReply, ¬ ('"' :: "authorized".toList) <:+ q.1 := by decide
  have clean : ∀ q ∈ prettyReply, ¬ Mentions "authorized".toList q.2 := by
    simp only [prettyReply, List.mem_cons, List.mem_singleton, List.not_mem_nil, or_false]
    rintro q (rfl | rfl) mention <;> cases mention
    exact absurd ‹KeyLike _ _› (by decide)
  exact ⟨distinct, text, key, names, clean,
    (parse_helpers_keyed_object distinct text key names clean).1 true (by simp [prettyReply])⟩

/-- A string that ends in a quote and the key is read as the key: here `"a"` ends in `"k`, and
the helper reads the `true` of `"b"` where the member `k` is `false`. -/
example : httpParseJsonBool "\x7b\"a\":\"\\\"k\",\"b\":true,\"k\":false\x7d".toList "k".toList = some true := by
  decide

/-- Field extraction does not undo the JSON encoding: a member `k` nested in an earlier
member is read in place of the top-level member `k`. -/
theorem parse_helpers_read_nested_key :
    DistinctKeys [("a".toList, .object [("k".toList, .bool false)]), ("k".toList, .bool true)] ∧
      Serializes .json
        (.object [("a".toList, .object [("k".toList, .bool false)]), ("k".toList, .bool true)])
        "\x7b\"a\":\x7b\"k\":false\x7d,\"k\":true\x7d".toList ∧
      ("k".toList, JsonValue.bool true) ∈
        [("a".toList, .object [("k".toList, .bool false)]), ("k".toList, .bool true)] ∧
      httpParseJsonBool "\x7b\"a\":\x7b\"k\":false\x7d,\"k\":true\x7d".toList "k".toList = some false := by
  refine ⟨by simp [DistinctKeys], ?_, by simp, by decide⟩
  have key : ∀ s : List Char, (∀ c ∈ s, c ≠ '"' ∧ c ≠ '\\' ∧ 0x20 ≤ c.toNat) →
      StringText .json s s := fun _ => StringText.ofLiteral _
  exact Grammar.cast (by decide) (.element (Style.ws_nil _)
    (.object (List.Perm.refl _)
      (.membersCons (Style.ws_nil _) (key "a".toList (by decide)) (Style.ws_nil _)
        (.element (Style.ws_nil _)
          (.object (List.Perm.refl _) (.membersOne (Style.ws_nil _) (key "k".toList (by decide))
            (Style.ws_nil _) (.element (Style.ws_nil _) .falseLit (Style.ws_nil _))))
          (Style.ws_nil _))
        (.membersOne (Style.ws_nil _) (key "k".toList (by decide)) (Style.ws_nil _)
          (.element (Style.ws_nil _) .trueLit (Style.ws_nil _)))))
    (Style.ws_nil _))

end Decoding

section Flags

variable {k : List Char}

/-- The texts the helpers read right for the key `k`: JSON texts of objects with distinct member
names whose member `k` is written as the helpers read it, and in which no other name and no
string value is `k` or ends in a quote and `k`. -/
structure KeyedObjectText (k : List Char) (ms : List (List Char × JsonValue)) (J : List Char) :
    Prop where
  distinct : DistinctKeys ms
  text : KeyedText [k] ms J
  names : ∀ q ∈ ms, ¬ ('"' :: k) <:+ q.1
  clean : ∀ q ∈ ms, ¬ Mentions k q.2

theorem DistinctKeys.value_unique {ms : List (List Char × JsonValue)} (distinct : DistinctKeys ms)
    {v v' : JsonValue} (mem : (k, v) ∈ ms) (mem' : (k, v') ∈ ms) : v = v' := by
  induction ms with
  | nil => cases mem
  | cons q ms ih =>
    rw [DistinctKeys, List.pairwise_cons] at distinct
    rcases List.mem_cons.mp mem with rfl | mem <;> rcases List.mem_cons.mp mem' with same | mem'
    · exact (Prod.mk.inj same).2.symm
    · exact absurd rfl (distinct.1 (k, v') mem')
    · exact absurd (by rw [← same]) (distinct.1 (k, v) mem)
    · exact ih distinct.2 mem mem'

theorem parseBool_true_iff (key : PlainKey k) {ms : List (List Char × JsonValue)} {J : List Char}
    (body : KeyedObjectText k ms J) :
    (httpParseJsonBool J k).getD false = true ↔ (k, .bool true) ∈ ms := by
  by_cases present : ∃ v, (k, v) ∈ ms
  · obtain ⟨v, mem⟩ := present
    obtain ⟨w, vt, after, hw, hv, -, start⟩ := jsonValueStart_key key (List.mem_singleton_self k)
      body.text body.distinct body.names body.clean mem
    by_cases isBool : ∃ b, v = .bool b
    · obtain ⟨b, rfl⟩ := isBool
      simp only [httpParseJsonBool, start, Option.some_bind, readJsonBool_value hw hv,
        Option.getD_some]
      exact ⟨by rintro rfl; exact mem,
        fun mem' => JsonValue.bool.inj (body.distinct.value_unique mem mem')⟩
    · push_neg at isBool
      simp only [httpParseJsonBool, start, Option.some_bind,
        readJsonBool_of_not_bool hw hv isBool, Option.getD_none, Bool.false_eq_true, false_iff]
      exact fun mem' => isBool true (body.distinct.value_unique mem mem')
  · push_neg at present
    have missing := (parse_helpers_of_no_key
      (strstr_absent_key key body.text.serializes present body.names body.clean)).2.1
    simp only [missing, Option.getD_none, Bool.false_eq_true, false_iff]
    exact present _

end Flags

section Quotes

theorem StringText.no_quote {style : Style} {t s : List Char} (h : StringText style t s)
    (noBackslash : '\\' ∉ t) : '"' ∉ t := by
  induction h with
  | nil => exact List.not_mem_nil _
  | cons hc _ ih =>
    simp only [List.mem_append, not_or] at noBackslash ⊢
    refine ⟨?_, ih noBackslash.2⟩
    cases hc with
    | literal quote _ _ => simpa using Ne.symm quote
    | short _ _ | unicode _ _ _ | surrogate _ _ _ _ => simp at noBackslash

/-- A text of the grammar written without backslashes, in a style whose white space holds no
double quote, has an even number of double quotes: each string is opened and closed, and no
other token holds one. -/
theorem Grammar.quote_count_even {style : Style} (wsNoQuote : '"' ∉ style.whitespace)
    {p : Phrase} {t : List Char} (h : Grammar style p t) (noBackslash : '\\' ∉ t) :
    t.count '"' % 2 = 0 := by
  have ws : ∀ {w : List Char}, style.Ws w → w.count '"' = 0 :=
    fun ws => List.count_eq_zero_of_not_mem fun m => wsNoQuote (ws _ m)
  have str : ∀ {kt k : List Char}, StringText style kt k → '\\' ∉ kt → kt.count '"' = 0 :=
    fun h nb => List.count_eq_zero_of_not_mem (h.no_quote nb)
  induction h with
  | nullLit | trueLit | falseLit => decide
  | number hn => rw [List.count_eq_zero_of_not_mem (numberText_quote hn)]
  | string hs => simp [str hs fun m => noBackslash (by simp [m])]
  | emptyArray hw | emptyObject hw => simp [ws hw]
  | array _ ih | object _ _ ih => simpa using ih fun m => noBackslash (by simp [m])
  | element hw₁ _ hw₂ ih => simpa [ws hw₁, ws hw₂] using ih fun m => noBackslash (by simp [m])
  | elementsOne _ ih => exact ih noBackslash
  | elementsCons _ _ ih ihs =>
    have := ih fun m => noBackslash (by simp [m])
    have := ihs fun m => noBackslash (by simp [m])
    simp
    omega
  | membersOne hw₁ hk hw₂ _ ih =>
    have := ih fun m => noBackslash (by simp [m])
    simp [ws hw₁, ws hw₂, str hk fun m => noBackslash (by simp [m])]
    omega
  | membersCons hw₁ hk hw₂ _ _ ih ihs =>
    have := ih fun m => noBackslash (by simp [m])
    have := ihs fun m => noBackslash (by simp [m])
    simp [ws hw₁, ws hw₂, str hk fun m => noBackslash (by simp [m])]
    omega

theorem not_serializes_of_odd_quotes {t : List Char} (noBackslash : '\\' ∉ t)
    (odd : t.count '"' % 2 = 1) (v : JsonValue) : ¬ Serializes .json v t := fun h => by
  have := Grammar.quote_count_even (by decide) h noBackslash
  omega

end Quotes

end GvmAgent
