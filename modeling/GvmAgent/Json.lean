import GvmAgent.CString
import Mathlib.Data.List.Perm.Basic
import Mathlib.Algebra.Order.Field.Rat

set_option autoImplicit false

/-! JSON (RFC 8259) as the agent and the Controller exchange it.

`Grammar style p t` says that the text `t` is a derivation of the phrase `p`. The grammar is
the JSON grammar with the freedom a writer has: any white space between tokens, any member
order, any escape for a string character, any form of a number. A `Style` narrows that
freedom; `Style.json` is the whole grammar. -/

namespace GvmAgent

/-- A JSON value. A number is kept as its exact value. -/
inductive JsonValue where
  | null
  | bool (b : Bool)
  | number (q : ℚ)
  | string (s : List Char)
  | array (items : List JsonValue)
  | object (members : List (List Char × JsonValue))

/-- The choices a serialization is allowed to make. -/
structure Style where
  /-- The characters allowed as insignificant white space. -/
  whitespace : List Char
  /-- Whether a string may use escape sequences. -/
  escapes : Bool
  /-- Whether a number may carry an exponent. -/
  exponents : Bool

/-- The whole JSON grammar. -/
def Style.json : Style := ⟨[' ', '\t', '\n', '\r'], true, true⟩

/-- Texts with spaces and tabs as the only white space, no escape sequences and no
exponents. -/
def Style.plain : Style := ⟨[' ', '\t'], false, false⟩

/-- White space as the style allows it. -/
def Style.Ws (style : Style) (w : List Char) : Prop := ∀ c ∈ w, c ∈ style.whitespace

/-- The letter of a two-character escape `\x`. -/
def shortEscape (c : Char) : Option Char :=
  if c = '"' then some '"' else if c = '\\' then some '\\' else if c = '/' then some '/'
  else if c = '\x08' then some 'b' else if c = '\x0C' then some 'f'
  else if c = '\n' then some 'n' else if c = '\r' then some 'r'
  else if c = '\t' then some 't' else none

/-- The value of a hexadecimal digit. -/
def hexDigit? (c : Char) : Option Nat :=
  if '0' ≤ c ∧ c ≤ '9' then some (c.toNat - '0'.toNat)
  else if 'a' ≤ c ∧ c ≤ 'f' then some (c.toNat - 'a'.toNat + 10)
  else if 'A' ≤ c ∧ c ≤ 'F' then some (c.toNat - 'A'.toNat + 10)
  else none

/-- Four hexadecimal digits, in either case, with value `n`. -/
def Hex4 (h : List Char) (n : Nat) : Prop :=
  ∃ a b c d, h = [a, b, c, d] ∧
    (do pure (((← hexDigit? a) * 16 + (← hexDigit? b)) * 256 +
      (← hexDigit? c) * 16 + (← hexDigit? d))) = some n

/-- How one character may be written inside a JSON string. -/
inductive CharText (style : Style) : Char → List Char → Prop
  | literal {c : Char} : c ≠ '"' → c ≠ '\\' → 0x20 ≤ c.toNat → CharText style c [c]
  | short {c e : Char} : style.escapes → shortEscape c = some e → CharText style c ['\\', e]
  | unicode {c : Char} {h : List Char} : style.escapes → c.toNat < 0x10000 → Hex4 h c.toNat →
      CharText style c ('\\' :: 'u' :: h)
  | surrogate {c : Char} {high low : List Char} : style.escapes → 0x10000 ≤ c.toNat →
      Hex4 high (0xD800 + (c.toNat - 0x10000) / 0x400) →
      Hex4 low (0xDC00 + (c.toNat - 0x10000) % 0x400) →
      CharText style c ('\\' :: 'u' :: high ++ '\\' :: 'u' :: low)

/-- The text between the quotes of a JSON string with content `s`. -/
inductive StringText (style : Style) : List Char → List Char → Prop
  | nil : StringText style [] []
  | cons {c : Char} {ct rest s : List Char} :
      CharText style c ct → StringText style rest s → StringText style (ct ++ rest) (c :: s)

/-- The integer part of a JSON number: `0`, or digits that do not start with `0`. -/
def IntDigits (d : List Char) : Prop :=
  d ≠ [] ∧ (∀ x ∈ d, x.isDigit) ∧ (d.head? = some '0' → d = ['0'])

/-- An exponent part `e`/`E`, an optional sign and digits, with its value. -/
def ExponentText (t : List Char) (e : Int) : Prop :=
  ∃ (marker : Char) (negative : Bool) (sign ds : List Char),
    (marker = 'e' ∨ marker = 'E') ∧
    (sign = [] ∧ negative = false ∨ sign = ['+'] ∧ negative = false ∨
      sign = ['-'] ∧ negative = true) ∧
    ds ≠ [] ∧ (∀ x ∈ ds, x.isDigit) ∧ t = marker :: sign ++ ds ∧
    e = if negative then -(digitsValue ds : Int) else digitsValue ds

/-- A JSON number text with value `q`. -/
def NumberText (style : Style) (t : List Char) (q : ℚ) : Prop :=
  ∃ (negative : Bool) (integral fraction exponent : List Char) (e : Int),
    IntDigits integral ∧ (∀ x ∈ fraction, x.isDigit) ∧
    (exponent = [] ∧ e = 0 ∨ style.exponents ∧ ExponentText exponent e) ∧
    t = (if negative then ['-'] else []) ++ integral ++
      (if fraction = [] then [] else '.' :: fraction) ++ exponent ∧
    q = (if negative then -1 else 1) *
      ((digitsValue integral : ℚ) + digitsValue fraction / 10 ^ fraction.length) * 10 ^ e

/-- The syntactic categories of the grammar. -/
inductive Phrase where
  | value (v : JsonValue)
  | element (v : JsonValue)
  | elements (vs : List JsonValue)
  | members (ms : List (List Char × JsonValue))

/-- The JSON grammar: `Grammar style p t` holds when `t` is a text of the phrase `p`. -/
inductive Grammar (style : Style) : Phrase → List Char → Prop
  | nullLit : Grammar style (.value .null) "null".toList
  | trueLit : Grammar style (.value (.bool true)) "true".toList
  | falseLit : Grammar style (.value (.bool false)) "false".toList
  | number {q : ℚ} {t : List Char} : NumberText style t q → Grammar style (.value (.number q)) t
  | string {s t : List Char} : StringText style t s →
      Grammar style (.value (.string s)) ('"' :: t ++ ['"'])
  | emptyArray {w : List Char} : style.Ws w → Grammar style (.value (.array [])) ('[' :: w ++ [']'])
  | array {vs : List JsonValue} {t : List Char} : Grammar style (.elements vs) t →
      Grammar style (.value (.array vs)) ('[' :: t ++ [']'])
  | emptyObject {w : List Char} : style.Ws w →
      Grammar style (.value (.object [])) ('{' :: w ++ ['}'])
  | object {ms order : List (List Char × JsonValue)} {t : List Char} : order.Perm ms →
      Grammar style (.members order) t → Grammar style (.value (.object ms)) ('{' :: t ++ ['}'])
  | element {v : JsonValue} {w₁ t w₂ : List Char} : style.Ws w₁ → Grammar style (.value v) t →
      style.Ws w₂ → Grammar style (.element v) (w₁ ++ t ++ w₂)
  | elementsOne {v : JsonValue} {t : List Char} : Grammar style (.element v) t →
      Grammar style (.elements [v]) t
  | elementsCons {v : JsonValue} {vs : List JsonValue} {t ts : List Char} :
      Grammar style (.element v) t → Grammar style (.elements vs) ts →
      Grammar style (.elements (v :: vs)) (t ++ ',' :: ts)
  | membersOne {k kt w₁ w₂ t : List Char} {v : JsonValue} : style.Ws w₁ → StringText style kt k →
      style.Ws w₂ → Grammar style (.element v) t →
      Grammar style (.members [(k, v)]) (w₁ ++ '"' :: kt ++ '"' :: w₂ ++ ':' :: t)
  | membersCons {k kt w₁ w₂ t ts : List Char} {v : JsonValue} {ms : List (List Char × JsonValue)} :
      style.Ws w₁ → StringText style kt k → style.Ws w₂ → Grammar style (.element v) t →
      Grammar style (.members ms) ts →
      Grammar style (.members ((k, v) :: ms)) (w₁ ++ '"' :: kt ++ '"' :: w₂ ++ ':' :: t ++ ',' :: ts)

/-- `text` is a JSON text (an element: a value between white space) for `v`. -/
def Serializes (style : Style) (v : JsonValue) (text : List Char) : Prop :=
  Grammar style (.element v) text

/-- A string in which `strstr` meets the needle `"k"`: `k` itself, or a string that ends in a
double quote and `k`, which a text writes `\"k` right before its closing quote. -/
def KeyLike (k s : List Char) : Prop := s = k ∨ ('"' :: k) <:+ s

instance (k s : List Char) : Decidable (KeyLike k s) :=
  inferInstanceAs (Decidable (s = k ∨ ('"' :: k) <:+ s))

/-- `k` can be met in `v`: as a string value or a member name that is `KeyLike`, at any
depth. -/
inductive Mentions (k : List Char) : JsonValue → Prop
  | string {s : List Char} : KeyLike k s → Mentions k (.string s)
  | item {v : JsonValue} {vs : List JsonValue} : v ∈ vs → Mentions k v → Mentions k (.array vs)
  | key {k' : List Char} {v : JsonValue} {ms : List (List Char × JsonValue)} : (k', v) ∈ ms →
      KeyLike k k' → Mentions k (.object ms)
  | member {k' : List Char} {v : JsonValue} {ms : List (List Char × JsonValue)} : (k', v) ∈ ms →
      Mentions k v → Mentions k (.object ms)

/-- Member names are pairwise distinct. -/
def DistinctKeys (ms : List (List Char × JsonValue)) : Prop := ms.Pairwise (·.1 ≠ ·.1)

theorem Grammar.cast {style : Style} {p : Phrase} {t t' : List Char} (same : t = t')
    (h : Grammar style p t) : Grammar style p t' := same ▸ h

/-- `style'` allows whatever `style` allows. -/
structure Style.Le (style style' : Style) : Prop where
  whitespace : ∀ c ∈ style.whitespace, c ∈ style'.whitespace
  escapes : style.escapes → style'.escapes
  exponents : style.exponents → style'.exponents

theorem Style.plain_le_json : Style.plain.Le .json :=
  ⟨by decide, fun _ => rfl, fun _ => rfl⟩

section Mono

variable {style style' : Style} (le : style.Le style')
include le

theorem Style.Ws.mono {w : List Char} (ws : style.Ws w) : style'.Ws w :=
  fun c mem => le.whitespace c (ws c mem)

theorem CharText.mono {c : Char} {ct : List Char} (h : CharText style c ct) : CharText style' c ct := by
  cases h with
  | literal quote backslash printable => exact .literal quote backslash printable
  | short escapes e => exact .short (le.escapes escapes) e
  | unicode escapes small hex => exact .unicode (le.escapes escapes) small hex
  | surrogate escapes large high low => exact .surrogate (le.escapes escapes) large high low

theorem StringText.mono {t s : List Char} (h : StringText style t s) : StringText style' t s := by
  induction h with
  | nil => exact .nil
  | cons hc _ ih => exact .cons (hc.mono le) ih

theorem NumberText.mono {t : List Char} {q : ℚ} (h : NumberText style t q) : NumberText style' t q := by
  obtain ⟨negative, integral, fraction, exponent, e, hi, hf, he, ht, hq⟩ := h
  exact ⟨negative, integral, fraction, exponent, e, hi, hf,
    he.imp id fun ⟨exponents, text⟩ => ⟨le.exponents exponents, text⟩, ht, hq⟩

theorem Grammar.mono {p : Phrase} {t : List Char} (h : Grammar style p t) : Grammar style' p t := by
  induction h with
  | nullLit => exact .nullLit
  | trueLit => exact .trueLit
  | falseLit => exact .falseLit
  | number hn => exact .number (hn.mono le)
  | string hs => exact .string (hs.mono le)
  | emptyArray ws => exact .emptyArray (ws.mono le)
  | array _ ih => exact .array ih
  | emptyObject ws => exact .emptyObject (ws.mono le)
  | object perm _ ih => exact .object perm ih
  | element ws₁ _ ws₂ ih => exact .element (ws₁.mono le) ih (ws₂.mono le)
  | elementsOne _ ih => exact .elementsOne ih
  | elementsCons _ _ ih ihs => exact .elementsCons ih ihs
  | membersOne ws₁ hk ws₂ _ ih => exact .membersOne (ws₁.mono le) (hk.mono le) (ws₂.mono le) ih
  | membersCons ws₁ hk ws₂ _ _ ih ihs =>
    exact .membersCons (ws₁.mono le) (hk.mono le) (ws₂.mono le) ih ihs

end Mono

end GvmAgent
