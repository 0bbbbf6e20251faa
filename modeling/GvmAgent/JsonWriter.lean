import GvmAgent.JsonExtract
import Mathlib.Data.Nat.Digits

set_option autoImplicit false

/-! What the agent's `snprintf` templates write, read in the JSON grammar.

A template puts each string between quotes as it is, so what it writes is a JSON string when
the string holds no quote, no backslash and no control character (`JsonLiteral`). Numbers
come from `%d` and `%.1f`, whose digits are those `Nat.toDigits 10` writes. Members and items
are written one after the other with a separator; the two lemmas of the last section read
such texts as the members of an object and the items of an array. -/

namespace GvmAgent

/-- A string a template can put between quotes as it is. -/
def JsonLiteral (s : List Char) : Prop := ∀ c ∈ s, c ≠ '"' ∧ c ≠ '\\' ∧ 0x20 ≤ c.toNat

instance (s : List Char) : Decidable (JsonLiteral s) :=
  inferInstanceAs (Decidable (∀ c ∈ s, c ≠ '"' ∧ c ≠ '\\' ∧ 0x20 ≤ c.toNat))

theorem JsonLiteral.append {s t : List Char} (hs : JsonLiteral s) (ht : JsonLiteral t) :
    JsonLiteral (s ++ t) := fun c mem => (List.mem_append.mp mem).elim (hs c) (ht c)

theorem Grammar.literal (style : Style) {s : List Char} (plain : JsonLiteral s) :
    Grammar style (.value (.string s)) ('"' :: s ++ ['"']) :=
  .string (StringText.ofLiteral style plain)

section Digits

theorem digitChar_digit : ∀ d < 10,
    (Nat.digitChar d).isDigit ∧ (Nat.digitChar d).toNat - '0'.toNat = d ∧
      (Nat.digitChar d = '0' → d = 0) := by
  decide

theorem toDigitsCore_ten : ∀ (fuel n : Nat) (ds : List Char), n < fuel →
    ∃ pre, Nat.toDigitsCore 10 fuel n ds = pre ++ ds ∧ IntDigits pre ∧ digitsValue pre = n
  | 0, _, _, small => absurd small (Nat.not_lt_zero _)
  | fuel + 1, n, ds, small => by
    obtain ⟨digit, value, zero⟩ := digitChar_digit (n % 10) (Nat.mod_lt n (by decide))
    rw [Nat.toDigitsCore]
    split_ifs with last
    · refine ⟨[Nat.digitChar (n % 10)], rfl, ⟨List.cons_ne_nil _ _, by simpa using digit,
        fun head => by rw [Option.some_inj.mp head]⟩, ?_⟩
      simp only [digitsValue, List.foldl_cons, List.foldl_nil, digitStep, value]
      omega
    · obtain ⟨pre, eq, ⟨nonempty, digits, lead⟩, prefixValue⟩ :=
        toDigitsCore_ten fuel (n / 10) (Nat.digitChar (n % 10) :: ds) (by omega)
      refine ⟨pre ++ [Nat.digitChar (n % 10)], by rw [eq, List.append_assoc, List.singleton_append],
        ⟨List.append_ne_nil_of_left_ne_nil nonempty _, ?_, fun head => ?_⟩, ?_⟩
      · simpa [or_imp, forall_and] using ⟨digits, digit⟩
      · rw [List.head?_append_of_ne_nil _ nonempty] at head
        rw [lead head] at prefixValue
        exact absurd prefixValue.symm last
      · rw [digitsValue, List.foldl_append, List.foldl_cons, List.foldl_nil, ← digitsValue, prefixValue,
          digitStep, value]
        omega

theorem repr_intDigits (n : Nat) :
    IntDigits (Nat.repr n).toList ∧ digitsValue (Nat.repr n).toList = n := by
  obtain ⟨pre, eq, digits, value⟩ := toDigitsCore_ten (n + 1) n [] (Nat.lt_succ_self n)
  have written : (Nat.repr n).toList = pre := eq.trans (List.append_nil pre)
  exact written ▸ ⟨digits, value⟩

theorem repr_of_lt_ten {d : Nat} (small : d < 10) : (Nat.repr d).toList = [Nat.digitChar d] := by
  show Nat.toDigitsCore 10 (d + 1) d [] = _
  rw [Nat.toDigitsCore, if_pos (Nat.div_eq_of_lt small), Nat.mod_eq_of_lt small]

theorem NumberText.ofNat (style : Style) (n : Nat) : NumberText style (Nat.repr n).toList n := by
  refine ⟨false, _, [], [], 0, (repr_intDigits n).1, by simp, .inl ⟨rfl, rfl⟩, by simp, ?_⟩
  rw [(repr_intDigits n).2]
  simp [digitsValue]

theorem NumberText.ofInt (style : Style) (z : Int) : NumberText style (Int.repr z).toList z := by
  cases z with
  | ofNat n => exact NumberText.ofNat style n
  | negSucc n =>
    refine ⟨true, (Nat.repr (n + 1)).toList, [], [], 0, (repr_intDigits _).1, by simp, .inl ⟨rfl, rfl⟩,
      show '-' :: (Nat.repr (n + 1)).toList = _ by simp, ?_⟩
    rw [(repr_intDigits _).2]
    simp [digitsValue, Int.negSucc_eq]

theorem NumberText.ofTenths (style : Style) (negative : Prop) [Decidable negative] (whole : Nat)
    {tenth : Nat} (small : tenth < 10) :
    NumberText style ((if negative then ['-'] else []) ++ (Nat.repr whole).toList ++
        '.' :: (Nat.repr tenth).toList)
      ((if negative then -1 else 1) * ((10 * whole + tenth : Nat) / 10 : ℚ)) := by
  have fraction := repr_of_lt_ten small
  have digit := digitChar_digit tenth small
  refine ⟨decide negative, _, [Nat.digitChar tenth], [], 0, (repr_intDigits whole).1,
    by simpa using digit.1, .inl ⟨rfl, rfl⟩,
    by rw [fraction, if_neg (List.cons_ne_nil _ _), List.append_nil]; simp only [decide_eq_true_eq], ?_⟩
  rw [(repr_intDigits whole).2]
  simp only [decide_eq_true_eq, digitsValue, List.foldl_cons, List.foldl_nil, digitStep, digit.2.1, List.length_singleton,
    zpow_zero, mul_one]
  push_cast
  ring

end Digits

section Sequences

variable {style : Style}

theorem Grammar.elements_intercalate {lead : List Char} (wsLead : style.Ws lead) :
    ∀ {items : List (JsonValue × List Char)} {w : List Char}, items ≠ [] → style.Ws w →
      (∀ item ∈ items, Grammar style (.value item.1) item.2) →
      Grammar style (.elements (items.map (·.1)))
        (w ++ List.intercalate (',' :: lead) (items.map (·.2)))
  | [], _, nonempty, _, _ => absurd rfl nonempty
  | [item], w, _, ws, each =>
    Grammar.cast (by rw [List.map_singleton, intercalate_singleton, List.append_nil])
      (.elementsOne (.element ws (each item (List.mem_singleton_self _)) (Style.ws_nil _)))
  | item :: next :: rest, w, _, ws, each =>
    Grammar.cast (by simp only [List.map_cons, intercalate_cons_cons, List.append_assoc, List.append_nil,
        List.cons_append])
      (.elementsCons (.element ws (each item (List.mem_cons_self _ _)) (Style.ws_nil _))
        (Grammar.elements_intercalate wsLead (List.cons_ne_nil next rest) wsLead
          fun i mem => each i (List.mem_cons_of_mem _ mem)))

/-- How a template writes a member: the name between quotes, a colon, `gap` and the value. -/
def memberText (gap : List Char) (m : List Char × JsonValue × List Char) : List Char :=
  '"' :: m.1 ++ '"' :: ':' :: gap ++ m.2.2

theorem Grammar.members_intercalate {lead gap : List Char} (wsLead : style.Ws lead)
    (wsGap : style.Ws gap) :
    ∀ {ms : List (List Char × JsonValue × List Char)} {w : List Char}, ms ≠ [] → style.Ws w →
      (∀ m ∈ ms, JsonLiteral m.1 ∧ Grammar style (.value m.2.1) m.2.2) →
      Grammar style (.members (ms.map fun m => (m.1, m.2.1)))
        (w ++ List.intercalate (',' :: lead) (ms.map (memberText gap)))
  | [], _, nonempty, _, _ => absurd rfl nonempty
  | [m], w, _, ws, each =>
    have ⟨key, value⟩ := each m (List.mem_singleton_self _)
    Grammar.cast (by simp [List.intercalate, memberText])
      (.membersOne ws (StringText.ofLiteral style key) (Style.ws_nil _)
        (.element wsGap value (Style.ws_nil _)))
  | m :: next :: rest, w, _, ws, each =>
    have ⟨key, value⟩ := each m (List.mem_cons_self _ _)
    Grammar.cast (by simp only [List.map_cons, intercalate_cons_cons, memberText, List.append_assoc,
        List.append_nil, List.cons_append, List.nil_append])
      (.membersCons ws (StringText.ofLiteral style key) (Style.ws_nil _)
        (.element wsGap value (Style.ws_nil _))
        (Grammar.members_intercalate wsLead wsGap (List.cons_ne_nil next rest) wsLead
          fun i mem => each i (List.mem_cons_of_mem _ mem)))

theorem Grammar.object_intercalate {lead gap : List Char} (wsLead : style.Ws lead)
    (wsGap : style.Ws gap) {ms : List (List Char × JsonValue × List Char)} (nonempty : ms ≠ [])
    (each : ∀ m ∈ ms, JsonLiteral m.1 ∧ Grammar style (.value m.2.1) m.2.2) :
    Grammar style (.value (.object (ms.map fun m => (m.1, m.2.1))))
      ('{' :: List.intercalate (',' :: lead) (ms.map (memberText gap)) ++ ['}']) :=
  .object (List.Perm.refl _) (Grammar.members_intercalate wsLead wsGap nonempty (Style.ws_nil _) each)

theorem Grammar.array_intercalate {lead : List Char} (wsLead : style.Ws lead)
    {items : List (JsonValue × List Char)}
    (each : ∀ item ∈ items, Grammar style (.value item.1) item.2) :
    Grammar style (.value (.array (items.map (·.1))))
      ('[' :: List.intercalate (',' :: lead) (items.map (·.2)) ++ [']']) := by
  cases items with
  | nil => exact .emptyArray (Style.ws_nil _)
  | cons item rest =>
    exact .array (Grammar.elements_intercalate wsLead (List.cons_ne_nil _ _) (Style.ws_nil _) each)

end Sequences

end GvmAgent
