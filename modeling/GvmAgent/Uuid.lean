import GvmAgent.Agent
import GvmAgent.JsonWriter

set_option autoImplicit false

/-! The text form of the agent's identity.

`utils_generate_uuid` hands the sixteen bytes `uuid_generate_random` draws, with the version
and variant bits set, to `uuid_unparse_lower`: two lowercase hex digits a byte, high half first,
in groups of 4, 2, 2, 2 and 6 bytes joined by dashes. Read back with the dashes dropped, the
text gives the sixteen bytes again, so two agents share an identity only when their draws agree
on every bit the generator does not fix. Its version digit is `4`, its variant digit one of `8`,
`9`, `a` and `b`, and it is a JSON string literal as it stands. -/

namespace GvmAgent

/-- The two digits `uuid_unparse_lower` writes for a byte, high half first. -/
def hexPair (byte : UInt8) : List Char :=
  [Nat.digitChar (byte.toNat / 16), Nat.digitChar (byte.toNat % 16)]

/-- The value of a lowercase hex digit. -/
def hexValue (c : Char) : Option Nat := (List.range 16).find? (Nat.digitChar · = c)

/-- The bytes a run of hex digits stands for, two digits a byte. -/
def hexBytes : List Char → Option (List UInt8)
  | [] => some []
  | [_] => none
  | high :: low :: rest => do
    let h ← hexValue high
    let l ← hexValue low
    let bytes ← hexBytes rest
    pure (UInt8.ofNat (16 * h + l) :: bytes)

/-- The bytes a UUID's text stands for: its digits, read two at a time, dashes dropped. -/
def uuidTextBytes (text : List Char) : Option (List UInt8) := hexBytes (text.filter (· != '-'))

section Digits

theorem digitChar_hex : ∀ n < 16, hexValue (Nat.digitChar n) = some n ∧ Nat.digitChar n ≠ '-' ∧
    JsonLiteral [Nat.digitChar n] := by
  decide

theorem hexPair_lt (byte : UInt8) : byte.toNat / 16 < 16 ∧ byte.toNat % 16 < 16 := by
  have := UInt8.toNat_lt_size byte
  simp only [UInt8.size] at this
  omega

theorem ofNat_halves (byte : UInt8) : UInt8.ofNat (16 * (byte.toNat / 16) + byte.toNat % 16) = byte := by
  apply UInt8.toNat.inj
  rw [Nat.div_add_mod, UInt8.toNat_ofNat_of_lt (UInt8.toNat_lt_size byte)]

theorem filter_hexPair (byte : UInt8) : (hexPair byte).filter (· != '-') = hexPair byte := by
  simp [hexPair, (digitChar_hex _ (hexPair_lt byte).1).2.1, (digitChar_hex _ (hexPair_lt byte).2).2.1]

theorem hexPair_literal (byte : UInt8) : JsonLiteral (hexPair byte) :=
  (digitChar_hex _ (hexPair_lt byte).1).2.2.append (digitChar_hex _ (hexPair_lt byte).2).2.2

theorem hexBytes_flatMap_hexPair : ∀ bytes : List UInt8, hexBytes (bytes.flatMap hexPair) = some bytes
  | [] => rfl
  | byte :: bytes => by
    rw [List.flatMap_cons, hexPair, List.cons_append, List.singleton_append, hexBytes,
      (digitChar_hex _ (hexPair_lt byte).1).1, (digitChar_hex _ (hexPair_lt byte).2).1,
      hexBytes_flatMap_hexPair bytes]
    exact congrArg (some <| · :: bytes) (ofNat_halves byte)

end Digits

section Text

theorem uuidUnparseLower_eq (uuid : Fin 16 → UInt8) :
    uuidUnparseLower uuid = (List.finRange 16).flatMap fun i =>
      (if i.val ∈ [4, 6, 8, 10] then ['-'] else []) ++ hexPair (uuid i) := rfl

theorem uuidTextBytes_unparse (uuid : Fin 16 → UInt8) :
    uuidTextBytes (uuidUnparseLower uuid) = some (List.ofFn uuid) := by
  have digits : (uuidUnparseLower uuid).filter (· != '-') = (List.ofFn uuid).flatMap hexPair := by
    rw [uuidUnparseLower_eq, List.filter_flatMap, List.ofFn_eq_map, List.flatMap_map]
    congr 1
    funext i
    rw [List.filter_append, filter_hexPair]
    split_ifs <;> rfl
  rw [uuidTextBytes, digits, hexBytes_flatMap_hexPair]

theorem uuidUnparseLower_literal (uuid : Fin 16 → UInt8) : JsonLiteral (uuidUnparseLower uuid) := by
  intro c mem
  obtain ⟨i, -, mem⟩ := List.mem_flatMap.mp mem
  rcases List.mem_append.mp mem with dash | digit
  · split_ifs at dash
    · rw [List.mem_singleton.mp dash]
      decide
    · cases dash
  · exact hexPair_literal (uuid i) c digit

set_option maxRecDepth 4096 in
theorem version_half (byte : UInt8) : ((byte &&& 0x0F) ||| 0x40).toNat / 16 = 4 := by
  cases byte with
  | mk byte =>
    cases byte with
    | ofFin byte =>
      revert byte
      decide

set_option maxRecDepth 4096 in
theorem variant_half (byte : UInt8) : ((byte &&& 0x3F) ||| 0x80).toNat / 16 ∈ [8, 9, 10, 11] := by
  cases byte with
  | mk byte =>
    cases byte with
    | ofFin byte =>
      revert byte
      decide

/-- Every identity `utils_generate_uuid` writes is the canonical text of a version 4, variant 1
UUID: it reads back as exactly the bytes drawn, with the version and variant bits set, so two
draws give the same text only when they agree on every other bit; its version digit is `4`, its
variant digit one of `8`, `9`, `a`, `b`; and it is a JSON string literal as it stands. -/
theorem utils_generate_uuid_canonical (random : Fin 16 → UInt8) :
    uuidTextBytes (utilsGenerateUuid random) = some (List.ofFn (uuidGenerateRandom random)) ∧
      (utilsGenerateUuid random).length = 36 ∧ (utilsGenerateUuid random)[14]? = some '4' ∧
      (utilsGenerateUuid random)[19]? ∈ ['8', '9', 'a', 'b'].map some ∧
      JsonLiteral (utilsGenerateUuid random) := by
  have version : (utilsGenerateUuid random)[14]? =
      some (Nat.digitChar ((uuidGenerateRandom random 6).toNat / 16)) := rfl
  have variant : (utilsGenerateUuid random)[19]? =
      some (Nat.digitChar ((uuidGenerateRandom random 8).toNat / 16)) := rfl
  refine ⟨uuidTextBytes_unparse _, rfl, ?_, ?_, uuidUnparseLower_literal _⟩
  · rw [version, show uuidGenerateRandom random 6 = (random 6 &&& 0x0F) ||| 0x40 from rfl, version_half]
    rfl
  · have digits : ∀ n ∈ [8, 9, 10, 11], some (Nat.digitChar n) ∈ ['8', '9', 'a', 'b'].map some := by
      decide
    rw [variant, show uuidGenerateRandom random 8 = (random 8 &&& 0x3F) ||| 0x80 from rfl]
    exact digits _ (variant_half (random 8))

end Text

end GvmAgent
