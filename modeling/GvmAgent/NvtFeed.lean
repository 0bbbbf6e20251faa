import GvmAgent.CFloat
import GvmAgent.Config
import GvmAgent.Json

set_option autoImplicit false

/-! `nvt_feed.c`: reading NVT metadata out of `.nasl` files, the recursive scan of the feed
directory, the rebuild of the `nvts` cache table and the lookup by OID.

The feed is seen through `opendir`, `readdir`, `stat` and `fopen`, path by path; a symbolic
link is seen through, as `stat` follows it. The `nvts` table is a list of rows whose primary
key is `oid`. `cvss_base` is the `float` that `atof`'s `double` rounds to, and the table holds
what SQLite reads back of it. -/

namespace GvmAgent

/-- `nvt_record_t`, as a row of `nvts` holds it. -/
structure NvtRecord where
  oid : List Char
  name : List Char
  family : List Char
  filename : List Char
  version : List Char
  cvssBase : CFloat
  lastModification : Int
  dependencies : List Char
  deriving DecidableEq

/-- The exponent `strtod` reads after a mantissa: the letter `mark` in either case (`e` after
decimal digits, `p` after hexadecimal ones), a sign, at least one decimal digit. -/
def strtodExponent (mark : Char) : List Char → Int
  | c :: rest =>
    if c.toLower = mark then
      let (negative, digits) := splitSign rest
      let ds := digits.takeWhile Char.isDigit
      if ds = [] then 0 else if negative then -(digitsValue ds : Int) else digitsValue ds
    else 0
  | [] => 0

/-- A hexadecimal digit. -/
def isHexDigit (c : Char) : Bool := (hexDigit? c).isSome

/-- The value of a run of hexadecimal digits. -/
def hexDigitsValue (digits : List Char) : Nat := digits.foldl (fun acc c => 16 * acc + (hexDigit? c).getD 0) 0

/-- A decimal mantissa with at least one digit, and its exponent, as `n · 10^e`. -/
def decimalFloat (rest : List Char) : Option (Nat × Int) :=
  let integral := rest.takeWhile Char.isDigit
  let (fraction, tail) := match rest.dropWhile Char.isDigit with
    | '.' :: r => (r.takeWhile Char.isDigit, r.dropWhile Char.isDigit)
    | r => ([], r)
  if integral = [] ∧ fraction = [] then none
  else some (digitsValue (integral ++ fraction), strtodExponent 'e' tail - fraction.length)

/-- A mantissa `0x…` with at least one hexadecimal digit, and its binary exponent, as
`n · 2^e`. -/
def hexFloat : List Char → Option (Nat × Int)
  | '0' :: x :: r =>
    if x = 'x' ∨ x = 'X' then
      let integral := r.takeWhile isHexDigit
      let (fraction, tail) := match r.dropWhile isHexDigit with
        | '.' :: t => (t.takeWhile isHexDigit, t.dropWhile isHexDigit)
        | t => ([], t)
      if integral = [] ∧ fraction = [] then none
      else some (hexDigitsValue (integral ++ fraction), strtodExponent 'p' tail - 4 * fraction.length)
    else none
  | _ => none

/-- `atof`, that is `strtod (s, NULL)`: after blanks and a sign, an infinity, a NaN, a
hexadecimal or a decimal number rounded to a `double`; `0.0` when nothing converts. -/
def atof (s : List Char) : CFloat :=
  let (negative, rest) := splitSign (s.dropWhile isSpace)
  let lower := rest.map Char.toLower
  if "inf".toList.isPrefixOf lower then .infinite negative
  else if "nan".toList.isPrefixOf lower then .nan negative
  else match hexFloat rest, decimalFloat rest with
    | some (n, e), _ => binary64.roundPow2 negative n e
    | none, some (n, e) =>
      if 0 ≤ e then binary64.round negative (n * 10 ^ e.toNat) 1
      else binary64.round negative n (10 ^ (-e).toNat)
    | none, none => .zero

set_option maxRecDepth 4096 in
example : (atof "0.35".toList).toFloat32 = .finite false 11744051 (-25) ∧
    (atof " -1e39".toList).toFloat32 = .infinite true ∧ atof "0x1.8p1".toList = .finite false 3 0 := by
  decide

/-- What `parse_nasl_file` has gathered so far; a `char *` field is `none` while NULL. -/
structure NaslMeta where
  oid : Option (List Char)
  name : Option (List Char)
  family : Option (List Char)
  cvssBase : CFloat
  foundOid : Bool
  deriving DecidableEq

/-- The zeroed `nvt_record_t` `scan_directory` hands to `parse_nasl_file`. -/
def NaslMeta.empty : NaslMeta := ⟨none, none, none, .zero, false⟩

/-- The text between the first two double quotes of `line`, and what is left of the line once
`*end = '\0'` has cut it at the second. -/
def quotedArgument (line : List Char) : Option (List Char × List Char) := do
  let start ← strchr line '"'
  let _ ← strchr start.tail '"'
  let value := start.tail.takeWhile (· != '"')
  pure (value, line.takeWhile (· != '"') ++ '"' :: value)

/-- One of the `if (strstr (line, "script_…("))` blocks that extract a quoted argument. -/
def extractArgument (marker line : List Char) : Option (List Char × List Char) :=
  if (strstr line marker).isSome then quotedArgument line else none

/-- The `if (strstr (line, "script_cvss_base("))` block: `atof` of what follows the line's
first double quote, stored in the `float` field. -/
def readCvssBase (meta : NaslMeta) (line : List Char) : NaslMeta :=
  if (strstr line "script_cvss_base(".toList).isSome then
    match strchr line '"' with
    | some start => { meta with cvssBase := (atof start.tail).toFloat32 }
    | none => meta
  else meta

/-- The body of the `fgets` loop of `parse_nasl_file`: the four blocks in order, each on the
line as the blocks before it left it. -/
def parseNaslLine (meta : NaslMeta) (chunk : List Char) : NaslMeta :=
  let line := cString chunk
  let (meta, line) := match extractArgument "script_oid(".toList line with
    | some (oid, cut) => ({ meta with oid := some oid, foundOid := true }, cut)
    | none => (meta, line)
  let (meta, line) := match extractArgument "script_name(".toList line with
    | some (name, cut) => ({ meta with name := some name }, cut)
    | none => (meta, line)
  let (meta, line) := match extractArgument "script_family(".toList line with
    | some (family, cut) => ({ meta with family := some family }, cut)
    | none => (meta, line)
  readCvssBase meta line

/-- `parse_nasl_file` on the file's contents (`none` when `fopen` fails): what it gathered,
when it returns true. -/
def parseNaslFile (file : Option (List Char)) : Option NaslMeta :=
  file.bind fun text =>
    let meta := (fgetsLines 512 text).foldl parseNaslLine NaslMeta.empty
    if meta.foundOid then some meta else none

/-- The row `scan_directory` binds: `parse_nasl_file` sets the file name, the version, the
modification time and the dependencies; a missing name or family is bound as `Unknown`, and
`cvss_base` is held as the column reads it back. -/
def nvtRow (meta : NaslMeta) (filepath : List Char) (now : Int) : NvtRecord where
  oid := meta.oid.getD []
  name := meta.name.getD "Unknown".toList
  family := meta.family.getD "Unknown".toList
  filename := filepath
  version := "unknown".toList
  cvssBase := sqliteReal meta.cvssBase
  lastModification := now
  dependencies := []

/-- `INSERT INTO nvts`: the primary key rejects a second row with the same OID. -/
def nvtsInsert (table : List NvtRecord) (row : NvtRecord) : Option (List NvtRecord) :=
  if table.any (·.oid == row.oid) then none else some (table ++ [row])

/-- What `stat` reports. -/
inductive FileKind where
  | directory
  | regular
  | other
  deriving DecidableEq, Repr

/-- The feed directory as the scan sees it, path by path. -/
structure FeedFs where
  /-- What `readdir` lists. -/
  entries : List Char → List (List Char)
  /-- Whether `opendir` succeeds. -/
  readable : List Char → Bool
  /-- What `stat` reports; `none` when it fails. -/
  kind : List Char → Option FileKind
  /-- What `fopen` and `fgets` read; `none` when `fopen` fails. -/
  contents : List Char → Option (List Char)

/-- `name` ends in `.nasl` and is longer than that. -/
def isNaslName (name : List Char) : Bool :=
  5 < name.length && name.drop (name.length - 5) == ".nasl".toList

/-- `scan_directory` with `fuel` levels of nested calls (`none` when they run out): the table
and the `*count` it leaves. -/
def scanDirectory (fs : FeedFs) (now : Int) :
    Nat → List Char → List NvtRecord × Nat → Option (List NvtRecord × Nat)
  | 0, _, _ => none
  | fuel + 1, dirPath, acc =>
    if !fs.readable dirPath then some acc
    else (fs.entries dirPath).foldlM (fun (acc : List NvtRecord × Nat) name =>
      if name = ".".toList ∨ name = "..".toList then some acc
      else
        let fullPath := snprintf 1024 (dirPath ++ '/' :: name)
        match fs.kind fullPath with
        | some .directory => scanDirectory fs now fuel fullPath acc
        | some .regular =>
          if isNaslName name then
            match parseNaslFile (fs.contents fullPath) with
            | some meta =>
              match nvtsInsert acc.1 (nvtRow meta fullPath now) with
              | some table => some (table, acc.2 + 1)
              | none => some acc
            | none => some acc
          else some acc
        | _ => some acc) acc

/-- `nvt_feed_rebuild_cache` on the table `db` (`none` while the database is not open): what
it returns and the table it leaves. `prepared` says whether `sqlite3_prepare_v2` succeeds;
when it fails the transaction is rolled back. -/
def nvtFeedRebuildCache (db : Option (List NvtRecord)) (prepared : Bool) (fs : FeedFs)
    (now : Int) (fuel : Nat) (feedDir : List Char) : Option (Int × Option (List NvtRecord)) :=
  match db with
  | none => some (-1, none)
  | some table =>
    if !prepared then some (-1, some table)
    else (scanDirectory fs now fuel feedDir ([], 0)).map fun scanned => (scanned.2, some scanned.1)

/-- `nvt_feed_verify_signature`: whether `stat` finds `<feed_dir>/sha256sums.asc`, whatever the
file holds; the keyring argument is not read. -/
def nvtFeedVerifySignature (fs : FeedFs) (feedDir : List Char) : Bool :=
  (fs.kind (snprintf 1024 (feedDir ++ "/sha256sums.asc".toList))).isSome

/-- `nvt_feed_lookup_by_oid`. -/
def nvtFeedLookupByOid (db : Option (List NvtRecord)) (oid : List Char) : Option NvtRecord :=
  db.bind (·.find? (·.oid == oid))

/-- A feed whose one subdirectory cannot be opened; it holds one script. -/
def unreadableFeed : FeedFs where
  entries path := if path = "feed".toList then ["sub".toList]
    else if path = "feed/sub".toList then ["x.nasl".toList] else []
  readable path := path != "feed/sub".toList
  kind path := if path = "feed/sub".toList then some .directory
    else if path = "feed/sub/x.nasl".toList then some .regular else none
  contents path := if path = "feed/sub/x.nasl".toList then
      some "script_oid(\"1.3.6.1.4.1.25623.1.0.10662\");\n".toList
    else none

/-- The scan passes over a subdirectory it cannot open without a word: the rebuild reports
success with 0 NVTs and commits an empty table in place of the old one, although the feed
holds a script with an OID under that subdirectory. -/
theorem nvt_feed_rebuild_skips_unreadable (table : List NvtRecord) (now : Int) (fuel : Nat) :
    nvtFeedRebuildCache (some table) true unreadableFeed now (fuel + 2) "feed".toList =
      some (0, some []) ∧
    "sub".toList ∈ unreadableFeed.entries "feed".toList ∧
    unreadableFeed.kind "feed/sub".toList = some .directory ∧
    "x.nasl".toList ∈ unreadableFeed.entries "feed/sub".toList ∧
    unreadableFeed.kind "feed/sub/x.nasl".toList = some .regular ∧
    (parseNaslFile (unreadableFeed.contents "feed/sub/x.nasl".toList)).bind (·.oid) =
      some "1.3.6.1.4.1.25623.1.0.10662".toList :=
  ⟨by rfl, by decide, by decide, by decide, by decide, by rfl⟩

end GvmAgent
