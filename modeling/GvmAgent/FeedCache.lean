import GvmAgent.NvtFeed
import Mathlib.Data.List.Nodup

set_option autoImplicit false

/-! What `nvt_feed_rebuild_cache` commits to the `nvts` table, read against the feed.

`scan_directory` interleaves a walk of the feed with the inserts into the table. Taken apart,
the walk lists the scripts `parse_nasl_file` accepts, in the order the scan meets them
(`feedScripts`), and the inserts fold that list into the emptied table (`insertScript`),
where the primary key on `oid` keeps the first script of each OID. The rebuild is the walk
followed by the fold; the fold counts exactly the rows it commits, keeps the OIDs pairwise
distinct, and a lookup by OID then finds the first script the walk met with it. -/

namespace GvmAgent

/-- The scripts `scan_directory` parses under `dirPath`, in the order it meets them, each with
its path and what `parse_nasl_file` read; `none` when the nesting runs past `fuel`. -/
def feedScripts (fs : FeedFs) : Nat → List Char → Option (List (List Char × NaslMeta))
  | 0, _ => none
  | fuel + 1, dirPath =>
    if !fs.readable dirPath then some []
    else (fs.entries dirPath).foldlM (fun (scripts : List (List Char × NaslMeta)) name =>
      if name = ".".toList ∨ name = "..".toList then some scripts
      else
        let fullPath := snprintf 1024 (dirPath ++ '/' :: name)
        match fs.kind fullPath with
        | some .directory => (feedScripts fs fuel fullPath).map (scripts ++ ·)
        | some .regular =>
          if isNaslName name then
            match parseNaslFile (fs.contents fullPath) with
            | some meta => some (scripts ++ [(fullPath, meta)])
            | none => some scripts
          else some scripts
        | _ => some scripts) []

/-- The insert of one parsed script, and the `(*count)++` when `sqlite3_step` is done. -/
def insertScript (now : Int) (acc : List NvtRecord × Nat) (script : List Char × NaslMeta) :
    List NvtRecord × Nat :=
  match nvtsInsert acc.1 (nvtRow script.2 script.1 now) with
  | some table => (table, acc.2 + 1)
  | none => acc

/-- What the rebuild commits for the scripts of a walk: the count it returns and the table. -/
def cacheOf (now : Int) (scripts : List (List Char × NaslMeta)) : Int × Option (List NvtRecord) :=
  let scanned := scripts.foldl (insertScript now) ([], 0)
  (scanned.2, some scanned.1)

section Walk

variable {fs : FeedFs} {now : Int}

theorem foldlM_foldl {α β γ : Type} {pass : β → α → Option β} {collect : List γ → α → Option (List γ)}
    {ins : β → γ → β}
    (step : ∀ pre acc a, pass (pre.foldl ins acc) a = (collect pre a).map (·.foldl ins acc)) :
    ∀ (as : List α) (pre : List γ) (acc : β),
      as.foldlM pass (pre.foldl ins acc) = (as.foldlM collect pre).map (·.foldl ins acc)
  | [], _, _ => rfl
  | a :: as, pre, acc => by
    rw [List.foldlM_cons, List.foldlM_cons, step]
    cases collect pre a with
    | none => rfl
    | some pre' => exact foldlM_foldl step as pre' acc

/-- `scan_directory` is the walk of the feed followed by the inserts of what it met. -/
theorem scanDirectory_eq_walk :
    ∀ (fuel : Nat) (dirPath : List Char) (acc : List NvtRecord × Nat),
      scanDirectory fs now fuel dirPath acc =
        (feedScripts fs fuel dirPath).map (·.foldl (insertScript now) acc)
  | 0, _, _ => rfl
  | fuel + 1, dirPath, acc => by
    rw [scanDirectory, feedScripts]
    split_ifs
    · rfl
    · refine foldlM_foldl (fun pre acc name => ?_) _ [] acc
      dsimp only
      by_cases dots : name = ".".toList ∨ name = "..".toList
      · rw [if_pos dots, if_pos dots]
        rfl
      rw [if_neg dots, if_neg dots]
      generalize snprintf 1024 (dirPath ++ '/' :: name) = fullPath
      cases fs.kind fullPath with
      | none => rfl
      | some kind =>
        cases kind with
        | directory =>
          dsimp only
          rw [scanDirectory_eq_walk fuel, Option.map_map]
          congr 1
          funext scripts
          rw [Function.comp_apply, List.foldl_append]
        | regular =>
          dsimp only
          by_cases nasl : isNaslName name
          · rw [if_pos nasl, if_pos nasl]
            cases parseNaslFile (fs.contents fullPath) with
            | none => rfl
            | some meta =>
              rw [Option.map_some', List.foldl_append, List.foldl_cons, List.foldl_nil, insertScript]
              dsimp only
              cases nvtsInsert (pre.foldl (insertScript now) acc).1 (nvtRow meta fullPath now) <;> rfl
          · rw [if_neg nasl, if_neg nasl]
            rfl
        | other => rfl

/-- With its statement prepared, the rebuild commits what the inserts make of the walk: it
does not depend on the table it replaces. -/
theorem nvt_feed_rebuild_cache_walk (old : List NvtRecord) (fuel : Nat) (feedDir : List Char) :
    nvtFeedRebuildCache (some old) true fs now fuel feedDir =
      (feedScripts fs fuel feedDir).map (cacheOf now) := by
  rw [nvtFeedRebuildCache, if_neg (by decide), scanDirectory_eq_walk, Option.map_map]
  rfl

end Walk

section Inserts

variable {now : Int}

/-- The rows of a list of scripts, in order. -/
def scriptRows (now : Int) (scripts : List (List Char × NaslMeta)) : List NvtRecord :=
  scripts.map fun script => nvtRow script.2 script.1 now

theorem insertScript_inv {acc : List NvtRecord × Nat} (script : List Char × NaslMeta)
    (count : acc.2 = acc.1.length) (distinct : (acc.1.map (·.oid)).Nodup) :
    (insertScript now acc script).2 = (insertScript now acc script).1.length ∧
      ((insertScript now acc script).1.map (·.oid)).Nodup := by
  unfold insertScript nvtsInsert
  split_ifs with taken
  · exact ⟨count, distinct⟩
  · refine ⟨by simp [count], ?_⟩
    rw [List.map_append, List.nodup_append]
    refine ⟨distinct, List.nodup_singleton _, List.disjoint_singleton.mpr fun mem => taken ?_⟩
    obtain ⟨row, present, same⟩ := List.mem_map.mp mem
    exact List.any_eq_true.mpr ⟨row, present, by simp [same]⟩

theorem find?_insertScript (acc : List NvtRecord × Nat) (script : List Char × NaslMeta)
    (oid : List Char) :
    (insertScript now acc script).1.find? (·.oid == oid) =
      (acc.1.find? (·.oid == oid)).or ([nvtRow script.2 script.1 now].find? (·.oid == oid)) := by
  unfold insertScript nvtsInsert
  split_ifs with taken
  · cases found : acc.1.find? (·.oid == oid) with
    | some row => rfl
    | none =>
      obtain ⟨row, present, same⟩ := List.any_eq_true.mp taken
      have other := List.find?_eq_none.mp found row present
      simp only [beq_iff_eq] at same other
      simp [List.find?_cons, show (nvtRow script.2 script.1 now).oid ≠ oid from same ▸ other]
  · exact List.find?_append

/-- The inserts of a whole walk: the count is the number of rows, the OIDs are pairwise
distinct, and a lookup by OID finds the row of the first script with it. -/
theorem insertScripts_spec (scripts : List (List Char × NaslMeta)) :
    ∀ acc : List NvtRecord × Nat, acc.2 = acc.1.length → (acc.1.map (·.oid)).Nodup →
      (scripts.foldl (insertScript now) acc).2 = (scripts.foldl (insertScript now) acc).1.length ∧
      ((scripts.foldl (insertScript now) acc).1.map (·.oid)).Nodup ∧
      ∀ oid, (scripts.foldl (insertScript now) acc).1.find? (·.oid == oid) =
        (acc.1.find? (·.oid == oid)).or ((scriptRows now scripts).find? (·.oid == oid)) := by
  induction scripts with
  | nil => exact fun acc count distinct => ⟨count, distinct, fun _ => by simp [scriptRows, Option.or_none]⟩
  | cons script scripts ih =>
    intro acc count distinct
    obtain ⟨count', distinct'⟩ := insertScript_inv script count distinct
    obtain ⟨count'', distinct'', found⟩ := ih _ count' distinct'
    refine ⟨count'', distinct'', fun oid => ?_⟩
    rw [List.foldl_cons, found, find?_insertScript, Option.or_assoc,
      show scriptRows now (script :: scripts) = [nvtRow script.2 script.1 now] ++ scriptRows now scripts
        from rfl, List.find?_append]

/-- What a rebuild commits for any walk: it returns the number of rows it committed, no two
rows share an OID, and `nvt_feed_lookup_by_oid` finds, for every OID, the row of the first
script of the walk with that OID, and nothing for an OID no script has. -/
theorem nvt_feed_cache_first_script_wins (scripts : List (List Char × NaslMeta)) :
    ∃ table, cacheOf now scripts = (table.length, some table) ∧ (table.map (·.oid)).Nodup ∧
      ∀ oid, nvtFeedLookupByOid (some table) oid = (scriptRows now scripts).find? (·.oid == oid) := by
  obtain ⟨count, distinct, found⟩ := @insertScripts_spec now scripts ([], 0) rfl List.nodup_nil
  exact ⟨_, by rw [cacheOf, count], distinct, found⟩

end Inserts

end GvmAgent
