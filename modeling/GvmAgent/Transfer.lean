import GvmAgent.HttpClient

set_option autoImplicit false

/-! The transfer under `http_post` and `http_get`: libcurl hands the response body to
`write_callback` chunk by chunk, and the callback grows a NUL-terminated buffer.

The rest of the model meets a transfer through its `Transport` outcome. This is the level
below: the buffer `http_response_create` allocates, the callback that appends each chunk, and
the end of `curl_easy_perform`. What the buffer stands for is the bytes received so far
(`bufferOf`): each callback appends its chunk to them and writes the NUL after them again.
So, however the body is cut into chunks, a transfer's `Transport` carries the bytes received
up to the first NUL, while a caller that reads `body_size` bytes, as `auto_update_download`
does, gets all of them. -/

namespace GvmAgent

/-- `http_response_t`: the buffer `body`, its `body_size` and the status libcurl reports. -/
structure HttpResponse where
  body : List Char
  bodySize : Nat
  statusCode : Int
  deriving DecidableEq, Repr

/-- The response whose buffer holds `bytes` followed by the NUL `write_callback` keeps after
them. -/
def bufferOf (bytes : List Char) (status : Int) : HttpResponse := ⟨bytes ++ ['\x00'], bytes.length, status⟩

/-- `http_response_create`: a one-byte buffer holding the NUL. -/
def httpResponseCreate : HttpResponse := ⟨['\x00'], 0, 0⟩

/-- `write_callback`, the same in `http_client.c` and `job_processor.c`, with `grows` whether its
`realloc` to `body_size + realsize + 1` bytes succeeds: the chunk is copied over the NUL and a
NUL written after it. `none` is the 0 it returns when `realloc` fails. -/
def writeCallback (grows : Bool) (response : HttpResponse) (contents : List Char) :
    Option HttpResponse :=
  if grows then
    some { response with
      body := response.body.take response.bodySize ++ contents ++ ['\x00']
      bodySize := response.bodySize + contents.length }
  else none

/-- What one transfer delivers: the body in the chunks libcurl hands to the write callback,
whether the `realloc` of each callback succeeds, whether `curl_easy_perform` otherwise ends
with `CURLE_OK`, and the status `CURLINFO_RESPONSE_CODE` gives then. -/
structure Transfer where
  chunks : List (List Char)
  grows : Nat → Bool
  completes : Bool
  status : Int

/-- The callbacks of a transfer from its `k`-th chunk on; libcurl stops at the first that does
not take its whole chunk. -/
def writeChunks (grows : Nat → Bool) : Nat → HttpResponse → List (List Char) → Option HttpResponse
  | _, response, [] => some response
  | k, response, chunk :: rest =>
    (writeCallback (grows k) response chunk).bind fun response => writeChunks grows (k + 1) response rest

/-- `curl_easy_perform` on the response `http_response_create` made: the response, with its
status, when the transfer ends with `CURLE_OK`; `none` when a callback fails
(`CURLE_WRITE_ERROR`) or the transfer does. -/
def curlEasyPerform (transfer : Transfer) : Option HttpResponse :=
  (writeChunks transfer.grows 0 httpResponseCreate transfer.chunks).bind fun response =>
    if transfer.completes then some { response with statusCode := transfer.status } else none

/-- What the callers of `http_post` and `http_get` read of a transfer: a failure, or the status
and the buffer as a C string. -/
def transportOf (transfer : Transfer) : Transport :=
  match curlEasyPerform transfer with
  | none => .failure
  | some response => .response response.statusCode (cString response.body)

section Buffer

/-- All the callbacks from the `k`-th on, for `count` chunks, get their memory. -/
def AllGrow (grows : Nat → Bool) (k count : Nat) : Prop := ∀ i < count, grows (k + i) = true

instance (grows : Nat → Bool) (k count : Nat) : Decidable (AllGrow grows k count) :=
  inferInstanceAs (Decidable (∀ i < count, grows (k + i) = true))

theorem httpResponseCreate_eq : httpResponseCreate = bufferOf [] 0 := rfl

theorem writeCallback_bufferOf (bytes chunk : List Char) (status : Int) :
    writeCallback true (bufferOf bytes status) chunk = some (bufferOf (bytes ++ chunk) status) := by
  simp [writeCallback, bufferOf]

/-- The callbacks of a transfer append its chunks, in order, to the bytes received, unless one
of them does not get its memory. -/
theorem writeChunks_bufferOf (grows : Nat → Bool) (status : Int) :
    ∀ (chunks : List (List Char)) (k : Nat) (bytes : List Char),
      writeChunks grows k (bufferOf bytes status) chunks =
        if AllGrow grows k chunks.length then some (bufferOf (bytes ++ chunks.flatten) status) else none
  | [], k, bytes => by simp [writeChunks, AllGrow]
  | chunk :: rest, k, bytes => by
    have first : AllGrow grows k (chunk :: rest).length ↔
        grows k = true ∧ AllGrow grows (k + 1) rest.length := by
      simp only [AllGrow, List.length_cons]
      refine ⟨fun all => ⟨all 0 (Nat.succ_pos _), fun i small => ?_⟩, fun ⟨head, tail⟩ i small => ?_⟩
      · simpa [Nat.add_assoc, Nat.add_comm 1] using all (i + 1) (by omega)
      · cases i with
        | zero => exact head
        | succ i => simpa [Nat.add_assoc, Nat.add_comm 1] using tail i (by omega)
    rw [writeChunks]
    cases grown : grows k with
    | false =>
      rw [if_neg fun all => by simpa [grown] using (first.mp all).1]
      simp [writeCallback]
    | true =>
      rw [writeCallback_bufferOf, Option.some_bind, writeChunks_bufferOf grows status rest (k + 1),
        List.flatten_cons, List.append_assoc]
      simp only [first, grown, true_and]

theorem cString_bufferOf (bytes : List Char) (status : Int) :
    cString (bufferOf bytes status).body = cString bytes := by
  simp only [bufferOf, cString, List.takeWhile_append]
  split_ifs with whole
  · rw [(List.takeWhile_prefix _).eq_of_length whole]
    simp
  · rfl

theorem curlEasyPerform_eq (transfer : Transfer) :
    curlEasyPerform transfer =
      if AllGrow transfer.grows 0 transfer.chunks.length ∧ transfer.completes = true then
        some (bufferOf transfer.chunks.flatten transfer.status)
      else none := by
  unfold curlEasyPerform
  rw [httpResponseCreate_eq, writeChunks_bufferOf]
  by_cases grown : AllGrow transfer.grows 0 transfer.chunks.length
  · cases done : transfer.completes <;> simp [grown, done, bufferOf]
  · simp [grown]

/-- The outcome the callers of `http_get` and `http_post` see: the status and the bytes of the
body up to their first NUL, however the body was cut into chunks, when every callback gets its
memory and the transfer completes; a failure otherwise. -/
theorem http_transfer_refines_transport (transfer : Transfer) :
    transportOf transfer =
      if AllGrow transfer.grows 0 transfer.chunks.length ∧ transfer.completes = true then
        .response transfer.status (cString transfer.chunks.flatten)
      else .failure := by
  unfold transportOf
  rw [curlEasyPerform_eq]
  split_ifs
  · exact congrArg _ (cString_bufferOf _ _)
  · rfl

end Buffer

end GvmAgent
