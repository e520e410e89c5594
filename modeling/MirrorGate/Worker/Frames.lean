import MirrorGate.Lib.Segments
import MirrorGate.Worker.Flow

/-!
# Frames From Chunks

A connection delivers bytes in chunks, and a frame can begin in one chunk and
end in another. The broker keeps the bytes after the last line feed in a buffer
and cuts all frames out of the buffer and a new chunk at once; if one of them is
too long, none is returned. The decoder of Node goes through a chunk line by
line and hands every line on as soon as it is complete. What is made of a
payload is left aside.

Both deliver what the stream says, however it is cut into chunks. For the broker
this rests on the size of a chunk: behind the end of a first frame there is not
enough room in a chunk for a frame that is too long.

## Main definitions

* `takeFrames`, `frames`, `relayChunk`: `_frames` and what is done with a chunk.
* `push`: `FrameDecoder.push`.
* `overChunks`: The loop over chunks, up to the end of the input.

## Theorems

* `relayChunk_cuts`, `push_cuts`: What either does with one chunk.
* `frames_independent_of_chunks`: Both deliver what the stream says.
-/

namespace MirrorGate

open Segments List

abbrev Bytes := List UInt8

/-- What was passed on, and the buffer or the failure. -/
abbrev Passed := List Bytes × Except ProtocolError Bytes

/-- The line feed. -/
def newline : UInt8 := 10

/-- The limit for a frame without its line feed. -/
def maxFrameBytes : Nat := 65535

/-- The bytes before the first line feed, and those behind it. -/
def cutLine : Bytes → Option (Bytes × Bytes)
  | [] => none
  | b :: bs => if b = newline then some ([], bs) else (cutLine bs).map fun cut => (b :: cut.1, cut.2)

theorem cutLine_cases (s : Bytes) : cutLine s = none ∧ newline ∉ s ∨
    ∃ p r, cutLine s = some (p, r) ∧ s = p ++ newline :: r ∧ newline ∉ p := by
  induction s with
  | nil => exact .inl ⟨rfl, not_mem_nil⟩
  | cons b bs ih =>
    rw [cutLine]
    by_cases hb : b = newline
    · rw [if_pos hb, hb]
      exact .inr ⟨[], bs, rfl, rfl, not_mem_nil⟩
    · have hne : newline ≠ b := fun h => hb h.symm
      rw [if_neg hb]
      rcases ih with ⟨hcut, hbs⟩ | ⟨p, r, hcut, rfl, hp⟩
      · rw [hcut]
        exact .inl ⟨rfl, by simp [hne, hbs]⟩
      · rw [hcut]
        exact .inr ⟨b :: p, r, rfl, rfl, by simp [hne, hp]⟩

theorem length_lt_of_cutLine {s : Bytes} {cut : Bytes × Bytes} (h : cutLine s = some cut) :
    cut.2.length < s.length := by
  rcases cutLine_cases s with ⟨hnone, -⟩ | ⟨p, r, hsome, rfl, -⟩
  · cases hnone.symm.trans h
  · cases hsome.symm.trans h
    simp only [length_append, length_cons]
    omega

/-! ### The broker -/

/-- The loop of `_frames`: frames are cut off as long as there is a line feed. -/
def takeFrames (buffer : Bytes) : Except ProtocolError (List Bytes × Bytes) :=
  match _h : cutLine buffer with
  | none => .ok ([], buffer)
  | some cut =>
    if maxFrameBytes + 1 < cut.1.length + 1 then .error ⟨.limit, "worker frame exceeds limit"⟩
    else (takeFrames cut.2).map fun taken => ((cut.1 ++ [newline]) :: taken.1, taken.2)
termination_by buffer.length
decreasing_by exact length_lt_of_cutLine ‹_›

/-- `_frames`. -/
def frames (buffer chunk : Bytes) : Except ProtocolError (List Bytes × Bytes) :=
  if maxFrameBytes + 1 < (buffer ++ chunk).length ∧ newline ∉ buffer ++ chunk then
    .error ⟨.limit, "unterminated worker frame exceeds limit"⟩
  else takeFrames (buffer ++ chunk)

/-- What `_client_to_worker` and `_worker_to_client` do with a chunk. -/
def relayChunk (buffer chunk : Bytes) : Passed :=
  match frames buffer chunk with
  | .error e => ([], .error e)
  | .ok (taken, rest) => (taken, .ok rest)

/-! ### Node -/

/-- `FrameDecoder.push`. -/
def push (buffer data : Bytes) : Passed :=
  match _h : cutLine data with
  | none =>
    if data.isEmpty then ([], .ok buffer)
    else if maxFrameBytes < buffer.length + data.length then
      ([], .error ⟨.limit, "Frame byte limit exceeded"⟩)
    else ([], .ok (buffer ++ data))
  | some cut =>
    if maxFrameBytes < buffer.length + cut.1.length then
      ([], .error ⟨.limit, "Frame byte limit exceeded"⟩)
    else
      let later := push [] cut.2
      ((buffer ++ cut.1) :: later.1, later.2)
termination_by data.length
decreasing_by exact length_lt_of_cutLine ‹_›

/-! ### The loop -/

/-- The chunks of an input are taken one after the other. When the input has
    ended, the buffer has to be empty. -/
def overChunks (one : Bytes → Bytes → Passed) (unterminated : String) (buffer : Bytes) :
    List Bytes → List Bytes × Option ProtocolError
  | [] => ([], if buffer.isEmpty then none else some ⟨.frame, unterminated⟩)
  | chunk :: chunks =>
    match one buffer chunk with
    | (sent, .error e) => (sent, some e)
    | (sent, .ok rest) =>
      let later := overChunks one unterminated rest chunks
      (sent ++ later.1, later.2)

/-- Segments are cut off a buffer and a chunk, and passed on in a form. -/
def CutsChunk (form : Bytes → Bytes) (one : Bytes → Bytes → Passed) (chunk : Bytes) : Prop :=
  ∀ buffer, newline ∉ buffer → ∃ ps o, Cuts newline maxFrameBytes (buffer ++ chunk) ps o ∧
    (one buffer chunk).1 = ps.map form ∧ (one buffer chunk).2.toOption = o

/-- What a loop delivers and whether it fails is what the stream says. -/
theorem overChunks_says {form : Bytes → Bytes} {one : Bytes → Bytes → Passed}
    (unterminated : String) {chunks : List Bytes} (hone : ∀ chunk ∈ chunks, CutsChunk form one chunk)
    (buffer : Bytes) (hbuffer : newline ∉ buffer) :
    (overChunks one unterminated buffer chunks).1 =
        (delivered newline maxFrameBytes (buffer ++ chunks.flatten)).map form ∧
      ((overChunks one unterminated buffer chunks).2.isSome = true ↔
        Broken newline maxFrameBytes (buffer ++ chunks.flatten)) := by
  induction chunks generalizing buffer with
  | nil =>
    rw [flatten_nil, append_nil, delivered_of_notMem hbuffer, broken_of_notMem hbuffer,
      overChunks]
    cases buffer <;> simp
  | cons chunk chunks ih =>
    rcases hone chunk mem_cons_self buffer hbuffer with ⟨ps, o, hcuts, hsent, ho⟩
    rw [flatten_cons, ← append_assoc, overChunks]
    rcases hresult : one buffer chunk with ⟨sent, e | rest⟩
    · rw [hresult] at hsent ho
      cases ho
      rcases hcuts.ends chunks.flatten with ⟨hdelivered, hbroken⟩
      rw [hdelivered]
      exact ⟨hsent, iff_of_true rfl hbroken⟩
    · rw [hresult] at hsent ho
      cases ho
      rcases hcuts.goesOn chunks.flatten with ⟨hdelivered, hbroken⟩
      rcases ih (fun c hc => hone c (mem_cons_of_mem _ hc)) rest (hcuts.notMem rest rfl) with
        ⟨hlater, hfailure⟩
      rw [hdelivered, hbroken, map_append, ← hlater, ← hsent, ← hfailure]
      exact ⟨rfl, Iff.rfl⟩

/-! ### One chunk -/

theorem takeFrames_of_notMem {p : Bytes} (h : newline ∉ p) : takeFrames p = .ok ([], p) := by
  rw [takeFrames]
  split
  · rfl
  · next cut hcut =>
    rcases cutLine_cases p with ⟨hnone, -⟩ | ⟨q, r, -, rfl, -⟩
    · cases hnone.symm.trans hcut
    · exact absurd (by simp) h

/-- From a buffer that is no longer than a chunk all frames can be cut off. -/
theorem takeFrames_cuts (n : Nat) (buffer : Bytes) (hn : buffer.length ≤ n)
    (hlength : buffer.length ≤ maxFrameBytes + 1) :
    ∃ ps rest, takeFrames buffer = .ok (ps.map (· ++ [newline]), rest) ∧
      Cuts newline maxFrameBytes buffer ps (some rest) := by
  induction n generalizing buffer with
  | zero =>
    rw [eq_nil_of_length_eq_zero (Nat.le_zero.mp hn)]
    exact ⟨[], [], takeFrames_of_notMem not_mem_nil, .rest not_mem_nil⟩
  | succ n ih =>
    rcases cutLine_cases buffer with ⟨-, hnot⟩ | ⟨p, r, hcut, rfl, hp⟩
    · exact ⟨[], buffer, takeFrames_of_notMem hnot, .rest hnot⟩
    · rw [length_append, length_cons] at hlength hn
      rcases ih r (by omega) (by omega) with ⟨ps, rest, htaken, hcuts⟩
      refine ⟨p :: ps, rest, ?_, .next hp (by omega) hcuts⟩
      rw [takeFrames, hcut]
      dsimp only
      rw [if_neg (by omega), htaken]
      rfl

/-- The broker cuts off what it can. Only the first frame that ends in a chunk
    can be too long. -/
theorem relayChunk_cuts {chunk : Bytes} (hchunk : chunk.length ≤ maxFrameBytes + 1) :
    CutsChunk (· ++ [newline]) relayChunk chunk := by
  intro buffer hbuffer
  rw [relayChunk, frames]
  rcases cutLine_cases (buffer ++ chunk) with ⟨-, hnot⟩ | ⟨p, r, hcut, heq, hp⟩
  · by_cases hlong : maxFrameBytes + 1 < (buffer ++ chunk).length
    · rw [if_pos ⟨hlong, hnot⟩]
      refine ⟨[], none, ?_, rfl, rfl⟩
      rw [← append_nil (buffer ++ chunk)]
      exact .long hnot (by omega)
    · rw [if_neg (fun h => hlong h.1), takeFrames_of_notMem hnot]
      exact ⟨[], some _, .rest hnot, rfl, rfl⟩
  · rw [if_neg (by simp [heq]), takeFrames, hcut]
    dsimp only
    by_cases hlong : maxFrameBytes < p.length
    · rw [if_pos (by omega), heq]
      exact ⟨[], none, .long hp hlong, rfl, rfl⟩
    · -- The line feed is in the chunk, and the rest of the chunk is too short for
      -- a frame that is too long.
      have hrest : r.length < chunk.length := by
        rcases append_eq_append_iff.mp heq with ⟨q, -, rfl⟩ | ⟨q, rfl, hq⟩
        · rw [length_append, length_cons]
          omega
        · cases q with
          | nil => rw [← nil_append chunk, ← hq]; exact Nat.lt_succ_self _
          | cons x xs => cases hq; exact absurd (by simp) hbuffer
      rcases takeFrames_cuts _ r (Nat.le_refl _) (by omega) with ⟨ps, rest, htaken, hcuts⟩
      rw [if_neg (by omega), htaken, heq]
      exact ⟨p :: ps, some rest, .next hp (Nat.not_lt.mp hlong) hcuts, rfl, rfl⟩

/-- Node cuts off what it can. -/
theorem push_cuts (n : Nat) (chunk : Bytes) (hn : chunk.length ≤ n) : CutsChunk id push chunk := by
  induction n generalizing chunk with
  | zero =>
    intro buffer hbuffer
    rw [eq_nil_of_length_eq_zero (Nat.le_zero.mp hn), push, append_nil]
    exact ⟨[], some buffer, .rest hbuffer, rfl, rfl⟩
  | succ n ih =>
    intro buffer hbuffer
    rw [push]
    rcases cutLine_cases chunk with ⟨hcut, hnot⟩ | ⟨p, r, hcut, rfl, hp⟩
    · have hfirst : newline ∉ buffer ++ chunk := by simp [hbuffer, hnot]
      rw [hcut]
      dsimp only
      cases chunk with
      | nil =>
        rw [append_nil]
        exact ⟨[], some buffer, .rest hbuffer, rfl, rfl⟩
      | cons c cs =>
        rw [if_neg (by simp), ← length_append]
        by_cases hlong : maxFrameBytes < (buffer ++ c :: cs).length
        · rw [if_pos hlong]
          refine ⟨[], none, ?_, rfl, rfl⟩
          rw [← append_nil (buffer ++ c :: cs)]
          exact .long hfirst hlong
        · rw [if_neg hlong]
          exact ⟨[], some _, .rest hfirst, rfl, rfl⟩
    · have hfirst : newline ∉ buffer ++ p := by simp [hbuffer, hp]
      rw [length_append, length_cons] at hn
      rw [hcut, ← append_assoc]
      dsimp only
      rw [← length_append]
      by_cases hlong : maxFrameBytes < (buffer ++ p).length
      · rw [if_pos hlong]
        exact ⟨[], none, .long hfirst hlong, rfl, rfl⟩
      · rcases ih r (by omega) [] not_mem_nil with ⟨ps, o, hcuts, hsent, ho⟩
        rw [if_neg hlong]
        exact ⟨(buffer ++ p) :: ps, o, .next hfirst (Nat.not_lt.mp hlong) hcuts,
          congrArg ((buffer ++ p) :: ·) hsent, ho⟩

/-! ### Both -/

/-- However a stream is cut into chunks of at most 65,536 bytes, the broker and
    Node deliver the payloads before the first segment that is too long, and
    they fail exactly if there is such a segment or the stream ends inside one. -/
theorem frames_independent_of_chunks (unterminated : String) (chunks : List Bytes)
    (hchunks : ∀ chunk ∈ chunks, 0 < chunk.length ∧ chunk.length ≤ 65536) :
    let relayed := overChunks relayChunk unterminated [] chunks
    let pushed := overChunks push "Unterminated JSONL frame" [] chunks
    relayed.1 = pushed.1.map (· ++ [newline]) ∧
      pushed.1 = delivered newline maxFrameBytes chunks.flatten ∧
      (relayed.2.isSome = true ↔ Broken newline maxFrameBytes chunks.flatten) ∧
      (pushed.2.isSome = true ↔ Broken newline maxFrameBytes chunks.flatten) := by
  have hrelayed := overChunks_says unterminated
    (fun chunk hchunk => relayChunk_cuts (hchunks chunk hchunk).2) [] List.not_mem_nil
  have hpushed := overChunks_says "Unterminated JSONL frame"
    (fun chunk (_ : chunk ∈ chunks) => push_cuts _ chunk (Nat.le_refl _)) [] List.not_mem_nil
  rw [List.nil_append] at hrelayed hpushed
  rw [List.map_id] at hpushed
  refine ⟨?_, hpushed.1, hrelayed.2, hpushed.2⟩
  rw [hpushed.1]
  exact hrelayed.1

theorem frames_independent_of_two_chunks :
    (overChunks push "Unterminated JSONL frame" [] [[123], [125, 10, 65]]).1 =
      delivered newline maxFrameBytes [[123], [125, 10, 65]].flatten :=
  (frames_independent_of_chunks "unterminated worker request" [[123], [125, 10, 65]]
    (by decide)).2.1

end MirrorGate
