import UniRil.CString
import UniRil.Lib.Reassembly
import Mathlib.Algebra.Order.Ring.Nat

/-!
# Records out of a socket (record_stream.c)

A record has its length before it, in four bytes. The pointers into the buffer are offsets from its beginning.
-/

namespace UniRil.Records

open Reassembly (Format Receiver Result Holds Sees Stuck)

def HEADER_SIZE : Nat := 4

def EAGAIN : Int := 11
def EFBIG : Int := 27

structure RecordStream where
  maxRecordLen : Nat
  buffer : List Byte
  unconsumed : Nat
  read_end : Nat

def RecordStream.buffer_end (rs : RecordStream) : Nat := rs.maxRecordLen + HEADER_SIZE

/-- `heap` is what malloc finds in the memory. -/
def record_stream_new (maxRecordLen : Nat) (heap : Nat → Byte) : RecordStream where
  maxRecordLen := maxRecordLen
  buffer := (List.range (maxRecordLen + HEADER_SIZE)).map heap
  unconsumed := 0
  read_end := 0

/-- The number that four bytes in network order stand for. -/
def ntohl (bytes : List Byte) : Nat := (bytes.take 4).foldl (fun n c => 256 * n + c.toNat) 0

/-- `none` if there is no full record between the two. -/
def getEndOfRecord (buffer : List Byte) (p_begin p_end : Nat) : Option Nat :=
  if p_end < p_begin + HEADER_SIZE then none
  else
    let p_ret := p_begin + HEADER_SIZE + ntohl (buffer.drop p_begin)
    if p_end < p_ret then none else some p_ret

/-- The start and the length of the record, when one is there. -/
def getNextRecord (p_rs : RecordStream) : Option (Nat × Nat) × RecordStream :=
  match getEndOfRecord p_rs.buffer p_rs.unconsumed p_rs.read_end with
  | some record_end =>
    let record_start := p_rs.unconsumed + HEADER_SIZE
    (some (record_start, record_end - record_start), { p_rs with unconsumed := record_end })
  | none => (none, p_rs)

/-- The remainder at the beginning of the buffer. -/
def moveRemainder (p_rs : RecordStream) : RecordStream :=
  if p_rs.unconsumed ≠ 0 then
    let toMove := p_rs.read_end - p_rs.unconsumed
    { p_rs with
      buffer := (p_rs.buffer.drop p_rs.unconsumed).take toMove ++ p_rs.buffer.drop toMove
      read_end := toMove
      unconsumed := 0 }
  else p_rs

/-- What a read does: it brings `n + 1` bytes if it may and there are so many left, or it fails. -/
abbrev Read := Reassembly.Read Int

/-- The buffer after `bytes` were read to `read_end`. -/
def store (p_rs : RecordStream) (bytes : List Byte) : RecordStream :=
  { p_rs with
    buffer := p_rs.buffer.take p_rs.read_end ++ bytes ++ p_rs.buffer.drop (p_rs.read_end + bytes.length)
    read_end := p_rs.read_end + bytes.length }

/-- What a call returns: 0 and a record in the buffer, 0 and NULL, or -1 with errno. -/
inductive Outcome
  | record (p_outRecord p_outRecordLen : Nat)
  | endOfStream
  | fail (errno : Int)
  deriving DecidableEq

/-- `fd` has the bytes that can still be read. -/
def record_stream_get_next (p_rs : RecordStream) (fd : List Byte) (read : Read) :
    Outcome × RecordStream × List Byte :=
  match getNextRecord p_rs with
  | (some (ret, len), p_rs) => (.record ret len, p_rs, fd)
  | (none, p_rs) =>
    if p_rs.unconsumed = 0 ∧ p_rs.read_end = p_rs.buffer_end then (.fail EFBIG, p_rs, fd)
    else
      let p_rs := moveRemainder p_rs
      match read with
      | .error errno => (.fail errno, p_rs, fd)
      | .upTo n =>
        let bytes := fd.take (min (n + 1) (p_rs.buffer_end - p_rs.read_end))
        if bytes.length = 0 then (.endOfStream, p_rs, fd)
        else
          match getNextRecord (store p_rs bytes) with
          | (none, p_rs) => (.fail EAGAIN, p_rs, fd.drop bytes.length)
          | (some (ret, len), p_rs) => (.record ret len, p_rs, fd.drop bytes.length)

/-! ## Calls -/

/-- What the caller gets: the record as the bytes that are in the buffer. -/
def Outcome.reply (p_rs : RecordStream) : Outcome → Result (List Byte) Int
  | .record p_outRecord p_outRecordLen => .item ((p_rs.buffer.drop p_outRecord).take p_outRecordLen)
  | .endOfStream => .ended
  | .fail errno => .failed errno

/-- Call after call. -/
def calls : RecordStream → List Byte → List Read → List (Result (List Byte) Int) × RecordStream × List Byte
  | p_rs, fd, [] => ([], p_rs, fd)
  | p_rs, fd, read :: reads =>
    let step := record_stream_get_next p_rs fd read
    let more := calls step.2.1 step.2.2 reads
    (step.1.reply step.2.1 :: more.1, more.2)

def htonl (n : Nat) : List Byte := [n / 2 ^ 24, n / 2 ^ 16, n / 2 ^ 8, n].map UInt8.ofNat

/-- A record as it stands in the stream. -/
def frame (record : List Byte) : List Byte := htonl record.length ++ record

/-- Calls on a new stream. -/
def callsOnNew (maxRecordLen : Nat) (heap : Nat → Byte) (stream : List Byte) (reads : List Read) :=
  calls (record_stream_new maxRecordLen heap) stream reads

/-- The calls that succeed give the records in order and then NULL, and they do so when there are enough of them. -/
def InOrder (maxRecordLen : Nat) (heap : Nat → Byte) (stream : List Byte) (reads : List Read) : Prop :=
  ∀ records : List (List Byte), (∀ record ∈ records, record.length ≤ maxRecordLen) → stream = records.flatMap frame →
    ∀ replies, replies = (callsOnNew maxRecordLen heap stream reads).1.filter Result.succeeds →
      (∃ n, replies <+: records.map .item ++ List.replicate n .ended) ∧
        (records.length + stream.length < reads.countP Reassembly.Read.brings →
          records.map .item ++ [.ended] <+: replies)

/-- A record that is returned is among the bytes that were received. -/
def InBounds (maxRecordLen : Nat) (heap : Nat → Byte) (stream : List Byte) (reads : List Read) : Prop :=
  ∀ read p_rs p_rs' fd fd' p_outRecord p_outRecordLen,
    (callsOnNew maxRecordLen heap stream reads).2 = (p_rs, fd) →
    record_stream_get_next p_rs fd read = (.record p_outRecord p_outRecordLen, p_rs', fd') →
      p_outRecord + p_outRecordLen ≤ p_rs'.read_end ∧ p_rs'.read_end ≤ p_rs'.buffer.length ∧
        ∃ received, stream = received ++ fd' ∧ p_rs'.buffer.take p_rs'.read_end <:+ received

/-- When enough of a record that is too long has arrived, every further call fails. -/
def Rejects (maxRecordLen : Nat) (heap : Nat → Byte) (stream : List Byte) (reads : List Read) : Prop :=
  ∀ (records : List (List Byte)) (len : Nat) (rest : List Byte),
    (∀ record ∈ records, record.length < 2 ^ 32) → maxRecordLen < len → len < 2 ^ 32 →
    stream = records.flatMap frame ++ (htonl len ++ rest) →
    ∀ p_rs fd, (callsOnNew maxRecordLen heap stream reads).2 = (p_rs, fd) →
      (records.flatMap frame).length + (maxRecordLen + HEADER_SIZE) + fd.length ≤ stream.length →
      ∀ more, (calls p_rs fd more).1 = more.map fun _ => .failed EFBIG

variable {p_rs p_rs' : RecordStream} {fd fd' bytes rest b : List Byte} {records : List (List Byte)} {M n len : Nat}
  {heap : Nat → Byte}

/-! ## Lengths and records -/

theorem ntohl_append {s : List Byte} (h : 4 ≤ s.length) (ys : List Byte) : ntohl (s ++ ys) = ntohl s := by
  rw [ntohl, ntohl, List.take_append_of_le_length h]

theorem length_htonl (n : Nat) : (htonl n).length = 4 := rfl

theorem ntohl_htonl (h : n < 2 ^ 32) (rest : List Byte) : ntohl (htonl n ++ rest) = n := by
  rw [ntohl_append (by rw [length_htonl])]
  simp [ntohl, htonl]
  omega

/-- The first record, if all of it is there. -/
def nextRecord (xs : List Byte) : Option (List Byte × List Byte) :=
  if xs.length < HEADER_SIZE then none
  else if xs.length < HEADER_SIZE + ntohl xs then none
  else some ((xs.drop HEADER_SIZE).take (ntohl xs), xs.drop (HEADER_SIZE + ntohl xs))

theorem nextRecord_eq_some {xs : List Byte} : nextRecord xs = some (b, rest) ↔
    HEADER_SIZE + ntohl xs ≤ xs.length ∧ b = (xs.drop HEADER_SIZE).take (ntohl xs) ∧
      rest = xs.drop (HEADER_SIZE + ntohl xs) := by
  unfold nextRecord
  by_cases hheader : xs.length < HEADER_SIZE
  · rw [if_pos hheader]
    exact iff_of_false (by simp) fun h => by omega
  · rw [if_neg hheader]
    by_cases hbody : xs.length < HEADER_SIZE + ntohl xs
    · rw [if_pos hbody]
      exact iff_of_false (by simp) fun h => by omega
    · rw [if_neg hbody, Option.some.injEq, Prod.mk.injEq]
      exact ⟨fun h => ⟨by omega, h.1.symm, h.2.symm⟩, fun h => ⟨h.2.1.symm, h.2.2.symm⟩⟩

theorem nextRecord_append {xs : List Byte} (ys : List Byte) (h : nextRecord xs = some (b, rest)) :
    nextRecord (xs ++ ys) = some (b, rest ++ ys) := by
  obtain ⟨hlen, rfl, rfl⟩ := nextRecord_eq_some.1 h
  have hntohl := ntohl_append (s := xs) (by unfold HEADER_SIZE at hlen; omega) ys
  refine nextRecord_eq_some.2 ⟨?_, ?_, ?_⟩
  · rw [hntohl, List.length_append]
    omega
  · rw [hntohl, List.drop_append_of_le_length (by omega), List.take_append_of_le_length]
    rw [List.length_drop]
    omega
  · rw [hntohl, List.drop_append_of_le_length hlen]

/-- A record with its length before it, in a buffer of a record and a header. -/
def format (maxRecordLen : Nat) : Format Byte (List Byte) Int where
  next := nextRecord
  next_nil := rfl
  next_append := nextRecord_append
  length_next h := by
    rw [(nextRecord_eq_some.1 h).2.2, List.length_drop]
    omega
  window := maxRecordLen + HEADER_SIZE
  window_pos := Nat.succ_pos _
  again := EAGAIN
  full := EFBIG

theorem nextRecord_frame {record : List Byte} (h : record.length < 2 ^ 32) :
    nextRecord (frame record) = some (record, []) := by
  have hntohl := ntohl_htonl h record
  have hlen : (frame record).length = HEADER_SIZE + record.length := by
    rw [frame, List.length_append, length_htonl]
    rfl
  have hdrop : (frame record).drop HEADER_SIZE = record := List.drop_left' (length_htonl _)
  refine nextRecord_eq_some.2 ?_
  rw [← frame] at hntohl
  rw [hntohl, hlen, hdrop, List.take_length]
  exact ⟨le_rfl, rfl, (List.drop_of_length_le hlen.le).symm⟩

/-- Records that fit stand in the stream before what comes after them. -/
theorem holds_frames (records : List (List Byte)) (h : ∀ record ∈ records, record.length ≤ M) (hM : M < 2 ^ 32)
    (tail : List Byte) : Holds (format M) tail (records.flatMap frame ++ tail) records := by
  induction records with
  | nil => exact .nil
  | cons record records ih =>
    rw [List.forall_mem_cons] at h
    rw [List.flatMap_cons, List.append_assoc]
    refine .cons ?_ (nextRecord_frame (lt_of_le_of_lt h.1 hM)) (ih h.2)
    rw [frame, List.length_append, length_htonl, Nat.add_comm]
    exact Nat.add_le_add_right h.1 _

/-- A record that is too long is never complete. -/
theorem stuck_long (hlen : len < 2 ^ 32) (hlong : M < len) (rest : List Byte) :
    Stuck (format M) (htonl len ++ rest) := by
  intro n hn
  by_contra hsome
  obtain ⟨⟨b, left⟩, hnext⟩ := Option.ne_none_iff_exists'.1 hsome
  have hle := (nextRecord_eq_some.1 hnext).1
  have hwhole := ntohl_append (s := (htonl len ++ rest).take n) (by unfold HEADER_SIZE at hle; omega)
    ((htonl len ++ rest).drop n)
  rw [List.take_append_drop, ntohl_htonl hlen] at hwhole
  have hshort := List.length_take_le n (htonl len ++ rest)
  have hwindow : (format M).window = M + HEADER_SIZE := rfl
  omega

/-! ## The pointers -/

/-- The pointers stand in their order in the buffer. -/
structure Valid (p_rs : RecordStream) : Prop where
  length : p_rs.buffer.length = p_rs.buffer_end
  unconsumed : p_rs.unconsumed ≤ p_rs.read_end
  read_end : p_rs.read_end ≤ p_rs.buffer_end

/-- What was read and not yet returned. -/
def RecordStream.held (p_rs : RecordStream) : List Byte := (p_rs.buffer.take p_rs.read_end).drop p_rs.unconsumed

def receiver (p_rs : RecordStream) (fd : List Byte) : Receiver Byte := { held := p_rs.held, pending := fd }

theorem Valid.length_held (h : Valid p_rs) : p_rs.held.length = p_rs.read_end - p_rs.unconsumed := by
  have hread := h.read_end
  rw [← h.length] at hread
  rw [RecordStream.held, List.length_drop, List.length_take, Nat.min_eq_left hread]

theorem valid_new (maxRecordLen : Nat) (heap : Nat → Byte) : Valid (record_stream_new maxRecordLen heap) := by
  refine ⟨?_, le_rfl, Nat.zero_le _⟩
  simp [record_stream_new, RecordStream.buffer_end]

/-- The header in the buffer is the one of what is held. -/
theorem ntohl_held (h : HEADER_SIZE ≤ p_rs.held.length) :
    ntohl (p_rs.buffer.drop p_rs.unconsumed) = ntohl p_rs.held := by
  rw [RecordStream.held, List.drop_take] at h ⊢
  have hsplit := List.take_append_drop (p_rs.read_end - p_rs.unconsumed) (p_rs.buffer.drop p_rs.unconsumed)
  have happend := ntohl_append h ((p_rs.buffer.drop p_rs.unconsumed).drop (p_rs.read_end - p_rs.unconsumed))
  rwa [hsplit] at happend

/-- What getNextRecord leaves. -/
inductive NextRecord (p_rs : RecordStream) : Option (Nat × Nat) × RecordStream → Prop
  | none (hnext : nextRecord p_rs.held = none) : NextRecord p_rs (none, p_rs)
  | some {p_rs' : RecordStream} {start len : Nat}
      (hnext : nextRecord p_rs.held = some ((p_rs'.buffer.drop start).take len, p_rs'.held)) (hvalid : Valid p_rs')
      (hread : p_rs'.read_end = p_rs.read_end) (hbuffer : p_rs'.buffer = p_rs.buffer)
      (hmax : p_rs'.maxRecordLen = p_rs.maxRecordLen) (hlen : start + len ≤ p_rs.read_end) :
      NextRecord p_rs (some (start, len), p_rs')

theorem Valid.next (h : Valid p_rs) : NextRecord p_rs (getNextRecord p_rs) := by
  have hlen := h.length_held
  have hunconsumed := h.unconsumed
  unfold getNextRecord getEndOfRecord
  by_cases hheader : p_rs.read_end < p_rs.unconsumed + HEADER_SIZE
  · rw [if_pos hheader]
    refine .none ?_
    unfold nextRecord
    exact if_pos (by omega)
  · rw [if_neg hheader, ntohl_held (by omega)]
    by_cases hbody : p_rs.read_end < p_rs.unconsumed + HEADER_SIZE + ntohl p_rs.held
    · simp only [if_pos hbody]
      refine .none ?_
      unfold nextRecord
      rw [if_neg (by omega)]
      exact if_pos (by omega)
    · simp only [if_neg hbody]
      rw [Nat.add_sub_cancel_left]
      refine .some (nextRecord_eq_some.2 ⟨by omega, ?_, ?_⟩) ⟨h.length, by dsimp only; omega, h.read_end⟩ rfl rfl rfl
        (by omega)
      · generalize ntohl p_rs.held = len at hbody ⊢
        rw [RecordStream.held, List.drop_drop, List.drop_take, List.take_take, Nat.min_eq_left (by omega)]
      · generalize ntohl p_rs.held = len
        simp only [RecordStream.held]
        rw [List.drop_drop, Nat.add_assoc]

theorem Valid.moved (h : Valid p_rs) :
    Valid (moveRemainder p_rs) ∧ (moveRemainder p_rs).held = p_rs.held ∧ (moveRemainder p_rs).unconsumed = 0 ∧
      (moveRemainder p_rs).maxRecordLen = p_rs.maxRecordLen ∧
      (moveRemainder p_rs).buffer.take (moveRemainder p_rs).read_end <:+ p_rs.buffer.take p_rs.read_end := by
  have hlen := h.length_held
  have hunconsumed := h.unconsumed
  have hread := h.read_end
  have hbuffer := h.length
  unfold moveRemainder
  by_cases hzero : p_rs.unconsumed = 0
  · rw [if_neg (not_not_intro hzero)]
    exact ⟨h, rfl, hzero, rfl, List.suffix_rfl⟩
  · rw [if_pos hzero]
    have htake : (p_rs.buffer.drop p_rs.unconsumed).take (p_rs.read_end - p_rs.unconsumed) = p_rs.held :=
      List.drop_take.symm
    have hcells : (p_rs.held ++ p_rs.buffer.drop (p_rs.read_end - p_rs.unconsumed)).take
        (p_rs.read_end - p_rs.unconsumed) = p_rs.held := List.take_left' hlen
    simp only [htake]
    refine ⟨⟨?_, Nat.zero_le _, ?_⟩, ?_, trivial, trivial, ?_⟩
    · rw [List.length_append, List.length_drop, hlen]
      unfold RecordStream.buffer_end at *
      dsimp only
      omega
    · unfold RecordStream.buffer_end at *
      dsimp only
      omega
    · exact hcells
    · rw [hcells]
      exact List.drop_suffix _ _

theorem Valid.stores (h : Valid p_rs) (hlen : bytes.length ≤ p_rs.buffer_end - p_rs.read_end) :
    Valid (store p_rs bytes) ∧ (store p_rs bytes).held = p_rs.held ++ bytes ∧
      (store p_rs bytes).buffer.take (store p_rs bytes).read_end = p_rs.buffer.take p_rs.read_end ++ bytes := by
  have hunconsumed := h.unconsumed
  have hread := h.read_end
  have hbuffer := h.length
  have htake : (p_rs.buffer.take p_rs.read_end ++ bytes).length = p_rs.read_end + bytes.length := by
    rw [List.length_append, List.length_take, Nat.min_eq_left (by omega)]
  have hcells : (store p_rs bytes).buffer.take (store p_rs bytes).read_end = p_rs.buffer.take p_rs.read_end ++ bytes :=
    List.take_left' htake
  refine ⟨⟨?_, ?_, ?_⟩, ?_, hcells⟩
  · unfold store RecordStream.buffer_end at *
    dsimp only
    rw [List.length_append, htake, List.length_drop]
    omega
  · exact hunconsumed.trans (Nat.le_add_right _ _)
  · unfold store RecordStream.buffer_end at *
    dsimp only
    omega
  · have hsame : (store p_rs bytes).unconsumed = p_rs.unconsumed := rfl
    rw [RecordStream.held, hcells, hsame]
    refine List.drop_append_of_le_length ?_
    rw [List.length_take]
    omega

/-! ## One call -/

/-- What one call does. -/
structure Called (p_rs : RecordStream) (fd : List Byte) (read : Read) (outcome : Outcome) (p_rs' : RecordStream)
    (fd' : List Byte) : Prop where
  valid : Valid p_rs'
  maxRecordLen : p_rs'.maxRecordLen = p_rs.maxRecordLen
  /-- It is a call of the receiver. -/
  get : (receiver p_rs fd).get (format p_rs.maxRecordLen) read = (outcome.reply p_rs', receiver p_rs' fd')
  record : ∀ p_outRecord p_outRecordLen, outcome = .record p_outRecord p_outRecordLen →
    p_outRecord + p_outRecordLen ≤ p_rs'.read_end
  /-- What is in the buffer was there before, or has been read. -/
  received : ∃ new, fd = new ++ fd' ∧ p_rs'.buffer.take p_rs'.read_end <:+ p_rs.buffer.take p_rs.read_end ++ new

theorem Valid.full_iff (h : Valid p_rs) :
    p_rs.unconsumed = 0 ∧ p_rs.read_end = p_rs.buffer_end ↔ p_rs.held.length = p_rs.buffer_end := by
  have hunconsumed := h.unconsumed
  have hread := h.read_end
  have hpos : 0 < p_rs.buffer_end := Nat.succ_pos _
  rw [h.length_held]
  omega

theorem Valid.get_next (h : Valid p_rs) (fd : List Byte) (read : Read) :
    Called p_rs fd read (record_stream_get_next p_rs fd read).1 (record_stream_get_next p_rs fd read).2.1
      (record_stream_get_next p_rs fd read).2.2 := by
  have hfull := h.full_iff
  obtain ⟨hmoved, hheld, hzero, hmax, hsuffix⟩ := h.moved
  have hnext := h.next
  unfold record_stream_get_next
  generalize getNextRecord p_rs = found at hnext ⊢
  cases hnext with
  | @some p_rs' start len hnext hvalid hread hbuffer hmax hlen =>
    refine ⟨hvalid, hmax, Reassembly.get_of_some hnext read, ?_, [], rfl, ?_⟩
    · rintro _ _ ⟨⟩
      exact hlen.trans_eq hread.symm
    · dsimp only
      rw [hbuffer, hread, List.append_nil]
  | none hnext =>
    dsimp only
    by_cases hall : p_rs.unconsumed = 0 ∧ p_rs.read_end = p_rs.buffer_end
    · rw [if_pos hall]
      refine ⟨h, rfl, Reassembly.get_of_full hnext (hfull.1 hall) read, by simp, [], rfl, ?_⟩
      rw [List.append_nil]
    · rw [if_neg hall]
      have hnot : (receiver p_rs fd).held.length ≠ (format p_rs.maxRecordLen).window := fun heq => hall (hfull.2 heq)
      have hroom : (moveRemainder p_rs).buffer_end - (moveRemainder p_rs).read_end =
          (format p_rs.maxRecordLen).window - p_rs.held.length := by
        have hlen := hmoved.length_held
        rw [hzero, hheld, Nat.sub_zero] at hlen
        rw [RecordStream.buffer_end, hmax, hlen]
        rfl
      cases read with
      | error errno =>
        refine ⟨hmoved, hmax, ?_, by simp, [], rfl, ?_⟩
        · rw [Reassembly.get_of_error hnext hnot, receiver, receiver, hheld]
          rfl
        · rwa [List.append_nil]
      | upTo n =>
        dsimp only
        rw [hroom]
        have hchunk : fd.take (min (n + 1) ((format p_rs.maxRecordLen).window - p_rs.held.length)) =
            Reassembly.chunk ((format p_rs.maxRecordLen).window - p_rs.held.length) n fd := rfl
        rw [hchunk]
        have hle := Reassembly.length_chunk_le ((format p_rs.maxRecordLen).window - p_rs.held.length) n fd
        have hsplit := Reassembly.chunk_append ((format p_rs.maxRecordLen).window - p_rs.held.length) n fd
        have hempty := @Reassembly.get_of_nil _ _ _ _ (receiver p_rs fd) n hnext hnot
        have hmore := @Reassembly.get_of_ne_nil _ _ _ _ (receiver p_rs fd) n hnext hnot
        simp only [receiver] at hempty hmore
        generalize Reassembly.chunk ((format p_rs.maxRecordLen).window - p_rs.held.length) n fd = new at *
        by_cases hnew : new = []
        · rw [if_pos (by rw [hnew]; rfl)]
          refine ⟨hmoved, hmax, ?_, by simp, [], rfl, ?_⟩
          · rw [receiver, hempty hnew, receiver, hheld]
            rfl
          · rwa [List.append_nil]
        · rw [if_neg fun hzero => hnew (List.length_eq_zero_iff.1 hzero)]
          obtain ⟨hstored, hstoredHeld, hcells⟩ := hmoved.stores (hle.trans_eq hroom.symm)
          have hsuffix' : (store (moveRemainder p_rs) new).buffer.take (store (moveRemainder p_rs) new).read_end <:+
              p_rs.buffer.take p_rs.read_end ++ new := by
            obtain ⟨pre, hpre⟩ := hsuffix
            exact ⟨pre, by rw [hcells, ← hpre, List.append_assoc]⟩
          have hget := hmore hnew
          rw [← hheld, ← hstoredHeld] at hget
          have hnext' := hstored.next
          generalize getNextRecord (store (moveRemainder p_rs) new) = found at hnext' ⊢
          cases hnext' with
          | none hnone =>
            refine ⟨hstored, hmax, ?_, by simp, new, hsplit.symm, hsuffix'⟩
            have hnone' : (format p_rs.maxRecordLen).next (store (moveRemainder p_rs) new).held = none := hnone
            rw [hnone', hheld] at hget
            exact hget
          | @some p_rs' start len hnext hvalid hread hbuffer hmax' hlen =>
            refine ⟨hvalid, hmax'.trans hmax, ?_, ?_, new, hsplit.symm, ?_⟩
            · have hsome : (format p_rs.maxRecordLen).next (store (moveRemainder p_rs) new).held =
                  some ((p_rs'.buffer.drop start).take len, p_rs'.held) := hnext
              rw [hsome, hheld] at hget
              exact hget
            · rintro _ _ ⟨⟩
              exact hlen.trans_eq hread.symm
            · dsimp only
              rwa [hbuffer, hread]

/-! ## Call after call -/

/-- A run of calls. -/
structure CalledAll (p_rs : RecordStream) (fd : List Byte) (reads : List Read) : Prop where
  valid : Valid (calls p_rs fd reads).2.1
  maxRecordLen : (calls p_rs fd reads).2.1.maxRecordLen = p_rs.maxRecordLen
  gets : (receiver p_rs fd).gets (format p_rs.maxRecordLen) reads =
    ((calls p_rs fd reads).1, receiver (calls p_rs fd reads).2.1 (calls p_rs fd reads).2.2)
  received : ∃ new, fd = new ++ (calls p_rs fd reads).2.2 ∧
    (calls p_rs fd reads).2.1.buffer.take (calls p_rs fd reads).2.1.read_end <:+
      p_rs.buffer.take p_rs.read_end ++ new

theorem Valid.calls (h : Valid p_rs) (fd : List Byte) (reads : List Read) : CalledAll p_rs fd reads := by
  induction reads generalizing p_rs fd with
  | nil => exact ⟨h, rfl, rfl, [], rfl, by rw [List.append_nil]; exact List.suffix_rfl⟩
  | cons read reads ih =>
    obtain ⟨hvalid, hmax, hget, -, new, hnew, hsuffix⟩ := h.get_next fd read
    obtain ⟨hvalid', hmax', hgets, new', hnew', hsuffix'⟩ := ih hvalid (record_stream_get_next p_rs fd read).2.2
    refine ⟨hvalid', hmax'.trans hmax, ?_, new ++ new', ?_, ?_⟩
    · rw [hmax] at hgets
      rw [Receiver.gets, hget, hgets]
      rfl
    · exact (hnew.trans (congrArg (new ++ ·) hnew')).trans (List.append_assoc _ _ _).symm
    · obtain ⟨pre, hpre⟩ := hsuffix
      refine hsuffix'.trans ⟨pre, ?_⟩
      rw [← List.append_assoc, hpre, List.append_assoc]

theorem callsOnNew_spec (M : Nat) (heap : Nat → Byte) (stream : List Byte) (reads : List Read) :
    CalledAll (record_stream_new M heap) stream reads := (valid_new M heap).calls stream reads

/-- A new stream has all of its items before it. -/
theorem sees_new {tail stream : List Byte} (h : Holds (format M) tail stream records) :
    Sees (format M) tail (receiver (record_stream_new M heap) stream) records :=
  ⟨Nat.zero_le _, h⟩

theorem inOrder_calls (hM : M ≤ 65535) (stream : List Byte) (reads : List Read) : InOrder M heap stream reads := by
  rintro records hrecords rfl replies rfl
  have hholds := holds_frames records hrecords (by omega) []
  rw [List.append_nil] at hholds
  have hnew : Sees (format M) [] (receiver (record_stream_new M heap) (records.flatMap frame)) records :=
    sees_new hholds
  obtain ⟨taken, left, ends, hitems, -, hresults, hended, hmoves⟩ := hnew.gets reads
  have hgets : (receiver (record_stream_new M heap) (records.flatMap frame)).gets (format M) reads =
      ((callsOnNew M heap (records.flatMap frame) reads).1, _) := (callsOnNew_spec M heap _ reads).gets
  rw [hgets] at hresults
  rw [hresults]
  constructor
  · refine ⟨ends, ?_⟩
    rcases Nat.eq_zero_or_pos ends with rfl | hpos
    · rw [hitems, List.map_append, List.append_assoc, List.replicate_zero, List.append_nil]
      exact List.prefix_append _ _
    · rw [hitems, hended hpos, List.append_nil]
  · intro hmany
    have hpos : ends ≠ 0 := by
      intro hzero
      have hle := hmoves hzero
      simp only [receiver] at hle
      omega
    obtain ⟨k, rfl⟩ := Nat.exists_eq_succ_of_ne_zero hpos
    rw [hitems, hended (Nat.succ_pos k), List.append_nil, List.replicate_succ, List.prefix_append_right_inj]
    exact ⟨_, rfl⟩

theorem inBounds_calls (stream : List Byte) (reads : List Read) : InBounds M heap stream reads := by
  intro read p_rs p_rs' fd fd' start len hcalls hget
  have hall := callsOnNew_spec M heap stream reads
  have hstate : (calls (record_stream_new M heap) stream reads).2 = (p_rs, fd) := hcalls
  obtain ⟨hvalid, -, -, new, hnew, hsuffix⟩ := hall
  rw [hstate] at hvalid hnew hsuffix
  obtain ⟨hvalid', -, -, hrecord, new', hnew', hsuffix'⟩ := hvalid.get_next fd read
  rw [hget] at hvalid' hrecord hnew' hsuffix'
  refine ⟨hrecord start len rfl, hvalid'.read_end.trans_eq hvalid'.length.symm, new ++ new', ?_, ?_⟩
  · exact (hnew.trans (congrArg (new ++ ·) hnew')).trans (List.append_assoc _ _ _).symm
  · obtain ⟨pre, hpre⟩ := hsuffix
    exact hsuffix'.trans ⟨pre, by rw [← List.append_assoc, hpre]; rfl⟩

/-- Some calls on a stream of records, with something behind them of which no record comes. -/
theorem sees_calls {tail : List Byte} {reads : List Read} (hrecords : ∀ record ∈ records, record.length ≤ M)
    (hM : M < 2 ^ 32) (hstuck : Stuck (format M) tail)
    (hcalls : (callsOnNew M heap (records.flatMap frame ++ tail) reads).2 = (p_rs, fd)) :
    Valid p_rs ∧ p_rs.maxRecordLen = M ∧ ∃ left, Sees (format M) tail (receiver p_rs fd) left := by
  obtain ⟨hvalid, hmax, hgets, -⟩ := callsOnNew_spec M heap (records.flatMap frame ++ tail) reads
  have hstate : (calls (record_stream_new M heap) (records.flatMap frame ++ tail) reads).2 = (p_rs, fd) := hcalls
  rw [hstate] at hvalid hmax hgets
  have hnew : Sees (format M) tail (receiver (record_stream_new M heap) (records.flatMap frame ++ tail)) records :=
    sees_new (holds_frames records hrecords hM tail)
  obtain ⟨left, hsees⟩ := hnew.gets_of_stuck hstuck reads
  refine ⟨hvalid, hmax, left, ?_⟩
  have hgets' : (receiver (record_stream_new M heap) (records.flatMap frame ++ tail)).gets (format M) reads =
    (_, receiver p_rs fd) := hgets
  rwa [hgets'] at hsees

/-- Of some records one is the first that is too long, if any is. -/
theorem first_long (records : List (List Byte)) (M : Nat) :
    (∀ record ∈ records, record.length ≤ M) ∨ ∃ pre record post, records = pre ++ record :: post ∧
      (∀ record ∈ pre, record.length ≤ M) ∧ M < record.length := by
  induction records with
  | nil => exact .inl (by simp)
  | cons record records ih =>
    by_cases hlong : M < record.length
    · exact .inr ⟨[], record, records, rfl, by simp, hlong⟩
    · rw [not_lt] at hlong
      rcases ih with hall | ⟨pre, long, post, rfl, hpre, hlen⟩
      · exact .inl (List.forall_mem_cons.2 ⟨hlong, hall⟩)
      · exact .inr ⟨record :: pre, long, post, rfl, List.forall_mem_cons.2 ⟨hlong, hpre⟩, hlen⟩

theorem rejects_calls (stream : List Byte) (reads : List Read) : Rejects M heap stream reads := by
  rintro records len rest hrecords hlong hlen rfl p_rs fd hcalls harrived more
  rw [List.length_append] at harrived
  rcases first_long records M with hfit | ⟨pre, record, post, rfl, hpre, hrecord⟩
  · have hstuck := stuck_long hlen hlong rest
    obtain ⟨hvalid, rfl, left, hsees⟩ := sees_calls hfit (by omega) hstuck hcalls
    have hfull := hsees.gets_full hstuck (by simp only [format, receiver]; omega) more
    rw [(hvalid.calls fd more).gets] at hfull
    exact hfull
  · -- no more than a window full of that one has arrived
    have hsmall := hrecords record (List.mem_append_right _ List.mem_cons_self)
    have hsplit : (pre ++ record :: post).flatMap frame ++ (htonl len ++ rest) =
        pre.flatMap frame ++ (htonl record.length ++ (record ++ (post.flatMap frame ++ (htonl len ++ rest)))) := by
      simp only [List.flatMap_append, List.flatMap_cons, frame, List.append_assoc]
    rw [hsplit] at hcalls
    obtain ⟨-, -, left, hsees⟩ := sees_calls hpre (by omega) (stuck_long hsmall hrecord _) hcalls
    have htail := hsees.length_tail_le
    have hlengths := congrArg List.length hsplit
    simp only [List.flatMap_append, List.flatMap_cons, frame, List.length_append, length_htonl, format,
      receiver] at htail harrived hlengths
    omega

/-- **Records come out of a stream as they stand in it, however it is cut.** -/
theorem framing (maxRecordLen : Nat) (h : maxRecordLen ≤ 65535) (heap : Nat → Byte) (stream : List Byte)
    (reads : List Read) :
    InOrder maxRecordLen heap stream reads ∧ InBounds maxRecordLen heap stream reads ∧
      Rejects maxRecordLen heap stream reads :=
  ⟨inOrder_calls h stream reads, inBounds_calls stream reads, rejects_calls stream reads⟩

/-- The records 7 and 8 9, in pieces that end in a header and in a record. -/
theorem framing_two :
    InOrder 2 (fun _ => 0) (frame [7] ++ frame [8, 9]) [.upTo 2, .upTo 5, .error EAGAIN, .upTo 0, .upTo 9] ∧
      InBounds 2 (fun _ => 0) (frame [7] ++ frame [8, 9]) [.upTo 2, .upTo 5, .error EAGAIN, .upTo 0, .upTo 9] ∧
      Rejects 2 (fun _ => 0) (frame [7] ++ frame [8, 9]) [.upTo 2, .upTo 5, .error EAGAIN, .upTo 0, .upTo 9] :=
  framing 2 (by decide) _ _ _

end UniRil.Records
