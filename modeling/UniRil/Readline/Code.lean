import UniRil.CString
import Mathlib.Algebra.Order.Ring.Nat

/-!
# `readline` of atchannel.c

Pointers into `s_ATBuffer` are offsets. A loop that walks a pointer over the buffer is a
recursion over the cells from that pointer on.
-/

namespace UniRil.Readline

def MAX_AT_RESPONSE : Nat := 0x1000

/-- The input buffering fields of `struct ATChannels`. -/
structure ATBuffer where
  s_ATBuffer : List Byte
  s_ATBufferCur : Nat
  -- The local `p_read`, kept over the call: the offset of the NUL behind the received data.
  p_read : Nat

/-- `at_open` clears the whole buffer. -/
def ATBuffer.at_open : ATBuffer :=
  { s_ATBuffer := List.replicate (MAX_AT_RESPONSE + 1) NUL, s_ATBufferCur := 0, p_read := 0 }

/-- The cells from `s_ATBufferCur` on. -/
def ATBuffer.cells (b : ATBuffer) : List Byte := b.s_ATBuffer.drop b.s_ATBufferCur

/-- What the fd has in store: the data of each arrival, in order. An empty one is a read that
returns no data (no data yet, EOF, an error). -/
abbrev Fd := List (List Byte)

/-- `read(fd, _, size)`: the data returned, empty when the count is not positive. -/
def Fd.read : Fd → Nat → List Byte × Fd
  | [], _ => ([], [])
  | data :: fd, size => (data.take size, if data.length ≤ size then fd else data.drop size :: fd)

/-- An upper bound on the number of reads before the fd is exhausted. -/
def Fd.reads (fd : Fd) : Nat := (fd.map fun data => data.length + 1).sum

def isNewline (b : Byte) : Bool := b == CR || b == LF

/-- Overwrite the cells from `p` on. -/
def store (cells : List Byte) (p : Nat) (data : List Byte) : List Byte :=
  cells.take p ++ data ++ cells.drop (p + data.length)

/-- How far `while (*cur == '\r' || *cur == '\n') cur++` moves. -/
def newlineCount : List Byte → Nat
  | c :: cells => if isNewline c then newlineCount cells + 1 else 0
  | [] => 0

def ATBuffer.skipNewlines (b : ATBuffer) : ATBuffer :=
  { b with s_ATBufferCur := b.s_ATBufferCur + newlineCount b.cells }

/-- How far the loop of findNextEOL moves, or `none` when it stops at the NUL. -/
def eolOffset : List Byte → Option Nat
  | c :: cells => if c = NUL then none else if isNewline c then some 0 else (eolOffset cells).map (· + 1)
  | [] => none

/-- `cur[0] == '>' && cur[1] == ' ' && cur[2] == '\0'` -/
def isPrompt (cells : List Byte) : Bool := (ascii "> " ++ [NUL]).isPrefixOf cells

/-- The result is the offset of the EOL from `cur`. -/
def findNextEOL (cells : List Byte) : Option Nat :=
  if isPrompt cells then some 2 else eolOffset cells

def ATBuffer.findEOL (b : ATBuffer) : Option Nat := (findNextEOL b.cells).map (b.s_ATBufferCur + ·)

/-- Start over with an empty buffer. -/
def ATBuffer.reset (b : ATBuffer) : ATBuffer :=
  { s_ATBuffer := store b.s_ATBuffer 0 [NUL], s_ATBufferCur := 0, p_read := 0 }

/-- Move a partial line up. -/
def ATBuffer.moveUp (b : ATBuffer) : ATBuffer :=
  let len := strlen b.cells
  { s_ATBuffer := store b.s_ATBuffer 0 (b.cells.take (len + 1)), s_ATBufferCur := 0, p_read := len }

/-- readline up to its loop. The option is `p_eol`. -/
def ATBuffer.enter (b : ATBuffer) : Option Nat × ATBuffer :=
  if b.cells.headD NUL = NUL then
    (none, b.reset)
  else
    let b := b.skipNewlines
    match b.findEOL with
    | some p_eol => (some p_eol, b)
    | none => (none, b.moveUp)

/-- One turn of the read loop, up to the test for an EOL. The flag tells whether data arrived. -/
def ATBuffer.pull (b : ATBuffer) (fd : Fd) : Bool × ATBuffer × Fd :=
  -- "Input line exceeded buffer": ditch buffer and start over again
  let b := if MAX_AT_RESPONSE - b.p_read = 0 then b.reset else b
  let (data, fd) := fd.read (MAX_AT_RESPONSE - b.p_read)
  if data.isEmpty then
    (false, b, fd)
  else
    let b := { b with s_ATBuffer := store b.s_ATBuffer b.p_read (data ++ [NUL]), p_read := b.p_read + data.length }
    (true, b.skipNewlines, fd)

/-- `while (p_eol == NULL)`; the fuel bounds the reads. -/
def ATBuffer.fill : Nat → ATBuffer → Fd → Option Nat × ATBuffer × Fd
  | 0, b, fd => (none, b, fd)
  | fuel + 1, b, fd =>
    let (got, b, fd) := b.pull fd
    if got then
      match b.findEOL with
      | some p_eol => (some p_eol, b, fd)
      | none => b.fill fuel fd
    else
      (none, b, fd)

/-- readline up to the point where it has an EOL or gives up. -/
def ATBuffer.search (b : ATBuffer) (fd : Fd) : Option Nat × ATBuffer × Fd :=
  let (p_eol, b) := b.enter
  match p_eol with
  | some p_eol => (some p_eol, b, fd)
  | none => b.fill (fd.reads + 1) fd

/-- Place a NUL over the EOL and return the line. -/
def ATBuffer.takeLine (b : ATBuffer) (p_eol : Nat) : List Byte × ATBuffer :=
  let b := { b with s_ATBuffer := store b.s_ATBuffer p_eol [NUL] }
  (cstr b.cells, { b with s_ATBufferCur := p_eol + 1 })

def readline (b : ATBuffer) (fd : Fd) : Option (List Byte) × ATBuffer × Fd :=
  let (p_eol, b, fd) := b.search fd
  match p_eol with
  | some p_eol =>
    let (line, b) := b.takeLine p_eol
    (some line, b, fd)
  | none => (none, b, fd)

/-- `n` successive calls. -/
def calls : Nat → ATBuffer → Fd → List (Option (List Byte)) × ATBuffer × Fd
  | 0, b, fd => ([], b, fd)
  | n + 1, b, fd =>
    let (line, b, fd) := readline b fd
    let (lines, b, fd) := calls n b fd
    (line :: lines, b, fd)

theorem calls_succ_fst (n : Nat) (b : ATBuffer) (fd : Fd) :
    (calls (n + 1) b fd).1 = (readline b fd).1 :: (calls n (readline b fd).2.1 (readline b fd).2.2).1 := rfl

theorem calls_succ_snd (n : Nat) (b : ATBuffer) (fd : Fd) :
    (calls (n + 1) b fd).2 = (calls n (readline b fd).2.1 (readline b fd).2.2).2 := rfl

end UniRil.Readline
