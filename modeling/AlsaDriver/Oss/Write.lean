import AlsaDriver.Lib.Words
import AlsaDriver.Lib.Runs

namespace AlsaDriver.Oss

abbrev Byte := BitVec 8

/-- The fields of the runtime that writing uses; `pluginFirst` tells whether there is a plugin chain. -/
structure SndPcmOssRuntime where
  periodBytes : Nat
  partialfrag : Bool
  pluginFirst : Bool
  periodPtr : Nat
  bufferUsed : Nat
  bytes : Nat
  buffer : List Byte
  positive : 0 < periodBytes
  small : periodBytes < 2 ^ 64
  allocated : buffer.length = periodBytes

/-- A call of `snd_pcm_oss_write1` under way: the data of the user, how much of it is transferred. -/
structure WriteCall where
  data : List Byte
  xfer : Nat

/-- The data from `buf` on. -/
def WriteCall.rest (call : WriteCall) : List Byte := call.data.drop call.xfer

/-- What happens from outside in one pass of the loop: the copy from the user faults, what
    `snd_pcm_oss_write2` returns, whether it recovers from an xrun, and `O_NONBLOCK`. -/
structure PassEnv where
  fault : Bool
  answer : Int
  recovers : Bool
  nonblock : Bool

/-- A range given to `snd_pcm_oss_write2`, in the buffer or in the data of the user from `buf` on. -/
inductive Given
  | buffer (offset bytes : Nat)
  | user (bytes : Nat)

namespace SndPcmOssRuntime

/-- `data` copied into the buffer from `offset` on; what has no place there is not kept. -/
def copy (r : SndPcmOssRuntime) (offset : Nat) (data : List Byte) : SndPcmOssRuntime :=
  { r with
    buffer := (r.buffer.take offset ++ data ++ r.buffer.drop (offset + data.length)).take r.periodBytes
    allocated := by
      have size := r.allocated
      simp
      omega }

def sndPcmOssPrepare (r : SndPcmOssRuntime) : SndPcmOssRuntime := { r with periodPtr := 0, bufferUsed := 0 }

/-- What `snd_pcm_oss_write2` returns: never more than it was given. -/
def write2 (env : PassEnv) (bytes : Nat) : Int := min env.answer bytes

def afterWrite2 (r : SndPcmOssRuntime) (env : PassEnv) : SndPcmOssRuntime :=
  if env.recovers then r.sndPcmOssPrepare else r

/-- The `tmp` of the short branch. -/
def room (r : SndPcmOssRuntime) (bytes : Nat) : Nat :=
  if bytes + r.bufferUsed > r.periodBytes then r.periodBytes - r.bufferUsed else bytes

/-- The number of bytes from `period_ptr` to `buffer_used`, a difference of two `size_t`. -/
def leftover (r : SndPcmOssRuntime) : Nat := Words.toUnsigned 64 ((r.bufferUsed : Int) - r.periodPtr)

end SndPcmOssRuntime

inductive Outcome
  | again (call : WriteCall)
  | done (ret : Int)

/-- What one pass leads to, with the range that it gives to `snd_pcm_oss_write2` and the bytes consumed of it. -/
structure Pass where
  runtime : SndPcmOssRuntime
  outcome : Outcome
  given : Option Given
  consumed : List Byte

def efault : Int := -14
def eagain : Int := -11

namespace WriteCall

variable (call : WriteCall)

/-- The label `err`. -/
def err (tmp : Int) : Outcome := .done (if 0 < call.xfer then call.xfer else tmp)

def advance (tmp : Nat) : WriteCall := { call with xfer := call.xfer + tmp }

variable (r : SndPcmOssRuntime) (env : PassEnv)

def flush : Pass :=
  let tmp := SndPcmOssRuntime.write2 env r.leftover
  let now := r.afterWrite2 env
  let given := some (Given.buffer r.periodPtr r.leftover)
  if tmp ≤ 0 then ⟨now, call.err tmp, given, []⟩
  else
    let ptr := (now.periodPtr + tmp.toNat) % 2 ^ 64 % now.periodBytes
    let moved := { now with bytes := now.bytes + tmp.toNat, periodPtr := ptr }
    let consumed := (r.buffer.drop r.periodPtr).take tmp.toNat
    if ptr = 0 ∨ ptr = now.bufferUsed then ⟨{ moved with bufferUsed := 0 }, .again call, given, consumed⟩
    else if env.nonblock then ⟨moved, call.err eagain, given, consumed⟩
    else ⟨moved, .again call, given, consumed⟩

def short : Pass :=
  let tmp := r.room call.rest.length
  if 0 < tmp ∧ env.fault then ⟨r, call.err efault, none, []⟩
  else
    let filled := { r.copy r.bufferUsed (call.rest.take tmp) with bufferUsed := r.bufferUsed + tmp }
    if r.partialfrag ∨ filled.bufferUsed = r.periodBytes then (call.advance tmp).flush filled env
    else ⟨filled, .again (call.advance tmp), none, []⟩

def direct : Pass :=
  let tmp := SndPcmOssRuntime.write2 env r.periodBytes
  let copied := if r.pluginFirst then r.copy 0 (call.rest.take r.periodBytes) else r
  let now := copied.afterWrite2 env
  let given := some (Given.user r.periodBytes)
  if tmp ≤ 0 then ⟨now, call.err tmp, given, []⟩
  else
    let counted := { now with bytes := now.bytes + tmp.toNat }
    let onward := call.advance tmp.toNat
    if env.nonblock ∧ tmp ≠ r.periodBytes then ⟨counted, .done onward.xfer, given, call.rest.take tmp.toNat⟩
    else ⟨counted, .again onward, given, call.rest.take tmp.toNat⟩

def pass : Pass :=
  if call.rest.length = 0 then ⟨r, .done call.xfer, none, []⟩
  else if call.rest.length < r.periodBytes ∨ 0 < r.bufferUsed then call.short r env
  else call.direct r env

end WriteCall

/-- A stream, the call that is under way, and two histories: the bytes that the calls reported as
    accepted, and those that `snd_pcm_oss_write2` consumed. -/
structure OssWriter where
  runtime : SndPcmOssRuntime
  call : Option WriteCall
  accepted : List Byte
  consumed : List Byte

inductive WriteStep
  | write (data : List Byte) (refused : Bool)
  | pass (env : PassEnv)

namespace OssWriter

def finish (s : OssWriter) (call : WriteCall) : Outcome → OssWriter
  | .again call' => { s with call := some call' }
  | .done ret => { s with call := none, accepted := s.accepted ++ call.data.take ret.toNat }

def exec (s : OssWriter) : WriteStep → OssWriter
  | .write data refused =>
    match s.call with
    | none => if refused then s else { s with call := some ⟨data, 0⟩ }
    | some _ => s
  | .pass env =>
    match s.call with
    | none => s
    | some call =>
      let pass := call.pass s.runtime env
      finish { s with runtime := pass.runtime, consumed := s.consumed ++ pass.consumed } call pass.outcome

end OssWriter

end AlsaDriver.Oss

namespace AlsaDriver.Oss

open Runs

namespace SndPcmOssRuntime

variable {r : SndPcmOssRuntime} {env : PassEnv}

def pending (r : SndPcmOssRuntime) : List Byte := (r.buffer.take r.bufferUsed).drop r.periodPtr

theorem copy_take {data : List Byte} (fits : r.bufferUsed + data.length ≤ r.periodBytes) :
    (r.copy r.bufferUsed data).buffer.take (r.bufferUsed + data.length) = r.buffer.take r.bufferUsed ++ data := by
  have size := r.allocated
  have front : (r.buffer.take r.bufferUsed ++ data).length = r.bufferUsed + data.length := by
    rw [List.length_append, List.length_take]
    omega
  show (((r.buffer.take r.bufferUsed ++ data ++ r.buffer.drop (r.bufferUsed + data.length)).take r.periodBytes).take
    (r.bufferUsed + data.length)) = _
  rw [List.take_take, Nat.min_eq_left fits, ← front, List.take_left]

theorem room_le (full : r.bufferUsed ≤ r.periodBytes) (n : Nat) : r.room n ≤ n ∧ r.bufferUsed + r.room n ≤ r.periodBytes := by
  unfold room
  split <;> omega

theorem leftover_eq (used : r.bufferUsed ≤ r.periodBytes) (ordered : r.periodPtr ≤ r.bufferUsed) :
    r.leftover = r.bufferUsed - r.periodPtr := by
  have small := r.small
  have word := Words.toUnsigned_of_range (w := 64) (x := (r.bufferUsed : Int) - r.periodPtr) (by omega) (by omega)
  unfold leftover
  omega

theorem write2_le (env : PassEnv) (n : Nat) : (write2 env n).toNat ≤ n := by
  unfold write2
  omega

structure Placed (r : SndPcmOssRuntime) : Prop where
  used : r.bufferUsed ≤ r.periodBytes
  ptr : r.periodPtr < r.periodBytes
  ordered : r.partialfrag = true → r.bufferUsed = 0 ∨ r.periodPtr ≤ r.bufferUsed

structure Steady (r : SndPcmOssRuntime) : Prop where
  ordered : r.bufferUsed = 0 ∨ r.periodPtr ≤ r.bufferUsed
  whole : r.partialfrag = false → r.periodPtr = 0 ∨ r.bufferUsed = r.periodBytes

theorem afterWrite2_steady (steady : env.recovers = false) : r.afterWrite2 env = r := by simp [afterWrite2, steady]

theorem placed_empty (empty : r.bufferUsed = 0) (ptr : r.periodPtr < r.periodBytes) : r.Placed :=
  ⟨by omega, ptr, fun _ => .inl empty⟩

theorem placed_afterWrite2 (placed : r.Placed) (env : PassEnv) : (r.afterWrite2 env).Placed := by
  unfold afterWrite2
  split
  · exact placed_empty rfl r.positive
  · exact placed

theorem pending_empty (empty : r.bufferUsed = 0) : r.pending = [] := by simp [pending, empty]

theorem pending_length (used : r.bufferUsed ≤ r.periodBytes) : r.pending.length = r.bufferUsed - r.periodPtr := by
  have size := r.allocated
  simp [pending]
  omega

end SndPcmOssRuntime

namespace WriteCall

open SndPcmOssRuntime

variable {call : WriteCall} {r : SndPcmOssRuntime} {env : PassEnv}

def Inside (call : WriteCall) (r : SndPcmOssRuntime) : Given → Prop
  | .buffer offset bytes => offset + bytes ≤ r.periodBytes
  | .user bytes => bytes ≤ call.rest.length

/-- The call goes on, or returns, with `n` bytes transferred. -/
def Moves (call : WriteCall) (n : Nat) : Outcome → Prop
  | .again call' => call' = ⟨call.data, n⟩
  | .done ret => ret.toNat = n

theorem err_moves (call : WriteCall) {tmp : Int} (fails : tmp ≤ 0) : call.Moves call.xfer (call.err tmp) := by
  unfold err
  split
  · simp [Moves]
  · simp [Moves]
    omega

theorem flush_moves (call : WriteCall) (r : SndPcmOssRuntime) (env : PassEnv) :
    call.Moves call.xfer (call.flush r env).outcome := by
  unfold flush
  dsimp only
  split
  · next fails => exact call.err_moves fails
  · split
    · rfl
    · split
      · exact call.err_moves (by decide)
      · rfl

variable (call) in
theorem flush_recovers (recovers : env.recovers = true) :
    (call.flush r env).runtime.bufferUsed = 0 ∧ (call.flush r env).runtime.periodPtr < r.periodBytes ∧
      (call.flush r env).runtime.periodBytes = r.periodBytes := by
  have positive := r.positive
  have bound (n : Nat) : n % 2 ^ 64 % r.periodBytes < r.periodBytes := Nat.mod_lt _ positive
  have now : r.afterWrite2 env = r.sndPcmOssPrepare := by simp [afterWrite2, recovers]
  unfold flush
  dsimp only
  rw [now]
  split
  · exact ⟨rfl, positive, rfl⟩
  · split
    · exact ⟨rfl, bound _, rfl⟩
    · split
      · exact ⟨rfl, bound _, rfl⟩
      · exact ⟨rfl, bound _, rfl⟩

variable (call) in
/-- Without recovery the pointer advances by what was consumed; once everything is consumed the
    buffer counts as empty, but the pointer is back at the start only from the end of the period. -/
theorem flush_steady (used : r.bufferUsed ≤ r.periodBytes) (front : r.periodPtr < r.bufferUsed)
    (steady : env.recovers = false) :
    ∃ w, (call.flush r env).consumed = r.pending.take w ∧ (call.flush r env).runtime.pending = r.pending.drop w ∧
      (call.flush r env).runtime.periodBytes = r.periodBytes ∧
      (call.flush r env).runtime.partialfrag = r.partialfrag ∧
      ((call.flush r env).runtime.bufferUsed = r.bufferUsed ∧ (call.flush r env).runtime.periodPtr < r.bufferUsed ∨
        (call.flush r env).runtime.bufferUsed = 0 ∧ (call.flush r env).runtime.periodPtr < r.periodBytes ∧
          (r.bufferUsed = r.periodBytes → (call.flush r env).runtime.periodPtr = 0)) := by
  have leftover := leftover_eq used (Nat.le_of_lt front)
  have small := r.small
  have within := write2_le env r.leftover
  have now : r.afterWrite2 env = r := afterWrite2_steady steady
  unfold flush
  dsimp only
  rw [now]
  generalize write2 env r.leftover = tmp at within ⊢
  split
  · next fails => exact ⟨0, by simp, by simp, rfl, rfl, .inl ⟨rfl, front⟩⟩
  · next moves =>
    have word : (r.periodPtr + tmp.toNat) % 2 ^ 64 = r.periodPtr + tmp.toNat := Nat.mod_eq_of_lt (by omega)
    have consumed : (r.buffer.drop r.periodPtr).take tmp.toNat = r.pending.take tmp.toNat := by
      rw [SndPcmOssRuntime.pending, List.drop_take, List.take_take, Nat.min_eq_left (by omega)]
    rw [word]
    by_cases ended : r.periodPtr + tmp.toNat = r.bufferUsed
    · have beyond : r.pending.length ≤ tmp.toNat := by
        rw [pending_length used]
        omega
      by_cases full : r.bufferUsed = r.periodBytes
      · have back : (r.periodPtr + tmp.toNat) % r.periodBytes = 0 := by rw [ended, full, Nat.mod_self]
        rw [back, if_pos (.inl rfl)]
        exact ⟨tmp.toNat, consumed, by rw [List.drop_eq_nil_of_le beyond]; exact pending_empty rfl, rfl, rfl,
          .inr ⟨rfl, r.positive, fun _ => rfl⟩⟩
      · have stays : (r.periodPtr + tmp.toNat) % r.periodBytes = r.bufferUsed := by
          rw [ended, Nat.mod_eq_of_lt (by omega)]
        rw [stays, if_pos (.inr rfl)]
        exact ⟨tmp.toNat, consumed, by rw [List.drop_eq_nil_of_le beyond]; exact pending_empty rfl, rfl, rfl,
          .inr ⟨rfl, by dsimp only; omega, fun same => absurd same full⟩⟩
    · have inside : (r.periodPtr + tmp.toNat) % r.periodBytes = r.periodPtr + tmp.toNat := Nat.mod_eq_of_lt (by omega)
      rw [inside, if_neg (by omega)]
      have pending : (r.buffer.take r.bufferUsed).drop (r.periodPtr + tmp.toNat) = r.pending.drop tmp.toNat := by
        rw [SndPcmOssRuntime.pending, List.drop_drop]
      split
      · exact ⟨tmp.toNat, consumed, pending, rfl, rfl, .inl ⟨rfl, by dsimp only; omega⟩⟩
      · exact ⟨tmp.toNat, consumed, pending, rfl, rfl, .inl ⟨rfl, by dsimp only; omega⟩⟩

def filled (call : WriteCall) (r : SndPcmOssRuntime) : SndPcmOssRuntime :=
  { r.copy r.bufferUsed (call.rest.take (r.room call.rest.length)) with
    bufferUsed := r.bufferUsed + r.room call.rest.length }

def Clean (call : WriteCall) (r : SndPcmOssRuntime) : Prop :=
  r.partialfrag = true → r.bufferUsed = 0 → 0 < r.periodPtr → call.rest.length = 0 ∨ r.periodBytes ≤ call.rest.length

theorem short_cases (call : WriteCall) (r : SndPcmOssRuntime) (env : PassEnv) :
    call.short r env = ⟨r, call.err efault, none, []⟩ ∨
      (r.partialfrag = true ∨ (filled call r).bufferUsed = r.periodBytes) ∧
        call.short r env = (call.advance (r.room call.rest.length)).flush (filled call r) env ∨
      r.partialfrag = false ∧
        call.short r env = ⟨filled call r, .again (call.advance (r.room call.rest.length)), none, []⟩ := by
  unfold short
  dsimp only
  split
  · exact .inl rfl
  · split
    · next calls => exact .inr (.inl ⟨calls, rfl⟩)
    · next rests => exact .inr (.inr ⟨by simpa using fun set => rests (.inl set), rfl⟩)

theorem filled_used (used : r.bufferUsed ≤ r.periodBytes) : (filled call r).bufferUsed ≤ r.periodBytes :=
  (room_le used _).2

theorem filled_pending (used : r.bufferUsed ≤ r.periodBytes) (ordered : r.periodPtr ≤ r.bufferUsed) :
    (filled call r).pending = r.pending ++ call.rest.take (r.room call.rest.length) := by
  obtain ⟨part, fits⟩ := room_le used call.rest.length
  have size := r.allocated
  have length : (call.rest.take (r.room call.rest.length)).length = r.room call.rest.length := by
    rw [List.length_take, Nat.min_eq_left part]
  have copied : (r.copy r.bufferUsed _).buffer.take (r.bufferUsed + _) = _ :=
    copy_take (show r.bufferUsed + (call.rest.take (r.room call.rest.length)).length ≤ r.periodBytes by omega)
  rw [length] at copied
  show ((r.copy r.bufferUsed _).buffer.take (r.bufferUsed + r.room call.rest.length)).drop r.periodPtr = _
  rw [copied, List.drop_append_of_le_length]
  · rfl
  · rw [List.length_take]
    omega

theorem filled_front (placed : r.Placed) (clean : call.Clean r) (some_ : 0 < call.rest.length)
    (branch : call.rest.length < r.periodBytes ∨ 0 < r.bufferUsed)
    (calls : r.partialfrag = true ∨ (filled call r).bufferUsed = r.periodBytes) :
    (filled call r).periodPtr < (filled call r).bufferUsed := by
  show r.periodPtr < r.bufferUsed + r.room call.rest.length
  have used := placed.used
  have ptr := placed.ptr
  rcases calls with set | full
  · have ordered := placed.ordered set
    have start := clean set
    have which := branch
    unfold room
    split <;> omega
  · have total : r.bufferUsed + r.room call.rest.length = r.periodBytes := full
    omega

theorem flush_given (used : r.bufferUsed ≤ r.periodBytes) (front : r.periodPtr < r.bufferUsed) :
    (call.flush r env).given = some (.buffer r.periodPtr r.leftover) ∧ r.periodPtr + r.leftover ≤ r.periodBytes := by
  constructor
  · unfold flush
    dsimp only
    repeat' split
    all_goals rfl
  · rw [leftover_eq used (Nat.le_of_lt front)]
    omega

theorem flush_placed (used : r.bufferUsed ≤ r.periodBytes) (front : r.periodPtr < r.bufferUsed) :
    (call.flush r env).runtime.Placed := by
  cases recovers : env.recovers
  · obtain ⟨w, -, -, bytes, -, part | empty⟩ := flush_steady call used front recovers
    · refine ⟨?_, ?_, fun _ => .inr ?_⟩ <;> omega
    · exact placed_empty empty.1 (by rw [bytes]; exact empty.2.1)
  · obtain ⟨empty, ptr, bytes⟩ := flush_recovers (r := r) call recovers
    exact placed_empty empty (by rw [bytes]; exact ptr)

def copied (call : WriteCall) (r : SndPcmOssRuntime) : SndPcmOssRuntime :=
  if r.pluginFirst then r.copy 0 (call.rest.take r.periodBytes) else r

structure Same (r r' : SndPcmOssRuntime) : Prop where
  ptr : r'.periodPtr = r.periodPtr
  used : r'.bufferUsed = r.bufferUsed
  period : r'.periodBytes = r.periodBytes
  partialfrag : r'.partialfrag = r.partialfrag

theorem copied_same (call : WriteCall) (r : SndPcmOssRuntime) : Same r (copied call r) := by
  unfold copied
  split <;> exact ⟨rfl, rfl, rfl, rfl⟩

theorem direct_spec (call : WriteCall) (r : SndPcmOssRuntime) (env : PassEnv) :
    Same ((copied call r).afterWrite2 env) (call.direct r env).runtime ∧
      (call.direct r env).given = some (.user r.periodBytes) ∧
      ∃ n ≤ r.periodBytes, (call.direct r env).consumed = call.rest.take n ∧
        call.Moves (call.xfer + n) (call.direct r env).outcome := by
  have within := write2_le env r.periodBytes
  unfold direct
  dsimp only
  split
  · next fails => exact ⟨⟨rfl, rfl, rfl, rfl⟩, rfl, 0, Nat.zero_le _, by simp, call.err_moves fails⟩
  · split
    · exact ⟨⟨rfl, rfl, rfl, rfl⟩, rfl, _, within, rfl, rfl⟩
    · exact ⟨⟨rfl, rfl, rfl, rfl⟩, rfl, _, within, rfl, rfl⟩

theorem pass_placed (placed : r.Placed) (clean : call.Clean r) :
    (call.pass r env).runtime.Placed ∧ (∀ given ∈ (call.pass r env).given, Inside call r given) := by
  have none_ (given : Given) (is : given ∈ (none : Option Given)) : Inside call r given := by cases is
  unfold pass
  split
  · exact ⟨placed, none_⟩
  · next some_ =>
    split
    · next branch =>
      rcases short_cases call r env with fault | ⟨calls, flush⟩ | ⟨whole, rests⟩
      · rw [fault]
        exact ⟨placed, none_⟩
      · rw [flush]
        have used : (filled call r).bufferUsed ≤ r.periodBytes := filled_used placed.used
        have front := filled_front placed clean (by omega) branch calls
        obtain ⟨given, inside⟩ := flush_given used front
        refine ⟨flush_placed used front, fun range is => ?_⟩
        rw [given] at is
        cases is
        exact inside
      · rw [rests]
        exact ⟨⟨filled_used placed.used, placed.ptr, fun set => by
          have same : r.partialfrag = true := set
          rw [whole] at same
          cases same⟩, none_⟩
    · next branch =>
      obtain ⟨same, given, -⟩ := direct_spec call r env
      have before := copied_same call r
      have empty : r.bufferUsed = 0 := by omega
      have placed' : (copied call r).Placed :=
        placed_empty (before.used.trans empty) (by rw [before.ptr, before.period]; exact placed.ptr)
      have after := placed_afterWrite2 placed' env
      refine ⟨⟨?_, ?_, ?_⟩, fun range is => ?_⟩
      · rw [same.used, same.period]
        exact after.used
      · rw [same.ptr, same.period]
        exact after.ptr
      · rw [same.ptr, same.used, same.partialfrag]
        exact after.ordered
      · rw [given] at is
        cases is
        show r.periodBytes ≤ call.rest.length
        omega

theorem filled_steady (ptr : r.periodPtr < r.periodBytes) (steady : r.Steady) (clean : call.Clean r) (some_ : 0 < call.rest.length)
    (branch : call.rest.length < r.periodBytes ∨ 0 < r.bufferUsed) : r.periodPtr ≤ r.bufferUsed := by
  rcases steady.ordered with empty | ordered
  · cases set : r.partialfrag
    · rcases steady.whole set with start | full <;> omega
    · have start := clean set empty
      omega
  · exact ordered

/-- Without recovery one pass loses nothing: what it consumes and what is then pending are what was
    pending before and what the call has taken of its data. -/
theorem pass_lossless (placed : r.Placed) (steady : r.Steady) (clean : call.Clean r) (quiet : env.recovers = false) :
    (call.pass r env).runtime.Steady ∧
      ∃ n, call.Moves (call.xfer + n) (call.pass r env).outcome ∧
        (call.pass r env).consumed ++ (call.pass r env).runtime.pending = r.pending ++ call.rest.take n := by
  unfold pass
  split
  · exact ⟨steady, 0, by simp [Moves], by simp⟩
  · next some_ =>
    split
    · next branch =>
      have ordered := filled_steady placed.ptr steady clean (by omega) branch
      rcases short_cases call r env with fault | ⟨calls, flush⟩ | ⟨whole, rests⟩
      · rw [fault]
        exact ⟨steady, 0, call.err_moves (by decide), by simp⟩
      · rw [flush]
        have used : (filled call r).bufferUsed ≤ r.periodBytes := filled_used placed.used
        have front := filled_front placed clean (by omega) branch calls
        have moves := flush_moves (call.advance (r.room call.rest.length)) (filled call r) env
        obtain ⟨w, consumed, pending, bytes, partial_, where_⟩ :=
          flush_steady (call.advance (r.room call.rest.length)) used front quiet
        refine ⟨?_, r.room call.rest.length, moves, ?_⟩
        · constructor
          · rcases where_ with ⟨same, behind⟩ | ⟨empty, -⟩
            · right
              omega
            · exact .inl empty
          · intro unset
            rw [partial_] at unset
            have full := calls.resolve_left fun set => Bool.false_ne_true (unset.symm.trans set)
            have period : (filled call r).periodBytes = r.periodBytes := rfl
            rcases where_ with ⟨same, -⟩ | ⟨-, -, back⟩
            · right
              omega
            · exact .inl (back full)
        · rw [consumed, pending, List.take_append_drop]
          exact filled_pending placed.used ordered
      · rw [rests]
        have fits := (room_le placed.used call.rest.length).2
        refine ⟨⟨.inr ?_, fun _ => ?_⟩, r.room call.rest.length, rfl, filled_pending placed.used ordered⟩
        · show r.periodPtr ≤ r.bufferUsed + r.room call.rest.length
          omega
        · rcases steady.whole whole with start | full
          · exact .inl start
          · right
            show r.bufferUsed + r.room call.rest.length = r.periodBytes
            omega
    · next branch =>
      obtain ⟨same, -, n, -, consumed, moves⟩ := direct_spec call r env
      have before := copied_same call r
      rw [afterWrite2_steady quiet] at same
      have empty : r.bufferUsed = 0 := by omega
      have empty' : (call.direct r env).runtime.bufferUsed = 0 := same.used.trans (before.used.trans empty)
      refine ⟨⟨.inl empty', fun unset => .inl ?_⟩, n, moves, ?_⟩
      · rw [same.partialfrag, before.partialfrag] at unset
        have whole := steady.whole unset
        have positive := r.positive
        rw [same.ptr, before.ptr]
        omega
      · rw [consumed, pending_empty empty, pending_empty empty', List.append_nil, List.nil_append]

end WriteCall

instance WriteCall.instDecidableClean (call : WriteCall) (r : SndPcmOssRuntime) : Decidable (call.Clean r) := by
  unfold WriteCall.Clean
  infer_instance

def WriteStep.Quiet : WriteStep → Prop
  | .write _ _ => True
  | .pass env => env.recovers = false

namespace OssWriter

open SndPcmOssRuntime

def Clean (s : OssWriter) : WriteStep → Prop
  | .write _ _ => True
  | .pass _ => ∀ call ∈ s.call, call.Clean s.runtime

instance instDecidableClean (s : OssWriter) : (step : WriteStep) → Decidable (s.Clean step)
  | .write _ _ => inferInstanceAs (Decidable True)
  | .pass _ => inferInstanceAs (Decidable (∀ call ∈ s.call, call.Clean s.runtime))

def Ranges (s : OssWriter) (step : WriteStep) (s' : OssWriter) : Prop :=
  (s'.runtime.bufferUsed ≤ s'.runtime.periodBytes ∧ s'.runtime.periodPtr ≤ s'.runtime.periodBytes) ∧
    ∀ env, step = .pass env → ∀ call ∈ s.call, ∀ given ∈ (call.pass s.runtime env).given, call.Inside s.runtime given

def taken (s : OssWriter) : List Byte := s.accepted ++ s.call.elim [] fun call => call.data.take call.xfer

def Lossless (s : OssWriter) : Prop :=
  (0 < s.runtime.bufferUsed → s.runtime.periodPtr ≤ s.runtime.bufferUsed) ∧
    s.consumed ++ s.runtime.pending = s.taken

def Steadily (s : OssWriter) : Prop := s.runtime.Placed ∧ s.runtime.Steady ∧ s.consumed ++ s.runtime.pending = s.taken

theorem Steadily.lossless {s : OssWriter} (steadily : s.Steadily) : s.Lossless := by
  obtain ⟨-, steady, whole⟩ := steadily
  exact ⟨fun some_ => steady.ordered.resolve_left (by omega), whole⟩

theorem finish_taken (s : OssWriter) {call : WriteCall} {n : Nat} {outcome : Outcome} (moves : call.Moves n outcome) :
    (s.finish call outcome).taken = s.accepted ++ call.data.take n := by
  cases outcome with
  | again call' =>
    have same : call' = ⟨call.data, n⟩ := moves
    simp [finish, taken, same]
  | done ret =>
    have same : ret.toNat = n := moves
    simp [finish, taken, same]

theorem finish_runtime (s : OssWriter) (call : WriteCall) (outcome : Outcome) :
    (s.finish call outcome).runtime = s.runtime ∧ (s.finish call outcome).consumed = s.consumed := by
  cases outcome <;> exact ⟨rfl, rfl⟩

theorem exec_pass {s : OssWriter} {call : WriteCall} (under : s.call = some call) (env : PassEnv) :
    s.exec (.pass env) = finish { s with
      runtime := (call.pass s.runtime env).runtime
      consumed := s.consumed ++ (call.pass s.runtime env).consumed } call (call.pass s.runtime env).outcome := by
  simp [exec, under]

theorem exec_write (s : OssWriter) (data : List Byte) (refused : Bool) :
    (s.exec (.write data refused)).runtime = s.runtime ∧ (s.exec (.write data refused)).consumed = s.consumed ∧
      (s.exec (.write data refused)).taken = s.taken := by
  cases under : s.call with
  | none => cases refused <;> simp [exec, under, taken]
  | some call => simp [exec, under]

theorem exec_placed {s : OssWriter} (placed : s.runtime.Placed) {step : WriteStep} (clean : s.Clean step) :
    s.Ranges step (s.exec step) ∧ (s.exec step).runtime.Placed := by
  cases step with
  | write data refused =>
    obtain ⟨runtime, -, -⟩ := s.exec_write data refused
    rw [Ranges, runtime]
    exact ⟨⟨⟨placed.used, Nat.le_of_lt placed.ptr⟩, fun env same => by cases same⟩, placed⟩
  | pass env =>
    cases under : s.call with
    | none =>
      have same : s.exec (.pass env) = s := by simp [exec, under]
      rw [Ranges, same, under]
      exact ⟨⟨⟨placed.used, Nat.le_of_lt placed.ptr⟩, fun _ _ call none_ => by cases none_⟩, placed⟩
    | some call =>
      obtain ⟨after, inside⟩ := WriteCall.pass_placed placed (clean call under)
      have runtime : (s.exec (.pass env)).runtime = (call.pass s.runtime env).runtime := by
        rw [exec_pass under, (finish_runtime _ call _).1]
      rw [Ranges, runtime, under]
      refine ⟨⟨⟨after.used, Nat.le_of_lt after.ptr⟩, fun env' same call' now => ?_⟩, after⟩
      cases same
      cases now
      exact inside

theorem exec_steadily {s : OssWriter} (steadily : s.Steadily) {step : WriteStep} (clean : s.Clean step)
    (quiet : step.Quiet) : (s.exec step).Steadily := by
  obtain ⟨placed, steady, whole⟩ := steadily
  refine ⟨(exec_placed placed clean).2, ?_⟩
  cases step with
  | write data refused =>
    obtain ⟨runtime, consumed, taken⟩ := s.exec_write data refused
    rw [runtime, consumed, taken]
    exact ⟨steady, whole⟩
  | pass env =>
    cases under : s.call with
    | none =>
      have same : s.exec (.pass env) = s := by simp [exec, under]
      rw [same]
      exact ⟨steady, whole⟩
    | some call =>
      obtain ⟨after, n, moves, kept⟩ := WriteCall.pass_lossless placed steady (clean call under) quiet
      have before : s.taken = s.accepted ++ call.data.take call.xfer := by simp [taken, under]
      rw [exec_pass under, finish_taken _ moves]
      obtain ⟨runtime, consumed⟩ := finish_runtime { s with
        runtime := (call.pass s.runtime env).runtime
        consumed := s.consumed ++ (call.pass s.runtime env).consumed } call (call.pass s.runtime env).outcome
      rw [runtime, consumed]
      refine ⟨after, ?_⟩
      show s.consumed ++ (call.pass s.runtime env).consumed ++ (call.pass s.runtime env).runtime.pending = _
      rw [List.append_assoc, kept, ← List.append_assoc, whole, before, List.append_assoc, List.take_add]
      rfl

def start (r : SndPcmOssRuntime) : OssWriter := ⟨r.sndPcmOssPrepare, none, [], []⟩

/-- The ranges stay inside whatever happens; without recovery nothing is lost either. -/
theorem writes_lossless (r : SndPcmOssRuntime) (steps : List WriteStep)
    (clean : Throughout exec (fun s step _ => s.Clean step) (start r) steps) :
    Throughout exec Ranges (start r) steps ∧
      ((∀ step ∈ steps, step.Quiet) → Throughout exec (fun _ _ s' => s'.Lossless) (start r) steps) := by
  have placed : (start r).runtime.Placed := placed_empty rfl r.positive
  refine ⟨clean.steps (fun s => s.runtime.Placed) placed fun s step inv clean => exec_placed inv clean, fun quiet => ?_⟩
  have steadily : (start r).Steadily := ⟨placed, ⟨.inl rfl, fun _ => .inl rfl⟩, pending_empty rfl⟩
  have both := clean.and (throughout_labels.mpr quiet)
  apply both.steps Steadily steadily
  intro s step inv ⟨clean, quiet⟩
  have next := exec_steadily inv clean quiet
  exact ⟨next.lossless, next⟩

def fourBytes : SndPcmOssRuntime where
  periodBytes := 4
  partialfrag := true
  pluginFirst := false
  periodPtr := 0
  bufferUsed := 0
  bytes := 0
  buffer := [0, 0, 0, 0]
  positive := by decide
  small := by decide
  allocated := rfl

def taking (n : Int) : WriteStep := .pass ⟨false, n, false, false⟩

def parts : List WriteStep :=
  [.write [1, 2, 3] false, taking 2, taking 0, .write [4] false, taking 2, taking 0, .write [5, 6, 7, 8] false, taking 4,
    taking 0]

/-- A fragment that is taken in two parts, and one period of the user's data. -/
theorem writes_lossless_parts :
    Throughout exec Ranges (start fourBytes) parts ∧
      ((∀ step ∈ parts, step.Quiet) → Throughout exec (fun _ _ s' => s'.Lossless) (start fourBytes) parts) :=
  writes_lossless fourBytes parts (by decide)

/-- Two bytes are taken whole, the third is put in front of the pointer that they leave. -/
theorem short_writes_overrun :
    ¬ Throughout exec Ranges (start fourBytes) [.write [1, 2] false, taking 2, taking 0, .write [3] false, taking 1] := by
  intro claim
  obtain ⟨-, -, -, -, ⟨-, ranges⟩, -⟩ := claim
  have inside : 2 + (2 ^ 64 - 1) ≤ 4 := ranges _ rfl _ rfl _ rfl
  omega

end OssWriter

end AlsaDriver.Oss
