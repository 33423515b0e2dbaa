import P2PMesh.Base.Bytes
import P2PMesh.Base.Counter
import P2PMesh.Base.Fifo
import P2PMesh.Base.Run
import P2PMesh.Base.Table

namespace P2PMesh.Fast
open P2PMesh.Base
set_option autoImplicit true

structure FastPathConfig where
  maxPayloadSize : Nat
  bufferPoolSize : Nat
  encryptBatchSize : Nat

inductive FastPathError where
  | packetTooLarge
  | bufferExhausted
  | channelClosed
deriving DecidableEq

/-- A buffer has the bytes for which there is room in it, of which the first `len` are used. -/
structure PacketBuffer where
  data : Bytes
  len : Nat
  capacity : Nat
  inUse : Bool
  sized : data.length = capacity
  len_le : len ≤ capacity

theorem zeroed_length (capacity : Nat) :
    (List.replicate capacity (0 : UInt8)).length = capacity := List.length_replicate

def PacketBuffer.new (capacity : Nat) : PacketBuffer :=
  ⟨List.replicate capacity 0, 0, capacity, false, zeroed_length capacity, Nat.zero_le capacity⟩

section PacketBuffer
variable (b : PacketBuffer)

def PacketBuffer.asSlice : Bytes := b.data.take b.len

def PacketBuffer.setLen (len : Nat) : PacketBuffer :=
  { b with
    len := min len b.capacity
    len_le := Nat.min_le_right len b.capacity }

def PacketBuffer.reset : PacketBuffer :=
  { b with
    len := 0
    inUse := false
    len_le := Nat.zero_le b.capacity }

theorem length_overwrite {data payload : Bytes} (h : payload.length ≤ data.length) :
    (payload ++ data.drop payload.length).length = data.length := by
  rw [List.length_append, List.length_drop, Nat.add_sub_cancel' h]

/-- The first bytes are overwritten; `none` is the panic of a slice that is out of range. -/
def PacketBuffer.copyFromSlice (payload : Bytes) : Option PacketBuffer :=
  if h : payload.length ≤ b.data.length then
    some { b with
      data := payload ++ b.data.drop payload.length
      sized := (length_overwrite h).trans b.sized }
  else none

end PacketBuffer

structure BufferPool where
  buffers : List PacketBuffer
  capacity : Nat
  bufferSize : Nat
  allocated : UInt64
  released : UInt64

def BufferPool.new (poolSize bufferSize : Nat) : BufferPool :=
  ⟨List.replicate poolSize (.new bufferSize), poolSize, bufferSize, 0, 0⟩

section BufferPool
variable (overflowChecks : Bool) (pool : BufferPool)

/-- The lock on the buffers is held all along. `none` is a panic, with which the buffer goes. -/
def BufferPool.acquire : Option (Option PacketBuffer) × BufferPool :=
  match pool.buffers with
  | [] => (some none, pool)
  | buf :: rest =>
    match addU64 overflowChecks pool.allocated 1 with
    | none => (none, { pool with buffers := rest })
    | some allocated =>
      let buf := { buf.reset with inUse := true }
      (some (some buf), { pool with
        buffers := rest
        allocated })

/-- The buffer is back in the pool before its release is counted. -/
def BufferPool.release (buffer : PacketBuffer) : Option Unit × BufferPool :=
  let buffers := pool.buffers ++ [buffer.reset]
  match addU64 overflowChecks pool.released 1 with
  | none => (none, { pool with buffers })
  | some released => (some (), { pool with
    buffers
    released })

end BufferPool

structure FastPathMetrics where
  totalPackets : UInt64
  lastMeasurement : Nat

/-- The buffers in the channel stand in the order in which they were sent. -/
structure FastPath where
  bufferPool : BufferPool
  config : FastPathConfig
  metrics : FastPathMetrics
  channel : List PacketBuffer
  channelCapacity : Nat

/-- The largest number of permits of a semaphore, by which a channel is bounded. -/
def maxPermits : Nat := 2 ^ 61 - 1

/-- `none` is the panic of a channel without room for any message, or for too many. -/
def FastPath.new (config : FastPathConfig) (now : Nat) : Option FastPath :=
  if config.bufferPoolSize = 0 ∨ maxPermits < config.bufferPoolSize then none
  else some ⟨.new config.bufferPoolSize config.maxPayloadSize, config, ⟨0, now⟩, [],
    config.bufferPoolSize⟩

/-- A call of `submit_packet` whose buffer is filled and goes into the channel next. -/
structure SubmitCall where
  payload : Bytes
  buf : PacketBuffer

/-- A call of `process_batch` takes buffers out of the channel and then gives them back. -/
inductive ProcessCall where
  | collecting (batch : List PacketBuffer)
  | releasing (rest : List PacketBuffer) (processed : Nat)

/-- The buffers in the hands of the call. -/
def ProcessCall.held : ProcessCall → List PacketBuffer
  | .collecting batch => batch
  | .releasing rest _ => rest

/-- The buffers that the call has taken and that are not in the metrics yet. -/
def ProcessCall.uncounted : ProcessCall → Nat
  | .collecting batch => batch.length
  | .releasing _ processed => processed

/-- The engine with the calls that are under way, of which one at most holds the receiver. Beside it
stand the payloads accepted so far and the number of buffers taken out of the channel. -/
structure FastPathRun where
  engine : FastPath
  submits : Std.TreeMap Nat SubmitCall
  receiver : Option ProcessCall
  accepted : List Bytes
  received : Nat

def FastPathRun.start (engine : FastPath) : FastPathRun := ⟨engine, ∅, none, [], 0⟩

/-- A call goes on from one lock to the next; one that is dropped takes with it what it holds. -/
inductive FastPathOp where
  | beginSubmit (call : Nat) (payload : Bytes)
  | send (call : Nat)
  | lockReceiver
  | tryRecv
  | release
  | updateMetrics (now : Nat)
  | dropSubmit (call : Nat)
  | dropProcess

section Steps
variable (overflowChecks : Bool) (r : FastPathRun)

/-- The answer of the call, if it is at its end. -/
def FastPathRun.beginSubmit (call : Nat) (payload : Bytes) :
    Option (Except FastPathError Unit) × FastPathRun :=
  if r.submits[call]?.isSome then (none, r)
  else if r.engine.config.maxPayloadSize < payload.length then (some (.error .packetTooLarge), r)
  else
    let (acquired, bufferPool) := r.engine.bufferPool.acquire overflowChecks
    let r := { r with engine := { r.engine with bufferPool } }
    match acquired with
    | none => (none, r)
    | some none => (some (.error .bufferExhausted), r)
    | some (some buf) =>
      match buf.copyFromSlice payload with
      | none => (none, r)
      | some buf =>
        let submit := ⟨payload, buf.setLen payload.length⟩
        (none, { r with submits := r.submits.insert call submit })

/-- A call waits here while the channel is full; the receiver is never dropped. -/
def FastPathRun.send (call : Nat) : Option (Except FastPathError Unit) × FastPathRun :=
  match r.submits[call]? with
  | none => (none, r)
  | some submit =>
    if r.engine.channel.length < r.engine.channelCapacity then
      (some (.ok ()), { r with
        engine := { r.engine with channel := r.engine.channel ++ [submit.buf] }
        submits := r.submits.erase call
        accepted := r.accepted ++ [submit.payload] })
    else (none, r)

def FastPathRun.lockReceiver : FastPathRun :=
  match r.receiver with
  | none => { r with receiver := some (.collecting []) }
  | some _ => r

/-- A batch that is empty is the end of the call. -/
def FastPathRun.endBatch (batch : List PacketBuffer) : FastPathRun :=
  match batch with
  | [] => { r with receiver := none }
  | first :: rest => { r with
    receiver := some (.releasing (first :: rest) (rest.length + 1)) }

def FastPathRun.tryRecv : FastPathRun :=
  match r.receiver with
  | some (.collecting batch) =>
    if batch.length < r.engine.config.encryptBatchSize then
      match r.engine.channel with
      | [] => r.endBatch batch
      | buf :: channel => { r with
        engine := { r.engine with channel }
        receiver := some (.collecting (batch ++ [buf]))
        received := r.received + 1 }
    else r.endBatch batch
  | _ => r

def FastPathRun.release : FastPathRun :=
  match r.receiver with
  | some (.releasing (buf :: rest) processed) =>
    let (counted, bufferPool) := r.engine.bufferPool.release overflowChecks buf
    { r with
      engine := { r.engine with bufferPool }
      receiver := counted.map (fun _ => .releasing rest processed) }
  | _ => r

def FastPathRun.updateMetrics (now : Nat) : FastPathRun :=
  match r.receiver with
  | some (.releasing [] processed) =>
    match addU64 overflowChecks r.engine.metrics.totalPackets (.ofNat processed) with
    | none => { r with receiver := none }
    | some totalPackets => { r with
      engine := { r.engine with metrics := ⟨totalPackets, now⟩ }
      receiver := none }
  | _ => r

/-- Taking buffers out of the channel is no point at which a call can be dropped. -/
def FastPathRun.dropProcess : FastPathRun :=
  match r.receiver with
  | some (.releasing _ _) => { r with receiver := none }
  | _ => r

def FastPathRun.step : FastPathOp → FastPathRun
  | .beginSubmit call payload => (r.beginSubmit overflowChecks call payload).2
  | .send call => (r.send call).2
  | .lockReceiver => r.lockReceiver
  | .tryRecv => r.tryRecv
  | .release => r.release overflowChecks
  | .updateMetrics now => r.updateMetrics overflowChecks now
  | .dropSubmit call => { r with submits := r.submits.erase call }
  | .dropProcess => r.dropProcess

def FastPathRun.run (ops : List FastPathOp) : FastPathRun :=
  ops.foldl (FastPathRun.step overflowChecks) r

def FastPathRun.batch : List PacketBuffer := r.receiver.elim [] (·.held)

def FastPathRun.uncounted : Nat := r.receiver.elim 0 (·.uncounted)

/-- The number of the buffers that calls under way have in their hands. -/
def FastPathRun.held : Nat := r.submits.size + r.batch.length

/-- No buffer is lost, whoever has a buffer to send finds room for it, the channel holds the
payloads that have been accepted and not yet been taken out, and the metrics count the buffers taken
out, but for those of the call that still deals with them. -/
structure FastPathRun.Conserved : Prop where
  buffers : r.engine.bufferPool.buffers.length + r.engine.channel.length + r.held =
    r.engine.config.bufferPoolSize
  room : ∀ (call : Nat) submit, r.submits[call]? = some submit →
    r.engine.channel.length < r.engine.channelCapacity
  queued : Fifo PacketBuffer.asSlice r.accepted r.received r.engine.channel
  counted : r.engine.metrics.totalPackets.toNat + r.uncounted = r.received

/-- The counter of the allocations has room for one that is counted with overflow checks, the total
has room for a batch, and no call is dropped that holds something. -/
def FastPathRun.Safe : FastPathOp → Prop
  | .beginSubmit call payload => ¬ (overflowChecks = true ∧ r.submits[call]? = none ∧
    payload.length ≤ r.engine.config.maxPayloadSize ∧ r.engine.bufferPool.buffers ≠ [] ∧
      r.engine.bufferPool.allocated = 18446744073709551615)
  | .updateMetrics _ => ∀ processed, r.receiver = some (.releasing [] processed) →
    r.engine.metrics.totalPackets.toNat + processed < 2 ^ 64
  | .dropSubmit call => r.submits[call]? = none
  | .dropProcess => ∀ rest processed, r.receiver ≠ some (.releasing rest processed)
  | _ => True

end Steps

section Buffers

theorem PacketBuffer.asSlice_filled {b filled : PacketBuffer} {payload : Bytes}
    (h : b.copyFromSlice payload = some filled) :
    (filled.setLen payload.length).asSlice = payload := by
  rw [PacketBuffer.copyFromSlice] at h
  split at h
  · next hle =>
    cases h
    have hmin : min payload.length b.capacity = payload.length :=
      Nat.min_eq_left (b.sized ▸ hle)
    change (payload ++ b.data.drop payload.length).take (min payload.length b.capacity) = payload
    rw [hmin, List.take_left]
  · cases h

theorem PacketBuffer.exists_filled {b : PacketBuffer} {payload : Bytes}
    (h : payload.length ≤ b.capacity) : ∃ filled, b.copyFromSlice payload = some filled ∧
      filled.capacity = b.capacity := by
  rw [PacketBuffer.copyFromSlice, dif_pos (b.sized.symm ▸ h)]
  exact ⟨_, rfl, rfl⟩

variable {overflowChecks : Bool} {pool : BufferPool}

theorem BufferPool.acquire_full (hbuffers : pool.buffers = buf :: rest)
    (hfull : overflowChecks = true ∧ pool.allocated = 18446744073709551615) :
    pool.acquire overflowChecks = (none, { pool with buffers := rest }) := by
  rw [BufferPool.acquire, hbuffers]
  dsimp only
  rw [addU64_one, if_pos hfull]

theorem BufferPool.acquire_room (hbuffers : pool.buffers = buf :: rest)
    (hroom : ¬ (overflowChecks = true ∧ pool.allocated = 18446744073709551615)) :
    pool.acquire overflowChecks = (some (some { buf.reset with inUse := true }), { pool with
      buffers := rest
      allocated := pool.allocated + 1 }) := by
  rw [BufferPool.acquire, hbuffers]
  dsimp only
  rw [addU64_one, if_neg hroom]

end Buffers

/-- Every buffer has the size of a payload, wherever it is; a buffer to be sent holds the payload of
its call; a batch that is given back is not empty; with overflow checks the counters of the pool say
how many buffers are out of it. -/
structure FastPathRun.Sound (overflowChecks : Bool) (r : FastPathRun) : Prop where
  pooled : ∀ b ∈ r.engine.bufferPool.buffers, b.capacity = r.engine.config.maxPayloadSize
  sent : ∀ b ∈ r.engine.channel, b.capacity = r.engine.config.maxPayloadSize
  batched : ∀ b ∈ r.batch, b.capacity = r.engine.config.maxPayloadSize
  filled : ∀ (call : Nat) submit, r.submits[call]? = some submit →
    submit.buf.capacity = r.engine.config.maxPayloadSize ∧ submit.buf.asSlice = submit.payload
  bounded : r.engine.channelCapacity = r.engine.config.bufferPoolSize
  working : ∀ rest processed, r.receiver = some (.releasing rest processed) → 0 < processed
  allocated : overflowChecks = true → r.engine.bufferPool.released.toNat +
    r.engine.channel.length + r.held = r.engine.bufferPool.allocated.toNat
  counted : overflowChecks = true → r.engine.metrics.totalPackets.toNat + r.uncounted =
    r.engine.bufferPool.released.toNat + r.batch.length

section Submit
variable {overflowChecks : Bool} {r : FastPathRun}

/-- A call has nothing to do with the pool, finds the counter at its end, or gets a buffer that
then holds its payload. -/
theorem FastPathRun.Sound.beginSubmit_cases (h : r.Sound overflowChecks) (call : Nat)
    (payload : Bytes) :
    (r.step overflowChecks (.beginSubmit call payload) = r ∧
      ¬ (r.submits[call]? = none ∧ payload.length ≤ r.engine.config.maxPayloadSize ∧
        r.engine.bufferPool.buffers ≠ [])) ∨
    ∃ buf rest, r.submits[call]? = none ∧ payload.length ≤ r.engine.config.maxPayloadSize ∧
      r.engine.bufferPool.buffers = buf :: rest ∧
      ((overflowChecks = true ∧ r.engine.bufferPool.allocated = 18446744073709551615 ∧
        r.step overflowChecks (.beginSubmit call payload) = { r with engine := { r.engine with
          bufferPool := { r.engine.bufferPool with buffers := rest } } }) ∨
      (¬ (overflowChecks = true ∧ r.engine.bufferPool.allocated = 18446744073709551615) ∧
        ∃ filled : PacketBuffer, filled.capacity = r.engine.config.maxPayloadSize ∧
          filled.asSlice = payload ∧
          r.step overflowChecks (.beginSubmit call payload) = { r with
            engine := { r.engine with bufferPool := { r.engine.bufferPool with
              buffers := rest
              allocated := r.engine.bufferPool.allocated + 1 } }
            submits := r.submits.insert call ⟨payload, filled⟩ })) := by
  rw [FastPathRun.step, FastPathRun.beginSubmit]
  cases hcall : r.submits[call]? with
  | some submit => exact .inl ⟨rfl, by rintro ⟨⟨⟩, -⟩⟩
  | none =>
    rw [Option.isSome_none, if_neg Bool.false_ne_true]
    by_cases hlarge : r.engine.config.maxPayloadSize < payload.length
    · rw [if_pos hlarge]
      exact .inl ⟨rfl, fun hboth => Nat.not_le.mpr hlarge hboth.2.1⟩
    · rw [if_neg hlarge]
      cases hbuffers : r.engine.bufferPool.buffers with
      | nil =>
        refine .inl ⟨?_, fun hboth => hboth.2.2 rfl⟩
        rw [BufferPool.acquire, hbuffers]
      | cons buf rest =>
        refine .inr ⟨buf, rest, rfl, Nat.not_lt.mp hlarge, rfl, ?_⟩
        by_cases hfull : overflowChecks = true ∧
          r.engine.bufferPool.allocated = 18446744073709551615
        · rw [BufferPool.acquire_full hbuffers hfull]
          exact .inl ⟨hfull.1, hfull.2, rfl⟩
        · have hsize := h.pooled buf (hbuffers ▸ List.mem_cons_self)
          obtain ⟨filled, hfilled, hcapacity⟩ := PacketBuffer.exists_filled
            (b := { buf.reset with inUse := true }) ((Nat.not_lt.mp hlarge).trans_eq hsize.symm)
          rw [BufferPool.acquire_room hbuffers hfull]
          refine .inr ⟨hfull, filled.setLen payload.length, hcapacity.trans hsize,
            PacketBuffer.asSlice_filled hfilled, ?_⟩
          dsimp only
          rw [hfilled]

/-- A buffer to be sent is one that is not in the channel, for which there is room then. -/
theorem FastPathRun.conserved_of
    (hbounded : r.engine.channelCapacity = r.engine.config.bufferPoolSize)
    (hbuffers : r.engine.bufferPool.buffers.length + r.engine.channel.length + r.held =
      r.engine.config.bufferPoolSize)
    (hqueued : Fifo PacketBuffer.asSlice r.accepted r.received r.engine.channel)
    (hcounted : r.engine.metrics.totalPackets.toNat + r.uncounted = r.received) :
    r.Conserved := by
  refine ⟨hbuffers, ?_, hqueued, hcounted⟩
  intro call submit hcall
  have hsize := size_erase_of_some hcall
  rw [FastPathRun.held] at hbuffers
  omega

theorem FastPathRun.Conserved.beginSubmit_iff (hc : r.Conserved) (h : r.Sound overflowChecks)
    (call : Nat) (payload : Bytes) :
    (r.step overflowChecks (.beginSubmit call payload)).Conserved ↔
      r.Safe overflowChecks (.beginSubmit call payload) := by
  rw [FastPathRun.Safe]
  rcases h.beginSubmit_cases call payload with ⟨hstep, hidle⟩ | ⟨buf, rest, hcall, hle, hbuffers,
    ⟨hchecks, hfull, hstep⟩ | ⟨hroom, filled, -, -, hstep⟩⟩
  · rw [hstep]
    exact iff_of_true hc (fun hboth => hidle ⟨hboth.2.1, hboth.2.2.1, hboth.2.2.2.1⟩)
  · rw [hstep]
    refine iff_of_false ?_ (fun hsafe => hsafe ⟨hchecks, hcall, hle, ?_, hfull⟩)
    · intro hlost
      have hbefore := hc.buffers
      have hafter : rest.length + r.engine.channel.length + r.held =
          r.engine.config.bufferPoolSize := hlost.buffers
      rw [hbuffers, List.length_cons] at hbefore
      omega
    · rw [hbuffers]
      exact List.cons_ne_nil buf rest
  · rw [hstep]
    refine iff_of_true (conserved_of h.bounded ?_ hc.queued hc.counted)
      (fun hboth => hroom ⟨hboth.1, hboth.2.2.2.2⟩)
    have hbefore := hc.buffers
    have hsize := size_insert_of_none hcall ⟨payload, filled⟩
    rw [hbuffers, List.length_cons, FastPathRun.held] at hbefore
    change rest.length + r.engine.channel.length + ((r.submits.insert call _).size +
      r.batch.length) = r.engine.config.bufferPoolSize
    omega

theorem FastPathRun.Sound.beginSubmit (h : r.Sound overflowChecks) {call : Nat} {payload : Bytes}
    (hsafe : r.Safe overflowChecks (.beginSubmit call payload)) :
    (r.step overflowChecks (.beginSubmit call payload)).Sound overflowChecks := by
  rcases h.beginSubmit_cases call payload with ⟨hstep, -⟩ | ⟨buf, rest, hcall, hle, hbuffers,
    ⟨hchecks, hfull, -⟩ | ⟨hroom, filled, hcapacity, hpayload, hstep⟩⟩
  · rw [hstep]
    exact h
  · exact (hsafe ⟨hchecks, hcall, hle, hbuffers ▸ List.cons_ne_nil buf rest, hfull⟩).elim
  · rw [hstep]
    refine ⟨?_, h.sent, h.batched, ?_, h.bounded, h.working, ?_, h.counted⟩
    · intro b hb
      exact h.pooled b (hbuffers ▸ List.mem_cons_of_mem buf hb)
    · intro id submit hid
      change (r.submits.insert call _)[id]? = some submit at hid
      rw [getElem?_insert_eq] at hid
      split at hid
      · cases hid
        exact ⟨hcapacity, hpayload⟩
      · exact h.filled id submit hid
    · intro hchecks
      have hsucc := (succ64_toNat_eq_iff _).mpr (fun hfull => hroom ⟨hchecks, hfull⟩)
      have hbefore := h.allocated hchecks
      have hsize := size_insert_of_none hcall ⟨payload, filled⟩
      rw [FastPathRun.held] at hbefore
      change r.engine.bufferPool.released.toNat + r.engine.channel.length +
        ((r.submits.insert call _).size + r.batch.length) =
          (r.engine.bufferPool.allocated + 1).toNat
      omega

theorem FastPathRun.Conserved.send (hc : r.Conserved) (h : r.Sound overflowChecks) (call : Nat) :
    (r.send call).2.Conserved ∧ (r.send call).2.Sound overflowChecks := by
  rw [FastPathRun.send]
  cases hcall : r.submits[call]? with
  | none => exact ⟨hc, h⟩
  | some submit =>
    obtain ⟨hcapacity, hpayload⟩ := h.filled call submit hcall
    have hsize := size_erase_of_some hcall
    dsimp only
    rw [if_pos (hc.room call submit hcall)]
    have hlength : (r.engine.channel ++ [submit.buf]).length = r.engine.channel.length + 1 :=
      List.length_append
    constructor
    · refine conserved_of h.bounded ?_ ?_ hc.counted
      · have hbefore := hc.buffers
        rw [FastPathRun.held] at hbefore
        change r.engine.bufferPool.buffers.length + (r.engine.channel ++ [submit.buf]).length +
          ((r.submits.erase call).size + r.batch.length) = r.engine.config.bufferPoolSize
        omega
      · have hput := hc.queued.put submit.buf
        rw [hpayload] at hput
        exact hput
    · refine ⟨h.pooled, ?_, h.batched, ?_, h.bounded, h.working, ?_, h.counted⟩
      · intro b hb
        rcases List.mem_append.mp hb with hold | hnew
        · exact h.sent b hold
        · rw [List.mem_singleton.mp hnew]
          exact hcapacity
      · intro id other hid
        change (r.submits.erase call)[id]? = some other at hid
        rw [getElem?_erase_eq] at hid
        split at hid
        · cases hid
        · exact h.filled id other hid
      · intro hchecks
        have hbefore := h.allocated hchecks
        rw [FastPathRun.held] at hbefore
        change r.engine.bufferPool.released.toNat + (r.engine.channel ++ [submit.buf]).length +
          ((r.submits.erase call).size + r.batch.length) = r.engine.bufferPool.allocated.toNat
        omega

theorem FastPathRun.Conserved.dropSubmit_iff (hc : r.Conserved) (h : r.Sound overflowChecks)
    (call : Nat) : (r.step overflowChecks (.dropSubmit call)).Conserved ↔
      r.Safe overflowChecks (.dropSubmit call) := by
  have hbefore := hc.buffers
  rw [FastPathRun.held] at hbefore
  have hafter : (r.step overflowChecks (.dropSubmit call)).held =
      (r.submits.erase call).size + r.batch.length := rfl
  cases hcall : r.submits[call]? with
  | none =>
    refine iff_of_true (conserved_of h.bounded ?_ hc.queued hc.counted) hcall
    rw [hafter, size_erase_of_none hcall]
    exact hbefore
  | some submit =>
    have hsize := size_erase_of_some hcall
    refine iff_of_false ?_ ?_
    · intro hlost
      have hlack := hlost.buffers
      rw [hafter] at hlack
      change r.engine.bufferPool.buffers.length + r.engine.channel.length +
        ((r.submits.erase call).size + r.batch.length) = r.engine.config.bufferPoolSize at hlack
      omega
    · rw [FastPathRun.Safe, hcall]
      rintro ⟨⟩

theorem FastPathRun.Sound.dropSubmit (h : r.Sound overflowChecks) {call : Nat}
    (hsafe : r.Safe overflowChecks (.dropSubmit call)) :
    (r.step overflowChecks (.dropSubmit call)).Sound overflowChecks := by
  refine ⟨h.pooled, h.sent, h.batched, ?_, h.bounded, h.working, ?_, h.counted⟩
  · intro id submit hid
    change (r.submits.erase call)[id]? = some submit at hid
    rw [getElem?_erase_eq] at hid
    split at hid
    · cases hid
    · exact h.filled id submit hid
  · intro hchecks
    have hafter : (r.step overflowChecks (.dropSubmit call)).held = r.held := by
      change (r.submits.erase call).size + r.batch.length = r.held
      rw [size_erase_of_none hsafe, FastPathRun.held]
    rw [hafter]
    exact h.allocated hchecks

end Submit

section Process
variable {overflowChecks : Bool} {r : FastPathRun}

theorem FastPathRun.batch_of_receiver {call : ProcessCall} (hr : r.receiver = some call) :
    r.batch = call.held := by
  rw [FastPathRun.batch, hr, Option.elim_some]

theorem FastPathRun.uncounted_of_receiver {call : ProcessCall} (hr : r.receiver = some call) :
    r.uncounted = call.uncounted := by
  rw [FastPathRun.uncounted, hr, Option.elim_some]

theorem FastPathRun.Conserved.lockReceiver (hc : r.Conserved) (h : r.Sound overflowChecks) :
    r.lockReceiver.Conserved ∧ r.lockReceiver.Sound overflowChecks := by
  rw [FastPathRun.lockReceiver]
  cases hr : r.receiver with
  | some call => exact ⟨hc, h⟩
  | none =>
    have hbatch : r.batch = [] := by
      rw [FastPathRun.batch, hr]
      rfl
    have huncounted : r.uncounted = 0 := by
      rw [FastPathRun.uncounted, hr]
      rfl
    have hbefore := hc.buffers
    have hcounted := hc.counted
    rw [FastPathRun.held, hbatch] at hbefore
    rw [huncounted] at hcounted
    refine ⟨conserved_of h.bounded hbefore hc.queued hcounted, h.pooled, h.sent, ?_, h.filled,
      h.bounded, by rintro _ _ ⟨⟩, ?_, ?_⟩
    · rintro b ⟨⟩
    · intro hchecks
      have hallocated := h.allocated hchecks
      rw [FastPathRun.held, hbatch] at hallocated
      exact hallocated
    · intro hchecks
      have htotal := h.counted hchecks
      rw [huncounted, hbatch] at htotal
      exact htotal

theorem FastPathRun.Conserved.endBatch (hc : r.Conserved) (h : r.Sound overflowChecks)
    {batch : List PacketBuffer} (hr : r.receiver = some (.collecting batch)) :
    (r.endBatch batch).Conserved ∧ (r.endBatch batch).Sound overflowChecks := by
  have hafter : (r.endBatch batch).batch = r.batch ∧
      (r.endBatch batch).uncounted = r.uncounted := by
    rw [batch_of_receiver hr, uncounted_of_receiver hr]
    cases batch with
    | nil => exact ⟨rfl, rfl⟩
    | cons first rest => exact ⟨rfl, rfl⟩
  have hframe : (r.endBatch batch).engine = r.engine ∧ (r.endBatch batch).submits = r.submits ∧
      (r.endBatch batch).accepted = r.accepted ∧ (r.endBatch batch).received = r.received := by
    cases batch with
    | nil => exact ⟨rfl, rfl, rfl, rfl⟩
    | cons first rest => exact ⟨rfl, rfl, rfl, rfl⟩
  have hheld : (r.endBatch batch).held = r.held := by
    rw [FastPathRun.held, hafter.1, hframe.2.1, FastPathRun.held]
  constructor
  · apply conserved_of
    · rw [hframe.1]
      exact h.bounded
    · rw [hframe.1, hheld]
      exact hc.buffers
    · rw [hframe.1, hframe.2.2.1, hframe.2.2.2]
      exact hc.queued
    · rw [hframe.1, hframe.2.2.2, hafter.2]
      exact hc.counted
  · constructor
    · rw [hframe.1]
      exact h.pooled
    · rw [hframe.1]
      exact h.sent
    · rw [hframe.1, hafter.1]
      exact h.batched
    · rw [hframe.1, hframe.2.1]
      exact h.filled
    · rw [hframe.1]
      exact h.bounded
    · intro rest processed hreleasing
      cases batch with
      | nil => cases hreleasing
      | cons first more =>
        cases hreleasing
        exact Nat.succ_pos _
    · rw [hframe.1, hheld]
      exact h.allocated
    · rw [hframe.1, hafter.1, hafter.2]
      exact h.counted

theorem FastPathRun.Conserved.tryRecv (hc : r.Conserved) (h : r.Sound overflowChecks) :
    r.tryRecv.Conserved ∧ r.tryRecv.Sound overflowChecks := by
  rw [FastPathRun.tryRecv]
  split
  · next batch hr =>
    split
    · split
      · exact hc.endBatch h hr
      · next buf channel hchannel =>
        have hbatch : r.batch = batch := batch_of_receiver hr
        have huncounted : r.uncounted = batch.length := uncounted_of_receiver hr
        have hlength : (batch ++ [buf]).length = batch.length + 1 := List.length_append
        have hbefore := hc.buffers
        have hcounted := hc.counted
        have hqueued := hc.queued
        rw [FastPathRun.held, hbatch, hchannel, List.length_cons] at hbefore
        rw [huncounted] at hcounted
        rw [hchannel] at hqueued
        refine ⟨conserved_of h.bounded ?_ hqueued.take ?_, h.pooled, ?_, ?_, h.filled, h.bounded,
          by rintro _ _ ⟨⟩, ?_, ?_⟩
        · change r.engine.bufferPool.buffers.length + channel.length +
            (r.submits.size + (batch ++ [buf]).length) = r.engine.config.bufferPoolSize
          omega
        · change r.engine.metrics.totalPackets.toNat + (batch ++ [buf]).length = r.received + 1
          omega
        · intro b hb
          exact h.sent b (hchannel ▸ List.mem_cons_of_mem buf hb)
        · intro b hb
          rcases List.mem_append.mp hb with hold | hnew
          · exact h.batched b (hbatch.symm ▸ hold)
          · rw [List.mem_singleton.mp hnew]
            exact h.sent buf (hchannel ▸ List.mem_cons_self)
        · intro hchecks
          have hallocated := h.allocated hchecks
          rw [FastPathRun.held, hbatch, hchannel, List.length_cons] at hallocated
          change r.engine.bufferPool.released.toNat + channel.length +
            (r.submits.size + (batch ++ [buf]).length) = r.engine.bufferPool.allocated.toNat
          omega
        · intro hchecks
          have htotal := h.counted hchecks
          rw [huncounted, hbatch] at htotal
          change r.engine.metrics.totalPackets.toNat + (batch ++ [buf]).length =
            r.engine.bufferPool.released.toNat + (batch ++ [buf]).length
          omega
    · exact hc.endBatch h hr
  · exact ⟨hc, h⟩

theorem BufferPool.release_room {pool : BufferPool}
    (hroom : ¬ (overflowChecks = true ∧ pool.released = 18446744073709551615))
    (buffer : PacketBuffer) : pool.release overflowChecks buffer = (some (), { pool with
      buffers := pool.buffers ++ [buffer.reset]
      released := pool.released + 1 }) := by
  rw [BufferPool.release, addU64_one, if_neg hroom]

/-- There are fewer releases than allocations, so that they are always counted. -/
theorem FastPathRun.Conserved.release (hc : r.Conserved) (h : r.Sound overflowChecks) :
    (r.release overflowChecks).Conserved ∧ (r.release overflowChecks).Sound overflowChecks := by
  rw [FastPathRun.release]
  split
  · next buf rest processed hr =>
    have hbatch : r.batch = buf :: rest := batch_of_receiver hr
    have huncounted : r.uncounted = processed := uncounted_of_receiver hr
    have hallocated (hchecks : overflowChecks = true) := h.allocated hchecks
    rw [FastPathRun.held, hbatch, List.length_cons] at hallocated
    have hroom : ¬ (overflowChecks = true ∧
        r.engine.bufferPool.released = 18446744073709551615) := by
      rintro ⟨hchecks, hfull⟩
      have hlt := r.engine.bufferPool.allocated.toNat_lt
      have hcount := hallocated hchecks
      rw [hfull] at hcount
      change 18446744073709551615 + _ + _ = _ at hcount
      omega
    have hlength : (r.engine.bufferPool.buffers ++ [buf.reset]).length =
        r.engine.bufferPool.buffers.length + 1 := List.length_append
    have hbefore := hc.buffers
    have hcounted := hc.counted
    rw [FastPathRun.held, hbatch, List.length_cons] at hbefore
    rw [huncounted] at hcounted
    rw [BufferPool.release_room hroom]
    refine ⟨conserved_of h.bounded ?_ hc.queued hcounted, ?_, h.sent, ?_, h.filled, h.bounded,
      ?_, ?_, ?_⟩
    · change (r.engine.bufferPool.buffers ++ [buf.reset]).length + r.engine.channel.length +
        (r.submits.size + rest.length) = r.engine.config.bufferPoolSize
      omega
    · intro b hb
      rcases List.mem_append.mp hb with hold | hnew
      · exact h.pooled b hold
      · rw [List.mem_singleton.mp hnew]
        exact h.batched buf (hbatch.symm ▸ List.mem_cons_self)
    · intro b hb
      exact h.batched b (hbatch.symm ▸ List.mem_cons_of_mem buf hb)
    · rintro _ _ ⟨⟩
      exact h.working _ _ hr
    · intro hchecks
      have hcount := hallocated hchecks
      have hsucc := (succ64_toNat_eq_iff _).mpr (fun hfull => hroom ⟨hchecks, hfull⟩)
      change (r.engine.bufferPool.released + 1).toNat + r.engine.channel.length +
        (r.submits.size + rest.length) = r.engine.bufferPool.allocated.toNat
      omega
    · intro hchecks
      have htotal := h.counted hchecks
      have hsucc := (succ64_toNat_eq_iff _).mpr (fun hfull => hroom ⟨hchecks, hfull⟩)
      rw [huncounted, hbatch, List.length_cons] at htotal
      change r.engine.metrics.totalPackets.toNat + processed =
        (r.engine.bufferPool.released + 1).toNat + rest.length
      omega
  · exact ⟨hc, h⟩

theorem FastPathRun.Conserved.buffers_of_released (hc : r.Conserved)
    (hr : r.receiver = some (.releasing [] processed)) :
    r.engine.bufferPool.buffers.length + r.engine.channel.length + r.submits.size =
      r.engine.config.bufferPoolSize := by
  have hbefore := hc.buffers
  rw [FastPathRun.held, batch_of_receiver hr] at hbefore
  exact hbefore

theorem FastPathRun.Conserved.updateMetrics_iff (hc : r.Conserved) (h : r.Sound overflowChecks)
    (now : Nat) : (r.updateMetrics overflowChecks now).Conserved ↔
      r.Safe overflowChecks (.updateMetrics now) := by
  rw [FastPathRun.Safe, FastPathRun.updateMetrics]
  split
  · next processed hr =>
    have hbuffers := hc.buffers_of_released hr
    have hcounted := hc.counted
    rw [uncounted_of_receiver hr] at hcounted
    change _ + processed = _ at hcounted
    have hsafe : (∀ n, r.receiver = some (.releasing [] n) →
        r.engine.metrics.totalPackets.toNat + n < 2 ^ 64) ↔
          r.engine.metrics.totalPackets.toNat + processed < 2 ^ 64 := by
      rw [hr]
      constructor
      · intro hall
        exact hall processed rfl
      · rintro hlt n ⟨⟩
        exact hlt
    rw [hsafe]
    have hsmall : (UInt64.ofNat processed).toNat = processed % 2 ^ 64 := UInt64.toNat_ofNat'
    cases hadd : addU64 overflowChecks r.engine.metrics.totalPackets (.ofNat processed) with
    | none =>
      have hfull := addU64_none hadd
      have hpos := h.working _ _ hr
      have hle := Nat.mod_le processed (2 ^ 64)
      refine iff_of_false ?_ (by omega)
      intro hlost
      have hlack : r.engine.metrics.totalPackets.toNat + 0 = r.received := hlost.counted
      omega
    | some totalPackets =>
      have htotal := addU64_toNat hadd
      have hlt := totalPackets.toNat_lt
      constructor
      · intro hkept
        have hcount : totalPackets.toNat + 0 = r.received := hkept.counted
        omega
      · intro hfits
        refine conserved_of h.bounded hbuffers hc.queued ?_
        change totalPackets.toNat + 0 = r.received
        omega
  · next hr => exact iff_of_true hc (fun n hn => (hr n hn).elim)

theorem FastPathRun.Sound.updateMetrics (h : r.Sound overflowChecks) {now : Nat}
    (hsafe : r.Safe overflowChecks (.updateMetrics now)) :
    (r.updateMetrics overflowChecks now).Sound overflowChecks := by
  rw [FastPathRun.updateMetrics]
  split
  · next processed hr =>
    have hfits := hsafe processed hr
    have hbatch : r.batch = [] := batch_of_receiver hr
    have hsmall : (UInt64.ofNat processed).toNat = processed % 2 ^ 64 := UInt64.toNat_ofNat'
    have hallocated (hchecks : overflowChecks = true) := h.allocated hchecks
    have hcounted (hchecks : overflowChecks = true) := h.counted hchecks
    rw [FastPathRun.held, hbatch] at hallocated
    rw [uncounted_of_receiver hr, hbatch] at hcounted
    change _ → _ + processed = _ at hcounted
    cases hadd : addU64 overflowChecks r.engine.metrics.totalPackets (.ofNat processed) with
    | none =>
      have hfull := addU64_none hadd
      omega
    | some totalPackets =>
      refine ⟨h.pooled, h.sent, by rintro _ ⟨⟩, h.filled, h.bounded, by rintro _ _ ⟨⟩,
        hallocated, ?_⟩
      intro hchecks
      have htotal := addU64_toNat hadd
      rw [hsmall, Nat.mod_eq_of_lt (a := processed) (by omega), Nat.mod_eq_of_lt hfits] at htotal
      exact htotal.trans (hcounted hchecks)
  · exact h

theorem FastPathRun.Conserved.dropProcess_iff (hc : r.Conserved) (h : r.Sound overflowChecks) :
    r.dropProcess.Conserved ↔ r.Safe overflowChecks .dropProcess := by
  rw [FastPathRun.Safe, FastPathRun.dropProcess]
  split
  · next rest processed hr =>
    have hpos := h.working rest processed hr
    have hcounted := hc.counted
    rw [uncounted_of_receiver hr] at hcounted
    refine iff_of_false ?_ (fun hsafe => hsafe rest processed hr)
    intro hlost
    have hlack : r.engine.metrics.totalPackets.toNat + 0 = r.received := hlost.counted
    change _ + processed = _ at hcounted
    omega
  · next hr => exact iff_of_true hc hr

theorem FastPathRun.Sound.dropProcess (h : r.Sound overflowChecks)
    (hsafe : r.Safe overflowChecks .dropProcess) : r.dropProcess.Sound overflowChecks := by
  rw [FastPathRun.dropProcess]
  split
  · next rest processed hr => exact (hsafe rest processed hr).elim
  · exact h

theorem FastPathRun.Conserved.step_iff (hc : r.Conserved) (h : r.Sound overflowChecks)
    (op : FastPathOp) : (r.step overflowChecks op).Conserved ↔ r.Safe overflowChecks op := by
  cases op with
  | beginSubmit call payload => exact hc.beginSubmit_iff h call payload
  | send call => exact iff_of_true (hc.send h call).1 trivial
  | lockReceiver => exact iff_of_true (hc.lockReceiver h).1 trivial
  | tryRecv => exact iff_of_true (hc.tryRecv h).1 trivial
  | release => exact iff_of_true (hc.release h).1 trivial
  | updateMetrics now => exact hc.updateMetrics_iff h now
  | dropSubmit call => exact hc.dropSubmit_iff h call
  | dropProcess => exact hc.dropProcess_iff h

theorem FastPathRun.Sound.step (h : r.Sound overflowChecks) (hc : r.Conserved) {op : FastPathOp}
    (hsafe : r.Safe overflowChecks op) : (r.step overflowChecks op).Sound overflowChecks := by
  cases op with
  | beginSubmit call payload => exact h.beginSubmit hsafe
  | send call => exact (hc.send h call).2
  | lockReceiver => exact (hc.lockReceiver h).2
  | tryRecv => exact (hc.tryRecv h).2
  | release => exact (hc.release h).2
  | updateMetrics now => exact h.updateMetrics hsafe
  | dropSubmit call => exact h.dropSubmit hsafe
  | dropProcess => exact h.dropProcess hsafe

end Process

section Start
variable {config : FastPathConfig} {engine : FastPath}

theorem FastPath.new_eq_some (h : FastPath.new config now = some engine) :
    engine = ⟨.new config.bufferPoolSize config.maxPayloadSize, config, ⟨0, now⟩, [],
      config.bufferPoolSize⟩ := by
  rw [FastPath.new] at h
  split at h
  · cases h
  · exact (Option.some.inj h).symm

theorem FastPathRun.start_conserved (h : FastPath.new config now = some engine) :
    (FastPathRun.start engine).Conserved := by
  rw [FastPath.new_eq_some h]
  refine conserved_of rfl ?_ (.empty _) rfl
  change (List.replicate config.bufferPoolSize (PacketBuffer.new config.maxPayloadSize)).length +
    0 + 0 = config.bufferPoolSize
  rw [List.length_replicate]
  rfl

theorem FastPathRun.start_sound (h : FastPath.new config now = some engine)
    (overflowChecks : Bool) : (FastPathRun.start engine).Sound overflowChecks := by
  rw [FastPath.new_eq_some h]
  refine ⟨?_, by rintro _ ⟨⟩, by rintro _ ⟨⟩, ?_, rfl, by rintro _ _ ⟨⟩, fun _ => rfl,
    fun _ => rfl⟩
  · intro b hb
    rw [List.eq_of_mem_replicate hb]
    rfl
  · intro call submit hcall
    change (∅ : Std.TreeMap Nat SubmitCall)[call]? = some submit at hcall
    rw [Std.TreeMap.getElem?_emptyc] at hcall
    cases hcall

end Start

/-- Of an engine that has been built no buffer is lost and none miscounted, at any point of a run,
exactly if every step is safe. -/
theorem FastPathRun.conserved_iff (config : FastPathConfig) (now : Nat) (engine : FastPath)
    (h : FastPath.new config now = some engine) (overflowChecks : Bool) (ops : List FastPathOp) :
    (∀ ops', ops' <+: ops →
        ((FastPathRun.start engine).run overflowChecks ops').Conserved) ↔
      Guarded (FastPathRun.step overflowChecks) (FastPathRun.Safe overflowChecks)
        (FastPathRun.start engine) ops :=
  forall_prefix_iff_along (FastPathRun.start_sound h overflowChecks)
    (FastPathRun.start_conserved h) (fun _ _ hs hc hsafe => hs.step hc hsafe)
    (fun _ op hs hc => hc.step_iff hs op) ops

def smallConfig : FastPathConfig := ⟨4, 2, 2⟩

def smallEngine : FastPath := ⟨.new 2 4, smallConfig, ⟨0, 0⟩, [], 2⟩

/-- Two packets that are sent in the other order, a third that finds no buffer, and the batch of the
two. -/
def twoPackets : List FastPathOp :=
  [.beginSubmit 0 [1, 2, 3], .beginSubmit 1 [9], .beginSubmit 2 [7], .send 1, .send 0,
    .lockReceiver, .tryRecv, .tryRecv, .tryRecv, .release, .release, .updateMetrics 0]

theorem FastPathRun.conserved_iff_twoPackets :
    ((FastPathRun.start smallEngine).run true twoPackets).Conserved := by
  have hguarded : Guarded (FastPathRun.step true) (FastPathRun.Safe true)
      (FastPathRun.start smallEngine) twoPackets := by
    refine ⟨?_, ?_, ?_, trivial, trivial, trivial, trivial, trivial, trivial, trivial, trivial, ?_,
      trivial⟩
    · rintro ⟨-, -, -, -, hallocated⟩
      exact absurd hallocated (by decide)
    · rintro ⟨-, -, -, -, hallocated⟩
      exact absurd hallocated (by decide)
    · rintro ⟨-, -, -, -, hallocated⟩
      exact absurd hallocated (by decide)
    · rintro _ ⟨⟩
      decide
  exact (FastPathRun.conserved_iff smallConfig 0 smallEngine rfl true twoPackets).mpr hguarded
    twoPackets List.prefix_rfl

/-- One buffer, with room for no byte. -/
def tinyConfig : FastPathConfig := ⟨0, 1, 1⟩

/-- The engine after so many packets, each of which was submitted and processed by itself. -/
def afterPackets (n : Nat) : FastPathRun :=
  ⟨⟨⟨[.new 0], 1, 0, .ofNat n, .ofNat n⟩, tinyConfig, ⟨.ofNat n, 0⟩, [], 1⟩, ∅, none,
    List.replicate n [], n⟩

def onePacket : List FastPathOp :=
  [.beginSubmit 0 [], .send 0, .lockReceiver, .tryRecv, .tryRecv, .release, .updateMetrics 0]

theorem run_onePacket (n : Nat) :
    (afterPackets n).run false onePacket = afterPackets (n + 1) := by
  have hrun : (afterPackets n).run false onePacket =
      ⟨⟨⟨[.new 0], 1, 0, .ofNat n + 1, .ofNat n + 1⟩, tinyConfig, ⟨.ofNat n + 1, 0⟩, [], 1⟩, ∅,
        none, List.replicate n [] ++ [[]], n + 1⟩ := rfl
  rw [hrun, afterPackets, List.replicate_succ', UInt64.ofNat_add]
  rfl

theorem run_packets (n : Nat) :
    (afterPackets 0).run false (List.replicate n onePacket).flatten = afterPackets n := by
  induction n with
  | zero => rfl
  | succ n ih =>
    rw [List.replicate_succ', List.flatten_append, FastPathRun.run, List.foldl_append,
      List.flatten_singleton]
    exact (congrArg (fun r => FastPathRun.run false r onePacket) ih).trans (run_onePacket n)

/-- After 2^64 packets the metrics are back at zero; a call that is dropped while it gives its batch
back takes the buffer with it. -/
theorem buffers_unaccounted :
    ¬ ((FastPathRun.start (afterPackets 0).engine).run false
      (List.replicate (2 ^ 64) onePacket).flatten).Conserved ∧
    ¬ ((FastPathRun.start (afterPackets 0).engine).run false
      [.beginSubmit 0 [], .send 0, .lockReceiver, .tryRecv, .tryRecv, .dropProcess]).Conserved := by
  constructor
  · intro h
    have hcounted := h.counted
    have hrun : (FastPathRun.start (afterPackets 0).engine).run false
        (List.replicate (2 ^ 64) onePacket).flatten = afterPackets (2 ^ 64) := run_packets (2 ^ 64)
    rw [hrun] at hcounted
    change (UInt64.ofNat (2 ^ 64)).toNat + 0 = 2 ^ 64 at hcounted
    rw [UInt64.toNat_ofNat'] at hcounted
    revert hcounted
    decide
  · intro h
    exact absurd h.buffers (by decide)

end P2PMesh.Fast
