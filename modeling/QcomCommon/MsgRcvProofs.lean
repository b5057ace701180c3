import QcomCommon.DmnConnProofs
import QcomCommon.ByteMemoryProofs

/-! # What a receive asks of the pipe

    `loc_eng_dmn_conn_glue_msgrcv` on the memory that its buffer is a part
    of, with reads that may end early or fail.  The size of the message comes
    from the pipe; it is compared with the size of the buffer, and the size
    of the size field is taken off it without a look.

    The second read keeps to the buffer if and only if the message is no
    shorter than its own size field (`msgrcv_bounded_iff`): a shorter one
    wraps around and asks for nearly as many bytes as a `size_t` counts.  On
    a pipe that gives what it is asked for the call is the one of the
    server's model (`msgrcvRun_pipe`). -/

namespace QcomDmnConn

open QcomFraming QcomByteMemory

/-! ## Reads -/

/-- What `read` answers to a count of `sz` bytes: an error, or the bytes it
    has written, no more than were asked for. -/
inductive ReadResult (sz : Nat) where
  | error
  | done (bytes : List UInt8) (le : bytes.length ≤ sz)

namespace ReadResult

variable {sz : Nat}

/-- Its result in an `int`. -/
def len : ReadResult sz → Int
  | error => -1
  | done bytes _ => toInt bytes.length

/-- The bytes it has written. -/
def written : ReadResult sz → List UInt8
  | error => []
  | done bytes _ => bytes

theorem length_written_le (r : ReadResult sz) : r.written.length ≤ sz := by
  cases r with
  | error => exact Nat.zero_le sz
  | done bytes le => exact le

end ReadResult

/-- What a call returns, the memory after it, and where to and for how many
    bytes the second read was, if there was one. -/
structure MsgRcv where
  result : Int
  mem : Memory
  second : Option (Nat × Nat)

/-- `pmsg->msgsz` in the memory, where the buffer begins at address 0. -/
def msgszAt (abi : Abi) (mem : Memory) : Nat :=
  leVal (load mem 0 (sizeof_size_t abi))

/-- `loc_eng_dmn_conn_glue_msgrcv` with its two reads. -/
def msgrcvRun (abi : Abi) (msgbufsz : Nat)
    (read₁ : ReadResult (sizeof_size_t abi)) (read₂ : ∀ sz, ReadResult sz)
    (mem : Memory) : MsgRcv :=
  let mem := store mem 0 read₁.written
  if read₁.len ≠ sizeof_size_t abi then ⟨-1, mem, none⟩
  else if msgbufsz < msgszAt abi mem then ⟨-1, mem, none⟩
  else
    -- the difference of two size_t
    let sz := (msgszAt abi mem + SIZE_RANGE abi - sizeof_size_t abi)
      % SIZE_RANGE abi
    let mem := store mem (sizeof_size_t abi) (read₂ sz).written
    if (read₂ sz).len ≠ toInt sz then
      ⟨-1, mem, some (sizeof_size_t abi, sz)⟩
    else ⟨toInt (msgszAt abi mem), mem, some (sizeof_size_t abi, sz)⟩

/-- The size a complete first read has brought. -/
def header (abi : Abi) : ReadResult (sizeof_size_t abi) → Option Nat
  | .error => none
  | .done bytes _ =>
      if bytes.length = sizeof_size_t abi then some (leVal bytes) else none

/-- The second read keeps to the buffer, or there is none and the call
    fails. -/
structure Bounded (abi : Abi) (msgbufsz : Nat) (mem : Memory) (run : MsgRcv) :
    Prop where
  asked : ∀ a sz, run.second = some (a, sz) →
    a = sizeof_size_t abi ∧ sz ≤ msgbufsz - sizeof_size_t abi
  failed : run.second = none → run.result = -1
  inside : ∀ i, msgbufsz ≤ i → run.mem i = mem i

/-! ## The second read -/

variable {abi : Abi}

theorem sizeof_lt (abi : Abi) : sizeof_size_t abi < 2 ^ 31 := by
  cases abi <;> decide

theorem sizeof_le_range (abi : Abi) : sizeof_size_t abi ≤ SIZE_RANGE abi := by
  cases abi <;> decide

/-- The first read is complete when it has brought a size. -/
theorem len_eq_sizeof_iff (read₁ : ReadResult (sizeof_size_t abi)) :
    read₁.len = sizeof_size_t abi ↔ ∃ msgsz, header abi read₁ = some msgsz := by
  cases read₁ with
  | error =>
      refine ⟨fun h => ?_, fun ⟨_, h⟩ => (by cases h)⟩
      have hneg : (-1 : Int) = sizeof_size_t abi := h
      omega
  | done bytes le =>
      have hlen : toInt bytes.length = bytes.length :=
        toInt_of_lt (Nat.lt_of_le_of_lt le (sizeof_lt abi))
      show toInt bytes.length = sizeof_size_t abi ↔
        ∃ msgsz, (if bytes.length = sizeof_size_t abi then some (leVal bytes)
          else none) = some msgsz
      rw [hlen]
      by_cases h : bytes.length = sizeof_size_t abi
      · rw [if_pos h]
        exact iff_of_true (by rw [h]) ⟨_, rfl⟩
      · rw [if_neg h]
        exact iff_of_false (fun h' => h (by omega)) (fun ⟨_, h⟩ => (by cases h))

/-- What it has brought is in the size field. -/
theorem msgszAt_header {read₁ : ReadResult (sizeof_size_t abi)} {msgsz : Nat}
    (h : header abi read₁ = some msgsz) (mem : Memory) :
    msgszAt abi (store mem 0 read₁.written) = msgsz ∧
      msgsz < SIZE_RANGE abi := by
  cases read₁ with
  | error => cases h
  | done bytes le =>
      by_cases hlen : bytes.length = sizeof_size_t abi
      · have hval : (if bytes.length = sizeof_size_t abi then
            some (leVal bytes) else none) = some msgsz := h
        rw [if_pos hlen] at hval
        obtain rfl := Option.some.inj hval
        constructor
        · have hload := load_store mem 0 bytes
          rw [hlen] at hload
          exact congrArg leVal hload
        · rw [SIZE_RANGE, ← hlen]
          exact leVal_lt bytes
      · have hval : (if bytes.length = sizeof_size_t abi then
            some (leVal bytes) else none) = some msgsz := h
        rw [if_neg hlen] at hval
        cases hval

/-- A read keeps to what it is given. -/
theorem store_read_outside {sz a i : Nat} (r : ReadResult sz) (mem : Memory)
    (h : a + sz ≤ i) : store mem a r.written i = mem i := by
  have hle := r.length_written_le
  exact store_outside mem (Or.inr (by omega))

/-- Without a size, or with one that is too large, there is no second
    read. -/
theorem bounded_no_second {msgbufsz : Nat}
    (hbuf : sizeof_size_t abi ≤ msgbufsz)
    (read₁ : ReadResult (sizeof_size_t abi)) (mem : Memory) :
    Bounded abi msgbufsz mem ⟨-1, store mem 0 read₁.written, none⟩ where
  asked _ _ h := by cases h
  failed _ := rfl
  inside i hi := by
    have hi₁ : 0 + sizeof_size_t abi ≤ i := by omega
    exact store_read_outside read₁ mem hi₁

/-- The count of the second read. -/
def secondCount (abi : Abi) (msgsz : Nat) : Nat :=
  (msgsz + SIZE_RANGE abi - sizeof_size_t abi) % SIZE_RANGE abi

theorem secondCount_of_le {msgsz : Nat} (hle : sizeof_size_t abi ≤ msgsz)
    (hlt : msgsz < SIZE_RANGE abi) :
    secondCount abi msgsz = msgsz - sizeof_size_t abi := by
  rw [secondCount, Nat.sub_add_comm hle, Nat.add_mod_right,
    Nat.mod_eq_of_lt (by omega)]

/-- A message shorter than its size field wraps around. -/
theorem secondCount_of_lt {msgsz : Nat} (hlt : msgsz < sizeof_size_t abi) :
    secondCount abi msgsz = msgsz + SIZE_RANGE abi - sizeof_size_t abi := by
  have hrange := sizeof_le_range abi
  exact Nat.mod_eq_of_lt (by omega)

/-- The size field after both reads: the second one is behind it. -/
theorem msgszAt_second {read₁ : ReadResult (sizeof_size_t abi)} {msgsz : Nat}
    (h : header abi read₁ = some msgsz) (mem : Memory) (bytes : List UInt8) :
    msgszAt abi (store (store mem 0 read₁.written) (sizeof_size_t abi) bytes)
      = msgsz := by
  rw [msgszAt, load_store_behind _ bytes (Nat.le_of_eq (Nat.zero_add _))]
  exact (msgszAt_header h mem).1

/-- **THE CALL** once a size has been received. -/
theorem msgrcvRun_header {msgbufsz msgsz : Nat}
    {read₁ : ReadResult (sizeof_size_t abi)}
    (h : header abi read₁ = some msgsz) (read₂ : ∀ sz, ReadResult sz)
    (mem : Memory) :
    msgrcvRun abi msgbufsz read₁ read₂ mem =
      if msgbufsz < msgsz then ⟨-1, store mem 0 read₁.written, none⟩
      else
        ⟨if (read₂ (secondCount abi msgsz)).len
            = toInt (secondCount abi msgsz) then toInt msgsz else -1,
          store (store mem 0 read₁.written) (sizeof_size_t abi)
            (read₂ (secondCount abi msgsz)).written,
          some (sizeof_size_t abi, secondCount abi msgsz)⟩ := by
  have hcomplete := (len_eq_sizeof_iff read₁).mpr ⟨msgsz, h⟩
  have hcount : (msgsz + SIZE_RANGE abi - sizeof_size_t abi)
      % SIZE_RANGE abi = secondCount abi msgsz := rfl
  unfold msgrcvRun
  dsimp only
  rw [if_neg (not_not.mpr hcomplete), (msgszAt_header h mem).1, hcount,
    msgszAt_second h mem]
  by_cases hsmall : msgbufsz < msgsz
  · rw [if_pos hsmall, if_pos hsmall]
  · rw [if_neg hsmall, if_neg hsmall]
    by_cases hres : (read₂ (secondCount abi msgsz)).len
        = toInt (secondCount abi msgsz)
    · rw [if_neg (not_not.mpr hres), if_pos hres]
    · rw [if_pos hres, if_neg hres]

/-- Without a size it fails. -/
theorem msgrcvRun_none {msgbufsz : Nat}
    {read₁ : ReadResult (sizeof_size_t abi)} (h : header abi read₁ = none)
    (read₂ : ∀ sz, ReadResult sz) (mem : Memory) :
    msgrcvRun abi msgbufsz read₁ read₂ mem
      = ⟨-1, store mem 0 read₁.written, none⟩ := by
  have hpart : read₁.len ≠ sizeof_size_t abi := fun hcomplete => by
    obtain ⟨msgsz, hheader⟩ := (len_eq_sizeof_iff read₁).mp hcomplete
    rw [h] at hheader
    cases hheader
  exact if_pos hpart

/-- **THE SECOND READ** keeps to the buffer, and without one the call fails,
    if and only if the size received, if one is, is no less than that of the
    size field. -/
theorem msgrcv_bounded_iff {msgbufsz : Nat}
    (hbuf : sizeof_size_t abi ≤ msgbufsz) (hrange : msgbufsz < SIZE_RANGE abi)
    (read₁ : ReadResult (sizeof_size_t abi)) (read₂ : ∀ sz, ReadResult sz)
    (mem : Memory) :
    Bounded abi msgbufsz mem (msgrcvRun abi msgbufsz read₁ read₂ mem) ↔
      ∀ msgsz, header abi read₁ = some msgsz → sizeof_size_t abi ≤ msgsz := by
  cases hheader : header abi read₁ with
  | none =>
      rw [msgrcvRun_none hheader]
      exact iff_of_true (bounded_no_second hbuf read₁ mem)
        fun _ h => (by cases h)
  | some msgsz =>
      have hlt := (msgszAt_header hheader mem).2
      have hcond : (∀ n, some msgsz = some n → sizeof_size_t abi ≤ n) ↔
          sizeof_size_t abi ≤ msgsz :=
        ⟨fun h => h msgsz rfl, fun h n hn => Option.some.inj hn ▸ h⟩
      rw [msgrcvRun_header hheader, hcond]
      by_cases hsmall : msgbufsz < msgsz
      · rw [if_pos hsmall]
        exact iff_of_true (bounded_no_second hbuf read₁ mem) (by omega)
      · rw [if_neg hsmall]
        constructor
        · intro h
          by_contra hshort
          have hasked := (h.asked _ _ rfl).2
          rw [secondCount_of_lt (by omega)] at hasked
          omega
        · intro hle
          rw [secondCount_of_le hle hlt]
          refine ⟨?_, fun h => (by cases h), fun i hi => ?_⟩
          · rintro a sz ⟨⟩
            exact ⟨rfl, by omega⟩
          · have hi₁ : 0 + sizeof_size_t abi ≤ i := by omega
            have hi₂ : sizeof_size_t abi + (msgsz - sizeof_size_t abi) ≤ i := by
              omega
            exact (store_read_outside _ _ hi₂).trans
              (store_read_outside read₁ mem hi₁)

/-- A frame of 12 bytes in the server's buffer: its 4 bytes behind the size
    are asked for and read. -/
theorem msgrcv_bounded_payload :
    (msgrcvRun .lp64 384 (.done [12, 0, 0, 0, 0, 0, 0, 0] (by decide))
      (fun sz => .done ([1, 2, 3, 4].take sz) (List.length_take_le sz _))
      (fun _ => 0)).second = some (8, 4) ∧
    Bounded .lp64 384 (fun _ => 0)
      (msgrcvRun .lp64 384 (.done [12, 0, 0, 0, 0, 0, 0, 0] (by decide))
        (fun sz => .done ([1, 2, 3, 4].take sz) (List.length_take_le sz _))
        (fun _ => 0)) :=
  ⟨by decide +kernel,
    (msgrcv_bounded_iff (by decide +kernel) (by decide +kernel) _ _ _).mpr
      (by decide +kernel)⟩

/-- A frame that says it has 7 bytes: the second read asks for all that a
    `size_t` counts, and the error of a `read` that refuses the count passes
    for the answer of one that was complete. -/
theorem short_message_asks :
    (msgrcvRun .lp64 384 (.done [7, 0, 0, 0, 0, 0, 0, 0] (by decide))
      (fun _ => .error) (fun _ => 0)).second = some (8, 2 ^ 64 - 1) ∧
    (msgrcvRun .lp64 384 (.done [7, 0, 0, 0, 0, 0, 0, 0] (by decide))
      (fun _ => .error) (fun _ => 0)).result = 7 ∧
    ¬ Bounded .lp64 384 (fun _ => 0)
      (msgrcvRun .lp64 384 (.done [7, 0, 0, 0, 0, 0, 0, 0] (by decide))
        (fun _ => .error) (fun _ => 0)) := by
  have hsecond : (msgrcvRun .lp64 384
      (.done [7, 0, 0, 0, 0, 0, 0, 0] (by decide))
      (fun _ => .error) (fun _ => 0)).second = some (8, 2 ^ 64 - 1) := by
    decide +kernel
  refine ⟨hsecond, by decide +kernel, fun hbounded => ?_⟩
  have hasked := (hbounded.asked 8 (2 ^ 64 - 1) hsecond).2
  exact absurd hasked (by decide +kernel)

/-! ## Reads of a pipe -/

/-- A read that gives what is in the pipe, up to the count. -/
def pipeRead (pipe : List UInt8) (sz : Nat) : ReadResult sz :=
  .done (pipe.take sz) (List.length_take_le sz pipe)

theorem pipeRead_len {pipe : List UInt8} {sz : Nat} (h : sz ≤ pipe.length) :
    (pipeRead pipe sz).len = toInt sz :=
  congrArg (fun n : Nat => toInt n) (List.length_take_of_le h)

/-- The call of the model once the size is there. -/
theorem msgrcv_pipe {msgbufsz : Nat} {pipe : List UInt8}
    (hle : sizeof_size_t abi ≤ pipe.length) :
    loc_eng_dmn_conn_glue_msgrcv abi msgbufsz pipe =
      if msgbufsz < leVal (pipe.take (sizeof_size_t abi)) then
        some (-1, pipe.take (sizeof_size_t abi), pipe.drop (sizeof_size_t abi))
      else
        (readN (secondCount abi (leVal (pipe.take (sizeof_size_t abi))))
          (pipe.drop (sizeof_size_t abi))).map (fun r =>
            (toInt (leVal (pipe.take (sizeof_size_t abi))),
              pipe.take (sizeof_size_t abi) ++ r.1, r.2)) := by
  have hread : readN (sizeof_size_t abi) pipe
      = some (pipe.take (sizeof_size_t abi), pipe.drop (sizeof_size_t abi)) :=
    if_pos hle
  rw [loc_eng_dmn_conn_glue_msgrcv, loc_eng_dmn_conn_glue_piperead, hread,
    Option.map_some, Option.bind_some, if_neg (not_not.mpr (toInt_sizeof abi))]
  dsimp only
  rw [← secondCount, loc_eng_dmn_conn_glue_piperead]
  -- a read that returns has the bytes asked for
  cases readN (secondCount abi (leVal (pipe.take (sizeof_size_t abi))))
      (pipe.drop (sizeof_size_t abi)) with
  | none => rfl
  | some r =>
      rw [Option.map_some, Option.bind_some, Option.map_some]
      dsimp only
      rw [if_neg (not_not.mpr rfl)]

/-- **THE CALL ON A PIPE** that holds what is asked of it returns what it
    returns in the model of the server, and leaves the same in the
    buffer. -/
theorem msgrcvRun_pipe {msgbufsz : Nat} {pipe bytes rest : List UInt8}
    {result : Int} (mem : Memory)
    (h : loc_eng_dmn_conn_glue_msgrcv abi msgbufsz pipe
      = some (result, bytes, rest)) :
    (msgrcvRun abi msgbufsz (pipeRead pipe (sizeof_size_t abi))
      (pipeRead (pipe.drop (sizeof_size_t abi))) mem).result = result ∧
    load (msgrcvRun abi msgbufsz (pipeRead pipe (sizeof_size_t abi))
      (pipeRead (pipe.drop (sizeof_size_t abi))) mem).mem 0 bytes.length
      = bytes := by
  obtain ⟨r, hr, -⟩ := Option.bind_eq_some_iff.mp h
  obtain ⟨r', hr', -⟩ := Option.map_eq_some_iff.mp hr
  have hle := (readN_some hr').1
  have hlen : (pipe.take (sizeof_size_t abi)).length = sizeof_size_t abi :=
    List.length_take_of_le hle
  have hheader : header abi (pipeRead pipe (sizeof_size_t abi))
      = some (leVal (pipe.take (sizeof_size_t abi))) := if_pos hlen
  -- the first read leaves the size in its place
  have hfirst := load_store mem 0 (pipe.take (sizeof_size_t abi))
  rw [msgrcv_pipe hle] at h
  rw [msgrcvRun_header hheader]
  by_cases hsmall : msgbufsz < leVal (pipe.take (sizeof_size_t abi))
  · rw [if_pos hsmall] at h ⊢
    obtain ⟨rfl, rfl, rfl⟩ : _ ∧ _ ∧ _ := by
      simpa only [Option.some.injEq, Prod.mk.injEq] using h
    exact ⟨rfl, hfirst⟩
  · rw [if_neg hsmall] at h ⊢
    obtain ⟨r', hr', hmsg⟩ := Option.map_eq_some_iff.mp h
    obtain ⟨hle', rfl⟩ := readN_some hr'
    obtain ⟨rfl, rfl, rfl⟩ : _ ∧ _ ∧ _ := by
      simpa only [Prod.mk.injEq] using hmsg
    have hnext := fun bytes' => load_store_next _ hfirst bytes'
    rw [hlen, Nat.zero_add] at hnext
    exact ⟨if_pos (pipeRead_len hle'), hnext _⟩

end QcomDmnConn
