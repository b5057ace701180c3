import QcomCommon.AgpsEngineProofs
import QcomCommon.FramingProofs

/-! # The pipe to the daemons and its server

    `loc_eng_dmn_conn_glue_msg.c` frames messages on a pipe by their size,
    `loc_eng_dmn_conn.cpp` receives them one at a time and dispatches them,
    and `thelper_main` calls that function again until it fails.

    A frame that does not fit the buffer is an error after its size field is
    read: the rest of it stays in the pipe and is taken for the next frame.
    And an error of the function ends the loop, so nothing is dispatched
    after it.  Reader and writer keep in step, and the server serves, exactly
    while every frame fits (`pipe_in_step_iff`). -/

namespace QcomDmnConn

open QcomTransition QcomFraming QcomAgps

/-! ## Sizes -/

/-- The data models the code is built for. -/
inductive Abi | ilp32 | lp64
deriving DecidableEq, Repr

/-- `sizeof(size_t)`, which is that of `unsigned long` too. -/
def sizeof_size_t : Abi → Nat
  | .ilp32 => 4
  | .lp64 => 8

/-- `SIZE_MAX + 1`. -/
def SIZE_RANGE (abi : Abi) : Nat := 256 ^ sizeof_size_t abi

/-- A value in an `int`. -/
@[irreducible] def toInt (n : Nat) : Int := Int.bmod n (2 ^ 32)

/-- Where `ctrl_type` is in `struct ctrl_msgbuf`: after the size and two
    reserved fields. -/
def offset_ctrl_type (abi : Abi) : Nat := sizeof_size_t abi + 8

/-- Where `cmsg` is. -/
def offset_cmsg : Abi → Nat
  | .ilp32 => 16
  | .lp64 => 24

/-- `sizeof(struct ctrl_msgbuf)`; the longest member of `cmsg` is
    `ctrl_msg_if_request`. -/
def sizeof_ctrl_msgbuf : Abi → Nat
  | .ilp32 => 112
  | .lp64 => 128

/-! ## The pipe

    A pipe is the bytes written and not yet read.  A write writes all of
    them, a read returns once the bytes asked for are there. -/

/-- `loc_eng_dmn_conn_glue_piperead`: what it returns, the bytes and what is
    left in the pipe. -/
def loc_eng_dmn_conn_glue_piperead (pipe : List UInt8) (sz : Nat) :
    Option (Int × List UInt8 × List UInt8) :=
  (readN sz pipe).map (fun r => (toInt sz, r.1, r.2))

/-- `loc_eng_dmn_conn_glue_pipewrite`: what it returns and the pipe. -/
def loc_eng_dmn_conn_glue_pipewrite (pipe buf : List UInt8) :
    Int × List UInt8 :=
  (toInt buf.length, pipe ++ buf)

/-- `loc_eng_dmn_conn_glue_msgsnd`, which sets the size field of the message
    first. -/
def loc_eng_dmn_conn_glue_msgsnd (abi : Abi) (pipe msgp : List UInt8) :
    Int × List UInt8 :=
  let msgsz := msgp.length
  let pmsg := leBytes (sizeof_size_t abi) msgsz ++ msgp.drop (sizeof_size_t abi)
  let r := loc_eng_dmn_conn_glue_pipewrite pipe pmsg
  if r.1 ≠ toInt msgsz then (-1, r.2) else r

/-- `loc_eng_dmn_conn_glue_msgrcv`: what it returns, what it leaves in the
    buffer and in the pipe. -/
def loc_eng_dmn_conn_glue_msgrcv (abi : Abi) (msgbufsz : Nat)
    (pipe : List UInt8) : Option (Int × List UInt8 × List UInt8) :=
  (loc_eng_dmn_conn_glue_piperead pipe (sizeof_size_t abi)).bind (fun r =>
    if r.1 ≠ sizeof_size_t abi then some (-1, r.2)
    else
      let msgsz := leVal r.2.1
      -- the rest of the message is not read
      if msgbufsz < msgsz then some (-1, r.2)
      else
        let sz := (msgsz + SIZE_RANGE abi - sizeof_size_t abi) % SIZE_RANGE abi
        (loc_eng_dmn_conn_glue_piperead r.2.2 sz).bind (fun r' =>
          if r'.1 ≠ toInt sz then some (-1, r.2.1 ++ r'.2.1, r'.2.2)
          else some (toInt msgsz, r.2.1 ++ r'.2.1, r'.2.2)))

/-! ## Frames -/

/-- A message that can be sent: it has a size field, and its size fits
    one. -/
structure Frame (abi : Abi) where
  msgp : List UInt8
  sizeof_le : sizeof_size_t abi ≤ msgp.length
  lt_range : msgp.length < SIZE_RANGE abi
deriving DecidableEq, Repr

namespace Frame

variable {abi : Abi}

/-- The size of a frame, its size field included. -/
def msgsz (f : Frame abi) : Nat := f.msgp.length

/-- What follows the size field. -/
def body (f : Frame abi) : List UInt8 := f.msgp.drop (sizeof_size_t abi)

/-- The message as it is sent. -/
def bytes (f : Frame abi) : List UInt8 :=
  leBytes (sizeof_size_t abi) f.msgsz ++ f.body

theorem length_body (f : Frame abi) :
    f.body.length = f.msgsz - sizeof_size_t abi := by
  rw [body, List.length_drop, msgsz]

theorem length_bytes (f : Frame abi) : f.bytes.length = f.msgsz := by
  have hle : sizeof_size_t abi ≤ f.msgsz := f.sizeof_le
  rw [bytes, List.length_append, length_leBytes, length_body]
  omega

end Frame

/-- The frames as they are in the pipe. -/
def wire {abi : Abi} (l : List (Frame abi)) : List UInt8 :=
  l.flatMap Frame.bytes

theorem wire_cons {abi : Abi} (f : Frame abi) (l : List (Frame abi)) :
    wire (f :: l) = f.bytes ++ wire l := List.flatMap_cons

theorem wire_append {abi : Abi} (l l' : List (Frame abi)) :
    wire (l ++ l') = wire l ++ wire l' := List.flatMap_append

/-- A frame written after whole frames is the last of them. -/
theorem wire_concat {abi : Abi} {pipe : List UInt8} {l : List (Frame abi)}
    (h : pipe = wire l) (f : Frame abi) : pipe ++ f.bytes = wire (l ++ [f]) := by
  rw [h, wire_append]
  exact congrArg (wire l ++ ·) (List.append_nil _).symm

/-- **SENDING** a frame succeeds and puts it at the end of the pipe. -/
theorem msgsnd_frame {abi : Abi} (pipe : List UInt8) (f : Frame abi) :
    loc_eng_dmn_conn_glue_msgsnd abi pipe f.msgp
      = (toInt f.msgsz, pipe ++ f.bytes) := by
  have hlen : (leBytes (sizeof_size_t abi) f.msgp.length
      ++ f.msgp.drop (sizeof_size_t abi)).length = f.msgp.length :=
    f.length_bytes
  simp only [loc_eng_dmn_conn_glue_msgsnd, loc_eng_dmn_conn_glue_pipewrite,
    hlen, ne_eq, not_true_eq_false, if_false, Frame.msgsz, Frame.bytes,
    Frame.body]

theorem msgsnd_pipe {abi : Abi} (pipe : List UInt8) (f : Frame abi) :
    (loc_eng_dmn_conn_glue_msgsnd abi pipe f.msgp).2 = pipe ++ f.bytes := by
  rw [msgsnd_frame]

theorem toInt_of_lt {n : Nat} (h : n < 2 ^ 31) : toInt n = n := by
  unfold toInt
  apply Int.bmod_eq_of_le <;> omega

/-- A size from 2^31 on is not itself in an `int`. -/
theorem toInt_ne {n : Nat} (h : ¬ n < 2 ^ 31) : toInt n ≠ n := by
  have hlt : toInt n < 2 ^ 31 := by
    unfold toInt
    exact Int.bmod_lt (by decide)
  omega

theorem toInt_sizeof (abi : Abi) :
    toInt (sizeof_size_t abi) = sizeof_size_t abi := by
  refine toInt_of_lt ?_
  cases abi <;> decide

theorem readN_size {abi : Abi} (f : Frame abi) (rest : List UInt8) :
    readN (sizeof_size_t abi) (f.bytes ++ rest)
      = some (leBytes (sizeof_size_t abi) f.msgsz, f.body ++ rest) := by
  rw [Frame.bytes, List.append_assoc]
  exact readN_append (length_leBytes _ _) _

/-- The difference of the sizes is no wrap-around. -/
theorem sub_sizeof {abi : Abi} (f : Frame abi) :
    (f.msgsz + SIZE_RANGE abi - sizeof_size_t abi) % SIZE_RANGE abi
      = f.msgsz - sizeof_size_t abi := by
  have hle : sizeof_size_t abi ≤ f.msgsz := f.sizeof_le
  have hlt : f.msgsz < SIZE_RANGE abi := f.lt_range
  rw [Nat.sub_add_comm hle, Nat.add_mod_right, Nat.mod_eq_of_lt (by omega)]

/-- **RECEIVING** with a frame at the head of the pipe. -/
theorem msgrcv_frame {abi : Abi} (msgbufsz : Nat) (f : Frame abi)
    (rest : List UInt8) :
    loc_eng_dmn_conn_glue_msgrcv abi msgbufsz (f.bytes ++ rest)
      = if msgbufsz < f.msgsz then
          some (-1, leBytes (sizeof_size_t abi) f.msgsz, f.body ++ rest)
        else some (toInt f.msgsz, f.bytes, rest) := by
  have hval : leVal (leBytes (sizeof_size_t abi) f.msgsz) = f.msgsz :=
    leVal_leBytes f.lt_range
  rw [loc_eng_dmn_conn_glue_msgrcv, loc_eng_dmn_conn_glue_piperead,
    readN_size, Option.map_some, Option.bind_some,
    if_neg (not_not.mpr (toInt_sizeof abi))]
  dsimp only
  rw [hval, sub_sizeof]
  split
  · rfl
  · rw [loc_eng_dmn_conn_glue_piperead, readN_append f.length_body rest,
      Option.map_some, Option.bind_some]
    dsimp only
    rw [if_neg (not_not.mpr rfl), Frame.bytes]

/-! ## A reader of the pipe -/

/-- The pipe with the frames sent and not yet received, and for each call
    what it returned and left in the buffer, beside the frame it was to
    receive. -/
structure Reader (abi : Abi) where
  pipe : List UInt8
  waiting : List (Frame abi)
  received : List (Option (Frame abi) × Int × List UInt8)
deriving DecidableEq, Repr

/-- A reader of an empty pipe. -/
def newReader (abi : Abi) : Reader abi := ⟨[], [], []⟩

/-- A frame is written, or one is read. -/
inductive ReaderAction (abi : Abi) where
  | msgsnd (f : Frame abi)
  | msgrcv
deriving DecidableEq, Repr

/-- Sends and receives with a buffer of `msgbufsz` bytes, in any order. -/
def readerSys (abi : Abi) (msgbufsz : Nat) :
    TransSys (Reader abi) (ReaderAction abi) where
  init s := s = newReader abi
  step s
    | .msgsnd f => some
        { s with
          pipe := (loc_eng_dmn_conn_glue_msgsnd abi s.pipe f.msgp).2
          waiting := s.waiting ++ [f] }
    | .msgrcv =>
        (loc_eng_dmn_conn_glue_msgrcv abi msgbufsz s.pipe).map (fun r =>
          { pipe := r.2.2
            waiting := s.waiting.tail
            received := s.received ++ [(s.waiting.head?, r.1, r.2.1)] })

/-- What a call is to return for its frame: the whole of it, or one
    error. -/
def Delivers (msgbufsz : Nat) {abi : Abi} :
    Option (Frame abi) × Int × List UInt8 → Prop
  | (some f, result, msgp) =>
      if f.msgsz ≤ msgbufsz then result = f.msgsz ∧ msgp = f.bytes
      else result = -1
  | (none, _) => False

/-- The reader is in step: the next call starts at the next frame and does
    not wait for more, and each call returned what it was to return. -/
structure InStep {abi : Abi} (msgbufsz : Nat) (s : Reader abi) : Prop where
  pipe : s.pipe = wire s.waiting
  progress : s.waiting ≠ [] →
    ((readerSys abi msgbufsz).step s .msgrcv).isSome = true
  received : ∀ r ∈ s.received, Delivers msgbufsz r

/-- A frame that fits the buffer and an `int`, or of which nothing is left
    after its size field. -/
def Fits (msgbufsz : Nat) {abi : Abi} (f : Frame abi) : Prop :=
  if f.msgsz ≤ msgbufsz then f.msgsz < 2 ^ 31
  else f.msgsz = sizeof_size_t abi

/-- The frame a call receives is one. -/
def FitsNext (msgbufsz : Nat) {abi : Abi} (s : Reader abi) :
    ReaderAction abi → Prop
  | .msgsnd _ => True
  | .msgrcv => ∀ f ∈ s.waiting.head?, Fits msgbufsz f

/-- A receive with nothing sent waits. -/
theorem msgrcv_nil (abi : Abi) (msgbufsz : Nat) :
    loc_eng_dmn_conn_glue_msgrcv abi msgbufsz [] = none := by
  cases abi <;> rfl

theorem body_eq_nil_iff {abi : Abi} (f : Frame abi) :
    f.body = [] ↔ f.msgsz = sizeof_size_t abi := by
  have hle : sizeof_size_t abi ≤ f.msgsz := f.sizeof_le
  rw [← List.length_eq_zero_iff, f.length_body]
  omega

/-- With whole frames in the pipe a receive waits for none. -/
theorem progress_of_pipe {abi : Abi} {msgbufsz : Nat} {s : Reader abi}
    (h : s.pipe = wire s.waiting) (hw : s.waiting ≠ []) :
    ((readerSys abi msgbufsz).step s .msgrcv).isSome = true := by
  obtain ⟨f, rest, hw⟩ := List.exists_cons_of_ne_nil hw
  show ((loc_eng_dmn_conn_glue_msgrcv abi msgbufsz s.pipe).map _).isSome = true
  rw [Option.isSome_map, h, hw, wire_cons, msgrcv_frame]
  split <;> rfl

theorem readerSys_snd {abi : Abi} (msgbufsz : Nat) (s : Reader abi)
    (f : Frame abi) :
    (readerSys abi msgbufsz).step s (.msgsnd f)
      = some ⟨s.pipe ++ f.bytes, s.waiting ++ [f], s.received⟩ := by
  simp only [readerSys, msgsnd_pipe]

theorem inStep_snd {abi : Abi} {msgbufsz : Nat} {s s' : Reader abi}
    (h : InStep msgbufsz s) {f : Frame abi}
    (hs : (readerSys abi msgbufsz).step s (.msgsnd f) = some s') :
    InStep msgbufsz s' := by
  rw [readerSys_snd] at hs
  obtain rfl := Option.some.inj hs
  have hpipe : s.pipe ++ f.bytes = wire (s.waiting ++ [f]) :=
    wire_concat h.pipe f
  exact ⟨hpipe, progress_of_pipe hpipe, h.received⟩

/-- In step, a receive is of the frame at the head. -/
theorem inStep_rcv {abi : Abi} {msgbufsz : Nat} {s s' : Reader abi}
    (h : InStep msgbufsz s)
    (hs : (readerSys abi msgbufsz).step s .msgrcv = some s') :
    ∃ f rest, s.waiting = f :: rest ∧
      s' = if msgbufsz < f.msgsz then
          ⟨f.body ++ wire rest, rest, s.received ++
            [(some f, -1, leBytes (sizeof_size_t abi) f.msgsz)]⟩
        else ⟨wire rest, rest, s.received ++
          [(some f, toInt f.msgsz, f.bytes)]⟩ := by
  obtain ⟨r, hr, rfl⟩ := Option.map_eq_some_iff.mp hs
  rw [h.pipe] at hr
  cases hw : s.waiting with
  | nil =>
      rw [hw, wire, List.flatMap_nil, msgrcv_nil] at hr
      cases hr
  | cons f rest =>
      rw [hw, wire_cons, msgrcv_frame] at hr
      refine ⟨f, rest, rfl, ?_⟩
      generalize toInt f.msgsz = length at hr ⊢
      split at hr
      · next hlt =>
          rw [if_pos hlt, ← Option.some.inj hr]
          rfl
      · next hle =>
          rw [if_neg hle, ← Option.some.inj hr]
          rfl

/-- **ONE CALL** keeps the reader in step if and only if the frame fits. -/
theorem inStep_rcv_iff {abi : Abi} {msgbufsz : Nat} {s s' : Reader abi}
    (h : InStep msgbufsz s)
    (hs : (readerSys abi msgbufsz).step s .msgrcv = some s') :
    InStep msgbufsz s' ↔ FitsNext msgbufsz s .msgrcv := by
  obtain ⟨f, rest, hw, rfl⟩ := inStep_rcv h hs
  have hnext : FitsNext msgbufsz s .msgrcv ↔ Fits msgbufsz f := by
    rw [FitsNext, hw]
    exact ⟨fun hall => hall f rfl, fun hf g hg => Option.some.inj hg ▸ hf⟩
  -- what was returned before is as it was
  have hall : ∀ r, Delivers msgbufsz r →
      ∀ r' ∈ s.received ++ [r], Delivers msgbufsz r' := by
    intro r hr r' hr'
    rcases List.mem_append.mp hr' with hmem | hmem
    · exact h.received r' hmem
    · exact List.mem_singleton.mp hmem ▸ hr
  rw [hnext, Fits]
  by_cases hlt : msgbufsz < f.msgsz
  · have hnle : ¬ f.msgsz ≤ msgbufsz := Nat.not_le.mpr hlt
    rw [if_pos hlt, if_neg hnle, ← body_eq_nil_iff]
    constructor
    · intro h'
      have hpipe : f.body ++ wire rest = wire rest := h'.pipe
      exact List.append_left_eq_self.mp hpipe
    · intro hbody
      have hpipe : f.body ++ wire rest = wire rest := by
        rw [hbody, List.nil_append]
      refine ⟨hpipe, progress_of_pipe hpipe, hall _ ?_⟩
      rw [Delivers, if_neg hnle]
  · have hle : f.msgsz ≤ msgbufsz := Nat.not_lt.mp hlt
    rw [if_neg hlt, if_pos hle]
    constructor
    · intro h'
      have hdel := h'.received _ (List.mem_append_right _ List.mem_cons_self)
      rw [Delivers, if_pos hle] at hdel
      by_contra hbig
      exact toInt_ne hbig hdel.1
    · intro hsmall
      refine ⟨rfl, progress_of_pipe rfl, hall _ ?_⟩
      rw [Delivers, if_pos hle]
      exact ⟨toInt_of_lt hsmall, rfl⟩

/-! ## The server -/

/-- The type of a request. -/
def GPSONE_LOC_API_IF_REQUEST : UInt8 := 0xF0

/-- The type of a release. -/
def GPSONE_LOC_API_IF_RELEASE : UInt8 := 0xF1

/-- The type of the message that only wakes the server. -/
def GPSONE_UNBLOCK : UInt8 := 0xF3

/-- A field of `n` bytes at `offset` in the buffer. -/
def field (buf : List UInt8) (offset n : Nat) : Nat :=
  leVal ((buf.drop offset).take n)

/-- `cmsg.cmsg_if_request` of the buffer. -/
def cmsg_if_request (abi : Abi) (buf : List UInt8) : IfRequest where
  type := UInt32.ofNat (field buf (offset_cmsg abi) 4)
  sender_id := UInt32.ofNat (field buf (offset_cmsg abi + 4) 4)
  ipv4_addr :=
    UInt32.ofNat (field buf (offset_cmsg abi + 8) (sizeof_size_t abi))
  ipv6_addr :=
    (buf.drop (offset_cmsg abi + 8 + sizeof_size_t abi)).take 16

/-- What a message is dispatched to: its type, and where a handler is called
    its result and what it sends. -/
structure Dispatch where
  ctrl_type : UInt8
  handled : Option (Int × Option LocMsg)
deriving DecidableEq, Repr

/-- The switch of `loc_api_server_proc` on the type in the buffer. -/
def dispatch (abi : Abi) (loc_api_handle : Bool) (buf : List UInt8) :
    Dispatch :=
  let ctrl_type := UInt8.ofNat (field buf (offset_ctrl_type abi) 1)
  let pmsg := cmsg_if_request abi buf
  if ctrl_type = GPSONE_LOC_API_IF_REQUEST then
    ⟨ctrl_type, some (loc_eng_dmn_conn_loc_api_server_if_request_handler
      loc_api_handle pmsg)⟩
  else if ctrl_type = GPSONE_LOC_API_IF_RELEASE then
    ⟨ctrl_type, some (loc_eng_dmn_conn_loc_api_server_if_release_handler
      pmsg)⟩
  else
    -- GPSONE_UNBLOCK only wakes the reader, others are unsupported
    ⟨ctrl_type, none⟩

/-- The buffer the server allocates. -/
def sz (abi : Abi) : Nat := sizeof_ctrl_msgbuf abi + 256

/-- `loc_api_server_proc`: its result, what it dispatched, and the pipe.
    `memory` is whether `malloc` finds memory, `junk` what is in it behind
    the message.  The handler's result is not looked at. -/
def loc_api_server_proc (abi : Abi) (loc_api_handle memory : Bool)
    (junk pipe : List UInt8) : Option (Int × Option Dispatch × List UInt8) :=
  if memory then
    (loc_eng_dmn_conn_glue_msgrcv abi (sz abi) pipe).map (fun r =>
      if r.1 ≤ 0 then (-1, none, r.2.2)
      else (0, some (dispatch abi loc_api_handle (r.2.1 ++ junk)), r.2.2))
  else some (-1, none, pipe)

/-- There is nothing to do before the first message. -/
def loc_api_server_proc_init : Int := 0

/-- Nor before each of them. -/
def loc_api_server_proc_pre : Int := 0

/-- Where `thelper_main` is. -/
inductive ThelperPc | start | proc | post | returned
deriving DecidableEq, Repr

/-- The thread of the server, as far as its functions go. -/
structure Thelper where
  thread_exit : Bool
  thread_ready : Bool
  pc : ThelperPc
deriving DecidableEq, Repr

/-- `thelper_main` up to its loop, by the results of `thread_proc_init` and
    `thread_proc_pre`. -/
def thelperStart (t : Thelper) (init pre : Int) : Thelper :=
  if init < 0 ∨ pre < 0 then ⟨true, true, .returned⟩
  else { t with thread_ready := true, pc := .proc }

/-- One round of its loop, by the result of `thread_proc`. -/
def thelperProc (t : Thelper) (result : Int) : Thelper :=
  let thread_exit := t.thread_exit || decide (result < 0)
  { t with
    thread_exit := thread_exit
    pc := if thread_exit then .post else .proc }

/-- The pipe with the frames not yet received, the thread, and for each round
    the frame it was to receive, the bytes behind it and what it
    dispatched. -/
structure Server (abi : Abi) where
  pipe : List UInt8
  waiting : List (Frame abi)
  thelper : Thelper
  served : List (Option (Frame abi) × List UInt8 × Option Dispatch)
deriving DecidableEq, Repr

/-- As `loc_eng_dmn_conn_launch_thelper` leaves it. -/
def newServer (abi : Abi) : Server abi := ⟨[], [], ⟨false, false, .start⟩, []⟩

/-- What the clients and the thread do. -/
inductive ServerAction (abi : Abi) where
  | msgsnd (f : Frame abi)
  | start
  | proc (memory : Bool) (junk : List UInt8)
  | post
deriving DecidableEq, Repr

/-- The daemons send, and `thelper_main` runs. -/
def serverSys (abi : Abi) (loc_api_handle : Bool) :
    TransSys (Server abi) (ServerAction abi) where
  init s := s = newServer abi
  step s
    | .msgsnd f => some
        { s with
          pipe := (loc_eng_dmn_conn_glue_msgsnd abi s.pipe f.msgp).2
          waiting := s.waiting ++ [f] }
    | .start =>
        if s.thelper.pc = .start then
          some { s with
            thelper := thelperStart s.thelper loc_api_server_proc_init
              loc_api_server_proc_pre }
        else none
    | .proc memory junk =>
        if s.thelper.pc = .proc then
          (loc_api_server_proc abi loc_api_handle memory junk s.pipe).map
            (fun r =>
              { pipe := r.2.2
                waiting := s.waiting.tail
                thelper := thelperProc s.thelper r.1
                served := s.served ++ [(s.waiting.head?, junk, r.2.1)] })
        else none
    | .post =>
        if s.thelper.pc = .post then
          some { s with thelper := { s.thelper with pc := .returned } }
        else none

/-- A frame that fits the buffer is dispatched, another is not. -/
def Served {abi : Abi} (loc_api_handle : Bool) :
    Option (Frame abi) × List UInt8 × Option Dispatch → Prop
  | (some f, junk, d) =>
      d = if f.msgsz ≤ sz abi then
          some (dispatch abi loc_api_handle (f.bytes ++ junk))
        else none
  | (none, _) => False

/-- The server is alive: it goes on with the next frame in the pipe, and
    dispatched what it received. -/
structure Serving {abi : Abi} (loc_api_handle : Bool) (s : Server abi) :
    Prop where
  pipe : s.pipe = wire s.waiting
  running : s.thelper.thread_exit = false ∧
    (s.thelper.pc = .start ∨ s.thelper.pc = .proc)
  progress : s.waiting ≠ [] → s.thelper.pc = .proc → ∀ junk,
    ((serverSys abi loc_api_handle).step s (.proc true junk)).isSome = true
  served : ∀ r ∈ s.served, Served loc_api_handle r

/-- A round finds memory, and a frame that fits the buffer. -/
def RoundFits {abi : Abi} (s : Server abi) : ServerAction abi → Prop
  | .proc memory _ => memory = true ∧ ∀ f ∈ s.waiting.head?, f.msgsz ≤ sz abi
  | _ => True

variable {abi : Abi} {loc_api_handle : Bool}

theorem serverSys_snd (s : Server abi) (f : Frame abi) :
    (serverSys abi loc_api_handle).step s (.msgsnd f)
      = some { s with
          pipe := s.pipe ++ f.bytes, waiting := s.waiting ++ [f] } := by
  simp only [serverSys, msgsnd_pipe]

/-- **ONE ROUND** with a frame at the head of the pipe. -/
theorem server_proc_frame (junk : List UInt8) (f : Frame abi)
    (rest : List UInt8) :
    loc_api_server_proc abi loc_api_handle true junk (f.bytes ++ rest)
      = if f.msgsz ≤ sz abi then
          some (0, some (dispatch abi loc_api_handle (f.bytes ++ junk)), rest)
        else some (-1, none, f.body ++ rest) := by
  rw [loc_api_server_proc, if_pos rfl, msgrcv_frame]
  by_cases hle : f.msgsz ≤ sz abi
  · have hsmall : f.msgsz < 2 ^ 31 :=
      Nat.lt_of_le_of_lt hle (by cases abi <;> decide)
    have hpos : 0 < f.msgsz := by
      have hsize : 0 < sizeof_size_t abi := by cases abi <;> decide
      exact Nat.lt_of_lt_of_le hsize f.sizeof_le
    have hlength : ¬ (f.msgsz : Int) ≤ 0 := by omega
    rw [if_neg (Nat.not_lt.mpr hle), if_pos hle, toInt_of_lt hsmall,
      Option.map_some]
    dsimp only
    rw [if_neg hlength]
  · rw [if_pos (Nat.not_le.mp hle), if_neg hle, Option.map_some]
    rfl

theorem server_progress {s : Server abi} (hpipe : s.pipe = wire s.waiting)
    (hw : s.waiting ≠ []) (hpc : s.thelper.pc = .proc) (junk : List UInt8) :
    ((serverSys abi loc_api_handle).step s (.proc true junk)).isSome
      = true := by
  obtain ⟨f, rest, hw⟩ := List.exists_cons_of_ne_nil hw
  show (if s.thelper.pc = .proc then (loc_api_server_proc abi loc_api_handle
    true junk s.pipe).map _ else none).isSome = true
  rw [if_pos hpc, Option.isSome_map, hpipe, hw, wire_cons, server_proc_frame]
  split <;> rfl

/-- The thread goes on after a round that did not fail. -/
theorem thelperProc_ok {t : Thelper}
    (h : t.thread_exit = false) : thelperProc t 0 = { t with pc := .proc } := by
  rw [thelperProc, h]
  rfl

theorem thelperProc_exit (t : Thelper) :
    (thelperProc t (-1)).thread_exit = true := by
  rw [thelperProc]
  exact Bool.or_true _

/-- A round takes the frame at the head, and ends the thread if it fails. -/
theorem serving_proc {s s' : Server abi} (h : Serving loc_api_handle s)
    {memory : Bool} {junk : List UInt8}
    (hs : (serverSys abi loc_api_handle).step s (.proc memory junk)
      = some s') :
    (RoundFits s (.proc memory junk) ∧ ∃ f rest, s.waiting = f :: rest ∧
      f.msgsz ≤ sz abi ∧
      s' = ⟨wire rest, rest, { s.thelper with pc := .proc }, s.served ++
        [(some f, junk, some (dispatch abi loc_api_handle
          (f.bytes ++ junk)))]⟩) ∨
    (¬ RoundFits s (.proc memory junk) ∧ s'.thelper.thread_exit = true) := by
  have hstep : (if s.thelper.pc = .proc then
      (loc_api_server_proc abi loc_api_handle memory junk s.pipe).map _
      else none) = some s' := hs
  split at hstep
  · obtain ⟨r, hr, rfl⟩ := Option.map_eq_some_iff.mp hstep
    cases memory with
    | false =>
        obtain rfl := Option.some.inj hr
        exact Or.inr ⟨fun hfit => (by cases hfit.1), thelperProc_exit _⟩
    | true =>
        rw [h.pipe] at hr
        cases hw : s.waiting with
        | nil =>
            rw [hw, wire, List.flatMap_nil, loc_api_server_proc, if_pos rfl,
              msgrcv_nil] at hr
            cases hr
        | cons f rest =>
            rw [hw, wire_cons, server_proc_frame] at hr
            by_cases hle : f.msgsz ≤ sz abi
            · rw [if_pos hle] at hr
              refine Or.inl ⟨⟨rfl, ?_⟩, f, rest, rfl, hle, ?_⟩
              · rw [hw]
                exact fun g hg => Option.some.inj hg ▸ hle
              · rw [← Option.some.inj hr]
                dsimp only
                rw [thelperProc_ok h.running.1]
                rfl
            · rw [if_neg hle] at hr
              refine Or.inr ⟨fun hfit => hle (hfit.2 f ?_), ?_⟩
              · rw [hw]
                rfl
              · rw [← Option.some.inj hr]
                exact thelperProc_exit _
  · cases hstep

/-- **ONE STEP** of a server that is alive: it stays so if and only if the
    step is no round that finds no memory or a frame too long. -/
theorem serving_step {s s' : Server abi} (h : Serving loc_api_handle s)
    {a : ServerAction abi}
    (hs : (serverSys abi loc_api_handle).step s a = some s') :
    Serving loc_api_handle s' ↔ RoundFits s a := by
  cases a with
  | msgsnd f =>
      refine iff_of_true ?_ trivial
      rw [serverSys_snd] at hs
      obtain rfl := Option.some.inj hs
      have hpipe : s.pipe ++ f.bytes = wire (s.waiting ++ [f]) :=
        wire_concat h.pipe f
      exact ⟨hpipe, h.running, server_progress hpipe, h.served⟩
  | start =>
      refine iff_of_true ?_ trivial
      have hstep : (if s.thelper.pc = .start then some _ else none)
        = some s' := hs
      split at hstep
      · obtain rfl := Option.some.inj hstep
        exact ⟨h.pipe, ⟨h.running.1, Or.inr rfl⟩, server_progress h.pipe,
          h.served⟩
      · cases hstep
  | proc memory junk =>
      rcases serving_proc h hs with ⟨hfit, f, rest, hw, hle, rfl⟩ |
        ⟨hfit, hexit⟩
      · refine iff_of_true ⟨rfl, ⟨h.running.1, Or.inr rfl⟩,
          server_progress rfl, ?_⟩ hfit
        intro r hr
        rcases List.mem_append.mp hr with hmem | hmem
        · exact h.served r hmem
        · rw [List.mem_singleton.mp hmem, Served, if_pos hle]
      · refine iff_of_false (fun h' => ?_) hfit
        have hrun := h'.running.1
        rw [hexit] at hrun
        cases hrun
  | post =>
      -- the loop has not ended
      have hstep : (if s.thelper.pc = .post then some _ else none)
        = some s' := hs
      split at hstep
      · next hpost =>
          rcases h.running.2 with hpc | hpc <;> rw [hpc] at hpost <;>
            cases hpost
      · cases hstep

theorem inStep_step {msgbufsz : Nat} {s s' : Reader abi}
    (h : InStep msgbufsz s) {a : ReaderAction abi}
    (hs : (readerSys abi msgbufsz).step s a = some s') :
    InStep msgbufsz s' ↔ FitsNext msgbufsz s a := by
  cases a with
  | msgsnd f => exact iff_of_true (inStep_snd h hs) trivial
  | msgrcv => exact inStep_rcv_iff h hs

/-- **THE PIPE IN STEP**: along a run of sends and receives every frame that
    fits the buffer is received whole and in order, and one that does not is
    one error, exactly when each frame received fits the buffer and an
    `int`, or is longer than the buffer and nothing but its size field; and
    the server goes on to dispatch what it receives exactly when each frame
    fits its buffer and it finds memory. -/
theorem pipe_in_step_iff (abi : Abi) (loc_api_handle : Bool) :
    (∀ msgbufsz l,
      HoldsAlong (readerSys abi msgbufsz) (InStep msgbufsz) (newReader abi) l
        ↔ StepsMeet (readerSys abi msgbufsz) (FitsNext msgbufsz)
          (newReader abi) l) ∧
    (∀ l, HoldsAlong (serverSys abi loc_api_handle) (Serving loc_api_handle)
        (newServer abi) l
      ↔ StepsMeet (serverSys abi loc_api_handle) RoundFits
        (newServer abi) l) := by
  refine ⟨fun msgbufsz l => ?_, fun l => ?_⟩
  · refine holdsAlong_iff_stepsMeet (I := InStep msgbufsz) (fun _ h => h)
      (fun _ _ _ h ha hs => (inStep_step h hs).mpr ha)
      (fun _ _ _ h ha hs h' => ha ((inStep_step h hs).mp h')) l ?_
    exact ⟨rfl, fun h => absurd rfl h, fun r hr => by cases hr⟩
  · refine holdsAlong_iff_stepsMeet (I := Serving loc_api_handle)
      (fun _ h => h) (fun _ _ _ h ha hs => (serving_step h hs).mpr ha)
      (fun _ _ _ h ha hs h' => ha ((serving_step h hs).mp h')) l ?_
    exact ⟨rfl, ⟨rfl, Or.inl rfl⟩, fun h => absurd rfl h,
      fun r hr => by cases hr⟩

/-- A frame of 400 bytes, for a buffer of 384. -/
def longFrame : Frame .lp64 :=
  ⟨List.replicate 400 0, by decide +kernel, by decide +kernel⟩

/-- A request for wifi by MSAPM. -/
def wifiFrame : Frame .lp64 where
  msgp := List.replicate 16 0 ++ [GPSONE_LOC_API_IF_REQUEST]
    ++ List.replicate 7 0 ++ [1, 0, 0, 0, 1, 0, 0, 0] ++ List.replicate 96 0
  sizeof_le := by decide +kernel
  lt_range := by decide +kernel

/-- The frames are sent, and the server runs until its thread ends. -/
def longRun : List (ServerAction .lp64) :=
  [.msgsnd longFrame, .msgsnd wifiFrame, .start, .proc true [], .post]

/-- The thread ends, and the request is not received. -/
theorem long_frame_ends_server :
    ¬ (∀ abi loc_api_handle,
      (∀ msgbufsz l, HoldsAlong (readerSys abi msgbufsz) (InStep msgbufsz)
        (newReader abi) l) ∧
      (∀ l, HoldsAlong (serverSys abi loc_api_handle) (Serving loc_api_handle)
        (newServer abi) l)) := by
  intro hall
  have hend : (exec (serverSys .lp64 true) (newServer .lp64) longRun).map
      (fun s => (s.thelper.pc, s.waiting))
      = some (.returned, [wifiFrame]) := by
    decide +kernel
  obtain ⟨s, hs, hpc⟩ := Option.map_eq_some_iff.mp hend
  have hserving := ((hall .lp64 true).2 longRun).last hs
  simp only [Prod.mk.injEq] at hpc
  rcases hserving.running.2 with h | h <;> rw [hpc.1] at h <;> cases h

end QcomDmnConn
