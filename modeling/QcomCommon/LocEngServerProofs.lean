import QcomCommon.TransitionProofs

/-! # The SUPL server

    The address of the SUPL server reaches the modem as a message.  A call
    buffers it in the engine data and, once there is an adapter, sends it;
    what is buffered is sent again when AGPS is initialised and after every
    modem restart.

    The two paths disagree: `loc_eng_init` clears what a call buffered before
    it, and the buffer holds 100 characters of a host.  `server_delivered_iff`
    says which call the modem hears of in full.

    Of the server types only `LOC_AGPS_SUPL_SERVER` is modelled, and of the
    messages only those that set a server. -/

namespace QcomServer

open QcomTransition

/-! ## Calls and messages -/

/-- The characters of a C string before the NUL. -/
abbrev CString := List Char

/-- `strlcpy` to a buffer of `size` characters. -/
def strlcpy (src : CString) (size : Nat) : CString := src.take (size - 1)

/-- `strncasecmp` says equal; the NUL ends both. -/
def strncaseeq : CString → CString → Nat → Bool
  | _, _, 0 => true
  | [], [], _ + 1 => true
  | a :: s, b :: t, n + 1 => a.toLower == b.toLower && strncaseeq s t n
  | _, _, _ => false

/-- The messages for the server. -/
inductive LocMsg where
  | LocEngSetServerUrl (mUrl : CString)
  | LocEngUp
deriving DecidableEq, Repr

/-- The members of `loc_eng_data_s_type` for the SUPL server, the message
    queue of the adapter and the last URL handed to the modem.  The adapter
    and the callback are set or not; the port is the `int` as it is printed,
    without a sign. -/
structure LocEngData where
  adapter : Bool
  agps_status_cb : Bool
  supl_host_set : Bool
  supl_host_buf : CString
  supl_port_buf : UInt32
  queue : List LocMsg
  url : Option CString
deriving DecidableEq, Repr

/-- The bound on the length of a URL. -/
def MAX_URL_LEN : Nat := 256

/-- `sizeof(supl_host_buf)`. -/
def suplHostSize : Nat := 101

/-- A message goes behind the others of the queue. -/
def LocEngData.sendMsg (d : LocEngData) (msg : LocMsg) : LocEngData :=
  { d with queue := d.queue ++ [msg] }

/-- The host stands for no server. -/
def isNoHost (hostname : CString) : Bool :=
  strncaseeq "NONE".toList hostname 5

/-- `snprintf` of `"%s:%u"`, without the limit. -/
def printUrl (hostname : CString) (port : UInt32) : CString :=
  hostname ++ ':' :: Nat.toDigits 10 port.toNat

/-- The URL made of an address; a `NULL` host is no server either. -/
def makeUrl (hostname : Option CString) (port : UInt32) : CString :=
  match hostname with
  | none => []
  | some hostname =>
      if isNoHost hostname then [] else printUrl hostname port

/-- `loc_eng_set_server`; a longer URL is not sent. -/
def loc_eng_set_server (d : LocEngData) (hostname : Option CString)
    (port : UInt32) : LocEngData :=
  if (makeUrl hostname port).length < MAX_URL_LEN then
    d.sendMsg (.LocEngSetServerUrl (makeUrl hostname port))
  else d

/-- `loc_eng_set_server_proxy`. -/
def loc_eng_set_server_proxy (d : LocEngData) (hostname : CString)
    (port : UInt32) : LocEngData :=
  let buffered := { d with
    supl_host_buf := strlcpy hostname suplHostSize
    supl_port_buf := port
    supl_host_set := true }
  if buffered.adapter then loc_eng_set_server buffered (some hostname) port
  else buffered

/-- `loc_eng_agps_reinit`. -/
def loc_eng_agps_reinit (d : LocEngData) : LocEngData :=
  if d.supl_host_set then
    loc_eng_set_server d (some d.supl_host_buf) d.supl_port_buf
  else d

/-- The checks of `loc_eng_init` pass; `callbacks` are given or not. -/
def initAccepted (d : LocEngData) (callbacks : Bool) (event : UInt32) : Bool :=
  callbacks && event != 0 && !d.adapter

/-- `loc_eng_init`. -/
def loc_eng_init (d : LocEngData) (callbacks : Bool) (event : UInt32) :
    LocEngData :=
  if initAccepted d callbacks event then
    -- the memset of the engine data, then the new adapter
    { d with
      adapter := true
      agps_status_cb := false
      supl_host_set := false
      supl_host_buf := []
      supl_port_buf := 0 }
  else d

/-- The checks of `loc_eng_agps_init` pass; of the callbacks, if there are
    any, `status_cb` is set or not. -/
def agpsInitAccepted (d : LocEngData) (callbacks : Option Bool) : Bool :=
  d.adapter && !d.agps_status_cb && callbacks.isSome

/-- `loc_eng_agps_init`. -/
def loc_eng_agps_init (d : LocEngData) (callbacks : Option Bool) :
    LocEngData :=
  if agpsInitAccepted d callbacks then
    loc_eng_agps_reinit { d with agps_status_cb := callbacks.getD false }
  else d

/-- `loc_eng_handle_engine_up`. -/
def loc_eng_handle_engine_up (d : LocEngData) : LocEngData :=
  if d.agps_status_cb then loc_eng_agps_reinit d else d

/-- `proc` of a message. -/
def proc (d : LocEngData) : LocMsg → LocEngData
  | .LocEngSetServerUrl mUrl => { d with url := some mUrl }
  | .LocEngUp => loc_eng_handle_engine_up d

/-! ## The system -/

/-- What is done with the engine. -/
inductive ServerAction where
  | set_server_proxy (hostname : CString) (port : UInt32)
  | init (callbacks : Bool) (event : UInt32)
  | agps_init (callbacks : Option Bool)
  | engineUp
  | procMsg
deriving DecidableEq, Repr

/-- The calls come in any order; a modem that comes up sends its message, and
    the message thread handles the first one. -/
def serverStep (d : LocEngData) : ServerAction → Option LocEngData
  | .set_server_proxy hostname port =>
      some (loc_eng_set_server_proxy d hostname port)
  | .init callbacks event => some (loc_eng_init d callbacks event)
  | .agps_init callbacks => some (loc_eng_agps_init d callbacks)
  | .engineUp => if d.adapter then some (d.sendMsg .LocEngUp) else none
  | .procMsg => match d.queue with
      | [] => none
      | msg :: queue => some (proc { d with queue := queue } msg)

/-- Before the first call. -/
def newData : LocEngData where
  adapter := false
  agps_status_cb := false
  supl_host_set := false
  supl_host_buf := []
  supl_port_buf := 0
  queue := []
  url := none

/-- An engine from its start on. -/
def serverSys : TransSys LocEngData ServerAction where
  init d := d = newData
  step := serverStep

/-! ## The most recent call -/

/-- The address of the most recent call, whether it came after
    `loc_eng_init`, and whether a replay of the buffer came after it. -/
structure ServerNote where
  hostname : CString
  port : UInt32
  afterInit : Bool
  replayed : Bool
deriving DecidableEq, Repr

/-- The server was given to the modem again. -/
def ServerNote.replay (n : ServerNote) : ServerNote :=
  { n with replayed := true }

/-- The buffer is replayed when AGPS is initialised, and when a modem comes
    up once it is. -/
def replays (d : LocEngData) : ServerAction → Bool
  | .agps_init callbacks => agpsInitAccepted d callbacks
  | .procMsg => d.queue.head? = some .LocEngUp && d.agps_status_cb
  | _ => false

/-- What is known of the server, behind a step. -/
def serverNote (note : Option ServerNote) (d : LocEngData) (a : ServerAction)
    (_ : LocEngData) : Option ServerNote :=
  match a with
  | .set_server_proxy hostname port =>
      some ⟨hostname, port, d.adapter, false⟩
  | a => if replays d a then note.map ServerNote.replay else note

/-- The system with its most recent call. -/
def calledSys : TransSys (LocEngData × Option ServerNote) ServerAction :=
  watched serverSys none serverNote

/-! ## The queue -/

/-- The URL the modem has once the queue is drained, a later replay apart. -/
def lastSent : List LocMsg → Option CString → Option CString
  | [], url => url
  | .LocEngSetServerUrl mUrl :: queue, _ => lastSent queue (some mUrl)
  | .LocEngUp :: queue, url => lastSent queue url

/-- A URL that is sent is the last one. -/
theorem lastSent_url (queue : List LocMsg) (url : Option CString)
    (mUrl : CString) :
    lastSent (queue ++ [.LocEngSetServerUrl mUrl]) url = some mUrl := by
  induction queue generalizing url with
  | nil => rfl
  | cons msg queue ih =>
      cases msg with
      | LocEngSetServerUrl u => exact ih (some u)
      | LocEngUp => exact ih url

/-- The restart message sends none. -/
theorem lastSent_up (queue : List LocMsg) (url : Option CString) :
    lastSent (queue ++ [.LocEngUp]) url = lastSent queue url := by
  induction queue generalizing url with
  | nil => rfl
  | cons msg queue ih =>
      cases msg with
      | LocEngSetServerUrl u => exact ih (some u)
      | LocEngUp => exact ih url

/-! ## The URL -/

/-- The URL that is made is no longer than the one printed. -/
theorem makeUrl_length_le (hostname : CString) (port : UInt32) :
    (makeUrl (some hostname) port).length ≤
      (printUrl hostname port).length := by
  rw [makeUrl]
  split
  · exact Nat.zero_le _
  · exact Nat.le_refl _

/-- The length of a printed URL. -/
theorem printUrl_length (hostname : CString) (port : UInt32) :
    (printUrl hostname port).length =
      hostname.length + (1 + (Nat.toDigits 10 port.toNat).length) := by
  simp only [printUrl, List.length_append, List.length_cons]
  omega

/-- A copy is no longer than its source. -/
theorem strlcpy_length_le (src : CString) (size : Nat) :
    (strlcpy src size).length ≤ src.length :=
  List.length_take_le' _ _

/-- One that fits is the source. -/
theorem strlcpy_of_fits {src : CString} {size : Nat}
    (h : src.length < size) : strlcpy src size = src :=
  List.take_of_length_le (by omega)

/-- One that does not is shorter. -/
theorem strlcpy_shorter {src : CString} {size : Nat} (hsize : 0 < size)
    (h : ¬ src.length < size) : (strlcpy src size).length < src.length := by
  rw [strlcpy, List.length_take]
  omega

/-- A server is told as printed, unless the host stands for none. -/
theorem makeUrl_eq_iff (hostname : CString) (port : UInt32) :
    makeUrl (some hostname) port = printUrl hostname port ↔
      isNoHost hostname = false := by
  rw [makeUrl]
  constructor
  · intro heq
    cases hno : isNoHost hostname with
    | false => rfl
    | true => simp [hno, printUrl] at heq
  · intro hno
    rw [hno]
    rfl

/-- A shorter host gives another URL. -/
theorem makeUrl_shorter {short hostname : CString}
    (h : short.length < hostname.length) (port : UInt32) :
    makeUrl (some short) port ≠ printUrl hostname port := by
  intro heq
  have hle := makeUrl_length_le short port
  rw [heq, printUrl_length, printUrl_length] at hle
  omega

/-! ## What is sent for the most recent call -/

/-- The URL of the call fits. -/
def ServerNote.Fits (n : ServerNote) : Prop :=
  (printUrl n.hostname n.port).length < MAX_URL_LEN

/-- What was sent for the call last. -/
def ServerNote.sent (n : ServerNote) : CString :=
  makeUrl (some (if n.replayed then strlcpy n.hostname suplHostSize
    else n.hostname)) n.port

/-- A URL that fits is below the bound. -/
theorem ServerNote.Fits.call {n : ServerNote} (h : n.Fits) :
    (makeUrl (some n.hostname) n.port).length < MAX_URL_LEN :=
  Nat.lt_of_le_of_lt (makeUrl_length_le n.hostname n.port) h

/-- So is the URL of the saved server. -/
theorem ServerNote.Fits.replay {n : ServerNote} (h : n.Fits) :
    (makeUrl (some (strlcpy n.hostname suplHostSize)) n.port).length <
      MAX_URL_LEN := by
  have hle := makeUrl_length_le (strlcpy n.hostname suplHostSize) n.port
  have hshort := strlcpy_length_le n.hostname suplHostSize
  rw [ServerNote.Fits] at h
  rw [printUrl_length] at h hle
  omega

/-- What was sent last is the URL of the call. -/
theorem ServerNote.sent_eq_iff (n : ServerNote) :
    n.sent = printUrl n.hostname n.port ↔
      isNoHost n.hostname = false ∧
        (n.replayed = true → n.hostname.length < suplHostSize) := by
  rw [ServerNote.sent]
  cases hrep : n.replayed with
  | false =>
      simp only [Bool.false_eq_true, if_false, false_implies, and_true]
      exact makeUrl_eq_iff n.hostname n.port
  | true =>
      rw [if_pos rfl]
      by_cases hlen : n.hostname.length < suplHostSize
      · rw [strlcpy_of_fits hlen, makeUrl_eq_iff]
        exact ⟨fun hno => ⟨hno, fun _ => hlen⟩, fun h => h.1⟩
      · -- the buffer holds a shorter host
        have hshort := strlcpy_shorter (by decide) hlen
        constructor
        · intro heq
          exact absurd heq (makeUrl_shorter hshort n.port)
        · rintro ⟨_, hrest⟩
          exact absurd (hrest rfl) hlen

/-! ## Runs -/

/-- The buffer holds the address of the call, as far as it goes. -/
structure Buffered (d : LocEngData) (n : ServerNote) : Prop where
  host_set : d.supl_host_set = true
  host : d.supl_host_buf = strlcpy n.hostname suplHostSize
  port : d.supl_port_buf = n.port

/-- Without an adapter nothing is sent; until a call comes after
    `loc_eng_init`, none is buffered; then the last one is buffered, and the
    last URL is its own. -/
structure ServerLaw (d : LocEngData) (note : Option ServerNote) : Prop where
  closed : d.adapter = false →
    d.queue = [] ∧ d.url = none ∧ ∀ n ∈ note, n.afterInit = false
  early : (∀ n ∈ note, n.afterInit = false) →
    lastSent d.queue d.url = none ∧
      (d.adapter = true → d.supl_host_set = false)
  buffered : ∀ n ∈ note, n.afterInit = true → Buffered d n
  sent : ∀ n ∈ note, n.afterInit = true → n.Fits →
    lastSent d.queue d.url = some n.sent

/-- `loc_eng_set_server` sends the URL that is made, if it fits. -/
theorem set_server_eq (d : LocEngData) (hostname : Option CString)
    (port : UInt32) :
    loc_eng_set_server d hostname port = { d with
      queue := d.queue ++
        if (makeUrl hostname port).length < MAX_URL_LEN then
          [.LocEngSetServerUrl (makeUrl hostname port)]
        else [] } := by
  rw [loc_eng_set_server]
  split
  · rfl
  · rw [List.append_nil]

/-- A URL that fits is the last one sent. -/
theorem set_server_sent (d : LocEngData) {hostname : Option CString}
    {port : UInt32}
    (h : (makeUrl hostname port).length < MAX_URL_LEN) :
    lastSent (loc_eng_set_server d hostname port).queue
      (loc_eng_set_server d hostname port).url =
        some (makeUrl hostname port) := by
  rw [set_server_eq, if_pos h]
  exact lastSent_url _ _ _

/-- A call of `loc_eng_set_server_proxy` is noted. -/
theorem serverLaw_set {d : LocEngData} {note : Option ServerNote}
    (h : ServerLaw d note) (hostname : CString) (port : UInt32) :
    ServerLaw (loc_eng_set_server_proxy d hostname port)
      (some ⟨hostname, port, d.adapter, false⟩) := by
  cases had : d.adapter with
  | false =>
      obtain ⟨hqueue, hurl, _⟩ := h.closed had
      have hcall : loc_eng_set_server_proxy d hostname port = { d with
          supl_host_buf := strlcpy hostname suplHostSize
          supl_port_buf := port
          supl_host_set := true } := by
        simp [loc_eng_set_server_proxy, had]
      rw [hcall]
      refine ⟨?_, ?_, ?_, ?_⟩
      · intro _
        refine ⟨hqueue, hurl, ?_⟩
        intro n hn
        rw [← Option.mem_some.mp hn]
      · intro _
        refine ⟨?_, fun hset => ?_⟩
        · change lastSent d.queue d.url = none
          rw [hqueue, hurl]
          rfl
        · cases had.symm.trans hset
      · intro n hn hafter
        rw [← Option.mem_some.mp hn] at hafter
        cases hafter
      · intro n hn hafter
        rw [← Option.mem_some.mp hn] at hafter
        cases hafter
  | true =>
      have hcall : loc_eng_set_server_proxy d hostname port =
          loc_eng_set_server { d with
            supl_host_buf := strlcpy hostname suplHostSize
            supl_port_buf := port
            supl_host_set := true } (some hostname) port := by
        simp [loc_eng_set_server_proxy, had]
      rw [hcall]
      refine ⟨?_, ?_, ?_, ?_⟩
      · intro hclosed
        rw [set_server_eq] at hclosed
        cases had.symm.trans hclosed
      · intro hearly
        cases hearly _ rfl
      · intro n hn _
        rw [← Option.mem_some.mp hn, set_server_eq]
        exact ⟨rfl, rfl, rfl⟩
      · intro n hn _ hfits
        rw [← Option.mem_some.mp hn] at hfits ⊢
        exact set_server_sent _ hfits.call

/-- A replay sends what is buffered. -/
theorem serverLaw_reinit {d : LocEngData} {note : Option ServerNote}
    (h : ServerLaw d note) (hd : d.adapter = true) :
    ServerLaw (loc_eng_agps_reinit d) (note.map ServerNote.replay) := by
  have hopen : (loc_eng_agps_reinit d).adapter = true := by
    rw [loc_eng_agps_reinit, set_server_eq]
    split <;> exact hd
  refine ⟨?_, ?_, ?_, ?_⟩
  · intro hclosed
    cases hopen.symm.trans hclosed
  · intro hearly
    have hold : ∀ n ∈ note, n.afterInit = false := by
      intro n hn
      exact hearly n.replay (Option.mem_map_of_mem _ hn)
    obtain ⟨hlast, hset⟩ := h.early hold
    have hsame : loc_eng_agps_reinit d = d := by
      rw [loc_eng_agps_reinit, hset hd]
      rfl
    rw [hsame]
    exact ⟨hlast, hset⟩
  · rintro n' hn' hafter
    obtain ⟨n, hn, rfl⟩ := Option.map_eq_some_iff.mp hn'
    obtain ⟨hset, hhost, hport⟩ := h.buffered n hn hafter
    rw [loc_eng_agps_reinit, if_pos hset, set_server_eq]
    exact ⟨hset, hhost, hport⟩
  · rintro n' hn' hafter hfits
    obtain ⟨n, hn, rfl⟩ := Option.map_eq_some_iff.mp hn'
    obtain ⟨hset, hhost, hport⟩ := h.buffered n hn hafter
    rw [loc_eng_agps_reinit, if_pos hset, hhost, hport]
    exact set_server_sent d (ServerNote.Fits.replay (n := n) hfits)

/-- `loc_eng_init` clears the buffer, which no call after it filled. -/
theorem serverLaw_init {d : LocEngData} {note : Option ServerNote}
    (h : ServerLaw d note) (callbacks : Bool) (event : UInt32) :
    ServerLaw (loc_eng_init d callbacks event) note := by
  rw [loc_eng_init]
  split
  · rename_i haccepted
    have hd : d.adapter = false := by
      simp only [initAccepted, Bool.and_eq_true,
        Bool.not_eq_true'] at haccepted
      exact haccepted.2
    obtain ⟨hqueue, hurl, hnone⟩ := h.closed hd
    refine ⟨?_, ?_, ?_, ?_⟩
    · intro hclosed
      cases hclosed
    · intro _
      exact ⟨(h.early hnone).1, fun _ => rfl⟩
    · intro n hn hafter
      rw [hnone n hn] at hafter
      cases hafter
    · intro n hn hafter
      rw [hnone n hn] at hafter
      cases hafter
  · exact h

/-- The engine comes up. -/
theorem serverLaw_up {d : LocEngData} {note : Option ServerNote}
    (h : ServerLaw d note) (hd : d.adapter = true) :
    ServerLaw (d.sendMsg .LocEngUp) note := by
  have hlast : lastSent (d.sendMsg .LocEngUp).queue
      (d.sendMsg .LocEngUp).url = lastSent d.queue d.url :=
    lastSent_up d.queue d.url
  refine ⟨?_, ?_, ?_, ?_⟩
  · intro hclosed
    cases hd.symm.trans hclosed
  · intro hearly
    rw [hlast]
    exact h.early hearly
  · intro n hn hafter
    obtain ⟨hset, hhost, hport⟩ := h.buffered n hn hafter
    exact ⟨hset, hhost, hport⟩
  · intro n hn hafter hfits
    rw [hlast]
    exact h.sent n hn hafter hfits

/-- The law does not see `agps_status_cb`. -/
theorem serverLaw_agps {d : LocEngData} {note : Option ServerNote}
    (h : ServerLaw d note) (status_cb : Bool) :
    ServerLaw { d with agps_status_cb := status_cb } note := by
  refine ⟨h.closed, h.early, ?_, h.sent⟩
  intro n hn hafter
  obtain ⟨hset, hhost, hport⟩ := h.buffered n hn hafter
  exact ⟨hset, hhost, hport⟩

/-- The first message leaves the queue; a URL reaches the modem. -/
theorem serverLaw_pop {d : LocEngData} {note : Option ServerNote}
    (h : ServerLaw d note) (hd : d.adapter = true) {queue : List LocMsg}
    {url : Option CString}
    (hlast : lastSent queue url = lastSent d.queue d.url) :
    ServerLaw { d with queue := queue, url := url } note := by
  refine ⟨?_, ?_, ?_, ?_⟩
  · intro hclosed
    cases hd.symm.trans hclosed
  · intro hearly
    exact ⟨hlast.trans (h.early hearly).1, (h.early hearly).2⟩
  · intro n hn hafter
    obtain ⟨hset, hhost, hport⟩ := h.buffered n hn hafter
    exact ⟨hset, hhost, hport⟩
  · intro n hn hafter hfits
    exact hlast.trans (h.sent n hn hafter hfits)

/-- A message that is handled may give the server to the modem again. -/
theorem serverLaw_proc {d : LocEngData} {note : Option ServerNote}
    (h : ServerLaw d note) {msg : LocMsg} {queue : List LocMsg}
    (hqueue : d.queue = msg :: queue) :
    ServerLaw (proc { d with queue := queue } msg)
      (if replays d .procMsg then note.map ServerNote.replay else note) := by
  have hd : d.adapter = true := by
    cases had : d.adapter with
    | true => rfl
    | false =>
        rw [(h.closed had).1] at hqueue
        cases hqueue
  cases msg with
  | LocEngSetServerUrl mUrl =>
      have hnone : replays d .procMsg = false := by
        simp [replays, hqueue]
      rw [hnone]
      apply serverLaw_pop h hd
      rw [hqueue]
      rfl
  | LocEngUp =>
      have hpop : ServerLaw { d with queue := queue } note := by
        apply serverLaw_pop h hd
        rw [hqueue]
        rfl
      have hrep : replays d .procMsg = d.agps_status_cb := by
        simp [replays, hqueue]
      rw [proc, loc_eng_handle_engine_up, hrep]
      dsimp only
      split
      · exact serverLaw_reinit hpop hd
      · exact hpop

/-- Every step keeps the law of the server. -/
theorem serverLaw_step {p p' : LocEngData × Option ServerNote}
    {a : ServerAction} (h : ServerLaw p.1 p.2)
    (hs : calledSys.step p a = some p') : ServerLaw p'.1 p'.2 := by
  obtain ⟨hstep, hnote⟩ := watched_step hs
  rw [hnote]
  cases a with
  | set_server_proxy hostname port =>
      injection hstep with hstep
      rw [← hstep]
      exact serverLaw_set h hostname port
  | init callbacks event =>
      injection hstep with hstep
      rw [← hstep]
      exact serverLaw_init h callbacks event
  | agps_init callbacks =>
      injection hstep with hstep
      rw [← hstep, loc_eng_agps_init]
      change ServerLaw _ (if agpsInitAccepted p.1 callbacks = true then
        p.2.map ServerNote.replay else p.2)
      split
      · rename_i haccepted
        simp only [agpsInitAccepted, Bool.and_eq_true] at haccepted
        exact serverLaw_reinit (serverLaw_agps h _) haccepted.1.1
      · exact h
  | engineUp =>
      obtain ⟨hd, hstep⟩ := Option.ite_none_right_eq_some.mp hstep
      injection hstep with hstep
      rw [← hstep]
      exact serverLaw_up h hd
  | procMsg =>
      change serverStep p.1 .procMsg = some p'.1 at hstep
      rw [serverStep] at hstep
      split at hstep
      · cases hstep
      · rename_i msg queue hqueue
        injection hstep with hstep
        rw [← hstep]
        exact serverLaw_proc h hqueue

/-- The law holds in every run. -/
theorem serverLaw_reach {p : LocEngData × Option ServerNote}
    (h : Reach calledSys p) : ServerLaw p.1 p.2 := by
  refine reachUnder_inv (I := fun p => ServerLaw p.1 p.2) ?_ ?_ h
  · rintro ⟨d, note⟩ ⟨hd, hnote⟩
    dsimp only at hd hnote ⊢
    subst hd hnote
    refine ⟨?_, fun _ => ⟨rfl, fun _ => rfl⟩, ?_, ?_⟩
    · exact fun _ => ⟨rfl, rfl, fun _ hn => (by cases hn)⟩
    · intro n hn
      cases hn
    · intro n hn
      cases hn
  · intro p a p' hI _ hs
    exact serverLaw_step hI hs

/-- **THE MODEM HEARS OF THE MOST RECENT CALL** exactly when it came after
    `loc_eng_init`, its host stands for a server, and a replay since found it
    in full. -/
theorem server_delivered_iff {d : LocEngData} {n : ServerNote}
    (h : Reach calledSys (d, some n)) (hqueue : d.queue = [])
    (hfits : (printUrl n.hostname n.port).length < MAX_URL_LEN) :
    d.url = some (printUrl n.hostname n.port) ↔
      n.afterInit = true ∧ isNoHost n.hostname = false ∧
        (n.replayed = true → n.hostname.length < suplHostSize) := by
  have hlaw := serverLaw_reach h
  rw [← n.sent_eq_iff]
  cases hafter : n.afterInit with
  | false =>
      -- nothing was sent for a call before `loc_eng_init`
      have hnone : ∀ n' ∈ some n, n'.afterInit = false := by
        intro n' hn'
        rw [← Option.mem_some.mp hn']
        exact hafter
      have hlast := (hlaw.early hnone).1
      dsimp only at hlast
      rw [hqueue] at hlast
      change d.url = none at hlast
      simp [hlast]
  | true =>
      have hlast := hlaw.sent n rfl hafter hfits
      dsimp only at hlast
      rw [hqueue] at hlast
      change d.url = some n.sent at hlast
      simp [hlast]

/-! ## A server before and after `loc_eng_init` -/

theorem init_newData : calledSys.init (newData, none) := ⟨rfl, rfl⟩

/-- A host. -/
def suplHost : CString := "supl.host.com".toList

/-- A call after it, and a modem restart. -/
def lateCall : List ServerAction :=
  [.init true 1, .agps_init (some true), .set_server_proxy suplHost 7275,
   .engineUp, .procMsg, .procMsg, .procMsg]

/-- A server that is set after `loc_eng_agps_init`, and given again behind a
    restart. -/
theorem server_delivered_late :
    ∃ d n, exec calledSys (newData, none) lateCall = some (d, some n) ∧
      n.replayed = true ∧ d.url = some (printUrl n.hostname n.port) := by
  have hrun : (exec calledSys (newData, none) lateCall).map
      (fun p => (p.1.queue, p.2)) =
        some ([], some ⟨suplHost, 7275, true, true⟩) := by decide +kernel
  obtain ⟨⟨d, note⟩, hexec, hend⟩ := Option.map_eq_some_iff.mp hrun
  injection hend with hqueue hnote
  dsimp only at hqueue hnote
  subst hnote
  have hreach : Reach calledSys (d, some ⟨suplHost, 7275, true, true⟩) :=
    reach_exec _ (.init init_newData) hexec
  refine ⟨d, _, hexec, rfl, ?_⟩
  exact (server_delivered_iff hreach hqueue (by decide)).mpr
    ⟨rfl, by decide, fun _ => by decide⟩

/-- A call before it, whose address `loc_eng_init` clears. -/
def earlyCall : List ServerAction :=
  [.set_server_proxy suplHost 7275, .init true 1, .agps_init (some true)]

/-- A server that is set before `loc_eng_init` is lost there. -/
theorem server_cleared :
    ¬ (∀ (d : LocEngData) (n : ServerNote), Reach calledSys (d, some n) →
      d.agps_status_cb = true → d.queue = [] →
        n.hostname ≠ "NONE".toList →
          (printUrl n.hostname n.port).length < MAX_URL_LEN →
            d.url = some (printUrl n.hostname n.port)) := by
  intro hall
  have hrun : exec calledSys (newData, none) earlyCall = some
      (⟨true, true, false, [], 0, [], none⟩,
        some ⟨suplHost, 7275, false, true⟩) := by decide +kernel
  have hreach := reach_exec _ (.init init_newData) hrun
  have hurl := hall _ _ hreach rfl rfl (by decide) (by decide)
  cases hurl

end QcomServer
