import QcomCommon.TransitionProofs

/-! # One-way messages

    A sender writes messages that it waits no answer for.  They are delivered
    one by one, in their order, at any time, until the receiver dies.  A
    receiver that can read what the sender writes has at any time taken the
    first of the messages, each once and in order; none is lost while it lives
    (`channel_inOrder`). -/

namespace QcomChannel

open QcomTransition

variable {M M' C W : Type}

/-- The two ends of an interface: what is sent for a message, what is taken
    from that, and the message as the receiver sees it, if it takes it. -/
structure Interface (M M' C W : Type) where
  Fits : M → Prop
  send : M → C × List W
  receive : C → List W → Option M'
  seen : M → Option M'
  receive_send : ∀ m, Fits m → receive (send m).1 (send m).2 = seen m

/-- What was sent, what is on its way, and what was received. -/
structure Channel (M M' C W : Type) where
  sent : List M
  queue : List (C × List W)
  received : List M'
  alive : Bool

/-- What the sender, the channel and the receiver do. -/
inductive Event (M : Type) where
  | send (m : M)
  | deliver
  | die

/-- One step of a channel. -/
def step (I : Interface M M' C W) (s : Channel M M' C W) :
    Event M → Option (Channel M M' C W)
  | .send m =>
      some { s with
        sent := s.sent ++ [m]
        queue := if s.alive then s.queue ++ [I.send m] else [] }
  | .deliver =>
      s.queue.head?.map fun t =>
        { s with
          queue := s.queue.tail
          received := s.received ++ (I.receive t.1 t.2).toList }
  | .die => some { s with queue := [], alive := false }

/-- A channel through which nothing has gone. -/
def channel (I : Interface M M' C W) :
    TransSys (Channel M M' C W) (Event M) where
  init s := s = ⟨[], [], [], true⟩
  step := step I

/-- The messages that are sent can be read. -/
def SendsFit (I : Interface M M' C W) (_ : Channel M M' C W) :
    Event M → Prop
  | .send m => I.Fits m
  | _ => True

/-- The messages on their way are the last that were sent, and those before
    were taken; behind the death of the receiver only the order is left. -/
def InOrder (I : Interface M M' C W) (s : Channel M M' C W) : Prop :=
  ∃ gone waiting, s.sent = gone ++ waiting ∧ (∀ m ∈ waiting, I.Fits m)
    ∧ s.received <+: gone.filterMap I.seen
    ∧ s.queue = waiting.map I.send
    ∧ (s.alive = true → s.received = gone.filterMap I.seen)
    ∧ (s.alive = false → waiting = [])

variable {I : Interface M M' C W} {s s' : Channel M M' C W}

/-- A message that fits is sent. -/
theorem inOrder_send {m : M} (h : InOrder I s) (hm : I.Fits m)
    (hs : step I s (.send m) = some s') : InOrder I s' := by
  obtain ⟨gone, waiting, hsent, hfits, hfirst, hqueue, hlive, hdead⟩ := h
  obtain rfl := Option.some.inj hs
  cases halive : s.alive with
  | true =>
      refine ⟨gone, waiting ++ [m], ?_, ?_, hfirst, ?_, fun _ => hlive halive,
        (nomatch ·)⟩
      · rw [hsent, List.append_assoc]
      · intro m' hm'
        rcases List.mem_append.mp hm' with h | h
        · exact hfits m' h
        · exact List.mem_singleton.mp h ▸ hm
      · show (if true then s.queue ++ [I.send m] else []) = _
        rw [if_pos rfl, hqueue, List.map_append]
        rfl
  | false =>
      -- the message is lost with the receiver
      obtain rfl := hdead halive
      refine ⟨gone ++ [m], [], ?_, hfits, ?_, rfl, (nomatch ·), fun _ => rfl⟩
      · rw [hsent, List.append_nil, List.append_nil]
      · rw [List.filterMap_append]
        exact hfirst.trans (List.prefix_append _ _)

/-- One is delivered. -/
theorem inOrder_deliver (h : InOrder I s)
    (hs : step I s .deliver = some s') : InOrder I s' := by
  obtain ⟨gone, waiting, hsent, hfits, hfirst, hqueue, hlive, hdead⟩ := h
  obtain ⟨t, ht, rfl⟩ := Option.map_eq_some_iff.mp hs
  cases waiting with
  | nil =>
      rw [hqueue] at ht
      exact nomatch ht
  | cons m waiting =>
      have htm : I.send m = t := by
        rw [hqueue] at ht
        exact Option.some.inj ht
      have hm := I.receive_send m (hfits m List.mem_cons_self)
      have halive : s.alive = true := by
        rw [← Bool.not_eq_false]
        exact fun h => List.cons_ne_nil m waiting (hdead h)
      have hreceived : s.received ++ (I.receive t.1 t.2).toList
          = (gone ++ [m]).filterMap I.seen := by
        rw [← htm, hm, List.filterMap_append, hlive halive]
        cases hseen : I.seen m <;> simp [hseen]
      refine ⟨gone ++ [m], waiting, ?_,
        fun m' h' => hfits m' (List.mem_cons_of_mem m h'), ?_, ?_,
        fun _ => hreceived, ?_⟩
      · rw [hsent, List.append_assoc]
        rfl
      · exact hreceived ▸ List.prefix_refl _
      · rw [hqueue]
        rfl
      · exact fun hfalse => absurd (halive.symm.trans hfalse) (by decide)

/-- The receiver dies. -/
theorem inOrder_die (h : InOrder I s) (hs : step I s .die = some s') :
    InOrder I s' := by
  obtain ⟨gone, waiting, hsent, _, hfirst, _, _, _⟩ := h
  obtain rfl := Option.some.inj hs
  refine ⟨s.sent, [], (List.append_nil _).symm,
    fun _ h => absurd h List.not_mem_nil, ?_, rfl, (nomatch ·), fun _ => rfl⟩
  rw [hsent, List.filterMap_append]
  exact hfirst.trans (List.prefix_append _ _)

/-- Every step keeps the order. -/
theorem inOrder_step {e : Event M} (h : InOrder I s) (hfits : SendsFit I s e)
    (hs : step I s e = some s') : InOrder I s' := by
  cases e with
  | send m => exact inOrder_send h hfits hs
  | deliver => exact inOrder_deliver h hs
  | die => exact inOrder_die h hs

/-- **IN ORDER**: what was received is the front of what was sent, as it is
    seen; while the receiver lives, it has all but what is on its way. -/
theorem channel_inOrder (h : ReachUnder (channel I) (SendsFit I) s) :
    s.received <+: s.sent.filterMap I.seen
      ∧ (s.alive = true → s.received
        = (s.sent.take (s.sent.length - s.queue.length)).filterMap I.seen) := by
  have hinit : ∀ s, (channel I).init s → InOrder I s := by
    rintro _ rfl
    exact ⟨[], [], rfl, fun _ h => absurd h List.not_mem_nil,
      List.prefix_refl _, rfl, fun _ => rfl, (nomatch ·)⟩
  obtain ⟨gone, waiting, hsent, _, hfirst, hqueue, hlive, _⟩ :=
    reachUnder_inv hinit (fun _ _ _ h hg hs => inOrder_step h hg hs) h
  refine ⟨?_, fun halive => ?_⟩
  · rw [hsent, List.filterMap_append]
    exact hfirst.trans (List.prefix_append _ _)
  · have hgone : s.sent.length - s.queue.length = gone.length := by
      rw [hsent, hqueue, List.length_append, List.length_map,
        Nat.add_sub_cancel]
    rw [hlive halive, hgone, hsent, List.take_left]

end QcomChannel
