import QcomCommon.AgpsStepProofs
import QcomCommon.LinkedListSearchProofs

/-! # Notifications to objects

    The subscribers of `loc_eng_agps.cpp` as objects: a subscriber is a handle
    into a table of those that are live, the linked list holds handles, and a
    notification with a receiver holds the handle of it.  The functions that
    look at a subscriber write down which one, as what, and whether it was
    live then.

    `notifySubscribers` runs the search of the linked list, again from the
    head after each entry it deletes.  It ends, and every entry the
    notification is for is notified once, and deleted once if it is to be
    (`notifySubscribers_once`); in terms of what the entries are it is the
    function on lists of subscribers (`notifySubscribers_refines`). -/

namespace QcomObjects

open QcomSweep QcomAgps QcomLinkedList

/-! ## Objects -/

/-- A pointer to a subscriber. -/
abbrev Handle := Nat

/-- The objects: those that are live, what the memory of a freed one reads
    as, and the handle from which on none was made. -/
structure Objects where
  live : Handle → Option Subscriber
  junk : Handle → Subscriber
  next : Handle

namespace Objects

/-- The object was made and not deleted. -/
def isLive (o : Objects) (h : Handle) : Bool := (o.live h).isSome

/-- What is read of an object, deleted or not. -/
def read (o : Objects) (h : Handle) : Subscriber :=
  (o.live h).getD (o.junk h)

/-- `delete`. -/
def delete (o : Objects) (h : Handle) : Objects :=
  { o with live := fun h' => if h' = h then none else o.live h' }

theorem delete_live_ne {o : Objects} {h h' : Handle} (hne : h' ≠ h) :
    (o.delete h).live h' = o.live h' :=
  if_neg hne

theorem delete_live_self (o : Objects) (h : Handle) :
    (o.delete h).live h = none :=
  if_pos rfl

theorem delete_read_ne {o : Objects} {h h' : Handle} (hne : h' ≠ h) :
    (o.delete h).read h' = o.read h' := by
  rw [read, delete_live_ne hne]
  rfl

end Objects

/-- What is done with a subscriber: it is compared as an entry of the list or
    as the receiver of the notification, notified, made inactive, deleted. -/
inductive Use
  | entry
  | rcver
  | notified
  | inactivated
  | deleted
deriving DecidableEq, Repr

/-- A use of an object, and whether it was live then. -/
structure Seen where
  use : Use
  obj : Handle
  live : Bool
deriving DecidableEq, Repr

/-- What the functions write: the members of the machine, of which
    `mSubscribers` is not used, and the uses of objects. -/
structure Trace where
  m : AgpsStateMachine
  seen : List Seen

/-- A use of an object is written down. -/
def Trace.see (tr : Trace) (o : Objects) (use : Use) (h : Handle) : Trace :=
  { tr with seen := tr.seen ++ [⟨use, h, o.isLive h⟩] }

/-! ## Notifications -/

/-- The groups of a broadcast. -/
inductive GroupID
  | BROADCAST_ALL
  | BROADCAST_ACTIVE
  | BROADCAST_INACTIVE
deriving DecidableEq, Repr

/-- `Notification`; with `rcver` not `NULL` the group is not read. -/
structure Notification where
  rcver : Option Handle
  groupID : GroupID
  rsrcStatus : AgpsRsrcStatus
  postNotifyDelete : Bool
deriving DecidableEq, Repr

/-- The group as a recipient. -/
def GroupID.recipient : GroupID → Recipient
  | .BROADCAST_ALL => .BROADCAST_ALL
  | .BROADCAST_ACTIVE => .BROADCAST_ACTIVE
  | .BROADCAST_INACTIVE => .BROADCAST_INACTIVE

/-- Who the notification is for, as the objects are. -/
def Notification.recipient (n : Notification) (o : Objects) : Recipient :=
  match n.rcver with
  | some r => .rcver (o.read r)
  | none => n.groupID.recipient

/-- What the receiver reads as decides who the notification is for. -/
theorem recipient_congr {n : Notification} {o o' : Objects}
    (h : ∀ r ∈ n.rcver, o.read r = o'.read r) :
    n.recipient o = n.recipient o' := by
  unfold Notification.recipient
  cases hr : n.rcver with
  | none => rfl
  | some r => exact congrArg Recipient.rcver (h r hr)

/-- The notification with its receiver read. -/
def Notification.reads (n : Notification) (o : Objects) :
    QcomAgps.Notification :=
  ⟨n.recipient o, n.rsrcStatus, n.postNotifyDelete⟩

/-- The receiver is read, if there is one. -/
def Notification.seeRcver (n : Notification) (o : Objects) (tr : Trace) :
    Trace :=
  match n.rcver with
  | some r => tr.see o .rcver r
  | none => tr

section Notify

variable [SubscriberEquals]

/-- `Subscriber::forMe` of the object `h`. -/
def forMe (o : Objects) (n : Notification) (h : Handle) (tr : Trace) :
    Bool × Trace :=
  (QcomAgps.forMe (n.reads o) (o.read h), n.seeRcver o (tr.see o .entry h))

/-- `notifyRsrcStatus` of the object `h`. -/
def notifyRsrcStatus (o : Objects) (n : Notification) (h : Handle)
    (tr : Trace) : Bool × Trace :=
  let r := forMe o n h tr
  if r.1 then
    let c := classStatus (o.read h) n.rsrcStatus r.2.m
    (c.1, if c.1 then { r.2 with m := c.2 }.see o .notified h
      else { r.2 with m := c.2 })
  else (false, r.2)

/-- The callback `hasSubscriber`. -/
def hasSubscriber (o : Objects) (n : Notification) (h : Handle) (tr : Trace) :
    Bool × Trace :=
  forMe o n h tr

/-- The callback `notifySubscriber`. -/
def notifySubscriber (o : Objects) (n : Notification) (h : Handle)
    (tr : Trace) : Bool × Trace :=
  let r := notifyRsrcStatus o n h tr
  (r.1 && n.postNotifyDelete, r.2)

/-- The loop of `notifySubscribers` with `postNotifyDelete`, for at most
    `fuel` searches. -/
def notifyLoop (n : Notification) : Nat → ListState Handle → Objects →
    Trace → Option (ListState Handle × Objects × Trace)
  | 0, _, _, _ => none
  | fuel + 1, l, o, tr =>
      (linkedListSearch l true (notifySubscriber o n) true tr).bind (fun r =>
        match r.data with
        -- delete of NULL does nothing
        | none => some (r.list, o, r.world)
        | some s =>
            notifyLoop n fuel r.list (o.delete s) (r.world.see o .deleted s))

/-- `AgpsStateMachine::notifySubscribers`: the list, the objects and what is
    written. -/
def notifySubscribers (fuel : Nat) (n : Notification) (l : ListState Handle)
    (o : Objects) (tr : Trace) :
    Option (ListState Handle × Objects × Trace) :=
  if n.postNotifyDelete then notifyLoop n fuel l o tr
  else
    (linkedListSearch l false (notifySubscriber o n) false tr).map
      (fun r => (r.list, o, r.world))

/-! ## The same on lists of handles -/

/-- The loop on the handles the list holds. -/
def notifyHandles (n : Notification) : Nat → List Handle → Objects →
    Trace → Option (List Handle × Objects × Trace)
  | 0, _, _, _ => none
  | fuel + 1, q, o, tr =>
      match visit (notifySubscriber o n) true q tr with
      | (none, q', tr') => some (q', o, tr')
      | (some s, q', tr') =>
          notifyHandles n fuel q' (o.delete s) (tr'.see o .deleted s)

/-- The loop on the linked list is the loop on what it holds. -/
theorem notifyLoop_holds {n : Notification} {fuel : Nat}
    {l : ListState Handle} {q q' : List Handle} {o o' : Objects}
    {tr tr' : Trace} (hl : Holds l q)
    (hq : notifyHandles n fuel q o tr = some (q', o', tr')) :
    ∃ l', notifyLoop n fuel l o tr = some (l', o', tr') ∧ Holds l' q' := by
  induction fuel generalizing l q o tr with
  | zero => cases hq
  | succ fuel ih =>
      obtain ⟨r, hr, hdata, hlist, hworld, -⟩ :=
        linkedListSearch_holds hl (notifySubscriber o n) true true tr
      rw [notifyHandles] at hq
      rw [notifyLoop, hr, Option.bind_some]
      rcases hv : visit (notifySubscriber o n) true q tr with
        ⟨_ | s, q₁, tr₁⟩
      · rw [hv] at hq hdata hlist hworld
        obtain ⟨rfl, rfl, rfl⟩ : q₁ = q' ∧ o = o' ∧ tr₁ = tr' := by
          simpa using hq
        rw [if_pos rfl] at hdata
        exact ⟨r.list, by rw [hdata, hworld], hlist⟩
      · rw [hv] at hq hdata hlist hworld
        rw [if_pos rfl] at hdata
        rw [hdata, hworld]
        exact ih hlist hq

end Notify

/-! ## Every entry once -/

/-- The objects used so, in order. -/
def uses (use : Use) (seen : List Seen) : List Handle :=
  (seen.filter (fun u => u.use == use)).map Seen.obj

theorem uses_append (use : Use) (seen seen' : List Seen) :
    uses use (seen ++ seen') = uses use seen ++ uses use seen' := by
  rw [uses, List.filter_append, List.map_append]
  rfl

/-- The trace with the uses of a comparison. -/
def Notification.compares (n : Notification) (o : Objects) (tr : Trace)
    (h : Handle) : Trace :=
  n.seeRcver o (tr.see o .entry h)

/-- The trace with those of a notification. -/
def Notification.tells (n : Notification) (o : Objects) (tr : Trace)
    (h : Handle) : Trace :=
  { n.compares o tr h with
    m := (classStatus (o.read h) n.rsrcStatus tr.m).2 }.see o .notified h

theorem compares_m (n : Notification) (o : Objects) (tr : Trace) (h : Handle) :
    (n.compares o tr h).m = tr.m := by
  unfold Notification.compares Notification.seeRcver
  cases n.rcver <;> rfl

/-- From `tr` to `tr'` the handles of `told` were notified in turn, those of
    `gone` deleted, and the machine was told what they tell it. -/
structure Tells (read : Handle → Subscriber) (status : AgpsRsrcStatus)
    (tr tr' : Trace) (told gone : List Handle) : Prop where
  seen : ∃ new, tr'.seen = tr.seen ++ new ∧ uses .notified new = told ∧
    uses .deleted new = gone
  m : tr'.m = told.foldl (fun m h => (classStatus (read h) status m).2) tr.m

theorem Tells.refl (read : Handle → Subscriber) (status : AgpsRsrcStatus)
    (tr : Trace) : Tells read status tr tr [] [] :=
  ⟨⟨[], (List.append_nil _).symm, rfl, rfl⟩, rfl⟩

theorem Tells.trans {read : Handle → Subscriber} {status : AgpsRsrcStatus}
    {tr tr' tr'' : Trace} {told told' gone gone' : List Handle}
    (h : Tells read status tr tr' told gone)
    (h' : Tells read status tr' tr'' told' gone') :
    Tells read status tr tr'' (told ++ told') (gone ++ gone') := by
  obtain ⟨⟨new, hseen, htold, hgone⟩, hm⟩ := h
  obtain ⟨⟨new', hseen', htold', hgone'⟩, hm'⟩ := h'
  refine ⟨⟨new ++ new', ?_, ?_, ?_⟩, ?_⟩
  · rw [hseen', hseen, List.append_assoc]
  · rw [uses_append, htold, htold']
  · rw [uses_append, hgone, hgone']
  · rw [hm', hm, List.foldl_append]

theorem tells_delete (read : Handle → Subscriber) (status : AgpsRsrcStatus)
    (tr : Trace) (o : Objects) (h : Handle) :
    Tells read status tr (tr.see o .deleted h) [] [h] :=
  ⟨⟨[⟨.deleted, h, o.isLive h⟩], rfl, rfl, rfl⟩, rfl⟩

theorem tells_compares (read : Handle → Subscriber) (n : Notification)
    (o : Objects) (tr : Trace) (h : Handle) :
    Tells read n.rsrcStatus tr (n.compares o tr h) [] [] := by
  refine ⟨?_, compares_m n o tr h⟩
  unfold Notification.compares Notification.seeRcver
  cases n.rcver with
  | none => exact ⟨[⟨.entry, h, o.isLive h⟩], rfl, rfl, rfl⟩
  | some r =>
      exact ⟨[⟨.entry, h, o.isLive h⟩, ⟨.rcver, r, o.isLive r⟩],
        List.append_assoc _ _ _, rfl, rfl⟩

theorem tells_tells {read : Handle → Subscriber} {o : Objects} {h : Handle}
    (hread : o.read h = read h) (n : Notification) (tr : Trace) :
    Tells read n.rsrcStatus tr (n.tells o tr h) [h] [] := by
  obtain ⟨new, hseen, htold, hgone⟩ := (tells_compares read n o tr h).seen
  refine ⟨⟨new ++ [⟨.notified, h, o.isLive h⟩], ?_, ?_, ?_⟩, ?_⟩
  · rw [← List.append_assoc, ← hseen]
    rfl
  · rw [uses_append, htold]
    rfl
  · rw [uses_append, hgone]
    rfl
  · rw [List.foldl_cons, List.foldl_nil, ← hread]
    rfl

/-- What every handle of a list does, they do in turn. -/
theorem tells_foldl {read : Handle → Subscriber} {status : AgpsRsrcStatus}
    {g : Trace → Handle → Trace} {q : List Handle}
    (told : Handle → List Handle)
    (hg : ∀ h ∈ q, ∀ tr, Tells read status tr (g tr h) (told h) [])
    (tr : Trace) :
    Tells read status tr (q.foldl g tr) (q.flatMap told) [] := by
  induction q generalizing tr with
  | nil => exact .refl read status tr
  | cons h q ih =>
      have hrest := ih (fun h' hh' => hg h' (List.mem_cons_of_mem h hh')) (g tr h)
      exact (hg h List.mem_cons_self tr).trans hrest

/-- The objects as the notification finds them: its receiver reads as at the
    call, and so do the entries of `q`. -/
structure Agrees (n : Notification) (o₀ o : Objects) (q : List Handle) :
    Prop where
  junk : o.junk = o₀.junk
  rcver : ∀ r ∈ n.rcver, o.read r = o₀.read r
  read : ∀ h ∈ q, o.read h = o₀.read h

/-- The receiver is who it was at the call, also once it is freed. -/
def FixedReceiver (n : Notification) (o : Objects) (q : List Handle) : Prop :=
  ∀ r ∈ n.rcver, r ∈ q → o.junk r = o.read r

/-- Deleting an entry leaves the others, and the receiver, as they were. -/
theorem Agrees.delete {n : Notification} {o₀ o : Objects}
    {q q' q₀ : List Handle} {s : Handle} (h : Agrees n o₀ o q)
    (hfix : FixedReceiver n o₀ q₀) (hs : s ∈ q₀) (hsub : ∀ e ∈ q', e ∈ q)
    (hne : ∀ e ∈ q', e ≠ s) : Agrees n o₀ (o.delete s) q' := by
  refine ⟨h.junk, ?_, ?_⟩
  · intro r hr
    by_cases hrs : r = s
    · rw [Objects.read, hrs, Objects.delete_live_self, Option.getD_none]
      show o.junk s = _
      rw [h.junk]
      exact hfix s (hrs ▸ hr) hs
    · rw [Objects.delete_read_ne hrs, h.rcver r hr]
  · intro e he
    rw [Objects.delete_read_ne (hne e he), h.read e (hsub e he)]

/-- The objects without those of `gone`. -/
def Objects.Without (o o' : Objects) (gone : List Handle) : Prop :=
  o'.junk = o.junk ∧ o'.next = o.next ∧
    ∀ h, o'.live h = if h ∈ gone then none else o.live h

theorem count_filter {q : List Handle} (hnodup : q.Nodup)
    (p : Handle → Bool) (h : Handle) :
    (q.filter p).count h = if h ∈ q ∧ p h = true then 1 else 0 := by
  rw [List.Nodup.count (hnodup.filter p)]
  simp only [List.mem_filter]

section Once

variable [SubscriberEquals]

/-- The notification is for the object. -/
def isMine (n : Notification) (o : Objects) (h : Handle) : Bool :=
  QcomAgps.forMe (n.reads o) (o.read h)

theorem notifyRsrcStatus_mine {n : Notification} {o : Objects} {h : Handle}
    (hst : handled n.rsrcStatus = true) (hm : isMine n o h = true)
    (tr : Trace) : notifyRsrcStatus o n h tr = (true, n.tells o tr h) := by
  have hfst := classStatus_fst (o.read h) n.rsrcStatus
    (n.compares o tr h).m
  rw [hst] at hfst
  unfold notifyRsrcStatus
  show (if isMine n o h = true then _ else _) = _
  rw [if_pos hm]
  show ((classStatus (o.read h) n.rsrcStatus (n.compares o tr h).m).1,
    if (classStatus (o.read h) n.rsrcStatus (n.compares o tr h).m).1 = true
      then _ else _) = _
  rw [hfst, if_pos rfl]
  show (true, Trace.see { n.compares o tr h with
    m := (classStatus (o.read h) n.rsrcStatus (n.compares o tr h).m).2 }
    o .notified h) = _
  rw [compares_m]
  rfl

theorem notifyRsrcStatus_other {n : Notification} {o : Objects} {h : Handle}
    (hm : isMine n o h = false) (tr : Trace) :
    notifyRsrcStatus o n h tr = (false, n.compares o tr h) := by
  unfold notifyRsrcStatus
  show (if isMine n o h = true then _ else _) = _
  rw [hm]
  exact if_neg Bool.false_ne_true

/-- With `postNotifyDelete` the callback accepts what it notifies. -/
theorem notifySubscriber_decides {n : Notification}
    (hst : handled n.rsrcStatus = true) (hdel : n.postNotifyDelete = true)
    (o : Objects) :
    Decides (notifySubscriber o n) (isMine n o) (n.tells o)
      (n.compares o) where
  yes h tr hm := by
    simp only [notifySubscriber, notifyRsrcStatus_mine hst hm, hdel,
      Bool.and_self]
  no h tr hm := by
    simp only [notifySubscriber, notifyRsrcStatus_other hm, Bool.false_and]

/-- What the callback does with an entry. -/
def Notification.passes (n : Notification) (o : Objects) (tr : Trace)
    (h : Handle) : Trace :=
  if isMine n o h then n.tells o tr h else n.compares o tr h

/-- Without it accepts nothing. -/
theorem notifySubscriber_passes {n : Notification}
    (hst : handled n.rsrcStatus = true) (hdel : n.postNotifyDelete = false)
    (o : Objects) :
    Decides (notifySubscriber o n) (fun _ => false) (n.passes o)
      (n.passes o) where
  yes h tr hm := by cases hm
  no h tr _ := by
    unfold Notification.passes
    by_cases hm : isMine n o h = true
    · simp only [notifySubscriber, notifyRsrcStatus_mine hst hm, hdel,
        Bool.and_false, if_pos hm]
    · simp only [notifySubscriber, notifyRsrcStatus_other
        (Bool.eq_false_iff.mpr hm), Bool.false_and, if_neg hm]

theorem Agrees.isMine {n : Notification} {o₀ o : Objects} {q : List Handle}
    (h : Agrees n o₀ o q) : ∀ e ∈ q, isMine n o e = isMine n o₀ e := by
  intro e he
  unfold QcomObjects.isMine Notification.reads
  rw [recipient_congr h.rcver, h.read e he]

/-- **THE LOOP** on handles: what the notification is for is notified and
    deleted, each once and in the order of the list. -/
theorem notifyHandles_once {n : Notification} {o₀ : Objects}
    {q₀ : List Handle} (hst : handled n.rsrcStatus = true)
    (hdel : n.postNotifyDelete = true) (hfix : FixedReceiver n o₀ q₀) :
    ∀ (fuel : Nat) (q : List Handle) (o : Objects) (tr : Trace),
      q.Nodup → (∀ h ∈ q, h ∈ q₀) → Agrees n o₀ o q →
      (q.filter (isMine n o₀)).length < fuel →
      ∃ o' tr', notifyHandles n fuel q o tr
          = some (q.filter (fun h => !isMine n o₀ h), o', tr') ∧
        Tells o₀.read n.rsrcStatus tr tr' (q.filter (isMine n o₀))
          (q.filter (isMine n o₀)) ∧
        o.Without o' (q.filter (isMine n o₀)) := by
  intro fuel
  induction fuel with
  | zero => intro q o tr _ _ _ hlt; exact absurd hlt (Nat.not_lt_zero _)
  | succ fuel ih =>
      intro q o tr hnodup hsub hag hlt
      have hdec := notifySubscriber_decides hst hdel o
      have hmine := hag.isMine
      rw [notifyHandles]
      rcases first_accepted (isMine n o₀) q with hnone | ⟨l₁, s, l₂, rfl, hno, hs⟩
      · -- nothing is left that the notification is for
        obtain ⟨hfilter, hkeep⟩ := filter_refused hnone
        rw [visit_refused hdec true (fun h hh => (hmine h hh).trans (hnone h hh)),
          hfilter, hkeep]
        have htells := tells_foldl (g := n.compares o) (q := q)
          (fun _ => []) (fun h _ tr => tells_compares o₀.read n o tr h) tr
        rw [List.flatMap_eq_nil_iff.mpr (fun _ _ => rfl)] at htells
        refine ⟨o, _, rfl, htells, rfl, rfl, fun h => ?_⟩
        rw [if_neg List.not_mem_nil]
      · obtain ⟨hfilter, hkeep⟩ := filter_accepted l₂ hno hs
        have hmem : s ∈ l₁ ++ s :: l₂ :=
          List.mem_append_right l₁ List.mem_cons_self
        have hrest : ∀ h ∈ l₁ ++ l₂, h ∈ l₁ ++ s :: l₂ ∧ h ≠ s := by
          intro h hh
          have hnd := List.nodup_middle.mp hnodup
          refine ⟨?_, fun heq => (List.nodup_cons.mp hnd).1 (heq ▸ hh)⟩
          rcases List.mem_append.mp hh with hh | hh
          · exact List.mem_append_left _ hh
          · exact List.mem_append_right _ (List.mem_cons_of_mem s hh)
        rw [visit_accepted hdec true l₂
          (fun h hh => (hmine h (List.mem_append_left _ hh)).trans (hno h hh))
          ((hmine s hmem).trans hs), hfilter, hkeep]
        dsimp only
        rw [if_pos rfl]
        rw [hfilter, List.length_cons] at hlt
        obtain ⟨o', tr', hrun, htells, hjunk, hnext, hlive⟩ :=
          ih (l₁ ++ l₂) (o.delete s) ((n.tells o (l₁.foldl (n.compares o) tr)
            s).see o .deleted s)
            (List.nodup_cons.mp (List.nodup_middle.mp hnodup)).2
            (fun h hh => hsub h (hrest h hh).1)
            (hag.delete hfix (hsub s hmem) (fun h hh => (hrest h hh).1)
              (fun h hh => (hrest h hh).2))
            (Nat.lt_of_succ_lt_succ hlt)
        have hbefore := tells_foldl (g := n.compares o) (q := l₁)
          (fun _ => []) (fun h _ tr => tells_compares o₀.read n o tr h) tr
        rw [List.flatMap_eq_nil_iff.mpr (fun _ _ => rfl)] at hbefore
        have hone := tells_tells (hag.read s hmem) n
          (l₁.foldl (n.compares o) tr)
        refine ⟨o', tr', hrun, ((hbefore.trans hone).trans
          (tells_delete o₀.read n.rsrcStatus _ o s)).trans htells, hjunk, hnext,
          fun h => ?_⟩
        rw [hlive h]
        by_cases hh : h = s
        · rw [hh, Objects.delete_live_self, ite_self,
            if_pos List.mem_cons_self]
        · rw [Objects.delete_live_ne hh]
          have hiff : h ∈ s :: (l₁ ++ l₂).filter (isMine n o₀) ↔
              h ∈ (l₁ ++ l₂).filter (isMine n o₀) :=
            ⟨fun hm => (List.mem_cons.mp hm).resolve_left hh,
              List.mem_cons_of_mem s⟩
          by_cases hin : h ∈ (l₁ ++ l₂).filter (isMine n o₀)
          · rw [if_pos hin, if_pos (hiff.mpr hin)]
          · rw [if_neg hin, if_neg (fun hm => hin (hiff.mp hm))]

/-- Without deletion a search notifies what the notification is for. -/
theorem visit_once {n : Notification} (hst : handled n.rsrcStatus = true)
    (hdel : n.postNotifyDelete = false) (o : Objects) (q : List Handle)
    (tr : Trace) :
    ∃ tr', visit (notifySubscriber o n) false q tr = (none, q, tr') ∧
      Tells o.read n.rsrcStatus tr tr' (q.filter (isMine n o)) [] := by
  have htold : q.flatMap (fun h => if isMine n o h then [h] else [])
      = q.filter (isMine n o) := by
    induction q with
    | nil => rfl
    | cons h q ih =>
        rw [List.flatMap_cons, ih]
        by_cases hm : isMine n o h = true
        · rw [if_pos hm, List.filter_cons_of_pos hm]
          rfl
        · rw [if_neg hm, List.filter_cons_of_neg hm]
          rfl
  have htells : ∀ h ∈ q, ∀ tr, Tells o.read n.rsrcStatus tr
      (n.passes o tr h) (if isMine n o h then [h] else []) [] := by
    intro h _ tr
    unfold Notification.passes
    by_cases hm : isMine n o h = true
    · rw [if_pos hm, if_pos hm]
      exact tells_tells rfl n tr
    · rw [if_neg hm, if_neg hm]
      exact tells_compares o.read n o tr h
  refine ⟨_, visit_refused (notifySubscriber_passes hst hdel o) false
    (fun _ _ => rfl) tr, ?_⟩
  rw [← htold]
  exact tells_foldl _ htells tr

/-- What is left of the list. -/
def Notification.keeps (n : Notification) (o : Objects) (q : List Handle) :
    List Handle :=
  if n.postNotifyDelete then q.filter (fun h => !isMine n o h) else q

/-- What is deleted. -/
def Notification.deletes (n : Notification) (o : Objects) (q : List Handle) :
    List Handle :=
  if n.postNotifyDelete then q.filter (isMine n o) else []

/-- The call as a whole. -/
theorem notifySubscribers_spec {l : ListState Handle} {q : List Handle}
    (hl : Holds l q) (hnodup : q.Nodup) {n : Notification}
    (hst : handled n.rsrcStatus = true) {o : Objects}
    (hfix : FixedReceiver n o q) (tr : Trace) {fuel : Nat}
    (hfuel : q.length < fuel) :
    ∃ l' o' tr', notifySubscribers fuel n l o tr = some (l', o', tr') ∧
      Holds l' (n.keeps o q) ∧ o.Without o' (n.deletes o q) ∧
      Tells o.read n.rsrcStatus tr tr' (q.filter (isMine n o))
        (n.deletes o q) := by
  unfold notifySubscribers Notification.keeps Notification.deletes
  by_cases hdel : n.postNotifyDelete = true
  · rw [if_pos hdel, if_pos hdel, if_pos hdel]
    have hle := List.length_filter_le (isMine n o) q
    obtain ⟨o', tr', hrun, htells, hwithout⟩ := notifyHandles_once hst hdel hfix
      fuel q o tr hnodup (fun h hh => hh) ⟨rfl, fun _ _ => rfl, fun _ _ => rfl⟩
      (Nat.lt_of_le_of_lt hle hfuel)
    obtain ⟨l', hloop, hl'⟩ := notifyLoop_holds hl hrun
    exact ⟨l', o', tr', hloop, hl', hwithout, htells⟩
  · rw [if_neg hdel, if_neg hdel, if_neg hdel]
    obtain ⟨tr', hvisit, htells⟩ :=
      visit_once hst (Bool.eq_false_iff.mpr hdel) o q tr
    obtain ⟨r, hr, -, hlist, hworld, -⟩ :=
      linkedListSearch_holds hl (notifySubscriber o n) false false tr
    rw [hvisit] at hlist hworld
    refine ⟨r.list, o, tr', by rw [hr, Option.map_some, hworld], hlist,
      ⟨rfl, rfl, fun h => ?_⟩, htells⟩
    rw [if_neg List.not_mem_nil]

/-- **EXACTLY ONCE**: for every list, every notification with one of the four
    statuses, and a receiver, if it has one, that is who it was at the call:
    the call ends; every entry it is for is notified once and no other one;
    with `postNotifyDelete` these and no others are taken out and deleted,
    once, and the others stay in their order; without it the list stays. -/
theorem notifySubscribers_once {l : ListState Handle} {q : List Handle}
    (hl : Holds l q) (hnodup : q.Nodup) {n : Notification}
    (hst : handled n.rsrcStatus = true) {o : Objects}
    (hfix : FixedReceiver n o q) (tr : Trace) {fuel : Nat}
    (hfuel : q.length < fuel) :
    ∃ l' o' tr' new, notifySubscribers fuel n l o tr = some (l', o', tr') ∧
      tr'.seen = tr.seen ++ new ∧
      (∀ h, (uses .notified new).count h
        = if h ∈ q ∧ isMine n o h = true then 1 else 0) ∧
      (∀ h, (uses .deleted new).count h
        = if n.postNotifyDelete = true ∧ h ∈ q ∧ isMine n o h = true then 1
          else 0) ∧
      (∀ h, o'.live h
        = if n.postNotifyDelete = true ∧ h ∈ q ∧ isMine n o h = true then none
          else o.live h) ∧
      Holds l' (if n.postNotifyDelete then q.filter (fun h => !isMine n o h)
        else q) := by
  obtain ⟨l', o', tr', hrun, hl', ⟨-, -, hlive⟩, ⟨new, hseen, htold, hgone⟩,
    -⟩ := notifySubscribers_spec hl hnodup hst hfix tr hfuel
  refine ⟨l', o', tr', new, hrun, hseen, ?_, ?_, ?_, hl'⟩
  · intro h
    rw [htold, count_filter hnodup]
  · intro h
    rw [hgone, Notification.deletes]
    by_cases hdel : n.postNotifyDelete = true
    · rw [if_pos hdel, count_filter hnodup]
      simp only [hdel, true_and]
    · rw [if_neg hdel, if_neg (fun hh => hdel hh.1)]
      rfl
  · intro h
    rw [hlive h, Notification.deletes]
    by_cases hdel : n.postNotifyDelete = true
    · rw [if_pos hdel]
      simp only [hdel, true_and, List.mem_filter]
    · rw [if_neg hdel, if_neg List.not_mem_nil, if_neg (fun hh => hdel hh.1)]

end Once

/-- Two modem clients, a Wi-Fi and a data services client that wait for their
    release, and at 4 a receiver that is none of them. -/
def mixedObjects : Objects where
  live := fun h =>
    match h with
    | 0 => some (.ATLSubscriber 7 false)
    | 1 => some (.WIFISubscriber 2 none none true)
    | 2 => some (.ATLSubscriber 8 false)
    | 3 => some (.DSSubscriber 9 true)
    | 4 => some (.ATLSubscriber 8 false)
    | _ => none
  junk := fun _ => .ATLSubscriber 0 false
  next := 5

/-- The machine before the call. -/
def mixedTrace : Trace :=
  ⟨⟨[], .Releasing, .AGPS_TYPE_WWAN_ANY, none, .AGPS_APN_BEARER_INVALID,
    false, 0, []⟩, []⟩

/-- Told of the release, the two that wait for it go and the modem clients
    stay; a grant for a receiver reaches the one entry it is equal to. -/
theorem notifySubscribers_once_mixed :
    ∃ (l l' l'' : ListState Handle) (o' o'' : Objects) (tr' tr'' : Trace)
      (new new' : List Seen), Holds l [3, 2, 1, 0] ∧
      @notifySubscribers idEquals 5
        ⟨none, .BROADCAST_INACTIVE, .RSRC_RELEASED, true⟩ l mixedObjects
        mixedTrace = some (l', o', tr') ∧ tr'.seen = new ∧
      [0, 1, 2, 3].map (uses .notified new).count = [0, 1, 0, 1] ∧
      [0, 1, 2, 3].map (uses .deleted new).count = [0, 1, 0, 1] ∧
      [0, 1, 2, 3].map o'.isLive = [true, false, true, false] ∧
      Holds l' [2, 0] ∧
      @notifySubscribers idEquals 5
        ⟨some 4, .BROADCAST_ALL, .RSRC_GRANTED, false⟩ l mixedObjects
        mixedTrace = some (l'', o'', tr'') ∧ tr''.seen = new' ∧
      [0, 1, 2, 3].map (uses .notified new').count = [0, 0, 1, 0] ∧
      Holds l'' [3, 2, 1, 0] := by
  obtain ⟨l, hl⟩ := exists_holds ([3, 2, 1, 0] : List Handle)
  obtain ⟨l', o', tr', new, hrun, hseen, htold, hgone, hlive, hl'⟩ :=
    @notifySubscribers_once idEquals l [3, 2, 1, 0] hl (by decide)
      ⟨none, .BROADCAST_INACTIVE, .RSRC_RELEASED, true⟩ rfl mixedObjects
      (by rintro r ⟨⟩) mixedTrace 5 (by decide)
  obtain ⟨l'', o'', tr'', new', hrun', hseen', htold', -, -, hl''⟩ :=
    @notifySubscribers_once idEquals l [3, 2, 1, 0] hl (by decide)
      ⟨some 4, .BROADCAST_ALL, .RSRC_GRANTED, false⟩ rfl mixedObjects
      (by rintro r ⟨⟩ hr; exact absurd hr (by decide)) mixedTrace 5 (by decide)
  refine ⟨l, l', l'', o', o'', tr', tr'', new, new', hl, hrun, hseen, ?_, ?_,
    ?_, hl', hrun', hseen', ?_, hl''⟩
  · simp only [List.map_cons, List.map_nil, htold]
    decide
  · simp only [List.map_cons, List.map_nil, hgone]
    decide
  · simp only [List.map_cons, List.map_nil, Objects.isLive, hlive]
    decide
  · simp only [List.map_cons, List.map_nil, htold']
    decide

/-! ## The function on lists of subscribers -/

/-- The machine with what the entries are for its list. -/
def Trace.machine (tr : Trace) (l : List Subscriber) : AgpsStateMachine :=
  { tr.m with mSubscribers := l }

theorem tells_machine {read : Handle → Subscriber} {status : AgpsRsrcStatus}
    {tr tr' : Trace} {told gone : List Handle}
    (h : Tells read status tr tr' told gone) (l l' : List Subscriber) :
    tr'.machine l' = (tr.machine l).withCalls l'
      ((told.map read).flatMap (statusCalls (tr.machine l) status)) := by
  have hm : tr'.m = tr.m.withCalls tr.m.mSubscribers
      ((told.map read).flatMap (statusCalls tr.m status)) := by
    rw [h.m, ← foldl_classStatus, List.foldl_map]
  have hcalls : statusCalls (tr.machine l) status = statusCalls tr.m status := by
    funext s
    have hsame := statusCalls_withCalls tr.m l [] status s
    rwa [withCalls_nil] at hsame
  rw [hcalls, Trace.machine, hm]
  rfl

section Refines

variable [SubscriberEquals]

/-- Who is told and who stays make the call on the list of subscribers. -/
theorem tells_refines {n : Notification} (hst : handled n.rsrcStatus = true)
    {o : Objects} {q gone : List Handle} {tr tr' : Trace}
    (htells : Tells o.read n.rsrcStatus tr tr' (q.filter (isMine n o)) gone) :
    (tr.machine (q.map o.read)).notifySubscribers (n.reads o)
      = tr'.machine ((n.keeps o q).map o.read) := by
  have hmine : ((q.map o.read).filter (QcomAgps.forMe (n.reads o)))
      = (q.filter (isMine n o)).map o.read := by
    rw [List.filter_map]
    rfl
  have hother : ((q.map o.read).filter
      (fun s => !QcomAgps.forMe (n.reads o) s))
      = (q.filter (fun h => !isMine n o h)).map o.read := by
    rw [List.filter_map]
    rfl
  rw [tells_machine htells (q.map o.read), ← hmine, Notification.keeps]
  by_cases hdel : n.postNotifyDelete = true
  · have hreads : n.reads o = ⟨n.recipient o, n.rsrcStatus, true⟩ := by
      rw [Notification.reads, hdel]
    rw [if_pos hdel, ← hother, hreads, notifySubscribers_delete _ _ hst]
    rfl
  · have hreads : n.reads o = ⟨n.recipient o, n.rsrcStatus, false⟩ := by
      rw [Notification.reads, Bool.eq_false_iff.mpr hdel]
    rw [if_neg hdel, hreads, notifySubscribers_keep]
    rfl

/-- **REFINEMENT**: read entry by entry, the call is the one on the list of
    subscribers. -/
theorem notifySubscribers_refines {l : ListState Handle} {q : List Handle}
    (hl : Holds l q) (hnodup : q.Nodup) {n : Notification}
    (hst : handled n.rsrcStatus = true) {o : Objects}
    (hfix : FixedReceiver n o q) (tr : Trace) {fuel : Nat}
    (hfuel : q.length < fuel) :
    ∃ l' q' o' tr', notifySubscribers fuel n l o tr = some (l', o', tr') ∧
      Holds l' q' ∧
      (tr.machine (q.map o.read)).notifySubscribers (n.reads o)
        = tr'.machine (q'.map o.read) := by
  obtain ⟨l', o', tr', hrun, hl', -, htells⟩ :=
    notifySubscribers_spec hl hnodup hst hfix tr hfuel
  exact ⟨l', n.keeps o q, o', tr', hrun, hl', tells_refines hst htells⟩

end Refines

end QcomObjects
