import QcomCommon.SweepProofs

/-! # The AGPS network interface machine

    `loc_eng_agps.cpp`: clients of a network interface (BIT, ATL, WIFI and DS
    subscribers) are kept in a linked list, and four state objects decide
    what a subscription, an unsubscription or an answer of the connectivity
    service does to the list and to the state.

    The file is the code: subscribers, notifications, the list searches, the
    four `onRsrcEvent` and the public entry points.  What the machine does to
    the outside (status calls to the adapter, messages to the daemons,
    requests to the servicer) is appended to `calls`.

    `Subscriber::equals` is a parameter (`SubscriberEquals`): BIT subscribers
    override it and read the other object through a cast.  `codeEquals` is
    the code's own, given the bytes such a cast reads. -/

namespace QcomAgps

open QcomSweep

/-! ## Subscribers -/

/-- `AgpsRsrcStatus`. -/
inductive AgpsRsrcStatus where
  | RSRC_SUBSCRIBE
  | RSRC_UNSUBSCRIBE
  | RSRC_GRANTED
  | RSRC_RELEASED
  | RSRC_DENIED
  | RSRC_STATUS_MAX
deriving DecidableEq, Repr

/-- The `AGpsStatusValue`s the machine sends. -/
inductive AGpsStatusValue where
  | GPS_REQUEST_AGPS_DATA_CONN
  | GPS_RELEASE_AGPS_DATA_CONN
deriving DecidableEq, Repr

/-- The types of a connection. -/
inductive AGpsExtType where
  | AGPS_TYPE_INVALID
  | AGPS_TYPE_ANY
  | AGPS_TYPE_SUPL
  | AGPS_TYPE_C2K
  | AGPS_TYPE_WWAN_ANY
  | AGPS_TYPE_WIFI
  | AGPS_TYPE_SUPL_ES
deriving DecidableEq, Repr

/-- The bearers of an APN. -/
inductive AGpsBearerType where
  | AGPS_APN_BEARER_INVALID
  | AGPS_APN_BEARER_IPV4
  | AGPS_APN_BEARER_IPV6
  | AGPS_APN_BEARER_IPV4V6
deriving DecidableEq, Repr

/-- The subscriber classes, with the members their methods read.  `ID` of a
    BIT subscriber is the IPv4 address, of a WIFI subscriber the sender. -/
inductive Subscriber where
  | BITSubscriber (ID : UInt32) (mIPv6Addr : List UInt8)
  | ATLSubscriber (ID : UInt32) (mBackwardCompatibleMode : Bool)
  | WIFISubscriber (ID : UInt32) (mSSID mPassword : Option String)
      (mIsInactive : Bool)
  | DSSubscriber (ID : UInt32) (mIsInactive : Bool)
deriving DecidableEq, Repr

namespace Subscriber

/-- What a subscriber is known by. -/
def ID : Subscriber → UInt32
  | BITSubscriber ID _ => ID
  | ATLSubscriber ID _ => ID
  | WIFISubscriber ID _ _ _ => ID
  | DSSubscriber ID _ => ID

/-- The subscriber stays until the connection is closed. -/
def waitForCloseComplete : Subscriber → Bool
  | BITSubscriber _ _ => false
  | ATLSubscriber _ _ => false
  | WIFISubscriber _ _ _ _ => true
  | DSSubscriber _ _ => true

/-- `isInactive`; only two classes have the member. -/
def isInactive : Subscriber → Bool
  | BITSubscriber _ _ => false
  | ATLSubscriber _ _ => false
  | WIFISubscriber _ _ _ mIsInactive => mIsInactive
  | DSSubscriber _ mIsInactive => mIsInactive

/-- The member update of `setInactive`; the base class has none. -/
def markInactive : Subscriber → Subscriber
  | BITSubscriber ID v6 => BITSubscriber ID v6
  | ATLSubscriber ID mode => ATLSubscriber ID mode
  | WIFISubscriber ID ssid pw _ => WIFISubscriber ID ssid pw true
  | DSSubscriber ID _ => DSSubscriber ID true

/-- `clone()`: the constructors start a WIFI or DS subscriber active. -/
def clone : Subscriber → Subscriber
  | BITSubscriber ID v6 => BITSubscriber ID v6
  | ATLSubscriber ID mode => ATLSubscriber ID mode
  | WIFISubscriber ID ssid pw _ => WIFISubscriber ID ssid pw false
  | DSSubscriber ID _ => DSSubscriber ID false

/-- The ssid and password `setWifiInfo` writes. -/
def wifiInfo : Subscriber → String × String
  | WIFISubscriber _ ssid pw _ => (ssid.getD "", pw.getD "")
  | _ => ("", "")

end Subscriber

/-- `Subscriber::equals`, the virtual comparison of a list entry with the
    subscriber of the caller. -/
class SubscriberEquals where
  equals : Subscriber → Subscriber → Bool

/-- The comparison of the base class. -/
@[reducible] def idEquals : SubscriberEquals := ⟨fun s t => s.ID == t.ID⟩

/-- `INADDR_NONE`. -/
def INADDR_NONE : UInt32 := 0xffffffff

/-- `strncmp(a, b, n) == 0`. -/
def strncmpEq : Nat → List UInt8 → List UInt8 → Bool
  | 0, _, _ => true
  | n + 1, a, b =>
      a.headD 0 == b.headD 0 &&
        (a.headD 0 == 0 || strncmpEq n a.tail b.tail)

/-- `equals` as the code dispatches it; `castIPv6 s` are the 16 bytes that
    `((BITSubscriber*)s)->mIPv6Addr` reads. -/
@[reducible] def codeEquals (castIPv6 : Subscriber → List UInt8) :
    SubscriberEquals where
  equals
    -- an IPv4 address of INADDR_NONE stands for an IPv6 subscriber
    | .BITSubscriber ID v6, t =>
        ID == t.ID && (INADDR_NONE != ID || strncmpEq 16 v6 (castIPv6 t))
    | s, t => s.ID == t.ID

/-! ## The machine -/

/-- Who a notification goes to. -/
inductive Recipient where
  | rcver (s : Subscriber)
  | BROADCAST_ALL
  | BROADCAST_ACTIVE
  | BROADCAST_INACTIVE
deriving DecidableEq, Repr

/-- A notification, with its receiver read. -/
structure Notification where
  recipient : Recipient
  rsrcStatus : AgpsRsrcStatus
  postNotifyDelete : Bool
deriving DecidableEq, Repr

/-- The `GPSONE_LOC_API_IF` results sent to a daemon. -/
inductive IfResult where
  | GPSONE_LOC_API_IF_REQUEST_SUCCESS
  | GPSONE_LOC_API_IF_RELEASE_SUCCESS
  | GPSONE_LOC_API_IF_FAILURE
deriving DecidableEq, Repr

/-- `LOC_ENG_IF_REQUEST_SENDER_ID_GPSONE_DAEMON`, after QUIPC, MSAPM and
    MSAPU. -/
def LOC_ENG_IF_REQUEST_SENDER_ID_GPSONE_DAEMON : UInt32 := 3

/-- The families of addresses that occur. -/
inductive SsFamily where
  | AF_UNSPEC
  | AF_INET6
deriving DecidableEq, Repr

/-- The request to the connectivity service; `ipv4_addr` is `none` where
    the code leaves it unwritten. -/
structure AGpsExtStatus where
  type : AGpsExtType
  status : AGpsStatusValue
  ipv4_addr : Option UInt32
  ss_family : SsFamily
  ssid : String
  password : String
deriving DecidableEq, Repr

/-- The calls the machine makes. -/
inductive Call where
  | atlOpenStatus (handle : UInt32) (is_succ : Bool) (apn : Option String)
      (bearer : AGpsBearerType) (agpsType : AGpsExtType)
  | atlCloseStatus (handle : UInt32) (is_succ : Bool)
  | data_conn (sender : UInt32) (result : IfResult)
  | requestRsrc (nifRequest : AGpsExtStatus)
  | dataCall (action : AGpsStatusValue)
  | closeDataCall
  | requestATL (connHandle : UInt32) (type : AGpsExtType)
  | requestSuplES (connHandle : UInt32)
  | loc_timer_start (msec : Nat)
deriving DecidableEq, Repr

/-- The states of a machine. -/
inductive AgpsState where
  | Released
  | Pending
  | Acquired
  | Releasing
deriving DecidableEq, Repr

/-- The state machine object.  `mRetries` is the member `DSStateMachine`
    adds. -/
structure AgpsStateMachine where
  mSubscribers : List Subscriber
  mStatePtr : AgpsState
  mType : AGpsExtType
  mAPN : Option String
  mBearer : AGpsBearerType
  mEnforceSingleSubscriber : Bool
  mRetries : UInt8
  calls : List Call
deriving DecidableEq, Repr

namespace AgpsStateMachine

/-- A call that leaves the machine. -/
def call (m : AgpsStateMachine) (c : Call) : AgpsStateMachine :=
  { m with calls := m.calls ++ [c] }

/-- `linked_list_empty` negated. -/
def hasSubscribers (m : AgpsStateMachine) : Bool :=
  !m.mSubscribers.isEmpty

/-- `linked_list_flush` on the subscriber list. -/
def dropAllSubscribers (m : AgpsStateMachine) : AgpsStateMachine :=
  { m with mSubscribers := [] }

/-- `DSStateMachine::informStatus`. -/
def informStatus (m : AgpsStateMachine) (status : AgpsRsrcStatus)
    (ID : UInt32) : AgpsStateMachine :=
  match status with
  | .RSRC_UNSUBSCRIBE => m.call (.atlCloseStatus ID true)
  | .RSRC_RELEASED => m.call .closeDataCall
  | .RSRC_DENIED =>
      { m with mRetries := 0 }.call (.requestATL ID .AGPS_TYPE_SUPL)
  | .RSRC_GRANTED =>
      m.call (.atlOpenStatus ID true none .AGPS_APN_BEARER_INVALID
        .AGPS_TYPE_INVALID)
  | _ => m

end AgpsStateMachine

/-- `linked_list_search`: the first element `equal` accepts, taken out of
    the list with `rm_if_found`. -/
def linkedListSearch {α W : Type} (equal : α → W → Bool × W)
    (rm_if_found : Bool) (l : List α) (w : W) : Option α × List α × W :=
  visit equal rm_if_found l w

section Notify

variable [SubscriberEquals]

open AgpsStateMachine

/-- `Subscriber::forMe`. -/
def forMe (n : Notification) (s : Subscriber) : Bool :=
  match n.recipient with
  | .rcver r => SubscriberEquals.equals s r
  | .BROADCAST_ALL => true
  | .BROADCAST_ACTIVE => !s.isInactive
  | .BROADCAST_INACTIVE => s.isInactive

/-- The switch of `BITSubscriber::notifyRsrcStatus`. -/
def bitStatus (status : AgpsRsrcStatus) (m : AgpsStateMachine) :
    Bool × AgpsStateMachine :=
  let tell := fun r =>
    m.call (.data_conn LOC_ENG_IF_REQUEST_SENDER_ID_GPSONE_DAEMON r)
  match status with
  | .RSRC_UNSUBSCRIBE => (true, tell .GPSONE_LOC_API_IF_RELEASE_SUCCESS)
  | .RSRC_RELEASED => (true, tell .GPSONE_LOC_API_IF_RELEASE_SUCCESS)
  | .RSRC_DENIED => (true, tell .GPSONE_LOC_API_IF_FAILURE)
  | .RSRC_GRANTED => (true, tell .GPSONE_LOC_API_IF_REQUEST_SUCCESS)
  | _ => (false, m)

/-- The switch of `ATLSubscriber::notifyRsrcStatus`. -/
def atlStatus (ID : UInt32) (mode : Bool) (status : AgpsRsrcStatus)
    (m : AgpsStateMachine) : Bool × AgpsStateMachine :=
  let type := if mode then .AGPS_TYPE_INVALID else m.mType
  match status with
  | .RSRC_UNSUBSCRIBE => (true, m.call (.atlCloseStatus ID true))
  | .RSRC_RELEASED => (true, m.call (.atlCloseStatus ID true))
  | .RSRC_DENIED =>
      (true, m.call (.atlOpenStatus ID false m.mAPN m.mBearer type))
  | .RSRC_GRANTED =>
      (true, m.call (.atlOpenStatus ID true m.mAPN m.mBearer type))
  | _ => (false, m)

/-- The switch of `WIFISubscriber::notifyRsrcStatus`. -/
def wifiStatus (senderId : UInt32) (status : AgpsRsrcStatus)
    (m : AgpsStateMachine) : Bool × AgpsStateMachine :=
  match status with
  | .RSRC_UNSUBSCRIBE => (true, m)
  | .RSRC_RELEASED =>
      (true, m.call (.data_conn senderId .GPSONE_LOC_API_IF_RELEASE_SUCCESS))
  | .RSRC_DENIED =>
      (true, m.call (.data_conn senderId .GPSONE_LOC_API_IF_FAILURE))
  | .RSRC_GRANTED =>
      (true, m.call (.data_conn senderId .GPSONE_LOC_API_IF_REQUEST_SUCCESS))
  | _ => (false, m)

/-- The switch of `DSSubscriber::notifyRsrcStatus`. -/
def dsStatus (ID : UInt32) (status : AgpsRsrcStatus)
    (m : AgpsStateMachine) : Bool × AgpsStateMachine :=
  match status with
  | .RSRC_UNSUBSCRIBE => (true, m.informStatus status ID)
  | .RSRC_RELEASED => (true, m.informStatus status ID)
  | .RSRC_DENIED => (true, m.informStatus status ID)
  | .RSRC_GRANTED => (true, m.informStatus status ID)
  | _ => (false, m)

/-- The switch of the subscriber's class. -/
def classStatus (s : Subscriber) (status : AgpsRsrcStatus)
    (m : AgpsStateMachine) : Bool × AgpsStateMachine :=
  match s with
  | .BITSubscriber _ _ => bitStatus status m
  | .ATLSubscriber ID mode => atlStatus ID mode status m
  | .WIFISubscriber ID _ _ _ => wifiStatus ID status m
  | .DSSubscriber ID _ => dsStatus ID status m

/-- `notifyRsrcStatus`, the same frame around the switch in every class. -/
def notifyRsrcStatus (n : Notification) (s : Subscriber)
    (m : AgpsStateMachine) : Bool × AgpsStateMachine :=
  if forMe n s then classStatus s n.rsrcStatus m else (false, m)

/-- `setInactive`: a DS subscriber also tells the modem. -/
def setInactive (s : Subscriber) (m : AgpsStateMachine) :
    Subscriber × AgpsStateMachine :=
  match s with
  | .DSSubscriber ID _ =>
      (s.markInactive, m.informStatus .RSRC_UNSUBSCRIBE ID)
  | _ => (s.markInactive, m)

/-- `hasSubscriber`, the search callback that only looks. -/
def hasSubscriber (n : Notification) (s : Subscriber) (w : Unit) :
    Bool × Unit :=
  (forMe n s, w)

/-- `notifySubscriber`, the search callback that notifies. -/
def notifySubscriber (n : Notification) (s : Subscriber)
    (m : AgpsStateMachine) : Bool × AgpsStateMachine :=
  ((notifyRsrcStatus n s m).1 && n.postNotifyDelete,
    (notifyRsrcStatus n s m).2)

namespace AgpsStateMachine

/-- The entry a search with `hasSubscriber` finds. -/
def findSubscriber (m : AgpsStateMachine) (n : Notification) :
    Option Subscriber :=
  (linkedListSearch (hasSubscriber n) false m.mSubscribers ()).1

/-- `notifySubscribers`.  With `postNotifyDelete` the search is repeated
    until it finds nothing; every search that finds something shortens the
    list, so one more search than there are entries is enough. -/
def notifySubscribers (m : AgpsStateMachine) (n : Notification) :
    AgpsStateMachine :=
  if n.postNotifyDelete then
    let r := sweep (notifySubscriber n) (m.mSubscribers.length + 1)
      m.mSubscribers m
    { r.2 with mSubscribers := r.1 }
  else
    let r := linkedListSearch (notifySubscriber n) false m.mSubscribers m
    { r.2.2 with mSubscribers := r.2.1 }

/-- `addSubscriber`: `linked_list_add` puts the clone in front. -/
def addSubscriber (m : AgpsStateMachine) (s : Subscriber) :
    AgpsStateMachine :=
  match m.findSubscriber ⟨.rcver s, .RSRC_STATUS_MAX, false⟩ with
  | none => { m with mSubscribers := s.clone :: m.mSubscribers }
  | some _ => m

/-- A subscriber of the list is active. -/
def hasActiveSubscribers (m : AgpsStateMachine) : Bool :=
  (m.findSubscriber ⟨.BROADCAST_ACTIVE, .RSRC_STATUS_MAX, false⟩).isSome

/-- The request record `sendRsrcRequest` fills in. -/
def nifRequest (m : AgpsStateMachine) (action : AGpsStatusValue)
    (s : Option Subscriber) : AGpsExtStatus where
  type := m.mType
  status := action
  ipv4_addr := if s.isNone then some INADDR_NONE else none
  ss_family := if s.isNone then .AF_UNSPEC else .AF_INET6
  ssid := (s.map (fun s => s.wifiInfo.1)).getD ""
  password := (s.map (fun s => s.wifiInfo.2)).getD ""

/-- `AgpsStateMachine::sendRsrcRequest`; it answers 0 in every case. -/
def sendRsrcRequest (action : AGpsStatusValue) (m : AgpsStateMachine) :
    Int × AgpsStateMachine :=
  let s := m.findSubscriber ⟨.BROADCAST_ACTIVE, .RSRC_STATUS_MAX, false⟩
  if s.isNone == (action == .GPS_RELEASE_AGPS_DATA_CONN) then
    (0, m.call (.requestRsrc (m.nifRequest action s)))
  else (0, m)

end AgpsStateMachine

/-! ## The four states

    `send` is the virtual `sendRsrcRequest`.  An event comes with its data:
    the caller's subscriber for a subscription, the entry found in the list
    for an unsubscription. -/

/-- The events of `AgpsState::onRsrcEvent`. -/
inductive RsrcEvent where
  | subscribe (subscriber : Subscriber)
  | unsubscribe (entry : Subscriber)
  | granted
  | released
  | denied
deriving DecidableEq, Repr

/-- The virtual `sendRsrcRequest`. -/
abbrev SendRsrcRequest :=
  AGpsStatusValue → AgpsStateMachine → Int × AgpsStateMachine

variable (send : SendRsrcRequest)

/-- `AgpsReleasedState::onRsrcEvent`: the next state and the machine. -/
def releasedOnRsrcEvent (event : RsrcEvent) (m : AgpsStateMachine) :
    AgpsState × AgpsStateMachine :=
  match event with
  | .subscribe s =>
      -- 0, unless this is a DSStateMachine whose data call did not start
      let r := send .GPS_REQUEST_AGPS_DATA_CONN (m.addSubscriber s)
      (if r.1 = 0 then .Pending else .Released, r.2)
  | .unsubscribe s =>
      -- the entry is told, and stays in the list
      (.Released, (notifyRsrcStatus ⟨.rcver s, .RSRC_UNSUBSCRIBE, false⟩ s m).2)
  | _ => (.Released, m)

/-- What the three other states do with the entry of an unsubscription.
    `setInactive` works on the entry in place.  In the other branch the code
    goes on comparing with the entry after it is freed; here the comparison
    is with the entry as it was. -/
def dropSubscriber (s : Subscriber) (m : AgpsStateMachine) :
    AgpsStateMachine :=
  if s.waitForCloseComplete then
    let r := setInactive s m
    { r.2 with mSubscribers := r.2.mSubscribers.replace s r.1 }
  else m.notifySubscribers ⟨.rcver s, .RSRC_UNSUBSCRIBE, true⟩

/-- What Pending and Acquired do once the entry is dropped. -/
def releaseIfUnused (this : AgpsState) (m : AgpsStateMachine) :
    AgpsState × AgpsStateMachine :=
  if !m.hasSubscribers then
    (.Released, (send .GPS_RELEASE_AGPS_DATA_CONN m).2)
  else if !m.hasActiveSubscribers then
    (.Releasing, (send .GPS_RELEASE_AGPS_DATA_CONN m).2)
  else (this, m)

/-- `AgpsPendingState::onRsrcEvent`. -/
def pendingOnRsrcEvent (event : RsrcEvent) (m : AgpsStateMachine) :
    AgpsState × AgpsStateMachine :=
  match event with
  | .subscribe s => (.Pending, m.addSubscriber s)
  | .unsubscribe s => releaseIfUnused send .Pending (dropSubscriber s m)
  | .granted =>
      (.Acquired, m.notifySubscribers ⟨.BROADCAST_ACTIVE, .RSRC_GRANTED, false⟩)
  | .released => (.Pending, m)
  | .denied =>
      (.Released, m.notifySubscribers ⟨.BROADCAST_ALL, .RSRC_DENIED, true⟩)

/-- `AgpsAcquiredState::onRsrcEvent`. -/
def acquiredOnRsrcEvent (event : RsrcEvent) (m : AgpsStateMachine) :
    AgpsState × AgpsStateMachine :=
  match event with
  | .subscribe s =>
      -- granted at once, also if an equal entry is in the list already
      (.Acquired, (notifyRsrcStatus ⟨.rcver s, .RSRC_GRANTED, false⟩ s m).2
        |>.addSubscriber s)
  | .unsubscribe s => releaseIfUnused send .Acquired (dropSubscriber s m)
  | .granted => (.Acquired, m)
  | .released =>
      (.Released, m.notifySubscribers ⟨.BROADCAST_ALL, .RSRC_RELEASED, true⟩)
  | .denied => (.Acquired, m)

/-- RELEASED and DENIED in Releasing: the inactive entries are told and
    deleted, and what is left is requested again. -/
def finishRelease (status : AgpsRsrcStatus) (m : AgpsStateMachine) :
    AgpsState × AgpsStateMachine :=
  let m' := m.notifySubscribers ⟨.BROADCAST_INACTIVE, status, true⟩
  if m'.hasActiveSubscribers then
    (.Pending, (send .GPS_REQUEST_AGPS_DATA_CONN m').2)
  else (.Released, m')

/-- `AgpsReleasingState::onRsrcEvent`. -/
def releasingOnRsrcEvent (event : RsrcEvent) (m : AgpsStateMachine) :
    AgpsState × AgpsStateMachine :=
  match event with
  | .subscribe s => (.Releasing, m.addSubscriber s)
  | .unsubscribe s =>
      -- the RELEASE is under way already, so none is sent
      let m' := dropSubscriber s m
      (if !m'.hasSubscribers then .Released else .Releasing, m')
  | .granted => (.Releasing, m)
  | .released => finishRelease send .RSRC_RELEASED m
  | .denied => finishRelease send .RSRC_DENIED m

/-- The virtual `onRsrcEvent` of the current state. -/
def stateOnRsrcEvent (event : RsrcEvent) (m : AgpsStateMachine) :
    AgpsState × AgpsStateMachine :=
  match m.mStatePtr with
  | .Released => releasedOnRsrcEvent send event m
  | .Pending => pendingOnRsrcEvent send event m
  | .Acquired => acquiredOnRsrcEvent send event m
  | .Releasing => releasingOnRsrcEvent send event m

namespace AgpsStateMachine

/-- `mStatePtr = mStatePtr->onRsrcEvent(event, data)`. -/
def stateEvent (m : AgpsStateMachine) (event : RsrcEvent) :
    AgpsStateMachine :=
  let r := stateOnRsrcEvent send event m
  { r.2 with mStatePtr := r.1 }

/-- `AgpsStateMachine::onRsrcEvent`. -/
def onRsrcEvent (m : AgpsStateMachine) (event : AgpsRsrcStatus) :
    AgpsStateMachine :=
  match event with
  | .RSRC_GRANTED => m.stateEvent send .granted
  | .RSRC_RELEASED => m.stateEvent send .released
  | .RSRC_DENIED => m.stateEvent send .denied
  | _ => m

/-- `subscribeRsrc`; a machine for one subscriber refuses a second one. -/
def subscribeRsrc (m : AgpsStateMachine) (s : Subscriber) :
    AgpsStateMachine :=
  if m.mEnforceSingleSubscriber && m.hasSubscribers then
    -- the caller's own object is told; the list is not touched
    (notifySubscriber ⟨.BROADCAST_ALL, .RSRC_DENIED, true⟩ s m).2
  else m.stateEvent send (.subscribe s)

/-- `unsubscribeRsrc`, with its answer. -/
def unsubscribeRsrc (m : AgpsStateMachine) (s : Subscriber) :
    Bool × AgpsStateMachine :=
  match m.findSubscriber ⟨.rcver s, .RSRC_STATUS_MAX, false⟩ with
  | some e => (true, m.stateEvent send (.unsubscribe e))
  | none => (false, m)

end AgpsStateMachine

end Notify

end QcomAgps
