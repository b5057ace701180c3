import QcomCommon.BitCountProofs
import QcomCommon.BufferProofs

/-! # Installing certificates

    `loc_eng_agps_install_certificates` counts the slots that can be written,
    checks the list of certificates and sends one message with a copy of all
    of them, or none (`install_spec`).  The copies lie in memory of their own
    (`copyCerts_spec`): what the caller does with its certificates afterwards
    does not reach them. -/

namespace QcomCerts

open QcomBits QcomBuffer QcomWhile

/-- The results of the function, of which the values are not in the
    sources. -/
inductive Result where
  | AGPS_CERTIFICATE_OPERATION_SUCCESS
  | AGPS_CERTIFICATE_ERROR_GENERIC
  | AGPS_CERTIFICATE_ERROR_TOO_MANY_CERTIFICATES
deriving DecidableEq

open Result

/-- The largest length of a certificate. -/
def AGPS_CERTIFICATE_MAX_LENGTH : Nat := 2000

/-- The memory, by its blocks; what is not written yet has no contents. -/
abbrev Heap := List (List (Option UInt8))

/-- A certificate: the block of its data, and their length. -/
structure DerEncodedCertificate where
  data : Nat
  length : Nat
deriving DecidableEq

/-- `new u_char[n]`. -/
def newBytes (heap : Heap) (n : Nat) : Heap × Nat :=
  (heap ++ [uninit UInt8 n], heap.length)

/-- `memcpy(dst, src, n)`, from and to the front of a block. -/
def memcpy (heap : Heap) (dst src n : Nat) : Option Heap :=
  (heap[dst]?).bind fun d =>
    (heap[src]?).bind fun s =>
      if n ≤ d.length ∧ n ≤ s.length then
        some (heap.set dst (s.take n ++ d.drop n))
      else none

/-- The loop of the constructor over the certificates; `new` has a result. -/
def copyCerts :
    Heap → List DerEncodedCertificate → Option (Heap × List DerEncodedCertificate)
  | heap, [] => some (heap, [])
  | heap, c :: certs =>
      let block := newBytes heap c.length
      (memcpy block.1 block.2 c.data c.length).bind fun heap =>
        (copyCerts heap certs).map fun r => (r.1, ⟨block.2, c.length⟩ :: r.2)

/-- The message. -/
structure LocEngInstallAGpsCert (Adapter : Type) where
  mpAdapter : Adapter
  mNumberOfCerts : Nat
  mSlotBitMask : BitVec 32
  mpData : List DerEncodedCertificate

/-- The loop over the lengths, with a `break`. -/
def checkLengths : List DerEncodedCertificate → Result → Result
  | [], ret_val => ret_val
  | c :: certs, ret_val =>
      if c.length > AGPS_CERTIFICATE_MAX_LENGTH then AGPS_CERTIFICATE_ERROR_GENERIC
      else checkLengths certs ret_val

/-- What a call leaves: its result, the memory and the messages it sends. -/
structure Installed (Adapter : Type) where
  ret_val : Result
  heap : Heap
  sent : List (LocEngInstallAGpsCert Adapter)

/-- `loc_eng_agps_install_certificates`, with `AGPS_CERT_WRITABLE_MASK` of the
    configuration. -/
def loc_eng_agps_install_certificates {Adapter : Type} (slotBitMask : BitVec 32)
    (adapter : Option Adapter) (certificates : List DerEncodedCertificate)
    (heap : Heap) : Option (Installed Adapter) :=
  let numberOfCerts := certificates.length
  (loop countPass 33 (slotBitMask, 0)).bind fun s =>
    let slotCount := s.2
    if numberOfCerts = 0 then
      some ⟨AGPS_CERTIFICATE_OPERATION_SUCCESS, heap, []⟩
    else
      match adapter with
      | none => some ⟨AGPS_CERTIFICATE_ERROR_GENERIC, heap, []⟩
      | some adapter =>
          if slotCount < numberOfCerts then
            some ⟨AGPS_CERTIFICATE_ERROR_TOO_MANY_CERTIFICATES, heap, []⟩
          else
            let ret_val :=
              checkLengths certificates AGPS_CERTIFICATE_OPERATION_SUCCESS
            if ret_val = AGPS_CERTIFICATE_OPERATION_SUCCESS then
              (copyCerts heap certificates).map fun r =>
                ⟨ret_val, r.1, [⟨adapter, numberOfCerts, slotBitMask, r.2⟩]⟩
            else some ⟨ret_val, heap, []⟩

/-! ## Copies -/

/-- The data of a certificate are as long as it says. -/
def Valid (heap : Heap) (c : DerEncodedCertificate) : Prop :=
  ∃ block, heap[c.data]? = some block ∧ c.length ≤ block.length

/-- A copy of the certificate `c` of `heap` in a new block of `heap'`. -/
def IsCopy (heap heap' : Heap) (c d : DerEncodedCertificate) : Prop :=
  d.length = c.length ∧ heap.length ≤ d.data ∧
    heap'[d.data]? = (heap[c.data]?).map (List.take c.length)

/-- Copies of a list of certificates: one for each in order, each in a new
    block of its own, with the memory as it was. -/
structure DeepCopies (heap heap' : Heap)
    (certs copies : List DerEncodedCertificate) : Prop where
  size : copies.length = certs.length
  copied : ∀ (i : Nat) (c : DerEncodedCertificate), certs[i]? = some c →
    ∃ d, copies[i]? = some d ∧ IsCopy heap heap' c d
  apart : (copies.map (·.data)).Nodup
  kept : heap <+: heap'

theorem getElem_of_kept {heap heap' : Heap} (h : heap <+: heap') {i : Nat}
    {b : List (Option UInt8)} (hi : heap[i]? = some b) : heap'[i]? = some b := by
  obtain ⟨rest, rfl⟩ := h
  rw [List.getElem?_append_left (List.getElem?_eq_some_iff.mp hi).1, hi]

theorem Valid.kept {heap heap' : Heap} {c : DerEncodedCertificate}
    (hc : Valid heap c) (h : heap <+: heap') : Valid heap' c := by
  obtain ⟨block, hblock, hlen⟩ := hc
  exact ⟨block, getElem_of_kept h hblock, hlen⟩

/-- A copy of one certificate is a new block. -/
theorem memcpy_new {heap : Heap} {c : DerEncodedCertificate}
    {block : List (Option UInt8)} (hblock : heap[c.data]? = some block) (hlen : c.length ≤ block.length) :
    memcpy (newBytes heap c.length).1 (newBytes heap c.length).2 c.data c.length
      = some (heap ++ [block.take c.length]) := by
  have hnew : (heap ++ [uninit UInt8 c.length])[heap.length]?
      = some (uninit UInt8 c.length) := List.getElem?_concat_length
  have hold : (heap ++ [uninit UInt8 c.length])[c.data]? = some block :=
    getElem_of_kept (List.prefix_append heap _) hblock
  have hsize : (uninit UInt8 c.length).length = c.length := length_uninit _ _
  have hdrop : (uninit UInt8 c.length).drop c.length = [] :=
    List.drop_eq_nil_of_le (Nat.le_of_eq hsize)
  rw [memcpy, newBytes, hnew, hold, Option.bind_some, Option.bind_some,
    if_pos ⟨Nat.le_of_eq hsize.symm, hlen⟩, hdrop, List.append_nil,
    List.set_append_right _ _ (Nat.le_refl _), Nat.sub_self, List.set_cons_zero]

theorem DeepCopies.new {heap heap' : Heap}
    {certs copies : List DerEncodedCertificate}
    (h : DeepCopies heap heap' certs copies) {d : DerEncodedCertificate}
    (hd : d ∈ copies) : heap.length ≤ d.data := by
  obtain ⟨i, hi⟩ := List.mem_iff_getElem?.mp hd
  have hlt := (List.getElem?_eq_some_iff.mp hi).1
  rw [h.size] at hlt
  obtain ⟨c, hc⟩ := exists_at hlt
  obtain ⟨d', hd', -, hnew, -⟩ := h.copied i c hc
  obtain rfl := Option.some.inj (hi.symm.trans hd')
  exact hnew

/-- One certificate before the others. -/
theorem DeepCopies.cons {heap heap' : Heap} {c : DerEncodedCertificate}
    {certs copies : List DerEncodedCertificate} {block : List (Option UInt8)}
    (hblock : heap[c.data]? = some block)
    (hvalid : ∀ c ∈ certs, Valid heap c)
    (h : DeepCopies (heap ++ [block.take c.length]) heap' certs copies) :
    DeepCopies heap heap' (c :: certs) (⟨heap.length, c.length⟩ :: copies) where
  size := by rw [List.length_cons, List.length_cons, h.size]
  copied i e he := by
    cases i with
    | zero =>
        obtain rfl := Option.some.inj he
        refine ⟨_, rfl, rfl, Nat.le_refl _, ?_⟩
        rw [hblock]
        exact getElem_of_kept h.kept List.getElem?_concat_length
    | succ i =>
        obtain ⟨d, hd, hlen, hnew, hcontents⟩ := h.copied i e he
        obtain ⟨b, hb, -⟩ := hvalid e (List.mem_of_getElem? he)
        refine ⟨d, hd, hlen, ?_, ?_⟩
        · rw [List.length_append] at hnew
          exact Nat.le_of_add_right_le hnew
        · rw [hcontents, hb, getElem_of_kept (List.prefix_append heap _) hb]
  apart := by
    refine List.nodup_cons.mpr ⟨fun hmem => ?_, h.apart⟩
    obtain ⟨d, hd, heq⟩ := List.mem_map.mp hmem
    have hnew := h.new hd
    rw [List.length_append, List.length_singleton, heq] at hnew
    exact absurd hnew (Nat.not_succ_le_self _)
  kept := (List.prefix_append heap _).trans h.kept

/-- **COPIES**: the constructor's loop makes deep copies. -/
theorem copyCerts_spec {heap : Heap} {certs : List DerEncodedCertificate}
    (hvalid : ∀ c ∈ certs, Valid heap c) :
    ∃ r, copyCerts heap certs = some r ∧ DeepCopies heap r.1 certs r.2 := by
  induction certs generalizing heap with
  | nil =>
      exact ⟨(heap, []), rfl, rfl, fun i c hc => absurd hc (by simp),
        List.nodup_nil, List.prefix_rfl⟩
  | cons c certs ih =>
      obtain ⟨block, hblock, hlen⟩ := hvalid c List.mem_cons_self
      have hrest : ∀ e ∈ certs, Valid heap e :=
        fun e he => hvalid e (List.mem_cons_of_mem c he)
      have hkept : ∀ e ∈ certs, Valid (heap ++ [block.take c.length]) e :=
        fun e he => (hrest e he).kept (List.prefix_append heap _)
      obtain ⟨r, hr, hcopies⟩ := ih hkept
      refine ⟨(r.1, ⟨heap.length, c.length⟩ :: r.2), ?_, hcopies.cons hblock hrest⟩
      rw [copyCerts]
      simp only [memcpy_new hblock hlen, Option.bind_some, hr, Option.map_some]
      rfl

/-! ## The call -/

/-- The lengths are checked one after the other, up to the first that is too
    large. -/
theorem checkLengths_eq (certs : List DerEncodedCertificate) (ret_val : Result) :
    checkLengths certs ret_val
      = if ∀ c ∈ certs, c.length ≤ AGPS_CERTIFICATE_MAX_LENGTH then ret_val
        else AGPS_CERTIFICATE_ERROR_GENERIC := by
  induction certs with
  | nil => exact (if_pos fun c hc => absurd hc List.not_mem_nil).symm
  | cons c certs ih =>
      rw [checkLengths, ih]
      by_cases hc : c.length ≤ AGPS_CERTIFICATE_MAX_LENGTH
      · rw [if_neg (Nat.not_lt.mpr hc)]
        refine if_congr ?_ rfl rfl
        rw [List.forall_mem_cons, and_iff_right hc]
      · rw [if_pos (Nat.lt_of_not_le hc), if_neg fun h => hc (h c List.mem_cons_self)]

/-- The slots that can be written. -/
def slots (slotBitMask : BitVec 32) : Nat := bitCount 32 slotBitMask.toNat

/-- What a message is sent for: some certificates, no more than slots, none of
    them too long, and an adapter. -/
def Installable {Adapter : Type} (slotBitMask : BitVec 32)
    (adapter : Option Adapter) (certs : List DerEncodedCertificate) : Prop :=
  certs ≠ [] ∧ adapter ≠ none ∧ certs.length ≤ slots slotBitMask ∧
    ∀ c ∈ certs, c.length ≤ AGPS_CERTIFICATE_MAX_LENGTH

/-- The message is sent once, with deep copies of the certificates and with the
    mask, or nothing is done; and the result says which and why. -/
structure AllOrNothing {Adapter : Type} (slotBitMask : BitVec 32)
    (adapter : Option Adapter) (certs : List DerEncodedCertificate) (heap : Heap)
    (r : Installed Adapter) : Prop where
  all : Installable slotBitMask adapter certs →
    r.ret_val = AGPS_CERTIFICATE_OPERATION_SUCCESS ∧
      ∃ m, r.sent = [m] ∧ adapter = some m.mpAdapter ∧
        m.mNumberOfCerts = certs.length ∧ m.mSlotBitMask = slotBitMask ∧
        DeepCopies heap r.heap certs m.mpData
  nothing : ¬ Installable slotBitMask adapter certs → r.sent = [] ∧ r.heap = heap
  empty : certs = [] → r.ret_val = AGPS_CERTIFICATE_OPERATION_SUCCESS
  tooMany : r.ret_val = AGPS_CERTIFICATE_ERROR_TOO_MANY_CERTIFICATES ↔
    adapter ≠ none ∧ slots slotBitMask < certs.length
  generic : ¬ Installable slotBitMask adapter certs → certs ≠ [] →
    ¬ (adapter ≠ none ∧ slots slotBitMask < certs.length) →
      r.ret_val = AGPS_CERTIFICATE_ERROR_GENERIC

section Cases

variable {Adapter : Type} {slotBitMask : BitVec 32} {adapter : Option Adapter}
  {certs : List DerEncodedCertificate} {heap : Heap}

/-- Nothing is done, with the result for it. -/
theorem allOrNothing_of_not {ret_val : Result}
    (hnot : ¬ Installable slotBitMask adapter certs)
    (hempty : certs = [] → ret_val = AGPS_CERTIFICATE_OPERATION_SUCCESS)
    (hmany : ret_val = AGPS_CERTIFICATE_ERROR_TOO_MANY_CERTIFICATES ↔
      adapter ≠ none ∧ slots slotBitMask < certs.length)
    (hgeneric : certs ≠ [] → ¬ (adapter ≠ none ∧ slots slotBitMask < certs.length) →
      ret_val = AGPS_CERTIFICATE_ERROR_GENERIC) :
    AllOrNothing slotBitMask adapter certs heap ⟨ret_val, heap, []⟩ where
  all h := absurd h hnot
  nothing _ := ⟨rfl, rfl⟩
  empty := hempty
  tooMany := hmany
  generic _ := hgeneric

/-- The message is sent. -/
theorem allOrNothing_of_sent {m : LocEngInstallAGpsCert Adapter} {heap' : Heap}
    (h : Installable slotBitMask adapter certs) (hadapter : adapter = some m.mpAdapter)
    (hnumber : m.mNumberOfCerts = certs.length)
    (hmask : m.mSlotBitMask = slotBitMask)
    (hcopies : DeepCopies heap heap' certs m.mpData) :
    AllOrNothing slotBitMask adapter certs heap
      ⟨AGPS_CERTIFICATE_OPERATION_SUCCESS, heap', [m]⟩ where
  all _ := ⟨rfl, m, rfl, hadapter, hnumber, hmask, hcopies⟩
  nothing hnot := absurd h hnot
  empty _ := rfl
  tooMany := iff_of_false nofun fun hmany => Nat.not_le.mpr hmany.2 h.2.2.1
  generic hnot := absurd h hnot

end Cases

/-- **ALL OR NOTHING**: for every mask, list and adapter. -/
theorem install_spec {Adapter : Type} (slotBitMask : BitVec 32)
    (adapter : Option Adapter) {certs : List DerEncodedCertificate} {heap : Heap}
    (hvalid : ∀ c ∈ certs, Valid heap c) :
    ∃ r, loc_eng_agps_install_certificates slotBitMask adapter certs heap = some r ∧
      AllOrNothing slotBitMask adapter certs heap r := by
  have hcount : loop countPass 33 (slotBitMask, 0) = some (0, slots slotBitMask) :=
    countLoop_spec slotBitMask (by decide)
  rw [loc_eng_agps_install_certificates, hcount, Option.bind_some]
  by_cases hempty : certs = []
  · rw [if_pos (List.length_eq_zero_iff.mpr hempty)]
    have hfew : ¬ slots slotBitMask < certs.length := by
      rw [hempty]
      exact Nat.not_lt_zero _
    exact ⟨_, rfl, allOrNothing_of_not (fun h => h.1 hempty) (fun _ => rfl)
      (iff_of_false nofun fun h => hfew h.2) (fun h => absurd hempty h)⟩
  rw [if_neg fun h => hempty (List.length_eq_zero_iff.mp h)]
  cases adapter with
  | none =>
      exact ⟨_, rfl, allOrNothing_of_not (fun h => h.2.1 rfl)
        (fun h => absurd h hempty) (iff_of_false nofun fun h => h.1 rfl)
        (fun _ _ => rfl)⟩
  | some a =>
      have hsome : some a ≠ none := Option.some_ne_none a
      dsimp only
      by_cases hmany : slots slotBitMask < certs.length
      · rw [if_pos hmany]
        exact ⟨_, rfl, allOrNothing_of_not (fun h => Nat.not_le.mpr hmany h.2.2.1)
          (fun h => absurd h hempty) (iff_of_true rfl ⟨hsome, hmany⟩)
          (fun _ h => absurd ⟨hsome, hmany⟩ h)⟩
      rw [if_neg hmany, checkLengths_eq]
      by_cases hlong : ∀ c ∈ certs, c.length ≤ AGPS_CERTIFICATE_MAX_LENGTH
      · obtain ⟨r, hr, hcopies⟩ := copyCerts_spec hvalid
        rw [if_pos hlong, if_pos rfl, hr, Option.map_some]
        exact ⟨_, rfl, allOrNothing_of_sent
          ⟨hempty, hsome, Nat.le_of_not_lt hmany, hlong⟩ rfl rfl rfl hcopies⟩
      · rw [if_neg hlong, if_neg nofun]
        exact ⟨_, rfl, allOrNothing_of_not (fun h => hlong h.2.2.2)
          (fun h => absurd h hempty) (iff_of_false nofun fun h => hmany h.2)
          (fun _ _ => rfl)⟩

/-- Two certificates for the slots 1 and 3. -/
theorem install_spec_two :
    ∃ r, loc_eng_agps_install_certificates 0b1010 (some ()) [⟨0, 2⟩, ⟨1, 1⟩]
        [[some 5, some 6], [some 7, none]] = some r ∧
      AllOrNothing 0b1010 (some ()) [⟨0, 2⟩, ⟨1, 1⟩]
        [[some 5, some 6], [some 7, none]] r := by
  have hvalid : ∀ c ∈ ([⟨0, 2⟩, ⟨1, 1⟩] : List DerEncodedCertificate),
      Valid [[some 5, some 6], [some 7, none]] c := by
    intro c hc
    rcases List.mem_pair.mp hc with rfl | rfl
    · exact ⟨_, rfl, Nat.le_refl 2⟩
    · exact ⟨_, rfl, Nat.le_succ 1⟩
  exact install_spec 0b1010 (some ()) hvalid

end QcomCerts
