import QcomCommon.CStringProofs

/-! # NMEA sentences

    `loc_eng_nmea.cpp` writes a sentence into a buffer piece by piece, puts a
    checksum behind it and hands it to the callback with its length.

    `loc_eng_nmea_put_checksum` takes for written what `snprintf` would have
    written: the length it returns is that of the sentence if and only if
    the six bytes of the checksum fit (`put_checksum_iff`). -/

namespace QcomNmea

open QcomCString

/-! ## The checksum -/

/-- A digit of `%X`. -/
def hexDigit (n : Nat) : UInt8 := .ofNat (if n < 10 then 48 + n else 55 + n)

/-- `"*%02X\r\n"`. -/
def checksumText (checksum : UInt8) : List UInt8 :=
  [42, hexDigit (checksum.toNat / 16), hexDigit (checksum.toNat % 16), 13, 10]

/-- The loop over the string: the checksum and the length.  It has no result
    where the buffer ends before the string. -/
def checksumLoop : List UInt8 → UInt8 → Nat → Option (UInt8 × Nat)
  | [], _, _ => none
  | b :: pNmea, checksum, length =>
      if b = 0 then some (checksum, length)
      else checksumLoop pNmea (checksum ^^^ b) (length + 1)

/-- `loc_eng_nmea_put_checksum`: the buffer and the length it returns. -/
def loc_eng_nmea_put_checksum (pNmea : List UInt8) (maxSize : Nat) :
    Option (List UInt8 × Nat) :=
  (checksumLoop (pNmea.drop 1) 0 0).map (fun r =>
    let written := snprintf pNmea (r.2 + 1) (maxSize - r.2 - 1)
      (checksumText r.1)
    (written.1, r.2 + written.2 + 1))

/-- What `nmea_cb` is called with. -/
structure NmeaCall where
  pNmea : List UInt8
  length : Nat
deriving DecidableEq, Repr

/-- The string the callback reads. -/
def NmeaCall.text (c : NmeaCall) : List UInt8 := strOf c.pNmea

/-- `loc_eng_nmea_send`. -/
def loc_eng_nmea_send (nmea_cb : Bool) (pNmea : List UInt8) (length : Nat) :
    List NmeaCall :=
  if nmea_cb then [⟨pNmea, length⟩] else []

/-- The XOR of the bytes after the `$`. -/
def xorOf (s : List UInt8) : UInt8 := s.tail.foldl (· ^^^ ·) 0

theorem checksumLoop_eq {s : List UInt8} (hs : 0 ∉ s) (rest : List UInt8)
    (checksum : UInt8) (length : Nat) :
    checksumLoop (s ++ 0 :: rest) checksum length
      = some (s.foldl (· ^^^ ·) checksum, length + s.length) := by
  induction s generalizing checksum length with
  | nil => rfl
  | cons b s ih =>
      have hb : b ≠ 0 := fun h => hs (h ▸ List.mem_cons_self)
      rw [List.cons_append, checksumLoop, if_neg hb,
        ih (fun h => hs (List.mem_cons_of_mem b h)), List.foldl_cons,
        List.length_cons]
      congr 2
      omega

theorem hexDigit_ne_zero {n : Nat} (hn : n < 16) : hexDigit n ≠ 0 := by
  intro h
  have hval := congrArg UInt8.toNat h
  rw [hexDigit] at hval
  split at hval <;> simp at hval <;> omega

theorem checksumText_noNul (checksum : UInt8) : 0 ∉ checksumText checksum := by
  have hlt := checksum.toNat_lt
  have hhi : hexDigit (checksum.toNat / 16) ≠ 0 := hexDigit_ne_zero (by omega)
  have hlo : hexDigit (checksum.toNat % 16) ≠ 0 := hexDigit_ne_zero (by omega)
  simp [checksumText, hhi.symm, hlo.symm]

/-- **CHECKSUM**: what fits of it follows the sentence. -/
theorem put_checksum_holds {buf s : List UInt8} (h : Holds buf s)
    (hs : s ≠ []) :
    ∃ buf', loc_eng_nmea_put_checksum buf buf.length
        = some (buf', s.length + 5) ∧ buf'.length = buf.length ∧
      Holds buf' (s ++ (checksumText (xorOf s)).take
        (buf.length - s.length - 1)) := by
  obtain ⟨rest, hbuf⟩ := h.eq_append
  obtain ⟨dollar, s', rfl⟩ := List.exists_cons_of_ne_nil hs
  have hloop : checksumLoop (buf.drop 1) 0 0
      = some (xorOf (dollar :: s'), s'.length) := by
    rw [hbuf]
    show checksumLoop (s' ++ 0 :: rest) 0 0 = _
    rw [checksumLoop_eq (fun hmem => h.noNul (List.mem_cons_of_mem _ hmem)),
      Nat.zero_add]
    rfl
  have hlt := h.length_lt
  have htake := h.take_length
  rw [List.length_cons] at hlt htake
  have hspec := snprintf_holds htake h.noNul
    (checksumText_noNul (xorOf (dollar :: s'))) hlt (Nat.sub_sub _ _ _)
  refine ⟨_, ?_, hspec.2, ?_⟩
  · rw [loc_eng_nmea_put_checksum, hloop]
    rfl
  · have hroom : buf.length - (s'.length + 1) - 1
        = buf.length - s'.length - 1 - 1 := by omega
    rw [List.length_cons, hroom]
    exact hspec.1

/-- The sentence with its checksum. -/
def sealed (s : List UInt8) : List UInt8 := s ++ checksumText (xorOf s)

/-- Where the checksum fits. -/
theorem put_checksum_fits {buf s : List UInt8} (h : Holds buf s) (hs : s ≠ [])
    (hroom : s.length + 6 ≤ buf.length) :
    ∃ buf', loc_eng_nmea_put_checksum buf buf.length
        = some (buf', s.length + 5) ∧ buf'.length = buf.length ∧
      Holds buf' (sealed s) := by
  obtain ⟨buf', hrun, hlen, hholds⟩ := put_checksum_holds h hs
  refine ⟨buf', hrun, hlen, ?_⟩
  have hfits : (checksumText (xorOf s)).length ≤ buf.length - s.length - 1 := by
    show 5 ≤ _
    omega
  rwa [List.take_of_length_le hfits] at hholds

/-- **CHECKSUM AND LENGTH**: for every sentence in a buffer the buffer keeps a
    string within its bytes, which is the sentence with its checksum where
    this fits; the length that is returned, and that the callback is given,
    is that of the string if and only if it fits. -/
theorem put_checksum_iff {buf s : List UInt8} (h : Holds buf s)
    (hs : s.head? = some 36) (nmea_cb : Bool) :
    ∃ buf' length, loc_eng_nmea_put_checksum buf buf.length
        = some (buf', length) ∧ buf'.length = buf.length ∧
      (∃ s', Holds buf' s') ∧
      (s.length + 6 ≤ buf.length →
        Holds buf' (s ++ [42, hexDigit ((xorOf s).toNat / 16),
          hexDigit ((xorOf s).toNat % 16), 13, 10])) ∧
      (length = (strOf buf').length ↔ s.length + 6 ≤ buf.length) ∧
      ∀ c ∈ loc_eng_nmea_send nmea_cb buf' length,
        c.length = c.text.length ↔ s.length + 6 ≤ buf.length := by
  have hne : s ≠ [] := by
    rintro rfl
    cases hs
  obtain ⟨buf', hrun, hlen, hholds⟩ := put_checksum_holds h hne
  have hlength : s.length + 5 = (strOf buf').length ↔
      s.length + 6 ≤ buf.length := by
    have hlt := h.length_lt
    have hfive : (checksumText (xorOf s)).length = 5 := rfl
    rw [hholds.strOf_eq, List.length_append, List.length_take, hfive]
    omega
  refine ⟨buf', s.length + 5, hrun, hlen, ⟨_, hholds⟩, ?_, hlength, ?_⟩
  · intro hroom
    obtain ⟨buf'', hrun', -, hfull⟩ := put_checksum_fits h hne hroom
    cases (Option.some.inj (hrun.symm.trans hrun'))
    exact hfull
  · intro c hc
    cases nmea_cb with
    | true =>
        rw [List.mem_singleton.mp hc]
        exact hlength
    | false => cases hc

/-- A `$` and a letter in a buffer of ten bytes. -/
theorem put_checksum_short :
    ∃ buf' length, loc_eng_nmea_put_checksum [36, 65, 0, 0, 0, 0, 0, 0, 0, 0] 10
        = some (buf', length) ∧ length = (strOf buf').length := by
  have hholds : Holds [36, 65, 0, 0, 0, 0, 0, 0, 0, 0] [36, 65] :=
    ⟨by decide, by decide⟩
  obtain ⟨buf', length, hrun, -, -, -, hiff, -⟩ :=
    put_checksum_iff hholds rfl true
  exact ⟨buf', length, hrun, hiff.mpr (by decide)⟩

/-- A sentence that fills the buffer of 200 bytes, as a number that was cut
    off leaves it. -/
def fullSentence : List UInt8 := 36 :: List.replicate 198 57

/-- Nothing of its checksum fits, and the length is still that of all of
    it. -/
theorem put_checksum_overstates :
    ¬ (∀ buf s : List UInt8, Holds buf s → s.head? = some 36 →
      ∃ buf' length, loc_eng_nmea_put_checksum buf buf.length
          = some (buf', length) ∧ length = (strOf buf').length) := by
  intro hall
  have hnul : 0 ∉ fullSentence := by decide
  obtain ⟨buf', length, hrun, hlength⟩ := hall (fullSentence ++ [0])
    fullSentence ⟨hnul, List.prefix_refl _⟩ rfl
  have hcut : loc_eng_nmea_put_checksum (fullSentence ++ [0]) 200
      = some (fullSentence ++ [0], 204) := by
    decide +kernel
  cases Option.some.inj (hrun.symm.trans hcut)
  exact absurd hlength (by decide +kernel)

end QcomNmea
