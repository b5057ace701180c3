import QcomCommon.BufferProofs
import QcomCommon.LocCfgProofs
import QcomCommon.PercentProofs

/-! # The address of the wireless adapter

    `wcnss_asus_client.c`: the address is read from the file of the factory;
    where that cannot be read, from the file an earlier call has stored, and
    where there is none it is made up and stored.

    What can be read of the factory's file counts as an address whatever it
    is: the scan may stop at once, and leaves the rest of `pBdAddr` as it was
    (`nv_iff`).  An address that is made up is as long as one of hexadecimal
    digits, and six bytes of it lie behind `pBdAddr` (`fallback_iff`). -/

namespace QcomWcnss

open QcomBuffer
open QcomLocCfg (isspace)
open QcomPercent (hexValue digitsValue)

/-! ## Scanning -/

/-- The white space before a number.  A scan that leaves the buffer has no
    result. -/
def skipSpace : List UInt8 → Option (List UInt8)
  | [] => none
  | c :: s => if isspace c then skipSpace s else some (c :: s)

/-- A sign: whether it is `-`, and what is left of the width and the text. -/
def scanSign (w : Nat) : List UInt8 → Bool × Nat × List UInt8
  | 43 :: s => (false, w - 1, s)
  | 45 :: s => (true, w - 1, s)
  | s => (false, w, s)

/-- `0x` before a number. -/
def scan0x (w : Nat) : List UInt8 → Nat × List UInt8
  | 48 :: x :: s =>
      if 2 ≤ w ∧ (x = 120 ∨ x = 88) then (w - 2, s) else (w, 48 :: x :: s)
  | s => (w, s)

/-- The values of at most `w` digits, and what is left of the text. -/
def scanDigits : Nat → List UInt8 → Option (List Nat × List UInt8)
  | 0, s => some ([], s)
  | _ + 1, [] => none
  | w + 1, c :: s =>
      match hexValue c with
      | none => some ([], c :: s)
      | some v => (scanDigits w s).map fun r => (v :: r.1, r.2)

/-- `%hhx` with a width: the byte and what is left of the text, or `none`
    where the text is no number. -/
def scanByte (w : Nat) (s : List UInt8) : Option (Option (UInt8 × List UInt8)) :=
  (skipSpace s).bind fun s =>
    let sign := scanSign w s
    let start := scan0x sign.2.1 sign.2.2
    (scanDigits start.1 start.2).map fun r =>
      if r.1 = [] then none
      else
        let v := UInt8.ofNat (r.1.foldl (fun n d => 16 * n + d) 0)
        some (if sign.1 then -v else v, r.2)

/-! ## The function -/

/-- The bytes of a made up address. -/
def MAC_ADDR_SIZE : Nat := 12

/-- How often the file is waited for. -/
def MAX_WAIT_COUNT : Nat := 10

/-- The bytes in front of a made up address. -/
def asus_mac_prefix : List UInt8 := [0x2c, 0x56, 0xdc]

/-- The memory at `pBdAddr`, and the places in it that were written. -/
structure BdAddr where
  bytes : List UInt8
  written : List Nat
deriving DecidableEq

/-- `pBdAddr[i] = v`. -/
def BdAddr.store (p : BdAddr) (i : Nat) (v : UInt8) : Option BdAddr :=
  (writeAt p.bytes i v).map fun bytes => ⟨bytes, p.written ++ [i]⟩

/-- Bytes stored one after the other. -/
def BdAddr.storeAll : Nat → List UInt8 → BdAddr → Option BdAddr
  | _, [], p => some p
  | i, v :: s, p => (p.store i v).bind (storeAll (i + 1) s)

/-- `sscanf(buf, "%02hhx…", &pBdAddr[i], …)` with `n` numbers. -/
def sscanf : Nat → Nat → List UInt8 → BdAddr → Option BdAddr
  | 0, _, _, p => some p
  | n + 1, i, s, p =>
      (scanByte 2 s).bind fun r =>
        match r with
        | none => some p
        | some (v, s) => (p.store i v).bind (sscanf n (i + 1) s)

/-- `MAC_ADDR_PATH`, if it can be opened and read. -/
inductive NvFile where
  | unopened
  | unreadable
  | contents (file : List UInt8)

/-- `MAC_ADDR_PATH`, and which calls of `stat` fail on it. -/
structure Nv where
  statFails : Nat → Bool
  file : NvFile

/-- The loop that waits for the file: `i` at its end. -/
def waitNv (statFails : Nat → Bool) : Nat → Nat → Nat
  | 0, i => i
  | n + 1, i => if statFails i then waitNv statFails n (i + 1) else i

/-- The address from `MAC_ADDR_PATH`, with `success`. -/
def readNv (nv : Nv) (buf : List UInt8) (p : BdAddr) : Option (Bool × BdAddr) :=
  if waitNv nv.statFails MAX_WAIT_COUNT 0 = MAX_WAIT_COUNT then some (false, p)
  else
    match nv.file with
    | .unopened => some (false, p)
    | .unreadable => some (false, p)
    | .contents file =>
        let data := file.take 12
        (sscanf 6 0 (data ++ buf.drop data.length) p).map fun p => (true, p)

/-- The address from `GENMAC_FILE`, if there is such a file. -/
def readGenmac (genmac : Option (List UInt8)) (p : BdAddr) :
    Option (Bool × BdAddr) :=
  match genmac with
  | none => some (false, p)
  | some file =>
      (p.storeAll 0 (file.take 6)).map fun p => ((file.take 6).length == 6, p)

/-- `fwrite(pBdAddr, 1, MAC_ADDR_SIZE, genmac)`. -/
def fwrite (p : BdAddr) : Option (List UInt8) :=
  if MAC_ADDR_SIZE ≤ p.bytes.length then some (p.bytes.take MAC_ADDR_SIZE)
  else none

/-- A made up address, with what `rand` returns, and what is stored of it. -/
def randomize (rand : Nat → Nat) (p : BdAddr) :
    Option (BdAddr × Option (List UInt8)) :=
  (p.storeAll 0 asus_mac_prefix).bind fun p =>
    (forUp (fun i p =>
        p.store i (UInt8.ofNat (rand (i - asus_mac_prefix.length) % 255)))
      (MAC_ADDR_SIZE - asus_mac_prefix.length) asus_mac_prefix.length p).bind
        fun p => (fwrite p).map fun file => (p, some file)

/-- What a call of `wcnss_qmi_get_wlan_address` meets: the file of the
    factory, what is in `buf`, what `rand` returns and what is at `pBdAddr`. -/
structure Call where
  nv : Nv
  buf : List UInt8
  rand : Nat → Nat
  bytes : List UInt8

/-- `wcnss_qmi_get_wlan_address`: `pBdAddr` and `GENMAC_FILE` after it. -/
def wcnss_qmi_get_wlan_address (c : Call) (genmac : Option (List UInt8)) :
    Option (BdAddr × Option (List UInt8)) :=
  (readNv c.nv c.buf ⟨c.bytes, []⟩).bind fun r =>
    -- use a previously stored value on failure
    (if r.1 then some r else readGenmac genmac r.2).bind fun r =>
      -- if that fails as well, randomize
      if r.1 then some (r.2, genmac) else randomize c.rand r.2

/-- Calls one after the other. -/
def run : List Call → Option (List UInt8) →
    Option (List BdAddr × Option (List UInt8))
  | [], genmac => some ([], genmac)
  | c :: calls, genmac =>
      (wcnss_qmi_get_wlan_address c genmac).bind fun r =>
        (run calls r.2).map fun rs => (r.1 :: rs.1, rs.2)

/-! ## Storing -/

namespace BdAddr

variable {p : BdAddr} {i : Nat} {s t : List UInt8}

theorem store_eq (h : i < p.bytes.length) (v : UInt8) :
    p.store i v = some ⟨p.bytes.set i v, p.written ++ [i]⟩ := by
  rw [store, writeAt_of_eq rfl h, Option.map_some]

theorem store_eq_none (h : p.bytes.length ≤ i) (v : UInt8) :
    p.store i v = none := by
  rw [store, writeAt, if_neg (by omega), Option.map_none]

theorem storeAll_append (i : Nat) (s t : List UInt8) (p : BdAddr) :
    p.storeAll i (s ++ t) = (p.storeAll i s).bind (storeAll (i + s.length) t) := by
  induction s generalizing i p with
  | nil => rfl
  | cons v s ih =>
      rw [List.cons_append, storeAll, storeAll, Option.bind_assoc]
      congr 1
      funext q
      rw [ih, List.length_cons, Nat.add_assoc, Nat.add_comm 1]

/-- Bytes for which there is room replace what was there. -/
theorem storeAll_eq (h : i + s.length ≤ p.bytes.length) :
    p.storeAll i s
      = some ⟨p.bytes.take i ++ (s ++ p.bytes.drop (i + s.length)),
          p.written ++ List.range' i s.length⟩ := by
  induction s generalizing i p with
  | nil =>
      rw [storeAll, List.nil_append, List.length_nil, Nat.add_zero,
        List.take_append_drop, List.range'_zero, List.append_nil]
  | cons v s ih =>
      rw [List.length_cons] at h
      rw [storeAll, store_eq (by omega), Option.bind_some,
        ih (by rw [List.length_set]; omega), List.length_cons]
      have htake : (p.bytes.set i v).take (i + 1) = p.bytes.take i ++ [v] := by
        rw [List.take_add_one, List.getElem?_set_self (by omega), List.take_set_of_le (Nat.le_refl i)]
        rfl
      rw [htake, List.drop_set_of_lt (by omega), List.append_assoc,
        List.range'_succ, List.append_assoc, Nat.add_right_comm,
        Nat.add_assoc i s.length]
      rfl

theorem storeAll_zero (h : s.length ≤ p.bytes.length) :
    p.storeAll 0 s
      = some ⟨s ++ p.bytes.drop s.length,
          p.written ++ List.range s.length⟩ := by
  rw [storeAll_eq (by omega), List.take_zero, List.nil_append, Nat.zero_add,
    List.range_eq_range']

/-- Without room for them there is no result. -/
theorem storeAll_eq_none (hne : s ≠ []) (h : p.bytes.length < i + s.length) :
    p.storeAll i s = none := by
  induction s generalizing i p with
  | nil => exact absurd rfl hne
  | cons v s ih =>
      rw [List.length_cons] at h
      by_cases hi : i < p.bytes.length
      · rw [storeAll, store_eq hi, Option.bind_some]
        refine ih ?_ (by rw [List.length_set]; omega)
        rintro rfl
        rw [List.length_nil] at h
        omega
      · rw [storeAll, store_eq_none (by omega), Option.bind_none]

theorem forUp_store (f : Nat → UInt8) (n a : Nat) (p : BdAddr) :
    forUp (fun i p => p.store i (f i)) n a p
      = p.storeAll a ((List.range' a n).map f) := by
  induction n generalizing a p with
  | zero => rfl
  | succ n ih =>
      rw [forUp, List.range'_succ, List.map_cons, storeAll]
      congr 1
      funext q
      exact ih (a + 1) q

end BdAddr

/-! ## The address of the factory -/

/-- No digit is white space, a sign, or the `x` of `0x`. -/
theorem hex_plain {c : UInt8} (h : (hexValue c).isSome = true) :
    isspace c = false ∧ c ≠ 43 ∧ c ≠ 45 ∧ c ≠ 120 ∧ c ≠ 88 := by
  refine ⟨?_, ?_, ?_, ?_, ?_⟩
  · revert h
    simp only [hexValue, isspace]
    grind
  all_goals
    rintro rfl
    exact absurd h (by decide)

/-- A text of hexadecimal digits. -/
def Hex (s : List UInt8) : Prop := ∀ c ∈ s, (hexValue c).isSome = true

instance (s : List UInt8) : Decidable (Hex s) := List.decidableBAll _ s

/-- The bytes that pairs of digits denote. -/
def pairs : List UInt8 → List UInt8
  | a :: b :: s => (digitsValue a b).getD 0 :: pairs s
  | _ => []

theorem exists_pair {n : Nat} {s : List UInt8} (h : s.length = 2 * (n + 1)) :
    ∃ a b t, s = a :: b :: t ∧ t.length = 2 * n := by
  rcases s with _ | ⟨a, _ | ⟨b, t⟩⟩
  · rw [List.length_nil] at h
    omega
  · rw [List.length_singleton] at h
    omega
  · rw [List.length_cons, List.length_cons] at h
    exact ⟨a, b, t, rfl, by omega⟩

theorem length_pairs (n : Nat) {s : List UInt8} (hs : s.length = 2 * n) :
    (pairs s).length = n := by
  induction n generalizing s with
  | zero => rw [List.eq_nil_of_length_eq_zero hs]; rfl
  | succ n ih =>
      obtain ⟨a, b, t, rfl, ht⟩ := exists_pair hs
      rw [pairs, List.length_cons, ih ht]

/-- Two digits are read as what they denote. -/
theorem scanByte_hex {a b : UInt8} (ha : (hexValue a).isSome = true)
    (hb : (hexValue b).isSome = true) (s : List UInt8) :
    scanByte 2 (a :: b :: s) = some (some ((digitsValue a b).getD 0, s)) := by
  obtain ⟨hspace, hplus, hminus, -, -⟩ := hex_plain ha
  obtain ⟨-, -, -, hx, hX⟩ := hex_plain hb
  obtain ⟨x, hx'⟩ := Option.isSome_iff_exists.mp ha
  obtain ⟨y, hy'⟩ := Option.isSome_iff_exists.mp hb
  have hsign : scanSign 2 (a :: b :: s) = (false, 2, a :: b :: s) := by
    rw [scanSign] <;> simp [hplus, hminus]
  have hstart : scan0x 2 (a :: b :: s) = (2, a :: b :: s) := by
    by_cases h0 : a = 48
    · rw [h0, scan0x, if_neg (fun h => h.2.elim hx hX)]
    · rw [scan0x]
      simp [h0]
  simp [scanByte, skipSpace, hspace, hsign, hstart, scanDigits, hx', hy',
    digitsValue]

/-- **DIGITS** are scanned to the bytes they denote. -/
theorem sscanf_hex (n i : Nat) {s : List UInt8} (hlen : s.length = 2 * n)
    (hs : Hex s) (p : BdAddr) : sscanf n i s p = p.storeAll i (pairs s) := by
  induction n generalizing i s p with
  | zero => rw [List.eq_nil_of_length_eq_zero hlen]; rfl
  | succ n ih =>
      obtain ⟨a, b, t, rfl, htlen⟩ := exists_pair hlen
      have ha := hs a (by simp)
      have hb := hs b (by simp)
      have ht : Hex t := fun c hc => hs c (by simp [hc])
      rw [sscanf, scanByte_hex ha hb, Option.bind_some, pairs, BdAddr.storeAll]
      exact Option.bind_congr fun q _ => ih (i + 1) htlen ht q

/-- What is made up with the outcomes of `rand`. -/
def made (rand : Nat → Nat) : List UInt8 :=
  asus_mac_prefix ++
    (List.range' asus_mac_prefix.length
      (MAC_ADDR_SIZE - asus_mac_prefix.length)).map
        fun i => UInt8.ofNat (rand (i - asus_mac_prefix.length) % 255)

/-- `GENMAC_FILE` holds an address. -/
def Holding (genmac : Option (List UInt8)) : Prop :=
  ∃ file, genmac = some file ∧ 6 ≤ file.length

/-- The address without the file of the factory: the one that is stored, or
    one that is made up. -/
def fallback (genmac : Option (List UInt8)) (rand : Nat → Nat) : List UInt8 :=
  match genmac with
  | none => (made rand).take 6
  | some file => if 6 ≤ file.length then file.take 6 else (made rand).take 6

/-- An address of the factory: twelve characters, all hexadecimal digits. -/
def IsAddress (file : List UInt8) : Prop := 12 ≤ file.length ∧ Hex (file.take 12)

instance (file : List UInt8) : Decidable (IsAddress file) :=
  inferInstanceAs (Decidable (_ ∧ _))

/-- The file of the factory is found, and this is what can be read of it. -/
def Nv.Readable (nv : Nv) (file : List UInt8) : Prop :=
  waitNv nv.statFails MAX_WAIT_COUNT 0 ≠ MAX_WAIT_COUNT ∧ nv.file = .contents file

/-- With this file of the factory a call returns its address, or else the one
    without it, whatever was in the two buffers. -/
def FromNv (file : List UInt8) : Prop :=
  ∀ (c : Call) (genmac : Option (List UInt8)), c.nv.Readable file →
    c.buf.length = 12 → 6 ≤ c.bytes.length →
    ∃ p genmac', wcnss_qmi_get_wlan_address c genmac = some (p, genmac') ∧
      p.bytes.take 6
        = if IsAddress file then pairs (file.take 12) else fallback genmac c.rand

/-- The stored address does not matter once the file of the factory is read. -/
theorem wcnss_readable {c : Call} {file : List UInt8} (h : c.nv.Readable file)
    (genmac : Option (List UInt8)) :
    wcnss_qmi_get_wlan_address c genmac
      = (sscanf 6 0 (file.take 12 ++ c.buf.drop (file.take 12).length)
          ⟨c.bytes, []⟩).map fun p => (p, genmac) := by
  obtain ⟨hfound, hfile⟩ := h
  have hread : readNv c.nv c.buf ⟨c.bytes, []⟩
      = (sscanf 6 0 (file.take 12 ++ c.buf.drop (file.take 12).length)
          ⟨c.bytes, []⟩).map fun p => (true, p) := by
    rw [readNv, if_neg hfound, hfile]
  rw [wcnss_qmi_get_wlan_address, hread]
  cases sscanf 6 0 (file.take 12 ++ c.buf.drop (file.take 12).length)
    ⟨c.bytes, []⟩ with
  | none => rfl
  | some p => rfl

/-- A call that finds the file of the factory at once. -/
def finding (file bytes : List UInt8) : Call :=
  ⟨⟨fun _ => false, .contents file⟩, List.replicate 12 0, fun _ => 0, bytes⟩

theorem readable_finding (file bytes : List UInt8) :
    (finding file bytes).nv.Readable file :=
  ⟨show waitNv (fun _ => false) MAX_WAIT_COUNT 0 ≠ MAX_WAIT_COUNT by decide, rfl⟩

/-- **WHEN THE ADDRESS IS THE FACTORY'S**: exactly for twelve hexadecimal
    digits.  Any other file hides the stored address. -/
theorem nv_iff (file : List UInt8) : FromNv file ↔ IsAddress file := by
  constructor
  · intro h
    by_contra hnot
    -- one call, with two stored addresses
    have hread := readable_finding file (List.replicate 6 0)
    obtain ⟨p, g, hp, hbytes⟩ := h _ (some (List.replicate 6 0)) hread rfl
      (Nat.le_refl 6)
    obtain ⟨p', g', hp', hbytes'⟩ := h _ (some (List.replicate 6 1)) hread rfl
      (Nat.le_refl 6)
    rw [wcnss_readable hread] at hp hp'
    rw [if_neg hnot] at hbytes hbytes'
    obtain ⟨q, hq, heq⟩ := Option.map_eq_some_iff.mp hp
    obtain ⟨q', hq', heq'⟩ := Option.map_eq_some_iff.mp hp'
    obtain rfl : q = q' := Option.some.inj (hq.symm.trans hq')
    have hsame : p = p' :=
      (Prod.mk.inj heq).1.symm.trans (Prod.mk.inj heq').1
    rw [hsame, hbytes'] at hbytes
    have hdiff : List.replicate 6 (1 : UInt8) = List.replicate 6 0 := hbytes
    exact absurd hdiff (by decide)
  · rintro haddr c genmac hread hbuf hbytes
    obtain ⟨hlen, hhex⟩ := haddr
    have hdata : (file.take 12).length = 2 * 6 := by
      rw [List.length_take]
      omega
    have hpairs := length_pairs 6 hdata
    have hdrop : c.buf.drop (file.take 12).length = [] :=
      List.drop_eq_nil_of_le (by omega)
    have hstore : BdAddr.storeAll 0 (pairs (file.take 12)) ⟨c.bytes, []⟩ = _ :=
      BdAddr.storeAll_zero (by rwa [hpairs])
    rw [wcnss_readable hread, hdrop, List.append_nil, sscanf_hex 6 0 hdata hhex,
      hstore]
    refine ⟨_, genmac, rfl, ?_⟩
    rw [if_pos ⟨hlen, hhex⟩, List.take_left' hpairs]

/-- An empty file of the factory leaves what is at `pBdAddr`. -/
theorem not_fromNv_nil : ¬ FromNv [] := by
  intro h
  obtain ⟨p, g, hp, hbytes⟩ := h (finding [] (List.replicate 6 7))
    (some [1, 2, 3, 4, 5, 6]) (readable_finding _ _) rfl (Nat.le_refl 6)
  have hrun : wcnss_qmi_get_wlan_address (finding [] (List.replicate 6 7))
      (some [1, 2, 3, 4, 5, 6])
        = some (⟨List.replicate 6 7, []⟩, some [1, 2, 3, 4, 5, 6]) := by decide
  obtain rfl := (Prod.mk.inj (Option.some.inj (hrun.symm.trans hp))).1
  exact absurd hbytes (by decide)

/-! ## Without the file of the factory -/

/-- The file of the factory does not appear, or cannot be opened or read. -/
def Nv.Unavailable (nv : Nv) : Prop :=
  waitNv nv.statFails MAX_WAIT_COUNT 0 = MAX_WAIT_COUNT ∨ nv.file = .unopened ∨
    nv.file = .unreadable

/-- The calls of a run return and write the six bytes of the address only, the
    first address is the vendor's if it is made up, and all of them are the
    same. -/
def Stable (calls : List Call) (genmac : Option (List UInt8)) : Prop :=
  ∃ ps genmac', run calls genmac = some (ps, genmac') ∧
    (∀ p ∈ ps, ∀ k ∈ p.written, k < 6) ∧
    (∀ p ∈ ps.head?, ¬ Holding genmac → p.bytes.take 3 = asus_mac_prefix) ∧
    ∀ p ∈ ps, ∀ p' ∈ ps, p.bytes.take 6 = p'.bytes.take 6

theorem length_made (rand : Nat → Nat) : (made rand).length = MAC_ADDR_SIZE := by
  rw [made, List.length_append, List.length_map, List.length_range']
  rfl

/-- What is made up is stored as one text. -/
theorem randomize_eq (rand : Nat → Nat) (p : BdAddr) :
    randomize rand p
      = (p.storeAll 0 (made rand)).bind fun p =>
          (fwrite p).map fun file => (p, some file) := by
  rw [made, BdAddr.storeAll_append, Option.bind_assoc]
  refine Option.bind_congr fun q _ => ?_
  rw [BdAddr.forUp_store]
  rfl

section Call

variable {c : Call} {genmac : Option (List UInt8)} {file : List UInt8}

theorem wcnss_unavailable (h : c.nv.Unavailable) (genmac : Option (List UInt8)) :
    wcnss_qmi_get_wlan_address c genmac
      = (readGenmac genmac ⟨c.bytes, []⟩).bind fun r =>
          if r.1 then some (r.2, genmac) else randomize c.rand r.2 := by
  have hread : readNv c.nv c.buf ⟨c.bytes, []⟩ = some (false, ⟨c.bytes, []⟩) := by
    rcases h with h | h | h
    · rw [readNv, if_pos h]
    · rw [readNv, h, ite_self]
    · rw [readNv, h, ite_self]
  rw [wcnss_qmi_get_wlan_address, hread]
  rfl

/-- A stored address is returned, and stays. -/
theorem wcnss_stored (h : c.nv.Unavailable) (hbytes : 6 ≤ c.bytes.length)
    (hfile : 6 ≤ file.length) :
    wcnss_qmi_get_wlan_address c (some file)
      = some (⟨file.take 6 ++ c.bytes.drop 6, List.range 6⟩, some file) := by
  have hlen : (file.take 6).length = 6 := by
    rw [List.length_take]
    omega
  have hstore : BdAddr.storeAll 0 (file.take 6) ⟨c.bytes, []⟩ = _ :=
    BdAddr.storeAll_zero (by rwa [hlen])
  rw [wcnss_unavailable h, readGenmac, hstore, Option.map_some, Option.bind_some,
    hlen]
  rfl

/-- Where no address is stored, one is made up in the caller's buffer. -/
theorem wcnss_made (h : c.nv.Unavailable) (hbytes : 6 ≤ c.bytes.length)
    (hgen : ¬ Holding genmac) :
    ∃ q : BdAddr, q.bytes.length = c.bytes.length ∧
      wcnss_qmi_get_wlan_address c genmac = randomize c.rand q := by
  rw [wcnss_unavailable h]
  cases genmac with
  | none => exact ⟨⟨c.bytes, []⟩, rfl, rfl⟩
  | some file =>
      have hshort : file.length < 6 := by
        by_contra hnot
        exact hgen ⟨file, rfl, by omega⟩
      have htake : file.take 6 = file := List.take_of_length_le (by omega)
      have hle : file.length ≤ c.bytes.length := by omega
      have hstore : BdAddr.storeAll 0 file ⟨c.bytes, []⟩ = _ :=
        BdAddr.storeAll_zero hle
      have hsize : (file.length == 6) = false := beq_false_of_ne (by omega)
      refine ⟨⟨file ++ c.bytes.drop file.length, List.range file.length⟩, ?_, ?_⟩
      · rw [List.length_append, List.length_drop, Nat.add_sub_of_le hle]
      · rw [readGenmac, htake, hstore, Option.map_some, Option.bind_some, hsize]
        rfl

end Call

section Made

variable {rand : Nat → Nat} {q : BdAddr}

theorem randomize_eq_none (h : q.bytes.length < MAC_ADDR_SIZE) :
    randomize rand q = none := by
  have hne : made rand ≠ [] := fun h0 => by
    have := length_made rand
    rw [h0] at this
    exact absurd this (by decide)
  rw [randomize_eq, BdAddr.storeAll_eq_none hne (by rw [length_made]; omega),
    Option.bind_none]

/-- Twelve bytes are written, and stored. -/
theorem randomize_spec (h : MAC_ADDR_SIZE ≤ q.bytes.length) :
    randomize rand q
      = some (⟨made rand ++ q.bytes.drop MAC_ADDR_SIZE,
          q.written ++ List.range MAC_ADDR_SIZE⟩, some (made rand)) := by
  have hlen := length_made rand
  rw [randomize_eq, BdAddr.storeAll_zero (by rwa [hlen]), Option.bind_some,
    hlen, fwrite, if_pos, Option.map_some, List.take_left' hlen]
  rw [List.length_append, hlen]
  exact Nat.le_add_right _ _

theorem outside_randomize {r : BdAddr × Option (List UInt8)}
    (h : randomize rand q = some r) : 6 ∈ r.1.written := by
  by_cases hlen : MAC_ADDR_SIZE ≤ q.bytes.length
  · obtain rfl := Option.some.inj ((randomize_spec hlen).symm.trans h)
    exact List.mem_append_right _ (by decide)
  · rw [randomize_eq_none (Nat.lt_of_not_le hlen)] at h
    exact absurd h.symm (Option.some_ne_none r)

end Made

/-- **STORED**: every call of a run returns the address that is stored. -/
theorem run_stored {file : List UInt8} (hfile : 6 ≤ file.length)
    (calls : List Call)
    (hcalls : ∀ c ∈ calls, c.nv.Unavailable ∧ 6 ≤ c.bytes.length) :
    run calls (some file)
      = some (calls.map fun c => ⟨file.take 6 ++ c.bytes.drop 6, List.range 6⟩,
          some file) := by
  induction calls with
  | nil => rfl
  | cons c calls ih =>
      obtain ⟨hnv, hbytes⟩ := hcalls c List.mem_cons_self
      rw [run, wcnss_stored hnv hbytes hfile, Option.bind_some,
        ih (fun c hc => hcalls c (List.mem_cons_of_mem _ hc))]
      rfl

/-- A made up address is the vendor's. -/
theorem take_made (rand : Nat → Nat) : (made rand).take 3 = asus_mac_prefix := rfl

/-- **FALLBACK**: where twelve bytes can be written, all calls of a run return
    the address of the first one, the vendor's if it was made up. -/
theorem run_fallback {c : Call} {calls : List Call}
    (hcalls : ∀ d ∈ c :: calls, d.nv.Unavailable ∧ MAC_ADDR_SIZE ≤ d.bytes.length)
    (genmac : Option (List UInt8)) :
    ∃ ps genmac', run (c :: calls) genmac = some (ps, genmac') ∧
      ∀ p ∈ ps, p.bytes.take 6 = fallback genmac c.rand ∧
        (¬ Holding genmac → p.bytes.take 3 = asus_mac_prefix) := by
  have hsix : ∀ d ∈ c :: calls, d.nv.Unavailable ∧ 6 ≤ d.bytes.length := by
    intro d hd
    obtain ⟨hnv, hbytes⟩ := hcalls d hd
    exact ⟨hnv, Nat.le_trans (by decide) hbytes⟩
  have htake : ∀ {file : List UInt8}, 6 ≤ file.length →
      ∀ rest, (file.take 6 ++ rest).take 6 = file.take 6 := by
    intro file hfile rest
    exact List.take_left' (by rw [List.length_take]; omega)
  by_cases hgen : Holding genmac
  · obtain ⟨file, rfl, hfile⟩ := hgen
    refine ⟨_, _, run_stored hfile _ hsix, ?_⟩
    intro p hp
    obtain ⟨d, -, rfl⟩ := List.mem_map.mp hp
    refine ⟨?_, absurd ⟨file, rfl, hfile⟩⟩
    rw [fallback, if_pos hfile, htake hfile]
  · obtain ⟨hnv, hbytes⟩ := hcalls c List.mem_cons_self
    have hnone : fallback genmac c.rand = (made c.rand).take 6 := by
      cases genmac with
      | none => rfl
      | some file => exact if_neg fun hfile => hgen ⟨file, rfl, hfile⟩
    have hmade : 6 ≤ (made c.rand).length := by
      rw [length_made]
      decide
    obtain ⟨q, hq, hfirst⟩ := wcnss_made hnv (hsix c List.mem_cons_self).2 hgen
    have hrest := run_stored hmade calls
      (fun d hd => hsix d (List.mem_cons_of_mem c hd))
    rw [run, hfirst, randomize_spec (by rwa [hq]), Option.bind_some, hrest,
      Option.map_some]
    refine ⟨_, _, rfl, fun p hp => ?_⟩
    have hsame : p.bytes.take 6 = (made c.rand).take 6 := by
      rcases List.mem_cons.mp hp with rfl | hp
      · exact List.take_append_of_le_length hmade
      · obtain ⟨d, -, rfl⟩ := List.mem_map.mp hp
        exact htake hmade _
    have hthree : ∀ l : List UInt8, l.take 3 = (l.take 6).take 3 := fun l => by
      rw [List.take_take]
      rfl
    refine ⟨hsame.trans hnone.symm, fun _ => ?_⟩
    rw [hthree, hsame, ← hthree, take_made]

/-- **WHEN THE FALLBACK KEEPS TO SIX BYTES**: exactly if no address is made
    up. -/
theorem fallback_iff {calls : List Call} {genmac : Option (List UInt8)}
    (hcalls : ∀ c ∈ calls, c.nv.Unavailable ∧ 6 ≤ c.bytes.length) :
    Stable calls genmac ↔ calls = [] ∨ Holding genmac := by
  constructor
  · rintro ⟨ps, genmac', hrun, hwritten, -⟩
    by_contra hnot
    obtain ⟨hne, hgen⟩ := not_or.mp hnot
    obtain ⟨c, rest, rfl⟩ := List.exists_cons_of_ne_nil hne
    obtain ⟨hnv, hbytes⟩ := hcalls c List.mem_cons_self
    obtain ⟨q, -, hmade⟩ := wcnss_made hnv hbytes hgen
    rw [run, hmade] at hrun
    obtain ⟨r, hr, hrest⟩ := Option.bind_eq_some_iff.mp hrun
    obtain ⟨rs, -, heq⟩ := Option.map_eq_some_iff.mp hrest
    have hmem : r.1 ∈ ps := by
      rw [← (Prod.mk.inj heq).1]
      exact List.mem_cons_self
    exact absurd (hwritten r.1 hmem 6 (outside_randomize hr)) (by decide)
  · rintro (rfl | hgen)
    · exact ⟨[], genmac, rfl, by simp, by simp, by simp⟩
    · obtain ⟨file, rfl, hfile⟩ := hgen
      refine ⟨_, _, run_stored hfile calls hcalls, ?_, ?_, ?_⟩
      · intro p hp k hk
        obtain ⟨c, -, rfl⟩ := List.mem_map.mp hp
        exact List.mem_range.mp hk
      · intro p _ hnot
        exact absurd ⟨file, rfl, hfile⟩ hnot
      · have hlen : (file.take 6).length = 6 := by
          rw [List.length_take]
          omega
        intro p hp p' hp'
        obtain ⟨c, -, rfl⟩ := List.mem_map.mp hp
        obtain ⟨c', -, rfl⟩ := List.mem_map.mp hp'
        rw [List.take_left' hlen, List.take_left' hlen]

/-- A call without the file of the factory, for an address of six bytes. -/
def lost : Call :=
  ⟨⟨fun _ => true, .unopened⟩, List.replicate 12 0, fun _ => 0,
    List.replicate 6 0⟩

/-- Two calls with a stored address. -/
theorem fallback_iff_stored : Stable [lost, lost] (some [1, 2, 3, 4, 5, 6]) := by
  have hcalls : ∀ c ∈ [lost, lost], c.nv.Unavailable ∧ 6 ≤ c.bytes.length := by
    intro c hc
    obtain rfl : c = lost := by simpa using hc
    exact ⟨Or.inl rfl, Nat.le_refl 6⟩
  exact (fallback_iff hcalls).mpr (Or.inr ⟨_, rfl, Nat.le_refl 6⟩)

/-- The first call there is. -/
theorem not_stable_first : ¬ Stable [lost] none := by
  rintro ⟨ps, genmac', hrun, -⟩
  have hnone : run [lost] none = none := by decide
  exact Option.some_ne_none _ (hrun.symm.trans hnone)

end QcomWcnss
