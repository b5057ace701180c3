import QcomCommon.BufferProofs
import Mathlib.Algebra.Group.Int.Defs
import Mathlib.Data.List.TakeDrop

/-! # Bytes as text

    `hexcode` and `decodeAddress` of `LocApiBase.cpp` write bytes and packed
    digits as text into a buffer of a given size.  With sizes that are those
    of the buffers nothing is accessed outside of them, and the text is as
    much as there is room for (`hexcode_writes`, `decodeAddress_writes`).
    What is written tells the bytes and the digits.  The sizes are those for
    which no `int` overflows: below INT_MAX, and above INT_MIN. -/

namespace QcomHexcode

open QcomBuffer

/-! ## The source -/

/-- What an operation on `int` gives; one that overflows has no result. -/
def intResult (n : Int) : Option Int :=
  if -2 ^ 31 ≤ n ∧ n < 2 ^ 31 then some n else none

/-- The character of a hexadecimal digit. -/
def hexDigit (n : UInt8) : UInt8 := if n < 10 then n + 48 else n + 55

/-- `"%02X"` of a `char`, cut off behind two characters: where `char` is
    signed, a negative one is sign-extended. -/
def hexText (charSigned : Bool) (ch : UInt8) : UInt8 × UInt8 :=
  if charSigned ∧ 128 ≤ ch then (70, 70)
  else (hexDigit (ch >>> 4), hexDigit (ch &&& 0x0F))

/-- `snprintf(&hexstring[i * 2], 3, "%02X", ch)`. -/
def printByte (charSigned : Bool) (hexstring : List UInt8) (i : Nat)
    (ch : UInt8) : Option (List UInt8) :=
  (writeAt hexstring (i * 2) (hexText charSigned ch).1).bind fun t =>
    (writeAt t (i * 2 + 1) (hexText charSigned ch).2).bind fun t =>
      writeAt t (i * 2 + 2) 0

/-- The loop of `hexcode`. -/
def hexcodeFrom (charSigned : Bool) (string_size : Int) (data : List UInt8) :
    Nat → Nat → List UInt8 → Option (Nat × List UInt8)
  | 0, i, hexstring => some (i, hexstring)
  | n + 1, i, hexstring =>
      (readAt data i).bind fun ch =>
        (intResult (i * 2 + 3)).bind fun needed =>
          if needed ≤ string_size then
            (printByte charSigned hexstring i ch).bind
              (hexcodeFrom charSigned string_size data n (i + 1))
          else some (i, hexstring)

/-- `hexcode`. -/
def hexcode (charSigned : Bool) (hexstring : List UInt8) (string_size : Int)
    (data : List UInt8) (data_size : Int) : Option (Nat × List UInt8) :=
  hexcodeFrom charSigned string_size data data_size.toNat 0 hexstring

/-- The mark of an address. -/
def addrPrefix : UInt8 := 0x91

/-- What is done with one half of a byte. -/
def pushHalf (string_size : Int) (half : UInt8) (s : List UInt8 × Nat) :
    Option (List UInt8 × Nat) :=
  if half ≤ 9 then
    (intResult (string_size - 1)).bind fun room =>
      if (s.2 : Int) < room then
        (writeAt s.1 s.2 (half + 48)).map fun t => (t, s.2 + 1)
      else some s
  else some s

/-- The body of the loop of `decodeAddress`. -/
def decodeByte (string_size : Int) (data : List UInt8) (i : Nat)
    (s : List UInt8 × Nat) : Option (List UInt8 × Nat) :=
  (readAt data i).bind fun ch =>
    (pushHalf string_size (ch &&& 0x0F) s).bind
      (pushHalf string_size (ch >>> 4))

/-- `decodeAddress`; `none` is `NULL`. -/
def decodeAddress (addr_string : Option (List UInt8)) (string_size : Int)
    (data : Option (List UInt8)) (data_size : Int) :
    Option (Nat × Option (List UInt8)) :=
  match data, addr_string with
  | some data, some addr_string =>
      (readAt data 0).bind fun first =>
        if first ≠ addrPrefix then
          (writeAt addr_string 0 0).map fun t => (0, some t)
        else
          (forUp (decodeByte string_size data) (data_size - 1).toNat 1
            (addr_string, 0)).bind fun s =>
              (writeAt s.1 s.2 0).map fun t => (s.2, some t)
  | _, addr_string => some (0, addr_string)

/-! ## The texts -/

/-- The text of some bytes. -/
def hexOf (charSigned : Bool) (bytes : List UInt8) : List UInt8 :=
  bytes.flatMap fun ch => [(hexText charSigned ch).1, (hexText charSigned ch).2]

/-- The digit of one half of a byte. -/
def halfDigit (half : UInt8) : List UInt8 :=
  if half ≤ 9 then [half + 48] else []

/-- The digits of packed bytes. -/
def digitsOf (bytes : List UInt8) : List UInt8 :=
  bytes.flatMap fun ch => halfDigit (ch &&& 0x0F) ++ halfDigit (ch >>> 4)

/-- A result that an `int` holds is that. -/
theorem intResult_eq {n : Int} (hlo : -2 ^ 31 ≤ n) (hhi : n < 2 ^ 31) :
    intResult n = some n :=
  if_pos ⟨hlo, hhi⟩

/-- A write just behind the front. -/
theorem writeAt_front {front : List UInt8} {i : Int} (hi : i = front.length)
    (v c : UInt8) (rest : List UInt8) :
    writeAt (front ++ c :: rest) i v = some (front ++ v :: rest) :=
  hi ▸ writeAt_append front c v rest

/-- A byte is printed behind those before it. -/
theorem printByte_front (charSigned : Bool) {front : List UInt8} {i : Nat}
    (hi : front.length = 2 * i) (ch a b c : UInt8) (rest : List UInt8) :
    printByte charSigned (front ++ a :: b :: c :: rest) i ch
      = some (front ++ [(hexText charSigned ch).1, (hexText charSigned ch).2]
        ++ 0 :: rest) := by
  rw [printByte, writeAt_front (by omega), Option.bind_some,
    List.append_cons front, writeAt_front (by simp; omega), Option.bind_some,
    List.append_cons (front ++ _), writeAt_front (by simp; omega)]
  simp

/-! ## `hexcode` -/

/-- The buffer with the text of `n` bytes in it. -/
def withHex (charSigned : Bool) (bytes rest : List UInt8) : List UInt8 :=
  if bytes = [] then rest
  else hexOf charSigned bytes ++ 0 :: rest.drop (2 * bytes.length + 1)

/-- The text of bytes, with the first one printed. -/
theorem withHex_cons (charSigned : Bool) (ch : UInt8) (bytes : List UInt8)
    (a b c : UInt8) (rest : List UInt8) :
    [(hexText charSigned ch).1, (hexText charSigned ch).2]
        ++ withHex charSigned bytes (0 :: rest)
      = withHex charSigned (ch :: bytes) (a :: b :: c :: rest) := by
  have hlen : 2 * (ch :: bytes).length + 1 = 2 * bytes.length + 3 := by
    rw [List.length_cons]
    omega
  rw [withHex, withHex, if_neg (List.cons_ne_nil ch bytes), hlen]
  by_cases hbytes : bytes = []
  · rw [if_pos hbytes, hbytes]
    rfl
  · rw [if_neg hbytes]
    rfl

theorem exists_three {l : List UInt8} (h : 3 ≤ l.length) :
    ∃ a b c t, l = a :: b :: c :: t := by
  cases l with
  | nil => simp at h
  | cons a l =>
      cases l with
      | nil => simp at h
      | cons b l =>
          cases l with
          | nil => simp at h
          | cons c t => exact ⟨a, b, c, t, rfl⟩

/-- The loop from the byte `i` on, with the text of those before in front. -/
theorem hexcodeFrom_spec (charSigned : Bool) {string_size : Int}
    (hint : string_size < 2 ^ 31 - 1) (data : List UInt8) (n : Nat) (i : Nat)
    (front rest : List UInt8) (hi : front.length = 2 * i)
    (hn : i + n ≤ data.length) (hneeded : (i * 2 + 3 : Int) < 2 ^ 31)
    (hsize : string_size ≤ (front ++ rest).length) :
    hexcodeFrom charSigned string_size data n i (front ++ rest)
      = some (i + min n (((string_size - 1) / 2).toNat - i),
          front ++ withHex charSigned ((data.drop i).take
            (min n (((string_size - 1) / 2).toNat - i))) rest) := by
  induction n generalizing i front rest with
  | zero =>
      rw [hexcodeFrom, Nat.zero_min, List.take_zero]
      rfl
  | succ n ih =>
      obtain ⟨ch, hch⟩ := exists_at (s := data) (k := i) (by omega)
      rw [hexcodeFrom, readAt_natCast, hch, Option.bind_some,
        intResult_eq (by omega) hneeded, Option.bind_some]
      by_cases hfits : (i * 2 + 3 : Int) ≤ string_size
      · rw [if_pos hfits]
        have hroom : 3 ≤ rest.length := by
          rw [List.length_append] at hsize
          omega
        obtain ⟨a, b, c, rest, rfl⟩ := exists_three hroom
        have hlen : (front ++ [(hexText charSigned ch).1,
            (hexText charSigned ch).2]).length = 2 * (i + 1) := by
          rw [List.length_append, hi]
          rfl
        rw [printByte_front charSigned hi, Option.bind_some,
          ih (i + 1) _ _ hlen (by omega) (by omega)
            (by simp at hsize ⊢; omega)]
        have hmin : min (n + 1) (((string_size - 1) / 2).toNat - i)
            = min n (((string_size - 1) / 2).toNat - (i + 1)) + 1 := by
          omega
        have hdrop : data.drop i = ch :: data.drop (i + 1) := by
          rw [List.drop_eq_getElem_cons (by omega)]
          rw [List.getElem?_eq_getElem (by omega)] at hch
          rw [Option.some.inj hch]
        rw [hmin, hdrop, List.take_succ_cons, ← withHex_cons, List.append_assoc]
        refine congrArg some (Prod.ext ?_ rfl)
        show i + 1 + _ = i + (_ + 1)
        omega
      · have hnone : min (n + 1) (((string_size - 1) / 2).toNat - i) = 0 := by
          omega
        rw [if_neg hfits, hnone, List.take_zero]
        rfl

/-- The value of a hexadecimal digit. -/
def unhexDigit (c : UInt8) : UInt8 := if c < 58 then c - 48 else c - 55

/-- The bytes that a text tells. -/
def decodeHex : List UInt8 → List UInt8
  | h :: l :: text =>
      ((unhexDigit h <<< 4) ||| unhexDigit l) :: decodeHex text
  | _ => []

/-- A byte as the text tells it: with a signed `char` all that are negative
    are alike. -/
def toldByte (charSigned : Bool) (ch : UInt8) : UInt8 :=
  if charSigned ∧ 128 ≤ ch then 255 else ch

/-- A byte is told by its digits. -/
theorem unhexDigit_hexText : ∀ n : Fin 256,
    (unhexDigit (hexText false (.ofNat n)).1 <<< 4)
      ||| unhexDigit (hexText false (.ofNat n)).2 = .ofNat n := by
  decide +kernel

/-- With a signed `char` its digits tell another byte. -/
theorem unhexDigit_told (charSigned : Bool) (ch : UInt8) :
    (unhexDigit (hexText charSigned ch).1 <<< 4)
      ||| unhexDigit (hexText charSigned ch).2 = toldByte charSigned ch := by
  by_cases hsigned : charSigned ∧ 128 ≤ ch
  · rw [hexText, if_pos hsigned, toldByte, if_pos hsigned]
    rfl
  · have hplain : hexText charSigned ch = hexText false ch := by
      rw [hexText, if_neg hsigned]
      rfl
    have h := unhexDigit_hexText ⟨ch.toNat, ch.toNat_lt⟩
    rw [UInt8.ofNat_toNat] at h
    rw [hplain, toldByte, if_neg hsigned]
    exact h

/-- The bytes are read as they were told. -/
theorem decodeHex_hexOf (charSigned : Bool) (bytes : List UInt8) :
    decodeHex (hexOf charSigned bytes) = bytes.map (toldByte charSigned) := by
  induction bytes with
  | nil => rfl
  | cons ch bytes ih =>
      rw [List.map_cons, ← ih, ← unhexDigit_told]
      rfl

/-- **`hexcode`**, told the sizes of its buffers or less, writes the text of as
    many bytes as there is room for, NUL included, leaves the rest of the
    buffer as it is, and tells the number of the bytes; if it is 0, not even a
    NUL is written.  The text tells the bytes, but for a signed `char`. -/
theorem hexcode_writes (charSigned : Bool) {hexstring data : List UInt8}
    {string_size data_size : Int} (hint : string_size < 2 ^ 31 - 1)
    (hsize : string_size ≤ hexstring.length)
    (hdata : data_size ≤ data.length) :
    ∃ bytes, bytes = data.take
        (min data_size.toNat ((string_size - 1) / 2).toNat)
      ∧ hexcode charSigned hexstring string_size data data_size
        = some (bytes.length, if bytes = [] then hexstring
            else hexOf charSigned bytes
              ++ 0 :: hexstring.drop (2 * bytes.length + 1))
      ∧ decodeHex (hexOf charSigned bytes)
        = bytes.map (toldByte charSigned) := by
  refine ⟨_, rfl, ?_, decodeHex_hexOf charSigned _⟩
  have hspec := hexcodeFrom_spec charSigned hint data data_size.toNat 0 []
    hexstring rfl (by omega) (by decide) hsize
  rw [hexcode]
  refine hspec.trans (congrArg some (Prod.ext ?_ ?_))
  · show 0 + _ = _
    rw [List.length_take]
    omega
  · rw [Nat.sub_zero, List.drop_zero]
    rfl

/-- Of the two bytes the first has room. -/
theorem hexcode_writes_two : hexcode false [1, 1, 1, 1, 1] 4 [0xA7, 0x1B] 2
    = some (1, [65, 55, 0, 1, 1]) := by
  have hsize : (4 : Int) ≤ ([1, 1, 1, 1, 1] : List UInt8).length := by decide
  have hdata : (2 : Int) ≤ ([0xA7, 0x1B] : List UInt8).length := by decide
  obtain ⟨bytes, rfl, hwrites, -⟩ :=
    hexcode_writes false (by decide) hsize hdata
  exact hwrites.trans (by decide)

/-! ## `decodeAddress` -/

/-- The buffer with the text in front, and the place behind it. -/
def Written (addr_string out : List UInt8) (s : List UInt8 × Nat) : Prop :=
  s = (out ++ addr_string.drop out.length, out.length)

/-- Half a byte adds its digit, if there is a place. -/
theorem pushHalf_spec {addr_string out : List UInt8} {string_size : Int}
    {s : List UInt8 × Nat}
    (hint : -2 ^ 31 < string_size ∧ string_size < 2 ^ 31)
    (hsize : string_size ≤ addr_string.length)
    (h : Written addr_string (out.take (string_size - 1).toNat) s)
    (half : UInt8) :
    ∃ s', pushHalf string_size half s = some s'
      ∧ Written addr_string
        ((out ++ halfDigit half).take (string_size - 1).toNat) s' := by
  obtain rfl := h
  have hlen : (out.take (string_size - 1).toNat).length
      = min (string_size - 1).toNat out.length := List.length_take
  rw [pushHalf, intResult_eq (by omega) (by omega), Option.bind_some]
  by_cases hpush : half ≤ 9
      ∧ ((out.take (string_size - 1).toNat).length : Int) < string_size - 1
  · have hall : out.take (string_size - 1).toNat = out :=
      List.take_of_length_le (by omega)
    rw [hall] at hpush ⊢
    obtain ⟨c, t, hrest⟩ : ∃ c t, addr_string.drop out.length = c :: t :=
      List.exists_cons_of_length_pos (by rw [List.length_drop]; omega)
    have htail : addr_string.drop (out.length + 1) = t := by
      rw [← List.drop_drop, hrest]
      rfl
    have hnew : (out ++ [half + 48]).take (string_size - 1).toNat
        = out ++ [half + 48] := List.take_of_length_le (by simp; omega)
    refine ⟨(out ++ (half + 48) :: t, out.length + 1), ?_, ?_⟩
    · rw [if_pos hpush.1, if_pos hpush.2, hrest, writeAt_append]
      rfl
    · rw [halfDigit, if_pos hpush.1, hnew, Written, List.length_append,
        List.length_singleton, htail, List.append_assoc]
      rfl
  · refine ⟨_, ite_eq_right_iff.mpr fun hdigit =>
      if_neg (not_and.mp hpush hdigit), ?_⟩
    have hsame : (out ++ halfDigit half).take (string_size - 1).toNat
        = out.take (string_size - 1).toNat := by
      rw [halfDigit]
      by_cases hdigit : half ≤ 9
      · rw [if_pos hdigit, List.take_append_of_le_length]
        have hfull := not_and.mp hpush hdigit
        omega
      · rw [if_neg hdigit, List.append_nil]
    rw [hsame, Written]

/-- A pass of the loop. -/
theorem decodeByte_spec {addr_string data : List UInt8} {string_size : Int}
    (hint : -2 ^ 31 < string_size ∧ string_size < 2 ^ 31)
    (hsize : string_size ≤ addr_string.length) {i : Nat} (h1 : 1 ≤ i)
    (hi : i < data.length) {s : List UInt8 × Nat}
    (h : Written addr_string
      ((digitsOf (data.take i).tail).take (string_size - 1).toNat) s) :
    ∃ s', decodeByte string_size data i s = some s'
      ∧ Written addr_string
        ((digitsOf (data.take (i + 1)).tail).take (string_size - 1).toNat)
        s' := by
  obtain ⟨ch, hch⟩ := exists_at hi
  obtain ⟨t, ht, hlow⟩ := pushHalf_spec hint hsize h (ch &&& 0x0F)
  obtain ⟨s', hs', hhigh⟩ := pushHalf_spec hint hsize hlow (ch >>> 4)
  have hdigits : digitsOf (data.take (i + 1)).tail
      = digitsOf (data.take i).tail ++ halfDigit (ch &&& 0x0F)
        ++ halfDigit (ch >>> 4) := by
    have hne : data.take i ≠ [] := by
      intro hnil
      rcases List.take_eq_nil_iff.mp hnil with h | h
      · omega
      · rw [h] at hi
        exact Nat.not_lt_zero _ hi
    rw [List.take_add_one, hch, List.tail_append_of_ne_nil hne, digitsOf,
      List.flatMap_append, List.append_assoc]
    simp [digitsOf]
  refine ⟨s', ?_, hdigits ▸ hhigh⟩
  rw [decodeByte, readAt_natCast, hch, Option.bind_some, ht, Option.bind_some,
    hs']

/-- The packed bytes of some digits, the low half first. -/
def packDigits : List (Fin 10) → List UInt8
  | [] => []
  | [a] => [.ofNat (a + 240)]
  | a :: b :: digits => .ofNat (a + 16 * b) :: packDigits digits

/-- Two digits of a byte. -/
theorem digitsOf_pair : ∀ a b : Fin 10,
    halfDigit (UInt8.ofNat (a + 16 * b) &&& 0x0F)
        ++ halfDigit (UInt8.ofNat (a + 16 * b) >>> 4)
      = [UInt8.ofNat (a + 48), UInt8.ofNat (b + 48)] := by
  decide +kernel

/-- One digit, with the filler. -/
theorem digitsOf_single : ∀ a : Fin 10,
    halfDigit (UInt8.ofNat (a + 240) &&& 0x0F)
        ++ halfDigit (UInt8.ofNat (a + 240) >>> 4)
      = [UInt8.ofNat (a + 48)] := by
  decide +kernel

/-- What was packed is unpacked. -/
theorem digitsOf_packDigits (digits : List (Fin 10)) :
    digitsOf (packDigits digits)
      = digits.map fun d => UInt8.ofNat (d + 48) := by
  induction digits using packDigits.induct with
  | case1 => rfl
  | case2 a =>
      rw [packDigits, digitsOf, List.flatMap_cons, digitsOf_single]
      rfl
  | case3 a b digits ih =>
      rw [packDigits, digitsOf, List.flatMap_cons, digitsOf_pair, ← digitsOf,
        ih]
      rfl

/-- The text that was written is ended, if there is a place. -/
theorem Written.terminate {addr_string out : List UInt8}
    {s : List UInt8 × Nat} (h : Written addr_string out s)
    (hroom : out.length < addr_string.length) :
    writeAt s.1 s.2 0
      = some (out ++ 0 :: addr_string.drop (out.length + 1)) := by
  obtain rfl := h
  obtain ⟨c, behind, hbehind⟩ : ∃ c l, addr_string.drop out.length = c :: l :=
    List.exists_cons_of_length_pos (by rw [List.length_drop]; omega)
  have htail : addr_string.drop (out.length + 1) = behind := by
    rw [← List.drop_drop, hbehind]
    rfl
  rw [hbehind, writeAt_append, htail]

/-- The bytes that the loop reads, behind the first one. -/
theorem take_behind_first (first : UInt8) (rest : List UInt8) (n : Int) :
    (first :: rest).take (1 + (n - 1).toNat)
      = first :: ((first :: rest).take n.toNat).tail := by
  rw [Nat.add_comm, List.take_succ_cons]
  by_cases hpos : 0 < n
  · obtain ⟨k, hk⟩ : ∃ k, n.toNat = k + 1 := ⟨n.toNat - 1, by omega⟩
    rw [show (n - 1).toNat = k by omega, hk, List.take_succ_cons]
    rfl
  · rw [show (n - 1).toNat = 0 by omega, show n.toNat = 0 by omega]
    rfl

/-- **`decodeAddress`**, told the sizes of its buffers or less, reads no byte
    behind the first if that is not the mark of an address, and then makes the
    text empty; else it writes as many of the digits as there is room for with
    a NUL behind them, leaves the rest of the buffer as it is, and tells their
    number.  Of both buffers it uses the first byte whatever their sizes.  The
    digits of packed digits are these. -/
theorem decodeAddress_writes {addr_string data : List UInt8}
    {string_size data_size : Int} (hbuf : addr_string ≠ [])
    (hint : -2 ^ 31 < string_size ∧ string_size < 2 ^ 31)
    (hsize : string_size ≤ addr_string.length) (hdata : data ≠ [])
    (hlen : data_size ≤ data.length) :
    ∃ out, out = (if data.head? = some addrPrefix then
          (digitsOf (data.take data_size.toNat).tail).take
            (string_size - 1).toNat
        else [])
      ∧ decodeAddress (some addr_string) string_size (some data) data_size
        = some (out.length,
            some (out ++ 0 :: addr_string.drop (out.length + 1)))
      ∧ ∀ digits, digitsOf (packDigits digits)
        = digits.map fun d => UInt8.ofNat (d + 48) := by
  refine ⟨_, rfl, ?_, digitsOf_packDigits⟩
  obtain ⟨first, rest, rfl⟩ := List.exists_cons_of_ne_nil hdata
  obtain ⟨a, t, rfl⟩ := List.exists_cons_of_ne_nil hbuf
  have hread : readAt (first :: rest) 0 = some first := rfl
  rw [decodeAddress, hread, Option.bind_some, List.head?_cons]
  by_cases hfirst : first = addrPrefix
  · subst hfirst
    rw [if_neg (not_not.mpr rfl), if_pos rfl]
    obtain ⟨s, hs, hwritten⟩ := forUp_rule
      (decodeByte string_size (addrPrefix :: rest))
      (I := fun i s => Written (a :: t)
        ((digitsOf ((addrPrefix :: rest).take i).tail).take
          (string_size - 1).toNat) s)
      (n := (data_size - 1).toNat) (a := 1) (s := (a :: t, 0))
      (by simp [Written, digitsOf])
      (fun i s h1 hi h => decodeByte_spec hint hsize h1 (by
        simp at hlen ⊢; omega) h)
    rw [take_behind_first, List.tail_cons] at hwritten
    have hroom : ((digitsOf ((addrPrefix :: rest).take
        data_size.toNat).tail).take (string_size - 1).toNat).length
        < (a :: t).length := by
      have hpos : 0 < (a :: t).length := Nat.succ_pos _
      rw [List.length_take]
      omega
    rw [hs, Option.bind_some, hwritten.terminate hroom,
      congrArg Prod.snd hwritten]
    rfl
  · have hzero : writeAt (a :: t) 0 0 = some (0 :: t) := writeAt_append [] a 0 t
    rw [if_pos hfirst, if_neg fun h => hfirst (Option.some.inj h), hzero]
    rfl

/-- Of three digits two have room. -/
theorem decodeAddress_writes_three :
    decodeAddress (some [1, 1, 1, 1]) 3
      (some (addrPrefix :: packDigits [4, 9, 2])) 3
      = some (2, some [52, 57, 0, 1]) := by
  have hsize : (3 : Int) ≤ ([1, 1, 1, 1] : List UInt8).length := by decide
  have hlen : (3 : Int) ≤ (addrPrefix :: packDigits [4, 9, 2]).length := by
    decide
  obtain ⟨out, rfl, hwrites, -⟩ := decodeAddress_writes
    (List.cons_ne_nil _ _) (by decide) hsize (List.cons_ne_nil _ _) hlen
  exact hwrites.trans (by decide)

end QcomHexcode
