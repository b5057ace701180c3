import Mathlib.Algebra.Group.Nat.Defs
import Mathlib.Algebra.Group.Int.Defs
import QcomCommon.BufferProofs
import QcomCommon.SubstringProofs

/-! # The tables of the Boyer-Moore search

    `recovery_updater.cpp` fills two tables from the pattern: `delta1` by the
    letter of the text, `delta2` by the place of the mismatch.  This file has
    the functions that fill them, over buffers with checked accesses, and
    what is in the tables then (`bm_make_delta1_spec`,
    `bm_make_delta2_spec`).

    The first pass of `bm_make_delta2` compares the suffix at `p`, where the
    comment says the one behind it, and takes `p + 1` for its shift.  So the
    entry of a place is one more than the least border that is not before
    it. -/

namespace QcomBmSearch

open QcomBuffer QcomSubstring

/-! ## The functions

    The lengths are those of the lists; they fit an `int`. -/

/-- The number of characters. -/
def ALPHABET_LEN : Nat := 256

/-- A value converted to `int`. -/
def castInt (n : Int) : Int := Int.bmod n (2 ^ 32)

/-- `n - 1` in a `size_t` of 32 bits. -/
def predSize (n : Nat) : Nat := if n = 0 then 2 ^ 32 - 1 else n - 1

/-- `strncmp(s1, s2, n)`; past the end of a buffer it has no result. -/
def strncmp : List UInt8 → List UInt8 → Nat → Option Int
  | _, _, 0 => some 0
  | c :: s1, d :: s2, n + 1 =>
      if c ≠ d then some (c.toNat - d.toNat)
      else if c = 0 then some 0
      else strncmp s1 s2 n
  | _, _, _ + 1 => none

/-- The loop of `max_suffix_len`, from `i` on and for at most `n` passes. -/
def maxSuffixLoop (str : List UInt8) (str_len p : Nat) :
    Nat → Nat → Option Nat
  | 0, _ => none
  | n + 1, i =>
      (readAt str ((p : Int) - i)).bind (fun x =>
        (readAt str ((str_len : Int) - 1 - i)).bind (fun y =>
          if x = y ∧ i < p then maxSuffixLoop str str_len p n (i + 1)
          else some i))

/-- How many bytes the string up to `p` and the whole of it share at their
    ends. -/
def max_suffix_len (str : List UInt8) (str_len p : Nat) : Option Int :=
  (maxSuffixLoop str str_len p (p + 1) 0).map (fun i : Nat => castInt i)

/-- The shift by the character that did not match. -/
def bm_make_delta1 (pat : List UInt8) : Option (List (Option Int)) :=
  (forUp (fun i delta1 => writeAt delta1 i (some (castInt pat.length)))
      ALPHABET_LEN 0 (uninit Int ALPHABET_LEN)).bind
    (forUp (fun i delta1 =>
        (readAt pat i).bind (fun idx =>
          writeAt delta1 idx.toNat (some (castInt (pat.length - 1 - i)))))
      (predSize pat.length) 0)

/-- The first loop of `bm_make_delta2` at `p`, with `lastPrefix` and the
    table. -/
def prefixPass (pat : List UInt8) (p : Nat) (s : Nat × List (Option Int)) :
    Option (Nat × List (Option Int)) :=
  (strncmp (pat.drop p) pat (pat.length - p)).bind (fun result =>
    let lastPrefix := if result = 0 then p + 1 else s.1
    (writeAt s.2 p (some (castInt (lastPrefix + (pat.length - 1 - p))))).map
      (fun delta2 => (lastPrefix, delta2)))

/-- The second loop at `p`. -/
def suffixPass (pat : List UInt8) (p : Nat) (delta2 : List (Option Int)) :
    Option (List (Option Int)) :=
  (max_suffix_len pat pat.length p).bind (fun suf_len =>
    (readAt pat (p - suf_len)).bind (fun x =>
      (readAt pat (pat.length - 1 - suf_len)).bind (fun y =>
        if x ≠ y then
          writeAt delta2 (pat.length - 1 - suf_len)
            (some (castInt (pat.length - 1 - p + suf_len)))
        else some delta2)))

/-- The shift by the part of the pattern that did. -/
def bm_make_delta2 (pat : List UInt8) : Option (List (Option Int)) :=
  (forDown (prefixPass pat) pat.length
      (predSize pat.length, uninit Int pat.length)).bind
    (fun s => forUp (suffixPass pat) (pat.length - 1) 0 s.2)

/-! ## Conversions and comparisons -/

theorem castInt_of_lt {n : Int} (h : 0 ≤ n) (hlt : n < 2 ^ 31) :
    castInt n = n := by
  unfold castInt
  apply Int.bmod_eq_of_le <;> omega

theorem predSize_of_pos {n : Nat} (h : 0 < n) : predSize n = n - 1 := by
  rw [predSize, if_neg (by omega)]

/-- Within both buffers a comparison has a result. -/
theorem strncmp_isSome {s1 s2 : List UInt8} {n : Nat} (h1 : n ≤ s1.length)
    (h2 : n ≤ s2.length) : ∃ result, strncmp s1 s2 n = some result := by
  induction n generalizing s1 s2 with
  | zero => exact ⟨0, by rw [strncmp]⟩
  | succ n ih =>
      obtain ⟨c, s1, rfl⟩ := List.exists_cons_of_length_pos
        (Nat.lt_of_lt_of_le (Nat.succ_pos n) h1)
      obtain ⟨d, s2, rfl⟩ := List.exists_cons_of_length_pos
        (Nat.lt_of_lt_of_le (Nat.succ_pos n) h2)
      rw [strncmp]
      split
      · exact ⟨_, rfl⟩
      · split
        · exact ⟨0, rfl⟩
        · exact ih (Nat.le_of_succ_le_succ h1) (Nat.le_of_succ_le_succ h2)

/-- What is behind the first `n` characters is not compared. -/
theorem strncmp_append (s1 t s2 : List UInt8) :
    strncmp (s1 ++ t) s2 s1.length = strncmp s1 s2 s1.length := by
  induction s1 generalizing s2 with
  | nil => rw [List.length_nil, strncmp, strncmp]
  | cons c s1 ih =>
      cases s2 with
      | nil => rfl
      | cons d s2 =>
          rw [List.length_cons, List.cons_append, strncmp, strncmp, ih]

/-- A string compares equal, over its length, to what begins with it. -/
theorem strncmp_eq_zero_iff {s1 s2 : List UInt8} (h : 0 ∉ s1) :
    strncmp s1 s2 s1.length = some 0 ↔ s1 <+: s2 := by
  induction s1 generalizing s2 with
  | nil => exact ⟨fun _ => List.nil_prefix, fun _ => by rw [List.length_nil, strncmp]⟩
  | cons c s1 ih =>
      cases s2 with
      | nil =>
          constructor
          · intro hcmp
            rw [List.length_cons, strncmp] at hcmp
            · cases hcmp
            · intro c' s1' d' s2' _ hnil
              cases hnil
          · intro hpre
            exact absurd (List.prefix_nil.mp hpre) (List.cons_ne_nil c s1)
      | cons d s2 =>
          have hc : c ≠ 0 := fun hc => h (by rw [hc]; exact List.mem_cons_self)
          rw [List.length_cons, strncmp, List.cons_prefix_cons]
          by_cases hcd : c = d
          · rw [if_neg (not_not.mpr hcd), if_neg hc,
              ih (fun hmem => h (List.mem_cons_of_mem c hmem))]
            exact ⟨fun hpre => ⟨hcd, hpre⟩, fun hpre => hpre.2⟩
          · rw [if_pos hcd]
            constructor
            · intro hzero
              have hsub := Option.some.inj hzero
              refine absurd (UInt8.toNat_inj.mp ?_) hcd
              omega
            · intro hpre
              exact absurd hpre.1 hcd

/-! ## The first table -/

/-- The shift for the letter `c`: the distance from the end of its last place
    before the end, or the whole length. -/
def Delta1 (pat : List UInt8) (c : UInt8) (shift : Nat) : Prop :=
  (∃ i, i + 1 < pat.length ∧ pat[i]? = some c ∧
    (∀ k, i < k → k + 1 < pat.length → pat[k]? ≠ some c) ∧
    shift = pat.length - 1 - i) ∨
  ((∀ k, k + 1 < pat.length → pat[k]? ≠ some c) ∧ shift = pat.length)

/-- The entry of `c` after the letters before `i`. -/
def Delta1Upto (pat : List UInt8) (i : Nat) (c : UInt8) (shift : Nat) :
    Prop :=
  (∃ k, k < i ∧ pat[k]? = some c ∧
    (∀ k', k < k' → k' < i → pat[k']? ≠ some c) ∧
    shift = pat.length - 1 - k) ∨
  ((∀ k, k < i → pat[k]? ≠ some c) ∧ shift = pat.length)

theorem delta1Upto_last {pat : List UInt8} {c : UInt8} {shift : Nat}
    (h : Delta1Upto pat (pat.length - 1) c shift) : Delta1 pat c shift := by
  rcases h with ⟨k, hk, hat, hlast, hshift⟩ | ⟨hnone, hshift⟩
  · exact Or.inl ⟨k, by omega, hat,
      fun k' hlt hk' => hlast k' hlt (by omega), hshift⟩
  · exact Or.inr ⟨fun k hk => hnone k (by omega), hshift⟩

/-- The letter at `i` takes the entry. -/
theorem delta1Upto_same {pat : List UInt8} {i : Nat} {c : UInt8}
    (h : pat[i]? = some c) :
    Delta1Upto pat (i + 1) c (pat.length - 1 - i) :=
  Or.inl ⟨i, Nat.lt_succ_self i, h, fun k' hlt hk' => by omega, rfl⟩

/-- The other letters keep theirs. -/
theorem delta1Upto_other {pat : List UInt8} {i : Nat} {c d : UInt8}
    {shift : Nat} (h : Delta1Upto pat i c shift) (hat : pat[i]? = some d)
    (hne : c ≠ d) : Delta1Upto pat (i + 1) c shift := by
  have hi : pat[i]? ≠ some c := by
    rw [hat]
    exact fun heq => hne (Option.some.inj heq).symm
  rcases h with ⟨k, hk, hc, hlast, hshift⟩ | ⟨hnone, hshift⟩
  · refine Or.inl ⟨k, by omega, hc, ?_, hshift⟩
    intro k' hlt hk'
    by_cases heq : k' = i
    · rw [heq]
      exact hi
    · exact hlast k' hlt (by omega)
  · refine Or.inr ⟨?_, hshift⟩
    intro k hk
    by_cases heq : k = i
    · rw [heq]
      exact hi
    · exact hnone k (by omega)

theorem Delta1.bounds {pat : List UInt8} {c : UInt8} {shift : Nat}
    (h : Delta1 pat c shift) (hpat : pat ≠ []) :
    1 ≤ shift ∧ shift ≤ pat.length := by
  have hpos := List.length_pos_iff.mpr hpat
  rcases h with ⟨i, hi, -, -, rfl⟩ | ⟨-, rfl⟩ <;> omega

/-- The places written with the entries `Q` has for them. -/
def Filled (t : List (Option Int)) (n : Nat) (Q : Nat → Nat → Prop) : Prop :=
  t.length = n ∧
    ∀ k, k < n → ∃ v, Q k v ∧ t[k]? = some (some (castInt v))

/-- The first loop writes the length everywhere. -/
theorem fillLoop_spec (n : Nat) (v : Nat) :
    ∃ t, forUp (fun i t => writeAt t i (some (castInt v))) n 0
        (uninit Int n) = some t ∧ Filled t n (fun _ w => w = v) := by
  obtain ⟨t, ht, hlen, hall⟩ := forUp_rule
    (fun i t => writeAt t i (some (castInt v))) (n := n) (a := 0)
    (I := fun i t => t.length = n ∧
      ∀ k, k < i → t[k]? = some (some (castInt v)))
    (s := uninit Int n) ⟨length_uninit Int n, fun k hk => by omega⟩ (by
      intro i t _ hi hI
      refine ⟨t.set i (some (castInt v)), writeAt_of_eq rfl (by omega) _, ?_⟩
      refine ⟨by rw [List.length_set, hI.1], ?_⟩
      intro k hk
      by_cases heq : k = i
      · rw [heq, List.getElem?_set_self (by omega)]
      · rw [List.getElem?_set_ne (by omega), hI.2 k (by omega)])
  exact ⟨t, ht, hlen, fun k hk => ⟨v, rfl, hall k (by omega)⟩⟩

/-- **DELTA1**: every letter has its entry. -/
theorem bm_make_delta1_spec {pat : List UInt8} (hpat : pat ≠ []) :
    ∃ t, bm_make_delta1 pat = some t ∧ ∀ c : UInt8, ∃ shift,
      Delta1 pat c shift ∧ t[c.toNat]? = some (some (castInt shift)) := by
  have hpos := List.length_pos_iff.mpr hpat
  obtain ⟨t, ht, hlen, hall⟩ := fillLoop_spec ALPHABET_LEN pat.length
  obtain ⟨t', ht', hlen', hall'⟩ := forUp_rule
    (fun i t => (readAt pat i).bind (fun idx =>
      writeAt t idx.toNat (some (castInt (pat.length - 1 - i)))))
    (n := pat.length - 1) (a := 0)
    (I := fun i t => t.length = ALPHABET_LEN ∧ ∀ c : UInt8, ∃ shift,
      Delta1Upto pat i c shift ∧ t[c.toNat]? = some (some (castInt shift)))
    (s := t) (by
      refine ⟨hlen, ?_⟩
      intro c
      obtain ⟨v, rfl, hv⟩ := hall c.toNat (UInt8.toNat_lt c)
      exact ⟨pat.length, Or.inr ⟨fun k hk => by omega, rfl⟩, hv⟩) (by
      intro i t _ hi hI
      obtain ⟨d, hat⟩ := exists_at (show i < pat.length by omega)
      have hd : d.toNat < t.length := by
        rw [hI.1]
        exact UInt8.toNat_lt d
      refine ⟨t.set d.toNat (some (castInt (pat.length - 1 - i))), ?_, ?_, ?_⟩
      · rw [readAt_natCast, hat, Option.bind_some, writeAt_of_eq rfl hd]
      · rw [List.length_set, hI.1]
      · intro c
        by_cases heq : c = d
        · refine ⟨pat.length - 1 - i, heq ▸ delta1Upto_same hat, ?_⟩
          have hsub : ((pat.length - 1 - i : Nat) : Int)
              = pat.length - 1 - i := by omega
          rw [heq, List.getElem?_set_self hd, hsub]
        · obtain ⟨shift, hupto, hshift⟩ := hI.2 c
          refine ⟨shift, delta1Upto_other hupto hat heq, ?_⟩
          rw [List.getElem?_set_ne (fun h => heq (UInt8.toNat_inj.mp h).symm),
            hshift])
  refine ⟨t', ?_, ?_⟩
  · rw [bm_make_delta1, ht, Option.bind_some, predSize_of_pos hpos, ht']
  · intro c
    obtain ⟨shift, hupto, hshift⟩ := hall' c
    rw [Nat.zero_add] at hupto
    exact ⟨shift, delta1Upto_last hupto, hshift⟩

/-! ## The second table: borders -/

/-- The suffix at `q` compares equal to the pattern. -/
def PrefixAt (pat : List UInt8) (q : Nat) : Prop :=
  strncmp (pat.drop q) pat (pat.length - q) = some 0

/-- `lastPrefix` at `p`: one more than the first such place from `p` on. -/
def LastPrefix (pat : List UInt8) (p lastPrefix : Nat) : Prop :=
  (∃ q, p ≤ q ∧ q < pat.length ∧ PrefixAt pat q ∧
    (∀ r, p ≤ r → r < q → ¬ PrefixAt pat r) ∧ lastPrefix = q + 1) ∨
  ((∀ q, p ≤ q → q < pat.length → ¬ PrefixAt pat q) ∧
    lastPrefix = pat.length - 1)

/-- In a pattern without NUL these places are the borders. -/
theorem prefixAt_iff {pat : List UInt8} (h : 0 ∉ pat) (q : Nat) :
    PrefixAt pat q ↔ Border pat q := by
  rw [PrefixAt, Border, ← List.length_drop]
  exact strncmp_eq_zero_iff (fun hmem => h (List.mem_of_mem_drop hmem))

theorem strncmp_self {s : List UInt8} : strncmp s s s.length = some 0 := by
  induction s with
  | nil => rw [List.length_nil, strncmp]
  | cons c s ih =>
      rw [List.length_cons, strncmp, if_neg (not_not.mpr rfl), ih, ite_self]

theorem prefixAt_zero (pat : List UInt8) : PrefixAt pat 0 := strncmp_self

theorem lastPrefix_found {pat : List UInt8} {p : Nat} (hp : p < pat.length)
    (h : PrefixAt pat p) : LastPrefix pat p (p + 1) :=
  Or.inl ⟨p, Nat.le_refl p, hp, h, fun r hle hlt => by omega, rfl⟩

theorem lastPrefix_kept {pat : List UInt8} {p lastPrefix : Nat}
    (h : ¬ PrefixAt pat p) (hlp : LastPrefix pat (p + 1) lastPrefix) :
    LastPrefix pat p lastPrefix := by
  rcases hlp with ⟨q, hpq, hq, hat, hleast, heq⟩ | ⟨hnone, heq⟩
  · refine Or.inl ⟨q, by omega, hq, hat, ?_, heq⟩
    intro r hle hlt
    by_cases hr : r = p
    · rw [hr]
      exact h
    · exact hleast r (by omega) hlt
  · refine Or.inr ⟨?_, heq⟩
    intro q hle hq
    by_cases hqp : q = p
    · rw [hqp]
      exact h
    · exact hnone q (by omega) hq

theorem lastPrefix_end (pat : List UInt8) :
    LastPrefix pat pat.length (pat.length - 1) :=
  Or.inr ⟨fun q hle hq => by omega, rfl⟩

theorem LastPrefix.bounds {pat : List UInt8} {p lastPrefix : Nat}
    (h : LastPrefix pat p lastPrefix) (hp : p < pat.length) :
    1 ≤ lastPrefix ∧ lastPrefix ≤ pat.length := by
  rcases h with ⟨q, -, hq, -, -, rfl⟩ | ⟨hnone, rfl⟩
  · omega
  · -- a single letter is its own border
    have hlen : pat.length ≠ 1 := by
      intro hone
      obtain rfl : p = 0 := by omega
      exact hnone 0 (Nat.le_refl 0) (by omega) (prefixAt_zero pat)
    omega

/-- The entry the first loop writes at `p`. -/
def PrefixEntry (pat : List UInt8) (p v : Nat) : Prop :=
  ∃ lastPrefix, LastPrefix pat p lastPrefix ∧
    v = lastPrefix + (pat.length - 1 - p)

/-- **FIRST LOOP** of `bm_make_delta2`. -/
theorem prefixPass_spec {pat : List UInt8} (hpat : pat ≠ []) :
    ∃ s, forDown (prefixPass pat) pat.length
        (predSize pat.length, uninit Int pat.length) = some s ∧
      Filled s.2 pat.length (PrefixEntry pat) := by
  have hpos := List.length_pos_iff.mpr hpat
  obtain ⟨s, hs, -, hlen, hall⟩ := forDown_rule (prefixPass pat)
    (n := pat.length)
    (I := fun p s => LastPrefix pat p s.1 ∧ s.2.length = pat.length ∧
      ∀ k, p ≤ k → k < pat.length → ∃ v, PrefixEntry pat k v ∧
        s.2[k]? = some (some (castInt v)))
    (s := (predSize pat.length, uninit Int pat.length)) (by
      refine ⟨?_, length_uninit Int _, fun k hle hk => by omega⟩
      rw [predSize_of_pos hpos]
      exact lastPrefix_end pat) (by
      rintro p ⟨lastPrefix, t⟩ hp ⟨hlp, hlen, hall⟩
      dsimp only at hlp hlen hall
      have hcmp : ∃ result,
          strncmp (pat.drop p) pat (pat.length - p) = some result :=
        strncmp_isSome (Nat.le_of_eq List.length_drop.symm)
          (Nat.sub_le pat.length p)
      obtain ⟨result, hresult⟩ := hcmp
      have hnew : LastPrefix pat p (if result = 0 then p + 1
          else lastPrefix) := by
        by_cases hzero : result = 0
        · rw [if_pos hzero]
          exact lastPrefix_found hp (hresult.trans (congrArg some hzero))
        · rw [if_neg hzero]
          refine lastPrefix_kept ?_ hlp
          intro hat
          exact hzero (Option.some.inj (hresult.symm.trans hat))
      generalize hlp' : (if result = 0 then p + 1 else lastPrefix) = lp
        at hnew
      have hval : ((lp + (pat.length - 1 - p) : Nat) : Int)
          = lp + (pat.length - 1 - p) := by omega
      refine ⟨(lp, t.set p (some (castInt (lp + (pat.length - 1 - p))))),
        ?_, hnew, ?_, ?_⟩
      · rw [prefixPass, hresult, Option.bind_some]
        dsimp only
        rw [hlp', writeAt_of_eq rfl (by omega), Option.map_some]
      · rw [List.length_set, hlen]
      · intro k hle hk
        by_cases hkp : k = p
        · refine ⟨lp + (pat.length - 1 - p), ⟨lp, hkp ▸ hnew, by rw [hkp]⟩, ?_⟩
          rw [hkp, List.getElem?_set_self (by omega), hval]
        · rw [List.getElem?_set_ne (by omega)]
          exact hall k (by omega) hk)
  exact ⟨s, hs, hlen, fun k hk => hall k (Nat.zero_le k) hk⟩

/-! ## The second table: good shifts -/

/-- `k` letters before the one at `p`, and no more, are those before the end
    of the pattern. -/
structure SuffixLen (pat : List UInt8) (p k : Nat) : Prop where
  le : k ≤ p
  agree : ∀ m, m < k → pat[p - m]? = pat[pat.length - 1 - m]?
  stop : k = p ∨ pat[p - k]? ≠ pat[pat.length - 1 - k]?

theorem maxSuffixLoop_spec {pat : List UInt8} {p : Nat}
    (hp : p < pat.length) {n i : Nat} (hi : i ≤ p) (hn : p - i < n)
    (hagree : ∀ m, m < i → pat[p - m]? = pat[pat.length - 1 - m]?) :
    ∃ k, maxSuffixLoop pat pat.length p n i = some k ∧ SuffixLen pat p k := by
  induction n generalizing i with
  | zero => omega
  | succ n ih =>
      obtain ⟨x, hx⟩ := exists_at (show p - i < pat.length by omega)
      obtain ⟨y, hy⟩ :=
        exists_at (show pat.length - 1 - i < pat.length by omega)
      rw [maxSuffixLoop, readAt_of_eq (k := p - i) (by omega), hx,
        Option.bind_some, readAt_of_eq (k := pat.length - 1 - i) (by omega),
        hy, Option.bind_some]
      by_cases hxy : x = y
      · by_cases hip : i < p
        · rw [if_pos ⟨hxy, hip⟩]
          refine ih (by omega) (by omega) ?_
          intro m hm
          by_cases hmi : m = i
          · rw [hmi, hx, hy, hxy]
          · exact hagree m (by omega)
        · rw [if_neg (fun h => hip h.2)]
          exact ⟨i, rfl, hi, hagree, Or.inl (by omega)⟩
      · rw [if_neg (fun h => hxy h.1)]
        refine ⟨i, rfl, hi, hagree, Or.inr ?_⟩
        rw [hx, hy]
        exact fun h => hxy (Option.some.inj h)

/-- **MAX_SUFFIX_LEN** reads within the pattern and returns that number. -/
theorem max_suffix_len_spec {pat : List UInt8} {p : Nat}
    (hp : p < pat.length) (hlen : pat.length < 2 ^ 31) :
    ∃ k : Nat, max_suffix_len pat pat.length p = some (k : Int) ∧
      SuffixLen pat p k := by
  obtain ⟨k, hk, hsuf⟩ := maxSuffixLoop_spec hp (Nat.zero_le p)
    (show p - 0 < p + 1 by omega) (fun m hm => by omega)
  have hle := hsuf.le
  refine ⟨k, ?_, hsuf⟩
  rw [max_suffix_len, hk, Option.map_some, castInt_of_lt (by omega) (by omega)]

/-- The pass at `p` finds the place of which the distance of `p` from the end
    is a good shift, if there is one. -/
theorem goodShift_iff_suffixLen {pat : List UInt8} {p k j : Nat}
    (hp : p + 1 < pat.length) (h : SuffixLen pat p k) (hj : j < pat.length) :
    GoodShift pat j (pat.length - 1 - p) ↔
      j = pat.length - 1 - k ∧ pat[p - k]? ≠ pat[pat.length - 1 - k]? := by
  have hkp := h.le
  constructor
  · intro hgood
    have hle := hgood.le
    have hdiffer := hgood.differ
    -- the letters behind j are the first of those before p
    have hbehind : ∀ m, m < pat.length - 1 - j →
        pat[p - m]? = pat[pat.length - 1 - m]? := by
      intro m hm
      have hat := hgood.agree (pat.length - 1 - m) (by omega) (by omega)
      rwa [show pat.length - 1 - m - (pat.length - 1 - p) = p - m by omega]
        at hat
    have hat : pat[p - (pat.length - 1 - j)]?
        ≠ pat[pat.length - 1 - (pat.length - 1 - j)]? := by
      rwa [show p - (pat.length - 1 - j) = j - (pat.length - 1 - p) by omega,
        show pat.length - 1 - (pat.length - 1 - j) = j by omega]
    have hge : k ≤ pat.length - 1 - j := by
      by_contra hlt
      exact hat (h.agree _ (by omega))
    have heq : pat.length - 1 - j = k := by
      by_contra hne
      rcases h.stop with hstop | hstop
      · omega
      · exact hstop (hbehind k (by omega))
    rw [heq] at hat
    exact ⟨by omega, hat⟩
  · rintro ⟨rfl, hdiffer⟩
    refine ⟨by omega, by omega, ?_, ?_⟩
    · intro i hlt hi
      have hat := h.agree (pat.length - 1 - i) (by omega)
      rwa [show p - (pat.length - 1 - i) = i - (pat.length - 1 - p) by omega,
        show pat.length - 1 - (pat.length - 1 - i) = i by omega] at hat
    · rwa [show pat.length - 1 - k - (pat.length - 1 - p) = p - k by omega]

/-- The shift for a mismatch at `j`, with the good shifts from `b` on: the
    least of them, or `lastPrefix`. -/
def Delta2From (pat : List UInt8) (b j shift : Nat) : Prop :=
  (GoodShift pat j shift ∧ b ≤ shift ∧
    ∀ s, GoodShift pat j s → b ≤ s → shift ≤ s) ∨
  ((∀ s, GoodShift pat j s → ¬ b ≤ s) ∧ LastPrefix pat j shift)

/-- The shift in the finished table. -/
def Delta2 (pat : List UInt8) (j shift : Nat) : Prop := Delta2From pat 1 j shift

theorem Delta2.bounds {pat : List UInt8} {j shift : Nat}
    (h : Delta2 pat j shift) (hj : j < pat.length) :
    1 ≤ shift ∧ shift ≤ pat.length := by
  rcases h with ⟨hgood, -, -⟩ | ⟨-, hlp⟩
  · have hle := hgood.le
    have hpos := hgood.pos
    omega
  · exact hlp.bounds hj

theorem delta2From_good {pat : List UInt8} {b j : Nat}
    (h : GoodShift pat j b) : Delta2From pat b j b :=
  Or.inl ⟨h, Nat.le_refl b, fun _ _ hle => hle⟩

theorem delta2From_kept {pat : List UInt8} {b j shift : Nat}
    (h : ¬ GoodShift pat j b) (hd : Delta2From pat (b + 1) j shift) :
    Delta2From pat b j shift := by
  have hnext : ∀ s, GoodShift pat j s → b ≤ s → b + 1 ≤ s := by
    intro s hs hle
    rcases Nat.lt_or_eq_of_le hle with hlt | rfl
    · exact hlt
    · exact absurd hs h
  rcases hd with ⟨hgood, hle, hleast⟩ | ⟨hnone, hlp⟩
  · exact Or.inl ⟨hgood, by omega, fun s hs hb => hleast s hs (hnext s hs hb)⟩
  · exact Or.inr ⟨fun s hs hb => hnone s hs (hnext s hs hb), hlp⟩

/-- What the table holds for the shifts `Q` has. -/
def ShiftEntry (pat : List UInt8) (Q : Nat → Nat → Prop) (j v : Nat) : Prop :=
  ∃ shift, Q j shift ∧ v = shift + (pat.length - 1 - j)

/-- One pass of the second loop. -/
theorem suffixPass_step {pat : List UInt8} {p : Nat} {t : List (Option Int)}
    (hlen : pat.length < 2 ^ 31) (hp : p + 1 < pat.length)
    (h : Filled t pat.length
      (ShiftEntry pat (Delta2From pat (pat.length - p)))) :
    ∃ t', suffixPass pat p t = some t' ∧ Filled t' pat.length
      (ShiftEntry pat (Delta2From pat (pat.length - (p + 1)))) := by
  obtain ⟨htlen, hall⟩ := h
  obtain ⟨k, hk, hsuf⟩ := max_suffix_len_spec (p := p) (by omega) hlen
  have hkp := hsuf.le
  obtain ⟨x, hx⟩ := exists_at (show p - k < pat.length by omega)
  obtain ⟨y, hy⟩ := exists_at (show pat.length - 1 - k < pat.length by omega)
  have hgood := fun j hj => goodShift_iff_suffixLen (j := j) hp hsuf hj
  rw [hx, hy] at hgood
  have hb : pat.length - p = pat.length - 1 - p + 1 := by omega
  have hb' : pat.length - (p + 1) = pat.length - 1 - p := by omega
  rw [hb] at hall
  rw [hb']
  -- an entry stays where the distance of p is no good shift
  have hkeep : ∀ j, j < pat.length → ¬ (j = pat.length - 1 - k ∧
      some x ≠ some y) → ∃ v, ShiftEntry pat
        (Delta2From pat (pat.length - 1 - p)) j v ∧
        t[j]? = some (some (castInt v)) := by
    intro j hj hnot
    obtain ⟨v, ⟨shift, hd, hv⟩, hat⟩ := hall j hj
    exact ⟨v, ⟨shift, delta2From_kept (fun hg => hnot ((hgood j hj).mp hg)) hd,
      hv⟩, hat⟩
  have hrun : suffixPass pat p t = if x ≠ y then
      writeAt t (pat.length - 1 - k)
        (some (castInt (pat.length - 1 - p + k))) else some t := by
    rw [suffixPass, hk, Option.bind_some, readAt_of_eq (k := p - k) (by omega),
      hx, Option.bind_some, readAt_of_eq (k := pat.length - 1 - k) (by omega),
      hy, Option.bind_some]
  rw [hrun]
  by_cases hxy : x = y
  · rw [if_neg (not_not.mpr hxy)]
    exact ⟨t, rfl, htlen, fun j hj => hkeep j hj
      (fun h => h.2 (congrArg some hxy))⟩
  · have hne : some x ≠ some y := fun h => hxy (Option.some.inj h)
    rw [if_pos hxy, writeAt_of_eq (k := pat.length - 1 - k) (by omega)
      (by omega)]
    refine ⟨_, rfl, by rw [List.length_set, htlen], ?_⟩
    intro j hj
    by_cases hjk : j = pat.length - 1 - k
    · refine ⟨pat.length - 1 - p + (pat.length - 1 - j),
        ⟨pat.length - 1 - p, delta2From_good ((hgood j hj).mpr ⟨hjk, hne⟩),
          rfl⟩, ?_⟩
      have hval : ((pat.length - 1 - p + (pat.length - 1 - j) : Nat) : Int)
          = pat.length - 1 - p + k := by omega
      rw [hjk, List.getElem?_set_self (by omega), ← hjk, hval]
    · rw [List.getElem?_set_ne (fun h => hjk h.symm)]
      exact hkeep j hj (fun h => hjk h.1)

/-- **DELTA2**: every place has its entry. -/
theorem bm_make_delta2_spec {pat : List UInt8} (hpat : pat ≠ [])
    (hlen : pat.length < 2 ^ 31) :
    ∃ t, bm_make_delta2 pat = some t ∧
      Filled t pat.length (ShiftEntry pat (Delta2 pat)) := by
  have hpos := List.length_pos_iff.mpr hpat
  obtain ⟨s, hs, hslen, hfill⟩ := prefixPass_spec hpat
  obtain ⟨t, ht, hend⟩ := forUp_rule (suffixPass pat)
    (n := pat.length - 1) (a := 0)
    (I := fun p t => Filled t pat.length
      (ShiftEntry pat (Delta2From pat (pat.length - p)))) (s := s.2) (by
      refine ⟨hslen, ?_⟩
      intro j hj
      obtain ⟨v, ⟨lastPrefix, hlp, hv⟩, hat⟩ := hfill j hj
      refine ⟨v, ⟨lastPrefix, Or.inr ⟨?_, hlp⟩, hv⟩, hat⟩
      intro s hs hle
      have hsj := hs.le
      omega)
    (fun p t _ hp h => suffixPass_step hlen (by omega) h)
  refine ⟨t, by rw [bm_make_delta2, hs, Option.bind_some, ht], ?_⟩
  rw [Nat.zero_add, show pat.length - (pat.length - 1) = 1 by omega] at hend
  exact hend

end QcomBmSearch
