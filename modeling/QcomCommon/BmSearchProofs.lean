import QcomCommon.TransitionProofs
import QcomCommon.BmTableProofs

/-! # The Boyer-Moore search

    `bm_search` of `recovery_updater.cpp` on the tables of its pattern.  A
    round compares the pattern with the text from its end and moves it on.
    Every shift is from 1 to the length of the pattern, so the search ends
    and stays in the text (`bm_search_bounds`).  What it skips it skips by
    the first loop of `bm_make_delta2`, whose entry is one more than the
    border it is for: the search is right for the patterns without such an
    entry, and for the others in the texts in which the pattern does not
    occur at that border (`bm_search_iff`). -/

namespace QcomBmSearch

open QcomTransition QcomBuffer QcomSubstring

/-! ## The search -/

/-- `int` addition; one that overflows has no result. -/
def addInt (a b : Int) : Option Int :=
  if -(2 ^ 31) ≤ a + b ∧ a + b < 2 ^ 31 then some (a + b) else none

/-- The loop of the comparison, with `j + 1` and `i`, and where they are at
    its end. -/
def matchLoop (str pat : List UInt8) : Nat → Int → Option (Nat × Int)
  | 0, i => some (0, i)
  | j + 1, i =>
      (readAt str i).bind (fun x =>
        (readAt pat j).bind (fun y =>
          if x = y then matchLoop str pat j (i - 1) else some (j + 1, i)))

/-- One pass of the loop of `bm_search`: it returns, or `i` is moved on. -/
def searchPass (str pat : List UInt8) (delta1 delta2 : List (Option Int))
    (i : Int) : Option (Int ⊕ Int) :=
  (matchLoop str pat pat.length i).bind (fun r =>
    match r with
    | (0, i) => some (.inl (i + 1))
    | (j + 1, i) =>
        (readAt str i).bind (fun c =>
          (readEntry delta1 c.toNat).bind (fun d1 =>
            (readEntry delta2 j).bind (fun d2 =>
              (addInt i (max d1 d2)).map .inr))))

/-- The loop, for at most `n` passes.  `none` is a pass without result, or
    that the passes do not suffice; `some none` is `NULL`. -/
def searchLoop (str pat : List UInt8) (delta1 delta2 : List (Option Int)) :
    Nat → Int → Option (Option Int)
  | 0, _ => none
  | n + 1, i =>
      if i < castInt str.length then
        (searchPass str pat delta1 delta2 i).bind (fun r =>
          match r with
          | .inl o => some (some o)
          | .inr i => searchLoop str pat delta1 delta2 n i)
      else some none

/-- `bm_search`: the position in `str` of what it returns. -/
def bm_search (fuel : Nat) (str pat : List UInt8) : Option (Option Int) :=
  (bm_make_delta1 pat).bind (fun delta1 =>
    (bm_make_delta2 pat).bind (fun delta2 =>
      if pat.length = 0 then some (some 0)
      else searchLoop str pat delta1 delta2 fuel (castInt (pat.length - 1))))

/-- The head of the loop as a system: the values of `i` there. -/
def searchSys (str pat : List UInt8) : TransSys Int Unit where
  init i := i = castInt (pat.length - 1)
  step i _ :=
    if i < castInt str.length then
      (bm_make_delta1 pat).bind (fun delta1 =>
        (bm_make_delta2 pat).bind (fun delta2 =>
          (searchPass str pat delta1 delta2 i).bind (fun r =>
            match r with
            | .inl _ => none
            | .inr i => some i)))
    else none

/-- The search compares the pattern at `a`. -/
def Visits (str pat : List UInt8) (a : Nat) : Prop :=
  Reach (searchSys str pat) (a + pat.length - 1)

/-! ## One pass -/

theorem addInt_of_lt {a b : Int} (h : 0 ≤ a + b) (hlt : a + b < 2 ^ 31) :
    addInt a b = some (a + b) := by
  rw [addInt, if_pos (by omega)]

/-- The comparison ends before the pattern or at the last mismatch. -/
theorem matchLoop_spec {str pat : List UInt8} {a n : Nat}
    (hfit : a + pat.length ≤ str.length) (hn : n ≤ pat.length)
    (h : ∀ k, n ≤ k → k < pat.length → str[a + k]? = pat[k]?) :
    (Occurs pat str a ∧
      matchLoop str pat n (a + n - 1) = some (0, (a : Int) - 1)) ∨
    ∃ p, Mismatch pat str a p ∧
      matchLoop str pat n (a + n - 1) = some (p + 1, ((a + p : Nat) : Int)) := by
  induction n with
  | zero =>
      refine Or.inl ⟨occurs_iff.mpr (fun k hk => h k (Nat.zero_le k) hk), ?_⟩
      rw [matchLoop, Int.natCast_zero, Int.add_zero]
  | succ n ih =>
      obtain ⟨x, hx⟩ := exists_at (show a + n < str.length by omega)
      obtain ⟨y, hy⟩ := exists_at (show n < pat.length by omega)
      have hi : (a : Int) + (n + 1 : Nat) - 1 = (a + n : Nat) := by omega
      rw [matchLoop, hi, readAt_natCast, hx, Option.bind_some, readAt_natCast,
        hy, Option.bind_some]
      by_cases hxy : x = y
      · rw [if_pos hxy, show ((a + n : Nat) : Int) - 1 = a + n - 1 by omega]
        refine ih (by omega) ?_
        intro k hle hk
        by_cases hkn : k = n
        · rw [hkn, hx, hy, hxy]
        · exact h k (by omega) hk
      · rw [if_neg hxy]
        refine Or.inr ⟨n, ⟨by omega, hfit, fun k hlt hk => h k (by omega) hk,
          ?_⟩, rfl⟩
        rw [hx, hy]
        exact fun heq => hxy (Option.some.inj heq)

/-- What the tables of a pattern hold. -/
structure Tables (pat : List UInt8) (delta1 delta2 : List (Option Int)) :
    Prop where
  letter : ∀ c : UInt8, ∃ shift, Delta1 pat c shift ∧
    delta1[c.toNat]? = some (some (castInt shift))
  place : Filled delta2 pat.length (ShiftEntry pat (Delta2 pat))

/-- The shift by the letter skips no occurrence. -/
theorem le_of_delta1 {str pat : List UInt8} {a p s shift : Nat} {c : UInt8}
    (h : Mismatch pat str a p) (hc : str[a + p]? = some c)
    (hd : Delta1 pat c shift) (hpos : 1 ≤ s) (ho : Occurs pat str (a + s)) :
    p + shift ≤ s + (pat.length - 1) := by
  have hlt := h.lt_length
  have hfits := ho.add_length_le (by rintro rfl; cases hlt)
  by_contra hgt
  by_cases hsp : s ≤ p
  · -- the letter is in the pattern at p - s, before its end
    have hletter : pat[p - s]? = some c := by
      rw [← letter_of_occurs h hsp ho, hc]
    rcases hd with ⟨i, hi, hat, hlast, rfl⟩ | ⟨hnone, rfl⟩
    · exact hlast (p - s) (by omega) (by omega) hletter
    · exact hnone (p - s) (by omega) hletter
  · rcases hd with ⟨i, hi, hat, hlast, rfl⟩ | ⟨hnone, rfl⟩ <;> omega

/-- **ONE PASS** at `a`: the pattern is there, or it is moved on by at most its
    length, and beyond the shift of the second table no further than the next
    occurrence. -/
theorem searchPass_spec {str pat : List UInt8}
    {delta1 delta2 : List (Option Int)} {a : Nat}
    (htab : Tables pat delta1 delta2)
    (hlen : str.length + pat.length < 2 ^ 31)
    (hfit : a + pat.length ≤ str.length) :
    (Occurs pat str a ∧ searchPass str pat delta1 delta2 (a + pat.length - 1)
      = some (.inl (a : Int))) ∨
    ∃ p a' shift : Nat, Mismatch pat str a p ∧ Delta2 pat p shift ∧
      searchPass str pat delta1 delta2 (a + pat.length - 1)
        = some (.inr ((a' : Int) + pat.length - 1)) ∧
      a + shift ≤ a' ∧ a' ≤ a + pat.length ∧
      ∀ o, a < o → o < a' → Occurs pat str o → o < a + shift := by
  rcases matchLoop_spec hfit (Nat.le_refl _) (fun k hle hk => by omega) with
    ⟨hocc, hrun⟩ | ⟨p, hmis, hrun⟩
  · refine Or.inl ⟨hocc, ?_⟩
    rw [searchPass, hrun, Option.bind_some]
    dsimp only
    rw [Int.sub_add_cancel]
  · have hp := hmis.lt_length
    obtain ⟨c, hc⟩ := exists_at (show a + p < str.length by omega)
    obtain ⟨s1, hs1, hat1⟩ := htab.letter c
    obtain ⟨v, ⟨s2, hs2, rfl⟩, hat2⟩ := htab.place.2 p hp
    have hpat : pat ≠ [] := by
      rintro rfl
      cases hp
    have hb1 := hs1.bounds hpat
    have hb2 := hs2.bounds hp
    have hcast1 : castInt s1 = s1 := castInt_of_lt (by omega) (by omega)
    have hcast2 : castInt ((s2 + (pat.length - 1 - p) : Nat) : Int)
        = (s2 + (pat.length - 1 - p) : Nat) :=
      castInt_of_lt (by omega) (by omega)
    have hnext : ((a + p : Nat) : Int)
          + max (s1 : Int) (s2 + (pat.length - 1 - p) : Nat)
        = ((a + p + max s1 (s2 + (pat.length - 1 - p)) - (pat.length - 1)
          : Nat) : Int) + pat.length - 1 := by omega
    refine Or.inr ⟨p, a + p + max s1 (s2 + (pat.length - 1 - p))
      - (pat.length - 1), s2, hmis, hs2, ?_, by omega, by omega, ?_⟩
    · rw [searchPass, hrun, Option.bind_some]
      dsimp only
      rw [readAt_natCast, hc, Option.bind_some, readEntry_of_eq rfl hat1,
        Option.bind_some, readEntry_of_eq rfl hat2, Option.bind_some, hcast1,
        hcast2, addInt_of_lt (by omega) (by omega), Option.map_some, hnext]
    · intro o hlt hlt' hocc
      obtain ⟨s, rfl⟩ : ∃ s, o = a + s := ⟨o - a, by omega⟩
      have hle := le_of_delta1 hmis hc hs1 (by omega) hocc
      omega

/-! ## The search to its end -/

/-- The tables `bm_search` makes. -/
theorem tables_exist {pat : List UInt8} (hpat : pat ≠ [])
    (hlen : pat.length < 2 ^ 31) :
    ∃ delta1 delta2, bm_make_delta1 pat = some delta1 ∧
      bm_make_delta2 pat = some delta2 ∧ Tables pat delta1 delta2 := by
  obtain ⟨delta1, h1, hletter⟩ := bm_make_delta1_spec hpat
  obtain ⟨delta2, h2, hplace⟩ := bm_make_delta2_spec hpat hlen
  exact ⟨delta1, delta2, h1, h2, hletter, hplace⟩

/-- At the head of the loop the pattern is in the text where `i` is. -/
theorem lt_castInt_iff {str : List UInt8} {a n : Nat}
    (hlen : str.length < 2 ^ 31) :
    (a : Int) + n - 1 < castInt str.length ↔ a + n ≤ str.length := by
  rw [castInt_of_lt (by omega) (by omega)]
  omega

/-- **THE HEAD OF THE LOOP** with the pattern at `a`: the text is at its end,
    or the pattern is there and returned, or the next pass is at `a'`. -/
theorem head_cases {str pat : List UInt8} {delta1 delta2 : List (Option Int)}
    (h1 : bm_make_delta1 pat = some delta1)
    (h2 : bm_make_delta2 pat = some delta2) (htab : Tables pat delta1 delta2)
    (hlen : str.length + pat.length < 2 ^ 31) (a : Nat) :
    (str.length < a + pat.length ∧
      (searchSys str pat).step (a + pat.length - 1) () = none ∧
      ∀ n, searchLoop str pat delta1 delta2 (n + 1) (a + pat.length - 1)
        = some none) ∨
    (Occurs pat str a ∧ a + pat.length ≤ str.length ∧
      (searchSys str pat).step (a + pat.length - 1) () = none ∧
      ∀ n, searchLoop str pat delta1 delta2 (n + 1) (a + pat.length - 1)
        = some (some (a : Int))) ∨
    ∃ p a' shift : Nat, Mismatch pat str a p ∧ Delta2 pat p shift ∧
      (searchSys str pat).step (a + pat.length - 1) ()
        = some ((a' : Int) + pat.length - 1) ∧
      (∀ n, searchLoop str pat delta1 delta2 (n + 1) (a + pat.length - 1)
        = searchLoop str pat delta1 delta2 n (a' + pat.length - 1)) ∧
      a + shift ≤ a' ∧ a' ≤ a + pat.length ∧
      ∀ o, a < o → o < a' → Occurs pat str o → o < a + shift := by
  have hstep : (searchSys str pat).step (a + pat.length - 1) ()
      = if (a : Int) + pat.length - 1 < castInt str.length then
          (searchPass str pat delta1 delta2 (a + pat.length - 1)).bind
            (fun r => match r with
              | .inl _ => none
              | .inr i => some i)
        else none := by
    simp only [searchSys, h1, h2, Option.bind_some]
  by_cases hfit : a + pat.length ≤ str.length
  · have hin := (lt_castInt_iff (by omega)).mpr hfit
    rw [if_pos hin] at hstep
    rcases searchPass_spec htab hlen hfit with
      ⟨hocc, hrun⟩ | ⟨p, a', shift, hmis, hd, hrun, hle, hle', hskip⟩
    · refine Or.inr (Or.inl ⟨hocc, hfit, ?_, ?_⟩)
      · rw [hstep, hrun, Option.bind_some]
      · intro n
        rw [searchLoop, if_pos hin, hrun, Option.bind_some]
    · refine Or.inr (Or.inr ⟨p, a', shift, hmis, hd, ?_, ?_, hle, hle', hskip⟩)
      · rw [hstep, hrun, Option.bind_some]
      · intro n
        rw [searchLoop, if_pos hin, hrun, Option.bind_some]
  · have hout := mt (lt_castInt_iff (n := pat.length) (a := a)
      (by omega : str.length < 2 ^ 31)).mp hfit
    refine Or.inl ⟨by omega, ?_, ?_⟩
    · rw [hstep, if_neg hout]
    · intro n
      rw [searchLoop, if_neg hout]

/-- What a search from `a` on is to return: an occurrence, or `NULL`. -/
def Returned (str pat : List UInt8) (a : Nat) (r : Option Nat) : Prop :=
  ∀ o ∈ r, a ≤ o ∧ Occurs pat str o

/-- **THE LOOP** from `a` ends, with an occurrence from `a` on or `NULL`: it
    makes no more passes than there are places left. -/
theorem searchLoop_result {str pat : List UInt8}
    {delta1 delta2 : List (Option Int)}
    (h1 : bm_make_delta1 pat = some delta1)
    (h2 : bm_make_delta2 pat = some delta2) (htab : Tables pat delta1 delta2)
    (hlen : str.length + pat.length < 2 ^ 31) (d : Nat) :
    ∀ a, a + d = str.length → ∃ r : Option Nat, Returned str pat a r ∧
      ∀ n, d < n → searchLoop str pat delta1 delta2 n (a + pat.length - 1)
        = some (r.map (fun o : Nat => (o : Int))) := by
  induction d using Nat.strongRecOn with
  | ind d ih =>
      intro a ha
      have hsucc : ∀ {n}, d < n → n = n - 1 + 1 := fun hn => by omega
      rcases head_cases h1 h2 htab hlen a with ⟨-, -, hrun⟩ |
        ⟨hocc, -, -, hrun⟩ | ⟨p, a', shift, hmis, hd, -, hrun, hle, hle', -⟩
      · refine ⟨none, fun o ho => (by cases ho), ?_⟩
        intro n hn
        rw [hsucc hn, hrun, Option.map_none]
      · refine ⟨some a, ?_, ?_⟩
        · rintro o ⟨⟩
          exact ⟨Nat.le_refl a, hocc⟩
        · intro n hn
          rw [hsucc hn, hrun, Option.map_some]
      · have hfit := hmis.fits
        have hpos := (hd.bounds hmis.lt_length).1
        obtain ⟨r, hret, hr⟩ :=
          ih (str.length - a') (by omega) a' (by omega)
        refine ⟨r, ?_, ?_⟩
        · intro o ho
          have hat := hret o ho
          exact ⟨by omega, hat.2⟩
        · intro n hn
          rw [hsucc hn, hrun, hr (n - 1) (by omega)]

theorem castInt_start {pat : List UInt8} (hpat : pat ≠ [])
    (hlen : pat.length < 2 ^ 31) :
    castInt (pat.length - 1) = (0 : Nat) + pat.length - 1 := by
  have hpos := List.length_pos_iff.mpr hpat
  rw [castInt_of_lt (by omega) (by omega)]
  omega

/-- The system starts with the pattern at the head of the text. -/
theorem visits_zero {str pat : List UInt8} (hpat : pat ≠ [])
    (hlen : pat.length < 2 ^ 31) : Visits str pat 0 :=
  .init (castInt_start hpat hlen).symm

/-- `i` is a place of the pattern in the text, and the loop from there is the
    rest of the search. -/
def Resumes (str pat : List UInt8) (delta1 delta2 : List (Option Int))
    (i : Int) : Prop :=
  ∃ a m : Nat, i = a + pat.length - 1 ∧ a ≤ str.length ∧ m ≤ a ∧
    ∀ n, searchLoop str pat delta1 delta2 (n + m) (castInt (pat.length - 1))
      = searchLoop str pat delta1 delta2 n (a + pat.length - 1)

theorem resumes_of_reach {str pat : List UInt8}
    {delta1 delta2 : List (Option Int)}
    (h1 : bm_make_delta1 pat = some delta1)
    (h2 : bm_make_delta2 pat = some delta2) (htab : Tables pat delta1 delta2)
    (hpat : pat ≠ []) (hlen : str.length + pat.length < 2 ^ 31) {i : Int}
    (h : Reach (searchSys str pat) i) :
    Resumes str pat delta1 delta2 i := by
  have hstart := castInt_start hpat (show pat.length < 2 ^ 31 by omega)
  refine reachUnder_inv (I := Resumes str pat delta1 delta2) ?_ ?_ h
  · intro i hi
    exact ⟨0, 0, hi.trans hstart, Nat.zero_le _, Nat.le_refl 0,
      fun n => by rw [hstart, Nat.add_zero]⟩
  · rintro i ⟨⟩ i' ⟨a, m, rfl, ha, hm, hrest⟩ - hstep
    rcases head_cases h1 h2 htab hlen a with ⟨-, hnone, -⟩ |
      ⟨-, -, hnone, -⟩ | ⟨p, a', shift, hmis, hd, hsome, hrun, hle, hle', -⟩
    · rw [hnone] at hstep
      cases hstep
    · rw [hnone] at hstep
      cases hstep
    · rw [hsome] at hstep
      have hfit := hmis.fits
      have hshift := (hd.bounds hmis.lt_length).1
      refine ⟨a', m + 1, (Option.some.inj hstep).symm, by omega, by omega, ?_⟩
      intro n
      have hfuel : n + (m + 1) = n + 1 + m := by omega
      rw [hfuel, hrest, hrun]

theorem bm_search_eq {str pat : List UInt8}
    {delta1 delta2 : List (Option Int)}
    (h1 : bm_make_delta1 pat = some delta1)
    (h2 : bm_make_delta2 pat = some delta2) (hpat : pat ≠ []) (fuel : Nat) :
    bm_search fuel str pat
      = searchLoop str pat delta1 delta2 fuel (castInt (pat.length - 1)) := by
  rw [bm_search, h1, Option.bind_some, h2, Option.bind_some,
    if_neg (fun h => hpat (List.length_eq_zero_iff.mp h))]

/-- `i` and `j` go down together. -/
theorem matchLoop_diff {str pat : List UInt8} {n m : Nat} {i i' : Int}
    (h : matchLoop str pat n i = some (m, i')) : i - n = i' - m := by
  induction n generalizing i with
  | zero =>
      obtain ⟨rfl, rfl⟩ := Prod.mk.inj (Option.some.inj h)
      rfl
  | succ n ih =>
      rw [matchLoop] at h
      obtain ⟨x, -, h⟩ := Option.bind_eq_some_iff.mp h
      obtain ⟨y, -, h⟩ := Option.bind_eq_some_iff.mp h
      by_cases hxy : x = y
      · rw [if_pos hxy] at h
        have hdiff := ih h
        omega
      · rw [if_neg hxy] at h
        obtain ⟨rfl, rfl⟩ := Prod.mk.inj (Option.some.inj h)
        omega

/-- A pass moves the pattern on. -/
theorem step_increases {str pat : List UInt8} (hpat : pat ≠ [])
    (hlen : str.length + pat.length < 2 ^ 31) {i i' : Int}
    (h : Reach (searchSys str pat) i)
    (hs : (searchSys str pat).step i () = some i') : i < i' := by
  obtain ⟨delta1, delta2, h1, h2, htab⟩ :=
    tables_exist hpat (show pat.length < 2 ^ 31 by omega)
  obtain ⟨a, m, rfl, -⟩ := resumes_of_reach h1 h2 htab hpat hlen h
  rcases head_cases h1 h2 htab hlen a with ⟨-, hnone, -⟩ |
    ⟨-, -, hnone, -⟩ | ⟨p, a', shift, hmis, hd, hsome, -, hle, -, -⟩
  · rw [hnone] at hs
    cases hs
  · rw [hnone] at hs
    cases hs
  · rw [hsome] at hs
    obtain rfl := Option.some.inj hs
    have hpos := (hd.bounds hmis.lt_length).1
    omega

/-- **BOUNDS AND TERMINATION**: the tables are made and the suffix lengths
    found without an access out of range, so is each pass of the search, each
    mismatch moves the pattern on, and as many passes as the text has places
    end the search. -/
theorem bm_search_bounds {str pat : List UInt8} (hpat : pat ≠ [])
    (hlen : str.length + pat.length < 2 ^ 31) :
    (∀ p, p < pat.length → ∃ suf_len,
      max_suffix_len pat pat.length p = some suf_len) ∧
    (∃ delta1 delta2, bm_make_delta1 pat = some delta1 ∧
      bm_make_delta2 pat = some delta2 ∧
      ∀ i, Reach (searchSys str pat) i → i < castInt str.length →
        ∃ r, searchPass str pat delta1 delta2 i = some r) ∧
    (∀ (i i_mismatch i' : Int) (j : Nat), Reach (searchSys str pat) i →
      matchLoop str pat pat.length i = some (j + 1, i_mismatch) →
      (searchSys str pat).step i () = some i' →
      i_mismatch + pat.length - 1 - j < i') ∧
    ∃ r, ∀ fuel, str.length < fuel → bm_search fuel str pat = some r := by
  have hpatlen : pat.length < 2 ^ 31 := by omega
  obtain ⟨delta1, delta2, h1, h2, htab⟩ := tables_exist hpat hpatlen
  have hstart := castInt_start hpat hpatlen
  refine ⟨?_, ⟨delta1, delta2, h1, h2, ?_⟩, ?_, ?_⟩
  · intro p hp
    obtain ⟨k, hk, -⟩ := max_suffix_len_spec hp hpatlen
    exact ⟨k, hk⟩
  · intro i hi hlt
    obtain ⟨a, m, rfl, -⟩ := resumes_of_reach h1 h2 htab hpat hlen hi
    have hfit := (lt_castInt_iff (by omega)).mp hlt
    rcases searchPass_spec htab hlen hfit with
      ⟨-, hrun⟩ | ⟨p, a', shift, -, -, hrun, -⟩
    · exact ⟨_, hrun⟩
    · exact ⟨_, hrun⟩
  · intro i i_mismatch i' j hi hm hs
    have hlt := step_increases hpat hlen hi hs
    have hdiff := matchLoop_diff hm
    omega
  · obtain ⟨r, -, hr⟩ := searchLoop_result h1 h2 htab hlen str.length 0
      (Nat.zero_add _)
    refine ⟨r.map (fun o : Nat => (o : Int)), ?_⟩
    intro fuel hfuel
    rw [bm_search_eq h1 h2 hpat, hstart, hr fuel hfuel]

theorem bm_search_bounds_aba :
    (∀ p, p < 3 → ∃ suf_len, max_suffix_len [97, 98, 97] 3 p = some suf_len) ∧
    ∃ r, ∀ fuel, 5 < fuel →
      bm_search fuel [97, 99, 97, 98, 97] [97, 98, 97] = some r :=
  have h := @bm_search_bounds [97, 99, 97, 98, 97] [97, 98, 97] (by decide)
    (by decide)
  ⟨h.1, h.2.2.2⟩

/-! ## What the search skips -/

/-- The entry for a mismatch at `p` is one more than the border `q` it is
    for: `p` is no border itself, `q` is the first one behind it, and no good
    shift takes the entry. -/
structure Overshoots (pat : List UInt8) (p q : Nat) : Prop where
  lt : p < q
  lt_length : q < pat.length
  border : Border pat q
  least : ∀ r, p ≤ r → r < q → ¬ Border pat r
  no_shift : ∀ s, ¬ GoodShift pat p s

/-- At `a` the pattern is moved past an occurrence. -/
def Skips (str pat : List UInt8) (a : Nat) : Prop :=
  ∃ p q, Mismatch pat str a p ∧ Overshoots pat p q ∧ Occurs pat str (a + q)

/-- The search returns the first occurrence, or `NULL` if there is none. -/
def SearchRight (str pat : List UInt8) : Prop :=
  ∃ r : Option Nat, Finds pat str r ∧ ∀ fuel, str.length < fuel →
    bm_search fuel str pat = some (r.map (fun o : Nat => (o : Int)))

/-- An occurrence within the shift of the second table is one at the border
    the entry is for. -/
theorem overshoots_of_skipped {str pat : List UInt8} {a p s shift : Nat}
    (h0 : 0 ∉ pat) (hmis : Mismatch pat str a p) (hd : Delta2 pat p shift)
    (hpos : 1 ≤ s) (hlt : s < shift) (ho : Occurs pat str (a + s)) :
    Overshoots pat p s := by
  have hp := hmis.lt_length
  have hshift := hd.bounds hp
  obtain ⟨hgood, hborder⟩ := shift_of_occurs hmis hpos ho
  rcases hd with ⟨hg, -, hleast⟩ | ⟨hnone, hlp⟩
  · -- a good shift is the least of them, and no border passes it
    have hle := hg.le
    exact absurd (hleast s (hgood (by omega)) hpos) (by omega)
  · have hno : ∀ s, ¬ GoodShift pat p s := fun s hs => hnone s hs hs.pos
    have hps : p < s := by
      by_contra hle
      exact hno s (hgood (by omega))
    have hb := hborder hps
    rcases hlp with ⟨q, hpq, hq, -, hleast, rfl⟩ | ⟨hall, -⟩
    · obtain rfl : s = q := by
        by_contra hne
        exact hleast s (by omega) (by omega) ((prefixAt_iff h0 s).mpr hb)
      exact ⟨hps, hq, hb, fun r hle hlt hr =>
        hleast r hle hlt ((prefixAt_iff h0 r).mpr hr), hno⟩
    · exact absurd ((prefixAt_iff h0 s).mpr hb) (hall s (by omega) (by omega))

theorem shift_of_overshoots {pat : List UInt8} {p q shift : Nat}
    (h0 : 0 ∉ pat) (h : Overshoots pat p q) (hd : Delta2 pat p shift) :
    shift = q + 1 := by
  have hat := (prefixAt_iff h0 q).mpr h.border
  have hpq := h.lt
  rcases hd with ⟨hg, -, -⟩ | ⟨-, ⟨r, hpr, hr, hatr, hleast, rfl⟩ | ⟨hall, -⟩⟩
  · exact absurd hg (h.no_shift shift)
  · obtain rfl : r = q := by
      by_contra hne
      rcases Nat.lt_or_gt_of_ne hne with hlt | hgt
      · exact h.least r hpr hlt ((prefixAt_iff h0 r).mp hatr)
      · exact hleast q (by omega) hgt hat
    rfl
  · exact absurd hat (hall q (by omega) h.lt_length)

/-- Where nothing is skipped, what the loop returns is not after any
    occurrence. -/
theorem searchLoop_first {str pat : List UInt8}
    {delta1 delta2 : List (Option Int)} (h0 : 0 ∉ pat)
    (h1 : bm_make_delta1 pat = some delta1)
    (h2 : bm_make_delta2 pat = some delta2) (htab : Tables pat delta1 delta2)
    (hpat : pat ≠ []) (hlen : str.length + pat.length < 2 ^ 31)
    (hskip : ∀ a, Visits str pat a → ¬ Skips str pat a) {n a : Nat}
    {r : Option Nat} (ha : Visits str pat a)
    (hr : searchLoop str pat delta1 delta2 n (a + pat.length - 1)
      = some (r.map (fun o : Nat => (o : Int)))) {o : Nat} (hao : a ≤ o)
    (ho : Occurs pat str o) : ∃ o' ∈ r, o' ≤ o := by
  induction n generalizing a with
  | zero => cases hr
  | succ n ih =>
      have hfits := ho.add_length_le hpat
      rcases head_cases h1 h2 htab hlen a with ⟨hend, -, -⟩ |
        ⟨-, -, -, hrun⟩ |
        ⟨p, a', shift, hmis, hd, hstep, hrun, hle, hle', hpass⟩
      · omega
      · rw [hrun] at hr
        obtain ⟨o', ho', heq⟩ := Option.map_eq_some_iff.mp
          (Option.some.inj hr).symm
        exact ⟨o', ho', by omega⟩
      · rw [hrun] at hr
        have hne : a ≠ o := by
          rintro rfl
          exact hmis.not_occurs ho
        -- an occurrence before a' would be a skip
        have hnext : a' ≤ o := by
          by_contra hlt
          obtain ⟨s, rfl⟩ : ∃ s, o = a + s := ⟨o - a, by omega⟩
          have hs := hpass (a + s) (by omega) (by omega) ho
          exact hskip a ha ⟨p, s, hmis, overshoots_of_skipped h0 hmis hd
            (by omega) (by omega) ho, ho⟩
        exact ih (.step ha trivial hstep) hr hnext

/-- A search that skips an occurrence does not return the first one. -/
theorem not_searchRight_of_skips {str pat : List UInt8} (h0 : 0 ∉ pat)
    (hpat : pat ≠ []) (hlen : str.length + pat.length < 2 ^ 31) {a : Nat}
    (ha : Visits str pat a) (hskip : Skips str pat a) :
    ¬ SearchRight str pat := by
  rintro ⟨r, hfinds, hr⟩
  obtain ⟨p, q, hmis, hover, hocc⟩ := hskip
  obtain ⟨delta1, delta2, h1, h2, htab⟩ :=
    tables_exist hpat (show pat.length < 2 ^ 31 by omega)
  obtain ⟨a₀, m, heq, -, hm, hrest⟩ := resumes_of_reach h1 h2 htab hpat hlen ha
  obtain rfl : a₀ = a := by omega
  have hfit := hmis.fits
  -- the loop from a on returns what the search returns
  have hloop : searchLoop str pat delta1 delta2 (str.length + 1)
      (a₀ + pat.length - 1) = some (r.map (fun o : Nat => (o : Int))) := by
    rw [← hrest, ← bm_search_eq h1 h2 hpat]
    exact hr _ (by omega)
  rcases head_cases h1 h2 htab hlen a₀ with ⟨hend, -, -⟩ |
    ⟨hocc', -, -, -⟩ | ⟨p', a', shift, hmis', hd, -, hrun, hle, hle', -⟩
  · omega
  · exact hmis.not_occurs hocc'
  · obtain rfl := mismatch_unique hmis hmis'
    obtain rfl := shift_of_overshoots h0 hover hd
    obtain ⟨r', hret, hr'⟩ := searchLoop_result h1 h2 htab hlen
      (str.length - a') a' (by omega)
    have hsame : r' = r := by
      rw [hrun, hr' str.length (by omega)] at hloop
      exact Option.map_injective (fun _ _ h => Int.ofNat_inj.mp h)
        (Option.some.inj hloop)
    subst hsame
    cases r' with
    | none => exact hfinds _ hocc
    | some o =>
        have hafter := (hret o rfl).1
        have hfirst := hfinds.2 _ hocc
        omega

/-- A search that skips nothing returns the first occurrence. -/
theorem searchRight_of_not_skips {str pat : List UInt8} (h0 : 0 ∉ pat)
    (hpat : pat ≠ []) (hlen : str.length + pat.length < 2 ^ 31)
    (hskip : ∀ a, Visits str pat a → ¬ Skips str pat a) :
    SearchRight str pat := by
  have hpatlen : pat.length < 2 ^ 31 := by omega
  obtain ⟨delta1, delta2, h1, h2, htab⟩ := tables_exist hpat hpatlen
  have hstart := castInt_start hpat hpatlen
  obtain ⟨r, hret, hr⟩ := searchLoop_result h1 h2 htab hlen str.length 0
    (Nat.zero_add _)
  have hfirst : ∀ o, Occurs pat str o → ∃ o' ∈ r, o' ≤ o := by
    intro o ho
    exact searchLoop_first h0 h1 h2 htab hpat hlen hskip
      (visits_zero hpat hpatlen) (hr _ (Nat.lt_succ_self _)) (Nat.zero_le o) ho
  refine ⟨r, ?_, ?_⟩
  · cases r with
    | none =>
        intro o ho
        obtain ⟨o', ho', -⟩ := hfirst o ho
        cases ho'
    | some o =>
        refine ⟨(hret o rfl).2, ?_⟩
        intro o' ho'
        obtain ⟨o'', ⟨⟩, hle⟩ := hfirst o' ho'
        exact hle
  · intro fuel hfuel
    rw [bm_search_eq h1 h2 hpat, hstart, hr fuel hfuel]

/-- The search for a pattern without a proper border is right. -/
theorem searchRight_of_borderless {str pat : List UInt8} (h0 : 0 ∉ pat)
    (hpat : pat ≠ []) (hlen : str.length + pat.length < 2 ^ 31)
    (hborder : ∀ q, 0 < q → q < pat.length → ¬ Border pat q) :
    SearchRight str pat := by
  refine searchRight_of_not_skips h0 hpat hlen ?_
  rintro a - ⟨p, q, -, hover, -⟩
  have hlt := hover.lt
  exact hborder q (by omega) hover.lt_length hover.border

/-- **WHEN THE SEARCH IS RIGHT**: for a pattern without NUL, in every text if
    and only if no entry of its table overshoots its border, in a text that
    fits beside it; and in one text, if and only if the search compares the
    pattern nowhere where it is moved past an occurrence. -/
theorem bm_search_iff {pat : List UInt8} (hpat : pat ≠ []) (h0 : 0 ∉ pat) :
    ((∀ str : List UInt8, str.length + pat.length < 2 ^ 31 →
        SearchRight str pat) ↔
      ∀ p q, Overshoots pat p q → 2 ^ 31 ≤ q + 2 * pat.length) ∧
    ∀ str : List UInt8, str.length + pat.length < 2 ^ 31 →
      (SearchRight str pat ↔ ∀ a, Visits str pat a → ¬ Skips str pat a) := by
  refine ⟨⟨?_, ?_⟩, ?_⟩
  · intro hall p q hover
    by_contra hlt
    have hpq := hover.lt
    have hq := hover.lt_length
    -- the text with another letter at p before the occurrence at q
    obtain ⟨c, hp⟩ := exists_at (show p < pat.length by omega)
    have hne : some (c + 1) ≠ pat[p]? := by
      rw [hp]
      intro heq
      have hc := Option.some.inj heq
      exact absurd hc (by simp)
    have htext : (borderText pat p q (c + 1)).length = q + pat.length :=
      length_borderText (Nat.le_of_lt hq)
    have hlen : (borderText pat p q (c + 1)).length + pat.length < 2 ^ 31 := by
      omega
    refine not_searchRight_of_skips h0 hpat hlen
      (visits_zero hpat (by omega)) ⟨p, q, ?_, hover, ?_⟩ (hall _ hlen)
    · exact mismatch_borderText hpq hq hover.border hne
    · rw [Nat.zero_add]
      exact occurs_borderText (Nat.le_of_lt hq)
  · intro hover str hlen
    refine searchRight_of_not_skips h0 hpat hlen ?_
    rintro a - ⟨p, q, -, hpq, hocc⟩
    have hfits := hocc.add_length_le hpat
    have hbig := hover p q hpq
    omega
  · intro str hlen
    constructor
    · intro hright a ha hskip
      exact not_searchRight_of_skips h0 hpat hlen ha hskip hright
    · exact searchRight_of_not_skips h0 hpat hlen

theorem bm_search_iff_aba :
    (∀ str : List UInt8, str.length + 3 < 2 ^ 31 →
        SearchRight str [97, 98, 97]) ↔
      ∀ p q, Overshoots [97, 98, 97] p q → 2 ^ 31 ≤ q + 2 * 3 :=
  (@bm_search_iff [97, 98, 97] (by decide) (by decide)).1

/-- The run on `acaba`: the mismatch at the `b` moves the pattern past the
    text. -/
theorem bm_search_aba_run :
    bm_search 6 [97, 99, 97, 98, 97] [97, 98, 97] = some none := by
  obtain ⟨delta1, h1, hall⟩ :=
    bm_make_delta1_spec (show ([97, 98, 97] : List UInt8) ≠ [] by decide)
  obtain ⟨shift, hd, hat⟩ := hall 99
  have hshift : shift = 3 := by
    rcases hd with ⟨i, -, hc, -⟩ | ⟨-, hlen⟩
    · exact absurd (List.mem_of_getElem? hc) (by decide)
    · exact hlen
  have hread : readEntry delta1 99 = some 3 := by
    show (delta1[(99 : UInt8).toNat]?).join = some 3
    rw [hat, hshift]
    rfl
  have h2 : bm_make_delta2 [97, 98, 97] = some [some 3, some 4, some 1] := by
    decide +kernel
  have hpass : searchPass [97, 99, 97, 98, 97] [97, 98, 97] delta1
      [some 3, some 4, some 1] 2 = some (.inr 5) := by
    show (readEntry delta1 99).bind _ = _
    rw [hread]
    decide
  rw [bm_search_eq h1 h2 (by decide)]
  show (searchPass _ _ delta1 _ 2).bind _ = _
  rw [hpass]
  rfl

/-- In `acaba` the search finds no `aba`. -/
theorem bm_search_misses_aba :
    ¬ (∀ str pat : List UInt8, pat ≠ [] → 0 ∉ pat →
      str.length + pat.length < 2 ^ 31 → SearchRight str pat) := by
  intro hall
  obtain ⟨r, hfinds, hr⟩ := hall [97, 99, 97, 98, 97] [97, 98, 97] (by decide)
    (by decide) (by decide)
  have hrun := bm_search_aba_run
  rw [hr 6 (by decide)] at hrun
  have hnone := Option.map_eq_none_iff.mp (Option.some.inj hrun)
  subst hnone
  exact hfinds 2 (by decide)

end QcomBmSearch
