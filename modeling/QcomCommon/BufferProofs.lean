import Mathlib.Data.List.Basic

/-! # Buffers with checked accesses, and counted loops

    A buffer is a list; an access outside it has no result.  A buffer that
    is allocated without contents holds `none` in each place not yet
    written.  A counted loop stops at the first access that has no result,
    so a loop with a result made its accesses in range: the loop rules
    (`forUp_rule`, `forDown_rule`) are of total correctness. -/

namespace QcomBuffer

variable {α S : Type}

/-! ## Accesses -/

/-- `s[k]`. -/
def readAt (s : List α) (k : Int) : Option α :=
  if k < 0 then none else s[k.toNat]?

/-- `s[k] = v`. -/
def writeAt (s : List α) (k : Int) (v : α) : Option (List α) :=
  if 0 ≤ k ∧ k < s.length then some (s.set k.toNat v) else none

/-- A buffer of `n` places without contents. -/
def uninit (α : Type) (n : Nat) : List (Option α) := List.replicate n none

/-- The contents of `t[k]`; a place not yet written has none. -/
def readEntry (t : List (Option α)) (k : Int) : Option α := (readAt t k).join

/-- A place in the buffer has contents. -/
theorem exists_at {s : List α} {k : Nat} (h : k < s.length) :
    ∃ c, s[k]? = some c :=
  ⟨s.get ⟨k, h⟩, List.getElem?_eq_getElem h⟩

theorem length_uninit (α : Type) (n : Nat) : (uninit α n).length = n :=
  List.length_replicate

/-- A read inside the buffer. -/
theorem readAt_natCast (s : List α) (k : Nat) : readAt s k = s[k]? := by
  rw [readAt, if_neg (by omega), Int.toNat_natCast]

theorem readAt_of_eq {s : List α} {i : Int} {k : Nat} (h : i = k) :
    readAt s i = s[k]? := by
  rw [h, readAt_natCast]

/-- A write inside the buffer. -/
theorem writeAt_of_eq {s : List α} {i : Int} {k : Nat} (h : i = k)
    (hk : k < s.length) (v : α) : writeAt s i v = some (s.set k v) := by
  rw [writeAt, if_pos (by omega), h, Int.toNat_natCast]

/-- The place behind a front. -/
theorem readAt_append (front : List α) (c : α) (rest : List α) :
    readAt (front ++ c :: rest) front.length = some c := by
  rw [readAt_natCast, List.getElem?_append_right (Nat.le_refl _), Nat.sub_self]
  rfl

/-- A write just behind the front. -/
theorem writeAt_append (front : List α) (c v : α) (rest : List α) :
    writeAt (front ++ c :: rest) front.length v = some (front ++ v :: rest) := by
  have hlt : front.length < (front ++ c :: rest).length := by
    rw [List.length_append, List.length_cons]
    omega
  rw [writeAt_of_eq rfl hlt, List.set_append_right _ _ (Nat.le_refl _),
    Nat.sub_self, List.set_cons_zero]

/-- An entry that was written is read. -/
theorem readEntry_of_eq {t : List (Option α)} {i : Int} {k : Nat} {v : α}
    (h : i = k) (ht : t[k]? = some (some v)) : readEntry t i = some v := by
  rw [readEntry, readAt_of_eq h, ht]
  rfl

/-! ## Counted loops -/

/-- `for (i = a; i < a + n; i++)`. -/
def forUp (body : Nat → S → Option S) : Nat → Nat → S → Option S
  | 0, _, s => some s
  | n + 1, a, s => (body a s).bind (forUp body n (a + 1))

/-- `for (p = n - 1; p >= 0; p--)`. -/
def forDown (body : Nat → S → Option S) : Nat → S → Option S
  | 0, s => some s
  | n + 1, s => (body n s).bind (forDown body n)

/-- **UPWARD LOOP RULE**: where each pass from `a` on has a result and leads
    from the invariant at `i` to the one at `i + 1`, the loop has a result and
    ends in the invariant. -/
theorem forUp_rule (body : Nat → S → Option S) {I : Nat → S → Prop}
    {n a : Nat} {s : S} (h : I a s)
    (hbody : ∀ i s, a ≤ i → i < a + n → I i s →
      ∃ s', body i s = some s' ∧ I (i + 1) s') :
    ∃ s', forUp body n a s = some s' ∧ I (a + n) s' := by
  induction n generalizing a s with
  | zero => exact ⟨s, rfl, h⟩
  | succ n ih =>
      obtain ⟨t, ht, hI⟩ := hbody a s (Nat.le_refl a) (by omega) h
      obtain ⟨s', hs', hend⟩ := ih hI (fun i s hle hlt =>
        hbody i s (by omega) (by omega))
      refine ⟨s', ?_, ?_⟩
      · rw [forUp, ht, Option.bind_some, hs']
      · rw [show a + (n + 1) = a + 1 + n by omega]
        exact hend

/-- **DOWNWARD LOOP RULE**: the invariant at `n` leads to the one at `0`. -/
theorem forDown_rule (body : Nat → S → Option S) {I : Nat → S → Prop}
    {n : Nat} {s : S} (h : I n s)
    (hbody : ∀ p s, p < n → I (p + 1) s → ∃ s', body p s = some s' ∧ I p s') :
    ∃ s', forDown body n s = some s' ∧ I 0 s' := by
  induction n generalizing s with
  | zero => exact ⟨s, rfl, h⟩
  | succ n ih =>
      obtain ⟨t, ht, hI⟩ := hbody n s (Nat.lt_succ_self n) h
      obtain ⟨s', hs', hend⟩ := ih hI (fun p s hlt => hbody p s (by omega))
      refine ⟨s', ?_, hend⟩
      rw [forDown, ht, Option.bind_some, hs']

end QcomBuffer
