import QcomCommon.LocCfgProofs

/-! # A configuration as a text and as a file

    `loc_update_conf` reads the lines of a text without their newlines, and
    starts its count with one record off; `loc_read_conf_r` reads the lines
    of a file with their newlines, and counts the whole table.  So they
    differ in two ways: the last line that sets an entry is left out when
    every entry is set, and a line whose value is only its newline sets an
    entry from a file and none from a text.

    Both assign line by line (`read_assigns`, `update_assigns`), and
    `paths_agree_iff` says for which texts they leave the same values. -/

namespace QcomLocCfg

open QcomAssign
open QcomCString (strOf)

variable {Place Double : Type} [DecidableEq Place]

/-! ## Tokens -/

/-- Before a token stand delimiters only, and behind it the end or a
    delimiter. -/
theorem strtok_pieces {delim : UInt8} {s tok rest : List UInt8}
    (h : strtok_r delim s = some (tok, rest)) :
    ∃ lead tail, s = lead ++ (tok ++ tail) ∧ (∀ c ∈ lead, c = delim) ∧
      tok ≠ [] ∧ delim ∉ tok ∧
      ((tail = [] ∧ rest = []) ∨ tail = delim :: rest) := by
  rw [strtok_r] at h
  cases hd : s.dropWhile (· == delim) with
  | nil =>
      rw [hd] at h
      cases h
  | cons c t =>
      rw [hd] at h
      obtain ⟨rfl, rfl⟩ := Prod.mk.injEq .. ▸ Option.some.inj h
      have hc : (c != delim) = true := by
        rw [bne, head_dropWhile hd]
        rfl
      refine ⟨s.takeWhile (· == delim), (c :: t).dropWhile (· != delim), ?_,
        fun b hb => ?_, ?_, fun hmem => ?_, ?_⟩
      · rw [List.takeWhile_append_dropWhile, ← hd,
          List.takeWhile_append_dropWhile]
      · have heq := List.mem_takeWhile_imp hb
        exact beq_iff_eq.mp heq
      · rw [List.takeWhile_cons, if_pos hc]
        exact List.cons_ne_nil _ _
      · have hno := List.mem_takeWhile_imp hmem
        simp at hno
      · cases ht : (c :: t).dropWhile (· != delim) with
        | nil => exact Or.inl ⟨rfl, rfl⟩
        | cons b u =>
            have hb : b = delim := by simpa using head_dropWhile ht
            subst hb
            exact Or.inr rfl

/-- And what stands so is a token. -/
theorem strtok_of_pieces {delim : UInt8} {lead tok tail rest : List UInt8}
    (hlead : ∀ c ∈ lead, c = delim) (hne : tok ≠ []) (htok : delim ∉ tok)
    (htail : (tail = [] ∧ rest = []) ∨ tail = delim :: rest) :
    strtok_r delim (lead ++ (tok ++ tail)) = some (tok, rest) := by
  have hdrop : (lead ++ (tok ++ tail)).dropWhile (· == delim)
      = tok ++ tail := by
    rw [List.dropWhile_append_of_pos fun c hc => beq_iff_eq.mpr (hlead c hc)]
    cases tok with
    | nil => exact absurd rfl hne
    | cons c t =>
        have hc : (c == delim) = false :=
          beq_false_of_ne fun h => htok (h ▸ List.mem_cons_self)
        rw [List.cons_append, List.dropWhile_cons, hc]
        rfl
  have hall : ∀ c ∈ tok, (c != delim) = true := fun c hc =>
    bne_iff_ne.mpr fun h => htok (h ▸ hc)
  have hsome : strtok_r delim (lead ++ (tok ++ tail))
      = some ((tok ++ tail).takeWhile (· != delim),
        ((tok ++ tail).dropWhile (· != delim)).drop 1) := by
    rw [strtok_r, hdrop]
    cases tok with
    | nil => exact absurd rfl hne
    | cons c t => rfl
  rw [hsome, List.takeWhile_append_of_pos hall,
    List.dropWhile_append_of_pos hall]
  rcases htail with ⟨rfl, rfl⟩ | rfl
  · simp
  · simp

/-! ## A line with its newline -/

/-- A character at the end that is no delimiter joins the string that is
    left, or the token if that is the whole string. -/
theorem strtok_append {delim c : UInt8} {l tok rest : List UInt8}
    (hc : c ≠ delim) (h : strtok_r delim l = some (tok, rest)) :
    strtok_r delim (l ++ [c]) = some (tok, rest ++ [c]) ∨
      (rest = [] ∧ strtok_r delim (l ++ [c]) = some (tok ++ [c], [])) := by
  obtain ⟨lead, tail, rfl, hlead, hne, htok, htail⟩ := strtok_pieces h
  rcases htail with ⟨rfl, rfl⟩ | rfl
  · -- no delimiter follows
    have hjoined : delim ∉ tok ++ [c] := by
      rw [List.mem_append, List.mem_singleton, not_or]
      exact ⟨htok, Ne.symm hc⟩
    have hpieces := strtok_of_pieces hlead
      (List.append_ne_nil_of_left_ne_nil hne [c]) hjoined (Or.inl ⟨rfl, rfl⟩)
    refine Or.inr ⟨rfl, ?_⟩
    rw [← hpieces, List.append_assoc, List.append_nil, List.append_nil]
  · have hpieces := strtok_of_pieces hlead hne htok
      (Or.inr (rfl : delim :: (rest ++ [c]) = _))
    refine Or.inl ?_
    rw [← hpieces, List.append_assoc, List.append_assoc]
    rfl

/-- White space at the end is trimmed, if there is anything else. -/
theorem trim_append {s : List UInt8} {c : UInt8} (hc : isspace c = true)
    (h : s.all isspace = false) :
    loc_util_trim_space (s ++ [c]) = loc_util_trim_space s := by
  have hne : s.dropWhile isspace ≠ [] := by
    intro hnil
    rw [List.dropWhile_eq_nil_iff] at hnil
    rw [List.all_eq_true.mpr hnil] at h
    cases h
  have hall : ((s ++ [c]).all isspace) = false := by
    rw [List.all_append, h]
    rfl
  rw [loc_util_trim_space, loc_util_trim_space, hall, h, List.dropWhile_append]
  cases hd : s.dropWhile isspace with
  | nil => exact absurd hd hne
  | cons a t =>
      show ((a :: t) ++ [c]).rdropWhile isspace = (a :: t).rdropWhile isspace
      rw [List.rdropWhile_concat_pos _ _ _ hc]

theorem isspace_newline : isspace NEWLINE = true := by decide

/-- The operands with the newline: the same name, and the same value unless
    that is blank; then it may have got the newline. -/
theorem operands_newline {l k v : List UInt8}
    (h : operands l = some (k, v)) :
    operands (l ++ [NEWLINE]) = some (k, v) ∨
      (v.all isspace = true ∧
        operands (l ++ [NEWLINE]) = some (k, v ++ [NEWLINE])) := by
  obtain ⟨⟨t, r⟩, ht, h⟩ := Option.bind_eq_some_iff.mp h
  obtain ⟨⟨u, r'⟩, hu, h⟩ := Option.map_eq_some_iff.mp h
  obtain ⟨rfl, rfl⟩ := Prod.mk.injEq .. ▸ h
  have heq : NEWLINE ≠ EQ := by decide
  -- something follows the name
  have ht' : strtok_r EQ (l ++ [NEWLINE]) = some (t, r ++ [NEWLINE]) := by
    rcases strtok_append heq ht with h' | ⟨rfl, -⟩
    · exact h'
    · cases hu
  have hvalue : ∀ w x, strtok_r EQ (r ++ [NEWLINE]) = some (w, x) →
      operands (l ++ [NEWLINE])
        = some (loc_util_trim_space t, loc_util_trim_space w) := by
    intro w x hw
    rw [operands, ht', Option.bind_some]
    show (strtok_r EQ (r ++ [NEWLINE])).map _ = _
    rw [hw]
    rfl
  rcases strtok_append heq hu with h' | ⟨-, h'⟩
  · exact Or.inl (hvalue _ _ h')
  · rw [hvalue _ _ h']
    cases hall : u.all isspace with
    | false => exact Or.inl (by rw [trim_append isspace_newline hall])
    | true =>
        have happ : (u ++ [NEWLINE]).all isspace = true := by
          rw [List.all_append, hall]
          decide
        have hu' : loc_util_trim_space u = u := if_pos hall
        have happ' : loc_util_trim_space (u ++ [NEWLINE]) = u ++ [NEWLINE] :=
          if_pos happ
        rw [hu', happ']
        exact Or.inr ⟨hall, rfl⟩

/-! ## The place of a key -/

/-- The place that a line with the key sets. -/
def placeOf (table : List (loc_param_s_type Place)) (key : List UInt8) :
    Option Place :=
  table.findSome? (fun e =>
    if e.param_name = key ∧
        (e.param_type = 's' ∨ e.param_type = 'n' ∨ e.param_type = 'f')
      then e.param_ptr else none)

omit [DecidableEq Place] in
/-- An entry of a known type has a value to store, whatever the line says. -/
theorem valueOf_isSome (param_type : Char)
    (config_value : loc_param_v_type Double) :
    (valueOf param_type config_value).isSome = true ↔
      (param_type = 's' ∨ param_type = 'n' ∨ param_type = 'f') := by
  rw [valueOf]
  by_cases hs : param_type = 's'
  · simp [hs]
  · by_cases hn : param_type = 'n'
    · simp [hn]
    · by_cases hf : param_type = 'f'
      · simp [hf]
      · simp [hs, hn, hf]

omit [DecidableEq Place] in
theorem entryAssign_place (lc : Strto Double) (r : List UInt8 × List UInt8)
    (e : loc_param_s_type Place) :
    (entryAssign lc r e).map Prod.fst
      = if e.param_name = r.1 ∧
          (e.param_type = 's' ∨ e.param_type = 'n' ∨ e.param_type = 'f')
        then e.param_ptr else none := by
  rw [entryAssign]
  have hsome := valueOf_isSome e.param_type (configValue lc r)
  by_cases hn : e.param_name = r.1
  · rw [if_pos hn]
    cases hv : valueOf e.param_type (configValue lc r) with
    | none =>
        have htype : ¬ (e.param_type = 's' ∨ e.param_type = 'n' ∨
            e.param_type = 'f') := by
          intro ht
          have := hsome.mpr ht
          rw [hv] at this
          cases this
        rw [if_neg (fun h => htype h.2)]
        cases e.param_ptr <;> rfl
    | some v =>
        have htype := hsome.mp (by rw [hv]; rfl)
        rw [if_pos ⟨hn, htype⟩]
        cases e.param_ptr <;> rfl
  · rw [if_neg hn, if_neg (fun h => hn h.1)]
    rfl

omit [DecidableEq Place] in
/-- **THE PLACE** a line sets depends on its key alone. -/
theorem assign_place (lc : Strto Double)
    (table : List (loc_param_s_type Place)) (l : List UInt8) :
    (assign lc table l).map Prod.fst
      = (operands l).bind (fun r => placeOf table r.1) := by
  rw [assign]
  cases operands l with
  | none => rfl
  | some r =>
      show (table.findSome? (entryAssign lc r)).map Prod.fst
        = placeOf table r.1
      rw [placeOf]
      induction table with
      | nil => rfl
      | cons e table ih =>
          rw [List.findSome?_cons, List.findSome?_cons,
            ← entryAssign_place lc r e]
          cases entryAssign lc r e with
          | none => exact ih
          | some w => rfl

omit [DecidableEq Place] in
/-- With the newline a line sets the place it sets without. -/
theorem assign_newline {lc : Strto Double}
    {table : List (loc_param_s_type Place)} {l : List UInt8}
    {w : Place × Value Double} (h : assign lc table l = some w) :
    ∃ v, assign lc table (l ++ [NEWLINE]) = some (w.1, v) := by
  have hplace := assign_place lc table (l ++ [NEWLINE])
  have hplace' := assign_place lc table l
  rw [h] at hplace'
  have hsame : (operands (l ++ [NEWLINE])).bind (fun r => placeOf table r.1)
      = (operands l).bind (fun r => placeOf table r.1) := by
    cases hop : operands l with
    | none =>
        rw [hop] at hplace'
        cases hplace'
    | some r =>
        rcases operands_newline hop with h' | ⟨-, h'⟩
        · rw [h']
        · rw [h']
          rfl
  rw [hsame, ← hplace'] at hplace
  obtain ⟨⟨p, v⟩, hv, rfl⟩ := Option.map_eq_some_iff.mp hplace
  exact ⟨v, hv⟩

omit [DecidableEq Place] in
/-- A line of a text sets the place it sets without its newline. -/
theorem assign_line {lc : Strto Double}
    {table : List (loc_param_s_type Place)} {l s : List UInt8}
    (hl : l ∈ rawLines s) {w : Place × Value Double}
    (h : assign lc table (chomp l) = some w) :
    ∃ v, assign lc table l = some (w.1, v) := by
  rcases mem_rawLines hl with hnew | hsame
  · obtain ⟨v, hv⟩ := assign_newline h
    exact ⟨v, hnew ▸ hv⟩
  · exact ⟨w.2, hsame ▸ h⟩

/-! ## The text -/

/-- A token is the first line that is not empty. -/
theorem filterMap_lines {α : Type} {g : List UInt8 → Option α}
    (hg : g [] = none) (s : List UInt8) :
    (rawLines s).filterMap (fun l => g (chomp l))
      = match strtok_r NEWLINE s with
        | none => []
        | some (tok, rest) =>
            (g tok).toList ++ (rawLines rest).filterMap (fun l => g (chomp l))
      := by
  induction s with
  | nil => rfl
  | cons c s ih =>
      by_cases hc : c = NEWLINE
      · subst hc
        have hskip : strtok_r NEWLINE (NEWLINE :: s) = strtok_r NEWLINE s := by
          simp [strtok_r]
        rw [hskip, ← ih, rawLines, if_pos rfl, List.filterMap_cons]
        have hempty : chomp [NEWLINE] = [] := rfl
        rw [hempty, hg]
      · have hbeq : (c == NEWLINE) = false := beq_false_of_ne hc
        have htok : strtok_r NEWLINE (c :: s)
            = some ((c :: s).takeWhile (· != NEWLINE), otherLines (c :: s)) := by
          simp [strtok_r, otherLines, hbeq]
        rw [htok, rawLines_eq (List.cons_ne_nil c s), List.filterMap_cons,
          chomp_firstLine]
        dsimp only
        cases g ((c :: s).takeWhile (· != NEWLINE)) <;> rfl

/-- What is left after a token is shorter. -/
theorem strtok_length {delim : UInt8} {s tok rest : List UInt8}
    (h : strtok_r delim s = some (tok, rest)) : rest.length < s.length := by
  obtain ⟨lead, tail, rfl, -, hne, -, htail⟩ := strtok_pieces h
  have hpos : 0 < tok.length := List.length_pos_iff.mpr hne
  rw [List.length_append, List.length_append]
  rcases htail with ⟨rfl, rfl⟩ | rfl
  · rw [List.length_nil]
    omega
  · rw [List.length_cons]
    omega

/-- **READING A TEXT** assigns what its lines say without their newlines, as
    many as the count lets. -/
theorem updateLoop_assigns (lc : Strto Double) (table : Table Place)
    (rounds : Nat) : ∀ (num_params : UInt32) (s : List UInt8) (ret : Int)
      (mem : Memory Place Double), s.length < rounds →
      (updateLoop lc table.entries rounds num_params (strtok_r NEWLINE s) ret
          mem).2.value
        = putAll mem.value (((rawLines s).filterMap (fun l =>
            assign lc table.entries (chomp l))).take num_params.toNat) := by
  induction rounds with
  | zero => exact fun _ _ _ _ h => absurd h (Nat.not_lt_zero _)
  | succ rounds ih =>
      intro num_params s ret mem hrounds
      rw [filterMap_lines (assign_nil lc table.entries) s]
      cases htok : strtok_r NEWLINE s with
      | none =>
          rw [updateLoop, List.take_nil]
          rfl
      | some line =>
          obtain ⟨input_buf, saveptr⟩ := line
          rw [updateLoop]
          dsimp only
          by_cases hnp : num_params = 0
          · rw [if_pos hnp, hnp]
            rfl
          · rw [if_neg hnp]
            obtain ⟨hvalue, hret⟩ := fill_spec lc table input_buf mem
            have hlength : saveptr.length < rounds := by
              have hlt := strtok_length htok
              omega
            rw [ih _ _ _ _ hlength, hvalue, hret]
            cases hassign : assign lc table.entries input_buf with
            | none =>
                have hsame : num_params - (if (none :
                    Option (Place × Value Double)).isSome = true then 1 else 0)
                    = num_params := UInt32.sub_zero _
                rw [hsame]
                rfl
            | some w =>
                have hle := one_le_of_ne_zero hnp
                have hone : (num_params - (if (some w).isSome = true then 1
                    else 0)).toNat = num_params.toNat - 1 :=
                  UInt32.toNat_sub_of_le _ _ hle
                have hpos : num_params.toNat = num_params.toNat - 1 + 1 := by
                  have := UInt32.le_iff_toNat_le.mp hle
                  have h1 : (1 : UInt32).toNat = 1 := rfl
                  omega
                rw [hone]
                conv_rhs => rw [hpos]
                rfl

/-! ## The two readers -/

/-- The key of a line that has two operands. -/
def keyOf (l : List UInt8) : Option (List UInt8) := (operands l).map Prod.fst

/-- A configuration text: without NUL, of short lines, each key at most
    once. -/
structure ConfText where
  bytes : List UInt8
  no_nul : NUL ∉ bytes
  lines_short : ∀ l ∈ rawLines bytes,
    (chomp l).length < LOC_MAX_PARAM_LINE - 1
  keys_nodup : ((rawLines bytes).filterMap keyOf).Nodup

omit [DecidableEq Place] in
/-- The lines that set an entry are those whose key has a place. -/
theorem length_assigns (lc : Strto Double)
    (table : List (loc_param_s_type Place)) (ls : List (List UInt8)) :
    (ls.filterMap (assign lc table)).length
      = ((ls.filterMap keyOf).filter
          (fun k => (placeOf table k).isSome)).length := by
  induction ls with
  | nil => rfl
  | cons l ls ih =>
      have hplace := assign_place lc table l
      rw [List.filterMap_cons, List.filterMap_cons, keyOf]
      cases hop : operands l with
      | none =>
          rw [hop] at hplace
          rw [Option.map_eq_none_iff.mp hplace]
          exact ih
      | some r =>
          rw [hop, Option.bind_some] at hplace
          dsimp only [Option.map_some]
          cases ha : assign lc table l with
          | none =>
              rw [ha] at hplace
              have hno : ¬ (placeOf table r.1).isSome = true := by
                rw [← hplace]
                exact Bool.false_ne_true
              rw [List.filter_cons, if_neg hno]
              exact ih
          | some w =>
              rw [ha] at hplace
              have hyes : (placeOf table r.1).isSome = true := by
                rw [← hplace]
                rfl
              rw [List.filter_cons, if_pos hyes]
              exact congrArg (· + 1) ih

omit [DecidableEq Place] in
/-- A place found for a key is one of an entry of that name. -/
theorem placeOf_entry {table : List (loc_param_s_type Place)}
    {key : List UInt8} {p : Place} (h : placeOf table key = some p) :
    ∃ e ∈ table, e.param_name = key ∧ e.param_ptr = some p := by
  obtain ⟨e, he, hsome⟩ := List.exists_of_findSome?_eq_some h
  by_cases hc : e.param_name = key ∧
      (e.param_type = 's' ∨ e.param_type = 'n' ∨ e.param_type = 'f')
  · rw [if_pos hc] at hsome
    exact ⟨e, he, hc.1, hsome⟩
  · rw [if_neg hc] at hsome
    cases hsome

omit [DecidableEq Place] in
theorem placeOf_name {table : List (loc_param_s_type Place)}
    {key : List UInt8} (h : (placeOf table key).isSome = true) :
    key ∈ table.map loc_param_s_type.param_name := by
  obtain ⟨p, hp⟩ := Option.isSome_iff_exists.mp h
  obtain ⟨e, he, rfl, -⟩ := placeOf_entry hp
  exact List.mem_map_of_mem he

omit [DecidableEq Place] in
/-- A text sets no more entries than the table has. -/
theorem length_assigns_le (lc : Strto Double)
    (table : List (loc_param_s_type Place)) (text : ConfText) :
    ((rawLines text.bytes).filterMap (assign lc table)).length
      ≤ table.length := by
  have hnames : (table.map loc_param_s_type.param_name).length
      = table.length := List.length_map _
  rw [length_assigns, ← hnames]
  refine (List.subperm_of_subset (text.keys_nodup.filter _) ?_).length_le
  intro k hk
  exact placeOf_name (List.mem_filter.mp hk).2

/-- Clearing the flags leaves the places. -/
theorem clear_value (table : List (loc_param_s_type Place))
    (mem : Memory Place Double) :
    (table.foldl (fun mem e => mem.mark e.param_set 0) mem).value
      = mem.value := by
  induction table generalizing mem with
  | nil => rfl
  | cons e table ih => rw [List.foldl_cons, ih, mark_value]

/-- The lines of a text are shorter than the buffer. -/
theorem length_line_le {l s : List UInt8} (hl : l ∈ rawLines s)
    (h : (chomp l).length < LOC_MAX_PARAM_LINE - 1) :
    l.length ≤ LOC_MAX_PARAM_LINE - 1 := by
  rcases mem_rawLines hl with hnew | hsame
  · rw [hnew, List.length_append]
    exact h
  · rw [hsame]
    exact h.le

theorem mem_of_mem_rawLines {l s : List UInt8} (hl : l ∈ rawLines s)
    {c : UInt8} (hc : c ∈ l) : c ∈ s := by
  induction hn : s.length using Nat.strong_induction_on generalizing s with
  | _ n ih =>
      by_cases hs : s = []
      · subst hs
        cases hl
      · rw [rawLines_eq hs] at hl
        rcases List.mem_cons.mp hl with rfl | hrest
        · rcases List.mem_append.mp hc with h | h
          · exact (List.takeWhile_prefix _).subset h
          · exact (List.dropWhile_suffix _).subset (List.mem_of_mem_take h)
        · have hmem := ih _ (hn ▸ length_otherLines hs) hrest rfl
          exact (List.dropWhile_suffix _).subset (List.mem_of_mem_drop hmem)

/-- A line of a text without NUL is a string. -/
theorem strOf_line {l s : List UInt8} (hs : NUL ∉ s) (hl : l ∈ rawLines s) :
    strOf l = l := by
  rw [strOf, List.takeWhile_eq_self_iff]
  intro c hc
  refine bne_iff_ne.mpr ?_
  rintro rfl
  exact hs (mem_of_mem_rawLines hl hc)

/-- **FROM A FILE** all that the lines say is assigned. -/
theorem read_assigns (lc : Strto Double) (table : Table Place)
    (text : ConfText) (mem : Memory Place Double) :
    (loc_read_conf_r lc table.entries text.bytes mem).value
      = putAll mem.value
        ((rawLines text.bytes).filterMap (assign lc table.entries)) := by
  have hshort : ∀ l ∈ rawLines text.bytes,
      l.length ≤ LOC_MAX_PARAM_LINE - 1 :=
    fun l hl => length_line_le hl (text.lines_short l hl)
  have hstrings : (rawLines text.bytes).filterMap
      (fun l => assign lc table.entries (strOf l))
        = (rawLines text.bytes).filterMap (assign lc table.entries) :=
    List.filterMap_congr fun l hl => by rw [strOf_line text.no_nul hl]
  rw [loc_read_conf_r, readLoop_assigns lc table.names_nodup _ _
    (Nat.lt_succ_self _) hshort, clear_value, hstrings,
    UInt32.toNat_ofNat_of_lt' table.lt_range,
    List.take_of_length_le (length_assigns_le lc table.entries text)]

/-- How many entries `loc_update_conf` sets at most. -/
def updateCount (memory : Bool) (table : List (loc_param_s_type Place)) : Nat :=
  if memory then table.length - 1 else 0

/-- **FROM A TEXT** only the first of the assignments are made, and of the
    lines without their newlines. -/
theorem update_assigns (lc : Strto Double) (memory : Bool)
    (table : Table Place) (text : ConfText) (mem : Memory Place Double) :
    (loc_update_conf lc memory text.bytes text.bytes.length table.entries
        mem).2.value
      = putAll mem.value (((rawLines text.bytes).filterMap (fun l =>
          assign lc table.entries (chomp l))).take
            (updateCount memory table.entries)) := by
  have hcopy : (text.bytes.take text.bytes.length).takeWhile (· != NUL)
      = text.bytes := by
    rw [List.take_length, List.takeWhile_eq_self_iff]
    intro c hc
    refine bne_iff_ne.mpr ?_
    rintro rfl
    exact text.no_nul hc
  have hpos : 0 < table.entries.length :=
    List.length_pos_iff.mpr table.ne_nil
  rw [loc_update_conf, hcopy, updateCount]
  cases memory with
  | false =>
      rw [if_pos (Or.inr (Or.inr rfl))]
      rfl
  | true =>
      by_cases hempty : text.bytes = []
      · have hlen : text.bytes.length = 0 := congrArg List.length hempty
        rw [if_pos (Or.inl hlen), hempty, rawLines, List.filterMap_nil,
          List.take_nil]
        rfl
      · have hlen : text.bytes.length ≠ 0 :=
          fun h => hempty (List.length_eq_zero_iff.mp h)
        have hle : (1 : UInt32) ≤ UInt32.ofNat table.entries.length := by
          rw [UInt32.le_iff_toNat_le,
            UInt32.toNat_ofNat_of_lt' table.lt_range]
          exact hpos
        have hcount : (UInt32.ofNat table.entries.length - 1).toNat
            = table.entries.length - 1 := by
          rw [UInt32.toNat_sub_of_le _ _ hle,
            UInt32.toNat_ofNat_of_lt' table.lt_range]
          rfl
        rw [if_neg (by simp [hlen, table.ne_nil]), if_pos rfl]
        show (updateLoop lc table.entries _ _ _ 0 mem).2.value = _
        rw [updateLoop_assigns lc table _ _ _ _ _ (Nat.lt_succ_self _), hcount]

/-! ## The paths compared -/

/-- What each line that sets an entry stores from a file, and what it stores
    from a text: nothing if it has no value without its newline, or if it
    comes after the last that counts. -/
def twins (lc : Strto Double) (table : List (loc_param_s_type Place)) :
    Nat → List (List UInt8) → List (Twin Place (Value Double))
  | _, [] => []
  | count, l :: ls =>
      match assign lc table l, assign lc table (chomp l) with
      | none, _ => twins lc table count ls
      | some w, none => ⟨w.1, w.2, none⟩ :: twins lc table count ls
      | some w, some w' =>
          ⟨w.1, w.2, if count = 0 then none else some w'.2⟩
            :: twins lc table (count - 1) ls

omit [DecidableEq Place] in
theorem firsts_twins (lc : Strto Double)
    (table : List (loc_param_s_type Place)) (count : Nat)
    (ls : List (List UInt8)) :
    firsts (twins lc table count ls) = ls.filterMap (assign lc table) := by
  induction ls generalizing count with
  | nil => rfl
  | cons l ls ih =>
      rw [twins, List.filterMap_cons]
      cases assign lc table l with
      | none => exact ih count
      | some w =>
          cases assign lc table (chomp l) with
          | none => exact congrArg (List.cons w) (ih count)
          | some w' => exact congrArg (List.cons w) (ih (count - 1))

omit [DecidableEq Place] in
theorem seconds_twins {lc : Strto Double}
    {table : List (loc_param_s_type Place)} {ls : List (List UInt8)}
    (h : ∀ l ∈ ls, ∀ w, assign lc table (chomp l) = some w →
      ∃ v, assign lc table l = some (w.1, v)) (count : Nat) :
    seconds (twins lc table count ls)
      = (ls.filterMap (fun l => assign lc table (chomp l))).take count := by
  induction ls generalizing count with
  | nil => simp [twins, seconds]
  | cons l ls ih =>
      have ih := ih (fun l' hl' => h l' (List.mem_cons_of_mem l hl'))
      have hl := h l List.mem_cons_self
      rw [twins, List.filterMap_cons]
      cases hc : assign lc table (chomp l) with
      | none =>
          cases assign lc table l with
          | none => exact ih count
          | some w => exact ih count
      | some w' =>
          obtain ⟨v, hv⟩ := hl w' hc
          rw [hv]
          cases count with
          | zero =>
              have ih0 := ih 0
              rw [List.take_zero] at ih0 ⊢
              exact ih0
          | succ count => exact congrArg (List.cons w') (ih count)

omit [DecidableEq Place] in
/-- Only places of the table are set. -/
theorem twins_place {lc : Strto Double}
    {table : List (loc_param_s_type Place)} {count : Nat}
    {ls : List (List UInt8)} {p : Place}
    (h : p ∈ (twins lc table count ls).map Twin.place) :
    ∃ e ∈ table, e.param_ptr = some p := by
  have hfirst : p ∈ (firsts (twins lc table count ls)).map Prod.fst := by
    rw [firsts, List.map_map]
    exact h
  rw [firsts_twins] at hfirst
  obtain ⟨w, hw, rfl⟩ := List.mem_map.mp hfirst
  obtain ⟨l, -, hl⟩ := List.mem_filterMap.mp hw
  have hplace := assign_place lc table l
  rw [hl] at hplace
  obtain ⟨r, -, hr⟩ := Option.bind_eq_some_iff.mp hplace.symm
  obtain ⟨e, he, -, hptr⟩ := placeOf_entry hr
  exact ⟨e, he, hptr⟩

/-- **THE TWO PATHS AGREE** if and only if every line that is the last to set
    its place stores the same without its newline and within the count, or
    what it stores is there already. -/
theorem paths_agree_iff (lc : Strto Double) (memory : Bool)
    (table : Table Place) (text : ConfText) (mem : Memory Place Double) :
    (∀ e ∈ table.entries, ∀ p, e.param_ptr = some p →
      (loc_update_conf lc memory text.bytes text.bytes.length table.entries
          mem).2.value p
        = (loc_read_conf_r lc table.entries text.bytes mem).value p) ↔
      Harmless mem.value (twins lc table.entries
        (updateCount memory table.entries) (rawLines text.bytes)) := by
  have hseconds : seconds (twins lc table.entries
      (updateCount memory table.entries) (rawLines text.bytes))
        = ((rawLines text.bytes).filterMap (fun l =>
            assign lc table.entries (chomp l))).take
              (updateCount memory table.entries) :=
    seconds_twins (fun _ hl _ hw => assign_line hl hw) _
  rw [update_assigns, read_assigns, ← hseconds,
    ← firsts_twins lc table.entries (updateCount memory table.entries),
    ← runs_agree_iff]
  constructor
  · intro h p hp
    obtain ⟨e, he, hptr⟩ := twins_place hp
    exact h e he p hptr
  · intro h e _ p _
    by_cases hp : p ∈ (twins lc table.entries
        (updateCount memory table.entries) (rawLines text.bytes)).map Twin.place
    · exact h p hp
    · rw [putAll_of_not_mem (not_mem_seconds hp),
        putAll_of_not_mem (not_mem_firsts hp)]

/-! ## Lines that read alike -/

omit [DecidableEq Place] in
/-- A value with something in it is the same with its newline. -/
theorem alike_of_value {lc : Strto Double}
    {table : List (loc_param_s_type Place)} {l s : List UInt8}
    (hl : l ∈ rawLines s) {k v : List UInt8}
    (hop : operands (chomp l) = some (k, v)) (hv : v.all isspace = false) :
    assign lc table (chomp l) = assign lc table l := by
  rcases mem_rawLines hl with hnew | hsame
  · rcases operands_newline hop with h | ⟨hblank, -⟩
    · rw [hnew, assign, assign, h, ← hnew, hop]
    · rw [hv] at hblank
      cases hblank
  · rw [← hsame]

/-- White space is no hexadecimal number. -/
theorem isHex_blank {v : List UInt8} (h : v.all isspace = true) :
    isHex v = false := by
  cases v with
  | nil => rfl
  | cons c v =>
      have hc : c ≠ 48 := by
        rintro rfl
        have hspace := List.all_eq_true.mp h 48 List.mem_cons_self
        revert hspace
        decide
      cases v with
      | nil => rfl
      | cons x v =>
          cases v with
          | nil => rfl
          | cons y v =>
              show (c == 48 && (x == 120 || x == 88)) = false
              rw [beq_false_of_ne hc, Bool.false_and]

omit [DecidableEq Place] in
/-- A blank value is zero for a number, however many blanks there are. -/
theorem valueOf_blank {lc : Strto Double} {param_type : Char}
    {k v v' : List UInt8} (htype : param_type ≠ 's')
    (hv : v.all isspace = true) (hv' : v'.all isspace = true) :
    valueOf param_type (configValue lc (k, v))
      = valueOf param_type (configValue lc (k, v')) := by
  rw [valueOf, valueOf, if_neg htype, if_neg htype, configValue, configValue,
    isHex_blank hv, isHex_blank hv']
  simp only [Bool.false_eq_true, if_false, lc.atoi_blank v hv,
    lc.atoi_blank v' hv', lc.atof_blank v hv, lc.atof_blank v' hv']

omit [DecidableEq Place] in
/-- A line with a value reads alike unless the value is blank and an entry of
    its key is a string. -/
theorem alike_of_number {lc : Strto Double}
    {table : List (loc_param_s_type Place)} {l s : List UInt8}
    (hl : l ∈ rawLines s) {k v : List UInt8}
    (hop : operands (chomp l) = some (k, v))
    (htype : ∀ e ∈ table, e.param_name = k → e.param_type ≠ 's') :
    assign lc table (chomp l) = assign lc table l := by
  cases hv : v.all isspace with
  | false => exact alike_of_value hl hop hv
  | true =>
      rcases mem_rawLines hl with hnew | hsame
      · rcases operands_newline hop with h | ⟨-, h⟩
        · rw [hnew, assign, assign, h, ← hnew, hop]
        · have hv' : (v ++ [NEWLINE]).all isspace = true := by
            rw [List.all_append, hv]
            decide
          rw [hnew, assign, assign, h, ← hnew, hop]
          show table.findSome? (entryAssign lc (k, v))
            = table.findSome? (entryAssign lc (k, v ++ [NEWLINE]))
          rw [← List.head?_filterMap, ← List.head?_filterMap]
          refine congrArg List.head? (List.filterMap_congr (fun e he => ?_))
          rw [entryAssign, entryAssign]
          by_cases hn : e.param_name = k
          · rw [if_pos hn, if_pos hn, valueOf_blank (htype e he hn) hv hv']
          · rw [if_neg hn, if_neg hn]
      · rw [← hsame]

/-- **THE PATHS AGREE** on a text whose lines read alike and set fewer entries
    than the table has. -/
theorem paths_agree_of_few {lc : Strto Double} {table : Table Place}
    {text : ConfText}
    (halike : ∀ l ∈ rawLines text.bytes,
      assign lc table.entries (chomp l) = assign lc table.entries l)
    (hfew : ((rawLines text.bytes).filterMap
      (assign lc table.entries)).length < table.entries.length)
    (mem : Memory Place Double) :
    (loc_update_conf lc true text.bytes text.bytes.length table.entries
        mem).2.value
      = (loc_read_conf_r lc table.entries text.bytes mem).value := by
  rw [update_assigns, read_assigns, List.filterMap_congr halike, updateCount,
    if_pos rfl, List.take_of_length_le (Nat.le_sub_one_of_lt hfew)]

/-! ## The record that is off -/

/-- Decimal numbers without sign or fraction. -/
def decimal : Strto UInt32 where
  atoi s := ((s.dropWhile isspace).takeWhile (fun c => 48 ≤ c && c ≤ 57)).foldl
    (fun n c => n * 10 + (c - 48).toUInt32) 0
  strtol16 _ := 0
  atof s := ((s.dropWhile isspace).takeWhile (fun c => 48 ≤ c && c ≤ 57)).foldl
    (fun n c => n * 10 + (c - 48).toUInt32) 0
  zero := 0
  atoi_blank s h := by
    rw [List.dropWhile_eq_nil_iff.mpr (List.all_eq_true.mp h)]
    rfl
  atof_blank s h := by
    rw [List.dropWhile_eq_nil_iff.mpr (List.all_eq_true.mp h)]
    rfl

/-- A table with the number `A` alone. -/
def tableOfOne : Table Unit where
  entries := [⟨[65], some (), none, 'n'⟩]
  ne_nil := List.cons_ne_nil _ _
  names_nodup := by decide
  lt_range := by decide

/-- `"A=1\n"`. -/
def textOfOne : ConfText where
  bytes := [65, 61, 49, 10]
  no_nul := by decide
  lines_short := by decide
  keys_nodup := by decide

/-- From the file `A` is 1, from the text it stays 0. -/
theorem one_record_off :
    ¬ (∀ e ∈ tableOfOne.entries, ∀ p, e.param_ptr = some p →
      (loc_update_conf decimal true textOfOne.bytes textOfOne.bytes.length
          tableOfOne.entries ⟨fun _ => .n 0, fun _ => 0⟩).2.value p
        = (loc_read_conf_r decimal tableOfOne.entries textOfOne.bytes
            ⟨fun _ => .n 0, fun _ => 0⟩).value p) := by
  intro h
  have h := h _ List.mem_cons_self () rfl
  revert h
  decide +kernel

end QcomLocCfg
