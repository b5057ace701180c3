import QcomCommon.BmSearchProofs

/-! # The TrustZone version check

    `get_tz_version` of `recovery_updater.cpp` copies what follows a marker
    in the TrustZone image, and `VerifyTrustZoneFn`, which the install script
    calls with the versions it supports, compares it with each of them.

    `strncpy` is given the size of the buffer and does not know the end of
    the image: the copy is a string, and within the image, exactly when there
    is a NUL within the buffer's size after the marker
    (`get_tz_version_iff`).  The loop of `VerifyTrustZoneFn` asks for one
    argument more in each round and passes one pointer in all of them: it
    does what it should for one version, and for several when the first of
    them is the current one (`verify_trustzone_iff`). -/

namespace QcomTrustZone

open QcomSubstring QcomBmSearch

/-! ## The version -/

/-- What stands in front of the version. -/
def TZ_VER_STR : List UInt8 :=
  ['Q', 'C', '_', 'I', 'M', 'A', 'G', 'E', '_', 'V', 'E', 'R', 'S', 'I', 'O',
    'N', '_', 'S', 'T', 'R', 'I', 'N', 'G', '='].map
    (fun c => UInt8.ofNat c.toNat)

/-- Its length. -/
def TZ_VER_STR_LEN : Nat := 24

/-- The bytes of a version. -/
def TZ_VER_BUF_LEN : Nat := 255

/-- The bytes of the image that are looked at. -/
def TZ_SZ : Nat := 500 * 1024

/-- The error number for a version that is not there. -/
def ENOENT : Int := 2

/-- What is mapped of the partition. -/
structure TzImage where
  tz_data : List UInt8
  length_eq : tz_data.length = TZ_SZ

/-- What becomes of `open` and `mmap`. -/
inductive TzPart where
  | openFails (errno : Int)
  | mmapFails (errno : Int)
  | mapped (image : TzImage)

/-- `strncpy`: the `n` bytes it writes.  Past the end of the source it has no
    result. -/
def strncpy : List UInt8 → Nat → Option (List UInt8)
  | _, 0 => some []
  | [], _ + 1 => none
  | c :: src, n + 1 =>
      if c = 0 then some (List.replicate (n + 1) 0)
      else (strncpy src n).map (c :: ·)

/-- `get_tz_version` with the buffer `ver_str`, of which `len` is the size:
    what it returns, and the buffer. -/
def get_tz_version (part : TzPart) (ver_str : List UInt8) :
    Option (Int × List UInt8) :=
  match part with
  | .openFails errno => some (errno, ver_str)
  | .mmapFails errno => some (errno, ver_str)
  | .mapped image =>
      (bm_search (image.tz_data.length + 1) image.tz_data TZ_VER_STR).bind
        (fun offset =>
          match offset with
          | some offset =>
              (strncpy (image.tz_data.drop (offset + TZ_VER_STR_LEN).toNat)
                ver_str.length).map (fun buf => (0, buf))
          | none => some (-ENOENT, ver_str))

/-! ## What `strncpy` leaves -/

/-- A source with a NUL in reach is copied up to it, and padded. -/
theorem strncpy_of_nul {src : List UInt8} {n : Nat} (h : 0 ∈ src.take n) :
    ∃ s k, 0 ∉ s ∧ s <+: src ∧ s.length + (k + 1) = n ∧
      strncpy src n = some (s ++ 0 :: List.replicate k 0) := by
  induction src generalizing n with
  | nil =>
      rw [List.take_nil] at h
      cases h
  | cons c src ih =>
      cases n with
      | zero => cases h
      | succ n =>
          rw [strncpy]
          by_cases hc : c = 0
          · rw [if_pos hc]
            exact ⟨[], n, List.not_mem_nil, List.nil_prefix, Nat.zero_add _,
              rfl⟩
          · rw [List.take_succ_cons] at h
            have hrest : 0 ∈ src.take n := by
              rcases List.mem_cons.mp h with heq | hmem
              · exact absurd heq.symm hc
              · exact hmem
            obtain ⟨s, k, h0, hpre, hlen, hcopy⟩ := ih hrest
            rw [if_neg hc, hcopy]
            refine ⟨c :: s, k, ?_, List.cons_prefix_cons.mpr ⟨rfl, hpre⟩, ?_,
              rfl⟩
            · intro hmem
              rcases List.mem_cons.mp hmem with heq | hmem
              · exact hc heq.symm
              · exact h0 hmem
            · rw [List.length_cons]
              omega

/-- Without one, what is written has no NUL either. -/
theorem strncpy_of_no_nul {src buf : List UInt8} {n : Nat}
    (h : 0 ∉ src.take n) (hcopy : strncpy src n = some buf) : 0 ∉ buf := by
  induction src generalizing n buf with
  | nil =>
      cases n with
      | zero =>
          obtain rfl := Option.some.inj hcopy
          exact List.not_mem_nil
      | succ n => cases hcopy
  | cons c src ih =>
      cases n with
      | zero =>
          obtain rfl := Option.some.inj hcopy
          exact List.not_mem_nil
      | succ n =>
          rw [List.take_succ_cons] at h
          have hc : c ≠ 0 := fun hc => h (by rw [hc]; exact List.mem_cons_self)
          rw [strncpy, if_neg hc] at hcopy
          obtain ⟨rest, hrest, rfl⟩ := Option.map_eq_some_iff.mp hcopy
          intro hmem
          rcases List.mem_cons.mp hmem with heq | hmem
          · exact hc heq.symm
          · exact ih (fun hin => h (List.mem_cons_of_mem c hin)) hrest hmem

/-! ## The copy of the version -/

/-- The search in an image is right: no proper suffix of the marker is a
    prefix of it. -/
theorem searchRight_marker (image : TzImage) :
    SearchRight image.tz_data TZ_VER_STR := by
  have hborder : ∀ q, q < TZ_VER_STR.length → 0 < q →
      ¬ Border TZ_VER_STR q := by decide
  refine searchRight_of_borderless (by decide) (by decide) ?_
    (fun q hpos hq => hborder q hq hpos)
  rw [image.length_eq]
  decide

/-- `get_tz_version` with the image mapped. -/
theorem get_tz_version_mapped (image : TzImage) (ver_str : List UInt8) :
    (∃ o, Finds TZ_VER_STR image.tz_data (some o) ∧
      get_tz_version (.mapped image) ver_str
        = (strncpy (image.tz_data.drop (o + TZ_VER_STR_LEN)) ver_str.length).map
            (fun buf => (0, buf))) ∨
    (Finds TZ_VER_STR image.tz_data none ∧
      get_tz_version (.mapped image) ver_str = some (-ENOENT, ver_str)) := by
  obtain ⟨r, hfinds, hrun⟩ := searchRight_marker image
  have hsearch := hrun (image.tz_data.length + 1) (Nat.lt_succ_self _)
  rw [get_tz_version, hsearch, Option.bind_some]
  cases r with
  | none => exact Or.inr ⟨hfinds, rfl⟩
  | some o =>
      refine Or.inl ⟨o, hfinds, ?_⟩
      dsimp only [Option.map_some]
      rw [show ((o : Int) + TZ_VER_STR_LEN).toNat = o + TZ_VER_STR_LEN by omega]

/-- The function stays in the image, and where it returns 0 the buffer holds
    a string with which what follows the marker begins. -/
def CopiesVersion (image : TzImage) (ver_str : List UInt8) : Prop :=
  ∃ ret buf, get_tz_version (.mapped image) ver_str = some (ret, buf) ∧
    (ret = 0 → buf.length = ver_str.length ∧ ∃ o s rest,
      Finds TZ_VER_STR image.tz_data (some o) ∧ 0 ∉ s ∧
      buf = s ++ 0 :: rest ∧ s <+: image.tz_data.drop (o + TZ_VER_STR_LEN))

/-- **WHEN THE VERSION IS COPIED**: for every image and buffer, if and only if
    a NUL follows the marker, in the image and within the size of the
    buffer. -/
theorem get_tz_version_iff (image : TzImage) (ver_str : List UInt8) :
    CopiesVersion image ver_str ↔
      ∀ o, Finds TZ_VER_STR image.tz_data (some o) →
        0 ∈ (image.tz_data.drop (o + TZ_VER_STR_LEN)).take
          ver_str.length := by
  rcases get_tz_version_mapped image ver_str with
    ⟨o, hfinds, hrun⟩ | ⟨hfinds, hrun⟩
  · constructor
    · rintro ⟨ret, buf, hret, hcopy⟩ o' hfinds'
      obtain rfl := Option.some.inj (hfinds.unique hfinds')
      rw [hrun] at hret
      obtain ⟨buf', hbuf, heq⟩ := Option.map_eq_some_iff.mp hret
      obtain ⟨rfl, rfl⟩ := Prod.mk.inj heq
      obtain ⟨-, -, s, rest, -, -, hbuf', -⟩ := hcopy rfl
      by_contra hno
      refine strncpy_of_no_nul hno hbuf ?_
      rw [hbuf']
      exact List.mem_append_right s List.mem_cons_self
    · intro hnul
      obtain ⟨s, k, h0, hpre, hlen, hcopy⟩ := strncpy_of_nul (hnul o hfinds)
      rw [hcopy, Option.map_some] at hrun
      refine ⟨0, _, hrun, fun _ => ⟨?_, o, s, _, hfinds, h0, rfl, hpre⟩⟩
      rw [List.length_append, List.length_cons, List.length_replicate, hlen]
  · constructor
    · intro _ o hfinds'
      cases hfinds.unique hfinds'
    · intro _
      refine ⟨-ENOENT, ver_str, hrun, fun hret => ?_⟩
      exact absurd hret (by decide)

/-- An image that ends with the marker. -/
def markerAtEnd : TzImage where
  tz_data := List.replicate (TZ_SZ - TZ_VER_STR_LEN) 0 ++ TZ_VER_STR
  length_eq := by
    rw [List.length_append, List.length_replicate]
    rfl

theorem finds_markerAtEnd : Finds TZ_VER_STR markerAtEnd.tz_data
    (some (TZ_SZ - TZ_VER_STR_LEN)) := by
  generalize hn : TZ_SZ - TZ_VER_STR_LEN = n
  have hdata : markerAtEnd.tz_data = List.replicate n 0 ++ TZ_VER_STR := by
    rw [← hn]
    rfl
  rw [hdata]
  refine ⟨?_, ?_⟩
  · exact ⟨[], by rw [List.append_nil, List.drop_left' List.length_replicate]⟩
  · -- before the marker there is not even its first letter
    intro o ho
    by_contra hlt
    have hfirst := occurs_iff.mp ho 0 (by decide)
    rw [Nat.add_zero, List.getElem?_append_left
      (by rw [List.length_replicate]; omega), List.getElem?_replicate,
      if_pos (by omega)] at hfirst
    exact absurd hfirst (by decide)

/-- There the copy reads past the image. -/
theorem get_tz_version_overruns :
    ¬ (∀ (image : TzImage) (ver_str : List UInt8),
      CopiesVersion image ver_str) := by
  intro hall
  obtain ⟨ret, buf, hret, -⟩ :=
    hall markerAtEnd (List.replicate TZ_VER_BUF_LEN 0)
  rcases get_tz_version_mapped markerAtEnd (List.replicate TZ_VER_BUF_LEN 0)
    with ⟨o, hfinds, hrun⟩ | ⟨hfinds, -⟩
  · obtain rfl := Option.some.inj (hfinds.unique finds_markerAtEnd)
    have hend : markerAtEnd.tz_data.drop
        (TZ_SZ - TZ_VER_STR_LEN + TZ_VER_STR_LEN) = [] := by
      refine List.drop_eq_nil_of_le ?_
      rw [markerAtEnd.length_eq]
      decide
    rw [hend, List.length_replicate] at hrun
    rw [hrun] at hret
    cases hret
  · cases hfinds.unique finds_markerAtEnd

/-! ## The comparison with the arguments -/

/-- A string: what is before its NUL. -/
structure CStr where
  chars : List UInt8
  nul_free : 0 ∉ chars
deriving DecidableEq

/-- Why a call of the script fails. -/
inductive CauseCode | kVendorFailure | kArgsParsingFailure
deriving DecidableEq, Repr

/-- What the function returns: a string, or what it aborts with: the cause,
    the format, and the name and number that are put in it. -/
inductive Value where
  | StringValue (text : String)
  | ErrorAbort (cause : CauseCode) (format name : String) (ret : Int)
deriving DecidableEq, Repr

/-- What a run did: the calls of `ReadArgs`, with the number of arguments
    asked for and of pointers passed, the versions compared, and the value,
    where it has one. -/
structure VerifyRun where
  calls : List (Nat × Nat)
  compared : List CStr
  value : Option Value

/-- `ReadArgs` with the values of the expressions `argv` (one that fails has
    none), the number of arguments and that of pointers: what it returns and
    what it stored, in the order of the pointers.  `none` is a run that is
    not defined. -/
abbrev ReadArgsFn := List (Option CStr) → Nat → Nat →
  Option (Int × List CStr)

/-- With a pointer for each argument, it stores their values in order. -/
def StoresInOrder (ReadArgs : ReadArgsFn) : Prop :=
  ∀ (args : List CStr) (n : Nat), n ≤ args.length →
    ReadArgs (args.map some) n n = some (0, args.take n)

/-- The loop of `VerifyTrustZoneFn` from the round `i` on, of which `n` are
    left. -/
def verifyLoop (ReadArgs : ReadArgsFn) (name : String)
    (argv : List (Option CStr)) (current_tz_version : List UInt8) :
    Nat → Nat → Option CStr → VerifyRun
  | 0, _, _ => ⟨[], [], some (.StringValue "0")⟩
  | n + 1, i, tz_version =>
      -- one pointer, whatever i is
      match ReadArgs argv i 1 with
      | none => ⟨[(i, 1)], [], none⟩
      | some (ret, stored) =>
          if ret < 0 then
            ⟨[(i, 1)], [], some (.ErrorAbort .kArgsParsingFailure
              "%s() error parsing arguments: %d" name ret)⟩
          else
            match stored.head?.or tz_version with
            | none => ⟨[(i, 1)], [], none⟩
            | some tz =>
                match strncmp (tz.chars ++ [0]) current_tz_version
                    tz.chars.length with
                | none => ⟨[(i, 1)], [tz], none⟩
                | some result =>
                    if result = 0 then
                      ⟨[(i, 1)], [tz], some (.StringValue "1")⟩
                    else
                      let r := verifyLoop ReadArgs name argv
                        current_tz_version n (i + 1) (some tz)
                      ⟨(i, 1) :: r.calls, tz :: r.compared, r.value⟩

/-- `VerifyTrustZoneFn`; `current_tz_version` is what its buffer holds at
    first. -/
def VerifyTrustZoneFn (ReadArgs : ReadArgsFn) (part : TzPart)
    (current_tz_version : List UInt8) (name : String)
    (argv : List (Option CStr)) : VerifyRun :=
  match get_tz_version part current_tz_version with
  | none => ⟨[], [], none⟩
  | some (ret, current_tz_version) =>
      if ret ≠ 0 then
        ⟨[], [], some (.ErrorAbort .kVendorFailure
          "%s() failed to read current TZ version: %d" name ret)⟩
      else
        verifyLoop ReadArgs name argv current_tz_version argv.length 1 none

/-- The version begins with the argument. -/
def Accepts (version : List UInt8) (tz : CStr) : Prop := tz.chars <+: version

instance (version : List UInt8) : DecidablePred (Accepts version) :=
  fun tz => inferInstanceAs (Decidable (tz.chars <+: version))

/-- The arguments in turn, up to the first that is accepted. -/
def inTurn (version : List UInt8) : List CStr → List CStr
  | [] => []
  | tz :: args =>
      if Accepts version tz then [tz] else tz :: inTurn version args

/-- The run passes as many pointers as it asks for arguments, compares each
    argument in turn, and returns "1" if one of them is accepted and "0" if
    not. -/
structure AcceptsListed (run : VerifyRun) (version : List UInt8)
    (args : List CStr) : Prop where
  pointers : ∀ c ∈ run.calls, c.1 = c.2
  compared : run.compared = inTurn version args
  value : run.value = some (.StringValue
    (if ∃ tz ∈ args, Accepts version tz then "1" else "0"))

/-- A comparison with a string ends at its NUL. -/
theorem strncmp_string {chars : List UInt8} (version rest : List UInt8)
    (h0 : 0 ∉ chars) :
    ∃ result, strncmp chars (version ++ 0 :: rest) chars.length
      = some result := by
  induction chars generalizing version with
  | nil => exact ⟨0, by rw [List.length_nil, strncmp]⟩
  | cons c chars ih =>
      have hc : c ≠ 0 := fun hc => h0 (by rw [hc]; exact List.mem_cons_self)
      have hrest : 0 ∉ chars := fun h => h0 (List.mem_cons_of_mem c h)
      cases version with
      | nil =>
          rw [List.length_cons, List.nil_append, strncmp, if_pos hc]
          exact ⟨_, rfl⟩
      | cons d version =>
          rw [List.length_cons, List.cons_append, strncmp]
          by_cases hcd : c = d
          · rw [if_neg (not_not.mpr hcd), if_neg hc]
            exact ih version hrest
          · rw [if_pos hcd]
            exact ⟨_, rfl⟩

/-- A string without NUL is before the NUL of what begins with it. -/
theorem prefix_string_iff {chars : List UInt8} (version rest : List UInt8)
    (h0 : 0 ∉ chars) :
    chars <+: version ++ 0 :: rest ↔ chars <+: version := by
  constructor
  · intro hpre
    refine List.prefix_of_prefix_length_le hpre
      (List.prefix_append version (0 :: rest)) ?_
    by_contra hgt
    have hat := List.prefix_iff_getElem?.mp hpre version.length (by omega)
    rw [List.getElem?_append_right (Nat.le_refl _), Nat.sub_self,
      List.getElem?_cons_zero] at hat
    exact h0 (Option.some.inj hat ▸ List.getElem_mem _)
  · intro hpre
    exact hpre.trans (List.prefix_append version (0 :: rest))

/-- The comparison with an argument is defined, and 0 if and only if the
    version begins with it. -/
theorem strncmp_accepts (tz : CStr) (version rest : List UInt8) :
    ∃ result, strncmp (tz.chars ++ [0]) (version ++ 0 :: rest)
      tz.chars.length = some result ∧ (result = 0 ↔ Accepts version tz) := by
  obtain ⟨result, hresult⟩ := strncmp_string version rest tz.nul_free
  refine ⟨result, by rw [strncmp_append, hresult], ?_⟩
  rw [Accepts, ← prefix_string_iff version rest tz.nul_free,
    ← strncmp_eq_zero_iff tz.nul_free, hresult]
  exact ⟨congrArg some, Option.some.inj⟩

/-- **A ROUND** of the loop with the right number of pointers, the first. -/
theorem verifyLoop_first {ReadArgs : ReadArgsFn} (h : StoresInOrder ReadArgs)
    (name : String) (tz : CStr) (args : List CStr)
    (version rest : List UInt8) :
    verifyLoop ReadArgs name ((tz :: args).map some) (version ++ 0 :: rest)
        (args.length + 1) 1 none
      = if Accepts version tz then
          ⟨[(1, 1)], [tz], some (.StringValue "1")⟩
        else
          let r := verifyLoop ReadArgs name ((tz :: args).map some)
            (version ++ 0 :: rest) args.length 2 (some tz)
          ⟨(1, 1) :: r.calls, tz :: r.compared, r.value⟩ := by
  have hread := h (tz :: args) 1 (by rw [List.length_cons]; omega)
  obtain ⟨result, hcmp, hzero⟩ := strncmp_accepts tz version rest
  rw [verifyLoop, hread]
  dsimp only [List.take_succ_cons, List.take_zero, List.head?_cons]
  rw [if_neg (by decide), Option.some_or]
  dsimp only
  rw [hcmp]
  dsimp only
  by_cases hacc : Accepts version tz
  · rw [if_pos (hzero.mpr hacc), if_pos hacc]
  · rw [if_neg (fun h => hacc (hzero.mp h)), if_neg hacc]

/-- Every round asks for its number of arguments and passes one pointer. -/
theorem verifyLoop_calls (ReadArgs : ReadArgsFn) (name : String)
    (argv : List (Option CStr)) (current : List UInt8) (n i : Nat)
    (tz_version : Option CStr) :
    (i, 1) ∈ (verifyLoop ReadArgs name argv current (n + 1) i
      tz_version).calls := by
  rw [verifyLoop]
  split
  · exact List.mem_cons_self
  · split
    · exact List.mem_cons_self
    · split
      · exact List.mem_cons_self
      · split
        · exact List.mem_cons_self
        · split
          · exact List.mem_cons_self
          · exact List.mem_cons_self

/-- The second round asks for two arguments with one pointer. -/
theorem not_acceptsListed {ReadArgs : ReadArgsFn}
    (h : StoresInOrder ReadArgs) {part : TzPart}
    {buf version rest : List UInt8}
    (hver : get_tz_version part buf = some (0, version ++ 0 :: rest))
    (name : String) {tz tz' : CStr} {args : List CStr}
    (hacc : ¬ Accepts version tz) :
    ¬ AcceptsListed (VerifyTrustZoneFn ReadArgs part buf name
      ((tz :: tz' :: args).map some)) version (tz :: tz' :: args) := by
  rw [VerifyTrustZoneFn, hver]
  dsimp only
  rw [if_neg (not_not.mpr rfl), List.length_map, List.length_cons,
    verifyLoop_first h, if_neg hacc]
  intro hlisted
  have hcall := hlisted.pointers (2, 1)
    (List.mem_cons_of_mem _ (verifyLoop_calls ..))
  cases hcall

/-- **WHEN THE LISTED VERSIONS ARE ACCEPTED**: with a current version in the
    buffer and arguments that all have values, the run does what it should if
    and only if there is at most one argument, or the first one is accepted. -/
theorem verify_trustzone_iff {ReadArgs : ReadArgsFn}
    (h : StoresInOrder ReadArgs) {part : TzPart}
    {buf version rest : List UInt8}
    (hver : get_tz_version part buf = some (0, version ++ 0 :: rest))
    (name : String) (args : List CStr) :
    AcceptsListed (VerifyTrustZoneFn ReadArgs part buf name (args.map some))
        version args ↔
      args.length ≤ 1 ∨ ∃ tz ∈ args.head?, Accepts version tz := by
  have hrun : VerifyTrustZoneFn ReadArgs part buf name (args.map some)
      = verifyLoop ReadArgs name (args.map some) (version ++ 0 :: rest)
          args.length 1 none := by
    rw [VerifyTrustZoneFn, hver]
    dsimp only
    rw [if_neg (not_not.mpr rfl), List.length_map]
  cases args with
  | nil =>
      rw [hrun]
      refine ⟨fun _ => Or.inl (Nat.zero_le 1), fun _ => ⟨?_, rfl, ?_⟩⟩
      · intro c hc
        cases hc
      · rw [if_neg (by rintro ⟨tz, htz, -⟩; cases htz)]
        rfl
  | cons tz args =>
      by_cases hacc : Accepts version tz
      · rw [hrun, List.length_cons, verifyLoop_first h, if_pos hacc]
        refine ⟨fun _ => Or.inr ⟨tz, rfl, hacc⟩, fun _ => ⟨?_, ?_, ?_⟩⟩
        · intro c hc
          obtain rfl := List.mem_singleton.mp hc
          rfl
        · rw [inTurn, if_pos hacc]
        · rw [if_pos ⟨tz, List.mem_cons_self, hacc⟩]
      · cases args with
        | nil =>
            rw [hrun, List.length_cons, verifyLoop_first h, if_neg hacc]
            refine ⟨fun _ => Or.inl (Nat.le_refl 1), fun _ => ⟨?_, ?_, ?_⟩⟩
            · intro c hc
              obtain rfl := List.mem_singleton.mp hc
              rfl
            · rw [inTurn, if_neg hacc]
              rfl
            · rw [if_neg]
              · rfl
              · rintro ⟨tz', htz', hacc'⟩
                obtain rfl := List.mem_singleton.mp htz'
                exact hacc hacc'
        | cons tz' args =>
            constructor
            · intro hlisted
              exact absurd hlisted (not_acceptsListed h hver name hacc)
            · rintro (hlen | ⟨tz'', htz'', hacc''⟩)
              · exact absurd (Nat.le_of_succ_le_succ hlen)
                  (Nat.not_succ_le_zero args.length)
              · obtain rfl := Option.some.inj htz''
                exact absurd hacc'' hacc

/-- A reader of arguments: they are evaluated and stored one after another, up
    to the first that fails. -/
def readArgs : ReadArgsFn
  | _, 0, _ => some (0, [])
  | none :: _, _ + 1, _ => some (-1, [])
  | some tz :: argv, n + 1, m + 1 =>
      (readArgs argv n m).map (fun r => (r.1, tz :: r.2))
  | _, _ + 1, _ => none

theorem storesInOrder_readArgs : StoresInOrder readArgs := by
  intro args n
  induction n generalizing args with
  | zero =>
      intro _
      rw [readArgs, List.take_zero]
  | succ n ih =>
      intro hn
      cases args with
      | nil => exact absurd hn (Nat.not_succ_le_zero n)
      | cons tz args =>
          rw [List.map_cons, readArgs, ih args (Nat.le_of_succ_le_succ hn),
            Option.map_some, List.take_succ_cons]

/-- An image of which the version is `A`. -/
def imageA : TzImage where
  tz_data := TZ_VER_STR ++ 65 :: List.replicate (TZ_SZ - 25) 0
  length_eq := by
    rw [List.length_append, List.length_cons, List.length_replicate]
    rfl

theorem get_tz_version_imageA :
    get_tz_version (.mapped imageA) (List.replicate TZ_VER_BUF_LEN 0)
      = some (0, [65] ++ 0 :: List.replicate 253 0) := by
  have hfinds : Finds TZ_VER_STR imageA.tz_data (some 0) :=
    ⟨List.prefix_append _ _, fun o _ => Nat.zero_le o⟩
  rcases get_tz_version_mapped imageA (List.replicate TZ_VER_BUF_LEN 0) with
    ⟨o, ho, hrun⟩ | ⟨hnone, -⟩
  · obtain rfl := Option.some.inj (ho.unique hfinds)
    have hdrop : imageA.tz_data.drop (0 + TZ_VER_STR_LEN)
        = 65 :: List.replicate (TZ_SZ - 25) 0 :=
      List.drop_left' rfl
    have hzeros : strncpy (List.replicate (TZ_SZ - 25) 0) 254
        = some (List.replicate 254 0) := by
      rw [show TZ_SZ - 25 = TZ_SZ - 26 + 1 from rfl, List.replicate_succ,
        strncpy, if_pos rfl]
    rw [hrun, hdrop, List.length_replicate]
    show (strncpy (65 :: List.replicate (TZ_SZ - 25) 0) (254 + 1)).map _ = _
    rw [strncpy, if_neg (by decide), hzeros]
    rfl
  · cases hnone.unique hfinds

theorem verify_trustzone_iff_imageA :
    AcceptsListed (VerifyTrustZoneFn readArgs (.mapped imageA)
        (List.replicate TZ_VER_BUF_LEN 0) "asus.verify_trustzone"
        ([⟨[66], by decide⟩, ⟨[65], by decide⟩].map some)) [65]
        [⟨[66], by decide⟩, ⟨[65], by decide⟩] ↔
      2 ≤ 1 ∨ ∃ tz ∈ some (⟨[66], by decide⟩ : CStr), Accepts [65] tz :=
  verify_trustzone_iff storesInOrder_readArgs get_tz_version_imageA
    "asus.verify_trustzone" [⟨[66], by decide⟩, ⟨[65], by decide⟩]

/-- Of the versions `B` and `A` the second one is not read. -/
theorem verify_trustzone_second :
    ¬ (∀ (ReadArgs : ReadArgsFn), StoresInOrder ReadArgs →
      ∀ (part : TzPart) (buf version rest : List UInt8),
        get_tz_version part buf = some (0, version ++ 0 :: rest) →
        ∀ (name : String) (args : List CStr),
          AcceptsListed (VerifyTrustZoneFn ReadArgs part buf name
            (args.map some)) version args) := by
  intro hall
  have hlisted := hall readArgs storesInOrder_readArgs (.mapped imageA) _ [65]
    _ get_tz_version_imageA "asus.verify_trustzone"
    [⟨[66], by decide⟩, ⟨[65], by decide⟩]
  exact not_acceptsListed storesInOrder_readArgs get_tz_version_imageA
    "asus.verify_trustzone" (by decide) hlisted

end QcomTrustZone
