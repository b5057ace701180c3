import QcomCommon.AssignProofs
import QcomCommon.TransitionProofs
import Mathlib.Algebra.Group.Nat.Defs

/-! # The notification LED

    `lights.c`: three lights share one LED.  `set_light_attention` and
    `set_light_notifications` store their state in `g_lights` and write what
    the first lit one of the two shows; `set_light_battery` stores nothing
    and writes at once.

    So the LED shows the lit light of the highest priority along a run if
    and only if no battery state is written over another light and none is
    lit when the others are cleared, and a light is not cleared with a state
    that blinks (`led_priority_iff`). -/

namespace QcomLights

open QcomTransition QcomAssign

/-! ## States of a light -/

/-- Of `lights.h`. -/
def LIGHT_FLASH_TIMED : Int32 := 1

/-- Of `lights.h`. -/
def LIGHT_FLASH_HARDWARE : Int32 := 2

/-- The brightness of a light that is off. -/
def LED_LIGHT_OFF : Int32 := 0

/-- The largest brightness. -/
def LED_LIGHT_ON : Int32 := 255

/-- `light_state_t`; the color is `0xAARRGGBB`. -/
structure light_state_t where
  color : UInt32
  flashMode : Int32
  flashOnMS : Int32
  flashOffMS : Int32
deriving DecidableEq

/-- The colour is not black; its alpha does not count. -/
def is_lit (state : light_state_t) : Bool := state.color &&& 0x00ffffff != 0

/-- The weighted sum of the three colours. -/
def rgb_to_brightness (state : light_state_t) : Int32 :=
  let color : Int32 := (state.color &&& 0x00ffffff).toInt32
  let red : Int32 := color >>> 16
  let green : Int32 := color >>> 8
  let sum : Int32 := 77 * (red &&& 0x00ff) + 150 * (green &&& 0x00ff)
    + 29 * (color &&& 0x00ff)
  sum >>> 8

/-- The state flashes. -/
def flashes (state : light_state_t) : Bool :=
  state.flashMode == LIGHT_FLASH_TIMED ||
    state.flashMode == LIGHT_FLASH_HARDWARE

/-- How long a light is on, if it flashes. -/
def onMS (state : light_state_t) : Int32 :=
  if flashes state then state.flashOnMS else 0

/-- How long it is off. -/
def offMS (state : light_state_t) : Int32 :=
  if flashes state then state.flashOffMS else 0

/-- It flashes with both times. -/
def blink (state : light_state_t) : Bool :=
  decide (onMS state > 0) && decide (offMS state > 0)

/-- The ratio of on and off; the low 4 bits are ignored, so it is rounded
    up.  The `int`s wrap. -/
def fake_pwm (state : light_state_t) : Int32 :=
  let fake_pwm := (onMS state * 255) / (onMS state + offMS state)
  if fake_pwm > 0 ∧ fake_pwm < 16 then 16 else fake_pwm

/-- What is written as the time it is off. -/
def pwm (state : light_state_t) : Int32 := offMS state * 1000

/-- The brightness of a light: the alpha of its colour, or the largest one
    without. -/
def brightness_level (state : light_state_t) : Int32 :=
  if is_lit state then
    if state.color &&& 0xff000000 ≠ 0 then
      ((state.color &&& 0xff000000) >>> 24).toInt32
    else LED_LIGHT_ON
  else LED_LIGHT_OFF

/-- The battery level, `int level` of `set_light_battery`. -/
def level (state : light_state_t) : Int32 :=
  let level := ((state.color &&& 0xff000000) >>> 24).toInt32
  if level < 0 then 0 else if level > 100 then 100 else level

/-! ## The files -/

/-- The files of the two lights. -/
inductive LedFile where
  | GREEN_LED_BRIGHTNESS_FILE
  | RED_LED_BRIGHTNESS_FILE
  | GREEN_LED_PWM_FILE
  | RED_LED_PWM_FILE
deriving DecidableEq, Repr

/-- The value last written to each file, if any was. -/
def Files : Type := LedFile → Option Int32

/-- Nothing was written yet. -/
def noFiles : Files := fun _ => none

/-- A number is written to a file. -/
def write_int (path : LedFile) (value : Int32) (files : Files) : Files :=
  put files (path, some value)

/-- `set_light_locked`, on the files. -/
def set_light_locked (state : light_state_t) (files : Files) : Files :=
  let files := write_int .GREEN_LED_BRIGHTNESS_FILE LED_LIGHT_OFF files
  let files := write_int .RED_LED_BRIGHTNESS_FILE LED_LIGHT_OFF files
  if blink state then
    let files := write_int .GREEN_LED_BRIGHTNESS_FILE (fake_pwm state) files
    write_int .GREEN_LED_PWM_FILE (pwm state) files
  else
    let files :=
      write_int .GREEN_LED_BRIGHTNESS_FILE (brightness_level state) files
    write_int .GREEN_LED_PWM_FILE 100 files

/-- What `set_light_battery` writes. -/
def battery_locked (state : light_state_t) (files : Files) : Files :=
  let files := write_int .GREEN_LED_BRIGHTNESS_FILE LED_LIGHT_OFF files
  let files := write_int .RED_LED_BRIGHTNESS_FILE LED_LIGHT_OFF files
  if is_lit state then
    if level state ≤ 15 then
      let files := write_int .RED_LED_BRIGHTNESS_FILE 255 files
      write_int .RED_LED_PWM_FILE 100 files
    else if level state ≤ 99 then
      let files := write_int .GREEN_LED_BRIGHTNESS_FILE 255 files
      let files := write_int .GREEN_LED_PWM_FILE 100 files
      let files := write_int .RED_LED_BRIGHTNESS_FILE 255 files
      write_int .RED_LED_PWM_FILE 100 files
    else
      let files := write_int .GREEN_LED_BRIGHTNESS_FILE 255 files
      write_int .GREEN_LED_PWM_FILE 100 files
  else files

/-! ## The lights -/

/-- The three states that are kept. -/
inductive LightSlot where
  | ATTENTION
  | NOTIFICATION
  | BATTERY
deriving DecidableEq, Repr

/-- `g_lights`, the files of the LED and that of the backlight. -/
structure Lights where
  g_lights : LightSlot → light_state_t
  led : Files
  lcd : Option Int32

/-- `handle_led_prioritized_locked`, on the files. -/
def handle_led_prioritized_locked (g_lights : LightSlot → light_state_t)
    (state : light_state_t) (files : Files) : Files :=
  if is_lit (g_lights .ATTENTION) then
    set_light_locked (g_lights .ATTENTION) files
  else if is_lit (g_lights .NOTIFICATION) then
    set_light_locked (g_lights .NOTIFICATION) files
  else set_light_locked state files

/-- The light is stored and the LED written. -/
def setStored (slot : LightSlot) (s : Lights) (state : light_state_t) :
    Lights :=
  let g_lights := put s.g_lights (slot, state)
  { s with g_lights, led := handle_led_prioritized_locked g_lights state s.led }

/-- The state is kept for notifications, and the light set anew. -/
def set_light_notifications (s : Lights) (state : light_state_t) : Lights :=
  setStored .NOTIFICATION s state

/-- The same for what asks for attention. -/
def set_light_attention (s : Lights) (state : light_state_t) : Lights :=
  setStored .ATTENTION s state

/-- `set_light_battery`, with a device or NULL. -/
def set_light_battery (s : Lights) (dev : Bool) (state : light_state_t) :
    Lights :=
  if dev = false then s else { s with led := battery_locked state s.led }

/-- The brightness of the screen. -/
def set_light_backlight (s : Lights) (state : light_state_t) : Lights :=
  { s with lcd := some (rgb_to_brightness state) }

/-- A call of one of the lights. -/
inductive LightAction where
  | attention (state : light_state_t)
  | notifications (state : light_state_t)
  | battery (dev : Bool) (state : light_state_t)
  | backlight (state : light_state_t)

/-- The calls come in any order, each under the lock. -/
def lightStep (s : Lights) : LightAction → Option Lights
  | .attention state => some (set_light_attention s state)
  | .notifications state => some (set_light_notifications s state)
  | .battery dev state => some (set_light_battery s dev state)
  | .backlight state => some (set_light_backlight s state)

/-- A state of `g_lights` before the first call. -/
def unlit : light_state_t := ⟨0, 0, 0, 0⟩

/-- Before the first call. -/
def newLights : Lights where
  g_lights _ := unlit
  led := noFiles
  lcd := none

/-- The lights from their start on. -/
def lightSys : TransSys Lights LightAction where
  init s := s = newLights
  step := lightStep

/-- The most recent battery state. -/
def batteryNote (battery : light_state_t) (_ : Lights) (a : LightAction)
    (_ : Lights) : light_state_t :=
  match a with
  | .battery true state => state
  | _ => battery

/-- The system with the most recent battery state. -/
def ledSys : TransSys (Lights × light_state_t) LightAction :=
  watched lightSys unlit batteryNote

/-! ## What the LED is to show -/

/-- The lit one of the stored lights that comes first. -/
def topStored (g_lights : LightSlot → light_state_t) : Option light_state_t :=
  if is_lit (g_lights .ATTENTION) then some (g_lights .ATTENTION)
  else if is_lit (g_lights .NOTIFICATION) then some (g_lights .NOTIFICATION)
  else none

/-- What the lit light of the highest priority writes on its own, if one is
    lit. -/
def topWrites (p : Lights × light_state_t) : Option Files :=
  match topStored p.1.g_lights with
  | some state => some (set_light_locked state noFiles)
  | none => if is_lit p.2 then some (battery_locked p.2 noFiles) else none

/-- The brightness last written is 0, if there is one, and the LED does not
    blink: `set_light_locked` writes 100 for a steady light. -/
def LedOff (files : Files) : Prop :=
  (files .GREEN_LED_BRIGHTNESS_FILE).getD 0 = 0 ∧
    (files .RED_LED_BRIGHTNESS_FILE).getD 0 = 0 ∧
    (files .GREEN_LED_PWM_FILE).getD 100 = 100

/-- **LED PRIORITY**: the values last written are those of the lit light of
    the highest priority, and the LED is off if and only if none is lit. -/
structure LedShows (p : Lights × light_state_t) : Prop where
  shown : ∀ own ∈ topWrites p, ∀ path v, own path = some v →
    p.1.led path = some v
  off_iff : LedOff p.1.led ↔ is_lit (p.1.g_lights .ATTENTION) = false ∧
    is_lit (p.1.g_lights .NOTIFICATION) = false ∧ is_lit p.2 = false

/-! ## What is written -/

/-- What `set_light_locked` leaves in the file of the green brightness. -/
def lockedGreen (state : light_state_t) : Int32 :=
  if blink state then fake_pwm state else brightness_level state

/-- And in that of its pulse width. -/
def lockedPwm (state : light_state_t) : Int32 :=
  if blink state then pwm state else 100

theorem locked_spec (state : light_state_t) (files : Files) :
    set_light_locked state files = fun path => match path with
      | .GREEN_LED_BRIGHTNESS_FILE => some (lockedGreen state)
      | .RED_LED_BRIGHTNESS_FILE => some 0
      | .GREEN_LED_PWM_FILE => some (lockedPwm state)
      | .RED_LED_PWM_FILE => files .RED_LED_PWM_FILE := by
  rw [set_light_locked, lockedGreen, lockedPwm]
  funext path
  cases blink state <;> cases path <;> rfl

/-- The red LED is on for the battery state. -/
def batteryRed (state : light_state_t) : Bool :=
  is_lit state && decide (level state ≤ 15 ∨ level state ≤ 99)

/-- The green LED is. -/
def batteryGreen (state : light_state_t) : Bool :=
  is_lit state && decide (¬ level state ≤ 15)

theorem battery_spec (state : light_state_t) (files : Files) :
    battery_locked state files = fun path => match path with
      | .GREEN_LED_BRIGHTNESS_FILE =>
          some (if batteryGreen state then 255 else 0)
      | .RED_LED_BRIGHTNESS_FILE =>
          some (if batteryRed state then 255 else 0)
      | .GREEN_LED_PWM_FILE =>
          if batteryGreen state then some 100 else files .GREEN_LED_PWM_FILE
      | .RED_LED_PWM_FILE =>
          if batteryRed state then some 100 else files .RED_LED_PWM_FILE := by
  rw [battery_locked, batteryGreen, batteryRed]
  funext path
  cases is_lit state with
  | false => cases path <;> rfl
  | true =>
      by_cases h15 : level state ≤ 15
      · simp only [h15, if_true]
        cases path <;> rfl
      · by_cases h99 : level state ≤ 99
        · simp only [h15, h99, if_true, if_false]
          cases path <;> rfl
        · simp only [h15, h99, if_true, if_false]
          cases path <;> rfl

/-! ## On and off -/

/-- A pulse width of a blinking light is not that of a steady one, even if
    the product wraps. -/
theorem pwm_ne (state : light_state_t) : pwm state ≠ 100 := by
  intro h
  have hnat := congrArg (fun x : Int32 => x.toBitVec.toNat) h
  simp only [pwm, Int32.toBitVec_mul, BitVec.toNat_mul] at hnat
  change (_ * 1000) % 2 ^ 32 = 100 at hnat
  omega

theorem lockedPwm_eq (state : light_state_t) :
    lockedPwm state = 100 ↔ blink state = false := by
  rw [lockedPwm]
  cases blink state with
  | false => exact ⟨fun _ => rfl, fun _ => rfl⟩
  | true =>
      refine ⟨fun h => absurd h (pwm_ne state), fun h => ?_⟩
      cases h

/-- A number whose high byte alone may be set is zero if the byte is. -/
theorem high_byte {y : Nat} (hm : y &&& 0xff000000 = y) (h : y / 2 ^ 24 = 0) :
    y = 0 := by
  have hlt : y < 2 ^ 24 := by omega
  have hlow : y &&& (2 ^ 24 - 1) = y := by
    rw [Nat.and_two_pow_sub_one_eq_mod, Nat.mod_eq_of_lt hlt]
  rw [← hm, ← hlow, Nat.and_assoc]
  exact Nat.and_zero y

/-- An alpha that is there is a brightness. -/
theorem alpha_ne {color : UInt32} (h : color &&& 0xff000000 ≠ 0) :
    ((color &&& 0xff000000) >>> 24).toInt32 ≠ 0 := by
  intro h0
  have hshift : (color &&& 0xff000000) >>> 24 = 0 :=
    congrArg Int32.toUInt32 h0
  have hnat := congrArg UInt32.toNat hshift
  rw [UInt32.toNat_shiftRight, Nat.shiftRight_eq_div_pow] at hnat
  apply h
  rw [← UInt32.toNat_inj]
  refine high_byte ?_ hnat
  show color.toNat &&& 0xff000000 &&& 0xff000000 = color.toNat &&& 0xff000000
  rw [Nat.and_assoc]
  rfl

/-- A steady light has brightness 0 if and only if it is not lit. -/
theorem brightness_level_eq (state : light_state_t) :
    brightness_level state = 0 ↔ is_lit state = false := by
  rw [brightness_level]
  cases is_lit state with
  | false => exact ⟨fun _ => rfl, fun _ => rfl⟩
  | true =>
      rw [if_pos rfl]
      refine ⟨fun h => ?_, fun h => by cases h⟩
      by_cases halpha : state.color &&& 0xff000000 ≠ 0
      · rw [if_pos halpha] at h
        exact absurd h (alpha_ne halpha)
      · rw [if_neg halpha] at h
        exact absurd h (by decide)

/-- **ONE STORED LIGHT** written: the LED is off if and only if the light is
    not lit and does not blink. -/
theorem locked_off (state : light_state_t) (files : Files) :
    LedOff (set_light_locked state files) ↔
      is_lit state = false ∧ blink state = false := by
  rw [locked_spec]
  show lockedGreen state = 0 ∧ (0 : Int32) = 0 ∧ lockedPwm state = 100 ↔ _
  rw [lockedPwm_eq, lockedGreen]
  cases blink state with
  | false =>
      rw [if_neg Bool.false_ne_true, brightness_level_eq]
      exact ⟨fun h => ⟨h.1, rfl⟩, fun h => ⟨h.1, rfl, rfl⟩⟩
  | true => exact ⟨fun h => absurd h.2.2 (by decide), fun h => absurd h.2 (by decide)⟩

/-- **A BATTERY STATE** written: the LED is off if and only if the light is
    not lit and no light was blinking. -/
theorem battery_off (state : light_state_t) (files : Files) :
    LedOff (battery_locked state files) ↔
      is_lit state = false ∧ (files .GREEN_LED_PWM_FILE).getD 100 = 100 := by
  rw [battery_spec]
  show (if batteryGreen state then (255 : Int32) else 0) = 0 ∧
    (if batteryRed state then (255 : Int32) else 0) = 0 ∧
    Option.getD (if batteryGreen state then some 100
      else files .GREEN_LED_PWM_FILE) 100 = 100 ↔ _
  rw [batteryGreen, batteryRed]
  cases is_lit state with
  | false => exact ⟨fun h => ⟨rfl, h.2.2⟩, fun h => ⟨rfl, rfl, h.2⟩⟩
  | true =>
      refine ⟨fun h => ?_, fun h => by cases h.1⟩
      -- one of the two is on
      by_cases h15 : level state ≤ 15
      · simp [h15] at h
      · simp [h15] at h

/-- What a light writes does not depend on what was written before. -/
theorem locked_shown (state : light_state_t) (files : Files) {path : LedFile}
    {v : Int32} (h : set_light_locked state noFiles path = some v) :
    set_light_locked state files path = some v := by
  rw [locked_spec] at h ⊢
  cases path with
  | RED_LED_PWM_FILE => cases h
  | _ => exact h

theorem battery_shown (state : light_state_t) (files : Files) {path : LedFile}
    {v : Int32} (h : battery_locked state noFiles path = some v) :
    battery_locked state files path = some v := by
  rw [battery_spec] at h ⊢
  cases path with
  | GREEN_LED_PWM_FILE =>
      revert h
      cases batteryGreen state with
      | false => exact fun h => by cases h
      | true => exact id
  | RED_LED_PWM_FILE =>
      revert h
      cases batteryRed state with
      | false => exact fun h => by cases h
      | true => exact id
  | _ => exact h

/-! ## The calls that keep the priority -/

/-- A stored light may be changed, with these `g_lights` after it: another is
    lit then, or no battery state is and the new state does not blink. -/
def StoredYields (g_lights : LightSlot → light_state_t)
    (state battery : light_state_t) : Prop :=
  topStored g_lights ≠ none ∨ (is_lit battery = false ∧ blink state = false)

/-- A battery state may be written: no stored light is lit, or the one that
    is shows the same. -/
def BatteryYields (state : light_state_t) : Option light_state_t → Prop
  | none => True
  | some top =>
      (is_lit state = true ∧ ¬ level state ≤ 15 ∧ ¬ level state ≤ 99 ∧
        blink top = false ∧ brightness_level top = 255) ∨
      (is_lit state = false ∧ blink top = true ∧ fake_pwm top = 0)

/-- A call that keeps the priority. -/
def Yields (p : Lights × light_state_t) : LightAction → Prop
  | .attention state =>
      StoredYields (put p.1.g_lights (.ATTENTION, state)) state p.2
  | .notifications state =>
      StoredYields (put p.1.g_lights (.NOTIFICATION, state)) state p.2
  | .battery dev state =>
      dev = false ∨ BatteryYields state (topStored p.1.g_lights)
  | .backlight _ => True

theorem topStored_none {g_lights : LightSlot → light_state_t} :
    topStored g_lights = none ↔ is_lit (g_lights .ATTENTION) = false ∧
      is_lit (g_lights .NOTIFICATION) = false := by
  rw [topStored]
  cases ha : is_lit (g_lights .ATTENTION) with
  | true => simp
  | false => cases hn : is_lit (g_lights .NOTIFICATION) <;> simp

theorem topStored_lit {g_lights : LightSlot → light_state_t}
    {state : light_state_t} (h : topStored g_lights = some state) :
    is_lit state = true := by
  rw [topStored] at h
  cases ha : is_lit (g_lights .ATTENTION) with
  | true =>
      rw [ha] at h
      obtain rfl := Option.some.inj h
      exact ha
  | false =>
      cases hn : is_lit (g_lights .NOTIFICATION) with
      | true =>
          rw [ha, hn] at h
          obtain rfl := Option.some.inj h
          exact hn
      | false =>
          rw [ha, hn] at h
          cases h

/-- What `handle_led_prioritized_locked` writes. -/
theorem handle_eq (g_lights : LightSlot → light_state_t)
    (state : light_state_t) (files : Files) :
    handle_led_prioritized_locked g_lights state files
      = set_light_locked ((topStored g_lights).getD state) files := by
  rw [handle_led_prioritized_locked, topStored]
  cases is_lit (g_lights .ATTENTION) with
  | true => rfl
  | false => cases is_lit (g_lights .NOTIFICATION) <;> rfl

/-- The priority, and a steady pulse width when no stored light is lit. -/
structure LedLaw (p : Lights × light_state_t) : Prop where
  shows : LedShows p
  steady : topStored p.1.g_lights = none →
    (p.1.led .GREEN_LED_PWM_FILE).getD 100 = 100

/-- With a stored light lit, the LED shows the priority if and only if it
    shows that light and is on. -/
theorem ledShows_some {p : Lights × light_state_t} {top : light_state_t}
    (h : topStored p.1.g_lights = some top) :
    LedShows p ↔ (∀ path v, set_light_locked top noFiles path = some v →
      p.1.led path = some v) ∧ ¬ LedOff p.1.led := by
  have hwrites : topWrites p = some (set_light_locked top noFiles) := by
    rw [topWrites, h]
  have hlit : ¬ (is_lit (p.1.g_lights .ATTENTION) = false ∧
      is_lit (p.1.g_lights .NOTIFICATION) = false ∧ is_lit p.2 = false) := by
    rintro ⟨ha, hn, -⟩
    rw [topStored_none.mpr ⟨ha, hn⟩] at h
    cases h
  constructor
  · intro hs
    exact ⟨hs.shown _ hwrites, fun hoff => hlit (hs.off_iff.mp hoff)⟩
  · rintro ⟨hshown, hon⟩
    refine ⟨fun own hown => ?_, fun hoff => absurd hoff hon,
      fun hnone => absurd hnone hlit⟩
    rw [hwrites] at hown
    obtain rfl := Option.some.inj hown
    exact hshown

/-- With none lit, if and only if it shows the battery state, and is off if
    that is not lit. -/
theorem ledShows_none {p : Lights × light_state_t}
    (h : topStored p.1.g_lights = none) :
    LedShows p ↔ (is_lit p.2 = true →
        ∀ path v, battery_locked p.2 noFiles path = some v →
          p.1.led path = some v) ∧
      (LedOff p.1.led ↔ is_lit p.2 = false) := by
  have hdark := topStored_none.mp h
  have hwrites : topWrites p
      = if is_lit p.2 then some (battery_locked p.2 noFiles) else none := by
    rw [topWrites, h]
  constructor
  · intro hs
    refine ⟨fun hlit => hs.shown _ (by rw [hwrites, if_pos hlit]; rfl), ?_⟩
    rw [hs.off_iff]
    exact ⟨fun hl => hl.2.2, fun hl => ⟨hdark.1, hdark.2, hl⟩⟩
  · rintro ⟨hshown, hoff⟩
    refine ⟨fun own hown => ?_, ?_⟩
    · rw [hwrites] at hown
      by_cases hlit : is_lit p.2 = true
      · rw [if_pos hlit] at hown
        obtain rfl := Option.some.inj hown
        exact hshown hlit
      · rw [if_neg hlit] at hown
        cases hown
    · rw [hoff]
      exact ⟨fun hl => ⟨hdark.1, hdark.2, hl⟩, fun hl => hl.2.2⟩

/-! ## A stored light -/

/-- A state that is not lit never shows a battery state that is. -/
theorem battery_hidden {state battery : light_state_t} {files : Files}
    (hstate : is_lit state = false) (hbattery : is_lit battery = true) :
    ¬ (∀ path v, battery_locked battery noFiles path = some v →
      set_light_locked state files path = some v) := by
  intro h
  rw [locked_spec] at h
  simp only [battery_spec] at h
  cases hred : batteryRed battery with
  | true =>
      have hr := h .RED_LED_BRIGHTNESS_FILE 255 (by rw [hred]; rfl)
      exact absurd (Option.some.inj hr) (by decide)
  | false =>
      -- the battery is full, and the green LED is on
      have hgreen : batteryGreen battery = true := by
        rw [batteryRed, hbattery] at hred
        rw [batteryGreen, hbattery]
        simp only [Bool.true_and, decide_eq_false_iff_not, not_or] at hred
        simp [hred.1]
      have hg := h .GREEN_LED_BRIGHTNESS_FILE 255 (by rw [hgreen]; rfl)
      have hp := h .GREEN_LED_PWM_FILE 100 (by rw [hgreen]; rfl)
      have hblink := (lockedPwm_eq state).mp (Option.some.inj hp)
      have hlevel : lockedGreen state = 255 := Option.some.inj hg
      rw [lockedGreen, hblink, if_neg Bool.false_ne_true,
        (brightness_level_eq state).mpr hstate] at hlevel
      exact absurd hlevel (by decide)

/-- The call writes the stored light on top, or the one it was called
    with. -/
theorem setStored_led (slot : LightSlot) (s : Lights) (state : light_state_t) :
    (setStored slot s state).led = set_light_locked
      ((topStored (put s.g_lights (slot, state))).getD state) s.led :=
  handle_eq _ _ _

/-- **A STORED LIGHT** changes: the LED shows the priority after it if and
    only if the call yields to what is lit. -/
theorem stored_shows_iff (slot : LightSlot) (s : Lights)
    (state battery : light_state_t)
    (hslot : topStored (put s.g_lights (slot, state)) = none →
      is_lit state = false) :
    LedShows (setStored slot s state, battery) ↔
      StoredYields (put s.g_lights (slot, state)) state battery := by
  have hled := setStored_led slot s state
  cases htop : topStored (put s.g_lights (slot, state)) with
  | some top =>
      have hlit := topStored_lit htop
      rw [htop] at hled
      rw [ledShows_some (p := (setStored slot s state, battery)) htop, hled]
      refine ⟨fun _ => Or.inl (by rw [htop]; rintro ⟨⟩), fun _ => ⟨?_, ?_⟩⟩
      · exact fun path v hv => locked_shown top s.led hv
      · rw [Option.getD_some, locked_off, hlit]
        rintro ⟨⟨⟩, -⟩
  | none =>
      have hdark := hslot htop
      rw [htop] at hled
      rw [ledShows_none (p := (setStored slot s state, battery)) htop, hled,
        StoredYields, htop, Option.getD_none, locked_off]
      cases hb : is_lit battery with
      | true =>
          constructor
          · rintro ⟨hshown, -⟩
            exact absurd (hshown rfl) (battery_hidden hdark hb)
          · rintro (hne | ⟨⟨⟩, -⟩)
            exact absurd rfl hne
      | false =>
          constructor
          · rintro ⟨-, hoff⟩
            exact Or.inr ⟨rfl, (hoff.mpr rfl).2⟩
          · rintro (hne | ⟨-, hblink⟩)
            · exact absurd rfl hne
            · exact ⟨fun h => (by cases h), fun _ => rfl,
                fun _ => ⟨hdark, hblink⟩⟩

/-- And the pulse width is steady if no stored light is lit. -/
theorem stored_steady {slot : LightSlot} {s : Lights}
    {state battery : light_state_t}
    (h : StoredYields (put s.g_lights (slot, state)) state battery)
    (hnone : topStored (setStored slot s state).g_lights = none) :
    ((setStored slot s state).led .GREEN_LED_PWM_FILE).getD 100 = 100 := by
  have htop : topStored (put s.g_lights (slot, state)) = none := hnone
  have hblink := (h.resolve_left (fun hne => hne htop)).2
  have hled := setStored_led slot s state
  rw [hled, htop, Option.getD_none, locked_spec]
  exact (lockedPwm_eq state).mpr hblink

/-! ## A battery state -/

/-- When a battery state shows what a light that was written last shows. -/
theorem battery_agrees_iff (state top : light_state_t) {files : Files}
    (hpwm : files .GREEN_LED_PWM_FILE = some (lockedPwm top)) :
    (∀ path v, set_light_locked top noFiles path = some v →
        battery_locked state files path = some v) ↔
      (if batteryGreen state then 255 else 0) = lockedGreen top ∧
        batteryRed state = false ∧
        (batteryGreen state = true → blink top = false) := by
  rw [locked_spec, battery_spec]
  constructor
  · intro h
    have hgreen := Option.some.inj (h .GREEN_LED_BRIGHTNESS_FILE _ rfl)
    have hred := Option.some.inj (h .RED_LED_BRIGHTNESS_FILE _ rfl)
    have hwidth := h .GREEN_LED_PWM_FILE _ rfl
    refine ⟨hgreen, ?_, fun hon => ?_⟩
    · by_contra hon
      rw [Bool.not_eq_false] at hon
      rw [if_pos hon] at hred
      exact absurd hred (by decide)
    · dsimp only at hwidth
      rw [if_pos hon] at hwidth
      exact (lockedPwm_eq top).mp (Option.some.inj hwidth).symm
  · rintro ⟨hgreen, hred, hblink⟩ path v hv
    rw [← hv]
    cases path with
    | GREEN_LED_BRIGHTNESS_FILE => exact congrArg some hgreen
    | RED_LED_BRIGHTNESS_FILE =>
        show some (if batteryRed state then (255 : Int32) else 0) = some 0
        rw [hred]
        rfl
    | GREEN_LED_PWM_FILE =>
        show (if batteryGreen state then some 100
          else files .GREEN_LED_PWM_FILE) = some (lockedPwm top)
        by_cases hon : batteryGreen state = true
        · rw [if_pos hon, (lockedPwm_eq top).mpr (hblink hon)]
        · rw [if_neg hon, hpwm]
    | RED_LED_PWM_FILE => cases hv

/-- **A BATTERY STATE** is written: the LED shows the priority after it if
    and only if no other light is lit, or the one that is shows the same. -/
theorem battery_shows_iff {p : Lights × light_state_t} (h : LedLaw p)
    (state : light_state_t) :
    LedShows (set_light_battery p.1 true state, state) ↔
      BatteryYields state (topStored p.1.g_lights) := by
  have hled : (set_light_battery p.1 true state).led
      = battery_locked state p.1.led := rfl
  cases htop : topStored p.1.g_lights with
  | none =>
      rw [ledShows_none (p := (set_light_battery p.1 true state, state)) htop,
        hled, battery_off, h.steady htop]
      refine ⟨fun _ => trivial, fun _ => ⟨fun _ path v hv => ?_, ?_⟩⟩
      · exact battery_shown state p.1.led hv
      · exact ⟨fun hoff => hoff.1, fun hl => ⟨hl, rfl⟩⟩
  | some top =>
      have hlit := topStored_lit htop
      have hbefore := ((ledShows_some htop).mp h.shows).1
      rw [ledShows_some (p := (set_light_battery p.1 true state, state)) htop,
        hled, battery_off]
      -- what was written for the light that is lit
      have hpwm : p.1.led .GREEN_LED_PWM_FILE = some (lockedPwm top) :=
        hbefore _ _ (by rw [locked_spec])
      rw [battery_agrees_iff state top hpwm, hpwm, Option.getD_some,
        lockedPwm_eq, batteryGreen, batteryRed, lockedGreen, BatteryYields]
      cases hs : is_lit state with
      | false =>
          cases hb : blink top with
          | false => simp
          | true => simp [eq_comm]
      | true =>
          by_cases h15 : level state ≤ 15
          · simp [h15]
          · by_cases h99 : level state ≤ 99
            · simp [h99]
            · cases hb : blink top with
              | false => simp [h15, h99, eq_comm]
              | true => simp [h15]

/-- And the pulse width stays steady if no stored light is lit. -/
theorem battery_steady {p : Lights × light_state_t} (h : LedLaw p)
    (state : light_state_t) (htop : topStored p.1.g_lights = none) :
    ((set_light_battery p.1 true state).led .GREEN_LED_PWM_FILE).getD 100
      = 100 := by
  show (battery_locked state p.1.led .GREEN_LED_PWM_FILE).getD 100 = 100
  rw [battery_spec]
  dsimp only
  by_cases hon : batteryGreen state = true
  · rw [if_pos hon]
    rfl
  · rw [if_neg hon]
    exact h.steady htop

/-! ## Every run -/

/-- A stored light that is lit is lit in `g_lights`. -/
theorem dark_of_topStored (slot : LightSlot)
    (g_lights : LightSlot → light_state_t) (state : light_state_t)
    (hslot : slot ≠ .BATTERY)
    (h : topStored (put g_lights (slot, state)) = none) :
    is_lit state = false := by
  obtain ⟨ha, hn⟩ := topStored_none.mp h
  cases slot with
  | ATTENTION => exact ha
  | NOTIFICATION => exact hn
  | BATTERY => exact absurd rfl hslot

/-- **ONE CALL** shows the priority after it if and only if it yields. -/
theorem ledShows_step_iff {p p' : Lights × light_state_t} {a : LightAction}
    (h : LedLaw p) (hs : ledSys.step p a = some p') :
    LedShows p' ↔ Yields p a := by
  obtain ⟨s', battery'⟩ := p'
  obtain ⟨hstep, hnote⟩ := watched_step hs
  dsimp only at hstep hnote
  cases a with
  | attention state =>
      obtain rfl := Option.some.inj hstep
      rw [hnote]
      exact stored_shows_iff .ATTENTION p.1 state p.2
        (dark_of_topStored .ATTENTION _ _ (by rintro ⟨⟩))
  | notifications state =>
      obtain rfl := Option.some.inj hstep
      rw [hnote]
      exact stored_shows_iff .NOTIFICATION p.1 state p.2
        (dark_of_topStored .NOTIFICATION _ _ (by rintro ⟨⟩))
  | battery dev state =>
      obtain rfl := Option.some.inj hstep
      rw [hnote]
      cases dev with
      | false => exact ⟨fun _ => Or.inl rfl, fun _ => h.shows⟩
      | true =>
          refine (battery_shows_iff h state).trans ⟨Or.inr, ?_⟩
          rintro (⟨⟨⟩⟩ | hyields)
          exact hyields
  | backlight state =>
      obtain rfl := Option.some.inj hstep
      rw [hnote]
      exact ⟨fun _ => trivial, fun _ => ⟨h.shows.shown, h.shows.off_iff⟩⟩

/-- A call that yields keeps the law. -/
theorem ledLaw_step {p p' : Lights × light_state_t} {a : LightAction}
    (h : LedLaw p) (hg : Yields p a) (hs : ledSys.step p a = some p') :
    LedLaw p' := by
  refine ⟨(ledShows_step_iff h hs).mpr hg, ?_⟩
  obtain ⟨s', battery'⟩ := p'
  obtain ⟨hstep, -⟩ := watched_step hs
  dsimp only at hstep
  cases a with
  | attention state =>
      obtain rfl := Option.some.inj hstep
      exact stored_steady hg
  | notifications state =>
      obtain rfl := Option.some.inj hstep
      exact stored_steady hg
  | battery dev state =>
      obtain rfl := Option.some.inj hstep
      cases dev with
      | false => exact h.steady
      | true => exact fun htop => battery_steady h state htop
  | backlight state =>
      obtain rfl := Option.some.inj hstep
      exact h.steady

theorem ledLaw_init : LedLaw (newLights, unlit) := by
  have htop : topStored newLights.g_lights = none := rfl
  refine ⟨(ledShows_none (p := (newLights, unlit)) htop).mpr ⟨?_, ?_⟩,
    fun _ => rfl⟩
  · exact fun hlit => by cases hlit
  · exact ⟨fun _ => rfl, fun _ => ⟨rfl, rfl, rfl⟩⟩

/-- **THE PRIORITY** is shown along a run if and only if all its calls
    yield. -/
theorem led_priority_iff (l : List LightAction) :
    HoldsAlong ledSys LedShows (newLights, unlit) l ↔
      StepsMeet ledSys Yields (newLights, unlit) l :=
  holdsAlong_iff_stepsMeet (fun _ h => h.shows)
    (fun _ _ _ h hg hs => ledLaw_step h hg hs)
    (fun _ _ _ h hg hs hshows => hg ((ledShows_step_iff h hs).mp hshows))
    l ledLaw_init

/-! ## A battery state over a notification -/

/-- A red notification that does not flash. -/
def redNotification : light_state_t := ⟨0x00ff0000, 0, 0, 0⟩

/-- The battery at half its charge. -/
def halfCharged : light_state_t := ⟨0x32ffff00, 0, 0, 0⟩

/-- The battery state is shown although a notification is lit. -/
theorem battery_over_notification :
    ¬ HoldsAlong ledSys LedShows (newLights, unlit)
      [.notifications redNotification, .battery true halfCharged] := by
  intro h
  have hshown := (h.last rfl).shown _ rfl .RED_LED_BRIGHTNESS_FILE 0 (by
    decide)
  revert hshown
  decide

end QcomLights
