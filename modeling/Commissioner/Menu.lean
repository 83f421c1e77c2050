import Commissioner.Python
import Commissioner.Session

/-!
# The configuration menus

`configure_button_timeout`, `configure_led_settings`, `configure_phy_options` and
`configure_vidpid` read what the user types, check it, and make at most one call
`device.send_config_command(vendor_command_id, param_value)`.  Each is modelled as the call it
makes, `none` when it returns first: on a failed check, an answer other than the confirmation,
a `ValueError` from `int`, or an exception from `input`.
-/

namespace Commissioner

/-- `CTAP_CONFIG_PHY_VIDPID`. -/
def ctapConfigPhyVidpid : Int := 0x6fcb19b0cbe3acfa

/-- `CTAP_CONFIG_PHY_LED_BTNESS`. -/
def ctapConfigPhyLedBtness : Int := 0x76a85945985d02fd

/-- `CTAP_CONFIG_PHY_LED_GPIO`. -/
def ctapConfigPhyLedGpio : Int := 0x7b392a394de9f948

/-- `CTAP_CONFIG_PHY_OPTS`. -/
def ctapConfigPhyOpts : Int := 0x269f3b09eceb805f

/-- `CTAP_CONFIG_PHY_UP_BTN`. -/
def ctapConfigPhyUpBtn : Int := 0x1a2b3c4d5e6f7890

/-- A call `device.send_config_command(vendor_command_id, param_value)`. -/
structure ConfigCall where
  vendorCommandId : Int
  paramValue : Int
deriving DecidableEq, Repr

/-- `if value < 0 or value > high: return`, then `device.send_config_command(id, value)`. -/
def boundedCall (id high value : Int) : Option ConfigCall :=
  if value < 0 ∨ value > high then none else some ⟨id, value⟩

/-- `int(input(...) or default)`, checked against `high`, then sent under `id`. -/
def entryCall (decimal : Char → Option (Fin 10)) (entry : Outcome String) (default : String)
    (id high : Int) : Option ConfigCall :=
  match entry with
  | .raises _ => none
  | .returns entry =>
      (Python.int decimal (if entry = "" then default else entry) 10).bind (boundedCall id high)

/-- `configure_button_timeout`, given what `IntPrompt.ask("...", default=30)` returns (it asks
again until the answer is an integer). -/
def configureButtonTimeout : Outcome Int → Option ConfigCall
  | .returns timeout => boundedCall ctapConfigPhyUpBtn 255 timeout
  | .raises _ => none

/-- What the user types at the LED menu. -/
structure LedInputs where
  /-- `input("\nSelect option (0-2): ")`. -/
  choice : Outcome String
  /-- The GPIO pin number or the brightness. -/
  value : Outcome String

/-- `configure_led_settings`. -/
def configureLedSettings (decimal : Char → Option (Fin 10)) (inputs : LedInputs) :
    Option ConfigCall :=
  match inputs.choice with
  | .raises _ => none
  | .returns choice =>
      let choice := Python.strip choice
      if choice = "0" then none
      else if choice = "1" then entryCall decimal inputs.value "25" ctapConfigPhyLedGpio 29
      else if choice = "2" then entryCall decimal inputs.value "128" ctapConfigPhyLedBtness 255
      else none

/-- What the user types at the PHY options menu. -/
structure PhyInputs where
  /-- `input("\nEnter current PHY options value (press Enter to skip): ")`. -/
  current : Outcome String
  /-- `input("> ")`, the new value. -/
  optsValue : Outcome String
  /-- `input("\nApply this configuration? (y/n): ")`. -/
  confirm : Outcome String

/-- `configure_phy_options`.  A current value that is not an integer raises in `bin(int(current))`
and ends the menu. -/
def configurePhyOptions (decimal : Char → Option (Fin 10)) (inputs : PhyInputs) :
    Option ConfigCall :=
  match inputs.current with
  | .raises _ => none
  | .returns current =>
      let current := Python.strip current
      if current ≠ "" ∧ Python.int decimal current 10 = none then none else
      match entryCall decimal inputs.optsValue "0" ctapConfigPhyOpts 15, inputs.confirm with
      | some call, .returns confirm =>
          if Python.lower (Python.strip confirm) = "y" then some call else none
      | _, _ => none

/-- What the user types at the VID/PID menu. -/
structure VidpidInputs where
  /-- `input("\nDo you want to continue? (yes/no): ")`. -/
  confirm : Outcome String
  /-- `input("VID (hex): ")`. -/
  vid : Outcome String
  /-- `input("PID (hex): ")`. -/
  pid : Outcome String
  /-- `input("\nAre you ABSOLUTELY sure? (type 'YES' to confirm): ")`. -/
  finalConfirm : Outcome String

/-- `vid_str`, `pid_str`: `s.strip().replace('0x', '').replace('0X', '')`. -/
def hexStr (s : String) : String :=
  Python.replace (Python.replace (Python.strip s) '0' 'x') '0' 'X'

/-- `int(vid_str, 16)`: a VID or PID as `configure_vidpid` reads it. -/
def hexValue (decimal : Char → Option (Fin 10)) (s : String) : Option Int :=
  Python.int decimal (hexStr s) 16

/-- `vidpid_value = (vid << 16) | pid`, on the non-negative `vid` and `pid` the checks let
through, where Python's `<<` and `|` are those of `Nat`. -/
def vidpidValue (vid pid : Int) : Int :=
  ((vid.toNat <<< 16 ||| pid.toNat : Nat) : Int)

/-- `configure_vidpid`. -/
def configureVidpid (decimal : Char → Option (Fin 10)) (inputs : VidpidInputs) :
    Option ConfigCall :=
  match inputs.confirm, inputs.vid, inputs.pid, inputs.finalConfirm with
  | .returns confirm, .returns vidIn, .returns pidIn, .returns final =>
      if Python.lower (Python.strip confirm) ≠ "yes" then none else
      match hexValue decimal vidIn, hexValue decimal pidIn with
      | some vid, some pid =>
          if vid < 0 ∨ vid > 0xFFFF then none
          else if pid < 0 ∨ pid > 0xFFFF then none
          else if Python.strip final ≠ "YES" then none
          else some ⟨ctapConfigPhyVidpid, vidpidValue vid pid⟩
      | _, _ => none
  | _, _, _, _ => none

/-! ## The values the menus send -/

theorem boundedCall_range {id high value : Int} {call : ConfigCall}
    (h : boundedCall id high value = some call) :
    call.vendorCommandId = id ∧ 0 ≤ call.paramValue ∧ call.paramValue ≤ high := by
  unfold boundedCall at h
  split_ifs at h with hout
  cases h
  refine ⟨rfl, ?_, ?_⟩ <;> dsimp only <;> omega

theorem entryCall_range {decimal : Char → Option (Fin 10)} {entry : Outcome String}
    {default : String} {id high : Int} {call : ConfigCall}
    (h : entryCall decimal entry default id high = some call) :
    call.vendorCommandId = id ∧ 0 ≤ call.paramValue ∧ call.paramValue ≤ high := by
  cases entry with
  | raises => cases h
  | returns entry =>
      obtain ⟨_, -, hcall⟩ := Option.bind_eq_some.mp h
      exact boundedCall_range hcall

/-- Packing a VID and a PID of 16 bits each: the value fits 32 bits, and its upper and lower
halves give them back. -/
theorem vidpidValue_unpack {vid pid : Int} (hvid : 0 ≤ vid ∧ vid ≤ 0xFFFF)
    (hpid : 0 ≤ pid ∧ pid ≤ 0xFFFF) :
    0 ≤ vidpidValue vid pid ∧ vidpidValue vid pid < 2 ^ 32 ∧
      vidpidValue vid pid >>> 16 = vid ∧ Int.land (vidpidValue vid pid) 0xFFFF = pid := by
  have hpack : vid.toNat <<< 16 ||| pid.toNat = 2 ^ 16 * vid.toNat + pid.toNat := by
    rw [Nat.shiftLeft_eq, Nat.mul_comm, ← Nat.mul_add_lt_is_or (by omega)]
  have hshift : (2 ^ 16 * vid.toNat + pid.toNat) >>> 16 = vid.toNat := by
    rw [Nat.shiftRight_eq_div_pow]; omega
  have hmask : (2 ^ 16 * vid.toNat + pid.toNat) &&& 0xFFFF = pid.toNat := by
    rw [show (0xFFFF : Nat) = 2 ^ 16 - 1 by norm_num, Nat.and_pow_two_sub_one_eq_mod]; omega
  unfold vidpidValue
  rw [hpack]
  refine ⟨by omega, by omega, ?_, ?_⟩
  · change ((((2 ^ 16 * vid.toNat + pid.toNat) >>> 16 : Nat)) : Int) = vid
    rw [hshift]; omega
  · change ((((2 ^ 16 * vid.toNat + pid.toNat) &&& 0xFFFF : Nat)) : Int) = pid
    rw [hmask]; omega

theorem configureButtonTimeout_range {timeout : Outcome Int} {call : ConfigCall}
    (h : configureButtonTimeout timeout = some call) :
    call.vendorCommandId = ctapConfigPhyUpBtn ∧ 0 ≤ call.paramValue ∧ call.paramValue ≤ 255 := by
  cases timeout with
  | returns timeout => exact boundedCall_range h
  | raises => cases h

theorem configureLedSettings_range {decimal : Char → Option (Fin 10)} {inputs : LedInputs}
    {call : ConfigCall} (h : configureLedSettings decimal inputs = some call) :
    (call.vendorCommandId = ctapConfigPhyLedGpio ∧ 0 ≤ call.paramValue ∧ call.paramValue ≤ 29) ∨
    (call.vendorCommandId = ctapConfigPhyLedBtness ∧ 0 ≤ call.paramValue ∧
      call.paramValue ≤ 255) := by
  unfold configureLedSettings at h
  split at h
  · cases h
  · dsimp only at h
    split_ifs at h
    · exact .inl (entryCall_range h)
    · exact .inr (entryCall_range h)

/-- The call `configure_phy_options` makes carries a value in `0..15`, and follows the answer
`y` to its confirmation prompt. -/
theorem configurePhyOptions_call {decimal : Char → Option (Fin 10)} {inputs : PhyInputs}
    {call : ConfigCall} (h : configurePhyOptions decimal inputs = some call) :
    (call.vendorCommandId = ctapConfigPhyOpts ∧ 0 ≤ call.paramValue ∧ call.paramValue ≤ 15) ∧
    ∃ confirm, inputs.confirm = .returns confirm ∧ Python.lower (Python.strip confirm) = "y" := by
  unfold configurePhyOptions at h
  split at h
  · cases h
  · dsimp only at h
    split_ifs at h
    split at h
    · rename_i confirm hentry hconfirm
      split_ifs at h with hy
      cases h
      exact ⟨entryCall_range hentry, confirm, hconfirm, hy⟩
    · cases h

/-- The call `configure_vidpid` makes carries `(vid << 16) | pid` for the VID and PID read from
the user's entries, and follows the answers `yes` and `YES` to its two confirmation prompts. -/
theorem configureVidpid_call {decimal : Char → Option (Fin 10)} {inputs : VidpidInputs}
    {call : ConfigCall} (h : configureVidpid decimal inputs = some call) :
    call.vendorCommandId = ctapConfigPhyVidpid ∧
    (∃ vidIn pidIn vid pid, inputs.vid = .returns vidIn ∧ inputs.pid = .returns pidIn ∧
      hexValue decimal vidIn = some vid ∧ hexValue decimal pidIn = some pid ∧
      (0 ≤ vid ∧ vid ≤ 0xFFFF) ∧ (0 ≤ pid ∧ pid ≤ 0xFFFF) ∧ call.paramValue = vidpidValue vid pid) ∧
    ∃ confirm final, inputs.confirm = .returns confirm ∧
      Python.lower (Python.strip confirm) = "yes" ∧
      inputs.finalConfirm = .returns final ∧ Python.strip final = "YES" := by
  unfold configureVidpid at h
  split at h
  · rename_i confirm vidIn pidIn final hc hv hp hf
    split at h
    · cases h
    rename_i hyes
    split at h
    · rename_i vid pid hvid hpid
      split at h
      · cases h
      split at h
      · cases h
      split at h
      · cases h
      rename_i hYES
      cases h
      exact ⟨rfl, ⟨vidIn, pidIn, vid, pid, hv, hp, hvid, hpid, by omega, by omega, rfl⟩,
        confirm, final, hc, not_not.mp hyes, hf, not_not.mp hYES⟩
    · cases h
  · cases h

/-- Every call a menu makes pairs the parameter id with a value in that parameter's range:
the button timeout and the LED brightness in `0..255`, the LED GPIO in `0..29`, the PHY options
in `0..15`, and for VID/PID the value `(vid << 16) | pid` of the VID and PID read from the
user's entries, which fits 32 bits and gives them back as its upper and lower halves. -/
theorem configure_calls_in_range (decimal : Char → Option (Fin 10)) :
    (∀ timeout call, configureButtonTimeout timeout = some call →
      call.vendorCommandId = ctapConfigPhyUpBtn ∧ 0 ≤ call.paramValue ∧ call.paramValue ≤ 255) ∧
    (∀ inputs call, configureLedSettings decimal inputs = some call →
      (call.vendorCommandId = ctapConfigPhyLedGpio ∧ 0 ≤ call.paramValue ∧
        call.paramValue ≤ 29) ∨
      (call.vendorCommandId = ctapConfigPhyLedBtness ∧ 0 ≤ call.paramValue ∧
        call.paramValue ≤ 255)) ∧
    (∀ inputs call, configurePhyOptions decimal inputs = some call →
      call.vendorCommandId = ctapConfigPhyOpts ∧ 0 ≤ call.paramValue ∧ call.paramValue ≤ 15) ∧
    (∀ inputs call, configureVidpid decimal inputs = some call →
      call.vendorCommandId = ctapConfigPhyVidpid ∧
      ∃ vidIn pidIn vid pid, inputs.vid = .returns vidIn ∧ inputs.pid = .returns pidIn ∧
        hexValue decimal vidIn = some vid ∧ hexValue decimal pidIn = some pid ∧
        call.paramValue = vidpidValue vid pid ∧ 0 ≤ call.paramValue ∧
        call.paramValue < 2 ^ 32 ∧ call.paramValue >>> 16 = vid ∧
        Int.land call.paramValue 0xFFFF = pid) := by
  refine ⟨fun _ _ => configureButtonTimeout_range, fun _ _ => configureLedSettings_range,
    fun _ _ h => (configurePhyOptions_call h).1, fun _ _ h => ?_⟩
  obtain ⟨hid, ⟨vidIn, pidIn, vid, pid, hv, hp, hvid, hpid, hvidRange, hpidRange, hvalue⟩, -⟩ :=
    configureVidpid_call h
  rw [hvalue]
  exact ⟨hid, vidIn, pidIn, vid, pid, hv, hp, hvid, hpid, rfl,
    vidpidValue_unpack hvidRange hpidRange⟩

example : configureVidpid (fun _ => none)
    ⟨.returns "yes", .returns "0x2E8A", .returns "10FE", .returns "YES"⟩ =
      some ⟨ctapConfigPhyVidpid, 0x2E8A10FE⟩ := by
  rfl

/-- An empty answer takes the menu's default, and each default passes its menu's own check: the
button timeout 30 (`IntPrompt.ask`'s default), the LED GPIO 25, the LED brightness 128 and the
PHY options 0. -/
theorem menu_defaults_pass (decimal : Char → Option (Fin 10)) :
    configureButtonTimeout (.returns 30) = some ⟨ctapConfigPhyUpBtn, 30⟩ ∧
    configureLedSettings decimal ⟨.returns "1", .returns ""⟩ = some ⟨ctapConfigPhyLedGpio, 25⟩ ∧
    configureLedSettings decimal ⟨.returns "2", .returns ""⟩ =
      some ⟨ctapConfigPhyLedBtness, 128⟩ ∧
    configurePhyOptions decimal ⟨.returns "", .returns "", .returns "y"⟩ =
      some ⟨ctapConfigPhyOpts, 0⟩ := by
  have hstrip : Python.strip "1" = "1" ∧ Python.strip "2" = "2" ∧ Python.strip "" = "" ∧
      Python.lower (Python.strip "y") = "y" := by decide
  have hint : Python.int decimal "25" 10 = some 25 ∧ Python.int decimal "128" 10 = some 128 ∧
      Python.int decimal "0" 10 = some 0 := by
    refine ⟨?_, ?_, ?_⟩ <;> rw [Python.int_of_ascii (by decide)] <;> decide
  refine ⟨rfl, ?_, ?_, ?_⟩ <;>
    simp [configureLedSettings, configurePhyOptions, entryCall, boundedCall, hstrip, hint]

/-! ## Reading a VID or a PID -/

theorem hexStr_numeral {s : String} {sign mark digits : List Char}
    (hs : (Python.strip s).data = sign ++ mark ++ digits)
    (hsign : sign = [] ∨ sign = ['+'] ∨ sign = ['-'])
    (hmark : mark = [] ∨ mark = ['0', 'x'] ∨ mark = ['0', 'X']) (h : Python.Numeral 16 digits) :
    (hexStr s).data = sign ++ digits := by
  have hletters : ∀ c ∈ digits, c ≠ 'x' ∧ c ≠ 'X' := fun c hc => by
    have : Python.digitValue 'x' = 33 ∧ Python.digitValue 'X' = 33 := by decide
    rcases h.mem c hc with rfl | hc
    · decide
    · exact ⟨fun h => by subst h; omega, fun h => by subst h; omega⟩
  have hx : 'x' ∉ digits := fun hc => (hletters _ hc).1 rfl
  have hX : 'X' ∉ digits := fun hc => (hletters _ hc).2 rfl
  have hchars : '+' ≠ '0' ∧ '-' ≠ '0' ∧ 'X' ≠ '0' := by decide
  simp only [hexStr, Python.replace, hs]
  rcases hsign with rfl | rfl | rfl <;> rcases hmark with rfl | rfl | rfl <;>
    simp [Python.removeAll, Python.removeAll_cons_of_ne, hchars, Python.removeAll_of_not_mem hx,
      Python.removeAll_of_not_mem hX]

/-- On an entry that is, around its white space, an optional sign, at most one `0x` or `0X`,
and a base-16 numeral, `configure_vidpid`'s reading agrees with `int(s.strip(), 16)`, and both
give the number the numeral writes. -/
theorem hexValue_agrees_with_int (decimal : Char → Option (Fin 10)) (s : String)
    {sign mark digits : List Char} (hs : (Python.strip s).data = sign ++ mark ++ digits)
    (hsign : sign = [] ∨ sign = ['+'] ∨ sign = ['-'])
    (hmark : mark = [] ∨ mark = ['0', 'x'] ∨ mark = ['0', 'X'])
    (hdigits : Python.Numeral 16 digits) :
    hexValue decimal s = Python.int decimal (Python.strip s) 16 ∧
    hexValue decimal s = some ((Python.readSign sign).1 * Python.numeralValue 16 digits) := by
  have hascii : ∀ c ∈ sign ++ mark ++ digits, c.toNat < 127 := by
    intro c hc
    simp only [List.mem_append] at hc
    rcases hc with (hc | hc) | hc
    · rcases hsign with rfl | rfl | rfl <;> simp at hc <;> subst hc <;> decide
    · rcases hmark with rfl | rfl | rfl <;> simp at hc <;> rcases hc with rfl | rfl <;> decide
    · rcases hdigits.mem c hc with rfl | hc
      · decide
      · exact (Python.digitValue_range (by omega)).2
  have hint : Python.int decimal (Python.strip s) 16 =
      some ((Python.readSign sign).1 * Python.numeralValue 16 digits) := by
    rw [Python.int_of_ascii (hs ▸ hascii), hs]
    exact Python.fromString_hex hsign hmark hdigits
  have hhex : hexValue decimal s =
      some ((Python.readSign sign).1 * Python.numeralValue 16 digits) := by
    have hdata := hexStr_numeral hs hsign hmark hdigits
    have hsub : ∀ c ∈ sign ++ digits, c ∈ sign ++ mark ++ digits := fun c hc =>
      List.mem_append.mpr ((List.mem_append.mp hc).imp (List.mem_append_left mark) id)
    rw [hexValue, Python.int_of_ascii (hdata ▸ fun c hc => hascii c (hsub c hc)), hdata]
    simpa using Python.fromString_hex hsign (.inl rfl) hdigits
  exact ⟨hhex.trans hint.symm, hhex⟩

theorem hexValue_agrees_with_int_on_2E8A :
    (Python.strip " 0x2E8A ").data = [] ++ ['0', 'x'] ++ ['2', 'E', '8', 'A'] ∧
    (([] : List Char) = [] ∨ ([] : List Char) = ['+'] ∨ ([] : List Char) = ['-']) ∧
    (['0', 'x'] = [] ∨ ['0', 'x'] = ['0', 'x'] ∨ ['0', 'x'] = ['0', 'X']) ∧
    Python.Numeral 16 ['2', 'E', '8', 'A'] ∧
    hexValue (fun _ => none) " 0x2E8A " = Python.int (fun _ => none) (Python.strip " 0x2E8A ") 16 ∧
    hexValue (fun _ => none) " 0x2E8A " =
      some ((Python.readSign []).1 * Python.numeralValue 16 ['2', 'E', '8', 'A']) :=
  have hdigits : Python.Numeral 16 ['2', 'E', '8', 'A'] :=
    .cons (by decide) (.cons (by decide) (.cons (by decide) (.digit (by decide))))
  ⟨rfl, .inl rfl, .inr (.inl rfl), hdigits,
    hexValue_agrees_with_int (fun _ => none) " 0x2E8A " (by rfl) (.inl rfl) (.inr (.inl rfl))
      hdigits⟩

/-- Deleting every `0x` is not reading a prefix: `10x5` is read as `0x15` where `int` rejects
it, and `0x_1f`, which `int` reads as `0x1f`, is rejected.  Both entries are ASCII, where `int`
never consults the Unicode table (`Python.int_of_ascii`). -/
theorem hexValue_diverges_from_int :
    hexValue (fun _ => none) "10x5" = some 0x15 ∧
    Python.int (fun _ => none) (Python.strip "10x5") 16 = none ∧
    hexValue (fun _ => none) "0x_1f" = none ∧
    Python.int (fun _ => none) (Python.strip "0x_1f") 16 = some 0x1f :=
  ⟨rfl, rfl, rfl, rfl⟩

/-! ## Exactly the allowed calls -/

/-- The vendor parameters the menus set, each with the values its menu lets through. -/
def ConfigCall.Allowed (call : ConfigCall) : Prop :=
  0 ≤ call.paramValue ∧
    (call.vendorCommandId = ctapConfigPhyUpBtn ∧ call.paramValue ≤ 255 ∨
      call.vendorCommandId = ctapConfigPhyLedGpio ∧ call.paramValue ≤ 29 ∨
      call.vendorCommandId = ctapConfigPhyLedBtness ∧ call.paramValue ≤ 255 ∨
      call.vendorCommandId = ctapConfigPhyOpts ∧ call.paramValue ≤ 15 ∨
      call.vendorCommandId = ctapConfigPhyVidpid ∧ call.paramValue < 2 ^ 32)

instance (call : ConfigCall) : Decidable call.Allowed :=
  inferInstanceAs (Decidable (_ ∧ _))

/-- The calls the four configuration menus make, for some answers of the user. -/
def MenuCall (decimal : Char → Option (Fin 10)) (call : ConfigCall) : Prop :=
  (∃ timeout, configureButtonTimeout timeout = some call) ∨
  (∃ inputs, configureLedSettings decimal inputs = some call) ∨
  (∃ inputs, configurePhyOptions decimal inputs = some call) ∨
  (∃ inputs, configureVidpid decimal inputs = some call)

theorem MenuCall.allowed {decimal : Char → Option (Fin 10)} {call : ConfigCall}
    (h : MenuCall decimal call) : call.Allowed := by
  rcases h with ⟨_, hcall⟩ | ⟨_, hcall⟩ | ⟨_, hcall⟩ | ⟨_, hcall⟩
  · obtain ⟨hid, h0, hhigh⟩ := configureButtonTimeout_range hcall
    exact ⟨h0, .inl ⟨hid, hhigh⟩⟩
  · rcases configureLedSettings_range hcall with ⟨hid, h0, hhigh⟩ | ⟨hid, h0, hhigh⟩
    · exact ⟨h0, .inr (.inl ⟨hid, hhigh⟩)⟩
    · exact ⟨h0, .inr (.inr (.inl ⟨hid, hhigh⟩))⟩
  · obtain ⟨⟨hid, h0, hhigh⟩, -⟩ := configurePhyOptions_call hcall
    exact ⟨h0, .inr (.inr (.inr (.inl ⟨hid, hhigh⟩)))⟩
  · obtain ⟨hid, ⟨-, -, vid, pid, -, -, -, -, hvid, hpid, hvalue⟩, -⟩ := configureVidpid_call hcall
    obtain ⟨h0, hhigh, -⟩ := vidpidValue_unpack hvid hpid
    rw [← hvalue] at h0 hhigh
    exact ⟨h0, .inr (.inr (.inr (.inr ⟨hid, hhigh⟩)))⟩

/-- An entry typed as the decimal numeral of a value in range is sent as that value. -/
theorem entryCall_numeral (decimal : Char → Option (Fin 10)) {value high id : Int}
    (default : String) (h0 : 0 ≤ value) (hhigh : value ≤ high) :
    entryCall decimal (.returns ⟨Python.numeral 10 value.toNat⟩) default id high =
      some ⟨id, value⟩ := by
  obtain ⟨d, rest, hdigits, -⟩ :=
    (Python.numeral_numeral (by norm_num : 2 ≤ 10 ∧ 10 ≤ 16) value.toNat).1.head_digit
  have hne : (⟨Python.numeral 10 value.toNat⟩ : String) ≠ "" := by
    rw [hdigits]
    exact fun h => List.cons_ne_nil d rest (congrArg String.data h)
  simp only [entryCall, if_neg hne, Python.int_numeral decimal (.inl rfl),
    Int.toNat_of_nonneg h0, Option.some_bind, boundedCall]
  rw [if_neg (by omega)]

/-- A VID or PID typed as its hexadecimal numeral is read as itself. -/
theorem hexValue_numeral (decimal : Char → Option (Fin 10)) (n : Nat) :
    hexValue decimal ⟨Python.numeral 16 n⟩ = some (n : Int) := by
  have hstrip : (Python.strip ⟨Python.numeral 16 n⟩).data = [] ++ [] ++ Python.numeral 16 n :=
    Python.strip_numeral (.inr rfl) n
  have hdata := hexStr_numeral hstrip (.inl rfl) (.inl rfl) (Python.numeral_numeral (by norm_num) n).1
  have hhex : hexStr ⟨Python.numeral 16 n⟩ = ⟨Python.numeral 16 n⟩ := congrArg String.mk hdata
  rw [hexValue, hhex]
  exact Python.int_numeral decimal (.inr rfl) n

/-- A 32-bit value is `(vid << 16) | pid` for its upper and lower halves. -/
theorem vidpidValue_halves {value : Int} (h0 : 0 ≤ value) (h : value < 2 ^ 32) :
    vidpidValue (value.toNat / 2 ^ 16 : Nat) (value.toNat % 2 ^ 16 : Nat) = value := by
  have hpack : (value.toNat / 2 ^ 16) <<< 16 ||| value.toNat % 2 ^ 16 =
      2 ^ 16 * (value.toNat / 2 ^ 16) + value.toNat % 2 ^ 16 := by
    rw [Nat.shiftLeft_eq, Nat.mul_comm, ← Nat.mul_add_lt_is_or (Nat.mod_lt _ (by norm_num))]
  simp only [vidpidValue, Int.toNat_ofNat, hpack, Nat.div_add_mod]
  omega

/-- The calls the menus can make are exactly the allowed ones: every value in each parameter's
range is sent for answers the user can type (the value's numeral, and the menu's
confirmations), and no other call is made. -/
theorem menus_make_exactly_allowed_calls (decimal : Char → Option (Fin 10)) (call : ConfigCall) :
    MenuCall decimal call ↔ call.Allowed := by
  refine ⟨MenuCall.allowed, ?_⟩
  obtain ⟨id, value⟩ := call
  have hanswers : Python.strip "1" = "1" ∧ Python.strip "2" = "2" ∧ Python.strip "" = "" ∧
      Python.lower (Python.strip "y") = "y" ∧ Python.lower (Python.strip "yes") = "yes" ∧
      Python.strip "YES" = "YES" := by decide
  intro h
  simp only [ConfigCall.Allowed] at h
  rcases h with ⟨h0, ⟨rfl, hhigh⟩ | ⟨rfl, hhigh⟩ | ⟨rfl, hhigh⟩ | ⟨rfl, hhigh⟩ | ⟨rfl, hhigh⟩⟩
  · refine .inl ⟨.returns value, ?_⟩
    simp only [configureButtonTimeout, boundedCall]
    rw [if_neg (by omega)]
  · refine .inr (.inl ⟨⟨.returns "1", .returns ⟨Python.numeral 10 value.toNat⟩⟩, ?_⟩)
    simp [configureLedSettings, hanswers, entryCall_numeral decimal _ h0 hhigh]
  · refine .inr (.inl ⟨⟨.returns "2", .returns ⟨Python.numeral 10 value.toNat⟩⟩, ?_⟩)
    simp [configureLedSettings, hanswers, entryCall_numeral decimal _ h0 hhigh]
  · refine .inr (.inr (.inl
      ⟨⟨.returns "", .returns ⟨Python.numeral 10 value.toNat⟩, .returns "y"⟩, ?_⟩))
    simp [configurePhyOptions, hanswers, entryCall_numeral decimal _ h0 hhigh]
  · refine .inr (.inr (.inr ⟨⟨.returns "yes", .returns ⟨Python.numeral 16 (value.toNat / 2 ^ 16)⟩,
      .returns ⟨Python.numeral 16 (value.toNat % 2 ^ 16)⟩, .returns "YES"⟩, ?_⟩))
    have hvid : value.toNat / 2 ^ 16 < 2 ^ 16 := by omega
    have hpid : value.toNat % 2 ^ 16 < 2 ^ 16 := Nat.mod_lt _ (by norm_num)
    simp only [configureVidpid, hanswers, hexValue_numeral, ne_eq, not_true_eq_false,
      if_false, vidpidValue_halves h0 hhigh]
    rw [if_neg (by omega), if_neg (by omega)]

end Commissioner
