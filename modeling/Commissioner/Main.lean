import Commissioner.Menu
import Commissioner.Envelope

/-!
# The program: `setup_pin`, `factory_reset` and `main`

`main` finds the device, offers to set a PIN when `info` reports none, then runs its menu loop.
Each menu reads the user's answers and then makes at most one call on the session, its last act
before it prints the result: `send_config_command` for the four configuration menus, `set_pin`
for option 6, `reset_device` for option 7.  A turn of the loop is modelled from the answers and
outcomes it meets (`Turn`), the loop from any list of turns.

Every session `main` leads to is `Reachable` (`main_reachable`), so what holds along runs of a
session holds of the program.
-/

namespace Commissioner

/-! ## The menus as `main` calls them -/

/-- Whether a call raised `KeyboardInterrupt`. -/
def Outcome.interrupted {α : Type} : Outcome α → Bool
  | .raises e => e == .keyboardInterrupt
  | .returns _ => false

/-- Whether Ctrl+C at one of `configure_led_settings`'s prompts leaves it: its handlers catch
`ValueError` and `Exception` only. -/
def ledInterrupted (inputs : LedInputs) : Bool :=
  match inputs.choice with
  | .raises e => e == .keyboardInterrupt
  | .returns choice =>
      let choice := Python.strip choice
      (choice == "1" || choice == "2") && inputs.value.interrupted

/-- Whether Ctrl+C at one of `configure_phy_options`'s prompts leaves it. -/
def phyInterrupted (decimal : Char → Option (Fin 10)) (inputs : PhyInputs) : Bool :=
  match inputs.current with
  | .raises e => e == .keyboardInterrupt
  | .returns current =>
      let current := Python.strip current
      if current ≠ "" ∧ Python.int decimal current 10 = none then false
      else inputs.optsValue.interrupted ||
        (entryCall decimal inputs.optsValue "0" ctapConfigPhyOpts 15).isSome &&
          inputs.confirm.interrupted

/-- Whether Ctrl+C at one of `configure_vidpid`'s prompts leaves it. -/
def vidpidInterrupted (decimal : Char → Option (Fin 10)) (inputs : VidpidInputs) : Bool :=
  match inputs.confirm with
  | .raises e => e == .keyboardInterrupt
  | .returns confirm =>
      if Python.lower (Python.strip confirm) ≠ "yes" then false else
      match inputs.vid with
      | .raises e => e == .keyboardInterrupt
      | .returns vidIn =>
          match hexValue decimal vidIn with
          | none => false
          | some vid =>
              match inputs.pid with
              | .raises e => e == .keyboardInterrupt
              | .returns pidIn =>
                  match hexValue decimal pidIn with
                  | none => false
                  | some pid =>
                      if vid < 0 ∨ vid > 0xFFFF then false
                      else if pid < 0 ∨ pid > 0xFFFF then false
                      else inputs.finalConfirm.interrupted

/-- A configuration menu on the session: Ctrl+C at one of its prompts leaves it before any
call; otherwise it makes its call, if any, through `send_config_command`, whose
`KeyboardInterrupt` leaves it too.  What it returns (`None`, or a flag) `main` ignores. -/
def configMenu (w : World) (interrupted : Bool) (call : Option ConfigCall) (fates : SendFates) :
    Called :=
  if interrupted then ⟨.raised .keyboardInterrupt, w, []⟩ else
  match call with
  | none => ⟨.returned false, w, []⟩
  | some call => sendConfigCommand w call.vendorCommandId call.paramValue fates

/-- `except KeyboardInterrupt: return False` and `except Exception: return False` around a
call whose result is returned as `True` or `False`. -/
def Called.catchAll (called : Called) : Called :=
  ⟨.returned (called.exit == .returned true), called.world, called.events⟩

/-- `setup_pin(device)`: `device.set_pin()`.  It reads `device.info.options` before its `try`. -/
def setupPin (w : World) (fates : SetPinFates) : Called :=
  match w.device.info with
  | none => ⟨.raised .exception, w, []⟩
  | some _ => (setPin w none fates).catchAll

/-- What `factory_reset` reads, and the calls of its `reset_device()`. -/
structure FactoryResetInputs where
  /-- `input("\nType 'RESET' (all caps) to continue: ")`. -/
  confirm1 : Outcome String
  /-- `input("\nAre you REALLY sure? Type 'YES' to proceed: ")`. -/
  confirm2 : Outcome String
  /-- The calls of `device.reset_device()`. -/
  reset : ResetFates

/-- `factory_reset(device)`: two typed confirmations, then `device.reset_device()`. -/
def factoryReset (w : World) (inputs : FactoryResetInputs) : Called :=
  match inputs.confirm1 with
  | .raises _ => ⟨.returned false, w, []⟩
  | .returns confirm1 =>
      if Python.strip confirm1 ≠ "RESET" then ⟨.returned false, w, []⟩ else
      match inputs.confirm2 with
      | .raises _ => ⟨.returned false, w, []⟩
      | .returns confirm2 =>
          if Python.strip confirm2 ≠ "YES" then ⟨.returned false, w, []⟩ else
          (resetDevice w inputs.reset).catchAll

/-! ## `main` -/

/-- What the user types and the library answers in one turn of `main`'s loop.  Only the chosen
menu's fields are read. -/
structure Turn where
  /-- `clear_screen()`, `print_header()`, the device name and `print_menu()` at the top of the
  loop, outside its `try`. -/
  redraw : Outcome Unit
  /-- `Prompt.ask("\nSelect option", choices=[...], default="0")`. -/
  choice : Outcome String
  /-- `IntPrompt.ask("\nEnter timeout value", default=30)` in `configure_button_timeout`. -/
  timeout : Outcome Int
  led : LedInputs
  phy : PhyInputs
  vidpid : VidpidInputs
  /-- The calls of the `send_config_command` a configuration menu makes. -/
  send : SendFates
  /-- The calls of `set_pin()` in `setup_pin`. -/
  setPin : SetPinFates
  factoryReset : FactoryResetInputs
  /-- `input("\nPress Enter to continue...")` and `clear_screen()` closing the turn inside the
  `try`; the answer is discarded. -/
  pressEnter : Outcome Unit
  /-- The `except Exception` handler's error line, the same prompt and `clear_screen()`, which
  nothing guards. -/
  handlerEnter : Outcome Unit

/-- How `main` ended. -/
inductive MainEnd where
  /-- `sys.exit(1)`: `find_device()` returned `False`. -/
  | noDevice
  /-- The loop's `break`: option 0, or Ctrl+C. -/
  | quit
  /-- An exception none of `main`'s handlers catches. -/
  | raised (error : Raised)
deriving DecidableEq, Repr

/-- `main` after the input it was given: how it ended (`none` while the loop waits for the next
turn), the session, and the library calls made. -/
structure Ran where
  ending : Option MainEnd
  world : World
  events : List Event

/-- The branch of `main`'s loop for option `choice` other than `"0"`.  Option 5,
`show_device_info`, only prints, as does an unknown option. -/
def menu (decimal : Char → Option (Fin 10)) (w : World) (t : Turn) (choice : String) : Called :=
  if choice = "1" then (configMenu w false (configureButtonTimeout t.timeout) t.send).catchAll
  else if choice = "2" then
    configMenu w (ledInterrupted t.led) (configureLedSettings decimal t.led) t.send
  else if choice = "3" then
    configMenu w (phyInterrupted decimal t.phy) (configurePhyOptions decimal t.phy) t.send
  else if choice = "4" then
    configMenu w (vidpidInterrupted decimal t.vidpid) (configureVidpid decimal t.vidpid) t.send
  else if choice = "6" then setupPin w t.setPin
  else if choice = "7" then factoryReset w t.factoryReset
  else ⟨.returned false, w, []⟩

/-- How a turn ends once the code in its `try` has run: on to the next turn, `break` on
`KeyboardInterrupt`, or the `except Exception` handler, whose own prompt nothing guards. -/
def Turn.ending (t : Turn) : Outcome Unit → Option MainEnd
  | .returns () => none
  | .raises .keyboardInterrupt => some .quit
  | .raises .exception =>
      match t.handlerEnter with
      | .returns () => none
      | .raises e => some (.raised e)

/-- One turn of `main`'s `while True:` loop: the menu is redrawn outside the `try`, then the
choice is read and served inside it. -/
def runTurn (decimal : Char → Option (Fin 10)) (w : World) (t : Turn) : Ran :=
  match t.redraw with
  | .raises e => ⟨some (.raised e), w, []⟩
  | .returns () =>
      match t.choice with
      | .raises e => ⟨t.ending (.raises e), w, []⟩
      | .returns choice =>
          if choice = "0" then ⟨some .quit, w, []⟩ else
          let called := menu decimal w t choice
          ⟨t.ending (match called.exit with
              | .raised e => .raises e
              | .returned _ => t.pressEnter),
            called.world, called.events⟩

/-- `main`'s loop over the turns it is given, until it `break`s or an exception leaves it. -/
def mainLoop (decimal : Char → Option (Fin 10)) (w : World) : List Turn → Ran
  | [] => ⟨none, w, []⟩
  | t :: turns =>
      let ran := runTurn decimal w t
      match ran.ending with
      | some _ => ran
      | none =>
          let rest := mainLoop decimal ran.world turns
          ⟨rest.ending, rest.world, ran.events ++ rest.events⟩

/-- What `main` meets before its loop, and the turns of the loop. -/
structure MainInputs where
  /-- The calls of `device.find_device()`. -/
  findDevice : FindDeviceFates
  /-- `input("\nWould you like to set up a PIN now? (y/n): ")`. -/
  setupNow : Outcome String
  /-- The calls of `set_pin()` in that `setup_pin(device)`. -/
  setPin : SetPinFates
  /-- The `input(...)` that follows either answer. -/
  pressEnter : Outcome Unit
  turns : List Turn

/-- The offer to set a PIN, made before the loop when `info` reports none. -/
def offerSetup (w : World) (inputs : MainInputs) : Called :=
  match w.device.info with
  | none => ⟨.raised .exception, w, []⟩
  | some info =>
      if info.clientPin then ⟨.returned true, w, []⟩ else
      match inputs.setupNow with
      | .raises e => ⟨.raised e, w, []⟩
      | .returns answer =>
          let called := if Python.lower (Python.strip answer) = "y" then setupPin w inputs.setPin
            else ⟨.returned true, w, []⟩
          ⟨match called.exit, inputs.pressEnter with
            | .raised e, _ => .raised e
            | .returned _, .raises e => .raised e
            | .returned _, .returns () => .returned true,
            called.world, called.events⟩

/-- `main`.  What precedes the loop stands outside any `try`. -/
def main (decimal : Char → Option (Fin 10)) (inputs : MainInputs) : Ran :=
  let found := findDevice .init inputs.findDevice
  match found.exit with
  | .raised e => ⟨some (.raised e), found.world, found.events⟩
  | .returned false => ⟨some .noDevice, found.world, found.events⟩
  | .returned true =>
      let offered := offerSetup found.world inputs
      match offered.exit with
      | .raised e => ⟨some (.raised e), offered.world, found.events ++ offered.events⟩
      | .returned _ =>
          let loop := mainLoop decimal offered.world inputs.turns
          ⟨loop.ending, loop.world, found.events ++ offered.events ++ loop.events⟩

/-! ## Each turn makes at most one session call -/

/-- Both confirmations of `factory_reset` typed: `RESET`, then `YES`, up to surrounding
whitespace. -/
def FactoryResetInputs.confirmed (inputs : FactoryResetInputs) : Bool :=
  match inputs.confirm1, inputs.confirm2 with
  | .returns confirm1, .returns confirm2 =>
      Python.strip confirm1 == "RESET" && Python.strip confirm2 == "YES"
  | _, _ => false

/-- The session call option `choice` makes in turn `t`: a configuration menu's call, `set_pin()`,
or, once both confirmations are typed, `reset_device()`. -/
inductive MenuStep (decimal : Char → Option (Fin 10)) (t : Turn) : String → Step → Prop
  | buttonTimeout {call : ConfigCall} : configureButtonTimeout t.timeout = some call →
      MenuStep decimal t "1" (.sendConfigCommand call.vendorCommandId call.paramValue t.send)
  | ledSettings {call : ConfigCall} : configureLedSettings decimal t.led = some call →
      MenuStep decimal t "2" (.sendConfigCommand call.vendorCommandId call.paramValue t.send)
  | phyOptions {call : ConfigCall} : configurePhyOptions decimal t.phy = some call →
      MenuStep decimal t "3" (.sendConfigCommand call.vendorCommandId call.paramValue t.send)
  | vidpid {call : ConfigCall} : configureVidpid decimal t.vidpid = some call →
      MenuStep decimal t "4" (.sendConfigCommand call.vendorCommandId call.paramValue t.send)
  | setupPin : MenuStep decimal t "6" (.setPin none t.setPin)
  | factoryReset : t.factoryReset.confirmed = true →
      MenuStep decimal t "7" (.resetDevice t.factoryReset.reset)

/-- What a piece of the program leaves, from the session `w`: `w` itself and no library call,
or what one method call that `allowed` permits leaves. -/
def AtMostOneCall (allowed : Step → Prop) (w w' : World) (events : List Event) : Prop :=
  (w' = w ∧ events = []) ∨
    ∃ step, allowed step ∧ w' = (step.run w).world ∧ events = (step.run w).events

section AtMostOneCall

variable {allowed : Step → Prop} {w w' : World} {events : List Event}

theorem AtMostOneCall.mono (h : AtMostOneCall allowed w w' events) {allowed' : Step → Prop}
    (himp : ∀ step, allowed step → allowed' step) : AtMostOneCall allowed' w w' events := by
  rcases h with h | ⟨step, hstep, h⟩
  · exact .inl h
  · exact .inr ⟨step, himp step hstep, h⟩

theorem AtMostOneCall.reachable (h : AtMostOneCall allowed w w' events) {history : List Event}
    (hreach : Reachable w history) : Reachable w' (history ++ events) := by
  rcases h with ⟨rfl, rfl⟩ | ⟨step, -, rfl, rfl⟩
  · simpa using hreach
  · exact .step step hreach

theorem AtMostOneCall.mem (h : AtMostOneCall allowed w w' events) {e : Event}
    (he : e ∈ events) : ∃ step w, allowed step ∧ e ∈ (step.run w).events := by
  rcases h with ⟨-, rfl⟩ | ⟨step, hstep, -, rfl⟩
  · cases he
  · exact ⟨step, w, hstep, he⟩

end AtMostOneCall

theorem configMenu_atMostOneCall (w : World) (interrupted : Bool) (call : Option ConfigCall)
    (fates : SendFates) :
    AtMostOneCall (fun step => ∃ c, call = some c ∧
        step = .sendConfigCommand c.vendorCommandId c.paramValue fates)
      w (configMenu w interrupted call fates).world (configMenu w interrupted call fates).events := by
  unfold configMenu
  cases interrupted
  · cases call with
    | none => exact .inl ⟨rfl, rfl⟩
    | some c => exact .inr ⟨_, ⟨c, rfl, rfl⟩, rfl, rfl⟩
  · exact .inl ⟨rfl, rfl⟩

theorem setupPin_atMostOneCall (w : World) (fates : SetPinFates) :
    AtMostOneCall (· = .setPin none fates) w (setupPin w fates).world (setupPin w fates).events := by
  unfold setupPin
  split
  · exact .inl ⟨rfl, rfl⟩
  · exact .inr ⟨_, rfl, rfl, rfl⟩

theorem factoryReset_atMostOneCall (w : World) (inputs : FactoryResetInputs) :
    AtMostOneCall (fun step => inputs.confirmed = true ∧ step = .resetDevice inputs.reset) w
      (factoryReset w inputs).world (factoryReset w inputs).events := by
  unfold factoryReset
  split
  · exact .inl ⟨rfl, rfl⟩
  rename_i confirm1 h1
  split_ifs with hreset
  · exact .inl ⟨rfl, rfl⟩
  split
  · exact .inl ⟨rfl, rfl⟩
  rename_i confirm2 h2
  split_ifs with hyes
  · exact .inl ⟨rfl, rfl⟩
  refine .inr ⟨_, ⟨?_, rfl⟩, rfl, rfl⟩
  simp only [FactoryResetInputs.confirmed, h1, h2, not_not.mp hreset, not_not.mp hyes,
    beq_self_eq_true, Bool.and_self]

theorem menu_atMostOneCall (decimal : Char → Option (Fin 10)) (w : World) (t : Turn)
    (choice : String) :
    AtMostOneCall (MenuStep decimal t choice) w (menu decimal w t choice).world
      (menu decimal w t choice).events := by
  unfold menu
  split_ifs with h1 h2 h3 h4 h6 h7
  · subst h1
    exact (configMenu_atMostOneCall ..).mono fun _ ⟨_, hc, hs⟩ => hs ▸ .buttonTimeout hc
  · subst h2
    exact (configMenu_atMostOneCall ..).mono fun _ ⟨_, hc, hs⟩ => hs ▸ .ledSettings hc
  · subst h3
    exact (configMenu_atMostOneCall ..).mono fun _ ⟨_, hc, hs⟩ => hs ▸ .phyOptions hc
  · subst h4
    exact (configMenu_atMostOneCall ..).mono fun _ ⟨_, hc, hs⟩ => hs ▸ .vidpid hc
  · subst h6
    exact (setupPin_atMostOneCall ..).mono fun _ hs => hs ▸ .setupPin
  · subst h7
    exact (factoryReset_atMostOneCall ..).mono fun _ ⟨hc, hs⟩ => hs ▸ .factoryReset hc
  · exact .inl ⟨rfl, rfl⟩

theorem runTurn_atMostOneCall (decimal : Char → Option (Fin 10)) (w : World) (t : Turn) :
    AtMostOneCall (fun step => ∃ choice, t.choice = .returns choice ∧ MenuStep decimal t choice step)
      w (runTurn decimal w t).world (runTurn decimal w t).events := by
  unfold runTurn
  split
  · exact .inl ⟨rfl, rfl⟩
  split
  · exact .inl ⟨rfl, rfl⟩
  rename_i choice hchoice
  split_ifs
  · exact .inl ⟨rfl, rfl⟩
  · exact (menu_atMostOneCall decimal w t choice).mono fun _ h => ⟨choice, hchoice, h⟩

theorem offerSetup_atMostOneCall (w : World) (inputs : MainInputs) :
    AtMostOneCall (· = .setPin none inputs.setPin) w (offerSetup w inputs).world
      (offerSetup w inputs).events := by
  unfold offerSetup
  split
  · exact .inl ⟨rfl, rfl⟩
  split_ifs
  · exact .inl ⟨rfl, rfl⟩
  split
  · exact .inl ⟨rfl, rfl⟩
  split_ifs
  · exact setupPin_atMostOneCall w inputs.setPin
  · exact .inl ⟨rfl, rfl⟩

/-! ## Runs of `main` -/

theorem mainLoop_reachable (decimal : Char → Option (Fin 10)) :
    ∀ {w : World} {history : List Event} (turns : List Turn), Reachable w history →
      Reachable (mainLoop decimal w turns).world (history ++ (mainLoop decimal w turns).events)
  | _, _, [], h => by simpa [mainLoop] using h
  | w, _, t :: turns, h => by
      have hturn := (runTurn_atMostOneCall decimal w t).reachable h
      simp only [mainLoop]
      split
      · exact hturn
      · rw [← List.append_assoc]
        exact mainLoop_reachable decimal turns hturn

/-- A call a turn makes is a call of its menu's session method. -/
theorem runTurn_event {decimal : Char → Option (Fin 10)} {w : World} {t : Turn} {e : Event}
    (h : e ∈ (runTurn decimal w t).events) :
    ∃ choice step w', t.choice = .returns choice ∧ MenuStep decimal t choice step ∧
      e ∈ (step.run w').events := by
  obtain ⟨step, w', ⟨choice, hchoice, hstep⟩, he⟩ := (runTurn_atMostOneCall decimal w t).mem h
  exact ⟨choice, step, w', hchoice, hstep, he⟩

theorem mainLoop_turn_event (decimal : Char → Option (Fin 10)) {e : Event} :
    ∀ {w : World} {turns : List Turn}, e ∈ (mainLoop decimal w turns).events →
      ∃ t ∈ turns, ∃ w', e ∈ (runTurn decimal w' t).events
  | _, [], h => by simp [mainLoop] at h
  | w, t :: turns, h => by
      simp only [mainLoop] at h
      split at h
      · exact ⟨t, .head _, w, h⟩
      · rcases List.mem_append.mp h with he | he
        · exact ⟨t, .head _, w, he⟩
        · obtain ⟨t', ht', w', he⟩ := mainLoop_turn_event decimal he
          exact ⟨t', .tail _ ht', w', he⟩

/-- A call `main` makes is one of `find_device`, of the `set_pin` it may make before its loop, or
of the turn of the loop that makes it. -/
theorem main_event {decimal : Char → Option (Fin 10)} {inputs : MainInputs} {e : Event}
    (h : e ∈ (main decimal inputs).events) :
    e ∈ (findDevice .init inputs.findDevice).events ∨
      (∃ w, e ∈ (setPin w none inputs.setPin).events) ∨
      ∃ t ∈ inputs.turns, ∃ w, e ∈ (runTurn decimal w t).events := by
  simp only [main] at h
  split at h
  · exact .inl h
  · exact .inl h
  have hoffer {e} (he : e ∈ (offerSetup (findDevice .init inputs.findDevice).world inputs).events) :
      ∃ w, e ∈ (setPin w none inputs.setPin).events := by
    obtain ⟨_, w, rfl, he⟩ := (offerSetup_atMostOneCall _ inputs).mem he
    exact ⟨w, he⟩
  split at h
  · rcases List.mem_append.mp h with he | he
    · exact .inl he
    · exact .inr (.inl (hoffer he))
  · rcases List.mem_append.mp h with he | he
    · rcases List.mem_append.mp he with he | he
      · exact .inl he
      · exact .inr (.inl (hoffer he))
    · exact .inr (.inr (mainLoop_turn_event decimal he))

/-- Every session `main` leads to once `find_device` has found the device is one that method
calls lead to: what holds of `Reachable` sessions holds of the program at every point of every
run, whatever the user types and the device answers. -/
theorem main_reachable (decimal : Char → Option (Fin 10)) (inputs : MainInputs)
    (hfound : (findDevice .init inputs.findDevice).exit = .returned true) :
    Reachable (main decimal inputs).world (main decimal inputs).events := by
  have hoffered := (offerSetup_atMostOneCall _ inputs).reachable (.found _ hfound)
  simp only [main, hfound]
  split
  · exact hoffered
  · exact mainLoop_reachable decimal _ hoffered

theorem main_reachable_after_timeout :
    let info : Info := ⟨[("clientPin", true)], [2, 1]⟩
    let inputs : MainInputs :=
      ⟨⟨.returns true, .returns info, .returns info⟩, .returns "n",
        ⟨.returns "", .returns "", .returns "", .returns (), .returns (), .returns info⟩,
        .returns (),
        [⟨.returns (), .returns "1", .returns 30, ⟨.returns "0", .returns ""⟩,
          ⟨.returns "", .returns "", .returns "n"⟩,
          ⟨.returns "no", .returns "", .returns "", .returns ""⟩,
          ⟨⟨.returns "1234", .returns [1]⟩, .returns [9], .returns ()⟩,
          ⟨.returns "", .returns "", .returns "", .returns (), .returns (), .returns info⟩,
          ⟨.returns "", .returns "", ⟨.returns (), .returns info⟩⟩, .returns (), .returns ()⟩]⟩
    (findDevice .init inputs.findDevice).exit = .returned true ∧
      Reachable (main (fun _ => none) inputs).world (main (fun _ => none) inputs).events :=
  ⟨by rfl, main_reachable _ _ (by rfl)⟩

end Commissioner
