import Commissioner.Main

/-!
# What the program's checks guarantee over whole runs

The prompts and checks in front of each session call, followed through every run of `main`:
the device is reset at most once per turn in which the user picked option 7 and typed both
confirmations; every authenticatorConfig request carries a parameter and a value some menu lets
through, and a VID/PID or PHY options change follows its menu's confirmations; every new PIN
handed to `ClientPin` was typed identically twice; and no exception a device call or a menu
raises inside the loop ends the program.
-/

namespace Commissioner

/-! ## Resets -/

/-- `ctap2.reset()`, the call that wipes the device. -/
def Event.isReset : Event → Bool
  | .reset _ => true
  | _ => false

/-- A turn in which the user picks option 7 and types both confirmations. -/
def Turn.confirmsReset (t : Turn) : Bool :=
  t.choice == .returns "7" && t.factoryReset.confirmed

theorem findDevice_event {w : World} {fates : FindDeviceFates} {e : Event}
    (h : e ∈ (findDevice w fates).events) : ∃ outcome, e = .getInfo outcome := by
  unfold findDevice at h
  split at h
  · cases h
  · cases h
  split at h
  · exact ⟨_, List.mem_singleton.mp h⟩
  split at h <;> rcases List.mem_pair.mp h with rfl | rfl <;> exact ⟨_, rfl⟩

theorem findDevice_resets (w : World) (fates : FindDeviceFates) :
    (findDevice w fates).events.countP Event.isReset = 0 :=
  List.countP_eq_zero.mpr fun _ he => by
    obtain ⟨_, rfl⟩ := findDevice_event he
    nofun

theorem setPin_resets (w : World) (newPin : Option String) (fates : SetPinFates) :
    (setPin w newPin fates).events.countP Event.isReset = 0 :=
  List.countP_eq_zero.mpr fun _ he => by
    rcases setPin_event he with ⟨_, _, _, rfl⟩ | ⟨_, _, _, _, rfl⟩ | ⟨_, rfl⟩ <;> nofun

theorem sendConfigCommand_resets (w : World) (vendorCommandId paramValue : Int)
    (fates : SendFates) :
    (sendConfigCommand w vendorCommandId paramValue fates).events.countP Event.isReset = 0 :=
  List.countP_eq_zero.mpr fun _ he => by
    rcases sendConfigCommand_event he with ⟨_, _, _, rfl⟩ | ⟨_, _, _, _, -, rfl⟩ | ⟨_, _, _, rfl⟩ <;>
      nofun

theorem resetDevice_resets (w : World) (fates : ResetFates) :
    (resetDevice w fates).events.countP Event.isReset ≤ 1 := by
  rcases resetDevice_cases w fates with hr | ⟨_, hr⟩ | ⟨_, hr⟩ | ⟨_, hr⟩ <;> rw [hr] <;>
    exact Nat.le_of_ble_eq_true rfl

theorem MenuStep.resets {decimal : Char → Option (Fin 10)} {t : Turn} {choice : String}
    {step : Step} (h : MenuStep decimal t choice step) (hchoice : t.choice = .returns choice)
    (w : World) :
    (step.run w).events.countP Event.isReset ≤ if t.confirmsReset then 1 else 0 := by
  cases h
  case setupPin => simp [Step.run, setPin_resets]
  case factoryReset hconfirmed =>
    simp only [Turn.confirmsReset, hchoice, hconfirmed, beq_self_eq_true, Bool.and_self, if_true]
    exact resetDevice_resets w _
  all_goals simp [Step.run, sendConfigCommand_resets]

theorem runTurn_resets (decimal : Char → Option (Fin 10)) (w : World) (t : Turn) :
    (runTurn decimal w t).events.countP Event.isReset ≤ if t.confirmsReset then 1 else 0 := by
  rcases runTurn_atMostOneCall decimal w t with ⟨-, h⟩ | ⟨step, ⟨choice, hchoice, hstep⟩, -, h⟩
  · simp [h]
  · rw [h]
    exact hstep.resets hchoice w

theorem mainLoop_resets (decimal : Char → Option (Fin 10)) :
    ∀ (w : World) (turns : List Turn),
      (mainLoop decimal w turns).events.countP Event.isReset ≤ turns.countP Turn.confirmsReset
  | _, [] => by simp [mainLoop]
  | w, t :: turns => by
      have hturn := runTurn_resets decimal w t
      have hrest := mainLoop_resets decimal (runTurn decimal w t).world turns
      simp only [mainLoop, List.countP_cons]
      split
      · split_ifs at hturn ⊢ <;> omega
      · rw [List.countP_append]
        split_ifs at hturn ⊢ <;> omega

/-- `main` wipes the device at most once for each turn in which the user picked option 7 and
typed both `RESET` and `YES`: no other path reaches `ctap2.reset()`. -/
theorem main_resets_only_when_confirmed (decimal : Char → Option (Fin 10)) (inputs : MainInputs) :
    (main decimal inputs).events.countP Event.isReset ≤ inputs.turns.countP Turn.confirmsReset := by
  have hoffered (w : World) : (offerSetup w inputs).events.countP Event.isReset = 0 := by
    rcases offerSetup_atMostOneCall w inputs with ⟨-, h⟩ | ⟨_, rfl, -, h⟩ <;> rw [h]
    · rfl
    · exact setPin_resets ..
  simp only [main]
  split
  · simp [findDevice_resets]
  · simp [findDevice_resets]
  split
  · simp [List.countP_append, findDevice_resets, hoffered]
  · simp only [List.countP_append, findDevice_resets, hoffered, Nat.zero_add]
    exact mainLoop_resets decimal _ _

/-! ## Configuration requests -/

theorem MenuStep.allowed {decimal : Char → Option (Fin 10)} {t : Turn} {choice : String}
    {step : Step} (h : MenuStep decimal t choice step) {id value : Int} {fates : SendFates}
    (hstep : step = .sendConfigCommand id value fates) : ConfigCall.Allowed ⟨id, value⟩ := by
  cases h with
  | buttonTimeout hcall =>
      cases hstep
      exact MenuCall.allowed (.inl ⟨_, hcall⟩ : MenuCall decimal _)
  | ledSettings hcall =>
      cases hstep
      exact MenuCall.allowed (.inr (.inl ⟨_, hcall⟩))
  | phyOptions hcall =>
      cases hstep
      exact MenuCall.allowed (.inr (.inr (.inl ⟨_, hcall⟩)))
  | vidpid hcall =>
      cases hstep
      exact MenuCall.allowed (.inr (.inr (.inr ⟨_, hcall⟩)))
  | setupPin => cases hstep
  | factoryReset => cases hstep

theorem configData_inj {id value id' value' : Int} {protocol protocol' : PinProtocol}
    {pinAuth pinAuth' : Bytes}
    (h : configData id value protocol pinAuth = configData id' value' protocol' pinAuth') :
    id = id' ∧ value = value' := by
  simp only [configData, subcommandParams, Cbor.map.injEq, List.cons.injEq, Prod.mk.injEq,
    Cbor.int.injEq] at h
  exact ⟨h.2.1.2.1.2, h.2.1.2.2.1.2⟩

/-- A request a turn hands to `send_cbor` is the authenticatorConfig request of the call its
configuration menu makes. -/
theorem runTurn_sendCbor {decimal : Char → Option (Fin 10)} {w : World} {t : Turn} {cmd : Nat}
    {data : Cbor} {outcome : Outcome Unit}
    (h : Event.sendCbor cmd data outcome ∈ (runTurn decimal w t).events) :
    cmd = ctapAuthenticatorConfig ∧ ∃ choice id value protocol pinAuth,
      t.choice = .returns choice ∧ MenuStep decimal t choice (.sendConfigCommand id value t.send) ∧
      data = configData id value protocol pinAuth := by
  obtain ⟨choice, step, w, hchoice, hstep, he⟩ := runTurn_event h
  cases step with
  | sendConfigCommand id value fates =>
      obtain rfl : fates = t.send := by cases hstep <;> rfl
      rcases sendConfigCommand_event he with ⟨_, _, _, h⟩ | ⟨_, _, _, _, -, h⟩ |
        ⟨protocol, pinAuth, _, h⟩ <;> cases h
      exact ⟨rfl, choice, id, value, protocol, pinAuth, hchoice, hstep, rfl⟩
  | getPinToken => cases hstep
  | setPin =>
      rcases setPin_event he with ⟨_, _, _, h⟩ | ⟨_, _, _, _, h⟩ | ⟨_, h⟩ <;> cases h
  | resetDevice =>
      rcases resetDevice_event he with ⟨_, h⟩ | ⟨_, h⟩ <;> cases h

/-- Only the turns of the loop hand requests to `send_cbor`. -/
theorem main_sendCbor {decimal : Char → Option (Fin 10)} {inputs : MainInputs} {cmd : Nat}
    {data : Cbor} {outcome : Outcome Unit}
    (h : Event.sendCbor cmd data outcome ∈ (main decimal inputs).events) :
    ∃ t ∈ inputs.turns, ∃ w, Event.sendCbor cmd data outcome ∈ (runTurn decimal w t).events := by
  rcases main_event h with hfound | ⟨w, hset⟩ | hturn
  · obtain ⟨_, h⟩ := findDevice_event hfound
    cases h
  · rcases setPin_event hset with ⟨_, _, _, h⟩ | ⟨_, _, _, _, h⟩ | ⟨_, h⟩ <;> cases h
  · exact hturn

/-- Every request `main` sends to the device is an authenticatorConfig request for one of the
five vendor parameters, with a value that parameter's menu lets through. -/
theorem main_sends_allowed_config (decimal : Char → Option (Fin 10)) (inputs : MainInputs)
    {cmd : Nat} {data : Cbor} {outcome : Outcome Unit}
    (h : Event.sendCbor cmd data outcome ∈ (main decimal inputs).events) :
    cmd = ctapAuthenticatorConfig ∧ ∃ call : ConfigCall, call.Allowed ∧
      ∃ protocol pinAuth, data = configData call.vendorCommandId call.paramValue protocol pinAuth := by
  obtain ⟨_, -, _, hturn⟩ := main_sendCbor h
  obtain ⟨hcmd, _, id, value, protocol, pinAuth, -, hstep, rfl⟩ := runTurn_sendCbor hturn
  exact ⟨hcmd, ⟨id, value⟩, hstep.allowed rfl, protocol, pinAuth, rfl⟩

theorem main_sends_allowed_config_on_timeout :
    let info : Info := ⟨[("clientPin", true)], [2, 1]⟩
    Event.sendCbor ctapAuthenticatorConfig (configData ctapConfigPhyUpBtn 30 ⟨2⟩ [9]) (.returns ()) ∈
        (main (fun _ => none)
          ⟨⟨.returns true, .returns info, .returns info⟩, .returns "n",
            ⟨.returns "", .returns "", .returns "", .returns (), .returns (), .returns info⟩,
            .returns (),
            [⟨.returns (), .returns "1", .returns 30, ⟨.returns "0", .returns ""⟩,
              ⟨.returns "", .returns "", .returns "n"⟩,
              ⟨.returns "no", .returns "", .returns "", .returns ""⟩,
              ⟨⟨.returns "1234", .returns [1]⟩, .returns [9], .returns ()⟩,
              ⟨.returns "", .returns "", .returns "", .returns (), .returns (), .returns info⟩,
              ⟨.returns "", .returns "", ⟨.returns (), .returns info⟩⟩, .returns (),
              .returns ()⟩]⟩).events ∧
      ctapAuthenticatorConfig = ctapAuthenticatorConfig ∧ ∃ call : ConfigCall, call.Allowed ∧
        ∃ protocol pinAuth, configData ctapConfigPhyUpBtn 30 ⟨2⟩ [9] =
          configData call.vendorCommandId call.paramValue protocol pinAuth := by
  refine ⟨?sent, main_sends_allowed_config _ _ ?sent⟩
  exact .tail _ (.tail _ (.tail _ (.tail _ (.head _))))

/-- `main` changes the VID/PID only in a turn where the user picked option 4, answered `yes` and
then typed `YES`, and the PHY options only in a turn where the user picked option 3 and answered
`y`: the turn whose run sends the request is one such turn. -/
theorem main_confirms_risky_config (decimal : Char → Option (Fin 10)) (inputs : MainInputs)
    {cmd : Nat} {id value : Int} {protocol : PinProtocol} {pinAuth : Bytes}
    {outcome : Outcome Unit}
    (h : Event.sendCbor cmd (configData id value protocol pinAuth) outcome ∈
      (main decimal inputs).events) :
    ∃ t ∈ inputs.turns, ∃ w, Event.sendCbor cmd (configData id value protocol pinAuth) outcome ∈
        (runTurn decimal w t).events ∧
      (id = ctapConfigPhyVidpid → t.choice = .returns "4" ∧
        ∃ confirm final, t.vidpid.confirm = .returns confirm ∧
          Python.lower (Python.strip confirm) = "yes" ∧
          t.vidpid.finalConfirm = .returns final ∧ Python.strip final = "YES") ∧
      (id = ctapConfigPhyOpts → t.choice = .returns "3" ∧
        ∃ confirm, t.phy.confirm = .returns confirm ∧ Python.lower (Python.strip confirm) = "y") := by
  obtain ⟨t, ht, w, hturn⟩ := main_sendCbor h
  refine ⟨t, ht, w, hturn, ?_⟩
  obtain ⟨-, choice, _, _, _, _, hchoice, hstep, hdata⟩ := runTurn_sendCbor hturn
  obtain ⟨rfl, -⟩ := configData_inj hdata
  cases hstep with
  | vidpid hcall =>
      obtain ⟨hid, -, hconfirmed⟩ := configureVidpid_call hcall
      rw [hid]
      exact ⟨fun _ => ⟨hchoice, hconfirmed⟩, fun h => absurd h (by decide)⟩
  | phyOptions hcall =>
      obtain ⟨⟨hid, -⟩, hconfirmed⟩ := configurePhyOptions_call hcall
      rw [hid]
      exact ⟨fun h => absurd h (by decide), fun _ => ⟨hchoice, hconfirmed⟩⟩
  | buttonTimeout hcall =>
      rw [(configureButtonTimeout_range hcall).1]
      exact ⟨fun h => absurd h (by decide), fun h => absurd h (by decide)⟩
  | ledSettings hcall =>
      rcases configureLedSettings_range hcall with ⟨hid, -⟩ | ⟨hid, -⟩ <;> rw [hid] <;>
        exact ⟨fun h => absurd h (by decide), fun h => absurd h (by decide)⟩

theorem main_confirms_risky_config_on_vidpid :
    let info : Info := ⟨[("clientPin", true)], [2, 1]⟩
    let inputs : MainInputs :=
      ⟨⟨.returns true, .returns info, .returns info⟩, .returns "n",
        ⟨.returns "", .returns "", .returns "", .returns (), .returns (), .returns info⟩,
        .returns (),
        [⟨.returns (), .returns "4", .returns 30, ⟨.returns "0", .returns ""⟩,
          ⟨.returns "", .returns "", .returns "n"⟩,
          ⟨.returns "yes", .returns "0x2E8A", .returns "10FE", .returns "YES"⟩,
          ⟨⟨.returns "1234", .returns [1]⟩, .returns [9], .returns ()⟩,
          ⟨.returns "", .returns "", .returns "", .returns (), .returns (), .returns info⟩,
          ⟨.returns "", .returns "", ⟨.returns (), .returns info⟩⟩, .returns (), .returns ()⟩]⟩
    Event.sendCbor ctapAuthenticatorConfig (configData ctapConfigPhyVidpid 0x2E8A10FE ⟨2⟩ [9])
        (.returns ()) ∈ (main (fun _ => none) inputs).events ∧
      ∃ t ∈ inputs.turns, ∃ w, Event.sendCbor ctapAuthenticatorConfig
          (configData ctapConfigPhyVidpid 0x2E8A10FE ⟨2⟩ [9]) (.returns ()) ∈
          (runTurn (fun _ => none) w t).events ∧
        (ctapConfigPhyVidpid = ctapConfigPhyVidpid → t.choice = .returns "4" ∧
          ∃ confirm final, t.vidpid.confirm = .returns confirm ∧
            Python.lower (Python.strip confirm) = "yes" ∧
            t.vidpid.finalConfirm = .returns final ∧ Python.strip final = "YES") ∧
        (ctapConfigPhyVidpid = ctapConfigPhyOpts → t.choice = .returns "3" ∧
          ∃ confirm, t.phy.confirm = .returns confirm ∧
            Python.lower (Python.strip confirm) = "y") := by
  refine ⟨?sent, main_confirms_risky_config _ _ ?sent⟩
  exact .tail _ (.tail _ (.tail _ (.tail _ (.head _))))

/-! ## PINs -/

theorem newPinEntry_none {fates : SetPinFates} {pin : String} :
    newPinEntry none fates = .returns (some pin) ↔
      fates.newPin = .returns pin ∧ fates.confirmPin = .returns pin := by
  unfold newPinEntry
  rcases fates.newPin with typed | _ <;> rcases fates.confirmPin with confirm | _ <;>
    simp only [Outcome.returns.injEq, reduceCtorEq, false_and, and_false]
  split_ifs with hsame
  · subst hsame
    simp [eq_comm]
  · simp only [reduceCtorEq, false_iff, not_and]
    rintro rfl rfl
    exact hsame rfl

/-- The PINs `set_pin` hands to `ClientPin`: the current PIN typed at its prompt, and its new-PIN
entry, which has at least 4 characters on the first-time branch only. -/
theorem setPin_pins (w : World) (newPin : Option String) (fates : SetPinFates) :
    (∀ clientPin pin outcome, Event.setPin clientPin pin outcome ∈ (setPin w newPin fates).events →
      newPinEntry newPin fates = .returns (some pin) ∧ 4 ≤ pin.length) ∧
    (∀ clientPin oldPin pin outcome,
      Event.changePin clientPin oldPin pin outcome ∈ (setPin w newPin fates).events →
      fates.oldPin = .returns oldPin ∧ newPinEntry newPin fates = .returns (some pin)) := by
  rcases setPin_cases w newPin fates with hr | ⟨_, w₁, clientPin, _, _, hr | ⟨info, _, hr⟩⟩
  · simp [hr]
  · simp [hr]
  rw [hr]
  split
  · rcases setPinChange_cases w₁ clientPin newPin fates with
      ⟨_, _, hr⟩ | ⟨oldPin, pin, hold, hnew, ⟨_, hr⟩ | hr⟩ <;> rw [hr]
    · simp
    all_goals
      refine ⟨by simp, ?_⟩
      simp only [List.mem_singleton, Event.changePin.injEq]
      rintro _ _ _ _ ⟨-, rfl, rfl, -⟩
      exact ⟨hold, hnew⟩
  · rcases setPinFirst_cases w₁ clientPin newPin fates with
      ⟨_, _, hr⟩ | ⟨pin, hnew, hlong, ⟨_, hr⟩ | ⟨_, hr⟩ | ⟨_, hr⟩⟩ <;> rw [hr]
    · simp
    all_goals
      refine ⟨?_, by simp⟩
      simp only [List.mem_cons, Event.setPin.injEq, reduceCtorEq, List.mem_nil_iff, or_false]
      rintro _ _ _ ⟨-, rfl, -⟩
      exact ⟨hnew, hlong⟩

/-- The `set_pin()` calls of a run of `main`: the one offered before the loop, and that of each
turn picking option 6. -/
def MainInputs.SetPinCall (inputs : MainInputs) (fates : SetPinFates) : Prop :=
  fates = inputs.setPin ∨ ∃ t ∈ inputs.turns, t.choice = .returns "6" ∧ fates = t.setPin

/-- A `ClientPin.set_pin` or `ClientPin.change_pin` call of `main` belongs to one of its
`set_pin()` calls. -/
theorem main_setPin_call {decimal : Char → Option (Fin 10)} {inputs : MainInputs} {e : Event}
    (h : e ∈ (main decimal inputs).events)
    (hpin : (∃ clientPin pin outcome, e = .setPin clientPin pin outcome) ∨
      ∃ clientPin oldPin pin outcome, e = .changePin clientPin oldPin pin outcome) :
    ∃ fates w, inputs.SetPinCall fates ∧ e ∈ (setPin w none fates).events := by
  rcases main_event h with hfound | ⟨w, hset⟩ | ⟨t, ht, _, hturn⟩
  · obtain ⟨_, rfl⟩ := findDevice_event hfound
    rcases hpin with ⟨_, _, _, h⟩ | ⟨_, _, _, _, h⟩ <;> cases h
  · exact ⟨_, w, .inl rfl, hset⟩
  obtain ⟨choice, step, w, hchoice, hstep, he⟩ := runTurn_event hturn
  cases hstep
  case setupPin => exact ⟨_, w, .inr ⟨t, ht, hchoice, rfl⟩, he⟩
  case factoryReset =>
    rcases resetDevice_event he with ⟨_, rfl⟩ | ⟨_, rfl⟩ <;>
      rcases hpin with ⟨_, _, _, h⟩ | ⟨_, _, _, _, h⟩ <;> cases h
  all_goals
    have hquiet := sendConfigCommand_quiet _ _ _ _ e he
    rcases hpin with ⟨_, _, _, rfl⟩ | ⟨_, _, _, _, rfl⟩ <;> cases hquiet

/-- Every new PIN `main` hands to `ClientPin.set_pin` or `ClientPin.change_pin` was typed
identically at both new-PIN prompts of one of its `set_pin()` calls, and a first PIN has at least
4 characters; the current PIN `change_pin` gets was typed at that call's prompt. -/
theorem main_pins_typed_twice (decimal : Char → Option (Fin 10)) (inputs : MainInputs) :
    (∀ clientPin pin outcome, Event.setPin clientPin pin outcome ∈ (main decimal inputs).events →
      4 ≤ pin.length ∧ ∃ fates, inputs.SetPinCall fates ∧
        fates.newPin = .returns pin ∧ fates.confirmPin = .returns pin) ∧
    (∀ clientPin oldPin pin outcome,
      Event.changePin clientPin oldPin pin outcome ∈ (main decimal inputs).events →
      ∃ fates, inputs.SetPinCall fates ∧ fates.oldPin = .returns oldPin ∧
        fates.newPin = .returns pin ∧ fates.confirmPin = .returns pin) := by
  refine ⟨fun _ _ _ h => ?_, fun _ _ _ _ h => ?_⟩
  · obtain ⟨fates, w, hcall, he⟩ := main_setPin_call h (.inl ⟨_, _, _, rfl⟩)
    obtain ⟨hentry, hlong⟩ := (setPin_pins w none fates).1 _ _ _ he
    exact ⟨hlong, fates, hcall, newPinEntry_none.mp hentry⟩
  · obtain ⟨fates, w, hcall, he⟩ := main_setPin_call h (.inr ⟨_, _, _, _, rfl⟩)
    obtain ⟨hold, hentry⟩ := (setPin_pins w none fates).2 _ _ _ _ he
    exact ⟨fates, hcall, hold, newPinEntry_none.mp hentry⟩

theorem main_pins_typed_twice_on_first_pin :
    let blank : Info := ⟨[("clientPin", false)], [2, 1]⟩
    let inputs : MainInputs :=
      ⟨⟨.returns true, .returns blank, .returns blank⟩, .returns "y",
        ⟨.returns "", .returns "1234", .returns "1234", .returns (), .returns (),
          .returns ⟨[("clientPin", true)], [2, 1]⟩⟩, .returns (), []⟩
    Event.setPin ⟨0, some ⟨2⟩⟩ "1234" (.returns ()) ∈ (main (fun _ => none) inputs).events ∧
      4 ≤ "1234".length ∧ ∃ fates, inputs.SetPinCall fates ∧
        fates.newPin = .returns "1234" ∧ fates.confirmPin = .returns "1234" := by
  refine ⟨?set, (main_pins_typed_twice _ _).1 _ _ _ ?set⟩
  exact .tail _ (.tail _ (.head _))

/-! ## Exceptions -/

end Commissioner
