import Commissioner.Session

/-!
# Runs of a session

After a successful `find_device` the tool's caller drives the session with any sequence of
`get_pin_token`, `set_pin`, `reset_device` and `send_config_command` calls, each meeting its
own outcomes.  `Reachable w history` says the session can be in `w` with `history` the library
calls made so far, `find_device`'s included.
-/

namespace Commissioner

/-- One method call on the session, with the outcomes of the calls it makes. -/
inductive Step where
  | getPinToken (pin : Option String) (fates : GetPinTokenFates)
  | setPin (newPin : Option String) (fates : SetPinFates)
  | resetDevice (fates : ResetFates)
  | sendConfigCommand (vendorCommandId paramValue : Int) (fates : SendFates)

/-- Run one method call. -/
def Step.run (w : World) : Step → Called
  | .getPinToken pin fates => Commissioner.getPinToken w pin fates
  | .setPin newPin fates => Commissioner.setPin w newPin fates
  | .resetDevice fates => Commissioner.resetDevice w fates
  | .sendConfigCommand vendorCommandId paramValue fates =>
      Commissioner.sendConfigCommand w vendorCommandId paramValue fates

/-- The session right after `PicoFIDODevice()`. -/
def World.init : World := ⟨.init, 0⟩

/-- The sessions a successful `find_device` and then any method calls lead to, with the library
calls made on the way. -/
inductive Reachable : World → List Event → Prop
  | found (fates : FindDeviceFates) :
      (findDevice .init fates).exit = .returned true →
      Reachable (findDevice .init fates).world (findDevice .init fates).events
  | step {w : World} {history : List Event} (step : Step) :
      Reachable w history → Reachable (step.run w).world (history ++ (step.run w).events)

/-- What a successful `find_device` leaves: a `Ctap2`, its info, and nothing of a PIN. -/
theorem findDevice_found {fates : FindDeviceFates} (h : (findDevice .init fates).exit = .returned true) :
    ∃ ctapInfo info, (findDevice .init fates).world =
        ⟨⟨some ⟨ctapInfo⟩, some info, none, none, none⟩, 0⟩ ∧
      (findDevice .init fates).events = [.getInfo (.returns ctapInfo), .getInfo (.returns info)] := by
  have hl : fates.listDevices = .returns true := by
    rcases hl : fates.listDevices with (_ | _) | e <;> simp [findDevice, hl] at h ⊢
  unfold findDevice at h ⊢
  rcases hc : fates.ctap2Info with ctapInfo | e
  · rcases hg : fates.getInfo with info | e
    · exact ⟨ctapInfo, info, by simp [hl, hc, hg, World.init, PicoFIDODevice.init]⟩
    · cases e <;> simp [hl, hc, hg, Raised.exit] at h
  · simp [hl, hc] at h

end Commissioner
