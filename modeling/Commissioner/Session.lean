import Commissioner.Cbor

/-!
# The configuration session

`PicoFIDODevice` holds one connection to an authenticator: the `Ctap2` object, the `info` last
fetched, and the PIN state `get_pin_token` leaves behind (`client_pin`, `pin_protocol`,
`pin_token`).  Its methods are modelled as Python runs them.  Every call they make to a
collaborator (the fido2 library and, through it, the device; the terminal's `getpass`) ends in
an `Outcome` the method is given: the call returns, raises an `Exception`, or raises
`KeyboardInterrupt`, which the methods' `except Exception` clauses let through.  A method
reports the calls it made to the library, with their arguments and outcomes, as `Event`s.
-/

namespace Commissioner

/-- A Python exception, as `except Exception` sorts it. -/
inductive Raised where
  /-- An `Exception`: a transport error, a CTAP error status, a `ValueError`. -/
  | exception
  /-- `KeyboardInterrupt`, which derives from `BaseException` only. -/
  | keyboardInterrupt
deriving DecidableEq, Repr

/-- How one call to a collaborator ends. -/
inductive Outcome (α : Type) where
  | returns (value : α)
  | raises (error : Raised)
deriving DecidableEq, Repr

/-- How a method ends for its caller. -/
inductive Exit where
  | returned (value : Bool)
  | raised (error : Raised)
deriving DecidableEq, Repr

/-- The `except Exception: ... return False` closing each method. -/
def Raised.exit : Raised → Exit
  | .exception => .returned false
  | .keyboardInterrupt => .raised .keyboardInterrupt

/-- `fido2.ctap2.Info` as far as the tool reads it. -/
structure Info where
  options : List (String × Bool)
  pinUvProtocols : List Nat
deriving DecidableEq, Repr

/-- The truth value of `info.options.get("clientPin")`, `False` when the option is absent. -/
def Info.clientPin (info : Info) : Bool :=
  (info.options.lookup "clientPin").getD false

/-- A `Ctap2` object: the `info` its constructor fetched, which `ClientPin` reads. -/
structure Ctap2 where
  info : Info
deriving DecidableEq, Repr

/-- A PIN/UV auth protocol object.  `PinProtocolV1` and `PinProtocolV2` hold no state, so an
object is its `VERSION`. -/
structure PinProtocol where
  version : Nat
deriving DecidableEq, Repr

/-- A `ClientPin` object: its address, which keeps two objects built alike apart, and the
`protocol` it was built with. -/
structure ClientPin where
  ref : Nat
  protocol : Option PinProtocol
deriving DecidableEq, Repr

/-- `ClientPin.PROTOCOLS`: the versions `ClientPin.__init__` tries, strongest first. -/
def ClientPin.protocols : List Nat := [2, 1]

/-- `ClientPin(ctap2)` at address `ref`: built with the first version of `PROTOCOLS` that
`ctap2.info.pin_uv_protocols` lists; `none` is its `ValueError`. -/
def ClientPin.new (ctap2 : Ctap2) (ref : Nat) : Option ClientPin :=
  (protocols.find? ctap2.info.pinUvProtocols.contains).map fun version => ⟨ref, some ⟨version⟩⟩

/-- The `pin_protocol` `get_pin_token` keeps: the client's own `protocol`, or else a new
`PinProtocolV2()` (its import cannot fail where `PinProtocol` imports). -/
def ClientPin.pinProtocol (clientPin : ClientPin) : PinProtocol :=
  clientPin.protocol.getD ⟨2⟩

/-- The attributes of a `PicoFIDODevice` the methods read and write. -/
structure PicoFIDODevice where
  ctap2 : Option Ctap2
  info : Option Info
  clientPin : Option ClientPin
  pinToken : Option Bytes
  pinProtocol : Option PinProtocol
deriving Repr

/-- `PicoFIDODevice.__init__`. -/
def PicoFIDODevice.init : PicoFIDODevice := ⟨none, none, none, none, none⟩

/-- Python truthiness of `self.pin_token`: set and not empty. -/
def tokenTruthy : Option Bytes → Bool
  | some token => !token.isEmpty
  | none => false

/-- The session object, and the address the next object built will get. -/
structure World where
  device : PicoFIDODevice
  fresh : Nat
deriving Repr

/-- `self.info = info`. -/
def World.setInfo (w : World) (info : Info) : World :=
  { w with device := { w.device with info := some info } }

/-- `self.pin_token = token`. -/
def World.setToken (w : World) (token : Option Bytes) : World :=
  { w with device := { w.device with pinToken := token } }

/-- `self.client_pin = ClientPin(self.ctap2)`: the new object takes the next address. -/
def World.newClient (w : World) (clientPin : ClientPin) : World :=
  ⟨{ w.device with clientPin := some clientPin }, w.fresh + 1⟩

/-- `self.pin_protocol = protocol`. -/
def World.setProtocol (w : World) (protocol : PinProtocol) : World :=
  { w with device := { w.device with pinProtocol := some protocol } }

/-- `self.client_pin = None`. -/
def World.dropClient (w : World) : World :=
  { w with device := { w.device with clientPin := none } }

attribute [simp] World.setInfo World.setToken World.newClient World.setProtocol World.dropClient

/-- A call the session made to the fido2 library, with its arguments and how it ended. -/
inductive Event where
  | getInfo (outcome : Outcome Info)
  | reset (outcome : Outcome Unit)
  | getPinToken (clientPin : ClientPin) (pin : String) (permissions : Nat)
      (outcome : Outcome Bytes)
  | setPin (clientPin : ClientPin) (pin : String) (outcome : Outcome Unit)
  | changePin (clientPin : ClientPin) (oldPin newPin : String) (outcome : Outcome Unit)
  | authenticate (protocol : PinProtocol) (key message : Bytes) (outcome : Outcome Bytes)
  | sendCbor (cmd : Nat) (data : Cbor) (outcome : Outcome Unit)

/-- How a method call ended, the session after it, and the library calls it made. -/
structure Called where
  exit : Exit
  world : World
  events : List Event

/-- `CTAP_AUTHENTICATOR_CONFIG`: the authenticatorConfig command byte. -/
def ctapAuthenticatorConfig : Nat := 0x0D

/-- `PERMISSION_ACFG`: the authenticator-configuration permission of a PIN token. -/
def permissionAcfg : Nat := 0x20

/-- The outcomes of the calls `find_device` makes. -/
structure FindDeviceFates where
  /-- `list(CtaphidDevice.list_devices())`: whether it found a device, or what it raised. -/
  listDevices : Outcome Bool
  /-- The `get_info` inside `Ctap2(self.dev)`. -/
  ctap2Info : Outcome Info
  /-- `self.ctap2.get_info()`. -/
  getInfo : Outcome Info

/-- `PicoFIDODevice.find_device`.  The device listing and the constructor `Ctap2(self.dev)`
stand outside the `try`, so their exceptions leave the method. -/
def findDevice (w : World) (fates : FindDeviceFates) : Called :=
  match fates.listDevices with
  | .raises e => ⟨.raised e, w, []⟩
  | .returns false => ⟨.returned false, w, []⟩
  | .returns true =>
      match fates.ctap2Info with
      | .raises e => ⟨.raised e, w, [.getInfo (.raises e)]⟩
      | .returns ctapInfo =>
          let w : World := { w with device := { w.device with ctap2 := some ⟨ctapInfo⟩ } }
          let events := [Event.getInfo (.returns ctapInfo)]
          match fates.getInfo with
          | .raises e => ⟨e.exit, w, events ++ [.getInfo (.raises e)]⟩
          | .returns info =>
              ⟨.returned true, w.setInfo info, events ++ [.getInfo (.returns info)]⟩

/-- The outcomes of the calls `get_pin_token` can make. -/
structure GetPinTokenFates where
  /-- `getpass.getpass("→ Enter device PIN: ")`, asked when no `pin` is passed. -/
  getpass : Outcome String
  /-- `self.client_pin.get_pin_token(pin, PERMISSION_ACFG)`. -/
  getPinToken : Outcome Bytes

/-- `PicoFIDODevice.get_pin_token`.  It stores the new `ClientPin` and its protocol before it
asks for the PIN. -/
def getPinToken (w : World) (pin : Option String) (fates : GetPinTokenFates) : Called :=
  match w.device.ctap2, w.device.info with
  | none, _ => ⟨.returned false, w, []⟩
  | some _, none => ⟨.returned false, w, []⟩
  | some ctap2, some info =>
      if !info.clientPin then ⟨.returned false, w, []⟩ else
      match ClientPin.new ctap2 w.fresh with
      | none => ⟨.returned false, w, []⟩
      | some clientPin =>
          let w := (w.newClient clientPin).setProtocol clientPin.pinProtocol
          match (pin.map Outcome.returns).getD fates.getpass with
          | .raises e => ⟨e.exit, w, []⟩
          | .returns pin =>
              match fates.getPinToken with
              | .raises e => ⟨e.exit, w, [.getPinToken clientPin pin permissionAcfg (.raises e)]⟩
              | .returns token =>
                  ⟨.returned true, w.setToken (some token),
                    [.getPinToken clientPin pin permissionAcfg (.returns token)]⟩

/-- The outcomes of the calls `reset_device` makes. -/
structure ResetFates where
  /-- `self.ctap2.reset()`. -/
  reset : Outcome Unit
  /-- `self.ctap2.get_info()` after the reset. -/
  getInfo : Outcome Info

/-- `PicoFIDODevice.reset_device`. -/
def resetDevice (w : World) (fates : ResetFates) : Called :=
  match w.device.ctap2 with
  | none => ⟨.returned false, w, []⟩
  | some _ =>
      match fates.reset with
      | .raises e => ⟨e.exit, w, [.reset (.raises e)]⟩
      | .returns () =>
          match fates.getInfo with
          | .raises e => ⟨e.exit, w, [.reset (.returns ()), .getInfo (.raises e)]⟩
          | .returns info =>
              ⟨.returned true, ((w.setInfo info).setToken none).dropClient,
                [.reset (.returns ()), .getInfo (.returns info)]⟩

/-- The outcomes of the calls `set_pin` can make. -/
structure SetPinFates where
  /-- `getpass.getpass("→ Enter current PIN: ")`. -/
  oldPin : Outcome String
  /-- `getpass.getpass("→ Enter new PIN (min 4 chars): ")`. -/
  newPin : Outcome String
  /-- `getpass.getpass("→ Confirm new PIN: ")`. -/
  confirmPin : Outcome String
  /-- `self.client_pin.change_pin(old_pin, new_pin)`. -/
  changePin : Outcome Unit
  /-- `self.client_pin.set_pin(new_pin)`. -/
  setPin : Outcome Unit
  /-- `self.ctap2.get_info()` after the PIN is set. -/
  getInfo : Outcome Info

/-- The new PIN of `set_pin`: `new_pin` when passed, else typed at the two prompts, both
branches alike; `none` when the two entries differ ("PINs don't match!"). -/
def newPinEntry (newPin : Option String) (fates : SetPinFates) : Outcome (Option String) :=
  match newPin with
  | some pin => .returns (some pin)
  | none =>
      match fates.newPin, fates.confirmPin with
      | .raises e, _ => .raises e
      | .returns _, .raises e => .raises e
      | .returns pin, .returns confirm => .returns (if pin = confirm then some pin else none)

/-- `if not self.client_pin: self.client_pin = ClientPin(self.ctap2)`; `none` is the
constructor's `ValueError`. -/
def ensureClientPin (w : World) (ctap2 : Ctap2) : Option (World × ClientPin) :=
  match w.device.clientPin with
  | some clientPin => some (w, clientPin)
  | none => (ClientPin.new ctap2 w.fresh).map fun clientPin => (w.newClient clientPin, clientPin)

/-- The `if has_pin:` branch of `set_pin`: the current PIN, the new one, then `change_pin`. -/
def setPinChange (w : World) (clientPin : ClientPin) (newPin : Option String)
    (fates : SetPinFates) : Called :=
  match fates.oldPin with
  | .raises e => ⟨e.exit, w, []⟩
  | .returns oldPin =>
      match newPinEntry newPin fates with
      | .raises e => ⟨e.exit, w, []⟩
      | .returns none => ⟨.returned false, w, []⟩
      | .returns (some pin) =>
          match fates.changePin with
          | .raises e => ⟨e.exit, w, [.changePin clientPin oldPin pin (.raises e)]⟩
          | .returns () =>
              ⟨.returned true, w.setToken none, [.changePin clientPin oldPin pin (.returns ())]⟩

/-- The `else` branch of `set_pin`: a first PIN of at least 4 characters, `set_pin`, then
`get_info`. -/
def setPinFirst (w : World) (clientPin : ClientPin) (newPin : Option String)
    (fates : SetPinFates) : Called :=
  match newPinEntry newPin fates with
  | .raises e => ⟨e.exit, w, []⟩
  | .returns none => ⟨.returned false, w, []⟩
  | .returns (some pin) =>
      if pin.length < 4 then ⟨.returned false, w, []⟩ else
      match fates.setPin with
      | .raises e => ⟨e.exit, w, [.setPin clientPin pin (.raises e)]⟩
      | .returns () =>
          match fates.getInfo with
          | .raises e => ⟨e.exit, w, [.setPin clientPin pin (.returns ()), .getInfo (.raises e)]⟩
          | .returns info =>
              ⟨.returned true, (w.setInfo info).setToken none,
                [.setPin clientPin pin (.returns ()), .getInfo (.returns info)]⟩

/-- `PicoFIDODevice.set_pin`: change the PIN when `info` reports one, else set the first one. -/
def setPin (w : World) (newPin : Option String) (fates : SetPinFates) : Called :=
  match w.device.ctap2 with
  | none => ⟨.returned false, w, []⟩
  | some ctap2 =>
      match ensureClientPin w ctap2 with
      | none => ⟨.returned false, w, []⟩
      | some (w, clientPin) =>
          match w.device.info with
          | none => ⟨.returned false, w, []⟩
          | some info =>
              if info.clientPin then setPinChange w clientPin newPin fates
              else setPinFirst w clientPin newPin fates

/-- The outcomes of the calls `send_config_command` can make. -/
structure SendFates where
  /-- The calls of the `get_pin_token()` it makes when it holds no token. -/
  auth : GetPinTokenFates
  /-- `self.pin_protocol.authenticate(self.pin_token, message)`. -/
  authenticate : Outcome Bytes
  /-- `self.ctap2.send_cbor(CTAP_AUTHENTICATOR_CONFIG, config_data)`, once the request is
  encoded. -/
  sendCbor : Outcome Unit

/-- `subcommand_params`: the vendor parameter id under `0x01`, its value under `0x03`. -/
def subcommandParams (vendorCommandId paramValue : Int) : Cbor :=
  .map [(.int 0x01, .int vendorCommandId), (.int 0x03, .int paramValue)]

/-- The `message` the PIN/UV auth tag is computed over: 32 bytes `0xff`, the
authenticatorConfig command `0x0d`, the subcommand `0xff`, then the encoded parameters. -/
def configMessage (subcommandBytes : Bytes) : Bytes :=
  List.replicate 32 0xff ++ [0x0d, 0xff] ++ subcommandBytes

/-- `config_data`: the vendor subcommand `0xFF`, its parameters, the PIN/UV protocol version and
the auth tag. -/
def configData (vendorCommandId paramValue : Int) (protocol : PinProtocol)
    (pinAuth : Bytes) : Cbor :=
  .map [(.int 0x01, .int 0xFF), (.int 0x02, subcommandParams vendorCommandId paramValue),
    (.int 0x03, .int protocol.version), (.int 0x04, .bytes pinAuth)]

/-- `send_cbor` encodes its request before it transmits; an argument `dump_int` refuses raises
there, before the device sees anything. -/
def sendCborOutcome (data : Cbor) (fate : Outcome Unit) : Outcome Unit :=
  if (Fido2.encode data).isSome then fate else .raises .exception

/-- `except Exception: ... self.pin_token = None; return False` of `send_config_command`. -/
def configFailure (w : World) (error : Raised) (events : List Event) : Called :=
  match error with
  | .exception => ⟨.returned false, w.setToken none, events⟩
  | .keyboardInterrupt => ⟨.raised .keyboardInterrupt, w, events⟩

/-- `if not self.pin_token: if not self.get_pin_token(): return False`, as a call that returns
`True` when `send_config_command` goes on. -/
def ensureToken (w : World) (fates : GetPinTokenFates) : Called :=
  if tokenTruthy w.device.pinToken then ⟨.returned true, w, []⟩ else getPinToken w none fates

/-- `PicoFIDODevice.send_config_command`: fetch a token when none is held, then authenticate
the parameters and send them. -/
def sendConfigCommand (w : World) (vendorCommandId paramValue : Int) (fates : SendFates) :
    Called :=
  let auth := ensureToken w fates.auth
  match auth.exit with
  | .returned false | .raised _ => auth
  | .returned true =>
      let w := auth.world
      let params := subcommandParams vendorCommandId paramValue
      match Cbor2.dumps params, w.device.pinProtocol, w.device.pinToken with
      | some subcommandBytes, some protocol, some token =>
          let message := configMessage subcommandBytes
          match fates.authenticate with
          | .raises e =>
              configFailure w e (auth.events ++ [.authenticate protocol token message (.raises e)])
          | .returns pinAuth =>
              let data := configData vendorCommandId paramValue protocol pinAuth
              let events := auth.events ++ [.authenticate protocol token message (.returns pinAuth)]
              -- `self.ctap2.send_cbor` on a session without `ctap2` is an `AttributeError`
              match w.device.ctap2 with
              | none => configFailure w .exception events
              | some _ =>
                  match sendCborOutcome data fates.sendCbor with
                  | .raises e =>
                      configFailure w e
                        (events ++ [.sendCbor ctapAuthenticatorConfig data (.raises e)])
                  | .returns () =>
                      ⟨.returned true, w,
                        events ++ [.sendCbor ctapAuthenticatorConfig data (.returns ())]⟩
      | _, _, _ => configFailure w .exception auth.events

/-! ## What each method can do -/

/-- `get_pin_token` gives up before building a client, or builds `clientPin` at the next
address and stores it with its protocol; then it stops, or calls `ClientPin.get_pin_token` once
and keeps the token that call returns. -/
theorem getPinToken_cases (w : World) (pin : Option String) (fates : GetPinTokenFates) :
    getPinToken w pin fates = ⟨.returned false, w, []⟩ ∨
    ∃ ctap2 info clientPin, w.device.ctap2 = some ctap2 ∧ w.device.info = some info ∧
      info.clientPin = true ∧ ClientPin.new ctap2 w.fresh = some clientPin ∧
      ((∃ e : Raised, getPinToken w pin fates =
          ⟨e.exit, (w.newClient clientPin).setProtocol clientPin.pinProtocol, []⟩) ∨
       (∃ (p : String) (e : Raised), getPinToken w pin fates =
          ⟨e.exit, (w.newClient clientPin).setProtocol clientPin.pinProtocol,
            [.getPinToken clientPin p permissionAcfg (.raises e)]⟩) ∨
       (∃ (p : String) (token : Bytes), getPinToken w pin fates =
          ⟨.returned true,
            ((w.newClient clientPin).setProtocol clientPin.pinProtocol).setToken (some token),
            [.getPinToken clientPin p permissionAcfg (.returns token)]⟩)) := by
  unfold getPinToken
  rcases hc : w.device.ctap2 with _ | ctap2
  · simp
  rcases hi : w.device.info with _ | info
  · simp
  by_cases hp : info.clientPin = true
  swap
  · simp [hp]
  rcases hn : ClientPin.new ctap2 w.fresh with _ | clientPin
  · simp [hp, hn]
  refine .inr ⟨ctap2, info, clientPin, rfl, rfl, hp, hn, ?_⟩
  simp only [hp, hn, Bool.not_true]
  rcases (pin.map Outcome.returns).getD fates.getpass with p | e
  · rcases fates.getPinToken with token | e
    · exact .inr (.inr ⟨p, token, rfl⟩)
    · exact .inr (.inl ⟨p, e, rfl⟩)
  · exact .inl ⟨e, rfl⟩

/-- `reset_device` stops with no call, or calls `Ctap2.reset` and, when that returns,
`get_info`; only when both return does it store the new info and drop the token and the
client. -/
theorem resetDevice_cases (w : World) (fates : ResetFates) :
    resetDevice w fates = ⟨.returned false, w, []⟩ ∨
    (∃ e : Raised, resetDevice w fates = ⟨e.exit, w, [.reset (.raises e)]⟩) ∨
    (∃ e : Raised, resetDevice w fates =
      ⟨e.exit, w, [.reset (.returns ()), .getInfo (.raises e)]⟩) ∨
    (∃ info, resetDevice w fates = ⟨.returned true, ((w.setInfo info).setToken none).dropClient,
      [.reset (.returns ()), .getInfo (.returns info)]⟩) := by
  unfold resetDevice
  rcases w.device.ctap2 with _ | _
  · exact .inl rfl
  rcases fates.reset with ⟨⟩ | e
  · rcases fates.getInfo with info | e
    · exact .inr (.inr (.inr ⟨info, rfl⟩))
    · exact .inr (.inr (.inl ⟨e, rfl⟩))
  · exact .inr (.inl ⟨e, rfl⟩)

/-- `ensureClientPin` keeps the client held, or builds one at the next address. -/
theorem ensureClientPin_world {w w₁ : World} {ctap2 : Ctap2} {clientPin : ClientPin}
    (h : ensureClientPin w ctap2 = some (w₁, clientPin)) :
    (w₁ = w ∧ w.device.clientPin = some clientPin) ∨
    (w₁ = w.newClient clientPin ∧ ClientPin.new ctap2 w.fresh = some clientPin) := by
  unfold ensureClientPin at h
  rcases hc : w.device.clientPin with _ | c <;> simp only [hc, Option.map_eq_some',
    Option.some.injEq, Prod.mk.injEq] at h
  · obtain ⟨_, hn, rfl, rfl⟩ := h
    exact .inr ⟨rfl, hn⟩
  · exact .inl ⟨h.1.symm, h.2 ▸ rfl⟩

theorem ensureToken_cases (w : World) (fates : GetPinTokenFates) :
    (tokenTruthy w.device.pinToken = true ∧ ensureToken w fates = ⟨.returned true, w, []⟩) ∨
    (tokenTruthy w.device.pinToken = false ∧ ensureToken w fates = getPinToken w none fates) := by
  unfold ensureToken
  cases tokenTruthy w.device.pinToken
  · exact .inr ⟨rfl, rfl⟩
  · exact .inl ⟨rfl, rfl⟩

@[simp] theorem Raised.exit_ne_returned_true (e : Raised) : e.exit ≠ .returned true := by
  cases e <;> decide

/-- The change branch stops with no call, or calls `change_pin` once and drops the token when
that returns. -/
theorem setPinChange_cases (w : World) (clientPin : ClientPin) (newPin : Option String)
    (fates : SetPinFates) :
    (∃ x, x ≠ .returned true ∧ setPinChange w clientPin newPin fates = ⟨x, w, []⟩) ∨
    ∃ oldPin pin, fates.oldPin = .returns oldPin ∧ newPinEntry newPin fates = .returns (some pin) ∧
      ((∃ e : Raised, setPinChange w clientPin newPin fates =
        ⟨e.exit, w, [.changePin clientPin oldPin pin (.raises e)]⟩) ∨
      setPinChange w clientPin newPin fates =
        ⟨.returned true, w.setToken none, [.changePin clientPin oldPin pin (.returns ())]⟩) := by
  unfold setPinChange
  rcases fates.oldPin with oldPin | e
  · rcases newPinEntry newPin fates with (_ | pin) | e
    · exact .inl ⟨_, by decide, rfl⟩
    · rcases fates.changePin with ⟨⟩ | e
      · exact .inr ⟨oldPin, pin, rfl, rfl, .inr rfl⟩
      · exact .inr ⟨oldPin, pin, rfl, rfl, .inl ⟨e, rfl⟩⟩
    · exact .inl ⟨_, e.exit_ne_returned_true, rfl⟩
  · exact .inl ⟨_, e.exit_ne_returned_true, rfl⟩

/-- The first-time branch stops with no call, or, for a new PIN of at least 4 characters, calls
`set_pin` and, when that returns, `get_info`, keeping the info and dropping the token when both
return. -/
theorem setPinFirst_cases (w : World) (clientPin : ClientPin) (newPin : Option String)
    (fates : SetPinFates) :
    (∃ x, x ≠ .returned true ∧ setPinFirst w clientPin newPin fates = ⟨x, w, []⟩) ∨
    ∃ pin : String, newPinEntry newPin fates = .returns (some pin) ∧ 4 ≤ pin.length ∧
      ((∃ e : Raised, setPinFirst w clientPin newPin fates =
          ⟨e.exit, w, [.setPin clientPin pin (.raises e)]⟩) ∨
       (∃ e : Raised, setPinFirst w clientPin newPin fates =
          ⟨e.exit, w, [.setPin clientPin pin (.returns ()), .getInfo (.raises e)]⟩) ∨
       (∃ info, setPinFirst w clientPin newPin fates = ⟨.returned true, (w.setInfo info).setToken none,
          [.setPin clientPin pin (.returns ()), .getInfo (.returns info)]⟩)) := by
  unfold setPinFirst
  rcases hentry : newPinEntry newPin fates with (_ | pin) | e
  · exact .inl ⟨_, by decide, rfl⟩
  · by_cases hshort : pin.length < 4
    · exact .inl ⟨.returned false, by decide, by simp [hshort]⟩
    · refine .inr ⟨pin, rfl, by omega, ?_⟩
      simp only [hshort, if_false]
      rcases fates.setPin with ⟨⟩ | e
      · rcases fates.getInfo with info | e
        · exact .inr (.inr ⟨info, rfl⟩)
        · exact .inr (.inl ⟨e, rfl⟩)
      · exact .inl ⟨e, rfl⟩
  · exact .inl ⟨_, e.exit_ne_returned_true, rfl⟩

/-- `set_pin` gives up with no call, or holds `clientPin` in `w₁` and runs the branch the
stored info selects. -/
theorem setPin_cases (w : World) (newPin : Option String) (fates : SetPinFates) :
    setPin w newPin fates = ⟨.returned false, w, []⟩ ∨
    ∃ ctap2 w₁ clientPin, w.device.ctap2 = some ctap2 ∧
      ensureClientPin w ctap2 = some (w₁, clientPin) ∧
      (setPin w newPin fates = ⟨.returned false, w₁, []⟩ ∨
       ∃ info, w₁.device.info = some info ∧ setPin w newPin fates =
         if info.clientPin then setPinChange w₁ clientPin newPin fates
         else setPinFirst w₁ clientPin newPin fates) := by
  rcases hc : w.device.ctap2 with _ | ctap2
  · exact .inl (by simp [setPin, hc])
  rcases he : ensureClientPin w ctap2 with _ | ⟨w₁, clientPin⟩
  · exact .inl (by simp [setPin, hc, he])
  refine .inr ⟨ctap2, w₁, clientPin, rfl, he, ?_⟩
  rcases hi : w₁.device.info with _ | info
  · exact .inl (by simp [setPin, hc, he, hi])
  · exact .inr ⟨info, rfl, by simp [setPin, hc, he, hi]⟩

/-- The session `set_pin` leaves: untouched, or the one holding its client, with the token
dropped and, on the first-time branch, the info refreshed. -/
theorem setPin_world (w : World) (newPin : Option String) (fates : SetPinFates) :
    (setPin w newPin fates).world = w ∨
    ∃ ctap2 w₁ clientPin, w.device.ctap2 = some ctap2 ∧
      ensureClientPin w ctap2 = some (w₁, clientPin) ∧
      ((setPin w newPin fates).world = w₁ ∨ (setPin w newPin fates).world = w₁.setToken none ∨
       ∃ info, (setPin w newPin fates).world = (w₁.setInfo info).setToken none) := by
  rcases setPin_cases w newPin fates with hr | ⟨ctap2, w₁, clientPin, hc, he, hr | ⟨_, _, hr⟩⟩
  · exact .inl (by rw [hr])
  · exact .inr ⟨ctap2, w₁, clientPin, hc, he, .inl (by rw [hr])⟩
  refine .inr ⟨ctap2, w₁, clientPin, hc, he, ?_⟩
  rw [hr]
  split
  · rcases setPinChange_cases w₁ clientPin newPin fates with ⟨_, _, hr⟩ | ⟨_, _, -, -, ⟨_, hr⟩ | hr⟩ <;>
      rw [hr]
    · exact .inl rfl
    · exact .inl rfl
    · exact .inr (.inl rfl)
  · rcases setPinFirst_cases w₁ clientPin newPin fates with
      ⟨_, _, hr⟩ | ⟨_, _, _, ⟨_, hr⟩ | ⟨_, hr⟩ | ⟨info, hr⟩⟩ <;> rw [hr]
    · exact .inl rfl
    · exact .inl rfl
    · exact .inl rfl
    · exact .inr (.inr ⟨info, rfl⟩)

theorem configFailure_cases (w : World) (e : Raised) (events : List Event) :
    configFailure w e events = ⟨.returned false, w.setToken none, events⟩ ∨
    configFailure w e events = ⟨.raised .keyboardInterrupt, w, events⟩ := by
  cases e
  · exact .inl rfl
  · exact .inr rfl

@[simp] theorem configFailure_events (w : World) (e : Raised) (events : List Event) :
    (configFailure w e events).events = events := by
  cases e <;> rfl

/-- `send_config_command` stops where token acquisition did not return `True`; past it, it
fails before authenticating, or calls `authenticate` with the held protocol and token over the
encoded parameters and then fails, or, once that returned, calls `send_cbor` with
`config_data`. -/
theorem sendConfigCommand_cases {w : World} {vendorCommandId paramValue : Int}
    {fates : SendFates} {auth : Called} (hauth : ensureToken w fates.auth = auth) :
    (auth.exit ≠ .returned true ∧ sendConfigCommand w vendorCommandId paramValue fates = auth) ∨
    (auth.exit = .returned true ∧
      (sendConfigCommand w vendorCommandId paramValue fates =
          configFailure auth.world .exception auth.events ∨
       ∃ protocol token subcommandBytes, auth.world.device.pinProtocol = some protocol ∧
        auth.world.device.pinToken = some token ∧
        Cbor2.dumps (subcommandParams vendorCommandId paramValue) = some subcommandBytes ∧
        ((∃ e outcome, sendConfigCommand w vendorCommandId paramValue fates =
            configFailure auth.world e (auth.events ++
              [.authenticate protocol token (configMessage subcommandBytes) outcome])) ∨
         ∃ pinAuth,
          let data := configData vendorCommandId paramValue protocol pinAuth
          let events := auth.events ++
            [.authenticate protocol token (configMessage subcommandBytes) (.returns pinAuth)]
          ((∃ e, sendCborOutcome data fates.sendCbor = .raises e ∧
              sendConfigCommand w vendorCommandId paramValue fates = configFailure auth.world e
                (events ++ [.sendCbor ctapAuthenticatorConfig data (.raises e)])) ∨
           (sendCborOutcome data fates.sendCbor = .returns () ∧
              sendConfigCommand w vendorCommandId paramValue fates = ⟨.returned true, auth.world,
                events ++ [.sendCbor ctapAuthenticatorConfig data (.returns ())]⟩))))) := by
  subst hauth
  unfold sendConfigCommand
  rcases hexit : (ensureToken w fates.auth).exit with (_ | _) | e
  · exact .inl ⟨by decide, by simp [hexit]⟩
  · refine .inr ⟨rfl, ?_⟩
    simp only [hexit]
    rcases Cbor2.dumps (subcommandParams vendorCommandId paramValue) with _ | subcommandBytes
    · exact .inl rfl
    rcases hp : (ensureToken w fates.auth).world.device.pinProtocol with _ | protocol
    · exact .inl rfl
    rcases ht : (ensureToken w fates.auth).world.device.pinToken with _ | token
    · exact .inl rfl
    refine .inr ⟨protocol, token, subcommandBytes, rfl, rfl, rfl, ?_⟩
    rcases fates.authenticate with pinAuth | e
    · rcases (ensureToken w fates.auth).world.device.ctap2 with _ | ctap2
      · exact .inl ⟨.exception, _, rfl⟩
      refine .inr ⟨pinAuth, ?_⟩
      dsimp only
      rcases hsend : sendCborOutcome (configData vendorCommandId paramValue protocol pinAuth)
          fates.sendCbor with ⟨⟩ | e
      · exact .inr ⟨rfl, rfl⟩
      · exact .inl ⟨e, rfl, rfl⟩
    · exact .inl ⟨e, _, rfl⟩
  · exact .inl ⟨by simp, by simp [hexit]⟩

end Commissioner
