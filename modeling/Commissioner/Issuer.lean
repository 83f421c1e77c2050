import Commissioner.TokenMachine

/-!
# The client and protocol behind a token

Every `ClientPin` the session builds is `ClientPin(self.ctap2)` over the one `Ctap2` that
`find_device` made, so all of them negotiate the same PIN/UV protocol.  A token held is the
last one `ClientPin.get_pin_token` returned, and `pin_protocol` is the protocol of the client
that returned it, although `client_pin` may since have been replaced by another object.
-/

namespace Commissioner

/-- The client and token of a `ClientPin.get_pin_token` call that returned. -/
def Event.issued : Event → Option (ClientPin × Bytes)
  | .getPinToken clientPin _ _ (.returns token) => some (clientPin, token)
  | _ => none

/-- The last token `ClientPin.get_pin_token` returned among `events`, with the client that
returned it. -/
def lastIssue (events : List Event) : Option (ClientPin × Bytes) :=
  (events.filterMap Event.issued).getLast?

theorem lastIssue_append (events more : List Event) :
    lastIssue (events ++ more) = (lastIssue more).or (lastIssue events) := by
  simp only [lastIssue, List.filterMap_append, List.getLast?_append]

theorem lastIssue_eq_none {events : List Event} (h : ∀ e ∈ events, e.issued = none) :
    lastIssue events = none := by
  simpa only [lastIssue, List.getLast?_eq_none_iff, List.filterMap_eq_nil_iff] using h

theorem lastIssue_append_quiet {events more : List Event} (h : lastIssue more = none) :
    lastIssue (events ++ more) = lastIssue events := by
  rw [lastIssue_append, h, Option.none_or]

/-- `clientPin` is an object `ClientPin(ctap2)`. -/
def BuiltBy (ctap2 : Ctap2) (clientPin : ClientPin) : Prop :=
  ∃ ref, ClientPin.new ctap2 ref = some clientPin

/-- Two clients built over one `Ctap2` negotiated the same protocol. -/
theorem BuiltBy.protocol_eq {ctap2 : Ctap2} {a b : ClientPin} (ha : BuiltBy ctap2 a)
    (hb : BuiltBy ctap2 b) : a.protocol = b.protocol := by
  obtain ⟨_, ha⟩ := ha
  obtain ⟨_, hb⟩ := hb
  simp only [ClientPin.new, Option.map_eq_some'] at ha hb
  obtain ⟨v, hv, rfl⟩ := ha
  obtain ⟨v', hv', rfl⟩ := hb
  rw [hv] at hv'
  cases hv'
  rfl

/-- The PIN state of a session over `ctap2`, after `history`. -/
structure IssuerInv (ctap2 : Ctap2) (w : World) (history : List Event) : Prop where
  /-- `self.ctap2` is the object `find_device` made. -/
  ctap2_eq : w.device.ctap2 = some ctap2
  /-- The client held was built over it. -/
  clientPin_built : ∀ clientPin, w.device.clientPin = some clientPin → BuiltBy ctap2 clientPin
  /-- The protocol held is the one a client built over it negotiated. -/
  pinProtocol_built : ∀ protocol, w.device.pinProtocol = some protocol →
    ∃ clientPin, BuiltBy ctap2 clientPin ∧ protocol = clientPin.pinProtocol
  /-- A token held is the last one issued, by a client built over it, whose protocol is held. -/
  pinToken_issued : ∀ token, w.device.pinToken = some token →
    ∃ issuer, BuiltBy ctap2 issuer ∧ lastIssue history = some (issuer, token) ∧
      w.device.pinProtocol = some issuer.pinProtocol

section
variable {ctap2 : Ctap2} {w : World} {history : List Event}

/-- A call that issues no token, keeps `ctap2` and the protocol, holds a client built over
`ctap2`, and keeps or drops the token, keeps `IssuerInv`. -/
theorem IssuerInv.frame {w' : World} {events : List Event} (h : IssuerInv ctap2 w history)
    (hq : lastIssue events = none) (hc : w'.device.ctap2 = w.device.ctap2)
    (hcp : ∀ clientPin, w'.device.clientPin = some clientPin → BuiltBy ctap2 clientPin)
    (hp : w'.device.pinProtocol = w.device.pinProtocol)
    (ht : w'.device.pinToken = w.device.pinToken ∨ w'.device.pinToken = none) :
    IssuerInv ctap2 w' (history ++ events) where
  ctap2_eq := hc ▸ h.ctap2_eq
  clientPin_built := hcp
  pinProtocol_built := hp ▸ h.pinProtocol_built
  pinToken_issued token htoken := by
    rcases ht with ht | ht <;> rw [ht] at htoken
    · rw [lastIssue_append_quiet hq, hp]
      exact h.pinToken_issued token htoken
    · cases htoken

/-- `get_pin_token` building `clientPin` and storing its protocol, with no token issued. -/
theorem IssuerInv.newClient {clientPin : ClientPin} {events : List Event}
    (h : IssuerInv ctap2 w history) (hb : BuiltBy ctap2 clientPin) (hq : lastIssue events = none) :
    IssuerInv ctap2 ((w.newClient clientPin).setProtocol clientPin.pinProtocol) (history ++ events)
    where
  ctap2_eq := h.ctap2_eq
  clientPin_built := by rintro _ ⟨⟩; exact hb
  pinProtocol_built := by rintro _ ⟨⟩; exact ⟨clientPin, hb, rfl⟩
  pinToken_issued token htoken := by
    obtain ⟨issuer, hi, hlast, -⟩ := h.pinToken_issued token htoken
    refine ⟨issuer, hi, by rw [lastIssue_append_quiet hq, hlast], ?_⟩
    simp [ClientPin.pinProtocol, hb.protocol_eq hi]

/-- `get_pin_token` building `clientPin`, storing its protocol, and keeping the token it
returned. -/
theorem IssuerInv.issue {clientPin : ClientPin} (h : IssuerInv ctap2 w history)
    (hb : BuiltBy ctap2 clientPin) (pin : String) (token : Bytes) :
    IssuerInv ctap2 (((w.newClient clientPin).setProtocol clientPin.pinProtocol).setToken (some token))
      (history ++ [.getPinToken clientPin pin permissionAcfg (.returns token)]) where
  ctap2_eq := h.ctap2_eq
  clientPin_built := by rintro _ ⟨⟩; exact hb
  pinProtocol_built := by rintro _ ⟨⟩; exact ⟨clientPin, hb, rfl⟩
  pinToken_issued := by
    rintro _ ⟨⟩
    exact ⟨clientPin, hb, by rw [lastIssue_append]; rfl, rfl⟩

theorem getPinToken_issuerInv (pin : Option String) (fates : GetPinTokenFates)
    (h : IssuerInv ctap2 w history) :
    IssuerInv ctap2 (getPinToken w pin fates).world (history ++ (getPinToken w pin fates).events) := by
  rcases getPinToken_cases w pin fates with
    hr | ⟨c, _, clientPin, hc, _, _, hn, ⟨_, hr⟩ | ⟨_, _, hr⟩ | ⟨p, token, hr⟩⟩ <;> rw [hr]
  · rw [List.append_nil]; exact h
  all_goals
    obtain rfl : c = ctap2 := Option.some.inj (hc.symm.trans h.ctap2_eq)
    have hb : BuiltBy c clientPin := ⟨w.fresh, hn⟩
  · exact h.newClient hb rfl
  · exact h.newClient hb rfl
  · exact h.issue hb p token

theorem ensureToken_issuerInv (fates : GetPinTokenFates) (h : IssuerInv ctap2 w history) :
    IssuerInv ctap2 (ensureToken w fates).world (history ++ (ensureToken w fates).events) := by
  rcases ensureToken_cases w fates with ⟨-, hr⟩ | ⟨-, hr⟩ <;> rw [hr]
  · rw [List.append_nil]; exact h
  · exact getPinToken_issuerInv none fates h

theorem resetDevice_issuerInv (fates : ResetFates) (h : IssuerInv ctap2 w history) :
    IssuerInv ctap2 (resetDevice w fates).world (history ++ (resetDevice w fates).events) := by
  have hq : lastIssue (resetDevice w fates).events = none := lastIssue_eq_none fun e he => by
    rcases resetDevice_event he with ⟨_, rfl⟩ | ⟨_, rfl⟩ <;> rfl
  rcases resetDevice_cases w fates with hr | ⟨_, hr⟩ | ⟨_, hr⟩ | ⟨_, hr⟩ <;> rw [hr] at hq ⊢
  · exact h.frame hq rfl h.clientPin_built rfl (.inl rfl)
  · exact h.frame hq rfl h.clientPin_built rfl (.inl rfl)
  · exact h.frame hq rfl h.clientPin_built rfl (.inl rfl)
  · exact h.frame hq rfl (by simp) rfl (.inr rfl)

theorem setPin_issuerInv (newPin : Option String) (fates : SetPinFates)
    (h : IssuerInv ctap2 w history) :
    IssuerInv ctap2 (setPin w newPin fates).world (history ++ (setPin w newPin fates).events) := by
  have hq : lastIssue (setPin w newPin fates).events = none := lastIssue_eq_none fun e he => by
    rcases setPin_event he with ⟨_, _, _, rfl⟩ | ⟨_, _, _, _, rfl⟩ | ⟨_, rfl⟩ <;> rfl
  rcases setPin_world w newPin fates with hw | ⟨c, w₁, clientPin, hc, he, hw⟩
  · rw [hw]
    exact h.frame hq rfl h.clientPin_built rfl (.inl rfl)
  obtain rfl : c = ctap2 := Option.some.inj (hc.symm.trans h.ctap2_eq)
  have h₁ : IssuerInv c w₁ history := by
    rcases ensureClientPin_world he with ⟨rfl, -⟩ | ⟨rfl, hn⟩
    · exact h
    · exact ⟨h.ctap2_eq, by rintro _ ⟨⟩; exact ⟨w.fresh, hn⟩, h.pinProtocol_built,
        h.pinToken_issued⟩
  rcases hw with hw | hw | ⟨_, hw⟩ <;> rw [hw]
  · exact h₁.frame hq rfl h₁.clientPin_built rfl (.inl rfl)
  · exact h₁.frame hq rfl h₁.clientPin_built rfl (.inr rfl)
  · exact h₁.frame hq rfl h₁.clientPin_built rfl (.inr rfl)

theorem configFailure_issuerInv {auth : Called} (e : Raised) (more : List Event)
    (h : IssuerInv ctap2 auth.world (history ++ auth.events)) (hq : lastIssue more = none) :
    IssuerInv ctap2 (configFailure auth.world e (auth.events ++ more)).world
      (history ++ (configFailure auth.world e (auth.events ++ more)).events) := by
  rw [configFailure_events, ← List.append_assoc]
  rcases configFailure_cases auth.world e (auth.events ++ more) with hr | hr <;> rw [hr]
  · exact h.frame hq rfl h.clientPin_built rfl (.inr rfl)
  · exact h.frame hq rfl h.clientPin_built rfl (.inl rfl)

theorem sendConfigCommand_issuerInv (vendorCommandId paramValue : Int) (fates : SendFates)
    (h : IssuerInv ctap2 w history) :
    IssuerInv ctap2 (sendConfigCommand w vendorCommandId paramValue fates).world
      (history ++ (sendConfigCommand w vendorCommandId paramValue fates).events) := by
  have hauth := ensureToken_issuerInv fates.auth h
  rcases @sendConfigCommand_cases w vendorCommandId paramValue fates _ rfl with
    ⟨_, hr⟩ | ⟨_, hr | ⟨_, _, _, _, _, _, ⟨e, _, hr⟩ | ⟨_, ⟨e, _, hr⟩ | ⟨_, hr⟩⟩⟩⟩ <;> rw [hr]
  · exact hauth
  · simpa using configFailure_issuerInv .exception [] hauth rfl
  · exact configFailure_issuerInv e _ hauth rfl
  · rw [List.append_assoc]
    exact configFailure_issuerInv e _ hauth rfl
  · rw [List.append_assoc _ [_], ← List.append_assoc history]
    exact hauth.frame rfl rfl hauth.clientPin_built rfl (.inl rfl)

/-- Each request `send_config_command` hands to `send_cbor` carries, under key `0x03`, the
protocol of the client that issued the token it was authenticated with, and the tag computed
under that protocol with that token. -/
theorem sendConfigCommand_envelope {vendorCommandId paramValue : Int} {fates : SendFates}
    {cmd : Nat} {data : Cbor} {outcome : Outcome Unit} (h : IssuerInv ctap2 w history)
    (hmem : Event.sendCbor cmd data outcome ∈
      (sendConfigCommand w vendorCommandId paramValue fates).events) :
    ∃ issuer key message pinAuth,
      lastIssue (history ++ (sendConfigCommand w vendorCommandId paramValue fates).events) =
        some (issuer, key) ∧
      Event.authenticate issuer.pinProtocol key message (.returns pinAuth) ∈
        (sendConfigCommand w vendorCommandId paramValue fates).events ∧
      data = configData vendorCommandId paramValue issuer.pinProtocol pinAuth := by
  have hauth := ensureToken_issuerInv fates.auth h
  have hnot : Event.sendCbor cmd data outcome ∉ (ensureToken w fates.auth).events :=
    fun hmem => by obtain ⟨_, _, _, he⟩ := ensureToken_event hmem; cases he
  rcases @sendConfigCommand_cases w vendorCommandId paramValue fates _ rfl with
    ⟨_, hr⟩ | ⟨_, hr | ⟨protocol, token, bytes, hp, htoken, _, ⟨e, _, hr⟩ |
      ⟨pinAuth, ⟨e, _, hr⟩ | ⟨_, hr⟩⟩⟩⟩ <;>
    rw [hr] at hmem ⊢ <;> try simp only [configFailure_events] at hmem ⊢
  · exact absurd hmem hnot
  · exact absurd hmem hnot
  · simp [hnot] at hmem
  all_goals
    obtain ⟨issuer, -, hlast, hissuer⟩ := hauth.pinToken_issued token htoken
    rw [hp, Option.some.injEq] at hissuer
    subst hissuer
    refine ⟨issuer, token, configMessage bytes, pinAuth, ?_, by simp, ?_⟩
    · rw [← List.append_assoc, ← List.append_assoc, lastIssue_append, lastIssue_append, hlast]
      rfl
    · simp [hnot] at hmem
      exact hmem.2.1

theorem Step.run_issuerInv (step : Step) (h : IssuerInv ctap2 w history) :
    IssuerInv ctap2 (step.run w).world (history ++ (step.run w).events) := by
  cases step with
  | getPinToken pin fates => exact getPinToken_issuerInv pin fates h
  | setPin newPin fates => exact setPin_issuerInv newPin fates h
  | resetDevice fates => exact resetDevice_issuerInv fates h
  | sendConfigCommand vendorCommandId paramValue fates =>
      exact sendConfigCommand_issuerInv vendorCommandId paramValue fates h

end

theorem Reachable.issuerInv {w : World} {history : List Event} (h : Reachable w history) :
    ∃ ctap2, IssuerInv ctap2 w history := by
  induction h with
  | found fates hfound =>
      obtain ⟨ctapInfo, _, hw, -⟩ := findDevice_found hfound
      rw [hw]
      exact ⟨⟨ctapInfo⟩, rfl, nofun, nofun, nofun⟩
  | step step _ ih =>
      obtain ⟨ctap2, ih⟩ := ih
      exact ⟨ctap2, step.run_issuerInv ih⟩

/-- In every session reached, a token held is the last one `ClientPin.get_pin_token` returned;
`pin_protocol` is the protocol of the client that returned it, and `client_pin`, when held,
negotiated that same protocol, though it need not be that client.  So every request a further
call hands to `send_cbor` carries under key `0x03` the protocol the token was issued under, with
the tag computed under that protocol with that token. -/
theorem pinToken_issuer_protocol {w : World} {history : List Event}
    (hreach : Reachable w history) :
    (∀ token, w.device.pinToken = some token →
      ∃ issuer, lastIssue history = some (issuer, token) ∧
        w.device.pinProtocol = some issuer.pinProtocol ∧
        ∀ clientPin, w.device.clientPin = some clientPin → clientPin.protocol = issuer.protocol) ∧
    ∀ (step : Step) cmd data outcome, Event.sendCbor cmd data outcome ∈ (step.run w).events →
      ∃ vendorCommandId paramValue issuer key message pinAuth,
        lastIssue (history ++ (step.run w).events) = some (issuer, key) ∧
        Event.authenticate issuer.pinProtocol key message (.returns pinAuth) ∈ (step.run w).events ∧
        data = configData vendorCommandId paramValue issuer.pinProtocol pinAuth := by
  obtain ⟨ctap2, hinv⟩ := hreach.issuerInv
  refine ⟨fun token htoken => ?_, fun step cmd data outcome hmem => ?_⟩
  · obtain ⟨issuer, hbuilt, hlast, hprotocol⟩ := hinv.pinToken_issued token htoken
    exact ⟨issuer, hlast, hprotocol, fun clientPin hc =>
      (hinv.clientPin_built clientPin hc).protocol_eq hbuilt⟩
  cases step with
  | getPinToken pin fates => obtain ⟨_, _, _, he⟩ := getPinToken_event hmem; cases he
  | setPin newPin fates =>
      rcases setPin_event hmem with ⟨_, _, _, he⟩ | ⟨_, _, _, _, he⟩ | ⟨_, he⟩ <;> cases he
  | resetDevice fates => rcases resetDevice_event hmem with ⟨_, he⟩ | ⟨_, he⟩ <;> cases he
  | sendConfigCommand vendorCommandId paramValue fates =>
      obtain ⟨issuer, key, message, pinAuth, h⟩ := sendConfigCommand_envelope hinv hmem
      exact ⟨vendorCommandId, paramValue, issuer, key, message, pinAuth, h⟩

theorem pinToken_issuer_protocol_after_login :
    let info : Info := ⟨[("clientPin", true)], [2, 1]⟩
    let found := findDevice World.init ⟨.returns true, .returns info, .returns info⟩
    let login := (Step.getPinToken (some "1234") ⟨.returns "", .returns [1]⟩).run found.world
    let w := login.world
    let history := found.events ++ login.events
    Reachable w history ∧
    ((∀ token, w.device.pinToken = some token →
      ∃ issuer, lastIssue history = some (issuer, token) ∧
        w.device.pinProtocol = some issuer.pinProtocol ∧
        ∀ clientPin, w.device.clientPin = some clientPin → clientPin.protocol = issuer.protocol) ∧
    ∀ (step : Step) cmd data outcome, Event.sendCbor cmd data outcome ∈ (step.run w).events →
      ∃ vendorCommandId paramValue issuer key message pinAuth,
        lastIssue (history ++ (step.run w).events) = some (issuer, key) ∧
        Event.authenticate issuer.pinProtocol key message (.returns pinAuth) ∈ (step.run w).events ∧
        data = configData vendorCommandId paramValue issuer.pinProtocol pinAuth) :=
  have hreach := Reachable.step _ (.found _ (by rfl))
  ⟨hreach, pinToken_issuer_protocol hreach⟩

/-- The client that issued a token need not be `client_pin`: a second `get_pin_token` whose
PIN prompt raises has already replaced `client_pin`, and keeps the first token. -/
theorem clientPin_replaced_after_failed_login :
    let info : Info := ⟨[("clientPin", true)], [2, 1]⟩
    let found := findDevice World.init ⟨.returns true, .returns info, .returns info⟩
    let login := (Step.getPinToken (some "1234") ⟨.returns "", .returns [1]⟩).run found.world
    let retry := (Step.getPinToken none ⟨.raises .exception, .returns [2]⟩).run login.world
    let history := found.events ++ login.events ++ retry.events
    Reachable retry.world history ∧ retry.world.device.pinToken = some [1] ∧
    lastIssue history = some (⟨0, some ⟨2⟩⟩, [1]) ∧
    retry.world.device.clientPin = some ⟨1, some ⟨2⟩⟩ :=
  ⟨.step _ (.step _ (.found _ (by rfl))), rfl, rfl, rfl⟩

end Commissioner
