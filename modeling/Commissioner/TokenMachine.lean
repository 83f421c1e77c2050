import Commissioner.Run

/-!
# The PIN token

`pin_token` is set in one place, where `ClientPin.get_pin_token` returns inside
`get_pin_token`, and cleared by a completed reset, a PIN set or changed, and a configuration
dispatch that raised.  This module follows the token along every run, and the `ClientPin` and
PIN/UV protocol it was issued under.
-/

namespace Commissioner

/-- Whenever the session holds a token, `info` reports a PIN: `get_pin_token` only asks for a
token when it does, and whatever replaces `info` drops the token. -/
def TokenInv (device : PicoFIDODevice) : Prop :=
  ∀ token, device.pinToken = some token → ∃ info, device.info = some info ∧ info.clientPin = true

theorem getPinToken_tokenInv {w : World} (pin : Option String) (fates : GetPinTokenFates)
    (h : TokenInv w.device) : TokenInv (getPinToken w pin fates).world.device := by
  rcases getPinToken_cases w pin fates with hr | ⟨_, info, _, _, hinfo, hpin, _, ⟨e, hr⟩ | ⟨_, e, hr⟩ | ⟨_, token, hr⟩⟩ <;>
    rw [hr] <;> try exact h
  intro _ _
  exact ⟨info, by simpa using hinfo, hpin⟩

theorem ensureToken_tokenInv {w : World} (fates : GetPinTokenFates) (h : TokenInv w.device) :
    TokenInv (ensureToken w fates).world.device := by
  rcases ensureToken_cases w fates with ⟨-, hr⟩ | ⟨-, hr⟩ <;> rw [hr]
  · exact h
  · exact getPinToken_tokenInv none fates h

theorem resetDevice_tokenInv {w : World} (fates : ResetFates) (h : TokenInv w.device) :
    TokenInv (resetDevice w fates).world.device := by
  rcases resetDevice_cases w fates with hr | ⟨e, hr⟩ | ⟨e, hr⟩ | ⟨info, hr⟩ <;> rw [hr]
  any_goals exact h
  intro _ htoken
  simp at htoken

theorem ensureClientPin_tokenInv {w w₁ : World} {ctap2 : Ctap2} {clientPin : ClientPin}
    (he : ensureClientPin w ctap2 = some (w₁, clientPin)) (h : TokenInv w.device) :
    TokenInv w₁.device := by
  rcases ensureClientPin_world he with ⟨rfl, -⟩ | ⟨rfl, -⟩ <;> exact h

theorem setPin_tokenInv {w : World} (newPin : Option String) (fates : SetPinFates)
    (h : TokenInv w.device) : TokenInv (setPin w newPin fates).world.device := by
  rcases setPin_world w newPin fates with hw | ⟨_, _, _, _, he, hw | hw | ⟨_, hw⟩⟩ <;> rw [hw]
  · exact h
  · exact ensureClientPin_tokenInv he h
  all_goals intro _ htoken; simp at htoken

theorem configFailure_tokenInv {w : World} (e : Raised) (events : List Event)
    (h : TokenInv w.device) : TokenInv (configFailure w e events).world.device := by
  rcases configFailure_cases w e events with hr | hr <;> rw [hr]
  · intro _ htoken
    simp at htoken
  · exact h

theorem sendConfigCommand_tokenInv {w : World} (vendorCommandId paramValue : Int)
    (fates : SendFates) (h : TokenInv w.device) :
    TokenInv (sendConfigCommand w vendorCommandId paramValue fates).world.device := by
  have hauth := ensureToken_tokenInv fates.auth h
  rcases @sendConfigCommand_cases w vendorCommandId paramValue fates _ rfl with
    ⟨_, hr⟩ | ⟨_, hr | ⟨_, _, _, _, _, _, ⟨e, _, hr⟩ | ⟨_, ⟨e, _, hr⟩ | ⟨_, hr⟩⟩⟩⟩ <;> rw [hr]
  any_goals exact configFailure_tokenInv _ _ hauth
  all_goals exact hauth

/-- Every method call keeps `TokenInv`. -/
theorem Step.run_tokenInv {w : World} (step : Step) (h : TokenInv w.device) :
    TokenInv (step.run w).world.device := by
  cases step with
  | getPinToken pin fates => exact getPinToken_tokenInv pin fates h
  | setPin newPin fates => exact setPin_tokenInv newPin fates h
  | resetDevice fates => exact resetDevice_tokenInv fates h
  | sendConfigCommand vendorCommandId paramValue fates =>
      exact sendConfigCommand_tokenInv vendorCommandId paramValue fates h

theorem Reachable.tokenInv {w : World} {history : List Event} (h : Reachable w history) :
    TokenInv w.device := by
  induction h with
  | found fates hfound =>
      obtain ⟨_, _, hw, -⟩ := findDevice_found hfound
      intro _ htoken
      simp [hw] at htoken
  | step step _ ih => exact step.run_tokenInv ih

/-- `ClientPin.get_pin_token` returned `token` among `events`. -/
def Issued (events : List Event) (token : Bytes) : Prop :=
  ∃ clientPin pin, Event.getPinToken clientPin pin permissionAcfg (.returns token) ∈ events

theorem Issued.append_right {events : List Event} {token : Bytes} (h : Issued events token)
    (more : List Event) : Issued (events ++ more) token := by
  obtain ⟨clientPin, pin, hmem⟩ := h
  exact ⟨clientPin, pin, List.mem_append_left more hmem⟩

/-- How a call may move the token: keep the one held before, drop it, or take one that
`ClientPin.get_pin_token` returned during the call. -/
def TokenMove (before : Option Bytes) (r : Called) : Prop :=
  r.world.device.pinToken = before ∨ r.world.device.pinToken = none ∨
    ∃ token, r.world.device.pinToken = some token ∧ Issued r.events token

theorem getPinToken_tokenMove (w : World) (pin : Option String) (fates : GetPinTokenFates) :
    TokenMove w.device.pinToken (getPinToken w pin fates) := by
  rcases getPinToken_cases w pin fates with hr | ⟨_, _, clientPin, _, _, _, _, ⟨e, hr⟩ | ⟨_, e, hr⟩ | ⟨p, token, hr⟩⟩ <;>
    rw [hr]
  · exact .inl rfl
  · exact .inl rfl
  · exact .inl rfl
  · exact .inr (.inr ⟨token, rfl, clientPin, p, List.mem_singleton_self _⟩)

theorem ensureToken_tokenMove (w : World) (fates : GetPinTokenFates) :
    TokenMove w.device.pinToken (ensureToken w fates) := by
  rcases ensureToken_cases w fates with ⟨-, hr⟩ | ⟨-, hr⟩ <;> rw [hr]
  · exact .inl rfl
  · exact getPinToken_tokenMove w none fates

theorem resetDevice_tokenMove (w : World) (fates : ResetFates) :
    TokenMove w.device.pinToken (resetDevice w fates) := by
  rcases resetDevice_cases w fates with hr | ⟨e, hr⟩ | ⟨e, hr⟩ | ⟨info, hr⟩ <;> rw [hr]
  · exact .inl rfl
  · exact .inl rfl
  · exact .inl rfl
  · exact .inr (.inl rfl)

theorem setPin_tokenMove (w : World) (newPin : Option String) (fates : SetPinFates) :
    TokenMove w.device.pinToken (setPin w newPin fates) := by
  unfold TokenMove
  rcases setPin_world w newPin fates with hw | ⟨_, _, _, _, he, hw | hw | ⟨_, hw⟩⟩ <;> rw [hw]
  · exact .inl rfl
  · rcases ensureClientPin_world he with ⟨rfl, -⟩ | ⟨rfl, -⟩ <;> exact .inl rfl
  all_goals exact .inr (.inl rfl)

theorem configFailure_tokenMove {before : Option Bytes} {auth : Called} (e : Raised)
    (more : List Event) (h : TokenMove before auth) :
    TokenMove before (configFailure auth.world e (auth.events ++ more)) := by
  rcases configFailure_cases auth.world e (auth.events ++ more) with hr | hr <;> rw [hr]
  · exact .inr (.inl rfl)
  · rcases h with h | h | ⟨token, htoken, hissued⟩
    · exact .inl h
    · exact .inr (.inl h)
    · exact .inr (.inr ⟨token, htoken, hissued.append_right more⟩)

theorem sendConfigCommand_tokenMove (w : World) (vendorCommandId paramValue : Int)
    (fates : SendFates) :
    TokenMove w.device.pinToken (sendConfigCommand w vendorCommandId paramValue fates) := by
  have hauth := ensureToken_tokenMove w fates.auth
  rcases @sendConfigCommand_cases w vendorCommandId paramValue fates _ rfl with
    ⟨_, hr⟩ | ⟨_, hr | ⟨_, _, _, _, _, _, ⟨e, _, hr⟩ | ⟨_, ⟨e, _, hr⟩ | ⟨_, hr⟩⟩⟩⟩ <;> rw [hr]
  · exact hauth
  · simpa using configFailure_tokenMove .exception [] hauth
  · exact configFailure_tokenMove e _ hauth
  · rw [List.append_assoc]
    exact configFailure_tokenMove e _ hauth
  · rcases hauth with h | h | ⟨token, htoken, hissued⟩
    · exact .inl h
    · exact .inr (.inl h)
    · exact .inr (.inr ⟨token, htoken, by rw [List.append_assoc]; exact hissued.append_right _⟩)

/-- Every method call keeps, drops, or freshly obtains the token. -/
theorem Step.run_tokenMove (w : World) (step : Step) :
    TokenMove w.device.pinToken (step.run w) := by
  cases step with
  | getPinToken pin fates => exact getPinToken_tokenMove w pin fates
  | setPin newPin fates => exact setPin_tokenMove w newPin fates
  | resetDevice fates => exact resetDevice_tokenMove w fates
  | sendConfigCommand vendorCommandId paramValue fates =>
      exact sendConfigCommand_tokenMove w vendorCommandId paramValue fates

/-- A call that reads or moves the authenticator's PIN state: `get_info`, `reset`, `set_pin`,
`change_pin`. -/
def Event.touchesPin : Event → Bool
  | .getInfo _ | .reset _ | .setPin .. | .changePin .. => true
  | .getPinToken .. | .authenticate .. | .sendCbor .. => false

/-- None of `events` reads or moves the authenticator's PIN state. -/
def Quiet (events : List Event) : Prop :=
  ∀ e ∈ events, e.touchesPin = false

theorem Quiet.append {events more : List Event} (h : Quiet events) (hmore : Quiet more) :
    Quiet (events ++ more) := by
  intro e he
  rcases List.mem_append.mp he with he | he
  · exact h e he
  · exact hmore e he

theorem getPinToken_quiet (w : World) (pin : Option String) (fates : GetPinTokenFates) :
    Quiet (getPinToken w pin fates).events := by
  rcases getPinToken_cases w pin fates with hr | ⟨_, _, _, _, _, _, _, ⟨e, hr⟩ | ⟨_, e, hr⟩ | ⟨_, _, hr⟩⟩ <;>
    rw [hr] <;> simp [Quiet, Event.touchesPin]

theorem ensureToken_quiet (w : World) (fates : GetPinTokenFates) :
    Quiet (ensureToken w fates).events := by
  rcases ensureToken_cases w fates with ⟨-, hr⟩ | ⟨-, hr⟩ <;> rw [hr]
  · simp [Quiet]
  · exact getPinToken_quiet w none fates

theorem sendConfigCommand_quiet (w : World) (vendorCommandId paramValue : Int)
    (fates : SendFates) : Quiet (sendConfigCommand w vendorCommandId paramValue fates).events := by
  have hauth := ensureToken_quiet w fates.auth
  rcases @sendConfigCommand_cases w vendorCommandId paramValue fates _ rfl with
    ⟨_, hr⟩ | ⟨_, hr | ⟨_, _, _, _, _, _, ⟨e, _, hr⟩ | ⟨_, ⟨e, _, hr⟩ | ⟨_, hr⟩⟩⟩⟩ <;>
    rw [hr] <;> try simp only [configFailure_events, List.append_assoc]
  · exact hauth
  · exact hauth
  all_goals
    refine hauth.append ?_
    simp [Quiet, Event.touchesPin]

/-- `ClientPin.set_pin` or `ClientPin.change_pin` returned among `events`. -/
def PinChanged (events : List Event) : Prop :=
  (∃ clientPin pin, Event.setPin clientPin pin (.returns ()) ∈ events) ∨
  (∃ clientPin oldPin newPin, Event.changePin clientPin oldPin newPin (.returns ()) ∈ events)

theorem Quiet.not_pinChanged {events : List Event} (h : Quiet events) : ¬PinChanged events := by
  rintro (⟨_, _, hmem⟩ | ⟨_, _, _, hmem⟩)
  · simpa [Event.touchesPin] using h _ hmem
  · simpa [Event.touchesPin] using h _ hmem

/-- A `set_pin` in which the library set or changed the PIN leaves no token: the change branch
drops it, and the first-time branch only runs while no token is held. -/
theorem setPin_pinChanged {w : World} (newPin : Option String) (fates : SetPinFates)
    (hinv : TokenInv w.device) (h : PinChanged (setPin w newPin fates).events) :
    (setPin w newPin fates).world.device.pinToken = none := by
  rcases setPin_cases w newPin fates with hr | ⟨_, w₁, clientPin, _, he, hr | ⟨info, hinfo, hr⟩⟩
  · simp [hr, PinChanged] at h
  · simp [hr, PinChanged] at h
  have hinv₁ := ensureClientPin_tokenInv he hinv
  rw [hr] at h ⊢
  split at h
  · rw [if_pos ‹_›]
    rcases setPinChange_cases w₁ clientPin newPin fates with ⟨_, _, hr⟩ | ⟨_, _, -, -, ⟨_, hr⟩ | hr⟩ <;>
      rw [hr] at h ⊢ <;> simp [PinChanged] at h
    rfl
  · rename_i hfirst
    rw [if_neg hfirst]
    rcases setPinFirst_cases w₁ clientPin newPin fates with
      ⟨_, _, hr⟩ | ⟨_, _, _, ⟨_, hr⟩ | ⟨_, hr⟩ | ⟨_, hr⟩⟩ <;> rw [hr] at h ⊢ <;>
      simp [PinChanged] at h
    · rcases htoken : w₁.device.pinToken with _ | token
      · rfl
      · obtain ⟨info', hinfo', hpin⟩ := hinv₁ token htoken
        rw [hinfo] at hinfo'
        cases hinfo'
        exact absurd hpin hfirst
    · rfl

theorem getPinToken_event {w : World} {pin : Option String} {fates : GetPinTokenFates}
    {e : Event} (h : e ∈ (getPinToken w pin fates).events) :
    ∃ clientPin p outcome, e = .getPinToken clientPin p permissionAcfg outcome := by
  rcases getPinToken_cases w pin fates with hr | ⟨_, _, _, _, _, _, _, ⟨_, hr⟩ | ⟨_, _, hr⟩ | ⟨_, _, hr⟩⟩ <;>
    rw [hr] at h <;> simp at h
  all_goals exact ⟨_, _, _, h⟩

theorem ensureToken_event {w : World} {fates : GetPinTokenFates} {e : Event}
    (h : e ∈ (ensureToken w fates).events) :
    ∃ clientPin p outcome, e = .getPinToken clientPin p permissionAcfg outcome := by
  rcases ensureToken_cases w fates with ⟨-, hr⟩ | ⟨-, hr⟩ <;> rw [hr] at h
  · simp at h
  · exact getPinToken_event h

theorem getPinToken_returned_false {w : World} {pin : Option String} {fates : GetPinTokenFates}
    (h : (getPinToken w pin fates).exit = .returned false) :
    (getPinToken w pin fates).world.device.pinToken = w.device.pinToken := by
  rcases getPinToken_cases w pin fates with hr | ⟨_, _, _, _, _, _, _, ⟨_, hr⟩ | ⟨_, _, hr⟩ | ⟨_, _, hr⟩⟩ <;>
    rw [hr] at h ⊢ <;> first | rfl | cases h

theorem resetDevice_returned_true {w : World} {fates : ResetFates}
    (h : (resetDevice w fates).exit = .returned true) :
    (resetDevice w fates).world.device.pinToken = none := by
  rcases resetDevice_cases w fates with hr | ⟨e, hr⟩ | ⟨e, hr⟩ | ⟨_, hr⟩ <;> rw [hr] at h ⊢
  · cases h
  · exact absurd h e.exit_ne_returned_true
  · exact absurd h e.exit_ne_returned_true
  · rfl

theorem configFailure_returned_false {w : World} {e : Raised} {events : List Event}
    (h : (configFailure w e events).exit = .returned false) :
    (configFailure w e events).world.device.pinToken = none := by
  rcases configFailure_cases w e events with hr | hr <;> rw [hr] at h ⊢
  · rfl
  · cases h

/-- A `send_config_command` that returns `False` holds no token it would reuse: either it never
got one, or the `except` clause dropped it. -/
theorem sendConfigCommand_returned_false {w : World} {vendorCommandId paramValue : Int}
    {fates : SendFates}
    (h : (sendConfigCommand w vendorCommandId paramValue fates).exit = .returned false) :
    tokenTruthy (sendConfigCommand w vendorCommandId paramValue fates).world.device.pinToken =
      false := by
  rcases @sendConfigCommand_cases w vendorCommandId paramValue fates _ rfl with
    ⟨hne, hr⟩ | ⟨_, hr | ⟨_, _, _, _, _, _, ⟨e, _, hr⟩ | ⟨_, ⟨e, _, hr⟩ | ⟨_, hr⟩⟩⟩⟩ <;> rw [hr] at h ⊢
  · rcases ensureToken_cases w fates.auth with ⟨-, ha⟩ | ⟨hfalsy, ha⟩ <;> rw [ha] at h hne ⊢
    · exact absurd rfl hne
    · rw [getPinToken_returned_false h, hfalsy]
  all_goals first
    | rw [configFailure_returned_false h]; rfl
    | cases h

/-- Every `authenticate` call is made with the token held when the call began or with one
`ClientPin.get_pin_token` returned during it. -/
theorem sendConfigCommand_authenticate_key {w : World} {vendorCommandId paramValue : Int}
    {fates : SendFates} {protocol : PinProtocol} {key message : Bytes} {outcome : Outcome Bytes}
    (h : Event.authenticate protocol key message outcome ∈
      (sendConfigCommand w vendorCommandId paramValue fates).events) :
    w.device.pinToken = some key ∨
      Issued (sendConfigCommand w vendorCommandId paramValue fates).events key := by
  have hnot : Event.authenticate protocol key message outcome ∉ (ensureToken w fates.auth).events :=
    fun hmem => by obtain ⟨_, _, _, he⟩ := ensureToken_event hmem; cases he
  rcases @sendConfigCommand_cases w vendorCommandId paramValue fates _ rfl with
    ⟨_, hr⟩ | ⟨_, hr | ⟨_, token, _, _, htoken, _, ⟨e, _, hr⟩ | ⟨_, ⟨e, _, hr⟩ | ⟨_, hr⟩⟩⟩⟩ <;>
    rw [hr] at h ⊢ <;> try simp only [configFailure_events, List.append_assoc] at h ⊢
  · exact absurd h hnot
  · exact absurd h hnot
  all_goals
    have hkey : key = token := by simp_all
    subst hkey
    rcases ensureToken_tokenMove w fates.auth with hmove | hmove | ⟨t, ht, hissued⟩
    · exact .inl (hmove ▸ htoken)
    · rw [hmove] at htoken; cases htoken
    · rw [ht] at htoken
      cases htoken
      exact .inr (hissued.append_right _)

theorem resetDevice_event {w : World} {fates : ResetFates} {e : Event}
    (h : e ∈ (resetDevice w fates).events) :
    (∃ outcome, e = .reset outcome) ∨ (∃ outcome, e = .getInfo outcome) := by
  rcases resetDevice_cases w fates with hr | ⟨_, hr⟩ | ⟨_, hr⟩ | ⟨_, hr⟩ <;> rw [hr] at h <;>
    simp at h
  all_goals rcases h with rfl | rfl
  all_goals first | exact .inl ⟨_, rfl⟩ | exact .inr ⟨_, rfl⟩

theorem setPin_event {w : World} {newPin : Option String} {fates : SetPinFates} {e : Event}
    (h : e ∈ (setPin w newPin fates).events) :
    (∃ clientPin pin outcome, e = .setPin clientPin pin outcome) ∨
    (∃ clientPin oldPin pin outcome, e = .changePin clientPin oldPin pin outcome) ∨
    (∃ outcome, e = .getInfo outcome) := by
  rcases setPin_cases w newPin fates with hr | ⟨_, w₁, clientPin, _, _, hr | ⟨info, _, hr⟩⟩
  · simp [hr] at h
  · simp [hr] at h
  rw [hr] at h
  split at h
  · rcases setPinChange_cases w₁ clientPin newPin fates with ⟨_, _, hr⟩ | ⟨_, _, -, -, ⟨_, hr⟩ | hr⟩ <;>
      rw [hr] at h <;> simp at h
    all_goals exact .inr (.inl ⟨_, _, _, _, h⟩)
  · rcases setPinFirst_cases w₁ clientPin newPin fates with
      ⟨_, _, hr⟩ | ⟨_, _, _, ⟨_, hr⟩ | ⟨_, hr⟩ | ⟨_, hr⟩⟩ <;> rw [hr] at h <;> simp at h
    · exact .inl ⟨_, _, _, h⟩
    all_goals rcases h with rfl | rfl
    all_goals first | exact .inl ⟨_, _, _, rfl⟩ | exact .inr (.inr ⟨_, rfl⟩)

/-- Only `send_config_command` authenticates, and with the token held when it began or one
obtained during it. -/
theorem Step.run_authenticate_key {w : World} {step : Step} {protocol : PinProtocol}
    {key message : Bytes} {outcome : Outcome Bytes}
    (h : Event.authenticate protocol key message outcome ∈ (step.run w).events) :
    w.device.pinToken = some key ∨ Issued (step.run w).events key := by
  cases step with
  | getPinToken pin fates => obtain ⟨_, _, _, he⟩ := getPinToken_event h; cases he
  | setPin newPin fates =>
      rcases setPin_event h with ⟨_, _, _, he⟩ | ⟨_, _, _, _, he⟩ | ⟨_, he⟩ <;> cases he
  | resetDevice fates => rcases resetDevice_event h with ⟨_, he⟩ | ⟨_, he⟩ <;> cases he
  | sendConfigCommand vendorCommandId paramValue fates =>
      exact sendConfigCommand_authenticate_key h

/-- Wherever the library set or changed the PIN during a call, the call leaves no token. -/
theorem Step.run_pinChanged {w : World} {step : Step} (hinv : TokenInv w.device)
    (h : PinChanged (step.run w).events) : (step.run w).world.device.pinToken = none := by
  cases step with
  | getPinToken pin fates => exact absurd h (getPinToken_quiet w pin fates).not_pinChanged
  | setPin newPin fates => exact setPin_pinChanged newPin fates hinv h
  | resetDevice fates =>
      rcases h with ⟨_, _, hmem⟩ | ⟨_, _, _, hmem⟩ <;>
        rcases resetDevice_event hmem with ⟨_, he⟩ | ⟨_, he⟩ <;> cases he
  | sendConfigCommand vendorCommandId paramValue fates =>
      exact absurd h (sendConfigCommand_quiet w vendorCommandId paramValue fates).not_pinChanged

/-- The token machine of the session, along every run.  `pin_token` takes a new value only from
a `ClientPin.get_pin_token` that returned in the same call; a `reset_device` that returns `True`,
and any call in which `ClientPin.set_pin` or `change_pin` returned, leave no token; a
`send_config_command` that returns `False` leaves none that the next one would reuse; and every
auth tag is computed with the token held when its call began or one obtained during it. -/
theorem pinToken_follows_token_machine {w : World} {history : List Event}
    (hreach : Reachable w history) (step : Step) :
    (∀ token, (step.run w).world.device.pinToken = some token →
      w.device.pinToken ≠ some token → Issued (step.run w).events token) ∧
    ((∃ fates, step = .resetDevice fates ∧ (step.run w).exit = .returned true) ∨
      PinChanged (step.run w).events → (step.run w).world.device.pinToken = none) ∧
    ((∃ vendorCommandId paramValue fates,
        step = .sendConfigCommand vendorCommandId paramValue fates) →
      (step.run w).exit = .returned false →
      tokenTruthy (step.run w).world.device.pinToken = false) ∧
    (∀ protocol key message outcome,
      Event.authenticate protocol key message outcome ∈ (step.run w).events →
      w.device.pinToken = some key ∨ Issued (step.run w).events key) := by
  refine ⟨fun token htoken hne => ?_, ?_, ?_, fun _ _ _ _ h => Step.run_authenticate_key h⟩
  · rcases step.run_tokenMove w with hmove | hmove | ⟨t, ht, hissued⟩
    · exact absurd (hmove ▸ htoken) hne
    · rw [hmove] at htoken; cases htoken
    · rw [ht] at htoken
      cases htoken
      exact hissued
  · rintro (⟨fates, rfl, hexit⟩ | hchanged)
    · exact resetDevice_returned_true hexit
    · exact Step.run_pinChanged hreach.tokenInv hchanged
  · rintro ⟨vendorCommandId, paramValue, fates, rfl⟩ hexit
    exact sendConfigCommand_returned_false hexit

/-- Where the session keeps a token the authenticator no longer honours.  `Ctap2.reset` can
return, wiping the authenticator, while `reset_device` keeps the token, because the `get_info`
after it raised before the token was dropped (lines 130-134).  The token also survives a
`ClientPin.change_pin` or a `ClientPin.get_pin_token` that rejected the PIN, and a
`KeyboardInterrupt` in `send_config_command`, which its `except Exception` does not catch. -/
theorem pinToken_kept_where_machine_drops_it :
    let info : Info := ⟨[("clientPin", true)], [2, 1]⟩
    let found := findDevice World.init ⟨.returns true, .returns info, .returns info⟩
    let login := (Step.getPinToken (some "1234") ⟨.returns "", .returns [1]⟩).run found.world
    let reset := (Step.resetDevice ⟨.returns (), .raises .exception⟩).run login.world
    let change := (Step.setPin none ⟨.returns "1234", .returns "5678", .returns "5678",
      .raises .exception, .returns (), .returns info⟩).run login.world
    let relogin := (Step.getPinToken (some "0000") ⟨.returns "", .raises .exception⟩).run login.world
    let send := (Step.sendConfigCommand 0 30
      ⟨⟨.returns "", .returns [2]⟩, .returns [7], .raises .keyboardInterrupt⟩).run login.world
    Reachable login.world (found.events ++ login.events) ∧
    Event.reset (.returns ()) ∈ reset.events ∧ reset.world.device.pinToken = some [1] ∧
    Event.changePin ⟨0, some ⟨2⟩⟩ "1234" "5678" (.raises .exception) ∈ change.events ∧
      change.world.device.pinToken = some [1] ∧
    Event.getPinToken ⟨1, some ⟨2⟩⟩ "0000" permissionAcfg (.raises .exception) ∈ relogin.events ∧
      relogin.world.device.pinToken = some [1] ∧
    send.exit = .raised .keyboardInterrupt ∧ send.world.device.pinToken = some [1] :=
  ⟨.step _ (.found _ (by rfl)), .head _, rfl, .head _, rfl, .head _, rfl, rfl, rfl⟩

end Commissioner
