import Commissioner.Authenticator

/-!
# The session against the authenticator

The session and the authenticator each hold a copy of the PIN state.  The session keeps the
pinUvAuthToken that `ClientPin.get_pin_token` returned in `pin_token` and keys every auth tag
with it; the authenticator keeps the token it handed out and checks every tag against it.  Here
the authenticator serves the session's library calls in order, a call that raised being one it
did not serve: a `get_pin_token` that returns hands out a new token in place of the old one, and
a reset, a first PIN or a PIN change that returns leaves no token.

Along every run the two copies agree: a token the session holds is the one the authenticator
honours, or the authenticator holds none because a reset or a first PIN went through and the
`get_info` after it raised, so the session never dropped its token.  Every auth tag is keyed
with the token the authenticator honours when the tag is made, except in that case.  With
honest `get_info` answers and no such failed refresh, the session also sends only the PIN
commands the authenticator's PIN state admits, holds a token only while a PIN is set, and so
sends every authenticatorConfig request to an authenticator with a PIN, keyed with its token.
-/

namespace Commissioner

/-! ## The token both sides hold -/

/-- The token the authenticator honours after it served the library call `e`. -/
def Event.serveToken (current : Option Bytes) : Event → Option Bytes
  | .getPinToken _ _ _ (.returns token) => some token
  | .reset (.returns ()) => none
  | .setPin _ _ (.returns ()) => none
  | .changePin _ _ _ (.returns ()) => none
  | _ => current

/-- The token the authenticator honours after it served `events` in order, from `current`. -/
def serveTokens (current : Option Bytes) (events : List Event) : Option Bytes :=
  events.foldl Event.serveToken current

@[simp] theorem serveTokens_nil (current : Option Bytes) : serveTokens current [] = current := rfl

@[simp] theorem serveTokens_cons (current : Option Bytes) (e : Event) (events : List Event) :
    serveTokens current (e :: events) = serveTokens (e.serveToken current) events := rfl

theorem serveTokens_append (current : Option Bytes) (events more : List Event) :
    serveTokens current (events ++ more) = serveTokens (serveTokens current events) more :=
  List.foldl_append _ _ _ _

/-- A call that moves neither token, or leaves both at the token `ClientPin.get_pin_token`
returned during it. -/
def LoginSync (held : Option Bytes) (r : Called) : Prop :=
  (r.world.device.pinToken = held ∧ ∀ current, serveTokens current r.events = current) ∨
  ∃ token, r.world.device.pinToken = some token ∧
    ∀ current, serveTokens current r.events = some token

/-- How a call moves the two tokens: the session drops its token, the call is a `LoginSync`, or a
reset or a first PIN went through and its refresh raised, so that the authenticator holds no
token while the session keeps its own. -/
def TokenSync (held : Option Bytes) (r : Called) : Prop :=
  r.world.device.pinToken = none ∨ LoginSync held r ∨
  (r.world.device.pinToken = held ∧ (∀ current, serveTokens current r.events = none) ∧
    FailedRefresh r.events)

/-- The session holding `held` against the authenticator honouring `served`, after `history`. -/
def TokenAgrees (held served : Option Bytes) (history : List Event) : Prop :=
  ∀ token, held = some token → served = some token ∨ (served = none ∧ FailedRefresh history)

theorem LoginSync.tokenSync {held : Option Bytes} {r : Called} (h : LoginSync held r) :
    TokenSync held r :=
  .inr (.inl h)

/-- Calls after a login that neither party's token depends on keep it a `LoginSync`. -/
theorem LoginSync.append {held : Option Bytes} {r : Called} (h : LoginSync held r) (x : Exit)
    {more : List Event} (hmore : ∀ current, serveTokens current more = current) :
    LoginSync held ⟨x, r.world, r.events ++ more⟩ := by
  simp only [LoginSync, serveTokens_append, hmore]
  exact h

theorem TokenAgrees.sync {held served : Option Bytes} {history : List Event} {r : Called}
    (h : TokenAgrees held served history) (hsync : TokenSync held r) :
    TokenAgrees r.world.device.pinToken (serveTokens served r.events) (history ++ r.events) := by
  intro token htoken
  rcases hsync with hnone | (⟨hheld, hserve⟩ | ⟨t, ht, hserve⟩) | ⟨hheld, hserve, hfailed⟩
  · rw [hnone] at htoken
    cases htoken
  · rw [hserve]
    rcases h token (hheld ▸ htoken) with hsome | ⟨hnone, hfailed⟩
    · exact .inl hsome
    · exact .inr ⟨hnone, hfailed.append_right _⟩
  · rw [ht] at htoken
    cases htoken
    exact .inl (hserve served)
  · exact .inr ⟨hserve served, hfailed.append_left history⟩

theorem getPinToken_loginSync (w : World) (pin : Option String) (fates : GetPinTokenFates) :
    LoginSync w.device.pinToken (getPinToken w pin fates) := by
  rcases getPinToken_cases w pin fates with
    hr | ⟨_, _, _, _, _, _, _, ⟨_, hr⟩ | ⟨_, _, hr⟩ | ⟨_, token, hr⟩⟩ <;> rw [hr]
  · exact .inl ⟨rfl, fun _ => rfl⟩
  · exact .inl ⟨rfl, fun _ => rfl⟩
  · exact .inl ⟨rfl, fun _ => rfl⟩
  · exact .inr ⟨token, rfl, fun _ => rfl⟩

theorem ensureToken_loginSync (w : World) (fates : GetPinTokenFates) :
    LoginSync w.device.pinToken (ensureToken w fates) := by
  rcases ensureToken_cases w fates with ⟨-, hr⟩ | ⟨-, hr⟩ <;> rw [hr]
  · exact .inl ⟨rfl, fun _ => rfl⟩
  · exact getPinToken_loginSync w none fates

theorem resetDevice_tokenSync (w : World) (fates : ResetFates) :
    TokenSync w.device.pinToken (resetDevice w fates) := by
  rcases resetDevice_cases w fates with hr | ⟨e, hr⟩ | ⟨e, hr⟩ | ⟨info, hr⟩ <;> rw [hr]
  · exact LoginSync.tokenSync (.inl ⟨rfl, fun _ => rfl⟩)
  · exact LoginSync.tokenSync (.inl ⟨rfl, fun _ => rfl⟩)
  · exact .inr (.inr ⟨rfl, fun _ => rfl, [], [], e, .inl rfl⟩)
  · exact .inl rfl

theorem setPinChange_tokenSync (w : World) (clientPin : ClientPin) (newPin : Option String)
    (fates : SetPinFates) : TokenSync w.device.pinToken (setPinChange w clientPin newPin fates) := by
  rcases setPinChange_cases w clientPin newPin fates with ⟨_, _, hr⟩ | ⟨_, _, -, -, ⟨_, hr⟩ | hr⟩ <;>
    rw [hr]
  · exact LoginSync.tokenSync (.inl ⟨rfl, fun _ => rfl⟩)
  · exact LoginSync.tokenSync (.inl ⟨rfl, fun _ => rfl⟩)
  · exact .inl rfl

theorem setPinFirst_tokenSync (w : World) (clientPin : ClientPin) (newPin : Option String)
    (fates : SetPinFates) : TokenSync w.device.pinToken (setPinFirst w clientPin newPin fates) := by
  rcases setPinFirst_cases w clientPin newPin fates with
    ⟨_, _, hr⟩ | ⟨_, _, _, ⟨_, hr⟩ | ⟨e, hr⟩ | ⟨_, hr⟩⟩ <;> rw [hr]
  · exact LoginSync.tokenSync (.inl ⟨rfl, fun _ => rfl⟩)
  · exact LoginSync.tokenSync (.inl ⟨rfl, fun _ => rfl⟩)
  · exact .inr (.inr ⟨rfl, fun _ => rfl, [], [], e, .inr ⟨_, _, rfl⟩⟩)
  · exact .inl rfl

theorem setPin_tokenSync (w : World) (newPin : Option String) (fates : SetPinFates) :
    TokenSync w.device.pinToken (setPin w newPin fates) := by
  rcases setPin_cases w newPin fates with hr | ⟨_, w₁, clientPin, _, he, hr | ⟨info, _, hr⟩⟩
  · rw [hr]
    exact LoginSync.tokenSync (.inl ⟨rfl, fun _ => rfl⟩)
  all_goals
    have hheld : w₁.device.pinToken = w.device.pinToken := by
      rcases ensureClientPin_world he with ⟨rfl, -⟩ | ⟨rfl, -⟩ <;> rfl
    rw [hr, ← hheld]
  · exact LoginSync.tokenSync (.inl ⟨rfl, fun _ => rfl⟩)
  · split
    · exact setPinChange_tokenSync w₁ clientPin newPin fates
    · exact setPinFirst_tokenSync w₁ clientPin newPin fates

theorem configFailure_tokenSync {held : Option Bytes} {auth : Called} (e : Raised)
    (more : List Event) (h : LoginSync held auth)
    (hmore : ∀ current, serveTokens current more = current) :
    TokenSync held (configFailure auth.world e (auth.events ++ more)) := by
  rcases configFailure_cases auth.world e (auth.events ++ more) with hr | hr <;> rw [hr]
  · exact .inl rfl
  · exact (h.append _ hmore).tokenSync

theorem sendConfigCommand_tokenSync (w : World) (vendorCommandId paramValue : Int)
    (fates : SendFates) :
    TokenSync w.device.pinToken (sendConfigCommand w vendorCommandId paramValue fates) := by
  have hauth := ensureToken_loginSync w fates.auth
  rcases @sendConfigCommand_cases w vendorCommandId paramValue fates _ rfl with
    ⟨_, hr⟩ | ⟨_, hr | ⟨_, _, _, _, _, _, ⟨e, _, hr⟩ | ⟨_, ⟨e, _, hr⟩ | ⟨_, hr⟩⟩⟩⟩ <;> rw [hr]
  · exact hauth.tokenSync
  · simpa using configFailure_tokenSync .exception [] hauth fun _ => rfl
  · exact configFailure_tokenSync e _ hauth fun _ => by rfl
  · rw [List.append_assoc]
    exact configFailure_tokenSync e _ hauth fun _ => by rfl
  · rw [List.append_assoc]
    exact (hauth.append _ fun _ => by rfl).tokenSync

theorem Step.run_tokenSync (w : World) (step : Step) :
    TokenSync w.device.pinToken (step.run w) := by
  cases step with
  | getPinToken pin fates => exact (getPinToken_loginSync w pin fates).tokenSync
  | setPin newPin fates => exact setPin_tokenSync w newPin fates
  | resetDevice fates => exact resetDevice_tokenSync w fates
  | sendConfigCommand vendorCommandId paramValue fates =>
      exact sendConfigCommand_tokenSync w vendorCommandId paramValue fates

/-- The agreement holds after `find_device`, which leaves the session no token, and every method
call keeps it. -/
theorem Reachable.tokenAgrees {w : World} {history : List Event} (h : Reachable w history)
    (initial : Option Bytes) :
    TokenAgrees w.device.pinToken (serveTokens initial history) history := by
  induction h with
  | found fates hfound =>
      obtain ⟨_, _, hw, -⟩ := findDevice_found hfound
      rw [hw]
      rintro _ ⟨⟩
  | step step _ ih =>
      rw [serveTokens_append]
      exact ih.sync (Step.run_tokenSync _ step)

/-- Along every run, whatever token the authenticator held before `find_device`, a token the
session holds is the one the authenticator honours, unless the authenticator holds none because a
reset or a first PIN went through and the `get_info` after it raised. -/
theorem pinToken_honoured_by_authenticator {w : World} {history : List Event}
    (hreach : Reachable w history) (initial : Option Bytes) {token : Bytes}
    (htoken : w.device.pinToken = some token) :
    serveTokens initial history = some token ∨
      (serveTokens initial history = none ∧ FailedRefresh history) :=
  hreach.tokenAgrees initial token htoken

theorem pinToken_honoured_after_login :
    let info : Info := ⟨[("clientPin", true)], [2, 1]⟩
    let found := findDevice World.init ⟨.returns true, .returns info, .returns info⟩
    let login := (Step.getPinToken (some "1234") ⟨.returns "", .returns [1]⟩).run found.world
    let history := found.events ++ login.events
    Reachable login.world history ∧ login.world.device.pinToken = some [1] ∧
      (serveTokens none history = some [1] ∨
        (serveTokens none history = none ∧ FailedRefresh history)) :=
  have hreach := Reachable.step _ (.found _ (by rfl))
  ⟨hreach, rfl, pinToken_honoured_by_authenticator hreach none rfl⟩

/-- `send_config_command` authenticates once, right after its token acquisition, with the token
that acquisition leaves. -/
theorem sendConfigCommand_authenticate {w : World} {vendorCommandId paramValue : Int}
    {fates : SendFates} {pre post : List Event} {protocol : PinProtocol} {key message : Bytes}
    {outcome : Outcome Bytes}
    (h : (sendConfigCommand w vendorCommandId paramValue fates).events =
      pre ++ .authenticate protocol key message outcome :: post) :
    pre = (ensureToken w fates.auth).events ∧
      (ensureToken w fates.auth).world.device.pinToken = some key := by
  have hnot : Event.authenticate protocol key message outcome ∉ (ensureToken w fates.auth).events :=
    fun hmem => by obtain ⟨_, _, _, he⟩ := ensureToken_event hmem; cases he
  have hused := List.mem_append_right pre
    (List.mem_cons_self (Event.authenticate protocol key message outcome) post)
  rcases @sendConfigCommand_cases w vendorCommandId paramValue fates _ rfl with
    ⟨_, hr⟩ | ⟨_, hr | ⟨_, token, _, _, htoken, _, ⟨e, _, hr⟩ | ⟨_, ⟨e, _, hr⟩ | ⟨_, hr⟩⟩⟩⟩ <;>
    rw [hr] at h
  · exact absurd (h ▸ hused) hnot
  · rw [configFailure_events] at h
    exact absurd (h ▸ hused) hnot
  all_goals
    simp only [configFailure_events, List.append_assoc, List.singleton_append] at h
    obtain ⟨rfl, hau, -⟩ := (List.append_cons_inj_of_not_mem hnot (by simp)).mp h
    cases hau
    exact ⟨rfl, htoken⟩

/-- After `send_config_command`'s token acquisition, a token the session holds is the one the
authenticator honours, unless a failed refresh earlier in the run left the authenticator none. -/
theorem ensureToken_honoured {w : World} {history : List Event} (hreach : Reachable w history)
    (initial : Option Bytes) (fates : GetPinTokenFates) {key : Bytes}
    (hkey : (ensureToken w fates).world.device.pinToken = some key) :
    serveTokens initial (history ++ (ensureToken w fates).events) = some key ∨
      (serveTokens initial (history ++ (ensureToken w fates).events) = none ∧
        FailedRefresh history) := by
  rw [serveTokens_append]
  rcases ensureToken_loginSync w fates with ⟨hheld, hserve⟩ | ⟨t, ht, hserve⟩
  · rw [hserve]
    exact hreach.tokenAgrees initial key (hheld ▸ hkey)
  · rw [ht] at hkey
    cases hkey
    exact .inl (hserve _)

/-- Every auth tag the session computes, in any method call from any reachable state, is keyed
with the token the authenticator honours when the tag is made, unless the authenticator holds
none because a reset or a first PIN went through and the `get_info` after it raised. -/
theorem authenticate_keyed_with_honoured_token {w : World} {history : List Event}
    (hreach : Reachable w history) (initial : Option Bytes) (step : Step)
    {pre post : List Event} {protocol : PinProtocol} {key message : Bytes}
    {outcome : Outcome Bytes}
    (hevents : (step.run w).events = pre ++ .authenticate protocol key message outcome :: post) :
    serveTokens initial (history ++ pre) = some key ∨
      (serveTokens initial (history ++ pre) = none ∧ FailedRefresh history) := by
  have hmem : Event.authenticate protocol key message outcome ∈ (step.run w).events :=
    hevents ▸ List.mem_append_right pre (List.mem_cons_self _ post)
  cases step with
  | getPinToken pin fates => obtain ⟨_, _, _, he⟩ := getPinToken_event hmem; cases he
  | setPin newPin fates =>
      rcases setPin_event hmem with ⟨_, _, _, he⟩ | ⟨_, _, _, _, he⟩ | ⟨_, he⟩ <;> cases he
  | resetDevice fates => rcases resetDevice_event hmem with ⟨_, he⟩ | ⟨_, he⟩ <;> cases he
  | sendConfigCommand vendorCommandId paramValue fates =>
      obtain ⟨rfl, hkey⟩ := sendConfigCommand_authenticate hevents
      exact ensureToken_honoured hreach initial fates.auth hkey

theorem authenticate_keyed_after_login :
    let info : Info := ⟨[("clientPin", true)], [2, 1]⟩
    let found := findDevice World.init ⟨.returns true, .returns info, .returns info⟩
    let login := (Step.getPinToken (some "1234") ⟨.returns "", .returns [1]⟩).run found.world
    let history := found.events ++ login.events
    let send := Step.sendConfigCommand 0 30 ⟨⟨.returns "", .returns [2]⟩, .returns [7], .returns ()⟩
    Reachable login.world history ∧
      (send.run login.world).events = [] ++ .authenticate ⟨2⟩ [1]
        (configMessage [0xa2, 0x01, 0x00, 0x03, 0x18, 0x1e]) (.returns [7]) ::
        [.sendCbor ctapAuthenticatorConfig (configData 0 30 ⟨2⟩ [7]) (.returns ())] ∧
      (serveTokens none (history ++ []) = some [1] ∨
        (serveTokens none (history ++ []) = none ∧ FailedRefresh history)) :=
  have hreach := Reachable.step _ (.found _ (by rfl))
  have hevents := by rfl
  ⟨hreach, hevents, authenticate_keyed_with_honoured_token hreach none _ hevents⟩

/-! ## PIN commands the authenticator admits -/

/-- Whether the authenticator in state `a` carries out the library call `e`: it hands out a
token and changes the PIN only when a PIN is set, and takes a first PIN only when none is. -/
def Authenticator.admits (a : Authenticator) : Event → Bool
  | .getPinToken .. => a.pinSet
  | .changePin .. => a.pinSet
  | .setPin .. => !a.pinSet
  | _ => true

/-- Every call among `events` is admitted in the state the authenticator serves it in. -/
def Authenticator.admitsAll : Authenticator → List Event → Bool
  | _, [] => true
  | a, e :: rest => a.admits e && (a.serve e).admitsAll rest

theorem Authenticator.admitsAll_append (a : Authenticator) (events more : List Event) :
    a.admitsAll (events ++ more) = (a.admitsAll events && (a.serveAll events).admitsAll more) := by
  induction events generalizing a with
  | nil => simp [Authenticator.admitsAll]
  | cons e rest ih =>
      show (a.admits e && (a.serve e).admitsAll (rest ++ more)) =
        ((a.admits e && (a.serve e).admitsAll rest) && ((a.serve e).serveAll rest).admitsAll more)
      rw [ih, Bool.and_assoc]

theorem getPinToken_admitted {a : Authenticator} {w : World} (pin : Option String)
    (fates : GetPinTokenFates) (h : InfoFresh a w) :
    a.admitsAll (getPinToken w pin fates).events = true := by
  rcases getPinToken_cases w pin fates with
    hr | ⟨_, info, _, _, hinfo, hpin, _, ⟨_, hr⟩ | ⟨_, _, hr⟩ | ⟨_, _, hr⟩⟩ <;> rw [hr]
  · rfl
  · rfl
  all_goals simp [Authenticator.admitsAll, Authenticator.admits, ← h info hinfo, hpin]

theorem ensureToken_admitted {a : Authenticator} {w : World} (fates : GetPinTokenFates)
    (h : InfoFresh a w) : a.admitsAll (ensureToken w fates).events = true := by
  rcases ensureToken_cases w fates with ⟨-, hr⟩ | ⟨-, hr⟩ <;> rw [hr]
  · rfl
  · exact getPinToken_admitted none fates h

theorem setPin_admitted {a : Authenticator} {w : World} (newPin : Option String)
    (fates : SetPinFates) (h : InfoFresh a w) : a.admitsAll (setPin w newPin fates).events = true := by
  rcases setPin_cases w newPin fates with hr | ⟨_, w₁, clientPin, _, he, hr | ⟨info, hinfo, hr⟩⟩
  · rw [hr]; rfl
  · rw [hr]; rfl
  have hset : info.clientPin = a.pinSet := by
    rcases ensureClientPin_world he with ⟨rfl, -⟩ | ⟨rfl, -⟩ <;> exact h info hinfo
  rw [hr]
  split
  · rcases setPinChange_cases w₁ clientPin newPin fates with ⟨_, _, hr⟩ | ⟨_, _, -, -, ⟨_, hr⟩ | hr⟩ <;>
      rw [hr]
    · rfl
    all_goals simp_all [Authenticator.admitsAll, Authenticator.admits]
  · rcases setPinFirst_cases w₁ clientPin newPin fates with
      ⟨_, _, hr⟩ | ⟨_, _, _, ⟨_, hr⟩ | ⟨_, hr⟩ | ⟨_, hr⟩⟩ <;> rw [hr]
    · rfl
    all_goals simp_all [Authenticator.admitsAll, Authenticator.admits, Authenticator.serve]

theorem sendConfigCommand_admitted {a : Authenticator} {w : World}
    (vendorCommandId paramValue : Int) (fates : SendFates) (h : InfoFresh a w) :
    a.admitsAll (sendConfigCommand w vendorCommandId paramValue fates).events = true := by
  have hauth := ensureToken_admitted fates.auth h
  rcases @sendConfigCommand_cases w vendorCommandId paramValue fates _ rfl with
    ⟨_, hr⟩ | ⟨_, hr | ⟨_, _, _, _, _, _, ⟨e, _, hr⟩ | ⟨_, ⟨e, _, hr⟩ | ⟨_, hr⟩⟩⟩⟩ <;>
    rw [hr] <;> simp [Authenticator.admitsAll_append, hauth, Authenticator.admitsAll, Authenticator.admits]

theorem Step.run_admitted {a : Authenticator} {w : World} (step : Step) (h : InfoFresh a w) :
    a.admitsAll (step.run w).events = true := by
  cases step with
  | getPinToken pin fates => exact getPinToken_admitted pin fates h
  | setPin newPin fates => exact setPin_admitted newPin fates h
  | resetDevice fates =>
      rcases resetDevice_cases w fates with hr | ⟨_, hr⟩ | ⟨_, hr⟩ | ⟨_, hr⟩ <;>
        rw [Step.run, hr] <;> rfl
  | sendConfigCommand vendorCommandId paramValue fates =>
      exact sendConfigCommand_admitted vendorCommandId paramValue fates h

/-- Fresh `info` and admitted PIN commands, together along a run with honest `get_info` answers
and no failed refresh. -/
theorem Reachable.infoFresh_admitted {w : World} {history : List Event}
    (hreach : Reachable w history) (a : Authenticator) (hreports : a.Reports history)
    (hrefresh : ¬FailedRefresh history) :
    InfoFresh (a.serveAll history) w ∧ a.admitsAll history = true := by
  induction hreach with
  | found fates hfound =>
      obtain ⟨_, info, hw, hevents⟩ := findDevice_found hfound
      rw [hevents] at hreports ⊢
      rw [hw]
      refine ⟨?_, rfl⟩
      rintro _ ⟨⟩
      exact hreports.2.1 info rfl
  | step step _ ih =>
      rw [Authenticator.reports_append] at hreports
      obtain ⟨hfresh, hadmits⟩ := ih hreports.1 fun h => hrefresh (h.append_right _)
      rw [Authenticator.serveAll_append, Authenticator.admitsAll_append, hadmits,
        step.run_admitted hfresh]
      exact ⟨step.run_infoFresh hfresh hreports.2 fun h => hrefresh (h.append_left _), rfl⟩

/-- With honest `get_info` answers, along every run in which no refresh after a reset or a first
PIN raised, the authenticator admits every PIN command the session sends in the state it is in
when it serves it: `get_pin_token` and `change_pin` only once a PIN is set, `set_pin` only while
none is. -/
theorem pin_commands_admitted {w : World} {history : List Event} (hreach : Reachable w history)
    (a : Authenticator) (hreports : a.Reports history) (hrefresh : ¬FailedRefresh history) :
    a.admitsAll history = true :=
  (hreach.infoFresh_admitted a hreports hrefresh).2

/-- A run that sets a first PIN and logs in, every `get_info` honest and none raising. -/
theorem firstPin_login_honest :
    let info : Info := ⟨[("clientPin", false)], [2, 1]⟩
    let found := findDevice World.init ⟨.returns true, .returns info, .returns info⟩
    let setup := (Step.setPin (some "1234")
      ⟨.returns "", .returns "", .returns "", .returns (), .returns (),
        .returns ⟨[("clientPin", true)], [2, 1]⟩⟩).run found.world
    let login := (Step.getPinToken (some "1234") ⟨.returns "", .returns [1]⟩).run setup.world
    let history := found.events ++ setup.events ++ login.events
    Reachable login.world history ∧ (⟨false⟩ : Authenticator).Reports history ∧
      ¬FailedRefresh history := by
  intro info found setup login history
  have hevents : history = [.getInfo (.returns info), .getInfo (.returns info),
      .setPin ⟨0, some ⟨2⟩⟩ "1234" (.returns ()), .getInfo (.returns ⟨[("clientPin", true)], [2, 1]⟩),
      .getPinToken ⟨1, some ⟨2⟩⟩ "1234" permissionAcfg (.returns [1])] :=
    rfl
  refine ⟨.step _ (.step _ (.found _ rfl)), ?_, fun h => ?_⟩
  · rw [hevents]
    simp [Authenticator.Reports, Authenticator.serve, info, Info.clientPin]
  · obtain ⟨e, he⟩ := h.getInfo_raises
    simp [hevents] at he

theorem pin_commands_admitted_after_first_pin :
    let info : Info := ⟨[("clientPin", false)], [2, 1]⟩
    let found := findDevice World.init ⟨.returns true, .returns info, .returns info⟩
    let setup := (Step.setPin (some "1234")
      ⟨.returns "", .returns "", .returns "", .returns (), .returns (),
        .returns ⟨[("clientPin", true)], [2, 1]⟩⟩).run found.world
    let login := (Step.getPinToken (some "1234") ⟨.returns "", .returns [1]⟩).run setup.world
    let history := found.events ++ setup.events ++ login.events
    Reachable login.world history ∧ (⟨false⟩ : Authenticator).Reports history ∧
      ¬FailedRefresh history ∧ (⟨false⟩ : Authenticator).admitsAll history = true :=
  have ⟨hreach, hreports, hrefresh⟩ := firstPin_login_honest
  ⟨hreach, hreports, hrefresh, pin_commands_admitted hreach _ hreports hrefresh⟩

/-! ## A token only while a PIN is set -/

/-- Serving a call it admits, an authenticator that holds a token only while a PIN is set keeps
doing so: it hands out a token only with a PIN set, and every change of the PIN state drops the
token. -/
theorem Authenticator.serve_pinSet {a : Authenticator} {current : Option Bytes} {e : Event}
    (hadmits : a.admits e = true) (hcurrent : ∀ token, current = some token → a.pinSet = true) :
    ∀ token, e.serveToken current = some token → (a.serve e).pinSet = true := by
  intro token htoken
  cases e with
  | getInfo | authenticate | sendCbor => exact hcurrent token htoken
  | getPinToken _ _ _ outcome | reset outcome | setPin _ _ outcome | changePin _ _ _ outcome =>
      cases outcome <;> simp_all [Event.serveToken, Authenticator.serve, Authenticator.admits]

theorem Authenticator.pinSet_of_serveTokens {a : Authenticator} {current : Option Bytes}
    {events : List Event} (hadmits : a.admitsAll events = true)
    (hcurrent : ∀ token, current = some token → a.pinSet = true) :
    ∀ token, serveTokens current events = some token → (a.serveAll events).pinSet = true := by
  induction events generalizing a current with
  | nil => exact hcurrent
  | cons e rest ih =>
      simp only [Authenticator.admitsAll, Bool.and_eq_true] at hadmits
      exact ih hadmits.2 (Authenticator.serve_pinSet hadmits.1 hcurrent)

/-- With honest `get_info` answers, along every run in which no refresh after a reset or a first
PIN raised, a token the session holds is the authenticator's current token, whatever token the
authenticator held before `find_device`, and the authenticator has a PIN set. -/
theorem pinToken_current_while_pin_set {w : World} {history : List Event}
    (hreach : Reachable w history) (a : Authenticator) (hreports : a.Reports history)
    (hrefresh : ¬FailedRefresh history) {token : Bytes} (htoken : w.device.pinToken = some token) :
    (∀ initial, serveTokens initial history = some token) ∧ (a.serveAll history).pinSet = true := by
  have hcurrent (initial : Option Bytes) : serveTokens initial history = some token :=
    (hreach.tokenAgrees initial token htoken).resolve_right fun h => hrefresh h.2
  have hadmits := (hreach.infoFresh_admitted a hreports hrefresh).2
  exact ⟨hcurrent, a.pinSet_of_serveTokens hadmits (by simp) token (hcurrent none)⟩

theorem pinToken_current_after_first_pin :
    let info : Info := ⟨[("clientPin", false)], [2, 1]⟩
    let found := findDevice World.init ⟨.returns true, .returns info, .returns info⟩
    let setup := (Step.setPin (some "1234")
      ⟨.returns "", .returns "", .returns "", .returns (), .returns (),
        .returns ⟨[("clientPin", true)], [2, 1]⟩⟩).run found.world
    let login := (Step.getPinToken (some "1234") ⟨.returns "", .returns [1]⟩).run setup.world
    let history := found.events ++ setup.events ++ login.events
    Reachable login.world history ∧ (⟨false⟩ : Authenticator).Reports history ∧
      ¬FailedRefresh history ∧ login.world.device.pinToken = some [1] ∧
      (∀ initial, serveTokens initial history = some [1]) ∧
      ((⟨false⟩ : Authenticator).serveAll history).pinSet = true :=
  have ⟨hreach, hreports, hrefresh⟩ := firstPin_login_honest
  ⟨hreach, hreports, hrefresh, rfl, pinToken_current_while_pin_set hreach _ hreports hrefresh rfl⟩

/-! ## Configuration requests -/

/-- `send_config_command` hands its request to `send_cbor` right after an `authenticate` that
returned, keyed with the token its token acquisition left. -/
theorem sendConfigCommand_sendCbor {w : World} {vendorCommandId paramValue : Int}
    {fates : SendFates} {pre post : List Event} {cmd : Nat} {data : Cbor} {outcome : Outcome Unit}
    (h : (sendConfigCommand w vendorCommandId paramValue fates).events =
      pre ++ .sendCbor cmd data outcome :: post) :
    ∃ protocol key message tag,
      pre = (ensureToken w fates.auth).events ++ [.authenticate protocol key message (.returns tag)] ∧
      (ensureToken w fates.auth).world.device.pinToken = some key := by
  have hnot : Event.sendCbor cmd data outcome ∉ (ensureToken w fates.auth).events :=
    fun hmem => by obtain ⟨_, _, _, he⟩ := ensureToken_event hmem; cases he
  have hsent := List.mem_append_right pre (List.mem_cons_self (Event.sendCbor cmd data outcome) post)
  rcases @sendConfigCommand_cases w vendorCommandId paramValue fates _ rfl with
    ⟨_, hr⟩ | ⟨_, hr | ⟨_, _, _, _, htoken, _, ⟨e, _, hr⟩ | ⟨_, ⟨e, _, hr⟩ | ⟨_, hr⟩⟩⟩⟩ <;>
    rw [hr] at h <;> try rw [configFailure_events] at h
  · exact absurd (h ▸ hsent) hnot
  · exact absurd (h ▸ hsent) hnot
  · rw [← h] at hsent
    simp [hnot] at hsent
  all_goals
    obtain ⟨rfl, -, -⟩ :=
      (List.append_cons_inj_of_not_mem (by simpa using hnot) (List.not_mem_nil _)).mp h
    exact ⟨_, _, _, _, rfl, htoken⟩

/-- With honest `get_info` answers, along every run in which no refresh after a reset or a first
PIN raised, every authenticatorConfig request the session hands to `send_cbor`, in any method call
from any reachable state, comes right after an `authenticate` that returned, keyed with the token
the authenticator honours, whatever token it held before `find_device`; and it reaches the
authenticator while a PIN is set. -/
theorem config_requests_pin_protected {w : World} {history : List Event}
    (hreach : Reachable w history) (a : Authenticator) (hreports : a.Reports history)
    (hrefresh : ¬FailedRefresh history) (initial : Option Bytes) (step : Step)
    {pre post : List Event} {cmd : Nat} {data : Cbor} {outcome : Outcome Unit}
    (hevents : (step.run w).events = pre ++ .sendCbor cmd data outcome :: post) :
    (∃ protocol key message tag,
      pre.getLast? = some (.authenticate protocol key message (.returns tag)) ∧
      serveTokens initial (history ++ pre) = some key) ∧
    (a.serveAll (history ++ pre)).pinSet = true := by
  have hmem : Event.sendCbor cmd data outcome ∈ (step.run w).events :=
    hevents ▸ List.mem_append_right pre (List.mem_cons_self _ post)
  cases step with
  | getPinToken pin fates => obtain ⟨_, _, _, he⟩ := getPinToken_event hmem; cases he
  | setPin newPin fates =>
      rcases setPin_event hmem with ⟨_, _, _, he⟩ | ⟨_, _, _, _, he⟩ | ⟨_, he⟩ <;> cases he
  | resetDevice fates => rcases resetDevice_event hmem with ⟨_, he⟩ | ⟨_, he⟩ <;> cases he
  | sendConfigCommand vendorCommandId paramValue fates =>
      obtain ⟨protocol, key, message, tag, rfl, hkey⟩ := sendConfigCommand_sendCbor hevents
      have hhonoured (initial : Option Bytes) :
          serveTokens initial (history ++ (ensureToken w fates.auth).events) = some key :=
        (ensureToken_honoured hreach initial fates.auth hkey).resolve_right fun h => hrefresh h.2
      obtain ⟨hfresh, hadmits⟩ := hreach.infoFresh_admitted a hreports hrefresh
      have hadmitted : a.admitsAll (history ++ (ensureToken w fates.auth).events) = true := by
        rw [Authenticator.admitsAll_append, hadmits, ensureToken_admitted fates.auth hfresh]
        rfl
      rw [← List.append_assoc, serveTokens_append, Authenticator.serveAll_append]
      exact ⟨⟨protocol, key, message, tag, by simp, hhonoured initial⟩,
        a.pinSet_of_serveTokens hadmitted (by simp) key (hhonoured none)⟩

theorem config_requests_pin_protected_after_first_pin :
    let info : Info := ⟨[("clientPin", false)], [2, 1]⟩
    let found := findDevice World.init ⟨.returns true, .returns info, .returns info⟩
    let setup := (Step.setPin (some "1234")
      ⟨.returns "", .returns "", .returns "", .returns (), .returns (),
        .returns ⟨[("clientPin", true)], [2, 1]⟩⟩).run found.world
    let login := (Step.getPinToken (some "1234") ⟨.returns "", .returns [1]⟩).run setup.world
    let history := found.events ++ setup.events ++ login.events
    let send := Step.sendConfigCommand 0 30 ⟨⟨.returns "", .returns [2]⟩, .returns [7], .returns ()⟩
    let pre := [Event.authenticate ⟨2⟩ [1] (configMessage [0xa2, 0x01, 0x00, 0x03, 0x18, 0x1e])
      (.returns [7])]
    Reachable login.world history ∧ (⟨false⟩ : Authenticator).Reports history ∧
      ¬FailedRefresh history ∧
      (send.run login.world).events =
        pre ++ .sendCbor ctapAuthenticatorConfig (configData 0 30 ⟨2⟩ [7]) (.returns ()) :: [] ∧
      (∃ protocol key message tag,
        pre.getLast? = some (.authenticate protocol key message (.returns tag)) ∧
        serveTokens none (history ++ pre) = some key) ∧
      ((⟨false⟩ : Authenticator).serveAll (history ++ pre)).pinSet = true :=
  have ⟨hreach, hreports, hrefresh⟩ := firstPin_login_honest
  have hevents := by rfl
  ⟨hreach, hreports, hrefresh, hevents,
    config_requests_pin_protected hreach _ hreports hrefresh none _ hevents⟩

end Commissioner
