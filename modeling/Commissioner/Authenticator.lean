import Commissioner.TokenMachine

/-!
# The authenticator behind the session

The session's library calls reach one authenticator, which serves them in order.  Its PIN-set
flag is all the session's decisions depend on: `Ctap2.reset` clears it, `ClientPin.set_pin` and
`change_pin` set it, and an honest `get_info` reports it as the `clientPin` option.  `info` is
refreshed after a reset and after a first PIN, so it tells the flag, except where that refresh
raised.
-/

namespace Commissioner

/-- The state of an authenticator that supports a client PIN, as far as the session reads it. -/
structure Authenticator where
  pinSet : Bool
deriving DecidableEq, Repr

/-- The authenticator after it served the library call `e`. -/
def Authenticator.serve (a : Authenticator) : Event → Authenticator
  | .reset (.returns ()) => ⟨false⟩
  | .setPin _ _ (.returns ()) => ⟨true⟩
  | .changePin _ _ _ (.returns ()) => ⟨true⟩
  | _ => a

/-- The authenticator after it served `events`, in order. -/
def Authenticator.serveAll (a : Authenticator) (events : List Event) : Authenticator :=
  events.foldl Authenticator.serve a

/-- Every `get_info` among `events` that returned reported, as its `clientPin` option, whether
the authenticator held a PIN when it was asked. -/
def Authenticator.Reports : Authenticator → List Event → Prop
  | _, [] => True
  | a, e :: rest =>
      (∀ info, e = .getInfo (.returns info) → info.clientPin = a.pinSet) ∧ (a.serve e).Reports rest

@[simp] theorem Authenticator.serveAll_nil (a : Authenticator) : a.serveAll [] = a := rfl

theorem Authenticator.serveAll_append (a : Authenticator) (events more : List Event) :
    a.serveAll (events ++ more) = (a.serveAll events).serveAll more :=
  List.foldl_append _ _ _ _

theorem Authenticator.reports_append {a : Authenticator} {events more : List Event} :
    a.Reports (events ++ more) ↔ a.Reports events ∧ (a.serveAll events).Reports more := by
  induction events generalizing a with
  | nil => simp [Authenticator.Reports]
  | cons e rest ih =>
      show (_ ∧ (a.serve e).Reports (rest ++ more)) ↔
        (_ ∧ (a.serve e).Reports rest) ∧ ((a.serve e).serveAll rest).Reports more
      rw [ih, and_assoc]

theorem Authenticator.serve_of_touchesPin {a : Authenticator} {e : Event}
    (h : e.touchesPin = false) : a.serve e = a := by
  cases e <;> simp_all [Event.touchesPin, Authenticator.serve]

/-- Calls that neither read nor move the PIN state leave the authenticator as it was. -/
theorem Authenticator.serveAll_quiet (a : Authenticator) {events : List Event}
    (h : Quiet events) : a.serveAll events = a := by
  induction events generalizing a with
  | nil => rfl
  | cons e rest ih =>
      rw [← List.singleton_append, Authenticator.serveAll_append]
      have he : a.serve e = a := Authenticator.serve_of_touchesPin (h e (List.mem_cons_self e rest))
      simp only [Authenticator.serveAll, List.foldl_cons, List.foldl_nil, he]
      exact ih a fun e' he' => h e' (List.mem_cons_of_mem e he')

/-- A call that changed the PIN state returned, and the `get_info` right after it raised. -/
def FailedRefresh (events : List Event) : Prop :=
  ∃ pre post e,
    events = pre ++ .reset (.returns ()) :: .getInfo (.raises e) :: post ∨
    ∃ clientPin pin, events = pre ++ .setPin clientPin pin (.returns ()) :: .getInfo (.raises e) :: post

theorem FailedRefresh.append_left {events : List Event} (h : FailedRefresh events)
    (more : List Event) : FailedRefresh (more ++ events) := by
  obtain ⟨pre, post, e, h | ⟨clientPin, pin, h⟩⟩ := h
  · exact ⟨more ++ pre, post, e, .inl (by simp [h])⟩
  · exact ⟨more ++ pre, post, e, .inr ⟨clientPin, pin, by simp [h]⟩⟩

theorem FailedRefresh.getInfo_raises {events : List Event} (h : FailedRefresh events) :
    ∃ e, Event.getInfo (.raises e) ∈ events := by
  obtain ⟨pre, post, e, h | ⟨_, _, h⟩⟩ := h <;> exact ⟨e, by simp [h]⟩

theorem FailedRefresh.append_right {events : List Event} (h : FailedRefresh events)
    (more : List Event) : FailedRefresh (events ++ more) := by
  obtain ⟨pre, post, e, h | ⟨clientPin, pin, h⟩⟩ := h
  · exact ⟨pre, post ++ more, e, .inl (by simp [h])⟩
  · exact ⟨pre, post ++ more, e, .inr ⟨clientPin, pin, by simp [h]⟩⟩

/-- `info`, when held, reports whether `a` holds a PIN. -/
def InfoFresh (a : Authenticator) (w : World) : Prop :=
  ∀ info, w.device.info = some info → info.clientPin = a.pinSet

theorem getPinToken_info (w : World) (pin : Option String) (fates : GetPinTokenFates) :
    (getPinToken w pin fates).world.device.info = w.device.info := by
  rcases getPinToken_cases w pin fates with hr | ⟨_, _, _, _, _, _, _, ⟨_, hr⟩ | ⟨_, _, hr⟩ | ⟨_, _, hr⟩⟩ <;>
    rw [hr] <;> rfl

theorem sendConfigCommand_info (w : World) (vendorCommandId paramValue : Int) (fates : SendFates) :
    (sendConfigCommand w vendorCommandId paramValue fates).world.device.info = w.device.info := by
  have hauth : (ensureToken w fates.auth).world.device.info = w.device.info := by
    rcases ensureToken_cases w fates.auth with ⟨-, hr⟩ | ⟨-, hr⟩ <;> rw [hr]
    exact getPinToken_info w none fates.auth
  rcases @sendConfigCommand_cases w vendorCommandId paramValue fates _ rfl with
    ⟨_, hr⟩ | ⟨_, hr | ⟨_, _, _, _, _, _, ⟨e, _, hr⟩ | ⟨_, ⟨e, _, hr⟩ | ⟨_, hr⟩⟩⟩⟩ <;> rw [hr]
  all_goals first | exact hauth | cases e <;> exact hauth

theorem resetDevice_infoFresh {a : Authenticator} {w : World} (fates : ResetFates)
    (h : InfoFresh a w) (hreports : a.Reports (resetDevice w fates).events)
    (hrefresh : ¬FailedRefresh (resetDevice w fates).events) :
    InfoFresh (a.serveAll (resetDevice w fates).events) (resetDevice w fates).world := by
  rcases resetDevice_cases w fates with hr | ⟨e, hr⟩ | ⟨e, hr⟩ | ⟨info, hr⟩ <;>
    rw [hr] at hreports hrefresh ⊢
  · exact h
  · exact h
  · exact absurd ⟨[], [], e, .inl rfl⟩ hrefresh
  · rintro _ ⟨⟩
    exact hreports.2.1 info rfl

theorem setPin_infoFresh {a : Authenticator} {w : World} (newPin : Option String)
    (fates : SetPinFates) (h : InfoFresh a w) (hreports : a.Reports (setPin w newPin fates).events)
    (hrefresh : ¬FailedRefresh (setPin w newPin fates).events) :
    InfoFresh (a.serveAll (setPin w newPin fates).events) (setPin w newPin fates).world := by
  rcases setPin_cases w newPin fates with hr | ⟨_, w₁, clientPin, _, he, hr | ⟨info, hinfo, hr⟩⟩
  · rw [hr]; exact h
  · rw [hr]
    rcases ensureClientPin_world he with ⟨rfl, -⟩ | ⟨rfl, -⟩ <;> exact h
  have h₁ : InfoFresh a w₁ := by
    rcases ensureClientPin_world he with ⟨rfl, -⟩ | ⟨rfl, -⟩ <;> exact h
  by_cases hchange : info.clientPin = true <;>
    simp only [hchange, if_true, Bool.false_eq_true, if_false] at hr <;> rw [hr] at hreports hrefresh ⊢
  · have hset : a.pinSet = true := (h₁ info hinfo).symm.trans hchange
    rcases setPinChange_cases w₁ clientPin newPin fates with ⟨_, _, hr⟩ | ⟨_, _, -, -, ⟨_, hr⟩ | hr⟩ <;>
      rw [hr]
    · exact h₁
    · exact h₁
    · intro info' hinfo'
      rw [h₁ info' hinfo', hset]
      rfl
  · rcases setPinFirst_cases w₁ clientPin newPin fates with
      ⟨_, _, hr⟩ | ⟨_, _, _, ⟨_, hr⟩ | ⟨e, hr⟩ | ⟨info', hr⟩⟩ <;> rw [hr] at hreports hrefresh ⊢
    · exact h₁
    · exact h₁
    · exact absurd ⟨[], [], e, .inr ⟨_, _, rfl⟩⟩ hrefresh
    · rintro _ ⟨⟩
      exact hreports.2.1 info' rfl

theorem Step.run_infoFresh {a : Authenticator} {w : World} (step : Step) (h : InfoFresh a w)
    (hreports : a.Reports (step.run w).events) (hrefresh : ¬FailedRefresh (step.run w).events) :
    InfoFresh (a.serveAll (step.run w).events) (step.run w).world := by
  cases step with
  | getPinToken pin fates =>
      rw [Step.run, a.serveAll_quiet (getPinToken_quiet w pin fates)]
      intro info hinfo
      exact h info ((getPinToken_info w pin fates).symm.trans hinfo)
  | setPin newPin fates => exact setPin_infoFresh newPin fates h hreports hrefresh
  | resetDevice fates => exact resetDevice_infoFresh fates h hreports hrefresh
  | sendConfigCommand vendorCommandId paramValue fates =>
      rw [Step.run, a.serveAll_quiet (sendConfigCommand_quiet w vendorCommandId paramValue fates)]
      intro info hinfo
      exact h info ((sendConfigCommand_info w vendorCommandId paramValue fates).symm.trans hinfo)

/-- Paired with an authenticator whose `get_info` answers are honest, `info` reports at the end
of every call whether a PIN is set, along every run in which no refresh after a reset or a first
PIN raised.  So `set_pin`'s choice of branch and `get_pin_token`'s `clientPin` check are decided
on the authenticator's current state. -/
theorem info_reports_pinSet {w : World} {history : List Event} (hreach : Reachable w history)
    (a : Authenticator) (hreports : a.Reports history) (hrefresh : ¬FailedRefresh history) :
    ∀ info, w.device.info = some info → info.clientPin = (a.serveAll history).pinSet := by
  induction hreach with
  | found fates hfound =>
      obtain ⟨_, info, hw, hevents⟩ := findDevice_found hfound
      rw [hevents] at hreports ⊢
      rw [hw]
      rintro _ ⟨⟩
      exact hreports.2.1 info rfl
  | step step _ ih =>
      rw [Authenticator.reports_append] at hreports
      rw [Authenticator.serveAll_append]
      exact step.run_infoFresh (ih hreports.1 fun h => hrefresh (h.append_right _)) hreports.2
        fun h => hrefresh (h.append_left _)

/-- `info` goes stale when the refresh after a state change raises, since lines 130-132 and
195-198 assign it only once `get_info` returns.  After a reset that wiped the PIN it still reports
one, so the next `set_pin` takes the change branch and sends `ClientPin.change_pin` to an
authenticator with no PIN; after a first PIN it still reports none, so the next `set_pin` sends
`ClientPin.set_pin` to an authenticator that has one. -/
theorem info_stale_after_failed_refresh :
    let info : Info := ⟨[("clientPin", true)], [2, 1]⟩
    let blank : Info := ⟨[("clientPin", false)], [2, 1]⟩
    let found := findDevice World.init ⟨.returns true, .returns info, .returns info⟩
    let reset := (Step.resetDevice ⟨.returns (), .raises .exception⟩).run found.world
    let change := (Step.setPin (some "5678") ⟨.returns "1234", .returns "", .returns "",
      .raises .exception, .returns (), .returns info⟩).run reset.world
    let found' := findDevice World.init ⟨.returns true, .returns blank, .returns blank⟩
    let first := (Step.setPin (some "1234") ⟨.returns "", .returns "", .returns "", .returns (),
      .returns (), .raises .exception⟩).run found'.world
    let again := (Step.setPin (some "5678") ⟨.returns "", .returns "", .returns "", .returns (),
      .raises .exception, .returns info⟩).run first.world
    Reachable reset.world (found.events ++ reset.events) ∧
      (⟨true⟩ : Authenticator).Reports (found.events ++ reset.events) ∧
      reset.world.device.info = some info ∧ info.clientPin = true ∧
      ((⟨true⟩ : Authenticator).serveAll (found.events ++ reset.events)).pinSet = false ∧
      Event.changePin ⟨0, some ⟨2⟩⟩ "1234" "5678" (.raises .exception) ∈ change.events ∧
    Reachable first.world (found'.events ++ first.events) ∧
      (⟨false⟩ : Authenticator).Reports (found'.events ++ first.events) ∧
      first.world.device.info = some blank ∧ blank.clientPin = false ∧
      ((⟨false⟩ : Authenticator).serveAll (found'.events ++ first.events)).pinSet = true ∧
      Event.setPin ⟨0, some ⟨2⟩⟩ "5678" (.raises .exception) ∈ again.events := by
  intro info blank found reset change found' first again
  have hreset : found.events ++ reset.events = [.getInfo (.returns info),
      .getInfo (.returns info), .reset (.returns ()), .getInfo (.raises .exception)] := rfl
  have hfirst : found'.events ++ first.events = [.getInfo (.returns blank),
      .getInfo (.returns blank), .setPin ⟨0, some ⟨2⟩⟩ "1234" (.returns ()),
      .getInfo (.raises .exception)] := rfl
  refine ⟨.step _ (.found _ rfl), ?_, rfl, rfl, rfl, .head _,
    .step _ (.found _ rfl), ?_, rfl, rfl, rfl, .head _⟩
  · rw [hreset]
    simp [Authenticator.Reports, Authenticator.serve, info, Info.clientPin]
  · rw [hfirst]
    simp [Authenticator.Reports, Authenticator.serve, blank, Info.clientPin]

/-! ## What `reset_device` and `set_pin` report -/

/-- `reset_device` returns `True` exactly when `Ctap2.reset` and the `get_info` after it both
returned.  When it returns `False` it keeps the token, and the authenticator is as it was unless
the reset went through and only the refresh raised. -/
theorem resetDevice_outcome (a : Authenticator) (w : World) (fates : ResetFates) :
    ((resetDevice w fates).exit = .returned true ↔
      ∃ info, (resetDevice w fates).events = [.reset (.returns ()), .getInfo (.returns info)]) ∧
    ((resetDevice w fates).exit = .returned false →
      (resetDevice w fates).world.device.pinToken = w.device.pinToken ∧
      (a.serveAll (resetDevice w fates).events = a ∨ FailedRefresh (resetDevice w fates).events)) := by
  rcases resetDevice_cases w fates with hr | ⟨e, hr⟩ | ⟨e, hr⟩ | ⟨info, hr⟩ <;> rw [hr]
  · exact ⟨by simp, fun _ => ⟨rfl, .inl rfl⟩⟩
  · exact ⟨by simp, fun _ => ⟨rfl, .inl rfl⟩⟩
  · exact ⟨by simp, fun _ => ⟨rfl, .inr ⟨[], [], e, .inl rfl⟩⟩⟩
  · exact ⟨by simp, fun h => by cases h⟩

/-- `set_pin` returns `True` exactly when `ClientPin.change_pin` returned, or `ClientPin.set_pin`
and the `get_info` after it both returned.  When it returns `False` it keeps the token, and the
authenticator is as it was unless the first PIN went through and only the refresh raised. -/
theorem setPin_outcome (a : Authenticator) (w : World) (newPin : Option String)
    (fates : SetPinFates) :
    ((setPin w newPin fates).exit = .returned true ↔
      (∃ clientPin oldPin pin,
        (setPin w newPin fates).events = [.changePin clientPin oldPin pin (.returns ())]) ∨
      ∃ clientPin pin info, (setPin w newPin fates).events =
        [.setPin clientPin pin (.returns ()), .getInfo (.returns info)]) ∧
    ((setPin w newPin fates).exit = .returned false →
      (setPin w newPin fates).world.device.pinToken = w.device.pinToken ∧
      (a.serveAll (setPin w newPin fates).events = a ∨ FailedRefresh (setPin w newPin fates).events)) := by
  rcases setPin_cases w newPin fates with hr | ⟨_, w₁, clientPin, _, he, hbranch⟩
  · rw [hr]
    exact ⟨by simp, fun _ => ⟨rfl, .inl rfl⟩⟩
  have htoken : w₁.device.pinToken = w.device.pinToken := by
    rcases ensureClientPin_world he with ⟨rfl, -⟩ | ⟨rfl, -⟩ <;> rfl
  rcases hbranch with hr | ⟨info, _, hr⟩
  · rw [hr]
    exact ⟨by simp, fun _ => ⟨htoken, .inl rfl⟩⟩
  rw [hr]
  split
  · rcases setPinChange_cases w₁ clientPin newPin fates with ⟨x, hx, hr⟩ | ⟨_, _, -, -, ⟨e, hr⟩ | hr⟩ <;>
      rw [hr]
    · exact ⟨by simp [hx], fun _ => ⟨htoken, .inl rfl⟩⟩
    · exact ⟨by simp, fun _ => ⟨htoken, .inl rfl⟩⟩
    · exact ⟨by simp, fun h => by cases h⟩
  · rcases setPinFirst_cases w₁ clientPin newPin fates with
      ⟨x, hx, hr⟩ | ⟨_, _, _, ⟨e, hr⟩ | ⟨e, hr⟩ | ⟨_, hr⟩⟩ <;> rw [hr]
    · exact ⟨by simp [hx], fun _ => ⟨htoken, .inl rfl⟩⟩
    · exact ⟨by simp, fun _ => ⟨htoken, .inl rfl⟩⟩
    · exact ⟨by simp, fun _ => ⟨htoken, .inr ⟨[], [], e, .inr ⟨_, _, rfl⟩⟩⟩⟩
    · exact ⟨by simp, fun h => by cases h⟩

/-- A wipe and a first PIN that went through, each reported as a failure: `reset_device` and
`set_pin` return `False` while the authenticator's PIN state has changed. -/
theorem resetDevice_setPin_report_failure_after_change :
    let info : Info := ⟨[("clientPin", true)], [2, 1]⟩
    let found := findDevice World.init ⟨.returns true, .returns info, .returns info⟩
    let reset := (Step.resetDevice ⟨.returns (), .raises .exception⟩).run found.world
    let blank : Info := ⟨[("clientPin", false)], [2, 1]⟩
    let found' := findDevice World.init ⟨.returns true, .returns blank, .returns blank⟩
    let first := (Step.setPin (some "1234")
      ⟨.returns "", .returns "", .returns "", .returns (), .returns (), .raises .exception⟩).run
        found'.world
    Reachable found.world found.events ∧ reset.exit = .returned false ∧
      Event.reset (.returns ()) ∈ reset.events ∧
      (⟨true⟩ : Authenticator).serveAll reset.events = ⟨false⟩ ∧
    Reachable found'.world found'.events ∧ first.exit = .returned false ∧
      Event.setPin ⟨0, some ⟨2⟩⟩ "1234" (.returns ()) ∈ first.events ∧
      (⟨false⟩ : Authenticator).serveAll first.events = ⟨true⟩ :=
  ⟨.found _ rfl, rfl, .head _, rfl, .found _ rfl, rfl, .head _, rfl⟩

/-! ## The PIN length check -/

/-- On the first-time branch, a new PIN shorter than 4 characters, passed or typed the same at
both prompts, makes `set_pin` return `False` with no call to the library, `info` and the token
untouched. -/
theorem setPin_rejects_short_first_pin {w : World} {newPin : Option String} {fates : SetPinFates}
    {info : Info} {pin : String} (hinfo : w.device.info = some info) (hfirst : info.clientPin = false)
    (hpin : newPin = some pin ∨
      newPin = none ∧ fates.newPin = .returns pin ∧ fates.confirmPin = .returns pin)
    (hshort : pin.length < 4) :
    (setPin w newPin fates).exit = .returned false ∧ (setPin w newPin fates).events = [] ∧
    (setPin w newPin fates).world.device.info = w.device.info ∧
    (setPin w newPin fates).world.device.pinToken = w.device.pinToken := by
  have hentry : newPinEntry newPin fates = .returns (some pin) := by
    rcases hpin with rfl | ⟨rfl, hnew, hconfirm⟩
    · rfl
    · simp [newPinEntry, hnew, hconfirm]
  rcases setPin_cases w newPin fates with hr | ⟨_, w₁, clientPin, _, he, hbranch⟩
  · rw [hr]
    exact ⟨rfl, rfl, rfl, rfl⟩
  have hsame : w₁.device.info = w.device.info ∧ w₁.device.pinToken = w.device.pinToken := by
    rcases ensureClientPin_world he with ⟨rfl, -⟩ | ⟨rfl, -⟩ <;> exact ⟨rfl, rfl⟩
  rcases hbranch with hr | ⟨info', hinfo', hr⟩
  · rw [hr]
    exact ⟨rfl, rfl, hsame⟩
  have hinfo₁ : info' = info := Option.some.inj (hinfo'.symm.trans (hsame.1.trans hinfo))
  subst hinfo₁
  have hrun : setPinFirst w₁ clientPin newPin fates = ⟨.returned false, w₁, []⟩ := by
    simp [setPinFirst, hentry, hshort]
  rw [hr, hfirst, if_neg Bool.false_ne_true, hrun]
  exact ⟨rfl, rfl, hsame⟩

/-- `set_pin` checks the length of a new PIN only on its first-time branch (line 191), and only
from below.  On the change branch a 3-character PIN typed at both prompts, which ask for
"min 4 chars", goes to `ClientPin.change_pin`, which raises on it; on the first-time branch a
64-character PIN goes to `ClientPin.set_pin`, which the authenticator rejects.  Either way
`set_pin` returns `False` after a call to the library. -/
theorem setPin_skips_length_checks :
    let info : Info := ⟨[("clientPin", true)], [2, 1]⟩
    let blank : Info := ⟨[("clientPin", false)], [2, 1]⟩
    let found := findDevice World.init ⟨.returns true, .returns info, .returns info⟩
    let change := (Step.setPin none ⟨.returns "1234", .returns "abc", .returns "abc",
      .raises .exception, .returns (), .returns info⟩).run found.world
    let found' := findDevice World.init ⟨.returns true, .returns blank, .returns blank⟩
    let long := String.mk (List.replicate 64 'a')
    let first := (Step.setPin none ⟨.returns "", .returns long, .returns long, .returns (),
      .raises .exception, .returns info⟩).run found'.world
    Reachable found.world found.events ∧ "abc".length = 3 ∧
      change.events = [.changePin ⟨0, some ⟨2⟩⟩ "1234" "abc" (.raises .exception)] ∧
      change.exit = .returned false ∧
    Reachable found'.world found'.events ∧ long.length = 64 ∧
      first.events = [.setPin ⟨0, some ⟨2⟩⟩ long (.raises .exception)] ∧
      first.exit = .returned false :=
  ⟨.found _ rfl, by decide, rfl, rfl, .found _ rfl, by decide, rfl, rfl⟩

end Commissioner
